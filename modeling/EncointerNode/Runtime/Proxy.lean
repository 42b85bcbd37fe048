-- SUMMARY: The runtime's proxy types, its call filter and its superset test, and the proof that the test is sound and exactly inclusion of admitted calls.
import EncointerNode.Stdlib.InstanceFilter

/-! # Proxy types of the runtime

`runtime/src/lib.rs` declares three proxy types and implements
`InstanceFilter<RuntimeCall>` for them: `filter` says which calls a proxy of a
type may dispatch, and `is_superset` is the test `pallet_proxy` applies before
a proxy of one type may add, or act through, a proxy of another.

The outer call enum is built by `construct_runtime!` with one variant per
pallet that has a `Call`. The filter looks inside `EncointerBazaar` calls only,
and there only at the variant, so the calls of every other pallet and the
arguments of the bazaar calls are left abstract: `Call` and `Args`. -/

namespace Runtime

/-- The kinds of proxying allowed (`enum ProxyType`). -/
inductive ProxyType where
  | any
  | nonTransfer
  | bazaarEdit
  deriving DecidableEq, Repr

/-- The calls of `pallet_encointer_bazaar`, as `weights/pallet_encointer_bazaar.rs`
    lists them. -/
inductive EncointerBazaarCall (Args : Type) where
  | createBusiness (args : Args)
  | updateBusiness (args : Args)
  | deleteBusiness (args : Args)
  | createOffering (args : Args)
  | updateOffering (args : Args)
  | deleteOffering (args : Args)

/-- `RuntimeCall`: one variant for each pallet of `construct_runtime!` that
    declares `Call`, in the order of the macro. -/
inductive RuntimeCall (Args Call : Type) where
  | system (call : Call)
  | timestamp (call : Call)
  | sudo (call : Call)
  | balances (call : Call)
  | grandpa (call : Call)
  | utility (call : Call)
  | proxy (call : Call)
  | scheduler (call : Call)
  | treasury (call : Call)
  | encointerScheduler (call : Call)
  | encointerCeremonies (call : Call)
  | encointerCommunities (call : Call)
  | encointerBalances (call : Call)
  | encointerBazaar (call : EncointerBazaarCall Args)
  | encointerReputationCommitments (call : Call)
  | encointerFaucet (call : Call)
  | encointerDemocracy (call : Call)
  | encointerTreasuries (call : Call)
  | encointerOfflinePayment (call : Call)
  | encointerReputationRings (call : Call)

variable {Args Call : Type}

namespace ProxyType

/-- `InstanceFilter::filter`: `Any` passes everything, `NonTransfer` every
    bazaar call, `BazaarEdit` the three offering calls of the bazaar. -/
def filter : ProxyType → RuntimeCall Args Call → Bool
  | .any, _ => true
  | .nonTransfer, c =>
    match c with
    | .encointerBazaar _ => true
    | _ => false
  | .bazaarEdit, c =>
    match c with
    | .encointerBazaar (.createOffering _) => true
    | .encointerBazaar (.updateOffering _) => true
    | .encointerBazaar (.deleteOffering _) => true
    | _ => false

/-- `InstanceFilter::is_superset`, with the arms in the order of the source:
    the guard `x == y` first, then the two wildcard arms for `Any`, then
    `NonTransfer` over anything left, and `false` otherwise. -/
def isSuperset (x o : ProxyType) : Bool :=
  if x == o then true
  else
    match x, o with
    | .any, _ => true
    | _, .any => false
    | .nonTransfer, _ => true
    | _, _ => false

@[simp] theorem filter_any (c : RuntimeCall Args Call) : any.filter c = true := rfl

@[simp] theorem filter_nonTransfer (c : RuntimeCall Args Call) :
    nonTransfer.filter c = true ↔ ∃ b, c = .encointerBazaar b := by
  cases c <;> simp [filter]

/-- Every call a `BazaarEdit` proxy may dispatch is a bazaar call. -/
theorem filter_bazaarEdit_bazaar {c : RuntimeCall Args Call} (h : bazaarEdit.filter c = true) :
    ∃ b, c = .encointerBazaar b := by
  cases c with
  | encointerBazaar b => exact ⟨b, rfl⟩
  | _ => simp [filter] at h

/-- The superset test is the order `BazaarEdit ≤ NonTransfer ≤ Any`. -/
def rank : ProxyType → Nat
  | .bazaarEdit => 0
  | .nonTransfer => 1
  | .any => 2

theorem isSuperset_iff_rank_le (x y : ProxyType) : x.isSuperset y = true ↔ y.rank ≤ x.rank := by
  cases x <;> cases y <;> decide

end ProxyType

open ProxyType InstanceFilter

/-- The superset test is sound for the filter: whatever a proxy of type `y` may
    dispatch, a proxy of any superset type `x` may dispatch too. -/
theorem isSuperset_sound : Sound (@filter Args Call) isSuperset := by
  intro x y c hxy hy
  cases x with
  | any => rfl
  | nonTransfer =>
    -- `NonTransfer` is a superset of itself and of `BazaarEdit`, and both only
    -- pass bazaar calls.
    cases y with
    | any => simp [isSuperset] at hxy
    | nonTransfer => exact hy
    | bazaarEdit => exact filter_nonTransfer c |>.2 (filter_bazaarEdit_bazaar hy)
  | bazaarEdit =>
    cases y with
    | bazaarEdit => exact hy
    | _ => simp [isSuperset] at hxy

theorem proxy_isSuperset_sound_refl_trans :
    (∀ (x y : ProxyType) (c : RuntimeCall Args Call),
        x.isSuperset y = true → y.filter c = true → x.filter c = true) ∧
      (∀ x : ProxyType, x.isSuperset x = true) ∧
      (∀ x y z : ProxyType,
        x.isSuperset y = true → y.isSuperset z = true → x.isSuperset z = true) := by
  refine ⟨isSuperset_sound, fun x => ?_, fun x y z hxy hyz => ?_⟩
  · simp [isSuperset]
  · rw [isSuperset_iff_rank_le] at hxy hyz ⊢
    omega

/-- The test is also complete: where `x` is not a superset of `y`, some call
    passes `y` and not `x`. Telling the types apart takes a call of a pallet
    other than the bazaar and a bazaar call that edits no offering, so `Args`
    and `Call` must have a value. -/
theorem isSuperset_complete [Inhabited Args] [Inhabited Call] :
    Complete (@filter Args Call) isSuperset := by
  intro x y hsub
  -- The pairs the test rejects are `(NonTransfer, Any)`, `(BazaarEdit, Any)` and
  -- `(BazaarEdit, NonTransfer)`; a system call and a business call separate them.
  have hsys : (RuntimeCall.system default : RuntimeCall Args Call) ∈ admitted filter any := rfl
  have hbiz : (RuntimeCall.encointerBazaar (.createBusiness default) : RuntimeCall Args Call) ∈
      admitted filter nonTransfer := rfl
  cases x <;> cases y
  all_goals first
    | rfl
    | exact absurd (hsub hsys) (by simp [filter])
    | exact absurd (hsub hbiz) (by simp [filter])

/-- `is_superset` is exactly inclusion of the calls the two types admit. -/
theorem isSuperset_iff_admitted_subset [Inhabited Args] [Inhabited Call] (x y : ProxyType) :
    x.isSuperset y = true ↔ admitted (@filter Args Call) y ⊆ admitted filter x :=
  isSuperset_iff_of_sound_of_complete isSuperset_sound isSuperset_complete x y

/-- No escalation through proxies of proxies: along any chain of proxy types,
    each added by a proxy of the type before it (which `pallet_proxy` allows only
    when `is_superset` holds), the last type dispatches only calls that the first
    may dispatch. -/
theorem proxy_chain_no_escalation {x : ProxyType} {l : List ProxyType}
    (hchain : (x :: l).IsChain (fun a b => a.isSuperset b = true))
    {c : RuntimeCall Args Call}
    (hc : ((x :: l).getLast (List.cons_ne_nil x l)).filter c = true) :
    x.filter c = true :=
  isSuperset_sound.admitted_last_subset hchain hc

/-- A `NonTransfer` proxy adds a `BazaarEdit` proxy; what the latter dispatches,
    an offering of the bazaar, the former may dispatch too. -/
theorem proxy_chain_no_escalation_offering :
    [ProxyType.nonTransfer, .bazaarEdit].IsChain (fun a b => a.isSuperset b = true) ∧
      ProxyType.nonTransfer.filter
        (RuntimeCall.encointerBazaar (.createOffering ()) : RuntimeCall Unit Unit) = true :=
  ⟨by decide, @proxy_chain_no_escalation Unit Unit .nonTransfer [.bazaarEdit] (by decide)
    (.encointerBazaar (.createOffering ())) rfl⟩

end Runtime
