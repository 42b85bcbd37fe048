-- SUMMARY: The electorate `list_proposals` shows for a proposal: `get_relevant_electorate` over `get_cycle_duration`, the ceremonies whose reputation counts, and exactly when it returns or panics.
import Mathlib
import EncointerNode.Stdlib.Collections
import EncointerNode.Stdlib.Integers
import EncointerNode.Communities.NewCommunity

/-! # The electorate of a proposal

`list_proposals` shows, for each proposal, the size of its electorate, which
`get_relevant_electorate` computes as the chain would if the proposal started
now: the sum of the reputation counts, in the proposal's scope (one community
or all of them), of the ceremonies whose reputation can vote on it. Those are
the ceremonies from `start - reputation_lifetime + cycles` to `start - 2`,
where `start` is the ceremony index the proposal started at and `cycles` the
proposal's lifetime in ceremony cycles, rounded up: reputation from a
ceremony lasts `reputation_lifetime` cycles, and must last until the proposal
ends.

In `u32` the bounds are computed with saturating arithmetic, which here gives
the same ceremonies as the natural numbers do (`getRelevantElectorate_eq_ok`).
The command panics when one of its three reads fails, when the cycle takes no
time (`div_ceil` by zero) and when the lifetime spans `2^32` cycles or more,
and in no other case (`getRelevantElectorate_panics_iff`). A failed read of a
ceremony's count counts as `0`. -/

namespace Democracy

open Command Communities

/-- `ProposalAccessPolicy`: who may vote on a proposal. -/
inductive ProposalAccessPolicy (Cid : Type) where
  | global
  | community (cid : Cid)
  deriving DecidableEq, Repr

/-- `ReputationCountType`, a `u128`. -/
abbrev ReputationCountType := BitVec 128

/-- What `get_relevant_electorate` reads: `ReputationLifetime`,
    `PhaseDurations`, the constant `ProposalLifetime` in milliseconds, and
    `ReputationCount` and `GlobalReputationCount`. A read that fails is
    `none`. -/
structure ElectorateStorage (Cid : Type) where
  reputationLifetime : Option UInt32
  phaseDurations : CeremonyPhaseType → Option UInt64
  proposalLifetime : Option UInt64
  reputationCount : Cid → UInt32 → Option ReputationCountType
  globalReputationCount : UInt32 → Option ReputationCountType

variable {Cid σ : Type} (storage : ElectorateStorage Cid)

/-- `get_cycle_duration`: the durations of the three phases, added in `u64`. -/
def getCycleDuration : Option UInt64 := do
  let registering ← storage.phaseDurations .registering
  let assigning ← storage.phaseDurations .assigning
  let attesting ← storage.phaseDurations .attesting
  pure (registering + assigning + attesting)

/-- What `get_relevant_electorate` adds for a ceremony, `0` when the read
    fails. -/
def reputationCountIn (scope : ProposalAccessPolicy Cid) (c : UInt32) : ReputationCountType :=
  match scope with
  | .community cid => (storage.reputationCount cid c).getD 0
  | .global => (storage.globalReputationCount c).getD 0

/-- `get_relevant_electorate`. -/
def getRelevantElectorate (proposalStartCindex : UInt32) (scope : ProposalAccessPolicy Cid) :
    Command σ ReputationCountType :=
  match storage.reputationLifetime, getCycleDuration storage, storage.proposalLifetime with
  | some reputationLifetime, some cycleDuration, some proposalLifetime => do
    let proposalLifetimeCycles ←
      unwrapOk (UInt32.tryFrom (← divCeil proposalLifetime.toNat cycleDuration.toNat))
    let relevantCindexes := inclusiveRange32
      ((proposalStartCindex.saturatingSub reputationLifetime).saturatingAdd proposalLifetimeCycles)
      (proposalStartCindex.saturatingSub 2)
    pure (relevantCindexes.foldl (fun count c => count + reputationCountIn storage scope c) 0)
  | _, _, _ => stop (.panic "couldn't fetch some values")

/-- The proposal's lifetime in cycles, rounded up. -/
def lifetimeCycles (proposalLifetime cycleDuration : UInt64) : Nat :=
  (proposalLifetime.toNat + cycleDuration.toNat - 1) / cycleDuration.toNat

/-- When a cycle takes time, `div_ceil` gives the lifetime in cycles. -/
theorem divCeil_lifetimeCycles {proposalLifetime cycleDuration : UInt64} (hpos : cycleDuration ≠ 0)
    (s : σ) :
    (divCeil proposalLifetime.toNat cycleDuration.toNat : Command σ Nat) s =
      .ok (lifetimeCycles proposalLifetime cycleDuration) s := by
  have hpos' : 0 < cycleDuration.toNat := by
    rw [Nat.pos_iff_ne_zero, Ne, ← UInt64.toNat_zero, UInt64.toNat_inj]
    exact hpos
  exact divCeil_of_pos hpos' s

/-- The ceremonies below `2^32 - 1` from a bound capped there are those from the
    bound itself. -/
theorem Icc_min_cap (lo hi : Nat) (hhi : hi < 2 ^ 32 - 1) :
    Finset.Icc (min lo (2 ^ 32 - 1)) hi = Finset.Icc lo hi := by
  by_cases hlo : lo ≤ 2 ^ 32 - 1
  · rw [Nat.min_eq_left hlo]
  · rw [Finset.Icc_eq_empty (by omega), Finset.Icc_eq_empty (by omega)]

/-- When the reads succeed, the cycle takes time and the proposal's lifetime
    spans fewer than `2^32` cycles, the electorate is the sum in `u128` of the
    counts in the scope of the ceremonies from `start - lifetime + cycles` to
    `start - 2`. -/
theorem getRelevantElectorate_eq_ok {lifetime : UInt32} {cycleDuration proposalLifetime : UInt64}
    (hlifetime : storage.reputationLifetime = some lifetime)
    (hcycle : getCycleDuration storage = some cycleDuration)
    (hproposal : storage.proposalLifetime = some proposalLifetime) (hpos : cycleDuration ≠ 0)
    (hfits : lifetimeCycles proposalLifetime cycleDuration < 2 ^ 32) (start : UInt32)
    (scope : ProposalAccessPolicy Cid) (s : σ) :
    getRelevantElectorate storage start scope s = .ok (BitVec.ofNat 128
      (∑ c ∈ Finset.Icc (start.toNat - lifetime.toNat + lifetimeCycles proposalLifetime cycleDuration)
          (start.toNat - 2),
        (reputationCountIn storage scope (UInt32.ofNat c)).toNat)) s := by
  simp only [getRelevantElectorate, hlifetime, hcycle, hproposal]
  rw [bind_of_ok (divCeil_lifetimeCycles hpos s), UInt32.tryFrom, if_pos hfits, unwrapOk_ok,
    Command.pure_bind]
  refine congrArg (fun e => Outcome.ok e s) (BitVec.eq_of_toNat_eq ?_)
  -- The sum over the `u32` range is the sum over the natural numbers, whose
  -- lower bound is capped at `u32::MAX` only where the range is empty anyway.
  have hzero : (0 : ReputationCountType).toNat = 0 := rfl
  rw [← List.foldl_map, BitVec.toNat_foldl_add, List.map_map, BitVec.toNat_ofNat, hzero, Nat.zero_add, Function.comp_def, sum_map_inclusiveRange32, UInt32.toNat_saturatingAdd,
    UInt32.toNat_saturatingSub, UInt32.toNat_saturatingSub, UInt32.toNat_ofNat',
    Nat.mod_eq_of_lt hfits]
  have htwo : (2 : UInt32).toNat = 2 := rfl
  rw [htwo, Icc_min_cap _ _ (by have := start.toNat_lt; omega)]

/-- `get_relevant_electorate` panics exactly when the conditions above fail:
    a read fails, the cycle takes no time, or the lifetime spans `2^32` cycles
    or more. -/
theorem getRelevantElectorate_panics_iff (start : UInt32) (scope : ProposalAccessPolicy Cid) (s : σ) :
    (∃ msg s', getRelevantElectorate storage start scope s = .stop (.panic msg) s') ↔
      ¬∃ lifetime cycleDuration proposalLifetime, storage.reputationLifetime = some lifetime ∧
        getCycleDuration storage = some cycleDuration ∧ storage.proposalLifetime = some proposalLifetime ∧
        cycleDuration ≠ 0 ∧ lifetimeCycles proposalLifetime cycleDuration < 2 ^ 32 := by
  constructor
  · rintro ⟨msg, s', hstop⟩ ⟨lifetime, cycleDuration, proposalLifetime, hl, hc, hp, hpos, hfits⟩
    rw [getRelevantElectorate_eq_ok storage hl hc hp hpos hfits] at hstop
    cases hstop
  · intro h
    cases hl : storage.reputationLifetime with
    | none => exact ⟨_, s, by simp only [getRelevantElectorate, hl]; rfl⟩
    | some lifetime =>
      cases hc : getCycleDuration storage with
      | none => exact ⟨_, s, by simp only [getRelevantElectorate, hl, hc]; rfl⟩
      | some cycleDuration =>
        cases hp : storage.proposalLifetime with
        | none => exact ⟨_, s, by simp only [getRelevantElectorate, hl, hc, hp]; rfl⟩
        | some proposalLifetime =>
          simp only [getRelevantElectorate, hl, hc, hp]
          by_cases hpos : cycleDuration = 0
          · -- `div_ceil` divides by zero.
            have hzero : cycleDuration.toNat = 0 := by rw [hpos]; rfl
            rw [hzero]
            exact ⟨_, s, bind_of_stop (divCeil_zero _ s)⟩
          · -- Otherwise the cycles do not fit in `u32`, and `unwrap` panics.
            have hbig : ¬lifetimeCycles proposalLifetime cycleDuration < 2 ^ 32 := fun hfits =>
              h ⟨lifetime, cycleDuration, proposalLifetime, hl, hc, hp, hpos, hfits⟩
            rw [bind_of_ok (divCeil_lifetimeCycles hpos s), UInt32.tryFrom, if_neg hbig]
            exact ⟨_, s, rfl⟩

/-! ## A proposal of one community

Cycles of three phases of ten milliseconds, a proposal lifetime of sixty (two
cycles) and a reputation lifetime of five: a proposal started at ceremony 10
counts the reputation of ceremonies 7 and 8. -/

/-- The storage of the example: three reputables at ceremony 7, four at 8. -/
def twoCycleProposalStorage : ElectorateStorage String where
  reputationLifetime := some 5
  phaseDurations _ := some 10
  proposalLifetime := some 60
  reputationCount _ c := if c = 7 then some 3 else if c = 8 then some 4 else none
  globalReputationCount _ := none

theorem getRelevantElectorate_eq_ok_twoCycles :
    twoCycleProposalStorage.reputationLifetime = some 5 ∧
      getCycleDuration twoCycleProposalStorage = some 30 ∧
      twoCycleProposalStorage.proposalLifetime = some 60 ∧ (30 : UInt64) ≠ 0 ∧
      lifetimeCycles 60 30 < 2 ^ 32 ∧
      getRelevantElectorate twoCycleProposalStorage 10 (.community "sqm1v79dF6b") () =
        .ok (BitVec.ofNat 128 (∑ c ∈ Finset.Icc ((10 : UInt32).toNat - (5 : UInt32).toNat + lifetimeCycles 60 30)
            ((10 : UInt32).toNat - 2),
          (reputationCountIn twoCycleProposalStorage (.community "sqm1v79dF6b") (UInt32.ofNat c)).toNat)) () :=
  ⟨rfl, rfl, rfl, by decide, by decide,
    getRelevantElectorate_eq_ok twoCycleProposalStorage rfl rfl rfl (by decide) (by decide) 10
      (.community "sqm1v79dF6b") ()⟩

/-- The electorate of the example is seven. -/
example : getRelevantElectorate twoCycleProposalStorage 10 (.community "sqm1v79dF6b") () = .ok 7 () := by
  rfl

end Democracy
