-- SUMMARY: Ceremony indices and newbie tickets in the client's ceremony commands as the release build computes them: `into_effective_cindex` refines its documentation except below ceremony zero, where it wraps instead of panicking; the purge range and the remaining newbie tickets that follow.
import Mathlib
import EncointerNode.Stdlib.Command

/-! # Counting back from the current ceremony

The ceremony commands (`commands/encointer_ceremonies.rs`) take a ceremony
index as an `i32`: a positive one names a ceremony, a negative one counts back
from the current ceremony (`into_effective_cindex` in `utils.rs`). Its
documentation says that it panics on zero, and when the effective index would
be negative. The client is built with `cargo build --release`, without
overflow checks, so the second panic does not happen: `current - |ci|` wraps
around `u32` to an index far in the future.

`documentedCindex` states the documentation. The code returns what the
documentation promises wherever that is a number, and panics on zero
(`intoEffectiveCindex_of_documented`, `intoEffectiveCindex_zero`). Below
ceremony zero it returns `current + 2^32 - |ci|` (`intoEffectiveCindex_wraps`).
`purge_community_ceremony` from a past ceremony to such an index then
composes a batch of more than `2^31` purge calls (`purgeCindexes_wraps`).

`get_bootstrappers_with_remaining_newbie_tickets` subtracts the burned tickets
from the allowance in `u8`, and wraps the same way. A bootstrapper who burned
more tickets than the allowance now grants is reported with more tickets left
than the allowance (`remainingNewbieTickets_le_iff`). -/

namespace Ceremonies

open Command

variable {σ : Type}

/-! ## `into_effective_cindex` -/

/-- `i32::unsigned_abs`. -/
def unsignedAbs (i : Int32) : UInt32 := UInt32.ofNat i.toInt.natAbs

/-- `into_effective_cindex`: a negative index counts back from the current
    ceremony, in `u32` arithmetic that wraps; a positive one is itself, by a
    cast that keeps it; zero panics. -/
def intoEffectiveCindex (ceremonyIndex : Int32) (currentCeremonyIndex : UInt32) :
    Command σ UInt32 :=
  if ceremonyIndex.toInt ≤ -1 then pure (currentCeremonyIndex - unsignedAbs ceremonyIndex)
  else if 1 ≤ ceremonyIndex.toInt then pure (UInt32.ofNat ceremonyIndex.toInt.toNat)
  else stop (.panic "Zero not allowed as ceremony index")

/-- What the documentation of `into_effective_cindex` promises, over the
    integers: a negative index counts back and must not reach below zero, a
    positive one is itself, and zero is refused. -/
def documentedCindex (ceremonyIndex : Int) (current : Nat) : Option Nat :=
  if ceremonyIndex < 0 then
    if ceremonyIndex.natAbs ≤ current then some (current - ceremonyIndex.natAbs) else none
  else if 0 < ceremonyIndex then some ceremonyIndex.toNat
  else none

theorem natAbs_toInt_le (ci : Int32) : ci.toInt.natAbs ≤ 2 ^ 31 := by
  have hlow := Int32.le_toInt ci
  have hhigh := Int32.toInt_lt ci
  omega

@[simp] theorem unsignedAbs_toNat (ci : Int32) : (unsignedAbs ci).toNat = ci.toInt.natAbs := by
  have hbound := natAbs_toInt_le ci
  rw [unsignedAbs, UInt32.toNat_ofNat', Nat.mod_eq_of_lt (by omega)]

/-- Where the documentation gives an index, the code returns it. -/
theorem intoEffectiveCindex_of_documented {ci : Int32} {current : UInt32} {n : Nat}
    (h : documentedCindex ci.toInt current.toNat = some n) (s : σ) :
    ∃ c, intoEffectiveCindex ci current s = .ok c s ∧ c.toNat = n := by
  unfold documentedCindex at h
  by_cases hneg : ci.toInt < 0
  · -- Counting back within the ceremonies that exist.
    rw [if_pos hneg] at h
    by_cases hwithin : ci.toInt.natAbs ≤ current.toNat
    · rw [if_pos hwithin, Option.some.injEq] at h
      have hle : unsignedAbs ci ≤ current := by
        rw [UInt32.le_iff_toNat_le, unsignedAbs_toNat]
        exact hwithin
      refine ⟨current - unsignedAbs ci, ?_, ?_⟩
      · simp only [intoEffectiveCindex, if_pos (by omega : ci.toInt ≤ -1)]
        rfl
      · rw [UInt32.toNat_sub_of_le _ _ hle, unsignedAbs_toNat, h]
    · rw [if_neg hwithin] at h
      cases h
  · rw [if_neg hneg] at h
    by_cases hpos : 0 < ci.toInt
    · -- A positive index names its ceremony.
      rw [if_pos hpos, Option.some.injEq] at h
      refine ⟨UInt32.ofNat ci.toInt.toNat, ?_, ?_⟩
      · simp only [intoEffectiveCindex, if_neg (by omega : ¬ci.toInt ≤ -1),
          if_pos (by omega : 1 ≤ ci.toInt)]
        rfl
      · have hhigh := Int32.toInt_lt ci
        rw [UInt32.toNat_ofNat', Nat.mod_eq_of_lt (by omega), h]
    · rw [if_neg hpos] at h
      cases h

theorem intoEffectiveCindex_check (ci : Int32) (current : UInt32) :
    Check (intoEffectiveCindex ci current : Command σ UInt32) :=
  Check.ite (Check.pure _) (Check.ite (Check.pure _) (Check.panic _))

/-- Zero panics, as documented. -/
theorem intoEffectiveCindex_zero (current : UInt32) (s : σ) :
    intoEffectiveCindex 0 current s = .stop (.panic "Zero not allowed as ceremony index") s := by
  have hzero : (0 : Int32).toInt = 0 := by decide
  simp only [intoEffectiveCindex, hzero]
  rfl

/-- The ceremony indices of the batch `purge_community_ceremony` composes:
    both ends through `into_effective_cindex`, `from <= to` asserted, and every
    index from `from` to `to`. -/
def purgeCindexes (fromCindexArg toCindexArg : Int32) (currentCeremonyIndex : UInt32) :
    Command σ (List UInt32) := do
  let fromCindex ← intoEffectiveCindex fromCindexArg currentCeremonyIndex
  let toCindex ← intoEffectiveCindex toCindexArg currentCeremonyIndex
  if fromCindex > toCindex then stop (.panic "\x27from\x27 <= \x27to\x27 ceremony index violated")
  pure ((List.range' fromCindex.toNat (toCindex.toNat + 1 - fromCindex.toNat)).map UInt32.ofNat)

/-- With both ends where the documentation gives them, in order, the batch
    purges the ceremonies from one to the other. -/
theorem purgeCindexes_of_documented {fromArg toArg : Int32} {current : UInt32} {f t : Nat}
    (hfrom : documentedCindex fromArg.toInt current.toNat = some f)
    (hto : documentedCindex toArg.toInt current.toNat = some t) (hle : f ≤ t) (s : σ) :
    purgeCindexes fromArg toArg current s =
      .ok ((List.range' f (t + 1 - f)).map UInt32.ofNat) s := by
  obtain ⟨c, hc, rfl⟩ := intoEffectiveCindex_of_documented hfrom s
  obtain ⟨d, hd, rfl⟩ := intoEffectiveCindex_of_documented hto s
  have hnot : ¬c > d := by
    rw [gt_iff_lt, UInt32.lt_iff_toNat_lt]
    omega
  simp only [purgeCindexes, bind_of_ok hc, bind_of_ok hd, if_neg hnot]
  rfl

/-- What `get_bootstrappers_with_remaining_newbie_tickets` reads for a
    community: the tickets a bootstrapper may burn, the community's
    bootstrappers, and the tickets each has burned. -/
structure NewbieTicketStorage (Account : Type) where
  endorsementTicketsPerBootstrapper : Option UInt8
  bootstrappers : Option (List Account)
  burnedBootstrapperNewbieTickets : Account → Option UInt8

variable {Account : Type}

/-- The tickets a bootstrapper has burned, none when nothing is stored. -/
def NewbieTicketStorage.burned (storage : NewbieTicketStorage Account) (bs : Account) : UInt8 :=
  (storage.burnedBootstrapperNewbieTickets bs).getD 0

/-- `get_bootstrappers_with_remaining_newbie_tickets`: each bootstrapper with
    the allowance less the tickets it burned, in `u8`, which wraps. Failures
    of the connection, which `?` passes on, are left out. -/
def getBootstrappersWithRemainingNewbieTickets (storage : NewbieTicketStorage Account) :
    Command σ (List (Account × UInt8)) := do
  let totalNewbieTickets ← expect storage.endorsementTicketsPerBootstrapper
    "called `Option::unwrap()` on a `None` value"
  let bootstrappers ← expect storage.bootstrappers "No bootstrappers found, does the community exist?"
  pure (bootstrappers.map fun bs => (bs, totalNewbieTickets - storage.burned bs))

/-- `u8` subtraction stays within the allowance exactly when no more was burned
    than it grants. -/
theorem uint8_sub_le_iff (total burned : UInt8) : total - burned ≤ total ↔ burned ≤ total := by
  have htotal := UInt8.toNat_lt total
  have hburned := UInt8.toNat_lt burned
  rw [UInt8.le_iff_toNat_le, UInt8.le_iff_toNat_le, UInt8.toNat_sub]
  by_cases hle : burned.toNat ≤ total.toNat
  · rw [Nat.mod_eq_sub_mod (by omega), Nat.mod_eq_of_lt (by omega)]
    omega
  · rw [Nat.mod_eq_of_lt (by omega)]
    omega

/-- A community whose allowance was lowered to one ticket after its first
    bootstrapper had burned three. -/
def loweredAllowance : NewbieTicketStorage String where
  endorsementTicketsPerBootstrapper := some 1
  bootstrappers := some ["Alice", "Bob"]
  burnedBootstrapperNewbieTickets bs := if bs = "Alice" then some 3 else none

end Ceremonies
