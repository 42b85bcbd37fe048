-- SUMMARY: `list_reputables` of the client: the window of recent ceremonies it lists, the attendees and no-shows of each community ceremony from the paged keys of `ParticipantReputation`, the count of distinct reputables per community, and exactly when it returns or panics.
import Mathlib
import EncointerNode.Stdlib.Collections
import EncointerNode.Stdlib.Integers
import EncointerNode.Stdlib.Process

/-! # Listing reputables

`list_reputables` reports, for each community and each ceremony of a window
of recent ones, how many participants were verified as attending and how many
did not show, then the number of distinct accounts that attended at least once
in the window: the community's reputables. With `--verbose` it then prints one
CSV line per attendance.

The window is the `ReputationLifetime` ceremonies before the current one,
`current - lifetime .. current` with saturating subtraction; a failed read of
the lifetime counts as `5`. The attendances of a community ceremony are read
from the keys of `ParticipantReputation` under it, a thousand at most, in key
order: an account with a verified reputation attended, any other did not show
(`getAttendeesForCommunityCeremony_eq`).

The command prints its report when the chain has communities and the window is
not empty (`listReputables_eq_ok`); otherwise it panics, at `expect` or at the
`unwrap` of the window's first element, and these are the only ways it stops
early (`listReputables_panics_iff`).

Storage keys hold the account they are for in their last 32 bytes, where the
`Blake2_128Concat` hasher puts it; the model takes the entries of the map as
pairs of an account and its reputation, in key order. -/

namespace Ceremonies

open Command Process

/-- `Reputation`. -/
inductive Reputation where
  | unverified
  | unverifiedReputable
  | verifiedUnlinked
  | verifiedLinked (cindex : UInt32)
  deriving DecidableEq, Repr

/-- The reputations `get_attendees_for_community_ceremony` counts as attended. -/
def Reputation.verified : Reputation → Bool
  | .verifiedUnlinked | .verifiedLinked _ => true
  | .unverified | .unverifiedReputable => false

/-- The `max_keys` of a paged key query. -/
def maxKeys : Nat := 1000

variable {Account Cid Msg : Type}

/-- `get_attendees_for_community_ceremony`, over the entries of
    `ParticipantReputation` under the community ceremony in key order: the
    attendees and the no-shows among the first `max_keys` of them. -/
def getAttendeesForCommunityCeremony (entries : List (Account × Reputation)) :
    List Account × List Account :=
  (entries.take maxKeys).foldl
    (fun (lists : List Account × List Account) (entry : Account × Reputation) =>
      match entry.2 with
      | .verifiedUnlinked | .verifiedLinked _ => (lists.1 ++ [entry.1], lists.2)
      | .unverifiedReputable | .unverified => (lists.1, lists.2 ++ [entry.1]))
    ([], [])

/-- What `list_reputables` reads: `ReputationLifetime`, the current ceremony
    index, `CommunityIdentifiers`, and the entries of `ParticipantReputation`
    under each community ceremony, in key order. -/
structure ReputationStorage (Account Cid : Type) where
  reputationLifetime : Option UInt32
  ceremonyIndex : UInt32
  communityIdentifiers : Option (List Cid)
  participantReputation : Cid → UInt32 → List (Account × Reputation)

/-- How `list_reputables` prints: a community identifier by its `Debug` text,
    an account as SS58. -/
structure ReputablesDisplay (Account Cid : Type) where
  cidDebug : Cid → String
  toSs58check : Account → String

/-- What `list_reputables` keeps of a community while it goes through the
    window: the CSV lines so far, and for each attendee its attendances. -/
abbrev Tally (Account : Type) [DecidableEq Account] :=
  List String × AList fun _ : Account => Nat

section Model

variable [DecidableEq Account] (storage : ReputationStorage Account Cid)
  (display : ReputablesDisplay Account Cid)

/-- The lifetime `list_reputables` uses: `5` when the read fails. -/
def lifetimeOf : UInt32 := storage.reputationLifetime.getD 5

/-- The ceremonies `list_reputables` lists. -/
def reputablesWindow : List UInt32 :=
  exclusiveRange32 (storage.ceremonyIndex.saturatingSub (lifetimeOf storage)) storage.ceremonyIndex

/-- The header line. -/
def cyclesLine (first last : UInt32) : String :=
  "Listing the number of attested attendees for each community and ceremony for cycles [" ++
    toString first ++ ":" ++ toString last ++ "]"

/-- The line of one community ceremony. -/
def cycleLine (ceremonyIndex : UInt32) (attendees noshows : Nat) : String :=
  "Cycle ID " ++ toString ceremonyIndex ++ ": Total attested attendees: " ++ toString attendees ++
    " (noshows: " ++ toString noshows ++ ")"

/-- The CSV line of one attendance. -/
def reputableLine (cid : Cid) (ceremonyIndex : UInt32) (attendee : Account) : String :=
  display.cidDebug cid ++ "," ++ toString ceremonyIndex ++ "," ++ display.toSs58check attendee

/-- The last line of a community. -/
def reputablesLine (cid : Cid) (count : Nat) : String :=
  "Reputables in " ++ display.cidDebug cid ++ " (unique accounts with at least one attendance) " ++
    toString count

/-- One pass of the loop over attendees. -/
def recordAttendee (cid : Cid) (ceremonyIndex : UInt32) (tally : Tally Account) (attendee : Account) :
    Tally Account :=
  (tally.1 ++ [reputableLine display cid ceremonyIndex attendee], tally.2.incrCount attendee)

/-- One pass of the loop over the window. -/
def reportCycle (cid : Cid) (tally : Tally Account) (ceremonyIndex : UInt32) :
    Command (Process Msg) (Tally Account) := do
  let (attendees, noshows) :=
    getAttendeesForCommunityCeremony (storage.participantReputation cid ceremonyIndex)
  println (cycleLine ceremonyIndex attendees.length noshows.length)
  pure (attendees.foldl (recordAttendee display cid ceremonyIndex) tally)

/-- One pass of the loop over communities; `reputables` starts empty for each. -/
def reportCommunity (ceremonyIndices : List UInt32) (reputablesCsv : List String) (cid : Cid) :
    Command (Process Msg) (List String) := do
  println ("Community ID: " ++ display.cidDebug cid)
  let (reputablesCsv, reputables) ←
    ceremonyIndices.foldlM (reportCycle storage display cid) (reputablesCsv, ∅)
  println (reputablesLine display cid reputables.keys.length)
  pure reputablesCsv

/-- `list_reputables`. -/
def listReputables (isVerbose : Bool) : Command (Process Msg) Unit := do
  let lifetime := lifetimeOf storage
  let currentCeremonyIndex := storage.ceremonyIndex
  let firstCeremonyIndexOfInterest := currentCeremonyIndex.saturatingSub lifetime
  let ceremonyIndices := exclusiveRange32 firstCeremonyIndexOfInterest currentCeremonyIndex
  let communityIds ← expect storage.communityIdentifiers "no communities found"
  let first ← unwrap ceremonyIndices.head?
  let last ← unwrap ceremonyIndices.getLast?
  println (cyclesLine first last)
  let reputablesCsv ← communityIds.foldlM (reportCommunity storage display ceremonyIndices) []
  if isVerbose then reputablesCsv.forM println

end Model

/-! ## Attendees and no-shows -/

/-- The attendees of a community ceremony. -/
def attendeesAt (storage : ReputationStorage Account Cid) (cid : Cid) (ceremonyIndex : UInt32) :
    List Account :=
  (((storage.participantReputation cid ceremonyIndex).take maxKeys).filter (·.2.verified)).map (·.1)

/-- The no-shows of a community ceremony. -/
def noshowsAt (storage : ReputationStorage Account Cid) (cid : Cid) (ceremonyIndex : UInt32) :
    List Account :=
  (((storage.participantReputation cid ceremonyIndex).take maxKeys).filter
    (fun entry => !entry.2.verified)).map (·.1)

/-- The loop of `get_attendees_for_community_ceremony` pushes each entry's
    account onto one of its two lists by its reputation. -/
theorem foldl_partition (entries : List (Account × Reputation)) (lists : List Account × List Account) :
    entries.foldl
      (fun (lists : List Account × List Account) (entry : Account × Reputation) =>
        match entry.2 with
        | .verifiedUnlinked | .verifiedLinked _ => (lists.1 ++ [entry.1], lists.2)
        | .unverifiedReputable | .unverified => (lists.1, lists.2 ++ [entry.1])) lists =
      (lists.1 ++ (entries.filter (·.2.verified)).map (·.1),
        lists.2 ++ (entries.filter fun entry => !entry.2.verified).map (·.1)) := by
  induction entries generalizing lists with
  | nil => simp
  | cons entry entries ih =>
    rw [List.foldl_cons, ih]
    obtain ⟨account, rep⟩ := entry
    cases rep <;> simp [Reputation.verified]

theorem getAttendeesForCommunityCeremony_eq (storage : ReputationStorage Account Cid) (cid : Cid)
    (ceremonyIndex : UInt32) :
    getAttendeesForCommunityCeremony (storage.participantReputation cid ceremonyIndex) =
      (attendeesAt storage cid ceremonyIndex, noshowsAt storage cid ceremonyIndex) := by
  rw [getAttendeesForCommunityCeremony, foldl_partition]
  simp [attendeesAt, noshowsAt]

/-- Every key read is an attendance or a no-show: the counts of a cycle line
    add up to the keys read, a thousand at most. -/
theorem length_attendeesAt_add_noshowsAt (storage : ReputationStorage Account Cid) (cid : Cid)
    (ceremonyIndex : UInt32) :
    (attendeesAt storage cid ceremonyIndex).length + (noshowsAt storage cid ceremonyIndex).length =
      min (storage.participantReputation cid ceremonyIndex).length maxKeys := by
  simp only [attendeesAt, noshowsAt, List.length_map]
  rw [← List.length_eq_length_filter_add, List.length_take, Nat.min_comm]

/-! ## The window -/

section Window

variable (storage : ReputationStorage Account Cid)

/-- A lifetime of `0` is read as such; a failed read counts as `5`. -/
theorem lifetimeOf_eq_zero_iff : lifetimeOf storage = 0 ↔ storage.reputationLifetime = some 0 := by
  unfold lifetimeOf
  cases storage.reputationLifetime with
  | none => decide
  | some l => simp

/-- The window holds the ceremonies from `lifetime` before the current one, or
    from `0`, up to the one before the current. -/
theorem mem_reputablesWindow {c : UInt32} :
    c ∈ reputablesWindow storage ↔
      storage.ceremonyIndex.toNat - (lifetimeOf storage).toNat ≤ c.toNat ∧ c < storage.ceremonyIndex := by
  rw [reputablesWindow, mem_exclusiveRange32, UInt32.le_iff_toNat_le, UInt32.toNat_saturatingSub]

/-- The window is empty exactly when the lifetime or the current index is `0`. -/
theorem reputablesWindow_eq_nil_iff :
    reputablesWindow storage = [] ↔ lifetimeOf storage = 0 ∨ storage.ceremonyIndex = 0 := by
  rw [reputablesWindow, exclusiveRange32_eq_nil_iff, UInt32.le_iff_toNat_le,
    UInt32.toNat_saturatingSub, ← UInt32.toNat_inj, ← UInt32.toNat_inj, UInt32.toNat_zero]
  omega

/-- The window is not empty when neither the lifetime nor the current index is
    `0`. -/
theorem saturatingSub_lt_ceremonyIndex (hlifetime : storage.reputationLifetime ≠ some 0)
    (hcurrent : storage.ceremonyIndex ≠ 0) :
    storage.ceremonyIndex.saturatingSub (lifetimeOf storage) < storage.ceremonyIndex := by
  have hl : (lifetimeOf storage).toNat ≠ 0 := fun h =>
    hlifetime ((lifetimeOf_eq_zero_iff storage).1 (UInt32.toNat_inj.1 (h.trans UInt32.toNat_zero.symm)))
  have hc : storage.ceremonyIndex.toNat ≠ 0 := fun h =>
    hcurrent (UInt32.toNat_inj.1 (h.trans UInt32.toNat_zero.symm))
  rw [UInt32.lt_iff_toNat_lt, UInt32.toNat_saturatingSub]
  omega

end Window

/-! ## One community -/

section Community

variable [DecidableEq Account] (storage : ReputationStorage Account Cid)
  (display : ReputablesDisplay Account Cid)

/-- The CSV lines of the attendances of a community ceremony. -/
def attendanceLines (cid : Cid) (ceremonyIndex : UInt32) : List String :=
  (attendeesAt storage cid ceremonyIndex).map (reputableLine display cid ceremonyIndex)

/-- What `list_reputables` prints of a community: its identifier, a line for
    each ceremony of the window, and the number of distinct accounts that
    attended one of them. -/
def communityLines (cid : Cid) : List String :=
  ("Community ID: " ++ display.cidDebug cid) ::
    ((reputablesWindow storage).map fun c =>
      cycleLine c (attendeesAt storage cid c).length (noshowsAt storage cid c).length) ++
    [reputablesLine display cid ((reputablesWindow storage).flatMap (attendeesAt storage cid)).toFinset.card]

theorem foldl_recordAttendee (cid : Cid) (ceremonyIndex : UInt32) (attendees : List Account) :
    ∀ tally : Tally Account, attendees.foldl (recordAttendee display cid ceremonyIndex) tally =
      (tally.1 ++ attendees.map (reputableLine display cid ceremonyIndex),
        attendees.foldl AList.incrCount tally.2) := by
  induction attendees with
  | nil => simp
  | cons a attendees ih =>
    intro tally
    rw [List.foldl_cons, ih, List.foldl_cons]
    simp [recordAttendee]

/-- A ceremony's pass prints its line, and appends and counts its attendances. -/
theorem reportCycle_eq (cid : Cid) (tally : Tally Account) (ceremonyIndex : UInt32) (p : Process Msg) :
    reportCycle storage display cid tally ceremonyIndex p =
      .ok (tally.1 ++ attendanceLines storage display cid ceremonyIndex,
          (attendeesAt storage cid ceremonyIndex).foldl AList.incrCount tally.2)
        (emit [cycleLine ceremonyIndex (attendeesAt storage cid ceremonyIndex).length
          (noshowsAt storage cid ceremonyIndex).length] p) := by
  simp only [reportCycle, getAttendeesForCommunityCeremony_eq]
  rw [bind_of_ok (println_eq_emit _ p), foldl_recordAttendee]
  rfl

/-- The passes of the window, as one fold: all attendances appended, in order,
    and counted. -/
theorem foldl_cycles (cid : Cid) :
    ∀ (window : List UInt32) (csv : List String) (counts : AList fun _ : Account => Nat),
      window.foldl (fun (tally : Tally Account) c =>
          (tally.1 ++ attendanceLines storage display cid c,
            (attendeesAt storage cid c).foldl AList.incrCount tally.2)) (csv, counts) =
        (csv ++ window.flatMap (attendanceLines storage display cid),
          (window.flatMap (attendeesAt storage cid)).foldl AList.incrCount counts)
  | [], csv, counts => by simp
  | c :: window, csv, counts => by
    rw [List.foldl_cons, foldl_cycles cid window, List.flatMap_cons, List.flatMap_cons,
      List.foldl_append, List.append_assoc]

/-- A community's pass prints its lines, and appends its attendances to the CSV
    lines. -/
theorem reportCommunity_eq (csv : List String) (cid : Cid) (p : Process Msg) :
    reportCommunity storage display (reputablesWindow storage) csv cid p =
      .ok (csv ++ (reputablesWindow storage).flatMap (attendanceLines storage display cid))
        (emit (communityLines storage display cid) p) := by
  have hcycles := foldlM_eq_ok
    (fun tally c (_ : c ∈ reputablesWindow storage) q => reportCycle_eq storage display cid tally c q)
    (csv, ∅) (emit ["Community ID: " ++ display.cidDebug cid] p)
  rw [foldl_cycles, foldl_emit] at hcycles
  simp only [reportCommunity]
  rw [bind_of_ok (println_eq_emit _ p), bind_of_ok hcycles, length_keys_foldl_incrCount,
    bind_of_ok (println_eq_emit _ _)]
  simp only [communityLines, emit_emit, ← List.map_eq_flatMap, List.cons_append, List.nil_append]
  rfl

end Community

/-! ## What `list_reputables` prints, and when it panics -/

section Listing

variable [DecidableEq Account] (storage : ReputationStorage Account Cid)
  (display : ReputablesDisplay Account Cid)

/-- When the chain has communities and neither the lifetime nor the current
    index is `0`, `list_reputables` prints the bounds of the window, then for
    each community its lines, then with `--verbose` each attendance as a CSV
    line, by community and ceremony. -/
theorem listReputables_eq_ok {cids : List Cid} (hcids : storage.communityIdentifiers = some cids)
    (hlifetime : storage.reputationLifetime ≠ some 0) (hcurrent : storage.ceremonyIndex ≠ 0)
    (isVerbose : Bool) (p : Process Msg) :
    listReputables storage display isVerbose p = .ok ()
      (emit (cyclesLine (storage.ceremonyIndex.saturatingSub (lifetimeOf storage))
          (storage.ceremonyIndex - 1) ::
        cids.flatMap (communityLines storage display) ++
        (if isVerbose then
          cids.flatMap fun cid => (reputablesWindow storage).flatMap (attendanceLines storage display cid)
        else [])) p) := by
  have hlt := saturatingSub_lt_ceremonyIndex storage hlifetime hcurrent
  have hcommunities := foldlM_eq_ok
    (fun csv cid (_ : cid ∈ cids) q => reportCommunity_eq storage display csv cid q) []
    (emit [cyclesLine (storage.ceremonyIndex.saturatingSub (lifetimeOf storage))
      (storage.ceremonyIndex - 1)] p)
  rw [foldl_extend, foldl_emit, List.nil_append] at hcommunities
  simp only [listReputables, hcids, unwrap, head?_exclusiveRange32 hlt,
    getLast?_exclusiveRange32 hlt, expect_some, pure_bind]
  rw [bind_of_ok (println_eq_emit _ p), ← reputablesWindow, bind_of_ok hcommunities, emit_emit]
  cases isVerbose with
  | false =>
    simp only [Bool.false_eq_true, if_false, List.append_nil, List.singleton_append]
    rfl
  | true =>
    -- `--verbose` prints the CSV lines as they are.
    have hprint := forM_println (fun line : String => line)
      (cids.flatMap fun cid => (reputablesWindow storage).flatMap (attendanceLines storage display cid))
      (emit ([cyclesLine (storage.ceremonyIndex.saturatingSub (lifetimeOf storage))
        (storage.ceremonyIndex - 1)] ++ cids.flatMap (communityLines storage display)) p)
    rw [List.map_id', emit_emit] at hprint
    simpa using hprint

/-- `list_reputables` panics exactly when the chain has no communities, or the
    lifetime or the current index is `0`: it stops early in no other way. -/
theorem listReputables_panics_iff (isVerbose : Bool) (p : Process Msg) :
    (∃ msg q, listReputables storage display isVerbose p = .stop (.panic msg) q) ↔
      storage.communityIdentifiers = none ∨ storage.reputationLifetime = some 0 ∨
        storage.ceremonyIndex = 0 := by
  constructor
  · rintro ⟨msg, q, hstop⟩
    by_contra hok
    simp only [not_or] at hok
    obtain ⟨hcids, hlifetime, hcurrent⟩ := hok
    obtain ⟨cids, hsome⟩ := Option.ne_none_iff_exists'.1 hcids
    rw [listReputables_eq_ok storage display hsome hlifetime hcurrent] at hstop
    cases hstop
  · intro h
    cases hcids : storage.communityIdentifiers with
    | none => exact ⟨_, p, by simp only [listReputables, hcids, expect]; rfl⟩
    | some cids =>
      -- With communities, the window is empty, and `unwrap` of its first
      -- element panics.
      have hnil : exclusiveRange32 (storage.ceremonyIndex.saturatingSub (lifetimeOf storage))
          storage.ceremonyIndex = [] := by
        rw [← reputablesWindow, reputablesWindow_eq_nil_iff, lifetimeOf_eq_zero_iff]
        rcases h with h | h | h
        · rw [hcids] at h
          cases h
        · exact Or.inl h
        · exact Or.inr h
      refine ⟨"called \x60Option::unwrap()\x60 on a \x60None\x60 value", p, ?_⟩
      simp only [listReputables, hcids, pure_bind, unwrap, hnil, List.head?_nil, expect]
      rfl

end Listing

/-! ## Two ceremonies of one community

Before the current third ceremony, with a lifetime of two, `Alice` attended
both ceremonies of the window, `Bob` the first, and `Charlie` neither: the
community has two reputables. -/

/-- The storage of the example. -/
def twoCycleStorage : ReputationStorage String String where
  reputationLifetime := some 2
  ceremonyIndex := 3
  communityIdentifiers := some ["sqm1v79dF6b"]
  participantReputation _ c :=
    if c = 1 then [("Alice", .verifiedUnlinked), ("Bob", .verifiedLinked 2), ("Charlie", .unverified)]
    else if c = 2 then [("Alice", .verifiedUnlinked), ("Charlie", .unverifiedReputable)]
    else []

/-- Texts as they are. -/
def plainReputablesDisplay : ReputablesDisplay String String := ⟨id, id⟩

theorem listReputables_eq_ok_twoCycles :
    twoCycleStorage.communityIdentifiers = some ["sqm1v79dF6b"] ∧
      twoCycleStorage.reputationLifetime ≠ some 0 ∧ twoCycleStorage.ceremonyIndex ≠ 0 ∧
      listReputables twoCycleStorage plainReputablesDisplay true (⟨fun _ => none, [], []⟩ : Process Unit) =
        .ok () (emit (cyclesLine (twoCycleStorage.ceremonyIndex.saturatingSub (lifetimeOf twoCycleStorage))
            (twoCycleStorage.ceremonyIndex - 1) ::
          ["sqm1v79dF6b"].flatMap (communityLines twoCycleStorage plainReputablesDisplay) ++
          (if true then
            ["sqm1v79dF6b"].flatMap fun cid =>
              (reputablesWindow twoCycleStorage).flatMap (attendanceLines twoCycleStorage plainReputablesDisplay cid)
          else [])) ⟨fun _ => none, [], []⟩) :=
  ⟨rfl, by decide, by decide,
    listReputables_eq_ok twoCycleStorage plainReputablesDisplay rfl (by decide) (by decide) true
      ⟨fun _ => none, [], []⟩⟩

/-- The community's lines: both cycles, and two reputables. -/
example : communityLines twoCycleStorage plainReputablesDisplay "sqm1v79dF6b" =
    ["Community ID: sqm1v79dF6b", "Cycle ID 1: Total attested attendees: 2 (noshows: 1)",
      "Cycle ID 2: Total attested attendees: 1 (noshows: 1)",
      "Reputables in sqm1v79dF6b (unique accounts with at least one attendance) 2"] := by
  decide

end Ceremonies
