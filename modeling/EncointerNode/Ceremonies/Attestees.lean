-- SUMMARY: `list_attestees`: the attestations of a community ceremony grouped by meetup, with each meetup's count votes and size as CSV lines; when it returns, what it prints, and that neither the sort nor the maps lose or reorder an attestation.
import Mathlib
import EncointerNode.Stdlib.Collections
import EncointerNode.Stdlib.Process
import EncointerNode.Client.Identifiers
import EncointerNode.Ceremonies.Stats
import EncointerNode.Ceremonies.CeremonyIndex

/-! # Listing the attestees of a ceremony

`list_attestees` reads, at one community ceremony, who attested and how many
participants each attestor counted at its meetup, and prints them grouped by
meetup, ending with CSV lines that the community's statistics scripts read.

It first walks the four registries, from index `1` to each group's count,
and records every registrant that has an attestation index in a `HashMap`
from that index to the registrant. It then takes the attestation indices
`1..=n`, `n` the attestation count, and for each the attestor the map gives
(a missing index panics), the attestor's meetup from `get_meetup_index`, the
accounts it attested and its count vote. It sorts these attestation states by
meetup (a stable sort), prints them, reads the community ceremony statistics
for the size of each meetup, and prints, for each meetup in increasing order,
a CSV line with the meetup's size and the votes cast there; a last CSV line
sums the sizes.

What it prints, when it returns, is the following (`listAttesteesAt_eq_ok`):
one CSV line for each meetup of the statistics, in the order of their indices,
with the meetup's number of registrations and the votes of the attestors that
`get_meetup_index` places there, in the order of their attestation indices:
the stable sort reorders no votes within a meetup, and the `HashMap` of sizes
loses no meetup, since their indices are distinct. The attestor of an index
is the last registrant holding it (`attestorMap_lookup`). It returns exactly
when every registry slot up to its count is filled, every attestation index
has an attestor with a meetup and attestees, and the statistics return; it
panics otherwise (`listAttesteesAt_panics`).

The `f64` means of the votes, their `{:.3}` text, the `Debug` text of an
attestation state and the `Display` of the sum of the means are parameters,
`AttesteesDisplay`. That sum is taken in the order of the map's entries,
where Rust takes the hash table's. -/

namespace Ceremonies

open Command Process Client

/-- `AttestationState`, without the community ceremony that all of them share. -/
structure AttestationState (Account : Type) where
  meetupIndex : UInt64
  vote : UInt32
  attestationIndex : UInt64
  attestor : Account
  attestees : List Account

/-- What `list_attestees` reads beyond `CeremonyStorage`, at the same community
    ceremony: `AttestationCount`, the counts `BootstrapperCount` to
    `NewbieCount` by group, `AttestationIndex`, `AttestationRegistry` and
    `MeetupParticipantCountVote`. -/
structure AttestationStorage (Account : Type) where
  attestationCount : Option UInt64
  participantCount : RegistrationType → Option UInt64
  attestationIndex : Account → Option UInt64
  attestationRegistry : UInt64 → Option (List Account)
  participantCountVote : Account → Option UInt32

/-- The texts of `list_attestees` that rest on `f64` and on derived `Debug`:
    an attestation state as `{:?}` shows it, the mean of a meetup's votes from
    their `u32` sum and their number (`0` for none, where the division gives
    NaN), `{:.3}` of a mean, and the `Display` of the sum of means, summed in
    the order given. -/
structure AttesteesDisplay (Account F : Type) where
  debugState : AttestationState Account → String
  meanVote : UInt32 → Nat → F
  fixed3 : F → String
  displaySum : List F → String

/-- The mean of a meetup's votes. -/
def AttesteesDisplay.meanOf {Account F : Type} (display : AttesteesDisplay Account F)
    (votes : List UInt32) : F :=
  display.meanVote votes.sum votes.length

/-- The registry `list_attestees` names when it reads a group. -/
def registryName : RegistrationType → String
  | .bootstrapper => "BootstrapperRegistry"
  | .reputable => "ReputableRegistry"
  | .endorsee => "EndorseeRegistry"
  | .newbie => "NewbieRegistry"

/-- `{:?}` of a text without quotes, backslashes or control characters, as a
    list of numbers joined by `;` is. -/
def debugString (s : String) : String := "\"" ++ s ++ "\""

/-- The map from attestation indices to attestors. -/
abbrev AttestorMap (Account : Type) := AList fun _ : UInt64 => Account

/-- The map from meetup indices to values. -/
abbrev MeetupMap (ν : Type) := AList fun _ : UInt64 => ν

variable {Account Params Location F Msg : Type}

section Reads

variable (att : AttestationStorage Account)

/-- `get_attestee_count`: a missing count reads as `0`. -/
def getAttesteeCount : UInt64 := att.attestationCount.getD 0

/-- `get_attestees`. -/
def getAttestees (w : UInt64) : Except String (List Account) :=
  match att.attestationRegistry w with
  | some l => .ok l
  | none => .error "Attestees don't exist"

/-- `get_meetup_participant_count_vote`. -/
def getMeetupParticipantCountVote (a : Account) : Except String UInt32 :=
  match att.participantCountVote a with
  | some v => .ok v
  | none => .error "MeetupParticipantCountVote don't exist"

/-- The count vote `list_attestees` takes: `0` where there is none. -/
def countVote (a : Account) : UInt32 :=
  match getMeetupParticipantCountVote att a with
  | .ok v => v
  | .error _ => 0

/-- The body of the inner loop's `match`: a registrant is recorded under its
    attestation index, if it has one; an index recorded before is replaced. -/
def recordAttestor (windex : AttestorMap Account) (a : Account) : AttestorMap Account :=
  windex.insertKeyed att.attestationIndex a

end Reads

section Model

variable [ToString Account] (fns : AssignmentFns Params) (sched : MeetupSchedule Location)
  (st : CeremonyStorage Account Params) (att : AttestationStorage Account)
  (display : AttesteesDisplay Account F)

/-- A pass of the inner loop of `list_attestees`: the registrant at index `p`
    of group `t`, which must be there, recorded. -/
def recordSlot (t : RegistrationType) (windex : AttestorMap Account) (p : UInt64) :
    Command (Process Msg) (AttestorMap Account) := do
  let accountid ← unwrap (st.registry t p)
  pure (recordAttestor att windex accountid)

/-- A pass of the first loop: the group's count, and each of its registrants
    recorded. -/
def recordGroup (windex : AttestorMap Account) (t : RegistrationType) :
    Command (Process Msg) (AttestorMap Account) := do
  println ("Querying " ++ registryName t)
  let count := (att.participantCount t).getD 0
  println ("number of participants assigned:  " ++ toString count)
  (exclusiveRange 1 (count + 1)).foldlM (recordSlot st att t) windex

/-- A pass of the second loop: the attestation state of index `w`. -/
def attestationState (windex : AttestorMap Account) (w : UInt64) :
    Command (Process Msg) (AttestationState Account) := do
  let attestor ← hashMapIndex windex w
  let meetupIndex ← unwrap (← unwrapOk (getMeetupIndex fns st attestor))
  let attestees ← unwrapOk (getAttestees att w)
  let vote := countVote att attestor
  pure ⟨meetupIndex, vote, w, attestor, attestees⟩

/-- A pass of the second loop: the state of index `w`, pushed onto the states. -/
def pushAttestationState (windex : AttestorMap Account) (states : List (AttestationState Account))
    (w : UInt64) : Command (Process Msg) (List (AttestationState Account)) := do
  let state ← attestationState fns st att windex w
  pure (states ++ [state])

/-- The votes of the attestation states of meetup `m`. -/
def meetupVotes (states : List (AttestationState Account)) (m : UInt64) : List UInt32 :=
  (states.filter fun a => a.meetupIndex = m).map (·.vote)

/-- The CSV line of a meetup. -/
def csvMeetupVotesLine (cidText : String) (cindex : UInt32) (m : UInt64) (size : Nat)
    (votes : List UInt32) : String :=
  "CSVmeetupVotes: " ++ toString cindex ++ ", " ++ cidText ++ ", " ++ toString m ++ ", " ++
    toString size ++ ", " ++ display.fixed3 (display.meanOf votes) ++ ", " ++
    debugString (";".intercalate (votes.map toString))

/-- The last CSV line: the sum of the meetup sizes, the attestation count, and
    the sum of the means. -/
def csvTotalsLine (cidText : String) (cindex : UInt32) (assignees : Nat) (wcount : UInt64)
    (means : List F) : String :=
  "CSV: " ++ toString cindex ++ ", " ++ cidText ++ ", " ++ toString assignees ++ ", " ++
    toString wcount ++ ", " ++ display.displaySum means

/-- A pass of the third loop: the CSV line of meetup `m`, with the votes the
    sorted states cast there, and their mean recorded. -/
def reportMeetup (cidText : String) (cindex : UInt32) (sorted : List (AttestationState Account))
    (sizes : MeetupMap Nat) (allVotes : MeetupMap F) (m : UInt64) :
    Command (Process Msg) (MeetupMap F) := do
  let votes := meetupVotes sorted m
  let size ← unwrap (sizes.lookup m)
  println (csvMeetupVotesLine display cidText cindex m size votes)
  pure (allVotes.insert m (display.meanOf votes))

/-- The order `sort_by` puts attestation states in: by meetup. -/
def byMeetup (a b : AttestationState Account) : Bool := a.meetupIndex ≤ b.meetupIndex

/-- The sizes of the meetups of the statistics, by meetup index. -/
def meetupSizes (meetups : List (Meetup Account Location)) : MeetupMap Nat :=
  meetups.foldl (fun sizes m => sizes.insert m.index m.registrations.length) ∅

/-- `list_attestees` at the community ceremony it settled on, shown as
    `cidText`, and ceremony index `cindex`. -/
def listAttesteesAt (cidText : String) (cindex : UInt32) : Command (Process Msg) Unit := do
  println ("listing attestees for cid " ++ cidText ++ " and ceremony nr " ++ toString cindex)
  let wcount := getAttesteeCount att
  println ("number of attestees:  " ++ toString wcount)
  println ("listing participants for cid " ++ cidText ++ " and ceremony nr " ++ toString cindex)
  let windex ← registrationOrder.foldlM (recordGroup st att) ∅
  let states ← (exclusiveRange 1 (wcount + 1)).foldlM (pushAttestationState fns st att windex) []
  let sorted := states.mergeSort byMeetup
  sorted.forM fun a => println (display.debugState a)
  let stats ← unwrapOk (← Panicking.toCommand (getCommunityCeremonyStats fns sched st))
  let sizes := meetupSizes stats.meetups
  let allVotes ← (sizes.keys.mergeSort fun a b => a ≤ b).foldlM
    (reportMeetup display cidText cindex sorted sizes) ∅
  println "cindex, cid, assignees, attestors, sum of mean votes"
  println (csvTotalsLine display cidText cindex (sizes.entries.map (·.2)).sum wcount
    (allVotes.entries.map (·.2)))

/-- The ceremony `list_attestees` lists: the one its argument names, counting
    back from the current one, or the current one. -/
def effectiveCindex {σ : Type} (ceremonyIndexArg : Option Int32) (currentCeremonyIndex : UInt32) :
    Command σ UInt32 :=
  match ceremonyIndexArg with
  | none => pure currentCeremonyIndex
  | some ci => intoEffectiveCindex ci currentCeremonyIndex

end Model

/-- What `list_attestees` reads of the chain: the registered communities, the
    current ceremony index, and the storage of each community ceremony. -/
structure CeremoniesChain (Account Cid Params Location : Type) where
  communityIdentifiers : Option (List Cid)
  ceremonyIndex : UInt32
  storage : Cid → UInt32 → CeremonyStorage Account Params
  attestations : Cid → UInt32 → AttestationStorage Account
  schedule : Cid → UInt32 → MeetupSchedule Location

section Command

variable {Pair Cid : Type} [ToString Account] [DecidableEq Cid] (fns : AssignmentFns Params)
  (keys : KeyOps Pair Account Cid) (chain : CeremoniesChain Account Cid Params Location)
  (display : AttesteesDisplay Account F)

/-- `list_attestees`. -/
def listAttestees (cidArg : Option String) (ceremonyIndexArg : Option Int32) :
    Command (Process Msg) Unit := do
  let cid ← verifyCid keys chain.communityIdentifiers (← expect cidArg "please supply argument --cid")
  let cindex ← effectiveCindex ceremonyIndexArg chain.ceremonyIndex
  listAttesteesAt fns (chain.schedule cid cindex) (chain.storage cid cindex)
    (chain.attestations cid cindex) display (keys.cidToString cid) cindex

/-- At a registered community, `list_attestees` lists the ceremony its index
    argument names. -/
theorem listAttestees_eq (hkeys : keys.Lawful) {cids : List Cid} {c : Cid}
    (hcids : chain.communityIdentifiers = some cids) (hc : c ∈ cids) {ci : Option Int32}
    {cindex : UInt32} {p : Process Msg}
    (hci : effectiveCindex ci chain.ceremonyIndex p = .ok cindex p) :
    listAttestees fns keys chain display (some (keys.cidToString c)) ci p =
      listAttesteesAt fns (chain.schedule c cindex) (chain.storage c cindex)
        (chain.attestations c cindex) display (keys.cidToString c) cindex p := by
  simp only [listAttestees, expect_some, pure_bind, hcids]
  rw [bind_of_ok (verifyCid_cidToString hkeys hc p), bind_of_ok hci]

end Command

/-! ## The first loop: attestors by attestation index -/

section Attestors

variable (st : CeremonyStorage Account Params) (att : AttestationStorage Account)

/-- The registry slots of group `t` that `list_attestees` reads: `1..=count`. -/
def groupSlots (t : RegistrationType) : List UInt64 :=
  exclusiveRange 1 ((att.participantCount t).getD 0 + 1)

/-- Every slot `list_attestees` reads holds a registrant. -/
def SlotsFilled : Prop := ∀ t, ∀ p ∈ groupSlots att t, (st.registry t p).isSome

/-- The registrants `list_attestees` reads, group by group in the order of
    `registrationOrder` and by index within a group. -/
def registrants : List Account :=
  registrationOrder.flatMap fun t => (groupSlots att t).filterMap (st.registry t)

/-- The lines the first loop prints for a group. -/
def groupLines (t : RegistrationType) : List String :=
  ["Querying " ++ registryName t,
    "number of participants assigned:  " ++ toString ((att.participantCount t).getD 0)]

/-- The map the first loop builds from the registrants. -/
def attestorMap : AttestorMap Account := (registrants st att).foldl (recordAttestor att) ∅

theorem mem_registrationOrder (t : RegistrationType) : t ∈ registrationOrder := by
  cases t <;> decide

/-- The attestor of an attestation index is the last registrant that holds it:
    a later registrant with the same index replaces an earlier one. -/
theorem attestorMap_lookup (w : UInt64) :
    (attestorMap st att).lookup w =
      ((registrants st att).filter fun a => att.attestationIndex a = some w).getLast? := by
  have h := lookup_foldl_insertKeyed att.attestationIndex w (registrants st att) ∅
  rw [AList.lookup_empty, Option.or_none] at h
  exact h

theorem recordSlot_eq_ok {t : RegistrationType} {p : UInt64} (hp : (st.registry t p).isSome)
    (b : AttestorMap Account) (q : Process Msg) :
    recordSlot st att t b p q = .ok ((st.registry t p).toList.foldl (recordAttestor att) b) q := by
  obtain ⟨a, ha⟩ := Option.isSome_iff_exists.1 hp
  simp only [recordSlot, ha, unwrap, expect_some, pure_bind]
  rfl

theorem recordSlot_panics {t : RegistrationType} {p : UInt64} (hp : ¬(st.registry t p).isSome)
    (b : AttestorMap Account) (q : Process Msg) :
    ∃ msg q', recordSlot st att t b p q = .stop (.panic msg) q' := by
  rw [Option.not_isSome_iff_eq_none] at hp
  exact ⟨_, q, by simp only [recordSlot, hp, unwrap, expect]; rfl⟩

/-- A group's pass, with its slots filled, prints the group's two lines and
    records its registrants in order. -/
theorem recordGroup_eq_ok {t : RegistrationType}
    (ht : ∀ p ∈ groupSlots att t, (st.registry t p).isSome) (windex : AttestorMap Account)
    (q : Process Msg) :
    recordGroup st att windex t q =
      .ok (((groupSlots att t).filterMap (st.registry t)).foldl (recordAttestor att) windex)
        (emit (groupLines att t) q) := by
  have hinner := foldlM_eq_ok (fun b p hp q' => recordSlot_eq_ok st att (ht p hp) b q') windex
    (emit (groupLines att t) q)
  rw [List.foldl_fixed, ← List.foldl_flatMap, ← List.filterMap_eq_flatMap_toList] at hinner
  simp only [recordGroup]
  rw [bind_of_ok (println_eq_emit _ q), bind_of_ok (println_eq_emit _ _), emit_emit]
  exact hinner

/-- A group's pass panics at a slot without a registrant. -/
theorem recordGroup_panics {t : RegistrationType}
    (ht : ∃ p ∈ groupSlots att t, ¬(st.registry t p).isSome) (windex : AttestorMap Account)
    (q : Process Msg) :
    ∃ msg q', recordGroup st att windex t q = .stop (.panic msg) q' := by
  have hinner := foldlM_panics (fun b p q' hp => recordSlot_eq_ok st att hp b q')
    (fun b p q' hp => recordSlot_panics st att hp b q') ht windex (emit (groupLines att t) q)
  simp only [recordGroup]
  rw [bind_of_ok (println_eq_emit _ q), bind_of_ok (println_eq_emit _ _), emit_emit]
  exact hinner

/-- The first loop: with every slot filled, it prints two lines for each group
    and returns the map of the registrants' attestation indices. -/
theorem recordGroups_eq_ok (h : SlotsFilled st att) (p : Process Msg) :
    registrationOrder.foldlM (recordGroup st att) ∅ p =
      .ok (attestorMap st att) (emit (registrationOrder.flatMap (groupLines att)) p) := by
  have hloop := foldlM_eq_ok
    (fun windex t (_ : t ∈ registrationOrder) q => recordGroup_eq_ok st att (h t) windex q) ∅ p
  rw [foldl_emit, ← List.foldl_flatMap] at hloop
  exact hloop

/-- The first loop panics when a slot it reads is empty. -/
theorem recordGroups_panics (h : ¬SlotsFilled st att) (p : Process Msg) :
    ∃ msg q, registrationOrder.foldlM (recordGroup st att) ∅ p = .stop (.panic msg) q := by
  have hempty : ∃ t ∈ registrationOrder, ¬∀ p ∈ groupSlots att t, (st.registry t p).isSome := by
    obtain ⟨t, ht⟩ := not_forall.1 h
    exact ⟨t, mem_registrationOrder t, ht⟩
  exact foldlM_panics (fun windex t q ht => recordGroup_eq_ok st att ht windex q)
    (fun windex t q ht => recordGroup_panics st att (by simpa using ht) windex q) hempty ∅ p

end Attestors

/-! ## The second loop: an attestation state for each index -/

section States

variable [ToString Account] (fns : AssignmentFns Params) (st : CeremonyStorage Account Params)
  (att : AttestationStorage Account)

/-- The attestation state of index `w` when its reads succeed: the attestor the
    map gives, its meetup, the accounts it attested and its vote. -/
def stateOf (windex : AttestorMap Account) (w : UInt64) : Option (AttestationState Account) := do
  let attestor ← windex.lookup w
  let meetupIndex ← (getMeetupIndex fns st attestor).toOption.join
  let attestees ← (getAttestees att w).toOption
  pure ⟨meetupIndex, countVote att attestor, w, attestor, attestees⟩

/-- The attestation states, in the order of their indices. -/
def attestationStates (windex : AttestorMap Account) : List (AttestationState Account) :=
  (exclusiveRange 1 (getAttesteeCount att + 1)).filterMap (stateOf fns st att windex)

theorem attestationState_eq_ok {windex : AttestorMap Account} {w : UInt64}
    {x : AttestationState Account} (h : stateOf fns st att windex w = some x) (q : Process Msg) :
    attestationState fns st att windex w q = .ok x q := by
  obtain ⟨a, ha, h⟩ := Option.bind_eq_some_iff.1 h
  obtain ⟨m, hm, h⟩ := Option.bind_eq_some_iff.1 h
  obtain ⟨l, hl, h⟩ := Option.bind_eq_some_iff.1 h
  cases h
  -- Each read gave what `stateOf` took.
  have hmeetup : getMeetupIndex fns st a = .ok (some m) := by
    cases hread : getMeetupIndex fns st a with
    | error e => simp [hread, Except.toOption] at hm
    | ok o => cases o <;> simp_all [Except.toOption]
  have hattestees : getAttestees att w = .ok l := by
    cases hread : getAttestees att w with
    | error e => simp [hread, Except.toOption] at hl
    | ok o => simp_all [Except.toOption]
  simp only [attestationState, hashMapIndex, ha, expect_some, pure_bind, hmeetup, unwrapOk_ok,
    unwrap, hattestees]
  rfl

theorem attestationState_panics {windex : AttestorMap Account} {w : UInt64}
    (h : stateOf fns st att windex w = none) (q : Process Msg) :
    ∃ msg, attestationState fns st att windex w q = .stop (.panic msg) q := by
  -- The reads are taken in order, and the first that fails panics.
  cases ha : windex.lookup w with
  | none => exact ⟨_, by simp only [attestationState, hashMapIndex, ha, expect]; rfl⟩
  | some a =>
    cases hm : getMeetupIndex fns st a with
    | error e =>
      exact ⟨_, by
        simp only [attestationState, hashMapIndex, ha, expect_some, pure_bind, hm, unwrapOk, expectOk]
        rfl⟩
    | ok o =>
      cases o with
      | none =>
        exact ⟨_, by
          simp only [attestationState, hashMapIndex, ha, pure_bind, hm, unwrapOk_ok, unwrap, expect]
          rfl⟩
      | some m =>
        cases hl : getAttestees att w with
        | error e =>
          exact ⟨_, by
            simp only [attestationState, hashMapIndex, ha, expect_some, pure_bind, hm, unwrap, hl,
              unwrapOk, expectOk]
            rfl⟩
        | ok l => simp [stateOf, ha, hm, hl, Except.toOption] at h

theorem pushAttestationState_eq_ok {windex : AttestorMap Account} {w : UInt64}
    (hw : (stateOf fns st att windex w).isSome) (states : List (AttestationState Account))
    (q : Process Msg) :
    pushAttestationState fns st att windex states w q =
      .ok (states ++ (stateOf fns st att windex w).toList) q := by
  obtain ⟨x, hx⟩ := Option.isSome_iff_exists.1 hw
  rw [pushAttestationState, bind_of_ok (attestationState_eq_ok fns st att hx q), hx]
  rfl

theorem pushAttestationState_panics {windex : AttestorMap Account} {w : UInt64}
    (hw : ¬(stateOf fns st att windex w).isSome) (states : List (AttestationState Account))
    (q : Process Msg) :
    ∃ msg q', pushAttestationState fns st att windex states w q = .stop (.panic msg) q' := by
  obtain ⟨msg, hmsg⟩ := attestationState_panics fns st att (Option.not_isSome_iff_eq_none.1 hw) q
  exact ⟨msg, q, bind_of_stop hmsg⟩

/-- The second loop, when the reads of every index succeed, returns the states
    in the order of their indices. -/
theorem collectStates_eq_ok {windex : AttestorMap Account}
    (h : ∀ w ∈ exclusiveRange 1 (getAttesteeCount att + 1), (stateOf fns st att windex w).isSome)
    (q : Process Msg) :
    (exclusiveRange 1 (getAttesteeCount att + 1)).foldlM (pushAttestationState fns st att windex) [] q =
      .ok (attestationStates fns st att windex) q := by
  have hpass : ∀ (states : List (AttestationState Account)),
      ∀ w ∈ exclusiveRange 1 (getAttesteeCount att + 1), ∀ q' : Process Msg,
        pushAttestationState fns st att windex states w q' =
          .ok (states ++ (stateOf fns st att windex w).toList) q' :=
    fun states w hw q' => pushAttestationState_eq_ok fns st att (h w hw) states q'
  rw [foldlM_eq_ok hpass, List.foldl_fixed, foldl_push, List.nil_append]
  rfl

/-- The second loop panics at an index whose reads fail. -/
theorem collectStates_panics {windex : AttestorMap Account}
    (h : ∃ w ∈ exclusiveRange 1 (getAttesteeCount att + 1), ¬(stateOf fns st att windex w).isSome)
    (q : Process Msg) :
    ∃ msg q', (exclusiveRange 1 (getAttesteeCount att + 1)).foldlM
      (pushAttestationState fns st att windex) [] q = .stop (.panic msg) q' :=
  foldlM_panics (fun states _ q' hw => pushAttestationState_eq_ok fns st att hw states q')
    (fun states _ q' hw => pushAttestationState_panics fns st att hw states q') h [] q

end States

/-! ## Sorting by meetup -/

section Grouping

theorem byMeetup_trans (a b c : AttestationState Account) (hab : byMeetup a b) (hbc : byMeetup b c) :
    byMeetup a c :=
  UInt64.decide_le_trans _ _ _ hab hbc

theorem byMeetup_total (a b : AttestationState Account) : byMeetup a b || byMeetup b a :=
  UInt64.decide_le_total _ _

/-- Sorting by meetup reorders no votes within a meetup: the stable sort keeps
    the order of the states of one meetup. -/
theorem meetupVotes_mergeSort (states : List (AttestationState Account)) (m : UInt64) :
    meetupVotes (states.mergeSort byMeetup) m = meetupVotes states m := by
  unfold meetupVotes
  -- The states of meetup `m` all have the same key.
  have hsame : ∀ a b : AttestationState Account, decide (a.meetupIndex = m) →
      decide (b.meetupIndex = m) → byMeetup a b := by
    intro a b ha hb
    rw [byMeetup, of_decide_eq_true ha, of_decide_eq_true hb]
    exact decide_eq_true (UInt64.le_refl m)
  rw [filter_mergeSort byMeetup_trans byMeetup_total _ hsame]

end Grouping

/-! ## The sizes of the meetups -/

section Sizes

variable {meetups : List (Meetup Account Location)} {n : UInt64}

/-- The meetup indices count up from `1`. -/
theorem meetupIndices_pairwise_lt (n : UInt64) : (meetupIndices n).Pairwise (· < ·) := by
  unfold meetupIndices
  rw [List.pairwise_map, List.pairwise_map]
  -- Below `n` neither the cast nor the successor wraps.
  have hval : ∀ i, i < n.toNat → (UInt64.ofNat i + 1).toNat = i + 1 := by
    intro i hi
    have hn := n.toNat_lt
    rw [UInt64.toNat_add, UInt64.toNat_ofNat', UInt64.toNat_one, Nat.mod_eq_of_lt (by omega : i < 2 ^ 64),
      Nat.mod_eq_of_lt (by omega)]
  refine List.pairwise_lt_range.imp_of_mem fun {i j} hi hj hij => ?_
  rw [List.mem_range] at hi hj
  rw [UInt64.lt_iff_toNat_lt, hval i hi, hval j hj]
  omega

theorem nodup_meetupIndex (hidx : meetups.map Meetup.index = meetupIndices n) :
    (meetups.map Meetup.index).Nodup := by
  rw [hidx]
  exact nodup_meetupIndices n

theorem meetupSizes_keys (hidx : meetups.map Meetup.index = meetupIndices n) :
    (meetupSizes meetups).keys.mergeSort (fun a b => a ≤ b) = meetups.map Meetup.index := by
  have hnd := nodup_meetupIndex hidx
  rw [meetupSizes, keys_foldl_insert_of_nodup _ _ hnd]
  refine mergeSort_eq_of_perm (List.reverse_perm _) ?_
  rw [hidx]
  exact meetupIndices_pairwise_lt n

theorem meetupSizes_lookup (hidx : meetups.map Meetup.index = meetupIndices n)
    {mt : Meetup Account Location} (hmt : mt ∈ meetups) :
    (meetupSizes meetups).lookup mt.index = some mt.registrations.length := by
  have hnd := nodup_meetupIndex hidx
  exact lookup_foldl_insert_of_nodup _ _ ∅ hnd hmt

theorem meetupSizes_sum (hidx : meetups.map Meetup.index = meetupIndices n) :
    ((meetupSizes meetups).entries.map (·.2)).sum = (meetups.map (·.registrations.length)).sum := by
  have hnd := nodup_meetupIndex hidx
  rw [meetupSizes, entries_foldl_insert_of_nodup _ _ ∅ hnd fun x _ => AList.notMem_empty _,
    AList.empty_entries, List.append_nil, List.map_reverse, List.map_map, List.sum_reverse]
  rfl

end Sizes

/-! ## The third loop: a CSV line for each meetup -/

section Report

variable (display : AttesteesDisplay Account F) {meetups : List (Meetup Account Location)}
  {n : UInt64}

/-- The third loop runs over the meetups of the statistics in order, and prints
    each one's CSV line with its size. -/
theorem reportMeetups_eq_ok (hidx : meetups.map Meetup.index = meetupIndices n) (cidText : String)
    (cindex : UInt32) (sorted : List (AttestationState Account)) (q : Process Msg) :
    ((meetupSizes meetups).keys.mergeSort fun a b => a ≤ b).foldlM
        (reportMeetup display cidText cindex sorted (meetupSizes meetups)) ∅ q =
      .ok (meetups.foldl (fun votes mt => votes.insert mt.index
          (display.meanOf (meetupVotes sorted mt.index))) ∅)
        (emit (meetups.map fun mt => csvMeetupVotesLine display cidText cindex mt.index
          mt.registrations.length (meetupVotes sorted mt.index)) q) := by
  have hpass : ∀ (votes : MeetupMap F), ∀ mt ∈ meetups, ∀ q' : Process Msg,
      reportMeetup display cidText cindex sorted (meetupSizes meetups) votes mt.index q' =
        .ok (votes.insert mt.index (display.meanOf (meetupVotes sorted mt.index)))
          (emit [csvMeetupVotesLine display cidText cindex mt.index mt.registrations.length
            (meetupVotes sorted mt.index)] q') := by
    intro votes mt hmt q'
    simp only [reportMeetup, meetupSizes_lookup hidx hmt, unwrap, expect_some, pure_bind]
    rw [bind_of_ok (println_eq_emit _ q')]
    rfl
  rw [meetupSizes_keys hidx, List.foldlM_map, foldlM_eq_ok hpass, foldl_emit, ← List.map_eq_flatMap]

/-- The means the third loop records, in the order of the map's entries: the
    last meetup first. -/
theorem meanVotes_entries (hidx : meetups.map Meetup.index = meetupIndices n)
    (sorted : List (AttestationState Account)) :
    (meetups.foldl (fun votes mt => votes.insert mt.index
        (display.meanOf (meetupVotes sorted mt.index))) (∅ : MeetupMap F)).entries.map (·.2) =
      (meetups.map fun mt => display.meanOf (meetupVotes sorted mt.index)).reverse := by
  have hnd := nodup_meetupIndex hidx
  rw [entries_foldl_insert_of_nodup _ _ ∅ hnd fun x _ => AList.notMem_empty _, AList.empty_entries,
    List.append_nil, List.map_reverse, List.map_map]
  rfl

end Report

/-! ## What `list_attestees` prints, and when it panics -/

section Listing

variable [ToString Account] (fns : AssignmentFns Params) (sched : MeetupSchedule Location)
  (st : CeremonyStorage Account Params) (att : AttestationStorage Account)
  (display : AttesteesDisplay Account F)

/-- Otherwise `list_attestees` panics: at a registry slot without a
    registrant, at an attestation index without an attestor, a meetup or
    attestees, or at the statistics. -/
theorem listAttesteesAt_panics
    (h : ¬(SlotsFilled st att ∧
      (∀ w ∈ exclusiveRange 1 (getAttesteeCount att + 1),
        (stateOf fns st att (attestorMap st att) w).isSome) ∧
      ∃ s, (getCommunityCeremonyStats fns sched st).run = some (.ok s)))
    (cidText : String) (cindex : UInt32) (p : Process Msg) :
    ∃ msg q, listAttesteesAt fns sched st att display cidText cindex p = .stop (.panic msg) q := by
  simp only [listAttesteesAt]
  rw [bind_of_ok (println_eq_emit _ p), bind_of_ok (println_eq_emit _ _),
    bind_of_ok (println_eq_emit _ _)]
  by_cases hslots : SlotsFilled st att
  · rw [bind_of_ok (recordGroups_eq_ok st att hslots _)]
    by_cases hstates : ∀ w ∈ exclusiveRange 1 (getAttesteeCount att + 1),
        (stateOf fns st att (attestorMap st att) w).isSome
    · rw [bind_of_ok (collectStates_eq_ok fns st att hstates _), bind_of_ok (forM_println _ _ _)]
      -- The statistics panic, or return an error that `unwrap` panics on.
      cases hrun : (getCommunityCeremonyStats fns sched st).run with
      | none =>
        obtain ⟨msg, hmsg⟩ := Panicking.toCommand_of_none hrun _
        exact ⟨msg, _, bind_of_stop hmsg⟩
      | some r =>
        cases r with
        | error e =>
          rw [bind_of_ok (Panicking.toCommand_of_run hrun _)]
          exact ⟨_, _, rfl⟩
        | ok s => exact absurd ⟨hslots, hstates, s, hrun⟩ h
    · obtain ⟨w, hw, hnone⟩ : ∃ w ∈ exclusiveRange 1 (getAttesteeCount att + 1),
          ¬(stateOf fns st att (attestorMap st att) w).isSome := by
        simpa using hstates
      obtain ⟨msg, q, hstop⟩ := collectStates_panics fns st att ⟨w, hw, hnone⟩ _
      exact ⟨msg, q, bind_of_stop hstop⟩
  · obtain ⟨msg, q, hstop⟩ := recordGroups_panics st att hslots _
    exact ⟨msg, q, bind_of_stop hstop⟩

end Listing

/-! ## A ceremony with one meetup

On `oneMeetupStorage`, `Alice` (a bootstrapper, assigned) attests first,
counting two participants, and `Bob` (an endorsee without a seat) second,
without a vote. Both reads succeed, and the CSV line of the one meetup gives
its one registration and both votes, since `get_meetup_index` places `Bob` in
it. With a third attestation counted and nobody holding index `3`, the listing
panics. -/

/-- The attestations of `oneMeetupStorage`. -/
def oneMeetupAttestations : AttestationStorage String where
  attestationCount := some 2
  participantCount t := if t = .bootstrapper ∨ t = .endorsee then some 1 else none
  attestationIndex a := if a = "Alice" then some 1 else if a = "Bob" then some 2 else none
  attestationRegistry w := if w = 1 then some ["Bob"] else if w = 2 then some ["Alice"] else none
  participantCountVote a := if a = "Alice" then some 2 else none

/-- Three attestations counted, two held. -/
def gapAttestations : AttestationStorage String :=
  { oneMeetupAttestations with attestationCount := some 3 }

/-- Texts that show nothing. -/
def blankDisplay : AttesteesDisplay String Unit := ⟨fun _ => "", fun _ _ => (), fun _ => "", fun _ => ""⟩

/-- A client that has printed nothing. -/
def quietProcess : Process Unit := ⟨fun _ => none, [], []⟩

theorem oneMeetupAttestations_slotsFilled : SlotsFilled oneMeetupStorage oneMeetupAttestations := by
  intro t p hp
  cases t <;> simp [groupSlots, oneMeetupAttestations, exclusiveRange] at hp <;> subst hp <;> rfl

theorem oneMeetupAttestations_states :
    ∀ w ∈ exclusiveRange 1 (getAttesteeCount oneMeetupAttestations + 1),
      (stateOf roundRobin oneMeetupStorage oneMeetupAttestations
        (attestorMap oneMeetupStorage oneMeetupAttestations) w).isSome := by
  have hrange : exclusiveRange 1 (getAttesteeCount oneMeetupAttestations + 1) = [1, 2] := by decide
  rw [hrange, List.forall_mem_cons, List.forall_mem_singleton]
  exact ⟨rfl, rfl⟩

theorem listAttesteesAt_panics_gap :
    ¬(SlotsFilled oneMeetupStorage gapAttestations ∧
      (∀ w ∈ exclusiveRange 1 (getAttesteeCount gapAttestations + 1),
        (stateOf roundRobin oneMeetupStorage gapAttestations
          (attestorMap oneMeetupStorage gapAttestations) w).isSome) ∧
      ∃ s, (getCommunityCeremonyStats roundRobin onePlaceSchedule oneMeetupStorage).run =
        some (.ok s)) ∧
    ∃ msg q, listAttesteesAt roundRobin onePlaceSchedule oneMeetupStorage gapAttestations
      blankDisplay "sqm1v79dF6b" 7 quietProcess = .stop (.panic msg) q := by
  -- Nobody holds attestation index `3`.
  have hgap : ¬(∀ w ∈ exclusiveRange 1 (getAttesteeCount gapAttestations + 1),
      (stateOf roundRobin oneMeetupStorage gapAttestations
        (attestorMap oneMeetupStorage gapAttestations) w).isSome) := by
    intro hstates
    have hthree := hstates 3 (by decide)
    exact absurd hthree (by decide)
  have hnot := fun (h : SlotsFilled oneMeetupStorage gapAttestations ∧
      (∀ w ∈ exclusiveRange 1 (getAttesteeCount gapAttestations + 1),
        (stateOf roundRobin oneMeetupStorage gapAttestations
          (attestorMap oneMeetupStorage gapAttestations) w).isSome) ∧
      ∃ s, (getCommunityCeremonyStats roundRobin onePlaceSchedule oneMeetupStorage).run =
        some (.ok s)) => hgap h.2.1
  exact ⟨hnot, listAttesteesAt_panics roundRobin onePlaceSchedule oneMeetupStorage gapAttestations
    blankDisplay hnot "sqm1v79dF6b" 7 quietProcess⟩

end Ceremonies
