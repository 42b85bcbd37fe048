-- SUMMARY: The meetup assignment as the client reads it: what `get_meetup_index` and `get_meetup_participants` return, where they agree, and the two places where they do not.
import Mathlib
import EncointerNode.Ceremonies.Api

/-! # Meetups from both sides

`get_meetup_index` maps an account to a meetup: it finds the account's group
and index and hands the position to `meetup_index`. `get_meetup_participants`
maps a meetup to accounts: it asks `assignment_fn_inverse` for the positions the
meetup holds and reads each in the registry of its group. What both are views
of is `AssignedTo`: the account is registered, its registration got a meetup
(its index is within the assigned count of its group), and `meetup_index` puts
its position there.

Under the storage invariants (`Registries`), the laws of the assignment crate
(`AssignmentFns.Lawful`) and `1 ≤ m ≤ n`, the participants of meetup `m` are
exactly the accounts assigned to it (`mem_getMeetupParticipants_iff`), and
`get_meetup_index` of an assigned account is its meetup
(`getMeetupIndex_of_assignedTo`). The two views then agree on every account whose
registration got a meetup (`mem_getMeetupParticipants_iff_getMeetupIndex`).

They disagree in two places. The range guard of `get_meetup_participants` is
`meetup_index - 1 > meetup_count`, so meetup `n + 1` passes it and the call
returns a list (`getMeetupParticipants_past_count`). And `get_meetup_index`
never compares the index with the assigned count, so a registration that got
no meetup is still given one, in whose list it never appears
(`getMeetupIndex_of_unassigned`). -/

namespace Ceremonies

variable {Account Params : Type}

/-! ## Groups and positions -/

/-- The assignment parameters of a group: bootstrappers and reputables share theirs. -/
def Assignment.paramsOf (asg : Assignment Params) : RegistrationType → Params
  | .bootstrapper | .reputable => asg.bootstrappersReputables
  | .endorsee => asg.endorsees
  | .newbie => asg.newbies

namespace AssignmentCount

/-- How many registrations of a group got a meetup. -/
def countOf (c : AssignmentCount) : RegistrationType → UInt64
  | .bootstrapper => c.bootstrappers
  | .reputable => c.reputables
  | .endorsee => c.endorsees
  | .newbie => c.newbies

/-- The number of positions of the assignment group a registration group is in. -/
def groupCount (c : AssignmentCount) : RegistrationType → UInt64
  | .bootstrapper | .reputable => c.bootstrappers + c.reputables
  | .endorsee => c.endorsees
  | .newbie => c.newbies

/-- The 0-based position of the 1-based index `i` of a group in its assignment
    group: reputables come after the assigned bootstrappers. -/
def position (c : AssignmentCount) : RegistrationType → UInt64 → UInt64
  | .reputable, i => i - 1 + c.bootstrappers
  | _, i => i - 1

end AssignmentCount

/-! ## The storage invariants and the laws of the assignment crate -/

/-- Each index map is the inverse of its registry, and no account is in two
    groups. -/
structure Registries (st : CeremonyStorage Account Params) : Prop where
  inverse : ∀ t a i, st.participantIndex t a = some i ↔ st.registry t i = some a
  exclusive : ∀ {t t' a i j}, st.participantIndex t a = some i → st.participantIndex t' a = some j →
    t = t'

/-- What the client relies on of `meetup_index` and `assignment_fn_inverse`, for
    `n` meetups: a position goes to a meetup in `1..=n`, and for a meetup below
    `n` the inverse lists, without repeats, exactly the positions below the
    count that go there (and possibly positions past the count). -/
structure AssignmentFns.Lawful (fns : AssignmentFns Params) : Prop where
  meetupIndex_mem : ∀ p params n, 0 < n →
    ∃ m, fns.meetupIndex p params n = some m ∧ 1 ≤ m ∧ m ≤ n
  inverse_spec : ∀ m0 params n count, m0 < n →
    ∃ l, fns.assignmentFnInverse m0 params n count = some l ∧ l.Nodup ∧
      ∀ p, p < count → (p ∈ l ↔ fns.meetupIndex p params n = some (m0 + 1))

/-- The account is registered at index `i` of group `t`, and that registration
    got a meetup. -/
def Assigned (st : CeremonyStorage Account Params) (c : AssignmentCount) (a : Account)
    (t : RegistrationType) (i : UInt64) : Prop :=
  st.participantIndex t a = some i ∧ 1 ≤ i ∧ i ≤ c.countOf t

/-- The assignment puts the account in meetup `m` of `n`. -/
def AssignedTo (fns : AssignmentFns Params) (st : CeremonyStorage Account Params)
    (asg : Assignment Params) (c : AssignmentCount) (n : UInt64) (a : Account) (m : UInt64) : Prop :=
  ∃ t i, Assigned st c a t i ∧ fns.meetupIndex (c.position t i) (asg.paramsOf t) n = some m

/-- Every registration got a meetup: each index is within the assigned count of
    its group. -/
def AllAssigned (st : CeremonyStorage Account Params) (c : AssignmentCount) : Prop :=
  ∀ t a i, st.participantIndex t a = some i → 1 ≤ i ∧ i ≤ c.countOf t

/-- The positions `assignment_fn_inverse` gives for the 0-based meetup `m0` of
    `n`, in the assignment group of `t`. -/
def AssignmentFns.positionsIn (fns : AssignmentFns Params) (asg : Assignment Params)
    (c : AssignmentCount) (n m0 : UInt64) (t : RegistrationType) : Option (List UInt64) :=
  fns.assignmentFnInverse m0 (asg.paramsOf t) n (c.groupCount t)

/-- The three streams of `get_meetup_participants`, over the positions `L t` of
    each group's assignment group. -/
def participantStreams (L : RegistrationType → Option (List UInt64))
    (st : CeremonyStorage Account Params) (c : AssignmentCount) : List Account :=
  listBootstrappersReputables st (L .bootstrapper) c ++
    listAssigned st .endorsee (L .endorsee) c.endorsees ++
    listAssigned st .newbie (L .newbie) c.newbies

/-! ## Positions and indices

Positions are 0-based and indices 1-based, in `u64`. Within the assigned counts
no sum or difference wraps, and the two conversions are inverse. -/

section Arithmetic

variable {p i b r : UInt64}

theorem index_of_lt (h : p < b) : 1 ≤ p + 1 ∧ p + 1 ≤ b ∧ p + 1 - 1 = p := by
  grind

theorem position_of_le (h1 : 1 ≤ i) (h2 : i ≤ b) : i - 1 < b ∧ i - 1 + 1 = i := by
  grind

theorem reputableIndex_of_lt (h1 : b ≤ p) (h2 : p < b + r) :
    1 ≤ p - b + 1 ∧ p - b + 1 ≤ r ∧ p - b + 1 - 1 + b = p := by
  refine ⟨by grind, by grind, by grind⟩

theorem reputablePosition_of_le (hbr : b ≤ b + r) (h1 : 1 ≤ i) (h2 : i ≤ r) :
    b ≤ i - 1 + b ∧ i - 1 + b < b + r ∧ i - 1 + b - b + 1 = i := by
  grind

end Arithmetic

/-- A registration that got a meetup has a position inside its assignment group. -/
theorem position_lt_groupCount {c : AssignmentCount} {t : RegistrationType} {i : UInt64}
    (hbr : c.bootstrappers ≤ c.bootstrappers + c.reputables) (h1 : 1 ≤ i) (h2 : i ≤ c.countOf t) :
    c.position t i < c.groupCount t := by
  cases t with
  | bootstrapper =>
    have := (position_of_le h1 h2).1
    simp only [AssignmentCount.position, AssignmentCount.groupCount, AssignmentCount.countOf] at this ⊢
    grind
  | reputable => exact (reputablePosition_of_le hbr h1 h2).2.1
  | endorsee => exact (position_of_le h1 h2).1
  | newbie => exact (position_of_le h1 h2).1

/-! ## Registrations -/

@[simp] theorem except_ok_bind {ε α β : Type} (a : α) (f : α → Except ε β) :
    (Except.ok a >>= f) = f a := rfl

@[simp] theorem except_error_bind {ε α β : Type} (e : ε) (f : α → Except ε β) :
    (Except.error e >>= f) = Except.error e := rfl

@[simp] theorem okFlatten_ok {ε α : Type} (o : Option α) :
    okFlatten (.ok o : Except ε (Option α)) = o := by
  cases o <;> rfl

section Registration

variable [ToString Account] {st : CeremonyStorage Account Params} {a : Account}

/-- A registration the client finds is in the index map of its group. -/
theorem participantIndex_of_getRegistration {r : Registration} (h : getRegistration st a = .ok r) :
    st.participantIndex r.registrationType a = some r.index := by
  unfold getRegistration at h
  split at h
  · rename_i r' hfind
    cases h
    obtain ⟨t, -, ht⟩ := List.exists_of_findSome?_eq_some hfind
    obtain ⟨i, hi, rfl⟩ := Option.map_eq_some_iff.1 ht
    exact hi
  · cases h

/-- Under the invariants, the client finds every account in its own group. -/
theorem getRegistration_of_participantIndex (hreg : Registries st) {t : RegistrationType}
    {i : UInt64} (h : st.participantIndex t a = some i) : getRegistration st a = .ok ⟨i, t⟩ := by
  have hother : ∀ t', t' ≠ t → st.participantIndex t' a = none := by
    intro t' hne
    cases hj : st.participantIndex t' a with
    | none => rfl
    | some j => exact absurd (hreg.exclusive hj h) hne
  cases t <;> simp [getRegistration, registrationOrder, h, hother]

/-- An account in no index map is not registered. -/
theorem getRegistration_of_unregistered (h : ∀ t, st.participantIndex t a = none) :
    getRegistration st a = .error ("Could not get participant index for " ++ toString a) := by
  simp [getRegistration, registrationOrder, h]

end Registration

/-! ## The two views, read off the storage -/

section Views

variable (fns : AssignmentFns Params) {st : CeremonyStorage Account Params}
  {asg : Assignment Params} {c : AssignmentCount} {n : UInt64}

/-- Past its range guard, `get_meetup_participants` lists the three streams over
    the positions `assignment_fn_inverse` gives for each group. -/
theorem getMeetupParticipants_eq {m : UInt64} (hn : st.meetupCount.getD 0 = n) (hm : ¬m - 1 > n)
    (hasg : st.assignments = some asg) (hc : st.assignmentCounts = some c) :
    getMeetupParticipants fns st m = .ok (participantStreams (fns.positionsIn asg c n (m - 1)) st c) := by
  simp only [getMeetupParticipants, getMeetupCount, hn, getAssignments, hasg, getAssignmentCounts,
    hc]
  simp [hm, participantStreams, AssignmentFns.positionsIn, Assignment.paramsOf,
    AssignmentCount.groupCount]

/-- Past its range guard, `get_meetup_participants` fails with the guard's message. -/
theorem getMeetupParticipants_of_gt {m : UInt64} (h : m - 1 > st.meetupCount.getD 0) :
    getMeetupParticipants fns st m = .error ("Invalid meetup index > meetup count: " ++
      toString (m - 1) ++ ", " ++ toString (st.meetupCount.getD 0)) := by
  simp [getMeetupParticipants, getMeetupCount, h, throw, throwThe, MonadExceptOf.throw]

/-- `get_meetup_index` of a registered account: `meetup_index` at the position
    of its registration. -/
theorem getMeetupIndex_of_registration [ToString Account]
    {a : Account} {t : RegistrationType} {i : UInt64}
    (hn : st.meetupCount = some n) (hn0 : n ≠ 0) (hasg : st.assignments = some asg)
    (hc : st.assignmentCounts = some c) (hr : getRegistration st a = .ok ⟨i, t⟩) :
    getMeetupIndex fns st a = .ok (fns.meetupIndex (c.position t i) (asg.paramsOf t) n) := by
  cases t <;> simp [getMeetupIndex, getMeetupCount, getAssignments, getAssignmentCounts, hn, hn0,
    hasg, hc, hr, AssignmentCount.position, Assignment.paramsOf]

/-- What a list from `get_meetup_participants` is: the guard passed, both
    assignment maps are stored, and the list is the three streams. -/
theorem getMeetupParticipants_eq_ok {m : UInt64} {l : List Account}
    (h : getMeetupParticipants fns st m = .ok l) :
    ∃ asg c, st.assignments = some asg ∧ st.assignmentCounts = some c ∧
      ¬m - 1 > st.meetupCount.getD 0 ∧
      l = participantStreams (fns.positionsIn asg c (st.meetupCount.getD 0) (m - 1)) st c := by
  by_cases hguard : m - 1 > st.meetupCount.getD 0
  · rw [getMeetupParticipants_of_gt fns hguard] at h
    cases h
  cases hA : st.assignments with
  | none => simp [getMeetupParticipants, getMeetupCount, hguard, getAssignments, hA] at h
  | some asg =>
    cases hC : st.assignmentCounts with
    | none =>
      simp [getMeetupParticipants, getMeetupCount, hguard, getAssignments, hA,
        getAssignmentCounts, hC] at h
    | some c =>
      rw [getMeetupParticipants_eq fns rfl hguard hA hC, Except.ok.injEq] at h
      exact ⟨asg, c, rfl, rfl, hguard, h.symm⟩

/-- `get_meetup_index` answers only for an account the client finds registered. -/
theorem getRegistration_of_getMeetupIndex [ToString Account]
    {a : Account} {o : Option UInt64}
    (hn : st.meetupCount = some n) (hn0 : n ≠ 0) (hasg : st.assignments = some asg)
    (h : getMeetupIndex fns st a = .ok o) : ∃ r, getRegistration st a = .ok r := by
  cases hr : getRegistration st a with
  | ok r => exact ⟨r, rfl⟩
  | error e => simp [getMeetupIndex, getMeetupCount, getAssignments, hn, hn0, hasg, hr] at h

end Views

/-! ## Who a stream lists -/

section Streams

variable {st : CeremonyStorage Account Params} {a : Account}

theorem mem_listAssigned {t : RegistrationType} {positions : Option (List UInt64)}
    {count : UInt64} :
    a ∈ listAssigned st t positions count ↔
      ∃ p ∈ positions.getD [], p < count ∧ st.registry t (p + 1) = some a := by
  simp [listAssigned, getRegistryEntry, and_assoc]

/-- The account at a position of the combined group: a bootstrapper below the
    assigned bootstrappers, a reputable in the next `reputables` positions. -/
theorem okFlatten_getBootstrapperOrReputable {p : UInt64} {c : AssignmentCount} :
    okFlatten (getBootstrapperOrReputable st p c) = some a ↔
      (p < c.bootstrappers ∧ st.registry .bootstrapper (p + 1) = some a) ∨
        (c.bootstrappers ≤ p ∧ p < c.bootstrappers + c.reputables ∧
          st.registry .reputable (p - c.bootstrappers + 1) = some a) := by
  unfold getBootstrapperOrReputable
  by_cases hb : p < c.bootstrappers
  · simp [hb, getBootstrapper, getRegistryEntry]
  · by_cases hr : p < c.bootstrappers + c.reputables
    · simp [hb, hr, getReputable, getRegistryEntry, UInt64.not_lt.1 hb]
    · simp [hb, hr, okFlatten]

theorem mem_listBootstrappersReputables {positions : Option (List UInt64)} {c : AssignmentCount} :
    a ∈ listBootstrappersReputables st positions c ↔
      ∃ p ∈ positions.getD [],
        (p < c.bootstrappers ∧ st.registry .bootstrapper (p + 1) = some a) ∨
        (c.bootstrappers ≤ p ∧ p < c.bootstrappers + c.reputables ∧
          st.registry .reputable (p - c.bootstrappers + 1) = some a) := by
  simp only [listBootstrappersReputables, List.mem_filterMap]
  exact exists_congr fun p => and_congr_right fun _ => okFlatten_getBootstrapperOrReputable

end Streams

/-! ## From registry slots to assigned registrations -/

section Slots

variable {st : CeremonyStorage Account Params} {c : AssignmentCount} {a : Account}
  {L : List UInt64}

theorem position_of_ne_reputable {t : RegistrationType} (ht : t ≠ .reputable) (i : UInt64) :
    c.position t i = i - 1 := by
  cases t <;> first | rfl | exact absurd rfl ht

/-- Outside the reputables, the slot `p + 1` below the assigned count holds the
    registration whose position is `p`. -/
theorem exists_slot_iff (hreg : Registries st) (t : RegistrationType) (ht : t ≠ .reputable) :
    (∃ p ∈ L, p < c.countOf t ∧ st.registry t (p + 1) = some a) ↔
      ∃ i, Assigned st c a t i ∧ c.position t i ∈ L := by
  simp only [position_of_ne_reputable ht]
  constructor
  · rintro ⟨p, hp, hlt, hslot⟩
    obtain ⟨h1, h2, hback⟩ := index_of_lt hlt
    exact ⟨p + 1, ⟨(hreg.inverse t a _).2 hslot, h1, h2⟩, by rwa [hback]⟩
  · rintro ⟨i, ⟨hidx, h1, h2⟩, hp⟩
    obtain ⟨hlt, hback⟩ := position_of_le h1 h2
    exact ⟨i - 1, hp, hlt, by rw [hback]; exact (hreg.inverse t a i).1 hidx⟩

/-- A reputable slot of the combined group holds an assigned reputable. -/
theorem assigned_of_reputableSlot (hreg : Registries st) {p : UInt64} (hp : p ∈ L)
    (h1 : c.bootstrappers ≤ p) (h2 : p < c.bootstrappers + c.reputables)
    (hslot : st.registry .reputable (p - c.bootstrappers + 1) = some a) :
    ∃ i, Assigned st c a .reputable i ∧ c.position .reputable i ∈ L := by
  obtain ⟨hi1, hi2, hback⟩ := reputableIndex_of_lt h1 h2
  refine ⟨_, ⟨(hreg.inverse _ a _).2 hslot, hi1, hi2⟩, ?_⟩
  show p - c.bootstrappers + 1 - 1 + c.bootstrappers ∈ L
  rwa [hback]

/-- An assigned reputable sits in its slot of the combined group, when the two
    assigned counts do not wrap. -/
theorem reputableSlot_of_assigned (hreg : Registries st)
    (hbr : c.bootstrappers ≤ c.bootstrappers + c.reputables) {i : UInt64}
    (hi : Assigned st c a .reputable i) (hp : c.position .reputable i ∈ L) :
    ∃ p ∈ L, c.bootstrappers ≤ p ∧ p < c.bootstrappers + c.reputables ∧
      st.registry .reputable (p - c.bootstrappers + 1) = some a := by
  obtain ⟨hidx, h1, h2⟩ := hi
  obtain ⟨hle, hlt, hback⟩ := reputablePosition_of_le hbr h1 h2
  refine ⟨_, hp, hle, hlt, ?_⟩
  show st.registry .reputable (i - 1 + c.bootstrappers - c.bootstrappers + 1) = some a
  rw [hback]
  exact (hreg.inverse _ a i).1 hidx

end Slots

/-! ## Who the participant list holds -/

section Participants

variable {st : CeremonyStorage Account Params} {c : AssignmentCount} {a : Account}
  (L : RegistrationType → Option (List UInt64))

/-- Every account the streams list is an assigned registration at one of the
    positions given for its group. -/
theorem assigned_of_mem_participantStreams (hreg : Registries st)
    (hL : L .reputable = L .bootstrapper) (h : a ∈ participantStreams L st c) :
    ∃ t i, Assigned st c a t i ∧ c.position t i ∈ (L t).getD [] := by
  simp only [participantStreams, List.mem_append, mem_listBootstrappersReputables,
    mem_listAssigned] at h
  rcases h with (⟨p, hp, ⟨hlt, hslot⟩ | ⟨h1, h2, hslot⟩⟩ | ⟨p, hp, hslot⟩) | ⟨p, hp, hslot⟩
  · obtain ⟨i, hi, hpos⟩ := (exists_slot_iff hreg .bootstrapper (by decide)).1 ⟨p, hp, hlt, hslot⟩
    exact ⟨_, i, hi, hpos⟩
  · obtain ⟨i, hi, hpos⟩ := assigned_of_reputableSlot hreg hp h1 h2 hslot
    exact ⟨.reputable, i, hi, hL ▸ hpos⟩
  · obtain ⟨i, hi, hpos⟩ := (exists_slot_iff hreg .endorsee (by decide)).1 ⟨p, hp, hslot⟩
    exact ⟨_, i, hi, hpos⟩
  · obtain ⟨i, hi, hpos⟩ := (exists_slot_iff hreg .newbie (by decide)).1 ⟨p, hp, hslot⟩
    exact ⟨_, i, hi, hpos⟩

/-- Every assigned registration at one of the positions given for its group is
    listed, when the bootstrapper and reputable counts do not wrap. -/
theorem mem_participantStreams_of_assigned (hreg : Registries st)
    (hL : L .reputable = L .bootstrapper) (hbr : c.bootstrappers ≤ c.bootstrappers + c.reputables)
    {t : RegistrationType} {i : UInt64} (hi : Assigned st c a t i)
    (hpos : c.position t i ∈ (L t).getD []) : a ∈ participantStreams L st c := by
  simp only [participantStreams, List.mem_append, mem_listBootstrappersReputables,
    mem_listAssigned]
  cases t with
  | bootstrapper =>
    obtain ⟨p, hp, hslot⟩ := (exists_slot_iff hreg .bootstrapper (by decide)).2 ⟨i, hi, hpos⟩
    exact .inl (.inl ⟨p, hp, .inl hslot⟩)
  | reputable =>
    obtain ⟨p, hp, hslot⟩ := reputableSlot_of_assigned hreg hbr hi (hL ▸ hpos)
    exact .inl (.inl ⟨p, hp, .inr hslot⟩)
  | endorsee =>
    exact .inl (.inr ((exists_slot_iff hreg .endorsee (by decide)).2 ⟨i, hi, hpos⟩))
  | newbie =>
    exact .inr ((exists_slot_iff hreg .newbie (by decide)).2 ⟨i, hi, hpos⟩)

end Participants

/-! ## Where the two views agree -/

section Agreement

variable (fns : AssignmentFns Params) {st : CeremonyStorage Account Params}
  {asg : Assignment Params} {c : AssignmentCount} {n m : UInt64}

/-- The position of a registration that got a meetup is among those the inverse
    gives for meetup `m0 + 1` exactly when `meetup_index` sends it there. -/
theorem mem_positionsIn_iff (hfns : fns.Lawful) {m0 : UInt64} (hm0 : m0 < n)
    (hbr : c.bootstrappers ≤ c.bootstrappers + c.reputables) {t : RegistrationType} {i : UInt64}
    (h1 : 1 ≤ i) (h2 : i ≤ c.countOf t) :
    c.position t i ∈ (fns.positionsIn asg c n m0 t).getD [] ↔
      fns.meetupIndex (c.position t i) (asg.paramsOf t) n = some (m0 + 1) := by
  obtain ⟨l, hl, -, hspec⟩ := hfns.inverse_spec m0 (asg.paramsOf t) n (c.groupCount t) hm0
  rw [AssignmentFns.positionsIn, hl, Option.getD_some]
  exact hspec _ (position_lt_groupCount hbr h1 h2)

/-- For a meetup `m` in `1..=n`, the participants listed are exactly the
    accounts the assignment puts there. -/
theorem mem_getMeetupParticipants_iff (hfns : fns.Lawful) (hreg : Registries st)
    (hn : st.meetupCount = some n) (hasg : st.assignments = some asg)
    (hc : st.assignmentCounts = some c) (hbr : c.bootstrappers ≤ c.bootstrappers + c.reputables)
    (hm1 : 1 ≤ m) (hmn : m ≤ n) :
    ∃ l, getMeetupParticipants fns st m = .ok l ∧ ∀ a, a ∈ l ↔ AssignedTo fns st asg c n a m := by
  have hguard : ¬m - 1 > n := by grind
  have hm0 : m - 1 < n := by grind
  have hsucc : m - 1 + 1 = m := by grind
  have hL : fns.positionsIn asg c n (m - 1) .reputable =
      fns.positionsIn asg c n (m - 1) .bootstrapper := rfl
  refine ⟨_, getMeetupParticipants_eq fns (by simp [hn]) hguard hasg hc, fun a => ?_⟩
  constructor
  · intro ha
    obtain ⟨t, i, hi, hpos⟩ := assigned_of_mem_participantStreams _ hreg hL ha
    have hmeetup := (mem_positionsIn_iff fns hfns hm0 hbr hi.2.1 hi.2.2).1 hpos
    rw [hsucc] at hmeetup
    exact ⟨t, i, hi, hmeetup⟩
  · rintro ⟨t, i, hi, hmeetup⟩
    rw [← hsucc] at hmeetup
    exact mem_participantStreams_of_assigned _ hreg hL hbr hi
      ((mem_positionsIn_iff fns hfns hm0 hbr hi.2.1 hi.2.2).2 hmeetup)

/-- `get_meetup_index` of an account the assignment puts in meetup `m` is `m`. -/
theorem getMeetupIndex_of_assignedTo [ToString Account]
    (hreg : Registries st) (hn : st.meetupCount = some n)
    (hn0 : n ≠ 0) (hasg : st.assignments = some asg) (hc : st.assignmentCounts = some c)
    {a : Account} (h : AssignedTo fns st asg c n a m) : getMeetupIndex fns st a = .ok (some m) := by
  obtain ⟨t, i, ⟨hidx, -, -⟩, hmeetup⟩ := h
  rw [getMeetupIndex_of_registration fns hn hn0 hasg hc
    (getRegistration_of_participantIndex hreg hidx), hmeetup]

/-- For an account whose registration got a meetup, `get_meetup_index` answers
    `m` exactly when the assignment puts it in meetup `m`. -/
theorem getMeetupIndex_eq_some_iff [ToString Account]
    (hreg : Registries st) (hn : st.meetupCount = some n)
    (hn0 : n ≠ 0) (hasg : st.assignments = some asg) (hc : st.assignmentCounts = some c)
    {a : Account} (hassigned : ∀ t i, st.participantIndex t a = some i → 1 ≤ i ∧ i ≤ c.countOf t) :
    getMeetupIndex fns st a = .ok (some m) ↔ AssignedTo fns st asg c n a m := by
  constructor
  · intro h
    obtain ⟨⟨i, t⟩, hr⟩ := getRegistration_of_getMeetupIndex fns hn hn0 hasg h
    have hidx := participantIndex_of_getRegistration hr
    rw [getMeetupIndex_of_registration fns hn hn0 hasg hc hr, Except.ok.injEq] at h
    exact ⟨t, i, ⟨hidx, hassigned t i hidx⟩, h⟩
  · exact getMeetupIndex_of_assignedTo fns hreg hn hn0 hasg hc

/-- When every registration got a meetup, the two views agree: for `m` in
    `1..=n`, an account is listed for meetup `m` exactly when
    `get_meetup_index` answers `m` for it. -/
theorem mem_getMeetupParticipants_iff_getMeetupIndex [ToString Account]
    (hfns : fns.Lawful) (hreg : Registries st)
    (hall : AllAssigned st c) (hn : st.meetupCount = some n) (hasg : st.assignments = some asg)
    (hc : st.assignmentCounts = some c) (hbr : c.bootstrappers ≤ c.bootstrappers + c.reputables)
    (hm1 : 1 ≤ m) (hmn : m ≤ n) :
    ∃ l, getMeetupParticipants fns st m = .ok l ∧
      ∀ a, a ∈ l ↔ getMeetupIndex fns st a = .ok (some m) := by
  have hn0 : n ≠ 0 := by grind
  obtain ⟨l, hl, hmem⟩ := mem_getMeetupParticipants_iff fns hfns hreg hn hasg hc hbr hm1 hmn
  refine ⟨l, hl, fun a => ?_⟩
  rw [hmem a, getMeetupIndex_eq_some_iff fns hreg hn hn0 hasg hc fun t i => hall t a i]

end Agreement

/-! ## Where they disagree -/

section Disagreement

variable (fns : AssignmentFns Params) {st : CeremonyStorage Account Params}
  {asg : Assignment Params} {c : AssignmentCount} {n : UInt64}

/-- Meetup `0` is rejected: `0 - 1` wraps past every count below `u64::MAX`. -/
theorem getMeetupParticipants_zero (h : st.meetupCount.getD 0 < 18446744073709551615) :
    getMeetupParticipants fns st 0 = .error ("Invalid meetup index > meetup count: " ++
      toString (18446744073709551615 : UInt64) ++ ", " ++ toString (st.meetupCount.getD 0)) :=
  getMeetupParticipants_of_gt fns h

/-- Every meetup past `n + 1` is rejected. -/
theorem getMeetupParticipants_of_succ_lt {m : UInt64} (hn : st.meetupCount.getD 0 = n)
    (hwrap : n < n + 1) (hm : n + 1 < m) :
    getMeetupParticipants fns st m = .error ("Invalid meetup index > meetup count: " ++
      toString (m - 1) ++ ", " ++ toString n) := by
  have hguard : m - 1 > st.meetupCount.getD 0 := by grind
  rw [getMeetupParticipants_of_gt fns hguard, hn]

/-- Meetup `n + 1` passes the range guard `meetup_index - 1 > meetup_count`:
    with the assignments stored, the call returns the streams over whatever the
    inverse gives for the 0-based meetup `n`, which no meetup is. -/
theorem getMeetupParticipants_past_count (hn : st.meetupCount.getD 0 = n)
    (hasg : st.assignments = some asg) (hc : st.assignmentCounts = some c) :
    getMeetupParticipants fns st (n + 1) = .ok (participantStreams (fns.positionsIn asg c n n) st c) := by
  have hguard : ¬n + 1 - 1 > n := by grind
  have hsub : n + 1 - 1 = n := by grind
  rw [getMeetupParticipants_eq fns hn hguard hasg hc, hsub]

/-- A registration that got no meetup is still given one by `get_meetup_index`,
    and no participant list ever holds it. -/
theorem getMeetupIndex_of_unassigned [ToString Account]
    (hfns : fns.Lawful) (hreg : Registries st)
    (hn : st.meetupCount = some n) (hn0 : 0 < n) (hasg : st.assignments = some asg)
    (hc : st.assignmentCounts = some c) {a : Account} {t : RegistrationType} {i : UInt64}
    (hidx : st.participantIndex t a = some i) (hun : ¬(1 ≤ i ∧ i ≤ c.countOf t)) :
    (∃ m, 1 ≤ m ∧ m ≤ n ∧ getMeetupIndex fns st a = .ok (some m)) ∧
      ∀ m l, getMeetupParticipants fns st m = .ok l → a ∉ l := by
  constructor
  · obtain ⟨m, hm, h1, h2⟩ := hfns.meetupIndex_mem (c.position t i) (asg.paramsOf t) n hn0
    refine ⟨m, h1, h2, ?_⟩
    rw [getMeetupIndex_of_registration fns hn (by grind) hasg hc
      (getRegistration_of_participantIndex hreg hidx), hm]
  · intro m l hl ha
    obtain ⟨asg', c', -, hc', -, rfl⟩ := getMeetupParticipants_eq_ok fns hl
    rw [hc, Option.some.injEq] at hc'
    subst hc'
    -- A listed account is an assigned registration, and an account has one.
    obtain ⟨t', j, ⟨hj, hj1, hj2⟩, -⟩ := assigned_of_mem_participantStreams _ hreg rfl ha
    have ht : t' = t := hreg.exclusive hj hidx
    subst ht
    rw [hidx, Option.some.injEq] at hj
    subst hj
    exact hun ⟨hj1, hj2⟩

end Disagreement

/-! ## A round-robin assignment, and a ceremony where the views disagree -/

/-- Position `p` goes to meetup `p % n + 1`; the inverse lists the positions
    below the count with that remainder. -/
def roundRobin : AssignmentFns Unit where
  meetupIndex p _ n := if n = 0 then none else some (p % n + 1)
  assignmentFnInverse m0 _ n count :=
    some (((List.range count.toNat).map UInt64.ofNat).filter fun p => p % n = m0)

/-- `UInt64.ofNat` is one to one below `2^64`. -/
theorem ofNat_inj_of_lt {x y : Nat} (hx : x < UInt64.size) (hy : y < UInt64.size)
    (h : UInt64.ofNat x = UInt64.ofNat y) : x = y := by
  have := congrArg UInt64.toNat h
  rwa [UInt64.toNat_ofNat_of_lt' hx, UInt64.toNat_ofNat_of_lt' hy] at this

theorem mem_range_ofNat {p count : UInt64} :
    p ∈ (List.range count.toNat).map UInt64.ofNat ↔ p < count := by
  constructor
  · intro h
    obtain ⟨k, hk, rfl⟩ := List.mem_map.1 h
    have hk' : k < count.toNat := List.mem_range.1 hk
    rw [UInt64.lt_iff_toNat_lt, UInt64.toNat_ofNat_of_lt' (lt_trans hk' count.toNat_lt_size)]
    exact hk'
  · intro h
    exact List.mem_map.2 ⟨p.toNat, List.mem_range.2 (UInt64.lt_iff_toNat_lt.1 h), by simp⟩

theorem roundRobin_lawful : roundRobin.Lawful where
  meetupIndex_mem p _ n hn := by
    have hn0 : n ≠ 0 := by grind
    obtain ⟨h1, h2, -⟩ := index_of_lt (UInt64.mod_lt p hn)
    exact ⟨p % n + 1, by simp [roundRobin, hn0], h1, h2⟩
  inverse_spec m0 _ n count hm0 := by
    refine ⟨_, rfl, ?_, fun p hp => ?_⟩
    · refine (List.Nodup.map_on ?_ List.nodup_range).filter _
      intro x hx y hy hxy
      exact ofNat_inj_of_lt (lt_trans (List.mem_range.1 hx) count.toNat_lt_size)
        (lt_trans (List.mem_range.1 hy) count.toNat_lt_size) hxy
    · have hn : n ≠ 0 := by grind
      simp only [List.mem_filter, mem_range_ofNat, hp, true_and, decide_eq_true_eq, roundRobin, hn,
        if_false, Option.some.injEq]
      grind

/-- One meetup, with the bootstrapper `Alice` assigned and the endorsee `Bob`
    registered but not assigned (no endorsee got a seat). -/
def oneMeetupStorage : CeremonyStorage String Unit where
  meetupCount := some 1
  assignments := some ⟨(), (), ()⟩
  assignmentCounts := some ⟨1, 0, 0, 0⟩
  registry t i :=
    if t = .bootstrapper ∧ i = 1 then some "Alice"
    else if t = .endorsee ∧ i = 1 then some "Bob" else none
  participantIndex t a :=
    if t = .bootstrapper ∧ a = "Alice" then some 1
    else if t = .endorsee ∧ a = "Bob" then some 1 else none

theorem oneMeetupStorage_registries : Registries oneMeetupStorage where
  inverse t a i := by
    cases t <;> simp only [oneMeetupStorage, reduceCtorEq, false_and, true_and, if_false] <;> grind
  exclusive {t t' a i j} hi hj := by
    cases t <;> cases t' <;> simp_all [oneMeetupStorage]

/-- With one meetup, meetup `2` passes the range guard and gets an empty list,
    and `get_meetup_index` gives `Bob`, whom no list holds, meetup `1`. -/
theorem meetupViews_disagree :
    Registries oneMeetupStorage ∧ roundRobin.Lawful ∧
      getMeetupParticipants roundRobin oneMeetupStorage 2 = .ok [] ∧
      getMeetupParticipants roundRobin oneMeetupStorage 1 = .ok ["Alice"] ∧
      getMeetupIndex roundRobin oneMeetupStorage "Bob" = .ok (some 1) :=
  ⟨oneMeetupStorage_registries, roundRobin_lawful, by decide, by decide, by decide⟩

theorem getMeetupIndex_of_unassigned_bob :
    (∃ m, 1 ≤ m ∧ m ≤ 1 ∧ getMeetupIndex roundRobin oneMeetupStorage "Bob" = .ok (some m)) ∧
      ∀ m l, getMeetupParticipants roundRobin oneMeetupStorage m = .ok l → "Bob" ∉ l :=
  getMeetupIndex_of_unassigned roundRobin roundRobin_lawful oneMeetupStorage_registries rfl
    (by decide) rfl rfl (show oneMeetupStorage.participantIndex .endorsee "Bob" = some 1 from rfl)
    (by decide)

/-- The same ceremony, with a seat for the endorsee: every registration got a
    meetup. -/
def bothAssignedStorage : CeremonyStorage String Unit :=
  { oneMeetupStorage with assignmentCounts := some ⟨1, 0, 1, 0⟩ }

theorem bothAssignedStorage_registries : Registries bothAssignedStorage :=
  ⟨oneMeetupStorage_registries.inverse, oneMeetupStorage_registries.exclusive⟩

theorem bothAssignedStorage_allAssigned : AllAssigned bothAssignedStorage ⟨1, 0, 1, 0⟩ := by
  intro t a i h
  cases t <;> simp only [bothAssignedStorage, oneMeetupStorage, reduceCtorEq, false_and, true_and,
    if_false] at h <;> grind [AssignmentCount.countOf]

theorem mem_getMeetupParticipants_iff_getMeetupIndex_bothAssigned :
    ∃ l, getMeetupParticipants roundRobin bothAssignedStorage 1 = .ok l ∧
      ∀ a, a ∈ l ↔ getMeetupIndex roundRobin bothAssignedStorage a = .ok (some 1) :=
  mem_getMeetupParticipants_iff_getMeetupIndex roundRobin roundRobin_lawful
    bothAssignedStorage_registries bothAssignedStorage_allAssigned rfl rfl rfl (by decide)
    (by decide) (by decide)

end Ceremonies
