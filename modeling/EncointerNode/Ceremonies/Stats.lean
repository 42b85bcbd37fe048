-- SUMMARY: `get_community_ceremony_stats`: each meetup of a community ceremony with its location, time, participants and their registrations; when the call returns or panics, and that it lists every assigned account exactly once, in its own meetup.
import EncointerNode.Stdlib.Panicking
import EncointerNode.Ceremonies.Meetups

/-! # Ceremony statistics

`get_community_ceremony_stats` reads the assignment, the assigned counts and
the meetup count `n`, and then, for each meetup `1..=n`, the meetup's location
(`unwrap`ped: a meetup without one panics), its time (`0` when that read
fails), its participants from `get_meetup_participants`, and the registration
of each participant. A failed read of the assignment, of a participant list or
of a registration is returned as the error. The model is the
`ExceptT String Option` of `Stdlib.Panicking`.

Locations and times come from `get_locations` over RPC and from the
`meetup_location` and `meetup_time` functions of the ceremonies pallet, which
lie outside this repository; they enter as the reads `MeetupSchedule`.

What the call returns is the assignment as stored, `n`, and the meetups `1..=n`
in order, each with what its reads gave (`getCommunityCeremonyStats_eq_ok`).
Under the storage invariants it returns when every meetup has a location
(`getCommunityCeremonyStats_returns`) and panics when one has none and no read
fails (`getCommunityCeremonyStats_panics`). Under the laws of the assignment
crate the statistics partition the registrations that got a meetup: each
meetup lists the accounts the assignment puts there (`mem_meetup_iff`), the
listing has no repeats (`statsParticipants_nodup`), and it holds exactly the
registrations that got a meetup (`mem_statsParticipants_iff`). A registration
that got none is in no meetup of the statistics, while `get_meetup_index` still
gives it one (`getMeetupIndex_of_unassigned`). -/

namespace Ceremonies

variable {Account Params Location : Type}

/-- `Meetup` of the statistics; a `Moment` is a `u64`. -/
structure Meetup (Account Location : Type) where
  index : UInt64
  location : Location
  time : UInt64
  registrations : List (Account × Registration)

/-- `CommunityCeremonyStats`, without the community ceremony that the storage
    is taken at. -/
structure CommunityCeremonyStats (Account Params Location : Type) where
  assignment : Assignment Params
  assignmentCount : AssignmentCount
  meetupCount : UInt64
  meetups : List (Meetup Account Location)

/-- The reads of a meetup's place and time, at the community ceremony and block
    of the storage. -/
structure MeetupSchedule (Location : Type) where
  /-- `get_meetup_location`. -/
  getMeetupLocation : UInt64 → Except String (Option Location)
  /-- `get_meetup_time`, with `ONE_DAY`. -/
  getMeetupTime : Location → Except String UInt64

/-- The meetup indices `1..=n`. -/
def meetupIndices (n : UInt64) : List UInt64 :=
  ((List.range n.toNat).map UInt64.ofNat).map (· + 1)

theorem mem_meetupIndices {n m : UInt64} : m ∈ meetupIndices n ↔ 1 ≤ m ∧ m ≤ n := by
  simp only [meetupIndices, List.mem_map]
  constructor
  · rintro ⟨p, ⟨q, hq, rfl⟩, rfl⟩
    have := mem_range_ofNat.1 (List.mem_map.2 ⟨q, hq, rfl⟩)
    exact ⟨(index_of_lt this).1, (index_of_lt this).2.1⟩
  · rintro ⟨h1, h2⟩
    obtain ⟨hlt, hback⟩ := position_of_le h1 h2
    obtain ⟨q, hq, hqm⟩ := List.mem_map.1 (mem_range_ofNat.2 hlt)
    exact ⟨m - 1, ⟨q, hq, hqm⟩, hback⟩

theorem nodup_meetupIndices (n : UInt64) : (meetupIndices n).Nodup := by
  refine ((List.Nodup.map_on ?_ List.nodup_range).map (add_left_injective 1))
  intro x hx y hy hxy
  exact ofNat_inj_of_lt (lt_trans (List.mem_range.1 hx) n.toNat_lt_size)
    (lt_trans (List.mem_range.1 hy) n.toNat_lt_size) hxy

section Model

variable [ToString Account] (fns : AssignmentFns Params) (sched : MeetupSchedule Location)
  (st : CeremonyStorage Account Params)

/-- The body of the loop of `get_community_ceremony_stats`, for meetup `m`. -/
def meetupStats (m : UInt64) : ExceptT String Option (Meetup Account Location) := do
  let mLocation ← Panicking.unwrap (← sched.getMeetupLocation m)
  let time := (sched.getMeetupTime mLocation).toOption.getD 0
  let participants ← getMeetupParticipants fns st m
  let registrations ← participants.mapM fun p => do
    let r ← getRegistration st p
    pure (p, r)
  pure ⟨m, mLocation, time, registrations⟩

/-- `get_community_ceremony_stats`. -/
def getCommunityCeremonyStats :
    ExceptT String Option (CommunityCeremonyStats Account Params Location) := do
  let assignment ← getAssignments st
  let assignmentCount ← getAssignmentCounts st
  let mcount ← getMeetupCount st
  let meetups ← (meetupIndices mcount).mapM (meetupStats fns sched st)
  pure ⟨assignment, assignmentCount, mcount, meetups⟩

end Model

/-! ## The reads and the lists underneath -/

section Lists

variable {st : CeremonyStorage Account Params} {a : Account}

theorem getAssignments_eq_ok {asg : Assignment Params} :
    getAssignments st = .ok asg ↔ st.assignments = some asg := by
  unfold getAssignments
  cases st.assignments <;> simp

theorem getAssignmentCounts_eq_ok {c : AssignmentCount} :
    getAssignmentCounts st = .ok c ↔ st.assignmentCounts = some c := by
  unfold getAssignmentCounts
  cases st.assignmentCounts <;> simp

/-- An account in the stream of a group is registered in that group. -/
theorem participantIndex_of_mem_listAssigned (hreg : Registries st) {t : RegistrationType}
    {positions : Option (List UInt64)} {count : UInt64} (h : a ∈ listAssigned st t positions count) :
    ∃ i, st.participantIndex t a = some i := by
  obtain ⟨p, -, -, hslot⟩ := mem_listAssigned.1 h
  exact ⟨_, (hreg.inverse t a _).2 hslot⟩

/-- An account in the combined stream is a bootstrapper or a reputable. -/
theorem participantIndex_of_mem_listBootstrappersReputables (hreg : Registries st)
    {positions : Option (List UInt64)} {c : AssignmentCount}
    (h : a ∈ listBootstrappersReputables st positions c) :
    ∃ t i, (t = .bootstrapper ∨ t = .reputable) ∧ st.participantIndex t a = some i := by
  obtain ⟨p, -, ⟨-, hslot⟩ | ⟨-, -, hslot⟩⟩ := mem_listBootstrappersReputables.1 h
  · exact ⟨_, _, .inl rfl, (hreg.inverse _ a _).2 hslot⟩
  · exact ⟨_, _, .inr rfl, (hreg.inverse _ a _).2 hslot⟩

/-- A registry slot holds an account only at that account's index. -/
theorem slot_eq_of_registry (hreg : Registries st) {t : RegistrationType} {i j : UInt64}
    (hi : st.registry t i = some a) (hj : st.registry t j = some a) : i = j := by
  have hi' := (hreg.inverse t a i).2 hi
  rw [(hreg.inverse t a j).2 hj, Option.some.injEq] at hi'
  exact hi'.symm

/-- Distinct positions of a group's stream are distinct accounts. -/
theorem nodup_listAssigned (hreg : Registries st) {t : RegistrationType}
    {positions : Option (List UInt64)} (hL : (positions.getD []).Nodup) (count : UInt64) :
    (listAssigned st t positions count).Nodup := by
  refine List.Nodup.filterMap ?_ (hL.filter _)
  intro p q b hp hq
  simp only [okFlatten_ok, getRegistryEntry, Option.mem_def] at hp hq
  have hslot := slot_eq_of_registry hreg hp hq
  grind

/-- Distinct positions of the combined group are distinct accounts: a
    bootstrapper and a reputable are different accounts, and within a group the
    slot determines the position. -/
theorem nodup_listBootstrappersReputables (hreg : Registries st)
    {positions : Option (List UInt64)} (hL : (positions.getD []).Nodup) (c : AssignmentCount) :
    (listBootstrappersReputables st positions c).Nodup := by
  refine List.Nodup.filterMap ?_ hL
  intro p q b hp hq
  rw [Option.mem_def, okFlatten_getBootstrapperOrReputable] at hp hq
  rcases hp with ⟨-, hp⟩ | ⟨hp1, -, hp⟩ <;> rcases hq with ⟨-, hq⟩ | ⟨hq1, -, hq⟩
  · have hslot := slot_eq_of_registry hreg hp hq
    grind
  · exact absurd (hreg.exclusive ((hreg.inverse _ b _).2 hp) ((hreg.inverse _ b _).2 hq))
      (by decide)
  · exact absurd (hreg.exclusive ((hreg.inverse _ b _).2 hp) ((hreg.inverse _ b _).2 hq))
      (by decide)
  · have hslot := slot_eq_of_registry hreg hp hq
    grind

/-- The three streams list distinct accounts, when each group's positions have
    no repeats: the groups are disjoint. -/
theorem nodup_participantStreams (hreg : Registries st) {c : AssignmentCount}
    {L : RegistrationType → Option (List UInt64)} (hL : ∀ t, ((L t).getD []).Nodup) :
    (participantStreams L st c).Nodup := by
  -- Accounts of two streams of different groups differ.
  have hsep : ∀ {t t' : RegistrationType}, t ≠ t' → ∀ {b b' : Account} {i j : UInt64},
      st.participantIndex t b = some i → st.participantIndex t' b' = some j → b ≠ b' := by
    rintro t t' hne b b' i j hb hb' rfl
    exact hne (hreg.exclusive hb hb')
  unfold participantStreams
  refine List.nodup_append.2 ⟨List.nodup_append.2 ⟨nodup_listBootstrappersReputables hreg (hL _) c,
    nodup_listAssigned hreg (hL _) _, ?_⟩, nodup_listAssigned hreg (hL _) _, ?_⟩
  · intro b hb b' hb'
    obtain ⟨t, i, ht, hi⟩ := participantIndex_of_mem_listBootstrappersReputables hreg hb
    obtain ⟨j, hj⟩ := participantIndex_of_mem_listAssigned hreg hb'
    exact hsep (by rcases ht with rfl | rfl <;> decide) hi hj
  · intro b hb b' hb'
    obtain ⟨j, hj⟩ := participantIndex_of_mem_listAssigned hreg hb'
    rcases List.mem_append.1 hb with hb | hb
    · obtain ⟨t, i, ht, hi⟩ := participantIndex_of_mem_listBootstrappersReputables hreg hb
      exact hsep (by rcases ht with rfl | rfl <;> decide) hi hj
    · obtain ⟨i, hi⟩ := participantIndex_of_mem_listAssigned hreg hb
      exact hsep (by decide) hi hj

/-- A registered account is assigned to at most one meetup. -/
theorem AssignedTo.unique {fns : AssignmentFns Params} {asg : Assignment Params}
    {c : AssignmentCount} {n m m' : UInt64} (hreg : Registries st)
    (h : AssignedTo fns st asg c n a m) (h' : AssignedTo fns st asg c n a m') : m = m' := by
  obtain ⟨t, i, ⟨hi, -⟩, hm⟩ := h
  obtain ⟨t', j, ⟨hj, -⟩, hm'⟩ := h'
  have ht : t' = t := hreg.exclusive hj hi
  subst ht
  rw [hi, Option.some.injEq] at hj
  subst hj
  rw [hm, Option.some.injEq] at hm'
  exact hm'

end Lists

/-! ## What the call returns -/

section Spec

variable [ToString Account] (fns : AssignmentFns Params) (sched : MeetupSchedule Location)
  (st : CeremonyStorage Account Params)

/-- What the statistics hold for a meetup: what the reads for its index gave. -/
structure MeetupListed (mt : Meetup Account Location) : Prop where
  location : sched.getMeetupLocation mt.index = .ok (some mt.location)
  time : mt.time = (sched.getMeetupTime mt.location).toOption.getD 0
  participants : getMeetupParticipants fns st mt.index = .ok (mt.registrations.map Prod.fst)
  registrations : ∀ ar ∈ mt.registrations, getRegistration st ar.1 = .ok ar.2

/-- One pass of the inner loop: the participant with its registration. -/
theorem registration_eq_ok (p : Account) (ar : Account × Registration) :
    (do
        let r ← (getRegistration st p : ExceptT String Option Registration)
        pure (p, r)).run = some (.ok ar) ↔ ar.1 = p ∧ getRegistration st ar.1 = .ok ar.2 := by
  simp only [Panicking.bind_eq_ok, Panicking.run_monadLift, ExceptT.run_pure, Option.pure_def,
    Option.some.injEq, Except.ok.injEq]
  constructor
  · rintro ⟨r, hr, rfl⟩
    exact ⟨rfl, hr⟩
  · rintro ⟨rfl, hr⟩
    exact ⟨ar.2, hr, rfl⟩

/-- The inner loop returns each participant with its registration. -/
theorem registrations_eq_ok {ps : List Account} {rs : List (Account × Registration)} :
    (ps.mapM fun p => do
        let r ← (getRegistration st p : ExceptT String Option Registration)
        pure (p, r)).run = some (.ok rs) ↔
      rs.map Prod.fst = ps ∧ ∀ ar ∈ rs, getRegistration st ar.1 = .ok ar.2 := by
  rw [Panicking.mapM_eq_ok, ← Panicking.forall₂_iff_map_eq]
  simp only [registration_eq_ok]

/-- One pass of the outer loop returns meetup `m` with what its reads gave. -/
theorem meetupStats_eq_ok {m : UInt64} {mt : Meetup Account Location} :
    (meetupStats fns sched st m).run = some (.ok mt) ↔
      mt.index = m ∧ MeetupListed fns sched st mt := by
  unfold meetupStats
  simp only [Panicking.bind_eq_ok, Panicking.run_monadLift, Panicking.run_unwrap,
    Option.some.injEq, Except.ok.injEq, ExceptT.run_pure, Option.pure_def, registrations_eq_ok]
  constructor
  · rintro ⟨_, hloc, loc, hmap, ps, hps, rs, ⟨hfst, hregs⟩, rfl⟩
    obtain ⟨loc', rfl, hloc'⟩ := Option.map_eq_some_iff.1 hmap
    cases hloc'
    refine ⟨rfl, hloc, rfl, ?_, hregs⟩
    rw [hfst]
    exact hps
  · rintro ⟨rfl, hl⟩
    refine ⟨_, hl.location, mt.location, rfl, _, hl.participants, mt.registrations,
      ⟨rfl, hl.registrations⟩, ?_⟩
    rw [← hl.time]

/-- What `get_community_ceremony_stats` returns: the stored assignment and
    counts, the meetup count, and the meetups `1..=n` in order, each with what
    its reads gave. -/
theorem getCommunityCeremonyStats_eq_ok {s : CommunityCeremonyStats Account Params Location} :
    (getCommunityCeremonyStats fns sched st).run = some (.ok s) ↔
      st.assignments = some s.assignment ∧ st.assignmentCounts = some s.assignmentCount ∧
        s.meetupCount = st.meetupCount.getD 0 ∧
        s.meetups.map Meetup.index = meetupIndices s.meetupCount ∧
        ∀ mt ∈ s.meetups, MeetupListed fns sched st mt := by
  unfold getCommunityCeremonyStats
  simp only [Panicking.bind_eq_ok, Panicking.run_monadLift, Panicking.mapM_eq_ok,
    meetupStats_eq_ok, Panicking.forall₂_iff_map_eq, ExceptT.run_pure, Option.pure_def,
    Option.some.injEq, Except.ok.injEq, getAssignments_eq_ok, getAssignmentCounts_eq_ok,
    getMeetupCount]
  constructor
  · rintro ⟨_, hasg, _, hc, _, rfl, _, ⟨hidx, hlisted⟩, rfl⟩
    exact ⟨hasg, hc, rfl, hidx, hlisted⟩
  · rintro ⟨hasg, hc, hn, hidx, hlisted⟩
    refine ⟨_, hasg, _, hc, _, hn.symm, _, ⟨?_, hlisted⟩, rfl⟩
    rw [hidx, hn]

end Spec

/-! ## When the call returns, and when it panics -/

section Returns

variable [ToString Account] (fns : AssignmentFns Params) (sched : MeetupSchedule Location)
  {st : CeremonyStorage Account Params} {asg : Assignment Params} {c : AssignmentCount}
  {n : UInt64}

/-- A meetup in range with a location returns: its participants are registered. -/
theorem meetupStats_returns (hreg : Registries st) (hn : st.meetupCount.getD 0 = n)
    (hasg : st.assignments = some asg) (hc : st.assignmentCounts = some c) {m : UInt64}
    (hm : m ∈ meetupIndices n) {loc : Location}
    (hloc : sched.getMeetupLocation m = .ok (some loc)) :
    ∃ mt, (meetupStats fns sched st m).run = some (.ok mt) := by
  have hguard : ¬m - 1 > n := by
    have := mem_meetupIndices.1 hm
    grind
  have hpart := getMeetupParticipants_eq fns hn hguard hasg hc
  -- Every listed participant is a registration the client finds.
  obtain ⟨rs, hrs⟩ : ∃ rs, ((participantStreams (fns.positionsIn asg c n (m - 1)) st c).mapM
      fun p => do
        let r ← (getRegistration st p : ExceptT String Option Registration)
        pure (p, r)).run = some (.ok rs) := by
    refine Panicking.mapM_exists_ok fun p hp => ?_
    obtain ⟨t, i, hi, -⟩ := assigned_of_mem_participantStreams _ hreg rfl hp
    exact ⟨(p, ⟨i, t⟩), (registration_eq_ok st p _).2
      ⟨rfl, getRegistration_of_participantIndex hreg hi.1⟩⟩
  obtain ⟨hfst, hregs⟩ := (registrations_eq_ok st).1 hrs
  refine ⟨⟨m, loc, (sched.getMeetupTime loc).toOption.getD 0, rs⟩,
    (meetupStats_eq_ok fns sched st).2 ⟨rfl, hloc, rfl, ?_, hregs⟩⟩
  rw [hfst]
  exact hpart

/-- A meetup without a location panics. -/
theorem meetupStats_of_no_location {m : UInt64} (hloc : sched.getMeetupLocation m = .ok none) :
    (meetupStats fns sched st m).run = none := by
  unfold meetupStats
  simp [hloc]

/-- Under the storage invariants, with both assignment maps stored and a
    location for every meetup, `get_community_ceremony_stats` returns. -/
theorem getCommunityCeremonyStats_returns (hreg : Registries st)
    (hasg : st.assignments = some asg) (hc : st.assignmentCounts = some c)
    (hloc : ∀ m ∈ meetupIndices (st.meetupCount.getD 0),
      ∃ loc, sched.getMeetupLocation m = .ok (some loc)) :
    ∃ s, (getCommunityCeremonyStats fns sched st).run = some (.ok s) := by
  obtain ⟨mts, hmts⟩ := Panicking.mapM_exists_ok (f := meetupStats fns sched st)
    (l := meetupIndices (st.meetupCount.getD 0)) fun m hm => by
      obtain ⟨loc, hl⟩ := hloc m hm
      exact meetupStats_returns fns sched hreg rfl hasg hc hm hl
  have hall := Panicking.mapM_eq_ok.1 hmts
  simp only [meetupStats_eq_ok] at hall
  obtain ⟨hidx, hlisted⟩ := Panicking.forall₂_iff_map_eq.1 hall
  exact ⟨⟨asg, c, _, mts⟩, (getCommunityCeremonyStats_eq_ok fns sched st).2
    ⟨hasg, hc, rfl, hidx, hlisted⟩⟩

/-- With both assignment maps stored and no failed location read, a meetup
    without a location makes `get_community_ceremony_stats` panic. -/
theorem getCommunityCeremonyStats_panics (hreg : Registries st)
    (hasg : st.assignments = some asg) (hc : st.assignmentCounts = some c)
    (hread : ∀ m ∈ meetupIndices (st.meetupCount.getD 0),
      ∃ o, sched.getMeetupLocation m = .ok o)
    (hmissing : ∃ m ∈ meetupIndices (st.meetupCount.getD 0),
      sched.getMeetupLocation m = .ok none) :
    (getCommunityCeremonyStats fns sched st).run = none := by
  -- Each pass returns or panics; none returns an error.
  have hnoError : ∀ m ∈ meetupIndices (st.meetupCount.getD 0), ∀ e,
      (meetupStats fns sched st m).run ≠ some (.error e) := by
    intro m hm e
    obtain ⟨o, ho⟩ := hread m hm
    cases o with
    | none => simp [meetupStats_of_no_location fns sched ho]
    | some loc =>
      obtain ⟨mt, hmt⟩ := meetupStats_returns fns sched hreg rfl hasg hc hm ho
      simp [hmt]
  have hpanic := Panicking.mapM_eq_none hnoError (by
    obtain ⟨m, hm, hnone⟩ := hmissing
    exact ⟨m, hm, meetupStats_of_no_location fns sched hnone⟩)
  unfold getCommunityCeremonyStats
  simp [getAssignments, getAssignmentCounts, getMeetupCount, hasg, hc, hpanic]

end Returns

/-! ## The statistics partition the assigned registrations -/

section Partition

variable [ToString Account] (fns : AssignmentFns Params) (sched : MeetupSchedule Location)
  {st : CeremonyStorage Account Params} {asg : Assignment Params} {c : AssignmentCount}
  {n : UInt64} {s : CommunityCeremonyStats Account Params Location}

/-- The participants of a meetup of the statistics, with no repeats, and listed
    exactly when the assignment puts them there. -/
theorem meetup_participants (hfns : fns.Lawful) (hreg : Registries st)
    (hn : st.meetupCount = some n) (hasg : st.assignments = some asg)
    (hc : st.assignmentCounts = some c) (hbr : c.bootstrappers ≤ c.bootstrappers + c.reputables)
    (hs : (getCommunityCeremonyStats fns sched st).run = some (.ok s)) {mt : Meetup Account Location}
    (hmt : mt ∈ s.meetups) :
    (mt.registrations.map Prod.fst).Nodup ∧
      ∀ a, a ∈ mt.registrations.map Prod.fst ↔ AssignedTo fns st asg c n a mt.index := by
  obtain ⟨-, -, hcount, hidx, hlisted⟩ := (getCommunityCeremonyStats_eq_ok fns sched st).1 hs
  rw [hn, Option.getD_some] at hcount
  have hm : mt.index ∈ meetupIndices n := by
    rw [← hcount, ← hidx]
    exact List.mem_map_of_mem hmt
  obtain ⟨h1, h2⟩ := mem_meetupIndices.1 hm
  have hguard : ¬mt.index - 1 > n := by grind
  have hm0 : mt.index - 1 < n := by grind
  have hpart := (hlisted mt hmt).participants
  rw [getMeetupParticipants_eq fns (by rw [hn, Option.getD_some]) hguard hasg hc,
    Except.ok.injEq] at hpart
  refine ⟨?_, fun a => ?_⟩
  · -- The inverse lists each position of a meetup in range once.
    rw [← hpart]
    refine nodup_participantStreams hreg fun t => ?_
    obtain ⟨l, hl, hnodup, -⟩ := hfns.inverse_spec _ (asg.paramsOf t) n (c.groupCount t) hm0
    rw [AssignmentFns.positionsIn, hl, Option.getD_some]
    exact hnodup
  · obtain ⟨l, hl, hmem⟩ := mem_getMeetupParticipants_iff fns hfns hreg hn hasg hc hbr h1 h2
    rw [getMeetupParticipants_eq fns (by rw [hn, Option.getD_some]) hguard hasg hc,
      Except.ok.injEq, hpart] at hl
    rw [hl]
    exact hmem a

/-- Each meetup of the statistics lists exactly the accounts the assignment
    puts there. -/
theorem mem_meetup_iff (hfns : fns.Lawful) (hreg : Registries st)
    (hn : st.meetupCount = some n) (hasg : st.assignments = some asg)
    (hc : st.assignmentCounts = some c) (hbr : c.bootstrappers ≤ c.bootstrappers + c.reputables)
    (hs : (getCommunityCeremonyStats fns sched st).run = some (.ok s)) {mt : Meetup Account Location}
    (hmt : mt ∈ s.meetups) (a : Account) :
    a ∈ mt.registrations.map Prod.fst ↔ AssignedTo fns st asg c n a mt.index :=
  (meetup_participants fns sched hfns hreg hn hasg hc hbr hs hmt).2 a

/-- No account appears twice in the statistics: not twice in one meetup, and
    not in two meetups. -/
theorem statsParticipants_nodup (hfns : fns.Lawful) (hreg : Registries st)
    (hn : st.meetupCount = some n) (hasg : st.assignments = some asg)
    (hc : st.assignmentCounts = some c) (hbr : c.bootstrappers ≤ c.bootstrappers + c.reputables)
    (hs : (getCommunityCeremonyStats fns sched st).run = some (.ok s)) :
    (s.meetups.flatMap fun mt => mt.registrations.map Prod.fst).Nodup := by
  obtain ⟨-, -, -, hidx, -⟩ := (getCommunityCeremonyStats_eq_ok fns sched st).1 hs
  have hdistinct : (s.meetups.map Meetup.index).Nodup := by
    rw [hidx]
    exact nodup_meetupIndices _
  refine List.nodup_flatMap.2 ⟨fun mt hmt =>
    (meetup_participants fns sched hfns hreg hn hasg hc hbr hs hmt).1, ?_⟩
  -- Two meetups of different indices share no account: it has one meetup.
  refine (List.pairwise_map.1 hdistinct).imp_of_mem fun {mt mt'} hmt hmt' hne a ha ha' => ?_
  have h := (mem_meetup_iff fns sched hfns hreg hn hasg hc hbr hs hmt a).1 ha
  have h' := (mem_meetup_iff fns sched hfns hreg hn hasg hc hbr hs hmt' a).1 ha'
  exact hne (h.unique hreg h')

/-- The statistics list exactly the registrations that got a meetup. -/
theorem mem_statsParticipants_iff (hfns : fns.Lawful) (hreg : Registries st)
    (hn : st.meetupCount = some n) (hn0 : 0 < n) (hasg : st.assignments = some asg)
    (hc : st.assignmentCounts = some c) (hbr : c.bootstrappers ≤ c.bootstrappers + c.reputables)
    (hs : (getCommunityCeremonyStats fns sched st).run = some (.ok s)) (a : Account) :
    a ∈ (s.meetups.flatMap fun mt => mt.registrations.map Prod.fst) ↔
      ∃ t i, Assigned st c a t i := by
  rw [List.mem_flatMap]
  constructor
  · rintro ⟨mt, hmt, ha⟩
    obtain ⟨t, i, hi, -⟩ := (mem_meetup_iff fns sched hfns hreg hn hasg hc hbr hs hmt a).1 ha
    exact ⟨t, i, hi⟩
  · rintro ⟨t, i, hi⟩
    -- The registration's meetup is one of `1..=n`, and the statistics list it.
    obtain ⟨m, hm, h1, h2⟩ := hfns.meetupIndex_mem (c.position t i) (asg.paramsOf t) n hn0
    obtain ⟨-, -, hcount, hidx, -⟩ := (getCommunityCeremonyStats_eq_ok fns sched st).1 hs
    rw [hn, Option.getD_some] at hcount
    have hmem : m ∈ s.meetups.map Meetup.index := by
      rw [hidx, hcount]
      exact mem_meetupIndices.2 ⟨h1, h2⟩
    obtain ⟨mt, hmt, rfl⟩ := List.mem_map.1 hmem
    exact ⟨mt, hmt, (mem_meetup_iff fns sched hfns hreg hn hasg hc hbr hs hmt a).2 ⟨t, i, hi, hm⟩⟩

end Partition

/-! ## Statistics of one meetup

On `oneMeetupStorage` the statistics hold one meetup, with `Alice`; the
endorsee `Bob`, whose registration got no meetup, is in none. -/

/-- Every meetup at one place, at time `0`. -/
def onePlaceSchedule : MeetupSchedule Unit := ⟨fun _ => .ok (some ()), fun _ => .ok 0⟩

/-- No meetup has a location. -/
def noPlaceSchedule : MeetupSchedule Unit := ⟨fun _ => .ok none, fun _ => .ok 0⟩

/-- The statistics of `oneMeetupStorage`. -/
def oneMeetupStats : CommunityCeremonyStats String Unit Unit :=
  ⟨⟨(), (), ()⟩, ⟨1, 0, 0, 0⟩, 1, [⟨1, (), 0, [("Alice", ⟨1, .bootstrapper⟩)]⟩]⟩

theorem getCommunityCeremonyStats_returns_oneMeetup :
    ∃ s, (getCommunityCeremonyStats roundRobin onePlaceSchedule oneMeetupStorage).run =
      some (.ok s) :=
  getCommunityCeremonyStats_returns roundRobin onePlaceSchedule oneMeetupStorage_registries rfl rfl
    fun _ _ => ⟨(), rfl⟩

theorem getCommunityCeremonyStats_panics_noPlace :
    (getCommunityCeremonyStats roundRobin noPlaceSchedule oneMeetupStorage).run = none :=
  getCommunityCeremonyStats_panics roundRobin noPlaceSchedule oneMeetupStorage_registries rfl rfl
    (fun _ _ => ⟨none, rfl⟩) ⟨1, by decide, rfl⟩

theorem statsParticipants_nodup_oneMeetup :
    (oneMeetupStats.meetups.flatMap fun mt => mt.registrations.map Prod.fst).Nodup :=
  statsParticipants_nodup roundRobin onePlaceSchedule roundRobin_lawful oneMeetupStorage_registries
    rfl rfl rfl (by decide) rfl

theorem mem_statsParticipants_iff_bob :
    "Bob" ∈ (oneMeetupStats.meetups.flatMap fun mt => mt.registrations.map Prod.fst) ↔
      ∃ t i, Assigned oneMeetupStorage ⟨1, 0, 0, 0⟩ "Bob" t i :=
  mem_statsParticipants_iff roundRobin onePlaceSchedule roundRobin_lawful
    oneMeetupStorage_registries rfl (by decide) rfl rfl (by decide) rfl "Bob"

end Ceremonies
