-- SUMMARY: The client's reads of the ceremonies pallet's storage: registrations, meetup count, assignments, and the forward (`get_meetup_index`) and inverse (`get_meetup_participants`) views of the meetup assignment.
import Mathlib.Data.List.Basic

/-! # The ceremonies API of the client

`cli/encointer-api-client-extension/src/ceremonies.rs` reads the storage of the
`EncointerCeremonies` pallet to tell a participant which meetup it is assigned
to, and to list the participants of a meetup. Both rest on the assignment
functions of the `encointer_ceremonies_assignment` crate, which lies outside
this repository and enters the model as the parameters `AssignmentFns`.

Participants are registered in four groups, each a registry from a 1-based
index to the account and an index map back. For the assignment, bootstrappers
and reputables form one group: a reputable with index `i` sits at position
`i - 1 + bootstrappers` of it, where `bootstrappers` is the assigned count.

All reads of one call are at one community ceremony and one block, so the model
takes the storage there, `CeremonyStorage`. A storage read returns what is
stored; failures of the RPC connection are not modelled. The indices are `u64`,
and the client is built without overflow checks, so `0 - 1` wraps. -/

namespace Ceremonies

/-- `RegistrationType`. -/
inductive RegistrationType where
  | bootstrapper
  | reputable
  | endorsee
  | newbie
  deriving DecidableEq, Repr

/-- `Registration`: a 1-based index into the registry of a group. -/
structure Registration where
  index : UInt64
  registrationType : RegistrationType
  deriving DecidableEq, Repr

/-- `Assignment`, without the location parameters that no function modelled here
    reads. -/
structure Assignment (Params : Type) where
  bootstrappersReputables : Params
  endorsees : Params
  newbies : Params

/-- `AssignmentCount`: how many of each group got a meetup. -/
structure AssignmentCount where
  bootstrappers : UInt64
  reputables : UInt64
  endorsees : UInt64
  newbies : UInt64
  deriving DecidableEq, Repr

/-- What the client uses of `encointer_ceremonies_assignment`. -/
structure AssignmentFns (Params : Type) where
  /-- `meetup_index(participant_index, params, meetup_count)`: the 1-based meetup
      of the participant at a 0-based position of its group. -/
  meetupIndex : UInt64 → Params → UInt64 → Option UInt64
  /-- `assignment_fn_inverse(meetup_index, params, meetup_count, participant_count)`:
      the 0-based positions the 0-based meetup holds. -/
  assignmentFnInverse : UInt64 → Params → UInt64 → UInt64 → Option (List UInt64)

/-- The storage of `EncointerCeremonies` at one community ceremony: the maps
    `MeetupCount`, `Assignments` and `AssignmentCounts`, the registries
    `BootstrapperRegistry` to `NewbieRegistry` by group, and the index maps
    `BootstrapperIndex` to `NewbieIndex` by group. -/
structure CeremonyStorage (Account Params : Type) where
  meetupCount : Option UInt64
  assignments : Option (Assignment Params)
  assignmentCounts : Option AssignmentCount
  registry : RegistrationType → UInt64 → Option Account
  participantIndex : RegistrationType → Account → Option UInt64

/-- `Result::ok().flatten()`: a failed read or an empty slot is skipped. -/
def okFlatten {ε α : Type} : Except ε (Option α) → Option α
  | .ok (some a) => some a
  | _ => none

variable {Account Params : Type} (fns : AssignmentFns Params)

section Reads

variable (st : CeremonyStorage Account Params)

/-- `get_assignments`. -/
def getAssignments : Except String (Assignment Params) :=
  match st.assignments with
  | some a => .ok a
  | none => .error "Assignments don't exist"

/-- `get_assignment_counts`. -/
def getAssignmentCounts : Except String AssignmentCount :=
  match st.assignmentCounts with
  | some c => .ok c
  | none => .error "AssignmentCounts not found"

/-- The registry read of one group, at a 1-based index. -/
def getRegistryEntry (t : RegistrationType) (p : UInt64) : Except String (Option Account) :=
  .ok (st.registry t p)

/-- `get_bootstrapper`. -/
def getBootstrapper (p : UInt64) : Except String (Option Account) :=
  getRegistryEntry st .bootstrapper p

/-- `get_reputable`. -/
def getReputable (p : UInt64) : Except String (Option Account) :=
  getRegistryEntry st .reputable p

/-- `get_endorsee`. -/
def getEndorsee (p : UInt64) : Except String (Option Account) :=
  getRegistryEntry st .endorsee p

/-- `get_newbie`. -/
def getNewbie (p : UInt64) : Except String (Option Account) :=
  getRegistryEntry st .newbie p

/-- The order in which `get_registration` queries the index maps. -/
def registrationOrder : List RegistrationType := [.bootstrapper, .reputable, .endorsee, .newbie]

/-- `get_registration`: the first index map, in `registrationOrder`, that holds
    the account. The message shows the account as `{:?}` does, here `toString`. -/
def getRegistration [ToString Account] (a : Account) : Except String Registration :=
  match registrationOrder.findSome? (fun t => (st.participantIndex t a).map (Registration.mk · t)) with
  | some r => .ok r
  | none => .error ("Could not get participant index for " ++ toString a)

/-- `get_meetup_count`: a missing count reads as `0`. -/
def getMeetupCount : Except String UInt64 :=
  .ok (st.meetupCount.getD 0)

/-- `get_meetup_index`. The assigned bootstrapper count is read only for a
    reputable. -/
def getMeetupIndex [ToString Account] (a : Account) : Except String (Option UInt64) := do
  let meetupCount ← getMeetupCount st
  if meetupCount = 0 then return none
  let assignments ← getAssignments st
  let registration ← getRegistration st a
  match registration.registrationType with
  | .bootstrapper =>
    pure (fns.meetupIndex (registration.index - 1) assignments.bootstrappersReputables meetupCount)
  | .reputable =>
    let bootstrapperCount := (← getAssignmentCounts st).bootstrappers
    pure (fns.meetupIndex (registration.index - 1 + bootstrapperCount)
      assignments.bootstrappersReputables meetupCount)
  | .endorsee => pure (fns.meetupIndex (registration.index - 1) assignments.endorsees meetupCount)
  | .newbie => pure (fns.meetupIndex (registration.index - 1) assignments.newbies meetupCount)

/-- `get_bootstrapper_or_reputable`: a position of the combined group, read in
    the registry it falls in; past both assigned counts, nobody. -/
def getBootstrapperOrReputable (pIndex : UInt64) (assigned : AssignmentCount) :
    Except String (Option Account) :=
  if pIndex < assigned.bootstrappers then getBootstrapper st (pIndex + 1)
  else if pIndex < assigned.bootstrappers + assigned.reputables then
    getReputable st (pIndex - assigned.bootstrappers + 1)
  else .ok none

/-- The bootstrapper and reputable stream of `get_meetup_participants`: each
    position the inverse assignment lists, read by `get_bootstrapper_or_reputable`. -/
def listBootstrappersReputables (positions : Option (List UInt64)) (assigned : AssignmentCount) :
    List Account :=
  (positions.getD []).filterMap fun pIndex => okFlatten (getBootstrapperOrReputable st pIndex assigned)

/-- The endorsee and newbie streams of `get_meetup_participants`: the positions
    the inverse assignment lists, kept below the assigned count of the group,
    each read in the group's registry at index `p + 1`. -/
def listAssigned (t : RegistrationType) (positions : Option (List UInt64)) (assignedCount : UInt64) :
    List Account :=
  ((positions.getD []).filter (· < assignedCount)).filterMap
    fun p => okFlatten (getRegistryEntry st t (p + 1))

/-- `get_meetup_participants`: the bootstrappers and reputables, then the
    endorsees, then the newbies that the inverse assignment puts in the meetup. -/
def getMeetupParticipants (meetupIndex : UInt64) : Except String (List Account) := do
  let meetupIndexZeroBased := meetupIndex - 1
  let meetupCount ← getMeetupCount st
  if meetupIndexZeroBased > meetupCount then
    throw ("Invalid meetup index > meetup count: " ++ toString meetupIndexZeroBased ++ ", " ++
      toString meetupCount)
  let params ← getAssignments st
  let assigned ← getAssignmentCounts st
  let bootstrappersReputables := listBootstrappersReputables st
    (fns.assignmentFnInverse meetupIndexZeroBased params.bootstrappersReputables meetupCount
      (assigned.bootstrappers + assigned.reputables))
    assigned
  let endorsees := listAssigned st .endorsee
    (fns.assignmentFnInverse meetupIndexZeroBased params.endorsees meetupCount assigned.endorsees)
    assigned.endorsees
  let newbies := listAssigned st .newbie
    (fns.assignmentFnInverse meetupIndexZeroBased params.newbies meetupCount assigned.newbies)
    assigned.newbies
  pure (bootstrappersReputables ++ endorsees ++ newbies)

end Reads

end Ceremonies
