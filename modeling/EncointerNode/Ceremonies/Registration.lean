-- SUMMARY: The client's ceremony commands that submit extrinsics: `register_participant`, `upgrade_registration`, `unregister_participant`, `attest_attendees`, `claim_reward` and `endorse`; the phase and reputation each requires, what it submits, and that a run that stops has submitted nothing, or for `endorse` only the endorsements before the one it could not pay.
import Mathlib
import EncointerNode.Stdlib.Collections
import EncointerNode.Stdlib.Process
import EncointerNode.Client.Identifiers
import EncointerNode.Ceremonies.CeremonyIndex
import EncointerNode.Ceremonies.Reputables
import EncointerNode.Communities.NewCommunity

/-! # Registering for a ceremony, attesting, claiming and endorsing

The commands of `commands/encointer_ceremonies.rs` that take part in a
ceremony read a little of the chain, check it, compose an extrinsic and
submit it once its signer can pay the fee; `ensure_payment` exits with
`FEE_PAYMENT_FAILED` otherwise.

* `register_participant` registers an account for the current ceremony. Where
  its reputation from the last ceremony is verified, it sends along a proof
  of attendance: its own signature of `(account, cindex - 1)`
  (`registerParticipant_eq_ok`).
* `upgrade_registration` sends such a proof for an account already
  registered, from the last ceremony while registering and from the current
  one while attesting. A reputation there that is not verified and unlinked
  makes it exit with `INVALID_REPUTATION`
  (`upgradeRegistration_invalidReputation`).
* `unregister_participant` withdraws a registration, naming the ceremony of
  the reputation it had linked, if any.

These three accept the registering and the attesting phase only, and exit
with `WRONG_PHASE` in the assigning one. All their checks come before the
extrinsic is submitted, so that a run that stops has submitted nothing
(`registerParticipant_failureAtomic` and the two after it).

* `attest_attendees` submits the accounts an attendee attests, with its vote
  on the number of participants of its meetup: the accounts and itself
  (`attestAttendees_eq_ok`).
* `claim_reward --all` claims in one `utility.batch` the rewards of every
  meetup `1..=n` of a ceremony, `n` its meetup count: of the last ceremony
  while registering, of the current one otherwise (`claimReward_all_eq_ok`).
* `endorse` has a bootstrapper endorse newcomers, an extrinsic each, with
  consecutive nonces from the bootstrapper's current one. It checks the fee
  of each before it submits it, so an endorsement the bootstrapper cannot pay
  ends the command after the endorsements before it (`endorse_exits`).

Extrinsics are syntax here: their encoding, the metadata calls are composed
against and the wait for the node's report are left out. -/

namespace Ceremonies

open Command Process Client
open Communities (CeremonyPhaseType wrongPhase feePaymentFailed)

/-- `exit_code::INVALID_REPUTATION`. -/
def invalidReputation : Int := 52

/-- `ProofOfAttendance`: the attendee's signature of `(prover, cindex)`, which
    proves that the prover attended ceremony `cindex` of the community. -/
structure ProofOfAttendance (Sig Account Cid : Type) where
  proverPublic : Account
  communityIdentifier : Cid
  ceremonyIndex : UInt32
  attendeePublic : Account
  attendeeSignature : Sig

/-- The calls the commands compose: those of `EncointerCeremonies`, and
    `utility.batch`. -/
inductive CeremoniesCall (Sig Account Cid : Type) where
  | registerParticipant (cid : Cid) (proof : Option (ProofOfAttendance Sig Account Cid))
  | upgradeRegistration (cid : Cid) (proof : ProofOfAttendance Sig Account Cid)
  | unregisterParticipant (cid : Cid) (cc : Option (Cid × UInt32))
  | attestAttendees (cid : Cid) (vote : UInt32) (attestees : List Account)
  | claimRewards (cid : Cid) (meetupIndex : Option UInt64)
  | endorseNewcomer (cid : Cid) (endorsee : Account)
  | batch (calls : List (CeremoniesCall Sig Account Cid))

/-- An extrinsic: who signs it, its call, and the nonce it was composed with
    offline; `none` where `compose_extrinsic!` takes the signer's next nonce
    itself. -/
structure Extrinsic (Sig Account Cid : Type) where
  signer : Account
  call : CeremoniesCall Sig Account Cid
  nonce : Option UInt32

/-- What the commands read of the chain and the node. A failed read of
    `ParticipantReputation` or `MeetupCount` is `none`, as a missing entry
    is. -/
structure RegistrationChain (Sig Account Cid : Type) where
  communityIdentifiers : Option (List Cid)
  ceremonyIndex : UInt32
  /-- `get_current_phase`, an error where the read fails. -/
  currentPhase : Except String CeremonyPhaseType
  participantReputation : Cid → UInt32 → Account → Option Reputation
  meetupCount : Cid → UInt32 → Option UInt64
  /-- `get_nonce` of an account. -/
  nonce : Account → Except String UInt32
  /-- Whether the signer can pay the fee of an extrinsic, in the native token
      or in the community currency `--tx-payment-cid` names. -/
  canPay : Extrinsic Sig Account Cid → Bool
  /-- The `Debug` text of the status the node reports once an extrinsic is
      ready. -/
  readyStatus : String

/-- The client: what it printed and the extrinsics it submitted. -/
abbrev ClientState (Sig Account Cid : Type) := Process (Extrinsic Sig Account Cid)

variable {Pair Account Cid Sig σ : Type}

/-- `get_reputation`: `Unverified` where the storage holds none. -/
def getReputation (chain : RegistrationChain Sig Account Cid) (prover : Account) (cid : Cid)
    (cindex : UInt32) : Reputation :=
  (chain.participantReputation cid cindex prover).getD .unverified

/-- The ceremony whose outcome counts in a phase: while registering, the last
    one. `u32` subtraction wraps. -/
def cindexOfPhase (currentPhase : CeremonyPhaseType) (cindex : UInt32) : UInt32 :=
  if currentPhase = .registering then cindex - 1 else cindex

/-- The phase check of the registration commands: registering and attesting
    only. -/
def ensureRegistrationPhase (currentPhase : CeremonyPhaseType) : Command σ Unit :=
  if !(currentPhase == .registering || currentPhase == .attesting) then stop (.exit wrongPhase)
  else pure ()

theorem ensureRegistrationPhase_eq_ok {phase : CeremonyPhaseType}
    (h : phase = .registering ∨ phase = .attesting) (s : σ) :
    ensureRegistrationPhase phase s = .ok () s := by
  rcases h with rfl | rfl <;> rfl

theorem ensureRegistrationPhase_assigning (s : σ) :
    ensureRegistrationPhase .assigning s = .stop (.exit wrongPhase) s := rfl

theorem ensureRegistrationPhase_guard (phase : CeremonyPhaseType) :
    Guard (ensureRegistrationPhase phase : Command σ Unit) :=
  Guard.ite (Guard.stop _) (Guard.pure _)

/-! ## Reading the arguments and submitting -/

section Steps

variable (keys : KeyOps Pair Account Cid) (sign : Pair → Account × UInt32 → Sig)
  (chain : RegistrationChain Sig Account Cid)

/-- The signer of the registration commands: `--signer`, or else the account
    itself. -/
def signerPair (argWho : String) (signerArg : Option String) : Command σ Pair :=
  orPanic (keys.getPairFromStr (signerArg.getD argWho))

/-- `prove_attendance`: the attendee signs `(prover, cindex)`. -/
def proveAttendance (prover : Account) (cid : Cid) (cindex : UInt32) (attendeeStr : String) :
    Command σ (ProofOfAttendance Sig Account Cid) := do
  let attendee ← orPanic (keys.getPairFromStr attendeeStr)
  let attendeeid ← getAccountidFromStr keys attendeeStr
  pure ⟨prover, cid, cindex, attendeeid, sign attendee (prover, cindex)⟩

/-- `ensure_payment`: exit when the signer cannot pay the fee. -/
def ensurePayment (xt : Extrinsic Sig Account Cid) : Command (ClientState Sig Account Cid) Unit :=
  if !chain.canPay xt then stop (.exit feePaymentFailed) else pure ()

/-- `ensure_payment`, then `submit_and_watch_extrinsic_until` or
    `send_and_wait_for_in_block`: the node takes the extrinsic. A failed
    submission panics, and is left out. -/
def submit (xt : Extrinsic Sig Account Cid) : Command (ClientState Sig Account Cid) Unit := do
  ensurePayment chain xt
  send xt

theorem signerPair_check (argWho : String) (signerArg : Option String) :
    Check (signerPair keys argWho signerArg : Command σ Pair) :=
  Check.orPanic _

theorem signerPair_eq_ok {argWho : String} {signerArg : Option String} {signer : Pair}
    (hsigner : keys.getPairFromStr (signerArg.getD argWho) = .ok signer) (s : σ) :
    signerPair keys argWho signerArg s = .ok signer s := by
  rw [signerPair, hsigner, orPanic_ok]
  rfl

theorem proveAttendance_check (prover : Account) (cid : Cid) (cindex : UInt32) (attendeeStr : String) :
    Check (proveAttendance keys sign prover cid cindex attendeeStr : Command σ _) :=
  Check.bind (Check.orPanic _) fun _ =>
    Check.bind (getAccountidFromStr_check keys _) fun _ => Check.pure _

/-- The proof an account gives of its own attendance, signed with its key. -/
def ownProof (attendee : Pair) (a : Account) (cid : Cid) (cindex : UInt32) :
    ProofOfAttendance Sig Account Cid :=
  ⟨a, cid, cindex, a, sign attendee (a, cindex)⟩

/-- An account whose address reads back and whose key the keystore holds
    proves its own attendance. -/
theorem proveAttendance_eq_ok (hkeys : keys.Lawful) {a : Account} {attendee : Pair}
    (hattendee : keys.getPairFromStr (keys.toSs58check a) = .ok attendee) (cid : Cid)
    (cindex : UInt32) (s : σ) :
    proveAttendance keys sign a cid cindex (keys.toSs58check a) s =
      .ok (ownProof sign attendee a cid cindex) s := by
  rw [proveAttendance, hattendee, orPanic_ok, Command.pure_bind,
    bind_of_ok (getAccountidFromStr_toSs58check hkeys a s)]
  rfl

theorem ensurePayment_guard (xt : Extrinsic Sig Account Cid) : Guard (ensurePayment chain xt) :=
  Guard.ite (Guard.stop _) (Guard.pure _)

theorem submit_eq_ok {xt : Extrinsic Sig Account Cid} (hpay : chain.canPay xt)
    (p : ClientState Sig Account Cid) :
    submit chain xt p = .ok () { p with sent := p.sent ++ [xt] } := by
  have hpaid : ensurePayment chain xt p = .ok () p := by
    rw [ensurePayment, if_neg (by simp [hpay])]
    rfl
  rw [submit, bind_of_ok hpaid, send_eq]

theorem submit_exits {xt : Extrinsic Sig Account Cid} (hpay : chain.canPay xt = false)
    (p : ClientState Sig Account Cid) :
    submit chain xt p = .stop (.exit feePaymentFailed) p := by
  have hunpaid : ensurePayment chain xt p = .stop (.exit feePaymentFailed) p := by
    rw [ensurePayment, if_pos (by simp [hpay])]
    rfl
  rw [submit, bind_of_stop hunpaid]

theorem submit_failureAtomic (xt : Extrinsic Sig Account Cid) : FailureAtomic (submit chain xt) :=
  FailureAtomic.bind (ensurePayment_guard chain xt) fun _ => FailureAtomic.modify _

variable [DecidableEq Cid]

/-- The `--cid` argument, which must name a registered community. -/
def verifyCliCid (cidArg : Option String) : Command σ Cid := do
  verifyCid keys chain.communityIdentifiers (← expect cidArg "please supply argument --cid")

theorem verifyCliCid_check (cidArg : Option String) :
    Check (verifyCliCid keys chain cidArg : Command σ Cid) :=
  Check.bind (Check.expect _ _) fun cid => verifyCid_check keys _ cid

theorem verifyCliCid_eq_ok (hkeys : keys.Lawful) {cids : List Cid} {c : Cid}
    (hcids : chain.communityIdentifiers = some cids) (hc : c ∈ cids) (s : σ) :
    verifyCliCid keys chain (some (keys.cidToString c)) s = .ok c s := by
  rw [verifyCliCid, expect_some, Command.pure_bind, hcids]
  exact verifyCid_cidToString hkeys hc s

end Steps

/-! ## `register_participant`, `upgrade_registration` and `unregister_participant` -/

section Registration

variable (keys : KeyOps Pair Account Cid) (sign : Pair → Account × UInt32 → Sig)
  (chain : RegistrationChain Sig Account Cid)

/-- The match on the reputation from the last ceremony in
    `register_participant`: a proof where it was verified. -/
def registrationProof (accountid : Account) (cid : Cid) (cindex : UInt32) (argWho : String) :
    Reputation → Command σ (Option (ProofOfAttendance Sig Account Cid))
  | .unverified => pure none
  | .unverifiedReputable => pure none
  | .verifiedUnlinked => return some (← proveAttendance keys sign accountid cid cindex argWho)
  | .verifiedLinked _ => return some (← proveAttendance keys sign accountid cid cindex argWho)

/-- The match on the reputation in `upgrade_registration`: only a verified
    reputation that no registration has linked yet gives a proof. -/
def upgradeProof (accountid : Account) (cid : Cid) (cindex : UInt32) (argWho : String) :
    Reputation → Command σ (ProofOfAttendance Sig Account Cid)
  | .verifiedUnlinked => proveAttendance keys sign accountid cid cindex argWho
  | _ => stop (.exit invalidReputation)

/-- The match on `--cindex` in `unregister_participant`: the community
    ceremony of the reputation the registration linked, if the argument names
    one. -/
def communityCeremonyArg (cid : Cid) (currentCeremonyIndex : UInt32) :
    Option Int32 → Command σ (Option (Cid × UInt32))
  | some cindexArg => do
    let cindex ← intoEffectiveCindex cindexArg currentCeremonyIndex
    pure (some (cid, cindex))
  | none => pure none

theorem registrationProof_check (accountid : Account) (cid : Cid) (cindex : UInt32) (argWho : String)
    (rep : Reputation) :
    Check (registrationProof keys sign accountid cid cindex argWho rep : Command σ _) := by
  have hprove : Check (do
      let proof ← (proveAttendance keys sign accountid cid cindex argWho : Command σ _)
      pure (some proof)) :=
    Check.bind (proveAttendance_check keys sign accountid cid cindex argWho) fun proof =>
      Check.pure (some proof)
  cases rep with
  | unverified => exact Check.pure none
  | unverifiedReputable => exact Check.pure none
  | verifiedUnlinked => exact hprove
  | verifiedLinked _ => exact hprove

/-- For an account that signs its own proof, the proof is there exactly when
    its reputation is verified. -/
theorem registrationProof_eq_ok (hkeys : keys.Lawful) {a : Account} {attendee : Pair}
    (hattendee : keys.getPairFromStr (keys.toSs58check a) = .ok attendee) (cid : Cid)
    (cindex : UInt32) (rep : Reputation) (s : σ) :
    registrationProof keys sign a cid cindex (keys.toSs58check a) rep s =
      .ok (if rep.verified then some (ownProof sign attendee a cid cindex) else none) s := by
  have hprove := proveAttendance_eq_ok keys sign hkeys hattendee cid cindex s
  cases rep with
  | unverified => rfl
  | unverifiedReputable => rfl
  | verifiedUnlinked => rw [registrationProof, bind_of_ok hprove]; rfl
  | verifiedLinked _ => rw [registrationProof, bind_of_ok hprove]; rfl

theorem upgradeProof_guard (accountid : Account) (cid : Cid) (cindex : UInt32) (argWho : String)
    (rep : Reputation) : Guard (upgradeProof keys sign accountid cid cindex argWho rep : Command σ _) := by
  cases rep with
  | verifiedUnlinked => exact (proveAttendance_check keys sign accountid cid cindex argWho).guard
  | unverified => exact Guard.stop _
  | unverifiedReputable => exact Guard.stop _
  | verifiedLinked _ => exact Guard.stop _

/-- Any reputation but a verified, unlinked one gives no proof: the exit. -/
theorem upgradeProof_of_ne {rep : Reputation} (hrep : rep ≠ .verifiedUnlinked) (accountid : Account)
    (cid : Cid) (cindex : UInt32) (argWho : String) (s : σ) :
    upgradeProof keys sign accountid cid cindex argWho rep s = .stop (.exit invalidReputation) s := by
  cases rep with
  | verifiedUnlinked => exact absurd rfl hrep
  | unverified => rfl
  | unverifiedReputable => rfl
  | verifiedLinked _ => rfl

theorem communityCeremonyArg_check (cid : Cid) (current : UInt32) (ceremonyIndexArg : Option Int32) :
    Check (communityCeremonyArg cid current ceremonyIndexArg : Command σ _) := by
  cases ceremonyIndexArg with
  | some ci => exact Check.bind (intoEffectiveCindex_check ci _) fun _ => Check.pure _
  | none => exact Check.pure none

/-- The registration `register_participant` submits for an account that signs
    its own proof: with the proof where its reputation from the last ceremony
    is verified. -/
def registrationOf (signer : Account) (a : Account) (attendee : Pair) (c : Cid) :
    Extrinsic Sig Account Cid :=
  let cindex := chain.ceremonyIndex - 1
  ⟨signer, .registerParticipant c
    (if (getReputation chain a c cindex).verified then some (ownProof sign attendee a c cindex)
    else none), none⟩

variable [DecidableEq Cid]

/-- `register_participant`. -/
def registerParticipant (argWho : String) (signerArg cidArg : Option String) :
    Command (ClientState Sig Account Cid) Unit := do
  let accountid ← getAccountidFromStr keys argWho
  let signer ← signerPair keys argWho signerArg
  let cindex := chain.ceremonyIndex
  let cid ← verifyCliCid keys chain cidArg
  let proof ← registrationProof keys sign accountid cid (cindex - 1) argWho
    (getReputation chain accountid cid (cindex - 1))
  let currentPhase ← unwrapOk chain.currentPhase
  ensureRegistrationPhase currentPhase
  submit chain ⟨keys.accountOf signer, .registerParticipant cid proof, none⟩

/-- `upgrade_registration`. -/
def upgradeRegistration (argWho : String) (signerArg cidArg : Option String) :
    Command (ClientState Sig Account Cid) Unit := do
  let accountid ← getAccountidFromStr keys argWho
  let signer ← signerPair keys argWho signerArg
  let cindex := chain.ceremonyIndex
  let cid ← verifyCliCid keys chain cidArg
  let currentPhase ← unwrapOk chain.currentPhase
  ensureRegistrationPhase currentPhase
  let reputationCindex := cindexOfPhase currentPhase cindex
  let proof ← upgradeProof keys sign accountid cid reputationCindex argWho
    (getReputation chain accountid cid reputationCindex)
  submit chain ⟨keys.accountOf signer, .upgradeRegistration cid proof, none⟩

/-- `unregister_participant`. -/
def unregisterParticipant (argWho : String) (signerArg cidArg : Option String)
    (ceremonyIndexArg : Option Int32) : Command (ClientState Sig Account Cid) Unit := do
  let signer ← signerPair keys argWho signerArg
  let cid ← verifyCliCid keys chain cidArg
  let cc ← communityCeremonyArg cid chain.ceremonyIndex ceremonyIndexArg
  let currentPhase ← unwrapOk chain.currentPhase
  ensureRegistrationPhase currentPhase
  submit chain ⟨keys.accountOf signer, .unregisterParticipant cid cc, none⟩

section Reads

/-! What the three commands read before the phase check, for an account
whose address reads back, a signer whose key the keystore holds, and a
registered community. -/

variable {keys} {cids : List Cid} {c : Cid} {a : Account} {attendee signer : Pair}
  {phase : CeremonyPhaseType} {signerArg : Option String}
  (hkeys : keys.Lawful) (hcids : chain.communityIdentifiers = some cids) (hc : c ∈ cids)
  (hsigner : keys.getPairFromStr (signerArg.getD (keys.toSs58check a)) = .ok signer)
  (hphase : chain.currentPhase = .ok phase)
include hkeys hcids hc hsigner hphase

/-- Once it has read its arguments and the chain, `register_participant`
    checks the phase and submits the registration. -/
theorem registerParticipant_eq
    (hattendee : keys.getPairFromStr (keys.toSs58check a) = .ok attendee)
    (p : ClientState Sig Account Cid) :
    registerParticipant keys sign chain (keys.toSs58check a) signerArg (some (keys.cidToString c)) p =
      (ensureRegistrationPhase phase >>= fun _ =>
        submit chain (registrationOf sign chain (keys.accountOf signer) a attendee c)) p := by
  rw [registerParticipant, bind_of_ok (getAccountidFromStr_toSs58check hkeys a p),
    bind_of_ok (signerPair_eq_ok keys hsigner p), bind_of_ok (verifyCliCid_eq_ok keys chain hkeys hcids hc p),
    bind_of_ok (registrationProof_eq_ok keys sign hkeys hattendee c _ _ p), hphase, unwrapOk_ok,
    Command.pure_bind]
  rfl

/-- While registering or attesting, and when the signer can pay, the
    registration is submitted. -/
theorem registerParticipant_eq_ok
    (hattendee : keys.getPairFromStr (keys.toSs58check a) = .ok attendee)
    (hregistration : phase = .registering ∨ phase = .attesting)
    (hpay : chain.canPay (registrationOf sign chain (keys.accountOf signer) a attendee c))
    (p : ClientState Sig Account Cid) :
    registerParticipant keys sign chain (keys.toSs58check a) signerArg (some (keys.cidToString c)) p =
      .ok () { p with sent := p.sent ++ [registrationOf sign chain (keys.accountOf signer) a attendee c] } := by
  rw [registerParticipant_eq sign chain hkeys hcids hc hsigner hphase hattendee,
    bind_of_ok (ensureRegistrationPhase_eq_ok hregistration p), submit_eq_ok chain hpay]

/-- While assigning, `register_participant` exits with `WRONG_PHASE`. -/
theorem registerParticipant_assigning
    (hattendee : keys.getPairFromStr (keys.toSs58check a) = .ok attendee)
    (hassigning : phase = .assigning) (p : ClientState Sig Account Cid) :
    registerParticipant keys sign chain (keys.toSs58check a) signerArg (some (keys.cidToString c)) p =
      .stop (.exit wrongPhase) p := by
  rw [registerParticipant_eq sign chain hkeys hcids hc hsigner hphase hattendee, hassigning,
    bind_of_stop (ensureRegistrationPhase_assigning p)]

/-- Once it has read its arguments and the chain, `upgrade_registration`
    checks the phase and the reputation of the ceremony that counts in it,
    and submits the upgrade. -/
theorem upgradeRegistration_eq (p : ClientState Sig Account Cid) :
    upgradeRegistration keys sign chain (keys.toSs58check a) signerArg (some (keys.cidToString c)) p =
      (ensureRegistrationPhase phase >>= fun _ =>
        upgradeProof keys sign a c (cindexOfPhase phase chain.ceremonyIndex) (keys.toSs58check a)
            (getReputation chain a c (cindexOfPhase phase chain.ceremonyIndex)) >>= fun proof =>
          submit chain ⟨keys.accountOf signer, .upgradeRegistration c proof, none⟩) p := by
  rw [upgradeRegistration, bind_of_ok (getAccountidFromStr_toSs58check hkeys a p),
    bind_of_ok (signerPair_eq_ok keys hsigner p), bind_of_ok (verifyCliCid_eq_ok keys chain hkeys hcids hc p),
    hphase, unwrapOk_ok, Command.pure_bind]

/-- A reputation from the ceremony that counts that is verified and not yet
    linked upgrades the registration, with the account's own proof of it. -/
theorem upgradeRegistration_eq_ok
    (hattendee : keys.getPairFromStr (keys.toSs58check a) = .ok attendee)
    (hregistration : phase = .registering ∨ phase = .attesting)
    (hrep : getReputation chain a c (cindexOfPhase phase chain.ceremonyIndex) = .verifiedUnlinked)
    (hpay : chain.canPay ⟨keys.accountOf signer, .upgradeRegistration c
      (ownProof sign attendee a c (cindexOfPhase phase chain.ceremonyIndex)), none⟩)
    (p : ClientState Sig Account Cid) :
    upgradeRegistration keys sign chain (keys.toSs58check a) signerArg (some (keys.cidToString c)) p =
      .ok () { p with sent := p.sent ++ [⟨keys.accountOf signer, .upgradeRegistration c
        (ownProof sign attendee a c (cindexOfPhase phase chain.ceremonyIndex)), none⟩] } := by
  rw [upgradeRegistration_eq sign chain hkeys hcids hc hsigner hphase,
    bind_of_ok (ensureRegistrationPhase_eq_ok hregistration p), hrep, upgradeProof,
    bind_of_ok (proveAttendance_eq_ok keys sign hkeys hattendee c _ p), submit_eq_ok chain hpay]

/-- Any other reputation there makes `upgrade_registration` exit with
    `INVALID_REPUTATION`, having submitted nothing. -/
theorem upgradeRegistration_invalidReputation
    (hregistration : phase = .registering ∨ phase = .attesting)
    (hrep : getReputation chain a c (cindexOfPhase phase chain.ceremonyIndex) ≠ .verifiedUnlinked)
    (p : ClientState Sig Account Cid) :
    upgradeRegistration keys sign chain (keys.toSs58check a) signerArg (some (keys.cidToString c)) p =
      .stop (.exit invalidReputation) p := by
  rw [upgradeRegistration_eq sign chain hkeys hcids hc hsigner hphase,
    bind_of_ok (ensureRegistrationPhase_eq_ok hregistration p)]
  exact bind_of_stop (upgradeProof_of_ne keys sign hrep a c _ _ p)

/-- While assigning, `upgrade_registration` exits with `WRONG_PHASE` before it
    looks at the reputation. -/
theorem upgradeRegistration_assigning (hassigning : phase = .assigning)
    (p : ClientState Sig Account Cid) :
    upgradeRegistration keys sign chain (keys.toSs58check a) signerArg (some (keys.cidToString c)) p =
      .stop (.exit wrongPhase) p := by
  rw [upgradeRegistration_eq sign chain hkeys hcids hc hsigner hphase, hassigning,
    bind_of_stop (ensureRegistrationPhase_assigning p)]

/-- Once it has read its arguments and the chain, `unregister_participant`
    checks the phase and submits the withdrawal, naming with `--cindex` the
    community ceremony the index argument gives. -/
theorem unregisterParticipant_eq {ceremonyIndexArg : Option Int32} {cindex : UInt32}
    (p : ClientState Sig Account Cid)
    (hcindex : ∀ ci, ceremonyIndexArg = some ci →
      intoEffectiveCindex ci chain.ceremonyIndex p = .ok cindex p) :
    unregisterParticipant keys chain (keys.toSs58check a) signerArg (some (keys.cidToString c))
        ceremonyIndexArg p =
      (ensureRegistrationPhase phase >>= fun _ => submit chain ⟨keys.accountOf signer,
        .unregisterParticipant c (ceremonyIndexArg.map fun _ => (c, cindex)), none⟩) p := by
  -- The index argument names the ceremony, or there is none.
  have hcc : (communityCeremonyArg c chain.ceremonyIndex ceremonyIndexArg :
      Command (ClientState Sig Account Cid) _) p = .ok (ceremonyIndexArg.map fun _ => (c, cindex)) p := by
    cases ceremonyIndexArg with
    | none => rfl
    | some ci => exact bind_of_ok (hcindex ci rfl)
  rw [unregisterParticipant, bind_of_ok (signerPair_eq_ok keys hsigner p),
    bind_of_ok (verifyCliCid_eq_ok keys chain hkeys hcids hc p), bind_of_ok hcc, hphase, unwrapOk_ok,
    Command.pure_bind]

end Reads

/-- A run of `register_participant` that stops has submitted nothing: every
    check comes before the submission. -/
theorem registerParticipant_failureAtomic (argWho : String) (signerArg cidArg : Option String) :
    FailureAtomic (registerParticipant keys sign chain argWho signerArg cidArg) := by
  refine FailureAtomic.bind (getAccountidFromStr_check keys argWho).guard fun accountid => ?_
  refine FailureAtomic.bind (signerPair_check keys argWho signerArg).guard fun signer => ?_
  refine FailureAtomic.bind (verifyCliCid_check keys chain cidArg).guard fun cid => ?_
  refine FailureAtomic.bind (registrationProof_check keys sign _ _ _ _ _).guard fun proof => ?_
  refine FailureAtomic.bind (Check.unwrapOk _).guard fun phase => ?_
  exact FailureAtomic.bind (ensureRegistrationPhase_guard phase) fun _ => submit_failureAtomic chain _

theorem upgradeRegistration_failureAtomic (argWho : String) (signerArg cidArg : Option String) :
    FailureAtomic (upgradeRegistration keys sign chain argWho signerArg cidArg) := by
  refine FailureAtomic.bind (getAccountidFromStr_check keys argWho).guard fun accountid => ?_
  refine FailureAtomic.bind (signerPair_check keys argWho signerArg).guard fun signer => ?_
  refine FailureAtomic.bind (verifyCliCid_check keys chain cidArg).guard fun cid => ?_
  refine FailureAtomic.bind (Check.unwrapOk _).guard fun phase => ?_
  refine FailureAtomic.bind (ensureRegistrationPhase_guard phase) fun _ => ?_
  exact FailureAtomic.bind (upgradeProof_guard keys sign _ _ _ _ _) fun _ => submit_failureAtomic chain _

theorem unregisterParticipant_failureAtomic (argWho : String) (signerArg cidArg : Option String)
    (ceremonyIndexArg : Option Int32) :
    FailureAtomic (unregisterParticipant keys chain argWho signerArg cidArg ceremonyIndexArg) := by
  refine FailureAtomic.bind (signerPair_check keys argWho signerArg).guard fun signer => ?_
  refine FailureAtomic.bind (verifyCliCid_check keys chain cidArg).guard fun cid => ?_
  refine FailureAtomic.bind (communityCeremonyArg_check cid _ _).guard fun cc => ?_
  refine FailureAtomic.bind (Check.unwrapOk _).guard fun phase => ?_
  exact FailureAtomic.bind (ensureRegistrationPhase_guard phase) fun _ => submit_failureAtomic chain _

end Registration

/-! ## `attest_attendees` and `claim_reward` -/

section Claims

variable (keys : KeyOps Pair Account Cid) (chain : RegistrationChain Sig Account Cid)

/-- The line `attest_attendees` prints once the node has its attestations. -/
def claimsSentLine (who : Pair) : String :=
  "Claims sent by " ++ keys.toSs58check (keys.accountOf who) ++ ". status: \x27" ++ chain.readyStatus ++
    "\x27"

/-- The line `claim_reward --all` prints once the node has the batch. -/
def claimAllLine : String := "Claiming reward for all meetup indexes. xt-status: \x27ready\x27"

/-- The match on `--signer` in `claim_reward`, which requires one. -/
def claimSigner (signerArg : Option String) : Command σ Pair :=
  match signerArg with
  | some sig => orPanic (keys.getPairFromStr sig)
  | none => stop (.panic "please specify --signer.")

theorem claimSigner_check (signerArg : Option String) : Check (claimSigner keys signerArg : Command σ Pair) := by
  cases signerArg with
  | some sig => exact Check.orPanic _
  | none => exact Check.panic _

/-- The claims of `claim_reward --all`: of meetups `1` to `n`, in order. -/
def meetupClaims (cid : Cid) (n : Nat) : List (CeremoniesCall Sig Account Cid) :=
  (List.range' 1 n).map fun i => .claimRewards cid (some (UInt64.ofNat i))

/-- `1..=n` claims every meetup from the first to the `n`-th. -/
theorem map_inclusiveRange_claimRewards (cid : Cid) (n : UInt64) :
    (inclusiveRange 1 n).map (fun idx => (CeremoniesCall.claimRewards cid (some idx) :
      CeremoniesCall Sig Account Cid)) = meetupClaims cid n.toNat := by
  rw [inclusiveRange_one, List.map_map]
  rfl

example : (meetupClaims "c" 2 : List (CeremoniesCall Unit Unit String)) =
    [.claimRewards "c" (some 1), .claimRewards "c" (some 2)] := rfl

variable [DecidableEq Cid]

/-- `attest_attendees`: the attendee's vote on the number of participants of
    its meetup counts itself too. -/
def attestAttendees (account : String) (attesteesStr : List String) (cidArg : Option String) :
    Command (ClientState Sig Account Cid) Unit := do
  let who ← orPanic (keys.getPairFromStr account)
  let attestees ← attesteesStr.mapM (getAccountidFromStr keys)
  let vote := UInt32.ofNat attestees.length + 1
  let cid ← verifyCliCid keys chain cidArg
  submit chain ⟨keys.accountOf who, .attestAttendees cid vote attestees, none⟩
  println (claimsSentLine keys chain who)

/-- `claim_reward`: with `--all`, the rewards of every meetup of the ceremony
    that counts in the current phase, in one batch. -/
def claimReward (cidArg signerArg : Option String) (meetupIndexArg : Option UInt64) (all : Bool) :
    Command (ClientState Sig Account Cid) Unit := do
  let cid ← verifyCliCid keys chain cidArg
  let signer ← claimSigner keys signerArg
  if all then
    let currentPhase ← unwrapOk chain.currentPhase
    let cindex := cindexOfPhase currentPhase chain.ceremonyIndex
    let meetupCount := (chain.meetupCount cid cindex).getD 0
    let calls := (inclusiveRange 1 meetupCount).map fun idx => CeremoniesCall.claimRewards cid (some idx)
    -- `xt` composes the batch offline, with the signer's nonce.
    let nonce ← unwrapOk (chain.nonce (keys.accountOf signer))
    submit chain ⟨keys.accountOf signer, .batch calls, some nonce⟩
    println claimAllLine
  else
    submit chain ⟨keys.accountOf signer, .claimRewards cid meetupIndexArg, none⟩
    match meetupIndexArg with
    | some idx => println ("Claiming reward for meetup_index " ++ toString idx ++ ". xt-status: \x27" ++
        chain.readyStatus ++ "\x27")
    | none => println ("Claiming reward for " ++ keys.toSs58check (keys.accountOf signer) ++
        ". xt-status: \x27ready\x27")

/-- Attestees given by their addresses are submitted as the accounts, with
    a vote of one more than their number. -/
theorem attestAttendees_eq_ok (hkeys : keys.Lawful) {account : String} {who : Pair} {cids : List Cid}
    {c : Cid} (hwho : keys.getPairFromStr account = .ok who)
    (hcids : chain.communityIdentifiers = some cids) (hc : c ∈ cids) (attestees : List Account)
    (hpay : chain.canPay ⟨keys.accountOf who, .attestAttendees c (UInt32.ofNat (attestees.length + 1))
      attestees, none⟩) (p : ClientState Sig Account Cid) :
    attestAttendees keys chain account (attestees.map keys.toSs58check) (some (keys.cidToString c)) p =
      .ok () (emit [claimsSentLine keys chain who] { p with sent := p.sent ++
        [⟨keys.accountOf who, .attestAttendees c (UInt32.ofNat (attestees.length + 1)) attestees, none⟩] }) := by
  -- Each address reads back as its account.
  have hparsed : (attestees.map keys.toSs58check).mapM (getAccountidFromStr keys) p =
      .ok attestees p := by
    rw [List.mapM_map]
    have hread := @Command.mapM_eq_ok _ _ _ attestees _ id
      (fun a _ s => getAccountidFromStr_toSs58check hkeys a s) p
    rwa [List.map_id] at hread
  have hvote : UInt32.ofNat attestees.length + 1 = UInt32.ofNat (attestees.length + 1) := by
    rw [UInt32.ofNat_add]
    rfl
  rw [attestAttendees, hwho, orPanic_ok, Command.pure_bind, bind_of_ok hparsed,
    bind_of_ok (verifyCliCid_eq_ok keys chain hkeys hcids hc p), hvote, bind_of_ok (submit_eq_ok chain hpay p),
    println_eq_emit]

/-- With `--all`, `claim_reward` claims in one batch, under the signer's
    nonce, the rewards of meetups `1` to `n` of the ceremony that counts in
    the current phase, `n` its meetup count or `0`. -/
theorem claimReward_all_eq_ok (hkeys : keys.Lawful) {cids : List Cid} {c : Cid} {sig : String}
    {signer : Pair} {phase : CeremonyPhaseType} {nonce : UInt32}
    (hcids : chain.communityIdentifiers = some cids) (hc : c ∈ cids)
    (hsigner : keys.getPairFromStr sig = .ok signer) (hphase : chain.currentPhase = .ok phase)
    (hnonce : chain.nonce (keys.accountOf signer) = .ok nonce)
    (hpay : chain.canPay ⟨keys.accountOf signer, .batch (meetupClaims c
      ((chain.meetupCount c (cindexOfPhase phase chain.ceremonyIndex)).getD 0).toNat), some nonce⟩)
    (meetupIndexArg : Option UInt64) (p : ClientState Sig Account Cid) :
    claimReward keys chain (some (keys.cidToString c)) (some sig) meetupIndexArg true p =
      .ok () (emit [claimAllLine] { p with sent := p.sent ++ [⟨keys.accountOf signer, .batch (meetupClaims c
        ((chain.meetupCount c (cindexOfPhase phase chain.ceremonyIndex)).getD 0).toNat), some nonce⟩] }) := by
  have hsigned : claimSigner keys (some sig) p = .ok signer p := by
    rw [claimSigner, hsigner, orPanic_ok]
    rfl
  rw [claimReward, bind_of_ok (verifyCliCid_eq_ok keys chain hkeys hcids hc p), bind_of_ok hsigned,
    if_pos rfl, hphase, unwrapOk_ok, Command.pure_bind, hnonce, unwrapOk_ok, Command.pure_bind,
    map_inclusiveRange_claimRewards, bind_of_ok (submit_eq_ok chain hpay p), println_eq_emit]

/-- Without `--signer`, `claim_reward` panics before it composes anything. -/
theorem claimReward_without_signer (hkeys : keys.Lawful) {cids : List Cid} {c : Cid}
    (hcids : chain.communityIdentifiers = some cids) (hc : c ∈ cids) (meetupIndexArg : Option UInt64)
    (all : Bool) (p : ClientState Sig Account Cid) :
    claimReward keys chain (some (keys.cidToString c)) none meetupIndexArg all p =
      .stop (.panic "please specify --signer.") p := by
  rw [claimReward, bind_of_ok (verifyCliCid_eq_ok keys chain hkeys hcids hc p)]
  exact bind_of_stop rfl

/-- A run of `attest_attendees` that stops has submitted nothing; after the
    submission it only prints. -/
theorem attestAttendees_failureAtomic (account : String) (attesteesStr : List String)
    (cidArg : Option String) : FailureAtomic (attestAttendees keys chain account attesteesStr cidArg) := by
  refine FailureAtomic.bind (Check.orPanic _).guard fun who => ?_
  refine FailureAtomic.bind (Check.mapM (getAccountidFromStr_check keys) attesteesStr).guard
    fun attestees => ?_
  refine FailureAtomic.bind (verifyCliCid_check keys chain cidArg).guard fun cid => ?_
  exact FailureAtomic.bind_returns (submit_failureAtomic chain _) fun _ s => ⟨(), _, println_eq_emit _ s⟩

theorem claimReward_failureAtomic (cidArg signerArg : Option String) (meetupIndexArg : Option UInt64)
    (all : Bool) : FailureAtomic (claimReward keys chain cidArg signerArg meetupIndexArg all) := by
  refine FailureAtomic.bind (verifyCliCid_check keys chain cidArg).guard fun cid => ?_
  refine FailureAtomic.bind (claimSigner_check keys signerArg).guard fun signer => ?_
  cases all with
  | true =>
    refine FailureAtomic.bind (Check.unwrapOk _).guard fun phase => ?_
    refine FailureAtomic.bind (Check.unwrapOk _).guard fun nonce => ?_
    exact FailureAtomic.bind_returns (submit_failureAtomic chain _) fun _ s => ⟨(), _, println_eq_emit _ s⟩
  | false =>
    refine FailureAtomic.bind_returns (submit_failureAtomic chain _) fun _ s => ?_
    -- Either way, what follows the submission is a line printed.
    cases meetupIndexArg with
    | some idx => exact ⟨(), _, println_eq_emit _ s⟩
    | none => exact ⟨(), _, println_eq_emit _ s⟩

end Claims

/-! ## `endorse`

The loop of `endorse_newcomers` threads the nonce: each pass submits its
endorsement under the nonce it was handed and hands on the next. As the
state a pass leaves depends on the nonce, the loop is taken apart here by
induction over the endorsees, from what one pass does (`endorseNext_eq_ok`,
`endorseNext_exits`). -/

section Endorse

variable (keys : KeyOps Pair Account Cid) (chain : RegistrationChain Sig Account Cid)

/-- A pass of the loop of `endorse_newcomers`: endorse the next newcomer under
    the next nonce. -/
def endorseNext (bootstrapper : Account) (cid : Cid) (nonce : UInt32) (e : String) :
    Command (ClientState Sig Account Cid) UInt32 := do
  let endorsee ← getAccountidFromStr keys e
  submit chain ⟨bootstrapper, .endorseNewcomer cid endorsee, some nonce⟩
  pure (nonce + 1)

/-- `endorse_newcomers`, whose error comes from reading the bootstrapper's
    nonce, and from nothing else. -/
def endorseNewcomers (cid : Cid) (bootstrapperStr : String) (endorsees : List String) :
    Command (ClientState Sig Account Cid) (Except String Unit) := do
  let bootstrapper ← orPanic (keys.getPairFromStr bootstrapperStr)
  match chain.nonce (keys.accountOf bootstrapper) with
  | .error e => pure (.error e)
  | .ok nonce => do
    let _ ← endorsees.foldlM (endorseNext keys chain (keys.accountOf bootstrapper) cid) nonce
    pure (.ok ())

/-- The endorsements of `accounts` by the bootstrapper, under consecutive
    nonces from `nonce`. -/
def endorsements (bootstrapper : Account) (cid : Cid) :
    List Account → UInt32 → List (Extrinsic Sig Account Cid)
  | [], _ => []
  | a :: accounts, nonce =>
    ⟨bootstrapper, .endorseNewcomer cid a, some nonce⟩ :: endorsements bootstrapper cid accounts (nonce + 1)

/-- `u32` nonces count on modulo `2^32`. -/
theorem add_one_add_ofNat (nonce : UInt32) (n : Nat) :
    nonce + 1 + UInt32.ofNat n = nonce + UInt32.ofNat (n + 1) := by
  rw [UInt32.ofNat_add, UInt32.add_assoc, UInt32.add_comm 1]
  rfl

theorem endorseNext_eq_ok (hkeys : keys.Lawful) {b : Account} {cid : Cid} {nonce : UInt32} {a : Account}
    (hpay : chain.canPay ⟨b, .endorseNewcomer cid a, some nonce⟩) (p : ClientState Sig Account Cid) :
    endorseNext keys chain b cid nonce (keys.toSs58check a) p =
      .ok (nonce + 1) { p with sent := p.sent ++ [⟨b, .endorseNewcomer cid a, some nonce⟩] } := by
  rw [endorseNext, bind_of_ok (getAccountidFromStr_toSs58check hkeys a p),
    bind_of_ok (submit_eq_ok chain hpay p)]
  rfl

theorem endorseNext_exits (hkeys : keys.Lawful) {b : Account} {cid : Cid} {nonce : UInt32} {a : Account}
    (hpay : chain.canPay ⟨b, .endorseNewcomer cid a, some nonce⟩ = false)
    (p : ClientState Sig Account Cid) :
    endorseNext keys chain b cid nonce (keys.toSs58check a) p = .stop (.exit feePaymentFailed) p := by
  rw [endorseNext, bind_of_ok (getAccountidFromStr_toSs58check hkeys a p),
    bind_of_stop (submit_exits chain hpay p)]

/-- When the bootstrapper can pay them all, the loop submits every
    endorsement, in order, and hands on the nonce after the last. -/
theorem foldlM_endorseNext_eq_ok (hkeys : keys.Lawful) (b : Account) (cid : Cid) :
    ∀ (accounts : List Account) (nonce : UInt32) (p : ClientState Sig Account Cid),
      (∀ xt ∈ endorsements b cid accounts nonce, chain.canPay xt) →
      (accounts.map keys.toSs58check).foldlM (endorseNext keys chain b cid) nonce p =
        .ok (nonce + UInt32.ofNat accounts.length)
          { p with sent := p.sent ++ endorsements b cid accounts nonce }
  | [], nonce, p, _ => by
    have hzero : nonce + UInt32.ofNat ([] : List Account).length = nonce := UInt32.add_zero nonce
    rw [hzero, List.map_nil, List.foldlM_nil, endorsements, List.append_nil]
    rfl
  | a :: accounts, nonce, p, hpay => by
    rw [List.map_cons, List.foldlM_cons,
      bind_of_ok (endorseNext_eq_ok keys chain hkeys (hpay _ List.mem_cons_self) p),
      foldlM_endorseNext_eq_ok hkeys b cid accounts (nonce + 1) _
        fun xt hxt => hpay xt (List.mem_cons_of_mem _ hxt)]
    simp only [add_one_add_ofNat, List.length_cons, endorsements, List.append_assoc,
      List.singleton_append]

/-- An endorsement the bootstrapper cannot pay stops the loop with
    `FEE_PAYMENT_FAILED`, after the endorsements before it. -/
theorem foldlM_endorseNext_exits (hkeys : keys.Lawful) (b : Account) (cid : Cid) (a : Account)
    (post : List Account) :
    ∀ (pre : List Account) (nonce : UInt32) (p : ClientState Sig Account Cid),
      (∀ xt ∈ endorsements b cid pre nonce, chain.canPay xt) →
      chain.canPay ⟨b, .endorseNewcomer cid a, some (nonce + UInt32.ofNat pre.length)⟩ = false →
      ((pre ++ a :: post).map keys.toSs58check).foldlM (endorseNext keys chain b cid) nonce p =
        .stop (.exit feePaymentFailed) { p with sent := p.sent ++ endorsements b cid pre nonce }
  | [], nonce, p, _, hunpaid => by
    have hzero : nonce + UInt32.ofNat ([] : List Account).length = nonce := UInt32.add_zero nonce
    rw [hzero] at hunpaid
    rw [List.nil_append, List.map_cons, List.foldlM_cons,
      bind_of_stop (endorseNext_exits keys chain hkeys hunpaid p), endorsements, List.append_nil]
  | a' :: pre, nonce, p, hpaid, hunpaid => by
    -- The first endorsement goes through; the one that cannot be paid is
    -- `pre.length` passes later, under the nonce after.
    have hlater : chain.canPay ⟨b, .endorseNewcomer cid a,
        some (nonce + 1 + UInt32.ofNat pre.length)⟩ = false := by
      rwa [add_one_add_ofNat]
    rw [List.cons_append, List.map_cons, List.foldlM_cons,
      bind_of_ok (endorseNext_eq_ok keys chain hkeys (hpaid _ List.mem_cons_self) p),
      foldlM_endorseNext_exits hkeys b cid a post pre (nonce + 1) _
        (fun xt hxt => hpaid xt (List.mem_cons_of_mem _ hxt)) hlater]
    simp only [endorsements, List.append_assoc, List.singleton_append]

variable [DecidableEq Cid]

/-- `endorse`: `endorse_newcomers` at the `--cid` community, unwrapped. -/
def endorse (bootstrapperStr : String) (endorsees : List String) (cidArg : Option String) :
    Command (ClientState Sig Account Cid) Unit := do
  let cid ← verifyCliCid keys chain cidArg
  unwrapOk (← endorseNewcomers keys chain cid bootstrapperStr endorsees)

section Reads

variable {keys} {cids : List Cid} {c : Cid} {bootstrapperStr : String} {bootstrapper : Pair}
  {nonce : UInt32}
  (hkeys : keys.Lawful) (hcids : chain.communityIdentifiers = some cids) (hc : c ∈ cids)
  (hbootstrapper : keys.getPairFromStr bootstrapperStr = .ok bootstrapper)
include hkeys hcids hc hbootstrapper

/-- Once the community and the bootstrapper's nonce are read, `endorse` is
    the loop. -/
theorem endorse_eq (hnonce : chain.nonce (keys.accountOf bootstrapper) = .ok nonce)
    (endorsees : List String) (p : ClientState Sig Account Cid) :
    endorse keys chain bootstrapperStr endorsees (some (keys.cidToString c)) p =
      (endorsees.foldlM (endorseNext keys chain (keys.accountOf bootstrapper) c) nonce >>= fun _ =>
        pure ()) p := by
  rw [endorse, bind_of_ok (verifyCliCid_eq_ok keys chain hkeys hcids hc p), endorseNewcomers,
    hbootstrapper, orPanic_ok, Command.pure_bind, hnonce]
  simp only [bind_assoc, Command.pure_bind, unwrapOk_ok]

/-- When the bootstrapper can pay them all, `endorse` submits an endorsement
    of each newcomer, in order, under consecutive nonces from its current
    one. -/
theorem endorse_eq_ok (hnonce : chain.nonce (keys.accountOf bootstrapper) = .ok nonce)
    (accounts : List Account)
    (hpay : ∀ xt ∈ endorsements (keys.accountOf bootstrapper) c accounts nonce, chain.canPay xt)
    (p : ClientState Sig Account Cid) :
    endorse keys chain bootstrapperStr (accounts.map keys.toSs58check) (some (keys.cidToString c)) p =
      .ok () { p with sent := p.sent ++ endorsements (keys.accountOf bootstrapper) c accounts nonce } := by
  rw [endorse_eq chain hkeys hcids hc hbootstrapper hnonce,
    bind_of_ok (foldlM_endorseNext_eq_ok keys chain hkeys _ c accounts nonce p hpay)]
  rfl

/-- An endorsement the bootstrapper cannot pay ends `endorse` with
    `FEE_PAYMENT_FAILED`, with the endorsements before it submitted and none
    after. -/
theorem endorse_exits (hnonce : chain.nonce (keys.accountOf bootstrapper) = .ok nonce)
    (pre : List Account) (a : Account) (post : List Account)
    (hpaid : ∀ xt ∈ endorsements (keys.accountOf bootstrapper) c pre nonce, chain.canPay xt)
    (hunpaid : chain.canPay ⟨keys.accountOf bootstrapper, .endorseNewcomer c a,
      some (nonce + UInt32.ofNat pre.length)⟩ = false)
    (p : ClientState Sig Account Cid) :
    endorse keys chain bootstrapperStr ((pre ++ a :: post).map keys.toSs58check)
        (some (keys.cidToString c)) p =
      .stop (.exit feePaymentFailed)
        { p with sent := p.sent ++ endorsements (keys.accountOf bootstrapper) c pre nonce } := by
  rw [endorse_eq chain hkeys hcids hc hbootstrapper hnonce,
    bind_of_stop (foldlM_endorseNext_exits keys chain hkeys _ c a post pre nonce p hpaid hunpaid)]

/-- A bootstrapper whose nonce cannot be read makes `endorse` panic, at the
    `unwrap` of the error, before it submits anything. -/
theorem endorse_nonce_unreadable {e : String}
    (hnonce : chain.nonce (keys.accountOf bootstrapper) = .error e) (endorsees : List String)
    (p : ClientState Sig Account Cid) :
    endorse keys chain bootstrapperStr endorsees (some (keys.cidToString c)) p =
      .stop (.panic "called \x60Result::unwrap()\x60 on an \x60Err\x60 value") p := by
  rw [endorse, bind_of_ok (verifyCliCid_eq_ok keys chain hkeys hcids hc p), endorseNewcomers,
    hbootstrapper, orPanic_ok, Command.pure_bind, hnonce]
  rfl

end Reads

end Endorse

end Ceremonies
