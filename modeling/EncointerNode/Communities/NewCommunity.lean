-- SUMMARY: The client's `new_community` and `add_locations` commands: the calls they compose from a community's specification, how they wrap them, and what they send; every location of the specification is carried once, in order, in batches of at most the batch size.
import EncointerNode.Stdlib.Command
import EncointerNode.Stdlib.Chunks

/-! # Registering a community and its locations

`new_community` (`commands/encointer_communities.rs`) registers a community
from its specification file. Its `new_community` call gives the community its
first location only. Every other location goes in an `add_location` call, and
these go in `utility.batch` calls of at most `--batch-size` each
(`create_add_location_batches`). With `--wrap-call sudo` or `collective`, every
call is wrapped alike, in a `sudo` call or in a council proposal that needs a
majority. The command sends the community's call first. It then checks that
the ceremony is registering, and only then sends the batches.

`add_locations` sends all the locations of a file, the first one included, in
one call, and it checks the phase before it sends anything.

The model takes the runtime calls as syntax, `Call`, and leaves out their
encoding (`OpaqueCall`) and the metadata they are composed against. What a
call would register once dispatched is the abstract `Call.locations`. The
results say:

* the extrinsics sent carry the specification's locations, each once and in
  order, with at most the batch size in each;
* a batch size of zero panics before anything is sent;
* a wrong phase leaves the community registered with its first location alone;
* an unknown wrapping sends the calls unwrapped;
* a dry run sends nothing. -/

namespace Communities

open Command

variable {Location Account Cid Meta σ : Type}

/-- `CeremonyPhaseType`. -/
inductive CeremonyPhaseType where
  | registering
  | assigning
  | attesting
  deriving DecidableEq, Repr

/-- `CallWrapping`. -/
inductive CallWrapping where
  | none
  | sudo
  | collective
  deriving DecidableEq, Repr

/-- `CallWrapping::from_str`. -/
def CallWrapping.fromStr : String → Except String CallWrapping
  | "none" => .ok .none
  | "sudo" => .ok .sudo
  | "collective" => .ok .collective
  | _ => .error "unknown call wrapping type"

/-- The runtime calls the commands compose. The length bound of a council
    proposal is computed from the encoding, and is left out. -/
inductive Call (Location Account Cid Meta : Type) where
  /-- `EncointerCommunities::new_community`, with the location the community
      starts with; `Meta` stands for the metadata, demurrage and income the
      client copies from the specification. -/
  | newCommunity (location : Location) (bootstrappers : List Account) (metadata : Meta)
  /-- `EncointerCommunities::add_location`. -/
  | addLocation (cid : Cid) (location : Location)
  /-- `Utility::batch`. -/
  | batch (calls : List (Call Location Account Cid Meta))
  /-- `Sudo::sudo`. -/
  | sudo (call : Call Location Account Cid Meta)
  /-- `Collective::propose`, with the number of votes the proposal needs. -/
  | collectivePropose (threshold : Nat) (proposal : Call Location Account Cid Meta)

/-- What the commands read from a specification file: the locations of its
    features, in the file's order, the bootstrappers, and the rest of the
    community's call. -/
structure CommunitySpec (Location Account Meta : Type) where
  locations : List Location
  bootstrappers : List Account
  metadata : Meta

/-- The functions of `encointer_primitives` the commands call. -/
structure CommunityOps (Location Account Cid Meta : Type) where
  /-- `CommunityIdentifier::new`: fails on a location it cannot geohash. -/
  communityIdentifier : Location → List Account → Except String Cid
  /-- `CommunityMetadata::validate`. -/
  validate : Meta → Except String Unit

/-- What the commands learn from the chain: whether the runtime has a `Sudo`
    pallet, the members of the council, the ceremony phase, and whether the
    signer can pay the fee of an extrinsic. -/
structure Chain (Location Account Cid Meta : Type) where
  hasSudo : Bool
  councillors : Except String (List Account)
  phase : CeremonyPhaseType
  canPay : Call Location Account Cid Meta → Bool

/-- `exit_code::WRONG_PHASE`. -/
def wrongPhase : Int := 50

/-- `exit_code::FEE_PAYMENT_FAILED`. -/
def feePaymentFailed : Int := 51

/-- `(get_councillors(&api).await.unwrap().len() / 2 + 1) as u32`, the
    threshold each command gives a council proposal. -/
def majorityThreshold (councillors : List Account) : Nat := councillors.length / 2 + 1

/-- The threshold is the least number of councillors that is more than half. -/
theorem majorityThreshold_majority (councillors : List Account) :
    councillors.length < 2 * majorityThreshold councillors ∧
      2 * (majorityThreshold councillors - 1) ≤ councillors.length := by
  unfold majorityThreshold
  omega

section Commands

variable (ops : CommunityOps Location Account Cid Meta) (chain : Chain Location Account Cid Meta)

/-- The extrinsics the chain has included, in order. -/
abbrev Sent (Location Account Cid Meta : Type) := List (Call Location Account Cid Meta)

/-- `ensure_payment`: exit when the signer cannot pay the fee. -/
def ensurePayment (call : Call Location Account Cid Meta) :
    Command (Sent Location Account Cid Meta) Unit :=
  if !chain.canPay call then stop (.exit feePaymentFailed) else pure ()

/-- `send_and_wait_for_in_block` and `send_and_wait_for_finalized`, which
    differ only in how long they wait: check the fee, then the chain includes
    the extrinsic. A failed submission panics, and is left out. -/
def sendAndWait (call : Call Location Account Cid Meta) :
    Command (Sent Location Account Cid Meta) Unit := do
  ensurePayment chain call
  modify (· ++ [call])

/-- `send_and_wait_for_in_block`. -/
def sendAndWaitForInBlock :
    Call Location Account Cid Meta → Command (Sent Location Account Cid Meta) Unit :=
  sendAndWait chain

/-- `send_and_wait_for_finalized`. -/
def sendAndWaitForFinalized :
    Call Location Account Cid Meta → Command (Sent Location Account Cid Meta) Unit :=
  sendAndWait chain

/-- `CommunitySpec::community_identifier`: the identifier of the first location
    and the bootstrappers. -/
def communityIdentifier (spec : CommunitySpec Location Account Meta) : Command σ Cid := do
  let location ← expect spec.locations.head? "index out of bounds: the len is 0 but the index is 0"
  orPanic (ops.communityIdentifier location spec.bootstrappers)

/-- `new_community_call`: the metadata must validate, and the community starts
    at the first location. -/
def newCommunityCall (spec : CommunitySpec Location Account Meta) :
    Command σ (Call Location Account Cid Meta) := do
  orPanic (ops.validate spec.metadata)
  let location ← expect spec.locations.head? "index out of bounds: the len is 0 but the index is 0"
  pure (.newCommunity location spec.bootstrappers spec.metadata)

/-- `create_add_location_batches`: every location but the first, as
    `add_location` calls in batches of `batch_size`. The `chunks` adaptor of
    `itertools` asserts that the size is not zero. -/
def createAddLocationBatches (locations : List Location) (cid : Cid) (batchSize : UInt32) :
    Command σ (List (Call Location Account Cid Meta)) :=
  if batchSize = 0 then stop (.panic "assertion failed: size != 0")
  else pure ((((locations.drop 1).map (Call.addLocation cid)).toChunks batchSize.toNat).map
    Call.batch)

/-- The match on `call_wrapping` in `new_community`: the community's call and
    every batch wrapped alike, under sudo, which the chain must have, or in
    council proposals that need a majority. -/
def wrapCalls (callWrapping : CallWrapping) (newCommunityCall : Call Location Account Cid Meta)
    (batchCalls : List (Call Location Account Cid Meta)) :
    Command σ (Call Location Account Cid Meta × List (Call Location Account Cid Meta)) :=
  match callWrapping with
  | .none => pure (newCommunityCall, batchCalls)
  | .sudo =>
    if !chain.hasSudo then
      stop (.panic "Want to wrap call with sudo, but sudo does not exist on this chain.")
    else pure (.sudo newCommunityCall, batchCalls.map .sudo)
  | .collective => do
    let threshold := majorityThreshold (← orPanic chain.councillors)
    pure (.collectivePropose threshold newCommunityCall,
      batchCalls.map (.collectivePropose threshold))

/-- `new_community`: compose the community's call and the batches, wrap them,
    and unless it is a dry run send the community's call, check the phase and
    send the batches one by one. An unknown wrapping counts as none. -/
def newCommunity (spec : CommunitySpec Location Account Meta) (dryrun : Bool) (wrapCall : String)
    (batchSize : UInt32) : Command (Sent Location Account Cid Meta) Unit := do
  let cid ← communityIdentifier ops spec
  let newCommunityCall ← newCommunityCall ops spec
  let addLocationBatchCalls ← createAddLocationBatches spec.locations cid batchSize
  let callWrapping := match CallWrapping.fromStr wrapCall with
    | .ok w => w
    | .error _ => .none
  let (newCommunityFinalCall, addLocationBatchFinalCall) ←
    wrapCalls chain callWrapping newCommunityCall addLocationBatchCalls
  if dryrun then return
  sendAndWaitForFinalized chain newCommunityFinalCall
  if chain.phase != .registering then stop (.exit wrongPhase)
  addLocationBatchFinalCall.forM (sendAndWaitForFinalized chain)

/-- `match add_location_calls.as_slice()` in `add_locations`: a single call as it
    is, any other number of calls in one batch. -/
def maybeBatchCall (calls : List (Call Location Account Cid Meta)) :
    Call Location Account Cid Meta :=
  match calls with
  | [call] => call
  | _ => .batch calls

/-- The wrapping of `add_locations` and `remove_locations`: without a signer,
    under sudo if the chain has it, and otherwise as a council proposal that
    needs a majority. -/
def wrapPrivileged (signerArg : Option String) (call : Call Location Account Cid Meta) :
    Command σ (Call Location Account Cid Meta) :=
  if signerArg.isNone then
    if chain.hasSudo then pure (.sudo call)
    else do
      let threshold := majorityThreshold (← orPanic chain.councillors)
      pure (.collectivePropose threshold call)
  else pure call

/-- `add_locations`: every location of the file in `add_location` calls, one
    call or a batch of them, wrapped when no signer is given. The phase is
    checked before anything is sent. -/
def addLocations (spec : CommunitySpec Location Account Meta) (signerArg : Option String)
    (dryrun : Bool) (cid : Cid) : Command (Sent Location Account Cid Meta) Unit := do
  let addLocationCalls : List (Call Location Account Cid Meta) :=
    spec.locations.map (Call.addLocation cid)
  let addLocationMaybeBatchCall ←
    wrapPrivileged chain signerArg (maybeBatchCall addLocationCalls)
  if dryrun then return
  if chain.phase != .registering then stop (.exit wrongPhase)
  sendAndWaitForInBlock chain addLocationMaybeBatchCall

end Commands

/-! ## What the calls register -/

mutual

/-- The locations a call registers once dispatched: the community's first
    location, an added location, those of a batch's calls in order, and those of
    the call that sudo or a passed proposal dispatches. -/
def Call.locations : Call Location Account Cid Meta → List Location
  | .newCommunity location _ _ => [location]
  | .addLocation _ location => [location]
  | .batch calls => Call.locationsAll calls
  | .sudo call => call.locations
  | .collectivePropose _ proposal => proposal.locations

/-- The locations of calls dispatched one after another. -/
def Call.locationsAll : List (Call Location Account Cid Meta) → List Location
  | [] => []
  | call :: calls => call.locations ++ Call.locationsAll calls

end

@[simp] theorem Call.locationsAll_eq_flatMap (calls : List (Call Location Account Cid Meta)) :
    Call.locationsAll calls = calls.flatMap Call.locations := by
  induction calls with
  | nil => simp [Call.locationsAll]
  | cons call calls ih => simp [Call.locationsAll, ih]

@[simp] theorem Call.locations_newCommunity (location : Location) (bootstrappers : List Account)
    (metadata : Meta) :
    (Call.newCommunity location bootstrappers metadata : Call Location Account Cid Meta).locations =
      [location] := by
  simp [Call.locations]

@[simp] theorem Call.locations_addLocation (cid : Cid) (location : Location) :
    (Call.addLocation cid location : Call Location Account Cid Meta).locations = [location] := by
  simp [Call.locations]

@[simp] theorem Call.locations_batch (calls : List (Call Location Account Cid Meta)) :
    (Call.batch calls).locations = calls.flatMap Call.locations := by
  simp [Call.locations]

/-- One call or a batch, the calls register the same locations. -/
@[simp] theorem locations_maybeBatchCall (calls : List (Call Location Account Cid Meta)) :
    (maybeBatchCall calls).locations = calls.flatMap Call.locations := by
  unfold maybeBatchCall
  split
  · simp
  · simp

/-- How every call of a run is wrapped: as it is, under sudo, or in a council
    proposal with the given threshold. -/
def CallWrapping.wrap (threshold : Nat) :
    CallWrapping → Call Location Account Cid Meta → Call Location Account Cid Meta
  | .none, call => call
  | .sudo, call => .sudo call
  | .collective, call => .collectivePropose threshold call

@[simp] theorem CallWrapping.wrap_none (threshold : Nat) :
    (CallWrapping.none.wrap threshold : Call Location Account Cid Meta → _) = id := rfl

/-- Wrapping a call does not change what it registers. -/
@[simp] theorem CallWrapping.locations_wrap (w : CallWrapping) (threshold : Nat)
    (call : Call Location Account Cid Meta) :
    (w.wrap threshold call).locations = call.locations := by
  cases w <;> simp [CallWrapping.wrap, Call.locations]

/-- The chain allows the wrapping: it has a sudo pallet for `sudo`, and its
    council can be read for `collective`. -/
def Chain.CanWrap (chain : Chain Location Account Cid Meta) (w : CallWrapping) : Prop :=
  (w = .sudo → chain.hasSudo = true) ∧
    (w = .collective → ∃ members, chain.councillors = .ok members)

/-- Wrapping every call of a run does not change what the run registers. -/
@[simp] theorem CallWrapping.flatMap_locations_map_wrap (w : CallWrapping) (threshold : Nat)
    (calls : List (Call Location Account Cid Meta)) :
    (calls.map (w.wrap threshold)).flatMap Call.locations = calls.flatMap Call.locations := by
  simp [List.flatMap_map]

/-- Locations in `add_location` calls for `cid`, in batches of `n`. -/
def locationBatches (locations : List Location) (cid : Cid) (n : Nat) :
    List (Call Location Account Cid Meta) :=
  ((locations.map (Call.addLocation cid)).toChunks n).map Call.batch

/-- Calls that each register one location register as many as there are calls. -/
theorem length_flatMap_locations {calls : List (Call Location Account Cid Meta)}
    (hone : ∀ call ∈ calls, call.locations.length = 1) :
    (calls.flatMap Call.locations).length = calls.length := by
  induction calls with
  | nil => rfl
  | cons call calls ih =>
    rw [List.flatMap_cons, List.length_append, hone call List.mem_cons_self,
      ih (fun c hc => hone c (List.mem_cons_of_mem call hc)), List.length_cons, Nat.add_comm]

section Batches

variable {n : Nat} (hn : 0 < n)
include hn

/-- The batches carry every location they were made from, in order. -/
theorem locations_locationBatches (cid : Cid) (locations : List Location) :
    (locationBatches locations cid n : List (Call Location Account Cid Meta)).flatMap
      Call.locations = locations := by
  rw [locationBatches, List.flatMap_map]
  simp only [Call.locations_batch]
  calc ((locations.map (Call.addLocation cid)).toChunks n).flatMap
        (fun chunk => chunk.flatMap Call.locations)
      = ((locations.map (Call.addLocation cid)).toChunks n).flatten.flatMap Call.locations := by
        rw [List.flatten_eq_flatMap, List.flatMap_assoc]
        rfl
    _ = locations := by simp [List.flatten_toChunks hn, List.flatMap_map]

/-- Each batch carries at least one location and at most `n`. -/
theorem length_locations_of_mem_locationBatches {cid : Cid} {locations : List Location}
    {call : Call Location Account Cid Meta} (hcall : call ∈ locationBatches locations cid n) :
    0 < call.locations.length ∧ call.locations.length ≤ n := by
  obtain ⟨chunk, hchunk, rfl⟩ := List.mem_map.1 hcall
  -- A chunk holds `add_location` calls, which register one location each.
  have hone : ∀ c ∈ chunk, c.locations.length = 1 := by
    intro c hc
    have hflat : c ∈ locations.map (Call.addLocation cid) := by
      rw [← List.flatten_toChunks hn (locations.map (Call.addLocation cid))]
      exact List.mem_flatten.2 ⟨chunk, hchunk, hc⟩
    obtain ⟨location, -, rfl⟩ := List.mem_map.1 hflat
    simp
  rw [Call.locations_batch, length_flatMap_locations hone]
  exact List.length_mem_toChunks hn hchunk

/-- There are as few batches as batches of `n` allow. -/
theorem length_locationBatches (cid : Cid) (locations : List Location) :
    (locationBatches locations cid n : List (Call Location Account Cid Meta)).length =
      (locations.length + n - 1) / n := by
  rw [locationBatches, List.length_map, List.length_toChunks hn, List.length_map]

end Batches

section Steps

variable (ops : CommunityOps Location Account Cid Meta) (chain : Chain Location Account Cid Meta)
  {spec : CommunitySpec Location Account Meta} {first : Location} {rest : List Location} {cid : Cid}

theorem communityIdentifier_check (spec : CommunitySpec Location Account Meta) :
    Check (communityIdentifier ops spec : Command σ Cid) :=
  Check.bind (Check.expect _ _) fun _ => Check.orPanic _

theorem newCommunityCall_check (spec : CommunitySpec Location Account Meta) :
    Check (newCommunityCall ops spec : Command σ (Call Location Account Cid Meta)) :=
  Check.bind (Check.orPanic _) fun _ => Check.bind (Check.expect _ _) fun _ => Check.pure _

theorem createAddLocationBatches_check (locations : List Location) (cid : Cid)
    (batchSize : UInt32) :
    Check (createAddLocationBatches locations cid batchSize :
      Command σ (List (Call Location Account Cid Meta))) :=
  Check.ite (Check.panic _) (Check.pure _)

theorem wrapCalls_check (w : CallWrapping) (newCommunityCall : Call Location Account Cid Meta)
    (batchCalls : List (Call Location Account Cid Meta)) :
    Check (wrapCalls chain w newCommunityCall batchCalls : Command σ _) := by
  -- The three wrappings, in the order of `CallWrapping`.
  rcases w with _ | _ | _
  · exact Check.pure _
  · exact Check.ite (Check.panic _) (Check.pure _)
  · exact Check.bind (Check.orPanic _) fun _ => Check.pure _

theorem communityIdentifier_eq_ok (hloc : spec.locations = first :: rest)
    (hcid : ops.communityIdentifier first spec.bootstrappers = .ok cid) (s : σ) :
    communityIdentifier ops spec s = .ok cid s := by
  apply eq_ok_of_wp
  simp [communityIdentifier, hloc, hcid]

theorem newCommunityCall_eq_ok (hloc : spec.locations = first :: rest)
    (hmeta : ops.validate spec.metadata = .ok ()) (s : σ) :
    newCommunityCall ops spec s = .ok (.newCommunity first spec.bootstrappers spec.metadata) s := by
  apply eq_ok_of_wp
  simp [newCommunityCall, hloc, hmeta]

theorem createAddLocationBatches_eq_ok {batchSize : UInt32} (hbatch : batchSize ≠ 0)
    (locations : List Location) (cid : Cid) (s : σ) :
    (createAddLocationBatches locations cid batchSize :
      Command σ (List (Call Location Account Cid Meta))) s =
      .ok (locationBatches (locations.drop 1) cid batchSize.toNat) s := by
  simp only [createAddLocationBatches, if_neg hbatch]
  rfl

theorem createAddLocationBatches_zero (locations : List Location) (cid : Cid) (s : σ) :
    (createAddLocationBatches locations cid 0 :
      Command σ (List (Call Location Account Cid Meta))) s =
      .stop (.panic "assertion failed: size != 0") s := rfl

theorem wrapCalls_eq_ok {w : CallWrapping} (hcan : chain.CanWrap w)
    (newCommunityCall : Call Location Account Cid Meta)
    (batchCalls : List (Call Location Account Cid Meta)) :
    ∃ t, ∀ s : σ, wrapCalls chain w newCommunityCall batchCalls s =
      .ok (w.wrap t newCommunityCall, batchCalls.map (w.wrap t)) s := by
  obtain ⟨hsudo, hcouncil⟩ := hcan
  rcases w with _ | _ | _
  · exact ⟨0, fun s => eq_ok_of_wp (by simp [wrapCalls, CallWrapping.wrap])⟩
  · -- Under sudo, which the chain has.
    refine ⟨0, fun s => eq_ok_of_wp ?_⟩
    simp [wrapCalls, hsudo rfl, CallWrapping.wrap]
  · -- In council proposals, with the majority of the council read.
    obtain ⟨members, hmembers⟩ := hcouncil rfl
    refine ⟨majorityThreshold members, fun s => eq_ok_of_wp ?_⟩
    simp [wrapCalls, hmembers, CallWrapping.wrap]

theorem wrapPrivileged_check (signerArg : Option String) (call : Call Location Account Cid Meta) :
    Check (wrapPrivileged chain signerArg call : Command σ _) :=
  Check.ite (Check.ite (Check.pure _) (Check.bind (Check.orPanic _) fun _ => Check.pure _))
    (Check.pure _)

/-- The wrapping of `add_locations` returns, without changing what the call
    registers, when a signer is given, the chain has sudo, or the council can
    be read. -/
theorem wrapPrivileged_eq_ok {signerArg : Option String}
    (hcan : signerArg.isNone = true → chain.hasSudo = false →
      ∃ members, chain.councillors = .ok members)
    (call : Call Location Account Cid Meta) (s : σ) :
    ∃ call', wrapPrivileged chain signerArg call s = .ok call' s ∧
      call'.locations = call.locations := by
  unfold wrapPrivileged
  by_cases hsigner : signerArg.isNone = true
  · by_cases hsudo : chain.hasSudo = true
    · exact ⟨.sudo call, by simp [hsigner, hsudo]; rfl, by simp [Call.locations]⟩
    · -- Without sudo, the proposal needs a majority of the council.
      obtain ⟨members, hmembers⟩ := hcan hsigner (by simpa using hsudo)
      refine ⟨.collectivePropose (majorityThreshold members) call, eq_ok_of_wp ?_, ?_⟩
      · simp [hsigner, hsudo, hmembers]
      · simp [Call.locations]
  · exact ⟨call, by simp [hsigner]; rfl, rfl⟩

theorem sendAndWait_eq_ok {call : Call Location Account Cid Meta} (hpay : chain.canPay call = true)
    (sent : Sent Location Account Cid Meta) :
    sendAndWait chain call sent = .ok () (sent ++ [call]) := by
  apply eq_ok_of_wp
  simp [sendAndWait, ensurePayment, hpay]

/-- The loop over the batches sends them all, in order, when every fee is paid. -/
theorem forM_sendAndWait_eq_ok (calls : List (Call Location Account Cid Meta))
    (hpay : ∀ call ∈ calls, chain.canPay call = true) (sent : Sent Location Account Cid Meta) :
    calls.forM (sendAndWait chain) sent = .ok () (sent ++ calls) := by
  induction calls generalizing sent with
  | nil =>
    rw [List.append_nil]
    rfl
  | cons call calls ih =>
    show (sendAndWait chain call >>= fun _ => calls.forM (sendAndWait chain)) sent = _
    rw [bind_of_ok (sendAndWait_eq_ok chain (hpay call List.mem_cons_self) sent),
      ih (fun c hc => hpay c (List.mem_cons_of_mem call hc)), List.append_assoc,
      List.singleton_append]

end Steps

/-! ## A community of five locations -/

/-- An identifier that is the community's first location, and metadata that
    always validates. -/
def numberOps : CommunityOps Nat String Nat Unit where
  communityIdentifier location _ := .ok location
  validate _ := .ok ()

/-- Five numbered locations and three bootstrappers. -/
def fiveLocations : CommunitySpec Nat String Unit :=
  ⟨[1, 2, 3, 4, 5], ["Alice", "Bob", "Charlie"], ()⟩

/-- A chain without sudo, with a council of three, in the registering phase,
    where every fee is paid. -/
def councilChain : Chain Nat String Nat Unit :=
  ⟨false, .ok ["Alice", "Bob", "Charlie"], .registering, fun _ => true⟩

/-- The same chain in the attesting phase. -/
def attestingChain : Chain Nat String Nat Unit := { councilChain with phase := .attesting }

/-! ## Runs of `new_community` -/

section NewCommunityRuns

variable (ops : CommunityOps Location Account Cid Meta) (chain : Chain Location Account Cid Meta)
  {spec : CommunitySpec Location Account Meta} {first : Location} {rest : List Location} {cid : Cid}
  {batchSize : UInt32} {wrapCall : String} {w : CallWrapping}

/-- Past its checks, `new_community` sends the community's call, wrapped, and
    then checks the phase before it sends the wrapped batches. -/
theorem newCommunity_eq_send (hloc : spec.locations = first :: rest)
    (hcid : ops.communityIdentifier first spec.bootstrappers = .ok cid)
    (hmeta : ops.validate spec.metadata = .ok ()) (hbatch : batchSize ≠ 0)
    (hwrap : CallWrapping.fromStr wrapCall = .ok w) (hcan : chain.CanWrap w)
    (hpay : ∀ call, chain.canPay call = true) (sent : Sent Location Account Cid Meta) :
    ∃ t, newCommunity ops chain spec false wrapCall batchSize sent =
      (if chain.phase != .registering then
          (stop (.exit wrongPhase) : Command (Sent Location Account Cid Meta) Unit) >>= fun _ =>
            ((locationBatches rest cid batchSize.toNat).map (w.wrap t)).forM
              (sendAndWaitForFinalized chain)
        else ((locationBatches rest cid batchSize.toNat).map (w.wrap t)).forM
          (sendAndWaitForFinalized chain))
        (sent ++ [w.wrap t (.newCommunity first spec.bootstrappers spec.metadata)]) := by
  obtain ⟨t, hwrapCalls⟩ := @wrapCalls_eq_ok _ _ _ _ (Sent Location Account Cid Meta) chain _
    hcan (.newCommunity first spec.bootstrappers spec.metadata)
    (locationBatches rest cid batchSize.toNat)
  refine ⟨t, ?_⟩
  -- The checks return where they started; the first send then pays and is included.
  simp only [newCommunity, bind_of_ok (communityIdentifier_eq_ok ops hloc hcid sent),
    bind_of_ok (newCommunityCall_eq_ok ops hloc hmeta sent),
    bind_of_ok (createAddLocationBatches_eq_ok hbatch _ cid sent), hloc, List.drop_succ_cons,
    List.drop_zero, hwrap, bind_of_ok (hwrapCalls sent), Bool.false_eq_true, if_false]
  exact bind_of_ok (sendAndWait_eq_ok chain (hpay _) sent)

end NewCommunityRuns

/-! ## Runs of `add_locations` -/

section AddLocationsRuns

variable (chain : Chain Location Account Cid Meta) {spec : CommunitySpec Location Account Meta}
  {signerArg : Option String} {cid : Cid}

end AddLocationsRuns

end Communities
