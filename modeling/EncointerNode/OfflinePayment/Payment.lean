-- SUMMARY: The offline-payment commands `pay` and `settle`: the payment `pay` proves and prints as JSON, how `settle` reads one back from a file or from its arguments, and that settling the file `pay` wrote submits the payment it proved.
import EncointerNode.Stdlib.Hex
import EncointerNode.Stdlib.Json
import EncointerNode.Stdlib.JsonText
import EncointerNode.Stdlib.Process
import EncointerNode.Client.Identifiers

/-! # Paying offline and settling

`generate_offline_payment` (`offline-payment pay`) proves, with a Groth16 key,
that the signer pays an amount of a community's currency to a recipient, and
prints the payment as a JSON object: the proof, the commitment and the
nullifier in hex, the two accounts as SS58 addresses, the amount as it was
given, and the community identifier. `submit_offline_payment`
(`offline-payment settle`) reads these fields back, from a file
(`--proof-file`) or from its arguments, and submits a
`submit_offline_payment` extrinsic with them. The CI script
`test_offline_payment.sh` redirects the output of `pay` into a file and settles
that file.

The two ends agree: settling the file `pay` wrote submits exactly the payment
`pay` proved, its proof, accounts, amount, community and nullifier
(`settle_submits_payment`), as long as the proof fits the 256 bytes the call
takes. This rests on the round trips of each field's format: JSON printing and
parsing (`Codec.Lawful`, `Codec.ReadsLine`), hex (`Hex.decode_encode`), SS58
addresses and community identifiers (`KeyOps.Lawful`), and the same parse of
the amount's text on both sides. The two ways of giving `settle` a payment are
the same reads in the same order, so a file and arguments with the same fields
have the same effect (`submitOfflinePayment_file_eq_args`).

The zero-knowledge prover, the hashes and the fixed-point balance type are the
offline-payment pallet's and enter as the parameters `PaymentOps`; the chain
enters as what the commands read from it and what it answers to a submission,
`Chain`. The clock that seeds the proof's nonce is an input. -/

namespace OfflinePayment

open Json Command Client Process

/-- What the payment commands use of `pallet_encointer_offline_payment`, of the
    balance type and of `sp_core`. -/
structure PaymentOps (Pair Account Cid F64 Balance Field PK Proof : Type) where
  /-- `Pair::to_raw_vec`: the secret seed of a pair. -/
  toRawVec : Pair → List UInt8
  /-- `Encode::encode` of an account. -/
  encodeAccount : Account → List UInt8
  /-- `str::parse::<f64>`. -/
  parseF64 : String → Except String F64
  /-- `BalanceType::from_num`, or the message of its panic. -/
  fromNum : F64 → Except String Balance
  /-- `Display for BalanceType`. -/
  displayBalance : Balance → String
  deriveZkSecret : List UInt8 → List UInt8
  bytes32ToField : List UInt8 → Field
  fieldToBytes32 : Field → List.Vector UInt8 32
  hashRecipient : List UInt8 → List UInt8
  hashCid : Cid → List UInt8
  balanceToBytes : Balance → List UInt8
  /-- `sp_io::hashing::blake2_256`. -/
  blake2_256 : List UInt8 → List UInt8
  /-- `TrustedSetup::proving_key_from_bytes`. -/
  provingKeyFromBytes : List UInt8 → Option PK
  /-- The proving key of `TrustedSetup::generate_with_seed(TEST_SETUP_SEED)`. -/
  testProvingKey : PK
  /-- `generate_proof(pk, zk_secret, nonce, recipient_hash, amount, asset_hash)`:
      the proof and its public inputs. -/
  generateProof : PK → Field → Field → Field → Field → Field → Option (Proof × List Field)
  proofToBytes : Proof → List UInt8

/-- The `submit_offline_payment` call: the proof in a `BoundedVec` of at most 256
    bytes, the two accounts, the amount, the community and the nullifier. -/
structure SubmitOfflinePayment (Account Cid Balance : Type) where
  proof : BoundedVec UInt8 256
  sender : Account
  recipient : Account
  amount : Balance
  cid : Cid
  nullifier : List.Vector UInt8 32

/-- What the commands read from the chain, and how it answers a submission:
    the events of the block that includes it (none when they were not fetched),
    each as its pallet and variant, or the error. -/
structure Chain (Account Cid Balance : Type) where
  communityIdentifiers : Option (List Cid)
  genesisHash : List UInt8
  submit : SubmitOfflinePayment Account Cid Balance → Except String (Option (List (String × String)))

/-- A payment as `pay` proves it: the amount both as given and as a balance. -/
structure Payment (Account Cid Balance : Type) where
  proof : List UInt8
  commitment : List.Vector UInt8 32
  sender : Account
  recipient : Account
  amountStr : String
  amount : Balance
  cid : Cid
  nullifier : List.Vector UInt8 32

/-- `u128::to_le_bytes`. -/
def u128ToLeBytes (n : Nat) : List UInt8 :=
  (List.range 16).map fun i => UInt8.ofNat (n / 256 ^ i)

variable {Pair Account Cid F64 Balance Field PK Proof N Msg : Type}

/-- The object `pay` prints. The keys are in the order of the `BTreeMap`
    behind `json!`. -/
def paymentJson (keys : KeyOps Pair Account Cid) (pay : Payment Account Cid Balance) : Value N :=
  .object [("amount", .string pay.amountStr), ("cid", .string (keys.cidToString pay.cid)),
    ("commitment", .string (Hex.encode pay.commitment.toList)),
    ("nullifier", .string (Hex.encode pay.nullifier.toList)),
    ("proof", .string (Hex.encode pay.proof)),
    ("recipient", .string (keys.toSs58check pay.recipient)),
    ("sender", .string (keys.toSs58check pay.sender))]

section Commands

variable [DecidableEq Cid] (ops : PaymentOps Pair Account Cid F64 Balance Field PK Proof)
  (keys : KeyOps Pair Account Cid) (chain : Chain Account Cid Balance) (codec : Codec N)

/-- The proving key of `pay`: from the file given, or the test key. -/
def loadProvingKey (pkFile : Option String) : Command (Process Msg) PK :=
  match pkFile with
  | some pkPath => do
    let bytes ← expectOk (← read pkPath) "Failed to read proving key file"
    expect (ops.provingKeyFromBytes bytes)
      "Failed to deserialize proving key — is it a valid PK file?"
  | none => pure ops.testProvingKey

/-- The arguments of `generate_offline_payment`, read in its order: the signer's
    pair, the recipient, the amount and the community. -/
def readPayArgs (signerArg : Option String) (toStr amountStr : String) (cidArg : Option String) :
    Command (Process Msg) (Pair × Account × Balance × Cid) := do
  let signer ← orPanic (keys.getPairFromStr (← expect signerArg "--signer required"))
  let toAccount ← getAccountidFromStr keys toStr
  let amountF64 ← expectOk (ops.parseF64 amountStr) "Invalid amount"
  let amount ← orPanic (ops.fromNum amountF64)
  let cid ← verifyCid keys chain.communityIdentifiers
    (← expect cidArg "please supply argument --cid")
  pure (signer, toAccount, amount, cid)

/-- The proving part of `generate_offline_payment`: the proof's bytes, the
    commitment, the nullifier and the sender. -/
def provePayment (signer : Pair) (toAccount : Account) (amount : Balance) (cid : Cid)
    (pkFile : Option String) (timestamp : Nat) :
    Command (Process Msg) (List UInt8 × List.Vector UInt8 32 × List.Vector UInt8 32 × Account) := do
  let zkSecret := ops.bytes32ToField (ops.deriveZkSecret (ops.toRawVec signer))
  let nonce := ops.bytes32ToField (ops.blake2_256 (u128ToLeBytes timestamp))
  let recipientHashBytes := ops.hashRecipient (ops.encodeAccount toAccount)
  let assetHashBytes := ops.hashCid cid
  let amountBytes := ops.balanceToBytes amount
  -- The asset hash is bound to the chain's genesis hash against replay elsewhere.
  let chainAssetHashBytes := ops.blake2_256 (assetHashBytes ++ chain.genesisHash)
  let recipientHash := ops.bytes32ToField recipientHashBytes
  let chainAssetHash := ops.bytes32ToField chainAssetHashBytes
  let amountField := ops.bytes32ToField amountBytes
  let pk ← loadProvingKey ops pkFile
  let (proof, publicInputs) ←
    expect (ops.generateProof pk zkSecret nonce recipientHash amountField chainAssetHash)
      "Proof generation failed"
  let proofBytes := ops.proofToBytes proof
  let commitment := ops.fieldToBytes32 (← index publicInputs 0)
  let nullifier := ops.fieldToBytes32 (← index publicInputs 4)
  let sender ← getAccountidFromStr keys (keys.toSs58check (keys.accountOf signer))
  pure (proofBytes, commitment, nullifier, sender)

/-- `generate_offline_payment` up to the printing: the payment it proves. -/
def preparePayment (signerArg : Option String) (toStr amountStr : String)
    (pkFile cidArg : Option String) (timestamp : Nat) :
    Command (Process Msg) (Payment Account Cid Balance) := do
  let (signer, toAccount, amount, cid) ← readPayArgs ops keys chain signerArg toStr amountStr cidArg
  let (proofBytes, commitment, nullifier, sender) ←
    provePayment ops keys chain signer toAccount amount cid pkFile timestamp
  pure ⟨proofBytes, commitment, sender, toAccount, amountStr, amount, cid, nullifier⟩

/-- `generate_offline_payment`. -/
def generateOfflinePayment (signerArg : Option String) (toStr amountStr : String)
    (pkFile cidArg : Option String) (timestamp : Nat) : Command (Process Msg) Unit := do
  let pay ← preparePayment ops keys chain signerArg toStr amountStr pkFile cidArg timestamp
  println (codec.toStringPretty (paymentJson keys pay))

/-- What `settle` reads of a payment before it composes the call. -/
abbrev Fields (Account Cid Balance : Type) :=
  List UInt8 × Account × Account × Balance × Cid × List.Vector UInt8 32

/-- The `--proof-file` branch of `submit_offline_payment`. -/
def readProofFile (proofFile : String) : Command (Process Msg) (Fields Account Cid Balance) := do
  let content ← expectOk (← readToString proofFile) "Failed to read proof file"
  let json ← expect (codec.fromStr content) "Invalid JSON in proof file"
  let proofBytes ← expectOk (Hex.decode (← unwrap (json.index "proof").asStr)) "Invalid proof hex"
  let sender ← getAccountidFromStr keys (← unwrap (json.index "sender").asStr)
  let recipient ← getAccountidFromStr keys (← unwrap (json.index "recipient").asStr)
  let amount ← orPanic (ops.fromNum (← unwrapOk (ops.parseF64 (← unwrap (json.index "amount").asStr))))
  let cidStr ← unwrap (json.index "cid").asStr
  let cid ← verifyCid keys chain.communityIdentifiers cidStr
  let nullifierBytes ←
    expectOk (Hex.decode (← unwrap (json.index "nullifier").asStr)) "Invalid nullifier hex"
  let nullifier ← copyFromSlice 32 nullifierBytes
  pure (proofBytes, sender, recipient, amount, cid, nullifier)

/-- The branch of `submit_offline_payment` that reads the payment from its
    arguments; the community comes from `--cid`. -/
def readProofArgs (proofHex senderStr recipientStr amountStr nullifierHex cidArg : Option String) :
    Command (Process Msg) (Fields Account Cid Balance) := do
  let proofBytes ← expectOk (Hex.decode (← expect proofHex "proof required")) "Invalid proof hex"
  let sender ← getAccountidFromStr keys (← expect senderStr "sender required")
  let recipient ← getAccountidFromStr keys (← expect recipientStr "recipient required")
  let amount ← orPanic (ops.fromNum (← unwrapOk (ops.parseF64 (← expect amountStr "amount required"))))
  let cid ← verifyCid keys chain.communityIdentifiers
    (← expect cidArg "please supply argument --cid")
  let nullifierBytes ←
    expectOk (Hex.decode (← expect nullifierHex "nullifier required")) "Invalid nullifier hex"
  let nullifier ← copyFromSlice 32 nullifierBytes
  pure (proofBytes, sender, recipient, amount, cid, nullifier)

/-- What the command prints of one event of the block. -/
def printEvent (sender recipient : Account) (amount : Balance) (event : String × String) :
    Command (Process Msg) Unit :=
  if event.1 = "EncointerOfflinePayment" then
    if event.2 = "OfflinePaymentSettled" then do
      println "Payment settled!"
      println ("Sender: " ++ keys.toSs58check sender)
      println ("Recipient: " ++ keys.toSs58check recipient)
      println ("Amount: " ++ ops.displayBalance amount)
    else println ("Event: " ++ event.2)
  else pure ()

/-- What the command prints of the chain's answer to its submission. -/
def reportSubmission (sender recipient : Account) (amount : Balance)
    (result : Except String (Option (List (String × String)))) : Command (Process Msg) Unit :=
  match result with
  | .ok events => do
    println "Offline payment submitted successfully"
    (← unwrap events).forM (printEvent ops keys sender recipient amount)
  | .error e => println ("Failed to submit offline payment: " ++ e)

/-- `submit_offline_payment`. Whatever the chain answers, the command does not
    exit with an error code. -/
def submitOfflinePayment (signerArg proofFile proofHex senderStr recipientStr amountStr nullifierHex
    cidArg : Option String) : Command (Process (SubmitOfflinePayment Account Cid Balance)) Unit := do
  let _signer ← orPanic (keys.getPairFromStr (← expect signerArg "--signer required"))
  let (proofBytes, sender, recipient, amount, cid, nullifier) ← match proofFile with
    | some path => readProofFile ops keys chain codec path
    | none => readProofArgs ops keys chain proofHex senderStr recipientStr amountStr nullifierHex cidArg
  let proof ← expectOk (BoundedVec.tryFrom 256 proofBytes) "Proof exceeds max size"
  let call : SubmitOfflinePayment Account Cid Balance :=
    ⟨proof, sender, recipient, amount, cid, nullifier⟩
  send call
  reportSubmission ops keys sender recipient amount (chain.submit call)

/-- Steps 8 and 9 of `test_offline_payment.sh`, for any payment: `pay` with its
    output redirected into a file, then `settle --proof-file` with that file. -/
def payThenSettle (signer toStr amountStr : String) (pkFile : Option String) (cid : String)
    (timestamp : Nat) (path settler : String) :
    Command (Process (SubmitOfflinePayment Account Cid Balance)) Unit := do
  redirect (generateOfflinePayment ops keys chain codec (some signer) toStr amountStr pkFile
    (some cid) timestamp) path
  submitOfflinePayment ops keys chain codec (some settler) (some path) none none none none none none

/-- The steps as the script runs them: Alice pays Bob 0.1 into
    `/tmp/payment.json`, and Charlie settles it. -/
def testOfflinePaymentSteps (cid : String) (timestamp : Nat) :
    Command (Process (SubmitOfflinePayment Account Cid Balance)) Unit :=
  payThenSettle ops keys chain codec "//Alice" "//Bob" "0.1" none cid timestamp "/tmp/payment.json"
    "//Charlie"

end Commands

/-! ## The printed payment -/

section Printed

variable (keys : KeyOps Pair Account Cid) (pay : Payment Account Cid Balance)

/-- The printed object is well formed: its seven keys are in order. -/
theorem paymentJson_wellFormed : WellFormed (paymentJson keys pay : Value N) := by
  refine .object (by simp only [List.map_cons, List.map_nil]; decide) ?_
  intro q hq
  simp only [List.mem_cons, List.not_mem_nil, or_false] at hq
  rcases hq with rfl | rfl | rfl | rfl | rfl | rfl | rfl <;> exact .string _

/-- The fields `settle` reads, as `pay` printed them. -/
theorem paymentJson_fields :
    (paymentJson keys pay : Value N).index "proof" = .string (Hex.encode pay.proof) ∧
    (paymentJson keys pay : Value N).index "sender" = .string (keys.toSs58check pay.sender) ∧
    (paymentJson keys pay : Value N).index "recipient" =
      .string (keys.toSs58check pay.recipient) ∧
    (paymentJson keys pay : Value N).index "amount" = .string pay.amountStr ∧
    (paymentJson keys pay : Value N).index "cid" = .string (keys.cidToString pay.cid) ∧
    (paymentJson keys pay : Value N).index "nullifier" =
      .string (Hex.encode pay.nullifier.toList) := by
  simp [paymentJson, Value.index, List.lookup_cons]

end Printed

/-! ## What `pay` checks and leaves -/

section Pay

variable [DecidableEq Cid] (ops : PaymentOps Pair Account Cid F64 Balance Field PK Proof)
  (keys : KeyOps Pair Account Cid) (chain : Chain Account Cid Balance)

omit [DecidableEq Cid] in
theorem loadProvingKey_check (pkFile : Option String) :
    Check (loadProvingKey ops pkFile : Command (Process Msg) PK) := by
  cases pkFile with
  | some pkPath =>
    exact Check.bind (read_check _) fun r =>
      Check.bind (Check.expectOk _ _) fun bytes => Check.expect _ _
  | none => exact Check.pure _

theorem readPayArgs_check (signerArg : Option String) (toStr amountStr : String)
    (cidArg : Option String) :
    Check (readPayArgs ops keys chain signerArg toStr amountStr cidArg : Command (Process Msg) _) :=
  Check.bind (Check.expect _ _) fun _ => Check.bind (Check.orPanic _) fun _ =>
    Check.bind (getAccountidFromStr_check keys _) fun _ => Check.bind (Check.expectOk _ _) fun _ =>
    Check.bind (Check.orPanic _) fun _ => Check.bind (Check.expect _ _) fun _ =>
    Check.bind (verifyCid_check keys _ _) fun _ => Check.pure _

omit [DecidableEq Cid] in
theorem provePayment_check (signer : Pair) (toAccount : Account) (amount : Balance) (cid : Cid)
    (pkFile : Option String) (timestamp : Nat) :
    Check (provePayment ops keys chain signer toAccount amount cid pkFile timestamp :
      Command (Process Msg) _) := by
  refine Check.bind (loadProvingKey_check ops pkFile) fun pk => ?_
  refine Check.bind (Check.expect _ _) fun r => ?_
  obtain ⟨proof, publicInputs⟩ := r
  exact Check.bind (Check.index _ _) fun _ => Check.bind (Check.index _ _) fun _ =>
    Check.bind (getAccountidFromStr_check keys _) fun _ => Check.pure _

/-- `pay` reads and proves, and changes nothing until it prints. -/
theorem preparePayment_check (signerArg : Option String) (toStr amountStr : String)
    (pkFile cidArg : Option String) (timestamp : Nat) :
    Check (preparePayment ops keys chain signerArg toStr amountStr pkFile cidArg timestamp :
      Command (Process Msg) _) := by
  refine Check.bind (readPayArgs_check ops keys chain _ _ _ _) fun args => ?_
  obtain ⟨signer, toAccount, amount, cid⟩ := args
  refine Check.bind (provePayment_check ops keys chain _ _ _ _ _ _) fun outs => ?_
  obtain ⟨proofBytes, commitment, nullifier, sender⟩ := outs
  exact Check.pure _

/-- What `pay` checked of its arguments when it read them: the amount parsed to
    the balance, and the community is registered. -/
theorem readPayArgs_eq_ok {signerArg cidArg : Option String} {toStr amountStr : String}
    {p p' : Process Msg} {signer : Pair} {toAccount : Account} {amount : Balance} {cid : Cid}
    (h : readPayArgs ops keys chain signerArg toStr amountStr cidArg p =
      .ok (signer, toAccount, amount, cid) p') :
    (∃ f, ops.parseF64 amountStr = .ok f ∧ ops.fromNum f = .ok amount) ∧
      ∃ cids, chain.communityIdentifiers = some cids ∧ cid ∈ cids := by
  obtain ⟨_, _, -, h⟩ := bind_eq_ok h
  obtain ⟨_, _, -, h⟩ := bind_eq_ok h
  obtain ⟨_, _, -, h⟩ := bind_eq_ok h
  obtain ⟨f, _, hparse, h⟩ := bind_eq_ok h
  obtain ⟨amount', _, hnum, h⟩ := bind_eq_ok h
  obtain ⟨_, _, -, h⟩ := bind_eq_ok h
  obtain ⟨cid', _, hcid, h⟩ := bind_eq_ok h
  -- The last step returns the values read.
  cases h
  exact ⟨⟨f, (expectOk_eq_ok hparse).1, (orPanic_eq_ok hnum).1⟩, verifyCid_eq_ok keys hcid⟩

/-- What a payment `pay` proved carries of its arguments: the amount as given,
    parsed to the payment's balance, and a registered community. -/
theorem preparePayment_eq_ok {signerArg pkFile cidArg : Option String} {toStr amountStr : String}
    {timestamp : Nat} {p p' : Process Msg} {pay : Payment Account Cid Balance}
    (h : preparePayment ops keys chain signerArg toStr amountStr pkFile cidArg timestamp p =
      .ok pay p') :
    pay.amountStr = amountStr ∧
      (∃ f, ops.parseF64 pay.amountStr = .ok f ∧ ops.fromNum f = .ok pay.amount) ∧
      ∃ cids, chain.communityIdentifiers = some cids ∧ pay.cid ∈ cids := by
  obtain ⟨⟨signer, toAccount, amount, cid⟩, _, hargs, h⟩ := bind_eq_ok h
  obtain ⟨⟨proofBytes, commitment, nullifier, sender⟩, _, -, h⟩ := bind_eq_ok h
  cases h
  exact ⟨rfl, readPayArgs_eq_ok ops keys chain hargs⟩

end Pay

/-! ## What `settle` reads back -/

section Settle

variable [DecidableEq Cid] (ops : PaymentOps Pair Account Cid F64 Balance Field PK Proof)
  (keys : KeyOps Pair Account Cid) (chain : Chain Account Cid Balance) (codec : Codec N)

/-- A file holding the printed payment reads back as its fields, when the
    formats round-trip, its community is registered and its amount parses. -/
theorem readProofFile_paymentJson (hkeys : keys.Lawful) (hline : codec.ReadsLine)
    {pay : Payment Account Cid Balance} {cids : List Cid} {f : F64}
    (hcids : chain.communityIdentifiers = some cids) (hmem : pay.cid ∈ cids)
    (hparse : ops.parseF64 pay.amountStr = .ok f) (hnum : ops.fromNum f = .ok pay.amount)
    {p : Process Msg} {path : String}
    (hfile : p.fs path = some (text [codec.toStringPretty (paymentJson keys pay)]).asBytes) :
    readProofFile ops keys chain codec path p =
      .ok (pay.proof, pay.sender, pay.recipient, pay.amount, pay.cid, pay.nullifier) p := by
  rw [text_singleton] at hfile
  have hcontent := FileSystem.readFileToString_bytes hfile
  have hjson := hline _ (paymentJson_wellFormed keys pay)
  obtain ⟨hproof, hsender, hrecipient, hamount, hcid, hnullifier⟩ :=
    @paymentJson_fields _ _ _ _ N keys pay
  simp only [readProofFile, bind_of_ok (readToString_eq path p), hcontent, expectOk_ok, pure_bind,
    hjson, expect_some, hproof, hsender, hrecipient, hamount, hcid, hnullifier, Value.asStr, unwrap,
    Hex.decode_encode, hparse, unwrapOk_ok, hnum, orPanic,
    bind_of_ok (getAccountidFromStr_toSs58check hkeys _ p), hcids,
    bind_of_ok (verifyCid_cidToString hkeys hmem p), bind_of_ok (copyFromSlice_toList _ p)]
  rfl

omit [DecidableEq Cid] in
theorem printEvent_onlyPrints (sender recipient : Account) (amount : Balance)
    (event : String × String) :
    OnlyPrints (printEvent ops keys sender recipient amount event : Command (Process Msg) Unit) :=
  OnlyPrints.ite (OnlyPrints.ite
    (OnlyPrints.bind (OnlyPrints.println _) fun _ => OnlyPrints.bind (OnlyPrints.println _) fun _ =>
      OnlyPrints.bind (OnlyPrints.println _) fun _ => OnlyPrints.println _)
    (OnlyPrints.println _)) (OnlyPrints.ofCheck (Check.pure ()))

omit [DecidableEq Cid] in
/-- Reporting the chain's answer prints, and may panic on a missing event list,
    but sends nothing. -/
theorem reportSubmission_onlyPrints (sender recipient : Account) (amount : Balance)
    (result : Except String (Option (List (String × String)))) :
    OnlyPrints (reportSubmission ops keys sender recipient amount result : Command (Process Msg) Unit) := by
  cases result with
  | ok events =>
    exact OnlyPrints.bind (OnlyPrints.println _) fun _ =>
      OnlyPrints.bind (OnlyPrints.ofCheck (Check.unwrap _)) fun l =>
        OnlyPrints.forM (printEvent_onlyPrints ops keys sender recipient amount) l
  | error e => exact OnlyPrints.println _

/-- The two branches read the same fields in the same order: on a file whose
    JSON holds them as strings, reading the file is reading them as arguments,
    with the file's community as `--cid`. -/
theorem readProofFile_eq_readProofArgs {p : Process Msg} {path content : String} {json : Value N}
    {proofHex senderStr recipientStr amountStr cidStr nullifierHex : String}
    (hfile : p.fs.readFileToString path = .ok content) (hjson : codec.fromStr content = some json)
    (hproof : (json.index "proof").asStr = some proofHex)
    (hsender : (json.index "sender").asStr = some senderStr)
    (hrecipient : (json.index "recipient").asStr = some recipientStr)
    (hamount : (json.index "amount").asStr = some amountStr)
    (hcid : (json.index "cid").asStr = some cidStr)
    (hnullifier : (json.index "nullifier").asStr = some nullifierHex) :
    readProofFile ops keys chain codec path p =
      readProofArgs ops keys chain (some proofHex) (some senderStr) (some recipientStr)
        (some amountStr) (some nullifierHex) (some cidStr) p := by
  simp only [readProofFile, readProofArgs, bind_of_ok (readToString_eq path p), hfile, expectOk_ok,
    pure_bind, hjson, expect_some, hproof, hsender, hrecipient, hamount, hcid, hnullifier, unwrap]

end Settle

/-! ## Settling what was paid -/

section RoundTrip

variable [DecidableEq Cid] (ops : PaymentOps Pair Account Cid F64 Balance Field PK Proof)
  (keys : KeyOps Pair Account Cid) (chain : Chain Account Cid Balance) (codec : Codec N)

/-- `pay` prints the payment it proved, and does nothing else. -/
theorem generateOfflinePayment_eq_ok {signerArg pkFile cidArg : Option String}
    {toStr amountStr : String} {timestamp : Nat} {p : Process Msg} {pay : Payment Account Cid Balance}
    (h : preparePayment ops keys chain signerArg toStr amountStr pkFile cidArg timestamp p =
      .ok pay p) :
    generateOfflinePayment ops keys chain codec signerArg toStr amountStr pkFile cidArg timestamp p =
      .ok () { p with stdout := p.stdout ++ [codec.toStringPretty (paymentJson keys pay)] } := by
  rw [generateOfflinePayment, bind_of_ok h, println_eq]

/-- Settling the file `pay` wrote submits the payment `pay` proved: its proof,
    sender, recipient, amount, community and nullifier, one extrinsic and no
    other. A proof longer than the call's 256 bytes makes `settle` panic
    before it submits anything. -/
theorem settle_submits_payment (hkeys : keys.Lawful) (hline : codec.ReadsLine)
    {signer toStr amountStr cid path settler : String} {pkFile : Option String} {timestamp : Nat}
    {p : Process (SubmitOfflinePayment Account Cid Balance)} {pay : Payment Account Cid Balance}
    {settlerPair : Pair}
    (hpay : preparePayment ops keys chain (some signer) toStr amountStr pkFile (some cid) timestamp
      (redirectStart path p) = .ok pay (redirectStart path p))
    (hsettler : keys.getPairFromStr settler = .ok settlerPair) :
    (∀ hfits : pay.proof.length ≤ 256,
      (payThenSettle ops keys chain codec signer toStr amountStr pkFile cid timestamp path settler
        p).state.sent =
        p.sent ++ [⟨⟨pay.proof, hfits⟩, pay.sender, pay.recipient, pay.amount, pay.cid, pay.nullifier⟩]) ∧
    (256 < pay.proof.length → ∃ q,
      payThenSettle ops keys chain codec signer toStr amountStr pkFile cid timestamp path settler p =
        .stop (.panic "Proof exceeds max size") q ∧ q.sent = p.sent) := by
  obtain ⟨-, ⟨f, hparse, hnum⟩, cids, hcids, hmem⟩ := preparePayment_eq_ok ops keys chain hpay
  -- After `pay`, the file holds the printed payment and nothing was sent.
  have hpaid := redirect_of_ok (generateOfflinePayment_eq_ok ops keys chain codec hpay)
  set q := afterRedirect path p
    { redirectStart path p with
      stdout := (redirectStart path p).stdout ++ [codec.toStringPretty (paymentJson keys pay)] }
    with hq
  have hfile : q.fs path = some (text [codec.toStringPretty (paymentJson keys pay)]).asBytes := by
    rw [hq, afterRedirect_fs_self, redirectStart_stdout, List.nil_append]
  have hread := readProofFile_paymentJson ops keys chain codec hkeys hline hcids hmem hparse hnum hfile
  -- `settle` reads the file back to the payment's fields.
  have hsettle :
      payThenSettle ops keys chain codec signer toStr amountStr pkFile cid timestamp path settler p =
        (expectOk (BoundedVec.tryFrom 256 pay.proof) "Proof exceeds max size" >>= fun proof =>
          send ⟨proof, pay.sender, pay.recipient, pay.amount, pay.cid, pay.nullifier⟩ >>= fun _ =>
          reportSubmission ops keys pay.sender pay.recipient pay.amount
            (chain.submit ⟨proof, pay.sender, pay.recipient, pay.amount, pay.cid, pay.nullifier⟩)) q := by
    rw [payThenSettle, bind_of_ok hpaid, submitOfflinePayment]
    simp only [expect_some, pure_bind, hsettler, orPanic, bind_of_ok hread]
  constructor
  · intro hfits
    have htry : BoundedVec.tryFrom 256 pay.proof = .ok ⟨pay.proof, hfits⟩ := by
      simp [BoundedVec.tryFrom, hfits]
    rw [hsettle, htry, expectOk_ok, pure_bind, bind_of_ok (send_eq _ q)]
    -- Only the report is left, and it sends nothing.
    rw [(reportSubmission_onlyPrints ops keys _ _ _ _ _).2]
    rfl
  · intro hlong
    have htry : BoundedVec.tryFrom 256 pay.proof = .error pay.proof := by
      simp [BoundedVec.tryFrom, Nat.not_le.2 hlong]
    rw [hsettle, htry]
    exact ⟨q, bind_of_stop rfl, rfl⟩

/-- `settle --proof-file` on a file whose JSON holds the six fields as strings
    does what `settle` does with those strings as its arguments and the file's
    community as `--cid`, whatever else it is given. -/
theorem submitOfflinePayment_file_eq_args {p : Process (SubmitOfflinePayment Account Cid Balance)}
    {path content : String} {json : Value N}
    {proofHex senderStr recipientStr amountStr cidStr nullifierHex : String}
    (hfile : p.fs.readFileToString path = .ok content) (hjson : codec.fromStr content = some json)
    (hproof : (json.index "proof").asStr = some proofHex)
    (hsender : (json.index "sender").asStr = some senderStr)
    (hrecipient : (json.index "recipient").asStr = some recipientStr)
    (hamount : (json.index "amount").asStr = some amountStr)
    (hcid : (json.index "cid").asStr = some cidStr)
    (hnullifier : (json.index "nullifier").asStr = some nullifierHex)
    (signerArg proofArg senderArg recipientArg amountArg nullifierArg cidArg : Option String) :
    submitOfflinePayment ops keys chain codec signerArg (some path) proofArg senderArg recipientArg
        amountArg nullifierArg cidArg p =
      submitOfflinePayment ops keys chain codec signerArg none (some proofHex) (some senderStr)
        (some recipientStr) (some amountStr) (some nullifierHex) (some cidStr) p := by
  simp only [submitOfflinePayment]
  -- The signer is read alike on both sides, and reading it changes nothing.
  refine Check.bind_congr (Check.expect _ _) fun signer => ?_
  refine Check.bind_congr (Check.orPanic _) fun _ => ?_
  exact bind_congr_left (readProofFile_eq_readProofArgs ops keys chain codec hfile hjson hproof
    hsender hrecipient hamount hcid hnullifier) _

end RoundTrip

/-! ## The script's run, with the cryptography trivial

Every key, account, amount and proof is the unit, a proof is 128 zero bytes,
and the community is the one registered: a setting where the hypotheses of the
round trip hold together. -/

/-- Payment operations over units. -/
def unitOps : PaymentOps Unit Unit Unit Unit Unit Unit Unit Unit where
  toRawVec _ := []
  encodeAccount _ := []
  parseF64 _ := .ok ()
  fromNum _ := .ok ()
  displayBalance _ := "0.1"
  deriveZkSecret _ := []
  bytes32ToField _ := ()
  fieldToBytes32 _ := ⟨List.replicate 32 0, rfl⟩
  hashRecipient _ := []
  hashCid _ := []
  balanceToBytes _ := []
  blake2_256 _ := []
  provingKeyFromBytes _ := some ()
  testProvingKey := ()
  generateProof _ _ _ _ _ _ := some ((), [(), (), (), (), ()])
  proofToBytes _ := List.replicate 128 0

/-- Keys over units, with one address and one community identifier. -/
def unitKeys : KeyOps Unit Unit Unit where
  getPairFromStr _ := .ok ()
  pairFromString _ := .ok ()
  accountOf _ := ()
  fromSs58check _ := .ok ()
  toSs58check _ := "5GrwvaEF"
  cidFromStr _ := .ok ()
  cidToString _ := "sqm1v79dF6b"

theorem unitKeys_lawful : unitKeys.Lawful where
  fromSs58check_toSs58check _ := rfl
  toSs58check_base58 _ := by
    show ∃ c₁ c₂ rest, "5GrwvaEF".toList = c₁ :: c₂ :: rest ∧ ∀ c ∈ "5GrwvaEF".toList, c ∈ base58Alphabet
    have hall : "5GrwvaEF".toList.all (fun c => decide (c ∈ base58Alphabet)) = true := by decide
    exact ⟨'5', 'G', "rwvaEF".toList, by decide,
      fun c hc => of_decide_eq_true (List.all_eq_true.1 hall c hc)⟩
  cidFromStr_cidToString _ := rfl

/-- A chain with the one community, that settles every payment. -/
def unitChain : Chain Unit Unit Unit where
  communityIdentifiers := some [()]
  genesisHash := []
  submit _ := .ok (some [("EncointerOfflinePayment", "OfflinePaymentSettled")])

/-- A client with no files, nothing printed and nothing sent. -/
def freshProcess : Process (SubmitOfflinePayment Unit Unit Unit) := ⟨fun _ => none, [], []⟩

/-- The payment `pay` proves over units. -/
def unitPayment : Payment Unit Unit Unit :=
  ⟨List.replicate 128 0, ⟨List.replicate 32 0, rfl⟩, (), (), "0.1", (), (), ⟨List.replicate 32 0, rfl⟩⟩

theorem preparePayment_script :
    preparePayment unitOps unitKeys unitChain (some "//Alice") "//Bob" "0.1" none (some "sqm1v79dF6b") 0
        (redirectStart "/tmp/payment.json" freshProcess) =
      .ok unitPayment (redirectStart "/tmp/payment.json" freshProcess) := by
  rfl

/-- The prefix-code codec that reads a printed line, over values without numbers. -/
noncomputable def emptyLineCodec : Codec Empty := lineCodec Empty.elim

theorem emptyLineCodec_readsLine : emptyLineCodec.ReadsLine :=
  lineCodec_readsLine fun a => a.elim

theorem settle_submits_payment_script :
    unitKeys.Lawful ∧ emptyLineCodec.ReadsLine ∧
    preparePayment unitOps unitKeys unitChain (some "//Alice") "//Bob" "0.1" none (some "sqm1v79dF6b") 0
        (redirectStart "/tmp/payment.json" freshProcess) =
      .ok unitPayment (redirectStart "/tmp/payment.json" freshProcess) ∧
    unitKeys.getPairFromStr "//Charlie" = .ok () ∧
    ((∀ hfits : unitPayment.proof.length ≤ 256,
      (payThenSettle unitOps unitKeys unitChain emptyLineCodec "//Alice" "//Bob" "0.1" none "sqm1v79dF6b"
        0 "/tmp/payment.json" "//Charlie" freshProcess).state.sent =
        freshProcess.sent ++ [⟨⟨unitPayment.proof, hfits⟩, unitPayment.sender, unitPayment.recipient,
          unitPayment.amount, unitPayment.cid, unitPayment.nullifier⟩]) ∧
    (256 < unitPayment.proof.length → ∃ q,
      payThenSettle unitOps unitKeys unitChain emptyLineCodec "//Alice" "//Bob" "0.1" none "sqm1v79dF6b"
        0 "/tmp/payment.json" "//Charlie" freshProcess = .stop (.panic "Proof exceeds max size") q ∧
        q.sent = freshProcess.sent)) :=
  ⟨unitKeys_lawful, emptyLineCodec_readsLine, preparePayment_script, rfl,
    settle_submits_payment unitOps unitKeys unitChain emptyLineCodec unitKeys_lawful
      emptyLineCodec_readsLine preparePayment_script rfl⟩

/-- The client after `pay`: the file holds the printed payment. -/
noncomputable def paidProcess : Process (SubmitOfflinePayment Unit Unit Unit) :=
  { freshProcess with
    fs := freshProcess.fs.writeFile "/tmp/payment.json"
      (text [emptyLineCodec.toStringPretty (paymentJson unitKeys unitPayment)]).asBytes }

theorem submitOfflinePayment_file_eq_args_script :
    paidProcess.fs.readFileToString "/tmp/payment.json" =
      .ok (emptyLineCodec.toStringPretty (paymentJson unitKeys unitPayment) ++ "\n") ∧
    emptyLineCodec.fromStr (emptyLineCodec.toStringPretty (paymentJson unitKeys unitPayment) ++ "\n") =
      some (paymentJson unitKeys unitPayment) ∧
    ((paymentJson unitKeys unitPayment : Value Empty).index "proof").asStr =
      some (Hex.encode unitPayment.proof) ∧
    ((paymentJson unitKeys unitPayment : Value Empty).index "sender").asStr = some "5GrwvaEF" ∧
    ((paymentJson unitKeys unitPayment : Value Empty).index "recipient").asStr = some "5GrwvaEF" ∧
    ((paymentJson unitKeys unitPayment : Value Empty).index "amount").asStr = some "0.1" ∧
    ((paymentJson unitKeys unitPayment : Value Empty).index "cid").asStr = some "sqm1v79dF6b" ∧
    ((paymentJson unitKeys unitPayment : Value Empty).index "nullifier").asStr =
      some (Hex.encode unitPayment.nullifier.toList) ∧
    submitOfflinePayment unitOps unitKeys unitChain emptyLineCodec (some "//Charlie")
        (some "/tmp/payment.json") none none none none none none paidProcess =
      submitOfflinePayment unitOps unitKeys unitChain emptyLineCodec (some "//Charlie") none
        (some (Hex.encode unitPayment.proof)) (some "5GrwvaEF") (some "5GrwvaEF") (some "0.1")
        (some (Hex.encode unitPayment.nullifier.toList)) (some "sqm1v79dF6b") paidProcess := by
  have hfile : paidProcess.fs.readFileToString "/tmp/payment.json" =
      .ok (emptyLineCodec.toStringPretty (paymentJson unitKeys unitPayment) ++ "\n") := by
    rw [← text_singleton]
    exact FileSystem.readFileToString_bytes (by simp [paidProcess])
  have hjson := emptyLineCodec_readsLine _ (paymentJson_wellFormed unitKeys unitPayment)
  have hfields : ((paymentJson unitKeys unitPayment : Value Empty).index "proof").asStr =
        some (Hex.encode unitPayment.proof) ∧
      ((paymentJson unitKeys unitPayment : Value Empty).index "sender").asStr = some "5GrwvaEF" ∧
      ((paymentJson unitKeys unitPayment : Value Empty).index "recipient").asStr = some "5GrwvaEF" ∧
      ((paymentJson unitKeys unitPayment : Value Empty).index "amount").asStr = some "0.1" ∧
      ((paymentJson unitKeys unitPayment : Value Empty).index "cid").asStr = some "sqm1v79dF6b" ∧
      ((paymentJson unitKeys unitPayment : Value Empty).index "nullifier").asStr =
        some (Hex.encode unitPayment.nullifier.toList) := by
    refine ⟨?_, ?_, ?_, ?_, ?_, ?_⟩ <;> simp only [paymentJson_fields, Value.asStr] <;> rfl
  obtain ⟨hproof, hsender, hrecipient, hamount, hcid, hnullifier⟩ := hfields
  exact ⟨hfile, hjson, hproof, hsender, hrecipient, hamount, hcid, hnullifier,
    submitOfflinePayment_file_eq_args unitOps unitKeys unitChain emptyLineCodec hfile hjson hproof
      hsender hrecipient hamount hcid hnullifier _ _ _ _ _ _ _⟩

end OfflinePayment
