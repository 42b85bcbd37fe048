-- SUMMARY: The multiparty trusted-setup ceremony commands of the CLI (`init`, `contribute`, `verify`, `finalize`) over files, with the proving-key operations as parameters.
import EncointerNode.Stdlib.Fs
import EncointerNode.Stdlib.Hex
import EncointerNode.Stdlib.Json

/-! # The trusted-setup ceremony commands

`cli/src/commands/encointer_offline_payment.rs` runs a multiparty ceremony for
the Groth16 proving key of offline payments. Two files carry its state: the
current proving key (PK), and a JSON transcript that records the hash of the
initial `delta_g2` and one entry per contribution, each with the contribution's
receipt in hex.

A receipt is laid out as `d_g1 (32B) | old_delta_g2 (64B) | new_delta_g2 (64B)`:
the `delta_g2` of the key before the contribution and after it. `verify` checks
that consecutive receipts chain (each old delta is the previous new delta),
that each receipt passes its pairing check, and that the final key passes a
functional test.

The cryptography lives in `pallet_encointer_offline_payment::ceremony`, outside
this repository, and enters the model as the parameters `CeremonyOps`. So do the
JSON parser and printer (`Json.Codec`). Randomness, which `ceremony_init` and
`ceremony_contribute` draw from the operating system, is an input `rng` of the
commands. Printing is not modelled; what the commands print is determined by
what they compute. -/

namespace TrustedSetup

open Json Command

/-- What the ceremony commands use of `pallet_encointer_offline_payment::ceremony`,
    of `TrustedSetup` and of `sp_io::hashing`. -/
structure CeremonyOps (PK Receipt Rng : Type) where
  /-- `ceremony_init`: a fresh key. -/
  ceremonyInit : Rng → PK
  /-- `ceremony_contribute`: the updated key and the receipt of the update. -/
  ceremonyContribute : Rng → PK → PK × Receipt
  /-- `verify_contribution`: the pairing check of a receipt. -/
  verifyContribution : Receipt → Bool
  /-- `verify_ceremony_pk`: generate and verify a proof with the key. -/
  verifyCeremonyPk : PK → Bool
  serializePk : PK → List UInt8
  serializeVk : PK → List UInt8
  serializeDeltaG2 : PK → List UInt8
  /-- `TrustedSetup::proving_key_from_bytes`. -/
  provingKeyFromBytes : List UInt8 → Option PK
  /-- `ContributionReceipt::to_bytes`. -/
  receiptToBytes : Receipt → List UInt8
  /-- `ContributionReceipt::from_bytes`. -/
  receiptFromBytes : List UInt8 → Option Receipt
  /-- `sp_io::hashing::blake2_256`. -/
  blake2_256 : List UInt8 → List UInt8

/-! ## Receipts and transcript entries -/

/-- `receipt_bytes[32..96]`, the `delta_g2` before the contribution. -/
def oldDelta (receiptBytes : List UInt8) : List UInt8 := (receiptBytes.take 96).drop 32

/-- `receipt_bytes[96..160]`, the `delta_g2` after the contribution. -/
def newDelta (receiptBytes : List UInt8) : List UInt8 := (receiptBytes.take 160).drop 96

variable {N : Type}

/-- The transcript `cmd_ceremony_init` writes. The keys are in the order of the
    `BTreeMap` behind `json!`. -/
def initialTranscript (deltaHash : String) : Value N :=
  .object [("contributions", .array []), ("initial_delta_g2_hash", .string ("0x" ++ deltaHash))]

/-- The entry `cmd_ceremony_contribute` appends for one contribution. -/
def contributionEntry (participant receiptHex oldDeltaHash newDeltaHash : String) : Value N :=
  .object [("new_delta_g2_hash", .string ("0x" ++ newDeltaHash)),
    ("old_delta_g2_hash", .string ("0x" ++ oldDeltaHash)),
    ("participant", .string participant),
    ("receipt", .string receiptHex)]

/-- `as_array_mut().expect("contributions array").push(entry)`, on the slot that
    `transcript["contributions"]` gives for writing. -/
def pushContribution (entry slot : Value N) : Except String (Value N) :=
  match slot.asArray with
  | some entries => .ok (.array (entries ++ [entry]))
  | none => .error "contributions array"

section Commands

variable {PK Receipt Rng : Type} (ops : CeremonyOps PK Receipt Rng) (codec : Codec N)

/-- `cmd_ceremony_init`: a fresh key, and a transcript with no contributions that
    records the hash of the key's `delta_g2`. -/
def cmdCeremonyInit (pkPath transcriptPath : String) (rng : Rng) : Command FileSystem Unit := do
  let pk := ops.ceremonyInit rng
  let pkBytes := ops.serializePk pk
  expectOk (← Fs.write pkPath pkBytes) "write PK file"
  let deltaBytes := ops.serializeDeltaG2 pk
  let deltaHash := Hex.encode (ops.blake2_256 deltaBytes)
  let transcript : Value N := initialTranscript deltaHash
  expectOk (← Fs.write transcriptPath (codec.toStringPretty transcript).asBytes) "write transcript"

/-- `cmd_ceremony_contribute`: update the key, check the update, write the new
    key, then append the receipt to the transcript. -/
def cmdCeremonyContribute (pkPath transcriptPath participant : String) (rng : Rng) :
    Command FileSystem Unit := do
  let pkBytes ← expectOk (← Fs.read pkPath) "read PK"
  let pk ← expect (ops.provingKeyFromBytes pkBytes) "Failed to deserialize PK — file may be corrupt"
  let (pkNew, receipt) := ops.ceremonyContribute rng pk
  if !ops.verifyContribution receipt then stop (.exit 1)
  if !ops.verifyCeremonyPk pkNew then stop (.exit 1)
  let newPkBytes := ops.serializePk pkNew
  expectOk (← Fs.write pkPath newPkBytes) "write PK"
  let transcriptStr ← expectOk (← Fs.readToString transcriptPath) "read transcript"
  let transcript ← expect (codec.fromStr transcriptStr) "parse transcript"
  let receiptHex := Hex.encode (ops.receiptToBytes receipt)
  let receiptBytes := ops.receiptToBytes receipt
  let oldDeltaHash := Hex.encode (ops.blake2_256 (← slice receiptBytes 32 96))
  let newDeltaHash := Hex.encode (ops.blake2_256 (← slice receiptBytes 96 160))
  let transcript ← orPanic (transcript.updateField "contributions"
    (pushContribution (contributionEntry participant receiptHex oldDeltaHash newDeltaHash)))
  expectOk (← Fs.write transcriptPath (codec.toStringPretty transcript).asBytes) "write transcript"

/-- The chain check of `cmd_ceremony_verify`: `prev_new_delta_bytes` against
    `receipt_bytes[32..96]`, made only once a previous receipt was seen. -/
def chainBreak (prev : Option (List UInt8)) (receiptBytes : List UInt8) : Command FileSystem Bool :=
  match prev with
  | some p => do
    let old ← slice receiptBytes 32 96
    pure (p != old)
  | none => pure false

/-- One pass of the loop of `cmd_ceremony_verify` over the contributions, from
    `all_pass` and `prev_new_delta_bytes`. A chain break clears `all_pass` and
    `continue`s, leaving `prev_new_delta_bytes` as it was. -/
def verifyEntry (allPass : Bool) (prev : Option (List UInt8)) (entry : Value N) :
    Command FileSystem (Bool × Option (List UInt8)) := do
  let receiptHex ← expect (entry.index "receipt").asStr "receipt field"
  let receiptBytes ← expectOk (Hex.decode receiptHex) "decode receipt hex"
  let receipt ← expect (ops.receiptFromBytes receiptBytes) "deserialize receipt"
  if ← chainBreak prev receiptBytes then pure (false, prev)
  else
    let pairingOk := ops.verifyContribution receipt
    let new ← slice receiptBytes 96 160
    pure (allPass && pairingOk, some new)

/-- The loop of `cmd_ceremony_verify`, returning the final `all_pass`. -/
def verifyContributions (allPass : Bool) (prev : Option (List UInt8)) :
    List (Value N) → Command FileSystem Bool
  | [] => pure allPass
  | entry :: rest => do
    let (allPass, prev) ← verifyEntry ops allPass prev entry
    verifyContributions allPass prev rest

/-- `cmd_ceremony_verify`. An empty transcript returns at once; otherwise the
    contributions are checked, then the final key's functional test, and the
    process exits with 1 unless everything passed. -/
def cmdCeremonyVerify (pkPath transcriptPath : String) : Command FileSystem Unit := do
  let transcriptStr ← expectOk (← Fs.readToString transcriptPath) "read transcript"
  let transcript ← expect (codec.fromStr transcriptStr) "parse transcript"
  let contributions ← expect (transcript.index "contributions").asArray "contributions array"
  if contributions.isEmpty then pure ()
  else
    let allPass ← verifyContributions ops true none contributions
    let pkBytes ← expectOk (← Fs.read pkPath) "read PK"
    let pk ← expect (ops.provingKeyFromBytes pkBytes) "deserialize PK"
    let functionalOk := ops.verifyCeremonyPk pk
    let allPass := allPass && functionalOk
    if !allPass then stop (.exit 1)

/-- `cmd_ceremony_finalize`: copy the key out and write its verifying key. -/
def cmdCeremonyFinalize (pkIn pkOut vkOut : String) : Command FileSystem Unit := do
  let pkBytes ← expectOk (← Fs.read pkIn) "read PK"
  let pk ← expect (ops.provingKeyFromBytes pkBytes) "deserialize PK"
  let finalPkBytes := ops.serializePk pk
  expectOk (← Fs.write pkOut finalPkBytes) "write PK"
  let vkBytes := ops.serializeVk pk
  expectOk (← Fs.write vkOut vkBytes) "write VK"

end Commands

end TrustedSetup
