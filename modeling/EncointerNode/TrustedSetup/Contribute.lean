-- SUMMARY: The three ways `cmd_ceremony_contribute` can leave the key file and the transcript, and what the transcript records when both are written.
import EncointerNode.TrustedSetup.Verify

/-! # What a contribution does to the two ceremony files

`cmd_ceremony_contribute` writes the new key before it reads the transcript.
Every step after that write can stop the process: a missing transcript file,
text that is not UTF-8 or does not parse, a receipt too short to slice, a
transcript whose `contributions` is not an array. Each such stop leaves the new
key on disk next to the old transcript. A contribution therefore ends in one
of three ways, not two:

* it stops before the key is written, and no file changed;
* it writes the new key, then stops on the transcript, which is unchanged;
* it writes the new key, then the transcript with one entry appended, whose
  receipt is the receipt of the contribution.

In the last two the new key passed both self-checks. Which delta the receipt
records as old and new is a property of `ceremony_contribute`, outside this
repository: `ReceiptLayout` states it, and under it the appended entry runs from
the old key's `delta_g2` to the new key's. -/

namespace TrustedSetup

open Json Command

variable {N PK Receipt Rng : Type} (ops : CeremonyOps PK Receipt Rng)

/-- The file at `pkPath` holds the bytes of the key `pk`. -/
def KeyFile (fs : FileSystem) (pkPath : String) (pk : PK) : Prop :=
  ∃ b, fs pkPath = some b ∧ ops.provingKeyFromBytes b = some pk

/-- The contribution from `pk` with randomness `rng` passes the receipt's pairing
    check and the new key's functional test. -/
def Passes (rng : Rng) (pk : PK) : Prop :=
  ops.verifyContribution (ops.ceremonyContribute rng pk).2 = true ∧
    ops.verifyCeremonyPk (ops.ceremonyContribute rng pk).1 = true

/-- The bytes of the receipt of the contribution from `pk`. -/
def receiptBytesOf (rng : Rng) (pk : PK) : List UInt8 :=
  ops.receiptToBytes (ops.ceremonyContribute rng pk).2

/-- The entry `cmd_ceremony_contribute` appends for the receipt bytes `rb`. -/
def receiptEntry (participant : String) (rb : List UInt8) : Value N :=
  contributionEntry participant (Hex.encode rb) (Hex.encode (ops.blake2_256 (oldDelta rb)))
    (Hex.encode (ops.blake2_256 (newDelta rb)))

/-- What `ceremony_contribute` promises of its receipt: 160 bytes, from the old
    key's `delta_g2` to the new key's. -/
def ReceiptLayout : Prop :=
  ∀ rng pk, (receiptBytesOf ops rng pk).length = 160 ∧
    oldDelta (receiptBytesOf ops rng pk) = ops.serializeDeltaG2 pk ∧
    newDelta (receiptBytesOf ops rng pk) = ops.serializeDeltaG2 (ops.ceremonyContribute rng pk).1

/-- `as_array_mut().push(entry)` succeeds exactly on an array, and appends. -/
theorem pushContribution_eq_ok {entry slot w : Value N} (h : pushContribution entry slot = .ok w) :
    ∃ es, slot = .array es ∧ w = .array (es ++ [entry]) := by
  unfold pushContribution at h
  cases slot with
  | array es =>
    cases h
    exact ⟨es, rfl, rfl⟩
  | _ => cases h

section Ends

variable (codec : Codec N) (pkPath transcriptPath participant : String) (rng : Rng)

/-- How `cmd_ceremony_contribute` can stop, from the files `fs`. -/
inductive Aborted (fs : FileSystem) : FileSystem → Prop
  /-- It stopped before writing anything. -/
  | unchanged : Aborted fs fs
  /-- It wrote the new key, then stopped on the transcript. -/
  | keyOnly {pk : PK} (hkey : KeyFile ops fs pkPath pk) (hpass : Passes ops rng pk) :
      Aborted fs (fs.writeFile pkPath (ops.serializePk (ops.ceremonyContribute rng pk).1))

/-- How `cmd_ceremony_contribute` returns, from the files `fs`: it wrote the new
    key and the transcript `v` with the entry of the receipt pushed onto its
    contributions. -/
inductive Recorded (fs : FileSystem) : FileSystem → Prop
  | intro {pk : PK} {s : String} {v v' : Value N}
      (hkey : KeyFile ops fs pkPath pk) (hpass : Passes ops rng pk)
      (hread : fs.readFileToString transcriptPath = .ok s) (hparse : codec.fromStr s = some v)
      (hlen : 160 ≤ (receiptBytesOf ops rng pk).length)
      (hupdate : v.updateField "contributions"
        (pushContribution (receiptEntry ops participant (receiptBytesOf ops rng pk))) = .ok v') :
      Recorded fs ((fs.writeFile pkPath (ops.serializePk (ops.ceremonyContribute rng pk).1)).writeFile
        transcriptPath (codec.toStringPretty v').asBytes)

/-- `cmd_ceremony_contribute` returns having recorded the contribution, or stops
    in one of the two ways, as long as the key and the transcript are different
    files. -/
theorem wp_cmdCeremonyContribute (hpaths : pkPath ≠ transcriptPath) (fs : FileSystem) :
    wp (cmdCeremonyContribute ops codec pkPath transcriptPath participant rng)
      (fun _ => Recorded ops codec pkPath transcriptPath participant rng fs)
      (fun _ => Aborted ops pkPath rng fs) fs := by
  unfold cmdCeremonyContribute
  simp only [wp.bind, Fs.wp_read, wp.expectOk, wp.expect, FileSystem.readFile_eq_ok]
  -- Until the key is written, every stop leaves the files as they were.
  refine ⟨fun b hb => ⟨fun pk hpk => ?_, fun _ => .unchanged⟩, fun _ _ => .unchanged⟩
  have hkey : KeyFile ops fs pkPath pk := ⟨b, hb, hpk⟩
  simp only [wp.ite, wp.stop, wp.bind, Fs.wp_write, Fs.wp_readToString, wp.expectOk, wp.expect,
    Bool.not_eq_true', Bool.not_eq_false]
  refine ⟨fun _ => .unchanged, fun hreceipt => ⟨fun _ => .unchanged, fun hfunctional => ?_⟩⟩
  -- From here on, every stop leaves the new key next to the old transcript.
  have hkeyOnly : Aborted ops pkPath rng fs _ := .keyOnly hkey ⟨hreceipt, hfunctional⟩
  refine ⟨fun _ _ => ⟨fun s hread => ⟨fun v hparse => ?_, fun _ => hkeyOnly⟩, fun _ _ => hkeyOnly⟩,
    fun _ h => by cases h⟩
  rw [FileSystem.readFileToString_writeFile_other _ (Ne.symm hpaths)] at hread
  refine wp.slice_intro (fun _ _ => ?_) (fun _ => hkeyOnly)
  refine wp.slice_intro (fun _ hlen => ?_) (fun _ => hkeyOnly)
  rw [wp.orPanic]
  refine ⟨fun v' hv' => ⟨fun _ _ => ?_, fun _ h => by cases h⟩, fun _ _ => hkeyOnly⟩
  exact .intro hkey ⟨hreceipt, hfunctional⟩ hread hparse hlen hv'

/-- Whatever happens, `cmd_ceremony_contribute` leaves the files stopped in one
    of the two ways or with the contribution recorded. -/
theorem cmdCeremonyContribute_ends (hpaths : pkPath ≠ transcriptPath) (fs : FileSystem) :
    Aborted ops pkPath rng fs
        (cmdCeremonyContribute ops codec pkPath transcriptPath participant rng fs).state ∨
      Recorded ops codec pkPath transcriptPath participant rng fs
        (cmdCeremonyContribute ops codec pkPath transcriptPath participant rng fs).state := by
  have hwp : wp (cmdCeremonyContribute ops codec pkPath transcriptPath participant rng)
      (fun _ fs' => Aborted ops pkPath rng fs fs' ∨
        Recorded ops codec pkPath transcriptPath participant rng fs fs')
      (fun _ fs' => Aborted ops pkPath rng fs fs' ∨
        Recorded ops codec pkPath transcriptPath participant rng fs fs') fs :=
    wp.mono (fun _ _ h => .inr h) (fun _ _ h => .inl h)
      (wp_cmdCeremonyContribute ops codec pkPath transcriptPath participant rng hpaths fs)
  exact wp_iff_state.1 hwp

/-- A contribution that returns has recorded itself. -/
theorem recorded_of_cmdCeremonyContribute (hpaths : pkPath ≠ transcriptPath) {fs fs' : FileSystem}
    (h : cmdCeremonyContribute ops codec pkPath transcriptPath participant rng fs = .ok () fs') :
    Recorded ops codec pkPath transcriptPath participant rng fs fs' :=
  (wp_cmdCeremonyContribute ops codec pkPath transcriptPath participant rng hpaths fs).ok_elim h

/-- Pushing an entry through `transcript["contributions"]` appends it to the
    contributions array and keeps every other field. -/
theorem updateField_pushContribution {v v' entry : Value N}
    (h : v.updateField "contributions" (pushContribution entry) = .ok v') :
    ∃ es, v.index "contributions" = .array es ∧ v'.index "contributions" = .array (es ++ [entry]) ∧
      ∀ key, key ≠ "contributions" → v'.index key = v.index key := by
  obtain ⟨w, hpush, hw⟩ := index_of_updateField h
  obtain ⟨es, hes, rfl⟩ := pushContribution_eq_ok hpush
  exact ⟨es, hes, hw, fun key hne => index_updateField_other h hne⟩

end Ends

/-! ## A contribution with no transcript to record it -/

/-- The receipts of `byteOps` are laid out as `ceremony_contribute` promises. -/
theorem byteOps_receiptLayout : ReceiptLayout byteOps := by
  intro _ pk
  simp [receiptBytesOf, byteOps, oldDelta, newDelta]

/-- A key file holding the key `1`, and no transcript. -/
def keyOnlyFiles : FileSystem := fun path => if path = "ceremony_pk.bin" then some [1] else none

end TrustedSetup
