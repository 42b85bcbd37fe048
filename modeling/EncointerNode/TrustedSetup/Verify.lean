-- SUMMARY: What `ceremony verify` checks: sound and complete for the receipt chain, the pairing checks and the final key's test, and silent on both anchors of the chain.
import Mathlib.Data.List.Chain
import EncointerNode.TrustedSetup.Ceremony

/-! # What the transcript verifier checks

`cmd_ceremony_verify` walks the contributions of the transcript with two
accumulators, `all_pass` and the previous receipt's new delta. The step lemma
`verifyEntry_sound` says what one pass establishes when it leaves `all_pass`
set; the run lemma `verifyContributions_sound` chains the passes by induction on
the contributions. The command's result follows: when it returns normally,
either the transcript has no contribution, or every receipt decodes and passes
its pairing check, consecutive receipts chain, and the final key passes its
functional test. The converse, `cmdCeremonyVerify_complete`, says the command
returns normally on every such transcript.

Neither direction mentions `initial_delta_g2_hash`, nor compares the last new
delta with the key on disk: the command reads neither. -/

namespace TrustedSetup

open Json Command

variable {N PK Receipt Rng : Type} (ops : CeremonyOps PK Receipt Rng)

/-- Consecutive receipts chain: the new delta of one is the old delta of the
    next. -/
def Links (r s : List UInt8) : Prop := newDelta r = oldDelta s

/-- The entry's receipt field is the hex of `r`, `from_bytes` reads `r` as a
    receipt that passes its pairing check, and `r` is long enough to slice. -/
def ReceiptOk (entry : Value N) (r : List UInt8) : Prop :=
  ∃ hx rc, (entry.index "receipt").asStr = some hx ∧ Hex.decode hx = .ok r ∧
    ops.receiptFromBytes r = some rc ∧ ops.verifyContribution rc = true ∧ 160 ≤ r.length

/-- The receipts continue the chain from `prev`, the new delta seen last. -/
def ChainsFrom (prev : Option (List UInt8)) (rs : List (List UInt8)) : Prop :=
  (∀ p r, prev = some p → rs.head? = some r → p = oldDelta r) ∧ rs.IsChain Links

/-! ## One pass of the loop -/

/-- The chain check reports no break only when the previous new delta, if any,
    is this receipt's old delta; it leaves the file system alone. -/
theorem wp_chainBreak {prev : Option (List UInt8)} {r : List UInt8} {fs : FileSystem}
    {Q : Bool → FileSystem → Prop}
    (hQ : ∀ b, (b = false → ∀ p, prev = some p → p = oldDelta r) → Q b fs) :
    wp (chainBreak prev r) Q (fun _ _ => True) fs := by
  cases prev with
  | none => exact hQ false (by simp)
  | some p =>
    simp only [chainBreak, wp.bind]
    refine wp.slice_intro (fun _ _ => hQ _ ?_) (fun _ => trivial)
    intro hb p' hp'
    cases hp'
    simpa [oldDelta] using hb

/-- A pass that leaves `all_pass` set found `all_pass` set, read a good receipt
    that continues the chain, and remembers its new delta. The file system is
    left alone. -/
theorem verifyEntry_sound (allPass : Bool) (prev : Option (List UInt8)) (entry : Value N)
    (fs : FileSystem) :
    wp (verifyEntry ops allPass prev entry)
      (fun res fs' => fs' = fs ∧ (res.1 = true → allPass = true ∧
        ∃ r, ReceiptOk ops entry r ∧ (∀ p, prev = some p → p = oldDelta r) ∧
          res.2 = some (newDelta r)))
      (fun _ _ => True) fs := by
  unfold verifyEntry
  simp only [wp.bind, wp.expect, wp.expectOk]
  refine ⟨fun hx hhx => ⟨fun r hr => ⟨fun rc hrc => ?_, fun _ => trivial⟩, fun _ _ => trivial⟩,
    fun _ => trivial⟩
  refine wp_chainBreak (fun broken hlinks => ?_)
  cases broken with
  | true =>
    -- A chain break clears `all_pass`.
    simp
  | false =>
    simp only [Bool.false_eq_true, if_false, wp.bind]
    refine wp.slice_intro (fun _ hlen => ?_) (fun _ => trivial)
    simp only [wp.pure, Bool.and_eq_true, true_and]
    rintro ⟨hall, hpair⟩
    exact ⟨hall, r, ⟨hx, rc, hhx, hr, hrc, hpair, hlen⟩, hlinks rfl, rfl⟩

/-- A receipt that the last one links to, followed by a chain from its own new
    delta, is a chain from the last one. -/
theorem chainsFrom_cons {prev : Option (List UInt8)} {r : List UInt8} {rs : List (List UInt8)}
    (hprev : ∀ p, prev = some p → p = oldDelta r) (hrest : ChainsFrom (some (newDelta r)) rs) :
    ChainsFrom prev (r :: rs) := by
  obtain ⟨hhead, hchain⟩ := hrest
  refine ⟨fun p r' hp hr' => ?_, ?_⟩
  · cases hr'
    exact hprev p hp
  · rw [List.isChain_cons]
    exact ⟨fun s hs => hhead _ s rfl hs, hchain⟩

/-! ## The loop -/

/-- The run lemma: when the loop ends with `all_pass` set, it started with it
    set, and the contributions hold good receipts that continue the chain from
    `prev`. By induction on the contributions, one `verifyEntry_sound` a pass. -/
theorem verifyContributions_sound (fs : FileSystem) :
    ∀ (es : List (Value N)) (allPass : Bool) (prev : Option (List UInt8)),
      wp (verifyContributions ops allPass prev es)
        (fun b fs' => fs' = fs ∧ (b = true → allPass = true ∧
          ∃ rs, List.Forall₂ (ReceiptOk ops) es rs ∧ ChainsFrom prev rs))
        (fun _ _ => True) fs
  | [], allPass, prev => by
    simp only [verifyContributions, wp.pure]
    exact ⟨trivial, fun h => ⟨h, [], .nil, by simp [ChainsFrom]⟩⟩
  | entry :: rest, allPass, prev => by
    simp only [verifyContributions, wp.bind]
    refine wp.mono ?_ (fun _ _ h => h) (verifyEntry_sound ops allPass prev entry fs)
    rintro ⟨allPass', prev'⟩ fs' ⟨hfs', hstep⟩
    refine wp.mono ?_ (fun _ _ h => h) (verifyContributions_sound fs' rest allPass' prev')
    rintro b fs'' ⟨hfs'', hrest⟩
    refine ⟨hfs''.trans hfs', fun hb => ?_⟩
    obtain ⟨hall', rs, hrs, hchain⟩ := hrest hb
    obtain ⟨hall, r, hr, hprev, hprev'⟩ := hstep hall'
    cases hprev'
    exact ⟨hall, r :: rs, .cons hr hrs, chainsFrom_cons hprev hchain⟩

/-! ## The command -/

/-- What a normal return of `cmd_ceremony_verify` guarantees: the transcript
    parses, and either it has no contribution, or its contributions hold good
    receipts that chain and the key file holds a key that passes the functional
    test. The files are left alone. -/
theorem cmdCeremonyVerify_sound (codec : Codec N) (pkPath transcriptPath : String)
    (fs : FileSystem) :
    wp (cmdCeremonyVerify ops codec pkPath transcriptPath)
      (fun _ fs' => fs' = fs ∧ ∃ s v es, fs.readFileToString transcriptPath = .ok s ∧
        codec.fromStr s = some v ∧ (v.index "contributions").asArray = some es ∧
        (es = [] ∨ ∃ rs, List.Forall₂ (ReceiptOk ops) es rs ∧ rs.IsChain Links ∧
          ∃ b pk, fs pkPath = some b ∧ ops.provingKeyFromBytes b = some pk ∧
            ops.verifyCeremonyPk pk = true))
      (fun _ _ => True) fs := by
  unfold cmdCeremonyVerify
  simp only [wp.bind, Fs.wp_readToString, wp.expectOk, wp.expect]
  refine ⟨fun s hs => ⟨fun v hv => ⟨fun es hes => ?_, fun _ => trivial⟩, fun _ => trivial⟩,
    fun _ _ => trivial⟩
  by_cases hempty : es.isEmpty = true
  · -- The early return for an empty transcript.
    simp only [hempty, if_true, wp.pure]
    exact ⟨trivial, s, v, es, hs, hv, hes, .inl (List.isEmpty_iff.1 hempty)⟩
  · simp only [hempty, Bool.false_eq_true, if_false, wp.bind]
    refine wp.mono ?_ (fun _ _ h => h) (verifyContributions_sound ops fs es true none)
    rintro allPass fs' ⟨hfs', hloop⟩
    subst hfs'
    simp only [Fs.wp_read, wp.expectOk, wp.expect, FileSystem.readFile_eq_ok]
    refine ⟨fun b hb => ⟨fun pk hpk => ?_, fun _ => trivial⟩, fun _ _ => trivial⟩
    simp only [Bool.not_eq_true', wp.ite, wp.stop, wp.pure]
    refine ⟨fun _ => trivial, fun hpass => ?_⟩
    simp only [Bool.and_eq_false_iff, not_or, Bool.not_eq_false] at hpass
    obtain ⟨rs, hrs, -, hchain⟩ := (hloop hpass.1).2
    exact ⟨trivial, s, v, es, hs, hv, hes, .inr ⟨rs, hrs, hchain, b, pk, hb, hpk, hpass.2⟩⟩

/-! ## Completeness -/

/-- A chain from `prev` through `r` is `r` linked to `prev`, then a chain from
    the new delta of `r`. -/
theorem ChainsFrom.of_cons {prev : Option (List UInt8)} {r : List UInt8} {rs : List (List UInt8)}
    (h : ChainsFrom prev (r :: rs)) :
    (∀ p, prev = some p → p = oldDelta r) ∧ ChainsFrom (some (newDelta r)) rs := by
  obtain ⟨hhead, hchain⟩ := h
  rw [List.isChain_cons] at hchain
  refine ⟨fun p hp => hhead p r hp rfl, ?_, hchain.2⟩
  intro p s hp hs
  cases hp
  exact hchain.1 s hs

/-- The chain check finds no break where the receipt continues the chain. -/
theorem chainBreak_eq_false {prev : Option (List UInt8)} {r : List UInt8}
    (hprev : ∀ p, prev = some p → p = oldDelta r) (hlen : 96 ≤ r.length) (fs : FileSystem) :
    chainBreak prev r fs = .ok false fs := by
  cases prev with
  | none => rfl
  | some p =>
    apply eq_ok_of_wp
    simp only [chainBreak, wp.bind]
    rw [wp.slice (by decide) hlen, wp.pure]
    simp [hprev p rfl, oldDelta]

/-- A good receipt that continues the chain passes: `all_pass` stays set and the
    receipt's new delta is remembered. -/
theorem verifyEntry_complete {prev : Option (List UInt8)} {entry : Value N} {r : List UInt8}
    (hr : ReceiptOk ops entry r) (hprev : ∀ p, prev = some p → p = oldDelta r) (fs : FileSystem) :
    verifyEntry ops true prev entry fs = .ok (true, some (newDelta r)) fs := by
  obtain ⟨hx, rc, hhx, hdec, hrc, hpair, hlen⟩ := hr
  apply eq_ok_of_wp
  unfold verifyEntry
  simp only [wp.bind, wp.expect, wp.expectOk, hhx, hdec, hrc, Option.some.injEq, reduceCtorEq,
    Except.ok.injEq, forall_eq', imp_false, not_false_eq_true, and_true, implies_true]
  rw [wp.of_eq_ok (chainBreak_eq_false hprev (by omega) fs)]
  simp only [Bool.false_eq_true, if_false, wp.bind]
  rw [wp.slice (by decide) hlen]
  simp [hpair, newDelta]

/-- Good receipts that continue the chain from `prev` take the loop through with
    `all_pass` set. -/
theorem verifyContributions_complete (fs : FileSystem) {es : List (Value N)}
    {rs : List (List UInt8)} {prev : Option (List UInt8)} (hrs : List.Forall₂ (ReceiptOk ops) es rs)
    (hchain : ChainsFrom prev rs) : verifyContributions ops true prev es fs = .ok true fs := by
  induction hrs generalizing prev with
  | nil => rfl
  | cons hr _ ih =>
    obtain ⟨hprev, hrest⟩ := hchain.of_cons
    apply eq_ok_of_wp
    simp only [verifyContributions, wp.bind]
    rw [wp.of_eq_ok (verifyEntry_complete ops hr hprev fs), wp.of_eq_ok (ih hrest)]
    exact ⟨rfl, rfl⟩

/-- `cmd_ceremony_verify` returns normally on a transcript whose receipts are
    good and chain, when the key file holds a key that passes its test (needed
    only if there is a contribution). -/
theorem cmdCeremonyVerify_complete (codec : Codec N) (pkPath transcriptPath : String)
    {fs : FileSystem} {s : String} {v : Value N} {es : List (Value N)} {rs : List (List UInt8)}
    (htranscript : fs transcriptPath = some s.asBytes) (hparse : codec.fromStr s = some v)
    (hes : v.index "contributions" = .array es) (hrs : List.Forall₂ (ReceiptOk ops) es rs)
    (hchain : rs.IsChain Links)
    (hpk : es ≠ [] → ∃ b pk, fs pkPath = some b ∧ ops.provingKeyFromBytes b = some pk ∧
      ops.verifyCeremonyPk pk = true) :
    cmdCeremonyVerify ops codec pkPath transcriptPath fs = .ok () fs := by
  apply eq_ok_of_wp
  unfold cmdCeremonyVerify
  simp only [wp.bind, Fs.wp_readToString, FileSystem.readFileToString_bytes htranscript,
    wp.expectOk, wp.expect, hparse, hes, Value.asArray, Except.ok.injEq, Option.some.injEq,
    reduceCtorEq, forall_eq', imp_false, not_false_eq_true, and_true, implies_true]
  by_cases hempty : es = []
  · simp [hempty]
  · obtain ⟨b, pk, hb, hpkb, hpass⟩ := hpk hempty
    have hloop : verifyContributions ops true none es fs = .ok true fs :=
      verifyContributions_complete ops fs hrs ⟨by simp, hchain⟩
    simp only [List.isEmpty_eq_false_iff.2 hempty, Bool.false_eq_true, if_false,
      wp.bind]
    rw [wp.of_eq_ok hloop]
    simp [Fs.wp_read, FileSystem.readFile, hb, hpkb, hpass]

/-! ## Transcripts as the claim reads them -/

/-- The transcript records `h0` as its initial hash and, in order, the receipts
    `rs` in hex; every other field is free. -/
def Records (v : Value N) (h0 : List UInt8) (rs : List (List UInt8)) : Prop :=
  v.index "initial_delta_g2_hash" = .string ("0x" ++ Hex.encode h0) ∧
    ∃ es, v.index "contributions" = .array es ∧
      es.map (fun e => (e.index "receipt").asStr) = rs.map (fun r => some (Hex.encode r))

/-- The receipts that the loop decodes from a recorded transcript are the
    recorded ones. -/
theorem receipts_eq_of_records :
    ∀ {es : List (Value N)} {rs' rs : List (List UInt8)}, List.Forall₂ (ReceiptOk ops) es rs' →
      es.map (fun e => (e.index "receipt").asStr) = rs.map (fun r => some (Hex.encode r)) →
        rs' = rs
  | [], [], [], .nil, _ => rfl
  | e :: es, r' :: rs', r :: rs, .cons hr hrs, hmap => by
    simp only [List.map_cons, List.cons.injEq] at hmap
    obtain ⟨hx, rc, hhx, hdec, -⟩ := hr
    rw [hmap.1, Option.some.injEq] at hhx
    -- The receipt field is the hex of `r`, and hex decodes back.
    rw [← hhx, Hex.decode_encode, Except.ok.injEq] at hdec
    rw [hdec, receipts_eq_of_records hrs hmap.2]
  | [], _ :: _, _, h, _ => by cases h
  | _ :: _, [], _, h, _ => by cases h
  | _ :: _, _ :: _, [], _, hmap => by simp at hmap
  | [], [], _ :: _, _, hmap => by simp at hmap

/-- Every receipt the loop decoded passed its pairing check. -/
theorem pairing_of_mem {es : List (Value N)} {rs : List (List UInt8)}
    (hrs : List.Forall₂ (ReceiptOk ops) es rs) {r : List UInt8} (hr : r ∈ rs) :
    ∃ rc, ops.receiptFromBytes r = some rc ∧ ops.verifyContribution rc = true := by
  induction hrs with
  | nil => cases hr
  | cons hr' _ ih =>
    rcases List.mem_cons.1 hr with rfl | hr
    · obtain ⟨-, rc, -, -, hrc, hpair, -⟩ := hr'
      exact ⟨rc, hrc, hpair⟩
    · exact ih hr

/-- What a normal return of `cmd_ceremony_verify` establishes of a transcript
    that records `h0` and the receipts `rs`, and of the key `pk` in the key file:
    either there is no receipt, or consecutive receipts chain, every receipt
    passes its pairing check, and `pk` passes the functional test. -/
theorem cmdCeremonyVerify_checks (codec : Codec N) (pkPath transcriptPath : String)
    {fs fs' : FileSystem} {s : String} {v : Value N} {h0 : List UInt8} {rs : List (List UInt8)}
    {b : List UInt8} {pk : PK}
    (htranscript : fs transcriptPath = some s.asBytes) (hparse : codec.fromStr s = some v)
    (hrecords : Records v h0 rs) (hpkFile : fs pkPath = some b)
    (hpk : ops.provingKeyFromBytes b = some pk)
    (hok : cmdCeremonyVerify ops codec pkPath transcriptPath fs = .ok () fs') :
    rs = [] ∨ (rs.IsChain Links ∧
      (∀ r ∈ rs, ∃ rc, ops.receiptFromBytes r = some rc ∧ ops.verifyContribution rc = true) ∧
      ops.verifyCeremonyPk pk = true) := by
  obtain ⟨-, s', v', es', hs', hv', hes', hcases⟩ :=
    (cmdCeremonyVerify_sound ops codec pkPath transcriptPath fs).ok_elim hok
  obtain ⟨-, es, hes, hmap⟩ := hrecords
  -- The command read the transcript and the key the hypotheses describe.
  rw [FileSystem.readFileToString_bytes htranscript, Except.ok.injEq] at hs'
  subst hs'
  rw [hparse, Option.some.injEq] at hv'
  subst hv'
  rw [hes] at hes'
  cases hes'
  rcases hcases with rfl | ⟨rs', hrs', hchain, b', pk', hb', hpk', hpass⟩
  · left
    simpa using hmap.symm
  · right
    have hrs : rs' = rs := receipts_eq_of_records ops hrs' hmap
    subst hrs
    rw [hpkFile, Option.some.injEq] at hb'
    subst hb'
    rw [hpk, Option.some.injEq] at hpk'
    subst hpk'
    exact ⟨hchain, fun r hr => pairing_of_mem ops hrs' hr, hpass⟩

/-! ## An unanchored transcript that passes

Stand-ins for the ceremony's cryptography under which every check passes, and a
transcript with one receipt of zeros that records an initial hash of ones, next
to a key whose `delta_g2` is all ones. The receipt starts from no recorded key
and ends at no key on disk, yet `verify` returns normally. -/

/-- A key is one byte and its `delta_g2` is that byte 64 times; a contribution
    adds one to it. A receipt is its bytes, laid out as the source describes, the
    hash keeps the first 32 bytes, and every check passes. -/
def byteOps : CeremonyOps UInt8 (List UInt8) Unit where
  ceremonyInit _ := 1
  ceremonyContribute _ pk :=
    (pk + 1, List.replicate 32 0 ++ List.replicate 64 pk ++ List.replicate 64 (pk + 1))
  verifyContribution _ := true
  verifyCeremonyPk _ := true
  serializePk pk := [pk]
  serializeVk pk := [pk]
  serializeDeltaG2 pk := List.replicate 64 pk
  provingKeyFromBytes b := b.head?
  receiptToBytes r := r
  receiptFromBytes b := some b
  blake2_256 b := b.take 32

/-- A receipt of zeros: both its deltas are zero. -/
def zeroReceipt : List UInt8 := List.replicate 160 0

/-- The transcript: the zero receipt, and an initial hash of ones. -/
def unanchoredTranscript : Value Empty :=
  .object [("contributions", .array [contributionEntry "Alice" (Hex.encode zeroReceipt)
      (Hex.encode (List.replicate 32 0)) (Hex.encode (List.replicate 32 0))]),
    ("initial_delta_g2_hash", .string ("0x" ++ Hex.encode (List.replicate 32 1)))]

/-- A parser that reads the transcript file's text as that transcript. -/
def unanchoredCodec : Codec Empty where
  fromStr s := if s = "transcript" then some unanchoredTranscript else none
  toStringPretty _ := "transcript"

/-- The transcript, and a key whose `delta_g2` is all ones. -/
def unanchoredFiles : FileSystem := fun path =>
  if path = "ceremony_transcript.json" then some "transcript".asBytes
  else if path = "ceremony_pk.bin" then some [1]
  else none

theorem unanchoredTranscript_records :
    Records unanchoredTranscript (List.replicate 32 1) [zeroReceipt] :=
  ⟨rfl, _, rfl, rfl⟩

theorem unanchoredFiles_transcript :
    unanchoredFiles "ceremony_transcript.json" = some "transcript".asBytes := rfl

theorem unanchoredFiles_pk : unanchoredFiles "ceremony_pk.bin" = some [1] := rfl

theorem unanchoredCodec_fromStr : unanchoredCodec.fromStr "transcript" = some unanchoredTranscript :=
  rfl

/-- `verify` returns normally on the unanchored transcript. -/
theorem unanchored_verify_ok :
    cmdCeremonyVerify byteOps unanchoredCodec "ceremony_pk.bin" "ceremony_transcript.json"
      unanchoredFiles = .ok () unanchoredFiles := by
  have hlen : 160 ≤ zeroReceipt.length := by simp only [zeroReceipt, List.length_replicate, le_refl]
  have hentry : ReceiptOk byteOps (contributionEntry "Alice"
      (Hex.encode zeroReceipt) (Hex.encode (List.replicate 32 0))
      (Hex.encode (List.replicate 32 0)) : Value Empty) zeroReceipt :=
    ⟨Hex.encode zeroReceipt, zeroReceipt, rfl, Hex.decode_encode zeroReceipt, rfl, rfl, hlen⟩
  exact cmdCeremonyVerify_complete byteOps unanchoredCodec _ _ unanchoredFiles_transcript
    unanchoredCodec_fromStr rfl (.cons hentry .nil) (List.IsChain.singleton _)
    (fun _ => ⟨_, _, unanchoredFiles_pk, rfl, rfl⟩)

theorem cmdCeremonyVerify_checks_unanchored :
    cmdCeremonyVerify byteOps unanchoredCodec "ceremony_pk.bin" "ceremony_transcript.json"
        unanchoredFiles = .ok () unanchoredFiles ∧
      ([zeroReceipt] = [] ∨ ([zeroReceipt].IsChain Links ∧
        (∀ r ∈ [zeroReceipt], ∃ rc, byteOps.receiptFromBytes r = some rc ∧
          byteOps.verifyContribution rc = true) ∧
        byteOps.verifyCeremonyPk 1 = true)) :=
  ⟨unanchored_verify_ok, cmdCeremonyVerify_checks byteOps unanchoredCodec "ceremony_pk.bin"
    "ceremony_transcript.json" unanchoredFiles_transcript unanchoredCodec_fromStr
    unanchoredTranscript_records unanchoredFiles_pk rfl unanchored_verify_ok⟩

/-- The verifier returns normally on a transcript of one receipt whose old delta
    does not hash to the recorded initial hash, and whose new delta is not the
    `delta_g2` of the key on disk. -/
theorem cmdCeremonyVerify_passes_unanchored :
    cmdCeremonyVerify byteOps unanchoredCodec "ceremony_pk.bin" "ceremony_transcript.json"
        unanchoredFiles = .ok () unanchoredFiles ∧
      Records unanchoredTranscript (List.replicate 32 1) [zeroReceipt] ∧
      160 ≤ zeroReceipt.length ∧
      unanchoredFiles "ceremony_pk.bin" = some [1] ∧ byteOps.provingKeyFromBytes [1] = some 1 ∧
      byteOps.blake2_256 (oldDelta zeroReceipt) ≠ List.replicate 32 1 ∧
      newDelta zeroReceipt ≠ byteOps.serializeDeltaG2 1 := by
  refine ⟨unanchored_verify_ok, unanchoredTranscript_records, by simp [zeroReceipt],
    unanchoredFiles_pk, rfl, ?_, ?_⟩
  · decide
  · decide

end TrustedSetup
