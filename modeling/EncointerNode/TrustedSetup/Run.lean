-- SUMMARY: A ceremony run as a state machine over the two files: the invariant that `init` establishes and `contribute` keeps, `verify` passing on every reachable state, and a contribution to the wrong transcript that `verify` does not notice.
import Mathlib.Data.List.Forall2
import EncointerNode.TrustedSetup.Contribute
import EncointerNode.Stdlib.JsonText

/-! # A ceremony run

The commands of the ceremony act on two files, the key and the transcript. Run
in the order the end-to-end test runs them (`init`, then contributions, then
`verify`), they keep an invariant, `Ceremony`: the key file holds the current
key, and the transcript is a well-formed JSON value that records the hash of
the first key's `delta_g2` and a chain of good receipts from the first key's
`delta_g2` to the current one's.

`init` establishes it (`cmdCeremonyInit_ceremony`). From a ceremony, a
contribution either stops at one of its self-checks with nothing written, or
records itself and the files are the next ceremony (`cmdCeremonyContribute_step`):
in a consistent ceremony no contribution leaves the key updated without its
record. `verify` passes on every ceremony (`cmdCeremonyVerify_ceremony`), and a
ceremony's transcript is anchored at both ends (`Ceremony.anchored`). So every
state reachable by these commands is a ceremony on which `verify` passes
(`verify_reachable`).

What the invariant needs of the cryptography is in `CeremonyOps.Lawful`: keys
and receipts read back as written, and receipts laid out as `ceremony_contribute`
promises. Of the JSON library it needs `Codec.Lawful`.

The anchors hold because the files were made by these commands, not because
`verify` checks them. A contribution run against another transcript path
(`contribute_elsewhere`) writes the new key and panics; `verify` then still
passes on the ceremony's files although their last receipt does not end at the
key on disk. -/

namespace TrustedSetup

open Json Command

variable {N PK Receipt Rng : Type} (ops : CeremonyOps PK Receipt Rng)

/-- What the ceremony relies on of `pallet_encointer_offline_payment::ceremony`:
    keys and receipts read back as they were written, and each receipt runs from
    the old key's `delta_g2` to the new key's. -/
structure CeremonyOps.Lawful : Prop where
  provingKeyFromBytes_serializePk : ∀ pk, ops.provingKeyFromBytes (ops.serializePk pk) = some pk
  receiptFromBytes_receiptToBytes : ∀ rc, ops.receiptFromBytes (ops.receiptToBytes rc) = some rc
  layout : ReceiptLayout ops

/-- The receipts run from the key `pk0` to the key `pk`: consecutive receipts
    chain, the first starts at `pk0`'s `delta_g2` and the last ends at `pk`'s;
    with no receipt, the key is still `pk0`. -/
structure RunsFrom (pk0 pk : PK) (rs : List (List UInt8)) : Prop where
  chain : rs.IsChain Links
  head : ∀ r ∈ rs.head?, oldDelta r = ops.serializeDeltaG2 pk0
  last : ∀ r ∈ rs.getLast?, newDelta r = ops.serializeDeltaG2 pk
  nil : rs = [] → pk = pk0

theorem RunsFrom.nil_self (pk0 : PK) : RunsFrom ops pk0 pk0 [] where
  chain := .nil
  head := by simp
  last := by simp
  nil _ := rfl

/-- A receipt from the current key's `delta_g2` to the next key's extends the
    run. -/
theorem RunsFrom.concat {pk0 pk pk' : PK} {rs : List (List UInt8)} {r : List UInt8}
    (h : RunsFrom ops pk0 pk rs) (hold : oldDelta r = ops.serializeDeltaG2 pk)
    (hnew : newDelta r = ops.serializeDeltaG2 pk') : RunsFrom ops pk0 pk' (rs ++ [r]) where
  chain := by
    refine h.chain.append (.singleton r) ?_
    intro x hx y hy
    simp only [List.head?_cons, Option.mem_def, Option.some.injEq] at hy
    subst hy
    rw [Links, h.last x hx, hold]
  head := by
    intro x hx
    cases rs with
    | nil =>
      simp only [List.nil_append, List.head?_cons, Option.mem_def, Option.some.injEq] at hx
      subst hx
      rw [hold, h.nil rfl]
    | cons r0 rest => exact h.head x (by simpa using hx)
  last := by
    intro x hx
    simp only [List.getLast?_append, List.getLast?_singleton, Option.some_or,
      Option.mem_def, Option.some.injEq] at hx
    subst hx
    exact hnew
  nil h := absurd h (by simp)

section Files

variable (codec : Codec N) (pkPath transcriptPath : String)

/-- A ceremony in the files `fs`: it started from the key `pk0` and stands at the
    key `pk`, which the key file holds; the transcript file holds the printed
    `transcript`, which records the hash of `pk0`'s `delta_g2` and entries for
    the `receipts`, a run from `pk0` to `pk`. Once a contribution was made, the
    key passed its functional test. -/
structure Ceremony (fs : FileSystem) where
  pk0 : PK
  pk : PK
  transcript : Value N
  entries : List (Value N)
  receipts : List (List UInt8)
  keyFile : fs pkPath = some (ops.serializePk pk)
  transcriptFile : fs transcriptPath = some (codec.toStringPretty transcript).asBytes
  wellFormed : WellFormed transcript
  initialHash : transcript.index "initial_delta_g2_hash" =
    .string ("0x" ++ Hex.encode (ops.blake2_256 (ops.serializeDeltaG2 pk0)))
  contributions : transcript.index "contributions" = .array entries
  receiptsOk : List.Forall₂ (ReceiptOk ops) entries receipts
  receiptHex : entries.map (fun e => (e.index "receipt").asStr) =
    receipts.map (fun r => some (Hex.encode r))
  runsFrom : RunsFrom ops pk0 pk receipts
  keyPasses : receipts ≠ [] → ops.verifyCeremonyPk pk = true

variable {ops codec pkPath transcriptPath}

/-- The transcript of a ceremony reads back, and parses, as itself. -/
theorem Ceremony.readTranscript {fs : FileSystem} (c : Ceremony ops codec pkPath transcriptPath fs)
    (hcodec : codec.Lawful) :
    fs.readFileToString transcriptPath = .ok (codec.toStringPretty c.transcript) ∧
      codec.fromStr (codec.toStringPretty c.transcript) = some c.transcript :=
  ⟨FileSystem.readFileToString_bytes c.transcriptFile,
    hcodec.fromStr_toStringPretty _ c.wellFormed⟩

/-- A ceremony has an entry exactly when it has a receipt. -/
theorem Ceremony.entries_eq_nil_iff {fs : FileSystem}
    (c : Ceremony ops codec pkPath transcriptPath fs) : c.entries = [] ↔ c.receipts = [] := by
  constructor
  · intro h
    have hrs := c.receiptsOk
    rw [h] at hrs
    exact List.forall₂_nil_left_iff.1 hrs
  · intro h
    have hrs := c.receiptsOk
    rw [h] at hrs
    exact List.forall₂_nil_right_iff.1 hrs

/-- The key file of a ceremony holds a key the client can read. -/
theorem Ceremony.key (hops : ops.Lawful) {fs : FileSystem}
    (c : Ceremony ops codec pkPath transcriptPath fs) : KeyFile ops fs pkPath c.pk :=
  ⟨_, c.keyFile, hops.provingKeyFromBytes_serializePk c.pk⟩

/-- `verify` passes on every ceremony, and leaves the files alone. -/
theorem cmdCeremonyVerify_ceremony (hops : ops.Lawful) (hcodec : codec.Lawful) {fs : FileSystem}
    (c : Ceremony ops codec pkPath transcriptPath fs) :
    cmdCeremonyVerify ops codec pkPath transcriptPath fs = .ok () fs := by
  refine cmdCeremonyVerify_complete ops codec pkPath transcriptPath c.transcriptFile
    (hcodec.fromStr_toStringPretty _ c.wellFormed) c.contributions c.receiptsOk c.runsFrom.chain ?_
  intro hentries
  have hreceipts : c.receipts ≠ [] := fun h => hentries (c.entries_eq_nil_iff.2 h)
  exact ⟨_, c.pk, c.keyFile, hops.provingKeyFromBytes_serializePk c.pk, c.keyPasses hreceipts⟩

/-- A ceremony's transcript is anchored at both ends: it records the hash of
    the first key's `delta_g2`, which the first receipt starts from, and the
    last receipt ends at the `delta_g2` of the key on disk. -/
theorem Ceremony.anchored {fs : FileSystem} (c : Ceremony ops codec pkPath transcriptPath fs) :
    Records c.transcript (ops.blake2_256 (ops.serializeDeltaG2 c.pk0)) c.receipts ∧
      (c.receipts = [] → ops.blake2_256 (ops.serializeDeltaG2 c.pk) =
        ops.blake2_256 (ops.serializeDeltaG2 c.pk0)) ∧
      (∀ r ∈ c.receipts.head?, ops.blake2_256 (oldDelta r) =
        ops.blake2_256 (ops.serializeDeltaG2 c.pk0)) ∧
      (∀ r ∈ c.receipts.getLast?, newDelta r = ops.serializeDeltaG2 c.pk) := by
  refine ⟨⟨c.initialHash, c.entries, c.contributions, c.receiptHex⟩, ?_, ?_, c.runsFrom.last⟩
  · intro h
    rw [c.runsFrom.nil h]
  · intro r hr
    rw [c.runsFrom.head r hr]

/-- Writing a file other than the ceremony's two keeps the ceremony. -/
def Ceremony.writeOther {fs : FileSystem} (c : Ceremony ops codec pkPath transcriptPath fs)
    {path : String} (contents : List UInt8) (hpk : path ≠ pkPath) (htr : path ≠ transcriptPath) :
    Ceremony ops codec pkPath transcriptPath (fs.writeFile path contents) :=
  { c with
    keyFile := by rw [FileSystem.writeFile_other _ (Ne.symm hpk)]; exact c.keyFile
    transcriptFile := by rw [FileSystem.writeFile_other _ (Ne.symm htr)]; exact c.transcriptFile }

/-- A key the client reads from a ceremony's key file is the ceremony's key. -/
theorem Ceremony.pk_eq_of_keyFile (hops : ops.Lawful) {fs : FileSystem}
    (c : Ceremony ops codec pkPath transcriptPath fs) {pk : PK}
    (hkey : KeyFile ops fs pkPath pk) : c.pk = pk := by
  obtain ⟨b, hb, hpk⟩ := hkey
  rw [c.keyFile, Option.some.injEq] at hb
  rw [← hb, hops.provingKeyFromBytes_serializePk, Option.some.injEq] at hpk
  exact hpk

/-- The key file determines a ceremony's key. -/
theorem Ceremony.pk_eq (hops : ops.Lawful) {fs : FileSystem}
    (c : Ceremony ops codec pkPath transcriptPath fs) {pk : PK}
    (h : fs pkPath = some (ops.serializePk pk)) : c.pk = pk :=
  c.pk_eq_of_keyFile hops ⟨_, h, hops.provingKeyFromBytes_serializePk pk⟩

/-- A transcript the client reads and parses from a ceremony's transcript file
    is the ceremony's transcript. -/
theorem Ceremony.transcript_eq_of_read (hcodec : codec.Lawful) {fs : FileSystem}
    (c : Ceremony ops codec pkPath transcriptPath fs) {s : String} {v : Value N}
    (hread : fs.readFileToString transcriptPath = .ok s) (hparse : codec.fromStr s = some v) :
    c.transcript = v := by
  obtain ⟨hread', hparse'⟩ := c.readTranscript hcodec
  rw [hread', Except.ok.injEq] at hread
  rw [← hread, hparse', Option.some.injEq] at hparse
  exact hparse

/-- The transcript file determines a ceremony's receipts: the printed value
    parses back as itself, and the receipts decode from its entries. -/
theorem Ceremony.receipts_eq (hcodec : codec.Lawful) {fs fs' : FileSystem}
    (c : Ceremony ops codec pkPath transcriptPath fs)
    (c' : Ceremony ops codec pkPath transcriptPath fs')
    (h : fs' transcriptPath = fs transcriptPath) : c'.receipts = c.receipts := by
  obtain ⟨hread, hparse⟩ := c.readTranscript hcodec
  have htranscript : c'.transcript = c.transcript :=
    c'.transcript_eq_of_read hcodec (by rw [FileSystem.readFileToString_congr h, hread]) hparse
  have hentries : c'.entries = c.entries := by
    have hes := c'.contributions
    rw [htranscript, c.contributions, Value.array.injEq] at hes
    exact hes.symm
  have hrs := c'.receiptsOk
  rw [hentries] at hrs
  exact receipts_eq_of_records ops hrs c.receiptHex

/-- Over a ceremony with a receipt, a key whose `delta_g2` is not the current
    key's leaves no ceremony: the last receipt still ends at the current key. -/
theorem Ceremony.not_of_key (hops : ops.Lawful) (hcodec : codec.Lawful)
    (hpaths : pkPath ≠ transcriptPath) {fs : FileSystem}
    (c : Ceremony ops codec pkPath transcriptPath fs) {pk' : PK} (hreceipts : c.receipts ≠ [])
    (hdelta : ops.serializeDeltaG2 pk' ≠ ops.serializeDeltaG2 c.pk) :
    ¬Nonempty (Ceremony ops codec pkPath transcriptPath (fs.writeFile pkPath (ops.serializePk pk'))) := by
  rintro ⟨c'⟩
  have hpk : c'.pk = pk' := c'.pk_eq hops (FileSystem.writeFile_same _ _ _)
  have hrs : c'.receipts = c.receipts :=
    c.receipts_eq hcodec c' (FileSystem.writeFile_other _ (Ne.symm hpaths))
  have hlast : c.receipts.getLast hreceipts ∈ c.receipts.getLast? :=
    List.getLast?_eq_some_getLast hreceipts
  have hlast' : c.receipts.getLast hreceipts ∈ c'.receipts.getLast? := by
    rw [hrs]
    exact hlast
  apply hdelta
  rw [← hpk, ← c'.runsFrom.last _ hlast']
  exact c.runsFrom.last _ hlast

end Files

/-! ## `init` -/

/-- The transcript `init` writes is well formed: its two keys are in order. -/
theorem initialTranscript_wellFormed (deltaHash : String) :
    WellFormed (initialTranscript deltaHash : Value N) := by
  refine .object (by simp only [List.map_cons, List.map_nil]; decide) ?_
  intro p hp
  simp only [List.mem_cons, List.not_mem_nil, or_false] at hp
  rcases hp with rfl | rfl
  · exact .array (by simp)
  · exact .string _

section Init

variable (codec : Codec N) (pkPath transcriptPath : String) (rng : Rng)

/-- What `init` leaves: the fresh key, and the transcript with no contribution. -/
theorem cmdCeremonyInit_eq (fs : FileSystem) :
    cmdCeremonyInit ops codec pkPath transcriptPath rng fs = .ok ()
      ((fs.writeFile pkPath (ops.serializePk (ops.ceremonyInit rng))).writeFile transcriptPath
        (codec.toStringPretty (initialTranscript
          (Hex.encode (ops.blake2_256 (ops.serializeDeltaG2 (ops.ceremonyInit rng)))))).asBytes) := by
  apply eq_ok_of_wp
  simp [cmdCeremonyInit]

/-- The ceremony that `init` starts: the fresh key, and no receipt. -/
def Ceremony.ofInit (hpaths : pkPath ≠ transcriptPath) (fs : FileSystem) :
    Ceremony ops codec pkPath transcriptPath
      ((fs.writeFile pkPath (ops.serializePk (ops.ceremonyInit rng))).writeFile transcriptPath
        (codec.toStringPretty (initialTranscript
          (Hex.encode (ops.blake2_256 (ops.serializeDeltaG2 (ops.ceremonyInit rng)))))).asBytes) where
  pk0 := ops.ceremonyInit rng
  pk := ops.ceremonyInit rng
  transcript := initialTranscript (Hex.encode (ops.blake2_256 (ops.serializeDeltaG2
    (ops.ceremonyInit rng))))
  entries := []
  receipts := []
  keyFile := by rw [FileSystem.writeFile_other _ hpaths, FileSystem.writeFile_same]
  transcriptFile := FileSystem.writeFile_same _ _ _
  wellFormed := initialTranscript_wellFormed _
  initialHash := by
    have hne : ("initial_delta_g2_hash" == "contributions") = false := by decide
    simp [initialTranscript, Value.index, List.lookup_cons, hne]
  contributions := by simp [initialTranscript, Value.index]
  receiptsOk := .nil
  receiptHex := rfl
  runsFrom := RunsFrom.nil_self ops _
  keyPasses h := absurd rfl h

/-- `init` starts a ceremony at its fresh key, with no receipt. -/
theorem cmdCeremonyInit_ceremony (hpaths : pkPath ≠ transcriptPath) (fs : FileSystem) :
    ∃ c : Ceremony ops codec pkPath transcriptPath
        (cmdCeremonyInit ops codec pkPath transcriptPath rng fs).state,
      c.pk0 = ops.ceremonyInit rng ∧ c.pk = c.pk0 ∧ c.receipts = [] := by
  rw [cmdCeremonyInit_eq, Outcome.state_ok]
  exact ⟨Ceremony.ofInit ops codec pkPath transcriptPath rng hpaths fs, rfl, rfl, rfl⟩

end Init

/-! ## `contribute` -/

/-- The entry of a contribution is well formed: its four keys are in order. -/
theorem contributionEntry_wellFormed (participant receiptHex oldDeltaHash newDeltaHash : String) :
    WellFormed (contributionEntry participant receiptHex oldDeltaHash newDeltaHash : Value N) := by
  refine .object (by simp only [List.map_cons, List.map_nil]; decide) ?_
  intro p hp
  simp only [List.mem_cons, List.not_mem_nil, or_false] at hp
  rcases hp with rfl | rfl | rfl | rfl <;> exact .string _

/-- The receipt field of a contribution's entry is the receipt's hex. -/
theorem receiptEntry_receipt (participant : String) (rb : List UInt8) :
    (receiptEntry ops participant rb : Value N).index "receipt" = .string (Hex.encode rb) := by
  have h1 : ("receipt" == "new_delta_g2_hash") = false := by decide
  have h2 : ("receipt" == "old_delta_g2_hash") = false := by decide
  have h3 : ("receipt" == "participant") = false := by decide
  simp [receiptEntry, contributionEntry, Value.index, List.lookup_cons, h1, h2, h3]

/-- Pushing a well-formed entry keeps a transcript well formed. -/
theorem wellFormed_pushContribution {v v' entry : Value N} (hv : WellFormed v)
    (hentry : WellFormed entry)
    (h : v.updateField "contributions" (pushContribution entry) = .ok v') : WellFormed v' := by
  refine wellFormed_updateField hv ?_ h
  intro w w' hpush hw
  obtain ⟨es, rfl, rfl⟩ := pushContribution_eq_ok hpush
  cases hw with
  | array hes =>
    refine .array fun u hu => ?_
    rcases List.mem_append.1 hu with hu | hu
    · exact hes u hu
    · rw [List.mem_singleton.1 hu]
      exact hentry

/-- A transcript whose contributions are an array takes the push. -/
theorem updateField_pushContribution_ok {v entry : Value N} {es : List (Value N)}
    (h : v.index "contributions" = .array es) :
    ∃ v', v.updateField "contributions" (pushContribution entry) = .ok v' := by
  cases v with
  | object m =>
    refine ⟨.object (mapInsert "contributions" (.array (es ++ [entry])) m), ?_⟩
    simp only [Value.updateField, bind, Except.bind]
    rw [show (m.lookup "contributions").getD .null = .array es from h]
    rfl
  | _ => simp [Value.index] at h

section Contribute

variable (codec : Codec N) (pkPath transcriptPath participant : String) (rng : Rng)

/-- A contribution whose self-checks fail exits with 1 before writing anything. -/
theorem cmdCeremonyContribute_of_not_passes {fs : FileSystem} {pk : PK}
    (hkey : KeyFile ops fs pkPath pk) (h : ¬Passes ops rng pk) :
    cmdCeremonyContribute ops codec pkPath transcriptPath participant rng fs =
      .stop (.exit 1) fs := by
  obtain ⟨b, hb, hpk⟩ := hkey
  apply eq_stop_of_wp
  unfold cmdCeremonyContribute
  simp only [wp.bind, Fs.wp_read, FileSystem.readFile, hb, wp.expectOk, wp.expect, hpk,
    Except.ok.injEq, Option.some.injEq, forall_eq', reduceCtorEq, false_implies, implies_true,
    and_true]
  unfold Passes at h
  by_cases hrc : ops.verifyContribution (ops.ceremonyContribute rng pk).2 = true
  · have hfun : ops.verifyCeremonyPk (ops.ceremonyContribute rng pk).1 = false := by
      simpa [hrc] using h
    simp [hrc, hfun]
  · simp [hrc, wp.ite]

/-- From a ceremony, a contribution whose self-checks pass returns. -/
theorem cmdCeremonyContribute_returns (hops : ops.Lawful) (hcodec : codec.Lawful)
    (hpaths : pkPath ≠ transcriptPath) {fs : FileSystem}
    (c : Ceremony ops codec pkPath transcriptPath fs) (hpass : Passes ops rng c.pk) :
    ∃ fs', cmdCeremonyContribute ops codec pkPath transcriptPath participant rng fs = .ok () fs' := by
  obtain ⟨v', hv'⟩ := @updateField_pushContribution_ok N c.transcript
    (receiptEntry ops participant (receiptBytesOf ops rng c.pk)) c.entries c.contributions
  have hlen : (receiptBytesOf ops rng c.pk).length = 160 := (hops.layout rng c.pk).1
  obtain ⟨hread, hparse⟩ := c.readTranscript hcodec
  -- The entry the command builds is `receiptEntry`, with the slices written out.
  have hupdate : c.transcript.updateField "contributions" (pushContribution (contributionEntry
      participant (Hex.encode (receiptBytesOf ops rng c.pk))
      (Hex.encode (ops.blake2_256 (((receiptBytesOf ops rng c.pk).take 96).drop 32)))
      (Hex.encode (ops.blake2_256 (((receiptBytesOf ops rng c.pk).take 160).drop 96))))) =
      .ok v' := hv'
  have hwp : wp (cmdCeremonyContribute ops codec pkPath transcriptPath participant rng)
      (fun _ _ => True) (fun _ _ => False) fs := by
    unfold cmdCeremonyContribute
    simp only [receiptBytesOf] at hlen hupdate
    simp only [wp.bind, Fs.wp_read, FileSystem.readFile, c.keyFile, wp.expectOk, wp.expect,
      hops.provingKeyFromBytes_serializePk, Except.ok.injEq, Option.some.injEq, forall_eq',
      reduceCtorEq, false_implies, implies_true, and_true, wp.ite, hpass.1, hpass.2,
      Bool.not_true, Bool.false_eq_true, not_false_eq_true, true_implies, Fs.wp_write,
      Fs.wp_readToString, FileSystem.readFileToString_writeFile_other _ (Ne.symm hpaths), hread,
      hparse, wp.slice (show 32 ≤ 96 by decide) (show 96 ≤ _ by rw [hlen]; decide),
      wp.slice (show 96 ≤ 160 by decide) (show 160 ≤ _ by rw [hlen]), wp.orPanic, hupdate]
  obtain ⟨_, fs', h⟩ := exists_ok_of_wp hwp
  exact ⟨fs', h⟩

/-- A contribution recorded on a ceremony's files leaves the next ceremony:
    same first key, the new key, and the receipt appended. -/
theorem Ceremony.record (hops : ops.Lawful) (hcodec : codec.Lawful)
    (hpaths : pkPath ≠ transcriptPath) {fs fs' : FileSystem}
    (c : Ceremony ops codec pkPath transcriptPath fs)
    (h : Recorded ops codec pkPath transcriptPath participant rng fs fs') :
    ∃ c' : Ceremony ops codec pkPath transcriptPath fs', c'.pk0 = c.pk0 ∧
      c'.pk = (ops.ceremonyContribute rng c.pk).1 ∧
      c'.receipts = c.receipts ++ [receiptBytesOf ops rng c.pk] := by
  cases h with
  | @intro pk s v v' hkey hpass hread hparse _ hupdate =>
  -- The command read the ceremony's key and transcript.
  obtain rfl := c.pk_eq_of_keyFile hops hkey
  obtain rfl := c.transcript_eq_of_read hcodec hread hparse
  obtain ⟨es, hes, hcontributions, hother⟩ := updateField_pushContribution hupdate
  rw [c.contributions, Value.array.injEq] at hes
  subst hes
  obtain ⟨hlen, hold, hnew⟩ := hops.layout rng c.pk
  -- The new entry is a good receipt whose field is its hex.
  have hentry : ReceiptOk ops (receiptEntry ops participant (receiptBytesOf ops rng c.pk) : Value N)
      (receiptBytesOf ops rng c.pk) :=
    ⟨_, _, by rw [receiptEntry_receipt]; rfl, Hex.decode_encode _,
      hops.receiptFromBytes_receiptToBytes _, hpass.1, hlen.ge⟩
  refine ⟨⟨c.pk0, (ops.ceremonyContribute rng c.pk).1, v', _, _, ?_,
    FileSystem.writeFile_same _ _ _,
    wellFormed_pushContribution c.wellFormed (contributionEntry_wellFormed _ _ _ _) hupdate, ?_,
    hcontributions, List.rel_append c.receiptsOk (.cons hentry .nil), ?_,
    c.runsFrom.concat ops hold hnew, fun _ => hpass.2⟩, rfl, rfl, rfl⟩
  · rw [FileSystem.writeFile_other _ hpaths, FileSystem.writeFile_same]
  · rw [hother _ (by decide)]
    exact c.initialHash
  · rw [List.map_append, List.map_append, c.receiptHex, List.map_singleton, List.map_singleton,
      receiptEntry_receipt]
    rfl

/-- From a ceremony, a contribution either exits at a failed self-check with
    nothing written, or returns and leaves the next ceremony. -/
theorem cmdCeremonyContribute_step (hops : ops.Lawful) (hcodec : codec.Lawful)
    (hpaths : pkPath ≠ transcriptPath) {fs : FileSystem}
    (c : Ceremony ops codec pkPath transcriptPath fs) :
    (¬Passes ops rng c.pk ∧
        cmdCeremonyContribute ops codec pkPath transcriptPath participant rng fs =
          .stop (.exit 1) fs) ∨
      ∃ fs', cmdCeremonyContribute ops codec pkPath transcriptPath participant rng fs = .ok () fs' ∧
        ∃ c' : Ceremony ops codec pkPath transcriptPath fs', c'.pk0 = c.pk0 ∧
          c'.pk = (ops.ceremonyContribute rng c.pk).1 ∧
          c'.receipts = c.receipts ++ [receiptBytesOf ops rng c.pk] := by
  by_cases hpass : Passes ops rng c.pk
  · obtain ⟨fs', hrun⟩ := cmdCeremonyContribute_returns ops codec pkPath transcriptPath participant
      rng hops hcodec hpaths c hpass
    exact .inr ⟨fs', hrun, c.record ops codec pkPath transcriptPath participant rng hops hcodec
      hpaths (recorded_of_cmdCeremonyContribute ops codec pkPath transcriptPath participant rng
        hpaths hrun)⟩
  · exact .inl ⟨hpass, cmdCeremonyContribute_of_not_passes ops codec pkPath transcriptPath
      participant rng (c.key hops) hpass⟩

end Contribute

/-! ## Runs -/

section Reachable

variable (codec : Codec N) (pkPath transcriptPath : String)

/-- `finalize` on a ceremony copies the key and writes its verifying key. -/
theorem cmdCeremonyFinalize_eq (hops : ops.Lawful) {fs : FileSystem}
    (c : Ceremony ops codec pkPath transcriptPath fs) (pkOut vkOut : String) :
    cmdCeremonyFinalize ops pkPath pkOut vkOut fs = .ok ()
      ((fs.writeFile pkOut (ops.serializePk c.pk)).writeFile vkOut (ops.serializeVk c.pk)) := by
  apply eq_ok_of_wp
  simp [cmdCeremonyFinalize, FileSystem.readFile, c.keyFile, hops.provingKeyFromBytes_serializePk]

/-- The files the ceremony commands can leave, for fixed paths: `init` on any
    files, then contributions, verifications, and finalizations that write
    elsewhere. -/
inductive Reachable : FileSystem → Prop
  | init (rng : Rng) (fs : FileSystem) :
      Reachable (cmdCeremonyInit ops codec pkPath transcriptPath rng fs).state
  | contribute {fs : FileSystem} (participant : String) (rng : Rng) :
      Reachable fs →
        Reachable (cmdCeremonyContribute ops codec pkPath transcriptPath participant rng fs).state
  | verify {fs : FileSystem} :
      Reachable fs → Reachable (cmdCeremonyVerify ops codec pkPath transcriptPath fs).state
  | finalize {fs : FileSystem} (pkOut vkOut : String) (h1 : pkOut ≠ pkPath)
      (h2 : pkOut ≠ transcriptPath) (h3 : vkOut ≠ pkPath) (h4 : vkOut ≠ transcriptPath) :
      Reachable fs → Reachable (cmdCeremonyFinalize ops pkPath pkOut vkOut fs).state

/-- Every reachable state is a ceremony. -/
theorem ceremony_of_reachable (hops : ops.Lawful) (hcodec : codec.Lawful)
    (hpaths : pkPath ≠ transcriptPath) {fs : FileSystem}
    (h : Reachable ops codec pkPath transcriptPath fs) :
    Nonempty (Ceremony ops codec pkPath transcriptPath fs) := by
  induction h with
  | init rng fs =>
    obtain ⟨c, -⟩ := cmdCeremonyInit_ceremony ops codec pkPath transcriptPath rng hpaths fs
    exact ⟨c⟩
  | @contribute fs participant rng _ ih =>
    obtain ⟨c⟩ := ih
    rcases cmdCeremonyContribute_step ops codec pkPath transcriptPath participant rng hops hcodec
      hpaths c with ⟨-, hrun⟩ | ⟨fs', hrun, c', -⟩
    · rw [hrun, Outcome.state_stop]
      exact ⟨c⟩
    · rw [hrun, Outcome.state_ok]
      exact ⟨c'⟩
  | @verify fs _ ih =>
    obtain ⟨c⟩ := ih
    rw [cmdCeremonyVerify_ceremony hops hcodec c, Outcome.state_ok]
    exact ⟨c⟩
  | @finalize fs pkOut vkOut h1 h2 h3 h4 _ ih =>
    obtain ⟨c⟩ := ih
    rw [cmdCeremonyFinalize_eq ops codec pkPath transcriptPath hops c, Outcome.state_ok]
    exact ⟨(c.writeOther _ h1 h2).writeOther _ h3 h4⟩

/-- On every state the ceremony commands reach, `verify` passes, and the
    transcript is anchored at the first key and at the key on disk. -/
theorem verify_reachable (hops : ops.Lawful) (hcodec : codec.Lawful)
    (hpaths : pkPath ≠ transcriptPath) {fs : FileSystem}
    (h : Reachable ops codec pkPath transcriptPath fs) :
    cmdCeremonyVerify ops codec pkPath transcriptPath fs = .ok () fs ∧
      ∃ c : Ceremony ops codec pkPath transcriptPath fs,
        (∀ r ∈ c.receipts.head?, ops.blake2_256 (oldDelta r) =
          ops.blake2_256 (ops.serializeDeltaG2 c.pk0)) ∧
        ∀ r ∈ c.receipts.getLast?, newDelta r = ops.serializeDeltaG2 c.pk := by
  obtain ⟨c⟩ := ceremony_of_reachable ops codec pkPath transcriptPath hops hcodec hpaths h
  exact ⟨cmdCeremonyVerify_ceremony hops hcodec c, c, c.anchored.2.2⟩

end Reachable

/-! ## A contribution to another transcript -/

section Elsewhere

variable (codec : Codec N) (pkPath transcriptPath participant : String) (rng : Rng)

/-- A contribution from a ceremony's key, pointed at a transcript path with no
    file, whose self-checks pass: it writes the new key, then panics at the
    transcript. On the files it leaves `verify` passes, although once the
    ceremony has a receipt and the new key's `delta_g2` differs, they are no
    ceremony and no run of the ceremony commands reaches them. -/
theorem contribute_elsewhere (hops : ops.Lawful) (hcodec : codec.Lawful)
    (hpaths : pkPath ≠ transcriptPath) {fs : FileSystem}
    (c : Ceremony ops codec pkPath transcriptPath fs) {other : String} (hother : fs other = none)
    (hne : other ≠ pkPath) (hpass : Passes ops rng c.pk) :
    ∃ fs', fs' pkPath = some (ops.serializePk (ops.ceremonyContribute rng c.pk).1) ∧
      (∀ path ≠ pkPath, fs' path = fs path) ∧
      cmdCeremonyContribute ops codec pkPath other participant rng fs =
        .stop (.panic "read transcript") fs' ∧
      cmdCeremonyVerify ops codec pkPath transcriptPath fs' = .ok () fs' ∧
      (c.receipts ≠ [] →
        ops.serializeDeltaG2 (ops.ceremonyContribute rng c.pk).1 ≠ ops.serializeDeltaG2 c.pk →
          ¬Reachable ops codec pkPath transcriptPath fs') := by
  set pkNew := (ops.ceremonyContribute rng c.pk).1
  refine ⟨fs.writeFile pkPath (ops.serializePk pkNew), FileSystem.writeFile_same _ _ _,
    fun path hpath => FileSystem.writeFile_other _ hpath, ?_, ?_, ?_⟩
  · -- The key is read, the checks pass, the key is written, and the transcript is missing.
    apply eq_stop_of_wp
    unfold cmdCeremonyContribute
    simp only [wp.bind, Fs.wp_read, FileSystem.readFile, c.keyFile, wp.expectOk, wp.expect,
      hops.provingKeyFromBytes_serializePk, Except.ok.injEq, Option.some.injEq, forall_eq',
      reduceCtorEq, false_implies, implies_true, and_true, wp.ite, hpass.1, hpass.2,
      Bool.not_true, Bool.false_eq_true, not_false_eq_true, true_implies, Fs.wp_write,
      Fs.wp_readToString, FileSystem.readFileToString_writeFile_other _ hne,
      FileSystem.readFileToString_of_none hother]
    simp [pkNew]
  · -- The transcript is the ceremony's, and the new key passed its test.
    refine cmdCeremonyVerify_complete ops codec pkPath transcriptPath ?_
      (hcodec.fromStr_toStringPretty _ c.wellFormed) c.contributions c.receiptsOk
      c.runsFrom.chain ?_
    · rw [FileSystem.writeFile_other _ (Ne.symm hpaths)]
      exact c.transcriptFile
    · intro _
      exact ⟨_, pkNew, FileSystem.writeFile_same _ _ _, hops.provingKeyFromBytes_serializePk _,
        hpass.2⟩
  · intro hreceipts hdelta hreach
    exact c.not_of_key hops hcodec hpaths hreceipts hdelta
      (ceremony_of_reachable ops codec pkPath transcriptPath hops hcodec hpaths hreach)

end Elsewhere

/-! ## A run on concrete files

The byte ceremony of `Verify` and the prefix-code codec of `Stdlib.JsonText`
meet every law the theorems above assume, so they hold of actual runs. -/

section Concrete

theorem byteOps_lawful : byteOps.Lawful :=
  ⟨fun _ => rfl, fun _ => rfl, byteOps_receiptLayout⟩

/-- The prefix-code codec, over values without numbers. -/
noncomputable def emptyCodec : Codec Empty := textCodec Empty.elim

theorem emptyCodec_lawful : emptyCodec.Lawful :=
  textCodec_lawful fun a => a.elim

/-- The files after `init` and one contribution, starting from no files. -/
noncomputable def contributedFiles : FileSystem :=
  (cmdCeremonyContribute byteOps emptyCodec "ceremony_pk.bin" "ceremony_transcript.json" "Alice" ()
    (cmdCeremonyInit byteOps emptyCodec "ceremony_pk.bin" "ceremony_transcript.json" ()
      fun _ => none).state).state

theorem verify_reachable_contributed :
    cmdCeremonyVerify byteOps emptyCodec "ceremony_pk.bin" "ceremony_transcript.json"
        contributedFiles = .ok () contributedFiles ∧
      ∃ c : Ceremony byteOps emptyCodec "ceremony_pk.bin" "ceremony_transcript.json"
          contributedFiles,
        (∀ r ∈ c.receipts.head?, byteOps.blake2_256 (oldDelta r) =
          byteOps.blake2_256 (byteOps.serializeDeltaG2 c.pk0)) ∧
        ∀ r ∈ c.receipts.getLast?, newDelta r = byteOps.serializeDeltaG2 c.pk :=
  verify_reachable byteOps emptyCodec "ceremony_pk.bin" "ceremony_transcript.json" byteOps_lawful
    emptyCodec_lawful (by decide) (.contribute "Alice" () (.init () _))

/-- The files `init` writes, starting from no files. -/
noncomputable def initFiles : FileSystem :=
  (FileSystem.writeFile (fun _ => none) "ceremony_pk.bin"
    (byteOps.serializePk (byteOps.ceremonyInit ()))).writeFile "ceremony_transcript.json"
    (emptyCodec.toStringPretty (initialTranscript (Hex.encode
      (byteOps.blake2_256 (byteOps.serializeDeltaG2 (byteOps.ceremonyInit ())))))).asBytes

/-- The ceremony `init` starts on no files. -/
noncomputable def initCeremony :
    Ceremony byteOps emptyCodec "ceremony_pk.bin" "ceremony_transcript.json" initFiles :=
  Ceremony.ofInit byteOps emptyCodec "ceremony_pk.bin" "ceremony_transcript.json" () (by decide)
    fun _ => none

theorem contribute_elsewhere_afterInit :
    ∃ fs', fs' "ceremony_pk.bin" =
        some (byteOps.serializePk (byteOps.ceremonyContribute () initCeremony.pk).1) ∧
      (∀ path ≠ "ceremony_pk.bin", fs' path = initFiles path) ∧
      cmdCeremonyContribute byteOps emptyCodec "ceremony_pk.bin" "elsewhere.json" "Alice" ()
          initFiles = .stop (.panic "read transcript") fs' ∧
      cmdCeremonyVerify byteOps emptyCodec "ceremony_pk.bin" "ceremony_transcript.json" fs' =
        .ok () fs' ∧
      (initCeremony.receipts ≠ [] →
        byteOps.serializeDeltaG2 (byteOps.ceremonyContribute () initCeremony.pk).1 ≠
          byteOps.serializeDeltaG2 initCeremony.pk →
        ¬Reachable byteOps emptyCodec "ceremony_pk.bin" "ceremony_transcript.json" fs') :=
  contribute_elsewhere byteOps emptyCodec "ceremony_pk.bin" "ceremony_transcript.json" "Alice" ()
    byteOps_lawful emptyCodec_lawful (by decide) initCeremony rfl (by decide) ⟨rfl, rfl⟩

end Concrete

end TrustedSetup
