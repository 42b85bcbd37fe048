-- SUMMARY: Steps 1 to 6 of test_trusted_setup_ceremony.sh as one run of the ceremony commands: it succeeds exactly when every contribution passes its self-checks, and then leaves the final key files and a consistent ceremony.
import EncointerNode.TrustedSetup.Run

/-! # The end-to-end ceremony test

`scripts/ci/test_trusted_setup_ceremony.sh` runs the ceremony commands under
`set -e`, one process after another: `init`, a contribution by each of
`Alice`, `Bob` and `Charlie`, `verify`, and `finalize` into the final key files
(steps 1 to 6; step 7 and the on-chain part call commands outside the model).
A process that panics or exits with a non-zero code stops the script there, and
what it wrote stays written; this is the sequencing of `Command`. Each process
that draws randomness draws its own, so the model takes one `Rng` for `init`
and one for each contribution.

The contributions are a loop over the contributors, `contributions`, and the
run lemma for it (`contributions_run`) is by induction on the contributors: from
a ceremony, the loop either stops at the first contribution whose self-checks
fail, or returns with the next ceremony, which has one more receipt for each
contributor. From it, the script succeeds exactly when every contribution
passes its self-checks (`testTrustedSetupCeremony_ok_iff`), and then the final
files hold the last key and its verifying key, next to a ceremony from the
first key (`testTrustedSetupCeremony_result`). -/

namespace TrustedSetup

open Json Command

variable {N PK Receipt Rng : Type} (ops : CeremonyOps PK Receipt Rng)

/-! ## Keys and receipts of a sequence of contributions -/

/-- The key after contributions with the given randomness, in turn. -/
def contributedKey (pk : PK) : List Rng → PK
  | [] => pk
  | rng :: rest => contributedKey (ops.ceremonyContribute rng pk).1 rest

/-- The receipts of those contributions, in turn. -/
def contributedReceipts (pk : PK) : List Rng → List (List UInt8)
  | [] => []
  | rng :: rest =>
    receiptBytesOf ops rng pk :: contributedReceipts (ops.ceremonyContribute rng pk).1 rest

/-- Every contribution, from the key its predecessor left, passes its
    self-checks. -/
def AllPass (pk : PK) : List Rng → Prop
  | [] => True
  | rng :: rest => Passes ops rng pk ∧ AllPass (ops.ceremonyContribute rng pk).1 rest

/-! ## The script -/

/-- The files of the script, all different: `$PK`, `$TRANSCRIPT`, `$FINAL_PK`
    and `$FINAL_VK` in one fresh directory. -/
structure ScriptPaths where
  pk : String
  transcript : String
  finalPk : String
  finalVk : String
  distinct : [pk, transcript, finalPk, finalVk].Nodup

theorem ScriptPaths.ne (paths : ScriptPaths) :
    paths.pk ≠ paths.transcript ∧ paths.finalPk ≠ paths.pk ∧
      paths.finalPk ≠ paths.transcript ∧ paths.finalVk ≠ paths.pk ∧
      paths.finalVk ≠ paths.transcript ∧ paths.finalVk ≠ paths.finalPk := by
  have h := paths.distinct
  simp only [List.nodup_cons, List.mem_cons, List.not_mem_nil, or_false, not_or] at h
  obtain ⟨⟨h1, h2, h3⟩, ⟨h4, h5⟩, h6, -⟩ := h
  exact ⟨h1, Ne.symm h2, Ne.symm h4, Ne.symm h3, Ne.symm h5, Ne.symm h6⟩

variable (codec : Codec N)

/-- One `contribute` process for each contributor, in turn. -/
def contributions (pkPath transcriptPath : String) :
    List (String × Rng) → Command FileSystem Unit
  | [] => pure ()
  | (participant, rng) :: rest => do
    cmdCeremonyContribute ops codec pkPath transcriptPath participant rng
    contributions pkPath transcriptPath rest

/-- The contributors of the script, each with the randomness its process draws. -/
def scriptContributors (r1 r2 r3 : Rng) : List (String × Rng) :=
  [("Alice", r1), ("Bob", r2), ("Charlie", r3)]

/-- Steps 1 to 6 of `test_trusted_setup_ceremony.sh`. -/
def testTrustedSetupCeremony (paths : ScriptPaths) (r0 : Rng)
    (contributors : List (String × Rng)) : Command FileSystem Unit := do
  cmdCeremonyInit ops codec paths.pk paths.transcript r0
  contributions ops codec paths.pk paths.transcript contributors
  cmdCeremonyVerify ops codec paths.pk paths.transcript
  cmdCeremonyFinalize ops paths.pk paths.finalPk paths.finalVk

/-! ## The loop of contributions -/

section Contributions

variable {codec} {pkPath transcriptPath : String}

/-- A contribution that returns passed its self-checks. -/
theorem passes_of_cmdCeremonyContribute (hops : ops.Lawful) {fs fs' : FileSystem}
    (c : Ceremony ops codec pkPath transcriptPath fs) {participant : String} {rng : Rng}
    (h : cmdCeremonyContribute ops codec pkPath transcriptPath participant rng fs = .ok () fs') :
    Passes ops rng c.pk := by
  by_contra hfail
  rw [cmdCeremonyContribute_of_not_passes ops codec pkPath transcriptPath participant rng
    (c.key hops) hfail] at h
  cases h

/-- From a ceremony, the loop stops at the first contribution whose
    self-checks fail, or returns with the next ceremony: the same first key, the
    key after every contribution, and one more receipt for each. The induction
    is on the contributors, with the ceremony as the invariant. -/
theorem contributions_run (hops : ops.Lawful) (hcodec : codec.Lawful)
    (hpaths : pkPath ≠ transcriptPath) (contributors : List (String × Rng)) :
    ∀ {fs : FileSystem} (c : Ceremony ops codec pkPath transcriptPath fs),
      (AllPass ops c.pk (contributors.map Prod.snd) ∧ ∃ fs',
          contributions ops codec pkPath transcriptPath contributors fs = .ok () fs' ∧
          ∃ c' : Ceremony ops codec pkPath transcriptPath fs', c'.pk0 = c.pk0 ∧
            c'.pk = contributedKey ops c.pk (contributors.map Prod.snd) ∧
            c'.receipts = c.receipts ++ contributedReceipts ops c.pk (contributors.map Prod.snd)) ∨
      (¬AllPass ops c.pk (contributors.map Prod.snd) ∧ ∃ fs',
          contributions ops codec pkPath transcriptPath contributors fs = .stop (.exit 1) fs') := by
  induction contributors with
  | nil =>
    intro fs c
    exact .inl ⟨trivial, fs, rfl, c, rfl, rfl, by simp [contributedReceipts]⟩
  | cons head rest ih =>
    obtain ⟨participant, rng⟩ := head
    intro fs c
    rcases cmdCeremonyContribute_step ops codec pkPath transcriptPath participant rng hops hcodec
      hpaths c with ⟨hfail, hstop⟩ | ⟨fs1, hrun, c1, hpk0, hpk, hreceipts⟩
    · -- The first contribution fails its self-checks and the loop stops there.
      exact .inr ⟨fun hall => hfail hall.1, fs, bind_of_stop hstop⟩
    · have hpass := passes_of_cmdCeremonyContribute ops hops c hrun
      rcases ih c1 with ⟨hall, fs', hrest, c', hpk0', hpk', hreceipts'⟩ | ⟨hnot, fs', hrest⟩
      · refine .inl ⟨⟨hpass, ?_⟩, fs', ?_, c', ?_, ?_, ?_⟩
        · rw [← hpk]
          exact hall
        · rw [contributions, bind_of_ok hrun]
          exact hrest
        · rw [hpk0', hpk0]
        · rw [hpk', hpk]
          rfl
        · rw [hreceipts', hreceipts, hpk]
          simp [contributedReceipts]
      · refine .inr ⟨fun hall => hnot ?_, fs', ?_⟩
        · rw [hpk]
          exact hall.2
        · rw [contributions, bind_of_ok hrun]
          exact hrest

end Contributions

/-! ## The script -/

section Script

variable {codec} (paths : ScriptPaths) (r0 : Rng) (contributors : List (String × Rng))

/-- The script either stops with exit code 1 at the first contribution that
    fails its self-checks, or returns; then the final files hold the last key
    and its verifying key, and the ceremony files hold a ceremony from the
    first key with a receipt for each contribution. -/
theorem testTrustedSetupCeremony_cases (hops : ops.Lawful) (hcodec : codec.Lawful)
    (fs : FileSystem) :
    (AllPass ops (ops.ceremonyInit r0) (contributors.map Prod.snd) ∧ ∃ fs',
        testTrustedSetupCeremony ops codec paths r0 contributors fs = .ok () fs' ∧
        fs' paths.finalPk = some (ops.serializePk
          (contributedKey ops (ops.ceremonyInit r0) (contributors.map Prod.snd))) ∧
        fs' paths.finalVk = some (ops.serializeVk
          (contributedKey ops (ops.ceremonyInit r0) (contributors.map Prod.snd))) ∧
        ∃ c : Ceremony ops codec paths.pk paths.transcript fs', c.pk0 = ops.ceremonyInit r0 ∧
          c.pk = contributedKey ops (ops.ceremonyInit r0) (contributors.map Prod.snd) ∧
          c.receipts = contributedReceipts ops (ops.ceremonyInit r0) (contributors.map Prod.snd)) ∨
    (¬AllPass ops (ops.ceremonyInit r0) (contributors.map Prod.snd) ∧ ∃ fs',
        testTrustedSetupCeremony ops codec paths r0 contributors fs = .stop (.exit 1) fs') := by
  obtain ⟨hpt, hfp, hft, hvp, hvt, hvf⟩ := paths.ne
  -- Step 1 leaves the ceremony `init` starts.
  have hinit := cmdCeremonyInit_eq ops codec paths.pk paths.transcript r0 fs
  set c0 := Ceremony.ofInit ops codec paths.pk paths.transcript r0 hpt fs
  rcases contributions_run ops hops hcodec hpt contributors c0 with
    ⟨hall, fs3, hrun, c3, hpk0, hpk, hreceipts⟩ | ⟨hnot, fs3, hstop⟩
  · -- Steps 2 to 4 return; `verify` passes on the ceremony, `finalize` copies the key.
    have hverify := cmdCeremonyVerify_ceremony hops hcodec c3
    have hfinal := cmdCeremonyFinalize_eq ops codec paths.pk paths.transcript hops c3
      paths.finalPk paths.finalVk
    refine .inl ⟨hall, _, ?_, ?_, ?_, (c3.writeOther (ops.serializePk c3.pk) hfp hft).writeOther
      (ops.serializeVk c3.pk) hvp hvt, hpk0, hpk, ?_⟩
    · unfold testTrustedSetupCeremony
      rw [bind_of_ok hinit, bind_of_ok hrun, bind_of_ok hverify, hfinal]
    · rw [FileSystem.writeFile_other _ (Ne.symm hvf), FileSystem.writeFile_same, hpk]
      rfl
    · rw [FileSystem.writeFile_same, hpk]
      rfl
    · show c3.receipts = _
      rw [hreceipts]
      rfl
  · refine .inr ⟨hnot, fs3, ?_⟩
    unfold testTrustedSetupCeremony
    rw [bind_of_ok hinit, bind_of_stop hstop]

/-- The script succeeds exactly when every contribution passes its self-checks. -/
theorem testTrustedSetupCeremony_ok_iff (hops : ops.Lawful) (hcodec : codec.Lawful)
    (fs : FileSystem) :
    (∃ fs', testTrustedSetupCeremony ops codec paths r0 contributors fs = .ok () fs') ↔
      AllPass ops (ops.ceremonyInit r0) (contributors.map Prod.snd) := by
  rcases testTrustedSetupCeremony_cases ops paths r0 contributors hops hcodec fs with
    ⟨hall, fs', hrun, -⟩ | ⟨hnot, fs', hstop⟩
  · exact ⟨fun _ => hall, fun _ => ⟨fs', hrun⟩⟩
  · refine ⟨?_, fun hall => absurd hall hnot⟩
    rintro ⟨fs'', hrun⟩
    rw [hstop] at hrun
    cases hrun

/-- When the script succeeds, the final files hold the last key and its
    verifying key, and the ceremony files a ceremony from the first key on which
    `verify` passes. -/
theorem testTrustedSetupCeremony_result (hops : ops.Lawful) (hcodec : codec.Lawful)
    {fs fs' : FileSystem} (h : testTrustedSetupCeremony ops codec paths r0 contributors fs = .ok () fs') :
    fs' paths.finalPk = some (ops.serializePk
        (contributedKey ops (ops.ceremonyInit r0) (contributors.map Prod.snd))) ∧
      fs' paths.finalVk = some (ops.serializeVk
        (contributedKey ops (ops.ceremonyInit r0) (contributors.map Prod.snd))) ∧
      cmdCeremonyVerify ops codec paths.pk paths.transcript fs' = .ok () fs' ∧
      ∃ c : Ceremony ops codec paths.pk paths.transcript fs', c.pk0 = ops.ceremonyInit r0 ∧
        c.receipts = contributedReceipts ops (ops.ceremonyInit r0) (contributors.map Prod.snd) := by
  rcases testTrustedSetupCeremony_cases ops paths r0 contributors hops hcodec fs with
    ⟨-, fs'', hrun, hpk, hvk, c, hpk0, -, hreceipts⟩ | ⟨-, fs'', hstop⟩
  · rw [h, Outcome.ok.injEq] at hrun
    obtain ⟨-, rfl⟩ := hrun
    exact ⟨hpk, hvk, cmdCeremonyVerify_ceremony hops hcodec c, c, hpk0, hreceipts⟩
  · rw [h] at hstop
    cases hstop

end Script

/-! ## The script on the byte ceremony -/

/-- The script's files, in a directory `/tmp` standing for its fresh `$TMPDIR`. -/
def tmpPaths : ScriptPaths :=
  ⟨"/tmp/ceremony_pk.bin", "/tmp/ceremony_transcript.json", "/tmp/proving_key.bin",
    "/tmp/verifying_key.bin", by decide⟩

theorem testTrustedSetupCeremony_ok_iff_byteOps :
    AllPass byteOps (byteOps.ceremonyInit ()) ((scriptContributors () () ()).map Prod.snd) ∧
      ∃ fs', testTrustedSetupCeremony byteOps emptyCodec tmpPaths () (scriptContributors () () ())
        (fun _ => none) = .ok () fs' := by
  have hall : AllPass byteOps (byteOps.ceremonyInit ()) ((scriptContributors () () ()).map Prod.snd) :=
    ⟨⟨rfl, rfl⟩, ⟨rfl, rfl⟩, ⟨rfl, rfl⟩, trivial⟩
  exact ⟨hall, (testTrustedSetupCeremony_ok_iff byteOps tmpPaths () (scriptContributors () () ())
    byteOps_lawful emptyCodec_lawful fun _ => none).2 hall⟩

end TrustedSetup
