-- SUMMARY: `listen` of the client: the loop of `wait_for_blocks_or_events` over the event subscription, what `print_events` prints and counts of each event, and after which block the loop returns for each target.
import Mathlib
import EncointerNode.Stdlib.Process
import EncointerNode.Communities.NewCommunity

/-! # Listening to events

`encointer-cli listen` subscribes to the chain's events and, in
`wait_for_blocks_or_events`, takes them block by block, printing each block's
events with `print_events`. It counts blocks, and the events of the five
encointer pallets it prints (ceremonies, scheduler, communities, balances,
bazaar), both in `u32`. Before each block it checks its targets: it returns
once the event count has reached `--await-events`, or the block count has
passed `--await-blocks`.

The subscription is the list of what it yields, for each block its events or
an error decoding them; past its end `unwrap` panics. The loop is an instance
of `Command.pollUntil`, and its passes print and count as a fold
(`waitPass_eq`), so that what it does over a whole run is a function of how
many blocks it takes (`waitForBlocksOrEvents_eq_ok`). With `--await-blocks n`
alone it takes exactly `n + 1` blocks (`listen_awaits_blocks`); with
`--await-events k` alone it returns after the first block by which it has
counted `k` events, and prints that block's events whole, more than `k` if the
block has them (`listen_awaits_events`); without either it runs until the
subscription ends (`listen_without_targets`).

The client's log lines (`debug!`, `info!`, `error!`) go to standard error and
are left out. An event's payload is given by the text the client prints of it:
its `Debug` text, or the SS58 text of an account. -/

namespace Core

open Command Process Communities

/-- The events of `EncointerCeremonies` that `print_events` tells apart. -/
inductive CeremoniesEvent where
  /-- `ParticipantRegistered(cid, participant_type, accountid)`. -/
  | participantRegistered (cid participantType account : String)
  | other
  deriving DecidableEq, Repr

/-- The events of `EncointerScheduler`. -/
inductive SchedulerEvent where
  | phaseChangedTo (phase : CeremonyPhaseType)
  | ceremonySchedulePushedByOneDay
  deriving DecidableEq, Repr

/-- The events of `EncointerCommunities` that `print_events` tells apart. -/
inductive CommunitiesEvent where
  | communityRegistered (cid : String)
  | metadataUpdated (cid : String)
  | nominalIncomeUpdated (cid income : String)
  | demurrageUpdated (cid demurrage : String)
  | other
  deriving DecidableEq, Repr

/-- The events of `System` that `print_events` tells apart. -/
inductive SystemEvent where
  | extrinsicFailed
  | extrinsicSuccess (dispatchInfo : String)
  | other
  deriving DecidableEq, Repr

/-- `RuntimeEvent`, by the pallets `print_events` tells apart. The events of
    `EncointerBalances` and `EncointerBazaar` are printed whole. -/
inductive RuntimeEvent where
  | encointerCeremonies (e : CeremoniesEvent)
  | encointerScheduler (e : SchedulerEvent)
  | encointerCommunities (e : CommunitiesEvent)
  | encointerBalances (e : String)
  | encointerBazaar (e : String)
  | system (e : SystemEvent)
  | other
  deriving DecidableEq, Repr

/-- `Debug for CeremonyPhaseType`. -/
def phaseDebug : CeremonyPhaseType → String
  | .registering => "Registering"
  | .assigning => "Assigning"
  | .attesting => "Attesting"

/-- The events `print_events` counts: those of the five encointer pallets. -/
def isEncointer : RuntimeEvent → Bool
  | .encointerCeremonies _ | .encointerScheduler _ | .encointerCommunities _
  | .encointerBalances _ | .encointerBazaar _ => true
  | .system _ | .other => false

/-- The line `print_events` prints of an event, if it prints one. An
    unsupported ceremonies event is reported with the text of the communities
    arm, as the source has it. -/
def eventLine : RuntimeEvent → Option String
  | .encointerCeremonies (.participantRegistered cid participantType accountid) =>
    some ("Participant registered as " ++ participantType ++ ", for cid: " ++ cid ++ ", account: " ++
      accountid ++ ", ")
  | .encointerCeremonies .other => some "Unsupported EncointerCommunities event"
  | .encointerScheduler (.phaseChangedTo phase) => some ("Phase changed to: " ++ phaseDebug phase)
  | .encointerScheduler .ceremonySchedulePushedByOneDay => some "Ceremony schedule was pushed by one day"
  | .encointerCommunities (.communityRegistered cid) => some ("Community registered: cid: " ++ cid)
  | .encointerCommunities (.metadataUpdated cid) => some ("Community metadata updated cid: " ++ cid)
  | .encointerCommunities (.nominalIncomeUpdated cid income) =>
    some ("Community metadata updated cid: " ++ cid ++ ", value: " ++ income)
  | .encointerCommunities (.demurrageUpdated cid demurrage) =>
    some ("Community metadata updated cid: " ++ cid ++ ", value: " ++ demurrage)
  | .encointerCommunities .other => some "Unsupported EncointerCommunities event"
  | .encointerBalances ee => some (">>>>>>>>>> encointer balances event: " ++ ee)
  | .encointerBazaar ee => some (">>>>>>>>>> encointer bazaar event: " ++ ee)
  -- A failed extrinsic goes to the log only.
  | .system .extrinsicFailed => none
  | .system (.extrinsicSuccess dispatchInfo) => some ("ExtrinsicSuccess: " ++ dispatchInfo)
  | .system .other => none
  | .other => none

/-- What the subscription yields for a block: its events, or the error of
    decoding them. -/
abbrev EventResults := Except String (List RuntimeEvent)

/-- The counts `wait_for_blocks_or_events` keeps. -/
structure Counts where
  eventCount : UInt32
  blockCount : UInt32
  deriving DecidableEq, Repr

section Commands

variable {Msg : Type}

/-- One pass of the loop of `print_events`, which counts into
    `encointer_event_count`. -/
def printEvent (encointerEventCount : UInt32) (evr : RuntimeEvent) : Command (Process Msg) UInt32 := do
  let encointerEventCount := if isEncointer evr then encointerEventCount + 1 else encointerEventCount
  match eventLine evr with
  | some line => println line
  | none => pure ()
  pure encointerEventCount

/-- `print_events`. -/
def printEvents (events : List RuntimeEvent) (encointerEventCount : UInt32) :
    Command (Process Msg) UInt32 :=
  events.foldlM printEvent encointerEventCount

/-- Whether `wait_for_blocks_or_events` returns before the next block. -/
def targetReached (targetBlockCount targetEventCount : Option UInt32) (counts : Counts) : Bool :=
  (match targetEventCount with
    | some target => decide (target ≤ counts.eventCount)
    | none => false) ||
  (match targetBlockCount with
    | some target => decide (target < counts.blockCount)
    | none => false)

/-- One pass of the loop of `wait_for_blocks_or_events`: a block of the
    subscription. -/
def waitPass (counts : Counts) (eventResults : EventResults) : Command (Process Msg) Counts := do
  let blockCount := counts.blockCount + 1
  match eventResults with
  | .ok events =>
    let eventCount ← printEvents events counts.eventCount
    pure ⟨eventCount, blockCount⟩
  | .error _ => pure ⟨counts.eventCount, blockCount⟩

/-- `wait_for_blocks_or_events`, over what the subscription yields. -/
def waitForBlocksOrEvents (targetBlockCount targetEventCount : Option UInt32)
    (subscription : List EventResults) : Command (Process Msg) Unit :=
  pollUntil (targetReached targetBlockCount targetEventCount) waitPass subscription ⟨0, 0⟩

/-- `listen`: `--await-events` and `--await-blocks`, handed on in the other
    order. -/
def listen (eventCount blockCount : Option UInt32) (subscription : List EventResults) :
    Command (Process Msg) Unit :=
  waitForBlocksOrEvents blockCount eventCount subscription

end Commands

/-! ## One block -/

/-- The events of a block, none if they did not decode. -/
def blockEvents : EventResults → List RuntimeEvent
  | .ok events => events
  | .error _ => []

/-- The lines printed for a block. -/
def blockLines (r : EventResults) : List String := (blockEvents r).filterMap eventLine

/-- The counts after a block. -/
def Counts.after (counts : Counts) (r : EventResults) : Counts :=
  ⟨counts.eventCount + UInt32.ofNat ((blockEvents r).countP isEncointer), counts.blockCount + 1⟩

/-- The encointer events of the blocks. -/
def encointerCount (blocks : List EventResults) : Nat := (blocks.flatMap blockEvents).countP isEncointer

section Steps

variable {Msg : Type}

theorem printEvent_eq (c : UInt32) (evr : RuntimeEvent) (p : Process Msg) :
    printEvent c evr p =
      .ok (if isEncointer evr then c + 1 else c) (emit (eventLine evr).toList p) := by
  unfold printEvent
  cases eventLine evr with
  | some line => rfl
  | none => simp only [Option.toList_none, emit_nil]; rfl

/-- Counting one by one in `u32` adds the number counted, wrapped. -/
theorem foldl_count (events : List RuntimeEvent) (c : UInt32) :
    events.foldl (fun c evr => if isEncointer evr then c + 1 else c) c =
      c + UInt32.ofNat (events.countP isEncointer) := by
  induction events generalizing c with
  | nil => simp
  | cons evr events ih =>
    rw [List.foldl_cons, ih, List.countP_cons]
    by_cases h : isEncointer evr
    · rw [if_pos h, if_pos h, UInt32.ofNat_add, UInt32.add_assoc, UInt32.add_comm _ (UInt32.ofNat 1)]
      rfl
    · rw [if_neg h, if_neg h, Nat.add_zero]

theorem printEvents_eq (events : List RuntimeEvent) (c : UInt32) (p : Process Msg) :
    printEvents events c p =
      .ok (c + UInt32.ofNat (events.countP isEncointer)) (emit (events.filterMap eventLine) p) := by
  have hloop := foldlM_eq_ok (fun c evr (_ : evr ∈ events) p => printEvent_eq c evr p) c p
  rw [foldl_count, foldl_emit, ← List.filterMap_eq_flatMap_toList] at hloop
  exact hloop

/-- A block's pass prints its events and counts it and them. -/
theorem waitPass_eq (counts : Counts) (r : EventResults) (p : Process Msg) :
    waitPass counts r p = .ok (counts.after r) (emit (blockLines r) p) := by
  cases r with
  | ok events =>
    simp only [waitPass]
    rw [bind_of_ok (printEvents_eq events counts.eventCount p)]
    rfl
  | error e =>
    -- A block that did not decode counts as a block with no events.
    have hzero : counts.eventCount + UInt32.ofNat 0 = counts.eventCount := UInt32.add_zero _
    simp only [waitPass, blockLines, blockEvents, List.filterMap_nil, emit_nil, Counts.after,
      List.countP_nil, hzero]
    rfl

/-- The counts after a run of blocks: the events counted, and the blocks. -/
theorem foldl_after (blocks : List EventResults) (counts : Counts) :
    blocks.foldl Counts.after counts =
      ⟨counts.eventCount + UInt32.ofNat (encointerCount blocks),
        counts.blockCount + UInt32.ofNat blocks.length⟩ := by
  induction blocks generalizing counts with
  | nil => simp [encointerCount]
  | cons r blocks ih =>
    rw [List.foldl_cons, ih]
    simp only [Counts.after, encointerCount, List.flatMap_cons, List.countP_append,
      List.length_cons, UInt32.ofNat_add, UInt32.add_assoc]
    rw [UInt32.add_comm (UInt32.ofNat blocks.length)]
    rfl

/-- Fewer blocks hold no more events. -/
theorem encointerCount_take_le (blocks : List EventResults) {j i : Nat} (hji : j ≤ i) :
    encointerCount (blocks.take j) ≤ encointerCount (blocks.take i) := by
  have hsplit : blocks.take i = blocks.take j ++ (blocks.take i).drop j := by
    conv_lhs => rw [← List.take_append_drop j (blocks.take i)]
    rw [List.take_take, Nat.min_eq_left hji]
  rw [hsplit]
  simp only [encointerCount, List.flatMap_append, List.countP_append]
  exact Nat.le_add_right _ _

end Steps

/-! ## Whole runs -/

section Runs

variable {Msg : Type}

/-- The counts after the first `i` blocks. -/
theorem counts_take (subscription : List EventResults) (i : Nat) :
    (subscription.take i).foldl Counts.after ⟨0, 0⟩ =
      ⟨UInt32.ofNat (encointerCount (subscription.take i)),
        UInt32.ofNat (subscription.take i).length⟩ := by
  rw [foldl_after, UInt32.zero_add, UInt32.zero_add]

/-- The loop returns after the first `i` blocks, `i` the least number of blocks
    after which a target is reached, having printed their events. -/
theorem waitForBlocksOrEvents_eq_ok {targetBlockCount targetEventCount : Option UInt32}
    {subscription : List EventResults} {i : Nat} (hi : i ≤ subscription.length)
    (hdone : targetReached targetBlockCount targetEventCount
      ((subscription.take i).foldl Counts.after ⟨0, 0⟩))
    (hbefore : ∀ j < i, ¬targetReached targetBlockCount targetEventCount
      ((subscription.take j).foldl Counts.after ⟨0, 0⟩))
    (p : Process Msg) :
    waitForBlocksOrEvents targetBlockCount targetEventCount subscription p =
      .ok () (emit ((subscription.take i).flatMap blockLines) p) := by
  have h := pollUntil_eq_ok (fun counts r p _ => waitPass_eq counts r p) hi hdone hbefore p
  rw [foldl_emit] at h
  exact h

/-- `listen --await-blocks n` takes exactly `n + 1` blocks of the subscription,
    prints their events and returns, when `n + 1` fits in `u32`. -/
theorem listen_awaits_blocks {n : UInt32} (hn : n.toNat + 1 < 2 ^ 32)
    {subscription : List EventResults} (hlen : n.toNat + 1 ≤ subscription.length)
    (p : Process Msg) :
    listen none (some n) subscription p =
      .ok () (emit ((subscription.take (n.toNat + 1)).flatMap blockLines) p) := by
  refine waitForBlocksOrEvents_eq_ok hlen ?_ ?_ p
  · -- After `n + 1` blocks the block count has passed `n`, without wrapping.
    rw [counts_take, List.length_take_of_le hlen]
    simp only [targetReached, Bool.false_or, decide_eq_true_eq, UInt32.lt_iff_toNat_lt,
      UInt32.toNat_ofNat', Nat.mod_eq_of_lt hn]
    omega
  · intro j hj
    rw [counts_take, List.length_take_of_le (by omega)]
    simp only [targetReached, Bool.false_or, decide_eq_true_eq, UInt32.lt_iff_toNat_lt,
      UInt32.toNat_ofNat', Nat.mod_eq_of_lt (by omega : j < 2 ^ 32)]
    omega

/-- `listen --await-events k` returns after the first block by which it has
    counted `k` encointer events, having printed the events of that block and
    of those before it, when the count stays within `u32`. -/
theorem listen_awaits_events {k : UInt32} {subscription : List EventResults} {i : Nat}
    (hi : i ≤ subscription.length) (hreached : k.toNat ≤ encointerCount (subscription.take i))
    (hfirst : ∀ j < i, encointerCount (subscription.take j) < k.toNat)
    (hfits : encointerCount (subscription.take i) < 2 ^ 32) (p : Process Msg) :
    listen (some k) none subscription p =
      .ok () (emit ((subscription.take i).flatMap blockLines) p) := by
  refine waitForBlocksOrEvents_eq_ok hi ?_ ?_ p
  · rw [counts_take]
    simp only [targetReached, Bool.or_false, decide_eq_true_eq, UInt32.le_iff_toNat_le,
      UInt32.toNat_ofNat', Nat.mod_eq_of_lt hfits]
    exact hreached
  · intro j hj
    -- Counts before block `i` are below the count at `i`, so they do not wrap.
    have hle := encointerCount_take_le subscription (Nat.le_of_lt hj)
    rw [counts_take]
    simp only [targetReached, Bool.or_false, decide_eq_true_eq, UInt32.le_iff_toNat_le,
      UInt32.toNat_ofNat', Nat.mod_eq_of_lt (Nat.lt_of_le_of_lt hle hfits)]
    exact Nat.not_le_of_lt (hfirst j hj)

/-- Without targets `listen` does not return: it prints every event the
    subscription yields, and panics when the subscription ends. -/
theorem listen_without_targets (subscription : List EventResults) (p : Process Msg) :
    listen none none subscription p =
      .stop (.panic "called \x60Option::unwrap()\x60 on a \x60None\x60 value")
        (emit (subscription.flatMap blockLines) p) := by
  have h : pollUntil (targetReached none none) waitPass subscription ⟨0, 0⟩ p = _ :=
    pollUntil_panics (fun counts r p _ => waitPass_eq counts r p)
      (fun _ _ => Bool.false_ne_true) p
  rw [foldl_emit] at h
  exact h

end Runs

/-! ## A subscription of three blocks

The first block holds a registration and a balances event, both counted, and
a successful extrinsic, printed but not counted; the second did not decode;
the third holds a phase change. -/

/-- Three blocks of events. -/
def threeBlocks : List EventResults :=
  [.ok [.encointerCeremonies (.participantRegistered "sqm1v79dF6b" "Bootstrapper" "Alice"),
      .encointerBalances "Transferred", .system (.extrinsicSuccess "DispatchInfo")],
    .error "couldn't decode event record list",
    .ok [.encointerScheduler (.phaseChangedTo .assigning)]]

/-- A client that has printed nothing. -/
def idleProcess : Process Unit := ⟨fun _ => none, [], []⟩

theorem listen_awaits_blocks_one :
    (1 : UInt32).toNat + 1 < 2 ^ 32 ∧ (1 : UInt32).toNat + 1 ≤ threeBlocks.length ∧
      listen none (some 1) threeBlocks idleProcess =
        .ok () (emit ((threeBlocks.take ((1 : UInt32).toNat + 1)).flatMap blockLines) idleProcess) :=
  ⟨by decide, by decide, listen_awaits_blocks (by decide) (by decide) idleProcess⟩

theorem listen_awaits_events_one :
    1 ≤ threeBlocks.length ∧ (1 : UInt32).toNat ≤ encointerCount (threeBlocks.take 1) ∧
      (∀ j < 1, encointerCount (threeBlocks.take j) < (1 : UInt32).toNat) ∧
      encointerCount (threeBlocks.take 1) < 2 ^ 32 ∧
      listen (some 1) none threeBlocks idleProcess =
        .ok () (emit ((threeBlocks.take 1).flatMap blockLines) idleProcess) :=
  ⟨by decide, by decide, by decide, by decide,
    listen_awaits_events (by decide) (by decide) (by decide) (by decide) idleProcess⟩

end Core
