-- SUMMARY: Commands over a state that return or stop early keeping their effects, and their weakest-precondition rules.
import Mathlib.Logic.Function.Basic

/-! # Commands that may stop early

A command-line program either runs to its end or stops early: a failed `expect`
or `unwrap` panics, and `std::process::exit` ends the process with a code. In
both cases whatever it has already done to its state, files written above all,
stays done. A command is therefore a function from a state to an outcome that
carries the final state on either path.

The weakest precondition `wp c Q E s` says that, run from `s`, the command
returns some `a` in a state satisfying `Q a`, or stops with some `e` in a state
satisfying `E e`. Its rules let a proof run a command symbolically, step by
step, without unfolding the monad. -/

/-- Why a process stopped before returning. -/
inductive Stop where
  /-- A failed `expect` or `unwrap`, with its message: the process exits with
      code 101. -/
  | panic (msg : String)
  /-- `std::process::exit(code)`. -/
  | exit (code : Int)
  deriving DecidableEq, Repr

/-- How a command ended, with the state it left. -/
inductive Outcome (σ α : Type) where
  | ok (a : α) (s : σ)
  | stop (e : Stop) (s : σ)

/-- The state a command leaves, whether it returned or stopped. -/
def Outcome.state {σ α : Type} : Outcome σ α → σ
  | .ok _ s => s
  | .stop _ s => s

@[simp] theorem Outcome.state_ok {σ α : Type} (a : α) (s : σ) : (Outcome.ok a s).state = s := rfl

@[simp] theorem Outcome.state_stop {σ α : Type} (e : Stop) (s : σ) :
    (Outcome.stop e s : Outcome σ α).state = s := rfl

/-- A command over a state `σ` returning an `α`. -/
def Command (σ α : Type) : Type := σ → Outcome σ α

namespace Command

variable {σ α β : Type}

protected def pure (a : α) : Command σ α := fun s => .ok a s

protected def bind (x : Command σ α) (f : α → Command σ β) : Command σ β := fun s =>
  match x s with
  | .ok a s' => f a s'
  | .stop e s' => .stop e s'

instance : Monad (Command σ) where
  pure := Command.pure
  bind := Command.bind

-- Lawful, so that the library's rules for `List.mapM` and the like apply.
instance : LawfulMonad (Command σ) := LawfulMonad.mk' (Command σ)
  (fun x => funext fun s => by
    show Command.bind x (fun a => Command.pure (id a)) s = x s
    unfold Command.bind
    cases x s <;> rfl)
  (fun _ _ => rfl)
  (fun x f g => funext fun s => by
    show Command.bind (Command.bind x f) g s = Command.bind x (fun a => Command.bind (f a) g) s
    unfold Command.bind
    cases x s <;> rfl)

/-- Read the state. -/
def get : Command σ σ := fun s => .ok s s

/-- Change the state. -/
def modify (f : σ → σ) : Command σ Unit := fun s => .ok () (f s)

/-- Stop the process. -/
def stop (e : Stop) : Command σ α := fun s => .stop e s

/-- `Option::expect`: the value, or a panic with the message. -/
def expect (o : Option α) (msg : String) : Command σ α :=
  match o with
  | some a => pure a
  | none => stop (.panic msg)

/-- `Result::expect`: the value, or a panic with the message. -/
def expectOk {ε : Type} (r : Except ε α) (msg : String) : Command σ α :=
  match r with
  | .ok a => pure a
  | .error _ => stop (.panic msg)

/-- A failure that carries its own panic message, as `IndexMut` on a JSON value
    does. -/
def orPanic (r : Except String α) : Command σ α :=
  match r with
  | .ok a => pure a
  | .error msg => stop (.panic msg)

/-- `Option::unwrap`. -/
def unwrap (o : Option α) : Command σ α :=
  expect o "called \x60Option::unwrap()\x60 on a \x60None\x60 value"

/-- `Result::unwrap`. As with `expectOk`, the message leaves out the error's
    `Debug` text that Rust puts after it. -/
def unwrapOk {ε : Type} (r : Except ε α) : Command σ α :=
  expectOk r "called \x60Result::unwrap()\x60 on an \x60Err\x60 value"

/-- `v[i]` on a vector: the element, or the panic of an index out of bounds. -/
def index (l : List α) (i : Nat) : Command σ α :=
  match l[i]? with
  | some a => pure a
  | none => stop (.panic ("index out of bounds: the len is " ++ toString l.length ++
      " but the index is " ++ toString i))

/-- `&bytes[start..end]`: the bytes from `start` up to `end`, or the panic of
    slice indexing, which checks the order of the bounds first. -/
def slice (bytes : List UInt8) (start stop : Nat) : Command σ (List UInt8) :=
  if start > stop then
    Command.stop (.panic ("slice index starts at " ++ toString start ++ " but ends at " ++
      toString stop))
  else if stop > bytes.length then
    Command.stop (.panic ("range end index " ++ toString stop ++
      " out of range for slice of length " ++ toString bytes.length))
  else pure ((bytes.take stop).drop start)

/-! ## Sequencing

A command that returns hands its state on to the next; one that stops ends
the sequence where it stopped. -/

theorem bind_of_ok {x : Command σ α} {f : α → Command σ β} {s s' : σ} {a : α}
    (hx : x s = .ok a s') : (x >>= f) s = f a s' := by
  show Command.bind x f s = _
  simp only [Command.bind, hx]

theorem pure_bind (a : α) (f : α → Command σ β) : (pure a >>= f) = f a := rfl

theorem expect_some (a : α) (msg : String) : (expect (some a) msg : Command σ α) = pure a := rfl

theorem expectOk_ok {ε : Type} (a : α) (msg : String) :
    (expectOk (.ok a : Except ε α) msg : Command σ α) = pure a := rfl

theorem unwrapOk_ok {ε : Type} (a : α) : (unwrapOk (.ok a : Except ε α) : Command σ α) = pure a :=
  rfl

theorem orPanic_ok (a : α) : (orPanic (.ok a) : Command σ α) = pure a := rfl

theorem bind_of_stop {x : Command σ α} {f : α → Command σ β} {s s' : σ} {e : Stop}
    (hx : x s = .stop e s') : (x >>= f) s = .stop e s' := by
  show Command.bind x f s = _
  simp only [Command.bind, hx]

/-- A sequence that returned ran its first command to a return. -/
theorem bind_eq_ok {x : Command σ α} {f : α → Command σ β} {s s'' : σ} {b : β}
    (h : (x >>= f) s = .ok b s'') : ∃ a s', x s = .ok a s' ∧ f a s' = .ok b s'' := by
  cases hx : x s with
  | ok a s' => exact ⟨a, s', rfl, by rwa [bind_of_ok hx] at h⟩
  | stop e s' => rw [bind_of_stop hx] at h; cases h

/-- Two first commands with the same run at a state make sequences with the
    same run there. -/
theorem bind_congr_left {x y : Command σ α} {s : σ} (h : x s = y s) (f : α → Command σ β) :
    (x >>= f) s = (y >>= f) s := by
  show Command.bind x f s = Command.bind y f s
  simp only [Command.bind, h]

theorem expect_eq_ok {o : Option α} {msg : String} {s s' : σ} {a : α}
    (h : (expect o msg : Command σ α) s = .ok a s') : o = some a ∧ s' = s := by
  cases o with
  | some b => cases h; exact ⟨rfl, rfl⟩
  | none => cases h

theorem expectOk_eq_ok {ε : Type} {r : Except ε α} {msg : String} {s s' : σ} {a : α}
    (h : (expectOk r msg : Command σ α) s = .ok a s') : r = .ok a ∧ s' = s := by
  cases r with
  | ok b => cases h; exact ⟨rfl, rfl⟩
  | error e => cases h

theorem orPanic_eq_ok {r : Except String α} {s s' : σ} {a : α}
    (h : (orPanic r : Command σ α) s = .ok a s') : r = .ok a ∧ s' = s := by
  cases r with
  | ok b => cases h; exact ⟨rfl, rfl⟩
  | error e => cases h

/-! ## Loops

A `for` loop that threads a value through its passes is `List.foldlM`. When
each pass returns a value given by the one it was handed, and changes the
state in a way that depends only on its element, the loop returns the fold of
the passes (`foldlM_eq_ok`). When each pass returns so or panics, and one of
them panics, the loop panics (`foldlM_panics`). -/

theorem foldlM_eq_ok {l : List α} {f : β → α → Command σ β} {g : β → α → β} {upd : α → σ → σ}
    (hf : ∀ b, ∀ a ∈ l, ∀ s, f b a s = .ok (g b a) (upd a s)) (b : β) (s : σ) :
    l.foldlM f b s = .ok (l.foldl g b) (l.foldl (fun s a => upd a s) s) := by
  induction l generalizing b s with
  | nil => rfl
  | cons a l ih =>
    show (f b a >>= fun b' => l.foldlM f b') s = _
    rw [bind_of_ok (hf b a List.mem_cons_self s)]
    exact ih (fun b a ha s => hf b a (List.mem_cons_of_mem _ ha) s) _ _

theorem foldlM_panics {l : List α} {f : β → α → Command σ β} {g : β → α → β} {upd : α → σ → σ}
    {cond : α → Prop} (hok : ∀ b a s, cond a → f b a s = .ok (g b a) (upd a s))
    (hpanic : ∀ b a s, ¬cond a → ∃ msg s', f b a s = .stop (.panic msg) s')
    (hl : ∃ a ∈ l, ¬cond a) (b : β) (s : σ) :
    ∃ msg s', l.foldlM f b s = .stop (.panic msg) s' := by
  induction l generalizing b s with
  | nil =>
    obtain ⟨a, ha, -⟩ := hl
    cases ha
  | cons a l ih =>
    show ∃ msg s', (f b a >>= fun b' => l.foldlM f b') s = .stop (.panic msg) s'
    by_cases ha : cond a
    · -- The first pass returns, so the pass that panics is a later one.
      have htail : ∃ a' ∈ l, ¬cond a' := by
        obtain ⟨a', ha', hnot⟩ := hl
        rcases List.mem_cons.1 ha' with rfl | h
        · exact absurd ha hnot
        · exact ⟨a', h, hnot⟩
      rw [bind_of_ok (hok b a s ha)]
      exact ih htail _ _
    · obtain ⟨msg, s', hstop⟩ := hpanic b a s ha
      exact ⟨msg, s', bind_of_stop hstop⟩

/-- A loop that collects what each pass returns, where each pass returns a
    value given by its element and leaves the state, returns those values. -/
theorem mapM_eq_ok {l : List α} {f : α → Command σ β} {g : α → β}
    (hf : ∀ a ∈ l, ∀ s, f a s = .ok (g a) s) (s : σ) : l.mapM f s = .ok (l.map g) s := by
  induction l with
  | nil => rfl
  | cons a l ih =>
    rw [List.mapM_cons, bind_of_ok (hf a List.mem_cons_self s),
      bind_of_ok (ih fun a ha => hf a (List.mem_cons_of_mem _ ha))]
    rfl

/-! A `loop` over a subscription checks, before each pass, whether it is done
with the value it threads; if not, it takes the next item, and panics as
`unwrap` does when the subscription has ended. With passes given by `g` and
`upd` as above, the loop returns after the first `i` items where `i` is the
least count of items after which it is done (`pollUntil_eq_ok`), and panics
after all of them when it is never done (`pollUntil_panics`). -/

/-- A `loop` that returns once `done` holds, over the items of a subscription. -/
def pollUntil (done : β → Bool) (pass : β → α → Command σ β) : List α → β → Command σ Unit
  | [], b => if done b then pure () else unwrap none
  | a :: items, b =>
    if done b then pure ()
    else do
      let b' ← pass b a
      pollUntil done pass items b'

section Poll

variable {done : β → Bool} {pass : β → α → Command σ β} {g : β → α → β} {upd : α → σ → σ}

theorem pollUntil_of_done {items : List α} {b : β} (h : done b) (s : σ) :
    pollUntil done pass items b s = .ok () s := by
  cases items <;> (rw [pollUntil, if_pos h]; rfl)

theorem pollUntil_cons {a : α} {items : List α} {b b' : β} {s s' : σ} (h : ¬done b)
    (hpass : pass b a s = .ok b' s') :
    pollUntil done pass (a :: items) b s = pollUntil done pass items b' s' := by
  rw [pollUntil, if_neg h]
  exact bind_of_ok hpass

theorem pollUntil_eq_ok (hpass : ∀ b a s, ¬done b → pass b a s = .ok (g b a) (upd a s)) :
    ∀ {items : List α} {b : β} {i : Nat}, i ≤ items.length → done ((items.take i).foldl g b) →
      (∀ j < i, ¬done ((items.take j).foldl g b)) → ∀ s : σ,
        pollUntil done pass items b s = .ok () ((items.take i).foldl (fun s a => upd a s) s)
  | [], b, i, hi, hdone, _, s => by
    rw [Nat.le_zero.1 hi, List.take_zero, List.foldl_nil] at hdone ⊢
    exact pollUntil_of_done hdone s
  | a :: items, b, 0, _, hdone, _, s => by
    rw [List.take_zero, List.foldl_nil] at hdone ⊢
    exact pollUntil_of_done hdone s
  | a :: items, b, i + 1, hi, hdone, hbefore, s => by
    -- Not yet done before the first item: the first pass runs, and the rest of
    -- the loop starts from what it returned.
    have hnot : ¬done b := hbefore 0 (Nat.succ_pos i)
    rw [List.take_succ_cons, List.foldl_cons] at hdone ⊢
    rw [pollUntil_cons hnot (hpass b a s hnot)]
    refine pollUntil_eq_ok hpass (Nat.le_of_succ_le_succ hi) hdone (fun j hj => ?_) (upd a s)
    have h := hbefore (j + 1) (Nat.succ_lt_succ hj)
    rwa [List.take_succ_cons, List.foldl_cons] at h

theorem pollUntil_panics (hpass : ∀ b a s, ¬done b → pass b a s = .ok (g b a) (upd a s)) :
    ∀ {items : List α} {b : β}, (∀ j ≤ items.length, ¬done ((items.take j).foldl g b)) → ∀ s : σ,
      pollUntil done pass items b s =
        .stop (.panic "called \x60Option::unwrap()\x60 on a \x60None\x60 value")
          (items.foldl (fun s a => upd a s) s)
  | [], b, hnever, s => by
    have hnot : ¬done b := hnever 0 (Nat.le_refl 0)
    rw [pollUntil, if_neg hnot]
    rfl
  | a :: items, b, hnever, s => by
    have hnot : ¬done b := hnever 0 (Nat.zero_le _)
    rw [pollUntil_cons hnot (hpass b a s hnot), List.foldl_cons]
    refine pollUntil_panics hpass (fun j hj => ?_) (upd a s)
    have h := hnever (j + 1) (Nat.succ_le_succ hj)
    rwa [List.take_succ_cons, List.foldl_cons] at h

end Poll

/-! ## Checks

A check returns or panics and changes nothing: a lookup that may fail, an
`unwrap`, an assertion. A command that begins with checks runs what follows
them on the state it started from, or panics there. -/

/-- `c` returns or panics, and leaves the state as it was. -/
def Check (c : Command σ α) : Prop :=
  ∀ s, (∃ a, c s = .ok a s) ∨ ∃ msg, c s = .stop (.panic msg) s

theorem Check.pure (a : α) : Check (pure a : Command σ α) := fun _ => .inl ⟨a, rfl⟩

theorem Check.panic (msg : String) : Check (stop (.panic msg) : Command σ α) :=
  fun _ => .inr ⟨msg, rfl⟩

theorem Check.expect (o : Option α) (msg : String) : Check (expect o msg : Command σ α) := by
  cases o with
  | some a => exact Check.pure a
  | none => exact Check.panic msg

theorem Check.orPanic (r : Except String α) : Check (orPanic r : Command σ α) := by
  cases r with
  | ok a => exact Check.pure a
  | error msg => exact Check.panic msg

theorem Check.ite {p : Prop} [Decidable p] {x y : Command σ α} (hx : Check x) (hy : Check y) :
    Check (if p then x else y) := by
  by_cases hp : p
  · rw [if_pos hp]
    exact hx
  · rw [if_neg hp]
    exact hy

theorem Check.bind {x : Command σ α} {f : α → Command σ β} (hx : Check x)
    (hf : ∀ a, Check (f a)) : Check (x >>= f) := by
  intro s
  rcases hx s with ⟨a, ha⟩ | ⟨msg, hmsg⟩
  · rw [bind_of_ok ha]
    exact hf a s
  · exact .inr ⟨msg, bind_of_stop hmsg⟩

theorem Check.expectOk {ε : Type} (r : Except ε α) (msg : String) :
    Check (expectOk r msg : Command σ α) := by
  cases r with
  | ok a => exact Check.pure a
  | error e => exact Check.panic msg

theorem Check.unwrap (o : Option α) : Check (unwrap o : Command σ α) := Check.expect o _

theorem Check.unwrapOk {ε : Type} (r : Except ε α) : Check (unwrapOk r : Command σ α) :=
  Check.expectOk r _

theorem Check.index (l : List α) (i : Nat) : Check (index l i : Command σ α) := by
  unfold Command.index
  split
  · exact Check.pure _
  · exact Check.panic _

/-- A check that returned left the state. -/
theorem Check.eq_ok {c : Command σ α} (hc : Check c) {s s' : σ} {a : α} (h : c s = .ok a s') :
    c s = .ok a s ∧ s' = s := by
  rcases hc s with ⟨b, hb⟩ | ⟨msg, hmsg⟩
  · rw [hb] at h
    cases h
    exact ⟨hb, rfl⟩
  · rw [hmsg] at h
    cases h

/-- After a check, sequences whose continuations agree at the state it started
    from agree. -/
theorem Check.bind_congr {x : Command σ α} {f g : α → Command σ β} {s : σ} (hx : Check x)
    (h : ∀ a, f a s = g a s) : (x >>= f) s = (x >>= g) s := by
  rcases hx s with ⟨a, ha⟩ | ⟨msg, hmsg⟩
  · rw [bind_of_ok ha, bind_of_ok ha]
    exact h a
  · rw [bind_of_stop hmsg, bind_of_stop hmsg]

/-- A check leaves the state it ran from. -/
theorem Check.state {c : Command σ α} (hc : Check c) (s : σ) : (c s).state = s := by
  rcases hc s with ⟨a, ha⟩ | ⟨msg, hmsg⟩
  · rw [ha, Outcome.state_ok]
  · rw [hmsg, Outcome.state_stop]

/-- Checks followed by a command that leaves every state it runs from leave the
    state as well. -/
theorem Check.bind_state {x : Command σ α} {f : α → Command σ β} {s : σ} (hx : Check x)
    (hf : ∀ a, (f a s).state = s) : ((x >>= f) s).state = s := by
  rcases hx s with ⟨a, ha⟩ | ⟨msg, hmsg⟩
  · rw [bind_of_ok ha]
    exact hf a
  · rw [bind_of_stop hmsg, Outcome.state_stop]

/-- Checks followed by a command that panics on every result panic, where they
    started. -/
theorem Check.bind_panics {x : Command σ α} {f : α → Command σ β} {s : σ} (hx : Check x)
    (hf : ∀ a, ∃ msg, f a s = .stop (.panic msg) s) :
    ∃ msg, (x >>= f) s = .stop (.panic msg) s := by
  rcases hx s with ⟨a, ha⟩ | ⟨msg, hmsg⟩
  · rw [bind_of_ok ha]
    exact hf a
  · exact ⟨msg, bind_of_stop hmsg⟩

theorem Check.mapM {f : α → Command σ β} (hf : ∀ a, Check (f a)) :
    ∀ l : List α, Check (l.mapM f)
  | [] => Check.pure []
  | a :: l => by
    rw [List.mapM_cons]
    exact Check.bind (hf a) fun _ => Check.bind (Check.mapM hf l) fun _ => Check.pure _

/-! ## Guards and failure atomicity

A guard is a check that may also exit: it returns or stops, and changes
nothing either way. A command is failure-atomic when it changes nothing if it
stops: its guards come first and its one effect last, so that a run that
stops has done nothing at all. -/

/-- `c` returns or stops, and leaves the state as it was. -/
def Guard (c : Command σ α) : Prop :=
  ∀ s, (∃ a, c s = .ok a s) ∨ ∃ e, c s = .stop e s

/-- When `c` stops, it stops where it started. -/
def FailureAtomic (c : Command σ α) : Prop :=
  ∀ s e s', c s = .stop e s' → s' = s

theorem Check.guard {c : Command σ α} (hc : Check c) : Guard c := fun s =>
  (hc s).imp id fun ⟨msg, hmsg⟩ => ⟨.panic msg, hmsg⟩

theorem Guard.pure (a : α) : Guard (pure a : Command σ α) := (Check.pure a).guard

theorem Guard.stop (e : Stop) : Guard (stop e : Command σ α) := fun _ => .inr ⟨e, rfl⟩

theorem Guard.ite {p : Prop} [Decidable p] {x y : Command σ α} (hx : Guard x) (hy : Guard y) :
    Guard (if p then x else y) := by
  by_cases hp : p
  · rw [if_pos hp]
    exact hx
  · rw [if_neg hp]
    exact hy

theorem Guard.bind {x : Command σ α} {f : α → Command σ β} (hx : Guard x)
    (hf : ∀ a, Guard (f a)) : Guard (x >>= f) := by
  intro s
  rcases hx s with ⟨a, ha⟩ | ⟨e, he⟩
  · rw [bind_of_ok ha]
    exact hf a s
  · exact .inr ⟨e, bind_of_stop he⟩

theorem Guard.failureAtomic {c : Command σ α} (hc : Guard c) : FailureAtomic c := by
  intro s e s' h
  rcases hc s with ⟨a, ha⟩ | ⟨e', he⟩
  · rw [ha] at h
    cases h
  · rw [he] at h
    cases h
    rfl

theorem FailureAtomic.modify (f : σ → σ) : FailureAtomic (modify f) := by
  intro s e s' h
  cases h

/-- Guards followed by a failure-atomic command make a failure-atomic one. -/
theorem FailureAtomic.bind {x : Command σ α} {f : α → Command σ β} (hx : Guard x)
    (hf : ∀ a, FailureAtomic (f a)) : FailureAtomic (x >>= f) := by
  intro s e s' h
  rcases hx s with ⟨a, ha⟩ | ⟨e', he⟩
  · rw [bind_of_ok ha] at h
    exact hf a s e s' h
  · rw [bind_of_stop he] at h
    cases h
    rfl

/-- A failure-atomic command followed by one that always returns is
    failure-atomic. -/
theorem FailureAtomic.bind_returns {x : Command σ α} {f : α → Command σ β} (hx : FailureAtomic x)
    (hf : ∀ a s, ∃ b s', f a s = .ok b s') : FailureAtomic (x >>= f) := by
  intro s e s' h
  cases hxs : x s with
  | ok a t =>
    obtain ⟨b, t', hft⟩ := hf a t
    rw [bind_of_ok hxs, hft] at h
    cases h
  | stop e' t =>
    rw [bind_of_stop hxs] at h
    cases h
    exact hx s _ _ hxs

/-! ## Weakest precondition -/

/-- `wp c Q E s`: run from `s`, `c` returns `a` in a state satisfying `Q a`, or
    stops with `e` in a state satisfying `E e`. -/
def wp (c : Command σ α) (Q : α → σ → Prop) (E : Stop → σ → Prop) (s : σ) : Prop :=
  match c s with
  | .ok a s' => Q a s'
  | .stop e s' => E e s'

variable {Q : α → σ → Prop} {E : Stop → σ → Prop} {s : σ}

@[simp] theorem wp.pure (a : α) : wp (pure a : Command σ α) Q E s ↔ Q a s := Iff.rfl

@[simp] theorem wp.bind (x : Command σ α) (f : α → Command σ β) {Q : β → σ → Prop} :
    wp (x >>= f) Q E s ↔ wp x (fun a s' => wp (f a) Q E s') E s := by
  show wp (Command.bind x f) Q E s ↔ _
  unfold wp Command.bind
  cases x s <;> rfl

@[simp] theorem wp.map (f : α → β) (x : Command σ α) {Q : β → σ → Prop} :
    wp (f <$> x) Q E s ↔ wp x (fun a s' => Q (f a) s') E s := by
  rw [← bind_pure_comp, wp.bind]
  rfl

@[simp] theorem wp.get {Q : σ → σ → Prop} : wp (get : Command σ σ) Q E s ↔ Q s s := Iff.rfl

@[simp] theorem wp.modify (f : σ → σ) {Q : Unit → σ → Prop} :
    wp (modify f) Q E s ↔ Q () (f s) := Iff.rfl

@[simp] theorem wp.stop (e : Stop) : wp (stop e : Command σ α) Q E s ↔ E e s := Iff.rfl

@[simp] theorem wp.expect (o : Option α) (msg : String) :
    wp (expect o msg : Command σ α) Q E s ↔
      (∀ a, o = some a → Q a s) ∧ (o = none → E (.panic msg) s) := by
  cases o <;> simp [Command.expect]

@[simp] theorem wp.expectOk {ε : Type} (r : Except ε α) (msg : String) :
    wp (expectOk r msg : Command σ α) Q E s ↔
      (∀ a, r = .ok a → Q a s) ∧ (∀ err, r = .error err → E (.panic msg) s) := by
  cases r <;> simp [Command.expectOk]

@[simp] theorem wp.orPanic (r : Except String α) :
    wp (orPanic r : Command σ α) Q E s ↔
      (∀ a, r = .ok a → Q a s) ∧ (∀ msg, r = .error msg → E (.panic msg) s) := by
  cases r <;> simp [Command.orPanic]

/-- Slicing within bounds returns the bytes from `start` up to `stop`. -/
theorem wp.slice {bytes : List UInt8} {start stop : Nat} {Q : List UInt8 → σ → Prop}
    (hle : start ≤ stop) (hlen : stop ≤ bytes.length) :
    wp (slice bytes start stop) Q E s ↔ Q ((bytes.take stop).drop start) s := by
  simp [Command.slice, Nat.not_lt.2 hle, Nat.not_lt.2 hlen]

/-- On the stop path a slice may panic; on the other it returns the bytes from
    `start` up to `stop`, and then the bounds held. -/
theorem wp.slice_intro {bytes : List UInt8} {start stop : Nat} {Q : List UInt8 → σ → Prop}
    (hQ : start ≤ stop → stop ≤ bytes.length → Q ((bytes.take stop).drop start) s)
    (hE : ∀ msg, E (.panic msg) s) : wp (Command.slice bytes start stop) Q E s := by
  unfold Command.slice
  by_cases hle : start ≤ stop
  · by_cases hlen : stop ≤ bytes.length
    · simpa [Nat.not_lt.2 hle, Nat.not_lt.2 hlen] using hQ hle hlen
    · simpa [Nat.not_lt.2 hle, Nat.lt_of_not_le hlen] using hE _
  · simpa [Nat.lt_of_not_le hle] using hE _

theorem wp.ite {p : Prop} [Decidable p] (x y : Command σ α) :
    wp (if p then x else y) Q E s ↔ (p → wp x Q E s) ∧ (¬p → wp y Q E s) := by
  by_cases hp : p <;> simp [hp]

theorem wp.mono {c : Command σ α} {Q' : α → σ → Prop} {E' : Stop → σ → Prop}
    (hQ : ∀ a s', Q a s' → Q' a s') (hE : ∀ e s', E e s' → E' e s') :
    wp c Q E s → wp c Q' E' s := by
  unfold wp
  cases c s with
  | ok a s' => exact hQ a s'
  | stop e s' => exact hE e s'

/-- What the weakest precondition promises of a run that returned. -/
theorem wp.ok_elim {c : Command σ α} {a : α} {s' : σ} (h : wp c Q E s) (hc : c s = .ok a s') :
    Q a s' := by
  unfold wp at h
  rw [hc] at h
  exact h

/-- A command whose run is known is read off that run. -/
theorem wp.of_eq_ok {c : Command σ α} {a : α} {s' : σ} (hc : c s = .ok a s') :
    wp c Q E s ↔ Q a s' := by
  unfold wp
  rw [hc]

/-- A postcondition that holds on both paths speaks of the final state. -/
theorem wp_iff_state {c : Command σ α} {P : σ → Prop} :
    wp c (fun _ => P) (fun _ => P) s ↔ P (c s).state := by
  unfold wp
  cases c s <;> rfl

/-- A command returns `a` in state `s'` when its weakest precondition for that
    exact ending holds. -/
theorem eq_ok_of_wp {c : Command σ α} {a : α} {s' : σ}
    (h : wp c (fun b t => b = a ∧ t = s') (fun _ _ => False) s) : c s = .ok a s' := by
  unfold wp at h
  cases hc : c s with
  | ok b t => rw [hc] at h; obtain ⟨rfl, rfl⟩ := h; rfl
  | stop e t => rw [hc] at h; exact h.elim

/-- A command stops with `e` in state `s'` when its weakest precondition for
    that exact ending holds. -/
theorem eq_stop_of_wp {c : Command σ α} {e : Stop} {s' : σ}
    (h : wp c (fun _ _ => False) (fun e' t => e' = e ∧ t = s') s) : c s = .stop e s' := by
  unfold wp at h
  cases hc : c s with
  | ok b t => rw [hc] at h; exact h.elim
  | stop e' t => rw [hc] at h; obtain ⟨rfl, rfl⟩ := h; rfl

/-- A command returns when its weakest precondition rules out every stop. -/
theorem exists_ok_of_wp {c : Command σ α} (h : wp c (fun _ _ => True) (fun _ _ => False) s) :
    ∃ a s', c s = .ok a s' := by
  unfold wp at h
  cases hc : c s with
  | ok a s' => exact ⟨a, s', rfl⟩
  | stop e t => rw [hc] at h; exact h.elim

end Command
