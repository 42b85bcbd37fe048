-- SUMMARY: Rust functions that return a `Result` and may also panic, as `ExceptT ε Option`: inversion rules for bind and `mapM`, when a loop of such calls returns, and when it panics.
import Mathlib.Data.List.Forall2
import EncointerNode.Stdlib.Command

/-! # Results that may panic

A Rust function that returns `Result<T, E>` can also panic. The model takes
`ExceptT ε Option`: `some (.ok a)` returns `Ok(a)`, `some (.error e)` returns
`Err(e)`, which `?` passes on, and `none` is a panic, which ends every caller
as well. A plain `Result` enters by `monadLift`, and `Option::unwrap` is
`unwrap`.

A loop that calls such a function on each element and collects the results is
`List.mapM`. It returns exactly when every call returns (`mapM_eq_ok`), and it
panics when one call panics and none returns an error (`mapM_eq_none`). -/

namespace Panicking

variable {ε α β : Type}

/-- `Option::unwrap`: `None` panics. -/
def unwrap (o : Option α) : ExceptT ε Option α := ExceptT.lift o

@[simp] theorem run_unwrap (o : Option α) : (unwrap o : ExceptT ε Option α).run = o.map .ok := by
  cases o <;> rfl

@[simp] theorem run_monadLift (e : Except ε α) :
    (monadLift e : ExceptT ε Option α).run = some e := rfl

theorem bind_eq_ok {x : ExceptT ε Option α} {f : α → ExceptT ε Option β} {b : β} :
    (x >>= f).run = some (.ok b) ↔ ∃ a, x.run = some (.ok a) ∧ (f a).run = some (.ok b) := by
  rw [ExceptT.run_bind]
  rcases x.run with _ | _ | a <;> simp

theorem bind_eq_none {x : ExceptT ε Option α} {f : α → ExceptT ε Option β} :
    (x >>= f).run = none ↔ x.run = none ∨ ∃ a, x.run = some (.ok a) ∧ (f a).run = none := by
  rw [ExceptT.run_bind]
  rcases x.run with _ | _ | a <;> simp

/-- A relation that fixes one projection of the right element, and asks a
    property of it, is a map and a bound quantifier. -/
theorem forall₂_iff_map_eq {γ : Type} {f : β → γ} {Q : β → Prop} :
    ∀ {l₁ : List γ} {l₂ : List β},
      List.Forall₂ (fun c b => f b = c ∧ Q b) l₁ l₂ ↔ l₂.map f = l₁ ∧ ∀ b ∈ l₂, Q b := by
  intro l₁ l₂
  induction l₂ generalizing l₁ with
  | nil => cases l₁ <;> simp
  | cons b l₂ ih =>
    cases l₁ with
    | nil => simp
    | cons c l₁ =>
      simp only [List.forall₂_cons, ih, List.map_cons, List.cons.injEq, List.mem_cons,
        forall_eq_or_imp]
      tauto

section MapM

variable {f : α → ExceptT ε Option β}

/-- A loop returns exactly the results of its calls, when each returns. -/
theorem mapM_eq_ok {l : List α} {bs : List β} :
    (l.mapM f).run = some (.ok bs) ↔ List.Forall₂ (fun a b => (f a).run = some (.ok b)) l bs := by
  induction l generalizing bs with
  | nil => cases bs <;> simp
  | cons a l ih =>
    simp only [List.mapM_cons, bind_eq_ok, ExceptT.run_pure, ih]
    cases bs with
    | nil => simp
    | cons b bs => simp [List.forall₂_cons]

/-- A loop whose calls all return, returns. -/
theorem mapM_exists_ok {l : List α} (h : ∀ a ∈ l, ∃ b, (f a).run = some (.ok b)) :
    ∃ bs, (l.mapM f).run = some (.ok bs) := by
  induction l with
  | nil => exact ⟨[], rfl⟩
  | cons a l ih =>
    obtain ⟨b, hb⟩ := h a List.mem_cons_self
    obtain ⟨bs, hbs⟩ := ih fun a' ha' => h a' (List.mem_cons_of_mem a ha')
    refine ⟨b :: bs, mapM_eq_ok.2 (.cons hb (mapM_eq_ok.1 hbs))⟩

/-- A loop in which no call returns an error, and one call panics, panics. -/
theorem mapM_eq_none {l : List α} (hnoError : ∀ a ∈ l, ∀ e, (f a).run ≠ some (.error e))
    (hpanic : ∃ a ∈ l, (f a).run = none) : (l.mapM f).run = none := by
  induction l with
  | nil =>
    obtain ⟨a, ha, -⟩ := hpanic
    cases ha
  | cons a l ih =>
    rw [List.mapM_cons, bind_eq_none]
    rcases hfa : (f a).run with _ | e | b
    · exact .inl rfl
    · exact absurd hfa (hnoError a List.mem_cons_self e)
    · -- The head returns, so the panic is in the tail.
      obtain ⟨a', ha', hnone⟩ := hpanic
      have htail : a' ∈ l := by
        rcases List.mem_cons.1 ha' with rfl | h
        · rw [hfa] at hnone
          cases hnone
        · exact h
      refine .inr ⟨b, rfl, ?_⟩
      rw [bind_eq_none]
      exact .inl (ih (fun a'' h e => hnoError a'' (List.mem_cons_of_mem a h) e) ⟨a', htail, hnone⟩)

end MapM

/-! ## Run by a process -/

/-- The call run by a process, whose `Result` it then handles. The one way
    such a call panics is `unwrap`, and the process stops with its message. -/
def toCommand {σ : Type} (x : ExceptT ε Option α) : Command σ (Except ε α) :=
  match x.run with
  | some r => pure r
  | none => Command.stop (.panic "called \x60Option::unwrap()\x60 on a \x60None\x60 value")

theorem toCommand_of_run {σ : Type} {x : ExceptT ε Option α} {r : Except ε α} (h : x.run = some r)
    (s : σ) : toCommand x s = .ok r s := by
  rw [toCommand, h]
  rfl

theorem toCommand_of_none {σ : Type} {x : ExceptT ε Option α} (h : x.run = none) (s : σ) :
    ∃ msg, toCommand x s = .stop (.panic msg) s := by
  rw [toCommand, h]
  exact ⟨_, rfl⟩

end Panicking
