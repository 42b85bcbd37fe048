-- SUMMARY: A command-line process that reads files, prints lines and sends messages, and the shell's redirection of its standard output into a file.
import EncointerNode.Stdlib.Fs

/-! # Processes

A command-line client reads files, prints to standard output and sends
messages, extrinsics here, to a node. `Process Msg` holds the three, and the
commands over it are `Command (Process Msg)`: what a process printed or sent
before it panicked stays printed and sent.

A shell script chains such processes. `cmd > path` (`redirect`) first
truncates the file, runs the command with standard output going to the file,
and leaves there the text of what it printed, each line ended by the newline
of `println!`; this holds on either path, so that a process that stops leaves
what it printed before. Standard error, where the client's logs go, is not
modelled. -/

/-- The files, the lines printed to standard output, and the messages sent. -/
structure Process (Msg : Type) where
  fs : FileSystem
  stdout : List String
  sent : List Msg

namespace Process

open Command

variable {Msg α : Type}

/-- `println!`. -/
def println (line : String) : Command (Process Msg) Unit :=
  modify fun p => { p with stdout := p.stdout ++ [line] }

/-- Send a message to the node. -/
def send (m : Msg) : Command (Process Msg) Unit :=
  modify fun p => { p with sent := p.sent ++ [m] }

/-- `std::fs::read`. -/
def read (path : String) : Command (Process Msg) (Except IoError (List UInt8)) :=
  fun p => .ok (p.fs.readFile path) p

/-- `std::fs::read_to_string`. -/
def readToString (path : String) : Command (Process Msg) (Except IoError String) :=
  fun p => .ok (p.fs.readFileToString path) p

/-- The process after the lines were printed. -/
def emit (lines : List String) (p : Process Msg) : Process Msg :=
  { p with stdout := p.stdout ++ lines }

/-- The text of printed lines. -/
def text (lines : List String) : String := String.join (lines.map (· ++ "\n"))

/-- The process a redirected command starts from: the file truncated, and
    nothing printed yet. -/
def redirectStart (path : String) (p : Process Msg) : Process Msg :=
  { p with fs := p.fs.writeFile path [], stdout := [] }

/-- The process after a redirected command: the file holds what the command
    printed, and the standard output is the one from before. -/
def afterRedirect (path : String) (before after : Process Msg) : Process Msg :=
  { after with fs := after.fs.writeFile path (text after.stdout).asBytes, stdout := before.stdout }

/-- `cmd > path`. -/
def redirect (cmd : Command (Process Msg) α) (path : String) : Command (Process Msg) α := fun p =>
  match cmd (redirectStart path p) with
  | .ok a q => .ok a (afterRedirect path p q)
  | .stop e q => .stop e (afterRedirect path p q)

/-! ## Rules -/

theorem read_check (path : String) : Check (read path : Command (Process Msg) _) :=
  fun _ => .inl ⟨_, rfl⟩

theorem readToString_check (path : String) : Check (readToString path : Command (Process Msg) _) :=
  fun _ => .inl ⟨_, rfl⟩

@[simp] theorem println_eq (line : String) (p : Process Msg) :
    println line p = .ok () { p with stdout := p.stdout ++ [line] } := rfl

@[simp] theorem send_eq (m : Msg) (p : Process Msg) :
    send m p = .ok () { p with sent := p.sent ++ [m] } := rfl

@[simp] theorem read_eq (path : String) (p : Process Msg) : read path p = .ok (p.fs.readFile path) p :=
  rfl

@[simp] theorem readToString_eq (path : String) (p : Process Msg) :
    readToString path p = .ok (p.fs.readFileToString path) p := rfl

@[simp] theorem text_singleton (line : String) : text [line] = line ++ "\n" := by
  simp [text]

theorem redirect_of_ok {cmd : Command (Process Msg) α} {path : String} {p q : Process Msg} {a : α}
    (h : cmd (redirectStart path p) = .ok a q) :
    redirect cmd path p = .ok a (afterRedirect path p q) := by
  simp only [redirect, h]

theorem redirect_of_stop {cmd : Command (Process Msg) α} {path : String} {p q : Process Msg}
    {e : Stop} (h : cmd (redirectStart path p) = .stop e q) :
    redirect cmd path p = .stop e (afterRedirect path p q) := by
  simp only [redirect, h]

/-- After a redirection the file holds the text the command printed. -/
@[simp] theorem afterRedirect_fs_self (path : String) (before after : Process Msg) :
    (afterRedirect path before after).fs path = some (text after.stdout).asBytes := by
  simp [afterRedirect]

@[simp] theorem redirectStart_stdout (path : String) (p : Process Msg) :
    (redirectStart path p).stdout = [] := rfl

@[simp] theorem redirectStart_sent (path : String) (p : Process Msg) :
    (redirectStart path p).sent = p.sent := rfl

@[simp] theorem afterRedirect_sent (path : String) (before after : Process Msg) :
    (afterRedirect path before after).sent = after.sent := rfl

@[simp] theorem afterRedirect_stdout (path : String) (before after : Process Msg) :
    (afterRedirect path before after).stdout = before.stdout := rfl

@[simp] theorem emit_emit (l₁ l₂ : List String) (p : Process Msg) :
    emit l₂ (emit l₁ p) = emit (l₁ ++ l₂) p := by
  simp [emit]

@[simp] theorem emit_nil (p : Process Msg) : emit [] p = p := by
  simp [emit]

theorem println_eq_emit (line : String) (p : Process Msg) : println line p = .ok () (emit [line] p) :=
  rfl

/-- Passes that each print lines print them all, one pass after another. -/
theorem foldl_emit {β : Type} (lines : β → List String) (l : List β) (p : Process Msg) :
    l.foldl (fun p b => emit (lines b) p) p = emit (l.flatMap lines) p := by
  induction l generalizing p with
  | nil => simp
  | cons b l ih => simp [ih]

/-- A loop that prints a line for each element prints the lines in order. -/
theorem forM_println {β : Type} (line : β → String) (l : List β) (p : Process Msg) :
    l.forM (fun b => println (line b)) p = .ok () (emit (l.map line) p) := by
  induction l generalizing p with
  | nil =>
    rw [List.map_nil, emit_nil]
    rfl
  | cons b l ih =>
    show (println (line b) >>= fun _ => l.forM fun b => println (line b)) p = _
    rw [bind_of_ok (println_eq_emit _ p), ih, emit_emit]
    rfl

/-! ## Commands that only print -/

/-- The command leaves the files and the messages sent as they were, whether it
    returns or stops. -/
def OnlyPrints (c : Command (Process Msg) α) : Prop :=
  ∀ p, (c p).state.fs = p.fs ∧ (c p).state.sent = p.sent

theorem OnlyPrints.println (line : String) : OnlyPrints (println line : Command (Process Msg) Unit) :=
  fun _ => ⟨rfl, rfl⟩

theorem OnlyPrints.ofCheck {c : Command (Process Msg) α} (hc : Check c) : OnlyPrints c := by
  intro p
  rw [hc.state p]
  exact ⟨rfl, rfl⟩

theorem OnlyPrints.bind {β : Type} {x : Command (Process Msg) α} {f : α → Command (Process Msg) β}
    (hx : OnlyPrints x) (hf : ∀ a, OnlyPrints (f a)) : OnlyPrints (x >>= f) := by
  intro p
  cases h : x p with
  | ok a p' =>
    rw [bind_of_ok h]
    have hp' := hx p
    rw [h] at hp'
    exact ⟨(hf a p').1.trans hp'.1, (hf a p').2.trans hp'.2⟩
  | stop e p' =>
    rw [bind_of_stop h]
    have hp' := hx p
    rw [h] at hp'
    exact hp'

theorem OnlyPrints.ite {c : Prop} [Decidable c] {x y : Command (Process Msg) α} (hx : OnlyPrints x)
    (hy : OnlyPrints y) : OnlyPrints (if c then x else y) := by
  by_cases hc : c
  · rw [if_pos hc]
    exact hx
  · rw [if_neg hc]
    exact hy

/-- A loop whose body only prints only prints. -/
theorem OnlyPrints.forM {β : Type} {f : β → Command (Process Msg) Unit} (hf : ∀ b, OnlyPrints (f b)) :
    ∀ l : List β, OnlyPrints (l.forM f)
  | [] => OnlyPrints.ofCheck (Check.pure ())
  | b :: bs => OnlyPrints.bind (hf b) fun _ => OnlyPrints.forM hf bs

end Process
