-- SUMMARY: The file system as a map from paths to bytes, with `std::fs::read`, `read_to_string` and `write` as commands, and their frame lemmas.
import EncointerNode.Stdlib.Command

/-! # Files

The file system is a map from paths to the bytes of the file there. Reading a
path that holds no file fails with `NotFound`; `read_to_string` also fails on
bytes that are not UTF-8. Writing replaces the whole file, and in this model it
always succeeds: a failed write is not among the behaviours modelled. -/

/-- Files by path. -/
abbrev FileSystem := String → Option (List UInt8)

/-- The kinds of `std::io::Error` the model produces. -/
inductive IoError where
  | notFound
  | invalidData
  deriving DecidableEq, Repr

/-- The UTF-8 bytes of a string, as `str::as_bytes` gives them. -/
def String.asBytes (s : String) : List UInt8 := s.toUTF8.data.toList

namespace FileSystem

/-- The outcome of `std::fs::read`. -/
def readFile (fs : FileSystem) (path : String) : Except IoError (List UInt8) :=
  match fs path with
  | some bytes => .ok bytes
  | none => .error .notFound

/-- The outcome of `std::fs::read_to_string`: the file, decoded as UTF-8. -/
def readFileToString (fs : FileSystem) (path : String) : Except IoError String :=
  match fs path with
  | some bytes =>
    match String.fromUTF8? ⟨bytes.toArray⟩ with
    | some s => .ok s
    | none => .error .invalidData
  | none => .error .notFound

/-- `fs` with the file at `path` replaced by `contents`. -/
def writeFile (fs : FileSystem) (path : String) (contents : List UInt8) : FileSystem :=
  Function.update fs path (some contents)

@[simp] theorem writeFile_same (fs : FileSystem) (path : String) (contents : List UInt8) :
    fs.writeFile path contents path = some contents := by
  simp [writeFile]

@[simp] theorem writeFile_other {fs : FileSystem} {path other : String} (contents : List UInt8)
    (h : other ≠ path) : fs.writeFile path contents other = fs other := by
  simp [writeFile, h]

@[simp] theorem readFile_eq_ok {fs : FileSystem} {path : String} {bytes : List UInt8} :
    fs.readFile path = .ok bytes ↔ fs path = some bytes := by
  unfold readFile
  split <;> simp_all

/-- Reading a path sees only the file there. -/
theorem readFileToString_congr {fs fs' : FileSystem} {path : String} (h : fs' path = fs path) :
    fs'.readFileToString path = fs.readFileToString path := by
  simp [readFileToString, h]

theorem readFileToString_writeFile_other {fs : FileSystem} {path other : String}
    (contents : List UInt8) (h : other ≠ path) :
    (fs.writeFile path contents).readFileToString other = fs.readFileToString other :=
  readFileToString_congr (writeFile_other contents h)

theorem readFileToString_of_none {fs : FileSystem} {path : String} (h : fs path = none) :
    fs.readFileToString path = .error .notFound := by
  simp [readFileToString, h]

/-- A string written as its bytes reads back as that string. -/
theorem readFileToString_bytes {fs : FileSystem} {path : String} {s : String}
    (h : fs path = some s.asBytes) : fs.readFileToString path = .ok s := by
  simp [readFileToString, h, String.asBytes, String.fromUTF8?, String.fromUTF8, s.isValidUTF8]

end FileSystem

namespace Fs

open Command

/-- `std::fs::read`. -/
def read (path : String) : Command FileSystem (Except IoError (List UInt8)) := do
  let fs ← get
  pure (fs.readFile path)

/-- `std::fs::read_to_string`. -/
def readToString (path : String) : Command FileSystem (Except IoError String) := do
  let fs ← get
  pure (fs.readFileToString path)

/-- `std::fs::write`. -/
def write (path : String) (contents : List UInt8) : Command FileSystem (Except IoError Unit) := do
  modify (·.writeFile path contents)
  pure (.ok ())

variable {α : Type} {Q : α → FileSystem → Prop} {E : Stop → FileSystem → Prop} {fs : FileSystem}

@[simp] theorem wp_read (path : String) {Q : Except IoError (List UInt8) → FileSystem → Prop} :
    wp (read path) Q E fs ↔ Q (fs.readFile path) fs := by
  simp [read]

@[simp] theorem wp_readToString (path : String) {Q : Except IoError String → FileSystem → Prop} :
    wp (readToString path) Q E fs ↔ Q (fs.readFileToString path) fs := by
  simp [readToString]

@[simp] theorem wp_write (path : String) (contents : List UInt8)
    {Q : Except IoError Unit → FileSystem → Prop} :
    wp (write path contents) Q E fs ↔ Q (.ok ()) (fs.writeFile path contents) := by
  simp [write]

end Fs
