-- SUMMARY: Rust's byte slicing of strings, `trim_start_matches`, arrays filled by `copy_from_slice` and bounded vectors, with their panics and the lemmas the client's parsers rest on.
import EncointerNode.Stdlib.Fs
import Mathlib.Data.Vector.Defs

/-! # Slices of strings and bytes

A `&str` is a sequence of UTF-8 bytes. `&s[..n]` takes the first `n` of them
and panics when `n` is past the end or falls inside a character; the panic
shows the string, cut to 256 bytes. `trim_start_matches` removes every
leading repetition of a pattern. An array `[u8; n]` filled by
`copy_from_slice` must get exactly `n` bytes, and a `BoundedVec` takes a
vector only up to its bound.

A Lean `String` is valid UTF-8 as a `&str` is; its bytes are `String.asBytes`.
For a text of ASCII characters, each character is one byte
(`asBytes_of_ascii`), so that slicing it at a character count is slicing it at
the same byte count. -/

/-- The bytes of a string built from characters. -/
theorem String.asBytes_ofList (l : List Char) :
    (String.ofList l).asBytes = l.flatMap String.utf8EncodeChar := by
  simp only [String.asBytes, String.toUTF8_eq_toByteArray, String.toByteArray_ofList,
    List.utf8Encode, List.data_toByteArray, List.toList_toArray]

/-- ASCII characters are one byte each. -/
theorem List.flatMap_utf8EncodeChar_of_ascii {l : List Char} (h : ∀ c ∈ l, c.val ≤ 127) :
    l.flatMap String.utf8EncodeChar = l.map Char.toUInt8 := by
  induction l with
  | nil => rfl
  | cons c cs ih =>
    have hc : c.utf8Size = 1 := Char.utf8Size_eq_one_iff.2 (h c List.mem_cons_self)
    rw [List.flatMap_cons, String.utf8EncodeChar_eq_singleton hc, Char.toUInt8_val,
      ih fun d hd => h d (List.mem_cons_of_mem c hd), List.map_cons, List.singleton_append]

/-- A text of ASCII characters has one byte for each. -/
theorem String.asBytes_of_ascii {s : String} (h : ∀ c ∈ s.toList, c.val ≤ 127) :
    s.asBytes = s.toList.map Char.toUInt8 := by
  rw [← String.ofList_toList (s := s), String.asBytes_ofList, String.toList_ofList,
    List.flatMap_utf8EncodeChar_of_ascii h]

namespace Command

variable {σ : Type}

/-! ## `&s[..n]` -/

/-- `str::is_char_boundary`: the offset is the start, the end, or a byte that
    does not continue a character (continuation bytes are `0b10xxxxxx`). -/
def isCharBoundary (bytes : List UInt8) (index : Nat) : Bool :=
  index == 0 ||
    match bytes[index]? with
    | some b => b < 0x80 || 0xC0 ≤ b
    | none => index == bytes.length

/-- The characters from the front whose bytes fit in `budget`: the text up to
    the last character boundary at or before `budget`. -/
def takeBytes : List Char → Nat → List Char
  | [], _ => []
  | c :: cs, budget => if c.utf8Size ≤ budget then c :: takeBytes cs (budget - c.utf8Size) else []

/-- How a slicing panic shows a string: its first 256 bytes cut back to a
    character boundary, and `[...]` when that is not the whole string. -/
def displayParts (s : String) : String × String :=
  let shown := takeBytes s.toList 256
  if shown.length < s.toList.length then (String.ofList shown, "[...]") else (s, "")

/-- The character whose bytes hold the offset `index`, and the offset it starts
    at, when the characters start at `start`. -/
def charAt : List Char → Nat → Nat → Option (Char × Nat)
  | [], _, _ => none
  | c :: cs, start, index =>
    if index < start + c.utf8Size then some (c, start) else charAt cs (start + c.utf8Size) index

/-- The message of `&s[..index]` inside a character, which takes more than
    one byte. The character is shown between quotes as it is; Rust would
    escape one that is not printable. -/
def notCharBoundaryMessage (s : String) (index : Nat) : String :=
  let (shown, ellipsis) := displayParts s
  match charAt s.toList 0 index with
  | some (c, start) =>
    "byte index " ++ toString index ++ " is not a char boundary; it is inside " ++
      "\x27" ++ String.singleton c ++ "\x27" ++ " (bytes " ++ toString start ++ ".." ++
      toString (start + c.utf8Size) ++ ") of " ++ "\x60" ++ shown ++ "\x60" ++ ellipsis
  | none => "byte index " ++ toString index ++ " is not a char boundary"

/-- `&s[..stop]`, as the bytes it holds, or the panic of `str` indexing. -/
def strSliceTo (s : String) (stop : Nat) : Command σ (List UInt8) :=
  if isCharBoundary s.asBytes stop then pure (s.asBytes.take stop)
  else if stop > s.asBytes.length then
    Command.stop (.panic ("byte index " ++ toString stop ++ " is out of bounds of " ++ "\x60" ++
      (displayParts s).1 ++ "\x60" ++ (displayParts s).2))
  else Command.stop (.panic (notCharBoundaryMessage s stop))

theorem strSliceTo_check (s : String) (stop : Nat) : Check (strSliceTo s stop : Command σ _) := by
  unfold strSliceTo
  exact Check.ite (Check.pure _) (Check.ite (Check.panic _) (Check.panic _))

/-- A string of at least two ASCII characters slices, at two bytes, into the
    bytes of its first two characters. -/
theorem strSliceTo_two_of_ascii {s : String} {c₁ c₂ : Char} {rest : List Char}
    (hs : s.toList = c₁ :: c₂ :: rest) (hascii : ∀ c ∈ s.toList, c.val ≤ 127) (p : σ) :
    strSliceTo s 2 p = .ok [c₁.toUInt8, c₂.toUInt8] p := by
  have hbytes := String.asBytes_of_ascii hascii
  rw [hs, List.map_cons, List.map_cons] at hbytes
  -- Offset two is the start of the third character, or the end.
  have hboundary : isCharBoundary s.asBytes 2 = true := by
    rw [hbytes]
    cases rest with
    | nil => rfl
    | cons c₃ cs =>
      have h₃ : c₃.val ≤ 127 := hascii c₃ (by rw [hs]; simp)
      have hlt : c₃.toUInt8 < 0x80 := by
        rw [UInt8.lt_iff_toNat_lt, ← Char.toUInt8_val, UInt32.toNat_toUInt8]
        have := UInt32.le_iff_toNat_le.1 h₃
        simp only [UInt32.reduceToNat] at this
        show c₃.val.toNat % 256 < 128
        omega
      simp [isCharBoundary, hlt]
  rw [strSliceTo, if_pos hboundary, hbytes]
  rfl

/-! ## `trim_start_matches` -/

/-- The characters after every leading repetition of `pat`; an empty pattern
    removes nothing. -/
def dropPrefixes (pat cs : List Char) : List Char :=
  if _ : pat ≠ [] ∧ pat <+: cs then dropPrefixes pat (cs.drop pat.length) else cs
termination_by cs.length
decreasing_by
  have hle := ‹pat ≠ [] ∧ pat <+: cs›.2.length_le
  have hpos := List.length_pos_iff.2 ‹pat ≠ [] ∧ pat <+: cs›.1
  rw [List.length_drop]
  omega

/-- `str::trim_start_matches` with a string pattern. -/
def trimStartMatches (s pat : String) : String :=
  String.ofList (dropPrefixes pat.toList s.toList)

theorem dropPrefixes_of_not_prefix {pat cs : List Char} (h : ¬pat <+: cs) :
    dropPrefixes pat cs = cs := by
  rw [dropPrefixes, dif_neg (fun hp => h hp.2)]

/-- One repetition of a pattern before a text that does not start with it
    trims to the text. -/
theorem dropPrefixes_append {pat t : List Char} (hpat : pat ≠ []) (ht : ¬pat <+: t) :
    dropPrefixes pat (pat ++ t) = t := by
  rw [dropPrefixes, dif_pos ⟨hpat, List.prefix_append pat t⟩, List.drop_left,
    dropPrefixes_of_not_prefix ht]

theorem trimStartMatches_append {pat t : String} (hpat : pat ≠ "") (ht : ¬pat.toList <+: t.toList) :
    trimStartMatches (pat ++ t) pat = t := by
  have hne : pat.toList ≠ [] := fun h => hpat (String.toList_eq_nil_iff.1 h)
  rw [trimStartMatches, String.toList_append, dropPrefixes_append hne ht, String.ofList_toList]

/-! ## Arrays and bounded vectors -/

/-- `dst.copy_from_slice(src)` into an array of `n` bytes: the array then holds
    `src`, or the lengths differ and it panics. -/
def copyFromSlice (n : Nat) (src : List UInt8) : Command σ (List.Vector UInt8 n) :=
  if h : src.length = n then pure ⟨src, h⟩
  else Command.stop (.panic ("copy_from_slice: source slice length (" ++ toString src.length ++
    ") does not match destination slice length (" ++ toString n ++ ")"))

theorem copyFromSlice_check (n : Nat) (src : List UInt8) :
    Check (copyFromSlice n src : Command σ _) := by
  unfold copyFromSlice
  split
  · exact Check.pure _
  · exact Check.panic _

theorem copyFromSlice_of_length {n : Nat} {src : List UInt8} (h : src.length = n) (p : σ) :
    copyFromSlice n src p = .ok ⟨src, h⟩ p := by
  simp [copyFromSlice, h]
  rfl

/-- An array copied from an array's bytes is that array. -/
theorem copyFromSlice_toList {n : Nat} (v : List.Vector UInt8 n) (p : σ) :
    copyFromSlice n v.toList p = .ok v p := by
  rw [copyFromSlice_of_length v.toList_length]
  rfl

end Command

/-- `BoundedVec<T, ConstU32<bound>>`: a vector of at most `bound` elements. -/
abbrev BoundedVec (α : Type) (bound : Nat) : Type := {l : List α // l.length ≤ bound}

/-- `BoundedVec::try_from`: the vector, if it fits, or the vector back. -/
def BoundedVec.tryFrom {α : Type} (bound : Nat) (v : List α) : Except (List α) (BoundedVec α bound) :=
  if h : v.length ≤ bound then .ok ⟨v, h⟩ else .error v
