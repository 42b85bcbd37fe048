-- SUMMARY: The `hex` crate's `encode` and `decode` on byte strings, and the round trip: decoding what was encoded gives the bytes back.
import EncointerNode.Stdlib.Fs

/-! # Hex strings

`hex::encode` writes each byte as two lowercase digits, the high half first.
`hex::decode` reads the bytes of a string two at a time: an odd number of bytes
is `OddLength`, and a byte that is no digit of either case is
`InvalidHexCharacter` with its position. The round trip
`decode (encode data) = Ok data` is what lets a byte string travel inside a
JSON text. -/

namespace Hex

/-- `FromHexError`, for the variants `decode` into a `Vec<u8>` can return. -/
inductive FromHexError where
  | invalidHexCharacter (c : Char) (index : Nat)
  | oddLength
  deriving DecidableEq, Repr

/-- `HEX_CHARS_LOWER`. -/
def hexCharsLower : List Char :=
  ['0', '1', '2', '3', '4', '5', '6', '7', '8', '9', 'a', 'b', 'c', 'd', 'e', 'f']

/-- The digit of a value below sixteen. -/
def digit (n : Nat) : Char := hexCharsLower.getD n '0'

/-- The two digits of one byte, high half first. -/
def byteToHex (byte : UInt8) : List Char :=
  [digit (byte.toNat / 16), digit (byte.toNat % 16)]

/-- `hex::encode`. -/
def encode (data : List UInt8) : String :=
  String.ofList (data.flatMap byteToHex)

/-- `val`: the value of one digit byte, upper or lower case. -/
def val (c : UInt8) (idx : Nat) : Except FromHexError UInt8 :=
  if 'A'.toUInt8 ≤ c ∧ c ≤ 'F'.toUInt8 then .ok (c - 'A'.toUInt8 + 10)
  else if 'a'.toUInt8 ≤ c ∧ c ≤ 'f'.toUInt8 then .ok (c - 'a'.toUInt8 + 10)
  else if '0'.toUInt8 ≤ c ∧ c ≤ '9'.toUInt8 then .ok (c - '0'.toUInt8)
  else .error (.invalidHexCharacter (Char.ofNat c.toNat) idx)

/-- The pairs of `chunks(2)`, from pair `i` on: each pair is
    `val(pair[0]) << 4 | val(pair[1])`, the first error stops the collection. -/
def decodePairs : Nat → List UInt8 → Except FromHexError (List UInt8)
  | i, c₁ :: c₂ :: rest => do
    let hi ← val c₁ (2 * i)
    let lo ← val c₂ (2 * i + 1)
    let bytes ← decodePairs (i + 1) rest
    pure ((hi * 16 + lo) :: bytes)
  | _, _ => pure []

/-- `hex::decode`, on the bytes of the string. -/
def decode (s : String) : Except FromHexError (List UInt8) :=
  if s.asBytes.length % 2 ≠ 0 then .error .oddLength
  else decodePairs 0 s.asBytes

/-! ## The round trip -/

/-- Every digit is a single byte in UTF-8: past fifteen, `digit` falls back to
    `'0'`. -/
private theorem utf8EncodeChar_digit (n : Nat) :
    String.utf8EncodeChar (digit n) = [(digit n).toUInt8] := by
  rcases n with _ | _ | _ | _ | _ | _ | _ | _ | _ | _ | _ | _ | _ | _ | _ | _ | n
  all_goals rfl

/-- The bytes of an encoded string: one byte per digit. -/
theorem asBytes_encode (data : List UInt8) :
    (encode data).asBytes =
      data.flatMap fun b => [(digit (b.toNat / 16)).toUInt8, (digit (b.toNat % 16)).toUInt8] := by
  simp only [encode, String.asBytes, String.toUTF8_eq_toByteArray, String.toByteArray_ofList,
    List.utf8Encode, List.data_toByteArray, List.toList_toArray, List.flatMap_assoc, byteToHex]
  congr 1
  funext b
  simp [utf8EncodeChar_digit]

/-- Each digit reads back as its value. -/
private theorem val_digit {n : Nat} (hn : n < 16) (idx : Nat) :
    val (digit n).toUInt8 idx = .ok n.toUInt8 := by
  rcases n with _ | _ | _ | _ | _ | _ | _ | _ | _ | _ | _ | _ | _ | _ | _ | _ | n
  all_goals first | rfl | omega

/-- A byte is sixteen times its high half plus its low half. -/
private theorem byte_halves (b : UInt8) :
    UInt8.ofNat (b.toNat / 16) * 16 + UInt8.ofNat (b.toNat % 16) = b := by
  apply UInt8.toNat_inj.1
  have := b.toNat_lt
  rw [UInt8.toNat_add, UInt8.toNat_mul]
  simp
  omega

private theorem decodePairs_encode (data : List UInt8) (i : Nat) :
    decodePairs i (data.flatMap fun b =>
      [(digit (b.toNat / 16)).toUInt8, (digit (b.toNat % 16)).toUInt8]) = .ok data := by
  induction data generalizing i with
  | nil => simp [decodePairs]; rfl
  | cons b rest ih =>
    have hdiv : b.toNat / 16 < 16 := by have := b.toNat_lt; omega
    have hmod : b.toNat % 16 < 16 := Nat.mod_lt _ (by decide)
    simp [decodePairs, val_digit hdiv, val_digit hmod, ih, byte_halves, bind, Except.bind, pure,
      Except.pure]

/-- Decoding what `encode` wrote gives the bytes back. -/
theorem decode_encode (data : List UInt8) : decode (encode data) = .ok data := by
  -- Two digit bytes per data byte.
  have heven : (encode data).asBytes.length % 2 = 0 := by
    rw [asBytes_encode]
    induction data with
    | nil => rfl
    | cons b rest ih => simp only [List.flatMap_cons, List.length_append, List.length_cons,
        List.length_nil]; omega
  simp only [decode, heven, ne_eq, not_true_eq_false, if_false]
  rw [asBytes_encode]
  exact decodePairs_encode data 0

/-! ## The characters of a hex string -/

theorem digit_mem (n : Nat) : digit n ∈ hexCharsLower := by
  unfold digit
  rw [List.getD_eq_getElem?_getD]
  cases h : hexCharsLower[n]? with
  | none => simp [hexCharsLower]
  | some c => exact List.mem_of_getElem? h

/-- Every character of a hex string is a lowercase digit. -/
theorem mem_hexCharsLower_of_mem_encode {data : List UInt8} {c : Char}
    (h : c ∈ (encode data).toList) : c ∈ hexCharsLower := by
  simp only [encode, String.toList_ofList, List.mem_flatMap, byteToHex, List.mem_cons,
    List.not_mem_nil, or_false] at h
  obtain ⟨b, -, rfl | rfl⟩ := h <;> exact digit_mem _

/-- A hex string never starts with `0x`: `x` is no digit. -/
theorem not_prefix_encode (data : List UInt8) : ¬['0', 'x'] <+: (encode data).toList := by
  intro hpre
  have hx : 'x' ∈ hexCharsLower := mem_hexCharsLower_of_mem_encode (hpre.subset (by simp))
  exact absurd hx (by decide)

end Hex
