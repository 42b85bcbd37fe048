-- SUMMARY: `serde_json::Value` with its read and write indexing by key, the sorted maps behind objects, and the well-formedness that parsing guarantees.
import Mathlib.Data.List.Pairwise
import Mathlib.Data.String.Basic

/-! # JSON values

`serde_json::Value`, with the two ways a program indexes an object by a key:

* `v[key]` for reading (`Index for str`) never fails: a missing key, or a value
  that is not an object, reads as `Null`;
* `v[key]` for writing (`IndexMut for str`) first turns `Null` into an empty
  object, inserts `Null` under a missing key, and panics on any other value.

An object is a `serde_json::Map`. Without the `preserve_order` feature that is a
`BTreeMap`: its keys are distinct and kept in increasing order, and `insert`
replaces the value of a key that is present or puts the new key in its place.
`WellFormed` says that every object in a value is so; it is what parsing
produces and what the round trip of printing and parsing needs.

The JSON text syntax is not modelled here: a program's parser and printer are
parameters of it (`Codec`). The number type is a parameter `N` too: nothing
below looks into a number. -/

namespace Json

/-- `serde_json::Value`, over a type `N` of numbers. -/
inductive Value (N : Type) where
  | null
  | bool (b : Bool)
  | number (n : N)
  | string (s : String)
  | array (vs : List (Value N))
  | object (entries : List (String × Value N))
  deriving Repr

variable {N : Type}

namespace Value

/-- `Value::as_array`. -/
def asArray : Value N → Option (List (Value N))
  | .array vs => some vs
  | _ => none

/-- `Value::as_str`. -/
def asStr : Value N → Option String
  | .string s => some s
  | _ => none

/-- Reading `v[key]`: the value under `key` of an object, `Null` otherwise. -/
def index (v : Value N) (key : String) : Value N :=
  match v with
  | .object entries => (entries.lookup key).getD .null
  | _ => .null

/-- The word `Display for Type` prints for the kind of a value. -/
def typeName : Value N → String
  | .null => "null"
  | .bool _ => "boolean"
  | .number _ => "number"
  | .string _ => "string"
  | .array _ => "array"
  | .object _ => "object"

end Value

/-- `BTreeMap::insert`: replace the value of `key`, or put `key` where it
    belongs in the increasing order of keys. -/
def mapInsert (key : String) (v : Value N) : List (String × Value N) → List (String × Value N)
  | [] => [(key, v)]
  | (k, w) :: rest =>
    if key = k then (key, v) :: rest
    else if key < k then (key, v) :: (k, w) :: rest
    else (k, w) :: mapInsert key v rest

namespace Value

/-- Writing through `v[key]`: the slot is handed to `f`, which may fail with a
    panic message (`Except String`). `Null` is first made an empty object, a
    missing key starts as `Null`, and a value that is neither panics as
    `IndexMut` does. -/
def updateField (v : Value N) (key : String) (f : Value N → Except String (Value N)) :
    Except String (Value N) :=
  match v with
  | .null => do
    let w ← f .null
    pure (.object [(key, w)])
  | .object entries => do
    let w ← f ((entries.lookup key).getD .null)
    pure (.object (mapInsert key w entries))
  | other => .error ("cannot access key " ++ key.quote ++ " in JSON " ++ other.typeName)

end Value

/-! ## Lookup after insertion -/

@[simp] theorem lookup_mapInsert_self (key : String) (v : Value N) (m : List (String × Value N)) :
    (mapInsert key v m).lookup key = some v := by
  induction m with
  | nil => simp [mapInsert]
  | cons p rest ih =>
    obtain ⟨k, w⟩ := p
    by_cases hk : key = k
    · simp [mapInsert, hk]
    · by_cases hlt : key < k
      · simp [mapInsert, hk, hlt]
      · have hne : (key == k) = false := by simpa using hk
        simp [mapInsert, hk, hlt, List.lookup_cons, hne, ih]

theorem lookup_mapInsert_other {key other : String} (v : Value N) (m : List (String × Value N))
    (h : other ≠ key) : (mapInsert key v m).lookup other = m.lookup other := by
  induction m with
  | nil =>
    have hne : (other == key) = false := by simpa using h
    simp [mapInsert, List.lookup_cons, hne]
  | cons p rest ih =>
    obtain ⟨k, w⟩ := p
    have hne : (other == key) = false := by simpa using h
    by_cases hk : key = k
    · subst hk
      simp [mapInsert, List.lookup_cons, hne]
    · by_cases hlt : key < k
      · simp [mapInsert, hk, hlt, List.lookup_cons, hne]
      · simp only [mapInsert, hk, hlt, if_false, List.lookup_cons]
        split <;> simp [ih]

/-- Writing a slot and reading it back gives what was written. -/
theorem index_of_updateField {v v' : Value N} {key : String}
    {f : Value N → Except String (Value N)} (h : v.updateField key f = .ok v') :
    ∃ w, f (v.index key) = .ok w ∧ v'.index key = w := by
  cases v with
  | null =>
    simp only [Value.updateField, bind, Except.bind] at h
    split at h
    · cases h
    · rename_i w hw
      cases h
      exact ⟨w, hw, by simp [Value.index]⟩
  | object entries =>
    simp only [Value.updateField, bind, Except.bind] at h
    split at h
    · cases h
    · rename_i w hw
      cases h
      exact ⟨w, hw, by simp [Value.index]⟩
  | _ => simp [Value.updateField] at h

/-- Writing a slot leaves every other key as it was. -/
theorem index_updateField_other {v v' : Value N} {key other : String}
    {f : Value N → Except String (Value N)} (h : v.updateField key f = .ok v') (hne : other ≠ key) :
    v'.index other = v.index other := by
  have hbeq : (other == key) = false := by simpa using hne
  cases v with
  | null =>
    simp only [Value.updateField, bind, Except.bind] at h
    split at h
    · cases h
    · cases h
      simp [Value.index, List.lookup_cons, hbeq]
  | object entries =>
    simp only [Value.updateField, bind, Except.bind] at h
    split at h
    · cases h
    · cases h
      simp [Value.index, lookup_mapInsert_other _ _ hne]
  | _ => simp [Value.updateField] at h

/-! ## Well-formed values -/

/-- Every object in the value has distinct keys in increasing order. -/
inductive WellFormed : Value N → Prop
  | null : WellFormed .null
  | bool (b : Bool) : WellFormed (.bool b)
  | number (n : N) : WellFormed (.number n)
  | string (s : String) : WellFormed (.string s)
  | array {vs : List (Value N)} (h : ∀ v ∈ vs, WellFormed v) : WellFormed (.array vs)
  | object {m : List (String × Value N)} (sorted : (m.map Prod.fst).Pairwise (· < ·))
      (h : ∀ p ∈ m, WellFormed p.2) : WellFormed (.object m)

/-- An entry after `BTreeMap::insert` is the new one or an old one. -/
theorem mem_mapInsert {key : String} {v : Value N} {p : String × Value N} :
    ∀ {m : List (String × Value N)}, p ∈ mapInsert key v m → p = (key, v) ∨ p ∈ m
  | [], h => by simpa [mapInsert] using h
  | (k, w) :: rest, h => by
    simp only [mapInsert] at h
    split_ifs at h
    · rcases List.mem_cons.1 h with rfl | h
      · exact .inl rfl
      · exact .inr (List.mem_cons_of_mem _ h)
    · rcases List.mem_cons.1 h with rfl | h
      · exact .inl rfl
      · exact .inr h
    · rcases List.mem_cons.1 h with rfl | h
      · exact .inr List.mem_cons_self
      · rcases mem_mapInsert h with rfl | h
        · exact .inl rfl
        · exact .inr (List.mem_cons_of_mem _ h)

/-- `BTreeMap::insert` keeps the keys in order. -/
theorem pairwise_mapInsert (key : String) (v : Value N) :
    ∀ {m : List (String × Value N)}, (m.map Prod.fst).Pairwise (· < ·) →
      ((mapInsert key v m).map Prod.fst).Pairwise (· < ·)
  | [], _ => by simp [mapInsert]
  | (k, w) :: rest, hm => by
    rw [List.map_cons, List.pairwise_cons] at hm
    obtain ⟨hk, hrest⟩ := hm
    by_cases hkey : key = k
    · subst hkey
      have heq : mapInsert key v ((key, w) :: rest) = (key, v) :: rest := by simp [mapInsert]
      rw [heq, List.map_cons, List.pairwise_cons]
      exact ⟨hk, hrest⟩
    · by_cases hlt : key < k
      · simp only [mapInsert, hkey, hlt, if_false, if_true, List.map_cons, List.pairwise_cons]
        refine ⟨?_, hk, hrest⟩
        intro a ha
        rcases List.mem_cons.1 ha with rfl | ha
        · exact hlt
        · exact lt_trans hlt (hk a ha)
      · -- `key` goes further down the list, where every key is above `k`.
        have hgt : k < key := lt_of_le_of_ne (not_lt.1 hlt) (Ne.symm hkey)
        simp only [mapInsert, hkey, hlt, if_false, List.map_cons, List.pairwise_cons]
        refine ⟨?_, pairwise_mapInsert key v hrest⟩
        intro a ha
        obtain ⟨p, hp, rfl⟩ := List.mem_map.1 ha
        rcases mem_mapInsert hp with rfl | hp
        · exact hgt
        · exact hk p.1 (List.mem_map_of_mem hp)

theorem wellFormed_mapInsert {key : String} {v : Value N} {m : List (String × Value N)}
    (hm : WellFormed (.object m)) (hv : WellFormed v) :
    WellFormed (.object (mapInsert key v m)) := by
  cases hm with
  | object sorted h =>
    refine .object (pairwise_mapInsert key v sorted) ?_
    intro p hp
    rcases mem_mapInsert hp with rfl | hp
    · exact hv
    · exact h p hp

/-- A value found under a key of a well-formed object is well formed. -/
theorem wellFormed_lookup {m : List (String × Value N)} {key : String} {w : Value N}
    (hm : WellFormed (.object m)) (h : m.lookup key = some w) : WellFormed w := by
  cases hm with
  | object _ hall =>
    obtain ⟨l₁, l₂, rfl, -⟩ := List.lookup_eq_some_iff.1 h
    exact hall (key, w) (by simp)

/-- Writing a slot of a well-formed value with an update that keeps values well
    formed gives a well-formed value. -/
theorem wellFormed_updateField {v v' : Value N} {key : String}
    {f : Value N → Except String (Value N)} (hv : WellFormed v)
    (hf : ∀ w w', f w = .ok w' → WellFormed w → WellFormed w')
    (h : v.updateField key f = .ok v') : WellFormed v' := by
  cases v with
  | null =>
    simp only [Value.updateField, bind, Except.bind] at h
    split at h
    · cases h
    · rename_i w hw
      cases h
      exact .object (by simp) (by simpa using hf _ _ hw .null)
  | object entries =>
    simp only [Value.updateField, bind, Except.bind] at h
    split at h
    · cases h
    · rename_i w hw
      cases h
      -- The slot is the old value under the key, or `Null` when there is none.
      have hslot : WellFormed ((entries.lookup key).getD .null) := by
        cases hl : entries.lookup key with
        | none => exact .null
        | some u => exact wellFormed_lookup hv hl
      exact wellFormed_mapInsert hv (hf _ _ hw hslot)
  | _ => simp [Value.updateField] at h

/-! ## Text -/

/-- `serde_json::from_str` and `serde_json::to_string_pretty` at `Value`. -/
structure Codec (N : Type) where
  fromStr : String → Option (Value N)
  toStringPretty : Value N → String

/-- What `serde_json` documents of the two: a parsed value is well formed, and a
    well-formed value printed and parsed again is the same value. -/
structure Codec.Lawful (codec : Codec N) : Prop where
  fromStr_wellFormed : ∀ s v, codec.fromStr s = some v → WellFormed v
  fromStr_toStringPretty : ∀ v, WellFormed v → codec.fromStr (codec.toStringPretty v) = some v

/-- `serde_json::from_str` skips whitespace after the value: a well-formed value
    printed and followed by the newline of `println!` parses as the value. -/
def Codec.ReadsLine (codec : Codec N) : Prop :=
  ∀ v, WellFormed v → codec.fromStr (codec.toStringPretty v ++ "\n") = some v

end Json
