-- SUMMARY: A printing of JSON values in a prefix code, and the codec that reads it back: a lawful `Codec`, so that the laws the ceremony's proofs assume of `serde_json` can be met.
import EncointerNode.Stdlib.Json

/-! # A printing of JSON values that reads back

`Codec.Lawful` asks of a codec that a well-formed value, printed and parsed
again, is the same value. This module gives a codec that has this law. Values
are printed in a prefix code: a tag for the kind of value, and a length in
unary before each string, array and object. A printed value then determines
both the value and where its text ends (`print_append_inj`), and the parser
takes the one well-formed value whose text is the input (`textCodec`).

The parser is chosen, not computed: the codec stands for `serde_json`, which is
not part of the model, and it is here to show that the law can hold. -/

namespace Json

variable {α N : Type}

/-- Words of the code `f` determine the value coded and where the word ends. -/
def PrefixCode (f : α → List Char) : Prop :=
  ∀ a b r r', f a ++ r = f b ++ r' → a = b ∧ r = r'

/-- A number in unary, closed by a dot. -/
def unary (n : Nat) : List Char := List.replicate n '1' ++ ['.']

/-- A string after its length. -/
def printString (s : String) : List Char := unary s.toList.length ++ s.toList

theorem unary_prefixCode : PrefixCode unary := by
  intro a
  induction a with
  | zero =>
    intro b r r' h
    cases b with
    | zero => simpa [unary] using h
    | succ b => simp [unary, List.replicate_succ] at h
  | succ a ih =>
    intro b r r' h
    cases b with
    | zero => simp [unary, List.replicate_succ] at h
    | succ b =>
      simp only [unary, List.replicate_succ, List.cons_append, List.cons.injEq, true_and] at h
      obtain ⟨rfl, rfl⟩ := ih b r r' h
      exact ⟨rfl, rfl⟩

theorem printString_prefixCode : PrefixCode printString := by
  intro s t r r' h
  simp only [printString, List.append_assoc] at h
  obtain ⟨hlen, hrest⟩ := unary_prefixCode _ _ _ _ h
  obtain ⟨hs, hr⟩ := List.append_inj hrest hlen
  exact ⟨String.toList_inj.1 hs, hr⟩

section Print

variable (num : N → List Char)

mutual

/-- A value: a tag, then what the kind of value needs. -/
def print : Value N → List Char
  | .null => ['n']
  | .bool true => ['t']
  | .bool false => ['f']
  | .number n => 'd' :: num n
  | .string s => 's' :: printString s
  | .array vs => 'a' :: unary vs.length ++ printList vs
  | .object m => 'o' :: unary m.length ++ printEntries m

/-- The elements of an array, one after another. -/
def printList : List (Value N) → List Char
  | [] => []
  | v :: vs => print v ++ printList vs

/-- The entries of an object, each key before its value. -/
def printEntries : List (String × Value N) → List Char
  | [] => []
  | (k, v) :: m => printString k ++ print v ++ printEntries m

end

variable {num}

/-- Lists of equal length whose elements are words of the code. -/
theorem printList_append_inj {vs : List (Value N)}
    (ih : ∀ v ∈ vs, ∀ w r r', print num v ++ r = print num w ++ r' → v = w ∧ r = r') :
    ∀ {ws : List (Value N)} {r r' : List Char}, vs.length = ws.length →
      printList num vs ++ r = printList num ws ++ r' → vs = ws ∧ r = r' := by
  induction vs with
  | nil =>
    intro ws r r' hlen h
    cases ws with
    | nil => simpa [printList] using h
    | cons w ws => cases hlen
  | cons v vs ihs =>
    intro ws r r' hlen h
    cases ws with
    | nil => cases hlen
    | cons w ws =>
      simp only [printList, List.append_assoc] at h
      obtain ⟨rfl, hrest⟩ := ih v List.mem_cons_self w _ _ h
      obtain ⟨rfl, rfl⟩ := ihs (fun u hu => ih u (List.mem_cons_of_mem v hu))
        (Nat.succ.inj hlen) hrest
      exact ⟨rfl, rfl⟩

/-- Entry lists of equal length whose values are words of the code. -/
theorem printEntries_append_inj {m : List (String × Value N)}
    (ih : ∀ p ∈ m, ∀ w r r', print num p.2 ++ r = print num w ++ r' → p.2 = w ∧ r = r') :
    ∀ {m' : List (String × Value N)} {r r' : List Char}, m.length = m'.length →
      printEntries num m ++ r = printEntries num m' ++ r' → m = m' ∧ r = r' := by
  induction m with
  | nil =>
    intro m' r r' hlen h
    cases m' with
    | nil => simpa [printEntries] using h
    | cons p m' => cases hlen
  | cons p m ihs =>
    intro m' r r' hlen h
    obtain ⟨k, v⟩ := p
    cases m' with
    | nil => cases hlen
    | cons p' m' =>
      obtain ⟨k', v'⟩ := p'
      simp only [printEntries, List.append_assoc] at h
      obtain ⟨rfl, hrest⟩ := printString_prefixCode _ _ _ _ h
      obtain ⟨rfl, hrest'⟩ := ih (k, v) List.mem_cons_self v' _ _ hrest
      obtain ⟨rfl, rfl⟩ := ihs (fun u hu => ih u (List.mem_cons_of_mem _ hu))
        (Nat.succ.inj hlen) hrest'
      exact ⟨rfl, rfl⟩

/-- A printed well-formed value determines the value and where its text ends;
    the induction is on well-formedness, which reaches every nested value. -/
theorem print_append_inj (hnum : PrefixCode num) {v : Value N} (hv : WellFormed v) :
    ∀ w r r', print num v ++ r = print num w ++ r' → v = w ∧ r = r' := by
  induction hv with
  -- In each case the tags differ unless `w` is of the same kind as `v`.
  | null =>
    intro w r r' h
    rcases w with _ | ⟨_ | _⟩ | _ | _ | _ | _ <;> simp_all [print]
  | bool b =>
    intro w r r' h
    cases b <;> rcases w with _ | ⟨_ | _⟩ | _ | _ | _ | _ <;> simp_all [print]
  | number n =>
    intro w r r' h
    rcases w with _ | ⟨_ | _⟩ | n' | _ | _ | _ <;> simp [print] at h
    obtain ⟨rfl, rfl⟩ := hnum _ _ _ _ h
    exact ⟨rfl, rfl⟩
  | string s =>
    intro w r r' h
    rcases w with _ | ⟨_ | _⟩ | _ | s' | _ | _ <;> simp [print] at h
    obtain ⟨rfl, rfl⟩ := printString_prefixCode _ _ _ _ h
    exact ⟨rfl, rfl⟩
  | @array vs _ ih =>
    intro w r r' h
    rcases w with _ | ⟨_ | _⟩ | _ | _ | ws | _ <;> simp [print] at h
    obtain ⟨hlen, hrest⟩ := unary_prefixCode _ _ _ _ h
    obtain ⟨rfl, rfl⟩ := printList_append_inj ih hlen hrest
    exact ⟨rfl, rfl⟩
  | @object m _ _ ih =>
    intro w r r' h
    rcases w with _ | ⟨_ | _⟩ | _ | _ | _ | m' <;> simp [print] at h
    obtain ⟨hlen, hrest⟩ := unary_prefixCode _ _ _ _ h
    obtain ⟨rfl, rfl⟩ := printEntries_append_inj ih hlen hrest
    exact ⟨rfl, rfl⟩

end Print

open Classical in
/-- The codec of the prefix code: print the code's text, and parse a text as
    the well-formed value that prints as it, if there is one. -/
noncomputable def textCodec (num : N → List Char) : Codec N where
  toStringPretty v := String.ofList (print num v)
  fromStr s := if h : ∃ v, WellFormed v ∧ String.ofList (print num v) = s then some h.choose
    else none

/-- The codec of a prefix code for numbers is lawful. -/
theorem textCodec_lawful {num : N → List Char} (hnum : PrefixCode num) :
    (textCodec num).Lawful where
  fromStr_wellFormed s v h := by
    simp only [textCodec] at h
    split at h
    · rename_i hex
      cases h
      exact hex.choose_spec.1
    · cases h
  fromStr_toStringPretty v hv := by
    have hex : ∃ w, WellFormed w ∧ String.ofList (print num w) = String.ofList (print num v) :=
      ⟨v, hv, rfl⟩
    simp only [textCodec, dif_pos hex, Option.some.injEq]
    -- The chosen value prints as `v`, so it is `v`.
    have hprint := congrArg String.toList hex.choose_spec.2
    rw [String.toList_ofList, String.toList_ofList] at hprint
    exact ((print_append_inj hnum hv _ [] [] (by rw [hprint])).1).symm

open Classical in
/-- The codec of the prefix code that also reads a printed value followed by
    the newline of `println!`, as `serde_json` skips whitespace after a value. -/
noncomputable def lineCodec (num : N → List Char) : Codec N where
  toStringPretty v := String.ofList (print num v)
  fromStr s := if h : ∃ v, WellFormed v ∧ (print num v = s.toList ∨ print num v ++ ['\n'] = s.toList)
    then some h.choose else none

/-- The one value a text read by `lineCodec` can stand for: a value whose print
    is the text, up to a newline after it, is the value printed there. -/
theorem eq_of_print_line {num : N → List Char} (hnum : PrefixCode num) {v w : Value N}
    (hv : WellFormed v) {r : List Char} (hr : r = [] ∨ r = ['\n'])
    (h : print num w = print num v ++ r ∨ print num w ++ ['\n'] = print num v ++ r) : w = v := by
  rcases h with h | h
  · obtain ⟨hvw, hrt⟩ := print_append_inj hnum hv w r [] (by rw [List.append_nil, h])
    -- A newline that the value's print lacks cannot appear after it.
    rcases hr with rfl | rfl
    · exact hvw.symm
    · cases hrt
  · obtain ⟨hvw, hrt⟩ := print_append_inj hnum hv w r ['\n'] h.symm
    exact hvw.symm

theorem lineCodec_lawful {num : N → List Char} (hnum : PrefixCode num) :
    (lineCodec num).Lawful where
  fromStr_wellFormed s v h := by
    simp only [lineCodec] at h
    split at h
    · rename_i hex
      cases h
      exact hex.choose_spec.1
    · cases h
  fromStr_toStringPretty v hv := by
    have hex : ∃ w, WellFormed w ∧ (print num w = (String.ofList (print num v)).toList ∨
        print num w ++ ['\n'] = (String.ofList (print num v)).toList) :=
      ⟨v, hv, .inl (String.toList_ofList).symm⟩
    simp only [lineCodec, dif_pos hex, Option.some.injEq]
    obtain ⟨-, hchosen⟩ := hex.choose_spec
    generalize hex.choose = w at hchosen ⊢
    rw [String.toList_ofList] at hchosen
    exact eq_of_print_line hnum hv (.inl rfl) (by simpa using hchosen)

theorem lineCodec_readsLine {num : N → List Char} (hnum : PrefixCode num) :
    (lineCodec num).ReadsLine := by
  intro v hv
  have htext : (String.ofList (print num v) ++ "\n").toList = print num v ++ ['\n'] := by
    simp
  have hex : ∃ w, WellFormed w ∧ (print num w = (String.ofList (print num v) ++ "\n").toList ∨
      print num w ++ ['\n'] = (String.ofList (print num v) ++ "\n").toList) :=
    ⟨v, hv, .inr htext.symm⟩
  simp only [lineCodec, dif_pos hex, Option.some.injEq]
  obtain ⟨-, hchosen⟩ := hex.choose_spec
  generalize hex.choose = w at hchosen ⊢
  rw [htext] at hchosen
  exact eq_of_print_line hnum hv (.inr rfl) hchosen

end Json
