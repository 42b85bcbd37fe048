-- SUMMARY: What the client uses of Rust's collections, over arbitrary types: ranges of `u64`, a `HashMap` as an association list, and the stable `sort_by`, with which entry a map keeps and that a stable sort keeps the order of elements it does not separate.
import Mathlib
import EncointerNode.Stdlib.Command

/-! # Ranges, maps and stable sorts

`lo..hi` over `u64` counts from `lo` up to `hi`, and is empty unless `lo < hi`
(`mem_exclusiveRange`); `1..n + 1` wraps to an empty range at `n = u64::MAX`,
where `1..=n` counts from one to `n` (`inclusiveRange_one`).

For what is inserted and looked up, a `HashMap` is an association list
(`AList`, whose keys are distinct by construction): inserting a key again
replaces its value, so a map built by a loop keeps, for each key, the last
value the loop gave it (`lookup_foldl_insertKeyed`), and a loop over distinct
keys keeps them all (`lookup_foldl_insert_of_nodup`). `map[&k]` panics on a
missing key. The iteration order of a `HashMap` is the hash table's; code that
depends on it sorts the keys first.

`sort_by` is stable: the sorted list, filtered to a class of elements that the
comparator does not separate, is the list filtered (`filter_mergeSort`). -/

/-! ## `u64` ranges -/

/-- `lo..hi` over `u64`. -/
def exclusiveRange (lo hi : UInt64) : List UInt64 :=
  (List.range (hi.toNat - lo.toNat)).map fun i => lo + UInt64.ofNat i

theorem mem_exclusiveRange {lo hi w : UInt64} : w ∈ exclusiveRange lo hi ↔ lo ≤ w ∧ w < hi := by
  simp only [exclusiveRange, List.mem_map, List.mem_range, UInt64.le_iff_toNat_le,
    UInt64.lt_iff_toNat_lt]
  have hhi := hi.toNat_lt
  constructor
  · rintro ⟨i, hi', rfl⟩
    -- Below `hi` nothing wraps.
    have hsum : (lo + UInt64.ofNat i).toNat = lo.toNat + i := by
      rw [UInt64.toNat_add, UInt64.toNat_ofNat', Nat.mod_eq_of_lt (by omega : i < 2 ^ 64),
        Nat.mod_eq_of_lt (by omega)]
    omega
  · rintro ⟨hlo, hlt⟩
    refine ⟨w.toNat - lo.toNat, by omega, UInt64.toNat_inj.1 ?_⟩
    rw [UInt64.toNat_add, UInt64.toNat_ofNat', Nat.mod_eq_of_lt (by omega : w.toNat - lo.toNat < 2 ^ 64)]
    omega

/-- `lo..=hi` over `u64`. -/
def inclusiveRange (lo hi : UInt64) : List UInt64 :=
  (List.range (hi.toNat + 1 - lo.toNat)).map fun i => lo + UInt64.ofNat i

/-- `1..=n` counts from one to `n`, also at `n = u64::MAX`, where `1..n + 1`
    would be empty. -/
theorem inclusiveRange_one (n : UInt64) :
    inclusiveRange 1 n = (List.range' 1 n.toNat).map UInt64.ofNat := by
  have hone : (1 : UInt64).toNat = 1 := rfl
  rw [inclusiveRange, hone, Nat.add_sub_cancel, List.range'_eq_map_range, List.map_map]
  refine List.map_congr_left fun i _ => ?_
  rw [Function.comp_apply, UInt64.ofNat_add]
  rfl

/-- `lo..hi` over `u32`. -/
def exclusiveRange32 (lo hi : UInt32) : List UInt32 :=
  (List.range (hi.toNat - lo.toNat)).map fun i => lo + UInt32.ofNat i

/-- Below `hi` nothing wraps. -/
theorem toNat_add_ofNat_of_lt {lo hi : UInt32} {i : Nat} (hi' : i < hi.toNat - lo.toNat) :
    (lo + UInt32.ofNat i).toNat = lo.toNat + i := by
  have hhi := hi.toNat_lt
  rw [UInt32.toNat_add, UInt32.toNat_ofNat', Nat.mod_eq_of_lt (by omega : i < 2 ^ 32),
    Nat.mod_eq_of_lt (by omega)]

theorem mem_exclusiveRange32 {lo hi w : UInt32} : w ∈ exclusiveRange32 lo hi ↔ lo ≤ w ∧ w < hi := by
  simp only [exclusiveRange32, List.mem_map, List.mem_range, UInt32.le_iff_toNat_le,
    UInt32.lt_iff_toNat_lt]
  constructor
  · rintro ⟨i, hi', rfl⟩
    rw [toNat_add_ofNat_of_lt hi']
    omega
  · rintro ⟨hlo, hlt⟩
    have hw : w.toNat - lo.toNat < hi.toNat - lo.toNat := by omega
    refine ⟨w.toNat - lo.toNat, hw, UInt32.toNat_inj.1 ?_⟩
    rw [toNat_add_ofNat_of_lt hw]
    omega

theorem exclusiveRange32_eq_nil_iff {lo hi : UInt32} : exclusiveRange32 lo hi = [] ↔ hi ≤ lo := by
  rw [exclusiveRange32, List.map_eq_nil_iff, List.range_eq_nil, UInt32.le_iff_toNat_le]
  omega

/-- A range that is not empty starts at `lo` and ends at `hi - 1`. -/
theorem head?_exclusiveRange32 {lo hi : UInt32} (h : lo < hi) :
    (exclusiveRange32 lo hi).head? = some lo := by
  have hpos : 0 < hi.toNat - lo.toNat := by
    rw [UInt32.lt_iff_toNat_lt] at h
    omega
  rw [exclusiveRange32, List.head?_map, List.head?_range, if_neg (Nat.pos_iff_ne_zero.1 hpos)]
  exact congrArg some (UInt32.add_zero lo)

theorem getLast?_exclusiveRange32 {lo hi : UInt32} (h : lo < hi) :
    (exclusiveRange32 lo hi).getLast? = some (hi - 1) := by
  have hlt : lo.toNat < hi.toNat := UInt32.lt_iff_toNat_lt.1 h
  rw [exclusiveRange32, List.getLast?_map, List.getLast?_range, if_neg (by omega)]
  simp only [Option.map_some, Option.some.injEq]
  apply UInt32.toNat_inj.1
  have hone : (1 : UInt32).toNat = 1 := rfl
  rw [toNat_add_ofNat_of_lt (by omega : hi.toNat - lo.toNat - 1 < hi.toNat - lo.toNat),
    UInt32.toNat_sub_of_le _ _ (UInt32.le_iff_toNat_le.2 (by rw [hone]; omega)), hone]
  omega

/-- `lo..=hi` over `u32`. -/
def inclusiveRange32 (lo hi : UInt32) : List UInt32 :=
  (List.range (hi.toNat + 1 - lo.toNat)).map fun i => lo + UInt32.ofNat i

/-- A sum over `lo..=hi` is the sum over the natural numbers from `lo` to
    `hi`. -/
theorem sum_map_inclusiveRange32 (f : UInt32 → Nat) (lo hi : UInt32) :
    ((inclusiveRange32 lo hi).map f).sum = ∑ c ∈ Finset.Icc lo.toNat hi.toNat, f (UInt32.ofNat c) := by
  rw [← Finset.Ico_add_one_right_eq_Icc, Finset.sum_Ico_eq_sum_range, inclusiveRange32, List.map_map]
  -- The `i`-th element is `lo + i`, wrapped or not.
  have hval : ∀ i, lo + UInt32.ofNat i = UInt32.ofNat (lo.toNat + i) := by
    intro i
    rw [UInt32.ofNat_add, UInt32.ofNat_toNat]
  simp only [Function.comp_def, hval]
  rw [Finset.sum_eq_multiset_sum, Finset.range_val, Multiset.range, Multiset.map_coe, Multiset.sum_coe]

/-! ## Vectors -/

/-- A loop that extends a vector in each pass. -/
theorem foldl_extend {α β : Type} (f : α → List β) :
    ∀ (l : List α) (acc : List β), l.foldl (fun acc a => acc ++ f a) acc = acc ++ l.flatMap f
  | [], acc => by simp
  | a :: l, acc => by
    rw [List.foldl_cons, foldl_extend f l, List.flatMap_cons, List.append_assoc]

/-- A loop that pushes onto a vector what each pass gives, if anything. -/
theorem foldl_push {α β : Type} (f : α → Option β) (l : List α) (acc : List β) :
    l.foldl (fun acc a => acc ++ (f a).toList) acc = acc ++ l.filterMap f := by
  rw [foldl_extend, List.filterMap_eq_flatMap_toList]

/-! ## `HashMap` -/

section Maps

variable {κ ν : Type} [DecidableEq κ]

/-- `map[&key]`: the value, or the panic of a missing key. -/
def Command.hashMapIndex {σ : Type} (m : AList fun _ : κ => ν) (key : κ) : Command σ ν :=
  Command.expect (m.lookup key) "no entry found for key"

theorem Command.Check.hashMapIndex {σ : Type} (m : AList fun _ : κ => ν) (key : κ) :
    Command.Check (Command.hashMapIndex m key : Command σ ν) :=
  Command.Check.expect _ _

/-- Insert a value under its key, if it has one. -/
def AList.insertKeyed (key : ν → Option κ) (m : AList fun _ : κ => ν) (v : ν) : AList fun _ : κ => ν :=
  match key v with
  | some k => m.insert k v
  | none => m

/-- `*map.entry(key).or_insert(0) += 1`. -/
def AList.incrCount (m : AList fun _ : κ => Nat) (key : κ) : AList fun _ : κ => Nat :=
  m.insert key ((m.lookup key).getD 0 + 1)

/-- Whatever values a loop inserts, the keys of the map it builds are those it
    started with and those it inserted under. -/
theorem keys_toFinset_foldl_insert {α : Type} (key : α → κ) (val : (AList fun _ : κ => ν) → α → ν) :
    ∀ (xs : List α) (m : AList fun _ : κ => ν),
      (xs.foldl (fun m x => m.insert (key x) (val m x)) m).keys.toFinset =
        m.keys.toFinset ∪ (xs.map key).toFinset
  | [], m => by simp
  | x :: xs, m => by
    rw [List.foldl_cons, keys_toFinset_foldl_insert key val xs]
    ext k
    have hins : k ∈ (m.insert (key x) (val m x)).keys ↔ k = key x ∨ k ∈ m.keys := AList.mem_insert _
    simp only [Finset.mem_union, List.mem_toFinset, hins, List.map_cons, List.mem_cons]
    tauto

/-- A map counting occurrences has a key for each distinct element counted. -/
theorem length_keys_foldl_incrCount (xs : List κ) :
    (xs.foldl AList.incrCount ∅).keys.length = xs.toFinset.card := by
  have hkeys : (xs.foldl AList.incrCount ∅).keys.toFinset = xs.toFinset := by
    have h := keys_toFinset_foldl_insert id (fun m k => (m.lookup k).getD 0 + 1) xs ∅
    rw [AList.keys_empty, List.toFinset_nil, Finset.empty_union, List.map_id] at h
    exact h
  rw [← List.toFinset_card_of_nodup (xs.foldl AList.incrCount ∅).keys_nodup, hkeys]

/-- A map built by inserting values under their keys holds, for each key, the
    last value inserted under it. -/
theorem lookup_foldl_insertKeyed (key : ν → Option κ) (k : κ) :
    ∀ (vs : List ν) (m : AList fun _ : κ => ν),
      (vs.foldl (AList.insertKeyed key) m).lookup k =
        ((vs.filter fun v => key v = some k).getLast?).or (m.lookup k)
  | [], m => by simp
  | v :: vs, m => by
    rw [List.foldl_cons, lookup_foldl_insertKeyed key k vs, List.filter_cons]
    by_cases hv : key v = some k
    · have hins : (AList.insertKeyed key m v).lookup k = some v := by
        rw [AList.insertKeyed, hv, AList.lookup_insert]
      rw [hins, if_pos (by simp [hv]), List.getLast?_cons]
      cases (vs.filter fun v => key v = some k).getLast? <;> rfl
    · have hins : (AList.insertKeyed key m v).lookup k = m.lookup k := by
        unfold AList.insertKeyed
        split
        · rename_i k' hk'
          exact AList.lookup_insert_ne fun h => hv (h ▸ hk')
        · rfl
      rw [hins, if_neg (by simp [hv])]

/-- A map built by inserting a list's values holds, for each key, the value
    of the last element with that key. -/
theorem lookup_foldl_insert {α : Type} (key : α → κ) (val : α → ν) (k : κ) :
    ∀ (xs : List α) (m : AList fun _ : κ => ν),
      (xs.foldl (fun m x => m.insert (key x) (val x)) m).lookup k =
        (((xs.filter fun x => key x = k).getLast?).map val).or (m.lookup k)
  | [], m => by simp
  | x :: xs, m => by
    rw [List.foldl_cons, lookup_foldl_insert key val k xs, List.filter_cons]
    by_cases hx : key x = k
    · rw [hx, AList.lookup_insert, if_pos (by simp), List.getLast?_cons]
      cases (xs.filter fun x => key x = k).getLast? <;> rfl
    · rw [AList.lookup_insert_ne (Ne.symm hx), if_neg (by simp [hx])]

/-- A map built by inserting a list's values under distinct keys holds each of
    them. -/
theorem lookup_foldl_insert_of_nodup {α : Type} (key : α → κ) (val : α → ν) :
    ∀ {xs : List α} (m : AList fun _ : κ => ν), (xs.map key).Nodup → ∀ {x : α}, x ∈ xs →
      (xs.foldl (fun m x => m.insert (key x) (val x)) m).lookup (key x) = some (val x)
  | [], _, _, _, hx => absurd hx List.not_mem_nil
  | y :: ys, m, hnd, x, hx => by
    rw [List.map_cons, List.nodup_cons] at hnd
    rw [List.foldl_cons]
    rcases List.mem_cons.1 hx with rfl | hx
    · -- No later element has this key, so its value stays.
      have hnone : (ys.filter fun z => key z = key x) = [] :=
        List.filter_eq_nil_iff.2 fun z hz h => hnd.1 (of_decide_eq_true h ▸ List.mem_map_of_mem hz)
      rw [lookup_foldl_insert, hnone, List.getLast?_nil, Option.map_none, Option.none_or,
        AList.lookup_insert]
    · exact lookup_foldl_insert_of_nodup key val _ hnd.2 hx

/-- A map built by inserting under distinct new keys holds the entries in the
    order of insertion, the last first. -/
theorem entries_foldl_insert_of_nodup {α : Type} (key : α → κ) (val : α → ν) :
    ∀ {xs : List α} (m : AList fun _ : κ => ν), (xs.map key).Nodup → (∀ x ∈ xs, key x ∉ m) →
      (xs.foldl (fun m x => m.insert (key x) (val x)) m).entries =
        (xs.map fun x => (⟨key x, val x⟩ : Sigma fun _ : κ => ν)).reverse ++ m.entries
  | [], _, _, _ => rfl
  | x :: xs, m, hnd, hnew => by
    rw [List.map_cons, List.nodup_cons] at hnd
    have hins : (m.insert (key x) (val x)).entries = ⟨key x, val x⟩ :: m.entries :=
      AList.entries_insert_of_notMem (hnew x List.mem_cons_self)
    have hfresh : ∀ y ∈ xs, key y ∉ m.insert (key x) (val x) := by
      intro y hy
      rw [AList.mem_insert, not_or]
      exact ⟨fun h => hnd.1 (h ▸ List.mem_map_of_mem hy), hnew y (List.mem_cons_of_mem x hy)⟩
    rw [List.foldl_cons, entries_foldl_insert_of_nodup key val _ hnd.2 hfresh, hins, List.map_cons,
      List.reverse_cons, List.append_assoc, List.singleton_append]

/-- The keys of a map built from nothing by inserting under distinct keys are
    those keys, the last first. -/
theorem keys_foldl_insert_of_nodup {α : Type} (key : α → κ) (val : α → ν) {xs : List α}
    (hnd : (xs.map key).Nodup) :
    (xs.foldl (fun (m : AList fun _ : κ => ν) x => m.insert (key x) (val x)) ∅).keys =
      (xs.map key).reverse := by
  have hentries := entries_foldl_insert_of_nodup key val ∅ hnd fun x _ => AList.notMem_empty _
  rw [AList.empty_entries, List.append_nil] at hentries
  simp only [AList.keys, hentries, List.keys, List.map_reverse, List.map_map]
  rfl

end Maps

/-! ## `sort_by` -/

section Sorting

variable {α : Type} {le : α → α → Bool}

/-- A stable sort keeps the order of a class of elements that the comparator
    does not separate: filtered to the class, the sorted list is the list
    filtered. -/
theorem filter_mergeSort (trans : ∀ a b c, le a b → le b c → le a c)
    (total : ∀ a b, le a b || le b a) (p : α → Bool) (hp : ∀ a b, p a → p b → le a b)
    (l : List α) : (l.mergeSort le).filter p = l.filter p := by
  have hpairwise : (l.filter p).Pairwise fun a b => le a b := by
    refine List.pairwise_of_forall_mem_list fun a ha b hb => hp a b ?_ ?_
    · exact (List.mem_filter.1 ha).2
    · exact (List.mem_filter.1 hb).2
  -- The class keeps its order within the sorted list, and is all of its class there.
  have hsub : List.Sublist (l.filter p) ((l.mergeSort le).filter p) := by
    have hfilter : List.Sublist (l.filter p) l := List.filter_sublist
    have h := (List.sublist_mergeSort trans total hpairwise hfilter).filter p
    rwa [List.filter_filter, List.filter_congr fun a _ => Bool.and_self (p a)] at h
  have hlen : ((l.mergeSort le).filter p).length = (l.filter p).length :=
    ((List.mergeSort_perm l le).filter p).length_eq
  exact (hsub.eq_of_length hlen.symm).symm

/-- `u64`'s order as a comparator of `sort_by`. -/
theorem UInt64.decide_le_trans (a b c : UInt64) (hab : decide (a ≤ b)) (hbc : decide (b ≤ c)) :
    decide (a ≤ c) :=
  decide_eq_true (UInt64.le_trans (of_decide_eq_true hab) (of_decide_eq_true hbc))

theorem UInt64.decide_le_total (a b : UInt64) : decide (a ≤ b) || decide (b ≤ a) := by
  rcases UInt64.le_total a b with h | h <;> simp [h]

/-- Sorting a permutation of an increasing list of `u64` gives that list. -/
theorem mergeSort_eq_of_perm {l l' : List UInt64} (hperm : l.Perm l') (hlt : l'.Pairwise (· < ·)) :
    l.mergeSort (fun a b => a ≤ b) = l' := by
  refine List.Perm.eq_of_pairwise ?_
    (List.pairwise_mergeSort UInt64.decide_le_trans UInt64.decide_le_total l)
    (hlt.imp fun h => decide_eq_true (UInt64.le_of_lt h)) ((List.mergeSort_perm l _).trans hperm)
  intro a b _ _ hab hba
  exact UInt64.le_antisymm (of_decide_eq_true hab) (of_decide_eq_true hba)

end Sorting
