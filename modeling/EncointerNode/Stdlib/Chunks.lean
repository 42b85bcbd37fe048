-- SUMMARY: Lemmas for Batteries' `List.toChunks`: its recursion equation, an induction rule along it, and that the chunks concatenate to the list, are never empty, hold at most the chunk size and are as few as the size allows.
import Mathlib.Data.List.Basic

/-! # Chunking a list

`l.toChunks n` cuts `l` into pieces of `n` elements, the last one possibly
shorter, as the chunking adaptors of iterator libraries do. Batteries defines
it by a loop with two array accumulators and states nothing about it.

The loop's invariant is proved once (`toChunks_go_eq`), and from it the
recursion equation `toChunks_of_ne_nil`: a non-empty list is its first `n`
elements followed by the chunks of the rest. Every other lemma here follows
from that equation by `toChunks_induction`, and none looks at the loop again. -/

namespace List

variable {α : Type}

@[simp] theorem toChunks_nil (n : Nat) : ([] : List α).toChunks n = [] := by
  cases n <;> rfl

/-- The invariant of the accumulator loop: the elements not yet put in a
    finished chunk are those of the open chunk and the rest of the input. -/
theorem toChunks_go_eq {n : Nat} (hn : 0 < n) :
    ∀ (xs : List α) (acc₁ : Array α) (acc₂ : Array (List α)), acc₁.size ≤ n →
      toChunks.go n xs acc₁ acc₂ =
        acc₂.toList ++
          (acc₁.toList ++ xs).take n :: ((acc₁.toList ++ xs).drop n).toChunks n := by
  intro xs
  induction xs with
  | nil =>
    intro acc₁ acc₂ hsize
    have hlen : acc₁.toList.length ≤ n := by rw [Array.length_toList]; exact hsize
    simp only [toChunks.go, append_nil, take_of_length_le hlen, drop_eq_nil_of_le hlen,
      toChunks_nil, Array.toList_push]
  | cons y ys ih =>
    intro acc₁ acc₂ hsize
    have hstep : toChunks.go n (y :: ys) acc₁ acc₂ =
        if acc₁.size = n then toChunks.go n ys #[y] (acc₂.push acc₁.toList)
        else toChunks.go n ys (acc₁.push y) acc₂ := by
      simp [toChunks.go, beq_iff_eq]
    rw [hstep]
    split
    case isTrue hfull =>
      -- The open chunk is full: it is finished, and `y` opens the next one,
      -- which is also how the chunking of `y :: ys` begins.
      have hlen : acc₁.toList.length = n := by rw [Array.length_toList]; exact hfull
      have hrest := ih #[y] #[] (by simp; omega)
      have hcons : (y :: ys).toChunks n = (y :: ys).take n :: ((y :: ys).drop n).toChunks n := by
        obtain ⟨m, rfl⟩ := Nat.exists_eq_add_of_lt hn
        simpa [toChunks] using hrest
      rw [ih #[y] (acc₂.push acc₁.toList) (by simp; omega), take_left' hlen, drop_left' hlen,
        hcons]
      simp
    case isFalse hopen =>
      rw [ih (acc₁.push y) acc₂ (by rw [Array.size_push]; omega), Array.toList_push]
      simp only [append_assoc, singleton_append]

/-- The recursion equation of chunking: a first chunk of `n` elements, then
    the chunks of the rest. -/
theorem toChunks_of_ne_nil {n : Nat} (hn : 0 < n) {l : List α} (hl : l ≠ []) :
    l.toChunks n = l.take n :: (l.drop n).toChunks n := by
  obtain ⟨x, xs, rfl⟩ := exists_cons_of_ne_nil hl
  obtain ⟨m, rfl⟩ := Nat.exists_eq_add_of_lt hn
  have hgo := toChunks_go_eq hn xs #[x] #[] (by simp)
  simpa [toChunks] using hgo

/-- Induction along the chunking: a property of the empty list that passes
    from what follows a list's first chunk to the list holds of every list. -/
theorem toChunks_induction {n : Nat} (hn : 0 < n) {P : List α → Prop} (nil : P [])
    (step : ∀ l, l ≠ [] → P (l.drop n) → P l) (l : List α) : P l := by
  induction hlen : l.length using Nat.strongRecOn generalizing l with
  | ind k ih =>
    rcases l with _ | ⟨x, xs⟩
    · exact nil
    · apply step _ (cons_ne_nil x xs)
      -- Dropping a positive number of elements shortens a non-empty list.
      have hshorter : ((x :: xs).drop n).length < k := by
        rw [length_drop, ← hlen, length_cons]
        omega
      exact ih _ hshorter _ rfl

section Chunks

variable {n : Nat} (hn : 0 < n)
include hn

/-- The chunks, put back together, are the list. -/
@[simp] theorem flatten_toChunks (l : List α) : (l.toChunks n).flatten = l := by
  induction l using toChunks_induction hn with
  | nil => simp
  | step l hl ih => rw [toChunks_of_ne_nil hn hl, flatten_cons, ih, take_append_drop]

/-- Every chunk holds at least one element and at most `n`. -/
theorem length_mem_toChunks {l c : List α} (hc : c ∈ l.toChunks n) :
    0 < c.length ∧ c.length ≤ n := by
  induction l using toChunks_induction hn with
  | nil => simp at hc
  | step l hl ih =>
    rw [toChunks_of_ne_nil hn hl, mem_cons] at hc
    rcases hc with rfl | hc
    · exact ⟨by rw [length_take]; exact Nat.lt_min.2 ⟨hn, length_pos_iff.2 hl⟩,
        length_take_le n l⟩
    · exact ih hc

/-- There are as few chunks as chunks of `n` elements allow: the length of the
    list divided by `n`, rounded up. -/
theorem length_toChunks (l : List α) : (l.toChunks n).length = (l.length + n - 1) / n := by
  induction l using toChunks_induction hn with
  | nil => simp [Nat.div_eq_of_lt (by omega : n - 1 < n)]
  | step l hl ih =>
    rw [toChunks_of_ne_nil hn hl, length_cons, ih, length_drop]
    have hpos : 0 < l.length := length_pos_iff.2 hl
    by_cases hshort : l.length ≤ n
    · -- One chunk takes the whole list.
      have hone : (l.length + n - 1) / n = 1 := Nat.div_eq_of_lt_le (by omega) (by omega)
      rw [Nat.sub_eq_zero_of_le hshort, Nat.zero_add, Nat.div_eq_of_lt (by omega : n - 1 < n),
        hone]
    · -- The first chunk is full: `n` fewer elements, one chunk fewer.
      have hsplit : l.length + n - 1 = (l.length - n + n - 1) + n := by omega
      rw [hsplit, Nat.add_div_right _ hn]

end Chunks

end List
