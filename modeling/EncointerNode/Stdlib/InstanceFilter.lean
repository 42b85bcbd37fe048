-- SUMMARY: Instance filters on calls, ordered by a superset test: soundness, inclusion of the admitted sets, and delegation chains.
import Mathlib.Data.Set.Basic
import Mathlib.Data.List.Chain

/-! # Instance filters and their superset order

A kind of delegated authority is read as a filter on calls, `filter x c`, and a
delegation system compares two kinds with a boolean test `isSuperset x y`. The
system may let a holder of kind `x` hand out kind `y` exactly when
`isSuperset x y`. That is safe when the test is *sound* for the filter: a kind
that is a superset of another admits every call the other admits.

This file names nothing of a particular runtime. It gives the admitted set of a
kind, soundness and completeness of a superset test against those sets, and the
consequence a delegation system needs: along any chain of delegations, each
allowed by the test, the last kind admits no call that the first does not. -/

namespace InstanceFilter

variable {P C : Type*}

/-- The calls that kind `x` lets through. -/
def admitted (filter : P → C → Bool) (x : P) : Set C :=
  {c | filter x c = true}

@[simp] theorem mem_admitted {filter : P → C → Bool} {x : P} {c : C} :
    c ∈ admitted filter x ↔ filter x c = true := Iff.rfl

/-- `isSuperset` is sound for `filter` when every kind admits what each of its
    subsets admits. -/
def Sound (filter : P → C → Bool) (isSuperset : P → P → Bool) : Prop :=
  ∀ x y c, isSuperset x y = true → filter y c = true → filter x c = true

/-- `isSuperset` is complete for `filter` when it holds whenever the admitted
    sets are included. -/
def Complete (filter : P → C → Bool) (isSuperset : P → P → Bool) : Prop :=
  ∀ x y, admitted filter y ⊆ admitted filter x → isSuperset x y = true

variable {filter : P → C → Bool} {isSuperset : P → P → Bool}

theorem sound_iff_admitted_subset :
    Sound filter isSuperset ↔
      ∀ x y, isSuperset x y = true → admitted filter y ⊆ admitted filter x := by
  constructor
  · intro h x y hxy c hc
    exact h x y c hxy hc
  · intro h x y c hxy hc
    exact h x y hxy hc

/-- A sound and complete test is exactly inclusion of the admitted sets. -/
theorem isSuperset_iff_of_sound_of_complete (hs : Sound filter isSuperset)
    (hc : Complete filter isSuperset) (x y : P) :
    isSuperset x y = true ↔ admitted filter y ⊆ admitted filter x :=
  ⟨sound_iff_admitted_subset.1 hs x y, hc x y⟩

/-! ## Delegation chains

A chain `x₀, x₁, …, xₖ` in which each kind was handed out by the one before it,
so that `isSuperset xᵢ xᵢ₊₁` holds at every link. -/

/-- Along a chain of delegations allowed by a sound test, the last kind admits
    only calls that the first admits. -/
theorem Sound.admitted_last_subset (hs : Sound filter isSuperset) :
    ∀ {x : P} {l : List P}, (x :: l).IsChain (fun a b => isSuperset a b = true) →
      admitted filter ((x :: l).getLast (List.cons_ne_nil x l)) ⊆ admitted filter x
  | x, [], _ => by simp
  | x, y :: l, hchain => by
    rw [List.isChain_cons_cons] at hchain
    have hrest := hs.admitted_last_subset hchain.2
    rw [List.getLast_cons (List.cons_ne_nil y l)]
    exact hrest.trans (sound_iff_admitted_subset.1 hs x y hchain.1)

end InstanceFilter
