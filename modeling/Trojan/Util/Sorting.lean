import Mathlib.Data.List.Sort

/-!
# Sorting routines that need not be stable

A library that sorts lists promises that the result is a permutation of the list
and is in order. It need not promise where elements go that compare equal, and
the routines of several languages do not. `Sorter` is such a routine.

Where no two elements of a list compare equal, the promise determines the result
(`Sorter.sort_eq_of_perm`), and the first element with some property is the least
one that has it (`Sorter.find?_sort`).
-/

/-- A comparison that is a total preorder. -/
structure IsPreorderedBy {α : Type} (le : α → α → Bool) : Prop where
  total : ∀ a b, le a b = true ∨ le b a = true
  trans : ∀ a b c, le a b = true → le b c = true → le a c = true

/-- **A sorting routine**: what it promises of every list and every comparison
that is a total preorder. -/
structure Sorter where
  sort : {α : Type} → (α → α → Bool) → List α → List α
  perm : ∀ {α : Type} (le : α → α → Bool) (l : List α), (sort le l).Perm l
  pairwise : ∀ {α : Type} {le : α → α → Bool}, IsPreorderedBy le → ∀ l : List α,
    (sort le l).Pairwise (fun a b => le a b = true)

/-- No two elements of a list compare equal, unless they are the same. -/
def Distinguishes {α : Type} (le : α → α → Bool) (l : List α) : Prop :=
  ∀ a ∈ l, ∀ b ∈ l, le a b = true → le b a = true → a = b

namespace Sorter

variable {α β : Type} {le : α → α → Bool} (sorter : Sorter)

@[simp] theorem mem_sort {a : α} {l : List α} : a ∈ sorter.sort le l ↔ a ∈ l :=
  (sorter.perm le l).mem_iff

/-- **The sorted list is unique**, whichever routine sorts and whatever the order
of the list was, if the comparison tells the elements apart. -/
theorem sort_eq_of_perm (other : Sorter) (hle : IsPreorderedBy le) {l l' : List α}
    (hl : Distinguishes le l) (hp : l.Perm l') : sorter.sort le l = other.sort le l' := by
  refine List.Perm.eq_of_pairwise ?_ (sorter.pairwise hle l)
    (other.pairwise hle l') ?_
  · intro a b ha hb
    exact hl a (sorter.mem_sort.mp ha) b (hp.mem_iff.mpr (other.mem_sort.mp hb))
  · exact (sorter.perm le l).trans (hp.trans (other.perm le l').symm)

/-- Sorting commutes with a map that leaves the comparison as it is. -/
theorem map_sort {le' : β → β → Bool} (hle : IsPreorderedBy le) (hle' : IsPreorderedBy le')
    {f : α → β} (hf : ∀ a b, le' (f a) (f b) = le a b) {l : List α}
    (hl : Distinguishes le' (l.map f)) :
    (sorter.sort le l).map f = sorter.sort le' (l.map f) := by
  refine List.Perm.eq_of_pairwise ?_ ?_ (sorter.pairwise hle' (l.map f)) ?_
  · intro a b ha hb
    refine hl a ?_ b (sorter.mem_sort.mp hb)
    exact ((sorter.perm le l).map f).mem_iff.mp ha
  · refine List.pairwise_map.mpr ((sorter.pairwise hle l).imp ?_)
    intro a b hab
    rw [hf]
    exact hab
  · exact ((sorter.perm le l).map f).trans (sorter.perm le' (l.map f)).symm

/-- What is found first in the sorted list comes before everything that has the property. -/
theorem least_of_find?_sort (hle : IsPreorderedBy le) {l : List α} {p : α → Bool} {m : α}
    (h : (sorter.sort le l).find? p = some m) :
    m ∈ l ∧ p m = true ∧ ∀ a ∈ l, p a = true → le m a = true := by
  have hsorted := sorter.pairwise hle l
  refine ⟨sorter.mem_sort.mp (List.mem_of_find?_eq_some h), List.find?_some h, ?_⟩
  obtain ⟨-, before, after, happ, hbefore⟩ := List.find?_eq_some_iff_append.mp h
  rw [happ] at hsorted
  intro a ha hpa
  have ha := (sorter.perm le l).mem_iff.mpr ha
  rw [happ] at ha
  rcases List.mem_append.mp ha with hin | hin
  · exact absurd hpa (by simpa using hbefore a hin)
  · rcases List.mem_cons.mp hin with rfl | hin
    · exact (hle.total a a).elim id id
    · exact List.rel_of_pairwise_cons (List.pairwise_append.mp hsorted).2.1 hin

/-- An element with a property, which no other that has it compares less than or equal to,
is found first. -/
theorem find?_sort_of_least (hle : IsPreorderedBy le) {l : List α} {p : α → Bool} {m : α}
    (hm : m ∈ l) (hpm : p m = true) (hleast : ∀ a ∈ l, p a = true → le a m = true → a = m) :
    (sorter.sort le l).find? p = some m := by
  cases hfind : (sorter.sort le l).find? p with
  | none =>
    exact absurd hpm (List.find?_eq_none.mp hfind m (sorter.mem_sort.mpr hm))
  | some m' =>
    obtain ⟨hm', hpm', hall'⟩ := sorter.least_of_find?_sort hle hfind
    exact congrArg some (hleast m' hm' hpm' (hall' m hm hpm))

/-- **The first element with a property** in the sorted list is the least element
of the list that has it. -/
theorem find?_sort (hle : IsPreorderedBy le) {l : List α} (hl : Distinguishes le l)
    {p : α → Bool} {m : α} :
    (sorter.sort le l).find? p = some m ↔
      m ∈ l ∧ p m = true ∧ ∀ a ∈ l, p a = true → le m a = true := by
  refine ⟨sorter.least_of_find?_sort hle, fun ⟨hm, hpm, hall⟩ => ?_⟩
  exact sorter.find?_sort_of_least hle hm hpm
    (fun a ha hpa ham => hl a ha m hm ham (hall a ha hpa))

/-- The only element with a property is found wherever it stands. -/
theorem find?_sort_of_unique {p : α → Bool} {l : List α}
    (h : ∀ a ∈ l, ∀ b ∈ l, p a = true → p b = true → a = b) :
    (sorter.sort le l).find? p = l.find? p := by
  cases hfind : l.find? p with
  | none =>
    refine List.find?_eq_none.mpr (fun a ha => ?_)
    exact List.find?_eq_none.mp hfind a (sorter.mem_sort.mp ha)
  | some m =>
    have hm := List.mem_of_find?_eq_some hfind
    have hpm := List.find?_some hfind
    cases hsorted : (sorter.sort le l).find? p with
    | none => exact absurd hpm (List.find?_eq_none.mp hsorted m (sorter.mem_sort.mpr hm))
    | some m' =>
      have hm' := sorter.mem_sort.mp (List.mem_of_find?_eq_some hsorted)
      exact congrArg some (h m' hm' m hm (List.find?_some hsorted) hpm)

/-- Sorting by insertion, which is stable. -/
def insertion : Sorter where
  sort le l := l.insertionSort (fun a b => le a b = true)
  perm le l := List.perm_insertionSort _ l
  pairwise {_ le} hle l := by
    have : Std.Total (fun a b => le a b = true) := ⟨hle.total⟩
    have : IsTrans _ (fun a b => le a b = true) := ⟨hle.trans⟩
    exact List.pairwise_insertionSort _ l

end Sorter
