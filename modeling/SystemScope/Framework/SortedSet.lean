import Mathlib.Data.List.Sort

/-!
# Finite sets kept in order

The ordered sets of a standard library (`BTreeSet`), as strictly increasing lists.  The order is
a field, so every set that can be built iterates in increasing order.
-/

/-- A finite set, listed in increasing order. -/
structure SortedSet (α : Type*) [LinearOrder α] where
  toList : List α
  sorted : toList.Pairwise (· < ·)

namespace SortedSet

variable {α : Type*} [LinearOrder α]

/-- The empty set. -/
def empty : SortedSet α := ⟨[], .nil⟩

def size (s : SortedSet α) : ℕ := s.toList.length

/-- The least element. -/
def first (s : SortedSet α) : Option α := s.toList.head?

/-- The set without its least element. -/
def popFirst (s : SortedSet α) : SortedSet α := ⟨s.toList.tail, s.sorted.tail⟩

lemma pairwise_orderedInsert {x : α} {l : List α} (hl : l.Pairwise (· < ·)) (hx : x ∉ l) :
    (l.orderedInsert (· ≤ ·) x).Pairwise (· < ·) := by
  have hperm := List.perm_orderedInsert (· ≤ ·) x l
  have hle : (l.orderedInsert (· ≤ ·) x).Pairwise (· ≤ ·) :=
    List.Pairwise.orderedInsert x l (hl.imp le_of_lt)
  have hnodup : (l.orderedInsert (· ≤ ·) x).Nodup :=
    hperm.nodup_iff.mpr (List.nodup_cons.mpr ⟨hx, hl.imp ne_of_lt⟩)
  exact (hle.and hnodup).imp fun h => lt_of_le_of_ne h.1 h.2

/-- Adds an element; adding one that is there changes nothing. -/
def insert (s : SortedSet α) (x : α) : SortedSet α :=
  if hx : x ∈ s.toList then s
  else ⟨s.toList.orderedInsert (· ≤ ·) x, pairwise_orderedInsert s.sorted hx⟩

lemma mem_insert {s : SortedSet α} {x y : α} :
    y ∈ (s.insert x).toList ↔ y = x ∨ y ∈ s.toList := by
  unfold insert
  split
  next h =>
    refine ⟨.inr, ?_⟩
    rintro (rfl | hy)
    · exact h
    · exact hy
  next => exact List.mem_orderedInsert (· ≤ ·)

lemma toList_of_first {s : SortedSet α} {x : α} (h : s.first = some x) :
    s.toList = x :: s.popFirst.toList :=
  (List.cons_head?_tail h).symm

lemma first_eq_none {s : SortedSet α} : s.first = none ↔ s.toList = [] := List.head?_eq_none_iff

/-- What remains is after the least element. -/
lemma lt_of_mem_popFirst {s : SortedSet α} {x y : α} (h : s.first = some x)
    (hy : y ∈ s.popFirst.toList) : x < y := by
  have hsorted := s.sorted
  rw [toList_of_first h] at hsorted
  exact List.rel_of_pairwise_cons hsorted hy

lemma first_le {s : SortedSet α} {x y : α} (h : s.first = some x) (hy : y ∈ s.toList) : x ≤ y := by
  rw [toList_of_first h] at hy
  rcases List.mem_cons.mp hy with rfl | hy
  · exact le_rfl
  · exact (lt_of_mem_popFirst h hy).le

lemma size_popFirst {s : SortedSet α} {x : α} (h : s.first = some x) :
    s.popFirst.size + 1 = s.size := by
  rw [size, size, toList_of_first h, List.length_cons]

end SortedSet
