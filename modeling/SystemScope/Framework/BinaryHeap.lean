import Mathlib.Algebra.Order.Ring.Nat
import Mathlib.Data.List.Nodup
import Mathlib.Data.List.Perm.Basic
import Mathlib.Tactic.Common

/-!
# Array-backed binary min-heaps

A priority queue over an arbitrary type, ordered by a key in a linear order.  The operations
are the ones of the usual level-order array heap, in the variant that standard libraries ship:
`push` sifts the new element up from the last position, `pop` moves the last element to the
root, walks the hole to the bottom along smaller children *without* looking at the element,
and sifts it up again, and `ofList` heapifies bottom-up.

`BinaryHeap key` carries the heap order as a field, so an unordered array is not a heap.  What
a client needs is the abstract reading `toList`, a multiset of elements in no useful order:

* `peek_eq_some`: the peeked element is a member, and no member has a smaller key;
* `push_toList`, `pop_toList`, `ofList_toList`: the operations on that multiset, up to `List.Perm`;
* `peek_eq_of_perm`: when keys are distinct, what `pop` returns does not depend on the layout.

The two sifts are proved against the same picture, an array with one *hole* `pos` whose
neighbours may be out of order.  `Hole` says that every edge away from the hole is in order and
that the hole's children are above its parent, which is what lets an element pass through;
`UpReady` adds that the element in the hole is below its own children, `DownReady` is the
version for the part of the array that bottom-up construction has already reached.
-/

namespace BinaryHeap

variable {α κ : Type*} [LinearOrder κ] (key : α → κ)

/-! ## Order conditions -/

/-- Every element below the root is at or after its parent. -/
def HeapOrdered (a : Array α) : Prop :=
  ∀ i (_ : i < a.size), 0 < i → key a[(i - 1) / 2] ≤ key a[i]

/-- The part of the array whose parents are at index `n` or later is in heap order. -/
def OrderedFrom (n : ℕ) (a : Array α) : Prop :=
  ∀ i (_ : i < a.size), 0 < i → n ≤ (i - 1) / 2 → key a[(i - 1) / 2] ≤ key a[i]

/-- Heap order, except on the edges that touch `pos`. -/
structure Hole (a : Array α) (pos : ℕ) : Prop where
  /-- Edges away from the hole are in order. -/
  off : ∀ i (_ : i < a.size), 0 < i → i ≠ pos → (i - 1) / 2 ≠ pos →
    key a[(i - 1) / 2] ≤ key a[i]
  /-- The hole's children are at or after the hole's parent. -/
  grand : ∀ i (_ : i < a.size), 0 < i → (i - 1) / 2 = pos → 0 < pos →
    key a[((i - 1) / 2 - 1) / 2] ≤ key a[i]

/-- A hole whose element may only have to move up. -/
structure UpReady (a : Array α) (pos : ℕ) : Prop extends Hole key a pos where
  /-- The element in the hole is at or before its children. -/
  below : ∀ i (_ : i < a.size), 0 < i → (i - 1) / 2 = pos → key a[(i - 1) / 2] ≤ key a[i]

/-- A hole, inside the part of the array from `n` on, whose element may only have to move
down. -/
structure DownReady (n : ℕ) (a : Array α) (pos : ℕ) : Prop where
  off : ∀ i (_ : i < a.size), 0 < i → n ≤ (i - 1) / 2 → (i - 1) / 2 ≠ pos →
    key a[(i - 1) / 2] ≤ key a[i]
  grand : ∀ i (_ : i < a.size), 0 < i → (i - 1) / 2 = pos → 0 < pos → n ≤ (pos - 1) / 2 →
    key a[((i - 1) / 2 - 1) / 2] ≤ key a[i]

/-! ## The sifts

Each sift recurses on a bound for its number of steps.  The callers pass one that is never
reached first: an index only shrinks on the way up, and only grows on the way down. -/

/-- Swaps the element at `pos` with its parent while it is strictly before it. -/
def siftUp : ℕ → ℕ → Array α → Array α
  | 0, _, a => a
  | fuel + 1, pos, a =>
    if h : 0 < pos ∧ pos < a.size then
      if key a[pos] < key a[(pos - 1) / 2] then
        siftUp fuel ((pos - 1) / 2) (a.swap pos ((pos - 1) / 2))
      else a
    else a

/-- The smaller child of `pos`; a tie goes to the right one.  Meaningful when `pos` has a left
child. -/
def smallerChild (a : Array α) (pos : ℕ) : ℕ :=
  if h : 2 * pos + 2 < a.size then
    if key a[2 * pos + 2] ≤ key a[2 * pos + 1] then 2 * pos + 2 else 2 * pos + 1
  else 2 * pos + 1

lemma smallerChild_eq_or (a : Array α) (pos : ℕ) :
    smallerChild key a pos = 2 * pos + 1 ∨
      smallerChild key a pos = 2 * pos + 2 ∧ 2 * pos + 2 < a.size := by
  unfold smallerChild
  split <;> grind

lemma smallerChild_lt {a : Array α} {pos : ℕ} (h : 2 * pos + 1 < a.size) :
    smallerChild key a pos < a.size := by
  rcases smallerChild_eq_or key a pos with hc | hc <;> omega

lemma smallerChild_le {a : Array α} {pos i : ℕ} (h0 : 0 < i) (hi : i < a.size)
    (hp : (i - 1) / 2 = pos) (hc : smallerChild key a pos < a.size) :
    key a[smallerChild key a pos] ≤ key a[i] := by
  grind [smallerChild]

/-- Walks the hole from `pos` to a leaf along smaller children, returning where it ended. -/
def siftDownToBottom : ℕ → ℕ → Array α → Array α × ℕ
  | 0, pos, a => (a, pos)
  | fuel + 1, pos, a =>
    if h : 2 * pos + 1 < a.size then
      have hc := smallerChild_lt key h
      siftDownToBottom fuel (smallerChild key a pos) (a.swap pos (smallerChild key a pos))
    else (a, pos)

/-- Swaps the element at `pos` with its smaller child while it is strictly after it. -/
def siftDown : ℕ → ℕ → Array α → Array α
  | 0, _, a => a
  | fuel + 1, pos, a =>
    if h : 2 * pos + 1 < a.size then
      have hc := smallerChild_lt key h
      if key a[pos] ≤ key a[smallerChild key a pos] then a
      else siftDown fuel (smallerChild key a pos) (a.swap pos (smallerChild key a pos))
    else a

/-- Bottom-up heapification: sifts the elements at `n - 1, …, 0` down in turn. -/
def rebuild : ℕ → Array α → Array α
  | 0, a => a
  | n + 1, a => rebuild n (siftDown key a.size n a)

/-! ### Sifting permutes the array -/

lemma siftUp_perm (fuel pos : ℕ) (a : Array α) : (siftUp key fuel pos a).Perm a := by
  induction fuel generalizing pos a with
  | zero => exact Array.Perm.refl _
  | succ fuel ih =>
    unfold siftUp
    split
    next =>
      split
      next => exact (ih _ _).trans (Array.swap_perm _ _)
      next => exact Array.Perm.refl _
    next => exact Array.Perm.refl _

lemma siftDownToBottom_perm (fuel pos : ℕ) (a : Array α) :
    (siftDownToBottom key fuel pos a).1.Perm a := by
  induction fuel generalizing pos a with
  | zero => exact Array.Perm.refl _
  | succ fuel ih =>
    unfold siftDownToBottom
    split
    next => exact (ih _ _).trans (Array.swap_perm _ _)
    next => exact Array.Perm.refl _

lemma siftDown_perm (fuel pos : ℕ) (a : Array α) : (siftDown key fuel pos a).Perm a := by
  induction fuel generalizing pos a with
  | zero => exact Array.Perm.refl _
  | succ fuel ih =>
    unfold siftDown
    split
    next =>
      simp only
      split
      next => exact Array.Perm.refl _
      next => exact (ih _ _).trans (Array.swap_perm _ _)
    next => exact Array.Perm.refl _

lemma rebuild_perm (n : ℕ) (a : Array α) : (rebuild key n a).Perm a := by
  induction n generalizing a with
  | zero => exact Array.Perm.refl _
  | succ n ih => exact (ih _).trans (siftDown_perm key _ _ _)

variable {key}

/-! ### One swap moves the hole -/

lemma UpReady.swap {a : Array α} {pos : ℕ} (h : UpReady key a pos) (hpos : 0 < pos)
    (hlt : pos < a.size) (hkey : key a[pos] < key a[(pos - 1) / 2]) :
    UpReady key (a.swap pos ((pos - 1) / 2)) ((pos - 1) / 2) := by
  have hq : (pos - 1) / 2 < pos := by omega
  refine ⟨⟨?_, ?_⟩, ?_⟩
  · intro i hi h0 h1 h2
    simp only [Array.size_swap] at hi
    have hip : i ≠ pos := fun heq => h2 (by rw [heq])
    rw [Array.getElem_swap_of_ne hip h1]
    by_cases hp : (i - 1) / 2 = pos
    · -- The parent that moved down is above the hole's children.
      have hgrand := h.grand i hi h0 hp hpos
      simp only [hp, Array.getElem_swap_left] at hgrand ⊢
      exact hgrand
    · rw [Array.getElem_swap_of_ne hp h2]
      exact h.off i hi h0 hip hp
  · intro i hi h0 hp hq0
    simp only [Array.size_swap] at hi
    have hup := h.off ((pos - 1) / 2) (by omega) hq0 (by omega) (by omega)
    simp only [hp]
    rw [Array.getElem_swap_of_ne (by omega) (by omega)]
    by_cases hip : i = pos
    · simp only [hip, Array.getElem_swap_left]
      exact hup
    · have hedge := h.off i hi h0 hip (by omega)
      simp only [hp] at hedge
      rw [Array.getElem_swap_of_ne hip (by omega)]
      exact hup.trans hedge
  · intro i hi h0 hp
    simp only [Array.size_swap] at hi
    simp only [hp, Array.getElem_swap_right]
    by_cases hip : i = pos
    · simp only [hip, Array.getElem_swap_left]
      exact hkey.le
    · have hedge := h.off i hi h0 hip (by omega)
      simp only [hp] at hedge
      rw [Array.getElem_swap_of_ne hip (by omega)]
      exact hkey.le.trans hedge

lemma Hole.swap {a : Array α} {pos : ℕ} (h : Hole key a pos)
    (hlt : 2 * pos + 1 < a.size) (hc : smallerChild key a pos < a.size) :
    Hole key (a.swap pos (smallerChild key a pos)) (smallerChild key a pos) := by
  have hle : ∀ i (_ : i < a.size), 0 < i → (i - 1) / 2 = pos →
      key a[smallerChild key a pos] ≤ key a[i] :=
    fun i hi h0 hp => smallerChild_le key h0 hi hp hc
  have hor := smallerChild_eq_or key a pos
  generalize smallerChild key a pos = c at *
  have hpc : (c - 1) / 2 = pos := by omega
  refine ⟨?_, ?_⟩
  · intro i hi h0 h1 h2
    simp only [Array.size_swap] at hi
    by_cases hip : i = pos
    · -- The edge above the hole: the lifted child is at or after the hole's parent.
      have hgrand := h.grand c hc (by omega) hpc (by omega)
      simp only [hpc] at hgrand
      simp only [hip, Array.getElem_swap_left]
      rw [Array.getElem_swap_of_ne (by omega) (by omega)]
      exact hgrand
    · rw [Array.getElem_swap_of_ne hip h1]
      by_cases hp : (i - 1) / 2 = pos
      · simp only [hp, Array.getElem_swap_left]
        exact hle i hi h0 hp
      · rw [Array.getElem_swap_of_ne hp h2]
        exact h.off i hi h0 hip hp
  · intro i hi h0 hp hc0
    simp only [Array.size_swap] at hi
    have hedge := h.off i hi h0 (by omega) (by omega)
    simp only [hp] at hedge
    simp only [hp, hpc, Array.getElem_swap_left]
    rw [Array.getElem_swap_of_ne (by omega) (by omega)]
    exact hedge

lemma DownReady.swap {n : ℕ} {a : Array α} {pos : ℕ} (h : DownReady key n a pos) (hn : n ≤ pos)
    (hlt : 2 * pos + 1 < a.size) (hc : smallerChild key a pos < a.size)
    (hkey : key a[smallerChild key a pos] ≤ key a[pos]) :
    DownReady key n (a.swap pos (smallerChild key a pos)) (smallerChild key a pos) := by
  obtain ⟨hoff, hgrand⟩ := h
  have hle : ∀ i (_ : i < a.size), 0 < i → (i - 1) / 2 = pos →
      key a[smallerChild key a pos] ≤ key a[i] :=
    fun i hi h0 hp => smallerChild_le key h0 hi hp hc
  have hor := smallerChild_eq_or key a pos
  generalize smallerChild key a pos = c at *
  refine ⟨?_, ?_⟩
  · intro i hi h0 h1 h2
    simp only [Array.size_swap] at hi
    by_cases hip : i = pos
    · -- The edge above the hole: the lifted child is at or after the hole's parent.
      subst hip
      have hup := hgrand c hc (by omega) (by omega) h0 h1
      have hpc : (c - 1) / 2 = i := by omega
      simp only [hpc] at hup
      grind
    · by_cases hpp : (i - 1) / 2 = pos
      · grind
      · have hedge := hoff i hi h0 h1 hpp
        grind
  · intro i hi h0 h1 h2 h3
    simp only [Array.size_swap] at hi
    have hedge := hoff i hi h0 (by omega) (by omega)
    clear hoff hgrand hle
    grind

/-! ### What the sifts establish -/

/-- Once the walk up has stopped, only the edge above `pos` is left to check. -/
lemma UpReady.heapOrdered {a : Array α} {pos : ℕ} (h : UpReady key a pos)
    (hup : ∀ (_ : pos < a.size), 0 < pos → key a[(pos - 1) / 2] ≤ key a[pos]) :
    HeapOrdered key a := by
  intro i hi h0
  obtain rfl | hip := eq_or_ne i pos
  · exact hup hi h0
  · by_cases hp : (i - 1) / 2 = pos
    · exact h.below i hi h0 hp
    · exact h.off i hi h0 hip hp

lemma siftUp_heapOrdered (fuel pos : ℕ) (a : Array α) (hf : pos ≤ fuel)
    (h : UpReady key a pos) : HeapOrdered key (siftUp key fuel pos a) := by
  induction fuel generalizing pos a with
  | zero => exact h.heapOrdered (fun _ h0 => by omega)
  | succ fuel ih =>
    unfold siftUp
    split
    next hb =>
      split
      next hkey => exact ih _ _ (by omega) (h.swap hb.1 hb.2 hkey)
      next hkey => exact h.heapOrdered (fun _ _ => not_lt.mp hkey)
    next hb => exact h.heapOrdered (fun hlt h0 => absurd ⟨h0, hlt⟩ hb)

lemma siftDownToBottom_upReady (fuel pos : ℕ) (a : Array α) (hf : a.size ≤ pos + fuel)
    (h : Hole key a pos) :
    UpReady key (siftDownToBottom key fuel pos a).1 (siftDownToBottom key fuel pos a).2 := by
  induction fuel generalizing pos a with
  | zero => exact ⟨h, fun i (hi : i < a.size) h0 (hp : (i - 1) / 2 = pos) => by omega⟩
  | succ fuel ih =>
    unfold siftDownToBottom
    split
    next hb =>
      have hc := smallerChild_eq_or key a pos
      refine ih _ _ ?_ (h.swap hb (smallerChild_lt key hb))
      rw [Array.size_swap]
      omega
    next hb =>
      exact ⟨h, fun i (hi : i < a.size) h0 (hp : (i - 1) / 2 = pos) => by omega⟩

lemma siftDownToBottom_pos_le (fuel pos : ℕ) (a : Array α) (hpos : pos < a.size) :
    (siftDownToBottom key fuel pos a).2 ≤ a.size := by
  induction fuel generalizing pos a with
  | zero => exact hpos.le
  | succ fuel ih =>
    unfold siftDownToBottom
    split
    next hb =>
      have hc := smallerChild_lt key hb
      have hle := ih _ (a.swap pos (smallerChild key a pos)) (by simpa using hc)
      rwa [Array.size_swap] at hle
    next => exact hpos.le

/-- Once the walk down has stopped, only the edges below `pos` are left to check. -/
lemma DownReady.orderedFrom {n : ℕ} {a : Array α} {pos : ℕ} (h : DownReady key n a pos)
    (hdown : ∀ i (_ : i < a.size), 0 < i → (i - 1) / 2 = pos →
      key a[(i - 1) / 2] ≤ key a[i]) : OrderedFrom key n a := by
  intro i hi h0 hni
  by_cases hp : (i - 1) / 2 = pos
  · exact hdown i hi h0 hp
  · exact h.off i hi h0 hni hp

lemma siftDown_orderedFrom (fuel n pos : ℕ) (a : Array α) (hf : a.size ≤ pos + fuel)
    (hn : n ≤ pos) (h : DownReady key n a pos) :
    OrderedFrom key n (siftDown key fuel pos a) := by
  induction fuel generalizing pos a with
  | zero => exact h.orderedFrom (fun i hi h0 hp => by omega)
  | succ fuel ih =>
    unfold siftDown
    split
    next hb =>
      have hor := smallerChild_eq_or key a pos
      have hc := smallerChild_lt key hb
      simp only
      split
      next hkey =>
        refine h.orderedFrom (fun i hi h0 hp => ?_)
        have hmin := smallerChild_le key h0 hi hp hc
        simp only [hp]
        exact hkey.trans hmin
      next hkey =>
        refine ih _ _ ?_ (by omega) (h.swap hn hb hc (not_le.mp hkey).le)
        rw [Array.size_swap]
        omega
    next hb => exact h.orderedFrom (fun i hi h0 hp => by omega)

lemma rebuild_heapOrdered (n : ℕ) (a : Array α) (h : OrderedFrom key n a) :
    HeapOrdered key (rebuild key n a) := by
  induction n generalizing a with
  | zero => exact fun i hi h0 => h i hi h0 (Nat.zero_le _)
  | succ n ih =>
    refine ih _ (siftDown_orderedFrom _ n n a (by omega) le_rfl ⟨?_, ?_⟩)
    · exact fun i hi h0 hni hp => h i hi h0 (by omega)
    · exact fun i hi h0 hp hpos hni => by omega

lemma HeapOrdered.root_le {a : Array α} (h : HeapOrdered key a) (i : ℕ) (hi : i < a.size) :
    key a[0] ≤ key a[i] := by
  induction i using Nat.strongRecOn with
  | ind i ih =>
    by_cases h0 : i = 0
    · subst h0
      exact le_rfl
    · exact (ih ((i - 1) / 2) (by omega) (by omega)).trans (h i hi (by omega))

end BinaryHeap

/-! ## The heap -/

/-- A binary min-heap on `key`: a level-order array, in heap order. -/
structure BinaryHeap {α κ : Type*} [LinearOrder κ] (key : α → κ) where
  /-- The elements in level order. -/
  data : Array α
  /-- No element is before its parent. -/
  ordered : BinaryHeap.HeapOrdered key data

namespace BinaryHeap

open scoped List

variable {α κ : Type*} [LinearOrder κ] {key : α → κ}

/-- The elements, in an order that depends on the history of the heap. -/
def toList (h : BinaryHeap key) : List α := h.data.toList

/-- The number of elements. -/
def size (h : BinaryHeap key) : ℕ := h.data.size

@[simp] lemma length_toList (h : BinaryHeap key) : h.toList.length = h.size := by
  simp [toList, size]

/-- The heap with no elements. -/
def empty : BinaryHeap key := ⟨#[], fun _ hi => absurd hi (by simp)⟩

@[simp] lemma empty_toList : (empty : BinaryHeap key).toList = [] := rfl

/-- The first element, if any. -/
def peek (h : BinaryHeap key) : Option α := h.data[0]?

lemma HeapOrdered.upReady_push {a : Array α} (h : HeapOrdered key a) (x : α) :
    UpReady key (a.push x) a.size := by
  refine ⟨⟨?_, ?_⟩, ?_⟩
  · intro i hi h0 hne hp
    rw [Array.size_push] at hi
    have hedge := h i (by omega) h0
    rwa [Array.getElem_push_lt, Array.getElem_push_lt]
  · intro i hi h0 hp
    rw [Array.size_push] at hi
    omega
  · intro i hi h0 hp
    rw [Array.size_push] at hi
    omega

/-- Inserts an element. -/
def push (h : BinaryHeap key) (x : α) : BinaryHeap key where
  data := siftUp key h.data.size h.data.size (h.data.push x)
  ordered := siftUp_heapOrdered _ _ _ (Nat.le_refl _) (h.ordered.upReady_push x)

lemma HeapOrdered.hole_set_zero {a : Array α} (h : HeapOrdered key a) (hne : 0 < a.pop.size)
    (x : α) : Hole key (a.pop.set 0 x) 0 := by
  refine ⟨?_, fun i hi h0 hp hpos => absurd hpos (Nat.lt_irrefl 0)⟩
  intro i hi h0 hne0 hp
  rw [Array.size_set, Array.size_pop] at hi
  have hedge := h i (by omega) h0
  clear h
  grind

/-- Finds the place of a new root: the hole walks to a leaf, and the element climbs back. -/
def sinkRoot (key : α → κ) (fuel : ℕ) (a : Array α) : Array α :=
  siftUp key fuel (siftDownToBottom key fuel 0 a).2 (siftDownToBottom key fuel 0 a).1

lemma sinkRoot_perm (key : α → κ) (fuel : ℕ) (a : Array α) : (sinkRoot key fuel a).Perm a :=
  (siftUp_perm key _ _ _).trans (siftDownToBottom_perm key _ _ _)

lemma sinkRoot_heapOrdered {fuel : ℕ} {a : Array α} (hne : 0 < a.size) (hf : a.size ≤ fuel)
    (h : Hole key a 0) : HeapOrdered key (sinkRoot key fuel a) := by
  refine siftUp_heapOrdered _ _ _ ?_ (siftDownToBottom_upReady _ _ _ (by omega) h)
  exact (siftDownToBottom_pos_le _ _ _ hne).trans hf

/-- Removes the first element, if any: the last element takes the root's place and finds its
own. -/
def pop (h : BinaryHeap key) : Option (α × BinaryHeap key) :=
  match h.data.back? with
  | none => none
  | some item =>
    if hne : 0 < h.data.pop.size then
      some (h.data.pop[0],
        { data := sinkRoot key h.data.size (h.data.pop.set 0 item)
          ordered := by
            refine sinkRoot_heapOrdered (by simpa using hne) ?_ (h.ordered.hole_set_zero hne item)
            simp })
    else some (item, empty)

/-- Builds a heap from a list. -/
def ofList (l : List α) : BinaryHeap key where
  data := rebuild key (l.length / 2) l.toArray
  ordered := by
    refine rebuild_heapOrdered _ _ (fun i hi h0 hni => ?_)
    simp only [List.size_toArray] at hi
    omega

/-! ### What the operations do to the elements -/

lemma push_toList (h : BinaryHeap key) (x : α) : (h.push x).toList ~ x :: h.toList := by
  have hperm := (siftUp_perm key h.data.size h.data.size (h.data.push x)).toList
  refine hperm.trans ?_
  rw [Array.toList_push]
  exact List.perm_append_singleton x h.toList

lemma ofList_toList (l : List α) : (ofList l : BinaryHeap key).toList ~ l :=
  (rebuild_perm key (l.length / 2) l.toArray).toList

lemma peek_eq_none {h : BinaryHeap key} : h.peek = none ↔ h.toList = [] := by
  simp [peek, toList]

lemma peek_eq_some {h : BinaryHeap key} {x : α} (hx : h.peek = some x) :
    x ∈ h.toList ∧ ∀ y ∈ h.toList, key x ≤ key y := by
  obtain ⟨h0, rfl⟩ := Array.getElem?_eq_some_iff.mp hx
  refine ⟨by simp [toList], fun y hy => ?_⟩
  obtain ⟨i, hi, rfl⟩ := List.mem_iff_getElem.mp hy
  exact h.ordered.root_le i (by simpa [toList] using hi)

lemma pop_eq_none {h : BinaryHeap key} : h.pop = none ↔ h.toList = [] := by
  unfold pop
  split
  next hb => simpa [toList] using hb
  next item hb =>
    have hne : h.data ≠ #[] := by
      rintro he
      simp [he] at hb
    split <;> simp [toList, hne]

/-- `pop` returns what `peek` shows, and keeps the rest. -/
lemma pop_eq_some {h h' : BinaryHeap key} {x : α} (hx : h.pop = some (x, h')) :
    h.peek = some x ∧ h.toList ~ x :: h'.toList := by
  obtain ⟨data, hord⟩ := h
  unfold pop at hx
  split at hx
  next => simp at hx
  next item hb =>
    obtain ⟨⟨xs⟩, rfl⟩ := Array.back?_eq_some_iff.mp hb
    split at hx
    next hne =>
      simp only [Option.some.injEq, Prod.mk.injEq] at hx
      obtain ⟨rfl, rfl⟩ := hx
      cases xs with
      | nil => simp at hne
      | cons y ys =>
        refine ⟨by simp [peek], ?_⟩
        -- The rest is a permutation of the array with its root replaced by the last element.
        have hset : ((y :: ys).toArray.push item).pop.set 0 item hne = (item :: ys).toArray := by
          simp only [Array.pop_push, List.set_toArray, List.set_cons_zero]
        have hroot : ((y :: ys).toArray.push item).toList ~ y :: item :: ys := by
          simp
        have hfirst : ((y :: ys).toArray.push item).pop[0] = y := by
          simp only [Array.pop_push, List.getElem_toArray, List.getElem_cons_zero]
        simp only [toList, hset, hfirst]
        exact hroot.trans ((sinkRoot_perm key _ (item :: ys).toArray).toList.symm.cons y)
    next hne =>
      simp only [Option.some.injEq, Prod.mk.injEq] at hx
      obtain ⟨rfl, rfl⟩ := hx
      cases xs with
      | nil => simp [peek, toList, empty]
      | cons y ys => simp at hne

/-! ### The layout does not matter -/

/-- Two heaps with the same elements, under distinct keys, show the same first element. -/
lemma peek_eq_of_perm {h₁ h₂ : BinaryHeap key} (hperm : h₁.toList ~ h₂.toList)
    (hkeys : (h₁.toList.map key).Nodup) : h₁.peek = h₂.peek := by
  cases hp₁ : h₁.peek with
  | none =>
    rw [peek_eq_none] at hp₁
    rw [hp₁] at hperm
    exact (peek_eq_none.mpr hperm.symm.eq_nil).symm
  | some x =>
    cases hp₂ : h₂.peek with
    | none =>
      rw [peek_eq_none] at hp₂
      rw [hp₂] at hperm
      rw [peek_eq_none.mpr hperm.eq_nil] at hp₁
      exact hp₁.symm
    | some y =>
      obtain ⟨hx, hxmin⟩ := peek_eq_some hp₁
      obtain ⟨hy, hymin⟩ := peek_eq_some hp₂
      have hy' := hperm.mem_iff.mpr hy
      have hkey : key x = key y := le_antisymm (hxmin y hy') (hymin x (hperm.mem_iff.mp hx))
      rw [List.inj_on_of_nodup_map hkeys hx hy' hkey]

end BinaryHeap
