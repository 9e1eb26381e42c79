import Mathlib.Data.List.Pairwise

/-!
# Lists of half-open intervals

Intervals `lo a ≤ x < hi a` that are sorted by where they begin: no two of them share a point
exactly if each ends before its right neighbour begins (`isChain_iff_apart`).  Sorting and a check
of neighbours therefore find every overlap (`isChain_mergeSort_iff`).
-/

namespace Intervals

variable {α : Type*} {lo hi : α → ℕ} {l : List α} {a b : α}

/-- The intervals share no point. -/
def Apart (lo hi : α → ℕ) (a b : α) : Prop := ∀ x, ¬((lo a ≤ x ∧ x < hi a) ∧ lo b ≤ x ∧ x < hi b)

lemma Apart.symm (h : Apart lo hi a b) : Apart lo hi b a := fun x hx => h x hx.symm

/-- Intervals that are not empty are apart if one ends before the other begins. -/
lemma apart_iff (ha : lo a < hi a) (hb : lo b < hi b) :
    Apart lo hi a b ↔ hi a ≤ lo b ∨ hi b ≤ lo a := by
  constructor
  · intro h
    by_contra hnot
    rw [not_or] at hnot
    exact h (max (lo a) (lo b)) (by omega)
  · rintro (h | h) x hx <;> omega

/-- Where neighbours follow each other, every interval ends before all later ones begin. -/
lemma pairwise_of_isChain (hpos : ∀ a ∈ l, lo a < hi a)
    (h : l.IsChain fun a b => hi a ≤ lo b) : l.Pairwise fun a b => hi a ≤ lo b := by
  induction l with
  | nil => exact .nil
  | cons a rest ih =>
    obtain ⟨-, hrest⟩ := List.forall_mem_cons.mp hpos
    cases rest with
    | nil => exact List.pairwise_singleton _ _
    | cons b rest =>
      obtain ⟨hab, hchain⟩ := List.isChain_cons_cons.mp h
      have htail := ih hrest hchain
      refine List.pairwise_cons.mpr ⟨fun c hc => ?_, htail⟩
      rcases List.mem_cons.mp hc with rfl | hc
      · exact hab
      · have hb := hrest b List.mem_cons_self
        have hbc := (List.pairwise_cons.mp htail).1 c hc
        omega

/-- In a sorted list, comparing neighbours finds every overlap. -/
lemma isChain_iff_apart (hpos : ∀ a ∈ l, lo a < hi a)
    (hsorted : l.Pairwise fun a b => lo a ≤ lo b) :
    (l.IsChain fun a b => hi a ≤ lo b) ↔ l.Pairwise (Apart lo hi) := by
  constructor
  · intro h
    refine (pairwise_of_isChain hpos h).imp_of_mem fun {a b} ha hb hab => ?_
    exact (apart_iff (hpos a ha) (hpos b hb)).mpr (.inl hab)
  · intro h
    refine List.Pairwise.isChain ?_
    refine (hsorted.and h).imp_of_mem fun {a b} ha hb hab => ?_
    rcases (apart_iff (hpos a ha) (hpos b hb)).mp hab.2 with hle | hle
    · exact hle
    · have hposb := hpos b hb
      omega

/-- Sorting intervals and comparing neighbours finds every overlap. -/
lemma isChain_mergeSort_iff {le : α → α → Bool} {key : α → ℕ}
    (hle : ∀ a b, le a b = true ↔ key a ≤ key b) (hmono : ∀ a b, key a ≤ key b → lo a ≤ lo b)
    (hpos : ∀ a ∈ l, lo a < hi a) :
    ((l.mergeSort le).IsChain fun a b => hi a ≤ lo b) ↔ l.Pairwise (Apart lo hi) := by
  have hperm := List.mergeSort_perm l le
  have hsorted : (l.mergeSort le).Pairwise fun a b => lo a ≤ lo b := by
    refine (List.pairwise_mergeSort ?_ ?_ l).imp fun {a b} hab => hmono a b ((hle a b).mp hab)
    · intro a b c hab hbc
      exact (hle a c).mpr (Nat.le_trans ((hle a b).mp hab) ((hle b c).mp hbc))
    · intro a b
      rw [Bool.or_eq_true, hle, hle]
      exact Nat.le_total _ _
  rw [isChain_iff_apart (fun a ha => hpos a (hperm.mem_iff.mp ha)) hsorted]
  exact hperm.pairwise_iff Apart.symm

/-- A relation between what is found at the numbers below `n`. -/
lemma pairwise_filterMap_range {R : α → α → Prop} {f : ℕ → Option α} {n : ℕ} :
    ((List.range n).filterMap f).Pairwise R ↔
      ∀ i j a b, i < j → j < n → f i = some a → f j = some b → R a b := by
  rw [List.pairwise_filterMap, List.pairwise_iff_getElem]
  simp only [List.length_range, List.getElem_range]
  constructor
  · intro h i j a b hij hj ha hb
    exact h i j (Nat.lt_trans hij hj) hj hij a ha b hb
  · intro h i j _ hj hij a ha b hb
    exact h i j a b hij hj ha hb

end Intervals
