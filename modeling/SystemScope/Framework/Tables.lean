import Mathlib.Data.List.FinRange
import Mathlib.Data.List.Perm.Basic
import SystemScope.Framework.ExactCodec

/-!
# Tables

Arrays of a fixed size, read and written by index, and lists that are put together entry by entry.
An update of one entry of a table changes such a list by what it changes of that entry, up to
order (`flatMap_perm_of_update`).  A table is parsed entry by entry (`Parser.table`).
-/

namespace Vector

variable {α : Type*} {n : ℕ}

lemma get_eq (v : Vector α n) (i : Fin n) : v.get i = v[i.val] := rfl

@[simp] lemma get_set (v : Vector α n) (i j : Fin n) (x : α) :
    (v.set i x).get j = if j = i then x else v.get j := by
  simp only [get_eq, Vector.getElem_set, Fin.ext_iff, eq_comm]

/-- Tables with the same entries are the same. -/
lemma ext_get {v w : Vector α n} (h : ∀ i, v.get i = w.get i) : v = w := by
  refine Vector.ext fun i hi => ?_
  simpa [get_eq] using h ⟨i, hi⟩

lemma toList_eq_map_get (v : Vector α n) : v.toList = (List.finRange n).map v.get := by
  refine List.ext_getElem (by simp) fun i h h' => ?_
  simp [get_eq]

lemma mem_toList_iff_get {v : Vector α n} {x : α} : x ∈ v.toList ↔ ∃ i, v.get i = x := by
  simp [toList_eq_map_get]

end Vector

namespace List

variable {α β : Type*}

/-- The first item that was seen before. -/
def firstRepeated [DecidableEq α] (seen : List α) : List α → Option α
  | [] => none
  | x :: l => if x ∈ seen then some x else firstRepeated (x :: seen) l

lemma firstRepeated_eq_none [DecidableEq α] {seen l : List α} :
    firstRepeated seen l = none ↔ l.Nodup ∧ ∀ x ∈ l, x ∉ seen := by
  induction l generalizing seen with
  | nil => simp [firstRepeated]
  | cons x l ih =>
    unfold firstRepeated
    split
    next h => simp [h]
    next h =>
      rw [ih]
      simp only [nodup_cons, mem_cons, not_or]
      grind

/-- A list put together from the entries of a table changes with one entry. -/
lemma flatMap_perm_of_update {f g : α → List β} {l : List α} (hl : l.Nodup) {i : α} (hi : i ∈ l)
    {a b : List β} (hoff : ∀ j ∈ l, j ≠ i → g j = f j) (hat : (a ++ g i).Perm (b ++ f i)) :
    (a ++ l.flatMap g).Perm (b ++ l.flatMap f) := by
  obtain ⟨before, after, rfl⟩ := append_of_mem hi
  have hne : ∀ j ∈ before ++ after, g j = f j := by
    intro j hj
    refine hoff j (by grind) ?_
    rintro rfl
    grind
  have hbefore : before.flatMap g = before.flatMap f :=
    flatMap_congr fun j hj => hne j (mem_append_left _ hj)
  have hafter : after.flatMap g = after.flatMap f :=
    flatMap_congr fun j hj => hne j (mem_append_right _ hj)
  simp only [flatMap_append, flatMap_cons, hbefore, hafter]
  calc (a ++ (before.flatMap f ++ (g i ++ after.flatMap f))).Perm
        ((a ++ g i) ++ (before.flatMap f ++ after.flatMap f)) := by
          rw [append_assoc]
          exact perm_append_comm_assoc _ _ _ |>.append_left a
    _ |>.Perm ((b ++ f i) ++ (before.flatMap f ++ after.flatMap f)) := hat.append_right _
    _ |>.Perm (b ++ (before.flatMap f ++ (f i ++ after.flatMap f))) := by
          rw [append_assoc]
          exact perm_append_comm_assoc _ _ _ |>.append_left b

section Replace

variable {f : α → Option β} {before after l' : List α} {t t' : α} {l : List β} {y : β}

lemma filterMap_replace_same (h : f t' = f t) :
    (before ++ t' :: after).filterMap f = (before ++ t :: after).filterMap f := by
  simp only [filterMap_append, filterMap_cons, h]

lemma filterMap_append_none (h : f t = none) : (l' ++ [t]).filterMap f = l'.filterMap f := by
  rw [filterMap_append, filterMap_cons_none h, filterMap_nil, append_nil]

lemma filterMap_append_some (h : f t = some y) :
    (l' ++ [t]).filterMap f = l'.filterMap f ++ [y] := by
  rw [filterMap_append, filterMap_cons_some h, filterMap_nil]

lemma filterMap_middle_perm (f : α → Option β) (before after : List α) (t : α) :
    ((before ++ t :: after).filterMap f).Perm ((f t).toList ++ (before ++ after).filterMap f) := by
  rw [filterMap_append, filterMap_append]
  cases h : f t with
  | none => simp [h]
  | some y =>
    rw [filterMap_cons_some h]
    exact perm_middle

lemma forall_mem_replace {P : α → Prop} (h : ∀ u ∈ before ++ t :: after, P u) (ht : P t') :
    ∀ u ∈ before ++ t' :: after, P u := by
  simp only [forall_mem_append, forall_mem_cons] at h ⊢
  exact ⟨h.1, ht, h.2.2⟩

/-- An entry that now has a value adds it. -/
lemma Perm.replace_some (hl : l.Perm ((before ++ t :: after).filterMap f)) (h : f t = none)
    (h' : f t' = some y) : (l ++ [y]).Perm ((before ++ t' :: after).filterMap f) := by
  have hold := hl.trans (filterMap_middle_perm f before after t)
  have hnew := filterMap_middle_perm f before after t'
  rw [h] at hold
  rw [h'] at hnew
  exact (perm_append_singleton y l).trans ((hold.cons y).trans hnew.symm)

/-- An entry that has no value any more takes it away. -/
lemma Perm.replace_none [BEq β] [LawfulBEq β] (hl : l.Perm ((before ++ t :: after).filterMap f))
    (h : f t = some y) (h' : f t' = none) :
    (l.erase y).Perm ((before ++ t' :: after).filterMap f) := by
  have hold := hl.trans (filterMap_middle_perm f before after t)
  have hnew := filterMap_middle_perm f before after t'
  rw [h] at hold
  rw [h'] at hnew
  have herase := hold.erase y
  rw [Option.toList_some, singleton_append, erase_cons_head] at herase
  exact herase.trans hnew.symm

end Replace

end List
