import Mathlib.Data.List.FinRange
import Mathlib.Data.Fin.Basic
import Mathlib.Tactic.Common

/-!
# Round robin

Turns among `n` parties, taken in a circle: the next turn goes to the first party that wants one,
scanning from a cursor, and the cursor moves past it.  `rank cursor m` is how far a party is from
the cursor in the direction of the scan.

While a party waits, every turn brings it closer (`rank_after`), so no other party has two turns
before it, and there are at most `rank cursor m < n` of them (`Bypasses.nodup`,
`Bypasses.length_le`).  What the other parties want may change from turn to turn.
-/

namespace RoundRobin

variable {n : ℕ}

/-- How many parties are scanned before `m`. -/
def rank (cursor m : Fin n) : ℕ := if cursor ≤ m then m - cursor else m + n - cursor

/-- The parties in the order they are scanned. -/
def scan (cursor : Fin n) : List (Fin n) := (List.finRange n).map fun k => cursor + k

/-- The next turn, if anyone wants it. -/
def select (cursor : Fin n) (wants : Fin n → Bool) : Option (Fin n) := (scan cursor).find? wants

lemma succ_mod_lt (m : Fin n) : (m + 1) % n < n := Nat.mod_lt _ (Nat.zero_lt_of_lt m.isLt)

/-- The cursor after a turn of `m`. -/
def after (m : Fin n) : Fin n := ⟨(m + 1) % n, succ_mod_lt m⟩

lemma rank_lt (cursor m : Fin n) : rank cursor m < n := by
  have hm := m.isLt
  unfold rank
  split_ifs <;> omega

lemma rank_add (cursor k : Fin n) : rank cursor (cursor + k) = k := by
  have hc := cursor.isLt
  have hk := k.isLt
  have hval : (cursor + k).val = (cursor.val + k.val) % n := rfl
  unfold rank
  simp only [Fin.le_def, hval]
  by_cases hlt : cursor.val + k.val < n
  · rw [Nat.mod_eq_of_lt hlt]
    split_ifs <;> omega
  · have hmod : (cursor.val + k.val) % n = cursor.val + k.val - n := by
      rw [Nat.mod_eq_sub_mod (by omega), Nat.mod_eq_of_lt (by omega)]
    rw [hmod]
    split_ifs <;> omega

lemma rank_injective (cursor : Fin n) : Function.Injective (rank cursor) := by
  intro a b h
  have ha := a.isLt
  have hb := b.isLt
  unfold rank at h
  refine Fin.ext ?_
  simp only [Fin.le_def] at h
  split_ifs at h <;> omega

lemma scan_pairwise (cursor : Fin n) :
    (scan cursor).Pairwise fun a b => rank cursor a < rank cursor b := by
  rw [scan, List.pairwise_map]
  refine (List.pairwise_lt_finRange n).imp fun h => ?_
  rwa [rank_add, rank_add]

lemma mem_scan (cursor m : Fin n) : m ∈ scan cursor := by
  have hk := rank_lt cursor m
  refine List.mem_map.mpr ⟨⟨rank cursor m, hk⟩, List.mem_finRange _, ?_⟩
  exact rank_injective cursor (rank_add cursor ⟨rank cursor m, hk⟩)

/-- The turn goes to the one that wants it and is closest to the cursor. -/
lemma rank_le_of_select {cursor m m' : Fin n} {wants : Fin n → Bool}
    (h : select cursor wants = some m') (hm : wants m) : rank cursor m' ≤ rank cursor m := by
  obtain ⟨-, before, behind, hscan, hbefore⟩ := List.find?_eq_some_iff_append.mp h
  have hmem := mem_scan cursor m
  have hpairwise := scan_pairwise cursor
  rw [hscan, List.mem_append, List.mem_cons] at hmem
  rw [hscan, List.pairwise_append, List.pairwise_cons] at hpairwise
  rcases hmem with hmem | rfl | hmem
  · have hno := hbefore m hmem
    simp [hm] at hno
  · exact le_rfl
  · exact (hpairwise.2.1.1 m hmem).le

/-- A turn of another party brings those behind it closer. -/
lemma rank_after {cursor m m' : Fin n} (h : rank cursor m' < rank cursor m) :
    rank (after m') m + rank cursor m' + 1 = rank cursor m := by
  have hm := m.isLt
  have hm' := m'.isLt
  have hc := cursor.isLt
  have hval : (after m').val = (m'.val + 1) % n := rfl
  unfold rank at *
  simp only [Fin.le_def, hval] at *
  by_cases hlt : m'.val + 1 < n
  · rw [Nat.mod_eq_of_lt hlt]
    split_ifs at * <;> omega
  · have hmod : (m'.val + 1) % n = 0 := by
      have heq : m'.val + 1 = n := by omega
      rw [heq, Nat.mod_self]
    rw [hmod]
    split_ifs at * <;> omega

/-- The party that had the turn is scanned last. -/
lemma rank_after_self (m : Fin n) : rank (after m) m + 1 = n := by
  have hm := m.isLt
  have hval : (after m).val = (m.val + 1) % n := rfl
  unfold rank
  simp only [Fin.le_def, hval]
  by_cases hlt : m.val + 1 < n
  · rw [Nat.mod_eq_of_lt hlt]
    split_ifs <;> omega
  · have heq : m.val + 1 = n := by omega
    rw [heq, Nat.mod_self]
    split_ifs <;> omega

/-- Turns of others while `m` waits for one. -/
inductive Bypasses (m : Fin n) : Fin n → List (Fin n) → Fin n → Prop
  | nil {cursor : Fin n} : Bypasses m cursor [] cursor
  | cons {cursor m' cursor' : Fin n} {turns : List (Fin n)} (wants : Fin n → Bool)
      (hwaits : wants m) (hselect : select cursor wants = some m') (hne : m' ≠ m)
      (rest : Bypasses m (after m') turns cursor') : Bypasses m cursor (m' :: turns) cursor'

namespace Bypasses

variable {m cursor cursor' : Fin n} {turns : List (Fin n)}

lemma append {cursor'' : Fin n} {turns' : List (Fin n)} (h : Bypasses m cursor turns cursor')
    (h' : Bypasses m cursor' turns' cursor'') : Bypasses m cursor (turns ++ turns') cursor'' := by
  induction h with
  | nil => exact h'
  | cons wants hwaits hselect hne _ ih => exact .cons wants hwaits hselect hne (ih h')

lemma rank_lt_of_select {m' : Fin n} {wants : Fin n → Bool} (hwaits : wants m)
    (hselect : select cursor wants = some m') (hne : m' ≠ m) :
    rank cursor m' < rank cursor m :=
  lt_of_le_of_ne (rank_le_of_select hselect hwaits) fun h => hne (rank_injective cursor h)

/-- Every turn before `m` is of a party scanned before it. -/
lemma rank_lt (h : Bypasses m cursor turns cursor') :
    ∀ x ∈ turns, rank cursor x < rank cursor m := by
  induction h with
  | nil => simp
  | @cons cursor m' cursor' turns wants hwaits hselect hne rest ih =>
    have hlt := rank_lt_of_select hwaits hselect hne
    refine List.forall_mem_cons.mpr ⟨hlt, fun x hx => ?_⟩
    have hx' := ih x hx
    by_contra hge
    -- A party behind `m` from the old cursor is behind it from the new one.
    have hxlt : rank cursor m' < rank cursor x := by omega
    have hafter := rank_after hlt
    have hafterx := rank_after hxlt
    omega

lemma length_le (h : Bypasses m cursor turns cursor') : turns.length ≤ rank cursor m := by
  induction h with
  | nil => exact Nat.zero_le _
  | cons wants hwaits hselect hne rest ih =>
    have hafter := rank_after (rank_lt_of_select hwaits hselect hne)
    rw [List.length_cons]
    omega

lemma nodup (h : Bypasses m cursor turns cursor') : turns.Nodup := by
  induction h with
  | nil => exact List.nodup_nil
  | @cons cursor m' cursor' turns wants hwaits hselect hne rest ih =>
    refine List.nodup_cons.mpr ⟨fun hmem => ?_, ih⟩
    have hlt := rest.rank_lt m' hmem
    have hlast := rank_after_self m'
    have hm := RoundRobin.rank_lt (after m') m
    omega

end Bypasses

end RoundRobin
