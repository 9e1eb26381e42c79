import Mathlib.Data.Bool.Basic
import Mathlib.Data.List.Induction
import Mathlib.Tactic.Common

/-!
# Level lines

A line with a level that its sender raises and lowers.  The sender says what the level is whenever
it changes; what it said travels to the receiver in order, and the receiver holds the last level
that it was told.  At first the level is low on either side.

`Faithful` is what both sides can rely on: the levels that are sent alternate, the first one high,
and what the receiver holds is what was said before all that is still on its way.  It is kept by
`send` and by `deliver`.
-/

namespace SystemScope

/-- A level line. -/
structure LevelLine where
  /-- The levels that were sent, oldest first. -/
  sent : List Bool
  /-- Those that are still on their way. -/
  flight : List Bool
  /-- The level that the receiver holds. -/
  received : Bool

namespace LevelLine

/-- The level that was sent last. -/
def last (sent : List Bool) : Bool := sent.getLastD false

/-- A line before anything was sent. -/
def low : LevelLine where
  sent := []
  flight := []
  received := false

/-- The sender says what the level is. -/
def send (l : LevelLine) (level : Bool) : LevelLine :=
  { l with sent := l.sent ++ [level], flight := l.flight ++ [level] }

/-- High, low, high, and so on. -/
def Alternates (sent : List Bool) : Prop :=
  ∀ k (hk : k < sent.length), sent.get ⟨k, hk⟩ = decide (k % 2 = 0)

/-- What was sent alternates, and arrives in order. -/
structure Faithful (l : LevelLine) : Prop where
  alternates : Alternates l.sent
  arrives : ∃ before, l.sent = before ++ l.flight ∧ l.received = last before

@[simp] lemma last_append (sent : List Bool) (level : Bool) : last (sent ++ [level]) = level :=
  List.getLastD_concat

lemma Alternates.last {sent : List Bool} (h : Alternates sent) :
    LevelLine.last sent = decide (sent.length % 2 = 1) := by
  cases sent using List.reverseRecOn with
  | nil => rfl
  | append_singleton before level =>
    have hlevel := h before.length (by simp)
    simp only [List.get_eq_getElem, List.getElem_append_right (Nat.le_refl _), Nat.sub_self,
      List.getElem_cons_zero] at hlevel
    rw [last_append, hlevel, List.length_append, List.length_singleton]
    by_cases heven : before.length % 2 = 0
    · rw [decide_eq_true heven, decide_eq_true (by omega)]
    · rw [decide_eq_false heven, decide_eq_false (by omega)]

lemma Alternates.append {sent : List Bool} (h : Alternates sent) {level : Bool}
    (hlevel : level ≠ LevelLine.last sent) : Alternates (sent ++ [level]) := by
  intro k hk
  rw [List.length_append, List.length_singleton] at hk
  rw [List.get_eq_getElem]
  by_cases hold : k < sent.length
  · rw [List.getElem_append_left hold]
    exact h k hold
  · obtain rfl : k = sent.length := by omega
    rw [List.getElem_append_right (Nat.le_refl _)]
    simp only [Nat.sub_self, List.getElem_cons_zero]
    rw [Bool.eq_not_of_ne hlevel, h.last]
    by_cases heven : sent.length % 2 = 0
    · rw [decide_eq_false (by omega), decide_eq_true heven]
      rfl
    · rw [decide_eq_true (by omega), decide_eq_false heven]
      rfl

namespace Faithful

variable {l : LevelLine}

lemma low : LevelLine.low.Faithful where
  alternates := by
    intro k hk
    cases hk
  arrives := ⟨[], rfl, rfl⟩

/-- Saying a new level. -/
lemma send (h : l.Faithful) {level : Bool} (hlevel : level ≠ last l.sent) :
    (l.send level).Faithful where
  alternates := h.alternates.append hlevel
  arrives := by
    obtain ⟨before, hsent, hreceived⟩ := h.arrives
    refine ⟨before, ?_, hreceived⟩
    show l.sent ++ [level] = before ++ (l.flight ++ [level])
    rw [hsent, List.append_assoc]

/-- The oldest level on its way arrives. -/
lemma deliver (h : l.Faithful) {level : Bool} {rest : List Bool}
    (hflight : l.flight = level :: rest) :
    ({ l with flight := rest, received := level } : LevelLine).Faithful where
  alternates := h.alternates
  arrives := by
    obtain ⟨before, hsent, -⟩ := h.arrives
    refine ⟨before ++ [level], ?_, (last_append before level).symm⟩
    show l.sent = before ++ [level] ++ rest
    rw [hsent, hflight, List.append_assoc]
    rfl

/-- With nothing on its way, both sides agree. -/
lemma settled (h : l.Faithful) (hflight : l.flight = []) : l.received = last l.sent := by
  obtain ⟨before, hsent, hreceived⟩ := h.arrives
  rw [hreceived, hsent, hflight, List.append_nil]

end Faithful

end LevelLine

end SystemScope
