import Mathlib.Data.List.Nodup
import Mathlib.Tactic.Common

/-!
# Run queues

One party has the turn, and the others wait for theirs in a queue.  The party with the turn gives it
up and queues again (`yield`), or leaves for good; then the head of the queue gets the turn
(`RunQueue.Turns`, with those that got it, in order).

Between two turns of a party come those that were queued at the first of them, in the order of the
queue (`Turns.between`), whatever each of them does with its turn.  The first turns come in the
order in which the parties were admitted (`FirstTurns`).
-/

/-- A queue, head first, and the party that has the turn. -/
structure RunQueue (α : Type*) where
  queue : List α
  current : Option α

namespace RunQueue

variable {α : Type*}

/-- Nobody is in the queue twice, or while it has the turn. -/
def Distinct (s : RunQueue α) : Prop := (s.current.toList ++ s.queue).Nodup

/-- More parties at the tail of the queue. -/
def admits (s : RunQueue α) (parties : List α) : RunQueue α :=
  { s with queue := s.queue ++ parties }

/-- What happens from a state on, with the parties that got the turn. -/
inductive Turns (s : RunQueue α) : List α → RunQueue α → Prop
  | refl : Turns s [] s
  | dispatch {ds : List α} {a : α} {q : List α} (h : Turns s ds ⟨a :: q, none⟩) :
      Turns s (ds ++ [a]) ⟨q, some a⟩
  | yield {ds : List α} {a : α} {q : List α} (h : Turns s ds ⟨q, some a⟩) :
      Turns s ds ⟨q ++ [a], none⟩
  | leave {ds : List α} {a : α} {q : List α} (h : Turns s ds ⟨q, some a⟩) : Turns s ds ⟨q, none⟩

namespace Turns

variable {s s' s'' : RunQueue α} {ds ds' : List α} {a : α} {q : List α}

lemma trans (h : Turns s ds s') (h' : Turns s' ds' s'') : Turns s (ds ++ ds') s'' := by
  induction h' with
  | refl => rwa [List.append_nil]
  | dispatch _ ih =>
    rw [← List.append_assoc]
    exact .dispatch ih
  | yield _ ih => exact .yield ih
  | leave _ ih => exact .leave ih

lemma distinct (h : Turns s ds s') (hs : s.Distinct) : s'.Distinct := by
  induction h with
  | refl => exact hs
  | dispatch _ ih => exact ih
  | @yield _ a q _ ih => exact (List.perm_append_singleton a q).nodup_iff.mpr ih
  | leave _ ih => exact (List.nodup_cons.mp ih).2

/-! ## Between two turns -/

/-- A party had the turn while others were queued, and has not got it again. -/
inductive Away (a : α) (q : List α) : List α → RunQueue α → Prop
  | running : Away a q [] ⟨q, some a⟩
  | gone {ds : List α} {s : RunQueue α} (hds : a ∉ ds) (hqueue : a ∉ s.queue)
      (hcurrent : s.current ≠ some a) : Away a q ds s
  | queued {ds : List α} {s : RunQueue α} (ahead behind : List α) (hds : ds ++ ahead = q)
      (hqueue : s.queue = ahead ++ a :: behind) (hcurrent : s.current ≠ some a) : Away a q ds s

lemma Away.notMem (h : Away a q ds s) (hq : a ∉ q) : a ∉ ds := by
  cases h with
  | running => exact List.not_mem_nil
  | gone hds hqueue hcurrent => exact hds
  | queued ahead behind hds hqueue hcurrent =>
    rw [← hds] at hq
    exact fun hmem => hq (List.mem_append_left _ hmem)

/-- Those ahead of a party get the turn, and then the party. -/
lemma Away.dispatch {b : α} {q' : List α} (h : Away a q ds ⟨b :: q', none⟩) (hq : a ∉ q) :
    Away a q (ds ++ [b]) ⟨q', some b⟩ ∨ ds ++ [b] = q ++ [a] := by
  cases h with
  | gone hds hqueue hcurrent =>
    rw [List.mem_cons, not_or] at hqueue
    obtain ⟨hne, hqueue⟩ := hqueue
    refine .inl (.gone ?_ hqueue fun h => hne (Option.some.inj h).symm)
    simpa [hds] using hne
  | queued ahead behind hds hqueue hcurrent =>
    cases ahead with
    | nil =>
      obtain ⟨rfl, rfl⟩ := List.cons.inj hqueue
      rw [← hds, List.append_nil]
      exact .inr rfl
    | cons b' ahead =>
      obtain ⟨rfl, hrest⟩ := List.cons.inj hqueue
      have hne : b ≠ a := by
        rintro rfl
        exact hq (by rw [← hds]; simp)
      refine .inl (.queued ahead behind ?_ hrest fun h => hne (Option.some.inj h))
      rwa [List.append_assoc]

/-- The party that had the turn has not got it again, or those that were queued got it before. -/
lemma away_or_returned (h : Turns ⟨q, some a⟩ ds s) (hq : a ∉ q) :
    Away a q ds s ∨ q ++ [a] <+: ds := by
  induction h with
  | refl => exact .inl .running
  | dispatch _ ih =>
    rcases ih with haway | hreturned
    · rcases haway.dispatch hq with haway | heq
      · exact .inl haway
      · exact .inr (heq ▸ List.prefix_rfl)
    · exact .inr (hreturned.trans (List.prefix_append _ _))
  | @yield ds b q' _ ih =>
    rcases ih with haway | hreturned
    · left
      cases haway with
      | running => exact .queued q [] rfl rfl nofun
      | gone hds hqueue hcurrent =>
        refine .gone hds ?_ nofun
        have hne : a ≠ b := fun h => hcurrent (congrArg some h.symm)
        simpa [hne] using hqueue
      | queued ahead behind hds hqueue hcurrent =>
        refine .queued ahead (behind ++ [b]) hds ?_ nofun
        rw [show q' = _ from hqueue, List.append_assoc, List.cons_append]
    · exact .inr hreturned
  | leave _ ih =>
    rcases ih with haway | hreturned
    · left
      cases haway with
      | running => exact .gone List.not_mem_nil hq nofun
      | gone hds hqueue hcurrent => exact .gone hds hqueue nofun
      | queued ahead behind hds hqueue hcurrent => exact .queued ahead behind hds hqueue nofun
    · exact .inr hreturned

/-- Between two turns of a party come those that were queued, in order. -/
theorem between {ds : List α} (h : Turns ⟨q, some a⟩ (ds ++ [a]) s) (hq : a ∉ q) (hds : a ∉ ds) :
    ds = q := by
  rcases h.away_or_returned hq with haway | ⟨rest, hreturned⟩
  · exact absurd (by simp) (haway.notMem hq)
  · rw [List.append_assoc, List.singleton_append] at hreturned
    rcases List.append_eq_append_iff.mp hreturned with ⟨c, rfl, hc⟩ | ⟨c, rfl, hc⟩
    · cases c with
      | nil => exact List.append_nil q
      | cons b c =>
        obtain ⟨rfl, -⟩ := List.cons.inj hc
        exact absurd (by simp) hds
    · cases c with
      | nil => exact (List.append_nil ds).symm
      | cons b c => simp at hc

end Turns

/-! ## First turns -/

variable [DecidableEq α]

/-- Those that got the turn, without repetitions, and those in the queue that did not get it yet,
are the parties in the order of their admission. -/
structure FirstTurns (parties ds : List α) (s : RunQueue α) : Prop where
  distinct : s.Distinct
  current : ∀ a ∈ s.current, a ∈ ds
  order : ds.eraseDups ++ s.queue.filter (· ∉ ds) = parties

namespace FirstTurns

variable {s s' : RunQueue α} {parties ds ds' : List α}

lemma dispatch {a : α} {q : List α} (h : FirstTurns parties ds ⟨a :: q, none⟩) :
    FirstTurns parties (ds ++ [a]) ⟨q, some a⟩ := by
  obtain ⟨hnotMem, -⟩ := List.nodup_cons.mp h.distinct
  have hq : q.filter (· ∉ ds ++ [a]) = q.filter (· ∉ ds) := by
    refine List.filter_congr fun b hb => ?_
    have hne : b ≠ a := fun heq => hnotMem (heq ▸ hb)
    simp [hne]
  have horder := h.order
  dsimp only at horder
  refine ⟨h.distinct, by simp, ?_⟩
  show (ds ++ [a]).eraseDups ++ q.filter (· ∉ ds ++ [a]) = parties
  rw [hq, List.eraseDups_append]
  by_cases ha : a ∈ ds
  · rw [List.filter_cons_of_neg (by simpa using ha)] at horder
    simpa [List.removeAll, ha] using horder
  · rw [List.filter_cons_of_pos (by simpa using ha)] at horder
    simpa [List.removeAll, ha, List.eraseDups_cons] using horder

lemma turns (h : FirstTurns parties ds s) (ht : Turns s ds' s') :
    FirstTurns parties (ds ++ ds') s' := by
  induction ht with
  | refl => rwa [List.append_nil]
  | dispatch _ ih =>
    rw [← List.append_assoc]
    exact ih.dispatch
  | @yield ds' a q ht ih =>
    refine ⟨(Turns.yield ht).distinct h.distinct, nofun, ?_⟩
    have ha := ih.current a rfl
    show _ ++ (q ++ [a]).filter _ = _
    rw [List.filter_append,
      List.filter_cons_of_neg (by rw [decide_eq_true_eq]; exact not_not.mpr ha),
      List.filter_nil, List.append_nil]
    exact ih.order
  | leave ht ih => exact ⟨(Turns.leave ht).distinct h.distinct, nofun, ih.order⟩

lemma mem_parties (h : FirstTurns parties ds s) {a : α} (ha : a ∈ s.current.toList ++ s.queue) :
    a ∈ parties := by
  rw [← h.order]
  by_cases hds : a ∈ ds
  · exact List.mem_append_left _ (List.mem_eraseDups.mpr hds)
  · rcases List.mem_append.mp ha with hcurrent | hqueue
    · exact absurd (h.current a (Option.mem_toList.mp hcurrent)) hds
    · exact List.mem_append_right _ (List.mem_filter.mpr ⟨hqueue, decide_eq_true hds⟩)

lemma admits (h : FirstTurns parties ds s) {new : List α} (hnew : (parties ++ new).Nodup) :
    FirstTurns (parties ++ new) ds (s.admits new) := by
  obtain ⟨-, hnodup, hdisjoint⟩ := List.nodup_append.mp hnew
  refine ⟨?_, h.current, ?_⟩
  · unfold Distinct RunQueue.admits
    rw [← List.append_assoc, List.nodup_append]
    exact ⟨h.distinct, hnodup, fun a ha b hb => hdisjoint a (h.mem_parties ha) b hb⟩
  · have hfilter : new.filter (· ∉ ds) = new := by
      rw [List.filter_eq_self]
      intro a ha
      rw [decide_eq_true_eq]
      intro hds
      refine hdisjoint a ?_ a ha rfl
      rw [← h.order]
      exact List.mem_append_left _ (List.mem_eraseDups.mpr hds)
    unfold RunQueue.admits
    rw [List.filter_append, hfilter, ← List.append_assoc, h.order]

end FirstTurns

end RunQueue
