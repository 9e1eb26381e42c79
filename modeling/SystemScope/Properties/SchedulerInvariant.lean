import Mathlib.Data.List.Perm.Subperm
import SystemScope.Framework.Runs
import SystemScope.Runtime.Scheduler

/-!
# The scheduler invariant

`Scheduler.Valid` is the invariant of every scheduler that started empty: pending sequence
numbers are distinct and assigned, pending events are after the cursor and never in `observe`,
the cursor's own sequence is assigned, and the S5 counter fits both the limit and the number of
sequence numbers handed out.  Its last field is what keeps the one unchecked addition of the
source in range (`counted_lt`): an event counted in the current phase, dispatched or
pending, used up a sequence number of its own, and those never reach `2 ^ 64`.
-/

namespace SystemScope.Scheduler

open scoped List

variable {T : Type*} {s : Scheduler T}

/-! ## The invariant -/

/-- The pending events in the `(tick, phase)` of the cursor. -/
def pendingInPhase (s : Scheduler T) : ℕ := s.heap.toList.countP fun e => s.samePhase e.key

lemma pendingInPhase_enqueue_le (s : Scheduler T) (next : UInt64) (e : Event T) :
    (s.enqueue next e).pendingInPhase ≤ s.pendingInPhase + 1 := by
  change List.countP (fun e : Event T => s.samePhase e.key) _ ≤ _
  rw [(s.enqueue_heap_toList next e).countP_eq, List.countP_cons, pendingInPhase]
  split <;> omega

/-- An event dispatched in the current phase moves from the pending ones to the counted ones. -/
lemma pendingInPhase_advance {e : Event T}
    {heap : BinaryHeap (Event.key : Event T → EventKey)} (hpop : s.heap.pop = some (e, heap))
    (hsame : s.samePhase e.key) :
    s.pendingInPhase = (s.advance e heap).pendingInPhase + 1 := by
  have hphase : ∀ e' : Event T, (s.advance e heap).samePhase e'.key = s.samePhase e'.key := by
    intro e'
    obtain ⟨last, hlast, htick, hph⟩ := samePhase_iff.mp hsame
    simp [samePhase, Scheduler.advance, hlast, htick, hph]
  unfold pendingInPhase
  rw [(BinaryHeap.pop_eq_some hpop).2.countP_eq, List.countP_cons, if_pos hsame]
  simp only [hphase]
  rfl

/-- The part of the invariant that concerns the pending events alone. -/
structure Queued (s : Scheduler T) : Prop where
  nodup : (s.heap.toList.map fun e => e.key.sequence).Nodup
  assigned : ∀ e ∈ s.heap.toList, e.key.sequence < s.nextSequence
  not_observe : ∀ e ∈ s.heap.toList, e.key.phase ≠ .observe

/-- The invariant of every scheduler that started empty. -/
structure Valid (s : Scheduler T) : Prop extends Queued s where
  after_cursor : ∀ last, s.lastDispatched = some last → ∀ e ∈ s.heap.toList, last < e.key
  cursor_assigned : ∀ last, s.lastDispatched = some last → last.sequence < s.nextSequence
  count_zero : s.lastDispatched = none → s.dispatchedInPhase = 0
  count_pos : ∀ last, s.lastDispatched = some last → 1 ≤ s.dispatchedInPhase
  count_le : ∀ last, s.lastDispatched = some last →
    s.dispatchedInPhase ≤ s.config.maxEventsPerPhase
  counted : s.dispatchedInPhase.toNat + s.pendingInPhase ≤ s.nextSequence.toNat

lemma new_valid (config : SchedulerConfig) : (new config : Scheduler T).Valid where
  nodup := by simp [new]
  assigned := by simp [new]
  not_observe := by simp [new]
  after_cursor := by simp [new]
  cursor_assigned := by simp [new]
  count_zero := by simp [new]
  count_pos := by simp [new]
  count_le := by simp [new]
  counted := by simp [new, pendingInPhase]

/-- Pending events with equal keys are equal. -/
lemma Queued.nodup_keys (h : s.Queued) : (s.heap.toList.map Event.key).Nodup := by
  refine List.Nodup.of_map EventKey.sequence ?_
  rw [List.map_map]
  exact h.nodup

/-- There are at most as many pending events as sequence numbers handed out. -/
lemma Queued.length_le (h : s.Queued) : s.heap.toList.length ≤ s.nextSequence.toNat := by
  have hinj : Function.Injective UInt64.toNat := fun _ _ => UInt64.toNat_inj.mp
  have hnodup := h.nodup.map hinj
  have hsub : (s.heap.toList.map fun e => e.key.sequence).map UInt64.toNat ⊆
      List.range s.nextSequence.toNat := by
    intro n hn
    simp only [List.map_map, List.mem_map, Function.comp_apply] at hn
    obtain ⟨e, he, rfl⟩ := hn
    exact List.mem_range.mpr (UInt64.lt_iff_toNat_lt.mp (h.assigned e he))
  have hlen := (List.subperm_of_subset hnodup hsub).length_le
  simpa using hlen

/-- The successor of the sequence counter, when it is not exhausted. -/
lemma Admits.toNat_succ {tick : Tick} {phase : Phase} (h : s.Admits tick phase) :
    (s.nextSequence + 1).toNat = s.nextSequence.toNat + 1 :=
  UInt64.checkedSucc_eq_some.mp (if_pos h.sequence_left)

lemma Queued.enqueue (h : s.Queued) {tick : Tick} {phase : Phase} (ha : s.Admits tick phase)
    (payload : T) :
    (s.enqueue (s.nextSequence + 1) ⟨⟨tick, phase, s.nextSequence⟩, payload⟩).Queued := by
  have hperm := s.enqueue_heap_toList (s.nextSequence + 1)
    ⟨⟨tick, phase, s.nextSequence⟩, payload⟩
  refine ⟨?_, ?_, ?_⟩
  · refine (hperm.map fun e => e.key.sequence).nodup_iff.mpr ?_
    rw [List.map_cons, List.nodup_cons]
    refine ⟨fun hmem => ?_, h.nodup⟩
    obtain ⟨e, he, heq⟩ := List.mem_map.mp hmem
    exact absurd heq (h.assigned e he).ne
  · intro e he
    change e.key.sequence < s.nextSequence + 1
    rw [UInt64.lt_iff_toNat_lt, ha.toNat_succ]
    rcases List.mem_cons.mp (hperm.mem_iff.mp he) with rfl | he
    · exact Nat.lt_succ_self _
    · exact Nat.lt_succ_of_lt (UInt64.lt_iff_toNat_lt.mp (h.assigned e he))
  · intro e he
    rcases List.mem_cons.mp (hperm.mem_iff.mp he) with rfl | he
    · exact ha.not_observe
    · exact h.not_observe e he

lemma Queued.advance (h : s.Queued) {e : Event T}
    {heap : BinaryHeap (Event.key : Event T → EventKey)} (hpop : s.heap.pop = some (e, heap)) :
    (s.advance e heap).Queued := by
  have hperm := (BinaryHeap.pop_eq_some hpop).2
  have hmem : ∀ e' ∈ heap.toList, e' ∈ s.heap.toList :=
    fun e' he' => hperm.mem_iff.mpr (List.mem_cons_of_mem _ he')
  refine ⟨?_, fun e' he' => h.assigned e' (hmem e' he'),
    fun e' he' => h.not_observe e' (hmem e' he')⟩
  have hnodup := (hperm.map fun e => e.key.sequence).nodup_iff.mp h.nodup
  rw [List.map_cons, List.nodup_cons] at hnodup
  exact hnodup.2

/-- What stays pending is strictly after what is dispatched. -/
lemma Queued.lt_of_pop (h : s.Queued) {e : Event T}
    {heap : BinaryHeap (Event.key : Event T → EventKey)} (hpop : s.heap.pop = some (e, heap)) :
    ∀ e' ∈ heap.toList, e.key < e'.key := by
  intro e' he'
  obtain ⟨hpeek, hperm⟩ := BinaryHeap.pop_eq_some hpop
  have hle := (BinaryHeap.peek_eq_some hpeek).2 e' (hperm.mem_iff.mpr (List.mem_cons_of_mem _ he'))
  refine lt_of_le_of_ne hle fun heq => ?_
  have hnodup := (hperm.map Event.key).nodup_iff.mp h.nodup_keys
  rw [List.map_cons, List.nodup_cons] at hnodup
  exact hnodup.1 (heq ▸ List.mem_map_of_mem he')

/-- A newly scheduled event is not in an earlier phase than the cursor. -/
lemma Admits.slot_le {tick : Tick} {phase : Phase} (h : s.Admits tick phase) {last : EventKey}
    (hlast : s.lastDispatched = some last) :
    last.tick < tick ∨ last.tick = tick ∧ last.phase ≤ phase := by
  have hnow := h.now_le
  have hphase := h.phase_le
  rw [now_of_some hlast] at hnow hphase
  rw [phase_of_some hlast] at hphase
  exact hnow.lt_or_eq.imp_right fun heq => ⟨heq, hphase heq.symm⟩

/-- A newly scheduled event is after a cursor whose sequence number is assigned. -/
lemma Admits.cursor_lt {tick : Tick} {phase : Phase} (h : s.Admits tick phase) {last : EventKey}
    (hlast : s.lastDispatched = some last) (hseq : last.sequence < s.nextSequence) :
    last < ⟨tick, phase, s.nextSequence⟩ := by
  rw [EventKey.lt_iff]
  rcases h.slot_le hlast with hlt | ⟨heq, hphase⟩
  · exact .inl hlt
  · exact .inr ⟨heq, hphase.lt_or_eq.imp_right fun heq' => ⟨heq', hseq⟩⟩

/-! ## The invariant is preserved -/

lemma Valid.enqueue (h : s.Valid) {tick : Tick} {phase : Phase} (ha : s.Admits tick phase)
    (payload : T) :
    (s.enqueue (s.nextSequence + 1) ⟨⟨tick, phase, s.nextSequence⟩, payload⟩).Valid := by
  have hperm := s.enqueue_heap_toList (s.nextSequence + 1)
    ⟨⟨tick, phase, s.nextSequence⟩, payload⟩
  refine ⟨h.toQueued.enqueue ha payload, ?_, ?_, h.count_zero, h.count_pos, h.count_le, ?_⟩
  · intro last hlast e he
    rcases List.mem_cons.mp (hperm.mem_iff.mp he) with rfl | he
    · exact ha.cursor_lt hlast (h.cursor_assigned last hlast)
    · exact h.after_cursor last hlast e he
  · intro last hlast
    have hlt := UInt64.lt_iff_toNat_lt.mp (h.cursor_assigned last hlast)
    change last.sequence < s.nextSequence + 1
    rw [UInt64.lt_iff_toNat_lt, ha.toNat_succ]
    omega
  · have hcount := s.pendingInPhase_enqueue_le (s.nextSequence + 1)
      ⟨⟨tick, phase, s.nextSequence⟩, payload⟩
    have hcounted := h.counted
    change s.dispatchedInPhase.toNat + _ ≤ (s.nextSequence + 1).toNat
    rw [ha.toNat_succ]
    omega

/-- With a same-phase event pending, the S5 counter is below `2 ^ 64 - 1`. -/
lemma counted_lt (hcounted : s.dispatchedInPhase.toNat + s.pendingInPhase ≤ s.nextSequence.toNat)
    {e : Event T} (he : e ∈ s.heap.toList) (hsame : s.samePhase e.key) :
    s.dispatchedInPhase.toNat + 1 < 2 ^ 64 := by
  have hpos : 0 < s.pendingInPhase := List.countP_pos_iff.mpr ⟨e, he, hsame⟩
  have hmax := s.nextSequence.toNat_lt
  omega

lemma countFor_toNat {key : EventKey}
    (hlt : s.samePhase key → s.dispatchedInPhase.toNat + 1 < 2 ^ 64) :
    (s.countFor key).toNat = if s.samePhase key then s.dispatchedInPhase.toNat + 1 else 1 := by
  unfold countFor
  split
  next hsame => exact UInt64.checkedSucc_eq_some.mp (if_pos (hlt hsame))
  next => rfl

/-- The events left pending after a dispatch have sequence numbers of their own. -/
lemma Queued.pendingInPhase_advance_lt (h : s.Queued) {e : Event T}
    {heap : BinaryHeap (Event.key : Event T → EventKey)} (hpop : s.heap.pop = some (e, heap)) :
    (s.advance e heap).pendingInPhase < s.nextSequence.toNat := by
  have hpend : (s.advance e heap).pendingInPhase ≤ heap.toList.length := List.countP_le_length
  have hlen := h.length_le
  rw [(BinaryHeap.pop_eq_some hpop).2.length_eq, List.length_cons] at hlen
  omega

/-- A dispatch keeps the S5 counter covered by the sequence numbers handed out. -/
lemma Queued.counted_advance (h : s.Queued)
    (hcounted : s.dispatchedInPhase.toNat + s.pendingInPhase ≤ s.nextSequence.toNat)
    {e : Event T} {heap : BinaryHeap (Event.key : Event T → EventKey)}
    (hpop : s.heap.pop = some (e, heap)) :
    (s.advance e heap).dispatchedInPhase.toNat + (s.advance e heap).pendingInPhase ≤
      s.nextSequence.toNat := by
  have he : e ∈ s.heap.toList := (BinaryHeap.pop_eq_some hpop).2.mem_iff.mpr List.mem_cons_self
  change (s.countFor e.key).toNat + (s.advance e heap).pendingInPhase ≤ _
  rw [countFor_toNat (counted_lt hcounted he)]
  split
  next hsame =>
    have hpend := pendingInPhase_advance hpop hsame
    omega
  next =>
    -- A new phase starts at one.
    have hpend := h.pendingInPhase_advance_lt hpop
    omega

lemma Valid.advance (h : s.Valid) {e : Event T}
    {heap : BinaryHeap (Event.key : Event T → EventKey)} (hpop : s.heap.pop = some (e, heap))
    (hlimit : s.countFor e.key ≤ s.config.maxEventsPerPhase) : (s.advance e heap).Valid := by
  obtain ⟨-, hperm⟩ := BinaryHeap.pop_eq_some hpop
  have he : e ∈ s.heap.toList := hperm.mem_iff.mpr List.mem_cons_self
  refine ⟨h.toQueued.advance hpop, ?_, ?_, ?_, ?_, ?_, h.toQueued.counted_advance h.counted hpop⟩
  · rintro last hlast e' he'
    obtain rfl : e.key = last := Option.some.inj hlast
    exact h.toQueued.lt_of_pop hpop e' he'
  · rintro last hlast
    obtain rfl : e.key = last := Option.some.inj hlast
    exact h.assigned e he
  · intro hnone
    cases hnone
  · rintro last -
    have hcount := countFor_toNat (counted_lt h.counted he)
    change 1 ≤ s.countFor e.key
    rw [UInt64.le_iff_toNat_le, hcount, UInt64.toNat_one]
    split <;> omega
  · rintro last -
    exact hlimit

/-- Every call keeps the invariant. -/
lemma Valid.apply (h : s.Valid) (c : Call T) : (s.apply c).2.Valid := by
  rcases s.apply_cases c with ⟨hsame, -, -⟩ | ⟨tick, phase, payload, rfl, ha, heq⟩ |
    ⟨e, heap, rfl, hpop, hlimit, heq⟩
  · rwa [hsame]
  · rw [heq]
    exact h.enqueue ha payload
  · rw [heq]
    exact h.advance hpop hlimit

lemma exec_valid (config : SchedulerConfig) (calls : List (Call T)) :
    (Machine.exec apply (new config) calls).2.Valid :=
  Machine.exec_invariant (I := Valid) (fun _ c h => h.apply c) (new_valid config) calls

/-- The addition in `pop` stays in range if it does for every pending event. -/
lemma not_popOverflows (h : ∀ e ∈ s.heap.toList, s.samePhase e.key →
    s.dispatchedInPhase.toNat + 1 < 2 ^ 64) : ¬s.popOverflows := by
  rintro ⟨next, hpeek, hsame, hover⟩
  obtain ⟨e, heap, hpop, -, rfl⟩ := peekKey_eq_some hpeek
  obtain ⟨-, hperm⟩ := BinaryHeap.pop_eq_some hpop
  have hlt := h e (hperm.mem_iff.mpr List.mem_cons_self) hsame
  omega

end SystemScope.Scheduler
