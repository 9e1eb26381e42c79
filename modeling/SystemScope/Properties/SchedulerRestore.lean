import SystemScope.Properties.SchedulerSnapshot

/-!
# What restore does not check

`Scheduler.restore` means to reject every snapshot that no valid operations could have produced.
It checks the queue against the cursor and against `next_sequence`, and the S5 count against the
limit, but never the cursor against `next_sequence`, nor the count against the number of events
that can have run.  Three kinds of accepted snapshot therefore go wrong later (`Hazard`):

* *reentry*: sequence numbers at or below the cursor's are still to be handed out, and the
  cursor's phase is open, so an event scheduled there runs at or before the cursor;
* *reuse*: the counter will arrive at the cursor's own sequence number;
* *wrap*: without an effective limit, the phase can still take so many events that the S5
  counter passes `2 ^ 64 - 1`.

`Hazard` is exact.  A restored scheduler without one keeps the invariant `Steady`, and every run
from it is safe; with one, some run is not (`scheduler_restore_safe_iff`).
-/

namespace SystemScope

open scoped List

namespace Scheduler

variable {T : Type*} {s : Scheduler T}

/-! ## Safe runs -/

/-- What a run owes its caller: dispatched keys increase from the cursor on, no sequence number
in use is handed out, and the S5 counter stays in range. -/
structure SafeRun (s : Scheduler T) (calls : List (Call T)) : Prop where
  increasing : (s.lastDispatched.toList ++
    (dispatchedIn (Machine.exec apply s calls).1).map Event.key).Pairwise (· < ·)
  fresh : ∀ tick phase payload key,
    ((Machine.exec apply s calls).2.schedule tick phase payload).1 = .ok key →
      (∀ e ∈ (Machine.exec apply s calls).2.heap.toList, e.key.sequence ≠ key.sequence) ∧
      ∀ last, (Machine.exec apply s calls).2.lastDispatched = some last →
        last.sequence ≠ key.sequence
  no_overflow : ¬(Machine.exec apply s calls).2.popOverflows

/-- How a cursor can be wrong: `limit` is the S5 limit, `count` the events counted in the phase
of `last`, `next` the next sequence number, and `inPhase` the events pending in that phase. -/
inductive Hazard (limit count next : UInt64) (last : EventKey) (inPhase : ℕ) : Prop
  | reentry (unassigned : next ≤ last.sequence) (left : next.toNat + 1 < 2 ^ 64)
      (phase : last.phase ≠ .observe) (room : count < limit)
  | reuse (unassigned : next ≤ last.sequence) (left : last.sequence.toNat + 1 < 2 ^ 64)
      (later : ¬(last.tick.toNat + 1 = 2 ^ 64 ∧ last.phase = .observe))
  | wrap (unlimited : limit.toNat + 1 = 2 ^ 64) (phase : last.phase ≠ .observe)
      (uncounted : next.toNat < count.toNat + inPhase)

/-- The hazard of a scheduler at its own cursor. -/
def HasHazard (s : Scheduler T) (last : EventKey) : Prop :=
  Hazard s.config.maxEventsPerPhase s.dispatchedInPhase s.nextSequence last s.pendingInPhase

/-- The invariant of a restored scheduler without a hazard.  A pending event may precede the
cursor only where S5 keeps it from ever running. -/
structure Steady (s : Scheduler T) : Prop extends Queued s where
  after_cursor : ∀ last, s.lastDispatched = some last → ∀ e ∈ s.heap.toList,
    last < e.key ∨ s.samePhase e.key ∧ s.config.maxEventsPerPhase ≤ s.dispatchedInPhase
  count_le : ∀ last, s.lastDispatched = some last →
    s.dispatchedInPhase ≤ s.config.maxEventsPerPhase
  no_hazard : ∀ last, s.lastDispatched = some last → ¬s.HasHazard last

/-! ## Without a hazard every run is safe -/

/-- No pending event of the cursor's phase makes the counter leave its range. -/
lemma Steady.count_lt (h : s.Steady) {e : Event T} (he : e ∈ s.heap.toList)
    (hsame : s.samePhase e.key) : s.dispatchedInPhase.toNat + 1 < 2 ^ 64 := by
  obtain ⟨last, hlast, -, hphase⟩ := samePhase_iff.mp hsame
  have hle := UInt64.le_iff_toNat_le.mp (h.count_le last hlast)
  have hmax := s.config.maxEventsPerPhase.toNat_lt
  have hnext := s.nextSequence.toNat_lt
  have hpos : 0 < s.pendingInPhase := List.countP_pos_iff.mpr ⟨e, he, hsame⟩
  by_contra hge
  refine h.no_hazard last hlast (.wrap (by omega) ?_ (by omega))
  exact hphase ▸ h.not_observe e he

lemma Steady.cursor_lt (h : s.Steady) {e : Event T} (he : e ∈ s.heap.toList)
    (hlimit : s.countFor e.key ≤ s.config.maxEventsPerPhase) {last : EventKey}
    (hlast : s.lastDispatched = some last) : last < e.key := by
  rcases h.after_cursor last hlast e he with hlt | ⟨hsame, hfull⟩
  · exact hlt
  · rw [UInt64.le_iff_toNat_le, countFor_toNat (h.count_lt he), if_pos hsame] at hlimit
    rw [UInt64.le_iff_toNat_le] at hfull
    omega

lemma Steady.enqueue (h : s.Steady) {tick : Tick} {phase : Phase} (ha : s.Admits tick phase)
    (payload : T) :
    (s.enqueue (s.nextSequence + 1) ⟨⟨tick, phase, s.nextSequence⟩, payload⟩).Steady := by
  have hperm := s.enqueue_heap_toList (s.nextSequence + 1)
    ⟨⟨tick, phase, s.nextSequence⟩, payload⟩
  refine ⟨h.toQueued.enqueue ha payload, ?_, h.count_le, ?_⟩
  · intro last hlast e he
    rcases List.mem_cons.mp (hperm.mem_iff.mp he) with rfl | he
    · by_cases hseq : last.sequence < s.nextSequence
      · exact .inl (ha.cursor_lt hlast hseq)
      · -- Only the cursor's own phase is in question, and there S5 must be exhausted.
        rcases ha.slot_le hlast with hlt | ⟨htick, hphase⟩
        · exact .inl (EventKey.lt_iff.mpr (.inl hlt))
        rcases hphase.lt_or_eq with hlt | hphase
        · exact .inl (EventKey.lt_iff.mpr (.inr ⟨htick, .inl hlt⟩))
        refine .inr ⟨samePhase_iff.mpr ⟨last, hlast, htick, hphase⟩, not_lt.mp fun hroom => ?_⟩
        exact h.no_hazard last hlast
          (.reentry (not_lt.mp hseq) ha.sequence_left (hphase ▸ ha.not_observe) hroom)
    · exact h.after_cursor last hlast e he
  · intro last hlast hhaz
    have hcount := s.pendingInPhase_enqueue_le (s.nextSequence + 1)
      ⟨⟨tick, phase, s.nextSequence⟩, payload⟩
    have hsucc := ha.toNat_succ
    refine h.no_hazard last hlast ?_
    -- A larger counter only makes every hazard harder to meet.
    cases hhaz with
    | reentry hun _ hphase hroom =>
      have hun' : (s.nextSequence + 1).toNat ≤ last.sequence.toNat := UInt64.le_iff_toNat_le.mp hun
      exact .reentry (UInt64.le_iff_toNat_le.mpr (by omega)) ha.sequence_left hphase hroom
    | reuse hun hleft hlater =>
      have hun' : (s.nextSequence + 1).toNat ≤ last.sequence.toNat := UInt64.le_iff_toNat_le.mp hun
      exact .reuse (UInt64.le_iff_toNat_le.mpr (by omega)) hleft hlater
    | wrap hmax hphase hun =>
      have hun' : (s.nextSequence + 1).toNat < s.dispatchedInPhase.toNat + _ := hun
      exact .wrap hmax hphase (by omega)

lemma Steady.advance (h : s.Steady) {e : Event T}
    {heap : BinaryHeap (Event.key : Event T → EventKey)} (hpop : s.heap.pop = some (e, heap))
    (hlimit : s.countFor e.key ≤ s.config.maxEventsPerPhase) : (s.advance e heap).Steady := by
  obtain ⟨-, hperm⟩ := BinaryHeap.pop_eq_some hpop
  have he : e ∈ s.heap.toList := hperm.mem_iff.mpr List.mem_cons_self
  refine ⟨h.toQueued.advance hpop, ?_, fun _ _ => hlimit, ?_⟩
  · rintro last hlast e' he'
    obtain rfl : e.key = last := Option.some.inj hlast
    exact .inl (h.toQueued.lt_of_pop hpop e' he')
  · rintro last hlast hhaz
    obtain rfl : e.key = last := Option.some.inj hlast
    -- The new cursor's own sequence number is assigned, which leaves the counter.
    cases hhaz with
    | reentry hun => exact absurd hun (not_le.mpr (h.assigned e he))
    | reuse hun => exact absurd hun (not_le.mpr (h.assigned e he))
    | wrap hmax hphase hun =>
      have hun' : s.nextSequence.toNat < (s.countFor e.key).toNat +
        (s.advance e heap).pendingInPhase := hun
      rw [countFor_toNat (h.count_lt he)] at hun'
      split at hun'
      next hsame =>
        obtain ⟨last, hlast', htick, hph⟩ := samePhase_iff.mp hsame
        have hpend := pendingInPhase_advance hpop hsame
        refine h.no_hazard last hlast' (.wrap hmax (hph ▸ hphase) ?_)
        omega
      next =>
        have hpend := h.toQueued.pendingInPhase_advance_lt hpop
        omega

/-- Every call keeps the invariant. -/
lemma Steady.apply (h : s.Steady) (c : Call T) : (s.apply c).2.Steady := by
  rcases s.apply_cases c with ⟨hsame, -, -⟩ | ⟨tick, phase, payload, rfl, ha, heq⟩ |
    ⟨e, heap, rfl, hpop, hlimit, heq⟩
  · rwa [hsame]
  · rw [heq]
    exact h.enqueue ha payload
  · rw [heq]
    exact h.advance hpop hlimit

/-- A sequence number handed out belongs to no pending event and not to the cursor. -/
lemma Steady.fresh (h : s.Steady) {tick : Tick} {phase : Phase} {payload : T} {key : EventKey}
    (hok : (s.schedule tick phase payload).1 = .ok key) :
    (∀ e ∈ s.heap.toList, e.key.sequence ≠ key.sequence) ∧
      ∀ last, s.lastDispatched = some last → last.sequence ≠ key.sequence := by
  by_cases ha : s.Admits tick phase
  · rw [schedule_of_admits ha] at hok
    obtain rfl := Except.ok.inj hok
    refine ⟨fun e he => (h.assigned e he).ne, fun last hlast heq => ?_⟩
    -- Handing out the cursor's own number would be the second hazard.
    refine h.no_hazard last hlast (.reuse heq.ge (heq ▸ ha.sequence_left) ?_)
    rintro ⟨htick, hobs⟩
    rcases ha.slot_le hlast with hlt | ⟨-, hphase⟩
    · have hlt' := UInt64.lt_iff_toNat_lt.mp hlt
      have hmax := tick.toNat_lt
      omega
    · rw [hobs, Phase.observe_le] at hphase
      exact ha.not_observe hphase
  · obtain ⟨e, he⟩ := schedule_of_not_admits ha payload
    rw [he] at hok
    cases hok

lemma Steady.safeRun (h : s.Steady) (calls : List (Call T)) : SafeRun s calls := by
  have hend := Machine.exec_invariant (I := Steady) (fun _ c h => h.apply c) h calls
  refine ⟨?_, fun _ _ _ _ hok => hend.fresh hok,
    not_popOverflows fun _ he hsame => hend.count_lt he hsame⟩
  refine dispatchedIn_increasing (I := Steady) (fun _ c h => h.apply c)
    (fun s e heap h hpop hlimit last hlast => ?_) h calls
  exact h.cursor_lt ((BinaryHeap.pop_eq_some hpop).2.mem_iff.mpr List.mem_cons_self) hlimit hlast

/-! ## With a hazard some run is not -/

/-- An event is not in an earlier phase than the cursor. -/
def NotBehind (s : Scheduler T) (key : EventKey) : Prop :=
  ∀ last, s.lastDispatched = some last →
    last.tick < key.tick ∨ last.tick = key.tick ∧ last.phase ≤ key.phase

/-- The first event is in the cursor's phase, if any pending event is. -/
lemma samePhase_of_pop {e e' : Event T} {heap : BinaryHeap (Event.key : Event T → EventKey)}
    (hbehind : ∀ e ∈ s.heap.toList, s.NotBehind e.key) (hpop : s.heap.pop = some (e, heap))
    (he' : e' ∈ s.heap.toList) (hsame : s.samePhase e'.key) : s.samePhase e.key := by
  obtain ⟨last, hlast, htick, hphase⟩ := samePhase_iff.mp hsame
  obtain ⟨hmem, hmin⟩ := BinaryHeap.peek_eq_some (BinaryHeap.pop_eq_some hpop).1
  have hle := EventKey.le_iff.mp (hmin e' he')
  rw [← htick, ← hphase] at hle
  refine samePhase_iff.mpr ⟨last, hlast, ?_⟩
  rcases hbehind e hmem last hlast with hlt | ⟨heq, hph⟩
  · rcases hle with hle | ⟨hle, -⟩
    · exact absurd hle hlt.asymm
    · exact absurd hle hlt.ne'
  · rw [← heq] at hle
    refine ⟨heq, ?_⟩
    rcases hle with hle | ⟨-, hle | ⟨hle, -⟩⟩
    · exact absurd hle (lt_irrefl _)
    · exact absurd hph (not_le.mpr hle)
    · exact hle.symm

/-- Scheduling into the cursor's phase a sequence number below the cursor's, and running it. -/
lemma not_safeRun_of_reentry {last : EventKey} (hlast : s.lastDispatched = some last)
    (hafter : ∀ e ∈ s.heap.toList, last < e.key) (hun : s.nextSequence ≤ last.sequence)
    (hleft : s.nextSequence.toNat + 1 < 2 ^ 64) (hphase : last.phase ≠ .observe)
    (hroom : s.dispatchedInPhase < s.config.maxEventsPerPhase) (payload : T) :
    ¬SafeRun s [.schedule last.tick last.phase payload, .pop] := by
  intro hsafe
  have ha : s.Admits last.tick last.phase :=
    ⟨hphase, (now_of_some hlast).le, fun _ => (phase_of_some hlast).le, hleft⟩
  let new : Event T := ⟨⟨last.tick, last.phase, s.nextSequence⟩, payload⟩
  have hnew : new.key ≤ last := EventKey.le_iff.mpr (.inr ⟨rfl, .inr ⟨rfl, hun⟩⟩)
  have hperm := s.enqueue_heap_toList (s.nextSequence + 1) new
  have hmem : new ∈ (s.enqueue (s.nextSequence + 1) new).heap.toList :=
    hperm.mem_iff.mpr List.mem_cons_self
  cases hpop : (s.enqueue (s.nextSequence + 1) new).heap.pop with
  | none => simp [BinaryHeap.pop_eq_none.mp hpop] at hmem
  | some r =>
    obtain ⟨e, heap⟩ := r
    obtain ⟨he, hmin⟩ := BinaryHeap.peek_eq_some (BinaryHeap.pop_eq_some hpop).1
    have hle : e.key ≤ last := (hmin new hmem).trans hnew
    -- Every event that was pending before is after the cursor, so `e` is the new one.
    have hee : e = new := by
      rcases List.mem_cons.mp (hperm.mem_iff.mp he) with rfl | hold
      · rfl
      · exact absurd hle (not_le.mpr (hafter e hold))
    have hlimit : ¬s.config.maxEventsPerPhase < s.countFor e.key := by
      have hroom' := UInt64.lt_iff_toNat_lt.mp hroom
      have hmax := s.config.maxEventsPerPhase.toNat_lt
      rw [UInt64.lt_iff_toNat_lt, countFor_toNat fun _ => by omega]
      split <;> omega
    have hrun : (Machine.exec Scheduler.apply s
        [.schedule last.tick last.phase payload, .pop]).1 =
        [.scheduled (.ok new.key), .popped (.ok (some e))] := by
      have hpop' : (s.enqueue (s.nextSequence + 1) new).pop =
          (.ok (some e), (s.enqueue (s.nextSequence + 1) new).advance e heap) := by
        rw [pop_of_pop hpop]
        exact if_neg hlimit
      simp only [Machine.exec_cons, Machine.exec_nil, Scheduler.apply, schedule_of_admits ha]
      exact congrArg (fun r => [_, Outcome.popped r.1]) hpop'
    have hinc := hsafe.increasing
    rw [hlast, hrun] at hinc
    have hlt : last < e.key :=
      List.rel_of_pairwise_cons hinc (by simp [dispatchedIn, Outcome.dispatched])
    exact absurd hle (not_le.mpr hlt)

/-- Scheduling over and over at one place, as long as sequence numbers last. -/
lemma exec_schedules {tick : Tick} {phase : Phase} (hphase : phase ≠ .observe) (payload : T)
    (k : ℕ) (s : Scheduler T) (hnow : s.now ≤ tick) (hle : tick = s.now → s.phase ≤ phase)
    (hk : s.nextSequence.toNat + k < 2 ^ 64) :
    let t := (Machine.exec Scheduler.apply s (List.replicate k (.schedule tick phase payload))).2
    t.config = s.config ∧ t.lastDispatched = s.lastDispatched ∧
      t.dispatchedInPhase = s.dispatchedInPhase ∧
      t.nextSequence.toNat = s.nextSequence.toNat + k ∧
      ∃ added, t.heap.toList ~ added ++ s.heap.toList ∧ added.length = k ∧
        ∀ e ∈ added, e.key.tick = tick ∧ e.key.phase = phase := by
  induction k generalizing s with
  | zero => exact ⟨rfl, rfl, rfl, rfl, [], .rfl, rfl, by simp⟩
  | succ k ih =>
    have ha : s.Admits tick phase := ⟨hphase, hnow, hle, by omega⟩
    let new : Event T := ⟨⟨tick, phase, s.nextSequence⟩, payload⟩
    have hstep : (s.apply (.schedule tick phase payload)).2 =
        s.enqueue (s.nextSequence + 1) new := by
      simp only [Scheduler.apply, schedule_of_admits ha, new]
    have hsucc : (s.enqueue (s.nextSequence + 1) new).nextSequence.toNat =
        s.nextSequence.toNat + 1 := ha.toNat_succ
    obtain ⟨hconfig, hlast, hcount, hnext, added, hperm, hlen, hadded⟩ :=
      ih (s.enqueue (s.nextSequence + 1) new) hnow hle (by omega)
    simp only [List.replicate_succ, Machine.exec_cons, hstep]
    refine ⟨hconfig, hlast, hcount, by omega, added ++ [new], ?_, by simp [hlen], ?_⟩
    · rw [List.append_assoc]
      exact hperm.trans ((s.enqueue_heap_toList _ new).append_left added)
    · exact List.forall_mem_append.mpr ⟨hadded, List.forall_mem_singleton.mpr ⟨rfl, rfl⟩⟩

/-- Handing out numbers until the cursor's own comes up. -/
lemma exists_not_safeRun_of_reuse {last : EventKey} (hlast : s.lastDispatched = some last)
    (hun : s.nextSequence ≤ last.sequence) (hleft : last.sequence.toNat + 1 < 2 ^ 64)
    (hlater : ¬(last.tick.toNat + 1 = 2 ^ 64 ∧ last.phase = .observe)) (payload : T) :
    ∃ calls, ¬SafeRun s calls := by
  obtain ⟨tick, phase, hobs, hnow, hle⟩ : ∃ tick phase, phase ≠ Phase.observe ∧ s.now ≤ tick ∧
      (tick = s.now → s.phase ≤ phase) := by
    rw [now_of_some hlast, phase_of_some hlast]
    by_cases hphase : last.phase = .observe
    · -- The phase is closed, but there is a next tick.
      have hmax := last.tick.toNat_lt
      have hne : last.tick.toNat + 1 ≠ 2 ^ 64 := fun h => hlater ⟨h, hphase⟩
      have hsucc : (last.tick + 1).toNat = last.tick.toNat + 1 :=
        UInt64.checkedSucc_eq_some.mp (if_pos (by omega))
      have hlt : last.tick < last.tick + 1 := by
        rw [UInt64.lt_iff_toNat_lt]
        omega
      exact ⟨last.tick + 1, .request, by decide, hlt.le, fun h => absurd h hlt.ne'⟩
    · exact ⟨last.tick, last.phase, hphase, le_rfl, fun _ => le_rfl⟩
  have hun' := UInt64.le_iff_toNat_le.mp hun
  obtain ⟨-, hlast', -, hnext, -⟩ := exec_schedules hobs payload
    (last.sequence.toNat - s.nextSequence.toNat) s hnow hle (by omega)
  set calls := List.replicate (last.sequence.toNat - s.nextSequence.toNat)
    (Call.schedule tick phase payload)
  set t := (Machine.exec Scheduler.apply s calls).2
  refine ⟨calls, fun hsafe => ?_⟩
  have hseq : t.nextSequence = last.sequence := UInt64.toNat_inj.mp (by omega)
  have ha : t.Admits tick phase := by
    refine ⟨hobs, ?_, ?_, by omega⟩
    · rwa [now, hlast']
    · rwa [now, Scheduler.phase, hlast']
  have hok : (t.schedule tick phase payload).1 = .ok ⟨tick, phase, t.nextSequence⟩ := by
    rw [schedule_of_admits ha]
  exact (hsafe.fresh tick phase payload _ hok).2 last (hlast'.trans hlast) hseq.symm

/-- Running the events of one phase until the counter is at its last value. -/
lemma exists_popOverflows (hmax : s.config.maxEventsPerPhase.toNat + 1 = 2 ^ 64)
    (hbehind : ∀ e ∈ s.heap.toList, s.NotBehind e.key)
    (hcount : 2 ^ 64 ≤ s.dispatchedInPhase.toNat + s.pendingInPhase) :
    ∃ calls, (Machine.exec Scheduler.apply s calls).2.popOverflows := by
  -- Each dispatch takes one event out of the phase and brings the counter one closer.
  induction hn : 2 ^ 64 - 1 - s.dispatchedInPhase.toNat generalizing s with
  | zero =>
    have hlt := s.dispatchedInPhase.toNat_lt
    obtain ⟨e', he', hsame'⟩ := List.countP_pos_iff.mp (show 0 < s.pendingInPhase by omega)
    cases hpop : s.heap.pop with
    | none => simp [BinaryHeap.pop_eq_none.mp hpop] at he'
    | some r =>
      obtain ⟨e, heap⟩ := r
      refine ⟨[], e.key, ?_, samePhase_of_pop hbehind hpop he' hsame', ?_⟩
      · rw [Machine.exec_nil, peekKey, (BinaryHeap.pop_eq_some hpop).1, Option.map_some]
      · simp only [Machine.exec_nil]
        omega
  | succ n ih =>
    have hlt := s.dispatchedInPhase.toNat_lt
    obtain ⟨e', he', hsame'⟩ := List.countP_pos_iff.mp (show 0 < s.pendingInPhase by omega)
    cases hpop : s.heap.pop with
    | none => simp [BinaryHeap.pop_eq_none.mp hpop] at he'
    | some r =>
      obtain ⟨e, heap⟩ := r
      have hsame := samePhase_of_pop hbehind hpop he' hsame'
      have hfor : (s.countFor e.key).toNat = s.dispatchedInPhase.toNat + 1 := by
        rw [countFor_toNat fun _ => by omega, if_pos hsame]
      have hlimit : ¬s.config.maxEventsPerPhase < s.countFor e.key := by
        rw [UInt64.lt_iff_toNat_lt]
        omega
      have hpend := pendingInPhase_advance hpop hsame
      have hfor' : (s.advance e heap).dispatchedInPhase.toNat = s.dispatchedInPhase.toNat + 1 :=
        hfor
      have hbehind' : ∀ e' ∈ heap.toList, (s.advance e heap).NotBehind e'.key := by
        intro e' he' last hlast
        obtain rfl : e.key = last := Option.some.inj hlast
        obtain ⟨last, hlast', htick, hphase⟩ := samePhase_iff.mp hsame
        rw [← htick, ← hphase]
        exact hbehind e' ((BinaryHeap.pop_eq_some hpop).2.mem_iff.mpr
          (List.mem_cons_of_mem _ he')) last hlast'
      obtain ⟨calls, hover⟩ :=
        ih (s := s.advance e heap) hmax hbehind' (by omega) (by omega)
      have hstep : (s.apply .pop).2 = s.advance e heap := by
        simp only [Scheduler.apply, pop_of_pop hpop, if_neg hlimit]
      refine ⟨.pop :: calls, ?_⟩
      rwa [Machine.exec_cons, hstep]

/-- Filling the cursor's phase with all sequence numbers left, then running them. -/
lemma exists_not_safeRun_of_wrap {last : EventKey} (hlast : s.lastDispatched = some last)
    (hafter : ∀ e ∈ s.heap.toList, last < e.key)
    (hmax : s.config.maxEventsPerPhase.toNat + 1 = 2 ^ 64) (hphase : last.phase ≠ .observe)
    (hun : s.nextSequence.toNat < s.dispatchedInPhase.toNat + s.pendingInPhase) (payload : T) :
    ∃ calls, ¬SafeRun s calls := by
  have hnext := s.nextSequence.toNat_lt
  obtain ⟨hconfig, hlast', hcount, -, added, hperm, hlen, hadded⟩ :=
    exec_schedules hphase payload (2 ^ 64 - 1 - s.nextSequence.toNat) s
      (now_of_some hlast).le (fun _ => (phase_of_some hlast).le) (by omega)
  set filling := List.replicate (2 ^ 64 - 1 - s.nextSequence.toNat)
    (Call.schedule last.tick last.phase payload)
  set t := (Machine.exec Scheduler.apply s filling).2
  have hsame : ∀ key, t.samePhase key = s.samePhase key := fun key => by
    rw [samePhase, samePhase, hlast']
  have hpend : t.pendingInPhase = added.length + s.pendingInPhase := by
    simp only [pendingInPhase, hsame]
    rw [hperm.countP_eq, List.countP_append]
    congr 1
    refine List.countP_eq_length.mpr fun e he => samePhase_iff.mpr ⟨last, hlast, ?_⟩
    exact ⟨(hadded e he).1.symm, (hadded e he).2.symm⟩
  have hbehind : ∀ e ∈ t.heap.toList, t.NotBehind e.key := by
    intro e he last' hl
    rw [hlast', hlast] at hl
    obtain rfl := Option.some.inj hl
    rcases List.mem_append.mp (hperm.mem_iff.mp he) with he | he
    · exact .inr ⟨(hadded e he).1.symm, (hadded e he).2.ge⟩
    · rcases EventKey.lt_iff.mp (hafter e he) with hlt | ⟨heq, hlt | ⟨hph, -⟩⟩
      · exact .inl hlt
      · exact .inr ⟨heq, hlt.le⟩
      · exact .inr ⟨heq, hph.le⟩
  obtain ⟨calls, hover⟩ := exists_popOverflows (s := t) (by rwa [hconfig]) hbehind
    (by rw [hpend, hcount]; omega)
  refine ⟨filling ++ calls, fun hsafe => hsafe.no_overflow ?_⟩
  rwa [Machine.exec_append]

/-! ## Restored schedulers -/

/-- The events a snapshot holds in the phase of `last`. -/
def queuedInPhase (snap : SchedulerSnapshot T) (last : EventKey) : ℕ :=
  snap.queue.countP fun e => last.tick = e.key.tick ∧ last.phase = e.key.phase

/-- The snapshots whose cursor restore should have refused: none without a cursor, and none
whose cursor has no hazard. -/
def Misses (config : SchedulerConfig) (snap : SchedulerSnapshot T) : Prop :=
  ∃ last, snap.lastDispatched = some last ∧
    Hazard config.maxEventsPerPhase snap.dispatchedInPhase snap.nextSequence last
      (queuedInPhase snap last)

lemma rebuilt_hasHazard {config : SchedulerConfig} {snap : SchedulerSnapshot T}
    {last : EventKey} (hlast : snap.lastDispatched = some last) :
    (rebuilt config snap).HasHazard last ↔
      Hazard config.maxEventsPerPhase snap.dispatchedInPhase snap.nextSequence last
        (queuedInPhase snap last) := by
  have hpend : (rebuilt config snap).pendingInPhase = queuedInPhase snap last := by
    rw [pendingInPhase, (rebuilt_heap_toList config snap).countP_eq]
    simp only [samePhase, rebuilt, hlast, Option.any_some, queuedInPhase]
  rw [HasHazard, hpend]
  rfl

lemma Accepts.steady {config : SchedulerConfig} {snap : SchedulerSnapshot T}
    (h : Accepts config snap) (hmiss : ¬Misses config snap) : (rebuilt config snap).Steady := by
  have hperm := rebuilt_heap_toList config snap
  refine ⟨⟨(hperm.map _).nodup_iff.mpr h.nodup, fun e he => h.assigned e (hperm.mem_iff.mp he),
    fun e he => h.not_observe e (hperm.mem_iff.mp he)⟩, ?_, ?_, ?_⟩
  · exact fun last hlast e he => .inl (h.after_cursor last hlast e (hperm.mem_iff.mp he))
  · exact fun last hlast => ((countOk_iff.mp h.count).2 last hlast).2
  · exact fun last hlast hhaz => hmiss ⟨last, hlast, (rebuilt_hasHazard hlast).mp hhaz⟩

/-- Every hazard of an accepted snapshot comes true in some run. -/
lemma Accepts.exists_not_safeRun {config : SchedulerConfig} {snap : SchedulerSnapshot T}
    (h : Accepts config snap) (hmiss : Misses config snap) (payload : T) :
    ∃ calls, ¬SafeRun (rebuilt config snap) calls := by
  obtain ⟨last, hlast, hhaz⟩ := hmiss
  have hafter : ∀ e ∈ (rebuilt config snap).heap.toList, last < e.key := fun e he =>
    h.after_cursor last hlast e ((rebuilt_heap_toList config snap).mem_iff.mp he)
  have hlast' : (rebuilt config snap).lastDispatched = some last := hlast
  rw [← rebuilt_hasHazard hlast] at hhaz
  cases hhaz with
  | reentry hun hleft hphase hroom =>
    exact ⟨_, not_safeRun_of_reentry hlast' hafter hun hleft hphase hroom payload⟩
  | reuse hun hleft hlater =>
    exact exists_not_safeRun_of_reuse hlast' hun hleft hlater payload
  | wrap hmax hphase hun =>
    exact exists_not_safeRun_of_wrap hlast' hafter hmax hphase hun payload

end Scheduler

/-- **When a restored scheduler is sound.**  Whatever snapshot restore accepted, all later runs
are safe exactly if the snapshot's cursor has no hazard.  The payload only says that there is
something to schedule. -/
theorem scheduler_restore_safe_iff {T : Type*} (payload : T) {config : SchedulerConfig}
    {snap : SchedulerSnapshot T} {s : Scheduler T}
    (hrestore : Scheduler.restore config snap = .ok s) :
    (∀ calls, Scheduler.SafeRun s calls) ↔ ¬Scheduler.Misses config snap := by
  obtain ⟨haccepts, rfl⟩ := Scheduler.restore_eq_ok_iff.mp hrestore
  constructor
  · intro hsafe hmiss
    obtain ⟨calls, hunsafe⟩ := haccepts.exists_not_safeRun hmiss payload
    exact hunsafe (hsafe calls)
  · exact fun hmiss calls => (haccepts.steady hmiss).safeRun calls

/-- A cursor with sequence 10 although only 3 numbers were assigned: restore accepts it, and an
event scheduled in its phase then runs before it. -/
theorem scheduler_restore_accepts_unassigned_cursor :
    ∃ s : Scheduler ℕ,
      Scheduler.restore ⟨10⟩ ⟨some ⟨5, .complete, 10⟩, 1, 3, []⟩ = .ok s ∧
      ¬∀ calls, Scheduler.SafeRun s calls := by
  refine ⟨_, rfl, fun hsafe => ?_⟩
  have hinc := (hsafe [.schedule 5 .complete 0, .pop]).increasing
  revert hinc
  decide +kernel

/-- A snapshot with an assigned cursor, restored: every run from it is safe. -/
theorem scheduler_restore_safe_assigned_cursor :
    let snap : SchedulerSnapshot ℕ := ⟨some ⟨5, .complete, 2⟩, 1, 4, [⟨⟨5, .complete, 3⟩, 0⟩]⟩
    ∃ s, Scheduler.restore ⟨10⟩ snap = .ok s ∧
      ((∀ calls, Scheduler.SafeRun s calls) ↔ ¬Scheduler.Misses ⟨10⟩ snap) ∧
      ¬Scheduler.Misses ⟨10⟩ snap := by
  intro snap
  refine ⟨_, rfl, scheduler_restore_safe_iff 0 rfl, ?_⟩
  rintro ⟨last, hlast, hhaz⟩
  obtain rfl := Option.some.inj hlast
  cases hhaz with
  | reentry hun => exact absurd hun (by decide)
  | reuse hun => exact absurd hun (by decide)
  | wrap hmax => exact absurd hmax (by decide)

end SystemScope
