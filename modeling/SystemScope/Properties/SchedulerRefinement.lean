import SystemScope.Properties.SchedulerInvariant

/-!
# The scheduler refines a naive reference model

`SchedulerModel` is the reference of `runtime/tests/scheduler_props.rs`: pending events in a
plain list, the next event found by a linear scan over `(tick, phase, sequence)`, and every
scheduling rule written out without the key comparator or the heap.  Its S5 count is a natural
number, so agreement with it also says that the machine counter never wraps.

`SchedulerModel.Refines` relates a scheduler to a reference holding the same events in some
order.  Related states answer every call alike (`refines_apply`), hence every run does
(`scheduler_refines_model`).  The run-level consequences are stated over what the calls
returned: dispatched keys increase strictly, assigned sequence numbers are unique, and the
scheduled events are exactly the dispatched ones and the pending ones.
-/

namespace SystemScope

open scoped List

/-! ## The reference -/

/-- The reference scheduler: no heap, no key comparator. -/
structure SchedulerModel (T : Type*) where
  limit : UInt64
  last : Option EventKey
  count : ℕ
  nextSequence : UInt64
  pending : List (Event T)

namespace SchedulerModel

variable {T : Type*}

/-- An empty reference. -/
def new (config : SchedulerConfig) : SchedulerModel T where
  limit := config.maxEventsPerPhase
  last := none
  count := 0
  nextSequence := 0
  pending := []

/-- Comparison of keys as plain triples. -/
def before (a b : EventKey) : Bool :=
  a.tick < b.tick || (a.tick = b.tick &&
    (a.phase.rank < b.phase.rank || (a.phase.rank = b.phase.rank && a.sequence < b.sequence)))

/-- Linear scan for the least key. -/
def scan : List (Event T) → Option (Event T)
  | [] => none
  | e :: rest =>
    match scan rest with
    | none => some e
    | some m => if before m.key e.key then some m else some e

/-- Rules S1–S4 and S6, written out. -/
def schedule (m : SchedulerModel T) (tick : Tick) (phase : Phase) (payload : T) :
    Except SimError EventKey × SchedulerModel T :=
  let now := m.last.elim 0 EventKey.tick
  let current := m.last.elim .request EventKey.phase
  if phase.rank = 4 then (.error (.phaseViolation now current tick phase), m)
  else if tick < now then (.error (.pastTick now tick), m)
  else if tick = now ∧ phase.rank < current.rank then
    (.error (.phaseViolation now current tick phase), m)
  else if m.nextSequence = 0xFFFFFFFFFFFFFFFF then (.error .sequenceOverflow, m)
  else
    let key : EventKey := ⟨tick, phase, m.nextSequence⟩
    (.ok key, { m with
      nextSequence := m.nextSequence + 1
      pending := m.pending ++ [⟨key, payload⟩] })

/-- Dispatches the event the scan finds, subject to S5. -/
def pop (m : SchedulerModel T) : Except SimError (Option (Event T)) × SchedulerModel T :=
  match scan m.pending with
  | none => (.ok none, m)
  | some e =>
    let count := match m.last with
      | some last => if last.tick = e.key.tick ∧ last.phase = e.key.phase then m.count + 1 else 1
      | none => 1
    if m.limit.toNat < count then
      (.error (.sameTickLivelock e.key.tick e.key.phase m.limit), m)
    else
      (.ok (some e), { m with
        last := some e.key
        count := count
        pending := m.pending.eraseP fun e' => e'.key = e.key })

/-- Performs one call. -/
def apply (m : SchedulerModel T) : Scheduler.Call T → Scheduler.Outcome T × SchedulerModel T
  | .schedule tick phase payload =>
    let (result, m') := m.schedule tick phase payload
    (.scheduled result, m')
  | .pop =>
    let (result, m') := m.pop
    (.popped result, m')

/-! ## The scan -/

lemma before_iff {a b : EventKey} : before a b ↔ a < b := by
  have hrank : a.phase.rank = b.phase.rank ↔ a.phase = b.phase :=
    Phase.rank_injective.eq_iff
  simp only [before, Bool.or_eq_true, Bool.and_eq_true, decide_eq_true_eq, hrank,
    EventKey.lt_iff, Phase.lt_iff_rank]

lemma scan_eq_none {l : List (Event T)} : scan l = none ↔ l = [] := by
  cases l with
  | nil => simp [scan]
  | cons e rest =>
    simp only [scan, reduceCtorEq, iff_false]
    split
    · simp
    · split <;> simp

lemma scan_eq_some {l : List (Event T)} {m : Event T} (h : scan l = some m) :
    m ∈ l ∧ ∀ e ∈ l, m.key ≤ e.key := by
  induction l generalizing m with
  | nil => simp [scan] at h
  | cons e rest ih =>
    simp only [scan] at h
    split at h
    next hnone =>
      obtain rfl := Option.some.inj h
      rw [scan_eq_none] at hnone
      simp [hnone]
    next m' hm' =>
      obtain ⟨hmem, hmin⟩ := ih hm'
      split at h
      next hlt =>
        obtain rfl := Option.some.inj h
        refine ⟨List.mem_cons_of_mem _ hmem, ?_⟩
        rintro e' (_ | ⟨_, he'⟩)
        · exact (before_iff.mp hlt).le
        · exact hmin e' he'
      next hlt =>
        obtain rfl := Option.some.inj h
        refine ⟨List.mem_cons_self, ?_⟩
        rintro e' (_ | ⟨_, he'⟩)
        · exact le_rfl
        · exact (not_lt.mp (fun hc => hlt (before_iff.mpr hc))).trans (hmin e' he')

/-! ## The refinement -/

/-- The reference holds the same state, with the pending events in any order. -/
structure Refines (s : Scheduler T) (m : SchedulerModel T) : Prop where
  valid : s.Valid
  limit : m.limit = s.config.maxEventsPerPhase
  last : m.last = s.lastDispatched
  count : m.count = s.dispatchedInPhase.toNat
  next : m.nextSequence = s.nextSequence
  pending : m.pending ~ s.heap.toList

lemma refines_new (config : SchedulerConfig) :
    Refines (Scheduler.new config : Scheduler T) (SchedulerModel.new config) where
  valid := Scheduler.new_valid config
  limit := rfl
  last := rfl
  count := rfl
  next := rfl
  pending := .rfl

/-- The reference accepts and refuses the same `schedule` calls, for the same reasons. -/
lemma refines_schedule {s : Scheduler T} {m : SchedulerModel T} (h : Refines s m) (tick : Tick)
    (phase : Phase) (payload : T) :
    (s.schedule tick phase payload).1 = (m.schedule tick phase payload).1 ∧
      Refines (s.schedule tick phase payload).2 (m.schedule tick phase payload).2 := by
  have hnow : m.last.elim 0 EventKey.tick = s.now := by rw [h.last]; rfl
  have hcur : m.last.elim .request EventKey.phase = s.phase := by rw [h.last]; rfl
  have hobs : phase.rank = 4 ↔ phase = .observe := by cases phase <;> decide
  have hmax : m.nextSequence = 0xFFFFFFFFFFFFFFFF ↔ s.nextSequence.checkedSucc = none := by
    rw [h.next, UInt64.checkedSucc_eq_none, ← UInt64.toNat_inj]
    rfl
  simp only [Scheduler.schedule, schedule, hnow, hcur, hobs, hmax, ← Phase.lt_iff_rank]
  split_ifs with h1 h2 h3 h4
  · exact ⟨rfl, h⟩
  · exact ⟨rfl, h⟩
  · exact ⟨rfl, h⟩
  · rw [h4]
    exact ⟨rfl, h⟩
  · have hlt : s.nextSequence.toNat + 1 < 2 ^ 64 := by
      have hn := s.nextSequence.toNat_lt
      have hne := mt UInt64.checkedSucc_eq_none.mpr h4
      omega
    have ha : s.Admits tick phase :=
      ⟨h1, not_lt.mp h2, fun ht => not_lt.mp fun hp => h3 ⟨ht, hp⟩, hlt⟩
    have hsucc : s.nextSequence.checkedSucc = some (s.nextSequence + 1) := if_pos hlt
    rw [hsucc]
    refine ⟨by simp only [h.next], h.valid.enqueue ha payload, h.limit, h.last, h.count, ?_, ?_⟩
    · simp only [h.next]
    · calc m.pending ++ [⟨⟨tick, phase, m.nextSequence⟩, payload⟩]
          ~ ⟨⟨tick, phase, m.nextSequence⟩, payload⟩ :: m.pending :=
            List.perm_append_singleton _ _
        _ ~ ⟨⟨tick, phase, s.nextSequence⟩, payload⟩ :: s.heap.toList := by
            rw [h.next]
            exact h.pending.cons _
        _ ~ _ := (BinaryHeap.push_toList _ _).symm

lemma Refines.scan_eq {s : Scheduler T} {m : SchedulerModel T} (h : Refines s m) {e : Event T}
    {heap : BinaryHeap (Event.key : Event T → EventKey)} (hpop : s.heap.pop = some (e, heap)) :
    scan m.pending = some e := by
  obtain ⟨hpeek, hperm⟩ := BinaryHeap.pop_eq_some hpop
  obtain ⟨he, hmin⟩ := BinaryHeap.peek_eq_some hpeek
  cases hscan : scan m.pending with
  | none =>
    rw [scan_eq_none] at hscan
    have hnil := h.pending
    rw [hscan] at hnil
    rw [hnil.symm.eq_nil] at he
    cases he
  | some e' =>
    obtain ⟨he', hmin'⟩ := scan_eq_some hscan
    have hmem := h.pending.mem_iff.mp he'
    have hkey : e'.key = e.key :=
      le_antisymm (hmin' e (h.pending.mem_iff.mpr he)) (hmin e' hmem)
    rw [List.inj_on_of_nodup_map h.valid.nodup_keys hmem he hkey]

/-- Erasing the dispatched event by its key leaves what the heap keeps. -/
lemma Refines.eraseP_perm {s : Scheduler T} {m : SchedulerModel T} (h : Refines s m)
    {e : Event T} {heap : BinaryHeap (Event.key : Event T → EventKey)}
    (hpop : s.heap.pop = some (e, heap)) :
    (m.pending.eraseP fun e' => e'.key = e.key) ~ heap.toList := by
  obtain ⟨-, hperm⟩ := BinaryHeap.pop_eq_some hpop
  have hall := h.pending.trans hperm
  have he : e ∈ m.pending := hall.mem_iff.mpr List.mem_cons_self
  obtain ⟨e', l₁, l₂, -, hkey, hsplit, herase⟩ :=
    List.exists_of_eraseP (p := fun e' : Event T => decide (e'.key = e.key)) he (by simp)
  have hmem' : e' ∈ s.heap.toList := h.pending.mem_iff.mp (by simp [hsplit])
  have hee' : e' = e := List.inj_on_of_nodup_map h.valid.nodup_keys hmem'
    (h.pending.mem_iff.mp he) (by simpa using hkey)
  subst hee'
  rw [herase]
  rw [hsplit] at hall
  exact (List.perm_middle.symm.trans hall).cons_inv

lemma refines_pop {s : Scheduler T} {m : SchedulerModel T} (h : Refines s m) :
    s.pop.1 = m.pop.1 ∧ Refines s.pop.2 m.pop.2 := by
  cases hpop : s.heap.pop with
  | none =>
    have hnil := BinaryHeap.pop_eq_none.mp hpop
    have hscan : scan m.pending = none := by
      rw [scan_eq_none, ← List.perm_nil, ← hnil]
      exact h.pending
    rw [Scheduler.pop_of_empty hnil]
    simp only [pop, hscan]
    exact ⟨trivial, h⟩
  | some r =>
    obtain ⟨e, heap⟩ := r
    have he : e ∈ s.heap.toList :=
      (BinaryHeap.pop_eq_some hpop).2.mem_iff.mpr List.mem_cons_self
    -- Both sides count the same number of events in the phase of `e`.
    have hcount : (match m.last with
        | some last =>
          if last.tick = e.key.tick ∧ last.phase = e.key.phase then m.count + 1 else 1
        | none => 1) = (s.countFor e.key).toNat := by
      rw [Scheduler.countFor_toNat (Scheduler.counted_lt h.valid.counted he), h.last, h.count,
        Scheduler.samePhase]
      cases s.lastDispatched <;> simp
    rw [Scheduler.pop_of_pop hpop]
    simp only [pop, h.scan_eq hpop, hcount, h.limit, ← UInt64.lt_iff_toNat_lt]
    split
    next => exact ⟨rfl, h⟩
    next hlimit =>
      exact ⟨rfl, h.valid.advance hpop (not_lt.mp hlimit), rfl, rfl, rfl, h.next,
        h.eraseP_perm hpop⟩

/-- Related states answer every call alike and stay related. -/
lemma refines_apply {s : Scheduler T} {m : SchedulerModel T} (h : Refines s m)
    (c : Scheduler.Call T) :
    (s.apply c).1 = (m.apply c).1 ∧ Refines (s.apply c).2 (m.apply c).2 := by
  cases c with
  | schedule tick phase payload =>
    obtain ⟨hout, hnext⟩ := refines_schedule h tick phase payload
    exact ⟨congrArg _ hout, hnext⟩
  | pop =>
    obtain ⟨hout, hnext⟩ := refines_pop h
    exact ⟨congrArg _ hout, hnext⟩

end SchedulerModel

/-! ## What a run returned -/

namespace Scheduler

variable {T : Type*}

/-- The events a run dispatched, in order. -/
def dispatchedIn (outs : List (Outcome T)) : List (Event T) := outs.filterMap Outcome.dispatched

/-- The events a run enqueued, in order. -/
def enqueuedIn (calls : List (Call T)) (outs : List (Outcome T)) : List (Event T) :=
  (calls.zip outs).filterMap enqueued

/-- The keys a run dispatches increase strictly from the cursor on, if an invariant puts each
dispatched event after the cursor. -/
lemma dispatchedIn_increasing {I : Scheduler T → Prop} (hstep : ∀ s c, I s → I (s.apply c).2)
    (hafter : ∀ s e heap, I s → s.heap.pop = some (e, heap) →
      s.countFor e.key ≤ s.config.maxEventsPerPhase →
      ∀ last, s.lastDispatched = some last → last < e.key)
    {s : Scheduler T} (h : I s) (calls : List (Call T)) :
    (s.lastDispatched.toList ++
      (dispatchedIn (Machine.exec apply s calls).1).map Event.key).Pairwise (· < ·) := by
  induction calls generalizing s with
  | nil => cases hl : s.lastDispatched <;> simp [dispatchedIn]
  | cons c calls ih =>
    have hrest := ih (hstep s c h)
    simp only [Machine.exec_cons, dispatchedIn, List.filterMap_cons] at hrest ⊢
    rcases s.apply_cases c with ⟨hsame, hnone, -⟩ | ⟨tick, phase, payload, rfl, -, heq⟩ |
      ⟨e, heap, rfl, hpop, hlimit, heq⟩
    · rw [hsame] at hrest ⊢
      simpa only [hnone] using hrest
    · rw [heq] at hrest ⊢
      exact hrest
    · -- The cursor moves to `e`; everything later is after it.
      rw [heq] at hrest ⊢
      simp only [Scheduler.advance, Option.toList_some, List.singleton_append, List.pairwise_cons,
        Outcome.dispatched, List.map_cons] at hrest ⊢
      cases hl : s.lastDispatched with
      | none => exact List.pairwise_cons.mpr hrest
      | some last =>
        have hlt := hafter s e heap h hpop hlimit last hl
        refine List.pairwise_cons.mpr ⟨?_, List.pairwise_cons.mpr hrest⟩
        rintro k (_ | ⟨_, hk⟩)
        · exact hlt
        · exact hlt.trans (hrest.1 k hk)

/-- The sequence numbers a run assigns increase strictly, starting at the counter. -/
lemma enqueuedIn_sequences (s : Scheduler T) (calls : List (Call T)) :
    ((enqueuedIn calls (Machine.exec apply s calls).1).map
        fun e => e.key.sequence).Pairwise (· < ·) ∧
      ∀ e ∈ enqueuedIn calls (Machine.exec apply s calls).1,
        s.nextSequence ≤ e.key.sequence := by
  induction calls generalizing s with
  | nil => simp [enqueuedIn]
  | cons c calls ih =>
    obtain ⟨hpair, hge⟩ := ih (s.apply c).2
    simp only [Machine.exec_cons, enqueuedIn, List.zip_cons_cons, List.filterMap_cons]
    rcases s.apply_cases c with ⟨hsame, -, hnone⟩ | ⟨tick, phase, payload, rfl, ha, heq⟩ |
      ⟨e, heap, rfl, -, -, heq⟩
    · rw [hsame] at hpair hge ⊢
      simp only [hnone]
      exact ⟨hpair, hge⟩
    · rw [heq] at hpair hge ⊢
      have hlt : s.nextSequence < s.nextSequence + 1 := by
        rw [UInt64.lt_iff_toNat_lt, ha.toNat_succ]
        omega
      have hge' := fun e he => lt_of_lt_of_le hlt (hge e he)
      simp only [enqueued, List.map_cons, List.pairwise_cons]
      refine ⟨⟨?_, hpair⟩, ?_⟩
      · intro n hn
        obtain ⟨e, he, rfl⟩ := List.mem_map.mp hn
        exact hge' e he
      · rintro e (_ | ⟨_, he⟩)
        · exact le_rfl
        · exact (hge' e he).le
    · rw [heq] at hpair hge ⊢
      exact ⟨hpair, hge⟩

/-- Nothing is lost or duplicated: what was pending or enqueued was dispatched or is pending. -/
lemma exec_conserves (s : Scheduler T) (calls : List (Call T)) :
    s.heap.toList ++ enqueuedIn calls (Machine.exec apply s calls).1 ~
      dispatchedIn (Machine.exec apply s calls).1 ++
        (Machine.exec apply s calls).2.heap.toList := by
  induction calls generalizing s with
  | nil => simp [enqueuedIn, dispatchedIn]
  | cons c calls ih =>
    have hrest := ih (s.apply c).2
    simp only [Machine.exec_cons, enqueuedIn, dispatchedIn, List.zip_cons_cons,
      List.filterMap_cons] at hrest ⊢
    rcases s.apply_cases c with ⟨hsame, hnone, hnone'⟩ | ⟨tick, phase, payload, rfl, -, heq⟩ |
      ⟨e, heap, rfl, hpop, -, heq⟩
    · rw [hsame] at hrest ⊢
      simpa only [hnone, hnone'] using hrest
    · rw [heq] at hrest ⊢
      refine List.perm_middle.trans (.trans ?_ hrest)
      exact (s.enqueue_heap_toList _ _).symm.append_right _
    · rw [heq] at hrest ⊢
      exact ((BinaryHeap.pop_eq_some hpop).2.append_right _).trans (hrest.cons e)

/-- A failed call leaves the whole scheduler unchanged. -/
lemma apply_error {s : Scheduler T} {c : Call T} (h : (s.apply c).1.isError) :
    (s.apply c).2 = s := by
  rcases s.apply_cases c with ⟨hsame, -, -⟩ | ⟨tick, phase, payload, rfl, -, heq⟩ |
    ⟨e, heap, rfl, -, -, heq⟩
  · exact hsame
  · rw [heq] at h
    cases h
  · rw [heq] at h
    cases h

end Scheduler

/-! ## The refinement theorem -/

/-- **The heap-based scheduler is the naive reference.**  For every configuration and every
sequence of `schedule` and `pop` calls on a new scheduler, the calls return exactly what the
reference returns.  Dispatched keys therefore increase strictly, sequence numbers are unique,
every scheduled event was dispatched once or is pending once, and a call that fails in the state
reached leaves all of it unchanged. -/
theorem scheduler_refines_model {T : Type*} (config : SchedulerConfig)
    (calls : List (Scheduler.Call T)) :
    let run := Machine.exec Scheduler.apply (Scheduler.new config) calls
    run.1 = (Machine.exec SchedulerModel.apply (SchedulerModel.new config) calls).1 ∧
    ((Scheduler.dispatchedIn run.1).map Event.key).Pairwise (· < ·) ∧
    ((Scheduler.enqueuedIn calls run.1).map fun e => e.key.sequence).Nodup ∧
    Scheduler.enqueuedIn calls run.1 ~ Scheduler.dispatchedIn run.1 ++ run.2.heap.toList ∧
    ∀ c, (run.2.apply c).1.isError → (run.2.apply c).2 = run.2 := by
  intro run
  refine ⟨?_, ?_, ?_, ?_, fun c => Scheduler.apply_error⟩
  · exact (Machine.exec_simulation (R := SchedulerModel.Refines)
      (fun s m c _ h => SchedulerModel.refines_apply h c) (SchedulerModel.refines_new config)).1
  · refine Scheduler.dispatchedIn_increasing (I := Scheduler.Valid) (fun _ c h => h.apply c)
      (fun s e heap h hpop _ last hlast => ?_) (Scheduler.new_valid config) calls
    exact h.after_cursor last hlast e
      ((BinaryHeap.pop_eq_some hpop).2.mem_iff.mpr List.mem_cons_self)
  · exact (Scheduler.enqueuedIn_sequences _ calls).1.imp fun h => h.ne
  · exact Scheduler.exec_conserves (Scheduler.new config) calls

end SystemScope
