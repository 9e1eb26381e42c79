import Mathlib.Data.List.Sort
import SystemScope.Contracts.Types
import SystemScope.Framework.BinaryHeap

/-!
# The event scheduler

The scheduler of `runtime/src/scheduler.rs`, operation by operation: scheduling rules S1–S6 of
`docs/m0-design.md` §4.3, dispatch in key order, snapshots with the queue sorted by key, and
the checks `restore` makes before it rebuilds the heap.

`Scheduler T` is generic in the payload, as in the source, and its heap is the array heap of
`Framework/BinaryHeap.lean` on event keys.  Every operation returns the scheduler it leaves
behind next to its result, so "unchanged on error" is a statement and not a convention.

The one unchecked addition of the source is the S5 counter in `pop`.  It is modelled on machine
words, where it wraps, and `popOverflows` says when it would: a build with overflow checks
panics there, one without wraps to zero.
-/

namespace SystemScope

/-- A scheduled event: its key and the payload delivered when it runs. -/
structure Event (T : Type*) where
  key : EventKey
  payload : T
  deriving DecidableEq, Repr

/-- Session-level scheduler settings. -/
@[ext]
structure SchedulerConfig where
  /-- S5: the most events that may run in one `(tick, phase)`. -/
  maxEventsPerPhase : UInt64
  deriving DecidableEq, Repr

/-- The complete scheduler state, as it is captured and restored. -/
structure SchedulerSnapshot (T : Type*) where
  lastDispatched : Option EventKey
  dispatchedInPhase : UInt64
  nextSequence : UInt64
  queue : List (Event T)
  deriving DecidableEq, Repr

/-- Why a snapshot was rejected. -/
inductive SchedulerRestoreError
  | duplicateSequence (sequence : UInt64)
  | sequenceNotYetAssigned (sequence : UInt64)
  | eventBeforeCursor (key : EventKey)
  | observePhaseEvent (key : EventKey)
  | invalidPhaseCount (count : UInt64)
  deriving DecidableEq, Repr

/-- Orders, validates and dispatches events. -/
structure Scheduler (T : Type*) where
  config : SchedulerConfig
  lastDispatched : Option EventKey
  dispatchedInPhase : UInt64
  nextSequence : UInt64
  heap : BinaryHeap (Event.key : Event T → EventKey)

namespace Scheduler

variable {T : Type*}

/-- An empty scheduler at tick 0, before `request`. -/
def new (config : SchedulerConfig) : Scheduler T where
  config := config
  lastDispatched := none
  dispatchedInPhase := 0
  nextSequence := 0
  heap := BinaryHeap.empty

/-- The current tick: that of the last dispatched event, or 0. -/
def now (s : Scheduler T) : Tick := s.lastDispatched.elim 0 EventKey.tick

/-- The current phase: that of the last dispatched event, or `request`. -/
def phase (s : Scheduler T) : Phase := s.lastDispatched.elim .request EventKey.phase

/-- Number of pending events. -/
def len (s : Scheduler T) : ℕ := s.heap.size

/-- Key of the next event to dispatch, if any. -/
def peekKey (s : Scheduler T) : Option EventKey := s.heap.peek.map Event.key

/-! ## Scheduling -/

/-- Schedules `payload` at `(tick, phase)` and returns its key. -/
def schedule (s : Scheduler T) (tick : Tick) (phase : Phase) (payload : T) :
    Except SimError EventKey × Scheduler T :=
  let violation := SimError.phaseViolation s.now s.phase tick phase
  -- S3, S1, S2 and S6, in the order the source checks them.
  if phase = .observe then (.error violation, s)
  else if tick < s.now then (.error (.pastTick s.now tick), s)
  else if tick = s.now ∧ phase < s.phase then (.error violation, s)
  else match s.nextSequence.checkedSucc with
    | none => (.error .sequenceOverflow, s)
    | some next =>
      let key : EventKey := { tick := tick, phase := phase, sequence := s.nextSequence }
      (.ok key, { s with nextSequence := next, heap := s.heap.push { key, payload } })

/-- Whether `next` falls in the `(tick, phase)` of the last dispatched event. -/
def samePhase (s : Scheduler T) (next : EventKey) : Bool :=
  s.lastDispatched.any fun last => last.tick = next.tick ∧ last.phase = next.phase

/-- The S5 count the dispatch of `next` would bring. -/
def countFor (s : Scheduler T) (next : EventKey) : UInt64 :=
  if s.samePhase next then s.dispatchedInPhase + 1 else 1

/-- Removes and returns the next event, advancing the current tick and phase to it. -/
def pop (s : Scheduler T) : Except SimError (Option (Event T)) × Scheduler T :=
  match s.peekKey with
  | none => (.ok none, s)
  | some next =>
    if s.config.maxEventsPerPhase < s.countFor next then
      (.error (.sameTickLivelock next.tick next.phase s.config.maxEventsPerPhase), s)
    else match s.heap.pop with
      -- The source unwraps here: a peeked entry exists.
      | none => (.ok none, s)
      | some (event, heap) =>
        (.ok (some event),
          { s with
            lastDispatched := some event.key
            dispatchedInPhase := s.countFor next
            heap := heap })

/-- Whether the addition in `pop` would leave the range of a machine word. -/
def popOverflows (s : Scheduler T) : Prop :=
  ∃ next, s.peekKey = some next ∧ s.samePhase next ∧ 2 ^ 64 ≤ s.dispatchedInPhase.toNat + 1

/-! ## Snapshots -/

/-- Sorts a queue by event key. -/
def sortByKey (queue : List (Event T)) : List (Event T) :=
  queue.insertionSort fun a b => a.key ≤ b.key

/-- Sorts a queue by sequence number. -/
def sortBySequence (queue : List (Event T)) : List (Event T) :=
  queue.insertionSort fun a b => a.key.sequence ≤ b.key.sequence

/-- Captures the full state, with the queue sorted by key. -/
def snapshot (s : Scheduler T) : SchedulerSnapshot T where
  lastDispatched := s.lastDispatched
  dispatchedInPhase := s.dispatchedInPhase
  nextSequence := s.nextSequence
  queue := sortByKey s.heap.toList

/-- The first sequence number that two neighbours of a queue share. -/
def duplicate : List (Event T) → Option UInt64
  | a :: b :: rest =>
    if a.key.sequence = b.key.sequence then some a.key.sequence else duplicate (b :: rest)
  | _ => none

/-- What restore demands of each pending event. -/
def checkPending (last : Option EventKey) (next : UInt64) (key : EventKey) :
    Option SchedulerRestoreError :=
  if next ≤ key.sequence then some (.sequenceNotYetAssigned key.sequence)
  else if key.phase = .observe then some (.observePhaseEvent key)
  else if last.any fun last => key ≤ last then some (.eventBeforeCursor key)
  else none

/-- Whether `dispatched_in_phase` fits the cursor and the S5 limit. -/
def countOk (config : SchedulerConfig) (snap : SchedulerSnapshot T) : Bool :=
  match snap.lastDispatched with
  | none => snap.dispatchedInPhase = 0
  | some _ => 1 ≤ snap.dispatchedInPhase ∧ snap.dispatchedInPhase ≤ config.maxEventsPerPhase

/-- Rebuilds a scheduler from a snapshot, whose queue may be in any order. -/
def restore (config : SchedulerConfig) (snap : SchedulerSnapshot T) :
    Except SchedulerRestoreError (Scheduler T) :=
  if !countOk config snap then .error (.invalidPhaseCount snap.dispatchedInPhase)
  else
    let queue := sortBySequence snap.queue
    match duplicate queue with
    | some sequence => .error (.duplicateSequence sequence)
    | none =>
      match queue.findSome? fun e => checkPending snap.lastDispatched snap.nextSequence e.key with
      | some error => .error error
      | none => .ok
        { config := config
          lastDispatched := snap.lastDispatched
          dispatchedInPhase := snap.dispatchedInPhase
          nextSequence := snap.nextSequence
          heap := BinaryHeap.ofList queue }

/-! ## Calls

A driver of the scheduler makes a sequence of `schedule` and `pop` calls; `apply` performs one
and reports what it returned. -/

/-- A call a driver can make. -/
inductive Call (T : Type*)
  | schedule (tick : Tick) (phase : Phase) (payload : T)
  | pop

/-- What a call returned. -/
inductive Outcome (T : Type*)
  | scheduled (result : Except SimError EventKey)
  | popped (result : Except SimError (Option (Event T)))

/-- Performs one call. -/
def apply (s : Scheduler T) : Call T → Outcome T × Scheduler T
  | .schedule tick phase payload =>
    let (result, s') := s.schedule tick phase payload
    (.scheduled result, s')
  | .pop =>
    let (result, s') := s.pop
    (.popped result, s')

section

open scoped List

variable {s : Scheduler T}

/-! ## What a call does

`apply_cases` says once what a call can do: nothing, enqueue one event under the next sequence
number, or dispatch the first event.  Everything about the scheduler is derived from it. -/

lemma now_of_some {last : EventKey} (h : s.lastDispatched = some last) : s.now = last.tick := by
  simp [now, h]

lemma phase_of_some {last : EventKey} (h : s.lastDispatched = some last) :
    s.phase = last.phase := by
  simp [phase, h]

lemma samePhase_iff {next : EventKey} :
    s.samePhase next ↔
      ∃ last, s.lastDispatched = some last ∧ last.tick = next.tick ∧ last.phase = next.phase := by
  simp [samePhase, Option.any_eq_true]

/-- The scheduler after a successful `schedule`. -/
def enqueue (s : Scheduler T) (next : UInt64) (e : Event T) : Scheduler T :=
  { s with nextSequence := next, heap := s.heap.push e }

/-- The scheduler after a successful `pop`. -/
def advance (s : Scheduler T) (e : Event T) (heap : BinaryHeap (Event.key : Event T → EventKey)) :
    Scheduler T :=
  { s with lastDispatched := some e.key, dispatchedInPhase := s.countFor e.key, heap := heap }

/-- Whether the rules S1–S3 and S6 let an event be scheduled at `(tick, phase)`. -/
structure Admits (s : Scheduler T) (tick : Tick) (phase : Phase) : Prop where
  not_observe : phase ≠ .observe
  now_le : s.now ≤ tick
  phase_le : tick = s.now → s.phase ≤ phase
  sequence_left : s.nextSequence.toNat + 1 < 2 ^ 64

lemma schedule_of_admits {tick : Tick} {phase : Phase} (h : s.Admits tick phase) (payload : T) :
    s.schedule tick phase payload =
      (.ok ⟨tick, phase, s.nextSequence⟩,
        s.enqueue (s.nextSequence + 1) ⟨⟨tick, phase, s.nextSequence⟩, payload⟩) := by
  have hs2 : ¬(tick = s.now ∧ phase < s.phase) := fun hc => not_lt.mpr (h.phase_le hc.1) hc.2
  have hsucc : s.nextSequence.checkedSucc = some (s.nextSequence + 1) := if_pos h.sequence_left
  simp only [schedule, if_neg h.not_observe, if_neg (not_lt.mpr h.now_le), if_neg hs2, hsucc,
    enqueue]

lemma schedule_of_not_admits {tick : Tick} {phase : Phase} (h : ¬s.Admits tick phase)
    (payload : T) : ∃ e, s.schedule tick phase payload = (.error e, s) := by
  unfold schedule
  split_ifs with hobs hpast hphase
  · exact ⟨_, rfl⟩
  · exact ⟨_, rfl⟩
  · exact ⟨_, rfl⟩
  · have hmax : s.nextSequence.checkedSucc = none := by
      refine if_neg fun hlt => h ⟨hobs, not_lt.mp hpast, fun ht => ?_, hlt⟩
      exact not_lt.mp fun hp => hphase ⟨ht, hp⟩
    exact ⟨_, by rw [hmax]⟩

lemma peekKey_eq_some {next : EventKey} (h : s.peekKey = some next) :
    ∃ e heap, s.heap.pop = some (e, heap) ∧ s.heap.peek = some e ∧ e.key = next := by
  obtain ⟨e, he, rfl⟩ := Option.map_eq_some_iff.mp h
  cases hpop : s.heap.pop with
  | none =>
    rw [BinaryHeap.pop_eq_none, ← BinaryHeap.peek_eq_none, he] at hpop
    cases hpop
  | some r =>
    obtain ⟨e', heap⟩ := r
    have hpeek := (BinaryHeap.pop_eq_some hpop).1
    rw [he, Option.some.injEq] at hpeek
    subst hpeek
    exact ⟨e, heap, rfl, he, rfl⟩

lemma pop_of_empty (h : s.heap.toList = []) : s.pop = (.ok none, s) := by
  have hpeek : s.peekKey = none := by
    rw [peekKey, BinaryHeap.peek_eq_none.mpr h, Option.map_none]
  simp only [pop, hpeek]

/-- A nonempty queue: the first event is dispatched, unless S5 blocks it. -/
lemma pop_of_pop {e : Event T} {heap : BinaryHeap (Event.key : Event T → EventKey)}
    (h : s.heap.pop = some (e, heap)) :
    s.pop =
      if s.config.maxEventsPerPhase < s.countFor e.key then
        (.error (.sameTickLivelock e.key.tick e.key.phase s.config.maxEventsPerPhase), s)
      else (.ok (some e), s.advance e heap) := by
  have hpeek : s.peekKey = some e.key := by
    rw [peekKey, (BinaryHeap.pop_eq_some h).1, Option.map_some]
  simp only [pop, hpeek, h, advance]

/-- Whether a call failed. -/
def Outcome.isError : Outcome T → Bool
  | .scheduled (.error _) => true
  | .popped (.error _) => true
  | _ => false

/-- The event a call dispatched. -/
def Outcome.dispatched : Outcome T → Option (Event T)
  | .popped (.ok e) => e
  | _ => none

/-- The event a call enqueued. -/
def enqueued : Call T × Outcome T → Option (Event T)
  | (.schedule _ _ payload, .scheduled (.ok key)) => some ⟨key, payload⟩
  | _ => none

/-- Everything a call can do. -/
lemma apply_cases (s : Scheduler T) (c : Call T) :
    ((s.apply c).2 = s ∧ (s.apply c).1.dispatched = none ∧
      enqueued (c, (s.apply c).1) = none) ∨
    (∃ tick phase payload, c = .schedule tick phase payload ∧ s.Admits tick phase ∧
      s.apply c = (.scheduled (.ok ⟨tick, phase, s.nextSequence⟩),
        s.enqueue (s.nextSequence + 1) ⟨⟨tick, phase, s.nextSequence⟩, payload⟩)) ∨
    (∃ e heap, c = .pop ∧ s.heap.pop = some (e, heap) ∧
      s.countFor e.key ≤ s.config.maxEventsPerPhase ∧
      s.apply c = (.popped (.ok (some e)), s.advance e heap)) := by
  cases c with
  | schedule tick phase payload =>
    by_cases h : s.Admits tick phase
    · refine .inr (.inl ⟨tick, phase, payload, rfl, h, ?_⟩)
      simp only [apply, schedule_of_admits h]
    · obtain ⟨e, he⟩ := schedule_of_not_admits h payload
      refine .inl ?_
      simp only [apply, he]
      exact ⟨trivial, rfl, rfl⟩
  | pop =>
    cases hpop : s.heap.pop with
    | none =>
      refine .inl ?_
      simp only [apply, pop_of_empty (BinaryHeap.pop_eq_none.mp hpop)]
      exact ⟨trivial, rfl, rfl⟩
    | some r =>
      obtain ⟨e, heap⟩ := r
      by_cases hlimit : s.config.maxEventsPerPhase < s.countFor e.key
      · refine .inl ?_
        simp only [apply, pop_of_pop hpop, if_pos hlimit]
        exact ⟨trivial, rfl, rfl⟩
      · refine .inr (.inr ⟨e, heap, rfl, rfl, not_lt.mp hlimit, ?_⟩)
        simp only [apply, pop_of_pop hpop, if_neg hlimit]

lemma enqueue_heap_toList (s : Scheduler T) (next : UInt64) (e : Event T) :
    (s.enqueue next e).heap.toList ~ e :: s.heap.toList := BinaryHeap.push_toList _ _

end

end Scheduler

end SystemScope
