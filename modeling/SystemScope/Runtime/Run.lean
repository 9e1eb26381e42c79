import SystemScope.Runtime.Session

/-!
# Running

The loops of `Runtime::run` and `Runtime::run_until`.  Both end: a dispatch takes an event off the
queue, and each event that is scheduled spends a sequence number, so `Scheduler.budget` falls
with every dispatch; and a paused run has dispatched an event or fired an observe point, so
`Runtime.weight` falls with every pause.

`turn` is one turn of the loop: fire the point that is due first, or dispatch the next event, or
stop.  A run is its turns up to the first pause (`runLoop_eq`), which is how runs are reasoned
about.
-/

namespace SystemScope

namespace Scheduler

variable {T : Type*} {s : Scheduler T}

/-- How many more events can be dispatched: those pending, and one per sequence number left. -/
def budget (s : Scheduler T) : ℕ := s.heap.size + (2 ^ 64 - 1 - s.nextSequence.toNat)

lemma enqueue_budget {tick : Tick} {phase : Phase} (ha : s.Admits tick phase) (e : Event T) :
    (s.enqueue (s.nextSequence + 1) e).budget = s.budget := by
  have hsize : (s.enqueue (s.nextSequence + 1) e).heap.size = s.heap.size + 1 := by
    rw [← BinaryHeap.length_toList, ← BinaryHeap.length_toList,
      (s.enqueue_heap_toList _ e).length_eq, List.length_cons]
  have hsucc : (s.enqueue (s.nextSequence + 1) e).nextSequence.toNat =
      s.nextSequence.toNat + 1 := UInt64.checkedSucc_eq_some.mp (if_pos ha.sequence_left)
  have hleft := ha.sequence_left
  unfold budget
  omega

lemma advance_budget {e : Event T} {heap : BinaryHeap (Event.key : Event T → EventKey)}
    (hpop : s.heap.pop = some (e, heap)) : (s.advance e heap).budget + 1 = s.budget := by
  have hsize : s.heap.size = (s.advance e heap).heap.size + 1 := by
    rw [← BinaryHeap.length_toList, ← BinaryHeap.length_toList,
      (BinaryHeap.pop_eq_some hpop).2.length_eq, List.length_cons]
    rfl
  have hnext : (s.advance e heap).nextSequence = s.nextSequence := rfl
  unfold budget
  rw [hnext]
  omega

end Scheduler

/-- A component's call keeps the budget. -/
lemma Handler.run_budget [Contracts] {C : Type} (h : Handler C) (ctx : Ctx) :
    (h.run ctx).2.2.scheduler.budget = ctx.scheduler.budget := by
  refine h.run_induction (P := fun c => c.scheduler.budget = ctx.scheduler.budget) ?_ ?_ ?_ rfl
  · intro c result c' hc hposted
    cases hposted with
    | refused => exact hc
    | failed => exact hc
    | sent _ _ _ _ _ _ _ _ ha => exact (Scheduler.enqueue_budget ha _).trans hc
    | woken _ _ _ _ _ _ ha => exact (Scheduler.enqueue_budget ha _).trans hc
  · exact fun _ _ hc => hc
  · exact fun _ _ _ hc => hc

namespace Runtime

variable {C : Type} [Contracts] [Component C]

/-- What a driver can still be kept busy with. -/
def weight (rt : Runtime C) : ℕ := rt.scheduler.budget + rt.observePoints.size

lemma dispatch_budget {rt rt' : Runtime C} {ev : CanonicalEvent} {control : Control}
    (h : rt.dispatch = (.ok (some (ev, control)), rt')) :
    rt'.scheduler.budget < rt.scheduler.budget := by
  have hspec := rt.dispatch_spec
  rw [h] at hspec
  cases hspec with
  | handled e heap hpop hlimit c ctx henter hok =>
    obtain ⟨slot, peers, rng, -, -, -, -, rfl⟩ := enter_eq_some.mp henter
    have hrun := (Component.handleEvent c e.canonical.delivery).run_budget
      { me := e.payload.target, clock := rt.clock, domains := rt.domains, ports := slot.ports
        peers, scheduler := (rt.take e heap).scheduler, rng
        trace := if (rt.take e heap).capturing then some (rt.take e heap).emitted else none
        at_ := .event e.key, error := none, sent := [] }
    have hadvance := Scheduler.advance_budget hpop
    refine lt_of_eq_of_lt hrun ?_
    change (rt.scheduler.advance e heap).budget < _
    omega

lemma dispatch_observePoints (rt : Runtime C) :
    rt.dispatch.2.observePoints = rt.observePoints := by
  have hspec := rt.dispatch_spec
  generalize rt.dispatch = out at hspec
  cases hspec <;> rfl

section

omit [Contracts]

@[simp] lemma firePoint_scheduler (rt : Runtime C) (point : Tick) :
    (rt.firePoint point).2.scheduler = rt.scheduler := rfl

@[simp] lemma firePoint_observePoints (rt : Runtime C) (point : Tick) :
    (rt.firePoint point).2.observePoints = rt.observePoints.popFirst := rfl

/-! ## The firing pass -/

lemma fireLoop_of_none {rt : Runtime C} {horizon : Option Tick} (h : rt.duePoint horizon = none)
    (stopOnPause : Bool) (control : Control) :
    fireLoop horizon stopOnPause control rt = (control, rt) := by
  rw [fireLoop]
  split
  next => rfl
  next hdue => rw [h] at hdue; cases hdue

lemma fireLoop_of_some {rt : Runtime C} {horizon : Option Tick} {point : Tick}
    (h : rt.duePoint horizon = some point) (stopOnPause : Bool) (control : Control) :
    fireLoop horizon stopOnPause control rt =
      let control := if (rt.firePoint point).1 = .pause then .pause else control
      if stopOnPause ∧ control = .pause then (control, (rt.firePoint point).2)
      else fireLoop horizon stopOnPause control (rt.firePoint point).2 := by
  conv_lhs => rw [fireLoop]
  split
  next hdue => rw [h] at hdue; cases hdue
  next hdue =>
    rw [h, Option.some.injEq] at hdue
    subst hdue
    rfl

/-- What firing a due point preserves, a firing pass preserves. -/
lemma fireLoop_induction {P : Runtime C → Prop} {horizon : Option Tick}
    (hfire : ∀ rt point, P rt → rt.duePoint horizon = some point → P (rt.firePoint point).2)
    (stopOnPause : Bool) (control : Control) {rt : Runtime C} (h : P rt) :
    P (fireLoop horizon stopOnPause control rt).2 := by
  induction hn : rt.observePoints.size generalizing rt control with
  | zero =>
    have hnone : rt.duePoint horizon = none := by
      have hnil : rt.observePoints.first = none :=
        SortedSet.first_eq_none.mpr (List.eq_nil_of_length_eq_zero hn)
      rw [duePoint, hnil, Option.filter_none]
    rw [fireLoop_of_none hnone]
    exact h
  | succ n ih =>
    cases hdue : rt.duePoint horizon with
    | none =>
      rw [fireLoop_of_none hdue]
      exact h
    | some point =>
      have hsize := SortedSet.size_popFirst (first_of_duePoint hdue)
      rw [fireLoop_of_some hdue]
      dsimp only
      generalize (if (rt.firePoint point).1 = .pause then Control.pause else control) = control'
      split
      next => exact hfire rt point h hdue
      next => exact ih _ (hfire rt point h hdue) (by rw [firePoint_observePoints]; omega)

/-- A pass that was not stopped leaves no due point behind. -/
lemma duePoint_fireLoop {horizon : Option Tick} {stopOnPause : Bool} {control : Control}
    {rt : Runtime C}
    (h : stopOnPause = false ∨ (fireLoop horizon stopOnPause control rt).1 = .continue_) :
    (fireLoop horizon stopOnPause control rt).2.duePoint horizon = none := by
  induction hn : rt.observePoints.size using Nat.strong_induction_on generalizing rt control with
  | h n ih =>
    cases hdue : rt.duePoint horizon with
    | none => rwa [fireLoop_of_none hdue]
    | some point =>
      have hsize := SortedSet.size_popFirst (first_of_duePoint hdue)
      rw [fireLoop_of_some hdue] at h ⊢
      dsimp only at h ⊢
      generalize (if (rt.firePoint point).1 = .pause then Control.pause else control) = control'
        at h ⊢
      split at h
      next hstop =>
        rcases h with h | h
        · simp [h] at hstop
        · rw [hstop.2] at h
          cases h
      next hstop =>
        rw [if_neg hstop]
        exact ih _ (by rw [firePoint_observePoints]; omega) h rfl

lemma fireObservePoints_scheduler (rt : Runtime C) (horizon : Option Tick) (stopOnPause : Bool) :
    (rt.fireObservePoints horizon stopOnPause).2.scheduler = rt.scheduler :=
  fireLoop_induction (P := fun r => r.scheduler = rt.scheduler) (fun _ _ h _ => h) _ _ rfl

end

/-! ## The loops -/

/-- The loop of `run`, after `events` dispatches. -/
def runLoop (until_ : Tick) (events : ℕ) (rt : Runtime C) :
    Except RuntimeError RunOutcome × Runtime C :=
  match _ : rt.fireObservePoints (some until_) true with
  | (.pause, rt₁) => (.ok ⟨events, .paused⟩, rt₁)
  | (.continue_, rt₁) =>
    match rt₁.scheduler.peekKey with
    | none => (.ok ⟨events, .drained⟩, rt₁)
    | some k =>
      if until_ < k.tick then (.ok ⟨events, .horizon⟩, rt₁)
      else match _ : rt₁.dispatch with
        | (.error e, rt₂) => (.error e, rt₂)
        | (.ok none, rt₂) => (.ok ⟨events, .drained⟩, rt₂)
        | (.ok (some (_, .pause)), rt₂) => (.ok ⟨events + 1, .paused⟩, rt₂)
        | (.ok (some (_, .continue_)), rt₂) => runLoop until_ (events + 1) rt₂
termination_by rt.scheduler.budget
decreasing_by
  have hfire : rt.fireObservePoints (some until_) true = (.continue_, rt₁) := ‹_›
  have hscheduler := rt.fireObservePoints_scheduler (some until_) true
  rw [hfire] at hscheduler
  have hbudget := dispatch_budget ‹rt₁.dispatch = _›
  rwa [hscheduler] at hbudget

/-- Dispatches events at or before `until_` until none is left before then, or an observer asks
for a pause. -/
def run (rt : Runtime C) (until_ : Tick) : Except RuntimeError RunOutcome × Runtime C :=
  match rt.require .ready with
  | .error e => (.error e, rt)
  | .ok () => runLoop until_ 0 rt

/-! ## Turns of the loop -/

/-- What one turn of the loop did. -/
inductive Turn
  | fired (control : Control)
  | ran (ev : CanonicalEvent) (control : Control)
  | stopped (stop : Stop)
  | failed (e : RuntimeError)
  deriving DecidableEq, Repr

/-- One turn: fire the point that is due first, or dispatch the next event, or stop. -/
def turn (until_ : Tick) (rt : Runtime C) : Turn × Runtime C :=
  match rt.duePoint (some until_) with
  | some point => (.fired (rt.firePoint point).1, (rt.firePoint point).2)
  | none =>
    match rt.scheduler.peekKey with
    | none => (.stopped .drained, rt)
    | some k =>
      if until_ < k.tick then (.stopped .horizon, rt)
      else match rt.dispatch with
        | (.error e, rt) => (.failed e, rt)
        | (.ok none, rt) => (.stopped .drained, rt)
        | (.ok (some (ev, control)), rt) => (.ran ev control, rt)

/-- A run goes on after a turn that did not pause it. -/
def runOn (until_ : Tick) (events : ℕ) : Turn × Runtime C →
    Except RuntimeError RunOutcome × Runtime C
  | (.fired .pause, rt) => (.ok ⟨events, .paused⟩, rt)
  | (.fired .continue_, rt) => runLoop until_ events rt
  | (.ran _ .pause, rt) => (.ok ⟨events + 1, .paused⟩, rt)
  | (.ran _ .continue_, rt) => runLoop until_ (events + 1) rt
  | (.stopped stop, rt) => (.ok ⟨events, stop⟩, rt)
  | (.failed e, rt) => (.error e, rt)

/-- The part of the loop after the firing pass. -/
lemma runLoop_of_fire {until_ : Tick} {events : ℕ} {rt rt₁ : Runtime C}
    (h : rt.fireObservePoints (some until_) true = (.continue_, rt₁))
    (hdue : rt₁.duePoint (some until_) = none) :
    runLoop until_ events rt = runOn until_ events (turn until_ rt₁) := by
  rw [runLoop, turn, hdue]
  split
  next hpause => rw [h] at hpause; cases hpause
  next hcontinue =>
    rw [h, Prod.mk.injEq] at hcontinue
    obtain ⟨-, rfl⟩ := hcontinue
    cases rt₁.scheduler.peekKey with
    | none => rfl
    | some k =>
      dsimp only
      split_ifs with hk
      · rfl
      · split <;> simp_all [runOn]

lemma runLoop_of_pause {until_ : Tick} {rt rt₁ : Runtime C}
    (h : rt.fireObservePoints (some until_) true = (.pause, rt₁)) (events : ℕ) :
    runLoop until_ events rt = (.ok ⟨events, .paused⟩, rt₁) := by
  rw [runLoop]
  split
  next hpause =>
    rw [h, Prod.mk.injEq] at hpause
    rw [hpause.2]
  next hcontinue => rw [h] at hcontinue; cases hcontinue

/-- A run depends on what its first firing pass leaves. -/
lemma runLoop_congr {until_ : Tick} {rt rt' : Runtime C}
    (h : rt.fireObservePoints (some until_) true = rt'.fireObservePoints (some until_) true)
    (events : ℕ) : runLoop until_ events rt = runLoop until_ events rt' := by
  cases hfire : rt'.fireObservePoints (some until_) true with
  | mk control rt₁ =>
    cases control with
    | pause => rw [runLoop_of_pause hfire, runLoop_of_pause (h.trans hfire)]
    | continue_ =>
      have hdue : rt₁.duePoint (some until_) = none := by
        have hloop := duePoint_fireLoop (.inr (congrArg Prod.fst hfire))
        rwa [show fireLoop _ _ _ _ = _ from hfire] at hloop
      rw [runLoop_of_fire hfire hdue, runLoop_of_fire (h.trans hfire) hdue]

/-- A run is its turns, up to the first pause. -/
lemma runLoop_eq (until_ : Tick) (events : ℕ) (rt : Runtime C) :
    runLoop until_ events rt = runOn until_ events (turn until_ rt) := by
  cases hdue : rt.duePoint (some until_) with
  | none => exact runLoop_of_fire (fireLoop_of_none hdue true .continue_) hdue
  | some point =>
    have hturn : turn until_ rt = (.fired (rt.firePoint point).1, (rt.firePoint point).2) := by
      rw [turn, hdue]
    have hfire := fireLoop_of_some hdue true .continue_
    rw [hturn]
    cases hc : (rt.firePoint point).1 with
    | pause =>
      rw [hc] at hfire
      exact runLoop_of_pause hfire events
    | continue_ =>
      rw [hc] at hfire
      exact runLoop_congr hfire events

/-- Everything a turn can do. -/
inductive Turned (until_ : Tick) (rt : Runtime C) : Turn × Runtime C → Prop
  | fired (point : Tick) (hdue : rt.duePoint (some until_) = some point) :
      Turned until_ rt (.fired (rt.firePoint point).1, (rt.firePoint point).2)
  | drained (hdue : rt.duePoint (some until_) = none) (hpeek : rt.scheduler.peekKey = none) :
      Turned until_ rt (.stopped .drained, rt)
  | horizon (hdue : rt.duePoint (some until_) = none) (k : EventKey)
      (hpeek : rt.scheduler.peekKey = some k) (hk : until_ < k.tick) :
      Turned until_ rt (.stopped .horizon, rt)
  | ran (hdue : rt.duePoint (some until_) = none) (k : EventKey)
      (hpeek : rt.scheduler.peekKey = some k) (hk : k.tick ≤ until_) (ev : CanonicalEvent)
      (control : Control) (rt' : Runtime C)
      (hdispatch : rt.dispatch = (.ok (some (ev, control)), rt')) :
      Turned until_ rt (.ran ev control, rt')
  | failed (hdue : rt.duePoint (some until_) = none) (k : EventKey)
      (hpeek : rt.scheduler.peekKey = some k) (hk : k.tick ≤ until_) (e : RuntimeError)
      (rt' : Runtime C) (hdispatch : rt.dispatch = (.error e, rt')) :
      Turned until_ rt (.failed e, rt')

/-- Nothing is dispatched only if nothing is pending. -/
lemma peekKey_of_dispatch_none {rt rt' : Runtime C} (h : rt.dispatch = (.ok none, rt')) :
    rt.scheduler.peekKey = none := by
  have hspec := rt.dispatch_spec
  rw [h] at hspec
  cases hspec with
  | drained hnil =>
    rw [Scheduler.peekKey, BinaryHeap.peek_eq_none.mpr hnil, Option.map_none]

lemma turn_spec (until_ : Tick) (rt : Runtime C) : Turned until_ rt (turn until_ rt) := by
  unfold turn
  cases hdue : rt.duePoint (some until_) with
  | some point => exact .fired point hdue
  | none =>
    cases hpeek : rt.scheduler.peekKey with
    | none => exact .drained hdue hpeek
    | some k =>
      dsimp only
      split_ifs with hk
      · exact .horizon hdue k hpeek hk
      · have hle := not_lt.mp hk
        cases hdispatch : rt.dispatch with
        | mk result rt' =>
          rcases result with e | _ | ⟨ev, control⟩
          · exact .failed hdue k hpeek hle e rt' hdispatch
          · rw [peekKey_of_dispatch_none hdispatch] at hpeek
            cases hpeek
          · exact .ran hdue k hpeek hle ev control rt' hdispatch

omit [Contracts] in
lemma firePoint_weight {until_ : Tick} {rt : Runtime C} {point : Tick}
    (h : rt.duePoint (some until_) = some point) : (rt.firePoint point).2.weight < rt.weight := by
  have hsize := SortedSet.size_popFirst (first_of_duePoint h)
  simp only [weight, firePoint_scheduler, firePoint_observePoints]
  omega

lemma dispatch_weight {rt rt' : Runtime C} {ev : CanonicalEvent} {control : Control}
    (h : rt.dispatch = (.ok (some (ev, control)), rt')) : rt'.weight < rt.weight := by
  have hbudget := dispatch_budget h
  have hpoints := rt.dispatch_observePoints
  rw [h] at hpoints
  simp only [weight] at hpoints ⊢
  rw [hpoints]
  omega

/-- A turn that goes on makes the session lighter. -/
lemma turn_weight {until_ : Tick} {rt rt' : Runtime C} {control : Control}
    (h : turn until_ rt = (.fired control, rt') ∨ ∃ ev, turn until_ rt = (.ran ev control, rt')) :
    rt'.weight < rt.weight := by
  have hspec := turn_spec until_ rt
  rcases h with h | ⟨ev, h⟩
  · rw [h] at hspec
    cases hspec with
    | fired point hdue => exact firePoint_weight hdue
  · rw [h] at hspec
    cases hspec with
    | ran _ _ _ _ _ _ _ hdispatch => exact dispatch_weight hdispatch

/-- A paused run has made the session lighter. -/
lemma runLoop_paused_weight {until_ : Tick} {rt rt' : Runtime C} {events n : ℕ}
    (h : runLoop until_ events rt = (.ok ⟨n, .paused⟩, rt')) : rt'.weight < rt.weight := by
  induction hw : rt.weight using Nat.strong_induction_on generalizing rt events with
  | h w ih =>
    subst hw
    rw [runLoop_eq] at h
    have hspec := turn_spec until_ rt
    generalize turn until_ rt = out at h hspec
    cases hspec with
    | fired point hdue =>
      have hlt := firePoint_weight hdue
      cases hc : (rt.firePoint point).1 with
      | pause =>
        rw [hc] at h
        cases h
        exact hlt
      | continue_ =>
        rw [hc] at h
        exact (ih _ hlt h rfl).trans hlt
    | drained => cases h
    | horizon => cases h
    | ran _ _ _ _ ev control rt₁ hdispatch =>
      have hlt := dispatch_weight hdispatch
      cases control with
      | pause =>
        cases h
        exact hlt
      | continue_ => exact (ih _ hlt h rfl).trans hlt
    | failed => cases h

lemma run_paused_weight {until_ : Tick} {rt rt' : Runtime C} {n : ℕ}
    (h : rt.run until_ = (.ok ⟨n, .paused⟩, rt')) : rt'.weight < rt.weight := by
  unfold run at h
  split at h
  · cases h
  · exact runLoop_paused_weight h

/-- The loop of `runUntil`, after `total` dispatches. -/
def runUntilLoop (until_ : Tick) (total : ℕ) (rt : Runtime C) :
    Except RuntimeError ℕ × Runtime C :=
  match _ : rt.run until_ with
  | (.error e, rt') => (.error e, rt')
  | (.ok ⟨events, .paused⟩, rt') => runUntilLoop until_ (total + events) rt'
  | (.ok ⟨events, _⟩, rt') => (.ok (total + events), rt')
termination_by rt.weight
decreasing_by exact run_paused_weight ‹_›

/-- `run` through any pauses; returns how many events ran. -/
def runUntil (rt : Runtime C) (until_ : Tick) : Except RuntimeError ℕ × Runtime C :=
  runUntilLoop until_ 0 rt

/-! ## What a run does -/

/-- What `run_until` does with the outcome of one `run`. -/
def runUntilOn (until_ : Tick) (total : ℕ) : Except RuntimeError RunOutcome × Runtime C →
    Except RuntimeError ℕ × Runtime C
  | (.error e, rt) => (.error e, rt)
  | (.ok ⟨events, .paused⟩, rt) => runUntilLoop until_ (total + events) rt
  | (.ok ⟨events, .drained⟩, rt) => (.ok (total + events), rt)
  | (.ok ⟨events, .horizon⟩, rt) => (.ok (total + events), rt)

lemma runUntilLoop_eq (until_ : Tick) (total : ℕ) (rt : Runtime C) :
    runUntilLoop until_ total rt = runUntilOn until_ total (rt.run until_) := by
  rw [runUntilLoop]
  split
  next heq => rw [heq, runUntilOn]
  next heq => rw [heq, runUntilOn]
  next events stop rt' hstop heq =>
    rw [heq]
    cases stop with
    | paused => exact absurd rfl hstop
    | drained => rfl
    | horizon => rfl

/-- A handled event leaves the lifecycle alone. -/
lemma dispatch_lifecycle {rt rt' : Runtime C} {ev : CanonicalEvent} {control : Control}
    (h : rt.dispatch = (.ok (some (ev, control)), rt')) : rt'.lifecycle = rt.lifecycle := by
  have hspec := rt.dispatch_spec
  rw [h] at hspec
  cases hspec with
  | handled => rfl

lemma run_of_ready {rt : Runtime C} (h : rt.lifecycle = .ready) (until_ : Tick) :
    rt.run until_ = runLoop until_ 0 rt := by
  rw [run, require, h]
  rfl

lemma runUntil_of_require {rt : Runtime C} {e : RuntimeError} (h : rt.require .ready = .error e)
    (until_ : Tick) : rt.runUntil until_ = (.error e, rt) := by
  rw [runUntil, runUntilLoop_eq, run, h]
  rfl

omit [Contracts] [Component C] in
lemma require_ready_cases (rt : Runtime C) :
    rt.lifecycle = .ready ∨ ∃ e, rt.require .ready = .error e := by
  unfold require
  cases rt.lifecycle with
  | ready => exact .inl rfl
  | elaborated => exact .inr ⟨_, rfl⟩
  | faulted =>
    cases rt.fault with
    | none => exact .inr ⟨_, rfl⟩
    | some e => exact .inr ⟨_, rfl⟩

end Runtime

end SystemScope
