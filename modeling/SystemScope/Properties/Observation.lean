import SystemScope.Properties.Agreement

/-!
# Observation does not change the simulation

Whatever the observers answer, whichever observe points are set and whether or not a trace is
recorded, `run_until` runs the same simulation.  And whatever they answer, the observers are
shown the same as if they had always answered to go on.

A pause only ends a call early, so `run_until` is the turns of the loop with every answer
ignored: `driveLoop`.  Both results compare two such sequences of turns.
-/

namespace SystemScope.Runtime

variable {C : Type} [Contracts] [Component C]

/-! ## Running without pauses -/

/-- The turns of a run, whatever the observers answer. -/
def driveLoop (until_ : Tick) (events : ℕ) (rt : Runtime C) :
    Except RuntimeError RunOutcome × Runtime C :=
  match _ : turn until_ rt with
  | (.fired _, rt') => driveLoop until_ events rt'
  | (.ran _ _, rt') => driveLoop until_ (events + 1) rt'
  | (.stopped stop, rt') => (.ok ⟨events, stop⟩, rt')
  | (.failed e, rt') => (.error e, rt')
termination_by rt.weight
decreasing_by
  · exact turn_weight (.inl ‹_›)
  · exact turn_weight (.inr ⟨_, ‹_›⟩)

/-- What is left to do after a turn, whatever the observers answer. -/
def driveOn (until_ : Tick) (events : ℕ) :
    Turn × Runtime C → Except RuntimeError RunOutcome × Runtime C
  | (.fired _, rt) => driveLoop until_ events rt
  | (.ran _ _, rt) => driveLoop until_ (events + 1) rt
  | (.stopped stop, rt) => (.ok ⟨events, stop⟩, rt)
  | (.failed e, rt) => (.error e, rt)

lemma driveLoop_eq (until_ : Tick) (events : ℕ) (rt : Runtime C) :
    driveLoop until_ events rt = driveOn until_ events (turn until_ rt) := by
  rw [driveLoop]
  split <;> simp_all [driveOn]

/-- Pauses are invisible: what `run_until` makes of a run is what its turns make of it. -/
lemma runUntilOn_runLoop (until_ : Tick) {rt : Runtime C} (hready : rt.lifecycle = .ready)
    (total events : ℕ) :
    runUntilOn until_ total (runLoop until_ events rt) =
      (driveLoop until_ (total + events) rt).map (Except.map RunOutcome.events) id := by
  induction hw : rt.weight using Nat.strong_induction_on generalizing rt total events with
  | h w ih =>
    subst hw
    -- A run that paused is taken up again from where it paused.
    have hagain : ∀ rt' : Runtime C, rt'.lifecycle = .ready → rt'.weight < rt.weight → ∀ n,
        runUntilLoop until_ n rt' =
          (driveLoop until_ n rt').map (Except.map RunOutcome.events) id := by
      intro rt' hready' hlt n
      rw [runUntilLoop_eq, run_of_ready hready']
      exact ih _ hlt hready' n 0 rfl
    rw [runLoop_eq, driveLoop_eq]
    have hspec := turn_spec until_ rt
    generalize turn until_ rt = out at hspec
    cases hspec with
    | fired point hdue =>
      have hlt := firePoint_weight hdue
      have hready' : (rt.firePoint point).2.lifecycle = .ready := hready
      cases (rt.firePoint point).1 with
      | pause => exact hagain _ hready' hlt _
      | continue_ => exact ih _ hlt hready' total events rfl
    | drained => rfl
    | horizon => rfl
    | ran _ _ _ _ ev control rt' hdispatch =>
      have hlt := dispatch_weight hdispatch
      have hready' := (dispatch_lifecycle hdispatch).trans hready
      cases control with
      | pause => exact hagain _ hready' hlt _
      | continue_ => exact ih _ hlt hready' total (events + 1) rfl
    | failed => rfl

lemma runUntil_eq_driveLoop {rt : Runtime C} (hready : rt.lifecycle = .ready) (until_ : Tick) :
    rt.runUntil until_ = (driveLoop until_ 0 rt).map (Except.map RunOutcome.events) id := by
  rw [runUntil, runUntilLoop_eq, run_of_ready hready]
  exact runUntilOn_runLoop until_ hready 0 0

/-! ## Nobody watching -/

/-- The same session with no observers, no observe points and no trace. -/
def unobserved (rt : Runtime C) : Runtime C :=
  { rt with observers := [], observePoints := .empty, trace := none }

section

variable {S : Scheduler Pending → Scheduler Pending → Prop} {W O : Prop}
  {p p' : List CanonicalEvent} (hS : Scheduler.Indistinguishable S)

include hS

lemma Agree.turn (until_ : Tick) {rt rt' : Runtime C} (h : Agree S W O p p' rt rt')
    (hdue : rt.duePoint (some until_) = none) (hdue' : rt'.duePoint (some until_) = none) :
    (∃ stop, turn until_ rt = (.stopped stop, rt) ∧ turn until_ rt' = (.stopped stop, rt')) ∨
    (∃ ev c c' r r', turn until_ rt = (.ran ev c, r) ∧ turn until_ rt' = (.ran ev c', r') ∧
      rt.dispatch = (.ok (some (ev, c)), r) ∧ rt'.dispatch = (.ok (some (ev, c')), r') ∧
      Agree S W O p p' r r') ∨
    ∃ e r r', turn until_ rt = (.failed e, r) ∧ turn until_ rt' = (.failed e, r') ∧
      Agree S W O p p' r r' := by
  have hpeek' := hS.peekKey h.scheduler
  have hspec := turn_spec until_ rt
  generalize Runtime.turn until_ rt = out at hspec
  rw [Runtime.turn, hdue', hpeek']
  cases hspec with
  | fired point hdue₁ =>
    rw [hdue] at hdue₁
    cases hdue₁
  | drained _ hpeek =>
    rw [hpeek]
    exact .inl ⟨_, rfl, rfl⟩
  | horizon _ k hpeek hk =>
    simp only [hpeek, if_pos hk]
    exact .inl ⟨_, rfl, rfl⟩
  | ran _ k hpeek hk ev control r hdispatch =>
    obtain ⟨control', r', hdispatch', hnext⟩ := h.dispatch_of_some hS hdispatch
    simp only [hpeek, if_neg (not_lt.mpr hk), hdispatch']
    exact .inr (.inl ⟨ev, control, control', r, r', rfl, rfl, hdispatch, rfl, hnext⟩)
  | failed _ k hpeek hk e r hdispatch =>
    obtain ⟨r', hdispatch', hnext⟩ := h.dispatch_of_error hS hdispatch
    simp only [hpeek, if_neg (not_lt.mpr hk), hdispatch']
    exact .inr (.inr ⟨e, r, r', rfl, rfl, hnext⟩)

/-- Sessions that agree run alike, whatever observe points and observers each of them has. -/
lemma driveLoop_agree (until_ : Tick) {rt rt' : Runtime C} (h : Agree S W False p p' rt rt')
    (events : ℕ) :
    (driveLoop until_ events rt').1 = (driveLoop until_ events rt).1 ∧
      Agree S W False p p' (driveLoop until_ events rt).2 (driveLoop until_ events rt').2 := by
  induction hw : rt.weight + rt'.weight using Nat.strong_induction_on
    generalizing rt rt' events with
  | h w ih =>
    subst hw
    cases hdue : rt.duePoint (some until_) with
    | some point =>
      have hlt := firePoint_weight hdue
      rw [driveLoop_eq until_ events rt, Runtime.turn, hdue]
      exact ih _ (by omega) (h.firePoint_left point) events rfl
    | none =>
      cases hdue' : rt'.duePoint (some until_) with
      | some point =>
        have hlt := firePoint_weight hdue'
        rw [driveLoop_eq until_ events rt', Runtime.turn, hdue']
        exact ih _ (by omega) (h.firePoint_right point) events rfl
      | none =>
        rw [driveLoop_eq until_ events rt, driveLoop_eq until_ events rt']
        rcases h.turn hS until_ hdue hdue' with ⟨stop, hl, hr⟩ |
          ⟨ev, c, c', r, r', hl, hr, hd, hd', hnext⟩ | ⟨e, r, r', hl, hr, hnext⟩
        · rw [hl, hr]
          exact ⟨rfl, h⟩
        · have hlt := dispatch_weight hd
          have hlt' := dispatch_weight hd'
          rw [hl, hr]
          exact ih _ (by omega) hnext (events + 1) rfl
        · rw [hl, hr]
          exact ⟨rfl, hnext⟩

lemma Agree.runUntil (until_ : Tick) {rt rt' : Runtime C} (h : Agree S W False p p' rt rt') :
    (rt'.runUntil until_).1 = (rt.runUntil until_).1 ∧
      Agree S W False p p' (rt.runUntil until_).2 (rt'.runUntil until_).2 := by
  rcases rt.require_ready_cases with hready | ⟨e, hrefused⟩
  · rw [runUntil_eq_driveLoop hready, runUntil_eq_driveLoop (h.lifecycle.trans hready)]
    obtain ⟨hresult, hagree⟩ := driveLoop_agree hS until_ h 0
    exact ⟨congrArg (Except.map RunOutcome.events) hresult, hagree⟩
  · rw [runUntil_of_require hrefused, runUntil_of_require ((h.require .ready).trans hrefused)]
    exact ⟨rfl, h⟩

end

/-! ## Observers that never pause -/

/-- The same session, whose observers always answer to go on. -/
def continuing (rt : Runtime C) : Runtime C :=
  { rt with observers := rt.observers.map fun o => { o with answer := fun _ => .continue_ } }

/-- Watched sessions with the same observe points show their observers the same. -/
lemma driveLoop_watched {S : Scheduler Pending → Scheduler Pending → Prop} {W O : Prop}
    {p p' : List CanonicalEvent} (hS : Scheduler.Indistinguishable S) (until_ : Tick)
    {rt rt' : Runtime C} (h : Agree S W O p p' rt rt')
    (hpoints : rt'.observePoints = rt.observePoints) (events : ℕ) :
    Agree S W O p p' (driveLoop until_ events rt).2 (driveLoop until_ events rt').2 := by
  induction hw : rt.weight using Nat.strong_induction_on generalizing rt rt' events with
  | h w ih =>
    subst hw
    have hdue' := h.duePoint hS hpoints (some until_)
    cases hdue : rt.duePoint (some until_) with
    | some point =>
      have hfired : (rt'.firePoint point).2.observePoints =
          (rt.firePoint point).2.observePoints := by
        rw [firePoint_observePoints, firePoint_observePoints, hpoints]
      rw [driveLoop_eq until_ events rt, turn, hdue, driveLoop_eq until_ events rt', turn, hdue',
        hdue]
      exact ih _ (firePoint_weight hdue) (h.firePoint point) hfired events rfl
    | none =>
      rw [driveLoop_eq until_ events rt, driveLoop_eq until_ events rt']
      rcases h.turn hS until_ hdue (hdue'.trans hdue) with ⟨stop, hl, hr⟩ |
        ⟨ev, c, c', r, r', hl, hr, hd, hd', hnext⟩ | ⟨e, r, r', hl, hr, hnext⟩
      · rw [hl, hr]
        exact h
      · have hkept := rt.dispatch_observePoints
        have hkept' := rt'.dispatch_observePoints
        rw [hd] at hkept
        rw [hd'] at hkept'
        rw [hl, hr]
        refine ih _ (dispatch_weight hd) hnext ?_ (events + 1) rfl
        exact (hkept'.trans hpoints).trans hkept.symm
      · rw [hl, hr]
        exact hnext

/-- What is attached to a session stays: its observers, which answer as they did, and its
recorder. -/
structure Attached (rt rt' : Runtime C) : Prop where
  answers : rt'.observers.map Observer.answer = rt.observers.map Observer.answer
  traced : rt'.trace.isSome = rt.trace.isSome

namespace Attached

variable {rt rt₁ rt₂ : Runtime C}

omit [Contracts] [Component C] in
lemma refl (rt : Runtime C) : Attached rt rt := ⟨rfl, rfl⟩

omit [Contracts] [Component C] in
lemma trans (h : Attached rt rt₁) (h' : Attached rt₁ rt₂) : Attached rt rt₂ :=
  ⟨h'.answers.trans h.answers, h'.traced.trans h.traced⟩

omit [Contracts] [Component C] in
lemma answers_call (observers : List Observer) (callback : Callback) :
    (observers.map fun o => o.call callback).map Observer.answer =
      observers.map Observer.answer := by
  simp [Observer.call]

omit [Contracts] [Component C] in
lemma flushRecords (rt : Runtime C) : Attached rt rt.flushRecords := by
  have hfold : ∀ (records : List TraceRecord) (observers : List Observer),
      (records.foldl (fun observers r => observers.map fun o => o.call (.trace r))
        observers).map Observer.answer = observers.map Observer.answer := by
    intro records
    induction records with
    | nil => exact fun _ => rfl
    | cons r records ih => exact fun observers => (ih _).trans (answers_call observers _)
  exact ⟨hfold rt.emitted rt.observers, by simp [Runtime.flushRecords]⟩

omit [Contracts] [Component C] in
lemma resume (rt : Runtime C) (out : Except SimError Unit × C × Ctx) :
    Attached rt (rt.resume out) :=
  { flushRecords (rt.leave out.2.1 out.2.2) with }

omit [Contracts] in
lemma firePoint (rt : Runtime C) (point : Tick) : Attached rt (rt.firePoint point).2 :=
  ⟨answers_call rt.observers _, rfl⟩

lemma dispatch (rt : Runtime C) : Attached rt rt.dispatch.2 := by
  have hspec := rt.dispatch_spec
  generalize rt.dispatch = out at hspec
  cases hspec with
  | drained => exact .refl rt
  | livelock => exact ⟨rfl, rfl⟩
  | unknown => exact ⟨rfl, rfl⟩
  | failed e heap _ _ c ctx =>
    exact { resume (rt.take e heap) (handle e c ctx) with }
  | handled e heap _ _ c ctx =>
    have hresumed := resume (rt.take e heap) (handle e c ctx)
    exact ⟨(answers_call _ _).trans hresumed.answers, hresumed.traced⟩

lemma dispatch_of_some {ev : CanonicalEvent} {control : Control}
    (h : rt.dispatch = (.ok (some (ev, control)), rt₁)) : Attached rt rt₁ := by
  have hdispatch := dispatch rt
  rwa [h] at hdispatch

lemma driveLoop (until_ : Tick) (events : ℕ) (rt : Runtime C) :
    Attached rt (driveLoop until_ events rt).2 := by
  induction hw : rt.weight using Nat.strong_induction_on generalizing rt events with
  | h w ih =>
    subst hw
    rw [driveLoop_eq]
    have hspec := turn_spec until_ rt
    generalize turn until_ rt = out at hspec
    cases hspec with
    | fired point hdue =>
      exact (firePoint rt point).trans (ih _ (firePoint_weight hdue) events _ rfl)
    | drained => exact .refl rt
    | horizon => exact .refl rt
    | ran _ _ _ _ ev control r hdispatch =>
      exact (dispatch_of_some hdispatch).trans
        (ih _ (dispatch_weight hdispatch) (events + 1) r rfl)
    | failed _ _ _ _ e r hdispatch =>
      have hattached := dispatch rt
      rwa [hdispatch] at hattached

end Attached

/-- Every observer always answers to go on. -/
def Unpausing (rt : Runtime C) : Prop :=
  ∀ answer ∈ rt.observers.map Observer.answer, ∀ seen, answer seen = .continue_

omit [Contracts] [Component C] in
lemma continuing_unpausing (rt : Runtime C) : rt.continuing.Unpausing := by
  intro answer hanswer seen
  simp only [continuing, List.map_map, List.mem_map] at hanswer
  obtain ⟨o, -, rfl⟩ := hanswer
  rfl

omit [Contracts] [Component C] in
lemma unpausing_of_nil {rt : Runtime C} (h : rt.observers = []) : rt.Unpausing := by
  simp [Unpausing, h]

omit [Contracts] [Component C] in
lemma Unpausing.of_attached {rt rt' : Runtime C} (h : rt.Unpausing) (hattached : Attached rt rt') :
    rt'.Unpausing := by
  rw [Unpausing, hattached.answers]
  exact h

omit [Contracts] [Component C] in
lemma Unpausing.callAll {rt : Runtime C} (h : rt.Unpausing) (callback : Callback) :
    (Observer.callAll rt.observers callback).1 = .continue_ := by
  have hnone : ((rt.observers.map fun o => o.call callback).any fun o => o.control = .pause) =
      false := by
    rw [List.any_eq_false]
    intro o ho
    have hanswer := List.mem_map_of_mem (f := Observer.answer) ho
    rw [Attached.answers_call] at hanswer
    rw [Observer.control, h _ hanswer]
    decide
  simp only [Observer.callAll, hnone]
  rfl

lemma Unpausing.dispatch {rt rt' : Runtime C} {ev : CanonicalEvent} {control : Control}
    (h : rt.Unpausing) (hdispatch : rt.dispatch = (.ok (some (ev, control)), rt')) :
    control = .continue_ := by
  have hspec := rt.dispatch_spec
  rw [hdispatch] at hspec
  cases hspec with
  | handled e heap _ _ c ctx =>
    have hresumed := Attached.resume (rt.take e heap) (handle e c ctx)
    have htaken : (rt.take e heap).Unpausing := h
    exact (htaken.of_attached hresumed).callAll _

/-- A run whose observers never ask for a pause makes all its turns. -/
lemma runLoop_of_unpausing (until_ : Tick) {rt : Runtime C} (h : rt.Unpausing) (events : ℕ) :
    runLoop until_ events rt = driveLoop until_ events rt := by
  induction hw : rt.weight using Nat.strong_induction_on generalizing rt events with
  | h w ih =>
    subst hw
    rw [runLoop_eq, driveLoop_eq]
    have hspec := turn_spec until_ rt
    generalize turn until_ rt = out at hspec
    cases hspec with
    | fired point hdue =>
      have hcontrol : (rt.firePoint point).1 = .continue_ := h.callAll _
      have hnext := h.of_attached (.firePoint rt point)
      rw [hcontrol]
      exact ih _ (firePoint_weight hdue) hnext events rfl
    | drained => rfl
    | horizon => rfl
    | ran _ _ _ _ ev control r hdispatch =>
      obtain rfl := h.dispatch hdispatch
      have hnext := h.of_attached (.dispatch_of_some hdispatch)
      exact ih _ (dispatch_weight hdispatch) hnext (events + 1) rfl
    | failed => rfl

/-- Turns do not end in a pause. -/
lemma driveLoop_not_paused (until_ : Tick) (events : ℕ) (rt : Runtime C) (n : ℕ) :
    (driveLoop until_ events rt).1 ≠ .ok ⟨n, .paused⟩ := by
  induction hw : rt.weight using Nat.strong_induction_on generalizing rt events with
  | h w ih =>
    subst hw
    rw [driveLoop_eq]
    have hspec := turn_spec until_ rt
    generalize turn until_ rt = out at hspec
    cases hspec with
    | fired point hdue => exact ih _ (firePoint_weight hdue) events _ rfl
    | drained => simp [driveOn]
    | horizon => simp [driveOn]
    | ran _ _ _ _ ev control r hdispatch =>
      exact ih _ (dispatch_weight hdispatch) (events + 1) _ rfl
    | failed => simp [driveOn]

lemma run_of_unpausing (until_ : Tick) {rt : Runtime C} (h : rt.Unpausing) (n : ℕ) :
    (rt.run until_).1 ≠ .ok ⟨n, .paused⟩ := by
  unfold run
  split
  · simp
  · rw [runLoop_of_unpausing until_ h]
    exact driveLoop_not_paused until_ 0 rt n

/-- If a run did not pause, `run_until` stops where it did. -/
lemma runUntilLoop_of_not_paused {until_ : Tick} {rt : Runtime C}
    (h : ∀ n, (rt.run until_).1 ≠ .ok ⟨n, .paused⟩) (total : ℕ) :
    (runUntilLoop until_ total rt).2 = (rt.run until_).2 := by
  rw [runUntilLoop_eq]
  rcases hrun : rt.run until_ with ⟨e | ⟨events, stop⟩, r⟩
  · rfl
  · cases stop with
    | paused => exact absurd (congrArg Prod.fst hrun) (h events)
    | drained => rfl
    | horizon => rfl

/-! ## The theorem -/

/-- A driver's repeated calls of `run` through pauses: from `rt`, `rt'` is reached by calls that
all returned at a pause. -/
inductive PausedRuns (until_ : Tick) : Runtime C → Runtime C → Prop
  | refl (rt : Runtime C) : PausedRuns until_ rt rt
  | pause {rt rt₁ rt₂ : Runtime C} {n : ℕ} (hrun : rt.run until_ = (.ok ⟨n, .paused⟩, rt₁))
      (hrest : PausedRuns until_ rt₁ rt₂) : PausedRuns until_ rt rt₂

lemma PausedRuns.runUntilLoop {until_ : Tick} {rt rt' : Runtime C}
    (h : PausedRuns until_ rt rt') (total : ℕ) :
    ∃ total', runUntilLoop until_ total rt = runUntilLoop until_ total' rt' := by
  induction h generalizing total with
  | refl rt => exact ⟨total, rfl⟩
  | pause hrun hrest ih =>
    obtain ⟨total', hrest'⟩ := ih (total + _)
    refine ⟨total', ?_⟩
    rw [runUntilLoop_eq, hrun]
    exact hrest'

/-- What `run_until` must not depend on observation for. -/
structure SameSimulation (rt rt' : Runtime C) : Prop where
  history : rt'.history = rt.history
  scheduler : rt'.scheduler = rt.scheduler
  components : rt'.components = rt.components
  rngs : rt'.rngs = rt.rngs
  executionDigest : rt'.executionDigest = rt.executionDigest
  lifecycle : rt'.lifecycle = rt.lifecycle
  fault : rt'.fault = rt.fault
  snapshot : rt'.snapshot = rt.snapshot

lemma Agree.sameSimulation {W O : Prop} {rt rt' : Runtime C}
    (h : Agree Eq W O [] [] rt rt') : SameSimulation rt rt' where
  history := by
    obtain ⟨hist, hl, hr⟩ := h.history
    rw [hl, hr]
  scheduler := h.scheduler.symm
  components := h.components
  rngs := h.rngs
  executionDigest := h.executionDigest
  lifecycle := h.lifecycle
  fault := h.fault
  snapshot := h.snapshot .eq

omit [Contracts] [Component C] in
lemma agree_unobserved (rt : Runtime C) : Agree Eq False False [] [] rt rt.unobserved :=
  ⟨rfl, rfl, rfl, rfl, rfl, rfl, rfl, rfl, rfl, rfl, rfl, rfl, rfl, ⟨_, rfl, rfl⟩, False.elim,
    False.elim, False.elim, False.elim⟩

omit [Contracts] [Component C] in
lemma agree_continuing (rt : Runtime C) : Agree Eq True True [] [] rt rt.continuing := by
  refine ⟨rfl, rfl, rfl, rfl, rfl, rfl, rfl, rfl, rfl, rfl, rfl, rfl, rfl, ⟨_, rfl, rfl⟩,
    fun _ => rfl, fun _ => rfl, fun _ => ?_, fun _ _ => ?_⟩
  · simp [capturing, continuing]
  · simp [continuing]

/-- **Observation never changes the simulation, and pausing is invisible.**  For every session,
with whatever observers, observe points and trace it has: `run_until` returns the same and
leaves the same simulation behind as without any of them; the observers that always go on are
never paused; and calling `run` again and again through pauses until one call does not pause
shows every observer the same callbacks, in the same order, as one call of `run` does when all of
them always answer to go on. -/
theorem observation_is_transparent (rt : Runtime C) (until_ : Tick) :
    ((rt.unobserved.runUntil until_).1 = (rt.runUntil until_).1 ∧
      SameSimulation (rt.runUntil until_).2 (rt.unobserved.runUntil until_).2) ∧
    (∀ n, (rt.continuing.run until_).1 ≠ .ok ⟨n, .paused⟩) ∧
    (rt.runUntil until_).2.observers.map Observer.seen =
      (rt.continuing.run until_).2.observers.map Observer.seen ∧
    ∀ rt₁, PausedRuns until_ rt rt₁ → (∀ n, (rt₁.run until_).1 ≠ .ok ⟨n, .paused⟩) →
      (rt₁.run until_).2.observers.map Observer.seen =
        (rt.continuing.run until_).2.observers.map Observer.seen := by
  have hpaused := fun n => run_of_unpausing until_ rt.continuing_unpausing n
  have hseen : (rt.runUntil until_).2.observers.map Observer.seen =
      (rt.continuing.run until_).2.observers.map Observer.seen := by
    rw [← runUntilLoop_of_not_paused hpaused 0]
    change _ = (rt.continuing.runUntil until_).2.observers.map Observer.seen
    rcases rt.require_ready_cases with hready | ⟨e, hrefused⟩
    · have hready' : rt.continuing.lifecycle = .ready := hready
      rw [runUntil_eq_driveLoop hready, runUntil_eq_driveLoop hready']
      exact ((driveLoop_watched .eq until_ rt.agree_continuing rfl 0).seen trivial trivial).symm
    · have hrefused' : rt.continuing.require .ready = .error e := hrefused
      rw [runUntil_of_require hrefused, runUntil_of_require hrefused']
      exact (rt.agree_continuing.seen trivial trivial).symm
  refine ⟨?_, hpaused, hseen, ?_⟩
  · obtain ⟨hresult, hagree⟩ := rt.agree_unobserved.runUntil .eq until_
    exact ⟨hresult, hagree.sameSimulation⟩
  · intro rt₁ hruns hlast
    obtain ⟨total, htotal⟩ := hruns.runUntilLoop 0
    rw [← hseen, ← runUntilLoop_of_not_paused hlast total, ← htotal]
    rfl

end SystemScope.Runtime
