import SystemScope.Framework.Runs
import SystemScope.Runtime.Topology

/-!
# Sticky errors and terminal faults

Inside one call of a component, the first error a context returns is final: every later send or
wake returns it and schedules nothing (`Handler.calls_after_error`), and it becomes the verdict
of the call whatever the component itself returns.  The runtime then faults with it.

A faulted session refuses everything that could change the simulation, and what the other calls
do leaves the simulation alone (`Runtime.call_of_faulted`), so this holds along every run.
-/

namespace SystemScope

variable [Contracts] {C : Type}

/-! ## Within one call of a component -/

namespace Handler

/-- What the sends and wakes of a call returned, each with the scheduler it left behind. -/
def calls : Handler C → Ctx → List (Except SimError Unit × Scheduler Pending)
  | .done _ _, _ => []
  | .send port msg when_ p k, ctx =>
    let (result, ctx) := ctx.send port msg when_ p
    (result, ctx.scheduler) :: (k result).calls ctx
  | .wakeSelf when_ p token k, ctx =>
    let (result, ctx) := ctx.wakeSelf when_ p token
    (result, ctx.scheduler) :: (k result).calls ctx
  | .rng draws k, ctx =>
    let (values, next) := ctx.rng.draw (draws ctx.rng.stream)
    (k values).calls { ctx with rng := next }
  | .trace kind fields k, ctx => k.calls (ctx.emit kind fields)
  | .component k, ctx => (k ctx.me).calls ctx
  | .now k, ctx => (k ctx.scheduler.now).calls ctx
  | .phase k, ctx => (k ctx.scheduler.phase).calls ctx

/-- The first error among the calls is `e`, with the scheduler then at `s`. -/
def FirstError (calls : List (Except SimError Unit × Scheduler Pending)) (e : SimError)
    (s : Scheduler Pending) (after : List (Except SimError Unit × Scheduler Pending)) : Prop :=
  ∃ before, calls = before ++ (.error e, s) :: after ∧ ∀ r ∈ before, r.1 = .ok ()

/-- With an error remembered, nothing is scheduled and every call returns that error. -/
lemma calls_of_error (h : Handler C) {ctx : Ctx} {e : SimError} (he : ctx.error = some e) :
    (∀ r ∈ h.calls ctx, r = (.error e, ctx.scheduler)) ∧
      (h.run ctx).2.2.error = some e ∧ (h.run ctx).2.2.scheduler = ctx.scheduler := by
  induction h generalizing ctx with
  | done result c => exact ⟨by simp [calls], he, rfl⟩
  | send port msg when_ phase k ih =>
    have hsend : ctx.send port msg when_ phase = (.error e, ctx) := Ctx.sticky_of_error he _
    obtain ⟨hcalls, hrun⟩ := ih (.error e) he
    simp only [calls, run, hsend]
    exact ⟨by simpa using hcalls, hrun⟩
  | wakeSelf when_ phase token k ih =>
    have hwake : ctx.wakeSelf when_ phase token = (.error e, ctx) := Ctx.sticky_of_error he _
    obtain ⟨hcalls, hrun⟩ := ih (.error e) he
    simp only [calls, run, hwake]
    exact ⟨by simpa using hcalls, hrun⟩
  | rng draws k ih => exact ih _ he
  | trace kind fields k ih => exact ih he
  | component k ih => exact ih _ he
  | now k ih => exact ih _ he
  | phase k ih => exact ih _ he

/-- The case of one send or wake in `calls_after_error`. -/
lemma firstError_cons {ctx ctx' : Ctx} {result : Except SimError Unit}
    (hposted : ctx.Posted result ctx') (hnone : ctx.error = none) (k : Handler C)
    {e : SimError} {s : Scheduler Pending}
    {after : List (Except SimError Unit × Scheduler Pending)}
    (h : FirstError ((result, ctx'.scheduler) :: k.calls ctx') e s after) :
    (ctx'.error = some e ∧ ctx'.scheduler = s ∧ after = k.calls ctx') ∨
      ctx'.error = none ∧ FirstError (k.calls ctx') e s after := by
  obtain ⟨before, heq, hok⟩ := h
  cases before with
  | nil =>
    rw [List.nil_append, List.cons.injEq, Prod.mk.injEq] at heq
    obtain ⟨⟨rfl, rfl⟩, rfl⟩ := heq
    refine .inl ⟨?_, rfl, rfl⟩
    cases hposted with
    | refused _ hsome => rw [hnone] at hsome; cases hsome
    | failed => rfl
  | cons r before =>
    rw [List.cons_append, List.cons.injEq] at heq
    obtain ⟨rfl, heq⟩ := heq
    obtain rfl : result = .ok () := hok _ List.mem_cons_self
    refine .inr ⟨?_, before, heq, fun r hr => hok r (List.mem_cons_of_mem _ hr)⟩
    cases hposted with
    | sent => exact hnone
    | woken => exact hnone

/-- After the first error of a call, every send and wake returns it and schedules nothing, and
the context remembers it. -/
lemma calls_after_error (h : Handler C) {ctx : Ctx} (hnone : ctx.error = none) {e : SimError}
    {s : Scheduler Pending} {after : List (Except SimError Unit × Scheduler Pending)}
    (hfirst : FirstError (h.calls ctx) e s after) :
    (∀ r ∈ after, r = (.error e, s)) ∧ (h.run ctx).2.2.error = some e ∧
      (h.run ctx).2.2.scheduler = s := by
  induction h generalizing ctx with
  | done result c =>
    obtain ⟨before, heq, -⟩ := hfirst
    simp [calls] at heq
  | send port msg when_ phase k ih =>
    rcases firstError_cons (ctx.send_posted port msg when_ phase) hnone _ hfirst with
      ⟨he, hs, rfl⟩ | ⟨hnone', hrest⟩
    · subst hs
      exact calls_of_error _ he
    · exact ih _ hnone' hrest
  | wakeSelf when_ phase token k ih =>
    rcases firstError_cons (ctx.wakeSelf_posted when_ phase token) hnone _ hfirst with
      ⟨he, hs, rfl⟩ | ⟨hnone', hrest⟩
    · subst hs
      exact calls_of_error _ he
    · exact ih _ hnone' hrest
  | rng draws k ih => exact ih _ hnone hfirst
  | trace kind fields k ih => exact ih hnone hfirst
  | component k ih => exact ih _ hnone hfirst
  | now k ih => exact ih _ hnone hfirst
  | phase k ih => exact ih _ hnone hfirst

end Handler

/-! ## The runtime faults with it -/

namespace Runtime

lemma verdict_of_firstError {rt : Runtime C} {me : ComponentId} {at_ : TraceAt} {c : C}
    {ctx : Ctx} (henter : rt.enter me at_ = some (c, ctx)) {h : Handler C} {e : SimError}
    {s : Scheduler Pending} {after : List (Except SimError Unit × Scheduler Pending)}
    (hfirst : Handler.FirstError (h.calls ctx) e s after) :
    verdict (h.run ctx) = .error e := by
  obtain ⟨slot, peers, rng, -, -, -, -, rfl⟩ := enter_eq_some.mp henter
  rw [verdict, (h.calls_after_error rfl hfirst).2.1]
  rfl

variable [Component C]

lemma dispatch_of_verdict {rt : Runtime C} {e : Event Pending}
    {heap : BinaryHeap (Event.key : Event Pending → EventKey)}
    (hpop : rt.scheduler.heap.pop = some (e, heap))
    (hlimit : rt.scheduler.countFor e.key ≤ rt.scheduler.config.maxEventsPerPhase) {c : C}
    {ctx : Ctx} (henter : (rt.take e heap).enter e.payload.target (.event e.key) = some (c, ctx))
    {error : SimError} (herror : verdict (handle e c ctx) = .error error) :
    rt.dispatch.1 = .error (.faulted error) ∧ rt.dispatch.2.lifecycle = .faulted ∧
      rt.dispatch.2.fault = some error := by
  have hspec := rt.dispatch_spec
  generalize rt.dispatch = out at hspec
  cases hspec with
  | drained hnil => rw [BinaryHeap.pop_eq_none.mpr hnil] at hpop; cases hpop
  | livelock e' heap' hpop' hlimit' =>
    rw [hpop] at hpop'
    cases hpop'
    exact absurd hlimit (not_le.mpr hlimit')
  | unknown e' heap' hpop' _ henter' =>
    rw [hpop] at hpop'
    cases hpop'
    rw [henter] at henter'
    cases henter'
  | failed e' heap' hpop' _ c' ctx' henter' error' herror' =>
    rw [hpop] at hpop'
    cases hpop'
    rw [henter] at henter'
    cases henter'
    rw [herror] at herror'
    cases herror'
    exact ⟨rfl, rfl, rfl⟩
  | handled e' heap' hpop' _ c' ctx' henter' hok =>
    rw [hpop] at hpop'
    cases hpop'
    rw [henter] at henter'
    cases henter'
    rw [herror] at hok
    cases hok

/-- An S5 violation faults the session. -/
lemma dispatch_of_pop_error {rt : Runtime C} {error : SimError}
    (hpop : rt.scheduler.pop.1 = .error error) :
    rt.dispatch.1 = .error (.faulted error) ∧ rt.dispatch.2.lifecycle = .faulted ∧
      rt.dispatch.2.fault = some error := by
  unfold dispatch
  split
  next e s heq =>
    rw [heq] at hpop
    cases hpop
    exact ⟨rfl, rfl, rfl⟩
  next s heq => rw [heq] at hpop; cases hpop
  next event s heq => rw [heq] at hpop; cases hpop

/-- The session once the first `k` components are initialized. -/
def initialized (rt : Runtime C) : ℕ → Option (Runtime C)
  | 0 => some rt
  | k + 1 =>
    match rt.initialized k with
    | none => none
    | some r =>
      match r.activate (UInt32.ofNat k) .init Component.init with
      | some (.ok (), r') => some r'
      | _ => none

lemma initFrom_of_initialized {rt r : Runtime C} {k : ℕ} (h : rt.initialized k = some r)
    (n : ℕ) : rt.initFrom 0 (k + n) = r.initFrom k n := by
  induction k generalizing r n with
  | zero =>
    cases h
    rw [Nat.zero_add]
  | succ k ih =>
    rw [initialized] at h
    split at h
    · cases h
    next r' hr' =>
      split at h
      next r'' hact =>
        cases h
        rw [Nat.add_assoc, Nat.add_comm 1, ih hr', initFrom, hact]
      next => cases h

/-- A component that fails in `init` faults the session with its verdict. -/
lemma init_of_verdict {rt r : Runtime C} (helaborated : rt.lifecycle = .elaborated) {k : ℕ}
    (hk : k < rt.slots.length) (h : rt.initialized k = some r) {c : C} {ctx : Ctx}
    (henter : r.enter (UInt32.ofNat k) .init = some (c, ctx)) {error : SimError}
    (herror : verdict ((Component.init c).run ctx) = .error error) :
    rt.init.1 = .error (.faulted error) ∧ rt.init.2.lifecycle = .faulted ∧
      rt.init.2.fault = some error := by
  obtain ⟨n, hn⟩ := Nat.exists_eq_add_of_lt hk
  have hact : r.activate (UInt32.ofNat k) .init Component.init =
      some (.error error, r.resume ((Component.init c).run ctx)) := by
    simp only [activate, henter, Option.bind_eq_bind, Option.bind_some, herror]
    rfl
  have hinit : rt.init = rt.initFrom 0 (k + (n + 1)) := by
    rw [init, require, helaborated, hn]
    rfl
  rw [hinit, initFrom_of_initialized h, initFrom, hact]
  exact ⟨rfl, rfl, rfl⟩

omit [Contracts] [Component C] in
lemma require_ne_restore (rt : Runtime C) (state : Lifecycle) (e : RestoreError) :
    rt.require state ≠ .error (.restore e) := by
  unfold require
  split
  · simp
  · split_ifs <;> simp

lemma restore_faults {rt : Runtime C} {bs : Bytes} {e : RestoreError}
    (h : (rt.restore bs).1 = .error (.restore e)) : (rt.restore bs).2.lifecycle = .faulted := by
  unfold restore at h ⊢
  split at h
  next e' hrequire =>
    obtain rfl := Except.error.inj h
    exact absurd hrequire (rt.require_ne_restore _ e)
  next hrequire =>
    split_ifs at h with htrace
    · cases h
    · rw [if_neg htrace]
      split at h
      · cases h
      next => rfl

/-! ## A faulted session -/

/-- What a faulted session keeps. -/
structure Unchanged (rt rt' : Runtime C) : Prop where
  lifecycle : rt'.lifecycle = rt.lifecycle
  fault : rt'.fault = rt.fault
  scheduler : rt'.scheduler = rt.scheduler
  components : rt'.components = rt.components
  rngs : rt'.rngs = rt.rngs
  executionDigest : rt'.executionDigest = rt.executionDigest
  history : rt'.history = rt.history

/-- The calls a faulted session refuses; the others only concern drivers and traces. -/
def Call.refusable : Call → Bool
  | .takeTrace => false
  | .observeAt _ => false
  | .addObserver _ => false
  | _ => true

/-- Whether a call failed. -/
def Reply.isError : Reply → Bool
  | .done (.error _) => true
  | .stepped (.error _) => true
  | .ran (.error _) => true
  | .ranUntil (.error _) => true
  | .snapshot (.error _) => true
  | .resumed (.error _) => true
  | _ => false

omit [Contracts] [Component C] in
lemma require_of_faulted {rt : Runtime C} (h : rt.lifecycle = .faulted) (state : Lifecycle)
    (hstate : state ≠ .faulted) : ∃ e, rt.require state = .error e := by
  rw [require, h]
  cases rt.fault with
  | some e => exact ⟨_, rfl⟩
  | none => exact ⟨_, if_pos hstate.symm⟩

omit [Contracts] [Component C] in
lemma Unchanged.refl (rt : Runtime C) : Unchanged rt rt := ⟨rfl, rfl, rfl, rfl, rfl, rfl, rfl⟩

omit [Contracts] [Component C] in
lemma Unchanged.trans {rt rt' rt'' : Runtime C} (h : Unchanged rt rt')
    (h' : Unchanged rt' rt'') : Unchanged rt rt'' where
  lifecycle := h'.lifecycle.trans h.lifecycle
  fault := h'.fault.trans h.fault
  scheduler := h'.scheduler.trans h.scheduler
  components := h'.components.trans h.components
  rngs := h'.rngs.trans h.rngs
  executionDigest := h'.executionDigest.trans h.executionDigest
  history := h'.history.trans h.history

lemma call_of_faulted {rt : Runtime C} (h : rt.lifecycle = .faulted) (c : Call) :
    (c.refusable → (rt.call c).1.isError) ∧ Unchanged rt (rt.call c).2 := by
  obtain ⟨e, helaborated⟩ := require_of_faulted h .elaborated (by decide)
  obtain ⟨e', hready⟩ := require_of_faulted h .ready (by decide)
  have hrun : ∀ until_, rt.run until_ = (.error e', rt) := fun until_ => by rw [run, hready]
  cases c with
  | init =>
    have hcall : rt.init = (.error e, rt) := by rw [init, helaborated]
    simp only [call, hcall]
    exact ⟨fun _ => rfl, .refl rt⟩
  | step =>
    have hcall : rt.step = (.error e', rt) := by rw [step, hready]
    simp only [call, hcall]
    exact ⟨fun _ => rfl, .refl rt⟩
  | run until_ =>
    simp only [call, hrun]
    exact ⟨fun _ => rfl, .refl rt⟩
  | runUntil until_ =>
    have hcall : rt.runUntil until_ = (.error e', rt) := by
      rw [runUntil, runUntilLoop]
      split
      next hrun' => rw [hrun] at hrun'; cases hrun'; rfl
      next hrun' => rw [hrun] at hrun'; cases hrun'
      next hrun' => rw [hrun] at hrun'; cases hrun'
    simp only [call, hcall]
    exact ⟨fun _ => rfl, .refl rt⟩
  | snapshot =>
    have hcall : rt.snapshot = .error e' := by rw [snapshot, hready]
    simp only [call, hcall]
    exact ⟨fun _ => rfl, .refl rt⟩
  | restore bytes =>
    have hcall : rt.restore bytes = (.error e, rt) := by rw [restore, helaborated]
    simp only [call, hcall]
    exact ⟨fun _ => rfl, .refl rt⟩
  | startTrace =>
    have hcall : rt.startTrace = (.error e, rt) := by rw [startTrace, helaborated]
    simp only [call, hcall]
    exact ⟨fun _ => rfl, .refl rt⟩
  | resumeTrace before =>
    have hcall : rt.resumeTrace before = (.error .notFreshlyRestored, rt) := by
      rw [resumeTrace, if_pos (.inl (by rw [h]; decide))]
    simp only [call, hcall]
    exact ⟨fun _ => rfl, .refl rt⟩
  | takeTrace => exact ⟨fun hc => absurd hc Bool.false_ne_true, ⟨rfl, rfl, rfl, rfl, rfl, rfl, rfl⟩⟩
  | observeAt tick =>
    refine ⟨fun hc => absurd hc Bool.false_ne_true, ⟨rfl, rfl, rfl, rfl, rfl, rfl, ?_⟩⟩
    simp [call, observeAt, history]
  | addObserver observer =>
    exact ⟨fun hc => absurd hc Bool.false_ne_true, ⟨rfl, rfl, rfl, rfl, rfl, rfl, rfl⟩⟩

/-- Every run of a faulted session. -/
lemma exec_of_faulted {rt : Runtime C} (h : rt.lifecycle = .faulted) (calls : List Call) :
    (∀ p ∈ calls.zip (Machine.exec call rt calls).1, p.1.refusable → p.2.isError) ∧
      Unchanged rt (Machine.exec call rt calls).2 := by
  induction calls generalizing rt with
  | nil => exact ⟨by simp, .refl rt⟩
  | cons c calls ih =>
    obtain ⟨hreply, hkept⟩ := call_of_faulted h c
    obtain ⟨hreplies, hrest⟩ := ih (hkept.lifecycle.trans h)
    refine ⟨?_, hkept.trans hrest⟩
    rintro p (_ | ⟨_, hp⟩)
    · exact hreply
    · exact hreplies p hp

/-! ## The theorem -/

/-- **Errors are sticky and faults are terminal.**  In a component's call, whatever it does, the
first error a send or a wake returns is returned by every later one, which schedules nothing;
the session faults with that error, whether it arose in `init` or in an event's handler and
whatever the component returned.  An S5 violation and a failed restore fault the session too.
And on a faulted session, along every sequence of calls, each call that concerns the simulation
is refused and nothing of the simulation changes. -/
theorem errors_sticky_and_faults_terminal :
    (∀ (h : Handler C) (ctx : Ctx), ctx.error = none → ∀ e s after,
      Handler.FirstError (h.calls ctx) e s after → ∀ r ∈ after, r = (.error e, s)) ∧
    (∀ (rt : Runtime C) e heap c ctx error s after, rt.scheduler.heap.pop = some (e, heap) →
      rt.scheduler.countFor e.key ≤ rt.scheduler.config.maxEventsPerPhase →
      (rt.take e heap).enter e.payload.target (.event e.key) = some (c, ctx) →
      Handler.FirstError ((Component.handleEvent c e.payload.delivery).calls ctx) error s after →
      rt.dispatch.1 = .error (.faulted error) ∧ rt.dispatch.2.lifecycle = .faulted ∧
        rt.dispatch.2.fault = some error) ∧
    (∀ (rt r : Runtime C) k c ctx error s after, rt.lifecycle = .elaborated →
      k < rt.slots.length → rt.initialized k = some r →
      r.enter (UInt32.ofNat k) .init = some (c, ctx) →
      Handler.FirstError ((Component.init c).calls ctx) error s after →
      rt.init.1 = .error (.faulted error) ∧ rt.init.2.lifecycle = .faulted ∧
        rt.init.2.fault = some error) ∧
    (∀ (rt : Runtime C) error, rt.scheduler.pop.1 = .error error →
      rt.dispatch.1 = .error (.faulted error) ∧ rt.dispatch.2.lifecycle = .faulted ∧
        rt.dispatch.2.fault = some error) ∧
    (∀ (rt : Runtime C) bs e, (rt.restore bs).1 = .error (.restore e) →
      (rt.restore bs).2.lifecycle = .faulted) ∧
    ∀ (rt : Runtime C) calls, rt.lifecycle = .faulted →
      (∀ p ∈ calls.zip (Machine.exec call rt calls).1, p.1.refusable → p.2.isError) ∧
        Unchanged rt (Machine.exec call rt calls).2 := by
  refine ⟨?_, ?_, ?_, ?_, ?_, ?_⟩
  · intro h ctx hnone e s after hfirst
    exact (h.calls_after_error hnone hfirst).1
  · intro rt e heap c ctx error s after hpop hlimit henter hfirst
    exact dispatch_of_verdict hpop hlimit henter (verdict_of_firstError henter hfirst)
  · intro rt r k c ctx error s after helaborated hk hr henter hfirst
    exact init_of_verdict helaborated hk hr henter (verdict_of_firstError henter hfirst)
  · exact fun rt error hpop => dispatch_of_pop_error hpop
  · exact fun rt bs e h => restore_faults h
  · exact fun rt calls h => exec_of_faulted h calls

end Runtime

end SystemScope
