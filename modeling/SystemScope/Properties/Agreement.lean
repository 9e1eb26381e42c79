import SystemScope.Properties.SchedulerSnapshot
import SystemScope.Runtime.Topology

/-!
# Sessions that agree

Two sessions *agree* if they hold the same simulation: the same topology, components, random
streams and digest, and schedulers that cannot be told apart.  Traces, observers, observe points
and everything else a driver sees may differ, unless the sessions are also *watched*, in which
case they record the same trace and their observers were shown the same.

Agreement is kept by everything the simulation does (`Agree.dispatch`).  Two instances matter.
With equal schedulers it says that observing changes nothing; with schedulers that differ in the
layout of their heaps, it is what a restored session shares with the one it was taken from.
-/

namespace SystemScope

/-! ## Schedulers -/

/-- A relation between schedulers that no call can tell apart. -/
structure Scheduler.Indistinguishable (S : Scheduler Pending → Scheduler Pending → Prop) :
    Prop where
  apply : ∀ {s r}, S s r → ∀ c, (s.apply c).1 = (r.apply c).1 ∧ S (s.apply c).2 (r.apply c).2
  lastDispatched : ∀ {s r}, S s r → r.lastDispatched = s.lastDispatched
  peekKey : ∀ {s r}, S s r → r.peekKey = s.peekKey
  snapshot : ∀ {s r}, S s r → r.snapshot = s.snapshot

namespace Scheduler.Indistinguishable

lemma eq : Indistinguishable Eq where
  apply h _ := h ▸ ⟨rfl, rfl⟩
  lastDispatched h := h ▸ rfl
  peekKey h := h ▸ rfl
  snapshot h := h ▸ rfl

lemma same : Indistinguishable Same where
  apply h c := h.apply c
  lastDispatched h := h.lastDispatched_eq
  peekKey h := h.peekKey_eq
  snapshot h := h.snapshot_eq

variable {S : Scheduler Pending → Scheduler Pending → Prop} (hS : Indistinguishable S)
  {s r : Scheduler Pending}

include hS

lemma now (h : S s r) : r.now = s.now := by
  rw [Scheduler.now, Scheduler.now, hS.lastDispatched h]

lemma phase (h : S s r) : r.phase = s.phase := by
  rw [Scheduler.phase, Scheduler.phase, hS.lastDispatched h]

lemma schedule (h : S s r) (tick : Tick) (phase : Phase) (payload : Pending) :
    (s.schedule tick phase payload).1 = (r.schedule tick phase payload).1 ∧
      S (s.schedule tick phase payload).2 (r.schedule tick phase payload).2 := by
  obtain ⟨hout, hnext⟩ := hS.apply h (.schedule tick phase payload)
  exact ⟨Outcome.scheduled.inj hout, hnext⟩

lemma pop (h : S s r) : s.pop.1 = r.pop.1 ∧ S s.pop.2 r.pop.2 := by
  obtain ⟨hout, hnext⟩ := hS.apply h .pop
  exact ⟨Outcome.popped.inj hout, hnext⟩

end Scheduler.Indistinguishable

/-! ## Contexts -/

/-- Contexts of the same component in sessions that agree; `W` says whether both are watched. -/
structure Ctx.Agree (S : Scheduler Pending → Scheduler Pending → Prop) (W : Prop)
    (ctx ctx' : Ctx) : Prop where
  me : ctx'.me = ctx.me
  clock : ctx'.clock = ctx.clock
  domains : ctx'.domains = ctx.domains
  ports : ctx'.ports = ctx.ports
  peers : ctx'.peers = ctx.peers
  scheduler : S ctx.scheduler ctx'.scheduler
  rng : ctx'.rng = ctx.rng
  trace : W → ctx'.trace = ctx.trace
  at_ : ctx'.at_ = ctx.at_
  error : ctx'.error = ctx.error

section

variable [Contracts] {C : Type} {S : Scheduler Pending → Scheduler Pending → Prop} {W : Prop}
  (hS : Scheduler.Indistinguishable S)

include hS

lemma Ctx.Agree.route {ctx ctx' : Ctx} (h : ctx.Agree S W ctx') (port : PortId) (msg : Message)
    (when_ : ScheduleWhen) : ctx'.route port msg when_ = ctx.route port msg when_ := by
  simp only [Ctx.route, h.ports, h.peers, h.clock, h.domains, hS.now h.scheduler]

omit [Contracts] in
lemma Ctx.Agree.schedule {ctx ctx' : Ctx} (h : ctx.Agree S W ctx') (tick : Tick) (phase : Phase)
    (pending : Pending) (sent : EventKey → List Sent) :
    (ctx.schedule tick phase pending sent).1 = (ctx'.schedule tick phase pending sent).1 ∧
      (ctx.schedule tick phase pending sent).2.Agree S W
        (ctx'.schedule tick phase pending sent).2 := by
  obtain ⟨hout, hnext⟩ := hS.schedule h.scheduler tick phase pending
  unfold Ctx.schedule
  generalize ctx.scheduler.schedule tick phase pending = out at hout hnext
  generalize ctx'.scheduler.schedule tick phase pending = out' at hout hnext
  obtain ⟨result, s⟩ := out
  obtain ⟨result', s'⟩ := out'
  obtain rfl : result = result' := hout
  cases result with
  | error e => exact ⟨rfl, { h with scheduler := hnext }⟩
  | ok key => exact ⟨rfl, { h with scheduler := hnext }⟩

omit [Contracts] hS in
lemma Ctx.Agree.record {ctx ctx' : Ctx} (h : ctx.Agree S W ctx')
    (result : Except SimError Unit) : (ctx.record result).Agree S W (ctx'.record result) := by
  cases result with
  | error e =>
    have herror : (ctx'.record (.error e)).error = (ctx.record (.error e)).error := by
      simp only [Ctx.record, h.error]
    exact { h with error := herror }
  | ok u => exact h

omit [Contracts] hS in
lemma Ctx.Agree.sticky {ctx ctx' : Ctx} (h : ctx.Agree S W ctx')
    {call : Ctx → Except SimError Unit × Ctx}
    (hcall : (call ctx).1 = (call ctx').1 ∧ (call ctx).2.Agree S W (call ctx').2) :
    (ctx.sticky call).1 = (ctx'.sticky call).1 ∧
      (ctx.sticky call).2.Agree S W (ctx'.sticky call).2 := by
  cases herr : ctx.error with
  | some e =>
    rw [Ctx.sticky_of_error herr, Ctx.sticky_of_error (h.error.trans herr)]
    exact ⟨rfl, h⟩
  | none =>
    rw [Ctx.sticky_of_none herr, Ctx.sticky_of_none (h.error.trans herr)]
    refine ⟨hcall.1, ?_⟩
    rw [← hcall.1]
    exact hcall.2.record _

lemma Ctx.Agree.send {ctx ctx' : Ctx} (h : ctx.Agree S W ctx') (port : PortId) (msg : Message)
    (when_ : ScheduleWhen) (phase : Phase) :
    (ctx.send port msg when_ phase).1 = (ctx'.send port msg when_ phase).1 ∧
      (ctx.send port msg when_ phase).2.Agree S W (ctx'.send port msg when_ phase).2 := by
  refine h.sticky ?_
  unfold Ctx.trySend
  rw [h.route hS]
  cases ctx.route port msg when_ with
  | error e => exact ⟨rfl, h⟩
  | ok r =>
    simp only [h.me]
    exact h.schedule hS ..

lemma Ctx.Agree.wakeSelf {ctx ctx' : Ctx} (h : ctx.Agree S W ctx') (when_ : ScheduleWhen)
    (phase : Phase) (token : UInt64) :
    (ctx.wakeSelf when_ phase token).1 = (ctx'.wakeSelf when_ phase token).1 ∧
      (ctx.wakeSelf when_ phase token).2.Agree S W (ctx'.wakeSelf when_ phase token).2 := by
  refine h.sticky ?_
  unfold Ctx.tryWake
  rw [h.clock, h.domains, hS.now h.scheduler]
  cases resolve when_ ctx.scheduler.now ctx.clock ctx.domains with
  | error e => exact ⟨rfl, h⟩
  | ok tick =>
    simp only [h.me]
    exact h.schedule hS ..

/-- A component behaves alike in contexts that agree. -/
lemma Handler.run_agree (handler : Handler C) {ctx ctx' : Ctx} (h : ctx.Agree S W ctx') :
    (handler.run ctx).1 = (handler.run ctx').1 ∧ (handler.run ctx).2.1 = (handler.run ctx').2.1 ∧
      (handler.run ctx).2.2.Agree S W (handler.run ctx').2.2 := by
  induction handler generalizing ctx ctx' with
  | done result c => exact ⟨rfl, rfl, h⟩
  | send port msg when_ phase k ih =>
    obtain ⟨hout, hnext⟩ := h.send hS port msg when_ phase
    simp only [Handler.run]
    rw [← hout]
    exact ih _ hnext
  | wakeSelf when_ phase token k ih =>
    obtain ⟨hout, hnext⟩ := h.wakeSelf hS when_ phase token
    simp only [Handler.run]
    rw [← hout]
    exact ih _ hnext
  | rng draws k ih =>
    simp only [Handler.run]
    rw [h.rng]
    exact ih _ { h with rng := rfl }
  | trace kind fields k ih =>
    have htrace : W → (ctx'.emit kind fields).trace = (ctx.emit kind fields).trace := by
      intro hw
      simp only [Ctx.emit, h.trace hw, h.at_, h.me]
    exact ih { h with trace := htrace }
  | component k ih =>
    simp only [Handler.run]
    rw [h.me]
    exact ih _ h
  | now k ih =>
    simp only [Handler.run]
    rw [hS.now h.scheduler]
    exact ih _ h
  | phase k ih =>
    simp only [Handler.run]
    rw [hS.phase h.scheduler]
    exact ih _ h

end

/-! ## Sessions -/

namespace Runtime

lemma map_seen_call (observers : List Observer) (callback : Callback) :
    (observers.map fun o => o.call callback).map Observer.seen =
      (observers.map Observer.seen).map (· ++ [callback]) := by
  simp [Observer.call]

lemma map_seen_callAll (observers : List Observer) (callback : Callback) :
    (Observer.callAll observers callback).2.map Observer.seen =
      (observers.map Observer.seen).map (· ++ [callback]) :=
  map_seen_call observers callback

variable {C : Type}

/-- Sessions that hold the same simulation and dispatched the same events after `p` and `p'`.
`W` says whether their traces agree too, and `O` whether their observers were shown the same. -/
structure Agree (S : Scheduler Pending → Scheduler Pending → Prop) (W O : Prop)
    (p p' : List CanonicalEvent) (rt rt' : Runtime C) : Prop where
  clock : rt'.clock = rt.clock
  domains : rt'.domains = rt.domains
  components : rt'.components = rt.components
  rngs : rt'.rngs = rt.rngs
  slots : rt'.slots = rt.slots
  peers : rt'.peers = rt.peers
  links : rt'.links = rt.links
  topologyHash : rt'.topologyHash = rt.topologyHash
  config : rt'.config = rt.config
  scheduler : S rt.scheduler rt'.scheduler
  executionDigest : rt'.executionDigest = rt.executionDigest
  lifecycle : rt'.lifecycle = rt.lifecycle
  fault : rt'.fault = rt.fault
  history : ∃ h, rt.history = p ++ h ∧ rt'.history = p' ++ h
  trace : W → rt'.trace = rt.trace
  emitted : W → rt'.emitted = rt.emitted
  capturing : W → rt'.capturing = rt.capturing
  seen : W → O → rt'.observers.map Observer.seen = rt.observers.map Observer.seen

lemma map_seen_flush (records : List TraceRecord) (observers : List Observer) :
    (records.foldl (fun observers r => observers.map fun o => o.call (.trace r))
        observers).map Observer.seen =
      (observers.map Observer.seen).map (· ++ records.map .trace) := by
  induction records generalizing observers with
  | nil => simp
  | cons r records ih =>
    rw [List.foldl_cons, ih, map_seen_call, List.map_map]
    simp [Function.comp_def]

@[simp] lemma flushRecords_capturing (rt : Runtime C) :
    rt.flushRecords.capturing = rt.capturing := by
  have hlength : ∀ (records : List TraceRecord) (observers : List Observer),
      (records.foldl (fun observers r => observers.map fun o => o.call (.trace r))
        observers).isEmpty = observers.isEmpty := by
    intro records
    induction records with
    | nil => exact fun _ => rfl
    | cons r records ih =>
      intro observers
      rw [List.foldl_cons, ih, List.isEmpty_map]
  simp [capturing, flushRecords, hlength]

lemma firePoint_history [Component C] (rt : Runtime C) (point : Tick) :
    (rt.firePoint point).2.history = rt.history := by
  simp [history, firePoint]

lemma firePoint_capturing [Component C] (rt : Runtime C) (point : Tick) :
    (rt.firePoint point).2.capturing = rt.capturing := by
  simp [capturing, firePoint, Observer.callAll]

/-- Firing a point notes it, and shows it once to every observer. -/
lemma firePoint_shown [Component C] (rt : Runtime C) (point : Tick) :
    (rt.firePoint point).2.journal = rt.journal ++ [.fired point] ∧
      (rt.firePoint point).2.observers.map Observer.seen =
        (rt.observers.map Observer.seen).map (· ++ [.observe point (rt.worldView point)]) :=
  ⟨rfl, map_seen_callAll _ _⟩

section

variable [Contracts] {S : Scheduler Pending → Scheduler Pending → Prop} {W O : Prop}
  {p p' : List CanonicalEvent} {rt rt' : Runtime C}

namespace Agree

omit [Contracts] in
lemma flushRecords (h : Agree S W O p p' rt rt') :
    Agree S W O p p' rt.flushRecords rt'.flushRecords := by
  have hseen : W → O → rt'.flushRecords.observers.map Observer.seen =
      rt.flushRecords.observers.map Observer.seen := by
    intro hw ho
    simp only [Runtime.flushRecords, map_seen_flush, h.emitted hw, h.seen hw ho]
  exact
    { h with
      trace := fun hw => by simp only [Runtime.flushRecords, h.trace hw, h.emitted hw]
      emitted := fun _ => rfl
      capturing := fun hw => by simp only [flushRecords_capturing, h.capturing hw]
      seen := hseen }

omit [Contracts] in
lemma require (h : Agree S W O p p' rt rt') (state : Lifecycle) :
    rt'.require state = rt.require state := by
  rw [Runtime.require, Runtime.require, h.lifecycle, h.fault]

omit [Contracts] in
lemma enterFault (h : Agree S W O p p' rt rt') (e : SimError) :
    Agree S W O p p' (rt.enterFault e).2 (rt'.enterFault e).2 :=
  { h with lifecycle := rfl, fault := rfl }

omit [Contracts] in
lemma enter (h : Agree S W O p p' rt rt') (me : ComponentId) (at_ : TraceAt) :
    (rt.enter me at_ = none ∧ rt'.enter me at_ = none) ∨
      ∃ c ctx ctx', rt.enter me at_ = some (c, ctx) ∧ rt'.enter me at_ = some (c, ctx') ∧
        ctx.me = me ∧ ctx.Agree S W ctx' := by
  unfold Runtime.enter
  rw [h.components, h.slots, h.peers, h.rngs]
  cases rt.components[me.toNat]? with
  | none => exact .inl ⟨rfl, rfl⟩
  | some c =>
    cases rt.slots[me.toNat]? with
    | none => exact .inl ⟨rfl, rfl⟩
    | some slot =>
      cases rt.peers[me.toNat]? with
      | none => exact .inl ⟨rfl, rfl⟩
      | some peers =>
        cases rt.rngs[me.toNat]? with
        | none => exact .inl ⟨rfl, rfl⟩
        | some rng =>
          refine .inr ⟨c, _, _, rfl, rfl, rfl, ?_⟩
          exact ⟨rfl, h.clock, h.domains, rfl, rfl, h.scheduler, rfl,
            fun hw => by rw [h.capturing hw, h.emitted hw], rfl, rfl⟩

omit [Contracts] in
lemma leave (h : Agree S W O p p' rt rt') (c : C) {ctx ctx' : Ctx} (hctx : ctx.Agree S W ctx') :
    Agree S W O p p' (rt.leave c ctx) (rt'.leave c ctx') := by
  have hhistory : ∀ (rt : Runtime C) (ctx : Ctx), (rt.leave c ctx).history = rt.history := by
    intro rt ctx
    simp [Runtime.history, Runtime.leave, List.filterMap_map]
  obtain ⟨hist, hl, hr⟩ := h.history
  exact
    { h with
      components := by simp only [Runtime.leave, h.components, hctx.me]
      rngs := by simp only [Runtime.leave, h.rngs, hctx.me, hctx.rng]
      scheduler := hctx.scheduler
      history := ⟨hist, (hhistory _ _).trans hl, (hhistory _ _).trans hr⟩
      emitted := fun hw => by simp only [Runtime.leave, h.emitted hw, hctx.trace hw] }

/-- A component runs alike in sessions that agree. -/
lemma activate (hS : Scheduler.Indistinguishable S) (h : Agree S W O p p' rt rt')
    (me : ComponentId) (at_ : TraceAt) (behaviour : C → Handler C) :
    (rt.activate me at_ behaviour = none ∧ rt'.activate me at_ behaviour = none) ∨
      ∃ result r r', rt.activate me at_ behaviour = some (result, r) ∧
        rt'.activate me at_ behaviour = some (result, r') ∧ Agree S W O p p' r r' := by
  unfold Runtime.activate
  rcases h.enter me at_ with ⟨hl, hr⟩ | ⟨c, ctx, ctx', hl, hr, -, hctx⟩
  · rw [hl, hr]
    exact .inl ⟨rfl, rfl⟩
  · obtain ⟨hresult, hc, hnext⟩ := (behaviour c).run_agree hS hctx
    have hverdict : verdict ((behaviour c).run ctx') = verdict ((behaviour c).run ctx) := by
      rw [verdict, verdict, hresult, hnext.error]
    rw [hl, hr]
    refine .inr ⟨_, _, _, rfl, congrArg some (Prod.ext hverdict rfl), ?_⟩
    simp only [resume, ← hc]
    exact (h.leave _ hnext).flushRecords

lemma absorb (h : Agree S W O p p' rt rt') (ev : CanonicalEvent) :
    Agree S W O p p' (rt.absorb ev) (rt'.absorb ev) := by
  have hhistory : ∀ rt : Runtime C, (rt.absorb ev).history = rt.history ++ [ev] := by
    intro rt
    simp [Runtime.history, Runtime.absorb]
  obtain ⟨hist, hl, hr⟩ := h.history
  exact
    { h with
      executionDigest := by simp only [Runtime.absorb, h.executionDigest]
      history := ⟨hist ++ [ev], by rw [hhistory, hl, List.append_assoc],
        by rw [hhistory, hr, List.append_assoc]⟩
      emitted := fun hw => by simp only [Runtime.absorb, h.capturing hw, h.emitted hw] }

omit [Contracts] in
lemma worldView [Component C] (h : Agree S W O p p' rt rt') (now : Tick) :
    rt'.worldView now = rt.worldView now := by
  rw [Runtime.worldView, Runtime.worldView, h.components]

omit [Contracts] in
/-- Showing both sides the same keeps agreement. -/
lemma shown (h : Agree S W O p p' rt rt') (callback : Callback) :
    Agree S W O p p' { rt with observers := (Observer.callAll rt.observers callback).2 }
      { rt' with observers := (Observer.callAll rt'.observers callback).2 } :=
  { h with
    capturing := fun hw => by
      have hcapturing := h.capturing hw
      simp only [Runtime.capturing, Observer.callAll, List.isEmpty_map] at hcapturing ⊢
      exact hcapturing
    seen := fun hw ho => by simp only [map_seen_callAll, h.seen hw ho] }

variable [Component C]

lemma dispatch (hS : Scheduler.Indistinguishable S) (h : Agree S W O p p' rt rt') :
    rt'.dispatch.1.map (Option.map Prod.fst) = rt.dispatch.1.map (Option.map Prod.fst) ∧
      Agree S W O p p' rt.dispatch.2 rt'.dispatch.2 := by
  obtain ⟨hout, hnext⟩ := hS.pop h.scheduler
  unfold Runtime.dispatch
  generalize rt.scheduler.pop = out at hout hnext
  generalize rt'.scheduler.pop = out' at hout hnext
  obtain ⟨result, s⟩ := out
  obtain ⟨result', s'⟩ := out'
  obtain rfl : result = result' := hout
  have hpopped : Agree S W O p p' { rt with scheduler := s } { rt' with scheduler := s' } :=
    { h with scheduler := hnext }
  rcases result with e | _ | e
  · exact ⟨rfl, hpopped.enterFault e⟩
  · exact ⟨rfl, hpopped⟩
  · dsimp only
    rcases (hpopped.absorb e.canonical).activate hS e.canonical.target (.event e.canonical.key)
      (fun c => Component.handleEvent c e.canonical.delivery) with
      ⟨hl, hr⟩ | ⟨result, r, r', hl, hr, hagree⟩
    · rw [hl, hr]
      exact ⟨rfl, hpopped.absorb _⟩
    · rw [hl, hr]
      cases result with
      | error error => exact ⟨rfl, hagree.enterFault error⟩
      | ok u =>
        have hview := hagree.worldView e.canonical.key.tick
        have hshown := hagree.shown (.afterDispatch e.canonical (r.worldView e.canonical.key.tick))
        simp only [showEvent, hview]
        exact ⟨rfl, hshown⟩

lemma dispatch_of_some (hS : Scheduler.Indistinguishable S) (h : Agree S W O p p' rt rt')
    {r : Runtime C} {ev : CanonicalEvent} {control : Control}
    (hdispatch : rt.dispatch = (.ok (some (ev, control)), r)) :
    ∃ control' r', rt'.dispatch = (.ok (some (ev, control')), r') ∧ Agree S W O p p' r r' := by
  obtain ⟨hresult, hnext⟩ := h.dispatch hS
  rw [hdispatch] at hresult hnext
  generalize rt'.dispatch = out at hresult hnext
  obtain ⟨result, r'⟩ := out
  rcases result with e | _ | ⟨ev', control'⟩
  · cases hresult
  · cases hresult
  · cases hresult
    exact ⟨control', r', rfl, hnext⟩

/-- A fault on one side is a fault on the other. -/
lemma dispatch_of_error (hS : Scheduler.Indistinguishable S) (h : Agree S W O p p' rt rt')
    {r : Runtime C} {e : RuntimeError} (hdispatch : rt.dispatch = (.error e, r)) :
    ∃ r', rt'.dispatch = (.error e, r') ∧ Agree S W O p p' r r' := by
  obtain ⟨hresult, hnext⟩ := h.dispatch hS
  rw [hdispatch] at hresult hnext
  generalize rt'.dispatch = out at hresult hnext
  obtain ⟨result, r'⟩ := out
  rcases result with e' | _ | ⟨ev', control'⟩
  · cases hresult
    exact ⟨r', rfl, hnext⟩
  · cases hresult
  · cases hresult

omit [Contracts] [Component C] in
lemma duePoint (hS : Scheduler.Indistinguishable S) (h : Agree S W O p p' rt rt')
    (hpoints : rt'.observePoints = rt.observePoints) (horizon : Option Tick) :
    rt'.duePoint horizon = rt.duePoint horizon := by
  simp only [Runtime.duePoint, lastFinished, hpoints, hS.peekKey h.scheduler, hS.now h.scheduler]

omit [Contracts] in
/-- Firing a point is not part of the simulation. -/
lemma firePoint_left (h : Agree S W False p p' rt rt') (point : Tick) :
    Agree S W False p p' (rt.firePoint point).2 rt' := by
  obtain ⟨hist, hl, hr⟩ := h.history
  exact
    { h with
      history := ⟨hist, (firePoint_history rt point).trans hl, hr⟩
      capturing := fun hw => (h.capturing hw).trans (firePoint_capturing rt point).symm
      seen := fun _ ho => ho.elim }

omit [Contracts] in
lemma firePoint_right (h : Agree S W False p p' rt rt') (point : Tick) :
    Agree S W False p p' rt (rt'.firePoint point).2 := by
  obtain ⟨hist, hl, hr⟩ := h.history
  exact
    { h with
      history := ⟨hist, hl, (firePoint_history rt' point).trans hr⟩
      capturing := fun hw => (firePoint_capturing rt' point).trans (h.capturing hw)
      seen := fun _ ho => ho.elim }

omit [Contracts] in
lemma firePoint (h : Agree S W O p p' rt rt') (point : Tick) :
    Agree S W O p p' (rt.firePoint point).2 (rt'.firePoint point).2 := by
  have hshown := h.shown (.observe point (rt.worldView point))
  obtain ⟨hist, hl, hr⟩ := h.history
  have hhistory := firePoint_history rt point
  have hhistory' := firePoint_history rt' point
  simp only [Runtime.firePoint, h.worldView] at hhistory hhistory' ⊢
  exact { hshown with history := ⟨hist, hhistory.trans hl, hhistory'.trans hr⟩ }

/-- Sessions that agree take the same snapshots. -/
lemma snapshot (hS : Scheduler.Indistinguishable S) (h : Agree S W O p p' rt rt') :
    rt'.snapshot = rt.snapshot := by
  simp only [Runtime.snapshot, h.require, snapshotBytes, h.config, h.clock, h.domains,
    h.topologyHash, h.executionDigest, h.rngs, h.components, hS.snapshot h.scheduler]

end Agree

end

end Runtime

end SystemScope
