import SystemScope.Framework.SortedSet
import SystemScope.Runtime.Context
import SystemScope.Runtime.Trace

/-!
# Sessions

The session of `runtime/src/runtime.rs`: its state, the dispatch of one event, initialization,
single steps and observe points.

Operations take a runtime and return their result next to the runtime they leave behind.  Three
things differ from the source.

* `journal` is a ghost field: it records sends, dispatches and observe points in the order they
  happen, and no operation reads it.
* Where the source indexes a vector by a component id, it panics out of range.  Such a call
  returns `panicked` here, a constructor the source does not have.  Its other panics, such as an
  overflow in `Scheduler::pop`, are not calls' results here.
* A borrowed context becomes a value: `enter` takes it out of the runtime, `leave` puts it
back. -/

namespace SystemScope

/-! ## Data -/

/-- Settings fixed for the lifetime of a session. -/
structure SessionConfig where
  seed : UInt64
  scheduler : SchedulerConfig
  deriving DecidableEq, Repr

/-- Where a session is in its lifecycle. -/
inductive Lifecycle
  | elaborated
  | ready
  | faulted
  deriving DecidableEq, Repr

/-- Why a runtime call was refused. -/
inductive RuntimeError
  | faulted (e : SimError)
  | invalidState (current : Lifecycle)
  | restore (e : RestoreError)
  | traceNeedsPrefix
  | panicked
  deriving DecidableEq, Repr

/-- Why `run` returned. -/
inductive Stop
  | paused
  | drained
  | horizon
  deriving DecidableEq, Repr

/-- What a `run` call did. -/
structure RunOutcome where
  events : ℕ
  stop : Stop
  deriving DecidableEq, Repr

/-- Elaborated facts about a component. -/
structure SlotInfo where
  path : String
  typeName : String
  ports : List PortSpec
  deriving DecidableEq, Repr

/-- What the ghost journal records. -/
inductive Entry
  | sent (s : Sent)
  | dispatched (ev : CanonicalEvent)
  | registered (point now : Tick)
  | fired (point : Tick)
  deriving DecidableEq, Repr

/-- A simulation session. -/
structure Runtime (C : Type) where
  clock : SimulationClock
  domains : List ClockDomain
  components : List C
  rngs : List Xoshiro256StarStar
  slots : List SlotInfo
  /-- `peers[component][port]` is the other end of that port's link. -/
  peers : List (List Peer)
  links : List LinkDecl
  topologyHash : Digest
  config : SessionConfig
  scheduler : Scheduler Pending
  executionDigest : Digest
  lifecycle : Lifecycle
  fault : Option SimError
  freshlyRestored : Bool
  trace : Option (List TraceRecord)
  emitted : List TraceRecord
  observers : List Observer
  observePoints : SortedSet Tick
  journal : List Entry

/-! ## Parts of an operation -/

/-- Components as the trace header and the topology hash record them. -/
def componentDecls (slots : List SlotInfo) : List ComponentDecl :=
  slots.map fun s => { path := s.path, typeName := s.typeName, ports := s.ports }

namespace Runtime

variable {C : Type}

/-- Whether trace records are produced: for a recorder, observers, or both. -/
def capturing (rt : Runtime C) : Bool := rt.trace.isSome || !rt.observers.isEmpty

/-- Hands the running component's records to the observers, then to the recorder. -/
def flushRecords (rt : Runtime C) : Runtime C :=
  { rt with
    observers := rt.emitted.foldl
      (fun observers r => observers.map fun o => o.call (.trace r)) rt.observers
    trace := rt.trace.map (· ++ rt.emitted)
    emitted := [] }

/-- Refuses a call in the wrong lifecycle state. -/
def require (rt : Runtime C) (state : Lifecycle) : Except RuntimeError Unit :=
  match rt.lifecycle, rt.fault with
  | .faulted, some e => .error (.faulted e)
  | current, _ => if current ≠ state then .error (.invalidState current) else .ok ()

/-- Faults the session after a failed restore. -/
def failRestore (rt : Runtime C) (e : RestoreError) : RuntimeError × Runtime C :=
  (.restore e, { rt with lifecycle := .faulted })

def enterFault (rt : Runtime C) (e : SimError) : RuntimeError × Runtime C :=
  (.faulted e, { rt with lifecycle := .faulted, fault := some e })

/-- The running component and its context. -/
def enter (rt : Runtime C) (me : ComponentId) (at_ : TraceAt) : Option (C × Ctx) := do
  let component ← rt.components[me.toNat]?
  let slot ← rt.slots[me.toNat]?
  let peers ← rt.peers[me.toNat]?
  let rng ← rt.rngs[me.toNat]?
  return (component,
    { me
      clock := rt.clock
      domains := rt.domains
      ports := slot.ports
      peers
      scheduler := rt.scheduler
      rng
      trace := if rt.capturing then some rt.emitted else none
      at_
      error := none
      sent := [] })

lemma enter_eq_some {rt : Runtime C} {me : ComponentId} {at_ : TraceAt} {c : C} {ctx : Ctx} :
    rt.enter me at_ = some (c, ctx) ↔
      ∃ slot peers rng, rt.components[me.toNat]? = some c ∧ rt.slots[me.toNat]? = some slot ∧
        rt.peers[me.toNat]? = some peers ∧ rt.rngs[me.toNat]? = some rng ∧
        ctx = { me, clock := rt.clock, domains := rt.domains, ports := slot.ports, peers
                scheduler := rt.scheduler, rng
                trace := if rt.capturing then some rt.emitted else none
                at_, error := none, sent := [] } := by
  simp only [enter, Option.bind_eq_bind, Option.bind_eq_some_iff, Option.pure_def,
    Option.some.injEq, Prod.mk.injEq]
  constructor
  · rintro ⟨_, hc, slot, hslot, peers, hpeers, rng, hrng, rfl, rfl⟩
    exact ⟨slot, peers, rng, hc, hslot, hpeers, hrng, rfl⟩
  · rintro ⟨slot, peers, rng, hc, hslot, hpeers, hrng, rfl⟩
    exact ⟨c, hc, slot, hslot, peers, hpeers, rng, hrng, rfl, rfl⟩

/-- Puts the component and what it changed through its context back. -/
def leave (rt : Runtime C) (component : C) (ctx : Ctx) : Runtime C :=
  { rt with
    components := rt.components.set ctx.me.toNat component
    rngs := rt.rngs.set ctx.me.toNat ctx.rng
    scheduler := ctx.scheduler
    emitted := ctx.trace.getD rt.emitted
    journal := rt.journal ++ ctx.sent.map .sent }

/-- What observers may see. -/
def worldView [Component C] (rt : Runtime C) (now : Tick) : WorldView where
  now := now
  components := rt.components.map fun c => (Component.typeName c, Component.inspect c)

section

variable [Contracts]

/-- The result of a component's call: a sticky error replaces its own. -/
def verdict (out : Except SimError Unit × C × Ctx) : Except SimError Unit :=
  out.2.2.error.elim out.1 .error

/-- The runtime after a component ran: what it changed is put back and its records flushed. -/
def resume (rt : Runtime C) (out : Except SimError Unit × C × Ctx) : Runtime C :=
  (rt.leave out.2.1 out.2.2).flushRecords

/-- Runs one component. -/
def activate (rt : Runtime C) (me : ComponentId) (at_ : TraceAt) (behaviour : C → Handler C) :
    Option (Except SimError Unit × Runtime C) := do
  let (component, ctx) ← rt.enter me at_
  let out := (behaviour component).run ctx
  return (verdict out, rt.resume out)

end

/-! ## Observe points -/

/-- The last tick that is finished, seen from an event boundary. -/
def lastFinished (rt : Runtime C) (horizon : Option Tick) : Option Tick :=
  match rt.scheduler.peekKey with
  | some next => next.tick.checkedPred
  | none => some (horizon.elim rt.scheduler.now fun h => max h rt.scheduler.now)

/-- Shows the observers a due point and removes it. -/
def firePoint [Component C] (rt : Runtime C) (point : Tick) : Control × Runtime C :=
  let (control, observers) :=
    Observer.callAll rt.observers (.observe point (rt.worldView point))
  (control, { rt with
    observePoints := rt.observePoints.popFirst
    observers
    journal := rt.journal ++ [.fired point] })

/-- The point that is due first, if any is. -/
def duePoint (rt : Runtime C) (horizon : Option Tick) : Option Tick :=
  rt.observePoints.first.filter fun point => (rt.lastFinished horizon).any fun last => point ≤ last

lemma first_of_duePoint {rt : Runtime C} {horizon : Option Tick} {point : Tick}
    (h : rt.duePoint horizon = some point) : rt.observePoints.first = some point :=
  (Option.filter_eq_some_iff.mp h).1

/-- The loop of `fireObservePoints`, with the control so far. -/
def fireLoop [Component C] (horizon : Option Tick) (stopOnPause : Bool) (control : Control)
    (rt : Runtime C) : Control × Runtime C :=
  match _ : rt.duePoint horizon with
  | none => (control, rt)
  | some point =>
    let control := if (rt.firePoint point).1 = .pause then .pause else control
    if stopOnPause ∧ control = .pause then (control, (rt.firePoint point).2)
    else fireLoop horizon stopOnPause control (rt.firePoint point).2
termination_by rt.observePoints.size
decreasing_by
  have hsize := SortedSet.size_popFirst (first_of_duePoint ‹_›)
  change rt.observePoints.popFirst.size < rt.observePoints.size
  omega

/-- Fires due observe points in tick order (§8.2). -/
def fireObservePoints [Component C] (rt : Runtime C) (horizon : Option Tick)
    (stopOnPause : Bool) : Control × Runtime C :=
  fireLoop horizon stopOnPause .continue_ rt

/-! ## Dispatch -/

section

variable [Contracts] [Component C]

/-- The runtime once an event has been taken off the queue and absorbed into the digest. -/
def absorb (rt : Runtime C) (ev : CanonicalEvent) : Runtime C :=
  { rt with
    executionDigest := chain rt.executionDigest ev
    freshlyRestored := false
    emitted := if rt.capturing then
      rt.emitted ++ [dispatchRecord (.event ev.key) ev.source ev.target ev.delivery]
      else rt.emitted
    journal := rt.journal ++ [.dispatched ev] }

/-- Shows the observers an event that was handled. -/
def showEvent (rt : Runtime C) (ev : CanonicalEvent) : Control × Runtime C :=
  let (control, observers) :=
    Observer.callAll rt.observers (.afterDispatch ev (rt.worldView ev.key.tick))
  (control, { rt with observers })

/-- Pops and dispatches the next event, then shows it to the observers. -/
def dispatch (rt : Runtime C) :
    Except RuntimeError (Option (CanonicalEvent × Control)) × Runtime C :=
  match rt.scheduler.pop with
  | (.error e, s) =>
    let (error, rt) := { rt with scheduler := s }.enterFault e
    (.error error, rt)
  | (.ok none, s) => (.ok none, { rt with scheduler := s })
  | (.ok (some event), s) =>
    let ev := event.canonical
    let rt := { rt with scheduler := s }.absorb ev
    match rt.activate ev.target (.event ev.key) fun c => Component.handleEvent c ev.delivery with
    | none => (.error .panicked, rt)
    | some (.error e, rt) =>
      let (error, rt) := rt.enterFault e
      (.error error, rt)
    | some (.ok (), rt) =>
      let (control, rt) := rt.showEvent ev
      (.ok (some (ev, control)), rt)

/-- The runtime with its next event taken off the queue. -/
def take (rt : Runtime C) (e : Event Pending)
    (heap : BinaryHeap (Event.key : Event Pending → EventKey)) : Runtime C :=
  { rt with scheduler := rt.scheduler.advance e heap }.absorb e.canonical

/-- The handler of an event, run in a context. -/
def handle (e : Event Pending) (c : C) (ctx : Ctx) : Except SimError Unit × C × Ctx :=
  (Component.handleEvent c e.canonical.delivery).run ctx

/-- Everything a dispatch can do. -/
inductive Dispatch (rt : Runtime C) :
    Except RuntimeError (Option (CanonicalEvent × Control)) × Runtime C → Prop
  | drained (h : rt.scheduler.heap.toList = []) : Dispatch rt (.ok none, rt)
  | livelock (e : Event Pending) (heap : BinaryHeap (Event.key : Event Pending → EventKey))
      (hpop : rt.scheduler.heap.pop = some (e, heap))
      (hlimit : rt.scheduler.config.maxEventsPerPhase < rt.scheduler.countFor e.key)
      (error : SimError) : Dispatch rt (.error (.faulted error), (rt.enterFault error).2)
  | unknown (e : Event Pending) (heap : BinaryHeap (Event.key : Event Pending → EventKey))
      (hpop : rt.scheduler.heap.pop = some (e, heap))
      (hlimit : rt.scheduler.countFor e.key ≤ rt.scheduler.config.maxEventsPerPhase)
      (henter : (rt.take e heap).enter e.payload.target (.event e.key) = none) :
      Dispatch rt (.error .panicked, rt.take e heap)
  | failed (e : Event Pending) (heap : BinaryHeap (Event.key : Event Pending → EventKey))
      (hpop : rt.scheduler.heap.pop = some (e, heap))
      (hlimit : rt.scheduler.countFor e.key ≤ rt.scheduler.config.maxEventsPerPhase)
      (c : C) (ctx : Ctx)
      (henter : (rt.take e heap).enter e.payload.target (.event e.key) = some (c, ctx))
      (error : SimError) (herror : verdict (handle e c ctx) = .error error) :
      Dispatch rt (.error (.faulted error),
        (((rt.take e heap).resume (handle e c ctx)).enterFault error).2)
  | handled (e : Event Pending) (heap : BinaryHeap (Event.key : Event Pending → EventKey))
      (hpop : rt.scheduler.heap.pop = some (e, heap))
      (hlimit : rt.scheduler.countFor e.key ≤ rt.scheduler.config.maxEventsPerPhase)
      (c : C) (ctx : Ctx)
      (henter : (rt.take e heap).enter e.payload.target (.event e.key) = some (c, ctx))
      (hok : verdict (handle e c ctx) = .ok ()) :
      Dispatch rt
        (.ok (some (e.canonical,
          (((rt.take e heap).resume (handle e c ctx)).showEvent e.canonical).1)),
        (((rt.take e heap).resume (handle e c ctx)).showEvent e.canonical).2)

lemma dispatch_spec (rt : Runtime C) : Dispatch rt rt.dispatch := by
  unfold dispatch
  cases hpop : rt.scheduler.heap.pop with
  | none =>
    have hnil := BinaryHeap.pop_eq_none.mp hpop
    rw [Scheduler.pop_of_empty hnil]
    exact .drained hnil
  | some r =>
    obtain ⟨e, heap⟩ := r
    rw [Scheduler.pop_of_pop hpop]
    by_cases hlimit : rt.scheduler.config.maxEventsPerPhase < rt.scheduler.countFor e.key
    · rw [if_pos hlimit]
      exact .livelock e heap hpop hlimit _
    · rw [if_neg hlimit]
      dsimp only
      rw [show ({ rt with scheduler := rt.scheduler.advance e heap } : Runtime C).absorb
        e.canonical = rt.take e heap from rfl]
      cases henter : (rt.take e heap).enter e.payload.target (.event e.key) with
      | none =>
        have hact : (rt.take e heap).activate e.canonical.target (.event e.canonical.key)
            (fun c => Component.handleEvent c e.canonical.delivery) = none := by
          simp only [activate, Event.canonical, henter, Option.bind_eq_bind, Option.bind_none]
        rw [hact]
        exact .unknown e heap hpop (not_lt.mp hlimit) henter
      | some r =>
        obtain ⟨c, ctx⟩ := r
        have hact : (rt.take e heap).activate e.canonical.target (.event e.canonical.key)
            (fun c => Component.handleEvent c e.canonical.delivery) =
            some (verdict (handle e c ctx), (rt.take e heap).resume (handle e c ctx)) := by
          simp only [activate, Event.canonical, henter, Option.bind_eq_bind, Option.bind_some]
          rfl
        rw [hact]
        cases hverdict : verdict (handle e c ctx) with
        | error error => exact .failed e heap hpop (not_lt.mp hlimit) c ctx henter error hverdict
        | ok u => exact .handled e heap hpop (not_lt.mp hlimit) c ctx henter hverdict

/-- Initializes the components from the `index`-th on, in order, `n` of them. -/
def initFrom (rt : Runtime C) (index : ℕ) : ℕ → Except RuntimeError Unit × Runtime C
  | 0 => (.ok (), { rt with lifecycle := .ready })
  | n + 1 =>
    match rt.activate (UInt32.ofNat index) .init Component.init with
    | none => (.error .panicked, rt)
    | some (.error e, rt) =>
      let (error, rt) := rt.enterFault e
      (.error error, rt)
    | some (.ok (), rt) => rt.initFrom (index + 1) n

/-- Initializes every component in `ComponentId` order. -/
def init (rt : Runtime C) : Except RuntimeError Unit × Runtime C :=
  match rt.require .elaborated with
  | .error e => (.error e, rt)
  | .ok () => rt.initFrom 0 rt.slots.length

/-- Dispatches exactly one event, with the observe points that become due. -/
def step (rt : Runtime C) : Except RuntimeError (Option CanonicalEvent) × Runtime C :=
  match rt.require .ready with
  | .error e => (.error e, rt)
  | .ok () =>
    let (_, rt) := rt.fireObservePoints none false
    match rt.dispatch with
    | (.error e, rt) => (.error e, rt)
    | (.ok none, rt) => (.ok none, rt)
    | (.ok (some (ev, _)), rt) =>
      let (_, rt) := rt.fireObservePoints none false
      (.ok (some ev), rt)

end

/-! ## Driving a session from outside -/

/-- Adds an observer (§8.2). -/
def addObserver (rt : Runtime C) (observer : Observer) : Runtime C :=
  { rt with observers := rt.observers ++ [observer] }

/-- Requests an observe point. -/
def observeAt (rt : Runtime C) (tick : Tick) : Runtime C :=
  { rt with
    observePoints := rt.observePoints.insert tick
    journal := rt.journal ++ [.registered tick rt.scheduler.now] }

/-- Starts recording a trace, before `init` only. -/
def startTrace (rt : Runtime C) : Except RuntimeError Unit × Runtime C :=
  match rt.require .elaborated with
  | .error e => (.error e, rt)
  | .ok () => (.ok (), { rt with trace := some [] })

section

variable [Contracts]

/-- The trace header describing this session. -/
def traceHeader (rt : Runtime C) : TraceHeader where
  ticksPerSecond := rt.clock.ticksPerSecond
  seed := rt.config.seed
  contractsVersion := Contracts.contractsVersion
  topologyHash := rt.topologyHash
  clockDomains := rt.domains
  components := componentDecls rt.slots
  links := rt.links

/-- Continues a trace across a restore (§8.1). -/
def resumeTrace (rt : Runtime C) (before : Trace) : Except ResumeError Unit × Runtime C :=
  if rt.lifecycle ≠ .ready ∨ !rt.freshlyRestored then (.error .notFreshlyRestored, rt)
  else if before.header ≠ rt.traceHeader then (.error .headerMismatch, rt)
  else match checkPrefix before.records rt.slots.length rt.scheduler.lastDispatched
      rt.executionDigest with
    | .error e => (.error e, rt)
    | .ok () => (.ok (), { rt with trace := some before.records, freshlyRestored := false })

/-- Stops tracing and returns what was recorded. -/
def takeTrace (rt : Runtime C) : Option Trace × Runtime C :=
  (rt.trace.map fun records => { header := rt.traceHeader, records }, { rt with trace := none })

end

end Runtime

end SystemScope
