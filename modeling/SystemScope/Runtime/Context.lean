import SystemScope.Runtime.Rng
import SystemScope.Runtime.Scheduler

/-!
# The context of a running component

The context of `runtime/src/runtime.rs` through which a component sends, wakes itself, draws
random numbers and traces, and `Handler.run`, which runs a component's behaviour in it.

A send or a wake changes a context in few ways, listed once in `Ctx.Posted`: it is refused
because of an earlier error, it fails and its error is kept, or exactly one event is enqueued.
`Handler.run_induction` turns what holds of these steps into what holds of a whole call.
-/

namespace SystemScope

/-- What the runtime delivers when an event runs. -/
structure Pending where
  source : ComponentId
  target : ComponentId
  delivery : Delivered
  deriving DecidableEq, Repr

/-- A scheduled event in its canonical form.  The source's `Dispatched` and `EventView` have the
same fields. -/
def Event.canonical (e : Event Pending) : CanonicalEvent where
  key := e.key
  source := e.payload.source
  target := e.payload.target
  delivery := e.payload.delivery

/-- The far end of a link, seen from one port. -/
structure Peer where
  component : ComponentId
  port : PortId
  latency : Option LinkLatency
  deriving DecidableEq, Repr

/-- A successful send: who sent what through which port, and the key it was scheduled under. -/
structure Sent where
  sender : ComponentId
  port : PortId
  msg : Message
  when_ : ScheduleWhen
  phase : Phase
  key : EventKey
  deriving DecidableEq, Repr

/-- The context handed to a running component. -/
structure Ctx where
  me : ComponentId
  clock : SimulationClock
  domains : List ClockDomain
  ports : List PortSpec
  peers : List Peer
  scheduler : Scheduler Pending
  rng : Xoshiro256StarStar
  /-- Where records go, or `none` when nothing captures them. -/
  trace : Option (List TraceRecord)
  at_ : TraceAt
  /-- The first error returned to the component. -/
  error : Option SimError
  /-- Ghost: the successful sends. -/
  sent : List Sent

section

variable [Contracts]

/-- Resolves a scheduling request to an absolute tick. -/
def resolve (when_ : ScheduleWhen) (now : Tick) (clock : SimulationClock)
    (domains : List ClockDomain) : Except SimError Tick :=
  match when_ with
  | .now => .ok now
  | .after d => Contracts.after clock now d
  | .cycles domain k =>
    match domains[domain.toNat]? with
    | none => .error (.unknownClockDomain domain)
    | some d => Contracts.cyclesAfter d now k

/-- Adds a link's latency to a send tick. -/
def addLatency (latency : Option LinkLatency) (tick : Tick) (clock : SimulationClock)
    (domains : List ClockDomain) : Except SimError Tick :=
  match latency with
  | none => .ok tick
  | some (.after d) => resolve (.after d) tick clock domains
  | some (.cycles domain k) => resolve (.cycles domain k) tick clock domains

namespace Ctx

/-- Remembers the first error. -/
def record (ctx : Ctx) (result : Except SimError Unit) : Ctx :=
  match result with
  | .error e => { ctx with error := ctx.error <|> some e }
  | .ok () => ctx

/-- The tick a send is delivered at and the far end it is delivered to. -/
def route (ctx : Ctx) (port : PortId) (msg : Message) (when_ : ScheduleWhen) :
    Except SimError (Tick × Peer) :=
  match ctx.ports[port.toNat]? with
  | none => .error (.unknownPort port)
  | some spec =>
    if msg.protocol ≠ spec.protocol then
      .error (.protocolMismatch port spec.protocol msg.protocol)
    else match ctx.peers[port.toNat]? with
      -- The source indexes here: an elaborated component has one peer per port.
      | none => .error (.unknownPort port)
      | some peer => do
        let sent ← resolve when_ ctx.scheduler.now ctx.clock ctx.domains
        let tick ← addLatency peer.latency sent ctx.clock ctx.domains
        return (tick, peer)

/-- Schedules an event, noting the sends it stands for. -/
def schedule (ctx : Ctx) (tick : Tick) (phase : Phase) (pending : Pending)
    (sent : EventKey → List Sent) : Except SimError Unit × Ctx :=
  match ctx.scheduler.schedule tick phase pending with
  | (.error e, s) => (.error e, { ctx with scheduler := s })
  | (.ok key, s) => (.ok (), { ctx with scheduler := s, sent := ctx.sent ++ sent key })

def trySend (ctx : Ctx) (port : PortId) (msg : Message) (when_ : ScheduleWhen)
    (phase : Phase) : Except SimError Unit × Ctx :=
  match ctx.route port msg when_ with
  | .error e => (.error e, ctx)
  | .ok (tick, peer) =>
    ctx.schedule tick phase
      { source := ctx.me, target := peer.component, delivery := .message peer.port msg }
      fun key => [{ sender := ctx.me, port, msg, when_, phase, key }]

def tryWake (ctx : Ctx) (when_ : ScheduleWhen) (phase : Phase) (token : UInt64) :
    Except SimError Unit × Ctx :=
  match resolve when_ ctx.scheduler.now ctx.clock ctx.domains with
  | .error e => (.error e, ctx)
  | .ok tick =>
    ctx.schedule tick phase { source := ctx.me, target := ctx.me, delivery := .wake token }
      fun _ => []

/-- A call is refused with the first error, if there was one; else its result is recorded. -/
def sticky (ctx : Ctx) (call : Ctx → Except SimError Unit × Ctx) : Except SimError Unit × Ctx :=
  match ctx.error with
  | some e => (.error e, ctx)
  | none =>
    let (result, ctx) := call ctx
    (result, ctx.record result)

def send (ctx : Ctx) (port : PortId) (msg : Message) (when_ : ScheduleWhen) (phase : Phase) :
    Except SimError Unit × Ctx :=
  ctx.sticky fun ctx => ctx.trySend port msg when_ phase

def wakeSelf (ctx : Ctx) (when_ : ScheduleWhen) (phase : Phase) (token : UInt64) :
    Except SimError Unit × Ctx :=
  ctx.sticky fun ctx => ctx.tryWake when_ phase token

/-- `ctx.trace()`: kept only if something captures records. -/
def emit (ctx : Ctx) (kind : String) (fields : List (String × Value)) : Ctx :=
  { ctx with
    trace := ctx.trace.map fun records =>
      records ++ [{ at_ := ctx.at_, origin := .component, component := ctx.me, kind, fields }] }

end Ctx

/-- Runs a component's behaviour in a context. -/
def Handler.run {C : Type} : Handler C → Ctx → Except SimError Unit × C × Ctx
  | .done result c, ctx => (result, c, ctx)
  | .send port msg when_ p k, ctx =>
    let (result, ctx) := ctx.send port msg when_ p
    (k result).run ctx
  | .wakeSelf when_ p token k, ctx =>
    let (result, ctx) := ctx.wakeSelf when_ p token
    (k result).run ctx
  | .rng draws k, ctx =>
    let (values, next) := ctx.rng.draw (draws ctx.rng.stream)
    (k values).run { ctx with rng := next }
  | .trace kind fields k, ctx => k.run (ctx.emit kind fields)
  | .component k, ctx => (k ctx.me).run ctx
  | .now k, ctx => (k ctx.scheduler.now).run ctx
  | .phase k, ctx => (k ctx.scheduler.phase).run ctx

/-! ## What a call to the context does -/

namespace Ctx

/-- The event a send schedules. -/
def message (ctx : Ctx) (tick : Tick) (phase : Phase) (peer : Peer) (msg : Message) :
    Event Pending where
  key := ⟨tick, phase, ctx.scheduler.nextSequence⟩
  payload := { source := ctx.me, target := peer.component, delivery := .message peer.port msg }

/-- The event a wake schedules. -/
def wake (ctx : Ctx) (tick : Tick) (phase : Phase) (token : UInt64) : Event Pending where
  key := ⟨tick, phase, ctx.scheduler.nextSequence⟩
  payload := { source := ctx.me, target := ctx.me, delivery := .wake token }

/-- Puts one event on the queue. -/
def post (ctx : Ctx) (e : Event Pending) : Ctx :=
  { ctx with scheduler := ctx.scheduler.enqueue (ctx.scheduler.nextSequence + 1) e }

/-- Notes a successful send. -/
def note (ctx : Ctx) (s : Sent) : Ctx := { ctx with sent := ctx.sent ++ [s] }

/-- Everything a send or a wake can do. -/
inductive Posted (ctx : Ctx) : Except SimError Unit → Ctx → Prop
  | refused (e : SimError) (h : ctx.error = some e) : Posted ctx (.error e) ctx
  | failed (e : SimError) (h : ctx.error = none) :
      Posted ctx (.error e) { ctx with error := some e }
  | sent (port : PortId) (msg : Message) (when_ : ScheduleWhen) (phase : Phase) (tick : Tick)
      (peer : Peer) (h : ctx.error = none) (hroute : ctx.route port msg when_ = .ok (tick, peer))
      (ha : ctx.scheduler.Admits tick phase) :
      Posted ctx (.ok ()) ((ctx.post (ctx.message tick phase peer msg)).note
        ⟨ctx.me, port, msg, when_, phase, ⟨tick, phase, ctx.scheduler.nextSequence⟩⟩)
  | woken (when_ : ScheduleWhen) (phase : Phase) (token : UInt64) (tick : Tick)
      (h : ctx.error = none)
      (htick : resolve when_ ctx.scheduler.now ctx.clock ctx.domains = .ok tick)
      (ha : ctx.scheduler.Admits tick phase) :
      Posted ctx (.ok ()) (ctx.post (ctx.wake tick phase token))

omit [Contracts] in
lemma sticky_of_error {ctx : Ctx} {e : SimError} (h : ctx.error = some e)
    (call : Ctx → Except SimError Unit × Ctx) : ctx.sticky call = (.error e, ctx) := by
  rw [sticky, h]

omit [Contracts] in
lemma sticky_of_none {ctx : Ctx} (h : ctx.error = none)
    (call : Ctx → Except SimError Unit × Ctx) :
    ctx.sticky call = ((call ctx).1, (call ctx).2.record (call ctx).1) := by
  rw [sticky, h]

omit [Contracts] in
lemma record_error {ctx : Ctx} (h : ctx.error = none) (e : SimError) :
    ctx.record (.error e) = { ctx with error := some e } := by
  rw [record, h]
  rfl

omit [Contracts] in
lemma schedule_of_admits {ctx : Ctx} {tick : Tick} {phase : Phase}
    (ha : ctx.scheduler.Admits tick phase) (pending : Pending) (sent : EventKey → List Sent) :
    ctx.schedule tick phase pending sent =
      (.ok (), { ctx.post ⟨⟨tick, phase, ctx.scheduler.nextSequence⟩, pending⟩ with
        sent := ctx.sent ++ sent ⟨tick, phase, ctx.scheduler.nextSequence⟩ }) := by
  rw [schedule, Scheduler.schedule_of_admits ha]
  rfl

omit [Contracts] in
lemma schedule_of_not_admits {ctx : Ctx} {tick : Tick} {phase : Phase}
    (ha : ¬ctx.scheduler.Admits tick phase) (pending : Pending) (sent : EventKey → List Sent) :
    ∃ e, ctx.schedule tick phase pending sent = (.error e, ctx) := by
  obtain ⟨e, he⟩ := Scheduler.schedule_of_not_admits ha pending
  exact ⟨e, by rw [schedule, he]⟩

/-- What a route has checked, and how its tick comes about. -/
lemma route_eq_ok {ctx : Ctx} {port : PortId} {msg : Message} {when_ : ScheduleWhen}
    {tick : Tick} {peer : Peer} (h : ctx.route port msg when_ = .ok (tick, peer)) :
    ∃ spec sent, ctx.ports[port.toNat]? = some spec ∧ msg.protocol = spec.protocol ∧
      ctx.peers[port.toNat]? = some peer ∧
      resolve when_ ctx.scheduler.now ctx.clock ctx.domains = .ok sent ∧
      addLatency peer.latency sent ctx.clock ctx.domains = .ok tick := by
  unfold route at h
  split at h
  next => cases h
  next spec hspec =>
    split_ifs at h with hprotocol
    split at h
    next => cases h
    next far hpeer =>
      cases hsent : resolve when_ ctx.scheduler.now ctx.clock ctx.domains with
      | error e =>
        rw [hsent] at h
        cases h
      | ok sent =>
        rw [hsent] at h
        change (addLatency far.latency sent ctx.clock ctx.domains >>= fun tick =>
          Pure.pure (tick, far)) = _ at h
        cases htick : addLatency far.latency sent ctx.clock ctx.domains with
        | error e =>
          rw [htick] at h
          cases h
        | ok t =>
          rw [htick] at h
          cases h
          exact ⟨spec, sent, hspec, not_not.mp hprotocol, hpeer, rfl, htick⟩

/-- The context after a send: its event is on the queue, and it is noted with its own port and
message. -/
def Sends (ctx : Ctx) (port : PortId) (msg : Message) (when_ : ScheduleWhen) (phase : Phase)
    (ctx' : Ctx) : Prop :=
  ∃ tick peer, ctx.route port msg when_ = .ok (tick, peer) ∧ ctx.scheduler.Admits tick phase ∧
    ctx' = (ctx.post (ctx.message tick phase peer msg)).note
      ⟨ctx.me, port, msg, when_, phase, ⟨tick, phase, ctx.scheduler.nextSequence⟩⟩

/-- The context after a wake: its event is on the queue. -/
def Wakes (ctx : Ctx) (when_ : ScheduleWhen) (phase : Phase) (token : UInt64) (ctx' : Ctx) : Prop :=
  ∃ tick, resolve when_ ctx.scheduler.now ctx.clock ctx.domains = .ok tick ∧
    ctx.scheduler.Admits tick phase ∧ ctx' = ctx.post (ctx.wake tick phase token)

lemma trySend_cases (ctx : Ctx) (port : PortId) (msg : Message) (when_ : ScheduleWhen)
    (phase : Phase) : (∃ e, ctx.trySend port msg when_ phase = (.error e, ctx)) ∨
      ∃ ctx', ctx.trySend port msg when_ phase = (.ok (), ctx') ∧
        ctx.Sends port msg when_ phase ctx' := by
  unfold trySend
  cases hroute : ctx.route port msg when_ with
  | error e => exact .inl ⟨e, rfl⟩
  | ok r =>
    by_cases ha : ctx.scheduler.Admits r.1 phase
    · exact .inr ⟨_, schedule_of_admits ha _ _, r.1, r.2, hroute, ha, rfl⟩
    · exact .inl (schedule_of_not_admits ha _ _)

lemma tryWake_cases (ctx : Ctx) (when_ : ScheduleWhen) (phase : Phase) (token : UInt64) :
    (∃ e, ctx.tryWake when_ phase token = (.error e, ctx)) ∨
      ∃ ctx', ctx.tryWake when_ phase token = (.ok (), ctx') ∧
        ctx.Wakes when_ phase token ctx' := by
  unfold tryWake
  cases htick : resolve when_ ctx.scheduler.now ctx.clock ctx.domains with
  | error e => exact .inl ⟨e, rfl⟩
  | ok tick =>
    by_cases ha : ctx.scheduler.Admits tick phase
    · refine .inr ⟨_, schedule_of_admits ha _ _, tick, htick, ha, ?_⟩
      rw [List.append_nil]
      rfl
    · exact .inl (schedule_of_not_admits ha _ _)

omit [Contracts] in
/-- A call is refused with the first error, fails with an error of its own, or goes well. -/
lemma sticky_cases {ctx : Ctx} (call : Ctx → Except SimError Unit × Ctx) {P : Ctx → Prop}
    (hcall : (∃ e, call ctx = (.error e, ctx)) ∨ ∃ ctx', call ctx = (.ok (), ctx') ∧ P ctx') :
    (∃ e, ctx.error = some e ∧ ctx.sticky call = (.error e, ctx)) ∨
      ctx.error = none ∧ ((∃ e, ctx.sticky call = (.error e, { ctx with error := some e })) ∨
        ∃ ctx', ctx.sticky call = (.ok (), ctx') ∧ P ctx') := by
  cases herr : ctx.error with
  | some e => exact .inl ⟨e, rfl, sticky_of_error herr call⟩
  | none =>
    rw [sticky_of_none herr]
    rcases hcall with ⟨e, he⟩ | ⟨ctx', hok, hp⟩
    · refine .inr ⟨rfl, .inl ⟨e, ?_⟩⟩
      rw [he, record_error herr]
    · refine .inr ⟨rfl, .inr ⟨ctx', ?_, hp⟩⟩
      rw [hok]
      rfl

lemma send_posted (ctx : Ctx) (port : PortId) (msg : Message) (when_ : ScheduleWhen)
    (phase : Phase) :
    ctx.Posted (ctx.send port msg when_ phase).1 (ctx.send port msg when_ phase).2 := by
  unfold send
  rcases sticky_cases (·.trySend port msg when_ phase) (ctx.trySend_cases ..) with
    ⟨e, h, heq⟩ | ⟨h, ⟨e, heq⟩ | ⟨_, heq, tick, peer, hroute, ha, rfl⟩⟩
  · exact heq ▸ .refused e h
  · exact heq ▸ .failed e h
  · exact heq ▸ .sent port msg when_ phase tick peer h hroute ha

lemma wakeSelf_posted (ctx : Ctx) (when_ : ScheduleWhen) (phase : Phase) (token : UInt64) :
    ctx.Posted (ctx.wakeSelf when_ phase token).1 (ctx.wakeSelf when_ phase token).2 := by
  unfold wakeSelf
  rcases sticky_cases (·.tryWake when_ phase token) (ctx.tryWake_cases ..) with
    ⟨e, h, heq⟩ | ⟨h, ⟨e, heq⟩ | ⟨_, heq, tick, htick, ha, rfl⟩⟩
  · exact heq ▸ .refused e h
  · exact heq ▸ .failed e h
  · exact heq ▸ .woken when_ phase token tick h htick ha

omit [Contracts] in
/-- A call that leaves no error behind went well. -/
lemma sticky_ok {ctx : Ctx} (call : Ctx → Except SimError Unit × Ctx) {P : Ctx → Prop}
    (hcall : (∃ e, call ctx = (.error e, ctx)) ∨ ∃ ctx', call ctx = (.ok (), ctx') ∧ P ctx')
    (hok : (ctx.sticky call).2.error = none) : P (ctx.sticky call).2 := by
  rcases sticky_cases call hcall with ⟨e, h, heq⟩ | ⟨-, ⟨e, heq⟩ | ⟨_, heq, hp⟩⟩
  · rw [heq, h] at hok
    cases hok
  · rw [heq] at hok
    cases hok
  · exact heq ▸ hp

/-- A send that leaves no error behind is noted as it was made. -/
lemma send_of_ok {ctx : Ctx} {port : PortId} {msg : Message} {when_ : ScheduleWhen} {phase : Phase}
    (hok : (ctx.send port msg when_ phase).2.error = none) :
    ctx.Sends port msg when_ phase (ctx.send port msg when_ phase).2 :=
  sticky_ok (·.trySend port msg when_ phase) (ctx.trySend_cases ..) hok

lemma wakeSelf_of_ok {ctx : Ctx} {when_ : ScheduleWhen} {phase : Phase} {token : UInt64}
    (hok : (ctx.wakeSelf when_ phase token).2.error = none) :
    ctx.Wakes when_ phase token (ctx.wakeSelf when_ phase token).2 :=
  sticky_ok (·.tryWake when_ phase token) (ctx.tryWake_cases ..) hok

end Ctx

/-- What every context call preserves, a whole call of a component preserves. -/
lemma Handler.run_induction {C : Type} {P : Ctx → Prop}
    (hpost : ∀ ctx result ctx', P ctx → ctx.Posted result ctx' → P ctx')
    (hrng : ∀ ctx rng, P ctx → P { ctx with rng })
    (hemit : ∀ ctx kind fields, P ctx → P (ctx.emit kind fields))
    (h : Handler C) {ctx : Ctx} (hctx : P ctx) : P (h.run ctx).2.2 := by
  induction h generalizing ctx with
  | done result c => exact hctx
  | send port msg when_ phase k ih =>
    exact ih _ (hpost _ _ _ hctx (ctx.send_posted port msg when_ phase))
  | wakeSelf when_ phase token k ih =>
    exact ih _ (hpost _ _ _ hctx (ctx.wakeSelf_posted when_ phase token))
  | rng draws k ih => exact ih _ (hrng _ _ hctx)
  | trace kind fields k ih => exact ih (hemit _ _ _ hctx)
  | component k ih => exact ih _ hctx
  | now k ih => exact ih _ hctx
  | phase k ih => exact ih _ hctx

end

end SystemScope
