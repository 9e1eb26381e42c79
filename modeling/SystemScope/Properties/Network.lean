import SystemScope.Components.Exchange
import SystemScope.Contracts.Draws
import SystemScope.Framework.Soup
import SystemScope.Properties.PendingWakes
import SystemScope.Properties.Routing

/-!
# Sessions as networks

Below the order in which the runtime dispatches events there is a network: components that send
each other messages over links, and wakes to themselves, and take in what is under way in any order
at all.  `Reacts` says what a component does with a delivery if nothing else goes wrong, and `Boots`
how the components start.

Every session is a run of this network, with one step for each event dispatched, as long as it does
not fault; and a component that faults a session by itself is one that breaks the network
(`sessions_refine_networks`).  So what holds in every run of the network, whatever the order of
deliveries, holds in every session.
-/

namespace SystemScope

/-- A message or a wake under way. -/
structure Flight where
  target : ComponentId
  phase : Phase
  delivery : Delivered
  deriving DecidableEq, Repr

/-- The far ends of the ports of a topology. -/
abbrev Wiring := PortRef → Option PortRef

/-- What a call of a component sends off. -/
def Call.flight (wiring : Wiring) (me : ComponentId) : Call → Option Flight
  | .sent port msg _ phase =>
    (wiring (me, port)).map fun far => ⟨far.1, phase, .message far.2 msg⟩
  | .woke _ phase token => some ⟨me, phase, .wake token⟩
  | .traced .. => none

/-- What the calls of a component send off. -/
def flights (wiring : Wiring) (me : ComponentId) (calls : List Call) : Multiset Flight :=
  (calls : Multiset Call).filterMap (Call.flight wiring me)

section

variable {wiring : Wiring} {me : ComponentId} {calls : List Call}

@[simp] lemma flights_nil : flights wiring me [] = 0 := rfl

@[simp] lemma flights_traced {kind : String} {fields : List (String × Value)} :
    flights wiring me (.traced kind fields :: calls) = flights wiring me calls := by
  rw [flights, ← Multiset.cons_coe]
  exact Multiset.filterMap_cons_none _ _ rfl

@[simp] lemma flights_woke {when_ : ScheduleWhen} {phase : Phase} {token : UInt64} :
    flights wiring me (.woke when_ phase token :: calls) =
      ⟨me, phase, .wake token⟩ ::ₘ flights wiring me calls := by
  rw [flights, ← Multiset.cons_coe]
  exact Multiset.filterMap_cons_some _ _ _ rfl

lemma flights_sent {port : PortId} {far : PortRef} (h : wiring (me, port) = some far)
    {msg : Message}
    {when_ : ScheduleWhen} {phase : Phase} :
    flights wiring me (.sent port msg when_ phase :: calls) =
      ⟨far.1, phase, .message far.2 msg⟩ ::ₘ flights wiring me calls := by
  rw [flights, ← Multiset.cons_coe]
  refine Multiset.filterMap_cons_some _ _ _ ?_
  rw [Call.flight, h, Option.map_some]

end

/-- Components, and what is under way between them. -/
abbrev Network (C : Type) := Soup (List C) Flight

namespace Network

open Handler (Place)

variable {C : Type} [Component C]

/-- A component takes in what is delivered to it, and all goes well. -/
inductive Reacts (wiring : Wiring) : Soup.Reaction (List C) Flight
  | mk {components : List C} {f : Flight} {c c' : C} {now : Tick} {calls : List Call}
      (hc : components[f.target.toNat]? = some c)
      (h : (Component.handleEvent c f.delivery).Completes ⟨f.target, now, f.phase⟩ calls
        (.ok ()) c') :
      Reacts wiring components f (components.set f.target.toNat c') (flights wiring f.target calls)

/-- A component fails on something under way, though its context does not. -/
def Breaks (net : Network C) (e : SimError) : Prop :=
  ∃ f ∈ net.packets, ∃ c, net.state[f.target.toNat]? = some c ∧ ∃ now calls c',
    (Component.handleEvent c f.delivery).Completes ⟨f.target, now, f.phase⟩ calls (.error e) c'

/-- The first `k` components have been initialized, and all went well. -/
inductive Boots (wiring : Wiring) (components : List C) : ℕ → Network C → Prop
  | start : Boots wiring components 0 ⟨components, 0⟩
  | next {k : ℕ} {net : Network C} {c c' : C} {now : Tick} {phase : Phase} {calls : List Call}
      (h : Boots wiring components k net) (hc : net.state[k]? = some c)
      (hinit : (Component.init c).Completes ⟨UInt32.ofNat k, now, phase⟩ calls (.ok ()) c') :
      Boots wiring components (k + 1)
        ⟨net.state.set k c', net.packets + flights wiring (UInt32.ofNat k) calls⟩

/-- A component fails when it is initialized, though its context does not. -/
def BootBreaks (wiring : Wiring) (components : List C) (e : SimError) : Prop :=
  ∃ k net, Boots wiring components k net ∧ ∃ c, net.state[k]? = some c ∧ ∃ now phase calls c',
    (Component.init c).Completes ⟨UInt32.ofNat k, now, phase⟩ calls (.error e) c'

/-- A network that the components get to. -/
def Runs (wiring : Wiring) (components : List C) (n : ℕ) (net : Network C) : Prop :=
  ∃ net₀, Boots wiring components components.length net₀ ∧ Soup.Run (Reacts wiring) net₀ n net

end Network

/-! ## Calls of a session -/

/-- An event as what is under way. -/
def Event.flight (e : Event Pending) : Flight :=
  ⟨e.payload.target, e.key.phase, e.payload.delivery⟩

/-- What is under way in a session. -/
def Scheduler.flights (s : Scheduler Pending) : Multiset Flight := s.heap.toList.map Event.flight

lemma Scheduler.flights_enqueue (s : Scheduler Pending) (next : UInt64) (e : Event Pending) :
    (s.enqueue next e).flights = e.flight ::ₘ s.flights := by
  have hperm := s.enqueue_heap_toList next e
  exact Multiset.coe_eq_coe.mpr (hperm.map Event.flight)

namespace Ctx

/-- Where a component runs. -/
def place (ctx : Ctx) : Handler.Place := ⟨ctx.me, ctx.scheduler.now, ctx.scheduler.phase⟩

/-- The context is that of a component in the given wiring. -/
def Follows (wiring : Wiring) (ctx : Ctx) : Prop :=
  ∀ port : PortId,
    wiring (ctx.me, port) = (ctx.peers[port.toNat]?).map fun p => (p.component, p.port)

end Ctx

namespace Handler

variable {C : Type} [Contracts] {wiring : Wiring}

omit [Contracts] in
lemma map_stream_draw (rng : Xoshiro256StarStar) (n : ℕ) :
    (rng.draw n).1 = (List.range n).map rng.stream := by
  induction n generalizing rng with
  | zero => rfl
  | succ n ih =>
    rw [Xoshiro256StarStar.draw_succ, ih, List.range_succ_eq_map, List.map_cons, List.map_map]
    rfl

/-- A call that ends without an error completes, and what it asked for is under way. -/
lemma completes_of_run (h : Handler C) {ctx : Ctx} (hwiring : ctx.Follows wiring)
    (hok : (h.run ctx).2.2.error = none) :
    ∃ calls, h.Completes ctx.place calls (h.run ctx).1 (h.run ctx).2.1 ∧
      (h.run ctx).2.2.scheduler.flights = ctx.scheduler.flights + flights wiring ctx.me calls := by
  induction h generalizing ctx with
  | done result c => exact ⟨[], ⟨rfl, rfl, rfl⟩, by simp [run]⟩
  | send port msg when_ at_ k ih =>
    have hposted := ctx.send_posted port msg when_ at_
    have hsent : _ → ctx.Sends port msg when_ at_ _ := Ctx.send_of_ok
    simp only [run] at hok ⊢
    generalize ctx.send port msg when_ at_ = out at hposted hsent hok
    obtain ⟨result, ctx'⟩ := out
    obtain ⟨rfl, -, -⟩ := hposted.of_ok (error_of_run hok)
    obtain ⟨tick, peer, hroute, -, hctx'⟩ := hsent (error_of_run hok)
    obtain ⟨-, -, -, -, hpeer, -⟩ := Ctx.route_eq_ok hroute
    dsimp only at hctx' hok ⊢
    have hwiring' : ctx'.Follows wiring := by
      rw [hctx']
      exact hwiring
    obtain ⟨calls, hcompletes, hflights⟩ := ih _ hwiring' hok
    subst hctx'
    refine ⟨.sent port msg when_ at_ :: calls, ⟨calls, rfl, hcompletes⟩, ?_⟩
    have hfar : wiring (ctx.me, port) = some (peer.component, peer.port) := by
      rw [hwiring port, hpeer, Option.map_some]
    have hpost := ctx.scheduler.flights_enqueue (ctx.scheduler.nextSequence + 1)
      (ctx.message tick at_ peer msg)
    rw [hflights, flights_sent hfar]
    change (ctx.scheduler.enqueue _ _).flights + flights wiring ctx.me calls = _
    rw [hpost, Multiset.cons_add, Multiset.add_cons]
    rfl
  | wakeSelf when_ at_ token k ih =>
    have hposted := ctx.wakeSelf_posted when_ at_ token
    have hwoke : _ → ctx.Wakes when_ at_ token _ := Ctx.wakeSelf_of_ok
    simp only [run] at hok ⊢
    generalize ctx.wakeSelf when_ at_ token = out at hposted hwoke hok
    obtain ⟨result, ctx'⟩ := out
    obtain ⟨rfl, -, -⟩ := hposted.of_ok (error_of_run hok)
    obtain ⟨tick, -, -, hctx'⟩ := hwoke (error_of_run hok)
    dsimp only at hctx' hok ⊢
    have hwiring' : ctx'.Follows wiring := by
      rw [hctx']
      exact hwiring
    obtain ⟨calls, hcompletes, hflights⟩ := ih _ hwiring' hok
    subst hctx'
    refine ⟨.woke when_ at_ token :: calls, ⟨calls, rfl, hcompletes⟩, ?_⟩
    have hpost := ctx.scheduler.flights_enqueue (ctx.scheduler.nextSequence + 1)
      (ctx.wake tick at_ token)
    rw [hflights, flights_woke]
    change (ctx.scheduler.enqueue _ _).flights + flights wiring ctx.me calls = _
    rw [hpost, Multiset.cons_add, Multiset.add_cons]
    rfl
  | rng draws k ih =>
    obtain ⟨calls, hcompletes, hflights⟩ :=
      @ih _ { ctx with rng := (ctx.rng.draw (draws ctx.rng.stream)).2 } hwiring hok
    refine ⟨calls, ⟨ctx.rng.stream, ?_⟩, hflights⟩
    rw [← map_stream_draw]
    exact hcompletes
  | trace kind fields k ih =>
    obtain ⟨calls, hcompletes, hflights⟩ := @ih (ctx.emit kind fields) hwiring hok
    refine ⟨.traced kind fields :: calls, ⟨calls, rfl, hcompletes⟩, ?_⟩
    rw [flights_traced]
    exact hflights
  | component k ih | now k ih | phase k ih => exact ih _ hwiring hok

end Handler

/-! ## Errors of the context -/

/-- The error is one that a component raises itself. -/
def SimError.raised : SimError → Bool
  | .componentFault _ => true
  | _ => false

/-- The clock fails with errors of its own. -/
structure Contracts.ClockErrors [Contracts] : Prop where
  after : ∀ clock now d e, Contracts.after clock now d = .error e → ∃ t, e = .time t
  cyclesAfter : ∀ domain now k e, Contracts.cyclesAfter domain now k = .error e → ∃ t, e = .time t

section

variable [Contracts] (hclock : Contracts.ClockErrors)

include hclock

lemma resolve_error {when_ : ScheduleWhen} {now : Tick} {clock : SimulationClock}
    {domains : List ClockDomain} {e : SimError} (h : resolve when_ now clock domains = .error e) :
    e.raised = false := by
  unfold resolve at h
  split at h
  · cases h
  · obtain ⟨t, rfl⟩ := hclock.after _ _ _ _ h
    rfl
  · split at h
    · cases h
      rfl
    · obtain ⟨t, rfl⟩ := hclock.cyclesAfter _ _ _ _ h
      rfl

lemma addLatency_error {latency : Option LinkLatency} {tick : Tick} {clock : SimulationClock}
    {domains : List ClockDomain} {e : SimError}
    (h : addLatency latency tick clock domains = .error e) : e.raised = false := by
  unfold addLatency at h
  split at h
  · cases h
  · exact resolve_error hclock h
  · exact resolve_error hclock h

namespace Ctx

variable {ctx : Ctx} {e : SimError}

lemma route_error {port : PortId} {msg : Message} {when_ : ScheduleWhen}
    (h : ctx.route port msg when_ = .error e) : e.raised = false := by
  unfold route at h
  split at h
  · cases h
    rfl
  · split_ifs at h
    · cases h
      rfl
    · split at h
      · cases h
        rfl
      next peer _ =>
        cases hsent : resolve when_ ctx.scheduler.now ctx.clock ctx.domains with
        | error e' =>
          rw [hsent] at h
          cases h
          exact resolve_error hclock hsent
        | ok sent =>
          rw [hsent] at h
          change (addLatency peer.latency sent ctx.clock ctx.domains >>= fun tick =>
            Pure.pure (tick, peer)) = _ at h
          cases htick : addLatency peer.latency sent ctx.clock ctx.domains with
          | error e' =>
            rw [htick] at h
            cases h
            exact addLatency_error hclock htick
          | ok tick =>
            rw [htick] at h
            cases h

omit hclock [Contracts] in
lemma schedule_error {tick : Tick} {phase : Phase} {pending : Pending} {sent : EventKey → List Sent}
    {ctx' : Ctx} (h : ctx.schedule tick phase pending sent = (.error e, ctx')) :
    e.raised = false ∧ ctx'.error = ctx.error := by
  unfold schedule Scheduler.schedule at h
  grind [SimError.raised]

/-- A call refused by its context is not a fault of the component. -/
def Clean (ctx : Ctx) : Prop := ∀ e, ctx.error = some e → e.raised = false

omit hclock [Contracts] in
lemma Clean.sticky (hctx : ctx.Clean) {call : Ctx → Except SimError Unit × Ctx}
    (hcall : ctx.error = none → ∀ r ctx', call ctx = (r, ctx') →
      ctx'.error = none ∧ ∀ e, r = .error e → e.raised = false) : (ctx.sticky call).2.Clean := by
  cases herr : ctx.error with
  | some e =>
    rw [sticky_of_error herr]
    exact hctx
  | none =>
    rw [sticky_of_none herr]
    obtain ⟨hnone, hraised⟩ := hcall herr _ _ rfl
    intro e he
    cases hr : (call ctx).1 with
    | ok u =>
      rw [hr] at he
      change (call ctx).2.error = some e at he
      rw [hnone] at he
      cases he
    | error e' =>
      rw [hr, record_error hnone] at he
      obtain rfl : e' = e := Option.some.inj he
      exact hraised _ hr

lemma Clean.send (hctx : ctx.Clean) (port : PortId) (msg : Message) (when_ : ScheduleWhen)
    (phase : Phase) : (ctx.send port msg when_ phase).2.Clean := by
  refine hctx.sticky fun hnone r ctx' hcall => ?_
  unfold trySend at hcall
  split at hcall
  next e' hroute =>
    cases hcall
    refine ⟨hnone, fun e he => ?_⟩
    cases he
    exact route_error hclock hroute
  next tick peer _ =>
    cases r with
    | error e' =>
      obtain ⟨hraised, herror⟩ := schedule_error hcall
      refine ⟨herror.trans hnone, fun e he => ?_⟩
      cases he
      exact hraised
    | ok u =>
      refine ⟨?_, fun e he => by cases he⟩
      unfold schedule at hcall
      split at hcall
      · cases hcall
      · cases hcall
        exact hnone

lemma Clean.wakeSelf (hctx : ctx.Clean) (when_ : ScheduleWhen) (phase : Phase) (token : UInt64) :
    (ctx.wakeSelf when_ phase token).2.Clean := by
  refine hctx.sticky fun hnone r ctx' hcall => ?_
  unfold tryWake at hcall
  split at hcall
  next e' htick =>
    cases hcall
    refine ⟨hnone, fun e he => ?_⟩
    cases he
    exact resolve_error hclock htick
  next tick _ =>
    cases r with
    | error e' =>
      obtain ⟨hraised, herror⟩ := schedule_error hcall
      refine ⟨herror.trans hnone, fun e he => ?_⟩
      cases he
      exact hraised
    | ok u =>
      refine ⟨?_, fun e he => by cases he⟩
      unfold schedule at hcall
      split at hcall
      · cases hcall
      · cases hcall
        exact hnone

end Ctx

lemma Handler.run_clean {C : Type} (h : Handler C) {ctx : Ctx} (hctx : ctx.Clean) :
    (h.run ctx).2.2.Clean := by
  induction h generalizing ctx with
  | done result c => exact hctx
  | send port msg when_ phase k ih => exact ih _ (hctx.send hclock port msg when_ phase)
  | wakeSelf when_ phase token k ih => exact ih _ (hctx.wakeSelf hclock when_ phase token)
  | rng draws k ih => exact ih _ hctx
  | trace kind fields k ih => exact ih hctx
  | component k ih | now k ih | phase k ih => exact ih _ hctx

end

/-! ## Sessions -/

namespace Runtime

variable {C : Type} {rt₀ rt : Runtime C} {me : ComponentId} {at_ : TraceAt} {c : C} {ctx : Ctx}

/-- The network of a session. -/
def network (rt : Runtime C) : Network C := ⟨rt.components, rt.scheduler.flights⟩

/-- The session is faulted with an error that only components raise. -/
def FaultRaised (rt : Runtime C) : Prop := ∃ e, rt.fault = some e ∧ e.raised

/-- The links of a session. -/
def wiring (rt : Runtime C) : Wiring := fun port =>
  (rt.peerAt port).map fun peer => (peer.component, peer.port)

lemma history_resume (out : Except SimError Unit × C × Ctx) :
    (rt.resume out).history = rt.history := by
  simp [history, resume, leave, flushRecords, List.filterMap_map]

lemma clean_of_enter (henter : rt.enter me at_ = some (c, ctx)) : ctx.Clean := by
  obtain ⟨_, _, _, _, _, _, _, rfl⟩ := enter_eq_some.mp henter
  intro e he
  cases he

/-- If a call fails with an error that components raise, the context did not fail. -/
lemma error_of_raised {out : Except SimError Unit × C × Ctx} (hclean : out.2.2.Clean)
    {e : SimError} (h : verdict out = .error e) (hraised : e.raised) :
    out.2.2.error = none ∧ out.1 = .error e := by
  unfold verdict at h
  cases herror : out.2.2.error with
  | none =>
    rw [herror] at h
    exact ⟨rfl, h⟩
  | some e' =>
    rw [herror] at h
    cases h
    rw [hclean _ herror] at hraised
    cases hraised

variable [Contracts]

lemma history_take (e : Event Pending)
    (heap : BinaryHeap (Event.key : Event Pending → EventKey)) :
    (rt.take e heap).history = rt.history ++ [e.canonical] := by
  simp [history, take, absorb]

/-- A component that was called is in its place, and what it sent off is under way. -/
lemma completes_of_enter (henter : rt.enter me at_ = some (c, ctx)) (hpeers : rt.peers = rt₀.peers)
    (h : Handler C) (hok : (h.run ctx).2.2.error = none) :
    rt.components[me.toNat]? = some c ∧ ∃ calls,
      h.Completes ⟨me, rt.scheduler.now, rt.scheduler.phase⟩ calls (h.run ctx).1 (h.run ctx).2.1 ∧
      (rt.resume (h.run ctx)).network = ⟨rt.components.set me.toNat (h.run ctx).2.1,
        rt.scheduler.flights + flights rt₀.wiring me calls⟩ := by
  have hcomponents := components_resume henter h
  obtain ⟨slot, peers, rng, hc, -, hrow, -, hctx⟩ := enter_eq_some.mp henter
  have hfollows : ctx.Follows rt₀.wiring := by
    intro port
    rw [wiring, peerAt, ← hpeers, hctx, hrow]
    rfl
  obtain ⟨calls, hcompletes, hflights⟩ := h.completes_of_run hfollows hok
  have hplace : ctx.place = ⟨me, rt.scheduler.now, rt.scheduler.phase⟩ := by
    rw [hctx]
    rfl
  have hme : ctx.me = me := by rw [hctx]
  have hscheduler : ctx.scheduler = rt.scheduler := by rw [hctx]
  rw [hplace] at hcompletes
  rw [hme, hscheduler] at hflights
  exact ⟨hc, calls, hcompletes, Soup.ext hcomponents hflights⟩

variable [Component C]

/-- How a session stands to the network of the session `rt₀`, of which it is a run. -/
inductive Refines (rt₀ : Runtime C) (rt : Runtime C) : Prop
  | elaborated (hlifecycle : rt.lifecycle = .elaborated) (hfault : rt.fault = none)
      (hnetwork : rt.network = ⟨rt₀.components, 0⟩) (hhistory : rt.history = [])
  | ready (hlifecycle : rt.lifecycle = .ready) (hfault : rt.fault = none)
      (hruns : Network.Runs rt₀.wiring rt₀.components rt.history.length rt.network)
  | boot {e : SimError} (hlifecycle : rt.lifecycle = .faulted) (hfault : rt.fault = some e)
      (hhistory : rt.history = [])
      (hraised : e.raised → Network.BootBreaks rt₀.wiring rt₀.components e)
  | faulted {e : SimError} (hlifecycle : rt.lifecycle = .faulted) (hfault : rt.fault = some e)
      {n : ℕ} {net : Network C} (hruns : Network.Runs rt₀.wiring rt₀.components n net)
      (hhistory : rt.history.length ≤ n + 1) (hraised : e.raised → net.Breaks e)

namespace Refines

omit [Contracts] in
/-- What is not about components, queue and history can change. -/
lemma congr {rt' : Runtime C} (h : Refines rt₀ rt) (hcomponents : rt'.components = rt.components)
    (hscheduler : rt'.scheduler = rt.scheduler) (hlifecycle : rt'.lifecycle = rt.lifecycle)
    (hfault : rt'.fault = rt.fault) (hhistory : rt'.history = rt.history) : Refines rt₀ rt' := by
  have hnetwork : rt'.network = rt.network := by
    rw [network, hcomponents, hscheduler, network]
  cases h with
  | elaborated h₁ h₂ h₃ h₄ =>
    exact .elaborated (hlifecycle.trans h₁) (hfault.trans h₂) (hnetwork.trans h₃)
      (hhistory.trans h₄)
  | ready h₁ h₂ h₃ =>
    refine .ready (hlifecycle.trans h₁) (hfault.trans h₂) ?_
    rw [hhistory, hnetwork]
    exact h₃
  | boot h₁ h₂ h₃ h₄ => exact .boot (hlifecycle.trans h₁) (hfault.trans h₂) (hhistory.trans h₃) h₄
  | faulted h₁ h₂ h₃ h₄ h₅ =>
    exact .faulted (hlifecycle.trans h₁) (hfault.trans h₂) h₃ (hhistory ▸ h₄) h₅

omit [Contracts] in
lemma runs_of_ready (h : Refines rt₀ rt) (hready : rt.lifecycle = .ready) :
    rt.fault = none ∧ Network.Runs rt₀.wiring rt₀.components rt.history.length rt.network := by
  cases h with
  | ready _ hfault hruns => exact ⟨hfault, hruns⟩
  | elaborated hlifecycle | boot hlifecycle | faulted hlifecycle =>
    rw [hready] at hlifecycle
    cases hlifecycle

/-- A dispatch that is refused as one too many in its phase faults the session. -/
lemma dispatch_livelock {e : Event Pending}
    {heap : BinaryHeap (Event.key : Event Pending → EventKey)}
    (hpop : rt.scheduler.heap.pop = some (e, heap))
    (hlimit : rt.scheduler.config.maxEventsPerPhase < rt.scheduler.countFor e.key) :
    rt.dispatch.1 = .error (.faulted (.sameTickLivelock e.key.tick e.key.phase
      rt.scheduler.config.maxEventsPerPhase)) := by
  unfold Runtime.dispatch
  rw [Scheduler.pop_of_pop hpop, if_pos hlimit]
  rfl

/-- A session that dispatches an event takes in what is under way. -/
lemma dispatch (hclock : Contracts.ClockErrors) (hrouted : Routed rt₀ rt)
    (hready : rt.lifecycle = .ready) (h : Refines rt₀ rt) : Refines rt₀ rt.dispatch.2 := by
  obtain ⟨hfault, hruns⟩ := h.runs_of_ready hready
  have hpeers := hrouted.fixed.peers
  have hpopped : ∀ {e : Event Pending} {heap : BinaryHeap (Event.key : Event Pending → EventKey)},
      rt.scheduler.heap.pop = some (e, heap) → rt.network =
        ⟨rt.components, e.flight ::ₘ (rt.take e heap).scheduler.flights⟩ := by
    intro e heap hpop
    exact Soup.ext rfl (Multiset.coe_eq_coe.mpr ((BinaryHeap.pop_eq_some hpop).2.map Event.flight))
  have hlive : ∀ {e : Event Pending} {heap : BinaryHeap (Event.key : Event Pending → EventKey)}
      {error : SimError}, rt.scheduler.heap.pop = some (e, heap) →
      rt.scheduler.config.maxEventsPerPhase < rt.scheduler.countFor e.key →
      rt.dispatch.1 = .error (.faulted error) → error.raised = false := by
    intro e heap error hpop hlimit hdispatch
    rw [dispatch_livelock hpop hlimit] at hdispatch
    cases hdispatch
    rfl
  have hspec := rt.dispatch_spec
  generalize rt.dispatch = out at hspec hlive
  cases hspec with
  | drained => exact h
  | unknown e heap hpop _ hnone => exact absurd hnone (hrouted.enter_ne_none hpop)
  | livelock e heap hpop hlimit error =>
    refine .faulted rfl rfl hruns (Nat.le_succ _) fun hraised => ?_
    rw [hlive hpop hlimit rfl] at hraised
    cases hraised
  | failed e heap hpop _ c ctx henter error herror =>
    refine .faulted rfl rfl hruns ?_ fun hraised => ?_
    · change ((rt.take e heap).resume (Runtime.handle e c ctx)).history.length ≤ _
      rw [history_resume, history_take, List.length_append, List.length_singleton]
    · have hclean := (Component.handleEvent c e.canonical.delivery).run_clean hclock
        (clean_of_enter henter)
      obtain ⟨hnone, hresult⟩ := error_of_raised hclean herror hraised
      obtain ⟨hc, calls, hcompletes, -⟩ :=
        completes_of_enter henter hpeers _ hnone
      rw [show ((Component.handleEvent c e.canonical.delivery).run ctx).1 = .error error from
        hresult] at hcompletes
      rw [hpopped hpop]
      exact ⟨e.flight, Multiset.mem_cons_self e.flight (rt.take e heap).scheduler.flights, c, hc, _,
        calls, _, hcompletes⟩
  | handled e heap hpop _ c ctx henter hok =>
    obtain ⟨hnone, hresult⟩ := verdict_eq_ok.mp hok
    obtain ⟨hc, calls, hcompletes, hnetwork⟩ :=
      completes_of_enter henter hpeers _ hnone
    rw [show ((Component.handleEvent c e.canonical.delivery).run ctx).1 = .ok () from
      hresult] at hcompletes
    refine .ready hready hfault ?_
    have hstep : Soup.Step (Network.Reacts rt₀.wiring) rt.network
        ((rt.take e heap).resume (Runtime.handle e c ctx)).network := by
      rw [hpopped hpop, Runtime.handle, hnetwork]
      exact .mk (.mk hc hcompletes)
    obtain ⟨net₀, hboots, hrun⟩ := hruns
    refine ⟨net₀, hboots, ?_⟩
    change Soup.Run _ net₀
      ((rt.take e heap).resume (Runtime.handle e c ctx)).history.length _
    rw [history_resume, history_take, List.length_append, List.length_singleton]
    exact hrun.step hstep

lemma initFrom (hclock : Contracts.ClockErrors) (n k : ℕ)
    (hcount : k + n = rt₀.components.length) {rt : Runtime C} (hsized : rt.Sized)
    (hfixed : Fixed rt₀ rt) (hlifecycle : rt.lifecycle = .elaborated) (hfault : rt.fault = none)
    (hhistory : rt.history = []) (hcomponents : rt.components.length = rt₀.components.length)
    (hboots : Network.Boots rt₀.wiring rt₀.components k rt.network) :
    Refines rt₀ (rt.initFrom k n).2 := by
  induction n generalizing k rt with
  | zero =>
    rw [Nat.add_zero] at hcount
    refine .ready rfl hfault ⟨rt.network, hcount ▸ hboots, ?_⟩
    change Soup.Run _ _ rt.history.length _
    rw [hhistory]
    exact .refl
  | succ n ih =>
    have hlt : k < rt.slots.length := by
      rw [← hsized.components, hcomponents]
      omega
    have hindex := hsized.toNat_ofNat hlt
    rw [Runtime.initFrom]
    unfold activate
    cases henter : rt.enter (UInt32.ofNat k) .init with
    | none => exact absurd henter (hsized.enter_ne_none (by rw [hindex]; exact hlt) _)
    | some r =>
      obtain ⟨c, ctx⟩ := r
      simp only [Option.bind_eq_bind, Option.bind_some, Option.pure_def]
      have hresume : (rt.resume ((Component.init c).run ctx)).history = [] := by
        rw [history_resume, hhistory]
      cases hverdict : verdict ((Component.init c).run ctx) with
      | error e =>
        refine .boot rfl rfl hresume fun hraised => ?_
        have hclean := (Component.init c).run_clean hclock (clean_of_enter henter)
        obtain ⟨hnone, hresult⟩ := error_of_raised hclean hverdict hraised
        obtain ⟨hc, calls, hcompletes, -⟩ :=
          completes_of_enter henter hfixed.peers _ hnone
        rw [hresult] at hcompletes
        rw [hindex] at hc
        exact ⟨k, rt.network, hboots, c, hc, _, _, calls, _, hcompletes⟩
      | ok u =>
        obtain ⟨hnone, hresult⟩ := verdict_eq_ok.mp hverdict
        obtain ⟨hc, calls, hcompletes, hnetwork⟩ :=
          completes_of_enter henter hfixed.peers _ hnone
        rw [hresult] at hcompletes
        rw [hindex] at hc hnetwork
        refine ih (k + 1) (by omega) (hsized.resume _)
          (hfixed.trans ⟨rfl, rfl, rfl, rfl, rfl, rfl, rfl⟩)
          hlifecycle hfault hresume ((List.length_set ..).trans hcomponents) ?_
        rw [hnetwork]
        exact .next hboots hc hcompletes

/-- Every step of a session is one of its network. -/
lemma advance (hclock : Contracts.ClockErrors) (hrouted : Routed rt₀ rt) {rt' : Runtime C}
    (hcomponents : rt.components.length = rt₀.components.length) (hadvance : Advance rt rt')
    (h : Refines rt₀ rt) : Refines rt₀ rt' := by
  cases hadvance with
  | dispatch hready => exact h.dispatch hclock hrouted hready
  | init helaborated =>
    cases h with
    | elaborated hlifecycle hfault hnetwork hhistory =>
      refine initFrom hclock _ 0 ?_ hrouted.sized hrouted.fixed hlifecycle hfault hhistory
        hcomponents ?_
      · rw [Nat.zero_add, ← hrouted.sized.components, hcomponents]
      · rw [hnetwork]
        exact .start
    | ready hlifecycle | boot hlifecycle | faulted hlifecycle =>
      rw [helaborated] at hlifecycle
      cases hlifecycle
  | fire => exact h.congr rfl rfl rfl rfl (firePoint_history _ _)
  | observeAt tick => exact h.congr rfl rfl rfl rfl (by simp [history, Runtime.observeAt])
  | addObserver | startTrace | takeTrace => exact h.congr rfl rfl rfl rfl rfl

end Refines

/-- Every call keeps the routing, and takes a session to where its network gets to. -/
lemma routed_refines_exec (hclock : Contracts.ClockErrors) {b : TopologyBuilder C}
    {config : SessionConfig} {rt₀ : Runtime C} (h : b.elaborate config = .ok rt₀)
    {calls : List Call}
    (hcalls : ∀ c ∈ calls, c.advances) :
    Routed rt₀ (Machine.exec call rt₀ calls).2 ∧ Refines rt₀ (Machine.exec call rt₀ calls).2 := by
  have hwired := wired_of_elaborate h
  have hrouted₀ := routed_of_elaborate h
  have hstart : Refines rt₀ rt₀ := by
    obtain ⟨slots, peers, links, -, -, -, rfl⟩ := TopologyBuilder.elaborate_eq_ok h
    refine .elaborated rfl rfl (Soup.ext rfl ?_) rfl
    simp [network, Scheduler.flights, fromElaboration, Scheduler.new]
  refine exec_advance_invariant (I := fun rt => Routed rt₀ rt ∧ Refines rt₀ rt) ?_
    ⟨hrouted₀, hstart⟩ hcalls
  rintro rt rt' hstep ⟨hrouted, hrefines⟩
  have hcomponents : rt.components.length = rt₀.components.length := by
    rw [hrouted.sized.components, hrouted.fixed.slots, hrouted₀.sized.components]
  exact ⟨hrouted.step hwired (.advance hstep), hrefines.advance hclock hrouted hcomponents hstep⟩

/-- **A session is a run of its network.**  However a session is driven, short of restoring a
snapshot, and as long as it has not faulted, its components and what is queued are those of a run of
the network of its components and links, which takes in one thing under way for each event
dispatched, in whatever order the clocks make of it.  Where it has faulted with an error that only
components raise, a component breaks the network that such a run leads to, or the start of it; of
its components and its queue nothing is said then. -/
theorem sessions_refine_networks (hclock : Contracts.ClockErrors) {b : TopologyBuilder C}
    {config : SessionConfig} {rt₀ : Runtime C} (h : b.elaborate config = .ok rt₀)
    {calls : List Call}
    (hcalls : ∀ c ∈ calls, c.advances) : Refines rt₀ (Machine.exec call rt₀ calls).2 :=
  (routed_refines_exec hclock h hcalls).2

end Runtime

/-- The documented clock fails with time errors. -/
lemma Canonical.canonical_clockErrors (resolution : ℕ) :
    @Contracts.ClockErrors (Canonical.contracts resolution) := by
  have hchecked : ∀ n e, checkedTick n = .error e → ∃ t, e = .time t := by
    intro n e h
    unfold checkedTick at h
    split_ifs at h
    cases h
    exact ⟨_, rfl⟩
  refine @Contracts.ClockErrors.mk (Canonical.contracts resolution) ?_ ?_
  · exact fun clock now d e h => hchecked _ e h
  · intro domain now k e h
    change Canonical.cyclesAfter resolution domain now k = .error e at h
    unfold Canonical.cyclesAfter at h
    split_ifs at h
    · exact hchecked _ e h
    · cases h
      exact ⟨_, rfl⟩

open Exchange in
/-- The request, the answer and the wake after it: three steps of the network. -/
theorem Runtime.sessions_refine_networks_exchange :
    Network.Runs (session 1).wiring (session 1).components 3 observed.network := by
  have hadvance : ∀ c ∈ [Call.init, .observeAt 5000, .run 20000], c.advances := by decide
  have hrefines := Runtime.sessions_refine_networks (Canonical.canonical_clockErrors _)
    (elaborate_topology 1) hadvance
  have hready : observed.lifecycle = .ready := by decide +kernel
  obtain ⟨-, hruns⟩ := Refines.runs_of_ready hrefines hready
  have hhistory : observed.history.length = 3 := by
    rw [history, observed_journal]
    rfl
  rwa [show ((Machine.exec Runtime.call (session 1)
    [.init, .observeAt 5000, .run 20000]).2).history.length = 3 from hhistory] at hruns

end SystemScope
