import SystemScope.Properties.Steps

/-!
# Queued events have somewhere to go

Every event in the queue of an elaborated session passes the check that a restore makes: it goes
to a component of the session and, if it is a message, to a port of its protocol (`Routed`).
Components can only schedule such events, since the peers of a port are the ends of a link, and
what is restored was checked.
-/

namespace SystemScope

namespace Runtime

variable {C : Type}

/-! ## The check on queued events -/

lemma checkEvent_wake {rt : Runtime C} {me : ComponentId} (hme : me.toNat < rt.slots.length)
    (key : EventKey) (token : UInt64) :
    rt.checkEvent { key, source := me, target := me, delivery := .wake token } = .ok () := by
  simp [checkEvent, hme]

lemma checkEvent_message {rt : Runtime C} {source : ComponentId}
    (hsource : source.toNat < rt.slots.length) {port : PortRef} {spec : PortSpec}
    (hspec : rt.specAt port = some spec) {msg : Message} (hmsg : spec.protocol = msg.protocol)
    (key : EventKey) :
    rt.checkEvent { key, source, target := port.1, delivery := .message port.2 msg } =
      .ok () := by
  obtain ⟨slot, hslot, hport⟩ := Option.bind_eq_some_iff.mp hspec
  have hknown : ¬(source ≠ .runtime ∧ rt.slots.length ≤ source.toNat) :=
    fun h => absurd hsource (not_lt.mpr h.2)
  simp only [checkEvent, hslot, if_neg hknown, hport, hmsg, ne_eq, not_true_eq_false, if_false]

/-- An event that passes the check goes to a component of the session. -/
lemma target_of_checkEvent {rt : Runtime C} {ev : CanonicalEvent}
    (h : rt.checkEvent ev = .ok ()) : ev.target.toNat < rt.slots.length := by
  unfold checkEvent at h
  split at h
  next => cases h
  next slot hslot => exact (List.getElem?_eq_some_iff.mp hslot).1

lemma forM_eq_ok_iff {α ε : Type} {f : α → Except ε Unit} {xs : List α} :
    xs.forM f = .ok () ↔ ∀ x ∈ xs, f x = .ok () := by
  induction xs with
  | nil => simp [pure, Except.pure]
  | cons x xs ih =>
    rw [List.forall_mem_cons, ← ih]
    change (f x >>= fun _ => xs.forM f) = _ ↔ _
    cases hx : f x with
    | error e => simp [bind, Except.bind]
    | ok u => simp [bind, Except.bind]

lemma Fixed.checkEvent {rt₀ rt : Runtime C} (h : Fixed rt₀ rt) (ev : CanonicalEvent) :
    rt.checkEvent ev = rt₀.checkEvent ev := by
  simp only [Runtime.checkEvent, h.slots]

end Runtime

section

variable {C : Type} [Contracts] [Component C]

/-! ## Contexts -/

/-- A context in the topology of `net` whose queue holds events that pass the check. -/
structure Ctx.Routed (net : Runtime C) (ctx : Ctx) : Prop where
  me : ctx.me.toNat < net.slots.length
  ports : ∀ port : PortId, ctx.ports[port.toNat]? = net.specAt (ctx.me, port)
  peers : ∀ port : PortId, ctx.peers[port.toNat]? = net.peerAt (ctx.me, port)
  events : ∀ e ∈ ctx.scheduler.heap.toList, net.checkEvent e.canonical = .ok ()

lemma Ctx.Routed.posted {b : TopologyBuilder C} {net : Runtime C} (hwired : net.Wired b)
    {ctx ctx' : Ctx} {result : Except SimError Unit} (h : ctx.Routed net)
    (hposted : ctx.Posted result ctx') : ctx'.Routed net := by
  have hevents : ∀ tick phase pending,
      net.checkEvent (Event.canonical ⟨⟨tick, phase, ctx.scheduler.nextSequence⟩, pending⟩) =
        .ok () →
      ∀ e ∈ (ctx.scheduler.enqueue (ctx.scheduler.nextSequence + 1)
        ⟨⟨tick, phase, ctx.scheduler.nextSequence⟩, pending⟩).heap.toList,
        net.checkEvent e.canonical = .ok () := by
    intro tick phase pending hnew e he
    rcases List.mem_cons.mp ((ctx.scheduler.enqueue_heap_toList _ _).mem_iff.mp he) with rfl | he
    · exact hnew
    · exact h.events e he
  cases hposted with
  | refused => exact h
  | failed => exact { h with }
  | woken when_ phase token tick =>
    exact { h with events := hevents tick phase _ (Runtime.checkEvent_wake h.me _ token) }
  | sent port msg when_ phase tick peer _ hroute =>
    obtain ⟨spec, sent, hspec, hmsg, hpeer, -, -⟩ := Ctx.route_eq_ok hroute
    rw [h.ports] at hspec
    rw [h.peers] at hpeer
    obtain ⟨near, far, hnear, hfar, hprotocol⟩ := hwired.specAt_peer hpeer
    rw [hspec] at hnear
    cases hnear
    have hcheck := Runtime.checkEvent_message h.me hfar (hprotocol.symm.trans hmsg.symm)
      ⟨tick, phase, ctx.scheduler.nextSequence⟩
    exact { h with events := hevents tick phase _ hcheck }

lemma Handler.run_routed {b : TopologyBuilder C} {net : Runtime C} (hwired : net.Wired b)
    (handler : Handler C) {ctx : Ctx} (h : ctx.Routed net) : (handler.run ctx).2.2.Routed net :=
  handler.run_induction (fun _ _ _ hctx hposted => hctx.posted hwired hposted)
    (fun _ _ hctx => { hctx with }) (fun _ _ _ hctx => { hctx with }) h

/-! ## Sessions -/

namespace Runtime

/-- Every queued event of a session elaborated as `rt₀` passes the check. -/
structure Routed (rt₀ rt : Runtime C) : Prop where
  fixed : Fixed rt₀ rt
  sized : rt.Sized
  events : ∀ e ∈ rt.scheduler.heap.toList, rt₀.checkEvent e.canonical = .ok ()

namespace Routed

variable {b : TopologyBuilder C} {rt₀ rt : Runtime C}

lemma resume (hwired : rt₀.Wired b) (h : Routed rt₀ rt) {me : ComponentId} {at_ : TraceAt} {c : C}
    {ctx : Ctx} (henter : rt.enter me at_ = some (c, ctx)) (handler : Handler C) :
    Routed rt₀ (rt.resume (handler.run ctx)) := by
  obtain ⟨slot, peers, rng, -, hslot, hpeers, -, rfl⟩ := enter_eq_some.mp henter
  rw [h.fixed.slots] at hslot
  rw [h.fixed.peers] at hpeers
  refine ⟨{ h.fixed with }, h.sized.resume _, ?_⟩
  refine (handler.run_routed hwired ⟨?_, fun port => ?_, fun port => ?_, h.events⟩).events
  · exact (List.getElem?_eq_some_iff.mp hslot).1
  · rw [specAt, hslot, Option.bind_some]
  · rw [peerAt, hpeers, Option.bind_some]

omit [Component C] in
lemma take (h : Routed rt₀ rt) {e : Event Pending}
    {heap : BinaryHeap (Event.key : Event Pending → EventKey)}
    (hpop : rt.scheduler.heap.pop = some (e, heap)) : Routed rt₀ (rt.take e heap) := by
  refine ⟨{ h.fixed with }, { h.sized with }, fun e' he' => h.events e' ?_⟩
  exact (BinaryHeap.pop_eq_some hpop).2.mem_iff.mpr (List.mem_cons_of_mem _ he')

omit [Component C] in
lemma enter_ne_none (h : Routed rt₀ rt) {e : Event Pending}
    {heap : BinaryHeap (Event.key : Event Pending → EventKey)}
    (hpop : rt.scheduler.heap.pop = some (e, heap)) :
    (rt.take e heap).enter e.payload.target (.event e.key) ≠ none := by
  have hmem : e ∈ rt.scheduler.heap.toList :=
    (BinaryHeap.pop_eq_some hpop).2.mem_iff.mpr List.mem_cons_self
  have htarget := target_of_checkEvent (h.events e hmem)
  rw [← (h.take hpop).fixed.slots] at htarget
  exact (h.take hpop).sized.enter_ne_none htarget _

lemma handle (hwired : rt₀.Wired b) (h : Routed rt₀ rt) {e : Event Pending}
    {heap : BinaryHeap (Event.key : Event Pending → EventKey)}
    (hpop : rt.scheduler.heap.pop = some (e, heap)) {c : C} {ctx : Ctx}
    (henter : (rt.take e heap).enter e.payload.target (.event e.key) = some (c, ctx)) :
    Routed rt₀ ((rt.take e heap).resume (Runtime.handle e c ctx)) :=
  (h.take hpop).resume hwired henter (Component.handleEvent c e.canonical.delivery)

lemma dispatch (hwired : rt₀.Wired b) (h : Routed rt₀ rt) : Routed rt₀ rt.dispatch.2 := by
  have hspec := rt.dispatch_spec
  generalize rt.dispatch = out at hspec
  cases hspec with
  | drained => exact h
  | livelock => exact ⟨{ h.fixed with }, { h.sized with }, h.events⟩
  | unknown e heap hpop => exact h.take hpop
  | failed e heap hpop _ c ctx henter =>
    have hhandled := h.handle hwired hpop henter
    exact ⟨{ hhandled.fixed with }, { hhandled.sized with }, hhandled.events⟩
  | handled e heap hpop _ c ctx henter =>
    have hhandled := h.handle hwired hpop henter
    exact ⟨{ hhandled.fixed with }, { hhandled.sized with }, hhandled.events⟩

lemma init (hwired : rt₀.Wired b) (h : Routed rt₀ rt) (k n : ℕ) :
    Routed rt₀ (rt.initFrom k n).2 := by
  refine initFrom_induction (P := Routed rt₀) n k ?_ ?_ ?_ ?_ h
  · exact fun r j c ctx hr henter => hr.resume hwired henter _
  · exact fun r hr => ⟨{ hr.fixed with }, { hr.sized with }, hr.events⟩
  · exact fun r e hr => ⟨{ hr.fixed with }, { hr.sized with }, hr.events⟩
  · exact fun r j _ hr _ => hr

lemma restored (h : Routed rt₀ rt) {bs : Bytes} {out : Except RuntimeError Unit × Runtime C}
    (hrestored : Restored rt bs out) : Routed rt₀ out.2 := by
  have hstep := Step.restore hrestored
  refine ⟨h.fixed.trans hstep.fixed, hstep.sized h.sized, ?_⟩
  cases hrestored with
  | refused => exact h.events
  | failed => exact h.events
  | done _ snap scheduler rngs components _ hvalidate =>
    obtain ⟨-, -, -, -, -, -, -, -, hqueue, hrestore⟩ := validate_eq_ok_iff.mp hvalidate
    obtain ⟨-, rfl⟩ := Scheduler.restore_eq_ok_iff.mp hrestore
    intro e he
    obtain ⟨ev, hev, rfl⟩ := List.mem_map.mp ((Scheduler.rebuilt_heap_toList _ _).mem_iff.mp he)
    rw [← h.fixed.checkEvent]
    exact forM_eq_ok_iff.mp hqueue ev hev

lemma step (hwired : rt₀.Wired b) {rt' : Runtime C} (hstep : Step rt rt') (h : Routed rt₀ rt) :
    Routed rt₀ rt' := by
  cases hstep with
  | advance hadvance =>
    cases hadvance with
    | dispatch => exact h.dispatch hwired
    | init => exact h.init hwired 0 _
    | _ => exact ⟨{ h.fixed with }, { h.sized with }, h.events⟩
  | restore hrestored => exact h.restored hrestored
  | resumeTrace => exact ⟨{ h.fixed with }, { h.sized with }, h.events⟩

end Routed

lemma routed_of_elaborate {config : SessionConfig} {b : TopologyBuilder C} {rt : Runtime C}
    (h : b.elaborate config = .ok rt) : Routed rt rt := by
  have hsized := sized_of_elaborate h
  obtain ⟨slots, peers, links, -, -, -, rfl⟩ := TopologyBuilder.elaborate_eq_ok h
  exact ⟨.refl _, hsized, by simp [fromElaboration, Scheduler.new]⟩

end Runtime

end

end SystemScope
