import SystemScope.Components.Exchange
import SystemScope.Properties.ObservePoints

/-!
# Links are reliable channels

A successful send is in the journal together with the key its event was scheduled under.  Along
every run, that event is pending until it is dispatched, and it is dispatched once: it goes to the
far end of the link the topology declares, with the sender as its source and the message as it was
sent.  Sends of one port for the current tick and one phase are delivered in order, because their
keys increase: the link's latency is monotone in the tick of the send, and sequence numbers grow.

`Tracks` is the invariant that relates the journal to the queue.  Its three step lemmas follow the
three things that can happen to a queue: an event is enqueued, a send is noted, an event is
taken. -/

namespace SystemScope

/-! ## The ports of a topology -/

namespace TopologyBuilder

variable {C : Type} [Component C]

/-- A declared link connects these ports, in either order. -/
def Connects (b : TopologyBuilder C) (port far : PortRef) : Prop :=
  ∃ link ∈ b.links, (b.Names link.a port ∧ b.Names link.b far) ∨
    (b.Names link.b port ∧ b.Names link.a far)

end TopologyBuilder

/-! ## Sends -/

/-- The event a send stands for, given the far end of its link. -/
def Sent.event (s : Sent) (peer : Peer) : Event Pending where
  key := s.key
  payload := { source := s.sender, target := peer.component, delivery := .message peer.port s.msg }

/-- A later send of the same port, both for the current tick and in the same phase. -/
def Sent.Follows (t s : Sent) : Prop :=
  s.sender = t.sender ∧ s.port = t.port ∧ s.when_ = .now ∧ t.when_ = .now ∧ s.phase = t.phase

/-- What the order of two entries in a journal says about their keys. -/
def Entry.Ordered : Entry → Entry → Prop
  | .dispatched a, .dispatched b => a.key < b.key
  | .dispatched a, .sent t => a.key < t.key
  | .sent s, .sent t => s.key.sequence < t.key.sequence ∧ (t.Follows s → s.key < t.key)
  | _, _ => True

section

variable [Contracts] {C : Type}

/-- A link's latency keeps the order of sends. -/
lemma addLatency_mono (hclock : Contracts.MonotoneClock) {latency : Option LinkLatency}
    {clock : SimulationClock} {domains : List ClockDomain} {sent sent' tick tick' : Tick}
    (hle : sent ≤ sent') (h : addLatency latency sent clock domains = .ok tick)
    (h' : addLatency latency sent' clock domains = .ok tick') : tick ≤ tick' := by
  unfold addLatency at h h'
  cases latency with
  | none =>
    cases h
    cases h'
    exact hle
  | some latency =>
    cases latency with
    | after d => exact hclock.after_mono clock sent sent' d tick tick' hle h h'
    | cycles domain k =>
      unfold resolve at h h'
      dsimp only at h h'
      cases hdomain : domains[domain.toNat]? with
      | none =>
        rw [hdomain] at h
        cases h
      | some d =>
        rw [hdomain] at h h'
        exact hclock.cyclesAfter_mono d sent sent' k tick tick' hle h h'

/-- The key of a send made at `now` is the one its route gives. -/
def Sent.Routed (net : Runtime C) (s : Sent) (now : Tick) : Prop :=
  s.key.phase = s.phase ∧ ∃ peer tick, net.peerAt (s.sender, s.port) = some peer ∧
    resolve s.when_ now net.clock net.domains = .ok tick ∧
    addLatency peer.latency tick net.clock net.domains = .ok s.key.tick

/-- Sends that follow each other have increasing keys. -/
lemma Sent.Follows.key_lt (hclock : Contracts.MonotoneClock) {net : Runtime C} {s t : Sent}
    {now now' : Tick} (h : t.Follows s) (hs : s.Routed net now) (ht : t.Routed net now')
    (hle : now ≤ now') (hseq : s.key.sequence < t.key.sequence) : s.key < t.key := by
  obtain ⟨hsender, hport, hwhen, hwhen', hphase⟩ := h
  obtain ⟨hsphase, peer, tick, hpeer, hresolve, hlatency⟩ := hs
  obtain ⟨htphase, peer', tick', hpeer', hresolve', hlatency'⟩ := ht
  rw [hsender, hport, hpeer'] at hpeer
  cases hpeer
  rw [hwhen] at hresolve
  rw [hwhen'] at hresolve'
  cases hresolve
  cases hresolve'
  have htick := addLatency_mono hclock hle hlatency hlatency'
  rw [EventKey.lt_iff]
  rcases htick.lt_or_eq with hlt | heq
  · exact .inl hlt
  · exact .inr ⟨heq, .inr ⟨by rw [hsphase, htphase, hphase], hseq⟩⟩

/-! ## The invariant -/

/-- The journal accounts for the queue of a session with the topology of `net`: dispatched events
are before everything queued, and every send is queued or was dispatched. -/
structure Tracks (net : Runtime C) (s : Scheduler Pending) (journal : List Entry) : Prop where
  queued : s.Queued
  cursor : ∀ ev, .dispatched ev ∈ journal →
    ∃ last, s.lastDispatched = some last ∧ ev.key ≤ last ∧ last.sequence < s.nextSequence
  later : ∀ ev, .dispatched ev ∈ journal → ∀ e ∈ s.heap.toList, ev.key < e.key
  routed : ∀ t, .sent t ∈ journal → ∃ now ≤ s.now, t.Routed net now
  assigned : ∀ t, .sent t ∈ journal → t.key.sequence < s.nextSequence
  delivered : ∀ t, .sent t ∈ journal → ∀ peer, net.peerAt (t.sender, t.port) = some peer →
    t.event peer ∈ s.heap.toList ∨ .dispatched (t.event peer).canonical ∈ journal
  ordered : journal.Pairwise Entry.Ordered

namespace Tracks

variable {net : Runtime C} {s : Scheduler Pending} {journal : List Entry}

lemma enqueue (h : Tracks net s journal) {tick : Tick} {phase : Phase}
    (ha : s.Admits tick phase) (pending : Pending) :
    Tracks net (s.enqueue (s.nextSequence + 1) ⟨⟨tick, phase, s.nextSequence⟩, pending⟩)
      journal := by
  have hperm := s.enqueue_heap_toList (s.nextSequence + 1)
    ⟨⟨tick, phase, s.nextSequence⟩, pending⟩
  have hnext : ∀ n : UInt64, n < s.nextSequence → n < s.nextSequence + 1 := by
    intro n hn
    rw [UInt64.lt_iff_toNat_lt] at hn ⊢
    rw [ha.toNat_succ]
    exact Nat.lt_succ_of_lt hn
  refine ⟨h.queued.enqueue ha pending, ?_, ?_, h.routed, ?_, ?_, h.ordered⟩
  · intro ev hev
    obtain ⟨last, hlast, hle, hseq⟩ := h.cursor ev hev
    exact ⟨last, hlast, hle, hnext _ hseq⟩
  · intro ev hev e he
    rcases List.mem_cons.mp (hperm.mem_iff.mp he) with rfl | he
    · obtain ⟨last, hlast, hle, hseq⟩ := h.cursor ev hev
      exact lt_of_le_of_lt hle (ha.cursor_lt hlast hseq)
    · exact h.later ev hev e he
  · exact fun t ht => hnext _ (h.assigned t ht)
  · intro t ht peer hpeer
    exact (h.delivered t ht peer hpeer).imp_left fun hmem =>
      hperm.mem_iff.mpr (List.mem_cons_of_mem _ hmem)

/-- A send is noted whose event was just enqueued. -/
lemma note (hclock : Contracts.MonotoneClock) (h : Tracks net s journal) {t : Sent} {peer : Peer}
    (hpeer : net.peerAt (t.sender, t.port) = some peer) (hqueued : t.event peer ∈ s.heap.toList)
    (hrouted : t.Routed net s.now)
    (hnew : ∀ u, .sent u ∈ journal → u.key.sequence < t.key.sequence) :
    Tracks net s (journal ++ [.sent t]) := by
  have hold : ∀ u, .sent u ∈ journal ++ [.sent t] → .sent u ∈ journal ∨ u = t := by
    intro u hu
    simpa using hu
  have hdispatched : ∀ ev, .dispatched ev ∈ journal ++ [.sent t] → .dispatched ev ∈ journal := by
    intro ev hev
    simpa using hev
  refine ⟨h.queued, fun ev hev => h.cursor ev (hdispatched ev hev),
    fun ev hev => h.later ev (hdispatched ev hev), ?_, ?_, ?_, ?_⟩
  · intro u hu
    rcases hold u hu with hu | rfl
    · exact h.routed u hu
    · exact ⟨_, le_rfl, hrouted⟩
  · intro u hu
    rcases hold u hu with hu | rfl
    · exact h.assigned u hu
    · exact h.queued.assigned _ hqueued
  · intro u hu peer' hpeer'
    rcases hold u hu with hu | rfl
    · exact (h.delivered u hu peer' hpeer').imp_right (List.mem_append_left _)
    · rw [hpeer] at hpeer'
      cases hpeer'
      exact .inl hqueued
  · rw [List.pairwise_append]
    refine ⟨h.ordered, List.pairwise_singleton _ _, ?_⟩
    intro x hx y hy
    rw [List.mem_singleton.mp hy]
    cases x with
    | dispatched ev => exact h.later ev hx _ hqueued
    | sent u =>
      obtain ⟨now, hle, hu⟩ := h.routed u hx
      exact ⟨hnew u hx, fun hfollows => hfollows.key_lt hclock hu hrouted hle (hnew u hx)⟩
    | registered => trivial
    | fired => trivial

/-- The next event is taken off the queue. -/
lemma take (h : Tracks net s journal) {e : Event Pending}
    {heap : BinaryHeap (Event.key : Event Pending → EventKey)}
    (hpop : s.heap.pop = some (e, heap)) (hnow : s.now ≤ e.key.tick) :
    Tracks net (s.advance e heap) (journal ++ [.dispatched e.canonical]) := by
  obtain ⟨-, hperm⟩ := BinaryHeap.pop_eq_some hpop
  have hmem : e ∈ s.heap.toList := hperm.mem_iff.mpr List.mem_cons_self
  have hsent : ∀ t, .sent t ∈ journal ++ [.dispatched e.canonical] → .sent t ∈ journal := by
    intro t ht
    simpa using ht
  refine ⟨h.queued.advance hpop, ?_, ?_, ?_, fun t ht => h.assigned t (hsent t ht), ?_, ?_⟩
  · intro ev hev
    refine ⟨e.key, rfl, ?_, h.queued.assigned e hmem⟩
    rcases List.mem_append.mp hev with hev | hev
    · exact (h.later ev hev e hmem).le
    · cases List.mem_singleton.mp hev
      exact le_rfl
  · intro ev hev e' he'
    rcases List.mem_append.mp hev with hev | hev
    · exact h.later ev hev e' (hperm.mem_iff.mpr (List.mem_cons_of_mem _ he'))
    · cases List.mem_singleton.mp hev
      exact h.queued.lt_of_pop hpop e' he'
  · intro t ht
    obtain ⟨now, hle, hrouted⟩ := h.routed t (hsent t ht)
    exact ⟨now, hle.trans hnow, hrouted⟩
  · intro t ht peer hpeer
    rcases h.delivered t (hsent t ht) peer hpeer with hqueued | hdone
    · rcases List.mem_cons.mp (hperm.mem_iff.mp hqueued) with heq | hrest
      · exact .inr (by rw [heq]; simp)
      · exact .inl hrest
    · exact .inr (List.mem_append_left _ hdone)
  · rw [List.pairwise_append]
    refine ⟨h.ordered, List.pairwise_singleton _ _, ?_⟩
    intro x hx y hy
    rw [List.mem_singleton.mp hy]
    cases x with
    | dispatched ev => exact h.later ev hx e hmem
    | sent => trivial
    | registered => trivial
    | fired => trivial

/-- Observe points are no part of it. -/
lemma quiet (h : Tracks net s journal) {x : Entry} (hsent : ∀ t, x ≠ .sent t)
    (hdispatched : ∀ ev, x ≠ .dispatched ev) : Tracks net s (journal ++ [x]) := by
  have hold : ∀ y, y ∈ journal ++ [x] → y ∈ journal ∨ y = x := by
    intro y hy
    simpa using hy
  have hold_sent : ∀ t, .sent t ∈ journal ++ [x] → .sent t ∈ journal := fun t ht =>
    (hold _ ht).resolve_right (Ne.symm (hsent t))
  have hold_dispatched : ∀ ev, .dispatched ev ∈ journal ++ [x] → .dispatched ev ∈ journal :=
    fun ev hev => (hold _ hev).resolve_right (Ne.symm (hdispatched ev))
  refine ⟨h.queued, fun ev hev => h.cursor ev (hold_dispatched ev hev),
    fun ev hev => h.later ev (hold_dispatched ev hev), fun t ht => h.routed t (hold_sent t ht),
    fun t ht => h.assigned t (hold_sent t ht), ?_, ?_⟩
  · intro t ht peer hpeer
    exact (h.delivered t (hold_sent t ht) peer hpeer).imp_right (List.mem_append_left _)
  · rw [List.pairwise_append]
    refine ⟨h.ordered, List.pairwise_singleton _ _, ?_⟩
    intro y _ z hz
    rw [List.mem_singleton.mp hz]
    cases x with
    | sent t => exact absurd rfl (hsent t)
    | dispatched ev => exact absurd rfl (hdispatched ev)
    | registered => cases y <;> trivial
    | fired => cases y <;> trivial

lemma pending_or_delivered (h : Tracks net s journal) {t : Sent} (ht : .sent t ∈ journal)
    {peer : Peer} (hpeer : net.peerAt (t.sender, t.port) = some peer) :
    (t.event peer ∈ s.heap.toList ∧ ∀ ev, .dispatched ev ∈ journal → ev.key ≠ t.key) ∨
      ∃ before after, journal = before ++ .dispatched (t.event peer).canonical :: after ∧
        .sent t ∈ before ∧ ∀ ev, .dispatched ev ∈ before ++ after → ev.key ≠ t.key := by
  rcases h.delivered t ht peer hpeer with hqueued | hdone
  · exact .inl ⟨hqueued, fun ev hev => (h.later ev hev _ hqueued).ne⟩
  · obtain ⟨before, after, rfl⟩ := List.append_of_mem hdone
    obtain ⟨-, hafter, hacross⟩ := List.pairwise_append.mp h.ordered
    have hlater := (List.pairwise_cons.mp hafter).1
    refine .inr ⟨before, after, rfl, ?_, ?_⟩
    · rcases List.mem_append.mp ht with ht | ht
      · exact ht
      · rcases List.mem_cons.mp ht with ht | ht
        · cases ht
        · exact absurd (hlater _ ht) (lt_irrefl t.key)
    · intro ev hev
      rcases List.mem_append.mp hev with hev | hev
      · exact (hacross _ hev _ List.mem_cons_self).ne
      · exact (hlater _ hev).ne'

lemma in_order (h : Tracks net s journal) {before between after : List Entry} {t u : Sent}
    (hjournal : journal = before ++ .sent t :: (between ++ .sent u :: after))
    (hfollows : u.Follows t) {done rest : List Entry} {ev : CanonicalEvent}
    (hdone : journal = done ++ .dispatched ev :: rest) (hkey : ev.key = u.key) :
    ∃ ev', .dispatched ev' ∈ done ∧ ev'.key = t.key := by
  have ht : .sent t ∈ journal := by simp [hjournal]
  have hev : .dispatched ev ∈ journal := by simp [hdone]
  have hordered := h.ordered
  rw [hjournal] at hordered
  have hlt : t.key < u.key := by
    have hpair := (List.pairwise_cons.mp (List.pairwise_append.mp hordered).2.1).1 (.sent u)
      (by simp)
    exact hpair.2 hfollows
  obtain ⟨now, -, -, peer, tick, hpeer, -⟩ := h.routed t ht
  rcases h.delivered t ht peer hpeer with hqueued | hdelivered
  · have hlater := h.later ev hev _ hqueued
    rw [hkey] at hlater
    exact absurd hlt (lt_asymm hlater)
  · have hordered' := h.ordered
    rw [hdone] at hdelivered hordered'
    rcases List.mem_append.mp hdelivered with hearly | hlate
    · exact ⟨_, hearly, rfl⟩
    · rcases List.mem_cons.mp hlate with heq | hlate
      · cases heq
        exact absurd hkey hlt.ne
      · have hafter := (List.pairwise_cons.mp (List.pairwise_append.mp hordered').2.1).1 _ hlate
        change ev.key < t.key at hafter
        rw [hkey] at hafter
        exact absurd hlt (lt_asymm hafter)

end Tracks

/-! ## Along a component's call -/

/-- A context whose sends, after those in `journal`, account for its queue. -/
structure Ctx.Tracks (net : Runtime C) (journal : List Entry) (ctx : Ctx) : Prop where
  clock : ctx.clock = net.clock
  domains : ctx.domains = net.domains
  peers : ∀ port : PortId, ctx.peers[port.toNat]? = net.peerAt (ctx.me, port)
  tracks : SystemScope.Tracks net ctx.scheduler (journal ++ ctx.sent.map .sent)

lemma Ctx.Tracks.posted (hclock : Contracts.MonotoneClock) {net : Runtime C}
    {journal : List Entry} {ctx ctx' : Ctx} {result : Except SimError Unit}
    (h : ctx.Tracks net journal) (hposted : ctx.Posted result ctx') : ctx'.Tracks net journal := by
  cases hposted with
  | refused => exact h
  | failed => exact { h with }
  | woken when_ phase token tick _ _ ha =>
    have htracks := h.tracks.enqueue ha
      { source := ctx.me, target := ctx.me, delivery := .wake token }
    exact { h with tracks := htracks }
  | sent port msg when_ phase tick peer _ hroute ha =>
    obtain ⟨spec, sent, -, -, hpeer, hsent, htick⟩ := Ctx.route_eq_ok hroute
    rw [h.peers port] at hpeer
    rw [h.clock, h.domains] at hsent htick
    have hqueued := h.tracks.enqueue ha
      { source := ctx.me, target := peer.component, delivery := .message peer.port msg }
    have hnoted := hqueued.note hclock
      (t := ⟨ctx.me, port, msg, when_, phase, ⟨tick, phase, ctx.scheduler.nextSequence⟩⟩) hpeer
      ((ctx.scheduler.enqueue_heap_toList _ _).mem_iff.mpr List.mem_cons_self)
      ⟨rfl, peer, sent, hpeer, hsent, htick⟩ (fun u hu => h.tracks.assigned u hu)
    refine { h with tracks := ?_ }
    simpa [Ctx.note, Ctx.post, Ctx.message] using hnoted

lemma Handler.run_tracks (hclock : Contracts.MonotoneClock) {net : Runtime C}
    {journal : List Entry} (handler : Handler C) {ctx : Ctx} (h : ctx.Tracks net journal) :
    (handler.run ctx).2.2.Tracks net journal :=
  handler.run_induction (fun _ _ _ hctx hposted => hctx.posted hclock hposted)
    (fun _ _ hctx => { hctx with }) (fun _ _ _ hctx => { hctx with }) h

/-! ## Along a run -/

namespace Runtime

/-- The invariant of a session with the topology of `net`. -/
structure Tracked (net rt : Runtime C) : Prop where
  fixed : Fixed net rt
  sized : rt.Sized
  placed : rt.Placed
  not_sent : rt.lifecycle = .elaborated → ∀ t, .sent t ∉ rt.journal
  tracks : Tracks net rt.scheduler rt.journal

variable [Component C] {net rt : Runtime C}

omit [Component C] in
/-- A component's call keeps the journal accounting for the queue. -/
lemma resume_tracks (hclock : Contracts.MonotoneClock) (hfixed : Fixed net rt)
    (h : Tracks net rt.scheduler rt.journal) {me : ComponentId} {at_ : TraceAt} {c : C}
    {ctx : Ctx} (henter : rt.enter me at_ = some (c, ctx)) (handler : Handler C) :
    Tracks net (rt.resume (handler.run ctx)).scheduler (rt.resume (handler.run ctx)).journal := by
  have hctx : ctx.Tracks net rt.journal := by
    obtain ⟨slot, peers, rng, -, -, hpeers, -, rfl⟩ := enter_eq_some.mp henter
    refine ⟨hfixed.clock, hfixed.domains, fun port => ?_, by simpa using h⟩
    rw [peerAt, ← hfixed.peers, hpeers, Option.bind_some]
  exact (handler.run_tracks hclock hctx).tracks

namespace Tracked

lemma dispatch (hclock : Contracts.MonotoneClock) (h : Tracked net rt)
    (hready : rt.lifecycle = .ready) {horizon : Option Tick}
    (hdue : rt.duePoint horizon = none) : Tracked net rt.dispatch.2 := by
  have hfixed := rt.dispatch_fixed
  have hplaced := h.placed.dispatch hready hdue
  have hsized := h.sized.dispatch
  have htake : ∀ e heap, rt.scheduler.heap.pop = some (e, heap) →
      Tracks net (rt.take e heap).scheduler (rt.take e heap).journal := by
    intro e heap hpop
    have hmem : e ∈ rt.scheduler.heap.toList :=
      (BinaryHeap.pop_eq_some hpop).2.mem_iff.mpr List.mem_cons_self
    exact h.tracks.take hpop (h.placed.now_le e hmem)
  have hresume : ∀ e heap, rt.scheduler.heap.pop = some (e, heap) → ∀ c ctx,
      (rt.take e heap).enter e.payload.target (.event e.key) = some (c, ctx) →
      Tracks net ((rt.take e heap).resume (handle e c ctx)).scheduler
        ((rt.take e heap).resume (handle e c ctx)).journal := by
    intro e heap hpop c ctx henter
    have hfixed : Fixed net (rt.take e heap) := { h.fixed with }
    exact resume_tracks hclock hfixed (htake e heap hpop) henter _
  have hspec := rt.dispatch_spec
  have hlifecycle : rt.dispatch.2.lifecycle ≠ .elaborated := by
    generalize rt.dispatch = out at hspec
    cases hspec <;> simp [enterFault, take, absorb, resume, leave, flushRecords, showEvent, hready]
  have htracks : Tracks net rt.dispatch.2.scheduler rt.dispatch.2.journal := by
    generalize rt.dispatch = out at hspec
    cases hspec with
    | drained => exact h.tracks
    | livelock => exact h.tracks
    | unknown e heap hpop => exact htake e heap hpop
    | failed e heap hpop _ c ctx henter => exact hresume e heap hpop c ctx henter
    | handled e heap hpop _ c ctx henter => exact hresume e heap hpop c ctx henter
  exact ⟨h.fixed.trans hfixed, hsized, hplaced, fun helab => absurd helab hlifecycle, htracks⟩

lemma init (hclock : Contracts.MonotoneClock) (h : Tracked net rt)
    (helaborated : rt.lifecycle = .elaborated) :
    Tracked net (rt.initFrom 0 rt.slots.length).2 := by
  have hdone : (rt.initFrom 0 rt.slots.length).2.lifecycle ≠ .elaborated ∧
      Tracks net (rt.initFrom 0 rt.slots.length).2.scheduler
        (rt.initFrom 0 rt.slots.length).2.journal := by
    refine initFrom_induction
      (P := fun r : Runtime C => Fixed rt r ∧ r.Sized ∧ Tracks net r.scheduler r.journal)
      (Q := fun r : Runtime C => r.lifecycle ≠ .elaborated ∧ Tracks net r.scheduler r.journal)
      rt.slots.length 0 ?_ ?_ ?_ ?_ ⟨.refl rt, h.sized, h.tracks⟩
    · rintro r j c ctx ⟨hfixed, hsized, htracks⟩ henter
      exact ⟨{ hfixed with }, hsized.resume _,
        resume_tracks hclock (h.fixed.trans hfixed) htracks henter _⟩
    · exact fun r hr => ⟨by simp, hr.2.2⟩
    · exact fun r e hr => ⟨by simp [enterFault], hr.2.2⟩
    · -- Every component is there.
      rintro r j hj ⟨hfixed, hsized, -⟩ hnone
      rw [Nat.zero_add, ← hfixed.slots] at hj
      have hme : (UInt32.ofNat j).toNat < r.slots.length := by rwa [hsized.toNat_ofNat hj]
      exact absurd hnone (hsized.enter_ne_none hme _)
  exact ⟨h.fixed.trans (rt.initFrom_fixed 0 _), h.sized.initFrom 0 _,
    h.placed.init helaborated 0 _, fun helab => absurd helab hdone.1, hdone.2⟩

/-- A restored session has sent and dispatched nothing. -/
lemma restored (h : Tracked net rt) {bs : Bytes} {out : Except RuntimeError Unit × Runtime C}
    (hrestored : Restored rt bs out) : Tracked net out.2 := by
  have hstep := Step.restore hrestored
  refine ⟨h.fixed.trans hstep.fixed, hstep.sized h.sized, h.placed.restored hrestored, ?_, ?_⟩
  · cases hrestored with
    | refused => exact h.not_sent
    | failed => simp
    | done => simp
  · cases hrestored with
    | refused => exact h.tracks
    | failed => exact h.tracks
    | done helaborated snap scheduler rngs components _ hvalidate =>
      obtain ⟨_, _, _, _, _, _, _, _, _, hrestore⟩ := validate_eq_ok_iff.mp hvalidate
      obtain ⟨haccepts, rfl⟩ := Scheduler.restore_eq_ok_iff.mp hrestore
      have hperm := Scheduler.rebuilt_heap_toList rt.config.scheduler snap.scheduler
      have hsent := h.not_sent helaborated
      have hdispatched := h.placed.not_dispatched helaborated
      exact
        { queued := ⟨(hperm.map _).nodup_iff.mpr haccepts.nodup,
            fun e he => haccepts.assigned e (hperm.mem_iff.mp he),
            fun e he => haccepts.not_observe e (hperm.mem_iff.mp he)⟩
          cursor := fun ev hev => absurd hev (hdispatched ev)
          later := fun ev hev => absurd hev (hdispatched ev)
          routed := fun t ht => absurd ht (hsent t)
          assigned := fun t ht => absurd ht (hsent t)
          delivered := fun t ht => absurd ht (hsent t)
          ordered := h.tracks.ordered }

lemma step (hclock : Contracts.MonotoneClock) {rt' : Runtime C} (hstep : Step rt rt')
    (h : Tracked net rt) : Tracked net rt' := by
  have hfixed := h.fixed.trans hstep.fixed
  have hsized := hstep.sized h.sized
  have hplaced := h.placed.step hstep
  cases hstep with
  | advance hadvance =>
    cases hadvance with
    | fire hready hdue =>
      refine ⟨hfixed, hsized, hplaced, fun helab => ?_, h.tracks.quiet (by simp) (by simp)⟩
      rw [show (rt.firePoint _).2.lifecycle = rt.lifecycle from rfl, hready] at helab
      cases helab
    | dispatch hready hdue => exact h.dispatch hclock hready hdue
    | init helaborated => exact h.init hclock helaborated
    | observeAt tick =>
      refine ⟨hfixed, hsized, hplaced, fun helab t => ?_, h.tracks.quiet (by simp) (by simp)⟩
      simpa [Runtime.observeAt] using h.not_sent helab t
    | addObserver => exact ⟨hfixed, hsized, hplaced, h.not_sent, h.tracks⟩
    | startTrace => exact ⟨hfixed, hsized, hplaced, h.not_sent, h.tracks⟩
    | takeTrace => exact ⟨hfixed, hsized, hplaced, h.not_sent, h.tracks⟩
  | restore hrestored => exact h.restored hrestored
  | resumeTrace => exact ⟨hfixed, hsized, hplaced, h.not_sent, h.tracks⟩

end Tracked

lemma tracked_of_elaborate {b : TopologyBuilder C} {config : SessionConfig} {rt : Runtime C}
    (h : b.elaborate config = .ok rt) : Tracked rt rt := by
  refine ⟨.refl rt, sized_of_elaborate h, placed_of_elaborate h, ?_, ?_⟩
  · obtain ⟨slots, peers, links, -, -, -, rfl⟩ := TopologyBuilder.elaborate_eq_ok h
    simp [fromElaboration]
  · obtain ⟨slots, peers, links, -, -, -, rfl⟩ := TopologyBuilder.elaborate_eq_ok h
    have hqueued := (Scheduler.new_valid (T := Pending) config.scheduler).toQueued
    exact ⟨hqueued, by simp [fromElaboration], by simp [fromElaboration],
      by simp [fromElaboration], by simp [fromElaboration], by simp [fromElaboration],
      by simp [fromElaboration]⟩

omit [Contracts] in
/-- The links of a wired session connect the ports the builder's links name. -/
lemma Wired.connects {b : TopologyBuilder C} (h : rt.Wired b) {port : PortRef} {peer : Peer}
    (hpeer : rt.peerAt port = some peer) : b.Connects port (peer.component, peer.port) := by
  obtain ⟨link, hlink, -, hends⟩ := (h.table port peer).mp hpeer
  obtain ⟨d, hd, helaborates⟩ := h.elaborates link hlink
  obtain ⟨aSpec, bSpec, ha, hb, haname, hbname, -, -⟩ := helaborates.specs
  have hnamea : b.Names d.a link.a :=
    TopologyBuilder.names_iff.mpr ⟨helaborates.components.1, aSpec, ha, haname⟩
  have hnameb : b.Names d.b link.b :=
    TopologyBuilder.names_iff.mpr ⟨helaborates.components.2, bSpec, hb, hbname⟩
  rcases hends with ⟨rfl, hfar⟩ | ⟨rfl, hfar⟩
  · exact ⟨d, hd, .inl ⟨hnamea, hfar ▸ hnameb⟩⟩
  · exact ⟨d, hd, .inr ⟨hnameb, hfar ▸ hnamea⟩⟩

/-! ## The theorem -/

/-- **Links are reliable FIFO channels.**  Along every sequence of calls on an elaborated session,
every message a component sent successfully has one far end: the port that a link of the topology
connects to the port it was sent through, and the only one that a link of the session joins to it.
Its event, from the sender, to that port and with the message unchanged, is pending and was never
dispatched, or it was dispatched exactly once, after the send.  And of two messages sent through
the same port for the current tick and in the same phase, the second is delivered only after the
first. -/
theorem links_are_reliable_fifo_channels (hclock : Contracts.MonotoneClock)
    (b : TopologyBuilder C) (config : SessionConfig) (rt₀ : Runtime C)
    (helaborate : b.elaborate config = .ok rt₀) (calls : List Call) :
    let rt := (Machine.exec call rt₀ calls).2
    (∀ s, .sent s ∈ rt.journal → ∃ far : PortRef, b.Connects (s.sender, s.port) far ∧
      (∀ link ∈ rt.links, ∀ peer, link.Joins (s.sender, s.port) peer →
        (peer.component, peer.port) = far) ∧
      let e : Event Pending := ⟨s.key, s.sender, far.1, .message far.2 s.msg⟩
      (e ∈ rt.scheduler.heap.toList ∧ ∀ ev, .dispatched ev ∈ rt.journal → ev.key ≠ s.key) ∨
        ∃ before after, rt.journal = before ++ .dispatched e.canonical :: after ∧
          .sent s ∈ before ∧ ∀ ev, .dispatched ev ∈ before ++ after → ev.key ≠ s.key) ∧
    ∀ before s between t after,
      rt.journal = before ++ .sent s :: (between ++ .sent t :: after) → t.Follows s →
      ∀ done ev rest, rt.journal = done ++ .dispatched ev :: rest → ev.key = t.key →
        ∃ ev', .dispatched ev' ∈ done ∧ ev'.key = s.key := by
  intro rt
  have htracked : Tracked rt₀ rt := exec_step_invariant
    (fun _ _ hstep h => h.step hclock hstep) (tracked_of_elaborate helaborate) calls
  have hwired := wired_of_elaborate helaborate
  refine ⟨?_, ?_⟩
  · intro s hs
    obtain ⟨now, -, -, peer, tick, hpeer, -⟩ := htracked.tracks.routed s hs
    refine ⟨(peer.component, peer.port), hwired.connects hpeer, ?_, ?_⟩
    · intro link hlink peer' hjoins
      rw [htracked.fixed.links] at hlink
      have hsame := (hwired.table _ _).mpr ⟨link, hlink, hjoins⟩
      rw [hpeer] at hsame
      cases hsame
      rfl
    · exact htracked.tracks.pending_or_delivered hs hpeer
  · intro before s between t after hjournal hfollows done ev rest hdone hkey
    exact htracked.tracks.in_order hjournal hfollows hdone hkey

end Runtime

end

open Exchange in
/-- The request goes to the responder's port, as declared, and is delivered there once. -/
theorem Runtime.links_are_reliable_fifo_channels_exchange :
    ∃ far : PortRef, (topology 1).Connects (0, 0) far ∧
      ∃ before after,
        observed.journal =
          before ++ .dispatched ⟨request.key, 0, far.1, .message far.2 request.msg⟩ :: after ∧
        .sent request ∈ before ∧
        ∀ ev, .dispatched ev ∈ before ++ after → ev.key ≠ request.key := by
  obtain ⟨hlinks, -⟩ := Runtime.links_are_reliable_fifo_channels
    (Canonical.canonical_monotoneClock _) (topology 1) Exchange.config (session 1)
    (elaborate_topology 1) [.init, .observeAt 5000, .run 20000]
  have hsent : .sent request ∈ observed.journal := by simp [observed_journal]
  obtain ⟨far, hconnects, -, ⟨-, hpending⟩ | hdelivered⟩ := hlinks request hsent
  · refine absurd rfl (hpending ⟨request.key, 0, 1, .message 0 request.msg⟩ ?_)
    change _ ∈ observed.journal
    simp [observed_journal]
  · exact ⟨far, hconnects, hdelivered⟩

end SystemScope
