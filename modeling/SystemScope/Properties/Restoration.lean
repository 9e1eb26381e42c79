import SystemScope.Components.Ticker
import SystemScope.Properties.Observation
import SystemScope.Properties.SnapshotCodec
import SystemScope.Properties.Sound

/-!
# Restored sessions go on as the original

A snapshot of a session that restored nothing is accepted by a fresh session of the same topology,
and from there on both run the same simulation: they return the same, dispatch the same events and
take the same snapshots, whatever observe points and observers the original has.  If the original
was traced, its trace is accepted as a prefix, and both end up with the same trace.

The proof puts three parts together: what was encoded is decoded (`decode_snapshotBytes`), what is
decoded passes every check (`Sound.validate_decoded`), and sessions that agree answer alike
(`Agree.call`).
-/

namespace SystemScope

open Contracts

/-! ## The checks of a restore -/

section

variable {C : Type} [Component C]

lemma length_componentEntries (id : ℕ) (components : List C) :
    (componentEntries id components).length = components.length := by
  induction components generalizing id with
  | nil => rfl
  | cons c components ih => rw [componentEntries, List.length_cons, ih, List.length_cons]

lemma inIdOrder_componentEntries (id : ℕ) (components : List C) :
    inIdOrder id (componentEntries id components) := by
  induction components generalizing id with
  | nil => rfl
  | cons c components ih => simp [componentEntries, inIdOrder, ih]

lemma schemaMismatch_componentEntries {declared evolved : List C}
    (hrestores : ∀ c ∈ declared, Component.Restores c)
    (h : List.Forall₂ Component.Evolves declared evolved) (id id' : ℕ) :
    schemaMismatch id declared (componentEntries id' evolved) = none := by
  induction h generalizing id id' with
  | nil => rfl
  | cons hc _ ih =>
    obtain ⟨hfirst, hrest⟩ := List.forall_mem_cons.mp hrestores
    simp [componentEntries, schemaMismatch, (hfirst _ hc).1, ih hrest]

lemma mapM_fromState (rngs : List Xoshiro256StarStar) :
    (rngs.map Xoshiro256StarStar.state).mapM Xoshiro256StarStar.fromState = some rngs := by
  induction rngs with
  | nil => rfl
  | cons rng rngs ih =>
    rw [List.map_cons, List.mapM_cons, Xoshiro256StarStar.fromState_state, ih]
    rfl

variable [Contracts]

lemma restoreComponents_componentEntries (hlawful : Lawful) {declared evolved : List C}
    (hrestores : ∀ c ∈ declared, Component.Restores c)
    (h : List.Forall₂ Component.Evolves declared evolved) (id : ℕ) :
    restoreComponents declared (componentEntries id evolved) = (.ok (), evolved) := by
  induction h generalizing id with
  | nil => rfl
  | cons hc _ ih =>
    obtain ⟨hfirst, hrest⟩ := List.forall_mem_cons.mp hrestores
    simp only [componentEntries, restoreComponents, (hfirst _ hc).2, hlawful.finish, ih hrest]

lemma domainFields_of_encode (hlawful : Lawful) {domains : List ClockDomain} {b : Bytes}
    (h : encodeClockDomains domains = some b) :
    domainFields domains = some (domains.map ClockDomain.fields) := by
  have hall := (decodes_clockDomains hlawful h).2 []
  rw [List.append_nil] at hall
  simp [domainFields, h, hall]

namespace Runtime

lemma decoded_scheduler (rt : Runtime C) : rt.decoded.scheduler = rt.scheduler.snapshot := by
  have hqueue : ∀ queue : List (Event Pending), (queue.map Event.canonical).map
      (fun ev => (⟨ev.key, ⟨ev.source, ev.target, ev.delivery⟩⟩ : Event Pending)) = queue := by
    intro queue
    rw [List.map_map]
    exact List.map_id queue
  simp only [Decoded.scheduler, decoded, hqueue]
  rfl

/-- The snapshot of a sound session passes every check. -/
lemma Sound.validate_decoded (hlawful : Lawful) {rt₀ rt : Runtime C}
    (hrestores : ∀ c ∈ rt₀.components, Component.Restores c) (h : Sound rt₀ rt) {bs : Bytes}
    (hbs : rt.snapshotBytes = some bs) :
    ∃ scheduler, rt₀.validate rt.decoded = .ok (scheduler, rt.rngs) ∧
      Scheduler.Same rt.scheduler scheduler := by
  obtain ⟨scheduler, hrestore, hsame⟩ :=
    h.valid.restore_snapshot (List.Perm.refl rt.scheduler.snapshot.queue)
  refine ⟨scheduler, validate_eq_ok_iff.mpr ⟨?_, ?_, ?_, ?_, ?_, ?_, ?_, ?_, ?_, ?_⟩, hsame⟩
  · obtain ⟨b, hb⟩ : ∃ b, encodeClockDomains rt.domains = some b :=
      Coder.exists_of_mem_concat hbs (by simp)
    have hdomains := domainFields_of_encode hlawful hb
    rw [h.fixed.domains] at hdomains
    simp [sessionMismatch, decoded, h.fixed.config, h.fixed.clock, h.fixed.domains, hdomains]
  · exact h.fixed.topologyHash
  · exact schemaMismatch_componentEntries hrestores h.evolves 0 0
  · exact (length_componentEntries 0 _).trans h.evolves.length_eq.symm
  · change (rt.rngs.map _).length = _
    rw [List.length_map, h.sized.rngs, ← h.sized.components, h.evolves.length_eq]
  · exact inIdOrder_componentEntries 0 _
  · exact mapM_fromState rt.rngs
  · exact h.digest
  · refine forM_eq_ok_iff.mpr fun ev hev => ?_
    obtain ⟨e, he, rfl⟩ := List.mem_map.mp hev
    exact h.events e ((Scheduler.sortByKey_perm _).mem_iff.mp he)
  · rw [decoded_scheduler, ← h.config]
    exact hrestore

/-- A fresh session of the same topology restores it, and agrees with it from then on. -/
lemma Sound.restore (hlawful : Lawful) {rt₀ rt : Runtime C}
    (hrestores : ∀ c ∈ rt₀.components, Component.Restores c) (h : Sound rt₀ rt)
    (helaborated : rt₀.lifecycle = .elaborated)
    (huntraced : rt₀.trace = none) {bs : Bytes} (hbs : rt.snapshotBytes = some bs) :
    ∃ scheduler, Scheduler.Same rt.scheduler scheduler ∧
      rt₀.restore bs = (.ok (), { rt₀ with
        components := rt.components, scheduler, rngs := rt.rngs
        executionDigest := rt.executionDigest, lifecycle := .ready, freshlyRestored := true }) := by
  obtain ⟨scheduler, hvalidate, hsame⟩ := Sound.validate_decoded hlawful hrestores h hbs
  have hcomponents := restoreComponents_componentEntries hlawful hrestores h.evolves 0
  refine ⟨scheduler, hsame, ?_⟩
  have hrequire : rt₀.require .elaborated = .ok () := by
    rw [require, helaborated]
    rfl
  have htry : rt₀.tryRestore bs = (.ok (), { rt₀ with
      components := rt.components, scheduler, rngs := rt.rngs
      executionDigest := rt.executionDigest }) := by
    rw [tryRestore, decode_snapshotBytes hlawful hbs]
    simp only [hvalidate]
    rw [show rt.decoded.components = componentEntries 0 rt.components from rfl, hcomponents]
    rfl
  simp only [Runtime.restore, hrequire, huntraced, htry, Option.isSome_none, Bool.false_eq_true,
    if_false]

/-! ## Sessions that agree answer alike -/

/-- Whether a call goes on with the simulation and leaves what is attached to the session alone.
A `run` is one of these if nobody is there to pause it. -/
def Call.continues (unpausing : Prop) : Call → Prop
  | .step => True
  | .run _ => unpausing
  | .runUntil _ => True
  | .snapshot => True
  | .observeAt _ => True
  | _ => False

omit [Contracts] in
lemma Call.continues_mono {U V : Prop} (h : U → V) {c : Call} (hc : c.continues U) :
    c.continues V := by
  cases c with
  | run until_ => exact h hc
  | _ => exact hc

omit [Contracts] in
/-- A firing pass is not part of the simulation. -/
lemma Agree.fireObservePoints {S : Scheduler Pending → Scheduler Pending → Prop} {W : Prop}
    {p p' : List CanonicalEvent} {rt rt' : Runtime C} (h : Agree S W False p p' rt rt')
    (horizon : Option Tick) (stopOnPause : Bool) :
    Agree S W False p p' (rt.fireObservePoints horizon stopOnPause).2
      (rt'.fireObservePoints horizon stopOnPause).2 := by
  have hleft : Agree S W False p p' (rt.fireObservePoints horizon stopOnPause).2 rt' :=
    fireLoop_induction (P := fun r => Agree S W False p p' r rt')
      (fun r point hr _ => hr.firePoint_left point) stopOnPause .continue_ h
  exact fireLoop_induction
    (P := fun r => Agree S W False p p' (rt.fireObservePoints horizon stopOnPause).2 r)
    (fun r point hr _ => hr.firePoint_right point) stopOnPause .continue_ hleft

omit [Contracts] in
lemma Attached.fireObservePoints (rt : Runtime C) (horizon : Option Tick) (stopOnPause : Bool) :
    Attached rt (rt.fireObservePoints horizon stopOnPause).2 :=
  fireLoop_induction (P := fun r => Attached rt r)
    (fun r point hr _ => hr.trans (.firePoint r point)) stopOnPause .continue_ (.refl rt)

/-- Nothing that goes on with the simulation detaches anything. -/
lemma Attached.call (rt : Runtime C) {c : Call} (hc : c.continues rt.Unpausing) :
    Attached rt (rt.call c).2 := by
  cases c with
  | step =>
    simp only [Runtime.call, Prod.map_snd, id]
    unfold Runtime.step
    cases rt.require .ready with
    | error e => exact .refl rt
    | ok u =>
      have hfired := fireObservePoints rt none false
      simp only
      generalize (rt.fireObservePoints none false).2 = r at hfired
      have hdispatched := hfired.trans (dispatch r)
      rcases hdispatch : r.dispatch with ⟨e | _ | ⟨ev, control⟩, r'⟩
      · rwa [hdispatch] at hdispatched
      · rwa [hdispatch] at hdispatched
      · rw [hdispatch] at hdispatched
        exact hdispatched.trans (fireObservePoints r' none false)
  | run until_ =>
    simp only [Runtime.call, Prod.map_snd, id, Runtime.run]
    cases rt.require .ready with
    | error e => exact .refl rt
    | ok u =>
      simp only [runLoop_of_unpausing until_ hc]
      exact driveLoop until_ 0 rt
  | runUntil until_ =>
    simp only [Runtime.call, Prod.map_snd, id]
    rcases rt.require_ready_cases with hready | ⟨e, hrefused⟩
    · rw [runUntil_eq_driveLoop hready]
      exact driveLoop until_ 0 rt
    · rw [runUntil_of_require hrefused]
      exact .refl rt
  | snapshot => exact .refl rt
  | observeAt tick => exact ⟨rfl, rfl⟩
  | _ => exact hc.elim

section

variable {S : Scheduler Pending → Scheduler Pending → Prop} {W : Prop}
  {p p' : List CanonicalEvent} {rt rt' : Runtime C} (hS : Scheduler.Indistinguishable S)

include hS

lemma Agree.step (h : Agree S W False p p' rt rt') :
    rt'.step.1 = rt.step.1 ∧ Agree S W False p p' rt.step.2 rt'.step.2 := by
  unfold Runtime.step
  rw [h.require]
  cases rt.require .ready with
  | error e => exact ⟨rfl, h⟩
  | ok u =>
    have hfired := h.fireObservePoints none false
    simp only
    generalize (rt.fireObservePoints none false).2 = r at hfired
    generalize (rt'.fireObservePoints none false).2 = r' at hfired
    obtain ⟨hresult, hnext⟩ := hfired.dispatch hS
    rcases hdispatch : r.dispatch with ⟨e | _ | ⟨ev, control⟩, r₁⟩
    · obtain ⟨r₁', hdispatch', hagree⟩ := hfired.dispatch_of_error hS hdispatch
      rw [hdispatch']
      exact ⟨rfl, hagree⟩
    · rw [hdispatch] at hresult hnext
      rcases hdispatch' : r'.dispatch with ⟨e' | _ | ⟨ev', control'⟩, r₁'⟩
      · rw [hdispatch'] at hresult
        cases hresult
      · rw [hdispatch'] at hnext
        exact ⟨rfl, hnext⟩
      · rw [hdispatch'] at hresult
        cases hresult
    · obtain ⟨control', r₁', hdispatch', hagree⟩ := hfired.dispatch_of_some hS hdispatch
      rw [hdispatch']
      exact ⟨rfl, hagree.fireObservePoints none false⟩

lemma Agree.run (until_ : Tick) (h : Agree S W False p p' rt rt') (hrt : rt.Unpausing)
    (hrt' : rt'.Unpausing) :
    (rt'.run until_).1 = (rt.run until_).1 ∧
      Agree S W False p p' (rt.run until_).2 (rt'.run until_).2 := by
  unfold Runtime.run
  rw [h.require]
  cases rt.require .ready with
  | error e => exact ⟨rfl, h⟩
  | ok u =>
    simp only [runLoop_of_unpausing until_ hrt, runLoop_of_unpausing until_ hrt']
    exact driveLoop_agree hS until_ h 0

omit [Contracts] [Component C] hS in
lemma Agree.observeAt (h : Agree S W False p p' rt rt') (tick : Tick) :
    Agree S W False p p' (rt.observeAt tick) (rt'.observeAt tick) := by
  have hhistory : ∀ rt : Runtime C, (rt.observeAt tick).history = rt.history := by
    intro rt
    simp [Runtime.history, Runtime.observeAt]
  obtain ⟨hist, hl, hr⟩ := h.history
  exact { h with history := ⟨hist, (hhistory _).trans hl, (hhistory _).trans hr⟩ }

/-- Sessions that agree answer alike, and agree afterwards. -/
lemma Agree.call (h : Agree S W False p p' rt rt') {U : Prop} (hU : U → rt.Unpausing)
    (hU' : U → rt'.Unpausing) {c : Call} (hc : c.continues U) :
    (rt'.call c).1 = (rt.call c).1 ∧ Agree S W False p p' (rt.call c).2 (rt'.call c).2 := by
  cases c with
  | step =>
    obtain ⟨hresult, hagree⟩ := h.step hS
    exact ⟨congrArg Reply.stepped hresult, hagree⟩
  | run until_ =>
    obtain ⟨hresult, hagree⟩ := h.run hS until_ (hU hc) (hU' hc)
    exact ⟨congrArg Reply.ran hresult, hagree⟩
  | runUntil until_ =>
    obtain ⟨hresult, hagree⟩ := h.runUntil hS until_
    exact ⟨congrArg Reply.ranUntil hresult, hagree⟩
  | snapshot => exact ⟨congrArg Reply.snapshot (h.snapshot hS), h⟩
  | observeAt tick => exact ⟨rfl, h.observeAt tick⟩
  | _ => exact hc.elim

lemma Agree.exec (h : Agree S W False p p' rt rt') (hrt' : rt'.Unpausing) {later : List Call}
    (hlater : ∀ c ∈ later, c.continues rt.Unpausing) :
    (Machine.exec Runtime.call rt' later).1 = (Machine.exec Runtime.call rt later).1 ∧
      Agree S W False p p' (Machine.exec Runtime.call rt later).2
        (Machine.exec Runtime.call rt' later).2 ∧
      Attached rt (Machine.exec Runtime.call rt later).2 := by
  have hstep : ∀ r r', ∀ c ∈ later,
      Agree S W False p p' r r' ∧ Attached rt r ∧ Attached rt' r' →
      (r.call c).1 = (r'.call c).1 ∧ Agree S W False p p' (r.call c).2 (r'.call c).2 ∧
        Attached rt (r.call c).2 ∧ Attached rt' (r'.call c).2 := by
    rintro r r' c hc ⟨hr, hattached, hattached'⟩
    have hunpausing : rt.Unpausing → r.Unpausing := fun hrt => hrt.of_attached hattached
    have hunpausing' : r'.Unpausing := hrt'.of_attached hattached'
    obtain ⟨hreply, hnext⟩ := hr.call hS hunpausing (fun _ => hunpausing') (hlater c hc)
    refine ⟨hreply.symm, hnext, hattached.trans (.call r ?_), hattached'.trans (.call r' ?_)⟩
    · exact Call.continues_mono hunpausing (hlater c hc)
    · exact Call.continues_mono (fun _ => hunpausing') (hlater c hc)
  obtain ⟨hreplies, hagree, hattached, -⟩ :=
    Machine.exec_simulation hstep ⟨h, .refl rt, .refl rt'⟩
  exact ⟨hreplies.symm, hagree, hattached⟩

end

/-! ## The theorems -/

lemma snapshotBytes_of_snapshot {rt : Runtime C} {bs : Bytes} (hbs : rt.snapshot = .ok bs) :
    rt.lifecycle = .ready ∧ rt.snapshotBytes = some bs := by
  unfold snapshot at hbs
  split at hbs
  next => cases hbs
  next hrequire =>
    split at hbs
    next => cases hbs
    next hsome => exact ⟨lifecycle_of_require hrequire, by rw [hsome, Except.ok.inj hbs]⟩

lemma exec_restore (hlawful : Lawful) {b : TopologyBuilder C}
    (hrestores : ∀ d ∈ b.components, Component.Restores d.component) {config : SessionConfig}
    {rt₀ rt : Runtime C} (helaborate : b.elaborate config = .ok rt₀)
    (hsound : Sound rt₀ rt) {bs : Bytes} (hbs : rt.snapshot = .ok bs) :
    ∃ r, rt₀.restore bs = (.ok (), r) ∧ r.lifecycle = .ready ∧ r.freshlyRestored = true ∧
      r.emitted = [] ∧ r.Unpausing ∧ Agree Scheduler.Same False False rt.history [] rt r := by
  obtain ⟨hready, hbytes⟩ := snapshotBytes_of_snapshot hbs
  have hfault := hsound.fault (by simp [hready])
  have hfixed := hsound.fixed
  obtain ⟨slots, peers, links, hslots, -, -, rfl⟩ := TopologyBuilder.elaborate_eq_ok helaborate
  have hdeclared : ∀ c ∈ slots.map Slot.component, Component.Restores c := by
    rw [(slots_of_foldlM hslots).1, List.forall_mem_map, List.forall_mem_map]
    exact hrestores
  obtain ⟨scheduler, hsame, hrestore⟩ := Sound.restore hlawful hdeclared hsound rfl rfl hbytes
  refine ⟨_, hrestore, rfl, rfl, rfl, unpausing_of_nil rfl, ?_⟩
  exact ⟨hfixed.clock.symm, hfixed.domains.symm, rfl, rfl, hfixed.slots.symm, hfixed.peers.symm,
    hfixed.links.symm, hfixed.topologyHash.symm, hfixed.config.symm, hsame, rfl, hready.symm,
    hfault.symm, ⟨[], by simp, rfl⟩, False.elim, False.elim, False.elim, False.elim⟩

omit [Component C] in
lemma Agree.traceHeader {S : Scheduler Pending → Scheduler Pending → Prop} {W O : Prop}
    {p p' : List CanonicalEvent} {rt rt' : Runtime C} (h : Agree S W O p p' rt rt') :
    rt'.traceHeader = rt.traceHeader := by
  simp only [Runtime.traceHeader, h.clock, h.config, h.topologyHash, h.domains, h.slots, h.links]

/-- How a restored session and the original stand at the same point, when the original had
dispatched `before` at the snapshot. -/
structure SameContinuation (before : List CanonicalEvent) (rt r : Runtime C) : Prop where
  history : rt.history = before ++ r.history
  executionDigest : r.executionDigest = rt.executionDigest
  snapshot : r.snapshot = rt.snapshot
  lifecycle : r.lifecycle = rt.lifecycle
  fault : r.fault = rt.fault

lemma Agree.sameContinuation {W O : Prop} {before : List CanonicalEvent} {rt r : Runtime C}
    (h : Agree Scheduler.Same W O before [] rt r) : SameContinuation before rt r where
  history := by
    obtain ⟨hist, hl, hr⟩ := h.history
    rw [hl, hr, List.nil_append]
  executionDigest := h.executionDigest
  snapshot := h.snapshot .same
  lifecycle := h.lifecycle
  fault := h.fault

/-- **Snapshots are transparent.**  For every topology, every session that restored nothing and
every snapshot it takes: a fresh session of the same topology and settings accepts the snapshot
and takes the same snapshot itself.  From there on, whatever is called, both return the same,
dispatch the same events, reach the same digests and snapshots, and fault with the same error at
the same event. -/
theorem snapshot_restore_transparent (hlawful : Lawful) (b : TopologyBuilder C)
    (hrestores : ∀ d ∈ b.components, Component.Restores d.component) (config : SessionConfig)
    (rt₀ : Runtime C) (helaborate : b.elaborate config = .ok rt₀) (calls : List Call)
    (hcalls : ∀ c ∈ calls, c.advances) (bs : Bytes)
    (hbs : (Machine.exec call rt₀ calls).2.snapshot = .ok bs) :
    let rt := (Machine.exec call rt₀ calls).2
    ∃ r, rt₀.restore bs = (.ok (), r) ∧ r.snapshot = .ok bs ∧
      ∀ later, (∀ c ∈ later, c.continues rt.Unpausing) →
        (Machine.exec call r later).1 = (Machine.exec call rt later).1 ∧
        SameContinuation rt.history (Machine.exec call rt later).2
          (Machine.exec call r later).2 := by
  intro rt
  obtain ⟨hsound, -⟩ := exec_sound helaborate hcalls
  obtain ⟨r, hrestore, -, -, -, hunpausing, hagree⟩ :=
    exec_restore hlawful hrestores helaborate hsound hbs
  refine ⟨r, hrestore, (hagree.snapshot .same).trans hbs, fun later hlater => ?_⟩
  obtain ⟨hreplies, hnext, -⟩ := hagree.exec .same hunpausing hlater
  exact ⟨hreplies, hnext.sameContinuation⟩

end Runtime

end

open Exchange Canonical Ticker in
/-- The ticker in the middle of a tick, restored, goes on like the original. -/
theorem Runtime.snapshot_restore_transparent_ticker : ticking.components.map handled = [3] ∧
    ∃ bs r, ticking.snapshot = .ok bs ∧ session.restore bs = (.ok (), r) ∧ r.snapshot = .ok bs ∧
      (Machine.exec Runtime.call r [.step, .run 20000]).1 =
        (Machine.exec Runtime.call ticking [.step, .run 20000]).1 := by
  obtain ⟨bs, hbs⟩ := ticking_snapshot
  obtain ⟨r, hrestore, hsnapshot, hlater⟩ := Runtime.snapshot_restore_transparent
    (canonical_lawful _) topology (fun d _ => restores snapshotFields_strict d.component)
    Ticker.config session elaborate_topology [.startTrace, .init, .step, .step, .step] (by decide)
    bs hbs
  have hcontinues : ∀ c ∈ [Runtime.Call.step, .run 20000], c.continues ticking.Unpausing := by
    simp [Runtime.Call.continues, Runtime.unpausing_of_nil ticking_observers]
  exact ⟨ticking_handled, bs, r, hbs, hrestore, hsnapshot, (hlater _ hcontinues).1⟩

section

variable {C : Type} [Component C] [Contracts]

namespace Runtime

lemma Sound.resumeTrace {rt₀ rt r : Runtime C} (hsound : Sound rt₀ rt) (hnil : rt.emitted = [])
    (hagree : Agree Scheduler.Same False False rt.history [] rt r) (hready : r.lifecycle = .ready)
    (hfresh : r.freshlyRestored = true) (hemitted : r.emitted = []) {before : Trace}
    (hbefore : rt.takeTrace.1 = some before) :
    r.resumeTrace before =
        (.ok (), { r with trace := some before.records, freshlyRestored := false }) ∧
      Agree Scheduler.Same True False rt.history [] rt
        { r with trace := some before.records, freshlyRestored := false } := by
  obtain ⟨records, htrace, rfl⟩ := Option.map_eq_some_iff.mp hbefore
  constructor
  · have hcheck := hsound.trace records htrace
    rw [hnil, List.append_nil, ← hsound.fixed.slots] at hcheck
    have hlast := Scheduler.Indistinguishable.same.lastDispatched hagree.scheduler
    have hprefix : checkPrefix records r.slots.length r.scheduler.lastDispatched
        r.executionDigest = .ok () := by
      simp [checkPrefix, hagree.slots, hcheck, hlast, hagree.executionDigest]
    have hstate : ¬(r.lifecycle ≠ .ready ∨ (!r.freshlyRestored) = true) := by
      simp [hready, hfresh]
    simp only [Runtime.resumeTrace, if_neg hstate, hagree.traceHeader, ne_eq, not_true_eq_false,
      if_false, hprefix]
  · exact
      { hagree with
        trace := fun _ => htrace.symm
        emitted := fun _ => hemitted.trans hnil.symm
        capturing := fun _ => by simp [capturing, htrace]
        seen := fun _ => False.elim }

/-- **Traces continue across a restore.**  For every traced session that restored nothing, at
every point where it takes a snapshot: a fresh session that restores the snapshot accepts the
trace recorded so far, and after every continuation both have recorded the same trace. -/
theorem trace_continues_across_restore (hlawful : Lawful) (b : TopologyBuilder C)
    (hrestores : ∀ d ∈ b.components, Component.Restores d.component) (config : SessionConfig)
    (rt₀ : Runtime C) (helaborate : b.elaborate config = .ok rt₀) (calls : List Call)
    (hcalls : ∀ c ∈ calls, c.advances) (bs : Bytes)
    (hbs : (Machine.exec call rt₀ calls).2.snapshot = .ok bs) (before : Trace)
    (hbefore : (Machine.exec call rt₀ calls).2.takeTrace.1 = some before) :
    let rt := (Machine.exec call rt₀ calls).2
    ∃ r r', rt₀.restore bs = (.ok (), r) ∧ r.resumeTrace before = (.ok (), r') ∧
      ∀ later, (∀ c ∈ later, c.continues rt.Unpausing) →
        (Machine.exec call r' later).1 = (Machine.exec call rt later).1 ∧
        ∃ trace, (Machine.exec call rt later).2.takeTrace.1 = some trace ∧
          (Machine.exec call r' later).2.takeTrace.1 = some trace := by
  intro rt
  obtain ⟨hsound, hnil⟩ := exec_sound helaborate hcalls
  obtain ⟨r, hrestore, hready, hfresh, hemitted, hunpausing, hagree⟩ :=
    exec_restore hlawful hrestores helaborate hsound hbs
  obtain ⟨hresume, hresumed⟩ :=
    hsound.resumeTrace hnil hagree hready hfresh hemitted hbefore
  refine ⟨r, _, hrestore, hresume, fun later hlater => ?_⟩
  obtain ⟨hreplies, hnext, hattached⟩ := hresumed.exec .same hunpausing hlater
  refine ⟨hreplies, ?_⟩
  obtain ⟨records, htrace, -⟩ := Option.map_eq_some_iff.mp hbefore
  obtain ⟨final, hfinal⟩ : ∃ final, (Machine.exec call rt later).2.trace = some final := by
    rw [← Option.isSome_iff_exists, hattached.traced, htrace, Option.isSome_some]
  have htaken : (Machine.exec call rt later).2.takeTrace.1 =
      some ⟨(Machine.exec call rt later).2.traceHeader, final⟩ := by
    rw [takeTrace, hfinal, Option.map_some]
  refine ⟨_, htaken, ?_⟩
  rw [takeTrace, hnext.trace trivial, hnext.traceHeader]
  exact htaken

end Runtime

end

open Exchange Canonical Ticker in
/-- The ticker in the middle of a tick, restored and traced on, ends with the same trace. -/
theorem Runtime.trace_continues_across_restore_ticker :
    ∃ bs before r r' trace, ticking.snapshot = .ok bs ∧
      ticking.takeTrace.1 = some before ∧ session.restore bs = (.ok (), r) ∧
      r.resumeTrace before = (.ok (), r') ∧
      (Machine.exec Runtime.call ticking [.run 20000]).2.takeTrace.1 = some trace ∧
      (Machine.exec Runtime.call r' [.run 20000]).2.takeTrace.1 = some trace := by
  obtain ⟨bs, hbs⟩ := ticking_snapshot
  obtain ⟨before, hbefore⟩ := ticking_trace
  obtain ⟨r, r', hrestore, hresume, hlater⟩ := Runtime.trace_continues_across_restore
    (canonical_lawful _) topology (fun d _ => restores snapshotFields_strict d.component)
    Ticker.config session elaborate_topology [.startTrace, .init, .step, .step, .step] (by decide)
    bs hbs before hbefore
  have hcontinues : ∀ c ∈ [Runtime.Call.run 20000], c.continues ticking.Unpausing := by
    simp [Runtime.Call.continues, Runtime.unpausing_of_nil ticking_observers]
  obtain ⟨-, trace, htrace, htrace'⟩ := hlater [.run 20000] hcontinues
  exact ⟨bs, before, r, r', trace, hbs, hbefore, hrestore, hresume, htrace, htrace'⟩

end SystemScope
