import Mathlib.Logic.Relation
import SystemScope.Framework.Runs
import SystemScope.Properties.SchedulerSnapshot
import SystemScope.Properties.Wiring
import SystemScope.Runtime.Topology

/-!
# What a session can do

Every call on a session is a sequence of a few kinds of steps: a due observe point fires, an event
is dispatched while no point is due, the components are initialized, or the driver changes what
only it can see.  `Advance` lists them, and `call_advance` says that a call makes no others.
Restoring a snapshot and resuming a trace are kept apart (`Step`), since most sessions do
neither.

An invariant of the steps is then an invariant of every run (`exec_step_invariant`).  What a
component does within a step goes through its context, whose calls `Handler.run_induction`
lists.
-/

namespace SystemScope

open Relation

/-- A component's call enqueues events at or after the current tick, and dispatches nothing. -/
lemma Handler.run_queue [Contracts] {C : Type} (h : Handler C) (ctx : Ctx) :
    (h.run ctx).2.2.scheduler.lastDispatched = ctx.scheduler.lastDispatched ∧
      ∀ e ∈ (h.run ctx).2.2.scheduler.heap.toList,
        e ∈ ctx.scheduler.heap.toList ∨ ctx.scheduler.now ≤ e.key.tick := by
  have henqueue : ∀ (c : Ctx) (tick : Tick) (phase : Phase) (pending : Pending),
      c.scheduler.Admits tick phase →
      (c.scheduler.lastDispatched = ctx.scheduler.lastDispatched ∧
        ∀ e ∈ c.scheduler.heap.toList,
          e ∈ ctx.scheduler.heap.toList ∨ ctx.scheduler.now ≤ e.key.tick) →
      ∀ e ∈ (c.scheduler.enqueue (c.scheduler.nextSequence + 1)
        ⟨⟨tick, phase, c.scheduler.nextSequence⟩, pending⟩).heap.toList,
        e ∈ ctx.scheduler.heap.toList ∨ ctx.scheduler.now ≤ e.key.tick := by
    intro c tick phase pending ha hc e he
    rcases List.mem_cons.mp ((c.scheduler.enqueue_heap_toList _ _).mem_iff.mp he) with rfl | he
    · have hnow : c.scheduler.now = ctx.scheduler.now := by
        rw [Scheduler.now, Scheduler.now, hc.1]
      exact .inr (hnow ▸ ha.now_le)
    · exact hc.2 e he
  refine h.run_induction (P := fun c => c.scheduler.lastDispatched =
    ctx.scheduler.lastDispatched ∧ ∀ e ∈ c.scheduler.heap.toList,
      e ∈ ctx.scheduler.heap.toList ∨ ctx.scheduler.now ≤ e.key.tick) ?_ ?_ ?_
    ⟨rfl, fun _ he => .inl he⟩
  · intro c result c' hc hposted
    cases hposted with
    | refused => exact hc
    | failed => exact hc
    | sent _ _ _ _ _ _ _ _ ha => exact ⟨hc.1, henqueue c _ _ _ ha hc⟩
    | woken _ _ _ _ _ _ ha => exact ⟨hc.1, henqueue c _ _ _ ha hc⟩
  · exact fun _ _ hc => hc
  · exact fun _ _ _ hc => hc

namespace Runtime

variable {C : Type} [Contracts] [Component C]

/-! ## Steps -/

/-- One step of a session that neither restores a snapshot nor resumes a trace. -/
inductive Advance : Runtime C → Runtime C → Prop
  | fire {rt : Runtime C} {horizon : Option Tick} {point : Tick} (hready : rt.lifecycle = .ready)
      (hdue : rt.duePoint horizon = some point) : Advance rt (rt.firePoint point).2
  | dispatch {rt : Runtime C} {horizon : Option Tick} (hready : rt.lifecycle = .ready)
      (hdue : rt.duePoint horizon = none) : Advance rt rt.dispatch.2
  | init {rt : Runtime C} (helaborated : rt.lifecycle = .elaborated) :
      Advance rt (rt.initFrom 0 rt.slots.length).2
  | observeAt (rt : Runtime C) (tick : Tick) : Advance rt (rt.observeAt tick)
  | addObserver (rt : Runtime C) (observer : Observer) : Advance rt (rt.addObserver observer)
  | startTrace {rt : Runtime C} (helaborated : rt.lifecycle = .elaborated) :
      Advance rt { rt with trace := some [] }
  | takeTrace (rt : Runtime C) : Advance rt { rt with trace := none }

/-- Everything a restore can do. -/
inductive Restored (rt : Runtime C) (bs : Bytes) : Except RuntimeError Unit × Runtime C → Prop
  | refused (e : RuntimeError) : Restored rt bs (.error e, rt)
  | failed (e : RestoreError) (components : List C)
      (hlength : components.length = rt.components.length) :
      Restored rt bs (.error (.restore e), { rt with components, lifecycle := .faulted })
  | done (helaborated : rt.lifecycle = .elaborated) (snap : Decoded)
      (scheduler : Scheduler Pending) (rngs : List Xoshiro256StarStar) (components : List C)
      (hdecode : decode bs = .ok snap) (hvalidate : rt.validate snap = .ok (scheduler, rngs))
      (hcomponents : restoreComponents rt.components snap.components = (.ok (), components)) :
      Restored rt bs (.ok (),
        { rt with components, scheduler, rngs, executionDigest := snap.executionDigest
                  lifecycle := .ready, freshlyRestored := true })

/-- One step of a session. -/
inductive Step : Runtime C → Runtime C → Prop
  | advance {rt rt' : Runtime C} (h : Advance rt rt') : Step rt rt'
  | restore {rt : Runtime C} {bs : Bytes} {out : Except RuntimeError Unit × Runtime C}
      (h : Restored rt bs out) : Step rt out.2
  | resumeTrace (rt : Runtime C) (records : List TraceRecord) :
      Step rt { rt with trace := some records, freshlyRestored := false }

omit [Contracts] [Component C] in
lemma lifecycle_of_require {rt : Runtime C} {state : Lifecycle} (h : rt.require state = .ok ()) :
    rt.lifecycle = state := by
  unfold require at h
  split at h
  · cases h
  · split_ifs at h with hne
    exact not_not.mp hne

/-- Restoring components neither adds nor removes any. -/
lemma length_restoreComponents (components : List C) (entries : List ComponentEntry) :
    (restoreComponents components entries).2.length = components.length := by
  induction components generalizing entries with
  | nil => simp [restoreComponents]
  | cons c components ih =>
    cases entries with
    | nil => rfl
    | cons entry entries =>
      obtain ⟨id, schema, state⟩ := entry
      simp only [restoreComponents]
      rcases Component.restore c state schema with ⟨c', e | rest⟩
      · rfl
      · dsimp only
        cases Contracts.finish rest with
        | error e => rfl
        | ok u => simp [ih]

lemma restore_spec (rt : Runtime C) (bs : Bytes) : Restored rt bs (rt.restore bs) := by
  unfold restore
  cases hrequire : rt.require .elaborated with
  | error e => exact .refused e
  | ok u =>
    by_cases htrace : rt.trace.isSome
    · simp only [if_pos htrace]
      exact .refused _
    · simp only [if_neg htrace, tryRestore]
      cases hdecode : decode bs with
      | error e => exact .failed e rt.components rfl
      | ok snap =>
        dsimp only
        cases hvalidate : rt.validate snap with
        | error e => exact .failed e rt.components rfl
        | ok r =>
          obtain ⟨scheduler, rngs⟩ := r
          dsimp only
          rcases hcomponents : restoreComponents rt.components snap.components with
            ⟨e | u, components⟩
          · have hlength := length_restoreComponents rt.components snap.components
            rw [hcomponents] at hlength
            exact .failed e components hlength
          · exact .done (lifecycle_of_require hrequire) snap scheduler rngs components hdecode
              hvalidate hcomponents

/-! ## Calls are made of steps -/

/-- A firing pass leaves nothing due, or stopped at a pause. -/
lemma fireObservePoints_advance {rt : Runtime C} (hready : rt.lifecycle = .ready)
    (horizon : Option Tick) (stopOnPause : Bool) :
    ReflTransGen Advance rt (rt.fireObservePoints horizon stopOnPause).2 ∧
      (rt.fireObservePoints horizon stopOnPause).2.lifecycle = .ready := by
  refine fireLoop_induction
    (P := fun r => ReflTransGen Advance rt r ∧ r.lifecycle = .ready) ?_ stopOnPause .continue_
    ⟨.refl, hready⟩
  rintro r point ⟨hr, hr_ready⟩ hdue
  exact ⟨hr.tail (.fire hr_ready hdue), hr_ready⟩

lemma step_advance (rt : Runtime C) : ReflTransGen Advance rt rt.step.2 := by
  unfold step
  cases hrequire : rt.require .ready with
  | error e => exact .refl
  | ok u =>
    obtain ⟨hfire, hready⟩ :=
      fireObservePoints_advance (lifecycle_of_require hrequire) none false
    have hdue : (rt.fireObservePoints none false).2.duePoint none = none :=
      duePoint_fireLoop (.inl rfl)
    simp only
    generalize (rt.fireObservePoints none false).2 = r at hfire hready hdue
    have hstep : ReflTransGen Advance rt r.dispatch.2 := hfire.tail (.dispatch hready hdue)
    rcases hdispatch : r.dispatch with ⟨e | _ | ⟨ev, control⟩, r'⟩
    · rwa [hdispatch] at hstep
    · rwa [hdispatch] at hstep
    · rw [hdispatch] at hstep
      have hready' := (dispatch_lifecycle hdispatch).trans hready
      exact hstep.trans (fireObservePoints_advance hready' none false).1

lemma runLoop_advance (until_ : Tick) {rt : Runtime C} (hready : rt.lifecycle = .ready)
    (events : ℕ) : ReflTransGen Advance rt (runLoop until_ events rt).2 := by
  induction hw : rt.weight using Nat.strong_induction_on generalizing rt events with
  | h w ih =>
    subst hw
    rw [runLoop_eq]
    have hspec := turn_spec until_ rt
    generalize turn until_ rt = out at hspec
    cases hspec with
    | fired point hdue =>
      have hstep : Advance rt (rt.firePoint point).2 := .fire hready hdue
      have hready' : (rt.firePoint point).2.lifecycle = .ready := hready
      cases (rt.firePoint point).1 with
      | pause => exact .single hstep
      | continue_ => exact .head hstep (ih _ (firePoint_weight hdue) hready' events rfl)
    | drained => exact .refl
    | horizon => exact .refl
    | ran hdue _ _ _ ev control r hdispatch =>
      have hstep : Advance rt r := by
        have hadvance := Advance.dispatch hready hdue
        rwa [hdispatch] at hadvance
      have hready' := (dispatch_lifecycle hdispatch).trans hready
      cases control with
      | pause => exact .single hstep
      | continue_ => exact .head hstep (ih _ (dispatch_weight hdispatch) hready' (events + 1) rfl)
    | failed hdue _ _ _ e r hdispatch =>
      have hadvance := Advance.dispatch hready hdue
      rw [hdispatch] at hadvance
      exact .single hadvance

lemma run_advance (until_ : Tick) (rt : Runtime C) :
    ReflTransGen Advance rt (rt.run until_).2 := by
  unfold run
  cases hrequire : rt.require .ready with
  | error e => exact .refl
  | ok u => exact runLoop_advance until_ (lifecycle_of_require hrequire) 0

lemma runUntilLoop_advance (until_ : Tick) (total : ℕ) (rt : Runtime C) :
    ReflTransGen Advance rt (runUntilLoop until_ total rt).2 := by
  induction hw : rt.weight using Nat.strong_induction_on generalizing rt total with
  | h w ih =>
    subst hw
    have hrun := run_advance until_ rt
    rw [runUntilLoop_eq]
    rcases hout : rt.run until_ with ⟨e | ⟨events, stop⟩, r⟩
    · rwa [hout] at hrun
    · rw [hout] at hrun
      cases stop with
      | paused => exact hrun.trans (ih _ (run_paused_weight hout) _ r rfl)
      | drained => exact hrun
      | horizon => exact hrun

/-- Whether a call neither restores a snapshot nor resumes a trace. -/
def Call.advances : Call → Bool
  | .restore _ => false
  | .resumeTrace _ => false
  | _ => true

lemma call_advance (rt : Runtime C) {c : Call} (hc : c.advances) :
    ReflTransGen Advance rt (rt.call c).2 := by
  cases c with
  | init =>
    simp only [call, init, Prod.map_snd, id]
    cases hrequire : rt.require .elaborated with
    | error e => exact .refl
    | ok u => exact .single (.init (lifecycle_of_require hrequire))
  | step => exact step_advance rt
  | run until_ => exact run_advance until_ rt
  | runUntil until_ => exact runUntilLoop_advance until_ 0 rt
  | snapshot => exact .refl
  | restore bytes => cases hc
  | startTrace =>
    simp only [call, startTrace, Prod.map_snd, id]
    cases hrequire : rt.require .elaborated with
    | error e => exact .refl
    | ok u => exact .single (.startTrace (lifecycle_of_require hrequire))
  | resumeTrace before => cases hc
  | takeTrace => exact .single (.takeTrace rt)
  | observeAt tick => exact .single (.observeAt rt tick)
  | addObserver observer => exact .single (.addObserver rt observer)

lemma call_step (rt : Runtime C) (c : Call) : ReflTransGen Step rt (rt.call c).2 := by
  by_cases hc : c.advances
  · exact ReflTransGen.mono (fun _ _ => Step.advance) _ _ (call_advance rt hc)
  · cases c with
    | restore bytes => exact .single (.restore (rt.restore_spec bytes))
    | resumeTrace before =>
      simp only [call, resumeTrace, Prod.map_snd, id]
      split_ifs
      · exact .refl
      · exact .refl
      · split
        · exact .refl
        · exact .single (.resumeTrace rt before.records)
    | _ => exact absurd rfl hc

/-! ## Invariants of every run -/

/-- What every step preserves, every run preserves. -/
lemma exec_step_invariant {I : Runtime C → Prop} (hstep : ∀ rt rt', Step rt rt' → I rt → I rt')
    {rt : Runtime C} (h : I rt) (calls : List Call) : I (Machine.exec call rt calls).2 := by
  refine Machine.exec_invariant (fun r c hr => ?_) h calls
  have hcall := r.call_step c
  generalize (r.call c).2 = r' at hcall ⊢
  induction hcall with
  | refl => exact hr
  | tail _ hlast ih => exact hstep _ _ hlast ih

/-- The same for runs that restore nothing. -/
lemma exec_advance_invariant {I : Runtime C → Prop}
    (hstep : ∀ rt rt', Advance rt rt' → I rt → I rt') {rt : Runtime C} (h : I rt)
    {calls : List Call} (hcalls : ∀ c ∈ calls, c.advances) :
    I (Machine.exec call rt calls).2 := by
  induction calls generalizing rt with
  | nil => exact h
  | cons c calls ih =>
    have hc : I (rt.call c).2 := by
      have hcall := rt.call_advance (hcalls c List.mem_cons_self)
      generalize (rt.call c).2 = r at hcall ⊢
      induction hcall with
      | refl => exact h
      | tail _ hlast ih => exact hstep _ _ hlast ih
    exact ih hc fun c' hc' => hcalls c' (List.mem_cons_of_mem _ hc')

/-- Initialization, one component after the other: what each `init` preserves and the end of the
whole makes of it. -/
lemma initFrom_induction {P Q : Runtime C → Prop} (n k : ℕ)
    (hactivate : ∀ rt j c ctx, P rt → rt.enter (UInt32.ofNat j) .init = some (c, ctx) →
      P (rt.resume ((Component.init c).run ctx)))
    (hready : ∀ rt, P rt → Q { rt with lifecycle := .ready })
    (hfault : ∀ rt e, P rt → Q (rt.enterFault e).2)
    (hpanic : ∀ rt j, j < k + n → P rt → rt.enter (UInt32.ofNat j) .init = none → Q rt)
    {rt : Runtime C} (h : P rt) : Q (rt.initFrom k n).2 := by
  induction n generalizing rt k with
  | zero => exact hready rt h
  | succ n ih =>
    rw [initFrom]
    unfold activate
    cases henter : rt.enter (UInt32.ofNat k) .init with
    | none => exact hpanic rt k (by omega) h henter
    | some r =>
      obtain ⟨c, ctx⟩ := r
      have hnext := hactivate rt k c ctx h henter
      simp only [Option.bind_eq_bind, Option.bind_some, Option.pure_def]
      cases verdict ((Component.init c).run ctx) with
      | error e => exact hfault _ e hnext
      | ok u => exact ih (k + 1) (fun r j hj => hpanic r j (by omega)) hnext

/-! ## What a session never changes -/

/-- The sessions have the same topology and settings. -/
structure Fixed (rt rt' : Runtime C) : Prop where
  clock : rt'.clock = rt.clock
  domains : rt'.domains = rt.domains
  slots : rt'.slots = rt.slots
  peers : rt'.peers = rt.peers
  links : rt'.links = rt.links
  topologyHash : rt'.topologyHash = rt.topologyHash
  config : rt'.config = rt.config

omit [Contracts] [Component C] in
lemma Fixed.refl (rt : Runtime C) : Fixed rt rt := ⟨rfl, rfl, rfl, rfl, rfl, rfl, rfl⟩

omit [Contracts] [Component C] in
lemma Fixed.trans {rt rt' rt'' : Runtime C} (h : Fixed rt rt') (h' : Fixed rt' rt'') :
    Fixed rt rt'' where
  clock := h'.clock.trans h.clock
  domains := h'.domains.trans h.domains
  slots := h'.slots.trans h.slots
  peers := h'.peers.trans h.peers
  links := h'.links.trans h.links
  topologyHash := h'.topologyHash.trans h.topologyHash
  config := h'.config.trans h.config

lemma dispatch_fixed (rt : Runtime C) : Fixed rt rt.dispatch.2 := by
  have hspec := rt.dispatch_spec
  generalize rt.dispatch = out at hspec
  cases hspec <;> exact ⟨rfl, rfl, rfl, rfl, rfl, rfl, rfl⟩

lemma initFrom_fixed (rt : Runtime C) (k n : ℕ) : Fixed rt (rt.initFrom k n).2 := by
  refine initFrom_induction (P := fun r => Fixed rt r) n k ?_ ?_ ?_ ?_ (.refl rt)
  · exact fun _ _ _ _ h _ => { h with }
  · exact fun _ h => { h with }
  · exact fun _ _ h => { h with }
  · exact fun _ _ _ h _ => h

lemma Step.fixed {rt rt' : Runtime C} (h : Step rt rt') : Fixed rt rt' := by
  cases h with
  | advance hadvance =>
    cases hadvance with
    | dispatch => exact rt.dispatch_fixed
    | init => exact rt.initFrom_fixed 0 _
    | _ => exact ⟨rfl, rfl, rfl, rfl, rfl, rfl, rfl⟩
  | restore hrestored => cases hrestored <;> exact ⟨rfl, rfl, rfl, rfl, rfl, rfl, rfl⟩
  | resumeTrace => exact ⟨rfl, rfl, rfl, rfl, rfl, rfl, rfl⟩

lemma exec_fixed (rt : Runtime C) (calls : List Call) :
    Fixed rt (Machine.exec call rt calls).2 :=
  exec_step_invariant (fun _ _ hstep h => h.trans hstep.fixed) (.refl rt) calls

/-! ## One of everything per component -/

/-- Every table of the session has one entry per component. -/
structure Sized (rt : Runtime C) : Prop where
  components : rt.components.length = rt.slots.length
  rngs : rt.rngs.length = rt.slots.length
  peers : rt.peers.length = rt.slots.length
  fits : rt.slots.length ≤ ComponentId.runtime.toNat

namespace Sized

variable {rt rt' : Runtime C}

omit [Contracts] [Component C] in
lemma of_fixed (h : rt.Sized) (hfixed : Fixed rt rt')
    (hcomponents : rt'.components.length = rt.components.length)
    (hrngs : rt'.rngs.length = rt.rngs.length) : rt'.Sized where
  components := by rw [hcomponents, hfixed.slots, h.components]
  rngs := by rw [hrngs, hfixed.slots, h.rngs]
  peers := by rw [hfixed.peers, hfixed.slots, h.peers]
  fits := by rw [hfixed.slots]; exact h.fits

omit [Contracts] [Component C] in
lemma resume (h : rt.Sized) (out : Except SimError Unit × C × Ctx) : (rt.resume out).Sized :=
  h.of_fixed ⟨rfl, rfl, rfl, rfl, rfl, rfl, rfl⟩ (List.length_set ..) (List.length_set ..)

omit [Contracts] [Component C] in
lemma enter_ne_none (h : rt.Sized) {me : ComponentId} (hme : me.toNat < rt.slots.length)
    (at_ : TraceAt) : rt.enter me at_ ≠ none := by
  have hc : me.toNat < rt.components.length := h.components ▸ hme
  have hr : me.toNat < rt.rngs.length := h.rngs ▸ hme
  have hp : me.toNat < rt.peers.length := h.peers ▸ hme
  simp [enter, hc, hr, hp, hme]

omit [Contracts] [Component C] in
lemma toNat_ofNat (h : rt.Sized) {j : ℕ} (hj : j < rt.slots.length) :
    (UInt32.ofNat j).toNat = j := by
  have hfits := h.fits
  refine UInt32.toNat_ofNat_of_lt' (lt_of_lt_of_le hj (hfits.trans ?_))
  decide

lemma dispatch (h : rt.Sized) : rt.dispatch.2.Sized := by
  have hspec := rt.dispatch_spec
  generalize rt.dispatch = out at hspec
  cases hspec with
  | drained => exact h
  | livelock => exact { h with }
  | unknown => exact { h with }
  | failed e heap =>
    have htaken : (rt.take e heap).Sized := { h with }
    exact { htaken.resume _ with }
  | handled e heap =>
    have htaken : (rt.take e heap).Sized := { h with }
    exact { htaken.resume _ with }

lemma initFrom (h : rt.Sized) (k n : ℕ) : (rt.initFrom k n).2.Sized := by
  refine initFrom_induction (P := Sized) n k ?_ ?_ ?_ ?_ h
  · exact fun _ _ _ _ h _ => h.resume _
  · exact fun _ h => { h with }
  · exact fun _ _ h => { h with }
  · exact fun _ _ _ h _ => h

end Sized

omit [Contracts] in
/-- A sequence of partial results has the length of its arguments. -/
lemma length_of_mapM_eq_some {α β : Type*} {f : α → Option β} {xs : List α} {ys : List β}
    (h : xs.mapM f = some ys) : ys.length = xs.length := by
  induction xs generalizing ys with
  | nil =>
    cases h
    rfl
  | cons x xs ih =>
    simp only [List.mapM_cons, Option.bind_eq_bind, Option.bind_eq_some_iff, Option.pure_def,
      Option.some.injEq] at h
    obtain ⟨y, -, ys', hys, rfl⟩ := h
    rw [List.length_cons, List.length_cons, ih hys]

lemma Step.sized {rt rt' : Runtime C} (hstep : Step rt rt') (h : rt.Sized) : rt'.Sized := by
  cases hstep with
  | advance hadvance =>
    cases hadvance with
    | dispatch => exact h.dispatch
    | init => exact h.initFrom 0 _
    | _ => exact { h with }
  | restore hrestored =>
    cases hrestored with
    | refused => exact h
    | failed e components hlength =>
      exact h.of_fixed ⟨rfl, rfl, rfl, rfl, rfl, rfl, rfl⟩ hlength rfl
    | done helaborated snap scheduler rngs components hdecode hvalidate hcomponents =>
      obtain ⟨-, -, -, -, hstates, -, hrngs, -⟩ := validate_eq_ok_iff.mp hvalidate
      have hlength := length_restoreComponents rt.components snap.components
      rw [hcomponents] at hlength
      refine h.of_fixed ⟨rfl, rfl, rfl, rfl, rfl, rfl, rfl⟩ hlength ?_
      exact (length_of_mapM_eq_some hrngs).trans (hstates.trans (h.components.trans h.rngs.symm))
  | resumeTrace => exact { h with }

lemma sized_of_elaborate {b : TopologyBuilder C} {config : SessionConfig} {rt : Runtime C}
    (h : b.elaborate config = .ok rt) : rt.Sized := by
  have hwired := wired_of_elaborate h
  obtain ⟨slots, peers, links, -, -, -, rfl⟩ := TopologyBuilder.elaborate_eq_ok h
  refine ⟨by simp [fromElaboration], by simp [fromElaboration], ?_, ?_⟩
  · simpa using congrArg List.length hwired.rows
  · rw [hwired.slots, List.length_map]
    exact b.ids_fit

end Runtime

end SystemScope
