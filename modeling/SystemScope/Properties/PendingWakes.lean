import SystemScope.Contracts.Embedding
import SystemScope.Properties.Restoration

/-!
# Wakes that components rely on

Some components go on only if a wake of theirs is pending in the queue of the runtime.  Such a
component must schedule the wake whenever it comes into a state that relies on it (`Keeps`); then
the wake is pending in every session reached, also if the session was restored from a snapshot that
another one took (`Reached.relying`).

In a call that succeeds every call to the context did, since errors are sticky
(`Handler.perform_of_run`); that is how far `Handler.perform` tells the truth about a
session. -/

namespace SystemScope

/-- A wake of a component is pending. -/
def Scheduler.Wakes (s : Scheduler Pending) (me : ComponentId) (phase : Phase) (token : UInt64) :
    Prop :=
  ∃ e ∈ s.heap.toList,
    e.payload.target = me ∧ e.payload.delivery = .wake token ∧ e.key.phase = phase

/-! ## Calls that succeed -/

namespace Ctx

/-- What a running component sees of its context. -/
def surroundings (ctx : Ctx) : Surroundings where
  component := ctx.me
  now := ctx.scheduler.now
  phase := ctx.scheduler.phase
  rng _ := 0

variable [Contracts] {ctx ctx' : Ctx}

/-- A send or a wake that leaves no error behind succeeded. -/
lemma Posted.of_ok {result : Except SimError Unit} (h : ctx.Posted result ctx')
    (hok : ctx'.error = none) :
    result = .ok () ∧ ctx'.surroundings = ctx.surroundings ∧ ctx'.me = ctx.me := by
  cases h with
  | refused e herror =>
    rw [herror] at hok
    cases hok
  | failed => cases hok
  | sent => exact ⟨rfl, rfl, rfl⟩
  | woken => exact ⟨rfl, rfl, rfl⟩

end Ctx

namespace Handler

variable {C : Type} [Contracts]

/-- The first error of a call is kept to its end. -/
lemma run_error (h : Handler C) {ctx : Ctx} {e : SimError} (herror : ctx.error = some e) :
    (h.run ctx).2.2.error = some e := by
  refine h.run_induction (P := fun c => c.error = some e) ?_ ?_ ?_ herror
  · intro c result c' hc hposted
    cases hposted with
    | refused => exact hc
    | failed e' hnone =>
      rw [hnone] at hc
      cases hc
    | sent => exact hc
    | woken => exact hc
  · exact fun _ _ hc => hc
  · exact fun _ _ _ hc => hc

lemma error_of_run {h : Handler C} {ctx : Ctx} (hok : (h.run ctx).2.2.error = none) :
    ctx.error = none := by
  cases herror : ctx.error with
  | none => rfl
  | some e =>
    rw [run_error h herror] at hok
    cases hok

/-- A call takes nothing off the queue. -/
lemma mem_run_of_mem (h : Handler C) {ctx : Ctx} {e : Event Pending}
    (he : e ∈ ctx.scheduler.heap.toList) : e ∈ (h.run ctx).2.2.scheduler.heap.toList := by
  refine h.run_induction (P := fun c => e ∈ c.scheduler.heap.toList) ?_ ?_ ?_ he
  · intro c result c' hc hposted
    cases hposted with
    | refused => exact hc
    | failed => exact hc
    | sent => exact (c.scheduler.enqueue_heap_toList _ _).mem_iff.mpr (List.mem_cons_of_mem _ hc)
    | woken => exact (c.scheduler.enqueue_heap_toList _ _).mem_iff.mpr (List.mem_cons_of_mem _ hc)
  · exact fun _ _ hc => hc
  · exact fun _ _ _ hc => hc

/-- A call that ends without an error did what `perform` says, and the wakes it asked for are
pending. -/
lemma perform_of_run (h : Handler C) (hdrawless : h.Drawless) {ctx : Ctx}
    (hok : (h.run ctx).2.2.error = none) :
    ∃ calls, h.perform ctx.surroundings = (calls, (h.run ctx).1, (h.run ctx).2.1) ∧
      ∀ when_ phase token, Call.woke when_ phase token ∈ calls →
        (h.run ctx).2.2.scheduler.Wakes ctx.me phase token := by
  induction h generalizing ctx with
  | done result c => exact ⟨[], rfl, by simp⟩
  | send port msg when_ at_ k ih =>
    have hposted := ctx.send_posted port msg when_ at_
    simp only [run] at hok ⊢
    generalize ctx.send port msg when_ at_ = out at hposted hok
    obtain ⟨result, ctx'⟩ := out
    obtain ⟨rfl, hsurroundings, hme⟩ := hposted.of_ok (error_of_run hok)
    obtain ⟨calls, hperform, hwoke⟩ := ih _ (hdrawless _) hok
    rw [hsurroundings] at hperform
    rw [hme] at hwoke
    refine ⟨.sent port msg when_ at_ :: calls, ?_, fun when' phase token hmem => ?_⟩
    · simp only [perform, hperform]
    · rcases List.mem_cons.mp hmem with hmem | hmem
      · cases hmem
      · exact hwoke when' phase token hmem
  | wakeSelf when_ at_ token k ih =>
    have hposted := ctx.wakeSelf_posted when_ at_ token
    have hpending : _ → ctx.Wakes when_ at_ token _ := Ctx.wakeSelf_of_ok
    simp only [run] at hok ⊢
    generalize ctx.wakeSelf when_ at_ token = out at hposted hpending hok
    obtain ⟨result, ctx'⟩ := out
    obtain ⟨rfl, hsurroundings, hme⟩ := hposted.of_ok (error_of_run hok)
    obtain ⟨tick, -, -, hctx'⟩ := hpending (error_of_run hok)
    obtain ⟨calls, hperform, hwoke⟩ := ih _ (hdrawless _) hok
    rw [hsurroundings] at hperform
    rw [hme] at hwoke
    refine ⟨.woke when_ at_ token :: calls, ?_, fun when' phase token' hmem => ?_⟩
    · simp only [perform, hperform]
    · rcases List.mem_cons.mp hmem with hmem | hmem
      · cases hmem
        refine ⟨ctx.wake tick at_ token, mem_run_of_mem _ ?_, rfl, rfl, rfl⟩
        rw [hctx']
        exact (ctx.scheduler.enqueue_heap_toList _ _).mem_iff.mpr List.mem_cons_self
      · exact hwoke when' phase token' hmem
  | rng draws k ih => exact hdrawless.elim
  | trace kind fields k ih =>
    obtain ⟨calls, hperform, hwoke⟩ := @ih hdrawless (ctx.emit kind fields) hok
    refine ⟨.traced kind fields :: calls, ?_, fun when' phase token hmem => ?_⟩
    · simp only [perform, run]
      rw [show ctx.surroundings = (ctx.emit kind fields).surroundings from rfl, hperform]
    · rcases List.mem_cons.mp hmem with hmem | hmem
      · cases hmem
      · exact hwoke when' phase token hmem
  | component k ih => exact ih _ (hdrawless _) hok
  | now k ih => exact ih _ (hdrawless _) hok
  | phase k ih => exact ih _ (hdrawless _) hok

lemma map_run {D : Type} (f : D → C) (h : Handler D) (ctx : Ctx) :
    (h.map f).run ctx = ((h.run ctx).1, f (h.run ctx).2.1, (h.run ctx).2.2) := by
  induction h generalizing ctx with
  | done result d => rfl
  | send port msg when_ at_ k ih => exact ih _ _
  | wakeSelf when_ at_ token k ih => exact ih _ _
  | rng draws k ih => exact ih _ _
  | trace kind fields k ih => exact ih _
  | component k ih => exact ih _ _
  | now k ih => exact ih _ _
  | phase k ih => exact ih _ _

end Handler

/-! ## Components that rely on a wake -/

/-- A component that schedules what it relies on: its states satisfy `P`, and in a state that
relies on a wake it has scheduled one that was not delivered yet. -/
structure Component.Keeps {D : Type} [Component D] (P : D → Prop)
    (relies : D → Phase → UInt64 → Prop) : Prop where
  drawless : ∀ (d : D) delivery, (Component.handleEvent d delivery).Drawless
  init : ∀ d d' : D, P d → (Component.init d).Ends d' →
    P d' ∧ ∀ phase token, relies d' phase token → relies d phase token
  event : ∀ (d d' : D) delivery, P d → (Component.handleEvent d delivery).Ends d' → P d'
  wakes : ∀ (d d' : D) delivery env calls, P d →
    (Component.handleEvent d delivery).perform env = (calls, .ok (), d') →
    ∀ phase token, relies d' phase token →
      relies d phase token ∧ delivery ≠ .wake token ∨ ∃ when_, Call.woke when_ phase token ∈ calls
  restores : ∀ (d d₁ d₂ : D) schema rest, P d →
    Component.restore d₁ (Component.snapshot d) schema = (d₂, .ok rest) → d₂ = d

namespace Runtime

variable {C D : Type} [Contracts] [Component C] [Component D]

/-- The sessions that a session gets to, by itself or by restoring snapshots taken on the way. -/
inductive Reached (rt₀ : Runtime C) : Runtime C → Prop
  | start : Reached rt₀ rt₀
  | advance {rt rt' : Runtime C} (h : Reached rt₀ rt) (hstep : Advance rt rt') : Reached rt₀ rt'
  | resumeTrace {rt : Runtime C} (h : Reached rt₀ rt) (records : List TraceRecord) :
      Reached rt₀ { rt with trace := some records, freshlyRestored := false }
  | restore {rt rt' r : Runtime C} {bs : Bytes} (h : Reached rt₀ rt) (h' : Reached rt₀ rt')
      (hsnapshot : rt.snapshot = .ok bs) (hrestore : rt'.restore bs = (.ok (), r)) :
      Reached rt₀ r

/-- Runs that restore nothing. -/
lemma Reached.exec {rt₀ : Runtime C} {calls : List Call} (hcalls : ∀ c ∈ calls, c.advances) :
    Reached rt₀ (Machine.exec call rt₀ calls).2 :=
  exec_advance_invariant (fun _ _ hstep h => h.advance hstep) .start hcalls

/-- One component of the session is in its place, and what it relies on is pending. -/
structure Relies (f : D → C) (P : D → Prop) (relies : D → Phase → UInt64 → Prop)
    (me : ComponentId) (rt : Runtime C) (d : D) : Prop where
  here : rt.components[me.toNat]? = some (f d)
  valid : P d
  pending : rt.lifecycle ≠ .faulted →
    ∀ phase token, relies d phase token → rt.scheduler.Wakes me phase token

variable {f : D → C} {P : D → Prop} {relies : D → Phase → UInt64 → Prop} {me : ComponentId}
  {rt rt' : Runtime C} {d : D}

omit [Contracts] [Component C] [Component D] in
/-- What it is about is the component and the queue. -/
lemma Relies.congr (h : rt.Relies f P relies me d) (hcomponents : rt'.components = rt.components)
    (hscheduler : rt'.scheduler = rt.scheduler)
    (hlifecycle : rt'.lifecycle ≠ .faulted → rt.lifecycle ≠ .faulted) :
    rt'.Relies f P relies me d where
  here := by rw [hcomponents, h.here]
  valid := h.valid
  pending hlive := by
    rw [hscheduler]
    exact h.pending (hlifecycle hlive)

omit [Contracts] [Component C] [Component D] in
lemma Relies.faulted (here : rt.components[me.toNat]? = some (f d)) (hP : P d)
    (hfaulted : rt.lifecycle = .faulted) : rt.Relies f P relies me d :=
  ⟨here, hP, fun hlive => absurd hfaulted hlive⟩

variable {e : Event Pending} {heap : BinaryHeap (Event.key : Event Pending → EventKey)}
  {c : C} {ctx : Ctx} (hembeds : Component.Embeds f) (hkeeps : Component.Keeps P relies)

omit [Component C] [Component D] in
/-- After a call the component that was called is in its place. -/
lemma components_resume {target : ComponentId} {at_ : TraceAt}
    (henter : rt.enter target at_ = some (c, ctx)) (h : Handler C) :
    (rt.resume (h.run ctx)).components = rt.components.set target.toNat (h.run ctx).2.1 := by
  obtain ⟨_, _, _, _, _, _, _, hctx⟩ := enter_eq_some.mp henter
  have hme : (h.run ctx).2.2.me = target := by
    rw [(h.run_trace ctx).1, hctx]
  show rt.components.set (h.run ctx).2.2.me.toNat _ = _
  rw [hme]

omit [Component D] [Contracts] [Component C] in
/-- A pending wake stays pending while another event is taken off the queue. -/
lemma mem_of_pop {e' : Event Pending} (hpop : rt.scheduler.heap.pop = some (e, heap))
    (he' : e' ∈ rt.scheduler.heap.toList) (hne : e' ≠ e) : e' ∈ heap.toList := by
  have hperm := (BinaryHeap.pop_eq_some hpop).2
  rcases List.mem_cons.mp (hperm.mem_iff.mp he') with heq | hmem
  · exact absurd heq hne
  · exact hmem

omit [Contracts] [Component C] [Component D] in
lemma verdict_eq_ok {out : Except SimError Unit × C × Ctx} :
    verdict out = .ok () ↔ out.2.2.error = none ∧ out.1 = .ok () := by
  unfold verdict
  cases out.2.2.error <;> simp

include hembeds hkeeps

lemma Relies.handle (h : rt.Relies f P relies me d) (hready : rt.lifecycle = .ready)
    (hpop : rt.scheduler.heap.pop = some (e, heap))
    (henter : (rt.take e heap).enter e.payload.target (.event e.key) = some (c, ctx)) :
    ∃ d', ((rt.take e heap).resume (handle e c ctx)).components[me.toNat]? = some (f d') ∧ P d' ∧
      (verdict (handle e c ctx) = .ok () → ∀ phase token, relies d' phase token →
        (handle e c ctx).2.2.scheduler.Wakes me phase token) := by
  have hlive : rt.lifecycle ≠ .faulted := by simp [hready]
  have hcomponents := components_resume henter (Component.handleEvent c e.canonical.delivery)
  obtain ⟨_, _, _, hc, _, _, _, hctx⟩ := enter_eq_some.mp henter
  have hheap : ctx.scheduler.heap = heap := by
    rw [hctx]
    rfl
  unfold Runtime.handle
  rw [hcomponents]
  by_cases htarget : e.payload.target = me
  · have hcd : c = f d := by
      have hhere : some c = some (f d) := by
        rw [← hc, htarget]
        exact h.here
      exact Option.some.inj hhere
    have hlength : me.toNat < (rt.take e heap).components.length :=
      (List.getElem?_eq_some_iff.mp h.here).1
    rw [htarget, List.getElem?_set_self hlength, hcd, hembeds.handleEvent, Handler.map_run]
    refine ⟨_, rfl, hkeeps.event _ _ _ h.valid (Handler.run_ends _ ctx),
      fun hok phase token hrelies => ?_⟩
    obtain ⟨herror, hresult⟩ := verdict_eq_ok.mp hok
    obtain ⟨calls, hperform, hwoke⟩ := Handler.perform_of_run _ (hkeeps.drawless _ _) herror
    rw [show _ = Except.ok () from hresult] at hperform
    rcases hkeeps.wakes _ _ _ _ _ h.valid hperform phase token hrelies with
      ⟨hbefore, hother⟩ | ⟨when_, hcall⟩
    · obtain ⟨e', he', htarget', hdelivery, hphase⟩ := h.pending hlive phase token hbefore
      have hne : e' ≠ e := by
        rintro rfl
        exact hother hdelivery
      refine ⟨e', Handler.mem_run_of_mem _ ?_, htarget', hdelivery, hphase⟩
      rw [hheap]
      exact mem_of_pop hpop he' hne
    · have hwakes := hwoke when_ phase token hcall
      rwa [show ctx.me = me by rw [hctx]; exact htarget] at hwakes
  · have hindex : e.payload.target.toNat ≠ me.toNat := fun heq => htarget (UInt32.toNat_inj.mp heq)
    rw [List.getElem?_set_ne hindex]
    refine ⟨d, h.here, h.valid, fun _ phase token hrelies => ?_⟩
    obtain ⟨e', he', htarget', hdelivery, hphase⟩ := h.pending hlive phase token hrelies
    have hne : e' ≠ e := by
      rintro rfl
      exact htarget htarget'
    refine ⟨e', Handler.mem_run_of_mem _ ?_, htarget', hdelivery, hphase⟩
    rw [hheap]
    exact mem_of_pop hpop he' hne

lemma Relies.dispatch (h : rt.Relies f P relies me d) (hsized : rt.Sized)
    (hready : rt.lifecycle = .ready) : ∃ d', rt.dispatch.2.Relies f P relies me d' := by
  have hspec := rt.dispatch_spec
  generalize rt.dispatch = out at hspec
  cases hspec with
  | drained => exact ⟨d, h⟩
  | livelock => exact ⟨d, .faulted h.here h.valid rfl⟩
  | unknown e heap hpop _ hnone =>
    have hrange : me.toNat < rt.slots.length := by
      rw [← hsized.components]
      exact (List.getElem?_eq_some_iff.mp h.here).1
    have hother : e.payload.target ≠ me := by
      rintro rfl
      have htaken : (rt.take e heap).Sized := { hsized with }
      exact htaken.enter_ne_none hrange _ hnone
    refine ⟨d, h.here, h.valid, fun hlive phase token hrelies => ?_⟩
    obtain ⟨e', he', htarget', hwake⟩ := h.pending hlive phase token hrelies
    refine ⟨e', mem_of_pop hpop he' ?_, htarget', hwake⟩
    rintro rfl
    exact hother htarget'
  | failed e heap hpop _ c ctx henter =>
    obtain ⟨d', hhere, hP, -⟩ := h.handle hembeds hkeeps hready hpop henter
    exact ⟨d', .faulted hhere hP rfl⟩
  | handled e heap hpop _ c ctx henter hok =>
    obtain ⟨d', hhere, hP, hpending⟩ := h.handle hembeds hkeeps hready hpop henter
    exact ⟨d', hhere, hP, fun _ => hpending hok⟩

/-- Initialization schedules what it likes, and makes nothing rely on more. -/
lemma Relies.initFrom (h : rt.Relies f P relies me d) (hready : rt.lifecycle ≠ .faulted)
    (k n : ℕ) : ∃ d', (rt.initFrom k n).2.Relies f P relies me d' := by
  refine initFrom_induction
    (P := fun r : Runtime C => (∃ d', r.Relies f P relies me d') ∧ r.lifecycle ≠ .faulted)
    (Q := fun r : Runtime C => ∃ d', r.Relies f P relies me d') n k ?_ ?_ ?_ ?_ ⟨⟨d, h⟩, hready⟩
  · intro r j c ctx ⟨⟨d, hr⟩, hlive⟩ henter
    obtain ⟨_, _, _, hc, _, _, _, hctx⟩ := enter_eq_some.mp henter
    have hwakes : ∀ phase token, r.scheduler.Wakes me phase token →
        ((Component.init c).run ctx).2.2.scheduler.Wakes me phase token := by
      intro phase token ⟨e', he', hwake⟩
      exact ⟨e', Handler.mem_run_of_mem _ (by rwa [hctx]), hwake⟩
    refine ⟨?_, hlive⟩
    by_cases htarget : UInt32.ofNat j = me
    · have hcd : c = f d := by
        have hhere : some c = some (f d) := by
          rw [← hc, htarget]
          exact hr.here
        exact Option.some.inj hhere
      have hlength : me.toNat < r.components.length := (List.getElem?_eq_some_iff.mp hr.here).1
      obtain ⟨hP, hrelies⟩ := hkeeps.init _ _ hr.valid (Handler.run_ends _ ctx)
      refine ⟨_, ?_, hP, fun _ phase token h => ?_⟩
      · rw [components_resume henter, htarget, List.getElem?_set_self hlength, hcd, hembeds.init,
          Handler.map_run]
      · exact hwakes phase token (hr.pending hlive phase token (hrelies phase token h))
    · have hindex : (UInt32.ofNat j).toNat ≠ me.toNat :=
        fun heq => htarget (UInt32.toNat_inj.mp heq)
      refine ⟨d, ?_, hr.valid, fun _ phase token h => ?_⟩
      · rw [components_resume henter, List.getElem?_set_ne hindex]
        exact hr.here
      · exact hwakes phase token (hr.pending hlive phase token h)
  · intro r ⟨⟨d, hr⟩, hlive⟩
    exact ⟨d, hr.congr rfl rfl fun _ => hlive⟩
  · intro r e ⟨⟨d, hr⟩, _⟩
    exact ⟨d, .faulted hr.here hr.valid rfl⟩
  · exact fun r j hj hr hnone => hr.1

lemma Relies.advance (h : rt.Relies f P relies me d) (hsized : rt.Sized)
    (hstep : Advance rt rt') : ∃ d', rt'.Relies f P relies me d' := by
  cases hstep with
  | dispatch hready => exact h.dispatch hembeds hkeeps hsized hready
  | init helaborated => exact h.initFrom hembeds hkeeps (by simp [helaborated]) 0 _
  | fire | observeAt | addObserver | startTrace | takeTrace => exact ⟨d, h.congr rfl rfl id⟩

/-! ## Restoring a snapshot -/

omit [Component D] [Contracts] hembeds hkeeps in
lemma getElem?_componentEntries (components : List C) (id i : ℕ) :
    (componentEntries id components)[i]? = components[i]?.map fun c =>
      (UInt32.ofNat (id + i), Component.snapshotSchemaVersion c, Component.snapshot c) := by
  induction components generalizing id i with
  | nil => rfl
  | cons c components ih =>
    cases i with
    | zero => rfl
    | succ i =>
      rw [componentEntries, List.getElem?_cons_succ, List.getElem?_cons_succ, ih]
      rw [Nat.add_right_comm, Nat.add_assoc]

omit [Component D] hembeds hkeeps in
lemma getElem?_restoreComponents {declared restored : List C} {entries : List ComponentEntry}
    (h : restoreComponents declared entries = (.ok (), restored)) {i : ℕ} {c : C} {id : ComponentId}
    {schema : UInt32} {state : Bytes} (hc : declared[i]? = some c)
    (hentry : entries[i]? = some (id, schema, state)) :
    ∃ c' rest, restored[i]? = some c' ∧ Component.restore c state schema = (c', .ok rest) := by
  induction declared generalizing restored entries i with
  | nil => cases hc
  | cons c₀ declared ih =>
    cases entries with
    | nil => cases hentry
    | cons entry entries =>
      obtain ⟨id₀, schema₀, state₀⟩ := entry
      simp only [restoreComponents] at h
      rcases hrestore : Component.restore c₀ state₀ schema₀ with ⟨c', e | rest⟩
      · rw [hrestore] at h
        cases h
      · rw [hrestore] at h
        dsimp only at h
        cases hfinish : Contracts.finish rest with
        | error e =>
          rw [hfinish] at h
          cases h
        | ok u =>
          rw [hfinish] at h
          dsimp only at h
          obtain ⟨result, cs, htail⟩ : ∃ result cs,
              restoreComponents declared entries = (result, cs) := ⟨_, _, rfl⟩
          rw [htail] at h
          cases h
          cases i with
          | zero =>
            cases hc
            cases hentry
            exact ⟨c', rest, rfl, hrestore⟩
          | succ i => exact ih htail hc hentry

lemma Relies.restore (hlawful : Contracts.Lawful) (h : rt.Relies f P relies me d) {d' : D}
    (h' : rt'.Relies f P relies me d') {bs : Bytes} (hsnapshot : rt.snapshot = .ok bs)
    {r : Runtime C} (hrestore : rt'.restore bs = (.ok (), r)) : r.Relies f P relies me d := by
  obtain ⟨hready, hbytes⟩ := snapshotBytes_of_snapshot hsnapshot
  have hspec := rt'.restore_spec bs
  rw [hrestore] at hspec
  cases hspec with
  | done helaborated snap scheduler rngs components hdecode hvalidate hcomponents =>
    rw [decode_snapshotBytes hlawful hbytes] at hdecode
    obtain rfl := Except.ok.inj hdecode
    obtain ⟨-, -, -, -, -, -, -, -, -, hscheduler⟩ := validate_eq_ok_iff.mp hvalidate
    rw [decoded_scheduler] at hscheduler
    obtain ⟨-, rfl⟩ := Scheduler.restore_eq_ok_iff.mp hscheduler
    have hentry : rt.decoded.components[me.toNat]? = some (UInt32.ofNat (0 + me.toNat),
        Component.snapshotSchemaVersion (f d), Component.snapshot (f d)) := by
      show (componentEntries 0 rt.components)[me.toNat]? = _
      rw [getElem?_componentEntries, h.here]
      rfl
    obtain ⟨c', rest, hhere, hrestored⟩ := getElem?_restoreComponents hcomponents h'.here hentry
    rw [hembeds.restore, hembeds.snapshot, hembeds.snapshotSchemaVersion] at hrestored
    obtain ⟨d'', result, hd''⟩ : ∃ d'' result, Component.restore d' (Component.snapshot d)
        (Component.snapshotSchemaVersion d) = (d'', result) := ⟨_, _, rfl⟩
    rw [hd''] at hrestored
    cases hrestored
    obtain rfl := hkeeps.restores _ _ _ _ _ h.valid hd''
    refine ⟨hhere, h.valid, fun _ phase token hrelies => ?_⟩
    obtain ⟨e, he, hwake⟩ := h.pending (by simp [hready]) phase token hrelies
    refine ⟨e, ?_, hwake⟩
    have hperm := (Scheduler.rebuilt_heap_toList rt'.config.scheduler rt.scheduler.snapshot).trans
      (Scheduler.sortByKey_perm _)
    exact hperm.mem_iff.mpr he

/-- In every session that is reached and not faulted, what the component relies on is pending. -/
lemma Reached.relying (hlawful : Contracts.Lawful) {rt₀ : Runtime C} (hsized : rt₀.Sized)
    (h₀ : rt₀.Relies f P relies me d) (h : Reached rt₀ rt) :
    (∃ d', rt.Relies f P relies me d') ∧ rt.Sized := by
  induction h with
  | start => exact ⟨⟨d, h₀⟩, hsized⟩
  | advance _ hstep ih =>
    obtain ⟨⟨d', h⟩, hsized⟩ := ih
    exact ⟨h.advance hembeds hkeeps hsized hstep, (Step.advance hstep).sized hsized⟩
  | resumeTrace _ records ih =>
    obtain ⟨⟨d', h⟩, hsized⟩ := ih
    exact ⟨⟨d', h.congr rfl rfl id⟩, { hsized with }⟩
  | @restore rt rt' r bs _ _ hsnapshot hrestore ih ih' =>
    obtain ⟨⟨d, h⟩, -⟩ := ih
    obtain ⟨⟨d', h'⟩, hsized'⟩ := ih'
    refine ⟨⟨d, h.restore hembeds hkeeps hlawful h' hsnapshot hrestore⟩, ?_⟩
    have hstep : Step rt' (rt'.restore bs).2 := .restore (rt'.restore_spec bs)
    rw [hrestore] at hstep
    exact hstep.sized hsized'

end Runtime

end SystemScope
