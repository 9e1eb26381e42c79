import SystemScope.Framework.RunQueue
import SystemScope.Os.KernelSteps
import SystemScope.Os.ProcessEvents

/-!
# Scheduling

The run queue of the kernel is a `RunQueue`: each thing that happens to the processes takes turns in
it.  Between two dispatches of a process come those that were queued at the first of them, in order,
whatever each of them does; a process that has ended is never dispatched again, and its frames are
free; and the first dispatches follow the order of the PIDs (`ModeledKernel.round_robin`).
-/

namespace SystemScope.Os

open MemV1

/-- The queue and the running process. -/
def Processes.turns (ps : Processes) : RunQueue ℕ := { queue := ps.queue, current := ps.current }

/-- The PIDs of the table. -/
def Processes.pids (ps : Processes) : List ℕ := ps.pcbs.map Pcb.pid

/-- The PID of the process that is dispatched. -/
def ProcessEvent.dispatchedPid (e : ProcessEvent) : Option ℕ := e.dispatch.map Prod.fst

/-- The PID of the process that a stage dispatches. -/
def Stage.dispatchedPid (stage : Stage) : Option ℕ := stage.dispatches.map Prod.fst

namespace Processes

variable {ps ps' : Processes} {events : List ProcessEvent} {images pid : ℕ}

/-! ## Turns -/

section Turns

variable {context : Context} {state : ProcState}

lemma yieldCurrent_turns (h : ps.yieldCurrent context = .ok (ps', pid)) :
    RunQueue.Turns ps.turns [] ps'.turns := by
  obtain ⟨hcurrent, p, -, rfl⟩ := yieldCurrent_eq_ok h
  have hturns : ps.turns = ⟨ps.queue, some pid⟩ := by rw [Processes.turns, hcurrent]
  rw [hturns]
  exact .yield .refl

lemma endCurrent_turns (h : ps.endCurrent state = .ok (ps', pid)) :
    RunQueue.Turns ps.turns [] ps'.turns := by
  obtain ⟨-, hcurrent, p, frames, -, -, rfl⟩ := endCurrent_eq_ok h
  have hturns : ps.turns = ⟨ps.queue, some pid⟩ := by rw [Processes.turns, hcurrent]
  rw [hturns]
  exact .leave .refl

lemma scheduleNext_turns (h : ps.scheduleNext = .ok (ps', some (pid, context))) :
    RunQueue.Turns ps.turns [pid] ps'.turns := by
  obtain ⟨hcurrent, rest, p, hqueue, -, -, -, rfl⟩ := scheduleNext_eq_ok h
  have hturns : ps.turns = ⟨pid :: rest, none⟩ := by rw [Processes.turns, hcurrent, hqueue]
  rw [hturns]
  exact .dispatch .refl

lemma yieldCurrent_pids (h : ps.yieldCurrent context = .ok (ps', pid)) : ps'.pids = ps.pids := by
  obtain ⟨-, p, -, rfl⟩ := yieldCurrent_eq_ok h
  exact map_update (by exact fun _ => rfl) pid ps.pcbs

lemma endCurrent_pids (h : ps.endCurrent state = .ok (ps', pid)) : ps'.pids = ps.pids := by
  obtain ⟨-, -, p, frames, -, -, rfl⟩ := endCurrent_eq_ok h
  exact map_update (by exact fun _ => rfl) pid ps.pcbs

lemma scheduleNext_pids (h : ps.scheduleNext = .ok (ps', some (pid, context))) :
    ps'.pids = ps.pids := by
  obtain ⟨-, rest, p, -, -, -, -, rfl⟩ := scheduleNext_eq_ok h
  exact map_update (by exact fun _ => rfl) pid ps.pcbs

end Turns

/-- Without admissions, the changes of the table are turns. -/
lemma Undergoes.turns (h : ps.Undergoes events ps') (htrap : ∀ e ∈ events, e.OfTrap) :
    RunQueue.Turns ps.turns (events.filterMap ProcessEvent.dispatchedPid) ps'.turns := by
  induction h with
  | refl => exact .refl
  | reserved _ hevent ih =>
    rw [List.forall_mem_append, List.forall_mem_singleton] at htrap
    exact htrap.2.elim
  | admitted _ hevent ih =>
    rw [List.forall_mem_append, List.forall_mem_singleton] at htrap
    exact htrap.2.elim
  | yielded _ hevent ih =>
    rw [List.filterMap_append]
    exact (ih (List.forall_mem_append.mp htrap).1).trans (yieldCurrent_turns hevent)
  | ended _ hevent ih =>
    rw [List.filterMap_append]
    exact (ih (List.forall_mem_append.mp htrap).1).trans (endCurrent_turns hevent)
  | dispatched _ hevent ih =>
    rw [List.filterMap_append]
    exact (ih (List.forall_mem_append.mp htrap).1).trans (scheduleNext_turns hevent)

/-- The first turns follow the order of the table, which grows at its end. -/
lemma Undergoes.firstTurns {ds : List ℕ} (h : ps.Undergoes events ps') (hnodup : ps'.pids.Nodup)
    (hfirst : RunQueue.FirstTurns ps.pids ds ps.turns) :
    RunQueue.FirstTurns ps'.pids (ds ++ events.filterMap ProcessEvent.dispatchedPid) ps'.turns := by
  induction h with
  | refl => rwa [List.filterMap_nil, List.append_nil]
  | reserved _ hevent ih =>
    rw [List.filterMap_append, ← List.append_assoc]
    exact (ih hnodup).turns .refl
  | admitted _ hevent ih =>
    obtain rfl := admit_eq_ok hevent
    rw [Processes.pids, List.map_append, List.map_singleton] at hnodup ⊢
    rw [List.filterMap_append, List.filterMap_cons_none rfl, List.filterMap_nil, List.append_nil]
    exact (ih (List.nodup_append.mp hnodup).1).admits hnodup
  | yielded _ hevent ih =>
    rw [yieldCurrent_pids hevent] at hnodup ⊢
    rw [List.filterMap_append, ← List.append_assoc]
    exact (ih hnodup).turns (yieldCurrent_turns hevent)
  | ended _ hevent ih =>
    rw [endCurrent_pids hevent] at hnodup ⊢
    rw [List.filterMap_append, ← List.append_assoc]
    exact (ih hnodup).turns (endCurrent_turns hevent)
  | dispatched _ hevent ih =>
    rw [scheduleNext_pids hevent] at hnodup ⊢
    rw [List.filterMap_append, ← List.append_assoc]
    exact (ih hnodup).turns (scheduleNext_turns hevent)

/-! ## The end of a process -/

lemma mem_update_of_find {pcbs : List Pcb} {f : Pcb → Pcb} {p q : Pcb}
    (hfind : (pcbs.find? fun r => r.pid = pid) = some q) (hp : p ∈ pcbs) (hne : p ≠ q) :
    p ∈ update pid f pcbs := by
  induction pcbs with
  | nil => cases hp
  | cons r rest ih =>
    rw [update]
    by_cases hpid : r.pid = pid
    · rw [List.find?_cons_of_pos (by simpa using hpid)] at hfind
      cases hfind
      rw [if_pos hpid]
      exact List.mem_cons_of_mem _ ((List.mem_cons.mp hp).resolve_left hne)
    · rw [List.find?_cons_of_neg (by simpa using hpid)] at hfind
      rw [if_neg hpid]
      rcases List.mem_cons.mp hp with rfl | hp
      · exact List.mem_cons_self
      · exact List.mem_cons_of_mem _ (ih hfind hp)

lemma mem_or_of_mem_update {pcbs : List Pcb} {f : Pcb → Pcb} {q : Pcb}
    (hq : q ∈ update pid f pcbs) :
    q ∈ pcbs ∨ ∃ p, q = f p := by
  induction pcbs with
  | nil => cases hq
  | cons r rest ih =>
    rw [update] at hq
    by_cases hpid : r.pid = pid
    · rw [if_pos hpid] at hq
      rcases List.mem_cons.mp hq with rfl | hq
      · exact .inr ⟨r, rfl⟩
      · exact .inl (List.mem_cons_of_mem _ hq)
    · rw [if_neg hpid] at hq
      rcases List.mem_cons.mp hq with rfl | hq
      · exact .inl List.mem_cons_self
      · exact (ih hq).imp_left (List.mem_cons_of_mem _)

lemma scheduleNext_terminal {context : Context}
    (h : ps.scheduleNext = .ok (ps', some (pid, context))) {p : Pcb}
    (hterminal : p.state.IsTerminal) :
    p ∈ ps'.pcbs ↔ p ∈ ps.pcbs := by
  obtain ⟨-, rest, q, -, hpcb, -, hready, rfl⟩ := scheduleNext_eq_ok h
  constructor
  · intro hp
    rcases mem_or_of_mem_update hp with hp | ⟨r, rfl⟩
    · exact hp
    · exact hterminal.elim
  · intro hp
    refine mem_update_of_find hpcb hp ?_
    rintro rfl
    rw [hready] at hterminal
    exact hterminal

/-- The boot ends no process. -/
lemma Undergoes.terminal_boot (h : ps.Undergoes events ps') (hboot : ∀ e ∈ events, e.OfBoot)
    {p : Pcb}
    (hterminal : p.state.IsTerminal) : p ∈ ps'.pcbs ↔ p ∈ ps.pcbs := by
  induction h with
  | refl => exact Iff.rfl
  | reserved _ hevent ih => exact ih (List.forall_mem_append.mp hboot).1
  | admitted _ hevent ih =>
    have hready := admit_ready hevent
    obtain rfl := admit_eq_ok hevent
    rw [← ih (List.forall_mem_append.mp hboot).1, List.mem_append, List.mem_singleton, or_iff_left]
    rintro rfl
    rw [hready] at hterminal
    exact hterminal
  | yielded =>
    rw [List.forall_mem_append, List.forall_mem_singleton] at hboot
    exact hboot.2.elim
  | ended =>
    rw [List.forall_mem_append, List.forall_mem_singleton] at hboot
    exact hboot.2.elim
  | dispatched _ hevent ih =>
    exact (scheduleNext_terminal hevent hterminal).trans (ih (List.forall_mem_append.mp hboot).1)

section Ends

variable (hok : ps.Ok images none)

include hok

lemma yieldCurrent_ok {context : Context} (h : ps.yieldCurrent context = .ok (ps', pid)) :
    ps'.Ok images none := by
  obtain ⟨hcurrent, -⟩ := yieldCurrent_eq_ok h
  obtain ⟨ps'', h', hok', -⟩ := hok.yieldCurrent hcurrent context
  rw [h] at h'
  cases h'
  exact hok'

lemma endCurrent_ok {state : ProcState} (h : ps.endCurrent state = .ok (ps', pid)) :
    ps'.Ok images none := by
  obtain ⟨hterminal, hcurrent, -⟩ := endCurrent_eq_ok h
  obtain ⟨ps'', h', hok', -⟩ := hok.endCurrent hcurrent hterminal
  rw [h] at h'
  cases h'
  exact hok'

lemma scheduleNext_ok {context : Context} (h : ps.scheduleNext = .ok (ps', some (pid, context))) :
    ps'.Ok images none := by
  obtain ⟨hcurrent, -⟩ := scheduleNext_eq_ok h
  rcases hok.scheduleNext hcurrent with ⟨-, h'⟩ | ⟨ps'', pid', context', h', hok', -⟩
  · rw [h] at h'
    cases h'
  · rw [h] at h'
    cases h'
    exact hok'

/-- A trap keeps the invariants, and whatever each of its changes keeps under them. -/
lemma Undergoes.trap_invariant {P : Processes → Prop} (h : ps.Undergoes events ps')
    (htrap : ∀ e ∈ events, e.OfTrap) (h₀ : P ps)
    (hyield : ∀ ps' ps'' pid context, ps'.Ok images none → P ps' →
      ps'.yieldCurrent context = .ok (ps'', pid) → P ps'')
    (hend : ∀ ps' ps'' pid state, ps'.Ok images none → P ps' →
      ps'.endCurrent state = .ok (ps'', pid) → P ps'')
    (hdispatch : ∀ ps' ps'' pid context, ps'.Ok images none → P ps' →
      ps'.scheduleNext = .ok (ps'', some (pid, context)) → P ps'') :
    ps'.Ok images none ∧ P ps' := by
  induction h with
  | refl => exact ⟨hok, h₀⟩
  | reserved =>
    rw [List.forall_mem_append, List.forall_mem_singleton] at htrap
    exact htrap.2.elim
  | admitted =>
    rw [List.forall_mem_append, List.forall_mem_singleton] at htrap
    exact htrap.2.elim
  | yielded _ hevent ih =>
    obtain ⟨hok', h'⟩ := ih (List.forall_mem_append.mp htrap).1
    exact ⟨yieldCurrent_ok hok' hevent, hyield _ _ _ _ hok' h' hevent⟩
  | ended _ hevent ih =>
    obtain ⟨hok', h'⟩ := ih (List.forall_mem_append.mp htrap).1
    exact ⟨endCurrent_ok hok' hevent, hend _ _ _ _ hok' h' hevent⟩
  | dispatched _ hevent ih =>
    obtain ⟨hok', h'⟩ := ih (List.forall_mem_append.mp htrap).1
    exact ⟨scheduleNext_ok hok' hevent, hdispatch _ _ _ _ hok' h' hevent⟩

lemma Undergoes.ok (h : ps.Undergoes events ps') (htrap : ∀ e ∈ events, e.OfTrap) :
    ps'.Ok images none :=
  (Undergoes.trap_invariant (P := fun _ => True) hok h htrap trivial (fun _ _ _ _ _ _ _ => trivial)
    (fun _ _ _ _ _ _ _ => trivial) fun _ _ _ _ _ _ _ => trivial).1

/-- The running process has not ended. -/
lemma ne_of_current {p q : Pcb} (hcurrent : ps.current = some pid) (hpcb : ps.pcb pid = some q)
    (hterminal : p.state.IsTerminal) : p ≠ q := by
  rintro rfl
  obtain ⟨q, -, -, hrunning, hpcb'⟩ := hok.running_pcb hcurrent
  rw [hpcb] at hpcb'
  cases hpcb'
  rw [hrunning] at hterminal
  exact hterminal

/-- A process that has ended stays as it is. -/
lemma Undergoes.terminal (h : ps.Undergoes events ps') (htrap : ∀ e ∈ events, e.OfTrap) {p : Pcb}
    (hp : p ∈ ps.pcbs) (hterminal : p.state.IsTerminal) : p ∈ ps'.pcbs := by
  refine (Undergoes.trap_invariant (P := fun ps => p ∈ ps.pcbs) hok h htrap hp ?_ ?_ ?_).2
  · intro ps ps' pid context hok hp hevent
    obtain ⟨hcurrent, q, hpcb, rfl⟩ := yieldCurrent_eq_ok hevent
    exact mem_update_of_find hpcb hp (ne_of_current hok hcurrent hpcb hterminal)
  · intro ps ps' pid state hok hp hevent
    obtain ⟨-, hcurrent, q, frames, hpcb, -, rfl⟩ := endCurrent_eq_ok hevent
    exact mem_update_of_find hpcb hp (ne_of_current hok hcurrent hpcb hterminal)
  · intro ps ps' pid context hok hp hevent
    exact (scheduleNext_terminal hevent hterminal).mpr hp

/-- The frames of the running process are free when it has ended. -/
lemma endCurrent_owner {state : ProcState} (h : ps.endCurrent state = .ok (ps', pid))
    (ppn : UInt32) :
    ps'.frames.owner ppn = ps.frames.owner ppn ∨ ps'.frames.owner ppn = some 0 := by
  obtain ⟨-, hcurrent, p, frames, hpcb, hrelease, rfl⟩ := endCurrent_eq_ok h
  obtain ⟨hp, rfl⟩ := hok.pcb_eq_some.mp hpcb
  obtain ⟨frames', hrelease', -, howner⟩ := Frames.release_isOk hok.numbered
    (Nat.ne_of_gt (hok.range p hp).1) fun ppn hppn => ((hok.owns_pcb hp).mem_iff ppn).mp hppn
  rw [hrelease] at hrelease'
  cases hrelease'
  dsimp only
  rw [howner]
  by_cases hmem : ppn ∈ p.frames
  · exact .inr (if_pos hmem)
  · exact .inl (if_neg hmem)

lemma Undergoes.owner (h : ps.Undergoes events ps') (htrap : ∀ e ∈ events, e.OfTrap)
    (ppn : UInt32) :
    ps'.frames.owner ppn = ps.frames.owner ppn ∨ ps'.frames.owner ppn = some 0 := by
  let P : Processes → Prop := fun ps' =>
    ps'.frames.owner ppn = ps.frames.owner ppn ∨ ps'.frames.owner ppn = some 0
  refine (Undergoes.trap_invariant (P := P) hok h htrap (.inl rfl) ?_ ?_ ?_).2
  · intro ps ps' pid context hok howner hevent
    obtain ⟨-, q, -, rfl⟩ := yieldCurrent_eq_ok hevent
    exact howner
  · intro ps ps' pid state hok howner hevent
    rcases endCurrent_owner hok hevent ppn with hsame | hfree
    · exact howner.imp hsame.trans hsame.trans
    · exact .inr hfree
  · intro ps ps' pid context hok howner hevent
    obtain ⟨-, rest, q, -, -, -, -, rfl⟩ := scheduleNext_eq_ok hevent
    exact howner

/-- The frames of a process that a trap ended are free. -/
lemma Undergoes.freed (h : ps.Undergoes events ps') (htrap : ∀ e ∈ events, e.OfTrap) {p p' : Pcb}
    (hp : p ∈ ps.pcbs) (hp' : p' ∈ ps'.pcbs) (hpid : p'.pid = p.pid)
    (hterminal : p'.state.IsTerminal)
    {ppn : UInt32} (hppn : ppn ∈ p.frames) : ps'.frames.owner ppn = some 0 := by
  have hok' := Undergoes.ok hok h htrap
  have howner := ((hok.owns_pcb hp).mem_iff ppn).mp hppn
  refine (Undergoes.owner hok h htrap ppn).resolve_left fun hsame => ?_
  have hmem : ppn ∈ p'.frames := by
    rw [(hok'.owns_pcb hp').mem_iff, hsame, howner, hpid]
  obtain ⟨htables, hregions⟩ := (hok'.pcb p' hp').dead hterminal
  unfold Pcb.frames at hmem
  rw [htables, hregions] at hmem
  cases hmem

end Ends

end Processes

namespace ModeledKernel

variable {config : KernelConfig} {c c' c₀ : ModeledKernel config} {m m' : Model}

/-- What is delivered completes a stage. -/
def Completes (c : ModeledKernel config) (o : ProcOp) : Prop :=
  ∃ o' txn completion, c.state = .wait (.proc o') txn ∧ o'.complete config completion = .ok
    (.ok o) ∧
    o.isFinished config = .ok true

/-- What may happen to the processes in one step. -/
def Changes (c : ModeledKernel config) (m : Model) (e : ProcessEvent) : Prop :=
  (¬m.Operating ∧ BootEvent none e) ∨ ∃ o, c.Completes o ∧ o.stage.Fits config m ∧ o.Changes m e

/-- What one step does to the processes: the stage that begins dispatches the process that was
dispatched. -/
structure Turn (c : ModeledKernel config) (m : Model) (c' : ModeledKernel config) (m' : Model)
    (events : List ProcessEvent) : Prop where
  undergoes : m.procs.Undergoes events m'.procs
  kind : ∀ e ∈ events, c.Changes m e
  dispatches : events.filterMap ProcessEvent.dispatch = ((begun c c').bind Stage.dispatches).toList
  satp : ∀ pid context satp, begun c c' = some (.dispatch pid context satp) →
    ∃ p, m'.procs.pcb pid = some p ∧ satp = Pte.satp p.root
  operating : m.Operating → m'.Operating

lemma turn_refl (hprocs : m'.procs = m.procs) (hlife : m'.life = m.life)
    (hbegun : begun c c' = none) : Turn c m c' m' [] where
  undergoes := by
    rw [hprocs]
    exact .refl
  kind := by simp
  dispatches := by
    rw [hbegun]
    rfl
  satp := by
    rw [hbegun]
    exact nofun
  operating := by
    unfold Model.Operating
    rw [hprocs, hlife]
    exact id

lemma begun_self : begun c c = none := by
  unfold begun
  cases c.state <;> rfl

lemma begun_new {stage : Stage} (hstate : ∀ work, c.state ≠ .issue work)
    (hnext : c'.state = .issue (.proc (.new stage))) : begun c c' = some stage := by
  unfold begun
  rw [hnext]
  cases hc : c.state with
  | issue work => exact absurd hc (hstate work)
  | idle => rfl
  | wait work txn => rfl

lemma turn_of_follows {kind : ProcessEvent → Prop} {events : List ProcessEvent} {stage : Stage}
    (h : Follows kind m events m' stage) (hkind : ∀ e, kind e → c.Changes m e)
    (hbegun : begun c c' = some stage) (hop : m.Operating → m'.Operating) :
    Turn c m c' m' events where
  undergoes := h.undergoes
  kind e he := hkind e (h.kind e he)
  dispatches := by
    rw [hbegun]
    exact h.dispatches
  satp pid context satp hdispatch := by
    rw [hbegun] at hdispatch
    exact h.satp pid context satp (Option.some.inj hdispatch)
  operating := hop

/-- What comes after an access, with the operation that it leaves. -/
inductive Goes (c : ModeledKernel config) (m : Model) (o : ProcOp) (c' : ModeledKernel config)
    (m' : Model) : Prop
  /-- Another access of the stage. -/
  | next (hfinished : o.isFinished config = .ok false) (hwork : c'.work = some (.proc o))
      (hheld : c'.held = c.held) (hmodel : m' = m) (hbegun : begun c c' = none)
  /-- Another stage. -/
  | stage {stage : Stage} {events : List ProcessEvent} (hfinished : o.isFinished config = .ok true)
      (hfits : o.stage.Fits config m) (hwork : c'.work = some (.proc (.new stage)))
      (hheld : c'.held = c.held) (hbegun : begun c c' = some stage) (hstage : stage.Succeeds o)
      (hfollows : Follows (o.Changes m) m events m' stage)
      (hsaves : ∀ e, o.Saves m e → ∃ rest, events = e :: rest) (hop : m.Operating → m'.Operating)
      (hadvance : ∃ d, m.advance config o = .ok d ∧ d.next = some (.new stage) ∧ m' = d.model ∧
        m'.source = m.source)
  /-- The end of the operation. -/
  | ends (hfinished : o.isFinished config = .ok true) (hstage : o.stage.Ends)
      (hstate : c'.state = .idle) (hheld : c'.held = none) (hmodel : m' = m)
      (hbegun : begun c c' = none)

/-- What a delivery does to a kernel with processes. -/
inductive Acts (c : ModeledKernel config) (m : Model) (delivery : Delivered)
    (c' : ModeledKernel config) (m' : Model) : Prop
  /-- The operation stays as it is. -/
  | waits (hdelivery : ∀ msg, delivery ≠ .message memPort msg) (hwork : c'.work = c.work)
      (hheld : c'.held = c.held) (hmodel : m' = m) (hbegun : begun c c' = none)
  /-- An operation starts. -/
  | starts {stage : Stage} {events : List ProcessEvent}
      (hdelivery : ∀ msg, delivery ≠ .message memPort msg) (hheld : c.held = none)
      (hheld' : c'.held.isSome) (hwork : c'.work = some (.proc (.new stage)))
      (hbegun : begun c c' = some stage)
      (hstage : stage = .readFrame ∨ stage.OfBoot ∨ stage.Switches)
      (hfollows : Follows (fun e => ¬m.Operating ∧ BootEvent none e) m events m' stage)
      (hop : m.Operating → m'.Operating)
      (hstart : ∃ msg txn value d, delivery = .message gatePort (.memV1 msg) ∧
        EntersWith msg txn value ∧ m.Rests config ∧ m.start config value = .ok d ∧
          d.next = .new stage ∧ m' = d.model ∧ m'.source = m.source)
  /-- The outstanding access is answered. -/
  | completes {msg : MemV1.MemMsg} {txn : TxnId} {o o' : ProcOp} {completion : Completion}
      (hdelivery : delivery = .message memPort (.memV1 msg))
      (hstate : c.state = .wait (.proc o) txn)
      (hmsg : response msg = some (txn, some completion))
      (hcomplete : o.complete config completion = .ok (.ok o')) (hgoes : Goes c m o' c' m')

/-- What a step does to a kernel with processes. -/
lemma Step.acts {delivery : Delivered} {calls : List Call} (h : Step c delivery calls c')
    (hsound : c.Sound) (hm : c.model = some m) :
    ∃ m', c'.model = some m' ∧ Acts c m delivery c' m' := by
  have hproto {o : Operation} (hwork : c.work = some (.proto o)) : False := by
    have hfits := hsound.work
    rw [hwork] at hfits
    exact absurd (hm.symm.trans hfits) nofun
  cases h with
  | @enter msg txn value m₁ d hmsg hheld hmodel hstart =>
    rw [hm] at hmodel
    cases hmodel
    obtain ⟨hidle, hrests⟩ := hsound.rests hm hheld
    obtain ⟨hsource, stage, hnext, -⟩ := hsound.started hm hheld hstart
    obtain ⟨hkind, hop, events, hd⟩ := (start_follows hrests value).of_ok hstart
    rw [hnext] at hkind hd
    refine ⟨d.model, rfl, .starts (by rintro _ ⟨⟩) hheld rfl
      (congrArg (fun o => some (Work.proc o)) hnext) ?_ hkind hd hop
      ⟨msg, txn, value, d, rfl, hmsg, hrests, hstart, hnext, rfl, hsource⟩⟩
    exact begun_new (by rw [hidle]; exact nofun) (congrArg (fun o => State.issue (.proc o)) hnext)
  | enterProto hmsg hheld hmodel =>
    rw [hm] at hmodel
    cases hmodel
  | refuse haccess hempty hmsg =>
    exact ⟨m, hm, .waits (by rintro _ ⟨⟩) rfl rfl rfl begun_self⟩
  | issue hstate haccess hpermits htxn =>
    refine ⟨m, hm, .waits nofun ?_ rfl rfl ?_⟩
    · unfold ModeledKernel.work
      rw [hstate]
    · unfold begun
      rw [hstate]
  | @next msg txn o o' completion hstate hmsg hcomplete hfinished =>
    refine ⟨m, hm, .completes rfl hstate hmsg.response hcomplete (.next hfinished rfl rfl rfl ?_)⟩
    obtain ⟨-, hstep, -⟩ :=
      ProcOp.complete_spec (hsound.fits hm (work_of_wait hstate)).data hcomplete
    unfold begun
    rw [hstate]
    exact if_neg (by omega)
  | @stage msg txn o o' completion m₁ d next hstate hmsg hcomplete hfinished hmodel
    hadvance hnext =>
    rw [hm] at hmodel
    cases hmodel
    obtain ⟨hfits', hsettles⟩ := hsound.advanced hm (work_of_wait hstate) hcomplete hfinished
    have hsettles := hsettles d hadvance
    have hproceeds := (advance_follows hfits').of_ok hadvance
    unfold Decision.Settles at hsettles
    rw [hnext] at hsettles hproceeds
    obtain ⟨hsource, stage, rfl, -⟩ := hsettles
    obtain ⟨hstage, hop, events, hd, hsaves⟩ := hproceeds
    refine ⟨d.model, rfl, .completes rfl hstate hmsg.response hcomplete
      (.stage hfinished hfits' rfl rfl ?_ hstage hd hsaves hop ⟨d, hadvance, hnext, rfl, hsource⟩)⟩
    exact begun_new (by rw [hstate]; exact nofun) rfl
  | @release msg txn o o' completion m₁ d held hstate hmsg hcomplete hfinished hmodel hadvance
    hnext hheld =>
    rw [hm] at hmodel
    cases hmodel
    obtain ⟨hfits', -⟩ := hsound.advanced hm (work_of_wait hstate) hcomplete hfinished
    have hproceeds := (advance_follows hfits').of_ok hadvance
    rw [hnext] at hproceeds
    refine ⟨d.model, rfl, .completes rfl hstate hmsg.response hcomplete
      (.ends hfinished hproceeds.2 rfl rfl hproceeds.1 ?_)⟩
    unfold begun
    rw [hstate]
  | nextProto hstate hmsg hcomplete hfinished => exact (hproto (work_of_wait hstate)).elim
  | releaseProto hstate hmsg hcomplete hfinished hheld => exact (hproto (work_of_wait hstate)).elim

lemma Acts.turn {delivery : Delivered} (h : Acts c m delivery c' m') :
    ∃ events, Turn c m c' m' events := by
  cases h with
  | waits hdelivery hwork hheld hmodel hbegun =>
    cases hmodel
    exact ⟨[], turn_refl rfl rfl hbegun⟩
  | starts hdelivery hheld hheld' hwork hbegun hstage hfollows hop =>
    exact ⟨_, turn_of_follows hfollows (fun e he => .inl he) hbegun hop⟩
  | @completes msg txn o o' completion hdelivery hstate hmsg hcomplete hgoes =>
    cases hgoes with
    | next hfinished hwork hheld hmodel hbegun =>
      cases hmodel
      exact ⟨[], turn_refl rfl rfl hbegun⟩
    | stage hfinished hfits hwork hheld hbegun hstage hfollows hsaves hop =>
      have hcompletes : c.Completes o' := ⟨o, txn, completion, hstate, hcomplete, hfinished⟩
      exact ⟨_, turn_of_follows hfollows (fun e he => .inr ⟨o', hcompletes, hfits, he⟩) hbegun hop⟩
    | ends hfinished hstage hstate hheld hmodel hbegun =>
      cases hmodel
      exact ⟨[], turn_refl rfl rfl hbegun⟩

/-- Every step of a kernel with processes is one of them. -/
lemma Step.turn {delivery : Delivered} {calls : List Call} (h : Step c delivery calls c')
    (hsound : c.Sound) (hm : c.model = some m) :
    ∃ m' events, c'.model = some m' ∧ Turn c m c' m' events := by
  obtain ⟨m', hm', hacts⟩ := h.acts hsound hm
  obtain ⟨events, hturn⟩ := hacts.turn
  exact ⟨m', events, hm', hturn⟩

/-- The stages of the boot are those before the first process runs. -/
lemma ofBoot_iff {stage : Stage} (h : stage.Fits config m) : stage.OfBoot ↔ ¬m.Operating := by
  cases stage with
  | create pid space =>
    obtain ⟨-, -, -, -, -, -, -, hbooting⟩ := h
    exact iff_of_true trivial hbooting.not_operating
  | load cursor headers image space =>
    obtain ⟨-, -, -, -, -, -, -, hbooting⟩ := h
    exact iff_of_true trivial hbooting.not_operating
  | command cursor => exact iff_of_true trivial h.2.2.not_operating
  | poll cursor => exact iff_of_true trivial h.2.2.not_operating
  | ack cursor error => exact iff_of_true trivial h.2.2.not_operating
  | staged cursor len => exact iff_of_true trivial h.2.2.1.not_operating
  | dispatch pid context satp => exact iff_of_false id (not_not.mpr h.1.operating)
  | readFrame => exact iff_of_false id (not_not.mpr (Model.Running.operating h))
  | walk buffer pages table level => exact iff_of_false id (not_not.mpr (Model.Running.operating h))
  | output buffer pages done => exact iff_of_false id (not_not.mpr (Model.Running.operating h))
  | return_ sepc value => exact iff_of_false id (not_not.mpr (Model.Running.operating h))
  | shutdown reason => exact iff_of_false id (not_not.mpr (Model.Stopped.operating h))

lemma Changes.ofTrap {e : ProcessEvent} (h : c.Changes m e) (hop : m.Operating) : e.OfTrap := by
  rcases h with ⟨hnot, -⟩ | ⟨o, -, hfits, ⟨hstage, -⟩ | ⟨-, he⟩⟩
  · exact absurd hop hnot
  · exact absurd hop ((ofBoot_iff hfits).mp hstage)
  · exact he.ofTrap

lemma Changes.ofBoot {e : ProcessEvent} (h : c.Changes m e) (hop : ¬m.Operating) : e.OfBoot := by
  rcases h with ⟨-, he⟩ | ⟨o, -, hfits, ⟨-, he⟩ | ⟨hstage, -⟩⟩
  · exact he.ofBoot
  · exact he.ofBoot
  · have hboot := (ofBoot_iff hfits).mpr hop
    rw [hstage] at hboot
    exact hboot.elim

/-! ## Runs -/

section Runs

variable {stages : List Stage} {delivery : Delivered} {env : Surroundings} {calls : List Call}

lemma Sound.performs (h : c.Sound) (hc : (c.handleEvent delivery).Performs env calls c') :
    c'.Sound := by
  have hends := Handler.ends_of_perform env (c.handleEvent delivery)
  rw [show (c.handleEvent delivery).perform env = _ from hc] at hends
  obtain ⟨-, hsound⟩ := (handleEvent_keeps h delivery).ends hends
  exact hsound

lemma Sound.passes (h : c.Sound) (hpasses : Passes c stages c') : c'.Sound := by
  induction hpasses with
  | start => exact h
  | event _ hc ih => exact ih.performs hc

lemma Sound.turn (h : c.Sound) (hm : c.model = some m)
    (hc : (c.handleEvent delivery).Performs env calls c') :
    ∃ m' events, c'.model = some m' ∧ Turn c m c' m' events :=
  (step_of_performs hc).turn h hm

/-- The invariants of the process table, once the boot is over. -/
lemma Sound.ok_of_operating (h : c.Sound) (hm : c.model = some m) (hop : m.Operating) :
    m.procs.Ok m.entries none := by
  have hok := h.ok hm
  cases hwork : c.work with
  | none =>
    rw [hwork] at hok
    exact hok
  | some w =>
    rw [hwork] at hok
    cases w with
    | proto o => exact hok
    | proc o =>
      have hstage := (ofBoot_iff (h.fits hm hwork).stage).not.mpr (not_not.mpr hop)
      have hnone : o.stage.creating = none := by
        cases hcase : o.stage <;> rw [hcase] at hstage <;> first | rfl | exact absurd trivial hstage
      rw [show Work.creating (some (.proc o)) = o.stage.creating from rfl, hnone] at hok
      exact hok

lemma begun_eq_some {stage : Stage} (h : begun c c' = some stage) :
    ∃ o, c'.state = .issue (.proc o) ∧ o.stage = stage := by
  unfold begun at h
  split at h
  · cases h
  · next o hstate _ =>
    obtain ⟨-, h⟩ := Option.ite_none_right_eq_some.mp h
    exact ⟨o, hstate, Option.some.inj h⟩
  · cases h

lemma dispatchedPid_eq_some {stage : Stage} {pid : ℕ} (h : stage.dispatchedPid = some pid) :
    ∃ context satp, stage = .dispatch pid context satp := by
  cases stage with
  | dispatch pid' context satp =>
    cases h
    exact ⟨context, satp, rfl⟩
  | _ => cases h

/-- The process that is dispatched runs. -/
lemma Sound.running_of_begun (h : c'.Sound) (hm : c'.model = some m') {pid : ℕ}
    (hbegun : (begun c c').bind Stage.dispatchedPid = some pid) :
    m'.Running ∧ m'.procs.current = some pid := by
  obtain ⟨stage, hbegun, hpid⟩ := Option.bind_eq_some_iff.mp hbegun
  obtain ⟨context, satp, rfl⟩ := dispatchedPid_eq_some hpid
  obtain ⟨o, hstate, hstage⟩ := begun_eq_some hbegun
  have hwork : c'.work = some (.proc o) := by
    unfold ModeledKernel.work
    rw [hstate]
  have hfits := (h.fits hm hwork).stage
  rw [hstage] at hfits
  exact hfits

lemma filterMap_toList {α β : Type} (x : Option α) (f : α → Option β) :
    x.toList.filterMap f = (x.bind f).toList := by
  cases x with
  | none => rfl
  | some a =>
    rw [Option.toList_some, List.filterMap_cons, Option.bind_some]
    cases f a <;> rfl

lemma events_pids (events : List ProcessEvent) :
    events.filterMap ProcessEvent.dispatchedPid =
      (events.filterMap ProcessEvent.dispatch).map Prod.fst :=
  List.map_filterMap.symm

lemma stages_pids (stages : List Stage) :
    stages.filterMap Stage.dispatchedPid = (stages.filterMap Stage.dispatches).map Prod.fst :=
  List.map_filterMap.symm

/-- Once the boot is over, a run does to the processes what traps do, and dispatches the ones whose
stages begin. -/
lemma Sound.undergoes (h : c.Sound) (hm : c.model = some m) (hop : m.Operating)
    (hpasses : Passes c stages c') : ∃ m' events, c'.model = some m' ∧ m'.Operating ∧
      m.procs.Undergoes events m'.procs ∧ (∀ e ∈ events, e.OfTrap) ∧
      events.filterMap ProcessEvent.dispatch = stages.filterMap Stage.dispatches := by
  induction hpasses with
  | start => exact ⟨m, [], hm, hop, .refl, by simp, rfl⟩
  | @event stages c' c'' hpasses delivery env calls hc ih =>
    obtain ⟨m', events, hm', hop', hundergoes, htrap, hdispatches⟩ := ih
    obtain ⟨m'', events', hm'', hturn⟩ := (h.passes hpasses).turn hm' hc
    refine ⟨m'', events ++ events', hm'', hturn.operating hop',
      hundergoes.trans hturn.undergoes, ?_, ?_⟩
    · exact List.forall_mem_append.mpr ⟨htrap, fun e he => (hturn.kind e he).ofTrap hop'⟩
    · rw [List.filterMap_append, List.filterMap_append, hdispatches, hturn.dispatches,
        filterMap_toList]

/-- A process that has ended stays as it is. -/
lemma Sound.terminal_step (h : c.Sound) (hm : c.model = some m) {events : List ProcessEvent}
    (hturn : Turn c m c' m' events) {p : Pcb} (hp : p ∈ m.procs.pcbs)
    (hterminal : p.state.IsTerminal) :
    p ∈ m'.procs.pcbs := by
  by_cases hop : m.Operating
  · exact Processes.Undergoes.terminal (h.ok_of_operating hm hop) hturn.undergoes
      (fun e he => (hturn.kind e he).ofTrap hop) hp hterminal
  · exact (hturn.undergoes.terminal_boot (fun e he => (hturn.kind e he).ofBoot hop) hterminal).mpr
      hp

lemma Sound.terminal (h : c.Sound) (hm : c.model = some m) (hpasses : Passes c stages c') {p : Pcb}
    (hp : p ∈ m.procs.pcbs) (hterminal : p.state.IsTerminal) :
    p.pid ∉ stages.filterMap Stage.dispatchedPid ∧ ∃ m', c'.model = some m' ∧
      p ∈ m'.procs.pcbs := by
  induction hpasses with
  | start => exact ⟨by simp, m, hm, hp⟩
  | @event stages c' c'' hpasses delivery env calls hc ih =>
    obtain ⟨hnot, m', hm', hp'⟩ := ih
    obtain ⟨m'', events, hm'', hturn⟩ := (h.passes hpasses).turn hm' hc
    have hp'' := (h.passes hpasses).terminal_step hm' hturn hp' hterminal
    refine ⟨?_, m'', hm'', hp''⟩
    rw [List.filterMap_append, List.mem_append, not_or, filterMap_toList, Option.mem_toList]
    refine ⟨hnot, fun hbegun => ?_⟩
    obtain ⟨hrunning, hcurrent⟩ := ((h.passes hpasses).performs hc).running_of_begun hm'' hbegun
    obtain ⟨q, hq, hpid, hstate, -⟩ := hrunning.procs.running_pcb hcurrent
    rw [Processes.pid_inj hrunning.procs.ascending hq hp'' hpid] at hstate
    rw [hstate] at hterminal
    exact hterminal

lemma Sound.freed (h : c.Sound) (hm : c.model = some m) {events : List ProcessEvent}
    (hturn : Turn c m c' m' events) {p p' : Pcb} (hp : p ∈ m.procs.pcbs) (hp' : p' ∈ m'.procs.pcbs)
    (hpid : p'.pid = p.pid) (hterminal : p'.state.IsTerminal)
    {ppn : UInt32} (hppn : ppn ∈ p.frames) : m'.procs.frames.owner ppn = some 0 := by
  by_cases hop : m.Operating
  · exact Processes.Undergoes.freed (h.ok_of_operating hm hop) hturn.undergoes
      (fun e he => (hturn.kind e he).ofTrap hop) hp hp' hpid hterminal hppn
  · have hmem := (hturn.undergoes.terminal_boot (fun e he => (hturn.kind e he).ofBoot hop)
      hterminal).mp hp'
    have hok := h.ok hm
    obtain rfl := Processes.pid_inj hok.ascending hmem hp hpid
    obtain ⟨htables, hregions⟩ := (hok.pcb p' hp).dead hterminal
    unfold Pcb.frames at hppn
    rw [htables, hregions] at hppn
    cases hppn

lemma Step.model_isSome (h : Step c delivery calls c') : c'.model.isSome ↔ c.model.isSome := by
  cases h <;> simp_all

/-- The turn of a delivery, from the metadata after it. -/
lemma Sound.turn_into (h : c.Sound) (hm' : c'.model = some m')
    (hc : (c.handleEvent delivery).Performs env calls c') :
    ∃ m events, c.model = some m ∧ Turn c m c' m' events := by
  obtain ⟨m, hm⟩ := Option.isSome_iff_exists.mp ((step_of_performs hc).model_isSome.mp (hm' ▸ rfl))
  obtain ⟨m'', events, hm'', hturn⟩ := h.turn hm hc
  rw [hm'] at hm''
  cases hm''
  exact ⟨m, events, hm, hturn⟩

lemma Validated.empty (h₀ : c₀.Validated) (hm : c₀.model = some m) :
    m.procs.queue = [] ∧ m.procs.current = none ∧ m.procs.pcbs = [] := by
  cases h₀ with
  | prototype h =>
    obtain ⟨-, h⟩ := Checks.check_eq_ok.mp h
    cases h
    cases hm
  | processes plan h =>
    obtain ⟨-, h⟩ := Checks.check_eq_ok.mp h
    cases h
    cases hm
    exact ⟨rfl, rfl, rfl⟩
  | disk disk h =>
    obtain ⟨-, h⟩ := Checks.check_eq_ok.mp h
    cases h
    cases hm
    exact ⟨rfl, rfl, rfl⟩

/-- The first dispatches follow the order of the table. -/
lemma Validated.firstTurns (h₀ : c₀.Validated) (hpasses : Passes c₀ stages c)
    (hm : c.model = some m) :
    RunQueue.FirstTurns m.procs.pids (stages.filterMap Stage.dispatchedPid) m.procs.turns := by
  induction hpasses generalizing m with
  | start =>
    obtain ⟨hempty, hcurrent, hpcbs⟩ := h₀.empty hm
    refine ⟨?_, ?_, ?_⟩
    · unfold RunQueue.Distinct Processes.turns
      rw [hempty, hcurrent]
      exact .nil
    · unfold Processes.turns
      rw [hcurrent]
      exact nofun
    · unfold Processes.turns Processes.pids
      rw [hempty, hpcbs]
      rfl
  | @event stages c c' hpasses delivery env calls hc ih =>
    have hsound := h₀.sound.passes hpasses
    obtain ⟨m', events, hm', hturn⟩ := hsound.turn_into hm hc
    have hnodup : m.procs.pids.Nodup := by
      unfold Processes.pids
      rw [List.Nodup, List.pairwise_map]
      exact ((hsound.performs hc).ok hm).ascending.imp Nat.ne_of_lt
    have hfirst := hturn.undergoes.firstTurns hnodup (ih hm')
    rw [events_pids, hturn.dispatches, ← filterMap_toList, ← stages_pids] at hfirst
    rwa [List.filterMap_append]

end Runs

/-- Between two dispatches of a process come those that were queued at the first of them, each once
and in order.  A process that has ended owns no frame and is never dispatched again.  The first
dispatches follow the order of the PIDs. -/
theorem round_robin (h₀ : c₀.Validated) {stages : List Stage} (h : Passes c₀ stages c)
    (hm : c.model = some m) :
    (∀ delivery env calls c' m' pid, (c.handleEvent delivery).Performs env calls c' →
      c'.model = some m' → (begun c c').bind Stage.dispatchedPid = some pid →
        m'.procs.current = some pid ∧ m'.procs.queue.Nodup ∧
          ∀ stages c'' between, Passes c' stages c'' →
            stages.filterMap Stage.dispatchedPid = between ++ [pid] → pid ∉ between →
              between = m'.procs.queue) ∧
      (∀ delivery env calls c' m' p p', (c.handleEvent delivery).Performs env calls c' →
        c'.model = some m' → p ∈ m.procs.pcbs → p' ∈ m'.procs.pcbs → p'.pid = p.pid →
          p'.state.IsTerminal → ∀ ppn ∈ p.frames, m'.procs.frames.owner ppn = some 0) ∧
      (∀ p ∈ m.procs.pcbs, p.state.IsTerminal → ∀ stages c', Passes c stages c' →
        p.pid ∉ stages.filterMap Stage.dispatchedPid) ∧
      (stages.filterMap Stage.dispatchedPid).eraseDups <+: m.procs.pcbs.map Pcb.pid ∧
      (m.procs.pcbs.map Pcb.pid).Pairwise (· < ·) := by
  have hsound := h₀.sound.passes h
  have hok := hsound.ok hm
  refine ⟨?_, ?_, ?_, ?_, ?_⟩
  · intro delivery env calls c' m' pid hc hm' hbegun
    have hsound' := hsound.performs hc
    obtain ⟨hrunning, hcurrent⟩ := hsound'.running_of_begun hm' hbegun
    refine ⟨hcurrent, hrunning.procs.queue_nodup, ?_⟩
    intro stages c'' between hpasses hstages hbetween
    obtain ⟨m'', events, -, -, hundergoes, htrap, hdispatches⟩ :=
      hsound'.undergoes hm' hrunning.operating hpasses
    have hturns := hundergoes.turns htrap
    rw [events_pids, hdispatches, ← stages_pids, hstages, Processes.turns, hcurrent] at hturns
    refine hturns.between ?_ hbetween
    intro hqueue
    obtain ⟨p, hp, hpid, hready⟩ := (hrunning.procs.queue pid).mp hqueue
    obtain ⟨q, hq, hpid', hstate, -⟩ := hrunning.procs.running_pcb hcurrent
    rw [Processes.pid_inj hrunning.procs.ascending hp hq (hpid.trans hpid'.symm), hstate] at hready
    cases hready
  · intro delivery env calls c' m' p p' hc hm' hp hp' hpid hterminal ppn hppn
    obtain ⟨m'', events, hm'', hturn⟩ := hsound.turn hm hc
    rw [hm'] at hm''
    cases hm''
    exact hsound.freed hm hturn hp hp' hpid hterminal hppn
  · intro p hp hterminal stages c' hpasses
    exact (hsound.terminal hm hpasses hp hterminal).1
  · have hfirst := h₀.firstTurns h hm
    exact ⟨_, hfirst.order⟩
  · rw [List.pairwise_map]
    exact hok.ascending

end ModeledKernel

end SystemScope.Os
