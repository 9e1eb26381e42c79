import SystemScope.Os.Contexts
import SystemScope.Os.TrapFrame

/-!
# Preservation of contexts

What a process trapped with, or starts with, is in the trap frame again after its next dispatch,
whatever the other processes did in between (`Machine.context_preserved`).  In between, its context
is in its PCB and nowhere else.
-/

namespace SystemScope.Os

open Processes

/-- What is known of a process from when it is saved on: its context stays in its PCB until it is
dispatched with it, in its own space. -/
structure Carries (pcb : Pcb) (stages : List Stage) (m : Model) : Prop where
  keeps : Keeps pcb (stages.filterMap Stage.dispatches) m.procs
  root : ∃ p ∈ m.procs.pcbs, p.pid = pcb.pid ∧ p.root = pcb.root
  satp : ∀ context satp, .dispatch pcb.pid context satp ∈ stages → satp = Pte.satp pcb.root

lemma dispatch_mem {stage : Stage} {pid : ℕ} {context : Context}
    (h : (pid, context) ∈ stage.dispatches) :
    ∃ satp, stage = .dispatch pid context satp := by
  cases stage with
  | dispatch pid' context' satp =>
    cases h
    exact ⟨satp, rfl⟩
  | _ => cases h

section Carries

variable {pcb : Pcb} {stages : List Stage} {m : Model} {pid : ℕ} {context : Context} {satp : UInt32}

lemma carries_ready (hp : pcb ∈ m.procs.pcbs) : Carries pcb [] m :=
  ⟨hp, ⟨pcb, hp, rfl, rfl⟩, nofun⟩

/-- The first dispatch is with what was saved. -/
lemma Carries.dispatch {between : List Stage}
    (h : Carries pcb (between ++ [.dispatch pcb.pid context satp]) m)
    (hnot : pcb.pid ∉ between.filterMap Stage.dispatchedPid) :
    pcb.context = some context ∧ satp = Pte.satp pcb.root := by
  refine ⟨?_, h.satp context satp (by simp)⟩
  have hkeeps := h.keeps
  have hnone : (between.filterMap Stage.dispatches).find? (fun d => d.1 = pcb.pid) = none := by
    rw [ModeledKernel.stages_pids] at hnot
    rw [List.find?_eq_none]
    intro d hd hpid
    exact hnot (List.mem_map.mpr ⟨d, hd, by simpa using hpid⟩)
  rw [List.filterMap_append] at hkeeps
  unfold Keeps at hkeeps
  rw [List.find?_append, hnone, Option.none_or] at hkeeps
  rwa [show [Stage.dispatch pcb.pid context satp].filterMap Stage.dispatches = [(pcb.pid, context)]
    from rfl, List.find?_cons_of_pos (by simp)] at hkeeps

/-- Whatever happens to the processes next. -/
lemma Carries.follows {m' : Model} {events : List ProcessEvent} (h : Carries pcb stages m)
    (begun : Option Stage) (htidy : m.procs.Tidy) (hready : pcb.state = .ready)
    (hundergoes : m.procs.Undergoes events m'.procs)
    (hdispatches : events.filterMap ProcessEvent.dispatch = (begun.bind Stage.dispatches).toList)
    (hsatp : ∀ pid context satp, begun = some (.dispatch pid context satp) →
      ∃ p, m'.procs.pcb pid = some p ∧ satp = Pte.satp p.root) :
    Carries pcb (stages ++ begun.toList) m' := by
  have htidy' : m'.procs.Tidy := (hundergoes.invariant (P := fun _ _ => True) htidy trivial
    fun _ _ _ _ _ _ _ => trivial).1
  obtain ⟨p, hp, hpid, hroot⟩ := h.root
  obtain ⟨p', hp', hpid', hroot'⟩ := hundergoes.root htidy hp
  refine ⟨?_, ⟨p', hp', hpid'.trans hpid, hroot'.trans hroot⟩, ?_⟩
  · rw [List.filterMap_append, ModeledKernel.filterMap_toList, ← hdispatches]
    exact hundergoes.kept htidy hready h.keeps
  · intro context satp hmem
    rcases List.mem_append.mp hmem with hmem | hmem
    · exact h.satp context satp hmem
    · obtain ⟨q, hq, rfl⟩ := hsatp _ _ _ (Option.mem_toList.mp hmem)
      obtain ⟨hq, hqpid⟩ := (find_pid htidy'.ascending).mp hq
      rw [pid_inj htidy'.ascending hq hp' (by rw [hqpid, hpid', hpid]), hroot', hroot]

end Carries

namespace Machine

variable {config : KernelConfig} {bus : BusMap config} {others : Others config}
  {x x' x₀ : Machine config} {m : Model} {pcb : Pcb}

/-- The process as the stage of the operation saves it: one that is created, with its initial
context, or the one that runs, if it yields, with the context that it trapped with. -/
def Saves (x : Machine config) (m : Model) (pcb : Pcb) : Prop :=
  ∃ o, x.kernel.work = some (.proc o) ∧
    (m.created o.stage = some pcb ∨
      o.stage = .readFrame ∧ AsksToYield x.trapped ∧ ∃ p ∈ m.procs.pcbs,
        m.procs.current = some p.pid ∧
        pcb = { p with state := .ready, context := some (Model.yieldContext x.trapped) })

/-- A process is saved ready. -/
lemma Saves.ready (h : x.Saves m pcb) : pcb.state = .ready := by
  obtain ⟨o, -, hcreated | ⟨-, -, p, -, -, rfl⟩⟩ := h
  · unfold Model.created at hcreated
    split at hcreated
    · split at hcreated
      · obtain ⟨boot, -, rfl⟩ := Option.map_eq_some_iff.mp hcreated
        rfl
      · cases hcreated
    · cases hcreated
      rfl
    · cases hcreated
  · rfl

/-- A stage that saves a process is not the last one of an operation. -/
lemma not_ends {o : ProcOp} (h : m.created o.stage = some pcb ∨ o.stage = .readFrame) :
    ¬o.stage.Ends := by
  intro hends
  rcases h with h | h
  · cases hstage : o.stage <;> rw [hstage] at h hends <;> first | exact hends.elim | cases h
  · rw [h] at hends
    exact hends

/-- The first change after the stage saves the process, and what comes after it keeps it. -/
lemma carries_saved {m' : Model} {o : ProcOp} {events : List ProcessEvent} {stage : Stage}
    (htidy : m.procs.Tidy) (hfollows : Follows (o.Changes m) m events m' stage)
    (hsaves : ∀ e, o.Saves m e → ∃ rest, events = e :: rest) (hready : pcb.state = .ready)
    (h : m.created o.stage = some pcb ∨
      o.stage = .readFrame ∧ AsksToYield o.data ∧ ∃ p ∈ m.procs.pcbs, m.procs.current = some p.pid ∧
        pcb = { p with state := .ready, context := some (Model.yieldContext o.data) }) :
    Carries pcb [stage] m' := by
  have hfirst : ∃ (e : ProcessEvent) (rest : List ProcessEvent) (ps : Processes),
    events = e :: rest ∧
      e.dispatch = none ∧ pcb ∈ ps.pcbs ∧ ps.Tidy ∧ ps.Undergoes rest m'.procs := by
    have hundergoes := hfollows.undergoes
    rcases h with hcreated | ⟨hread, hasks, p, hp, hcurrent, rfl⟩
    · obtain ⟨rest, rfl⟩ := hsaves (.admitted pcb) hcreated
      obtain ⟨ps, hone, hrest⟩ :=
        Undergoes.split (show m.procs.Undergoes ([.admitted pcb] ++ rest) m'.procs from hundergoes)
      obtain ⟨htidy', htouches⟩ := hone.touches htidy
      refine ⟨_, rest, ps, rfl, rfl, ?_, htidy', hrest⟩
      cases htouches with
      | admitted hfresh hpcbs =>
        rw [hpcbs]
        exact List.mem_append_right _ (List.mem_singleton_self pcb)
    · obtain ⟨rest, rfl⟩ := hsaves (.yielded p.pid (Model.yieldContext o.data))
        ⟨hread, hcurrent, hasks, rfl⟩
      obtain ⟨ps, hone, hrest⟩ := Undergoes.split (show m.procs.Undergoes
        ([.yielded p.pid (Model.yieldContext o.data)] ++ rest) m'.procs from hundergoes)
      obtain ⟨htidy', htouches⟩ := hone.touches htidy
      refine ⟨_, rest, ps, rfl, rfl, ?_, htidy', hrest⟩
      generalize hpid : p.pid = pid at htouches
      cases htouches with
      | @yielded q context hq hrunning hpcbs =>
        obtain rfl := pid_inj htidy.ascending hp hq hpid
        exact (hpcbs _).mpr (.inr rfl)
  obtain ⟨e, rest, ps, rfl, hnone, hmem, htidy', hrest⟩ := hfirst
  have hcarries : Carries pcb [] { m with procs := ps } := carries_ready hmem
  refine hcarries.follows (some stage) htidy' hready hrest ?_ ?_
  · have hdispatches := hfollows.dispatches
    rwa [List.filterMap_cons_none hnone] at hdispatches
  · rintro pid context satp ⟨⟩
    exact hfollows.satp pid context satp rfl

/-- A process that is being saved is saved, or goes on being saved. -/
lemma Step.saves (h : Step bus others x x') (hsound : x.kernel.Sound)
    (hm : x.kernel.model = some m) (hframed : x.Framed) (hsaves : x.Saves m pcb) :
    ∃ m', x'.kernel.model = some m' ∧ ((x'.Saves m' pcb ∧ x.kernel.begun x'.kernel = none) ∨
      Carries pcb (x.kernel.begun x'.kernel).toList m') := by
  have hready := hsaves.ready
  obtain ⟨o, hwork, hkind⟩ := hsaves
  have hheld : x.kernel.held.isSome := hsound.held.mpr (by rw [hwork]; rfl)
  obtain ⟨m', hm', hacts⟩ := h.acts hsound hm
  refine ⟨m', hm', ?_⟩
  cases hacts with
  | others hkernel hmodel hmemory huart htrapped =>
    subst hmodel
    refine .inl ⟨⟨o, hkernel ▸ hwork, htrapped ▸ hkind⟩, ?_⟩
    rw [hkernel]
    exact ModeledKernel.begun_self
  | waits hwork' hheld' hmodel hbegun hmemory huart htrapped =>
    subst hmodel
    exact .inl ⟨⟨o, hwork'.trans hwork, htrapped hheld ▸ hkind⟩, hbegun⟩
  | starts hnone =>
    rw [hnone] at hheld
    cases hheld
  | @completes o₁ o' access completion hwork' haccess hanswers hcomplete hgoes hmemory huart
    htrapped =>
    rw [hwork] at hwork'
    cases hwork'
    have hstage := (ProcOp.complete_spec (hsound.fits hm hwork).data hcomplete).1
    cases hgoes with
    | next hfinished hwork'' hheld' hmodel hbegun =>
      subst hmodel
      refine .inl ⟨⟨o', hwork'', ?_⟩, hbegun⟩
      rw [hstage, htrapped]
      exact hkind
    | stage hfinished hfits hwork'' hheld' hbegun hnext hfollows hfirst hop =>
      right
      rw [hbegun]
      refine carries_saved (hsound.ok hm).tidy hfollows hfirst hready ?_
      rw [hstage]
      refine hkind.imp_right fun ⟨hread, hyields⟩ => ⟨hread, ?_⟩
      have hframed' := hframed.completes hsound hm hwork haccess hanswers hcomplete hmemory
      obtain ⟨-, hdata⟩ := framed_readAll hframed' (hstage.trans hread) x'.length_frame hfinished
      rwa [hdata]
    | ends hfinished hends =>
      rw [hstage] at hends
      exact absurd hends (not_ends (hkind.imp_right And.left))

lemma Step.sound (h : Step bus others x x') (hsound : x.kernel.Sound) : x'.kernel.Sound := by
  rcases h.kernel with hsame | ⟨delivery, env, calls, hc⟩
  · rwa [hsame]
  · exact hsound.performs hc

lemma Step.turn (h : Step bus others x x') (hsound : x.kernel.Sound)
    (hm : x.kernel.model = some m) :
    ∃ m' events, x'.kernel.model = some m' ∧ ModeledKernel.Turn x.kernel m x'.kernel m' events := by
  rcases h.kernel with hsame | ⟨delivery, env, calls, hc⟩
  · refine ⟨m, [], hsame ▸ hm, ModeledKernel.turn_refl rfl rfl ?_⟩
    rw [hsame]
    exact ModeledKernel.begun_self
  · exact hsound.turn hm hc

/-- A process that is saved is dispatched with what was saved. -/
lemma Runs.carries {stages : List Stage} (h : Runs bus others x stages x') (hsound : x.kernel.Sound)
    (hm : x.kernel.model = some m) (hothers : KeepFrame others) (hframed : x.Framed)
    (hsaves : x.Saves m pcb) : x'.kernel.Sound ∧ x'.Framed ∧ ∃ m', x'.kernel.model = some m' ∧
      ((x'.Saves m' pcb ∧ stages = []) ∨ Carries pcb stages m') := by
  induction h with
  | start => exact ⟨hsound, hframed, m, hm, .inl ⟨hsaves, rfl⟩⟩
  | @step stages x' x'' _ hstep ih =>
    obtain ⟨hsound', hframed', m', hm', hcases⟩ := ih
    refine ⟨hstep.sound hsound', hstep.framed hothers hsound' hm' hframed', ?_⟩
    rcases hcases with ⟨hsaves', rfl⟩ | hcarries
    · obtain ⟨m'', hm'', hcases⟩ := hstep.saves hsound' hm' hframed' hsaves'
      refine ⟨m'', hm'', hcases.imp (fun ⟨hsaves, hbegun⟩ => ⟨hsaves, ?_⟩) id⟩
      rw [hbegun]
      rfl
    · obtain ⟨m'', events, hm'', hturn⟩ := hstep.turn hsound' hm'
      exact ⟨m'', hm'', .inr (hcarries.follows _ (hsound'.ok hm').tidy hsaves.ready
        hturn.undergoes hturn.dispatches hturn.satp)⟩

lemma Runs.last_stage {stages : List Stage} (h : Runs bus others x stages x')
    (hsound : x.kernel.Sound) (hm : x.kernel.model = some m) :
    ∃ m', x'.kernel.model = some m' ∧ ∀ stage ∈ stages.getLast?, ∀ o,
      x'.kernel.work = some (.proc o) → o.stage = stage := by
  induction h with
  | start => exact ⟨m, hm, nofun⟩
  | @step stages x' x'' hruns hstep ih =>
    obtain ⟨m', hm', hlast⟩ := ih
    have hsound' := hsound.passes hruns.passes
    obtain ⟨m'', hm'', hacts⟩ := hstep.acts hsound' hm'
    refine ⟨m'', hm'', ?_⟩
    -- A stage that has begun is the one that the operation is in.
    have hnew {stage : Stage} (hbegun : x'.kernel.begun x''.kernel = some stage)
        (hwork : x''.kernel.work = some (.proc (.new stage))) :
        ∀ s ∈ (stages ++ (x'.kernel.begun x''.kernel).toList).getLast?, ∀ o,
          x''.kernel.work = some (.proc o) → o.stage = s := by
      intro s hs o hwork'
      rw [hbegun, Option.toList_some, List.getLast?_concat] at hs
      rw [hwork] at hwork'
      cases hs
      cases hwork'
      rfl
    have hsame (hbegun : x'.kernel.begun x''.kernel = none)
        (hwork : ∀ o', x''.kernel.work = some (.proc o') →
          ∃ o, x'.kernel.work = some (.proc o) ∧ o'.stage = o.stage) :
        ∀ s ∈ (stages ++ (x'.kernel.begun x''.kernel).toList).getLast?, ∀ o,
          x''.kernel.work = some (.proc o) → o.stage = s := by
      intro s hs o hwork'
      rw [hbegun, Option.toList_none, List.append_nil] at hs
      obtain ⟨o', hwork'', hstage⟩ := hwork o hwork'
      rw [hstage]
      exact hlast s hs o' hwork''
    cases hacts with
    | others hkernel =>
      rw [hkernel] at hsame ⊢
      exact hsame ModeledKernel.begun_self fun o ho => ⟨o, ho, rfl⟩
    | waits hwork hheld hmodel hbegun => exact hsame hbegun fun o ho => ⟨o, hwork ▸ ho, rfl⟩
    | starts hheld hheld' hwork hbegun => exact hnew hbegun hwork
    | completes hwork haccess hanswers hcomplete hgoes =>
      cases hgoes with
      | next hfinished hwork' hheld hmodel hbegun =>
        refine hsame hbegun fun o ho => ?_
        rw [hwork'] at ho
        cases ho
        exact ⟨_, hwork, (ProcOp.complete_spec (hsound'.fits hm' hwork).data hcomplete).1⟩
      | stage hfinished hfits hwork' hheld hbegun => exact hnew hbegun hwork'
      | ends hfinished hstage hstate hheld hmodel hbegun =>
        refine hsame hbegun fun o ho => ?_
        unfold ModeledKernel.work at ho
        rw [hstate] at ho
        cases ho

/-- The last access of an operation. -/
lemma Step.ends (h : Step bus others x x') (hsound : x.kernel.Sound) (hm : x.kernel.model = some m)
    (hframed : x.Framed) (hheld : x.kernel.held.isSome) (hheld' : x'.kernel.held = none) :
    ∃ o o', x.kernel.work = some (.proc o) ∧ o'.stage = o.stage ∧ o'.isFinished config = .ok true ∧
      Os.Framed config x'.frame x.trapped o' ∧ x'.kernel.model = some m := by
  obtain ⟨m', hm', hacts⟩ := h.acts hsound hm
  have hne : x'.kernel.held ≠ x.kernel.held := by
    intro hsame
    rw [← hsame, hheld'] at hheld
    cases hheld
  cases hacts with
  | others hkernel => exact absurd (congrArg ModeledKernel.held hkernel) hne
  | waits hwork hsame => exact absurd hsame hne
  | starts hnone hsome =>
    rw [hheld'] at hsome
    cases hsome
  | @completes o o' access completion hwork haccess hanswers hcomplete hgoes hmemory =>
    cases hgoes with
    | next hfinished hwork' hsame => exact absurd hsame hne
    | stage hfinished hfits hwork' hsame => exact absurd hsame hne
    | ends hfinished hstage hstate hnone hmodel hbegun =>
      subst hmodel
      exact ⟨o, o', hwork, (ProcOp.complete_spec (hsound.fits hm hwork).data hcomplete).1,
        hfinished,
        hframed.completes hsound hm hwork haccess hanswers hcomplete hmemory, hm'⟩

/-- The kernel and the frame are what they should be in every state of a run. -/
lemma Runs.framed {stages : List Stage} (h : Runs bus others x stages x') (hsound : x.kernel.Sound)
    (hm : x.kernel.model = some m) (hothers : KeepFrame others) (hframed : x.Framed) :
    x'.kernel.Sound ∧ x'.Framed ∧ x'.kernel.model.isSome := by
  induction h with
  | start => exact ⟨hsound, hframed, hm ▸ rfl⟩
  | step _ hstep ih =>
    obtain ⟨hsound', hframed', hmodel⟩ := ih
    obtain ⟨m', hm'⟩ := Option.isSome_iff_exists.mp hmodel
    obtain ⟨m'', hm'', -⟩ := hstep.acts hsound' hm'
    exact ⟨hstep.sound hsound', hstep.framed hothers hsound' hm' hframed', hm'' ▸ rfl⟩

lemma saves_of_saved (hsound : x.kernel.Sound) (hm : x.kernel.model = some m) {o : ProcOp}
    (hwork : x.kernel.work = some (.proc o)) {o' : ProcOp} (hstage : o'.stage = o.stage)
    (hframed : Os.Framed config x'.frame x.trapped o') (hfinished : o'.isFinished config = .ok true)
    {events : List ProcessEvent} (hkind : ∀ e ∈ events, o'.Changes m e) {pid : ℕ}
    {context : Context}
    (h : Saved events pid context) :
      ∃ pcb, x.Saves m pcb ∧ pcb.pid = pid ∧ pcb.context = some context := by
  rcases h with hyielded | ⟨pcb, hadmitted, hpid, hcontext⟩
  · rcases hkind _ hyielded with ⟨-, hboot⟩ | ⟨hread, hcurrent, hasks, rfl⟩
    · exact hboot.elim
    · obtain ⟨p, hp, rfl, -⟩ := (hsound.ok hm).tidy.running pid hcurrent
      obtain ⟨-, hdata⟩ := framed_readAll hframed hread x'.length_frame hfinished
      rw [hdata] at hasks ⊢
      exact ⟨_, ⟨o, hwork, .inr ⟨hstage ▸ hread, hasks, p, hp, hcurrent, rfl⟩⟩, rfl, rfl⟩
  · rcases hkind _ hadmitted with ⟨-, hcreated⟩ | ⟨-, htrap⟩
    · exact ⟨pcb, ⟨o, hwork, .inl (hstage ▸ hcreated)⟩, hpid, hcontext⟩
    · exact htrap.elim

/-- The contexts in the table and in the dispatches after a step were in the table before it, or are
saved by it. -/
structure Inherits (x : Machine config) (m : Model) (x' : Machine config) (m' : Model) : Prop where
  table : ∀ p ∈ m'.procs.pcbs, ∀ context, p.context = some context → p ∈ m.procs.pcbs ∨
    ∃ pcb, x.Saves m pcb ∧ pcb.pid = p.pid ∧ pcb.context = some context
  dispatch : ∀ pid context satp, x.kernel.begun x'.kernel = some (.dispatch pid context satp) →
    (∃ p ∈ m.procs.pcbs, p.pid = pid ∧ p.context = some context) ∨
      ∃ pcb, x.Saves m pcb ∧ pcb.pid = pid ∧ pcb.context = some context

lemma inherits_self (hbegun : x.kernel.begun x'.kernel = none) : x.Inherits m x' m where
  table p hp _ _ := .inl hp
  dispatch := by
    rw [hbegun]
    exact nofun

lemma inherits_follows {m' : Model} {kind : ProcessEvent → Prop} {events : List ProcessEvent}
    {stage : Stage} (htidy : m.procs.Tidy) (hfollows : Follows kind m events m' stage)
    (hbegun : x.kernel.begun x'.kernel = some stage)
    (hsaved : ∀ pid context, Saved events pid context →
      ∃ pcb, x.Saves m pcb ∧ pcb.pid = pid ∧ pcb.context = some context) : x.Inherits m x' m' where
  table p hp context hcontext :=
    ((hfollows.undergoes.origin htidy).1 p hp context hcontext).imp_right (hsaved _ _)
  dispatch pid context satp hdispatch := by
    rw [hbegun] at hdispatch
    cases hdispatch
    refine ((hfollows.undergoes.origin htidy).2 pid context ?_).imp_right (hsaved _ _)
    have hmem : (pid, context) ∈ events.filterMap ProcessEvent.dispatch := by
      rw [hfollows.dispatches]
      exact List.mem_singleton_self _
    obtain ⟨e, he, hevent⟩ := List.mem_filterMap.mp hmem
    cases e with
    | dispatched pid' context' =>
      cases hevent
      exact he
    | _ => cases hevent

lemma Step.inherits (h : Step bus others x x') (hsound : x.kernel.Sound)
    (hm : x.kernel.model = some m) (hframed : x.Framed) {m' : Model}
    (hm' : x'.kernel.model = some m') :
    x.Inherits m x' m' := by
  have htidy := (hsound.ok hm).tidy
  obtain ⟨m'', hm'', hacts⟩ := h.acts hsound hm
  rw [hm'] at hm''
  cases hm''
  cases hacts with
  | others hkernel hmodel =>
    subst hmodel
    refine inherits_self ?_
    rw [hkernel]
    exact ModeledKernel.begun_self
  | waits hwork hheld hmodel hbegun =>
    subst hmodel
    exact inherits_self hbegun
  | starts hheld hheld' hwork hbegun hstage hfollows =>
    refine inherits_follows htidy hfollows hbegun ?_
    rintro pid context (hyielded | ⟨pcb, hadmitted, -⟩)
    · exact (hfollows.kind _ hyielded).2.elim
    · cases (hfollows.kind _ hadmitted).2
  | @completes o o' access completion hwork haccess hanswers hcomplete hgoes hmemory =>
    cases hgoes with
    | next hfinished hwork' hheld hmodel hbegun =>
      subst hmodel
      exact inherits_self hbegun
    | stage hfinished hfits hwork' hheld hbegun hnext hfollows =>
      have hstage := (ProcOp.complete_spec (hsound.fits hm hwork).data hcomplete).1
      have hframed' := hframed.completes hsound hm hwork haccess hanswers hcomplete hmemory
      exact inherits_follows htidy hfollows hbegun fun pid context hsaved =>
        saves_of_saved hsound hm hwork hstage hframed' hfinished hfollows.kind hsaved
    | ends hfinished hstage hstate hheld hmodel hbegun =>
      subst hmodel
      exact inherits_self hbegun

/-- A process that is ready, or that a step saves, is dispatched in its own space. -/
lemma Step.carries (h : Step bus others x x') (hsound : x.kernel.Sound)
    (hm : x.kernel.model = some m)
    (hp : pcb ∈ m.procs.pcbs) (hready : pcb.state = .ready) {m' : Model}
    (hm' : x'.kernel.model = some m') : Carries pcb (x.kernel.begun x'.kernel).toList m' := by
  obtain ⟨m'', events, hm'', hturn⟩ := h.turn hsound hm
  rw [hm'] at hm''
  cases hm''
  exact (carries_ready hp).follows _ (hsound.ok hm).tidy hready hturn.undergoes hturn.dispatches
    hturn.satp

/-- No operation runs in a kernel as it is built. -/
lemma framed_of_validated (h₀ : x₀.kernel.Validated) : x₀.Framed := by
  intro o hwork
  cases h₀ with
  | prototype h =>
    obtain ⟨-, h⟩ := Checks.check_eq_ok.mp h
    rw [← Except.ok.inj h] at hwork
    cases hwork
  | processes plan h =>
    obtain ⟨-, h⟩ := Checks.check_eq_ok.mp h
    rw [← Except.ok.inj h] at hwork
    cases hwork
  | disk disk h =>
    obtain ⟨-, h⟩ := Checks.check_eq_ok.mp h
    rw [← Except.ok.inj h] at hwork
    cases hwork

lemma Runs.model_isSome {stages : List Stage} (h : Runs bus others x₀ stages x) :
    x.kernel.model.isSome ↔ x₀.kernel.model.isSome := by
  induction h with
  | start => exact Iff.rfl
  | step _ hstep ih =>
    refine Iff.trans ?_ ih
    rcases hstep.kernel with hsame | ⟨delivery, env, calls, hc⟩
    · rw [hsame]
    · exact (ModeledKernel.step_of_performs hc).model_isSome

/-- A process that yields or is created is dispatched next with the context that it trapped with or
starts with, which is then in the trap frame, with its own `satp` and the action to resume.  A
syscall that returns changes only `a0` and `sepc` of the frame.  The context of a process that is
ready stays in its PCB until it is dispatched, and contexts get into PCBs and dispatches from
nowhere else. -/
theorem context_preserved (h₀ : x₀.kernel.Validated) (hothers : KeepFrame others)
    {stages : List Stage}
    (h : Runs bus others x₀ stages x) (hm : x.kernel.model = some m) :
    (∀ pcb, x.Saves m pcb → ∀ between context satp x',
      Runs bus others x (between ++ [.dispatch pcb.pid context satp]) x' →
        pcb.pid ∉ between.filterMap Stage.dispatchedPid →
          pcb.context = some context ∧ satp = Pte.satp pcb.root ∧
            ∀ x'', Step bus others x' x'' → x'.kernel.held.isSome → x''.kernel.held = none →
              Context.fromFrame x''.frame = context ∧ word x''.frame frameSatp = satp ∧
                word x''.frame frameAction = 0) ∧
      (∀ o sepc value, x.kernel.work = some (.proc o) → o.stage = .return_ sepc value →
        ∀ x', Step bus others x x' → x'.kernel.held = none →
          x'.kernel.model = some m ∧ x'.frame = putWord (putWord x.trapped frameA0 value) frameSepc
            (word x.trapped frameSepc + 4)) ∧
      (∀ x' m', Step bus others x x' → x'.kernel.model = some m' →
        (∀ p ∈ m.procs.pcbs, p.state = .ready → p ∈ m'.procs.pcbs ∨
          ∃ context satp, x.kernel.begun x'.kernel = some (.dispatch p.pid context satp) ∧
            p.context = some context) ∧
        (∀ p ∈ m'.procs.pcbs, ∀ context, p.context = some context → p ∈ m.procs.pcbs ∨
          ∃ pcb, x.Saves m pcb ∧ pcb.pid = p.pid ∧ pcb.context = some context) ∧
        ∀ pid context satp, x.kernel.begun x'.kernel = some (.dispatch pid context satp) →
          ∃ pcb, (pcb ∈ m.procs.pcbs ∨ x.Saves m pcb) ∧ pcb.pid = pid ∧
            pcb.context = some context ∧ satp = Pte.satp pcb.root) ∧
      ∀ o pid context satp access, x.kernel.work = some (.proc o) →
        o.stage = .dispatch pid context satp → o.access config = .ok (some access) →
          access.Within config.trapFrame.toNat frameBytes := by
  obtain ⟨m₀, hm₀⟩ := Option.isSome_iff_exists.mp (h.model_isSome.mp (hm ▸ rfl))
  obtain ⟨hsound, hframed, -⟩ := h.framed h₀.sound hm₀ hothers (framed_of_validated h₀)
  refine ⟨?_, ?_, ?_, ?_⟩
  · intro pcb hsaves between context satp x' hruns hnot
    obtain ⟨hsound', hframed', m', hm', hcases⟩ := hruns.carries hsound hm hothers hframed hsaves
    have hcarries : Carries pcb (between ++ [.dispatch pcb.pid context satp]) m' :=
      hcases.resolve_left fun h => absurd h.2 (by simp)
    obtain ⟨hcontext, hsatp⟩ := hcarries.dispatch hnot
    refine ⟨hcontext, hsatp, fun x'' hstep hheld hheld' => ?_⟩
    obtain ⟨o, o', hwork, hstage, hfinished, hframed'', -⟩ :=
      hstep.ends hsound' hm' hframed' hheld hheld'
    obtain ⟨-, -, hlast⟩ := hruns.last_stage hsound hm
    have hdispatch := hlast _ List.getLast?_concat o hwork
    exact framed_dispatchAll hframed'' (hstage.trans hdispatch) x''.length_frame hfinished
  · intro o sepc value hwork hstage x' hstep hheld'
    have hheld : x.kernel.held.isSome := hsound.held.mpr (by rw [hwork]; rfl)
    obtain ⟨o₁, o', hwork', hstage', hfinished, hframed', hm'⟩ :=
      hstep.ends hsound hm hframed hheld hheld'
    rw [hwork] at hwork'
    cases hwork'
    exact ⟨hm', framed_returnAll hframed' (hstage'.trans hstage) hfinished⟩
  · intro x' m' hstep hm'
    have hinherits := hstep.inherits hsound hm hframed hm'
    refine ⟨?_, hinherits.table, ?_⟩
    · intro p hp hready
      refine (hstep.carries hsound hm hp hready hm').keeps.cases.imp_right ?_
      rintro ⟨context, hmem, hcontext⟩
      obtain ⟨stage, hbegun, hdispatch⟩ := List.mem_filterMap.mp hmem
      obtain ⟨satp, rfl⟩ := dispatch_mem hdispatch
      exact ⟨context, satp, Option.mem_toList.mp hbegun, hcontext⟩
    · intro pid context satp hbegun
      rcases hinherits.dispatch pid context satp hbegun with
        ⟨p, hp, rfl, hcontext⟩ | ⟨pcb, hsaves, rfl, hcontext⟩
      · have hready : p.state = .ready := ((hsound.ok hm).pcb p hp).context.mpr (hcontext ▸ rfl)
        have hcarries := hstep.carries hsound hm hp hready hm'
        exact ⟨p, .inl hp, rfl, hcontext, hcarries.satp context satp (by simp [hbegun])⟩
      · obtain ⟨m'', hm'', hcases⟩ := hstep.saves hsound hm hframed hsaves
        rcases hcases with ⟨-, hnone⟩ | hcarries
        · rw [hnone] at hbegun
          cases hbegun
        · exact ⟨pcb, .inr hsaves, rfl, hcontext, hcarries.satp context satp (by simp [hbegun])⟩
  · intro o pid context satp access hwork hstage haccess
    obtain ⟨stage, step, data⟩ := o
    obtain rfl : stage = .dispatch pid context satp := hstage
    obtain ⟨c, hc, rfl⟩ := Option.map_eq_some_iff.mp (Except.ok.inj haccess)
    obtain ⟨hpiece, hle, hlt⟩ := mem_dispatchChunks (List.mem_of_getElem? hc)
    refine ⟨hle, ?_⟩
    have hlen : (writeChunk config.trapFrame.toNat (dispatchBytes context satp) c).len ≤ c.2 :=
      List.length_take_le _ _
    exact Nat.le_trans (Nat.add_le_add_left hlen c.1) hlt

end Machine

end SystemScope.Os
