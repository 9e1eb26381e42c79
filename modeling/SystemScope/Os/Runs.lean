import SystemScope.Contracts.Calls
import SystemScope.Os.Entries
import SystemScope.Os.KernelRestore
import SystemScope.Os.Lives
import SystemScope.Os.Steps

/-!
# Runs of the modeled kernel

What holds of a kernel in every state that it reaches (`ModeledKernel.Sound`): each handler keeps
it, whatever it is delivered and whatever its accesses are answered.  There is one rule for each
function of the kernel.
-/

namespace SystemScope.Os

open MemV1 Checks

/-- An operation fits the metadata, and its working data is that of its step. -/
structure ProcOp.Fits (config : KernelConfig) (m : Model) (o : ProcOp) : Prop where
  stage : o.stage.Fits config m
  data : o.data.length = o.dataLen config o.step

/-- What the kernel works on fits its metadata. -/
def Work.Fits (config : KernelConfig) (model : Option Model) : Option Work → Prop
  | none => ∀ m ∈ model, m.Rests config
  | some (.proto _) => model = none
  | some (.proc o) => ∃ m, model = some m ∧ o.Fits config m

namespace ModeledKernel

variable {config : KernelConfig} {c : ModeledKernel config}

/-- What holds in every state that a kernel reaches. -/
structure Sound (c : ModeledKernel config) : Prop where
  held : c.held.isSome ↔ c.work.isSome
  work : Work.Fits config c.model c.work
  valid : ∀ m ∈ c.model, m.source.Valid config

/-- Whatever a handler is answered, it leaves a state as it should be. -/
abbrev Keeps (h : Handler (ModeledKernel config)) : Prop :=
  h.Always (fun _ => True) (fun _ => True) (fun _ c => c.Sound)

/-! ## Rules -/

lemma reject_keeps (h : c.Sound) (what : String) : Keeps (c.reject what) := h

lemma wakeNextCycle_keeps (h : c.Sound) : Keeps c.wakeNextCycle :=
  ⟨trivial, h, fun _ _ => h⟩

lemma emit_keeps {k : Handler (ModeledKernel config)} (notes : List Note) (h : Keeps k) :
    Keeps (emit notes k) := by
  induction notes with
  | nil => exact h
  | cons note rest ih => exact ⟨trivial, ih⟩

lemma refuse_keeps (h : c.Sound) (resp : MemV1.MemMsg) : Keeps (c.refuse resp) :=
  ⟨trivial, h, fun _ _ => h⟩

lemma dataLen_start (s : Space) : s.dataLen 0 = 0 := by
  unfold Space.dataLen
  by_cases hzero : 0 < s.zeroSteps
  · rw [if_pos hzero]
  · rw [if_neg hzero, Nat.zero_sub]
    cases s.copies[0 / 2]? with
    | none => rfl
    | some c => rfl

/-- An operation at the start of a stage has no working data. -/
lemma fits_new {m : Model} {stage : Stage} (h : stage.Fits config m) :
    (ProcOp.new stage).Fits config m := by
  refine ⟨h, ?_⟩
  unfold ProcOp.dataLen ProcOp.new
  cases stage with
  | create pid space => exact (dataLen_start space).symm
  | load cursor headers image space => exact (dataLen_start space).symm
  | _ => rfl

lemma enter_keeps (h : c.Sound) (txn : TxnId) (value : UInt32) : Keeps (c.enter txn value) := by
  unfold enter
  by_cases hheld : c.held.isSome
  · rw [if_pos hheld]
    exact reject_keeps h _
  · rw [if_neg hheld]
    have hidle : c.work = none := by
      cases hwork : c.work with
      | none => rfl
      | some w => exact absurd (h.held.mpr (by rw [hwork]; rfl)) hheld
    have hwork := h.work
    rw [hidle] at hwork
    cases hmodel : c.model with
    | none =>
      refine emit_keeps _ (wakeNextCycle_keeps ⟨⟨fun _ => rfl, fun _ => rfl⟩, rfl, ?_⟩)
      exact fun _ hnone => nomatch hnone
    | some m =>
      rw [hmodel] at hwork
      have hvalid := h.valid m hmodel
      have hpool := numbered_of_valid hvalid.layout
      dsimp only
      by_cases hlife : m.life = .down
      · rw [Model.start_down hlife]
        exact reject_keeps h _
      · have hgoes := Model.start_yields (hwork m rfl) hpool hlife value
        cases hstart : m.start config value with
        | error f => exact reject_keeps h _
        | ok d =>
          obtain ⟨hsource, stage, hnext, hfits⟩ := hgoes.of_ok hstart
          refine emit_keeps _ (wakeNextCycle_keeps
            ⟨⟨fun _ => rfl, fun _ => rfl⟩, ⟨d.model, rfl, ?_⟩, ?_⟩)
          · rw [hnext]
            exact fits_new hfits
          · rintro _ ⟨⟩
            rw [hsource]
            exact hvalid

lemma gateRequest_keeps (h : c.Sound) (msg : MemV1.MemMsg) : Keeps (c.gateRequest msg) := by
  unfold gateRequest
  split
  · exact reject_keeps h _
  · exact reject_keeps h _
  · split
    · split
      · exact enter_keeps h _ _
      · exact refuse_keeps h _
    · exact refuse_keeps h _
    · exact reject_keeps h _
    · exact reject_keeps h _

lemma issue_keeps (h : c.Sound) : Keeps c.issue := by
  unfold issue
  split
  · next work hstate =>
    split
    · exact reject_keeps h _
    · exact reject_keeps h _
    · next access _ =>
      split
      · exact reject_keeps h _
      · split
        · exact reject_keeps h _
        · refine ⟨trivial, ⟨?_, ?_, h.valid⟩, fun e _ => h⟩
          · have hheld := h.held
            unfold ModeledKernel.work at hheld ⊢
            rw [hstate] at hheld
            exact hheld
          · have hwork := h.work
            unfold ModeledKernel.work at hwork ⊢
            rw [hstate] at hwork
            exact hwork
  · exact reject_keeps h _

/-- What the kernel works on, once its operation is finished. -/
lemma release_keeps (h : c.Sound) (hrests : ∀ m ∈ c.model, m.Rests config) : Keeps c.release := by
  unfold release
  cases hheld : c.held with
  | none => exact reject_keeps h _
  | some txn =>
    refine ⟨trivial, ⟨trivial, ?_, hrests, h.valid⟩, fun _ _ => h⟩
    exact ⟨nofun, nofun⟩

/-- The kernel goes on with an operation that fits. -/
lemma goOn_keeps (hheld : c.held.isSome) {work : Work}
    (hwork : Work.Fits config c.model (some work))
    (hvalid : ∀ m ∈ c.model, m.source.Valid config) : Keeps (c.goOn work) :=
  wakeNextCycle_keeps ⟨⟨fun _ => rfl, fun _ => hheld⟩, hwork, hvalid⟩

section Complete

variable (h : c.Sound) {completion : Completion}

include h

lemma completedProc_keeps {o o' : ProcOp} (hwork : c.work = some (.proc o))
    (hcomplete : o.complete config completion = .ok (.ok o')) : Keeps (c.completedProc o') := by
  have hfits := h.work
  rw [hwork] at hfits
  obtain ⟨m, hmodel, hfits⟩ := hfits
  have hheld : c.held.isSome := h.held.mpr (by rw [hwork]; rfl)
  obtain ⟨hstage, hstep, hdata, -⟩ := ProcOp.complete_spec hfits.data hcomplete
  have hfits' : o'.stage.Fits config m := by
    rw [hstage]
    exact hfits.stage
  unfold completedProc
  cases hfinished : o'.isFinished config with
  | error p => exact reject_keeps h _
  | ok finished =>
    cases finished with
    | false =>
      suffices hwork : Work.Fits config c.model (some (.proc o')) from
        goOn_keeps hheld hwork h.valid
      refine ⟨m, hmodel, hfits', ?_⟩
      obtain ⟨n, hsteps, hlt⟩ := bind_eq_ok.mp hfinished
      have hlt : o'.step < n := by simpa using Except.ok.inj hlt
      refine hdata n ?_ hlt
      unfold ProcOp.steps at hsteps ⊢
      rwa [hstage] at hsteps
    | true =>
      dsimp only
      rw [hmodel]
      dsimp only
      have hsettles := Model.advance_yields hfits' fun cursor len hstaged =>
        ProcOp.length_staged hfits.data hcomplete hfinished hstaged
      cases hadvance : m.advance config o' with
      | error f => exact reject_keeps h _
      | ok d =>
        have hd := hsettles.of_ok hadvance
        unfold Decision.Settles at hd
        refine emit_keeps _ ?_
        cases hnext : d.next with
        | none =>
          rw [hnext] at hd
          obtain ⟨hsame, hrests⟩ := hd
          refine release_keeps ?_ ?_
          · rw [hsame, ← hmodel]
            exact h
          · rintro _ ⟨⟩
            rw [hsame]
            exact hrests
        | some o =>
          rw [hnext] at hd
          obtain ⟨hsource, stage, rfl, hstage⟩ := hd
          have hwork : Work.Fits config (some d.model) (some (.proc (.new stage))) :=
            ⟨d.model, rfl, fits_new hstage⟩
          refine wakeNextCycle_keeps ⟨⟨fun _ => rfl, fun _ => hheld⟩, hwork, ?_⟩
          rintro _ ⟨⟩
          rw [hsource]
          exact h.valid m hmodel

lemma complete_keeps {work : Work} (hwork : c.work = some work) :
    Keeps (c.complete work completion) := by
  unfold complete
  cases work with
  | proto o =>
    dsimp only
    have hfits := h.work
    rw [hwork] at hfits
    have hheld : c.held.isSome := h.held.mpr (by rw [hwork]; rfl)
    cases o.complete config completion with
    | error e => exact reject_keeps h _
    | ok o' =>
      dsimp only
      by_cases hfinished : o'.IsFinished config
      · rw [if_pos hfinished]
        refine release_keeps h ?_
        rw [show c.model = none from hfits]
        exact fun m hm => nomatch hm
      · rw [if_neg hfinished]
        exact goOn_keeps hheld hfits h.valid
  | proc o =>
    dsimp only
    cases hcomplete : o.complete config completion with
    | error p => exact reject_keeps h _
    | ok r =>
      cases r with
      | error e => exact reject_keeps h _
      | ok o' => exact completedProc_keeps h hwork hcomplete

end Complete

lemma memResponse_keeps (h : c.Sound) (msg : MemV1.MemMsg) : Keeps (c.memResponse msg) := by
  unfold memResponse
  split
  · next work expected hstate =>
    have hwork : c.work = some work := by
      unfold ModeledKernel.work
      rw [hstate]
    split
    · exact reject_keeps h _
    · next txn completion _ =>
      split
      · exact reject_keeps h _
      · intro phase
        show Keeps (if phase ≠ .complete then _ else _)
        split
        · exact reject_keeps h _
        · split
          · exact reject_keeps h _
          · split
            · exact reject_keeps h _
            · split
              · exact reject_keeps h _
              · exact complete_keeps h hwork
  · exact reject_keeps h _

/-- Whatever is delivered, the kernel is left as it should be. -/
theorem handleEvent_keeps (h : c.Sound) (delivery : Delivered) :
    Keeps (c.handleEvent delivery) := by
  unfold handleEvent
  split
  · next port msg =>
    split
    · split
      · exact gateRequest_keeps h _
      · split
        · exact memResponse_keeps h _
        · exact reject_keeps h _
    · exact reject_keeps h _
  · split
    · exact issue_keeps h
    · exact reject_keeps h _

/-! ## Whole runs -/

/-- A kernel as it is built, without processes, from a plan, or to boot from disk. -/
inductive Validated (c : ModeledKernel config) : Prop
  | prototype (h : ModeledKernel.new config = .ok c)
  | processes (plan : ProcessPlan) (h : withProcesses config plan = .ok c)
  | disk (disk : DiskBoot) (h : withDisk config disk = .ok c)

lemma sound_withSource {source : Source} (h : source.Valid config) :
    (withSource config source).Sound where
  held := by simp [withSource, ModeledKernel.work]
  work := by
    rintro m ⟨⟩
    exact .awaitBoot rfl
  valid := by
    rintro m ⟨⟩
    exact h

lemma Validated.sound (h : c.Validated) : c.Sound := by
  cases h with
  | prototype h =>
    obtain ⟨-, h⟩ := check_eq_ok.mp h
    cases h
    exact ⟨by simp [ModeledKernel.work], nofun, nofun⟩
  | processes plan h =>
    obtain ⟨hvalid, h⟩ := check_eq_ok.mp h
    cases h
    exact sound_withSource
      (show Source.Valid config (.plan plan) from ProcessPlan.valid_of_validate hvalid)
  | disk disk h =>
    obtain ⟨hvalid, h⟩ := check_eq_ok.mp h
    cases h
    exact sound_withSource
      (show Source.Valid config (.disk disk) from DiskBoot.valid_of_validate hvalid)

/-- What holds of a kernel holds in every state that it reaches. -/
theorem Sound.evolves [SnapshotData] {c₀ : ModeledKernel config} (h₀ : c₀.Sound)
    (h : Component.Evolves c₀ c) : c.Sound := by
  induction h with
  | refl => exact h₀
  | init _ hc ih =>
    cases hc
    exact ih
  | event _ delivery hc ih =>
    obtain ⟨-, hsound⟩ := (handleEvent_keeps ih delivery).ends hc
    exact hsound

variable {m : Model}

lemma work_of_wait {work : Work} {txn : TxnId} (h : c.state = .wait work txn) :
    c.work = some work := by
  unfold ModeledKernel.work
  rw [h]

lemma Sound.rests (h : c.Sound) (hm : c.model = some m) (hheld : c.held = none) :
    c.state = .idle ∧ m.Rests config := by
  have hwork : c.work = none := by
    rw [← Option.not_isSome_iff_eq_none, ← h.held, hheld]
    exact Bool.false_ne_true
  have hrests := h.work
  rw [hwork] at hrests
  refine ⟨?_, hrests m hm⟩
  unfold ModeledKernel.work at hwork
  split at hwork
  · assumption
  · cases hwork
  · cases hwork

lemma Sound.fits (h : c.Sound) (hm : c.model = some m) {o : ProcOp}
    (hwork : c.work = some (.proc o)) :
    o.Fits config m := by
  have hfits := h.work
  rw [hwork] at hfits
  obtain ⟨m', hm', hfits⟩ := hfits
  rw [hm] at hm'
  cases hm'
  exact hfits

/-- The operation that starts is at a stage that the metadata allows. -/
lemma Sound.started (h : c.Sound) (hm : c.model = some m) (hheld : c.held = none) {value : UInt32}
    {d : Decision ProcOp} (hstart : m.start config value = .ok d) : d.Goes config m.source := by
  have hrests := (h.rests hm hheld).2
  have hlife : m.life ≠ .down := by
    intro hlife
    rw [Model.start_down hlife] at hstart
    cases hstart
  exact (Model.start_yields hrests (numbered_of_valid (h.valid m hm).layout) hlife value).of_ok
    hstart

/-- The stage that is finished, and the one that comes after it, are ones that the metadata
allows. -/
lemma Sound.advanced (h : c.Sound) (hm : c.model = some m) {o o' : ProcOp} {completion : Completion}
    (hwork : c.work = some (.proc o)) (hcomplete : o.complete config completion = .ok (.ok o'))
    (hfinished : o'.isFinished config = .ok true) :
    o'.stage.Fits config m ∧
      ∀ d, m.advance config o' = .ok d → d.Settles config m := by
  have hfits := h.fits hm hwork
  have hfits' : o'.stage.Fits config m := by
    rw [(ProcOp.complete_spec hfits.data hcomplete).1]
    exact hfits.stage
  refine ⟨hfits', fun d hadvance => (Model.advance_yields hfits' ?_).of_ok hadvance⟩
  exact fun cursor len hstaged => ProcOp.length_staged hfits.data hcomplete hfinished hstaged

/-- The invariants of the process table, with the creation in flight. -/
lemma Sound.ok (h : c.Sound) (hm : c.model = some m) :
    m.procs.Ok m.entries (Work.creating c.work) := by
  have hwork := h.work
  cases hcase : c.work with
  | none =>
    rw [hcase] at hwork
    exact (hwork m hm).procs (numbered_of_valid (h.valid m hm).layout)
  | some w =>
    cases w with
    | proto o =>
      rw [hcase] at hwork
      exact absurd (hm.symm.trans hwork) nofun
    | proc o => exact (h.fits hm hcase).stage.procs

/-- In every state that a kernel with processes reaches, the process table has its invariants, with
the creation in flight.  No operation breaks one, except that none is started after the shutdown;
and between operations, a kernel that is up has a running process. -/
theorem process_table [SnapshotData] {c₀ : ModeledKernel config} (h₀ : c₀.Validated)
    (h : Component.Evolves c₀ c) {m : Model} (hm : c.model = some m) :
    m.procs.Ok m.entries (Work.creating c.work) ∧
      m.procs.check m.entries (Work.creating c.work) = .ok () ∧
      (∀ value v, c.held = none → m.start config value = .error (.violation v) →
        m.life = .down) ∧
      (∀ o o' completion v, c.work = some (.proc o) → o.complete config completion = .ok (.ok o') →
        o'.isFinished config = .ok true → m.advance config o' ≠ .error (.violation v)) ∧
      (c.state = .idle → m.life = .up → m.procs.current.isSome) := by
  have hsound := h₀.sound.evolves h
  have hpool := numbered_of_valid (hsound.valid m hm).layout
  have hok := hsound.ok hm
  refine ⟨hok, Processes.check_of_ok hok, ?_, ?_, ?_⟩
  · intro value v hheld hstart
    by_contra hlife
    exact (Model.start_yields (hsound.rests hm hheld).2 hpool hlife value).of_error hstart
  · intro o o' completion v hcase hcomplete hfinished hadvance
    have ho := hsound.fits hm hcase
    have hstage : o'.stage.Fits config m := by
      rw [(ProcOp.complete_spec ho.data hcomplete).1]
      exact ho.stage
    have hsettles := Model.advance_yields hstage fun cursor len hstaged =>
      ProcOp.length_staged ho.data hcomplete hfinished hstaged
    exact hsettles.of_error hadvance
  · intro hidle hlife
    have hheld : c.held = none := by
      rw [← Option.not_isSome_iff_eq_none, hsound.held]
      unfold ModeledKernel.work
      rw [hidle]
      exact Bool.false_ne_true
    cases (hsound.rests hm hheld).2 with
    | awaitBoot h =>
      rw [h] at hlife
      cases hlife
    | up h => exact h.current
    | down h =>
      rw [h.life] at hlife
      cases hlife

end ModeledKernel

/-! ## A small kernel -/

/-- A kernel that awaits the boot of a small executable. -/
def smallKernel : ModeledKernel (smallConfig 0x80000000) :=
  .withSource _ (.plan (smallPlan 0x80000000))

lemma smallKernel_validated : smallKernel.Validated := by
  refine .processes (smallPlan 0x80000000) ?_
  have hvalid : (smallPlan 0x80000000).validate (smallConfig 0x80000000) = .ok () := by
    decide +kernel
  unfold ModeledKernel.withProcesses
  rw [hvalid]
  rfl

/-- The write to `ENTER` with which the small kernel is entered. -/
def smallEnter : Delivered :=
  .message gatePort (.memV1 (.writeReq 0 0 (wordBytes (smallConfig 0x80000000).trapFrame)))

/-- The small kernel while it creates its process. -/
def smallBooting : ModeledKernel (smallConfig 0x80000000) :=
  ((smallKernel.handleEvent smallEnter).perform
    { component := 0, now := 0, phase := .request, rng := fun _ => 0 }).2.2

lemma smallBooting_evolves [SnapshotData] : Component.Evolves smallKernel smallBooting :=
  .event .refl smallEnter (Handler.ends_of_perform _ _)

open Canonical in
theorem process_table_small :
    ∃ m, smallBooting.model = some m ∧
      m.procs.check m.entries (Work.creating smallBooting.work) = .ok () := by
  have hsome : smallBooting.model.isSome := by decide +kernel
  obtain ⟨m, hm⟩ := Option.isSome_iff_exists.mp hsome
  exact ⟨m, hm, (ModeledKernel.process_table smallKernel_validated smallBooting_evolves hm).2.1⟩

end SystemScope.Os
