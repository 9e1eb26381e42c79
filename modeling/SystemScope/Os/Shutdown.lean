import Mathlib.Order.Interval.Finset.Nat
import SystemScope.Os.Board
import SystemScope.Os.Verdict

/-!
# How a run ends

The verdict of a shutdown agrees with what happened in the run (`shutdown_verdict`): the reason is 0
exactly if every boot image became a process, every process exited with status 0, and no failure
ended the run.  After the decision, the kernel writes the action and the reason, and nothing begins
any more.
-/

namespace SystemScope.Os

open Elf Checks

namespace ModeledKernel

variable {config : KernelConfig} {c c' c₀ : ModeledKernel config} {m m' : Model}
  {delivery : Delivered}

/-! ## What happened in a run -/

/-- The delivery completes the last access of a stage, with the operation that this leaves. -/
def Passed (c : ModeledKernel config) (delivery : Delivered) (o : ProcOp) : Prop :=
  ∃ msg txn o' completion, delivery = .message memPort (.memV1 msg) ∧
    c.state = .wait (.proc o') txn ∧
    response msg = some (txn, some completion) ∧ o'.complete config completion = .ok (.ok o) ∧
    o.isFinished config = .ok true

lemma Passed.unique {o o' : ProcOp} (h : c.Passed delivery o) (h' : c.Passed delivery o') :
    o = o' := by
  obtain ⟨msg, txn, p, completion, rfl, hstate, hmsg, hcomplete, -⟩ := h
  obtain ⟨msg', txn', p', completion', hdelivery, hstate', hmsg', hcomplete', -⟩ := h'
  cases hdelivery
  rw [hstate] at hstate'
  cases hstate'
  rw [hmsg] at hmsg'
  cases hmsg'
  rw [hcomplete] at hcomplete'
  cases hcomplete'
  rfl

/-- A delivery to a kernel. -/
structure Moment (config : KernelConfig) where
  kernel : ModeledKernel config
  delivery : Delivered

namespace Moment

variable (x : Moment config)

/-- A process is created. -/
def Creates (pid : ℕ) : Prop := ∃ o, x.kernel.Passed x.delivery o ∧ o.stage.creates = some pid

/-- The running process ends by an `exit` or `exit_group` with a status. -/
def Exits (pid : ℕ) (status : Int32) : Prop :=
  ∃ o m, x.kernel.Passed x.delivery o ∧ x.kernel.model = some m ∧ o.stage = .readFrame ∧
    TrapExits m o.data pid status

/-- A table of executables is accepted. -/
def Accepts (t : ExecTable) : Prop :=
  ∃ o m, x.kernel.Passed x.delivery o ∧ x.kernel.model = some m ∧ o.Accepts config m t

/-- The kernel fails: the value of an `ENTER` is wrong, the table cannot be read or is invalid, or a
trap comes from S-mode. -/
def Fails : Prop :=
  (∃ msg txn value, x.delivery = .message gatePort (.memV1 msg) ∧ EntersWith msg txn value ∧
    value ≠ config.trapFrame) ∨
  ∃ o m, x.kernel.Passed x.delivery o ∧ x.kernel.model = some m ∧ o.Fails config m

end Moment

/-- A kernel goes on, as long as nothing fails, with what is delivered meanwhile. -/
inductive Trail (c₀ : ModeledKernel config) : List (Moment config) → ModeledKernel config → Prop
  | start : Trail c₀ [] c₀
  | event {trail : List (Moment config)} {c c' : ModeledKernel config} (h : Trail c₀ trail c)
      {delivery : Delivered} {env : Surroundings} {calls : List Call}
      (hc : (c.handleEvent delivery).Performs env calls c') : Trail c₀ (trail ++ [⟨c, delivery⟩]) c'

/-- The number of boot images of a run: those of the plan, or the entries of the table that was
accepted. -/
def BootImages (source : Source) (trail : List (Moment config)) (n : ℕ) : Prop :=
  match source with
  | .plan p => n = p.images.length
  | .disk _ => ∃ x ∈ trail, ∃ t, x.Accepts t ∧ n = t.entries.length

/-- Every boot image became a process, and every process exited with status 0. -/
def AllExited (source : Source) (trail : List (Moment config)) : Prop :=
  ∃ n, BootImages source trail n ∧ ∀ pid, 0 < pid → pid ≤ n →
    (∃ x ∈ trail, x.Creates pid) ∧ ∃ x ∈ trail, x.Exits pid 0

/-! ## A step -/

/-- The stage a kernel is at. -/
def workStage (c : ModeledKernel config) : Option Stage :=
  match c.work with
  | some (.proc o) => some o.stage
  | _ => none

/-- What a delivery does to a kernel with processes: nothing but an access, the start of an
operation, the end of a stage, or the end of an operation. -/
inductive Tick (c : ModeledKernel config) (m : Model) (delivery : Delivered)
    (c' : ModeledKernel config)
    (m' : Model) : Prop
  | quiet (hpassed : ∀ o, ¬c.Passed delivery o) (hmodel : m' = m)
    (hstage : c'.workStage = c.workStage)
      (hbegun : begun c c' = none)
  | starts {msg : MemV1.MemMsg} {txn : TxnId} {value : UInt32} {d : Decision ProcOp}
      (hdelivery : delivery = .message gatePort (.memV1 msg)) (hmsg : EntersWith msg txn value)
      (hrests : m.Rests config) (hwork : c.workStage = none) (hstart : m.start config value = .ok d)
      (hmodel : m' = d.model) (hwork' : c'.workStage = some d.next.stage)
      (hbegun : begun c c' = some d.next.stage)
  | goes {o next : ProcOp} {d : Decision (Option ProcOp)} (hpassed : c.Passed delivery o)
      (hfits : o.stage.Fits config m) (hwork : c.workStage = some o.stage)
      (hadvance : m.advance config o = .ok d) (hnext : d.next = some next) (hmodel : m' = d.model)
      (hwork' : c'.workStage = some next.stage) (hbegun : begun c c' = some next.stage)
  | ends {o : ProcOp} (hpassed : c.Passed delivery o) (hfits : o.stage.Fits config m)
      (hwork : c.workStage = some o.stage) (hends : o.stage.Ends) (hmodel : m' = m)
      (hwork' : c'.workStage = none) (hbegun : begun c c' = none)

lemma not_passed_gate {msg : MemV1.MemMsg} (o : ProcOp) :
    ¬c.Passed (.message gatePort (.memV1 msg)) o := by
  rintro ⟨msg', txn, o', completion, hdelivery, -⟩
  cases hdelivery

lemma workStage_of_wait {o : ProcOp} {txn : TxnId} (h : c.state = .wait (.proc o) txn) :
    c.workStage = some o.stage := by
  unfold workStage
  rw [work_of_wait h]

lemma workStage_of_work {o : ProcOp} (h : c.work = some (.proc o)) :
    c.workStage = some o.stage := by
  unfold workStage
  rw [h]

lemma Step.tick {calls : List Call} (h : Step c delivery calls c') (hsound : c.Sound)
    (hm : c.model = some m) :
    ∃ m', c'.model = some m' ∧ m'.source = m.source ∧ Tick c m delivery c' m' := by
  obtain ⟨m', hm', hacts⟩ := h.acts hsound hm
  refine ⟨m', hm', ?_⟩
  cases hacts with
  | waits hdelivery hwork hheld hmodel hbegun =>
    cases hmodel
    refine ⟨rfl, .quiet ?_ rfl (by unfold workStage; rw [hwork]) hbegun⟩
    rintro o ⟨msg, txn, o', completion, hmem, -⟩
    exact hdelivery _ hmem
  | @starts stage events hdelivery hheld hheld' hwork hbegun hstage hfollows hop hstart =>
    obtain ⟨msg, txn, value, d, hgate, hmsg, hrests, hstart, hnext, hmodel, hsource⟩ := hstart
    have hidle : c.workStage = none := by
      unfold workStage ModeledKernel.work
      rw [(hsound.rests hm hheld).1]
    rw [← hnext] at hwork
    rw [show stage = d.next.stage by rw [hnext]; rfl] at hbegun
    exact ⟨hsource, .starts hgate hmsg hrests hidle hstart hmodel (workStage_of_work hwork) hbegun⟩
  | @completes msg txn o o' completion hdelivery hstate hmsg hcomplete hgoes =>
    have hsame := (ProcOp.complete_spec (hsound.fits hm (work_of_wait hstate)).data hcomplete).1
    have hstage : c.workStage = some o'.stage :=
      (workStage_of_wait hstate).trans (congrArg some hsame.symm)
    cases hgoes with
    | next hfinished hwork hheld hmodel hbegun =>
      cases hmodel
      refine ⟨rfl, .quiet ?_ rfl ((workStage_of_work hwork).trans hstage.symm) hbegun⟩
      rintro o'' ⟨_, _, _, _, hdelivery', hstate', hmsg', hcomplete', hfinished'⟩
      rw [hdelivery] at hdelivery'
      cases hdelivery'
      rw [hstate] at hstate'
      cases hstate'
      rw [hmsg] at hmsg'
      cases hmsg'
      rw [hcomplete] at hcomplete'
      cases hcomplete'
      rw [hfinished] at hfinished'
      cases hfinished'
    | stage hfinished hfits hwork hheld hbegun hsucceeds hfollows hsaves hop hadvance =>
      obtain ⟨d, hadvance, hnext, hmodel, hsource⟩ := hadvance
      exact ⟨hsource, .goes ⟨msg, txn, o, completion, hdelivery, hstate, hmsg, hcomplete, hfinished⟩
        hfits hstage hadvance hnext hmodel (workStage_of_work hwork) hbegun⟩
    | ends hfinished hends hstate' hheld hmodel hbegun =>
      cases hmodel
      have hfits := (hsound.advanced hm (work_of_wait hstate) hcomplete hfinished).1
      refine ⟨rfl, .ends ⟨msg, txn, o, completion, hdelivery, hstate, hmsg, hcomplete, hfinished⟩
        hfits hstage hends rfl ?_ hbegun⟩
      unfold workStage ModeledKernel.work
      rw [hstate']

namespace Moment

lemma not_creates (h : ∀ o, ¬c.Passed delivery o) (pid : ℕ) :
    ¬(⟨c, delivery⟩ : Moment config).Creates pid :=
  fun ⟨o, ho, _⟩ => h o ho

lemma not_exits (h : ∀ o, ¬c.Passed delivery o) (pid : ℕ) (status : Int32) :
    ¬(⟨c, delivery⟩ : Moment config).Exits pid status :=
  fun ⟨o, _, ho, _⟩ => h o ho

lemma not_accepts (h : ∀ o, ¬c.Passed delivery o) (t : ExecTable) :
    ¬(⟨c, delivery⟩ : Moment config).Accepts t :=
  fun ⟨o, _, ho, _⟩ => h o ho

section Passed

variable {o : ProcOp} (h : c.Passed delivery o) (hm : c.model = some m)

include h

lemma creates_iff (pid : ℕ) :
    (⟨c, delivery⟩ : Moment config).Creates pid ↔ o.stage.creates = some pid := by
  constructor
  · rintro ⟨o', ho', hpid⟩
    rwa [h.unique ho']
  · exact fun hpid => ⟨o, h, hpid⟩

include hm

lemma exits_iff (pid : ℕ) (status : Int32) : (⟨c, delivery⟩ : Moment config).Exits pid status ↔
    o.stage = .readFrame ∧ TrapExits m o.data pid status := by
  constructor
  · rintro ⟨o', m', ho', hm', hexits⟩
    rw [hm] at hm'
    cases hm'
    rwa [h.unique ho']
  · exact fun hexits => ⟨o, m, h, hm, hexits⟩

lemma accepts_iff (t : ExecTable) :
    (⟨c, delivery⟩ : Moment config).Accepts t ↔ o.Accepts config m t := by
  constructor
  · rintro ⟨o', m', ho', hm', haccepts⟩
    rw [hm] at hm'
    cases hm'
    rwa [h.unique ho']
  · exact fun haccepts => ⟨o, m, h, hm, haccepts⟩

lemma fails_iff : (⟨c, delivery⟩ : Moment config).Fails ↔ o.Fails config m := by
  constructor
  · rintro (⟨msg, txn, value, rfl, -⟩ | ⟨o', m', ho', hm', hfails⟩)
    · exact absurd h (not_passed_gate o)
    · rw [hm] at hm'
      cases hm'
      rwa [h.unique ho']
  · exact fun hfails => .inr ⟨o, m, h, hm, hfails⟩

end Passed

lemma fails_iff_of_enters {msg : MemV1.MemMsg} {txn : TxnId} {value : UInt32}
    (hmsg : EntersWith msg txn value) :
    (⟨c, .message gatePort (.memV1 msg)⟩ : Moment config).Fails ↔ value ≠ config.trapFrame := by
  constructor
  · rintro (⟨msg', txn', value', hdelivery, hmsg', hvalue⟩ | ⟨o, m, ho, -⟩)
    · cases hdelivery
      obtain ⟨addr, data, rfl, rfl, -⟩ := hmsg
      obtain ⟨addr', data', ⟨⟩, rfl, -⟩ := hmsg'
      exact hvalue
    · exact absurd ho (not_passed_gate o)
  · exact fun hvalue => .inl ⟨msg, txn, value, rfl, hmsg, hvalue⟩

end Moment

/-! ## The table -/

lemma exists_mem_concat {α : Type} {l : List α} {a : α} {p : α → Prop} :
    (∃ x ∈ l ++ [a], p x) ↔ (∃ x ∈ l, p x) ∨ p a := by
  simp [or_and_right, exists_or]

lemma forall_mem_concat {α : Type} {l : List α} {a : α} {p : α → Prop} (h : ∀ x ∈ l, p x)
    (ha : p a) :
    ∀ x ∈ l ++ [a], p x :=
  List.forall_mem_append.mpr ⟨h, List.forall_mem_singleton.mpr ha⟩

/-- How far a boot from disk is with the table: before it, done with it because it failed, or past
it. -/
inductive TablePhase (trail : List (Moment config)) (c : ModeledKernel config) (m : Model) : Prop
  | before (h : m.life = .awaitBoot ∨ ∃ stage ∈ c.workStage, stage.AtTable)
      (hnone : ∀ x ∈ trail, ∀ t, ¬x.Accepts t)
  | failed (h : m.life = .down) (hnone : ∀ x ∈ trail, ∀ t, ¬x.Accepts t)
  | accepted (h : ∃ x ∈ trail, ∃ t, x.Accepts t)
      (hentries : ∀ x ∈ trail, ∀ t, x.Accepts t → t.entries.length = m.entries)
      (hlife : m.life ≠ .awaitBoot) (hafter : ∀ stage ∈ c.workStage, ¬stage.AtTable)

lemma life_of_fits {stage : Stage} (h : stage.Fits config m) :
    m.life = .up ∨ m.life = .down ∧ ∃ reason, stage = .shutdown reason := by
  cases stage with
  | create pid space =>
    obtain ⟨-, -, -, -, -, -, -, h⟩ := h
    exact .inl h.life
  | load cursor headers image space =>
    obtain ⟨-, -, -, -, -, -, -, h⟩ := h
    exact .inl h.life
  | command | poll | ack => exact .inl h.2.2.life
  | staged => exact .inl h.2.2.1.life
  | dispatch => exact .inl h.1.life
  | readFrame | walk | output | return_ => exact .inl (Model.Running.life h)
  | shutdown reason => exact .inr ⟨Model.Stopped.life h, reason, rfl⟩

lemma life_ne_awaitBoot {stage : Stage} (h : stage.Fits config m) : m.life ≠ .awaitBoot := by
  rintro hlife
  rcases life_of_fits h with hup | ⟨hdown, -⟩
  · rw [hlife] at hup
    cases hup
  · rw [hlife] at hdown
    cases hdown

/-- A shutdown ends the operation. -/
lemma advance_shutdown {o : ProcOp} {reason : UInt32} (hstage : o.stage = .shutdown reason)
    {d : Decision (Option ProcOp)} (h : m.advance config o = .ok d) : d.next = none := by
  unfold Model.advance at h
  rw [hstage] at h
  cases h
  rfl

/-- After the shutdown no stage is followed by another one. -/
lemma life_ne_down {o next : ProcOp} {d : Decision (Option ProcOp)} (hfits : o.stage.Fits config m)
    (hadvance : m.advance config o = .ok d) (hnext : d.next = some next) : m.life ≠ .down := by
  rintro hlife
  rcases life_of_fits hfits with hup | ⟨-, reason, hstage⟩
  · rw [hlife] at hup
    cases hup
  · rw [advance_shutdown hstage hadvance] at hnext
    cases hnext

lemma accepts_unique {o : ProcOp} {t t' : ExecTable} (h : o.Accepts config m t)
    (h' : o.Accepts config m t') : t = t' := by
  obtain ⟨cursor, len, disk, -, -, hsource, ht⟩ := h
  obtain ⟨cursor', len', disk', -, -, hsource', ht'⟩ := h'
  rw [hsource] at hsource'
  cases hsource'
  rw [ht] at ht'
  exact Except.ok.inj ht'

lemma TablePhase.tick {trail : List (Moment config)} (h : TablePhase trail c m)
    (ht : Tick c m delivery c' m')
    (hm : c.model = some m) (hdisk : ∃ disk, m.source = .disk disk)
    (hfits' : ∀ stage ∈ c'.workStage, stage.Fits config m') :
    TablePhase (trail ++ [⟨c, delivery⟩]) c' m' := by
  cases ht with
  | quiet hpassed hmodel hstage hbegun =>
    subst hmodel
    have hno := Moment.not_accepts hpassed
    cases h with
    | before h hnone => exact .before (by rwa [hstage]) (forall_mem_concat hnone hno)
    | failed h hnone => exact .failed h (forall_mem_concat hnone hno)
    | accepted h hentries hlife hafter =>
      exact .accepted (exists_mem_concat.mpr (.inl h))
        (forall_mem_concat hentries fun t ht => absurd ht (hno t)) hlife (by rwa [hstage])
  | @starts msg txn value d hdelivery hmsg hrests hwork hstart hmodel hwork' hbegun =>
    subst hmodel hdelivery
    have hpassed : ∀ o, ¬c.Passed (.message gatePort (.memV1 msg)) o := not_passed_gate
    have hno := Moment.not_accepts hpassed
    have hjudged := (start_judged value).of_ok hstart
    have hfits := hfits' d.next.stage hwork'
    cases h with
    | before h hnone =>
      have hawait : m.life = .awaitBoot := h.resolve_right (by rw [hwork]; rintro ⟨_, ⟨⟩, -⟩)
      by_cases hvalue : value = config.trapFrame
      · have htable := hjudged.atTable.mpr ⟨⟨hawait, hdisk⟩, not_not.mpr hvalue⟩
        exact .before (.inr ⟨d.next.stage, hwork', htable⟩) (forall_mem_concat hnone hno)
      · rw [hjudged.failed hvalue] at hfits
        exact .failed (Model.Stopped.life hfits) (forall_mem_concat hnone hno)
    | failed h hnone =>
      rw [Model.start_down h] at hstart
      cases hstart
    | accepted h hentries hlife hafter =>
      refine .accepted (exists_mem_concat.mpr (.inl h)) ?_ (life_ne_awaitBoot hfits) ?_
      · rw [hjudged.entries]
        exact forall_mem_concat hentries fun t ht => absurd ht (hno t)
      · rw [hwork']
        rintro _ ⟨⟩ htable
        exact hlife (hjudged.atTable.mp htable).1.1
  | @goes o next d hpassed hfits hwork hadvance hnext hmodel hwork' hbegun =>
    subst hmodel
    have haccepts (t : ExecTable) := Moment.accepts_iff hpassed hm t
    have hfitsNext := hfits' next.stage hwork'
    have hdown : m.life ≠ .down := life_ne_down hfits hadvance hnext
    obtain ⟨haccept, hsame⟩ := advance_judged hfits
    by_cases ht : ∃ t, o.Accepts config m t
    · obtain ⟨t, ht⟩ := ht
      have hjudged := (haccept t ht).of_ok hadvance next hnext
      have htable : ∃ stage ∈ c.workStage, stage.AtTable := by
        obtain ⟨cursor, len, -, hstage, htable, -⟩ := ht
        refine ⟨o.stage, hwork, ?_⟩
        rw [hstage]
        exact htable
      cases h with
      | before h hnone =>
        refine .accepted (exists_mem_concat.mpr (.inr ⟨t, (haccepts t).mpr ht⟩)) ?_
          (life_ne_awaitBoot hfitsNext) ?_
        · refine forall_mem_concat (fun x hx t ht => absurd ht (hnone x hx t)) fun t' ht' => ?_
          have ht' := (haccepts t').mp ht'
          rw [accepts_unique ht' ht]
          exact hjudged.entries.symm
        · rw [hwork']
          rintro _ ⟨⟩ htable
          exact (hjudged.atTable.mp htable).1
      | failed h hnone => exact absurd h hdown
      | accepted h hentries hlife hafter =>
        obtain ⟨stage, hstage, htable⟩ := htable
        exact absurd htable (hafter stage hstage)
    · have hnot (t : ExecTable) : ¬o.Accepts config m t := fun h => ht ⟨t, h⟩
      have hno (t : ExecTable) : ¬(⟨c, delivery⟩ : Moment config).Accepts t :=
        (haccepts t).not.mpr (hnot t)
      have hjudged := (hsame hnot).of_ok hadvance next hnext
      cases h with
      | before h hnone =>
        obtain ⟨stage, hstage, htable⟩ := h.resolve_left (life_ne_awaitBoot hfits)
        rw [hwork] at hstage
        cases hstage
        by_cases hfails : o.Fails config m
        · rw [hjudged.failed hfails] at hfitsNext
          exact .failed (Model.Stopped.life hfitsNext) (forall_mem_concat hnone hno)
        · exact .before (.inr ⟨next.stage, hwork', hjudged.atTable.mpr ⟨htable, hfails⟩⟩)
            (forall_mem_concat hnone hno)
      | failed h hnone => exact absurd h hdown
      | accepted h hentries hlife hafter =>
        refine .accepted (exists_mem_concat.mpr (.inl h)) ?_ (life_ne_awaitBoot hfitsNext) ?_
        · rw [hjudged.entries]
          exact forall_mem_concat hentries fun t ht => absurd ht (hno t)
        · rw [hwork']
          rintro _ ⟨⟩ htable
          exact hafter o.stage hwork (hjudged.atTable.mp htable).1
  | @ends o hpassed hfits hwork hends hmodel hwork' hbegun =>
    subst hmodel
    have hno (t : ExecTable) : ¬(⟨c, delivery⟩ : Moment config).Accepts t := by
      rw [Moment.accepts_iff hpassed hm]
      rintro ⟨cursor, len, -, hstage, -⟩
      rw [hstage] at hends
      exact hends
    cases h with
    | before h hnone =>
      obtain ⟨stage, hstage, htable⟩ := h.resolve_left (life_ne_awaitBoot hfits)
      rw [hwork] at hstage
      cases hstage
      cases hcase : o.stage <;> rw [hcase] at hends htable <;>
        first | exact htable.elim | exact hends.elim
    | failed h hnone => exact .failed h (forall_mem_concat hnone hno)
    | accepted h hentries hlife hafter =>
      refine .accepted (exists_mem_concat.mpr (.inl h))
        (forall_mem_concat hentries fun t ht => absurd ht (hno t)) hlife ?_
      rw [hwork']
      exact nofun

/-- Without a failure, a boot from disk shuts down only past the table. -/
lemma TablePhase.accepts {trail : List (Moment config)} (h : TablePhase trail c m)
    (ht : Tick c m delivery c' m') (hm : c.model = some m) (hdisk : ∃ disk, m.source = .disk disk)
    {reason : UInt32} (hbegun : begun c c' = some (.shutdown reason))
    (hfails : ¬(⟨c, delivery⟩ : Moment config).Fails) :
    ∃ x ∈ trail ++ [⟨c, delivery⟩], ∃ t, x.Accepts t := by
  rw [exists_mem_concat]
  cases ht with
  | quiet hpassed hmodel hstage hnone =>
    rw [hnone] at hbegun
    cases hbegun
  | ends hpassed hfits hwork hends hmodel hwork' hnone =>
    rw [hnone] at hbegun
    cases hbegun
  | @starts msg txn value d hdelivery hmsg hrests hwork hstart hmodel hwork' hbegun' =>
    subst hdelivery
    rw [hbegun'] at hbegun
    rw [Moment.fails_iff_of_enters hmsg] at hfails
    cases h with
    | before h hnone =>
      have hawait : m.life = .awaitBoot := h.resolve_right (by rw [hwork]; rintro ⟨_, ⟨⟩, -⟩)
      have htable := ((start_judged value).of_ok hstart).atTable.mpr ⟨⟨hawait, hdisk⟩, hfails⟩
      rw [Option.some.inj hbegun] at htable
      exact htable.elim
    | failed h hnone =>
      rw [Model.start_down h] at hstart
      cases hstart
    | accepted h => exact .inl h
  | @goes o next d hpassed hfits hwork hadvance hnext hmodel hwork' hbegun' =>
    rw [hbegun'] at hbegun
    rw [Moment.fails_iff hpassed hm] at hfails
    cases h with
    | before h hnone =>
      obtain ⟨stage, hstage, htable⟩ := h.resolve_left (life_ne_awaitBoot hfits)
      rw [hwork] at hstage
      cases hstage
      by_cases ht : ∃ t, o.Accepts config m t
      · obtain ⟨t, ht⟩ := ht
        exact .inr ⟨t, (Moment.accepts_iff hpassed hm t).mpr ht⟩
      · have hjudged := ((advance_judged hfits).2 fun t h => ht ⟨t, h⟩).of_ok hadvance next hnext
        have htable := hjudged.atTable.mpr ⟨htable, hfails⟩
        rw [Option.some.inj hbegun] at htable
        exact htable.elim
    | failed h hnone => exact absurd h (life_ne_down hfits hadvance hnext)
    | accepted h => exact .inl h

/-! ## The history and the metadata -/

/-- The metadata agree with what happened. -/
structure Recorded (origin : Source) (trail : List (Moment config)) (c : ModeledKernel config)
    (m : Model) :
    Prop where
  source : m.source = origin
  created : ∀ pid, pid ∈ m.procs.pids ↔ ∃ x ∈ trail, x.Creates pid
  exited : ∀ pid status, m.procs.Exited pid status ↔ ∃ x ∈ trail, x.Exits pid status
  plan : ∀ p, origin = .plan p → m.entries = p.images.length
  disk : ∀ d, origin = .disk d → TablePhase trail c m

lemma Sound.fits_workStage (h : c.Sound) (hm : c.model = some m) :
    ∀ stage ∈ c.workStage, stage.Fits config m := by
  intro stage hstage
  unfold workStage at hstage
  split at hstage
  · next o hwork =>
    cases hstage
    exact (h.fits hm hwork).stage
  · cases hstage

lemma Recorded.tick {origin : Source} {trail : List (Moment config)} (h : Recorded origin trail c m)
    (ht : Tick c m delivery c' m') (hm : c.model = some m) (hsource : m'.source = m.source)
    (hfits' : ∀ stage ∈ c'.workStage, stage.Fits config m') :
    Recorded origin (trail ++ [⟨c, delivery⟩]) c' m' where
  source := hsource.trans h.source
  disk d hd := (h.disk d hd).tick ht hm ⟨d, h.source.trans hd⟩ hfits'
  created pid := by
    rw [exists_mem_concat, ← h.created]
    cases ht with
    | quiet hpassed hmodel => rw [hmodel, or_iff_left (Moment.not_creates hpassed pid)]
    | @starts msg txn value d hdelivery hmsg hrests hwork hstart hmodel =>
      subst hmodel hdelivery
      have hpassed : ∀ o, ¬c.Passed (.message gatePort (.memV1 msg)) o := not_passed_gate
      rw [or_iff_left (Moment.not_creates hpassed pid)]
      exact ((start_records hrests value).of_ok hstart).1 pid
    | @goes o next d hpassed hfits hwork hadvance hnext hmodel =>
      subst hmodel
      rw [Moment.creates_iff hpassed]
      exact ((advance_records hfits).of_ok hadvance (by rw [hnext]; rfl)).1 pid
    | @ends o hpassed hfits hwork hends hmodel =>
      rw [hmodel, Moment.creates_iff hpassed, or_iff_left]
      intro hcreates
      cases hcase : o.stage <;> rw [hcase] at hends hcreates <;>
        first | exact hends.elim | cases hcreates
  exited pid status := by
    rw [exists_mem_concat, ← h.exited]
    cases ht with
    | quiet hpassed hmodel => rw [hmodel, or_iff_left (Moment.not_exits hpassed pid status)]
    | @starts msg txn value d hdelivery hmsg hrests hwork hstart hmodel =>
      subst hmodel hdelivery
      have hpassed : ∀ o, ¬c.Passed (.message gatePort (.memV1 msg)) o := not_passed_gate
      rw [or_iff_left (Moment.not_exits hpassed pid status)]
      exact ((start_records hrests value).of_ok hstart).2 pid status
    | @goes o next d hpassed hfits hwork hadvance hnext hmodel =>
      subst hmodel
      rw [Moment.exits_iff hpassed hm]
      exact ((advance_records hfits).of_ok hadvance (by rw [hnext]; rfl)).2 pid status
    | @ends o hpassed hfits hwork hends hmodel =>
      rw [hmodel, Moment.exits_iff hpassed hm, or_iff_left]
      rintro ⟨hread, -⟩
      rw [hread] at hends
      exact hends
  plan p hp := by
    rw [← h.plan p hp]
    cases ht with
    | quiet hpassed hmodel => rw [hmodel]
    | @starts msg txn value d hdelivery hmsg hrests hwork hstart hmodel =>
      rw [hmodel]
      exact ((start_judged value).of_ok hstart).entries
    | @goes o next d hpassed hfits hwork hadvance hnext hmodel =>
      rw [hmodel]
      have hnot (t : ExecTable) : ¬o.Accepts config m t := by
        rintro ⟨cursor, len, disk, -, -, hdisk, -⟩
        rw [h.source, hp] at hdisk
        cases hdisk
      exact (((advance_judged hfits).2 hnot).of_ok hadvance next hnext).entries
    | ends hpassed hfits hwork hends hmodel => rw [hmodel]

lemma Validated.awaits (h₀ : c₀.Validated) (hm : c₀.model = some m) :
    m.life = .awaitBoot ∧ ∀ p, m.source = .plan p → m.entries = p.images.length := by
  cases h₀ with
  | prototype h =>
    obtain ⟨-, h⟩ := Checks.check_eq_ok.mp h
    cases h
    cases hm
  | processes plan h =>
    obtain ⟨-, h⟩ := Checks.check_eq_ok.mp h
    cases h
    cases hm
    refine ⟨rfl, ?_⟩
    rintro _ ⟨⟩
    rfl
  | disk disk h =>
    obtain ⟨-, h⟩ := Checks.check_eq_ok.mp h
    cases h
    cases hm
    exact ⟨rfl, nofun⟩

lemma Validated.recorded (h₀ : c₀.Validated) {m₀ : Model} (hm₀ : c₀.model = some m₀)
    {trail : List (Moment config)} (h : Trail c₀ trail c) :
    c.Sound ∧ ∃ m, c.model = some m ∧ Recorded m₀.source trail c m := by
  induction h with
  | start =>
    obtain ⟨-, -, hpcbs⟩ := h₀.empty hm₀
    refine ⟨h₀.sound, m₀, hm₀, rfl, ?_, ?_, ?_, ?_⟩
    · intro pid
      unfold Processes.pids
      rw [hpcbs]
      simp
    · rintro pid status
      unfold Processes.Exited
      rw [hpcbs]
      simp
    · exact (h₀.awaits hm₀).2
    · exact fun d hd => .before (.inl (h₀.awaits hm₀).1) (by simp)
  | @event trail c c' h delivery env calls hc ih =>
    obtain ⟨hsound, m, hm, hrecorded⟩ := ih
    have hsound' := hsound.performs hc
    obtain ⟨m', hm', hsource, htick⟩ := (step_of_performs hc).tick hsound hm
    exact ⟨hsound', m', hm', hrecorded.tick htick hm hsource (hsound'.fits_workStage hm')⟩

/-! ## The verdict -/

end ModeledKernel

lemma Processes.length_pids {ps : Processes} {images : ℕ} (hok : ps.Ok images none) :
    ps.pcbs.length = images ↔ ∀ pid, 0 < pid → pid ≤ images → pid ∈ ps.pids := by
  have hnodup : ps.pids.Nodup := by
    unfold pids
    rw [List.Nodup, List.pairwise_map]
    exact hok.ascending.imp Nat.ne_of_lt
  have hsubset : ps.pids.toFinset ⊆ Finset.Icc 1 images := by
    intro pid hpid
    obtain ⟨p, hp, rfl⟩ := List.mem_map.mp (List.mem_toFinset.mp hpid)
    obtain ⟨hpos, hle⟩ := hok.range p hp
    exact Finset.mem_Icc.mpr ⟨hpos, hle⟩
  have hcard : ps.pids.toFinset.card = ps.pcbs.length := by
    rw [List.toFinset_card_of_nodup hnodup]
    exact List.length_map _
  have hicc : (Finset.Icc 1 images).card = images := by simp
  constructor
  · intro hlength pid hpos hle
    have heq : ps.pids.toFinset = Finset.Icc 1 images :=
      Finset.eq_of_subset_of_card_le hsubset (by omega)
    rw [← List.mem_toFinset, heq]
    exact Finset.mem_Icc.mpr ⟨hpos, hle⟩
  · intro hall
    have heq : ps.pids.toFinset = Finset.Icc 1 images := by
      refine hsubset.antisymm fun pid hpid => List.mem_toFinset.mpr ?_
      obtain ⟨hpos, hle⟩ := Finset.mem_Icc.mp hpid
      exact hall pid hpos hle
    rw [← hcard, heq, hicc]

lemma Model.emptyQueueReason_eq_zero {m : Model} (hok : m.procs.Ok m.entries none) :
    m.emptyQueueReason = 0 ↔
      ∀ pid, 0 < pid → pid ≤ m.entries → pid ∈ m.procs.pids ∧ m.procs.Exited pid 0 := by
  have hreason : m.emptyQueueReason = 0 ↔
      m.procs.pcbs.length = m.entries ∧ ∀ p ∈ m.procs.pcbs, p.state = .exited 0 := by
    unfold Model.emptyQueueReason
    split_ifs with h
    · exact iff_of_true rfl h
    · exact iff_of_false (by decide) h
  rw [hreason, Processes.length_pids hok]
  constructor
  · rintro ⟨hall, hexited⟩ pid hpos hle
    have hpid := hall pid hpos hle
    obtain ⟨p, hp, rfl⟩ := List.mem_map.mp hpid
    exact ⟨hpid, p, hp, rfl, hexited p hp⟩
  · refine fun hall => ⟨fun pid hpos hle => (hall pid hpos hle).1, fun p hp => ?_⟩
    obtain ⟨hpos, hle⟩ := hok.range p hp
    obtain ⟨-, q, hq, hpid, hstate⟩ := hall p.pid hpos hle
    rwa [Processes.pid_inj hok.ascending hp hq hpid.symm]

namespace ModeledKernel

variable {config : KernelConfig} {c c' c₀ : ModeledKernel config} {m m' : Model}
  {delivery : Delivered}

/-- What a shutdown was decided for, from the metadata. -/
lemma Tick.shutdown (ht : Tick c m delivery c' m') (hm : c.model = some m) {reason : UInt32}
    (hbegun : begun c c' = some (.shutdown reason)) :
    ((⟨c, delivery⟩ : Moment config).Fails → reason = 1) ∧
      (¬(⟨c, delivery⟩ : Moment config).Fails →
        reason = m'.emptyQueueReason ∧ m'.procs.queue = [] ∧ m'.procs.current = none) := by
  have hjudged {failure atTable : Prop} {entries : ℕ} {d : Decision ProcOp}
      (h : Judged failure entries atTable d) (hstage : d.next.stage = .shutdown reason) :
      (failure → reason = 1) ∧ (¬failure → reason = d.model.emptyQueueReason ∧
        d.model.procs.queue = [] ∧ d.model.procs.current = none) := by
    refine ⟨fun hfailure => ?_, h.reason reason hstage⟩
    have heq := h.failed hfailure
    rw [hstage] at heq
    cases heq
    rfl
  cases ht with
  | quiet hpassed hmodel hstage hnone =>
    rw [hnone] at hbegun
    cases hbegun
  | ends hpassed hfits hwork hends hmodel hwork' hnone =>
    rw [hnone] at hbegun
    cases hbegun
  | @starts msg txn value d hdelivery hmsg hrests hwork hstart hmodel hwork' hbegun' =>
    subst hdelivery hmodel
    rw [hbegun'] at hbegun
    rw [Moment.fails_iff_of_enters hmsg]
    exact hjudged ((start_judged value).of_ok hstart) (Option.some.inj hbegun)
  | @goes o next d hpassed hfits hwork hadvance hnext hmodel hwork' hbegun' =>
    subst hmodel
    rw [hbegun'] at hbegun
    rw [Moment.fails_iff hpassed hm]
    obtain ⟨haccept, hsame⟩ := advance_judged hfits
    by_cases ht : ∃ t, o.Accepts config m t
    · obtain ⟨t, ht⟩ := ht
      exact hjudged ((haccept t ht).of_ok hadvance next hnext) (Option.some.inj hbegun)
    · exact hjudged ((hsame fun t h => ht ⟨t, h⟩).of_ok hadvance next hnext)
        (Option.some.inj hbegun)

/-- Without a failure, the metadata count the boot images of the run. -/
lemma Recorded.bootImages {origin : Source} {trail : List (Moment config)}
    (h : Recorded origin trail c m)
    (ht : Tick c m delivery c' m') (hm : c.model = some m)
    (h' : Recorded origin (trail ++ [⟨c, delivery⟩]) c' m') {reason : UInt32}
    (hbegun : begun c c' = some (.shutdown reason))
    (hfails : ¬(⟨c, delivery⟩ : Moment config).Fails) (n : ℕ) :
    BootImages origin (trail ++ [⟨c, delivery⟩]) n ↔ n = m'.entries := by
  cases horigin : origin with
  | plan p =>
    rw [h'.plan p horigin]
    rfl
  | disk d =>
    have haccepts := (h.disk d horigin).accepts ht hm ⟨d, h.source.trans horigin⟩ hbegun hfails
    cases h'.disk d horigin with
    | before _ hnone | failed _ hnone =>
      obtain ⟨x, hx, t, ht⟩ := haccepts
      exact absurd ht (hnone x hx t)
    | accepted _ hentries =>
      constructor
      · rintro ⟨x, hx, t, ht, rfl⟩
        exact hentries x hx t ht
      · rintro rfl
        obtain ⟨x, hx, t, ht⟩ := haccepts
        exact ⟨x, hx, t, ht, (hentries x hx t ht).symm⟩

/-! ## The writes -/

end ModeledKernel

/-- A message on the memory port. -/
def Call.memMessage : Call → Option MemV1.MemMsg
  | .sent port (.memV1 msg) _ _ => if port = memPort then some msg else none
  | _ => none

/-- A piece of the action and the reason, with its address. -/
def shutdownWrite (config : KernelConfig) (reason : UInt32) (chunk : ℕ × ℕ) : ℕ × Bytes :=
  (chunk.1, ((wordBytes 1 ++ wordBytes reason).drop
    (chunk.1 - (config.trapFrame.toNat + frameAction))).take chunk.2)

/-- What a shutdown writes. -/
def shutdownWrites (config : KernelConfig) (reason : UInt32) : List (ℕ × Bytes) :=
  (shutdownChunks config).map (shutdownWrite config reason)

/-- The requests of some writes, as many as there are numbers for. -/
def writeRequests (txns : List TxnId) (writes : List (ℕ × Bytes)) : List MemV1.MemMsg :=
  List.zipWith (fun txn w => .writeReq txn (UInt64.ofNat w.1) w.2) txns writes

/-- A memory after some writes. -/
def writeAll (memory : ByteMap) (writes : List (ℕ × Bytes)) : ByteMap :=
  writes.foldl (fun memory w => memory.write w.1 w.2) memory

lemma writes_shutdownWrites (config : KernelConfig) (reason : UInt32) (memory : ByteMap) :
    writeAll memory (shutdownWrites config reason) = shutdownMemory config reason memory :=
  List.foldl_map

lemma memMessage_traces (notes : List Note) : (traces notes).filterMap Call.memMessage = [] := by
  unfold traces
  rw [List.filterMap_map]
  exact List.filterMap_eq_nil_iff.mpr fun _ _ => rfl

lemma writeRequests_concat {txns : List TxnId} {writes : List (ℕ × Bytes)}
    (h : txns.length ≤ writes.length)
    (more : List TxnId) : writeRequests (txns ++ more) writes =
      writeRequests txns writes ++ writeRequests more (writes.drop txns.length) := by
  induction txns generalizing writes with
  | nil => rfl
  | cons txn rest ih =>
    cases writes with
    | nil => cases h
    | cons w writes => exact congrArg (List.cons _) (ih (Nat.le_of_succ_le_succ h))

lemma length_shutdownWrites (config : KernelConfig) (reason : UInt32) :
    (shutdownWrites config reason).length = (shutdownChunks config).length :=
  List.length_map _

namespace ModeledKernel

variable {config : KernelConfig} {c c' c₀ : ModeledKernel config} {m m' : Model}
  {delivery : Delivered}

/-- How far the shutdown is, with the number of its writes that were sent. -/
inductive Stopping (reason : UInt32) (sent : ℕ) (c : ModeledKernel config) : Prop
  | issue {o : ProcOp} (hstate : c.state = .issue (.proc o)) (hstage : o.stage = .shutdown reason)
      (hstep : o.step = sent)
  | wait {o : ProcOp} {txn : TxnId} (hstate : c.state = .wait (.proc o) txn)
      (hstage : o.stage = .shutdown reason) (hstep : o.step + 1 = sent)
  | idle (hstate : c.state = .idle) (hheld : c.held = none)
    (hsent : sent = (shutdownChunks config).length)

/-- While the kernel shuts down, nothing begins, and at most the next write is sent. -/
lemma Stopping.step {reason : UInt32} {sent : ℕ} (h : Stopping reason sent c) (hsound : c.Sound)
    (hm : c.model = some m) (hdown : m.life = .down)
    (hle : sent ≤ (shutdownWrites config reason).length)
    {calls : List Call} (hstep : Step c delivery calls c') : begun c c' = none ∧ c'.model = some m ∧
      ∃ txns : List TxnId, calls.filterMap Call.memMessage =
          writeRequests txns ((shutdownWrites config reason).drop sent) ∧
        sent + txns.length ≤ (shutdownWrites config reason).length ∧
        Stopping reason (sent + txns.length) c' := by
  cases hstep with
  | @enter msg txn value m₁ d hmsg hheld hmodel hstart =>
    rw [hm] at hmodel
    cases hmodel
    rw [Model.start_down hdown] at hstart
    cases hstart
  | enterProto hmsg hheld hmodel =>
    rw [hm] at hmodel
    cases hmodel
  | refuse haccess hempty hmsg => exact ⟨begun_self, hm, [], rfl, hle, h⟩
  | @issue work access hstate haccess hpermits htxn =>
    cases h with
    | wait hstate' | idle hstate' =>
      rw [hstate] at hstate'
      cases hstate'
    | @issue o hstate' hstage hsent =>
      rw [hstate] at hstate'
      cases hstate'
      have haccess : o.access config = .ok (some access) := haccess
      unfold ProcOp.access at haccess
      rw [hstage] at haccess
      obtain ⟨chunk, hchunk, rfl⟩ := Option.map_eq_some_iff.mp (Except.ok.inj haccess)
      have hwrite :
        (shutdownWrites config reason)[sent]? = some (shutdownWrite config reason chunk) := by
        unfold shutdownWrites
        rw [List.getElem?_map, ← hsent, hchunk]
        rfl
      obtain ⟨hlt, hget⟩ := List.getElem?_eq_some_iff.mp hwrite
      refine ⟨?_, hm, [c.nextTxn], ?_, hlt, .wait rfl hstage (congrArg (· + 1) hsent)⟩
      · unfold begun
        rw [hstate]
      · rw [List.drop_eq_getElem_cons hlt, hget]
        rfl
  | @next msg txn o o' completion hstate hmsg hcomplete hfinished =>
    obtain ⟨hstage', hstep', -⟩ :=
      ProcOp.complete_spec (hsound.fits hm (work_of_wait hstate)).data hcomplete
    cases h with
    | issue hstate' | idle hstate' =>
      rw [hstate] at hstate'
      cases hstate'
    | wait hstate' hstage hsent =>
      rw [hstate] at hstate'
      cases hstate'
      refine ⟨?_, hm, [], rfl, hle, .issue rfl (hstage'.trans hstage) (hstep'.trans hsent)⟩
      unfold begun
      rw [hstate]
      exact if_neg (by omega)
  | @stage msg txn o o' completion m₁ d next hstate hmsg hcomplete hfinished hmodel
    hadvance hnext =>
    have hstage' := (ProcOp.complete_spec (hsound.fits hm (work_of_wait hstate)).data hcomplete).1
    cases h with
    | issue hstate' | idle hstate' =>
      rw [hstate] at hstate'
      cases hstate'
    | wait hstate' hstage hsent =>
      rw [hstate] at hstate'
      cases hstate'
      rw [advance_shutdown (hstage'.trans hstage) hadvance] at hnext
      cases hnext
  | @release msg txn o o' completion m₁ d held hstate hmsg hcomplete hfinished hmodel hadvance
    hnext hheld =>
    obtain ⟨hstage', hstep', -⟩ :=
      ProcOp.complete_spec (hsound.fits hm (work_of_wait hstate)).data hcomplete
    cases h with
    | issue hstate' | idle hstate' =>
      rw [hstate] at hstate'
      cases hstate'
    | wait hstate' hstage hsent =>
      rw [hstate] at hstate'
      cases hstate'
      rw [hm] at hmodel
      cases hmodel
      have hmodel : d.model = m := by
        unfold Model.advance at hadvance
        rw [hstage', hstage] at hadvance
        cases hadvance
        rfl
      have hend : (shutdownChunks config).length ≤ o'.step := by
        unfold ProcOp.isFinished ProcOp.steps at hfinished
        rw [hstage', hstage] at hfinished
        simpa using Except.ok.inj hfinished
      refine ⟨?_, congrArg some hmodel, [], ?_, hle, .idle rfl rfl ?_⟩
      · unfold begun
        rw [hstate]
      · rw [List.filterMap_append, memMessage_traces]
        rfl
      · rw [length_shutdownWrites] at hle
        exact Nat.le_antisymm hle (by omega)
  | nextProto hstate hmsg hcomplete hfinished =>
    cases h with
    | wait hstate' | idle hstate' | issue hstate' =>
      rw [hstate] at hstate'
      cases hstate'
  | releaseProto hstate hmsg hcomplete hfinished hheld =>
    cases h with
    | wait hstate' | idle hstate' | issue hstate' =>
      rw [hstate] at hstate'
      cases hstate'

lemma stopping_of_begun {reason : UInt32} (hbegun : begun c c' = some (.shutdown reason)) :
    Stopping reason 0 c' := by
  unfold begun at hbegun
  split at hbegun
  · cases hbegun
  · next o hstate _ =>
    obtain ⟨hstep, hstage⟩ := Option.ite_none_right_eq_some.mp hbegun
    exact .issue hstate (Option.some.inj hstage) hstep
  · cases hbegun

section Stopped

variable {reason : UInt32} (hsound : c.Sound) (hm : c.model = some m) (hdown : m.life = .down)
  (h : Stopping reason 0 c)

include hsound hm hdown h

/-- What is sent after the decision is what the shutdown writes. -/
lemma Stopping.ran [SnapshotData] {history : Component.History}
    (hran : Component.Ran c history c') :
    c'.Sound ∧ c'.model = some m ∧ ∃ txns,
      history.calls.filterMap Call.memMessage = writeRequests txns (shutdownWrites config reason) ∧
        txns.length ≤ (shutdownWrites config reason).length ∧ Stopping reason txns.length c' := by
  induction hran with
  | start => exact ⟨hsound, hm, [], rfl, Nat.zero_le _, h⟩
  | event _ hc ih =>
    obtain ⟨hsound, hm, txns, hsent, hle, h⟩ := ih
    obtain ⟨-, hm', more, hmore, hle', h'⟩ := h.step hsound hm hdown hle (step_of_performs hc)
    rw [← List.length_append] at hle' h'
    refine ⟨hsound.performs hc, hm', txns ++ more, ?_, hle', h'⟩
    rw [Component.History.calls_append, List.filterMap_append, hsent, hmore,
      writeRequests_concat hle]

/-- Nothing begins after the decision. -/
lemma Stopping.passes {stages : List Stage} (hpasses : Passes c stages c') : stages = [] := by
  have hrun : stages = [] ∧ c'.Sound ∧ c'.model = some m ∧
      ∃ sent, sent ≤ (shutdownWrites config reason).length ∧ Stopping reason sent c' := by
    induction hpasses with
    | start => exact ⟨rfl, hsound, hm, 0, Nat.zero_le _, h⟩
    | event _ hc ih =>
      obtain ⟨rfl, hsound, hm, sent, hle, h⟩ := ih
      obtain ⟨hnone, hm', txns, -, hle', h'⟩ := h.step hsound hm hdown hle (step_of_performs hc)
      rw [hnone]
      exact ⟨rfl, hsound.performs hc, hm', _, hle', h'⟩
  exact hrun.1

end Stopped

lemma Stopping.length_of_released {reason : UInt32} {sent : ℕ} (h : Stopping reason sent c)
    (hsound : c.Sound)
    (hheld : c.held = none) : sent = (shutdownWrites config reason).length := by
  have hwork : c.work = none := by
    rw [← Option.not_isSome_iff_eq_none, ← hsound.held, hheld]
    exact Bool.false_ne_true
  unfold ModeledKernel.work at hwork
  cases h with
  | issue hstate | wait hstate =>
    rw [hstate] at hwork
    cases hwork
  | idle hstate hheld hsent => rw [hsent, length_shutdownWrites]

/-- The verdict of every run that shuts down.  The reason is 0 exactly if no failure ended the run,
every boot image became a process and every process ended by an `exit` or `exit_group` with status
0; otherwise it is 1.  Without a failure, the run ended because the queue was empty.  What is sent
after the decision is the action 1 and the reason, and nothing else; and no stage begins any
more. -/
theorem shutdown_verdict [SnapshotData] (h₀ : c₀.Validated) {m₀ : Model} (hm₀ : c₀.model = some m₀)
    {trail : List (Moment config)} (h : Trail c₀ trail c) {env : Surroundings} {calls : List Call}
    (hc : (c.handleEvent delivery).Performs env calls c') {reason : UInt32}
    (hbegun : begun c c' = some (.shutdown reason)) :
    (reason = 0 ↔ ¬(⟨c, delivery⟩ : Moment config).Fails ∧
      AllExited m₀.source (trail ++ [⟨c, delivery⟩])) ∧
    (reason = 0 ∨ reason = 1) ∧
    (¬(⟨c, delivery⟩ : Moment config).Fails →
      ∃ m', c'.model = some m' ∧ m'.procs.queue = [] ∧ m'.procs.current = none) ∧
    (∀ history c'', Component.Ran c' history c'' → ∃ txns,
      history.calls.filterMap Call.memMessage = writeRequests txns (shutdownWrites config reason) ∧
        txns.length ≤ (shutdownWrites config reason).length ∧
        (c''.held = none → txns.length = (shutdownWrites config reason).length)) ∧
    (∀ memory,
      word (ByteMap.read (writeAll memory (shutdownWrites config reason)) config.trapFrame.toNat
        frameBytes) frameAction = 1 ∧
      word (ByteMap.read (writeAll memory (shutdownWrites config reason)) config.trapFrame.toNat
        frameBytes) frameReason = reason ∧
      ∀ a, ¬(config.trapFrame.toNat + frameAction ≤ a ∧
        a < config.trapFrame.toNat + frameAction + 8) →
        writeAll memory (shutdownWrites config reason) a = memory a) ∧
    ∀ stages c'', Passes c' stages c'' → stages = [] := by
  obtain ⟨hsound, m, hm, hrecorded⟩ := h₀.recorded hm₀ h
  have hsound' := hsound.performs hc
  obtain ⟨m', hm', hsource, htick⟩ := (step_of_performs hc).tick hsound hm
  have hrecorded' := hrecorded.tick htick hm hsource (hsound'.fits_workStage hm')
  obtain ⟨hfailed, hempty⟩ := htick.shutdown hm hbegun
  have hstopping := stopping_of_begun hbegun
  have hstopped : m'.Stopped := by
    obtain ⟨o, hstate, hstage⟩ := begun_eq_some hbegun
    have hwork : c'.work = some (.proc o) := by
      unfold ModeledKernel.work
      rw [hstate]
    have hfits := (hsound'.fits hm' hwork).stage
    rwa [hstage] at hfits
  have hverdict : ¬(⟨c, delivery⟩ : Moment config).Fails →
      (reason = 0 ↔ AllExited m₀.source (trail ++ [⟨c, delivery⟩])) := by
    intro hfails
    rw [(hempty hfails).1, Model.emptyQueueReason_eq_zero hstopped.procs]
    unfold AllExited
    simp only [hrecorded.bootImages htick hm hrecorded' hbegun hfails, exists_eq_left,
      hrecorded'.created,
      hrecorded'.exited]
  refine ⟨?_, ?_, fun hfails => ⟨m', hm', (hempty hfails).2⟩, ?_, ?_, ?_⟩
  · by_cases hfails : (⟨c, delivery⟩ : Moment config).Fails
    · rw [hfailed hfails]
      exact iff_of_false (by decide) fun h => h.1 hfails
    · rw [and_iff_right hfails]
      exact hverdict hfails
  · by_cases hfails : (⟨c, delivery⟩ : Moment config).Fails
    · exact .inr (hfailed hfails)
    · rw [(hempty hfails).1]
      unfold Model.emptyQueueReason
      split_ifs
      · exact .inl rfl
      · exact .inr rfl
  · intro history c'' hran
    obtain ⟨hsound'', -, txns, hsent, hle, hstopping⟩ :=
      hstopping.ran hsound' hm' hstopped.life hran
    exact ⟨txns, hsent, hle, hstopping.length_of_released hsound''⟩
  · intro memory
    rw [writes_shutdownWrites]
    obtain ⟨haction, hreason⟩ := frame_shutdownMemory config memory reason
    refine ⟨haction, hreason, fun a ha => ?_⟩
    rw [shutdownMemory_apply, if_neg ha]
  · exact fun stages c'' hpasses => hstopping.passes hsound' hm' hstopped.life hpasses

end ModeledKernel

/-- An `ENTER` with a wrong value. -/
def wrongEnter : Delivered := .message gatePort (.memV1 (.writeReq 0 0 (wordBytes 0)))

open Canonical in
theorem shutdown_verdict_wrong_enter : ∃ c',
    ModeledKernel.begun smallKernel c' = some (.shutdown 1) ∧
      ∀ stages c'', ModeledKernel.Passes c' stages c'' → stages = [] := by
  have hok : ((smallKernel.handleEvent wrongEnter).perform
      { component := 0, now := 0, phase := .request, rng := fun _ => 0 }).2.1 = .ok () := by
    decide +kernel
  have hbegun : ModeledKernel.begun smallKernel ((smallKernel.handleEvent wrongEnter).perform
      { component := 0, now := 0, phase := .request, rng := fun _ => 0 }).2.2 =
        some (.shutdown 1) := by
    decide +kernel
  have hverdict := ModeledKernel.shutdown_verdict smallKernel_validated rfl .start
    (Handler.performs_of_ok hok) hbegun
  exact ⟨_, hbegun, hverdict.2.2.2.2.2⟩

end SystemScope.Os
