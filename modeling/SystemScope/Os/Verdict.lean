import SystemScope.Os.Scheduling

/-!
# The verdict of a shutdown

What each operation on the metadata does to what the verdict is about: the processes that were
created, those that exited, with their status, and the number of boot images (`start_judged`,
`advance_judged`).  A shutdown is decided either by a failure, for reason 1, or by an empty queue,
for the reason that the table of processes gives.
-/

namespace SystemScope.Os

open Elf Checks

/-- A process exited with a status. -/
def Processes.Exited (ps : Processes) (pid : ℕ) (status : Int32) : Prop :=
  ∃ p ∈ ps.pcbs, p.pid = pid ∧ p.state = .exited status

/-- The stage reads the table, or a command before it does. -/
def Stage.AtTable : Stage → Prop
  | .command cursor | .poll cursor | .ack cursor _ | .staged cursor _ => cursor.table = none
  | _ => False

/-- The stage admits a process, with its PID, when it is finished. -/
def Stage.creates (stage : Stage) : Option ℕ := stage.creating.map Prod.fst

/-! ## Exits -/

namespace Processes

variable {ps ps' : Processes} {pid pid' : ℕ} {status : Int32} {context : Context}

lemma scheduleNext_exited (h : ps.scheduleNext = .ok (ps', some (pid, context))) :
    ps'.Exited pid' status ↔ ps.Exited pid' status := by
  have hsame {p : Pcb} (hstate : p.state = .exited status) : p ∈ ps'.pcbs ↔ p ∈ ps.pcbs :=
    scheduleNext_terminal h (by rw [hstate]; trivial)
  constructor
  · rintro ⟨p, hp, hpid, hstate⟩
    exact ⟨p, (hsame hstate).mp hp, hpid, hstate⟩
  · rintro ⟨p, hp, hpid, hstate⟩
    exact ⟨p, (hsame hstate).mpr hp, hpid, hstate⟩

section Ok

variable {images : ℕ} (hok : ps.Ok images none)

include hok

lemma yieldCurrent_exited (h : ps.yieldCurrent context = .ok (ps', pid)) :
    ps'.Exited pid' status ↔ ps.Exited pid' status := by
  obtain ⟨hcurrent, q, hpcb, rfl⟩ := yieldCurrent_eq_ok h
  constructor
  · rintro ⟨p, hp, hpid, hstate⟩
    rcases mem_or_of_mem_update hp with hp | ⟨r, rfl⟩
    · exact ⟨p, hp, hpid, hstate⟩
    · cases hstate
  · rintro ⟨p, hp, hpid, hstate⟩
    refine ⟨p, mem_update_of_find hpcb hp ?_, hpid, hstate⟩
    exact ne_of_current hok hcurrent hpcb (by rw [hstate]; trivial)

/-- The process that ends is the one that runs. -/
lemma endCurrent_exited {state : ProcState} (h : ps.endCurrent state = .ok (ps', pid)) :
    ps'.Exited pid' status ↔
      ps.Exited pid' status ∨ ps.current = some pid' ∧ state = .exited status := by
  obtain ⟨-, hcurrent, q, frames, hpcb, -, rfl⟩ := endCurrent_eq_ok h
  obtain ⟨hq, rfl⟩ := hok.pcb_eq_some.mp hpcb
  have hmem (p : Pcb) : p ∈ update q.pid (ended state) ps.pcbs ↔ _ := mem_update hok.ascending hq
  constructor
  · rintro ⟨p, hp, hpid, hstate⟩
    rcases (hmem p).mp hp with ⟨hp, -⟩ | rfl
    · exact .inl ⟨p, hp, hpid, hstate⟩
    · exact .inr ⟨hcurrent.trans (congrArg some hpid), hstate⟩
  · rintro (⟨p, hp, hpid, hstate⟩ | ⟨hcurrent', hstate⟩)
    · refine ⟨p, mem_update_of_find hpcb hp ?_, hpid, hstate⟩
      exact ne_of_current hok hcurrent hpcb (by rw [hstate]; trivial)
    · rw [hcurrent] at hcurrent'
      exact ⟨_, (hmem _).mpr (.inr rfl), Option.some.inj hcurrent', hstate⟩

end Ok

lemma Undergoes.mem_pids {events : List ProcessEvent} (h : ps.Undergoes events ps') :
    pid ∈ ps'.pids ↔ pid ∈ ps.pids ∨ ∃ pcb, .admitted pcb ∈ events ∧ pcb.pid = pid := by
  induction h with
  | refl => simp
  | reserved _ hevent ih =>
    refine ih.trans (or_congr_right (exists_congr fun pcb => and_congr_left' ?_))
    simp
  | @admitted events ps' ps'' pcb _ hevent ih =>
    obtain rfl := admit_eq_ok hevent
    unfold pids at ih ⊢
    rw [List.map_append, List.mem_append, ih, or_assoc]
    refine or_congr_right ⟨?_, ?_⟩
    · rintro (⟨pcb', hmem, hpid⟩ | hpid)
      · exact ⟨pcb', List.mem_append_left _ hmem, hpid⟩
      · exact ⟨pcb, List.mem_append_right _ List.mem_cons_self, (List.mem_singleton.mp hpid).symm⟩
    · rintro ⟨pcb', hmem, hpid⟩
      rcases List.mem_append.mp hmem with hmem | hmem
      · exact .inl ⟨pcb', hmem, hpid⟩
      · cases List.mem_singleton.mp hmem
        exact .inr (List.mem_singleton.mpr hpid.symm)
  | yielded _ hevent ih =>
    rw [yieldCurrent_pids hevent]
    refine ih.trans (or_congr_right (exists_congr fun pcb => and_congr_left' ?_))
    simp
  | ended _ hevent ih =>
    rw [endCurrent_pids hevent]
    refine ih.trans (or_congr_right (exists_congr fun pcb => and_congr_left' ?_))
    simp
  | dispatched _ hevent ih =>
    rw [scheduleNext_pids hevent]
    refine ih.trans (or_congr_right (exists_congr fun pcb => and_congr_left' ?_))
    simp

end Processes

section Decisions

variable {config : KernelConfig} {m : Model} {frame : Bytes}

/-- What a decision does to the processes that exited. -/
abbrev Exits (exits : ℕ → Int32 → Prop) (m : Model) (d : Outcome (Decision ProcOp)) : Prop :=
  Yields (fun _ => True)
    (fun d => ∀ pid status, d.model.procs.Exited pid status ↔
      m.procs.Exited pid status ∨ exits pid status) d

lemma dispatchNext_exits {exits : ℕ → Int32 → Prop} (h : ∀ pid status, ¬exits pid status)
    (from_ : ℕ) : Exits exits m (m.dispatchNext from_) := by
  have hnone (pid : ℕ) (status : Int32) {p : Prop} : p ↔ p ∨ exits pid status :=
    (or_iff_left (h pid status)).symm
  unfold Model.dispatchNext
  cases hnext : m.procs.scheduleNext with
  | error v => trivial
  | ok r =>
    obtain ⟨procs, head⟩ := r
    cases head with
    | none =>
      intro pid status
      rw [Processes.scheduleNext_eq_none hnext]
      exact hnone pid status
    | some r =>
      obtain ⟨pid, context⟩ := r
      dsimp only [bind, Except.bind, Except.mapError]
      cases procs.pcb pid with
      | none => trivial
      | some p => exact fun pid' status =>
        (Processes.scheduleNext_exited hnext).trans (hnone pid' status)

/-- The exits of a trap: that of the running process, if it asks for it. -/
def TrapExits (m : Model) (frame : Bytes) (pid : ℕ) (status : Int32) : Prop :=
  m.procs.current = some pid ∧ AsksToExit frame status

/-- A trap ends a process with a status if it asks for that, and no other. -/
lemma decide_exits (hok : m.procs.Ok m.entries none) :
    Exits (TrapExits m frame) m (m.decide frame) := by
  refine decide_forTraps.mono fun d hd pid' status => ?_
  obtain ⟨m', notes, next⟩ := d
  dsimp only at hd ⊢
  have hnext (procs : Processes) (pid : ℕ) :
      Exits (fun _ _ => False) { m with procs } ({ m with procs }.dispatchNext pid) :=
    dispatchNext_exits (fun _ _ => id) pid
  cases hd with
  | fails detail hspp => exact (or_iff_left fun h => hspp h.2.1).symm
  | calls hspp hyield hexit hd =>
    rw [hd.model, or_iff_left fun h => hexit status h.2]
  | @yields procs pid d hasks hyield hd =>
    have hdispatch := ((hnext procs pid).of_ok hd pid' status).trans (or_iff_left id)
    refine hdispatch.trans ((Processes.yieldCurrent_exited hok hyield).trans (or_iff_left ?_).symm)
    rintro ⟨-, -, -, hcall | hcall, -⟩
    · exact nomatch hcall.symm.trans hasks.2.2
    · exact nomatch hcall.symm.trans hasks.2.2
  | @ends state procs pid d hspp hyield hexit hend hd =>
    have hdispatch := ((hnext procs pid).of_ok hd pid' status).trans (or_iff_left id)
    unfold TrapExits
    rw [hexit]
    exact hdispatch.trans (Processes.endCurrent_exited hok hend)

/-! ## Reasons -/

/-- The number of boot images after a decision, whether it goes on at the table, and the reason of a
shutdown: that of a failure, or that of an empty queue. -/
structure Judged (failure : Prop) (entries : ℕ) (atTable : Prop) (d : Decision ProcOp) : Prop where
  entries : d.model.entries = entries
  atTable : d.next.stage.AtTable ↔ atTable ∧ ¬failure
  failed : failure → d.next.stage = .shutdown 1
  reason : ∀ r, d.next.stage = .shutdown r → ¬failure →
    r = d.model.emptyQueueReason ∧ d.model.procs.queue = [] ∧ d.model.procs.current = none

abbrev Judges (failure : Prop) (entries : ℕ) (atTable : Prop) (d : Outcome (Decision ProcOp)) :
    Prop :=
  Yields (fun _ => True) (Judged failure entries atTable) d

section Judges

variable {failure atTable : Prop} {entries : ℕ}

lemma Judges.after {d : Outcome (Decision ProcOp)} (h : Judges failure entries atTable d)
    (notes : List Note) : Judges failure entries atTable (do return Model.after notes (← d)) :=
  h.bind fun _ hd => ⟨hd.entries, hd.atTable, hd.failed, hd.reason⟩

lemma Judges.of_iff {failure' atTable' : Prop} {d : Outcome (Decision ProcOp)}
    (h : Judges failure entries atTable d) (hfailure : failure ↔ failure')
    (htable : ¬failure → (atTable ↔ atTable')) : Judges failure' entries atTable' d := by
  rw [propext hfailure] at h htable
  exact h.mono fun _ hd =>
    ⟨hd.entries, hd.atTable.trans (and_congr_left htable), hd.failed, hd.reason⟩

/-- The operation goes on, and changes the number of boot images or does not. -/
lemma judged_of_ne {d : Decision ProcOp} (hfailure : ¬failure)
    (hentries : d.model.entries = entries)
    (htable : d.next.stage.AtTable ↔ atTable) (hstage : ∀ r, d.next.stage ≠ .shutdown r) :
    Judged failure entries atTable d :=
  ⟨hentries, htable.trans (and_iff_left hfailure).symm, fun h => absurd h hfailure,
    fun r h => absurd h (hstage r)⟩

lemma fail_judged (hfailure : failure) (detail : String) :
    Judged failure m.entries atTable (m.fail detail) :=
  ⟨rfl, iff_of_false id fun h => h.2 hfailure, fun _ => rfl, fun _ _ h => absurd hfailure h⟩

lemma scheduleNext_none {ps ps' : Processes} (h : ps.scheduleNext = .ok (ps', none)) :
    ps.queue = [] ∧ ps.current = none := by
  unfold Processes.scheduleNext at h
  obtain ⟨hcurrent, h⟩ := guard_eq_ok.mp h
  refine ⟨?_, by simpa using hcurrent⟩
  split at h
  · assumption
  · split at h
    · cases h
    · split at h
      · cases h
      · obtain ⟨-, h⟩ := guard_eq_ok.mp h
        cases h

lemma dispatchNext_judges (hfailure : ¬failure) (from_ : ℕ) :
    Judges failure m.entries False (m.dispatchNext from_) := by
  unfold Model.dispatchNext
  cases hnext : m.procs.scheduleNext with
  | error v => trivial
  | ok r =>
    obtain ⟨procs, head⟩ := r
    cases head with
    | none =>
      obtain rfl := Processes.scheduleNext_eq_none hnext
      refine ⟨rfl, (and_iff_left hfailure).symm, fun h => absurd h hfailure, ?_⟩
      rintro _ ⟨⟩ -
      exact ⟨rfl, scheduleNext_none hnext⟩
    | some r =>
      obtain ⟨pid, context⟩ := r
      dsimp only [bind, Except.bind, Except.mapError]
      cases procs.pcb pid with
      | none => trivial
      | some p => exact judged_of_ne hfailure rfl Iff.rfl nofun

/-! ### The boot -/

lemma reserveSpace_entries (pid : ℕ) (boot : BootImage) :
    Yields (fun _ => True) (fun r => ∀ s ∈ r, s.2.entries = m.entries)
      (m.reserveSpace config pid boot) :=
  (Model.reserveSpace_spec (fun _ => trivial) pid boot).mono fun r hr s hs => by
    obtain ⟨frames, pool, -, -, heq⟩ := hr s hs
    rw [heq]

lemma createFrom_judges (hfailure : ¬failure) (index : ℕ) (rest : List BootImage) :
    Judges failure m.entries False (m.createFrom config index rest) := by
  induction rest generalizing index with
  | nil => exact dispatchNext_judges hfailure 0
  | cons boot rest ih =>
    unfold Model.createFrom
    by_cases hconflict : MegapageConflict boot.image config
    · rw [if_pos hconflict]
      exact (ih _).after _
    · rw [if_neg hconflict]
      refine (reserveSpace_entries _ _).bind fun r hr => ?_
      cases r with
      | none => exact (ih _).after _
      | some s =>
        refine judged_of_ne hfailure (hr s rfl) Iff.rfl ?_
        rintro _ ⟨⟩

lemma nextCreation_judges (hfailure : ¬failure) (from_ : ℕ) :
    Judges failure m.entries False (m.nextCreation config from_) := by
  unfold Model.nextCreation
  cases m.source with
  | disk d => trivial
  | plan p => exact createFrom_judges hfailure _ _

lemma nextLoad_judges (hfailure : ¬failure) (table : Option ExecTable) (index : ℕ) :
    Judges failure m.entries False (m.nextLoad table index) := by
  unfold Model.nextLoad
  cases table with
  | none => exact dispatchNext_judges hfailure 0
  | some t =>
    dsimp only
    by_cases hlt : index < t.entries.length
    · rw [if_pos hlt]
      exact judged_of_ne hfailure rfl (iff_of_false nofun id) nofun
    · rw [if_neg hlt]
      exact dispatchNext_judges hfailure 0

lemma acked_judges (cursor : Cursor) (error : UInt8) :
    Judges (cursor.table = none ∧ error ≠ 0) m.entries (cursor.table = none)
      (m.acked cursor error) := by
  unfold Model.acked
  by_cases hzero : error = 0
  · rw [if_pos hzero]
    exact judged_of_ne (fun h => h.2 hzero) rfl Iff.rfl nofun
  · rw [if_neg hzero]
    by_cases htable : cursor.table = none
    · rw [if_pos htable]
      exact fail_judged ⟨htable, hzero⟩ _
    · rw [if_neg htable]
      refine Judges.of_iff ?_ Iff.rfl fun _ => (iff_of_false htable id).symm
      exact (nextLoad_judges (fun h => htable h.1) _ _).after _

lemma skipEntry_judges (hfailure : ¬failure) (cursor : Cursor) (entry : UInt32) (error : String) :
    Judges failure m.entries False (m.skipEntry cursor entry error) :=
  (nextLoad_judges hfailure _ _).after _

lemma Cursor.table_ne_none {cursor : Cursor} {entry : ExecEntry} (h : cursor.entry = some entry) :
    cursor.table ≠ none := by
  intro htable
  unfold Cursor.entry at h
  rw [htable] at h
  cases h

lemma Cursor.Fits.table_eq_none {cursor : Cursor} (h : cursor.Fits config m)
    (hentry : cursor.entry = none) :
    cursor.table = none := by
  unfold Cursor.Fits at h
  unfold Cursor.entry at hentry
  cases htable : cursor.table with
  | none => rfl
  | some t =>
    rw [htable] at h hentry
    exact absurd (List.getElem?_eq_none_iff.mp hentry) (Nat.not_le.mpr h.2.1)

lemma staged_judges_table {disk : DiskBoot} (hsource : m.source = .disk disk) {cursor : Cursor}
    (hentry : cursor.entry = none) (len : UInt32) (data : Bytes) :
    (∀ e, parseExecTable data disk.capacityBlocks (DiskBoot.stagingSize config) = .error e →
      Judges True m.entries False (m.staged config cursor len data)) ∧
    ∀ t, parseExecTable data disk.capacityBlocks (DiskBoot.stagingSize config) = .ok t →
      Judges False t.entries.length False (m.staged config cursor len data) := by
  unfold Model.staged
  rw [hsource, hentry]
  dsimp only
  constructor
  · intro e he
    split
    · trivial
    · rw [he]
      exact fail_judged trivial _
  · intro t ht
    split
    · trivial
    · rw [ht]
      exact (nextLoad_judges (m := { m with source := .disk disk, entries := t.entries.length }) id
        _ _).after _

/-- The headers of an executable are read. -/
lemma staged_judges_entry (hfailure : ¬failure) {cursor : Cursor} {entry : ExecEntry}
    (hentry : cursor.entry = some entry) (len : UInt32) (data : Bytes) :
    Judges failure m.entries False (m.staged config cursor len data) := by
  have htable : cursor.table ≠ none := Cursor.table_ne_none hentry
  unfold Model.staged
  split
  · trivial
  · rw [hentry]
    dsimp only
    split
    · split
      · exact judged_of_ne hfailure rfl (iff_of_false htable id) nofun
      · exact skipEntry_judges hfailure _ _ _
    · exact skipEntry_judges hfailure _ _ _
    · split
      · exact skipEntry_judges hfailure _ _ _
      · refine (reserveSpace_entries _ _).bind fun r hr => ?_
        cases r with
        | none => exact skipEntry_judges hfailure _ _ _
        | some s => exact judged_of_ne hfailure (hr s rfl) Iff.rfl nofun

/-! ### Traps -/

lemma calls_judged {valid : Prop} {sepc : UInt32} {d : Decision ProcOp} (h : d.Calls valid sepc m)
    (hfailure : ¬failure) : Judged failure m.entries False d := by
  obtain ⟨hmodel, stage, hnext, hcall, -⟩ := h
  refine judged_of_ne hfailure (congrArg Model.entries hmodel) ?_ ?_
  all_goals
    rw [hnext]
    cases stage with
    | walk | output | return_ => first | exact Iff.rfl | exact nofun
    | _ => exact hcall.elim

lemma Calls.judges {valid : Prop} {sepc : UInt32} {d : Outcome (Decision ProcOp)}
    (h : Calls valid sepc m d) (hfailure : ¬failure) : Judges failure m.entries False d := by
  cases d with
  | error e => trivial
  | ok d => exact calls_judged h hfailure

lemma decide_judges :
    Judges (word frame frameSstatus &&& sstatusSpp ≠ 0) m.entries False (m.decide frame) := by
  refine decide_forTraps.mono fun d hd => ?_
  obtain ⟨m', notes, next⟩ := d
  dsimp only at hd
  cases hd with
  | fails detail hspp =>
    obtain ⟨hentries, htable, hfailed, hreason⟩ := fail_judged (m := m) hspp detail
    exact ⟨hentries, htable, hfailed, hreason⟩
  | calls hspp hyield hexit hd =>
    obtain ⟨hentries, htable, hfailed, hreason⟩ := calls_judged hd (not_not.mpr hspp)
    exact ⟨hentries, htable, hfailed, hreason⟩
  | @yields procs pid d hasks hyield hd =>
    obtain ⟨hentries, htable, hfailed, hreason⟩ :=
      (dispatchNext_judges (m := { m with procs }) (not_not.mpr hasks.1) pid).of_ok hd
    exact ⟨hentries, htable, hfailed, hreason⟩
  | @ends state procs pid d hspp hyield hexit hend hd =>
    obtain ⟨hentries, htable, hfailed, hreason⟩ :=
      (dispatchNext_judges (m := { m with procs }) (not_not.mpr hspp) pid).of_ok hd
    exact ⟨hentries, htable, hfailed, hreason⟩

end Judges

/-! ### Operations -/

/-- The stage that is finished fails the kernel: the table cannot be read or is invalid, or the trap
is one from S-mode. -/
def ProcOp.Fails (config : KernelConfig) (m : Model) (o : ProcOp) : Prop :=
  match o.stage with
  | .ack cursor error => cursor.table = none ∧ error ≠ 0
  | .staged cursor _ => cursor.table = none ∧ ∃ disk e, m.source = .disk disk ∧
      parseExecTable o.data disk.capacityBlocks (DiskBoot.stagingSize config) = .error e
  | .readFrame => word o.data frameSstatus &&& sstatusSpp ≠ 0
  | _ => False

/-- The stage that is finished read block 0, with a table that is accepted. -/
def ProcOp.Accepts (config : KernelConfig) (m : Model) (o : ProcOp) (t : ExecTable) : Prop :=
  ∃ cursor len disk, o.stage = .staged cursor len ∧ cursor.table = none ∧ m.source = .disk disk ∧
    parseExecTable o.data disk.capacityBlocks (DiskBoot.stagingSize config) = .ok t

theorem start_judged (value : UInt32) :
    Judges (value ≠ config.trapFrame) m.entries
      (m.life = .awaitBoot ∧ ∃ disk, m.source = .disk disk)
      (m.start config value) := by
  unfold Model.start
  split
  · next hvalue =>
    split
    · trivial
    · exact fail_judged hvalue _
  · next hvalue =>
    split
    · next hlife =>
      split
      · next disk hsource =>
        exact judged_of_ne hvalue rfl (iff_of_true rfl ⟨hlife, disk, hsource⟩) nofun
      · next plan hsource =>
        have hcreation : Judges (value ≠ config.trapFrame) m.entries False
            ({ m with life := .up }.nextCreation config 0) := nextCreation_judges hvalue 0
        refine Judges.of_iff (hcreation.after _) Iff.rfl fun _ => iff_of_false id ?_
        rintro ⟨-, disk, hdisk⟩
        rw [hsource] at hdisk
        cases hdisk
    · next hlife =>
      split
      · refine judged_of_ne hvalue rfl (iff_of_false id ?_) nofun
        rintro ⟨hawait, -⟩
        rw [hlife] at hawait
        cases hawait
      · trivial
    · trivial

/-- What comes after a stage, if the operation goes on. -/
abbrev JudgesNext (failure : Prop) (entries : ℕ) (atTable : Prop)
    (d : Outcome (Decision (Option ProcOp))) : Prop :=
  Yields (fun _ => True)
    (fun d => ∀ next ∈ d.next, Judged failure entries atTable { d with next := next }) d

lemma Judges.next {failure atTable : Prop} {entries : ℕ} {d : Outcome (Decision ProcOp)}
    (h : Judges failure entries atTable d) :
    JudgesNext failure entries atTable (do return Model.continue_ (← d)) := by
  refine h.bind fun d hd => ?_
  rintro _ ⟨⟩
  exact ⟨hd.entries, hd.atTable, hd.failed, hd.reason⟩

lemma admit_judges {failure atTable : Prop} (pid : ℕ) (image : UserImage) (space : Space)
    {next : Model → Outcome (Decision ProcOp)}
    (hnext : ∀ m', Judges failure m'.entries atTable (next m')) :
    JudgesNext failure m.entries atTable (do
      let (m, notes) ← m.admit_ pid image space
      return Model.continue_ (Model.after notes (← next m))) := by
  unfold Model.admit_
  dsimp only
  cases m.procs.admit_ (.new pid space (.initial image.entry m.source.layout.stackTop)) with
  | error v => trivial
  | ok procs =>
    refine Yields.bind (hnext { m with procs }) fun d hd => ?_
    rintro _ ⟨⟩
    exact ⟨hd.entries, hd.atTable, hd.failed, hd.reason⟩

theorem advance_judged {o : ProcOp} (h : o.stage.Fits config m) :
    (∀ t, o.Accepts config m t →
      JudgesNext (o.Fails config m) t.entries.length False (m.advance config o)) ∧
    ((∀ t, ¬o.Accepts config m t) →
      JudgesNext (o.Fails config m) m.entries o.stage.AtTable (m.advance config o)) := by
  obtain ⟨stage, step, data⟩ := o
  have honly {config : KernelConfig} {o : ProcOp}
    (hstage : ∀ cursor len, o.stage ≠ .staged cursor len)
      (hjudges : JudgesNext (o.Fails config m) m.entries o.stage.AtTable (m.advance config o)) :
      (∀ t, o.Accepts config m t →
        JudgesNext (o.Fails config m) t.entries.length False (m.advance config o)) ∧
      ((∀ t, ¬o.Accepts config m t) →
        JudgesNext (o.Fails config m) m.entries o.stage.AtTable (m.advance config o)) :=
    ⟨fun t ⟨cursor, len, _, hstaged, _⟩ => absurd hstaged (hstage cursor len), fun _ => hjudges⟩
  cases stage with
  | staged cursor len =>
    obtain ⟨⟨disk, hsource⟩, hcursor, -, -⟩ := h
    cases hentry : cursor.entry with
    | none =>
      have htable : cursor.table = none := hcursor.table_eq_none hentry
      obtain ⟨hfail, hok⟩ := @staged_judges_table config m disk hsource cursor hentry len data
      cases hparse : parseExecTable data disk.capacityBlocks (DiskBoot.stagingSize config) with
      | error e =>
        constructor
        · rintro t ⟨_, _, disk', ⟨⟩, -, hsource', hparse'⟩
          rw [hsource] at hsource'
          cases hsource'
          rw [hparse] at hparse'
          cases hparse'
        · intro _
          have hfails : True ↔ ProcOp.Fails config m { stage := .staged cursor len, step, data } :=
            ⟨fun _ => ⟨htable, disk, e, hsource, hparse⟩, fun _ => trivial⟩
          exact ((hfail e hparse).of_iff hfails fun h => absurd trivial h).next
      | ok t =>
        constructor
        · rintro t' ⟨_, _, disk', ⟨⟩, -, hsource', hparse'⟩
          rw [hsource] at hsource'
          cases hsource'
          rw [hparse] at hparse'
          cases hparse'
          have hfails :
            False ↔ ProcOp.Fails config m { stage := .staged cursor len, step, data } := by
            refine ⟨False.elim, ?_⟩
            rintro ⟨-, disk', e, hsource', hparse'⟩
            rw [hsource] at hsource'
            cases hsource'
            rw [hparse] at hparse'
            cases hparse'
          exact ((hok t hparse).of_iff hfails fun _ => Iff.rfl).next
        · exact fun hnot => absurd ⟨cursor, len, disk, rfl, htable, hsource, hparse⟩ (hnot t)
    | some entry =>
      have htable : cursor.table ≠ none := Cursor.table_ne_none hentry
      have hjudges :
        Judges (ProcOp.Fails config m { stage := .staged cursor len, step, data }) m.entries False
          (m.staged config cursor len data) :=
            staged_judges_entry (fun h => htable h.1) hentry len data
      exact ⟨fun t ⟨_, _, _, hstaged, hnone, _⟩ => by cases hstaged; exact absurd hnone htable,
        fun _ => (hjudges.of_iff Iff.rfl fun _ => iff_of_false id htable).next⟩
  | create pid space =>
    refine honly nofun ?_
    unfold Model.advance
    dsimp only
    split
    · trivial
    · cases Model.planImage _ pid with
      | error e => trivial
      | ok boot => exact admit_judges _ _ _ fun m' => nextCreation_judges id pid
  | load cursor headers image space =>
    exact honly nofun (admit_judges _ _ _ fun m' => nextLoad_judges id _ _)
  | command cursor =>
    refine honly nofun ?_
    rintro _ ⟨⟩
    exact judged_of_ne id rfl Iff.rfl nofun
  | poll cursor =>
    refine honly nofun ?_
    rintro _ ⟨⟩
    refine judged_of_ne id rfl ?_ ?_
    · dsimp only [ProcOp.new]
      split <;> exact Iff.rfl
    · dsimp only [ProcOp.new]
      split <;> exact nofun
  | ack cursor error => exact honly nofun (acked_judges cursor error).next
  | readFrame => exact honly nofun decide_judges.next
  | walk buffer pages table level => exact honly nofun ((Model.walked_calls _ _ _ _).judges id).next
  | output buffer pages done => exact honly nofun ((Model.chunkDone_calls _ _ _).judges id).next
  | dispatch | shutdown | return_ => exact honly nofun nofun

/-! ## Records -/

lemma exited_of_boot {ps ps' : Processes} {events : List ProcessEvent} (h : ps.Undergoes events ps')
    (hboot : ∀ e ∈ events, e.OfBoot) (pid : ℕ) (status : Int32) :
    ps'.Exited pid status ↔ ps.Exited pid status := by
  refine exists_congr fun p => ⟨?_, ?_⟩
  · rintro ⟨hp, hpid, hstate⟩
    exact ⟨(h.terminal_boot hboot (by rw [hstate]; trivial)).mp hp, hpid, hstate⟩
  · rintro ⟨hp, hpid, hstate⟩
    exact ⟨(h.terminal_boot hboot (by rw [hstate]; trivial)).mpr hp, hpid, hstate⟩

/-- The start of an operation creates no process and ends none. -/
theorem start_records (h : m.Rests config) (value : UInt32) :
    Yields (fun _ => True)
      (fun d => (∀ pid, pid ∈ d.model.procs.pids ↔ pid ∈ m.procs.pids) ∧
        ∀ pid status, d.model.procs.Exited pid status ↔ m.procs.Exited pid status)
      (m.start config value) := by
  refine (start_follows h value).mono fun d ⟨_, _, events, hd⟩ => ⟨fun pid => ?_, ?_⟩
  · rw [hd.undergoes.mem_pids, or_iff_left]
    rintro ⟨pcb, hpcb, -⟩
    cases (hd.kind _ hpcb).2
  · exact exited_of_boot hd.undergoes fun e he => (hd.kind e he).2.ofBoot

lemma created_pid {stage : Stage} (h : stage.Fits config m) :
    (m.created stage).map Pcb.pid = stage.creates := by
  cases stage with
  | create pid space =>
    obtain ⟨plan, boot, hsource, -, -, hboot, -⟩ := h
    unfold Model.created
    dsimp only
    rw [hsource]
    dsimp only
    rw [hboot]
    rfl
  | _ => rfl

/-- A finished stage creates the process that it is for, and a trap may end one. -/
theorem advance_records {o : ProcOp} (h : o.stage.Fits config m) :
    Yields (fun _ => True)
      (fun d => d.next.isSome → (∀ pid, pid ∈ d.model.procs.pids ↔
          pid ∈ m.procs.pids ∨ o.stage.creates = some pid) ∧
        ∀ pid status, d.model.procs.Exited pid status ↔
          m.procs.Exited pid status ∨ o.stage = .readFrame ∧ TrapExits m o.data pid status)
      (m.advance config o) := by
  have hexits : Yields (fun _ => True)
      (fun d => o.stage = .readFrame → ∀ pid status, d.model.procs.Exited pid status ↔
        m.procs.Exited pid status ∨ TrapExits m o.data pid status) (m.advance config o) := by
    by_cases hread : o.stage = .readFrame
    · rw [hread] at h
      unfold Model.advance
      rw [hread]
      exact Yields.bind (decide_exits (Model.Running.procs h)) fun d hd _ => hd
    · cases m.advance config o with
      | error e => trivial
      | ok d => exact fun h => absurd h hread
  cases hadvance : m.advance config o with
  | error e => trivial
  | ok d =>
    intro hsome
    obtain ⟨next, hnext⟩ := Option.isSome_iff_exists.mp hsome
    have hproceeds := (advance_follows h).of_ok hadvance
    rw [hnext] at hproceeds
    obtain ⟨-, -, events, hd, hsaves⟩ := hproceeds
    refine ⟨fun pid => ?_, fun pid status => ?_⟩
    · rw [hd.undergoes.mem_pids, ← created_pid h, Option.map_eq_some_iff]
      refine or_congr_right
        (exists_congr fun pcb => and_congr_left fun _ => ⟨fun hpcb => ?_, fun hpcb => ?_⟩)
      · rcases hd.kind _ hpcb with ⟨-, hcreated⟩ | ⟨-, hnone⟩
        · exact hcreated
        · exact hnone.elim
      · obtain ⟨rest, rfl⟩ := hsaves (.admitted pcb) hpcb
        exact List.mem_cons_self
    · by_cases hread : o.stage = .readFrame
      · rw [and_iff_right hread]
        exact hexits.of_ok hadvance hread pid status
      · rw [or_iff_left fun h => hread h.1]
        refine exited_of_boot hd.undergoes (fun e he => ?_) pid status
        rcases hd.kind e he with ⟨-, hboot⟩ | ⟨hread', -⟩
        · exact hboot.ofBoot
        · exact absurd hread' hread

end Decisions

end SystemScope.Os
