import SystemScope.Rv32i.Progress

/-!
# The CPU refines the atomic interpreter

A run is observed through its log: the instructions it commits, each with what it asked of memory
and the hart it left, and the level of the interrupt line at each commit.  For every program, memory
and schedule the observation of a run is the run of the atomic interpreter on these levels
(`run_refines`), and every schedule that goes on dispatching goes on committing.
-/

namespace SystemScope.Rv32i

namespace Rv32iCpu

variable {c c' d : Rv32iCpu} {calls : List Call}

/-! ## The interrupt line at a commit -/

lemma irqLevel_writeCsr {csr : UInt16} {value : UInt32} (h : c.writeCsr csr value = some d) :
    d.csrs.irqLevel = c.csrs.irqLevel := by
  have hwrite {m m' : CsrFile} (h : m.write csr value = some m') : m'.irqLevel = m.irqLevel := by
    unfold CsrFile.write at h
    split_ifs at h <;> cases h <;> rfl
  unfold writeCsr at h
  split at h
  · obtain ⟨csrs, hcsrs, rfl⟩ := Option.map_eq_some_iff.mp h
    exact hwrite hcsrs
  · obtain ⟨csrs, hcsrs, rfl⟩ := Option.map_eq_some_iff.mp h
    exact hwrite hcsrs
  · obtain ⟨⟨m3, csrs⟩, hm3, rfl⟩ := Option.map_eq_some_iff.mp h
    cases M3State.writes_of_write hm3 with
    | machine hcsr hm => exact hwrite hm
    | _ => rfl

lemma irqLevel_retire {insn : UInt32} {outcome : Outcome} {pa : Option UInt64}
    {fields : List (String × Value)} (hr : c.retire insn outcome pa = (d, .ok fields)) :
    d.csrs.irqLevel = c.csrs.irqLevel := by
  unfold retire at hr
  split at hr
  · cases hr
    rfl
  · rename_i op
    rcases c.commitCsr_cases insn op with ⟨e, hcsr⟩ | ⟨old, d', more, hread, hwrite, hcsr⟩
    · rw [hcsr] at hr
      cases hr
    · rw [hcsr] at hr
      cases hr
      split_ifs at hwrite
      · have hlevel := irqLevel_writeCsr hwrite
        exact hlevel
      · cases hwrite
        rfl
  · cases hr
    unfold mret
    split <;> rfl
  · cases hr
    rfl
  · cases hr

/-- A commit leaves the interrupt line alone. -/
lemma Commits.irqLevel (h : c.Commits calls c') : c'.csrs.irqLevel = c.csrs.irqLevel := by
  cases h with
  | halt | exception => rfl
  | limit hs hr hl =>
    have hlevel := irqLevel_retire hr
    exact hlevel
  | retire hs hr hl =>
    rename_i d _
    have hlevel := irqLevel_retire hr
    have hsampled : d.counted.sampled.csrs.irqLevel = d.counted.csrs.irqLevel := by
      rcases d.counted.sampled_cases with ⟨-, h⟩ | ⟨-, -, h⟩ | ⟨-, -, h⟩ <;> rw [h] <;> rfl
    exact hsampled.trans hlevel

end Rv32iCpu

/-! ## The simulation -/

namespace System

variable {μ : Type} [ByteMemory μ]

variable {start a : Atomic μ} {s s' : System μ} {e : Execution μ}

omit [ByteMemory μ] in
lemma commits_next {c c' : Rv32iCpu} {calls : List Call} (h : c.Commits calls c') :
    c'.halt ≠ none ∧ calls.filterMap Call.pending = [] ∨
      c'.halt = none ∧ c'.state = c'.fetchState ∧
        calls.filterMap Call.pending = wakesOf c'.fetchState c'.config.clock := by
  cases h with
  | halt | limit => exact .inl ⟨by simp [Rv32iCpu.halt, Rv32iCpu.enter], rfl⟩
  | exception => exact .inr ⟨Rv32iCpu.halt_resume _, rfl, rfl⟩
  | retire hs hr hl =>
    rename_i d _
    have hconfig : d.counted.sampled.resume.config = d.config := Rv32iCpu.sampled_frame.config
    refine .inr ⟨Rv32iCpu.halt_resume _, rfl, ?_⟩
    rw [hconfig, List.cons_append, List.filterMap_cons_none rfl, List.filterMap_append,
      pending_interruptRecord, List.nil_append]
    rfl

lemma Expects.committing (h : s.Expects e) (hp : s.pending = [.wake .commit Token.commit]) :
    ∃ insn outcome pa, s.cpu.state = .commitPending insn outcome pa ∧
      e = { outcome, requests := [], memory := s.memory } := by
  cases h with
  | commitPending hs => exact ⟨_, _, _, hs, rfl⟩
  | fetchIssue hs hp' | memIssue hs hp' | walkIssue hs hp' => cases hp.symm.trans hp'
  | fetchWait hs hu | memWait hs hu | walkWait hs hu =>
    rcases hu with ⟨hp', -⟩ | ⟨hp', -⟩ <;> cases hp.symm.trans hp'

/-- A step that does not commit takes from what is expected what it sends. -/
lemma Expects.advances (hc : s.cpu.Valid) (h : s.Expects e) (ha : s.Advances s') :
    (∃ calls c', s.pending = [.wake .commit Token.commit] ∧ s.cpu.Commits calls c' ∧
        s' =
          { s with
            cpu := c'
            pending := calls.filterMap Call.pending
            log := s.log ++ (calls.filterMap Call.entry ++ [.committed c']) }) ∨
      ∃ e' sent line, s'.Expects e' ∧ e = e'.after sent ∧
        observe s'.log = { observe s.log with sent := (observe s.log).sent ++ sent, line } ∧
        (s'.cpu.hart = s.cpu.hart ∧ line = (observe s.log).line ∨
          s'.cpu.hart = s.cpu.hart.withLevel line) := by
  have hnothing : observe s.log =
      { observe s.log with sent := (observe s.log).sent ++ [], line := (observe s.log).line } := by
    rw [List.append_nil]
  cases ha with
  | commit hp hcommits => exact .inl ⟨_, _, hp, hcommits, rfl⟩
  | serve hp =>
    exact .inr ⟨e, [], (observe s.log).line, h.serve hp, rfl, hnothing, .inl ⟨rfl, rfl⟩⟩
  | answer hp ha =>
    exact .inr ⟨e, [], (observe s.log).line, h.answer hp ha, rfl, hnothing, .inl ⟨rfl, rfl⟩⟩
  | irq hprofile =>
    rename_i asserted
    refine .inr ⟨e, [], asserted, h.irq, rfl, ?_, .inr rfl⟩
    rw [observe_append, List.append_nil]
    rfl
  | issue hp hi hn =>
    rename_i token next msg waiting
    obtain ⟨req, e', hreq, rfl, hexpects⟩ :=
      h.issue hc hi next (s.log ++ [.sent (msg s.cpu.nextTxn), .woke token])
    refine .inr ⟨e', [req], (observe s.log).line, hexpects, rfl, ?_, .inl ⟨rfl, rfl⟩⟩
    rw [observe_sent]
    simp [Observation.record, hreq]

/-- The run so far is the interpreter's, which stands at `a`; the instruction under way is the next
one from there. -/
structure RefinedBy (start : Atomic μ) (s : System μ) (a : Atomic μ) : Prop where
  seen : Machine.exec Atomic.step start (observe s.log).levels = ((observe s.log).seen, a)
  hart : s.cpu.hart = a.hart.withLevel (observe s.log).line
  halt : s.cpu.halt = a.halt
  halted : a.halt ≠ none → s.pending = [] ∧ (observe s.log).sent = [] ∧ s.memory = a.memory
  running : a.halt = none →
    ∃ e, s.Expects e ∧ a.hart.execute a.memory = e.after (observe s.log).sent

/-- A commit is one step of the interpreter. -/
lemma RefinedBy.commit {calls : List Call} {c' : Rv32iCpu} (h : s.RefinedBy start a)
    (hrunning : a.halt = none) (hp : s.pending = [.wake .commit Token.commit])
    (hc : s.cpu.Commits calls c') :
    RefinedBy start
      { s with
        cpu := c'
        pending := calls.filterMap Call.pending
        log := s.log ++ (calls.filterMap Call.entry ++ [.committed c']) }
      { hart := c'.hart, memory := s.memory, halt := c'.halt } := by
  have hobserve := observe_commit hc s.log
  obtain ⟨e, hexpects, hexecute⟩ := h.running hrunning
  obtain ⟨insn, outcome, pa, hs, rfl⟩ := hexpects.committing hp
  have hstep : a.step (observe s.log).line =
      ({ requests := (observe s.log).sent, hart := c'.hart, halt := c'.halt },
        { hart := c'.hart, memory := s.memory, halt := c'.halt }) := by
    unfold Atomic.step
    rw [hrunning]
    simp only [hexecute, Execution.after_outcome, Execution.after_requests, Execution.after_memory,
      List.append_nil, ← h.hart, hc.hart hs]
  refine ⟨?_, ?_, rfl, fun hhalted => ?_, fun hrunning => ?_⟩
  · rw [hobserve]
    simp only [Observation.record, Machine.exec_append, h.seen, Machine.exec_cons, Machine.exec_nil,
      hstep]
  · rw [hobserve]
    have hline : c'.csrs.irqLevel = (observe s.log).line := by
      rw [hc.irqLevel]
      exact congrArg (fun hart => hart.csrs.irqLevel) h.hart
    simp only [Observation.record, ← hline]
    rfl
  · rcases commits_next hc with ⟨-, hnext⟩ | ⟨hrunning, -⟩
    · exact ⟨hnext, by rw [hobserve]; rfl, rfl⟩
    · exact absurd hrunning hhalted
  · rcases commits_next hc with ⟨hhalted, -⟩ | ⟨-, hs', hnext⟩
    · exact absurd hrunning hhalted
    · refine ⟨_, expects_fetchState hs' hnext, ?_⟩
      rw [hobserve]
      rfl

/-- A halted CPU has nothing left to do but to hear the interrupt line. -/
lemma RefinedBy.irq {asserted : Bool} (h : s.RefinedBy start a) (hhalted : a.halt ≠ none) :
    RefinedBy start
      { s with
        cpu := { s.cpu with csrs := { s.cpu.csrs with irqLevel := asserted } }
        log := s.log ++ [.level asserted] } a := by
  have hobserve := observe_append s.log (.level asserted)
  refine ⟨?_, ?_, h.halt, fun _ => ?_, fun hrunning => absurd hrunning hhalted⟩
  · rw [hobserve]
    exact h.seen
  · rw [hobserve]
    change s.cpu.hart.withLevel asserted = _
    rw [h.hart]
    rfl
  · rw [hobserve]
    exact h.halted hhalted

/-- Every advance keeps to the interpreter. -/
lemma RefinedBy.advances (hc : s.cpu.Valid) (h : s.RefinedBy start a) (ha : s.Advances s') :
    ∃ a', s'.RefinedBy start a' := by
  by_cases hrunning : a.halt = none
  · obtain ⟨e, hexpects, hexecute⟩ := h.running hrunning
    rcases hexpects.advances hc ha with ⟨calls, c', hp, hcommits, rfl⟩ |
      ⟨e', sent, line, hexpects', rfl, hobserve, hhart⟩
    · exact ⟨_, h.commit hrunning hp hcommits⟩
    · refine ⟨a, ?_, ?_, ?_, fun hhalted => absurd hrunning hhalted, fun _ => ⟨e', hexpects', ?_⟩⟩
      · rw [hobserve]
        exact h.seen
      · rw [hobserve]
        rcases hhart with ⟨hhart, rfl⟩ | hhart
        · rw [hhart, h.hart]
        · rw [hhart, h.hart]
          rfl
      · rw [hexpects'.halt, hrunning]
      · rw [hobserve, hexecute, Execution.after_after]
  · obtain ⟨hp, -, -⟩ := h.halted hrunning
    cases ha with
    | irq hprofile => exact ⟨a, h.irq hrunning⟩
    | serve hp' | issue hp' | answer hp' | commit hp' => cases hp.symm.trans hp'

/-- At reset nothing has happened, in the interpreter too. -/
lemma refinedBy_boot {config : Rv32iConfig} {c : Rv32iCpu} (hnew : Rv32iCpu.new config = .ok c)
    (m : μ) :
    (boot c m).RefinedBy { hart := c.hart, memory := m, halt := none }
      { hart := c.hart, memory := m, halt := none } := by
  unfold Rv32iCpu.new at hnew
  split_ifs at hnew
  cases hnew
  have hfetch : (Rv32iCpu.reset config).fetchState = .fetchIssue none := by
    unfold Rv32iCpu.fetchState Rv32iCpu.translating M3State.translates
    simp [Rv32iCpu.reset, M3State.new]
  refine ⟨rfl, rfl, rfl, fun h => absurd rfl h, fun _ => ⟨_, expects_fetchState ?_ ?_, rfl⟩⟩
  · exact hfetch.symm
  · change _ = wakesOf (Rv32iCpu.reset config).fetchState _
    rw [hfetch]
    rfl

/-- From reset, for every memory and every schedule: what is seen of the CPU is what the interpreter
does at the same levels of the interrupt line, instruction by instruction, with the same requests;
what has been asked of memory since the last commit is the beginning of what the next instruction
asks for.  And unless the CPU has halted, a schedule with 20 more dispatches commits one more
instruction, or leaves the CPU without a transaction number to go on with. -/
theorem run_refines {config : Rv32iConfig} {c : Rv32iCpu}
    (hnew : Rv32iCpu.new config = .ok c) (m : μ)
    {actions : List Action} {s : System μ} (hrun : (boot c m).run actions = .ok s) :
    (∃ a, Machine.exec Atomic.step { hart := c.hart, memory := m, halt := none }
          (observe s.log).levels = ((observe s.log).seen, a) ∧
        s.cpu.hart = a.hart.withLevel (observe s.log).line ∧ s.cpu.halt = a.halt ∧
        (observe s.log).sent <+: a.requests ∧ (s.cpu.halt ≠ none → s.memory = a.memory)) ∧
      (s.cpu.halt = none → ∀ more : List Action,
        (config.profile = .m1 → ∀ asserted, Action.irq asserted ∉ more) →
        20 ≤ more.count (.dispatch 0) →
        ∃ pre s', pre <+: more ∧ s.run pre = .ok s' ∧
          ((observe s'.log).seen.length = (observe s.log).seen.length + 1 ∨
            config.profile ≠ .m1 ∧ s'.cpu.nextTxn = UInt64.ofNat (2 ^ 64 - 1))) := by
  obtain ⟨hsound₀, hconfig₀⟩ := Rv32iCpu.sound_new hnew
  have hmatched₀ : (boot c m).Matched := by
    unfold Rv32iCpu.new at hnew
    split_ifs at hnew
    cases hnew
    exact matched_boot _ rfl m
  obtain ⟨hmatched, hsound, hconfig, a, h⟩ := run_induction
    (I := fun s => s.cpu.Sound ∧ s.cpu.config = config ∧
      ∃ a, s.RefinedBy { hart := c.hart, memory := m, halt := none } a)
    (fun _ _ _ ⟨hsound, hconfig, _, h⟩ ha => ⟨sound_advances hsound ha,
      (advances_config ha).trans hconfig, h.advances hsound.valid ha⟩)
    hmatched₀ ⟨hsound₀, hconfig₀, _, refinedBy_boot hnew m⟩ hrun
  refine ⟨⟨a, h.seen, h.hart, h.halt, ?_, fun hhalted => ?_⟩, fun hrunning more hm1 hcount => ?_⟩
  · unfold Atomic.requests
    split
    · rename_i hhalted
      rw [(h.halted (by rw [hhalted]; simp)).2.1]
    · rename_i hrunning
      obtain ⟨e, -, hexecute⟩ := h.running hrunning
      rw [hexecute]
      exact List.prefix_append _ _
  · rw [h.halt] at hhalted
    exact (h.halted hhalted).2.2
  · obtain ⟨e, hexpects, -⟩ := h.running (h.halt ▸ hrunning)
    obtain ⟨pre, s', hpre, hrun', hend⟩ := run_progress hsound hmatched hexpects
      (fun hprofile => hm1 (hconfig ▸ hprofile)) ((rank_le s).trans hcount)
    rw [hconfig] at hend
    exact ⟨pre, s', hpre, hrun', hend⟩

section

open Canonical

/-- A CPU of the `M2` profile at address 0. -/
def loadConfig : Rv32iConfig where
  clock := 0
  entry := 0
  maxInstructions := 5
  nonzero := Rv32iConfig.five_ne_zero
  profile := .m2

/-- `lw x1, 4(x0)`, and the word it loads. -/
def loadRam : Ram := ⟨[0x83, 0x20, 0x40, 0x00, 0x2a, 0, 0, 0]⟩

theorem run_refines_load : ∃ s,
    (boot (.reset loadConfig) loadRam).run (List.replicate 7 (.dispatch 0)) = .ok s ∧
      (observe s.log).seen.map Seen.requests = [[.read 0 4, .read 4 4]] ∧
      s.cpu.regs.read (.field 0x00402083 7) = 0x2a ∧
      ∃ a, Machine.exec Atomic.step
        { hart := (Rv32iCpu.reset loadConfig).hart, memory := loadRam, halt := none } [false] =
          ((observe s.log).seen, a) := by
  obtain ⟨s, hrun, hseen, hlevels, hread⟩ : ∃ s,
      (boot (.reset loadConfig) loadRam).run (List.replicate 7 (.dispatch 0)) = .ok s ∧
        (observe s.log).seen.map Seen.requests = [[.read 0 4, .read 4 4]] ∧
        (observe s.log).levels = [false] ∧ s.cpu.regs.read (.field 0x00402083 7) = 0x2a :=
    ⟨_, rfl, rfl, rfl, rfl⟩
  have hnew : Rv32iCpu.new loadConfig = .ok (.reset loadConfig) := rfl
  obtain ⟨⟨a, hexec, -⟩, -⟩ := run_refines hnew loadRam hrun
  rw [hlevels] at hexec
  exact ⟨s, hrun, hseen, hread, a, hexec⟩

end

end System

end SystemScope.Rv32i
