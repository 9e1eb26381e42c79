import SystemScope.Rv32i.RoundTrip

/-!
# Precise commits

Architectural state changes on the `commit` wake and nowhere else, in one of four ways
(`event_precise`): an undelegated trap halts and changes nothing, a delegated one changes what its
delivery says, and a retirement applies one instruction and counts it, then halts at the limit or
takes the interrupt with the `pc` that instruction produced.
-/

namespace SystemScope.Rv32i

open SnapshotFields

/-! ## CSRs that can be named are there -/

variable {isa : Isa} {word pc : UInt32} {regs : RegisterFile}

/-- Only the privileged instructions need more than an effect or a trap. -/
lemma exec_of_stepBase {outcome : Outcome} (h : stepBase isa word pc regs = .done outcome) :
    ∃ o, outcome = .exec o := by
  unfold stepBase at h
  split at h
  · cases h
    exact ⟨_, rfl⟩
  · rename_i instr _
    have hfamily := Option.eq_some_iff_get_eq.mpr ⟨_, h⟩
    unfold family at hfamily
    split at hfamily
    all_goals
      obtain ⟨_, -, hmap⟩ := Option.map_eq_some_iff.mp hfamily
      first
        | cases hmap
          exact ⟨_, rfl⟩
        | split at hmap
          · cases hmap
          · cases hmap
            exact ⟨_, rfl⟩

/-- A CSR instruction names a CSR of its profile. -/
lemma supported_of_step {op : PendingCsr} (h : step isa word pc regs = .done (.csr op)) :
    isa = .m2 ∧ Csr.isSupported op.csr = true ∨
      ∃ mode, isa = .m3 mode ∧ Csr.isSupportedM3 op.csr = true := by
  have hbase (h : stepBase isa word pc regs = .done (.csr op)) : False := by
    obtain ⟨o, ho⟩ := exec_of_stepBase h
    cases ho
  unfold step at h
  split at h
  · exact (hbase h).elim
  · split at h
    · rename_i instr _
      unfold privileged at h
      split at h
      · cases h
      · split_ifs at h with hsupported
        · cases h
        · cases h
          exact .inl ⟨rfl, by simpa [csrOperation] using hsupported⟩
    · exact (hbase h).elim
  · rename_i mode
    split at h
    · rename_i outcome hprivileged
      cases h
      refine .inr ⟨mode, rfl, ?_⟩
      unfold privilegedM3 at hprivileged
      split at hprivileged
      · split_ifs at hprivileged <;> cases hprivileged
      · dsimp only at hprivileged
        split_ifs at hprivileged with hsupported
        · cases hprivileged
        · cases hprivileged
          simp only [Bool.or_eq_true, not_or, Bool.not_eq_true', Bool.not_eq_false] at hsupported
          exact hsupported.1
      · obtain ⟨instr, -, hinstr⟩ := Option.map_eq_some_iff.mp hprivileged
        split_ifs at hinstr
        · cases hinstr
        · cases instr <;> cases hinstr
    · exact (hbase h).elim

lemma CsrFile.isSome_read_of_supported {csr : UInt16} (h : Csr.isSupported csr = true)
    (c : CsrFile) :
    (c.read csr).isSome = true := by
  have hmem := of_decide_eq_true h
  simp only [Csr.supported, List.mem_cons, List.not_mem_nil, or_false] at hmem
  rcases hmem with rfl | rfl | rfl | rfl | rfl | rfl | rfl | rfl <;> rfl

lemma M3State.isSome_of_supported {csr : UInt16} (h : Csr.isSupportedM3 csr = true) (s : M3State)
    (m : CsrFile) (value : UInt32) :
    (s.read m csr).isSome = true ∧ (s.write m csr value).isSome = true := by
  have hmem := of_decide_eq_true h
  simp only [Csr.supportedM3, List.mem_cons, List.not_mem_nil, or_false] at hmem
  rcases hmem with rfl | rfl | rfl | rfl | rfl | rfl | rfl | rfl | rfl | rfl | rfl | rfl
    | rfl | rfl |
    rfl | rfl | rfl | rfl | rfl <;> exact ⟨rfl, rfl⟩

namespace Rv32iCpu

variable {c : Rv32iCpu}

lemma isSome_csr {op : PendingCsr} (h : step c.isa word c.pc c.regs = .done (.csr op))
    (value : UInt32) :
    (c.readCsr op.csr).isSome = true ∧ (c.writeCsr op.csr value).isSome = true := by
  unfold readCsr writeCsr
  rcases supported_of_step h with ⟨hisa, hsupported⟩ | ⟨mode, hisa, hsupported⟩
  · have hprofile : c.config.profile = .m2 := by
      unfold isa at hisa
      split at hisa
      · cases hisa
      · assumption
      · cases hisa
    rw [hprofile]
    have hread := CsrFile.isSome_read_of_supported hsupported c.csrs
    refine ⟨hread, ?_⟩
    rw [Option.isSome_map, CsrFile.isSome_write c.csrs c.csrs]
    exact hread
  · rw [(profile_of_isa_m3 hisa).1, Option.isSome_map]
    exact M3State.isSome_of_supported hsupported c.m3 c.csrs value

lemma exists_retire {insn : Option UInt32} {outcome : Outcome} {pa : Option UInt64} (hc : c.Valid)
    (hs : c.state = .commitPending insn outcome pa) (hnot : ∀ t, outcome ≠ .exec (.trap t)) :
    ∃ word d fields, insn = some word ∧ c.retire word outcome pa = (d, .ok fields) := by
  have hstate := hc.state
  rw [hs] at hstate
  cases consistent_iff.mp hstate.1 with
  | fetch | fault => exact absurd rfl (hnot _)
  | loaded | stored => exact ⟨_, _, _, rfl, rfl⟩
  | done hstep =>
    rename_i word
    cases outcome with
    | exec outcome =>
      cases outcome with
      | effect => exact ⟨word, _, _, rfl, rfl⟩
      | trap t => exact absurd rfl (hnot t)
    | csr op =>
      have hcsr := fun value => isSome_csr hstep value
      obtain ⟨old, hread⟩ := Option.isSome_iff_exists.mp (hcsr 0).1
      obtain ⟨d, hwrite⟩ := Option.isSome_iff_exists.mp (hcsr (op.op.apply old op.operand)).2
      obtain ⟨stored, hstored⟩ := Option.isSome_iff_exists.mp (readCsr_isSome_of_writeCsr hwrite)
      refine ⟨word, ?_⟩
      unfold retire commitCsr
      simp only [hread, hwrite, hstored, true_and]
      split_ifs <;> exact ⟨_, _, rfl⟩
    | mret => exact ⟨word, _, _, rfl, rfl⟩
    | sret => exact ⟨word, _, _, rfl, rfl⟩

lemma exists_commits {insn : Option UInt32} {outcome : Outcome} {pa : Option UInt64} (hc : c.Valid)
    (hs : c.state = .commitPending insn outcome pa) : ∃ calls c', c.Commits calls c' := by
  by_cases htrap : ∃ t, outcome = .exec (.trap t)
  · obtain ⟨t, rfl⟩ := htrap
    cases hd : c.delivery t with
    | none => exact ⟨_, _, .halt hs hd⟩
    | some taken => exact ⟨_, _, .exception hs hd⟩
  · obtain ⟨word, d, fields, rfl, hr⟩ := exists_retire hc hs fun t ht => htrap ⟨t, ht⟩
    by_cases hl : d.config.maxInstructions ≤ d.counted.instret
    · exact ⟨_, _, .limit hs hr hl⟩
    · exact ⟨_, _, .retire hs hr hl⟩

end Rv32iCpu

namespace Rv32iCpu

/-- Two CPUs with the same architectural state, up to the level of the `irq` input. -/
structure SameArch (c c' : Rv32iCpu) : Prop where
  pc : c'.pc = c.pc
  regs : c'.regs = c.regs
  instret : c'.instret = c.instret
  csrs : c'.csrs = { c.csrs with irqLevel := c'.csrs.irqLevel }
  m3 : c'.m3 = c.m3

/-- Whether an event commits: the `commit` wake in `commitPending`. -/
def Committing (c : Rv32iCpu) (ev : Delivered) : Prop :=
  ev = .wake Token.commit ∧ ∃ insn outcome pa, c.state = .commitPending insn outcome pa

/-- A trap that is not delegated: the CPU halts with the trapping `pc`. -/
def Traps (c c' : Rv32iCpu) : Prop :=
  ∃ insn t pa, c.state = .commitPending insn (.exec (.trap t)) pa ∧
    (c.config.profile = .m3 → c.m3.delegates t.cause = false) ∧
    c' = { c with state := .halted (.trap { cause := t.cause, pc := c.pc, tval := t.tval }) }

/-- A trap that is delegated: it is delivered to S. -/
def Delivers (c c' : Rv32iCpu) : Prop :=
  ∃ insn t pa spp, c.state = .commitPending insn (.exec (.trap t)) pa ∧ c.config.profile = .m3 ∧
    c.m3.delegates t.cause = true ∧ spp.privilege = c.m3.privilege ∧
    c' =
      { c with
        pc := c.m3.stvec &&& ~~~0b11
        m3 :=
          { c.m3 with
            spp
            sepc := c.pc
            scause := t.cause.code
            stval := t.tval
            spie := c.m3.sie
            sie := false
            privilege := .supervisor } }.resume

/-- The interrupt is eligible under the profile's rules. -/
def MeiEligible (d : Rv32iCpu) : Prop :=
  d.config.profile = .m2 ∧ d.csrs.meiEligible = true ∨
    d.config.profile = .m3 ∧ d.m3.meiEligible d.csrs = true

/-- A retirement: `d` is the CPU after the effects of the instruction, which is then counted. -/
def Retired (c d : Rv32iCpu) : Prop :=
  ∃ insn outcome pa fields, c.state = .commitPending (some insn) outcome pa ∧
    (∀ t, outcome ≠ .exec (.trap t)) ∧ c.retire insn outcome pa = (d, .ok fields)

variable {c c' d : Rv32iCpu} {ev : Delivered}

lemma SameArch.refl (c : Rv32iCpu) : SameArch c c := ⟨rfl, rfl, rfl, rfl, rfl⟩

lemma not_trap_of_retire {insn : UInt32} {outcome : Outcome} {pa : Option UInt64}
    {fields : List (String × Value)} (hr : c.retire insn outcome pa = (d, .ok fields))
    (t : PendingTrap) :
    outcome ≠ .exec (.trap t) := by
  rintro rfl
  cases hr

/-- Outside a commit nothing architectural changes. -/
lemma Moves.sameArch {phase : Phase} {calls : List Call} (h : c.Moves phase ev calls c')
    (hnot : ¬c.Committing ev) : SameArch c c' := by
  cases h with
  | issue | answer | irq => exact ⟨rfl, rfl, rfl, rfl, rfl⟩
  | commit hc =>
    refine absurd ⟨rfl, ?_⟩ hnot
    cases hc with
    | halt hs | exception hs | limit hs | retire hs => exact ⟨_, _, _, hs⟩

lemma sameArch_of_ends (h : (c.handleEvent ev).Ends c') (hnot : ¬c.Committing ev) :
    c.SameArch c' := by
  rcases eq_or_moves_of_ends h with rfl | ⟨phase, calls, hmoves⟩
  · exact .refl c'
  · exact hmoves.sameArch hnot

/-- An interrupt is taken where it is eligible, with `mepc` the `pc` that was next. -/
lemma sampled_eligible (c : Rv32iCpu) :
    c.sampled = c ∧ ¬c.MeiEligible ∨
      c.MeiEligible ∧ c.sampled.pc = c.csrs.mtvec ∧ c.sampled.csrs.mepc = c.pc ∧
        c.sampled.regs = c.regs ∧ c.sampled.instret = c.instret := by
  rcases c.sampled_cases with ⟨hnone, h⟩ | ⟨hprofile, helig, h⟩ | ⟨hprofile, helig, h⟩
  · refine .inl ⟨h, ?_⟩
    rintro (⟨hprofile, helig⟩ | ⟨hprofile, helig⟩) <;> simp [sampleMei, hprofile, helig] at hnone
  · rw [h]
    exact .inr ⟨.inl ⟨hprofile, helig⟩, rfl, rfl, rfl, rfl⟩
  · rw [h]
    exact .inr ⟨.inr ⟨hprofile, helig⟩, rfl, rfl, rfl, rfl⟩

/-! ## What a commit ends in -/

lemma eq_resume_of_ends (h : c.fetchNext.Ends c') : c' = c.resume := by
  unfold fetchNext wakeNextCycle at h
  unfold resume fetchState
  split_ifs at h ⊢
  · cases h with
    | wakeSelf r h =>
      cases h
      rfl
  · cases h with
    | wakeSelf r h =>
      cases h
      rfl

lemma commits_of_commitTrap_ends {insn : Option UInt32} {trap : PendingTrap} {pa : Option UInt64}
    (hs : c.state = .commitPending insn (.exec (.trap trap)) pa)
    (h : (c.commitTrap insn trap).Ends c') : ∃ calls, c.Commits calls c' := by
  rw [commitTrap_eq] at h
  cases hd : c.delivery trap with
  | none =>
    rw [hd] at h
    cases h with
    | trace h =>
      cases h
      exact ⟨_, .halt hs hd⟩
  | some delivered =>
    rw [hd] at h
    cases h with
    | trace h =>
      obtain rfl := eq_resume_of_ends h
      exact ⟨_, .exception hs hd⟩

lemma commits_of_retired_ends {insn : UInt32} {outcome : Outcome} {pa : Option UInt64}
    {fields : List (String × Value)} (hs : c.state = .commitPending (some insn) outcome pa)
    (hr : c.retire insn outcome pa = (d, .ok fields)) (h : (d.retired fields).Ends c') :
    ∃ calls, c.Commits calls c' := by
  rw [retired_eq] at h
  cases h with
  | trace h =>
    by_cases hl : d.config.maxInstructions ≤ d.counted.instret
    · rw [if_pos hl] at h
      cases h with
      | trace h =>
        cases h
        exact ⟨_, .limit hs hr hl⟩
    · rw [if_neg hl] at h
      have hcommits := Commits.retire hs hr hl
      have hsampled : c' = d.counted.sampled.resume := by
        unfold sampled
        cases hmei : d.counted.sampleMei with
        | none =>
          rw [hmei] at h
          exact eq_resume_of_ends h
        | some taken =>
          rw [hmei] at h
          cases h with
          | trace h => exact eq_resume_of_ends h
      exact ⟨_, hsampled ▸ hcommits⟩

/-- A pending outcome is committed, whatever the calls of the handler are answered. -/
lemma commits_of_ends (hc : c.Valid) (hcommitting : c.Committing ev)
    (h : (c.handleEvent ev).Ends c') : ∃ calls, c.Commits calls c' := by
  obtain ⟨rfl, insn, outcome, pa, hs⟩ := hcommitting
  have hwake : c.handleEvent (.wake Token.commit) = c.commit insn outcome pa := by
    simp [handleEvent, wake, hs]
  rw [hwake] at h
  by_cases htrap : ∃ t, outcome = .exec (.trap t)
  · obtain ⟨t, rfl⟩ := htrap
    exact commits_of_commitTrap_ends hs h
  · obtain ⟨word, d, fields, rfl, hr⟩ := exists_retire hc hs fun t ht => htrap ⟨t, ht⟩
    have hcommit : c.commit (some word) outcome pa = d.retired fields := by
      unfold commit
      split
      · exact absurd ⟨_, rfl⟩ htrap
      · dsimp only
        rw [hr]
    rw [hcommit] at h
    exact commits_of_retired_ends hs hr h

lemma Commits.precise {calls : List Call} (hc : c.Valid) (h : c.Commits calls c') :
    c.Traps c' ∨ c.Delivers c' ∨
      ∃ d, c.Retired d ∧ d.instret = c.instret ∧ c'.instret.toNat = c.instret.toNat + 1 ∧
        (c'.instret = c.config.maxInstructions ∧ c' = d.counted.enter (.halted .instructionLimit) ∨
          c'.instret < c.config.maxInstructions ∧ ¬d.counted.MeiEligible ∧ c' = d.counted.resume ∨
          c'.instret < c.config.maxInstructions ∧ d.counted.MeiEligible ∧
            c'.pc = d.csrs.mtvec ∧ c'.csrs.mepc = d.pc ∧ c'.regs = d.regs) := by
  -- The count stays below the limit until it reaches it, so it does not wrap.
  have hsucc {insn : Option UInt32} {outcome : Outcome} {pa : Option UInt64}
      (hs : c.state = .commitPending insn outcome pa) :
      (c.instret + 1).toNat = c.instret.toNat + 1 := by
    have hlt := UInt64.lt_iff_toNat_lt.mp (count_lt_of_valid hc hs)
    have hmax := c.config.maxInstructions.toNat_lt
    rw [UInt64.toNat_add]
    change (c.instret.toNat + 1) % 2 ^ 64 = _
    omega
  cases h with
  | halt hs hd =>
    refine .inl ⟨_, _, _, hs, fun hprofile => ?_, rfl⟩
    unfold delivery at hd
    rw [if_pos hprofile] at hd
    exact M3State.takeException_eq_none hd
  | exception hs hd =>
    unfold delivery at hd
    split_ifs at hd with hprofile
    obtain ⟨hdelegates, rfl, spp, hspp, rfl⟩ := M3State.takeException_eq_some hd
    exact .inr (.inl ⟨_, _, _, spp, hs, hprofile, hdelegates, hspp, rfl⟩)
  | limit hs hr hl =>
    rename_i d fields
    have hframe := retire_frame_of_eq hr
    have hinstret : d.counted.instret = c.instret + 1 := by rw [← hframe.instret]; rfl
    have hlimit : d.counted.instret = c.config.maxInstructions := by
      rw [hinstret]
      rw [hinstret, hframe.config] at hl
      exact succ_eq_of_lt_of_le (count_lt_of_valid hc hs) hl
    refine .inr (.inr ⟨d, ⟨_, _, _, _, hs, not_trap_of_retire hr, hr⟩, hframe.instret, ?_,
      .inl ⟨hlimit, rfl⟩⟩)
    change d.counted.instret.toNat = _
    rw [hinstret, hsucc hs]
  | retire hs hr hl =>
    rename_i d fields
    have hframe := retire_frame_of_eq hr
    have hinstret : d.counted.instret = c.instret + 1 := by rw [← hframe.instret]; rfl
    have hsampled : d.counted.sampled.resume.instret = d.counted.instret := sampled_frame.instret
    have hlt : d.counted.sampled.resume.instret < c.config.maxInstructions := by
      rw [hsampled, ← hframe.config]
      exact UInt64.not_le.mp hl
    refine .inr (.inr ⟨d, ⟨_, _, _, _, hs, not_trap_of_retire hr, hr⟩, hframe.instret, ?_, ?_⟩)
    · rw [hsampled, hinstret, hsucc hs]
    · rcases d.counted.sampled_eligible with ⟨h, hnot⟩ | ⟨helig, hpc, hmepc, hregs, -⟩
      · exact .inr (.inl ⟨hlt, hnot, by rw [h]⟩)
      · exact .inr (.inr ⟨hlt, helig, hpc, hmepc, hregs⟩)

/-- For every event: architectural state changes only in a commit; and every commit halts without a
change, delivers a delegated trap, or retires one instruction, counts it, and then halts at the
limit, goes on, or takes the interrupt with the `pc` the instruction produced. -/
theorem event_precise [SnapshotFields] (hstrict : Strict) (hmade : c.Made)
    (h : (c.handleEvent ev).Ends c') :
    (¬c.Committing ev → c.SameArch c') ∧
      (c.Committing ev →
        c.Traps c' ∨ c.Delivers c' ∨
          ∃ d, c.Retired d ∧ d.instret = c.instret ∧ c'.instret.toNat = c.instret.toNat + 1 ∧
            (c'.instret = c.config.maxInstructions ∧
                c' = d.counted.enter (.halted .instructionLimit) ∨
              c'.instret < c.config.maxInstructions ∧ ¬d.counted.MeiEligible ∧
                c' = d.counted.resume ∨
              c'.instret < c.config.maxInstructions ∧ d.counted.MeiEligible ∧
                c'.pc = d.csrs.mtvec ∧ c'.csrs.mepc = d.pc ∧ c'.regs = d.regs)) := by
  refine ⟨sameArch_of_ends h, fun hcommitting => ?_⟩
  have hvalid := (hmade.sound hstrict).valid
  obtain ⟨calls, hcommits⟩ := commits_of_ends hvalid hcommitting h
  exact hcommits.precise hvalid

section

open Canonical

/-- The instruction retires, and the interrupt is taken with the `pc` that comes after it. -/
theorem event_precise_interrupted : interruptedCpu.Committing (.wake Token.commit) ∧
    ∃ c', (interruptedCpu.handleEvent (.wake Token.commit)).Ends c' ∧ c'.instret.toNat = 1 ∧
      c'.pc = 0x2000 ∧ c'.csrs.mepc = 0x1004 ∧
        c'.regs = interruptedCpu.regs.write (.field 0x00500093 7) 5 := by
  have hends := Handler.ends_of_perform ⟨0, 0, .commit, fun _ => 0⟩
    (interruptedCpu.handleEvent (.wake Token.commit))
  have hcommitting : interruptedCpu.Committing (.wake Token.commit) := ⟨rfl, _, _, _, rfl⟩
  have hprecise := event_precise snapshotFields_strict made_interruptedCpu hends
  refine ⟨hcommitting, _, hends, ?_⟩
  rcases hprecise.2 hcommitting with ⟨insn, t, pa, hs, -⟩ | ⟨insn, t, pa, spp, hs, -⟩ |
    ⟨d, ⟨insn, outcome, pa, fields, hs, -, hr⟩, -, hcount, hnext⟩
  · cases hs
  · cases hs
  · cases hs
    cases hr
    rcases hnext with ⟨hlimit, -⟩ | ⟨-, hnot, -⟩ | ⟨-, -, hpc, hmepc, hregs⟩
    · rw [hlimit] at hcount
      exact absurd hcount (by decide)
    · exact absurd (.inr ⟨rfl, rfl⟩) hnot
    · exact ⟨hcount, hpc, hmepc, hregs⟩

end

end Rv32iCpu

end SystemScope.Rv32i
