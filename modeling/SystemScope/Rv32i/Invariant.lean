import SystemScope.Rv32i.Outcomes
import SystemScope.Rv32i.Transitions

/-!
# The invariant of the CPU

`Valid` is everything that holds of a CPU between events: aligned addresses, CSRs within their
masks, an instruction count that goes with the limit, a stored plan or outcome that is the one its
instruction leads to, and a physical address exactly where one is translated to.  It is what a
restore checks, and every move keeps it (`Valid.moves`).
-/

namespace SystemScope.Rv32i

/-! ## The parts -/

/-- The machine CSRs hold what writes can leave there. -/
structure CsrFile.Legal (c : CsrFile) : Prop where
  mtvec : Aligned c.mtvec
  mepc : Aligned c.mepc

/-- The CSRs of the `M3` profile hold what writes can leave there. -/
structure M3State.Legal (s : M3State) : Prop where
  stvec : Aligned s.stvec
  sepc : Aligned s.sepc
  medeleg : s.medeleg &&& ~~~medelegMask = 0
  satp : s.satp &&& satpAsid = 0

namespace Rv32iCpu

variable (c : Rv32iCpu)

/-- The physical address of an access to `va`: there is one exactly when translating, within 34
bits and with the page offset of `va`. -/
def Translated (pa : Option UInt64) (va : UInt32) : Prop :=
  match pa with
  | none => c.translating = false
  | some pa => c.translating = true ∧ pa.toNat < 2 ^ 34 ∧ pa.toNat % 2 ^ 12 = va.toNat % 2 ^ 12

/-- A walk the CPU can be in. -/
structure WalkFits (walk : Walk) : Prop where
  translating : c.translating = true
  level : walk.level = 0 ∨ walk.level = 1
  table : walk.table &&& ~~~satpPpn = 0
  root : walk.level = 1 → walk.table = c.m3.root
  plan : ∀ insn plan, walk.purpose = .data insn plan → step c.isa insn c.pc c.regs = .memory plan

/-- A trap the CPU can be halted by. -/
structure TrapFits (trap : RvTrap) : Prop where
  pc : trap.pc = c.pc
  cause : trap.cause ∈ causes c.config.profile
  translates : c.config.profile = .m3 → pageFault trap.cause = true → c.m3.translates = true
  undelegated : c.config.profile = .m3 → c.m3.delegates trap.cause = false
  ecall : c.config.profile = .m3 → isEcall trap.cause = true →
    trap.cause = ecallOf c.m3.privilege

/-- An execution state the CPU can be in. -/
def Fits : State → Prop
  | .fetchIssue pa => c.Translated pa c.pc
  | .fetchWait _ pa => c.Translated pa c.pc
  | .memIssue insn plan pa =>
    step c.isa insn c.pc c.regs = .memory plan ∧ c.Translated pa (planAddr plan)
  | .memWait _ insn plan pa =>
    step c.isa insn c.pc c.regs = .memory plan ∧ c.Translated pa (planAddr plan)
  | .walkIssue walk => c.WalkFits walk
  | .walkWait _ walk => c.WalkFits walk
  | .commitPending insn outcome pa =>
    consistent c.isa c.translating insn outcome c.pc c.regs = true ∧
      match retiringAccess c.isa c.pc c.regs insn outcome with
      | some plan => c.Translated pa (planAddr plan)
      | none => pa = none
  | .halted (.trap trap) => c.TrapFits trap
  | .halted .instructionLimit => True

/-- The instruction limit is reached exactly in its halt. -/
def CountFits : Prop := consistentCount c.config.maxInstructions c.instret c.state = true

/-- The architectural part of the invariant. -/
structure Legal : Prop where
  pc : Aligned c.pc
  machine : c.csrs.Legal
  m1 : c.config.profile = .m1 → c.csrs = .new
  m3 : c.config.profile = .m3 → c.m3.Legal

/-- The invariant. -/
structure Valid : Prop where
  legal : c.Legal
  state : c.Fits c.state
  count : c.CountFits
  txn : ∀ txn, c.state.outstanding = some txn → txn = c.nextTxn - 1

/-- The `M3` state is at reset in the profiles that cannot reach it. -/
def Confined : Prop := c.config.profile ≠ .m3 → c.m3 = .new

/-- The transaction counter has counted the outstanding request without wrapping. -/
def Numbered : Prop := ∀ txn, c.state.outstanding = some txn → c.nextTxn ≠ 0

end Rv32iCpu

/-! ## CSR operations -/

lemma CsrFile.legal_new : CsrFile.new.Legal := ⟨rfl, rfl⟩

lemma M3State.legal_new : M3State.new.Legal := ⟨rfl, rfl, rfl, rfl⟩

lemma CsrFile.Legal.write {c d : CsrFile} {csr : UInt16} {value : UInt32} (hc : c.Legal)
    (h : c.write csr value = some d) : d.Legal := by
  unfold CsrFile.write at h
  split_ifs at h
  all_goals cases h
  all_goals first
    | exact ⟨hc.mtvec, hc.mepc⟩
    | exact ⟨aligned_and_not _, hc.mepc⟩
    | exact ⟨hc.mtvec, aligned_and_not _⟩

lemma CsrFile.Legal.takeMei {c : CsrFile} {pc : UInt32} (hc : c.Legal) (hpc : Aligned pc) :
    (c.takeMei pc).2.Legal := ⟨hc.mtvec, hpc⟩

lemma M3State.Legal.write {s s' : M3State} {m m' : CsrFile} {csr : UInt16} {value : UInt32}
    (hs : s.Legal) (hm : m.Legal) (h : s.write m csr value = some (s', m')) :
    s'.Legal ∧ m'.Legal := by
  have hmask : value &&& medelegMask &&& ~~~medelegMask = 0 := by
    rw [UInt32.and_assoc]
    change value &&& 0 = 0
    exact UInt32.and_zero
  have hsatp : satpWrite value &&& satpAsid = 0 := by
    unfold satpWrite
    rw [UInt32.and_assoc]
    change value &&& 0 = 0
    exact UInt32.and_zero
  cases M3State.writes_of_write h with
  | mstatus => exact ⟨⟨hs.stvec, hs.sepc, hs.medeleg, hs.satp⟩, ⟨hm.mtvec, hm.mepc⟩⟩
  | sstatus => exact ⟨⟨hs.stvec, hs.sepc, hs.medeleg, hs.satp⟩, hm⟩
  | medeleg => exact ⟨⟨hs.stvec, hs.sepc, hmask, hs.satp⟩, hm⟩
  | ignored => exact ⟨hs, hm⟩
  | stvec => exact ⟨⟨aligned_and_not _, hs.sepc, hs.medeleg, hs.satp⟩, hm⟩
  | sscratch | scause | stval => exact ⟨⟨hs.stvec, hs.sepc, hs.medeleg, hs.satp⟩, hm⟩
  | sepc => exact ⟨⟨hs.stvec, aligned_and_not _, hs.medeleg, hs.satp⟩, hm⟩
  | satp => exact ⟨⟨hs.stvec, hs.sepc, hs.medeleg, hsatp⟩, hm⟩
  | machine _ hwrite => exact ⟨hs, hm.write hwrite⟩

lemma M3State.takeException_eq_some {s s' : M3State} {cause : TrapCause} {pc tval handler : UInt32}
    (h : s.takeException cause pc tval = some (handler, s')) :
    s.delegates cause = true ∧ handler = s.stvec &&& ~~~0b11 ∧
      ∃ spp : Spp, spp.privilege = s.privilege ∧
        s' =
          { s with
            spp
            sepc := pc
            scause := cause.code
            stval := tval
            spie := s.sie
            sie := false
            privilege := .supervisor } := by
  unfold M3State.takeException at h
  split_ifs at h with hdelegates
  obtain ⟨spp, hspp, heq⟩ := Option.map_eq_some_iff.mp h
  cases heq
  refine ⟨hdelegates, rfl, spp, ?_, rfl⟩
  cases hprivilege : s.privilege <;> rw [hprivilege] at hspp <;> cases hspp <;> rfl

lemma M3State.takeException_eq_none {s : M3State} {cause : TrapCause} {pc tval : UInt32}
    (h : s.takeException cause pc tval = none) : s.delegates cause = false := by
  unfold M3State.takeException at h
  split_ifs at h with hdelegates
  · cases hprivilege : s.privilege with
    | machine => simp [M3State.delegates, hprivilege] at hdelegates
    | _ =>
      rw [hprivilege] at h
      cases h
  · exact Bool.of_not_eq_true hdelegates

lemma M3State.Legal.takeException {s s' : M3State} {cause : TrapCause} {pc tval handler : UInt32}
    (hs : s.Legal) (hpc : Aligned pc) (h : s.takeException cause pc tval = some (handler, s')) :
    s'.Legal ∧ Aligned handler := by
  obtain ⟨-, rfl, spp, -, rfl⟩ := M3State.takeException_eq_some h
  exact ⟨⟨hs.stvec, hpc, hs.medeleg, hs.satp⟩, aligned_and_not _⟩

/-! ## Consistent outcomes -/

/-- The access a plan makes. -/
def planAccess : MemoryPlan → Access
  | .load _ => .load
  | .store _ => .store

/-- What a pending outcome can be. -/
inductive Consistent (isa : Isa) (translates : Bool) (pc : UInt32) (regs : RegisterFile) :
    Option UInt32 → Outcome → Prop
  | fetch {t : PendingTrap} (h : faultFits translates .fetch pc t = true) :
      Consistent isa translates pc regs none (.exec (.trap t))
  | done {word : UInt32} {outcome : Outcome} (h : step isa word pc regs = .done outcome) :
      Consistent isa translates pc regs (some word) outcome
  | loaded {word : UInt32} {plan : LoadPlan} {e : PendingEffect} {value : UInt32}
      (h : step isa word pc regs = .memory (.load plan)) (hpc : e.nextPc = plan.nextPc)
      (hrd : e.regWrite = some ⟨plan.rd, value⟩) :
      Consistent isa translates pc regs (some word) (.exec (.effect e))
  | stored {word : UInt32} {plan : StorePlan} (h : step isa word pc regs = .memory (.store plan)) :
      Consistent isa translates pc regs (some word)
        (.exec (.effect { regWrite := none, nextPc := plan.nextPc }))
  | fault {word : UInt32} {plan : MemoryPlan} {t : PendingTrap}
      (h : step isa word pc regs = .memory plan)
      (ht : faultFits translates (planAccess plan) (planAddr plan) t = true) :
      Consistent isa translates pc regs (some word) (.exec (.trap t))

section

variable {isa : Isa} {translates : Bool} {insn : Option UInt32} {outcome : Outcome} {pc : UInt32}
  {regs : RegisterFile}

lemma consistent_iff : consistent isa translates insn outcome pc regs = true ↔
    Consistent isa translates pc regs insn outcome := by
  constructor
  · intro h
    unfold consistent at h
    cases insn with
    | none =>
      dsimp only at h
      split at h
      · exact .fetch h
      · cases h
    | some word =>
      dsimp only at h
      split at h
      · rename_i hstep
        rw [of_decide_eq_true h] at hstep
        exact .done hstep
      · rename_i hstep
        split at h
        · simp only [Bool.and_eq_true, decide_eq_true_eq, Option.any_eq_true] at h
          obtain ⟨hpc, ⟨rd, value⟩, hw, rfl⟩ := h
          exact .loaded hstep hpc hw
        · exact .fault hstep h
        · rw [of_decide_eq_true h]
          exact .stored hstep
        · exact .fault hstep h
        · cases h
  · intro h
    cases h with
    | fetch h => exact h
    | done h => simp [consistent, h]
    | loaded h hpc hrd => simp [consistent, h, hpc, hrd]
    | stored h => simp [consistent, h]
    | fault h ht =>
      rename_i plan _
      cases plan with
      | load =>
        simp only [consistent, h]
        exact ht
      | store =>
        simp only [consistent, h]
        exact ht

lemma faultFits_iff {access : Access} {tval : UInt32} {t : PendingTrap} :
    faultFits translates access tval t = true ↔
      t = { cause := access.accessFault, tval } ∨
        translates = true ∧ t = { cause := access.pageFault, tval } := by
  simp [faultFits]

end

/-! ## States that are entered -/

namespace Rv32iCpu

variable {c : Rv32iCpu}

lemma root_and_not (s : M3State) : s.root &&& ~~~satpPpn = 0 := by
  unfold M3State.root
  rw [UInt32.and_assoc]
  change s.satp &&& 0 = 0
  exact UInt32.and_zero

lemma fits_fetchState (c : Rv32iCpu) : c.Fits c.fetchState := by
  unfold fetchState
  split_ifs with htranslating
  · exact ⟨htranslating, .inr rfl, root_and_not _, fun _ => rfl, fun _ _ h => by cases h⟩
  · exact Bool.of_not_eq_true htranslating

lemma fits_accessState {insn : UInt32} {plan : MemoryPlan}
    (hstep : step c.isa insn c.pc c.regs = .memory plan) : c.Fits (c.accessState insn plan) := by
  unfold accessState
  split_ifs with htranslating
  · refine ⟨htranslating, .inr rfl, root_and_not _, fun _ => rfl, fun _ _ h => ?_⟩
    cases h
    exact hstep
  · exact ⟨hstep, Bool.of_not_eq_true htranslating⟩

lemma Translated.leaf {walk : Walk} {pte : UInt32} {pa : UInt64}
    (hwalk : c.WalkFits walk)
    (hstep : Sv32.step (c.walkContext walk) (c.walkVa walk) walk.level pte = .leaf pa) :
    c.Translated (some pa) (c.walkVa walk) :=
  ⟨hwalk.translating, Sv32.step_leaf hstep⟩

/-- A trap is kept without a physical address. -/
lemma fits_trap {insn : Option UInt32} {t : PendingTrap}
    (h : Consistent c.isa c.translating c.pc c.regs insn (.exec (.trap t))) :
    c.Fits (.commitPending insn (.exec (.trap t)) none) := by
  refine ⟨consistent_iff.mpr h, ?_⟩
  have hnone : retiringAccess c.isa c.pc c.regs insn (.exec (.trap t)) = none := by
    unfold retiringAccess
    split
    · rename_i heq
      cases heq
    · rfl
  rw [hnone]

lemma fits_walkFault {walk : Walk} {fault : Sv32.Fault} (hwalk : c.WalkFits walk) :
    c.Fits (.commitPending walk.purpose.insn
      (.trap (fault.cause walk.purpose.access) (c.walkVa walk)) none) := by
  have hfault : faultFits c.translating walk.purpose.access (c.walkVa walk)
      { cause := fault.cause walk.purpose.access, tval := c.walkVa walk } = true := by
    rw [faultFits_iff]
    cases fault with
    | access => exact .inl rfl
    | page => exact .inr ⟨hwalk.translating, rfl⟩
  refine fits_trap ?_
  cases hpurpose : walk.purpose with
  | fetch =>
    simp only [walkVa, hpurpose] at hfault ⊢
    exact .fetch hfault
  | data insn plan =>
    simp only [walkVa, hpurpose] at hfault ⊢
    refine .fault (hwalk.plan insn plan hpurpose) ?_
    cases plan <;> exact hfault

lemma fits_answers {msg : MemV1.MemMsg} {s : State} (hfits : c.Fits c.state)
    (ha : c.Answers msg s) : c.Fits s := by
  cases ha with
  | done hs hw hstep =>
    refine ⟨consistent_iff.mpr (.done hstep), ?_⟩
    simp [retiringAccess, hstep]
  | access hs hw hstep => exact fits_accessState hstep
  | fetchRefused hs => exact fits_trap (.fetch (faultFits_iff.mpr (.inl rfl)))
  | loaded hs hm =>
    rw [hs] at hfits
    obtain ⟨hstep, hpa⟩ := hfits
    unfold completeLoad at hm
    split at hm
    · cases hm
      exact fits_trap (.fault hstep (faultFits_iff.mpr (.inl rfl)))
    · split at hm
      · cases hm
        refine ⟨consistent_iff.mpr (.loaded hstep rfl rfl), ?_⟩
        simpa [retiringAccess, hstep, ExecOutcome.keep] using hpa
      · cases hm
  | stored hs =>
    rw [hs] at hfits
    obtain ⟨hstep, hpa⟩ := hfits
    unfold completeStore
    split
    · refine ⟨consistent_iff.mpr (.stored hstep), ?_⟩
      simpa [retiringAccess, hstep, ExecOutcome.keep] using hpa
    · exact fits_trap (.fault hstep (faultFits_iff.mpr (.inl rfl)))
  | next hs hw hstep =>
    rw [hs] at hfits
    obtain ⟨hlevel, rfl⟩ := Sv32.step_next hstep
    have hone := hfits.level.resolve_left hlevel
    refine ⟨hfits.translating, .inl (by rw [hone]; rfl), ?_, fun h => ?_, hfits.plan⟩
    · exact UInt32.and_not_mask (n := 22) (by omega)
        (UInt32.toNat_shiftRight_lt _ (n := 10) (by omega))
    · rw [hone] at h
      cases h
  | leaf hs hw hstep =>
    rw [hs] at hfits
    have hpa := Translated.leaf hfits hstep
    rename_i walk _ _ _
    cases hpurpose : walk.purpose with
    | fetch =>
      simp only [walkVa, hpurpose] at hpa
      exact hpa
    | data insn plan =>
      simp only [walkVa, hpurpose] at hpa
      exact ⟨hfits.plan insn plan hpurpose, hpa⟩
  | pageFault hs hw hstep =>
    rw [hs] at hfits
    exact fits_walkFault hfits
  | walkRefused hs =>
    rw [hs] at hfits
    exact fits_walkFault hfits

/-! ## Retirement -/

lemma profile_ne_m1_of_isa (h : c.isa ≠ .m1) : c.config.profile ≠ .m1 := by
  intro hprofile
  exact h (by unfold isa; rw [hprofile])

lemma isa_of_m3 (h : c.config.profile = .m3) : c.isa = .m3 c.m3.privilege := by
  unfold isa
  rw [h]

lemma profile_of_isa_m3 {mode : Privilege} (h : c.isa = .m3 mode) :
    c.config.profile = .m3 ∧ mode = c.m3.privilege := by
  unfold isa at h
  split at h
  · cases h
  · cases h
  · rename_i hprofile
    cases h
    exact ⟨hprofile, rfl⟩

/-- How an instruction retires: the CPU after its effects, and the fields of its record. -/
inductive Retires (c : Rv32iCpu) (insn : UInt32) (pa : Option UInt64) :
    Outcome → Rv32iCpu → List (String × Value) → Prop
  | effect {e : PendingEffect} (hpc : Aligned e.nextPc) :
      Retires c insn pa (.exec (.effect e))
        { c with
          regs := e.regWrite.elim c.regs fun w => c.regs.write w.rd w.value
          pc := e.nextPc }
        (c.commitFields insn e pa)
  | csr {op : PendingCsr} {old : UInt32} {d : Rv32iCpu} {more : List (String × Value)}
      (hm1 : c.config.profile ≠ .m1) (hpc : op.nextPc = c.pc + 4)
      (hm3 : c.config.profile = .m3 → accessible op.csr c.m3.privilege op.write = true)
      (hread : c.readCsr op.csr = some old)
      (hwrite : (if op.write then c.writeCsr op.csr (op.op.apply old op.operand) else some c) =
        some d) :
      Retires c insn pa (.csr op) { d with regs := d.regs.write op.rd old, pc := op.nextPc }
        (c.commitFields insn { regWrite := some ⟨op.rd, old⟩, nextPc := op.nextPc } none ++
          ("csr", .u64 op.csr.toUInt64) :: more)
  | mret (hm1 : c.config.profile ≠ .m1)
      (hm3 : c.config.profile = .m3 → c.m3.privilege = .machine) :
      Retires c insn pa .mret c.mret
        (c.commitFields insn { regWrite := none, nextPc := c.csrs.mepc } none)
  | sret (hm3 : c.config.profile = .m3) (hmode : c.m3.privilege ≠ .user) :
      Retires c insn pa .sret c.sret
        (c.commitFields insn { regWrite := none, nextPc := c.m3.sepc } none)

variable {insn : UInt32} {outcome : Outcome} {pa : Option UInt64} {d : Rv32iCpu}
  {fields : List (String × Value)}

lemma Legal.planNextPc (hc : c.Legal) {word : UInt32} {plan : MemoryPlan}
    (h : step c.isa word c.pc c.regs = .memory plan) : Aligned (planNextPc plan) := by
  rw [planNextPc_of_step h]
  exact hc.pc.add_four

lemma Legal.nextPc (hc : c.Legal) {word : Option UInt32} {e : PendingEffect}
    (h : Consistent c.isa c.translating c.pc c.regs word (.exec (.effect e))) :
    Aligned e.nextPc := by
  cases h with
  | done h =>
    cases done_of_step h with
    | effect hpc => exact hpc hc.pc
  | loaded h hpc hrd =>
    rw [hpc]
    exact hc.planNextPc h
  | stored h => exact hc.planNextPc h

lemma Valid.retires (hc : c.Valid) (hs : c.state = .commitPending (some insn) outcome pa)
    (hr : c.retire insn outcome pa = (d, .ok fields)) : c.Retires insn pa outcome d fields := by
  have hstate := hc.state
  rw [hs] at hstate
  have hconsistent := consistent_iff.mp hstate.1
  have hdone (hnot : ∀ o, outcome ≠ .exec o) : Done c.isa c.pc outcome := by
    cases hconsistent with
    | done h => exact done_of_step h
    | loaded | stored | fault => exact absurd rfl (hnot _)
  unfold retire at hr
  split at hr
  · cases hr
    exact .effect (hc.legal.nextPc hconsistent)
  · rename_i op
    cases hdone (by simp) with
    | csr hm1 hpc hm3 =>
      rcases c.commitCsr_cases insn op with ⟨e, hcsr⟩ | ⟨old, d', more, hread, hwrite, hcsr⟩
      · rw [hcsr] at hr
        cases hr
      · rw [hcsr] at hr
        cases hr
        exact .csr (profile_ne_m1_of_isa hm1) hpc (fun h => hm3 _ (isa_of_m3 h)) hread hwrite
  · cases hr
    cases hdone (by simp) with
    | mret hm1 hm3 => exact .mret (profile_ne_m1_of_isa hm1) fun h => hm3 _ (isa_of_m3 h)
  · cases hr
    cases hdone (by simp) with
    | sret hm3 hmode =>
      obtain ⟨hprofile, rfl⟩ := profile_of_isa_m3 hm3
      exact .sret hprofile hmode
  · cases hr

lemma Legal.writeCsr {csr : UInt16} {value : UInt32} (hc : c.Legal)
    (hm1 : c.config.profile ≠ .m1) (h : c.writeCsr csr value = some d) : d.Legal := by
  unfold Rv32iCpu.writeCsr at h
  split at h
  · rename_i hprofile
    exact absurd hprofile hm1
  · rename_i hprofile
    obtain ⟨csrs, hwrite, rfl⟩ := Option.map_eq_some_iff.mp h
    exact ⟨hc.pc, hc.machine.write hwrite, fun h => absurd h hm1, hc.m3⟩
  · rename_i hprofile
    obtain ⟨⟨m3, csrs⟩, hwrite, rfl⟩ := Option.map_eq_some_iff.mp h
    obtain ⟨hm3, hcsrs⟩ := (hc.m3 hprofile).write hc.machine hwrite
    exact ⟨hc.pc, hcsrs, fun h => absurd h hm1, fun _ => hm3⟩

lemma Legal.csrWrite {op : PendingCsr} {old : UInt32} (hc : c.Legal)
    (hm1 : c.config.profile ≠ .m1)
    (h : (if op.write then c.writeCsr op.csr (op.op.apply old op.operand) else some c) = some d) :
    d.Legal := by
  split_ifs at h
  · exact hc.writeCsr hm1 h
  · cases h
    exact hc

lemma Legal.mret (hc : c.Legal) (hm1 : c.config.profile ≠ .m1) : c.mret.Legal := by
  unfold Rv32iCpu.mret
  split
  · rename_i hprofile
    exact absurd hprofile hm1
  · exact ⟨hc.machine.mepc, ⟨hc.machine.mtvec, hc.machine.mepc⟩, fun h => absurd h hm1, hc.m3⟩
  · rename_i hprofile
    have hm3 := hc.m3 hprofile
    exact ⟨hc.machine.mepc, ⟨hc.machine.mtvec, hc.machine.mepc⟩, fun h => absurd h hm1,
      fun _ => ⟨hm3.stvec, hm3.sepc, hm3.medeleg, hm3.satp⟩⟩

lemma Legal.sret (hc : c.Legal) (hm3 : c.config.profile = .m3) : c.sret.Legal := by
  have h := hc.m3 hm3
  exact ⟨h.sepc, hc.machine, hc.m1, fun _ => ⟨h.stvec, h.sepc, h.medeleg, h.satp⟩⟩

lemma Legal.retires (hc : c.Legal) (h : c.Retires insn pa outcome d fields) : d.Legal := by
  cases h with
  | effect hpc => exact ⟨hpc, hc.machine, hc.m1, hc.m3⟩
  | csr hm1 hpc hm3 hread hwrite =>
    have hlegal := hc.csrWrite hm1 hwrite
    exact ⟨hpc ▸ hc.pc.add_four, hlegal.machine, hlegal.m1, hlegal.m3⟩
  | mret hm1 hm3 => exact hc.mret hm1
  | sret hm3 hmode => exact hc.sret hm3

lemma Legal.counted (hc : c.Legal) : c.counted.Legal := ⟨hc.pc, hc.machine, hc.m1, hc.m3⟩

/-- The interrupt entry, where it is taken. -/
lemma sampled_cases (c : Rv32iCpu) :
    c.sampleMei = none ∧ c.sampled = c ∨
      c.config.profile = .m2 ∧ c.csrs.meiEligible = true ∧
        c.sampled = { c with pc := c.csrs.mtvec, csrs := (c.csrs.takeMei c.pc).2 } ∨
      c.config.profile = .m3 ∧ c.m3.meiEligible c.csrs = true ∧
        c.sampled =
          { c with
            pc := c.csrs.mtvec
            csrs := (c.csrs.takeMei c.pc).2
            m3 := { c.m3 with mpp := c.m3.privilege, privilege := .machine } } := by
  unfold sampled sampleMei
  split
  · exact .inl ⟨rfl, rfl⟩
  · rename_i hprofile
    split_ifs with helig
    · exact .inr (.inl ⟨hprofile, helig, rfl⟩)
    · exact .inl ⟨rfl, rfl⟩
  · rename_i hprofile
    split_ifs with helig
    · exact .inr (.inr ⟨hprofile, helig, rfl⟩)
    · exact .inl ⟨rfl, rfl⟩

lemma Legal.sampled (hc : c.Legal) : c.sampled.Legal := by
  rcases c.sampled_cases with ⟨-, h⟩ | ⟨hprofile, -, h⟩ | ⟨hprofile, -, h⟩
  · rw [h]
    exact hc
  · rw [h]
    refine ⟨hc.machine.mtvec, hc.machine.takeMei hc.pc, fun hm1 => ?_, hc.m3⟩
    rw [hprofile] at hm1
    cases hm1
  · rw [h]
    have hm3 := hc.m3 hprofile
    refine ⟨hc.machine.mtvec, hc.machine.takeMei hc.pc, fun hm1 => ?_,
      fun _ => ⟨hm3.stvec, hm3.sepc, hm3.medeleg, hm3.satp⟩⟩
    rw [hprofile] at hm1
    cases hm1

/-! ## Every move keeps the invariant -/

lemma Legal.exception {trap : PendingTrap} {handler : UInt32} {m3 : M3State} (hc : c.Legal)
    (hd : c.delivery trap = some (handler, m3)) :
    ({ c with pc := handler, m3 } : Rv32iCpu).Legal := by
  unfold delivery at hd
  split_ifs at hd with hprofile
  obtain ⟨hm3, hhandler⟩ := (hc.m3 hprofile).takeException hc.pc hd
  exact ⟨hhandler, hc.machine, hc.m1, fun _ => hm3⟩

lemma cause_of_consistent {word : Option UInt32} {t : PendingTrap}
    (h : Consistent c.isa c.translating c.pc c.regs word (.exec (.trap t))) :
    t.cause ∈ pureCauses c.isa ∨ ∃ access : Access, t.cause = access.accessFault ∨
      c.translating = true ∧ t.cause = access.pageFault := by
  have hfault {access : Access} {tval : UInt32} (h : faultFits c.translating access tval t = true) :
      ∃ access : Access, t.cause = access.accessFault ∨
        c.translating = true ∧ t.cause = access.pageFault := by
    rcases faultFits_iff.mp h with rfl | ⟨htranslating, rfl⟩
    · exact ⟨access, .inl rfl⟩
    · exact ⟨access, .inr ⟨htranslating, rfl⟩⟩
  cases h with
  | fetch h => exact .inr (hfault h)
  | done h =>
    cases done_of_step h with
    | trap hcause => exact .inl hcause
  | fault h ht => exact .inr (hfault ht)

lemma mem_causes_m3 (cause : TrapCause) : cause ∈ causes .m3 := by
  cases cause <;> decide

lemma mem_causeTable_of_pureCauses {isa : Isa} {cause : TrapCause} (h : cause ∈ pureCauses isa)
    (hecall : isa.ecall = .environmentCall) : cause ∈ causeTable := by
  unfold pureCauses at h
  rw [hecall] at h
  revert h
  cases cause <;> decide

lemma mem_causeTable_accessFault (access : Access) : access.accessFault ∈ causeTable := by
  cases access <;> decide

lemma not_pageFault_of_pureCauses {isa : Isa} {cause : TrapCause} (h : cause ∈ pureCauses isa) :
    pageFault cause = false := by
  have hecall : isa.ecall = .environmentCall ∨ ∃ mode, isa.ecall = ecallOf mode := by
    cases isa with
    | m3 mode => exact .inr ⟨mode, rfl⟩
    | _ => exact .inl rfl
  unfold pureCauses at h
  rcases hecall with hecall | ⟨mode, hecall⟩
  · rw [hecall] at h
    revert h
    cases cause <;> decide
  · rw [hecall] at h
    revert h
    cases mode <;> cases cause <;> decide

lemma isEcall_of_pureCauses {mode : Privilege} {cause : TrapCause}
    (h : cause ∈ pureCauses (.m3 mode)) (he : isEcall cause = true) : cause = ecallOf mode := by
  revert h he
  cases mode <;> cases cause <;> decide

lemma mem_causes_of_consistent {word : Option UInt32} {t : PendingTrap}
    (h : Consistent c.isa c.translating c.pc c.regs word (.exec (.trap t))) :
    t.cause ∈ causes c.config.profile := by
  have htable (hecall : c.isa.ecall = .environmentCall) (hm3 : c.translating = false) :
      t.cause ∈ causeTable := by
    rcases cause_of_consistent h with hpure | ⟨access, hfault | ⟨htranslating, -⟩⟩
    · exact mem_causeTable_of_pureCauses hpure hecall
    · exact hfault ▸ mem_causeTable_accessFault access
    · rw [hm3] at htranslating
      cases htranslating
  cases hprofile : c.config.profile with
  | m1 | m2 => exact htable (by simp [isa, hprofile, Isa.ecall]) (by simp [translating, hprofile])
  | m3 => exact mem_causes_m3 _

/-- An undelegated trap halts the CPU in a state that fits. -/
lemma trapFits_of_consistent {word : Option UInt32} {t : PendingTrap}
    (h : Consistent c.isa c.translating c.pc c.regs word (.exec (.trap t)))
    (hd : c.delivery t = none) :
    c.TrapFits { cause := t.cause, pc := c.pc, tval := t.tval } := by
  have hcause := cause_of_consistent h
  refine ⟨rfl, mem_causes_of_consistent h, fun hprofile hpage => ?_, fun hprofile => ?_,
    fun hprofile hecall => ?_⟩
  · rcases hcause with hpure | ⟨access, hfault | ⟨htranslating, -⟩⟩
    · have hnot := not_pageFault_of_pureCauses hpure
      rw [hpage] at hnot
      cases hnot
    · dsimp only at hpage
      rw [hfault] at hpage
      cases access <;> cases hpage
    · simpa [translating, hprofile] using htranslating
  · unfold delivery at hd
    rw [if_pos hprofile] at hd
    exact M3State.takeException_eq_none hd
  · rw [isa_of_m3 hprofile] at hcause
    dsimp only at hecall
    rcases hcause with hpure | ⟨access, hfault | ⟨-, hfault⟩⟩
    · exact isEcall_of_pureCauses hpure hecall
    · rw [hfault] at hecall
      cases access <;> cases hecall
    · rw [hfault] at hecall
      cases access <;> cases hecall

lemma retire_frame_of_eq (hr : c.retire insn outcome pa = (d, .ok fields)) : SameFrame c d := by
  have hframe : SameFrame c (c.retire insn outcome pa).1 := retire_frame
  rwa [hr] at hframe

lemma succ_eq_of_lt_of_le {n limit : UInt64} (hlt : n < limit) (hle : limit ≤ n + 1) :
    n + 1 = limit := by
  rw [UInt64.lt_iff_toNat_lt] at hlt
  rw [UInt64.le_iff_toNat_le, UInt64.toNat_add] at hle
  rw [← UInt64.toNat_inj, UInt64.toNat_add]
  have hlimit := limit.toNat_lt
  change limit.toNat ≤ (n.toNat + 1) % 2 ^ 64 at hle
  change (n.toNat + 1) % 2 ^ 64 = limit.toNat
  omega

lemma count_lt_of_valid (hc : c.Valid) {insn : Option UInt32}
    (hs : c.state = .commitPending insn outcome pa) : c.instret < c.config.maxInstructions := by
  have hcount := hc.count
  unfold CountFits at hcount
  rw [hs] at hcount
  exact of_decide_eq_true hcount

/-- What a state fits depends on the profile, the registers and the mode only. -/
lemma Fits.congr {s : State} (h : c.Fits s) (hconfig : d.config = c.config) (hpc : d.pc = c.pc)
    (hregs : d.regs = c.regs) (hm3 : d.m3 = c.m3) : d.Fits s := by
  obtain ⟨⟩ := c
  obtain ⟨⟩ := d
  dsimp only at hconfig hpc hregs hm3
  subst hconfig hpc hregs hm3
  cases s with
  | walkIssue walk => exact ⟨h.translating, h.level, h.table, h.root, h.plan⟩
  | walkWait txn walk => exact ⟨h.translating, h.level, h.table, h.root, h.plan⟩
  | halted halt =>
    cases halt with
    | trap trap => exact ⟨h.pc, h.cause, h.translates, h.undelegated, h.ecall⟩
    | instructionLimit => trivial
  | _ => exact h

lemma resume_valid (hc : c.Legal) (hcount : c.instret < c.config.maxInstructions) :
    c.resume.Valid := by
  refine ⟨⟨hc.pc, hc.machine, hc.m1, hc.m3⟩, (fits_fetchState c).congr rfl rfl rfl rfl, ?_, ?_⟩
  · unfold CountFits resume enter fetchState
    split_ifs <;> exact decide_eq_true hcount
  · unfold resume enter fetchState
    split_ifs <;> intro txn htxn <;> cases htxn

/-- A commit keeps the invariant. -/
lemma Valid.commits {calls : List Call} {c' : Rv32iCpu} (hc : c.Valid) (h : c.Commits calls c') :
    c'.Valid := by
  cases h with
  | halt hs hd =>
    have hlt := count_lt_of_valid hc hs
    have hstate := hc.state
    rw [hs] at hstate
    have hfits : c.Fits (.halted (.trap _)) :=
      trapFits_of_consistent (consistent_iff.mp hstate.1) hd
    exact ⟨⟨hc.legal.pc, hc.legal.machine, hc.legal.m1, hc.legal.m3⟩,
      hfits.congr rfl rfl rfl rfl, decide_eq_true hlt, fun txn htxn => by cases htxn⟩
  | exception hs hd =>
    have hlt := count_lt_of_valid hc hs
    exact resume_valid (hc.legal.exception hd) hlt
  | limit hs hr hl =>
    have hlegal := (hc.legal.retires (hc.retires hs hr)).counted
    have hframe := retire_frame_of_eq hr
    refine ⟨⟨hlegal.pc, hlegal.machine, hlegal.m1, hlegal.m3⟩, trivial, decide_eq_true ?_,
      fun txn htxn => by cases htxn⟩
    have hlt := count_lt_of_valid hc hs
    rw [← hframe.instret, ← hframe.config] at hlt
    exact succ_eq_of_lt_of_le hlt hl
  | retire hs hr hl =>
    rename_i d _
    have hlegal := (hc.legal.retires (hc.retires hs hr)).counted.sampled
    have hframe : SameFrame d.counted d.counted.sampled := sampled_frame
    refine resume_valid hlegal ?_
    rw [hframe.instret, hframe.config]
    exact UInt64.not_le.mp hl

/-- A state that is entered by a request or a response is not a halt. -/
lemma count_of_running {s : State} (hc : c.Valid) (hs : ∀ halt, c.state ≠ .halted halt)
    (hs' : ∀ halt, s ≠ .halted halt) :
    consistentCount c.config.maxInstructions c.instret s = true := by
  have hcount := hc.count
  unfold CountFits at hcount
  unfold consistentCount at hcount ⊢
  split at hcount
  · rename_i hstate
    exact absurd hstate (hs _)
  · split
    · exact absurd rfl (hs' _)
    · exact hcount

lemma Answers.running {msg : MemV1.MemMsg} {s : State} (h : c.Answers msg s) :
    (∀ halt, c.state ≠ .halted halt) ∧ (∀ halt, s ≠ .halted halt) ∧ s.outstanding = none := by
  cases h with
  | access hs =>
    refine ⟨by simp [hs], ?_⟩
    unfold accessState
    split_ifs <;> exact ⟨by simp, rfl⟩
  | leaf hs =>
    rename_i walk _ _ _ _ _
    refine ⟨by simp [hs], ?_⟩
    cases walk.purpose <;> exact ⟨by simp [Purpose.issue], rfl⟩
  | _ hs => exact ⟨by simp [hs], by simp, rfl⟩

lemma Issues.running {token : UInt64} {msg : TxnId → MemV1.MemMsg} {waiting : TxnId → State}
    (h : c.Issues token msg waiting) (txn : TxnId) :
    (∀ halt, c.state ≠ .halted halt) ∧ (∀ halt, waiting txn ≠ .halted halt) ∧
      (waiting txn).outstanding = some txn := by
  cases h with
  | fetch hs => exact ⟨by simp [hs], by simp, rfl⟩
  | memory hs => exact ⟨by simp [hs], by simp, rfl⟩
  | walk hs => exact ⟨by simp [hs], by simp, rfl⟩

lemma fits_issues {token : UInt64} {msg : TxnId → MemV1.MemMsg} {waiting : TxnId → State}
    (hfits : c.Fits c.state) (h : c.Issues token msg waiting) (txn : TxnId) :
    c.Fits (waiting txn) := by
  cases h with
  | fetch hs | memory hs | walk hs =>
    rw [hs] at hfits
    exact hfits

lemma advanceTxn_eq_some {next : UInt64} (h : c.advanceTxn = some next) :
    next = c.nextTxn + 1 ∧ (c.config.profile ≠ .m1 → next ≠ 0) := by
  unfold advanceTxn at h
  split at h
  · rename_i hprofile
    cases h
    exact ⟨rfl, fun hm1 => absurd hprofile hm1⟩
  all_goals
    split_ifs at h with hmax
    cases h
    refine ⟨rfl, fun _ hzero => hmax ?_⟩
    rw [← UInt64.toNat_inj, UInt64.toNat_add] at hzero
    rw [← UInt64.toNat_inj]
    change (c.nextTxn.toNat + 1) % 2 ^ 64 = 0 at hzero
    change c.nextTxn.toNat = 2 ^ 64 - 1
    have hlt := c.nextTxn.toNat_lt
    omega

/-- Every move keeps the invariant. -/
theorem Valid.moves {phase : Phase} {ev : Delivered} {calls : List Call} {c' : Rv32iCpu}
    (hc : c.Valid) (h : c.Moves phase ev calls c') : c'.Valid := by
  cases h with
  | issue hi hn =>
    obtain ⟨hs, hs', hout⟩ := hi.running c.nextTxn
    obtain ⟨rfl, -⟩ := advanceTxn_eq_some hn
    have hcount := count_of_running hc hs hs'
    refine ⟨⟨hc.legal.pc, hc.legal.machine, hc.legal.m1, hc.legal.m3⟩,
      (fits_issues hc.state hi c.nextTxn).congr rfl rfl rfl rfl, hcount, fun txn htxn => ?_⟩
    cases hout.symm.trans htxn
    simp
  | answer hp ha =>
    obtain ⟨hs, hs', hout⟩ := ha.running
    have hcount := count_of_running hc hs hs'
    refine ⟨⟨hc.legal.pc, hc.legal.machine, hc.legal.m1, hc.legal.m3⟩,
      (fits_answers hc.state ha).congr rfl rfl rfl rfl, hcount, fun txn htxn => ?_⟩
    cases hout.symm.trans htxn
  | irq hp =>
    exact ⟨⟨hc.legal.pc, ⟨hc.legal.machine.mtvec, hc.legal.machine.mepc⟩,
      fun hm1 => absurd hm1 hp, hc.legal.m3⟩, hc.state.congr rfl rfl rfl rfl, hc.count, hc.txn⟩
  | commit h => exact hc.commits h

end Rv32iCpu

end SystemScope.Rv32i
