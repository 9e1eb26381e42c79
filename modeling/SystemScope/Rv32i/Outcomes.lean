import SystemScope.Rv32i.CpuSnapshot

/-!
# What a word can lead to

`step` runs over all words; these are the outcomes it has, by kind (`Done`), with what the CPU
relies on in each: an aligned next `pc`, causes that no walk raises, CSR accesses that the mode
allows, and `MRET` and `SRET` only where they are legal.  An aligned load or store goes on at
`pc + 4` (`planNextPc_of_step`).
-/

namespace SystemScope.Rv32i

/-! ## Alignment -/

/-- A multiple of 4. -/
def Aligned (x : UInt32) : Prop := x.toNat % 4 = 0

lemma aligned_iff_mod {x : UInt32} : Aligned x ↔ x % 4 = 0 := by
  rw [← UInt32.toNat_inj, UInt32.toNat_mod]
  rfl

lemma aligned_iff_and {x : UInt32} : Aligned x ↔ x &&& 0b11 = 0 := by
  rw [← UInt32.toNat_inj, UInt32.toNat_and]
  change _ ↔ x.toNat &&& (2 ^ 2 - 1) = 0
  rw [Nat.and_two_pow_sub_one_eq_mod]
  rfl

lemma aligned_and_not (x : UInt32) : Aligned (x &&& ~~~0b11) := by
  rw [aligned_iff_and, UInt32.and_assoc]
  change x &&& 0 = 0
  exact UInt32.and_zero

/-- Clearing the low bits of an aligned word changes nothing. -/
lemma Aligned.and_not {x : UInt32} (h : Aligned x) : x &&& ~~~0b11 = x := by
  refine UInt32.and_eq_self ?_
  rw [UInt32.not_not]
  exact aligned_iff_and.mp h

lemma Aligned.add_four {x : UInt32} (h : Aligned x) : Aligned (x + 4) := by
  unfold Aligned at *
  rw [UInt32.toNat_add]
  change (x.toNat + 4) % 2 ^ 32 % 4 = 0
  omega

/-! ## The outcomes of a step -/

/-- The cause of an `ECALL`. -/
def Isa.ecall : Isa → TrapCause
  | .m3 mode => ecallOf mode
  | _ => .environmentCall

/-- The causes pure execution raises. -/
def pureCauses (isa : Isa) : List TrapCause :=
  [.instructionAddressMisaligned, .illegalInstruction, .breakpoint, isa.ecall,
    .loadAddressMisaligned, .storeAddressMisaligned]

/-- The outcomes that are known without memory. -/
inductive Done (isa : Isa) (pc : UInt32) : Outcome → Prop
  | effect {e : PendingEffect} (hpc : Aligned pc → Aligned e.nextPc) :
      Done isa pc (.exec (.effect e))
  | trap {t : PendingTrap} (hcause : t.cause ∈ pureCauses isa) : Done isa pc (.exec (.trap t))
  | csr {op : PendingCsr} (hm1 : isa ≠ .m1) (hpc : op.nextPc = pc + 4)
      (hm3 : ∀ mode, isa = .m3 mode → accessible op.csr mode op.write = true) :
      Done isa pc (.csr op)
  | mret (hm1 : isa ≠ .m1) (hm3 : ∀ mode, isa = .m3 mode → mode = .machine) : Done isa pc .mret
  | sret {mode : Privilege} (hm3 : isa = .m3 mode) (hmode : mode ≠ .user) : Done isa pc .sret

variable {isa : Isa} {word pc : UInt32} {regs : RegisterFile} {outcome : Outcome}

lemma done_illegal : Done isa pc (illegal word) := .trap (by simp [pureCauses])

lemma done_jump {regWrite : Option RegWrite} {target : UInt32} :
    Done isa pc (.exec (jump regWrite target)) := by
  unfold jump
  split_ifs with h
  · exact .trap (by simp [pureCauses])
  · exact .effect fun _ => aligned_iff_and.mpr (not_not.mp h)

lemma done_next {regWrite : Option RegWrite} :
    Done isa pc (.exec (.effect { regWrite, nextPc := pc + 4 })) :=
  .effect Aligned.add_four

lemma done_of_align {addr : UInt32} {width : MemWidth} {cause : TrapCause} {plan : MemoryPlan}
    {trap : PendingTrap} (hcause : cause ∈ pureCauses isa)
    (h : align addr width cause plan = .trap trap) : Done isa pc (.exec (.trap trap)) := by
  unfold align at h
  split_ifs at h
  cases h
  exact .trap hcause

lemma done_of_family {instr : Instr} {a b : UInt32}
    (h : family isa instr pc a b = some (.done outcome)) : Done isa pc outcome := by
  cases instr with
  | lui | auipc | opImm | shiftImm | op =>
    cases h
    exact done_next
  | jal | jalr =>
    cases h
    exact done_jump
  | branch op =>
    simp only [family, executeControl] at h
    split_ifs at h
    · cases h
      exact done_jump
    · cases h
      exact done_next
  | fence =>
    cases isa <;> cases h <;> exact done_next
  | ecall =>
    cases isa with
    | m3 mode =>
      cases h
      exact .trap (by cases mode <;> simp [pureCauses, Isa.ecall, ecallOf])
    | _ =>
      cases h
      exact .trap (by simp [pureCauses, Isa.ecall])
  | ebreak =>
    cases isa <;> cases h <;> exact .trap (by simp [pureCauses])
  | load op =>
    simp only [family, prepareMemory, Option.map_some, Option.some.injEq] at h
    split at h
    · cases h
    · rename_i halign
      cases h
      exact done_of_align (by simp [pureCauses]) halign
  | store op =>
    simp only [family, prepareMemory, Option.map_some, Option.some.injEq] at h
    split at h
    · cases h
    · rename_i halign
      cases h
      exact done_of_align (by simp [pureCauses]) halign

lemma done_of_stepBase (h : stepBase isa word pc regs = .done outcome) : Done isa pc outcome := by
  unfold stepBase at h
  split at h
  · cases h
    exact .trap (by simp [pureCauses])
  · exact done_of_family (Option.eq_some_iff_get_eq.mpr ⟨_, h⟩)

lemma done_privileged {instr : PrivInstr} : Done .m2 pc (privileged instr word pc regs) := by
  cases instr with
  | mret => exact .mret (by simp) (by simp)
  | csr op rd src csr =>
    simp only [privileged]
    split_ifs
    · exact done_illegal
    · exact .csr (by simp) rfl (by simp)

lemma done_privilegedM3 {mode : Privilege} (h : privilegedM3 mode word pc regs = some outcome) :
    Done (.m3 mode) pc outcome := by
  unfold privilegedM3 at h
  split at h
  · cases h
    split_ifs with hmode
    · exact .mret (by simp) fun mode' h => by cases h; exact hmode
    · exact done_illegal
  · dsimp only at h
    split_ifs at h with haccess
    · cases h
      exact done_illegal
    · cases h
      refine .csr (by simp) rfl fun mode' h => ?_
      cases h
      simp only [Bool.or_eq_true, not_or, Bool.not_eq_true', Bool.not_eq_false] at haccess
      exact haccess.2
  · obtain ⟨instr, -, rfl⟩ := Option.map_eq_some_iff.mp h
    split_ifs with hmode
    · exact done_illegal
    · cases instr with
      | sret => exact .sret rfl hmode
      | sfenceVma => exact done_next

/-- The outcomes of `step`. -/
theorem done_of_step (h : step isa word pc regs = .done outcome) : Done isa pc outcome := by
  unfold step at h
  split at h
  · exact done_of_stepBase h
  · split at h
    · cases h
      exact done_privileged
    · exact done_of_stepBase h
  · split at h
    · rename_i hprivileged
      cases h
      exact done_privilegedM3 hprivileged
    · exact done_of_stepBase h

/-! ## The plans of a step -/

/-- The `pc` after an access. -/
def planNextPc : MemoryPlan → UInt32
  | .load plan => plan.nextPc
  | .store plan => plan.nextPc

lemma stepBase_of_step {plan : MemoryPlan} (h : step isa word pc regs = .memory plan) :
    stepBase isa word pc regs = .memory plan := by
  unfold step at h
  split at h
  · exact h
  · split at h
    · cases h
    · exact h
  · split at h
    · cases h
    · exact h

lemma align_eq_request {addr : UInt32} {width : MemWidth} {cause : TrapCause}
    {plan plan' : MemoryPlan} (h : align addr width cause plan = .request plan') :
      plan' = plan := by
  unfold align at h
  split_ifs at h
  cases h
  rfl

lemma planNextPc_of_stepBase {plan : MemoryPlan} (h : stepBase isa word pc regs = .memory plan) :
    planNextPc plan = pc + 4 := by
  unfold stepBase at h
  split at h
  · cases h
  · rename_i instr _
    have hfamily := Option.eq_some_iff_get_eq.mpr ⟨_, h⟩
    cases instr with
    | load op =>
      simp only [family, prepareMemory, Option.map_some, Option.some.injEq] at hfamily
      split at hfamily
      · rename_i halign
        cases hfamily
        rw [align_eq_request halign]
        rfl
      · cases hfamily
    | store op =>
      simp only [family, prepareMemory, Option.map_some, Option.some.injEq] at hfamily
      split at hfamily
      · rename_i halign
        cases hfamily
        rw [align_eq_request halign]
        rfl
      · cases hfamily
    | branch op =>
      simp only [family, executeControl] at hfamily
      split_ifs at hfamily <;> cases hfamily
    | _ => cases hfamily

/-- A load or store goes on at the next instruction. -/
lemma planNextPc_of_step {plan : MemoryPlan} (h : step isa word pc regs = .memory plan) :
    planNextPc plan = pc + 4 := planNextPc_of_stepBase (stepBase_of_step h)

end SystemScope.Rv32i
