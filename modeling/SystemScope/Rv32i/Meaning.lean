import SystemScope.Framework.Integers
import SystemScope.Rv32i.Cpu

/-!
# Instructions over the integers

What an instruction means (`Instr.meaning`), with numbers for words: results modulo `2 ^ 32`, and
two's-complement values where the ISA says signed.  `step` of the `M1` profile is exactly this
(`step_meets_isa`); it reads nothing but the sources of the instruction, and what retires is written
to the registers it was computed from.
-/

namespace SystemScope.Rv32i

/-! ## The meaning -/

/-- The number of a word with a given value, modulo `2 ^ 32`. -/
def wrap (z : ℤ) : ℕ := (z % 2 ^ 32).toNat

/-- The two's-complement value of a word. -/
def signed (v : ℕ) : ℤ := if v < 2 ^ 31 then v else v - 2 ^ 32

/-- A truth value as a number. -/
def truth (p : Prop) [Decidable p] : ℕ := if p then 1 else 0

/-- What an instruction does: it retires, writing a register or none; it traps; or it accesses
memory first, and goes on at the next instruction. -/
inductive Meaning
  | retire (write : Option (Reg × ℕ)) (next : ℕ)
  | trap (cause : TrapCause) (tval : ℕ)
  | load (rd : Reg) (addr width : ℕ) (sign : Bool) (next : ℕ)
  | store (addr : ℕ) (data : List ℕ) (next : ℕ)
  deriving DecidableEq

def ShiftOp.meaning (op : ShiftOp) (a n : ℕ) : ℕ :=
  match op with
  | .sll => wrap (a * 2 ^ (n % 32))
  | .srl => a / 2 ^ (n % 32)
  | .sra => wrap (signed a / 2 ^ (n % 32))

def ImmOp.meaning (op : ImmOp) (a : ℕ) (imm : ℤ) : ℕ :=
  match op with
  | .addi => wrap (a + imm)
  | .slti => truth (signed a < imm)
  | .sltiu => truth (a < wrap imm)
  | .xori => a ^^^ wrap imm
  | .ori => a ||| wrap imm
  | .andi => a &&& wrap imm

def RegOp.meaning (op : RegOp) (a b : ℕ) : ℕ :=
  match op with
  | .add => wrap (a + b)
  | .sub => wrap (a - b)
  | .sll => ShiftOp.sll.meaning a b
  | .slt => truth (signed a < signed b)
  | .sltu => truth (a < b)
  | .xor => a ^^^ b
  | .srl => ShiftOp.srl.meaning a b
  | .sra => ShiftOp.sra.meaning a b
  | .or => a ||| b
  | .and => a &&& b

/-- When a branch is taken. -/
def BranchOp.Holds (op : BranchOp) (a b : ℕ) : Prop :=
  match op with
  | .eq => a = b
  | .ne => a ≠ b
  | .lt => signed a < signed b
  | .ge => signed b ≤ signed a
  | .ltu => a < b
  | .geu => b ≤ a

instance (op : BranchOp) (a b : ℕ) : Decidable (op.Holds a b) := by
  unfold BranchOp.Holds
  cases op <;> infer_instance

/-- A jump, which traps unless its target is a multiple of 4. -/
def jumpMeaning (write : Option (Reg × ℕ)) (target : ℕ) : Meaning :=
  if target % 4 = 0 then .retire write target else .trap .instructionAddressMisaligned target

/-- How many bytes a load reads, and whether it extends their sign. -/
def LoadOp.shape : LoadOp → ℕ × Bool
  | .b => (1, true)
  | .bu => (1, false)
  | .h => (2, true)
  | .hu => (2, false)
  | .w => (4, true)

/-- How many bytes a store writes. -/
def StoreOp.width : StoreOp → ℕ
  | .b => 1
  | .h => 2
  | .w => 4

/-- The low bytes of a number, the lowest first. -/
def lowBytes (v : ℕ) (width : ℕ) : List ℕ := (List.range width).map fun i => v / 2 ^ (8 * i) % 2 ^ 8

/-- The meaning of an instruction at `pc`, from what the registers hold before it. -/
def Instr.meaning (pc : ℕ) (x : Reg → ℕ) : Instr → Meaning
  | .lui rd imm => .retire (some (rd, imm.toNat)) (wrap (pc + 4))
  | .auipc rd imm => .retire (some (rd, wrap (pc + imm.toNat))) (wrap (pc + 4))
  | .jal rd offset => jumpMeaning (some (rd, wrap (pc + 4))) (wrap (pc + offset.toInt))
  | .jalr rd rs1 offset =>
    jumpMeaning (some (rd, wrap (pc + 4))) (wrap (x rs1 + offset.toInt) / 2 * 2)
  | .branch o rs1 rs2 offset =>
    if o.Holds (x rs1) (x rs2) then jumpMeaning none (wrap (pc + offset.toInt))
    else .retire none (wrap (pc + 4))
  | .load o rd rs1 offset =>
    let addr := wrap (x rs1 + offset.toInt)
    if addr % o.shape.1 = 0 then .load rd addr o.shape.1 o.shape.2 (wrap (pc + 4))
    else .trap .loadAddressMisaligned addr
  | .store o rs1 rs2 offset =>
    let addr := wrap (x rs1 + offset.toInt)
    if addr % o.width = 0 then .store addr (lowBytes (x rs2) o.width) (wrap (pc + 4))
    else .trap .storeAddressMisaligned addr
  | .opImm o rd rs1 imm => .retire (some (rd, o.meaning (x rs1) imm.toInt)) (wrap (pc + 4))
  | .shiftImm o rd rs1 shamt => .retire (some (rd, o.meaning (x rs1) shamt.toNat)) (wrap (pc + 4))
  | .op o rd rs1 rs2 => .retire (some (rd, o.meaning (x rs1) (x rs2))) (wrap (pc + 4))
  | .fence => .retire none (wrap (pc + 4))
  | .ecall => .trap .environmentCall 0
  | .ebreak => .trap .breakpoint pc

/-! ## What the CPU computes, in numbers -/

def RegWrite.meaning (w : RegWrite) : Reg × ℕ := (w.rd, w.value.toNat)

def ExecOutcome.meaning : ExecOutcome → Meaning
  | .effect e => .retire (e.regWrite.map RegWrite.meaning) e.nextPc.toNat
  | .trap t => .trap t.cause t.tval.toNat

def MemoryPlan.meaning : MemoryPlan → Meaning
  | .load plan =>
    .load plan.rd plan.addr.toNat plan.width.bytes.toNat
      (plan.extension = .signed) plan.nextPc.toNat
  | .store plan => .store plan.addr.toNat (plan.data.map UInt8.toNat) plan.nextPc.toNat

/-- The meaning of what a word needs; privileged instructions have none in `M1`. -/
def Step.meaning : Step → Option Meaning
  | .done (.exec outcome) => some outcome.meaning
  | .done _ => none
  | .memory plan => some plan.meaning

/-! ## Arithmetic -/

lemma signed_toNat (v : UInt32) : v.toInt32.toInt = signed v.toNat := v.toInt_toInt32

lemma toNat_add_wrap (a b : UInt32) : (a + b).toNat = wrap (a.toNat + b.toNat) := by
  unfold wrap
  rw [UInt32.toNat_add]
  omega

lemma toNat_sub_wrap (a b : UInt32) : (a - b).toNat = wrap (a.toNat - b.toNat) := by
  have ha := a.toNat_lt
  have hb := b.toNat_lt
  unfold wrap
  rw [UInt32.toNat_sub]
  omega

lemma toNat_imm (imm : Int32) : imm.toUInt32.toNat = wrap imm.toInt := by
  have himm := imm.toNat_toUInt32_eq
  unfold wrap
  omega

lemma toNat_add_imm (a : UInt32) (imm : Int32) :
    (a + imm.toUInt32).toNat = wrap (a.toNat + imm.toInt) := by
  have himm := imm.toNat_toUInt32_eq
  unfold wrap
  rw [UInt32.toNat_add]
  omega

lemma toNat_add_four (pc : UInt32) : (pc + 4).toNat = wrap (pc.toNat + 4) := toNat_add_wrap pc 4

lemma toNat_ofBool {b : Bool} {p : Prop} [Decidable p] (h : b = true ↔ p) :
    (ofBool b).toNat = truth p := by
  unfold ofBool truth
  by_cases hp : p
  · rw [if_pos (h.mpr hp), if_pos hp]
    rfl
  · rw [if_neg (mt h.mp hp), if_neg hp]
    rfl

lemma toNat_shift (op : ShiftOp) (v amount : UInt32) :
    (shift op v amount).toNat = op.meaning v.toNat amount.toNat := by
  obtain ⟨n, hn⟩ : ∃ n, n = amount.toNat % 2 ^ 5 := ⟨_, rfl⟩
  have hlt : n < 32 := hn ▸ Nat.mod_lt _ (by omega)
  have hmask : amount &&& 0x1f = UInt32.ofNat n := by
    rw [← UInt32.toNat_inj, UInt32.toNat_ofNat_of_lt' (show n < 2 ^ 32 by omega), hn]
    exact UInt32.toNat_and_mask amount 5 (by omega)
  have hv := v.toNat_lt
  unfold shift ShiftOp.meaning
  dsimp only
  rw [hmask, show amount.toNat % 32 = n from hn.symm]
  cases op with
  | sll =>
    dsimp only
    rw [UInt32.toNat_shiftLeft_ofNat v hlt]
    unfold wrap
    norm_cast
  | srl =>
    dsimp only
    rw [UInt32.toNat_shiftRight_ofNat v hlt]
  | sra =>
    have hshift := Int32.toInt_shiftRight_ofNat v.toInt32 hlt
    have hnat := (v.toInt32 >>> Int32.ofNat n).toNat_toUInt32_eq
    rw [hshift, signed_toNat] at hnat
    unfold wrap
    exact (Int.toNat_natCast _).symm.trans (congrArg Int.toNat hnat)

lemma toNat_opImm (op : ImmOp) (a : UInt32) (imm : Int32) :
    (opImm op a imm).toNat = op.meaning a.toNat imm.toInt := by
  cases op with
  | addi => exact toNat_add_imm a imm
  | slti =>
    refine toNat_ofBool ?_
    rw [decide_eq_true_iff, Int32.lt_iff_toInt_lt, signed_toNat]
  | sltiu =>
    refine toNat_ofBool ?_
    rw [decide_eq_true_iff, UInt32.lt_iff_toNat_lt, toNat_imm imm]
  | xori => exact (UInt32.toNat_xor _ _).trans (congrArg _ (toNat_imm imm))
  | ori => exact (UInt32.toNat_or _ _).trans (congrArg _ (toNat_imm imm))
  | andi => exact (UInt32.toNat_and _ _).trans (congrArg _ (toNat_imm imm))

lemma toNat_opReg (op : RegOp) (a b : UInt32) :
    (opReg op a b).toNat = op.meaning a.toNat b.toNat := by
  cases op with
  | add => exact toNat_add_wrap a b
  | sub => exact toNat_sub_wrap a b
  | sll => exact toNat_shift .sll a b
  | slt =>
    refine toNat_ofBool ?_
    rw [decide_eq_true_iff, Int32.lt_iff_toInt_lt, signed_toNat, signed_toNat]
  | sltu =>
    refine toNat_ofBool ?_
    rw [decide_eq_true_iff, UInt32.lt_iff_toNat_lt]
  | xor => exact UInt32.toNat_xor a b
  | srl => exact toNat_shift .srl a b
  | sra => exact toNat_shift .sra a b
  | or => exact UInt32.toNat_or a b
  | and => exact UInt32.toNat_and a b

lemma taken_iff (op : BranchOp) (a b : UInt32) :
    taken op a b = true ↔ op.Holds a.toNat b.toNat := by
  unfold taken BranchOp.Holds
  cases op with
  | eq => rw [decide_eq_true_iff, UInt32.toNat_inj]
  | ne => rw [decide_eq_true_iff, ne_eq, ne_eq, UInt32.toNat_inj]
  | lt => rw [decide_eq_true_iff, Int32.lt_iff_toInt_lt, signed_toNat, signed_toNat]
  | ge =>
    rw [decide_eq_true_iff, ge_iff_le, Int32.le_iff_toInt_le, signed_toNat, signed_toNat]
  | ltu => rw [decide_eq_true_iff, UInt32.lt_iff_toNat_lt]
  | geu => rw [decide_eq_true_iff, ge_iff_le, UInt32.le_iff_toNat_le]

/-! ## Jumps and accesses -/

lemma jump_meaning (write : Option RegWrite) (target : UInt32) :
    (jump write target).meaning = jumpMeaning (write.map RegWrite.meaning) target.toNat := by
  have halign : target &&& 0x3 ≠ 0 ↔ ¬target.toNat % 4 = 0 := by
    rw [ne_eq, ← UInt32.toNat_inj]
    exact not_congr (iff_of_eq (congrArg (· = 0) (UInt32.toNat_and_mask target 2 (by omega))))
  unfold jump jumpMeaning
  by_cases h : target.toNat % 4 = 0
  · rw [if_neg (mt halign.mp (not_not.mpr h)), if_pos h]
    rfl
  · rw [if_pos (halign.mpr h), if_neg h]
    rfl

/-- `JALR` clears the lowest bit of its target. -/
lemma toNat_clear_bit (x : UInt32) : (x &&& ~~~1).toNat = x.toNat / 2 * 2 := by
  have hwindow : (x &&& ~~~1).toNat = x.toNat / 2 ^ 1 % 2 ^ 31 * 2 ^ 1 :=
    @UInt32.toNat_and_window x 1 31 (by omega)
  have hlt := x.toNat_lt
  rw [hwindow]
  omega

lemma align_meaning {addr : UInt32} {width : MemWidth} {cause : TrapCause} {plan : MemoryPlan} :
    (addr.toNat % width.bytes.toNat = 0 → align addr width cause plan = .request plan) ∧
      (¬addr.toNat % width.bytes.toNat = 0 →
        align addr width cause plan = .trap { cause, tval := addr }) := by
  have hmask : addr &&& (width.bytes - 1) = 0 ↔ addr.toNat % width.bytes.toNat = 0 := by
    rw [← UInt32.toNat_inj]
    cases width with
    | byte => exact iff_of_eq (congrArg (· = 0) (UInt32.toNat_and_mask addr 0 (by omega)))
    | half => exact iff_of_eq (congrArg (· = 0) (UInt32.toNat_and_mask addr 1 (by omega)))
    | word => exact iff_of_eq (congrArg (· = 0) (UInt32.toNat_and_mask addr 2 (by omega)))
  unfold align
  rw [← hmask]
  exact ⟨fun h => if_neg (not_not.mpr h), fun h => if_pos h⟩

lemma u32Bytes_eq (v : UInt32) : (u32Bytes v).map UInt8.toNat = lowBytes v.toNat 4 := by
  have hbyte : ∀ n < 32, ((v >>> UInt32.ofNat n).toUInt8).toNat = v.toNat / 2 ^ n % 2 ^ 8 := by
    intro n hn
    rw [UInt32.toNat_toUInt8, UInt32.toNat_shiftRight_ofNat v hn]
  have hlow : v.toUInt8.toNat = v.toNat / 2 ^ 0 % 2 ^ 8 := by
    rw [UInt32.toNat_toUInt8, pow_zero, Nat.div_one]
  unfold u32Bytes lowBytes
  simp only [List.map_cons, List.map_nil, List.range_succ, List.range_zero, List.nil_append,
    List.cons_append]
  rw [hlow]
  exact congrArg _ (congrArg₂ _ (hbyte 8 (by omega)) (congrArg₂ _ (hbyte 16 (by omega))
    (congrArg₂ _ (hbyte 24 (by omega)) rfl)))

lemma lowBytes_take (v width : ℕ) (h : width ≤ 4) :
    (lowBytes v 4).take width = lowBytes v width := by
  unfold lowBytes
  rw [← List.map_take, List.take_range, Nat.min_eq_left h]

lemma load_meaning (op : LoadOp) (rd : Reg) (addr next : UInt32) :
    (match align addr (loadShape op).1 .loadAddressMisaligned
        (.load { rd, addr, width := (loadShape op).1, extension := (loadShape op).2,
                 nextPc := next }) with
      | .request plan => Step.memory plan
      | .trap trap => Step.done (.exec (.trap trap))).meaning =
      some (if addr.toNat % op.shape.1 = 0 then .load rd addr.toNat op.shape.1 op.shape.2 next.toNat
        else .trap .loadAddressMisaligned addr.toNat) := by
  have hwidth : (loadShape op).1.bytes.toNat = op.shape.1 := by cases op <;> rfl
  have hsign : decide ((loadShape op).2 = .signed) = op.shape.2 := by cases op <;> rfl
  rw [← hwidth, ← hsign]
  by_cases h : addr.toNat % (loadShape op).1.bytes.toNat = 0
  · rw [align_meaning.1 h, if_pos h]
    rfl
  · rw [align_meaning.2 h, if_neg h]
    rfl

lemma store_meaning (op : StoreOp) (addr value next : UInt32) :
    (match align addr (storeWidth op) .storeAddressMisaligned
        (.store { addr, data := (u32Bytes value).take (storeWidth op).bytes.toNat,
                  nextPc := next }) with
      | .request plan => Step.memory plan
      | .trap trap => Step.done (.exec (.trap trap))).meaning =
      some (if addr.toNat % op.width = 0 then
        .store addr.toNat (lowBytes value.toNat op.width) next.toNat
        else .trap .storeAddressMisaligned addr.toNat) := by
  have hwidth : (storeWidth op).bytes.toNat = op.width := by cases op <;> rfl
  have hle : op.width ≤ 4 := by cases op <;> decide
  have hdata :
    ((u32Bytes value).take op.width).map UInt8.toNat = lowBytes value.toNat op.width := by
    rw [List.map_take, u32Bytes_eq, lowBytes_take _ _ hle]
  rw [← hdata, hwidth]
  by_cases h : addr.toNat % (storeWidth op).bytes.toNat = 0
  · rw [align_meaning.1 h, if_pos (hwidth ▸ h)]
    rfl
  · rw [align_meaning.2 h, if_neg (hwidth ▸ h)]
    rfl

/-! ## The step -/

lemma retire_meaning (rd : Reg) {value pc : UInt32} {v : ℕ} (h : value.toNat = v) :
    (Step.done (.exec (.effect { regWrite := some { rd, value }, nextPc := pc + 4 }))).meaning =
      some (.retire (some (rd, v)) (wrap (pc.toNat + 4))) := by
  rw [← h, ← toNat_add_four]
  rfl

lemma link_meaning (rd : Reg) (pc : UInt32) {target : UInt32} {t : ℕ} (h : target.toNat = t) :
    (Step.done (.exec (jump (some { rd, value := pc + 4 }) target))).meaning =
      some (jumpMeaning (some (rd, wrap (pc.toNat + 4))) t) := by
  rw [← h, ← toNat_add_four]
  exact congrArg some (jump_meaning _ target)

lemma executeControl_branch (op : BranchOp) (rs1 rs2 : Reg) (offset : Int32) (pc a b : UInt32) :
    executeControl (.branch op rs1 rs2 offset) pc a b =
      some (if taken op a b = true then jump none (pc + offset.toUInt32)
        else .effect { regWrite := none, nextPc := pc + 4 }) := by
  unfold executeControl
  dsimp only
  split <;> rfl

lemma branch_meaning (op : BranchOp) (a b : UInt32) (offset : Int32) (pc : UInt32) :
    (if taken op a b = true then jump none (pc + offset.toUInt32)
        else ExecOutcome.effect { regWrite := none, nextPc := pc + 4 }).meaning =
      if op.Holds a.toNat b.toNat then jumpMeaning none (wrap (pc.toNat + offset.toInt))
      else .retire none (wrap (pc.toNat + 4)) := by
  have htaken := taken_iff op a b
  by_cases h : taken op a b = true
  · rw [if_pos h, if_pos (htaken.mp h), jump_meaning, toNat_add_imm]
    rfl
  · rw [if_neg h, if_neg (mt htaken.mpr h), ← toNat_add_four]
    rfl

lemma family_meaning (instr : Instr) (pc : UInt32) (regs : RegisterFile) :
    ∃ result, family .m1 instr pc (regs.read (sources instr).1) (regs.read (sources instr).2) =
      some result ∧
      result.meaning = some (instr.meaning pc.toNat fun r => (regs.read r).toNat) := by
  cases instr with
  | lui rd imm => exact ⟨_, rfl, retire_meaning rd rfl⟩
  | auipc rd imm => exact ⟨_, rfl, retire_meaning rd (toNat_add_wrap pc imm)⟩
  | opImm op rd rs1 imm => exact ⟨_, rfl, retire_meaning rd (toNat_opImm op (regs.read rs1) imm)⟩
  | shiftImm op rd rs1 shamt =>
    exact ⟨_, rfl, retire_meaning rd (toNat_shift op (regs.read rs1) shamt)⟩
  | op op rd rs1 rs2 =>
    exact ⟨_, rfl, retire_meaning rd (toNat_opReg op (regs.read rs1) (regs.read rs2))⟩
  | jal rd offset => exact ⟨_, rfl, link_meaning rd pc (toNat_add_imm pc offset)⟩
  | jalr rd rs1 offset =>
    refine ⟨_, rfl, link_meaning rd pc ?_⟩
    rw [toNat_clear_bit, toNat_add_imm]
    rfl
  | branch op rs1 rs2 offset =>
    exact ⟨_, congrArg (Option.map _) (executeControl_branch op rs1 rs2 offset pc _ _),
      congrArg some (branch_meaning op (regs.read rs1) (regs.read rs2) offset pc)⟩
  | load op rd rs1 offset =>
    refine ⟨_, rfl, (load_meaning op rd (regs.read rs1 + offset.toUInt32) (pc + 4)).trans ?_⟩
    rw [toNat_add_imm, toNat_add_four]
    rfl
  | store op rs1 rs2 offset =>
    refine ⟨_, rfl,
      (store_meaning op (regs.read rs1 + offset.toUInt32) (regs.read rs2) (pc + 4)).trans ?_⟩
    rw [toNat_add_imm, toNat_add_four]
    rfl
  | fence => exact ⟨_, rfl, congrArg some (congrArg (Meaning.retire _) (toNat_add_four pc))⟩
  | ecall => exact ⟨_, rfl, rfl⟩
  | ebreak => exact ⟨_, rfl, rfl⟩

lemma step_m1_eq {word pc : UInt32} {instr : Instr} (h : decode word = .ok instr)
    (regs : RegisterFile) :
    step .m1 word pc regs =
      (family .m1 instr pc (regs.read (sources instr).1) (regs.read (sources instr).2)).get
        (family_isSome ..) := by
  unfold step stepBase
  dsimp only
  rw [h]

/-- What registers hold after a meaning: the one that is written, unless it is `x0`, holds the new
value. -/
def Meaning.after (m : Meaning) (x : Reg → ℕ) (r : Reg) : ℕ :=
  match m with
  | .retire (some (rd, v)) _ => if r = rd ∧ rd ≠ .zero then v else x r
  | _ => x r

/-- RV32I execution in the `M1` profile meets the ISA over the integers: the outcome of a word is
the meaning of its instruction; it depends on no registers but the sources of the instruction, as
they were before it; and when it retires, the registers hold what the meaning writes, and the rest
what they held. -/
theorem step_meets_isa {word : UInt32} {instr : Instr} (h : decode word = .ok instr) (pc : UInt32)
    (regs : RegisterFile) :
    (step .m1 word pc regs).meaning = some (instr.meaning pc.toNat fun r => (regs.read r).toNat) ∧
    (∀ regs' : RegisterFile, regs'.read (sources instr).1 = regs.read (sources instr).1 →
      regs'.read (sources instr).2 = regs.read (sources instr).2 →
      step .m1 word pc regs' = step .m1 word pc regs) ∧
    ∀ (c : Rv32iCpu) (effect : PendingEffect) (pa : Option UInt64), c.regs = regs →
      step .m1 word pc regs = .done (.exec (.effect effect)) →
      ∀ r, ((c.retire word (.exec (.effect effect)) pa).1.regs.read r).toNat =
        (instr.meaning pc.toNat fun r => (regs.read r).toNat).after
          (fun r => (regs.read r).toNat) r := by
  obtain ⟨result, hresult, hmeaning⟩ := family_meaning instr pc regs
  have hstep : step .m1 word pc regs = result := by
    rw [step_m1_eq h]
    exact Option.get_of_eq_some _ hresult
  refine ⟨hstep ▸ hmeaning, ?_, ?_⟩
  · intro regs' h1 h2
    rw [step_m1_eq h, step_m1_eq h]
    simp only [h1, h2]
  · rintro c effect pa rfl heffect r
    rw [hstep] at heffect
    rw [heffect] at hmeaning
    rw [← Option.some.inj hmeaning]
    unfold Rv32iCpu.retire
    cases hwrite : effect.regWrite with
    | none => simp [ExecOutcome.meaning, hwrite, Meaning.after]
    | some w =>
      simp only [ExecOutcome.meaning, hwrite, Option.map_some, RegWrite.meaning, Meaning.after,
        Option.elim_some]
      by_cases hw : w.rd = .zero
      · rw [hw, RegisterFile.write_zero, if_neg (by simp)]
      · by_cases hr : r = w.rd
        · rw [if_pos ⟨hr, hw⟩, hr, RegisterFile.read_write_self _ _ hw]
        · rw [if_neg (fun hc => hr hc.1), RegisterFile.read_write_of_ne _ _ hr]

/-- `JALR` with its own source as the link register. -/
theorem step_meets_isa_jalr :
    (step .m1 0x000080E7 0x1000 (RegisterFile.new.write ⟨1, by decide⟩ 0x2004)).meaning =
      some (.retire (some (⟨1, by decide⟩, 0x1004)) 0x2004) := by
  have hdecode : decode 0x000080E7 = .ok (.jalr ⟨1, by decide⟩ ⟨1, by decide⟩ 0) := by
    decide +kernel
  refine (step_meets_isa hdecode 0x1000 _).1.trans ?_
  decide +kernel

end SystemScope.Rv32i
