import SystemScope.Rv32i.Decode

/-!
# Pure execution

`components/rv32i/src/execute.rs`: what an instruction would do if it retired, as a
`PendingEffect`, or the trap it raises instead, as a `PendingTrap`.  Each family of instructions
has its own function, which refuses the others.
-/

namespace SystemScope.Rv32i

/-- A register write an instruction makes when it retires; `rd` may be `x0`. -/
structure RegWrite where
  rd : Reg
  value : UInt32
  deriving DecidableEq

/-- The architectural effect of a retiring instruction. -/
structure PendingEffect where
  regWrite : Option RegWrite
  nextPc : UInt32
  deriving DecidableEq

/-- The cause of a trap. -/
inductive TrapCause
  | instructionAddressMisaligned
  | loadAddressMisaligned
  | loadAccessFault
  | storeAddressMisaligned
  | storeAccessFault
  | instructionAccessFault
  | illegalInstruction
  | breakpoint
  | environmentCall
  | environmentCallFromU
  | environmentCallFromS
  | instructionPageFault
  | loadPageFault
  | storePageFault
  deriving DecidableEq, Repr

namespace TrapCause

/-- The cause's name, as trace records show it. -/
def name : TrapCause → String
  | instructionAddressMisaligned => "InstructionAddressMisaligned"
  | loadAddressMisaligned => "LoadAddressMisaligned"
  | loadAccessFault => "LoadAccessFault"
  | storeAddressMisaligned => "StoreAddressMisaligned"
  | storeAccessFault => "StoreAccessFault"
  | instructionAccessFault => "InstructionAccessFault"
  | illegalInstruction => "IllegalInstruction"
  | breakpoint => "Breakpoint"
  | environmentCall => "EnvironmentCall"
  | environmentCallFromU => "EnvironmentCallFromU"
  | environmentCallFromS => "EnvironmentCallFromS"
  | instructionPageFault => "InstructionPageFault"
  | loadPageFault => "LoadPageFault"
  | storePageFault => "StorePageFault"

/-- The cause's name in the `M3` profile. -/
def m3Name : TrapCause → String
  | environmentCall => "EnvironmentCallFromM"
  | other => other.name

/-- The architectural exception code, and the cause's `medeleg` bit. -/
def code : TrapCause → UInt32
  | instructionAddressMisaligned => 0
  | instructionAccessFault => 1
  | illegalInstruction => 2
  | breakpoint => 3
  | loadAddressMisaligned => 4
  | loadAccessFault => 5
  | storeAddressMisaligned => 6
  | storeAccessFault => 7
  | environmentCallFromU => 8
  | environmentCallFromS => 9
  | environmentCall => 11
  | instructionPageFault => 12
  | loadPageFault => 13
  | storePageFault => 15

end TrapCause

/-- A trap an instruction raises instead of retiring. -/
structure PendingTrap where
  cause : TrapCause
  tval : UInt32
  deriving DecidableEq

/-- The result of executing an instruction that may trap. -/
inductive ExecOutcome
  | effect (effect : PendingEffect)
  | trap (trap : PendingTrap)
  deriving DecidableEq

/-! ## Arithmetic -/

/-- `u32::from` of a truth value. -/
def ofBool (b : Bool) : UInt32 := if b then 1 else 0

/-- Shifts by the low 5 bits of the amount. -/
def shift (op : ShiftOp) (value amount : UInt32) : UInt32 :=
  let amount := amount &&& 0x1f
  match op with
  | .sll => value <<< amount
  | .srl => value >>> amount
  | .sra => (value.toInt32 >>> amount.toInt32).toUInt32

/-- A register-immediate operation, on the immediate's sign-extended pattern. -/
def opImm (op : ImmOp) (a : UInt32) (imm : Int32) : UInt32 :=
  let b := imm.toUInt32
  match op with
  | .addi => a + b
  | .slti => ofBool (a.toInt32 < imm)
  | .sltiu => ofBool (a < b)
  | .xori => a ^^^ b
  | .ori => a ||| b
  | .andi => a &&& b

def opReg (op : RegOp) (a b : UInt32) : UInt32 :=
  match op with
  | .add => a + b
  | .sub => a - b
  | .sll => shift .sll a b
  | .slt => ofBool (a.toInt32 < b.toInt32)
  | .sltu => ofBool (a < b)
  | .xor => a ^^^ b
  | .srl => shift .srl a b
  | .sra => shift .sra a b
  | .or => a ||| b
  | .and => a &&& b

/-- Whether a branch is taken. -/
def taken (op : BranchOp) (a b : UInt32) : Bool :=
  match op with
  | .eq => a = b
  | .ne => a ≠ b
  | .lt => a.toInt32 < b.toInt32
  | .ge => a.toInt32 ≥ b.toInt32
  | .ltu => a < b
  | .geu => a ≥ b

/-! ## Instruction families -/

/-- Executes `LUI`, `AUIPC`, and every `OP-IMM` and `OP` instruction. -/
def executeAlu (instr : Instr) (pc rs1 rs2 : UInt32) : Option PendingEffect :=
  let retire (rd : Reg) (value : UInt32) : Option PendingEffect :=
    some { regWrite := some { rd, value }, nextPc := pc + 4 }
  match instr with
  | .lui rd imm => retire rd imm
  | .auipc rd imm => retire rd (pc + imm)
  | .opImm op rd _ imm => retire rd (opImm op rs1 imm)
  | .shiftImm op rd _ shamt => retire rd (shift op rs1 shamt)
  | .op op rd _ _ => retire rd (opReg op rs1 rs2)
  | _ => none

/-- A jump: the target must be 4-byte aligned. -/
def jump (regWrite : Option RegWrite) (target : UInt32) : ExecOutcome :=
  if target &&& 0x3 ≠ 0 then .trap { cause := .instructionAddressMisaligned, tval := target }
  else .effect { regWrite, nextPc := target }

/-- Executes a conditional branch, `JAL`, or `JALR`. -/
def executeControl (instr : Instr) (pc rs1 rs2 : UInt32) : Option ExecOutcome :=
  let link (rd : Reg) : Option RegWrite := some { rd, value := pc + 4 }
  match instr with
  | .branch op _ _ offset =>
    -- The target of a branch that is not taken is never computed, so it cannot trap.
    if taken op rs1 rs2 then some (jump none (pc + offset.toUInt32))
    else some (.effect { regWrite := none, nextPc := pc + 4 })
  | .jal rd offset => some (jump (link rd) (pc + offset.toUInt32))
  | .jalr rd _ offset => some (jump (link rd) ((rs1 + offset.toUInt32) &&& ~~~1))
  | _ => none

/-- Executes `FENCE`, `ECALL`, or `EBREAK`. -/
def executeSystem (instr : Instr) (pc : UInt32) : Option ExecOutcome :=
  match instr with
  | .fence => some (.effect { regWrite := none, nextPc := pc + 4 })
  | .ecall => some (.trap { cause := .environmentCall, tval := 0 })
  | .ebreak => some (.trap { cause := .breakpoint, tval := pc })
  | _ => none

end SystemScope.Rv32i
