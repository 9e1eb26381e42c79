import SystemScope.Contracts.Types
import SystemScope.Rv32i.Execute

/-!
# Loads and stores

`components/rv32i/src/memory.rs`.  A load or store has two halves: `prepareMemory` decides which
request it needs, or that it traps because it is misaligned, and `completeMemory` makes an outcome
of the response.  A response that does not fit the request is an error, never a trap.
-/

namespace SystemScope.Rv32i

open MemV1

/-! ## Little-endian words -/

/-- `u16::from_le_bytes`. -/
def u16OfBytes (b0 b1 : UInt8) : UInt16 := b0.toUInt16 ||| (b1.toUInt16 <<< 8)

/-- `u32::from_le_bytes`. -/
def u32OfBytes (b0 b1 b2 b3 : UInt8) : UInt32 :=
  b0.toUInt32 ||| (b1.toUInt32 <<< 8) ||| (b2.toUInt32 <<< 16) ||| (b3.toUInt32 <<< 24)

/-- `u32::to_le_bytes`. -/
def u32Bytes (v : UInt32) : Bytes :=
  [v.toUInt8, (v >>> 8).toUInt8, (v >>> 16).toUInt8, (v >>> 24).toUInt8]

/-- The word in a slice of exactly four bytes. -/
def wordOfBytes : Bytes → Option UInt32
  | [b0, b1, b2, b3] => some (u32OfBytes b0 b1 b2 b3)
  | _ => none

/-! ## Plans -/

/-- How many bytes a load or store accesses. -/
inductive MemWidth
  | byte
  | half
  | word
  deriving DecidableEq

/-- The number of bytes; also the required alignment. -/
def MemWidth.bytes : MemWidth → UInt32
  | .byte => 1
  | .half => 2
  | .word => 4

/-- How a load widens its bytes. -/
inductive LoadExtension
  | signed
  | unsigned
  deriving DecidableEq

/-- A load waiting for its read response. -/
structure LoadPlan where
  rd : Reg
  addr : UInt32
  width : MemWidth
  extension : LoadExtension
  nextPc : UInt32
  deriving DecidableEq

/-- A store waiting for its write response. -/
structure StorePlan where
  addr : UInt32
  data : Bytes
  nextPc : UInt32
  deriving DecidableEq

/-- The memory request an aligned load or store needs. -/
inductive MemoryPlan
  | load (plan : LoadPlan)
  | store (plan : StorePlan)
  deriving DecidableEq

/-- What a load or store does before memory is involved. -/
inductive MemoryPrep
  | request (plan : MemoryPlan)
  | trap (trap : PendingTrap)
  deriving DecidableEq

def loadShape : LoadOp → MemWidth × LoadExtension
  | .b => (.byte, .signed)
  | .bu => (.byte, .unsigned)
  | .h => (.half, .signed)
  | .hu => (.half, .unsigned)
  | .w => (.word, .signed)

def storeWidth : StoreOp → MemWidth
  | .b => .byte
  | .h => .half
  | .w => .word

/-- The plan of an aligned access; a misaligned one traps, and no request is made. -/
def align (addr : UInt32) (width : MemWidth) (misaligned : TrapCause) (plan : MemoryPlan) :
    MemoryPrep :=
  if addr &&& (width.bytes - 1) ≠ 0 then .trap { cause := misaligned, tval := addr }
  else .request plan

/-- Prepares a load or store; there is nothing to prepare for another instruction. -/
def prepareMemory (instr : Instr) (pc rs1 rs2 : UInt32) : Option MemoryPrep :=
  let nextPc := pc + 4
  match instr with
  | .load op rd _ offset =>
    let addr := rs1 + offset.toUInt32
    let (width, extension) := loadShape op
    some (align addr width .loadAddressMisaligned (.load { rd, addr, width, extension, nextPc }))
  | .store op _ _ offset =>
    let addr := rs1 + offset.toUInt32
    let width := storeWidth op
    some (align addr width .storeAddressMisaligned
      (.store { addr, data := (u32Bytes rs2).take width.bytes.toNat, nextPc }))
  | _ => none

/-! ## Completion -/

/-- A memory response that does not fit the request it answers. -/
inductive MemoryCompletionError
  | dataLength (expected : UInt32) (actual : ℕ)
  | responseKind
  deriving DecidableEq

/-- The value a load writes, if the data has the length of its width. -/
def loadValue (width : MemWidth) (extension : LoadExtension) (data : Bytes) : Option UInt32 :=
  match width, extension, data with
  | .byte, .signed, [b] => some b.toInt8.toInt32.toUInt32
  | .byte, .unsigned, [b] => some b.toUInt32
  | .half, .signed, [b0, b1] => some (u16OfBytes b0 b1).toInt16.toInt32.toUInt32
  | .half, .unsigned, [b0, b1] => some (u16OfBytes b0 b1).toUInt32
  | .word, _, [b0, b1, b2, b3] => some (u32OfBytes b0 b1 b2 b3)
  | _, _, _ => none

/-- Completes a load with its read outcome. -/
def completeLoad (plan : LoadPlan) (outcome : ReadOutcome) :
    Except MemoryCompletionError ExecOutcome :=
  match outcome with
  | .fault .accessFault => .ok (.trap { cause := .loadAccessFault, tval := plan.addr })
  | .data data =>
    match loadValue plan.width plan.extension data with
    | some value =>
      .ok (.effect { regWrite := some { rd := plan.rd, value }, nextPc := plan.nextPc })
    | none => .error (.dataLength plan.width.bytes data.length)

/-- Completes a store with its write outcome. -/
def completeStore (plan : StorePlan) (outcome : WriteOutcome) : ExecOutcome :=
  match outcome with
  | .done => .effect { regWrite := none, nextPc := plan.nextPc }
  | .fault .accessFault => .trap { cause := .storeAccessFault, tval := plan.addr }

/-- Completes a planned load or store with the message that answers it. -/
def completeMemory (plan : MemoryPlan) (response : MemV1.MemMsg) :
    Except MemoryCompletionError ExecOutcome :=
  match plan, response with
  | .load plan, .readResp _ outcome => completeLoad plan outcome
  | .store plan, .writeResp _ outcome => .ok (completeStore plan outcome)
  | _, _ => .error .responseKind

end SystemScope.Rv32i
