import SystemScope.Contracts.SnapshotData
import SystemScope.Rv32i.Cpu

/-!
# Snapshots of the CPU

The snapshot half of `components/rv32i/src/cpu.rs`.  A snapshot holds the configuration, the
architectural state and the execution state; pending plans are not stored but computed again from
the raw instruction, and a restore checks everything it reads before it replaces anything.

The byte-level readers and writers are those of the contracts crate (`SnapshotFields`).
-/

namespace SystemScope.Rv32i

open SnapshotFields

/-- A step of a restore: it reads bytes, or refuses the snapshot. -/
abbrev Restore (α : Type) := Parser UInt8 RestoreError α

namespace Restore

/-- Reads a field; `?` turns what the reader refuses into a refusal of the snapshot. -/
def get {α : Type} (field : SnapshotField α) : Restore α := Parser.mapError .decode field.read

def invalid {α : Type} (what : String) : Restore α := throw (.invalidState what)

def okOr {α : Type} (x : Option α) (what : String) : Restore α :=
  match x with
  | some x => return x
  | none => invalid what

def invalidTag {α : Type} (what : String) (tag : UInt8) : Restore α :=
  throw (.decode (.invalidTag what tag))

/-- Reads a tag, then the variant it names. -/
def tagged [SnapshotFields] {α : Type} (what : String) (variants : List (UInt8 × Restore α)) :
    Restore α := do
  let tag ← get u8
  match variants.lookup tag with
  | some read => read
  | none => invalidTag what tag

/-- Reads a code of a table. -/
def coded [SnapshotFields] {α : Type} (what : String) (table : List α) : Restore α := do
  let code ← get u8
  match table[code.toNat]? with
  | some x => return x
  | none => invalidTag what code

/-- A CSR flag. -/
def flag [SnapshotFields] : Restore Bool :=
  Parser.mapError (fun _ => .invalidState "rv32 cpu: a CSR flag is not 0 or 1") bool.read

end Restore

open Restore

/-! ## Tables -/

/-- Snapshot codes for trap causes in schemas 1 and 2. -/
def causeTable : List TrapCause :=
  [.instructionAddressMisaligned, .instructionAccessFault, .illegalInstruction, .breakpoint,
    .environmentCall, .loadAddressMisaligned, .loadAccessFault, .storeAddressMisaligned,
    .storeAccessFault]

/-- Snapshot codes for trap causes in schema 3. -/
def causeTableM3 : List TrapCause :=
  [.instructionAddressMisaligned, .instructionAccessFault, .illegalInstruction, .breakpoint,
    .environmentCall, .loadAddressMisaligned, .loadAccessFault, .storeAddressMisaligned,
    .storeAccessFault, .environmentCallFromU, .environmentCallFromS, .instructionPageFault,
    .loadPageFault, .storePageFault]

/-- The snapshot cause codes of a profile's schema. -/
def causes : Rv32iProfile → List TrapCause
  | .m1 | .m2 => causeTable
  | .m3 => causeTableM3

/-- Snapshot codes for CSR operations. -/
def csrOps : List CsrOp := [.write, .set, .clear]

section

variable [SnapshotFields]

/-! ## Writing -/

def writeConfig (config : Rv32iConfig) : Bytes :=
  u32.write config.clock ++ u32.write config.entry ++ u64.write config.maxInstructions

/-- The optional physical address of schema 3. -/
def writePa : Option UInt64 → Bytes
  | none => u8.write 0
  | some pa => u8.write 1 ++ u64.write pa

def writeWalk (walk : Walk) : Bytes :=
  (match walk.purpose with
    | .fetch => u8.write 0
    | .data insn _ => u8.write 1 ++ u32.write insn) ++
    u8.write walk.level ++ u32.write walk.table

def writeCause (cause : TrapCause) : Bytes := u8.write (UInt8.ofNat (causeTableM3.idxOf cause))

def writeOutcome : Outcome → Bytes
  | .exec (.effect e) =>
    u8.write 0 ++
      (match e.regWrite with
        | none => u8.write 0
        | some w => u8.write 1 ++ u8.write w.rd.index ++ u32.write w.value) ++
      u32.write e.nextPc
  | .exec (.trap t) => u8.write 1 ++ writeCause t.cause ++ u32.write t.tval
  | .csr op =>
    u8.write 2 ++ u16.write op.csr ++ u8.write (UInt8.ofNat (csrOps.idxOf op.op)) ++
      bool.write op.write ++ u32.write op.operand ++ u8.write op.rd.index ++ u32.write op.nextPc
  | .mret => u8.write 3
  | .sret => u8.write 4

/-- The execution state.  Schemas 1 and 2 never hold a physical address. -/
def writeState (profile : Rv32iProfile) (state : State) : Bytes :=
  let writePa (pa : Option UInt64) : Bytes := if profile = .m3 then writePa pa else []
  match state with
  | .fetchIssue pa => u8.write 0 ++ writePa pa
  | .fetchWait txn pa => u8.write 1 ++ u64.write txn ++ writePa pa
  | .memIssue insn _ pa => u8.write 2 ++ u32.write insn ++ writePa pa
  | .memWait txn insn _ pa => u8.write 3 ++ u64.write txn ++ u32.write insn ++ writePa pa
  | .walkIssue walk => u8.write 6 ++ writeWalk walk
  | .walkWait txn walk => u8.write 7 ++ u64.write txn ++ writeWalk walk
  | .commitPending insn outcome pa =>
    u8.write 4 ++
      (match insn with
        | none => u8.write 0
        | some insn => u8.write 1 ++ u32.write insn) ++
      writeOutcome outcome ++ writePa pa
  | .halted (.trap trap) =>
    u8.write 5 ++ u8.write 0 ++ writeCause trap.cause ++ u32.write trap.pc ++ u32.write trap.tval
  | .halted .instructionLimit => u8.write 5 ++ u8.write 1

def writeCsrs (c : CsrFile) : Bytes :=
  bool.write c.mie ++ bool.write c.mpie ++ bool.write c.meie ++ u32.write c.mtvec ++
    u32.write c.mscratch ++ u32.write c.mepc ++ u32.write c.mcause ++ u32.write c.mtval ++
    bool.write c.irqLevel

def writeM3 (m : M3State) : Bytes :=
  u8.write m.privilege.bits ++ bool.write m.sie ++ bool.write m.spie ++ u8.write m.spp.bits ++
    u8.write m.mpp.bits ++ bool.write m.sum ++ bool.write m.mxr ++ u32.write m.medeleg ++
    u32.write m.stvec ++ u32.write m.sscratch ++ u32.write m.sepc ++ u32.write m.scause ++
    u32.write m.stval ++ u32.write m.satp

def Rv32iCpu.snapshotSchemaVersion (c : Rv32iCpu) : UInt32 :=
  match c.config.profile with
  | .m1 => 1
  | .m2 => 2
  | .m3 => 3

def Rv32iCpu.snapshot (c : Rv32iCpu) : Bytes :=
  writeConfig c.config ++ u32.write c.pc ++
    storedRegisters.flatMap (fun reg => u32.write (c.regs.read reg)) ++
    u64.write c.instret ++ u64.write c.nextTxn ++ writeState c.config.profile c.state ++
    (if c.config.profile ≠ .m1 then writeCsrs c.csrs else []) ++
    (if c.config.profile = .m3 then writeM3 c.m3 else [])

/-! ## Reading -/

def readRegisters : Restore RegisterFile :=
  storedRegisters.foldlM
    (fun regs reg => do
      let value ← get u32
      return regs.write reg value)
    RegisterFile.new

def readPa : Restore (Option UInt64) :=
  tagged "rv32 cpu physical address" [(0, return none), (1, return some (← get u64))]

def readCause (profile : Rv32iProfile) : Restore TrapCause :=
  coded "rv32 trap cause" (causes profile)

def readRegister : Restore Reg := do
  let index ← get u8
  match Reg.new index with
  | some reg => return reg
  | none => invalidTag "rv32 register" index

def readRegWrite : Restore (Option RegWrite) :=
  tagged "rv32 register write"
    [(0, return none),
      (1, do
        let rd ← readRegister
        let value ← get u32
        return some { rd, value })]

def readCsrOp : Restore CsrOp := coded "rv32 CSR operation" csrOps

def readPendingCsr : Restore PendingCsr := do
  let csr ← get u16
  let op ← readCsrOp
  let write ← get bool
  let operand ← get u32
  let rd ← readRegister
  let nextPc ← get u32
  return { csr, op, write, operand, rd, nextPc }

/-- Tags 2 and 3 exist only in schemas 2 and 3, tag 4 only in schema 3. -/
def readOutcome (profile : Rv32iProfile) : Restore Outcome :=
  tagged "rv32 outcome" <|
    [(0, do
        let regWrite ← readRegWrite
        let nextPc ← get u32
        return .exec (.effect { regWrite, nextPc })),
      (1, do
        let cause ← readCause profile
        let tval ← get u32
        return .exec (.trap { cause, tval }))] ++
      (if profile ≠ .m1 then [(2, return .csr (← readPendingCsr)), (3, return .mret)] else []) ++
      (if profile = .m3 then [(4, return .sret)] else [])

/-- The instruction of a pending outcome. -/
def readInsn : Restore (Option UInt32) :=
  tagged "rv32 cpu instruction" [(0, return none), (1, return some (← get u32))]

/-- A trap as it is stored. -/
def readTrap (profile : Rv32iProfile) : Restore RvTrap := do
  let cause ← readCause profile
  let pc ← get u32
  let tval ← get u32
  return { cause, pc, tval }

end

/-! ## Checking -/

/-- A fault of an access that restore accepts. -/
def faultFits (translates : Bool) (access : Access) (tval : UInt32) (t : PendingTrap) : Bool :=
  t = { cause := access.accessFault, tval } ||
    (translates && t = { cause := access.pageFault, tval })

/-- Whether an outcome can be the result of an instruction: exactly the pure result when memory is
not involved, and a retirement or a fault of the access when it is. -/
def consistent (isa : Isa) (translates : Bool) (insn : Option UInt32) (outcome : Outcome)
    (pc : UInt32) (regs : RegisterFile) : Bool :=
  match insn with
  | none =>
    match outcome with
    | .exec (.trap t) => faultFits translates .fetch pc t
    | _ => false
  | some word =>
    match step isa word pc regs with
    | .done expected => expected = outcome
    | .memory plan =>
      match plan, outcome with
      | .load load, .exec (.effect e) =>
        e.nextPc = load.nextPc && e.regWrite.any fun w => w.rd = load.rd
      | .load load, .exec (.trap t) => faultFits translates .load load.addr t
      | .store store, .exec (.effect e) => e = { regWrite := none, nextPc := store.nextPc }
      | .store store, .exec (.trap t) => faultFits translates .store store.addr t
      | _, _ => false

/-- With one request at a time, the outstanding one is always the latest issued. -/
def outstanding (nextTxn txn : UInt64) : Restore TxnId :=
  if nextTxn ≠ 0 ∧ nextTxn - 1 = txn then return txn
  else invalid "rv32 cpu: outstanding txn is not the latest issued"

/-- The plan of a pending load or store, computed again. -/
def memoryPlan (isa : Isa) (pc : UInt32) (regs : RegisterFile) (insn : UInt32) :
    Restore MemoryPlan :=
  match step isa insn pc regs with
  | .memory plan => return plan
  | .done _ => invalid "rv32 cpu: pending memory instruction is not an aligned load or store"

section

variable [SnapshotFields]

/-- The state of schemas 1 and 2, checked against the instruction it belongs to. -/
def Rv32iCpu.readState (c : Rv32iCpu) (pc : UInt32) (regs : RegisterFile) (nextTxn : UInt64) :
    Restore State :=
  let profile := c.config.profile
  tagged "rv32 cpu state"
    [(0, return .fetchIssue none),
      (1, do
        let txn ← outstanding nextTxn (← get u64)
        return .fetchWait txn none),
      (2, do
        let insn ← get u32
        let plan ← memoryPlan c.isa pc regs insn
        return .memIssue insn plan none),
      (3, do
        let txn ← outstanding nextTxn (← get u64)
        let insn ← get u32
        let plan ← memoryPlan c.isa pc regs insn
        return .memWait txn insn plan none),
      (4, do
        let insn ← readInsn
        let outcome ← readOutcome profile
        if !consistent c.isa false insn outcome pc regs then
          invalid "rv32 cpu: pending outcome does not match its instruction"
        else return .commitPending insn outcome none),
      (5, tagged "rv32 cpu halt"
        [(0, do
            let trap ← readTrap profile
            if trap.pc ≠ pc then invalid "rv32 cpu: trap pc is not the architectural pc"
            else return .halted (.trap trap)),
          (1, return .halted .instructionLimit)])]

/-- Schema 2's CSR block, checked. -/
def readCsrs : Restore CsrFile := do
  let mie ← flag
  let mpie ← flag
  let meie ← flag
  let mtvec ← get u32
  if mtvec &&& 0b11 ≠ 0 then invalid "rv32 cpu: mtvec MODE is not 0" else
  let mscratch ← get u32
  let mepc ← get u32
  if mepc &&& 0b11 ≠ 0 then invalid "rv32 cpu: misaligned mepc" else
  let mcause ← get u32
  let mtval ← get u32
  let irqLevel ← flag
  return { mie, mpie, meie, mtvec, mscratch, mepc, mcause, mtval, irqLevel }

/-- The CSRs of schemas 1 and 2; schema 1 has none. -/
def readCsrBlock (profile : Rv32iProfile) : Restore CsrFile :=
  if profile = .m1 then return .new else readCsrs

end

/-- Whether `instret` goes with a state: the limit is reached exactly in its halt. -/
def consistentCount (limit instret : UInt64) : State → Bool
  | .halted .instructionLimit => instret = limit
  | _ => instret < limit

/-! ## Schema 3 -/

/-- A walk as schema 3 stores it. -/
structure WalkRecord where
  /-- The instruction of a load or store; missing for a fetch. -/
  data : Option UInt32
  level : UInt8
  table : UInt32

/-- A schema 3 state record, decoded but not yet checked. -/
inductive StateRecord
  | fetchIssue (pa : Option UInt64)
  | fetchWait (txn : UInt64) (pa : Option UInt64)
  | memIssue (insn : UInt32) (pa : Option UInt64)
  | memWait (txn : UInt64) (insn : UInt32) (pa : Option UInt64)
  | walkIssue (walk : WalkRecord)
  | walkWait (txn : UInt64) (walk : WalkRecord)
  | commitPending (insn : Option UInt32) (outcome : Outcome) (pa : Option UInt64)
  | trap (trap : RvTrap)
  | instructionLimit

section

variable [SnapshotFields]

def readWalk : Restore WalkRecord := do
  let data ← tagged "rv32 cpu walk purpose" [(0, return none), (1, return some (← get u32))]
  let level ← get u8
  let table ← get u32
  return { data, level, table }

/-- Decodes a schema 3 state record, checking only its tags. -/
def decodeStateM3 : Restore StateRecord :=
  tagged "rv32 cpu state"
    [(0, return .fetchIssue (← readPa)),
      (1, return .fetchWait (← get u64) (← readPa)),
      (2, return .memIssue (← get u32) (← readPa)),
      (3, return .memWait (← get u64) (← get u32) (← readPa)),
      (4, return .commitPending (← readInsn) (← readOutcome .m3) (← readPa)),
      (5, tagged "rv32 cpu halt"
        [(0, return .trap (← readTrap .m3)), (1, return .instructionLimit)]),
      (6, return .walkIssue (← readWalk)),
      (7, return .walkWait (← get u64) (← readWalk))]

/-- The `M3` block of schema 3, as stored: modes not yet decoded. -/
structure M3Record where
  mode : UInt8
  sie : Bool
  spie : Bool
  spp : UInt8
  mpp : UInt8
  sum : Bool
  mxr : Bool
  medeleg : UInt32
  stvec : UInt32
  sscratch : UInt32
  sepc : UInt32
  scause : UInt32
  stval : UInt32
  satp : UInt32

def readM3Record : Restore M3Record :=
  return {
    mode := ← get u8
    sie := ← flag
    spie := ← flag
    spp := ← get u8
    mpp := ← get u8
    sum := ← flag
    mxr := ← flag
    medeleg := ← get u32
    stvec := ← get u32
    sscratch := ← get u32
    sepc := ← get u32
    scause := ← get u32
    stval := ← get u32
    satp := ← get u32 }

/-- The CSR block, unchecked. -/
def decodeCsrs : Restore CsrFile :=
  return {
    mie := ← flag
    mpie := ← flag
    meie := ← flag
    mtvec := ← get u32
    mscratch := ← get u32
    mepc := ← get u32
    mcause := ← get u32
    mtval := ← get u32
    irqLevel := ← flag }

end

/-- Whether a cause is a page fault, which only a walk raises. -/
def pageFault : TrapCause → Bool
  | .instructionPageFault | .loadPageFault | .storePageFault => true
  | _ => false

/-- The translated address of an access to `va`: present exactly when translating. -/
def translated (translates : Bool) (pa : Option UInt64) (va : UInt32) : Restore (Option UInt64) :=
  match translates, pa with
  | false, none => return none
  | false, some _ => invalid "rv32 cpu: physical address while translation is off"
  | true, none => invalid "rv32 cpu: no physical address while translation is on"
  | true, some pa =>
    if pa >>> paBits ≠ 0 then invalid "rv32 cpu: physical address wider than 34 bits"
    else if pa &&& 0xFFF ≠ (va &&& 0xFFF).toUInt64 then
      invalid "rv32 cpu: physical address offset is not the virtual address's"
    else return some pa

/-- What a walk is for. -/
def validatePurpose (m3 : M3State) (pc : UInt32) (regs : RegisterFile) :
    Option UInt32 → Restore Purpose
  | none => return .fetch
  | some insn => return .data insn (← memoryPlan (.m3 m3.privilege) pc regs insn)

/-- A walk, checked. -/
def validateWalk (m3 : M3State) (pc : UInt32) (regs : RegisterFile) (record : WalkRecord) :
    Restore Walk :=
  if !m3.translates then invalid "rv32 cpu: walk while translation is off"
  else if record.level > 1 then invalid "rv32 cpu: walk level above 1"
  else if record.table &&& ~~~satpPpn ≠ 0 then invalid "rv32 cpu: walk table wider than a PPN"
  else if record.level = 1 ∧ record.table ≠ m3.root then
    invalid "rv32 cpu: level-1 walk table is not satp.PPN"
  else do
    let purpose ← validatePurpose m3 pc regs record.data
    return { purpose, level := record.level, table := record.table }

/-- The plan of a load or store that retires with an outcome. -/
def retiringAccess (isa : Isa) (pc : UInt32) (regs : RegisterFile) (insn : Option UInt32)
    (outcome : Outcome) : Option MemoryPlan :=
  match insn.map fun word => step isa word pc regs, outcome with
  | some (.memory plan), .exec (.effect _) => some plan
  | _, _ => none

/-- The physical address of a pending outcome: only an access that retires has one. -/
def heldPa (translates : Bool) (access : Option MemoryPlan) (pa : Option UInt64) :
    Restore (Option UInt64) :=
  match access with
  | some plan => translated translates pa (planAddr plan)
  | none =>
    if pa.isSome then invalid "rv32 cpu: physical address on an outcome that is not an access"
    else return none

/-- The `ECALL` cause of a mode. -/
def ecallOf : Privilege → TrapCause
  | .user => .environmentCallFromU
  | .supervisor => .environmentCallFromS
  | .machine => .environmentCall

/-- Whether a cause is an `ECALL`'s. -/
def isEcall : TrapCause → Bool
  | .environmentCallFromU | .environmentCallFromS | .environmentCall => true
  | _ => false

/-- Checks a decoded schema 3 state record against everything else, and builds the state. -/
def validateStateM3 (record : StateRecord) (m3 : M3State) (pc : UInt32) (regs : RegisterFile)
    (nextTxn : UInt64) : Restore State :=
  let isa := Isa.m3 m3.privilege
  match record with
  | .fetchIssue pa => return .fetchIssue (← translated m3.translates pa pc)
  | .fetchWait txn pa =>
    return .fetchWait (← outstanding nextTxn txn) (← translated m3.translates pa pc)
  | .memIssue insn pa => do
    let plan ← memoryPlan isa pc regs insn
    let pa ← translated m3.translates pa (planAddr plan)
    return .memIssue insn plan pa
  | .memWait txn insn pa => do
    let plan ← memoryPlan isa pc regs insn
    let txn ← outstanding nextTxn txn
    let pa ← translated m3.translates pa (planAddr plan)
    return .memWait txn insn plan pa
  | .walkIssue record => return .walkIssue (← validateWalk m3 pc regs record)
  | .walkWait txn record => do
    let txn ← outstanding nextTxn txn
    return .walkWait txn (← validateWalk m3 pc regs record)
  | .commitPending insn outcome pa =>
    if !consistent isa m3.translates insn outcome pc regs then
      invalid "rv32 cpu: pending outcome does not match its instruction"
    else do
      let pa ← heldPa m3.translates (retiringAccess isa pc regs insn outcome) pa
      return .commitPending insn outcome pa
  | .trap trap =>
    if pageFault trap.cause && !m3.translates then
      invalid "rv32 cpu: page fault while translation is off"
    else if trap.pc ≠ pc then invalid "rv32 cpu: trap pc is not the architectural pc"
    else if m3.delegates trap.cause then invalid "rv32 cpu: halted on a delegated exception"
    else if isEcall trap.cause && trap.cause ≠ ecallOf m3.privilege then
      invalid "rv32 cpu: ecall cause does not match priv"
    else return .halted (.trap trap)
  | .instructionLimit => return .halted .instructionLimit

/-- Decodes the modes of the `M3` block and checks its CSRs. -/
def validateM3 (r : M3Record) : Restore M3State := do
  let privilege ← okOr (Privilege.fromBits r.mode) "rv32 cpu: priv is not U, S, or M"
  let spp ← okOr (Spp.fromBits r.spp) "rv32 cpu: SPP is not U or S"
  let mpp ← okOr (Privilege.fromBits r.mpp) "rv32 cpu: MPP is not U, S, or M"
  if r.medeleg &&& ~~~medelegMask ≠ 0 then invalid "rv32 cpu: medeleg has a bit outside its mask"
  else if r.stvec &&& 0b11 ≠ 0 then invalid "rv32 cpu: stvec MODE is not 0"
  else if r.sepc &&& 0b11 ≠ 0 then invalid "rv32 cpu: misaligned sepc"
  else if !satpReachable r.satp then
    invalid "rv32 cpu: satp is not a value a write can produce"
  else return {
    privilege, spp, mpp
    sie := r.sie
    spie := r.spie
    sum := r.sum
    mxr := r.mxr
    medeleg := r.medeleg
    stvec := r.stvec
    sscratch := r.sscratch
    sepc := r.sepc
    scause := r.scause
    stval := r.stval
    satp := r.satp }

namespace Rv32iCpu

variable [SnapshotFields] (c : Rv32iCpu)

/-- Restores a schema 3 snapshot: decodes every field, validates, then constructs. -/
def restoreM3 : Restore Rv32iCpu := do
  -- 1. Decode.
  let config ← Parser.mapError .decode (raw (writeConfig c.config).length)
  let pc ← get u32
  let regs ← readRegisters
  let instret ← get u64
  let nextTxn ← get u64
  let record ← decodeStateM3
  let csrs ← decodeCsrs
  let m3Record ← readM3Record
  -- 2. Validate.
  if config ≠ writeConfig c.config then
    invalid "rv32 cpu: snapshot was taken with a different configuration"
  else if pc % 4 ≠ 0 then invalid "rv32 cpu: misaligned pc"
  else if csrs.mtvec &&& 0b11 ≠ 0 then invalid "rv32 cpu: mtvec MODE is not 0"
  else if csrs.mepc &&& 0b11 ≠ 0 then invalid "rv32 cpu: misaligned mepc"
  else do
    let m3 ← validateM3 m3Record
    let state ← validateStateM3 record m3 pc regs nextTxn
    if !consistentCount c.config.maxInstructions instret state then
      invalid "rv32 cpu: instret does not match the instruction limit"
    -- 3. Construct.
    else return { c with pc, regs, instret, nextTxn, state, csrs, m3 }

/-- Restores a schema 1 or 2 snapshot. -/
def restoreBase : Restore Rv32iCpu := do
  let config ← Parser.mapError .decode (raw (writeConfig c.config).length)
  if config ≠ writeConfig c.config then
    invalid "rv32 cpu: snapshot was taken with a different configuration"
  else
    let pc ← get u32
    if pc % 4 ≠ 0 then invalid "rv32 cpu: misaligned pc"
    else
      let regs ← readRegisters
      let instret ← get u64
      let nextTxn ← get u64
      let state ← c.readState pc regs nextTxn
      if !consistentCount c.config.maxInstructions instret state then
        invalid "rv32 cpu: instret does not match the instruction limit"
      else
        let csrs ← readCsrBlock c.config.profile
        return { c with pc, regs, instret, nextTxn, state, csrs }

/-- Restores the CPU, or leaves it as it is: the bytes left over, or an error. -/
def restore (bs : Bytes) (schema : UInt32) : Rv32iCpu × Except RestoreError Bytes :=
  if schema ≠ c.snapshotSchemaVersion then
    (c, .error (.invalidState "rv32 cpu: snapshot schema does not match the CPU profile"))
  else
    match (if c.config.profile = .m3 then c.restoreM3 else c.restoreBase) bs with
    | .ok (restored, rest) => (restored, .ok rest)
    | .error e => (c, .error e)

end Rv32iCpu

instance [SnapshotFields] : Component Rv32iCpu where
  typeName _ := "rv32i.cpu"
  ports := Rv32iCpu.ports
  init := Rv32iCpu.init
  handleEvent := Rv32iCpu.handleEvent
  snapshotSchemaVersion := Rv32iCpu.snapshotSchemaVersion
  snapshot := Rv32iCpu.snapshot
  restore := Rv32iCpu.restore
  inspect := Rv32iCpu.inspect

end SystemScope.Rv32i
