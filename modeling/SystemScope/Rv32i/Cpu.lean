import SystemScope.Contracts.Interface
import SystemScope.Rv32i.Decode
import SystemScope.Rv32i.Memory
import SystemScope.Rv32i.Sv32

/-!
# The CPU

`components/rv32i/src/cpu.rs`: one instruction at a time, fetched and executed through `mem.v1`
over wakes and responses.  In every state but `halted` the CPU waits for exactly one event, a wake
it scheduled or the response to its one request, and only the `commit` wake changes architectural
state.

The handlers are trees of context calls (`Handler`).  A call that fails ends the handler with its
error and leaves the CPU as it was at that point.
-/

namespace SystemScope.Rv32i

open MemV1

/-- The `mem` port. -/
def port : PortId := 0

/-- The `irq` port of the `M2` and `M3` profiles. -/
def irqPort : PortId := 1

/-! ## Wake tokens and trace kinds -/

namespace Token

/-- Sends the next fetch. -/
def fetch : UInt64 := 0
/-- Sends the pending load or store. -/
def memory : UInt64 := 1
/-- Commits the pending instruction. -/
def commit : UInt64 := 2
/-- Sends the next PTE read of a walk. -/
def walk : UInt64 := 3

end Token

def commitKind : String := "rv32.commit"
def trapKind : String := "rv32.trap"
def haltKind : String := "rv32.halt"
def interruptKind : String := "rv32.interrupt"
def exceptionKind : String := "rv32.exception"

/-! ## Configuration and state -/

/-- Which CPU this is. -/
inductive Rv32iProfile
  | m1
  | m2
  | m3
  deriving DecidableEq, Repr

/-- Construction parameters. -/
structure Rv32iConfig where
  clock : ClockDomainId
  /-- The first `pc`. -/
  entry : UInt32
  /-- The CPU halts right after this many instructions retire. -/
  maxInstructions : UInt64
  nonzero : maxInstructions ≠ 0
  profile : Rv32iProfile
  deriving DecidableEq

/-- Five instructions are a limit. -/
lemma Rv32iConfig.five_ne_zero : (5 : UInt64) ≠ 0 := by decide

/-- A configuration the CPU cannot start from. -/
inductive CpuConfigError
  | misalignedEntry (entry : UInt32)
  deriving DecidableEq, Repr

/-- A trap as the CPU records it. -/
structure RvTrap where
  cause : TrapCause
  pc : UInt32
  tval : UInt32
  deriving DecidableEq

/-- Why the CPU stopped. -/
inductive Halt
  | trap (trap : RvTrap)
  | instructionLimit
  deriving DecidableEq

/-- A CSR instruction executed in `Complete`, applied in `Commit`. -/
structure PendingCsr where
  csr : UInt16
  op : CsrOp
  /-- Whether the CSR is written. -/
  write : Bool
  /-- The `rs1` value, or the zero-extended `uimm`. -/
  operand : UInt32
  /-- Gets the CSR's old value. -/
  rd : Reg
  nextPc : UInt32
  deriving DecidableEq

/-- What is to be committed. -/
inductive Outcome
  | exec (outcome : ExecOutcome)
  | csr (op : PendingCsr)
  | mret
  | sret
  deriving DecidableEq

/-- What a walk translates. -/
inductive Purpose
  | fetch
  | data (insn : UInt32) (plan : MemoryPlan)
  deriving DecidableEq

/-- The access a walk is for. -/
def Purpose.access : Purpose → Access
  | .fetch => .fetch
  | .data _ (.load _) => .load
  | .data _ (.store _) => .store

/-- A walk in progress: the next PTE is at `level` in the table with PPN `table`. -/
structure Walk where
  purpose : Purpose
  level : UInt8
  table : UInt32
  deriving DecidableEq

/-- Where the CPU is in its current instruction.  `pa` is the physical address of a completed
walk, if the access is translated. -/
inductive State
  | fetchIssue (pa : Option UInt64)
  | fetchWait (txn : TxnId) (pa : Option UInt64)
  | memIssue (insn : UInt32) (plan : MemoryPlan) (pa : Option UInt64)
  | memWait (txn : TxnId) (insn : UInt32) (plan : MemoryPlan) (pa : Option UInt64)
  | walkIssue (walk : Walk)
  | walkWait (txn : TxnId) (walk : Walk)
  /-- `insn` is missing only after a fetch that failed. -/
  | commitPending (insn : Option UInt32) (outcome : Outcome) (pa : Option UInt64)
  | halted (halt : Halt)
  deriving DecidableEq

def State.name : State → String
  | .fetchIssue _ => "fetch_issue"
  | .fetchWait .. => "fetch_wait"
  | .memIssue .. => "mem_issue"
  | .memWait .. => "mem_wait"
  | .walkIssue _ => "walk_issue"
  | .walkWait .. => "walk_wait"
  | .commitPending .. => "commit_pending"
  | .halted _ => "halted"

/-- The virtual address of a plan. -/
def planAddr : MemoryPlan → UInt32
  | .load plan => plan.addr
  | .store plan => plan.addr

/-! ## From a word to what it needs -/

/-- What a fetched word needs next. -/
inductive Step
  | done (outcome : Outcome)
  | memory (plan : MemoryPlan)
  deriving DecidableEq

/-- What decides how a word executes. -/
inductive Isa
  | m1
  | m2
  | m3 (mode : Privilege)
  deriving DecidableEq

/-- `IllegalInstruction` for a word. -/
def illegal (word : UInt32) : Outcome :=
  .exec (.trap { cause := .illegalInstruction, tval := word })

/-- A CSR instruction on a supported CSR, with its operand read now. -/
def csrOperation (op : CsrOp) (rd : Reg) (src : CsrSource) (csr : UInt16) (write : Bool)
    (pc : UInt32) (regs : RegisterFile) : PendingCsr where
  csr
  op
  write
  operand := match src with
    | .reg rs1 => regs.read rs1
    | .imm uimm => uimm.toUInt32
  rd
  nextPc := pc + 4

/-- The pending outcome of an `M2` privileged instruction. -/
def privileged (instr : PrivInstr) (word pc : UInt32) (regs : RegisterFile) : Outcome :=
  match instr with
  | .mret => .mret
  | .csr op rd src csr =>
    if !Csr.isSupported csr then illegal word
    else .csr (csrOperation op rd src csr instr.writes pc regs)

/-- The pending outcome of a privileged instruction in the `M3` profile, if the word is one. -/
def privilegedM3 (mode : Privilege) (word pc : UInt32) (regs : RegisterFile) : Option Outcome :=
  match decodePrivileged word with
  | some .mret => some (if mode = .machine then .mret else illegal word)
  | some (.csr op rd src csr) =>
    let writes := (PrivInstr.csr op rd src csr).writes
    if !Csr.isSupportedM3 csr || !accessible csr mode writes then some (illegal word)
    else some (.csr (csrOperation op rd src csr writes pc regs))
  | none =>
    (decodeSupervisor word).map fun instr =>
      if mode = .user then illegal word
      else match instr with
        | .sret => .sret
        -- There is no TLB.
        | .sfenceVma => .exec (.effect { regWrite := none, nextPc := pc + 4 })

/-- In the `M3` profile, `ECALL`'s cause names the mode it runs in. -/
def ecallCause (isa : Isa) (outcome : ExecOutcome) : ExecOutcome :=
  match isa, outcome with
  | .m3 mode, .trap ⟨.environmentCall, tval⟩ =>
    .trap
      { cause := match mode with
          | .user => .environmentCallFromU
          | .supervisor => .environmentCallFromS
          | .machine => .environmentCall
        tval }
  | _, outcome => outcome

/-- The source registers of an instruction; `x0` for a source it does not have. -/
def sources : Instr → Reg × Reg
  | .jalr _ rs1 _ => (rs1, .zero)
  | .load _ _ rs1 _ => (rs1, .zero)
  | .opImm _ _ rs1 _ => (rs1, .zero)
  | .shiftImm _ _ rs1 _ => (rs1, .zero)
  | .branch _ rs1 rs2 _ => (rs1, rs2)
  | .store _ rs1 rs2 _ => (rs1, rs2)
  | .op _ _ rs1 rs2 => (rs1, rs2)
  | .lui .. => (.zero, .zero)
  | .auipc .. => (.zero, .zero)
  | .jal .. => (.zero, .zero)
  | .fence => (.zero, .zero)
  | .ecall => (.zero, .zero)
  | .ebreak => (.zero, .zero)

/-- Executes an RV32I instruction through its family's function. -/
def family (isa : Isa) (instr : Instr) (pc a b : UInt32) : Option Step :=
  match instr with
  | .lui .. | .auipc .. | .opImm .. | .shiftImm .. | .op .. =>
    (executeAlu instr pc a b).map fun effect => .done (.exec (.effect effect))
  | .jal .. | .jalr .. | .branch .. =>
    (executeControl instr pc a b).map fun outcome => .done (.exec outcome)
  | .fence | .ecall | .ebreak =>
    (executeSystem instr pc).map fun outcome => .done (.exec (ecallCause isa outcome))
  | .load .. | .store .. =>
    (prepareMemory instr pc a b).map fun
      | .request plan => .memory plan
      | .trap trap => .done (.exec (.trap trap))

/-- Every variant is listed with its family. -/
lemma family_isSome (isa : Isa) (instr : Instr) (pc a b : UInt32) :
    (family isa instr pc a b).isSome = true := by
  cases instr with
  | branch op =>
    simp only [family, executeControl]
    split <;> rfl
  | _ => rfl

/-- Decodes and executes a word as an RV32I instruction. -/
def stepBase (isa : Isa) (word pc : UInt32) (regs : RegisterFile) : Step :=
  match decode word with
  | .error illegalWord =>
    .done (.exec (.trap { cause := .illegalInstruction, tval := illegalWord.word }))
  | .ok instr =>
    let (rs1, rs2) := sources instr
    (family isa instr pc (regs.read rs1) (regs.read rs2)).get (family_isSome ..)

/-- Decodes and executes a word at `pc`, through the pure layers only. -/
def step (isa : Isa) (word pc : UInt32) (regs : RegisterFile) : Step :=
  match isa with
  | .m1 => stepBase isa word pc regs
  | .m2 =>
    match decodePrivileged word with
    | some instr => .done (privileged instr word pc regs)
    | none => stepBase isa word pc regs
  | .m3 mode =>
    match privilegedM3 mode word pc regs with
    | some outcome => .done outcome
    | none => stepBase isa word pc regs

/-- The session fault for a response that does not fit its plan. -/
def completionFault : MemoryCompletionError → SimError
  | .dataLength .. => .componentFault "rv32 cpu: load data of the wrong length"
  | .responseKind => .componentFault "rv32 cpu: memory response of the wrong kind"

/-! ## The CPU -/

/-- `x1` to `x31`, in index order. -/
def storedRegisters : List Reg :=
  (List.range 31).filterMap fun i => Reg.new (UInt8.ofNat (i + 1))

lemma mem_storedRegisters {reg : Reg} : reg ∈ storedRegisters ↔ reg ≠ .zero := by
  unfold storedRegisters
  rw [List.mem_filterMap]
  constructor
  · rintro ⟨i, hi, hreg⟩ rfl
    have hindex := congrArg UInt8.toNat (Reg.new_eq_some.mp hreg)
    rw [List.mem_range] at hi
    rw [UInt8.toNat_ofNat_of_lt' (show i + 1 < 256 by omega)] at hindex
    cases hindex
  · intro hne
    obtain ⟨i, hi, hindex⟩ := RegisterFile.exists_stored hne
    refine ⟨i, List.mem_range.mpr hi, Reg.new_eq_some.mpr ?_⟩
    rw [← hindex, UInt8.ofNat_toNat]

lemma storedRegisters_nodup : storedRegisters.Nodup := by decide

/-- Inspect names of the CSRs of the `M2` profile. -/
def csrNames : List String :=
  ["mstatus", "mie", "mip", "mtvec", "mscratch", "mepc", "mcause", "mtval"]

/-- Inspect names of the CSRs the `M3` profile adds. -/
def csrNamesM3 : List String :=
  ["sstatus", "sie", "sip", "stvec", "sscratch", "sepc", "scause", "stval", "satp", "medeleg",
    "mideleg"]

/-- The RV32I CPU. -/
structure Rv32iCpu where
  config : Rv32iConfig
  pc : UInt32
  regs : RegisterFile
  instret : UInt64
  nextTxn : UInt64
  state : State
  /-- Always at reset in the `M1` profile, which cannot reach them. -/
  csrs : CsrFile
  /-- Always at reset in `M1` and `M2`, which cannot reach it. -/
  m3 : M3State
  deriving DecidableEq

namespace Rv32iCpu

/-- A CPU at reset. -/
def reset (config : Rv32iConfig) : Rv32iCpu where
  config
  pc := config.entry
  regs := .new
  instret := 0
  nextTxn := 0
  state := .fetchIssue none
  csrs := .new
  m3 := .new

/-- Builds a CPU, at reset. -/
def new (config : Rv32iConfig) : Except CpuConfigError Rv32iCpu :=
  if config.entry % 4 ≠ 0 then .error (.misalignedEntry config.entry) else .ok (reset config)

variable (c : Rv32iCpu)

/-- How the next word executes. -/
def isa : Isa :=
  match c.config.profile with
  | .m1 => .m1
  | .m2 => .m2
  | .m3 => .m3 c.m3.privilege

/-- Whether fetches, loads, and stores are translated now. -/
def translating : Bool := c.config.profile = .m3 && c.m3.translates

/-- The virtual address a walk translates. -/
def walkVa (walk : Walk) : UInt32 :=
  match walk.purpose with
  | .fetch => c.pc
  | .data _ plan => planAddr plan

/-- A cause's name in this profile's traces and inspect. -/
def causeName (cause : TrapCause) : String :=
  match c.config.profile with
  | .m1 | .m2 => cause.name
  | .m3 => cause.m3Name

/-- Reads a supported CSR under this profile's rules. -/
def readCsr (csr : UInt16) : Option UInt32 :=
  match c.config.profile with
  | .m1 | .m2 => c.csrs.read csr
  | .m3 => c.m3.read c.csrs csr

/-- Writes a supported CSR under this profile's rules. -/
def writeCsr (csr : UInt16) (value : UInt32) : Option Rv32iCpu :=
  match c.config.profile with
  | .m1 | .m2 => (c.csrs.write csr value).map fun csrs => { c with csrs }
  | .m3 => (c.m3.write c.csrs csr value).map fun (m3, csrs) => { c with m3, csrs }

/-- Why the CPU stopped, if it has. -/
def halt : Option Halt :=
  match c.state with
  | .halted halt => some halt
  | _ => none

/-! ## Handlers -/

/-- Faults the session. -/
def fault (what : String) : Handler Rv32iCpu := .done (.error (.componentFault what)) c

/-- Wakes `token` at the next cycle's `Request`. -/
def wakeNextCycle (token : UInt64) : Handler Rv32iCpu :=
  .wakeSelf (.cycles c.config.clock 1) .request token fun result => .done result c

/-- Goes on to the next fetch: straight to the bus, or through a walk from `satp`'s root. -/
def fetchNext : Handler Rv32iCpu :=
  if c.translating then
    { c with state := .walkIssue { purpose := .fetch, level := 1, table := c.m3.root } }
      |>.wakeNextCycle Token.walk
  else { c with state := .fetchIssue none } |>.wakeNextCycle Token.fetch

/-- The counter after one more request.  The `M1` one wraps; in the other profiles there is none
after the last. -/
def advanceTxn : Option UInt64 :=
  match c.config.profile with
  | .m1 => some (c.nextTxn + 1)
  | .m2 | .m3 => if c.nextTxn = UInt64.ofNat (2 ^ 64 - 1) then none else some (c.nextTxn + 1)

/-- Sends a request under the next `TxnId`, which is consumed only if the send succeeds, and goes
on to the state that waits for its response. -/
def send (msg : TxnId → MemV1.MemMsg) (waiting : TxnId → State) : Handler Rv32iCpu :=
  let txn := c.nextTxn
  match c.advanceTxn with
  | none => c.fault "rv32 cpu: TxnId space exhausted"
  | some next =>
    .send port (.memV1 (msg txn)) .now .request fun
      | .error e => .done (.error e) c
      | .ok () => .done (.ok ()) { c with nextTxn := next, state := waiting txn }

/-- The `rv32.commit` fields, computed before the effect is applied. -/
def commitFields (insn : UInt32) (effect : PendingEffect) (pa : Option UInt64) :
    List (String × Value) :=
  -- A write to x0 writes nothing, and is reported as no write.
  let write := effect.regWrite.filter fun w => w.rd ≠ .zero
  let rd : UInt8 := write.elim 0 fun w => w.rd.index
  let rdValue : UInt32 := write.elim 0 fun w => w.value
  let common : List (String × Value) :=
    [("pc", .u64 c.pc.toUInt64), ("insn", .u64 insn.toUInt64), ("rd", .u64 rd.toUInt64),
      ("rd_value", .u64 rdValue.toUInt64), ("next_pc", .u64 effect.nextPc.toUInt64)]
  let priv : List (String × Value) := match c.isa with
    | .m3 mode => [("priv", .u64 mode.bits.toUInt64)]
    | _ => []
  let paddr (addr : UInt32) : List (String × Value) := match c.isa with
    | .m3 _ => [("paddr", .u64 (pa.getD addr.toUInt64))]
    | _ => []
  let access : List (String × Value) := match step c.isa insn c.pc c.regs with
    | .memory (.load plan) => ("addr", .u64 plan.addr.toUInt64) :: paddr plan.addr
    | .memory (.store plan) =>
      let value : UInt64 := plan.data.reverse.foldl (fun v b => (v <<< 8) ||| b.toUInt64) 0
      ("addr", .u64 plan.addr.toUInt64) :: paddr plan.addr ++
        [("width", .u64 (UInt64.ofNat plan.data.length)), ("value", .u64 value)]
    | .done _ => []
  common ++ priv ++ access

/-- Applies a CSR instruction: what is left behind, and the `rv32.commit` fields. -/
def commitCsr (insn : UInt32) (op : PendingCsr) :
    Rv32iCpu × Except SimError (List (String × Value)) :=
  let unsupported : SimError :=
    .componentFault "rv32 cpu: pending CSR operation on an unsupported CSR"
  match c.readCsr op.csr with
  | none => (c, .error unsupported)
  | some old =>
    let effect : PendingEffect :=
      { regWrite := some { rd := op.rd, value := old }, nextPc := op.nextPc }
    let fields := c.commitFields insn effect none ++ [("csr", .u64 op.csr.toUInt64)]
    let finish (c : Rv32iCpu) : Rv32iCpu :=
      { c with regs := c.regs.write op.rd old, pc := op.nextPc }
    if op.write then
      match c.writeCsr op.csr (op.op.apply old op.operand) with
      | none => (c, .error unsupported)
      | some c =>
        match c.readCsr op.csr with
        | none => (c, .error unsupported)
        | some stored => (finish c, .ok (fields ++ [("csr_value", .u64 stored.toUInt64)]))
    else (finish c, .ok fields)

/-- `MRET`'s effects under this profile's rules. -/
def mret : Rv32iCpu :=
  match c.config.profile with
  | .m1 | .m2 =>
    let (pc, csrs) := c.csrs.mret
    { c with pc, csrs }
  | .m3 =>
    let (pc, m3, csrs) := c.m3.mret c.csrs
    { c with pc, m3, csrs }

/-- `SRET`'s effects. -/
def sret : Rv32iCpu :=
  let (pc, m3) := c.m3.sret
  { c with pc, m3 }

/-- The effects of a retiring instruction, up to `instret`: what is left behind, and the
`rv32.commit` fields.  They come from the state before the instruction. -/
def retire (insn : UInt32) (outcome : Outcome) (pa : Option UInt64) :
    Rv32iCpu × Except SimError (List (String × Value)) :=
  match outcome with
  | .exec (.effect effect) =>
    let regs := effect.regWrite.elim c.regs fun w => c.regs.write w.rd w.value
    ({ c with regs, pc := effect.nextPc }, .ok (c.commitFields insn effect pa))
  | .csr op => c.commitCsr insn op
  | .mret => (c.mret, .ok (c.commitFields insn { regWrite := none, nextPc := c.csrs.mepc } none))
  | .sret => (c.sret, .ok (c.commitFields insn { regWrite := none, nextPc := c.m3.sepc } none))
  -- `commit` handles traps first; the source has `unreachable!` here.
  | .exec (.trap _) => (c, .error (.componentFault "handled above"))

/-- Samples the interrupt: the entry, if it is taken, and the fields of its `rv32.interrupt`. -/
def sampleMei : Option (Rv32iCpu × List (String × Value)) :=
  let fields (csrs : CsrFile) (pc : UInt32) : List (String × Value) :=
    [("mepc", .u64 csrs.mepc.toUInt64), ("mcause", .u64 csrs.mcause.toUInt64),
      ("handler", .u64 pc.toUInt64)]
  match c.config.profile with
  | .m1 => none
  | .m2 =>
    if c.csrs.meiEligible then
      let (pc, csrs) := c.csrs.takeMei c.pc
      some ({ c with pc, csrs }, fields csrs pc)
    else none
  | .m3 =>
    if c.m3.meiEligible c.csrs then
      let «from» := c.m3.privilege
      let (pc, m3, csrs) := c.m3.takeMei c.csrs c.pc
      some ({ c with pc, m3, csrs }, fields csrs pc ++ [("from", .str «from».name)])
    else none

/-- Commits a trap: a delegated one is delivered to S, any other halts the CPU. -/
def commitTrap (insn : Option UInt32) (trap : PendingTrap) : Handler Rv32iCpu :=
  let delivered := if c.config.profile = .m3 then c.m3.takeException trap.cause c.pc trap.tval
    else none
  match delivered with
  | some (handler, m3) =>
    .trace exceptionKind
      [("pc", .u64 c.pc.toUInt64), ("insn", .u64 (insn.getD 0).toUInt64),
        ("cause", .str trap.cause.m3Name), ("tval", .u64 trap.tval.toUInt64),
        ("from", .str c.m3.privilege.name), ("to", .str m3.privilege.name)] <|
      { c with pc := handler, m3 }.fetchNext
  | none =>
    .trace trapKind
      [("pc", .u64 c.pc.toUInt64), ("insn", .u64 (insn.getD 0).toUInt64),
        ("cause", .str (c.causeName trap.cause)), ("tval", .u64 trap.tval.toUInt64)] <|
      .done (.ok ())
        { c with state := .halted (.trap { cause := trap.cause, pc := c.pc, tval := trap.tval }) }

/-- Counts a retirement and goes on: halts at the limit, or samples the interrupt and fetches. -/
def retired (fields : List (String × Value)) : Handler Rv32iCpu :=
  let c := { c with instret := c.instret + 1 }
  .trace commitKind fields <|
    if c.instret ≥ c.config.maxInstructions then
      .trace haltKind [("instret", .u64 c.instret)] <|
        .done (.ok ()) { c with state := .halted .instructionLimit }
    else
      match c.sampleMei with
      | some (c, fields) => .trace interruptKind fields c.fetchNext
      | none => c.fetchNext

/-- Applies the pending outcome: the only place architectural state changes. -/
def commit (insn : Option UInt32) (outcome : Outcome) (pa : Option UInt64) : Handler Rv32iCpu :=
  match outcome with
  | .exec (.trap trap) => c.commitTrap insn trap
  | outcome =>
    match insn with
    | none => c.fault "rv32 cpu: a retiring instruction has no instruction word"
    | some insn =>
      match c.retire insn outcome pa with
      | (c, .error e) => .done (.error e) c
      | (c, .ok fields) => c.retired fields

/-- The request of a plan. -/
def planRequest (plan : MemoryPlan) (addr : UInt64) (txn : TxnId) : MemV1.MemMsg :=
  match plan with
  | .load load => .readReq txn addr load.width.bytes
  | .store store => .writeReq txn addr store.data

def wake (token : UInt64) : Handler Rv32iCpu :=
  let mismatched := c.fault "rv32 cpu: wake does not match the execution state"
  match c.state with
  | .fetchIssue pa =>
    if token = Token.fetch then
      c.send (fun txn => .readReq txn (pa.getD c.pc.toUInt64) 4) fun txn => .fetchWait txn pa
    else mismatched
  | .memIssue insn plan pa =>
    if token = Token.memory then
      c.send (planRequest plan (pa.getD (planAddr plan).toUInt64)) fun txn =>
        .memWait txn insn plan pa
    else mismatched
  | .walkIssue walk =>
    if token = Token.walk then
      c.send (fun txn => .readReq txn (Sv32.pteAddress walk.table (c.walkVa walk) walk.level) 4)
        fun txn => .walkWait txn walk
    else mismatched
  | .commitPending insn outcome pa =>
    if token = Token.commit then c.commit insn outcome pa else mismatched
  | _ => mismatched

/-- Goes on to commit an outcome, in this tick. -/
def commitNext (insn : Option UInt32) (outcome : Outcome) (pa : Option UInt64) :
    Handler Rv32iCpu :=
  .wakeSelf .now .commit Token.commit fun result =>
    .done result { c with state := .commitPending insn outcome pa }

/-- Goes on to the access of an aligned load or store. -/
def accessNext (insn : UInt32) (plan : MemoryPlan) : Handler Rv32iCpu :=
  if c.translating then
    { c with state := .walkIssue { purpose := .data insn plan, level := 1, table := c.m3.root } }
      |>.wakeNextCycle Token.walk
  else { c with state := .memIssue insn plan none } |>.wakeNextCycle Token.memory

/-- Takes the response to a fetch. -/
def fetched (msg : MemV1.MemMsg) : Handler Rv32iCpu :=
  match msg with
  | .readResp _ (.data data) =>
    match wordOfBytes data with
    | none => c.fault "rv32 cpu: fetch returned other than 4 bytes"
    | some word =>
      match step c.isa word c.pc c.regs with
      | .done outcome => c.commitNext (some word) outcome none
      | .memory plan => c.accessNext word plan
  | .readResp _ (.fault .accessFault) =>
    c.commitNext none (.exec (.trap { cause := .instructionAccessFault, tval := c.pc })) none
  | _ => c.fault "rv32 cpu: write response to a fetch"

/-- Takes the response to a load or store. -/
def accessed (insn : UInt32) (plan : MemoryPlan) (pa : Option UInt64) (msg : MemV1.MemMsg) :
    Handler Rv32iCpu :=
  match completeMemory plan msg with
  | .error e => .done (.error (completionFault e)) c
  | .ok outcome =>
    -- Only a retirement keeps the physical address, for its commit record.
    c.commitNext (some insn) (.exec outcome) <|
      match outcome with
      | .effect _ => pa
      | .trap _ => none

/-- What a walk checks its leaf against. -/
def walkContext (walk : Walk) : Sv32.Context where
  privilege := c.m3.privilege
  sum := c.m3.sum
  mxr := c.m3.mxr
  access := walk.purpose.access

/-- Goes on from a PTE read, with nothing when the bus refused it: the next level, the translated
access, or a trap. -/
def walked (walk : Walk) (pte : Option UInt32) : Handler Rv32iCpu :=
  let va := c.walkVa walk
  let raise (fault : Sv32.Fault) : Handler Rv32iCpu :=
    let insn := match walk.purpose with
      | .fetch => none
      | .data insn _ => some insn
    c.commitNext insn (.exec (.trap { cause := fault.cause walk.purpose.access, tval := va })) none
  match pte.map (Sv32.step (c.walkContext walk) va walk.level) with
  | some (.next table) =>
    { c with state := .walkIssue { walk with level := walk.level - 1, table } }
      |>.wakeNextCycle Token.walk
  | some (.leaf pa) =>
    match walk.purpose with
    | .fetch => { c with state := .fetchIssue (some pa) } |>.wakeNextCycle Token.fetch
    | .data insn plan =>
      { c with state := .memIssue insn plan (some pa) } |>.wakeNextCycle Token.memory
  | some .pageFault => raise .page
  | none => raise .access

/-- Takes the response to a PTE read. -/
def walkResponse (walk : Walk) (msg : MemV1.MemMsg) : Handler Rv32iCpu :=
  match msg with
  | .readResp _ (.data data) =>
    match wordOfBytes data with
    | none => c.fault "rv32 cpu: PTE read returned other than 4 bytes"
    | some pte => c.walked walk (some pte)
  | .readResp _ (.fault .accessFault) => c.walked walk none
  | _ => c.fault "rv32 cpu: write response to a PTE read"

/-- Goes on only with the response that is outstanding, and only in `Complete`. -/
def expecting (txn expected : TxnId) (next : Handler Rv32iCpu) : Handler Rv32iCpu :=
  if txn ≠ expected then c.fault "rv32 cpu: response for a txn that is not outstanding"
  else .phase fun phase =>
    if phase ≠ .complete then c.fault "rv32 cpu: response arrived outside COMPLETE"
    else next

def response (msg : MemV1.MemMsg) : Handler Rv32iCpu :=
  match msg with
  | .readReq .. | .writeReq .. => c.fault "rv32 cpu: request on the initiator port"
  | .readResp txn _ | .writeResp txn _ =>
    match c.state with
    | .fetchWait expected _ => c.expecting txn expected (c.fetched msg)
    | .memWait expected insn plan pa => c.expecting txn expected (c.accessed insn plan pa msg)
    | .walkWait expected walk => c.expecting txn expected (c.walkResponse walk msg)
    | _ => c.fault "rv32 cpu: response with no transaction outstanding"

/-- Takes a level on the `irq` port, in any state. -/
def irq (msg : IrqMsg) : Handler Rv32iCpu :=
  .phase fun phase =>
    if phase ≠ .complete then c.fault "rv32 cpu: irq.v0 level arrived outside COMPLETE"
    else match msg with
      | .level asserted =>
        .done (.ok ()) { c with csrs := { c.csrs with irqLevel := asserted } }

/-- Schedules the first fetch at the first clock edge. -/
def init : Handler Rv32iCpu :=
  .wakeSelf (.cycles c.config.clock 0) .request Token.fetch fun result => .done result c

/-- Takes a message in the profiles with two ports. -/
def message (p : PortId) (msg : Message) : Handler Rv32iCpu :=
  if p = port then
    match msg with
    | .memV1 msg => c.response msg
    | _ => c.fault "rv32 cpu: message on mem is not mem.v1"
  else if p = irqPort then
    match msg with
    | .irq msg => c.irq msg
    | _ => c.fault "rv32 cpu: message on irq is not irq.v0"
  else c.fault "rv32 cpu: message on an unknown port"

def handleEvent (ev : Delivered) : Handler Rv32iCpu :=
  match ev with
  | .wake token => c.wake token
  | .message p msg =>
    match c.config.profile with
    | .m1 =>
      match msg with
      | .memV1 msg => c.response msg
      | _ => c.fault "rv32 cpu: message is not mem.v1"
    | .m2 | .m3 => c.message p msg

/-! ## Ports and inspection -/

/-- `mem` in every profile; `irq` too in the `M2` and `M3` profiles. -/
def ports : List PortSpec :=
  { name := "mem", protocol := memV1Protocol, role := .initiator } ::
    if c.config.profile = .m1 then []
    else [{ name := "irq", protocol := irqV0Protocol, role := .target }]

/-- What is shown of a walk. -/
def inspectWalk (walk : Walk) : List (String × Value) :=
  let purpose := match walk.purpose with
    | .fetch => "fetch"
    | .data .. => "data"
  [("walk_purpose", .str purpose), ("walk_level", .u64 walk.level.toUInt64),
    ("walk_table", .u64 walk.table.toUInt64)]

/-- What is shown of a halt. -/
def inspectHalt : Halt → List (String × Value)
  | .trap trap =>
    [("halt", .str "trap"), ("cause", .str (c.causeName trap.cause)),
      ("trap_pc", .u64 trap.pc.toUInt64), ("tval", .u64 trap.tval.toUInt64)]
  | .instructionLimit => [("halt", .str "instruction_limit")]

/-- The CSRs of a whitelist as read, under their names. -/
def inspectCsrs (names : List String) (csrs : List UInt16) : List (String × Value) :=
  (names.zip csrs).filterMap fun (name, csr) =>
    (c.readCsr csr).map fun value => (name, .u64 value.toUInt64)

def inspect : StateView where
  fields :=
    [("pc", .u64 c.pc.toUInt64)] ++
    storedRegisters.map (fun reg => ("x" ++ toString reg.index, .u64 (c.regs.read reg).toUInt64)) ++
    [("instret", .u64 c.instret), ("state", .str c.state.name)] ++
    (match c.state with
      | .walkIssue walk => inspectWalk walk
      | .walkWait _ walk => inspectWalk walk
      | .halted halt => c.inspectHalt halt
      | _ => []) ++
    (match c.config.profile with
      | .m1 => []
      | .m2 => c.inspectCsrs csrNames Csr.supported
      | .m3 => ("priv", .u64 c.m3.privilege.bits.toUInt64) ::
          c.inspectCsrs (csrNames ++ csrNamesM3) Csr.supportedM3)

end Rv32iCpu

end SystemScope.Rv32i
