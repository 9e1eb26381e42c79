import SystemScope.Rv32i.Protocol

/-!
# The atomic interpreter

The same instruction set without events: `Atomic.step` reads the word at `pc`, executes it, makes
its load or store at once, applies the outcome, halts on a trap or at the limit, and samples the
interrupt.  Fetches, loads and stores go through `sv32Translate` first where the profile translates,
and to the address itself where it does not.

`Execution` is what one instruction comes to: its outcome, what it asks of memory, in order, and the
memory it leaves.  `observe` reads the same off the log of a run: the instructions it commits, each
with what it asked of memory and the hart it left, and the level of the interrupt line at each
commit.
-/

namespace SystemScope.Rv32i

/-- What is asked of memory. -/
inductive Request
  | read (addr : UInt64) (len : UInt32)
  | write (addr : UInt64) (data : Bytes)
  deriving DecidableEq

/-- What a message asks of memory. -/
def Request.ofMsg : MemV1.MemMsg → Option Request
  | .readReq _ addr len => some (.read addr len)
  | .writeReq _ addr data => some (.write addr data)
  | _ => none

/-- The reads of a walk. -/
def pteReads (asked : List UInt64) : List Request := asked.map fun addr => .read addr 4

namespace ByteMemory

variable {μ : Type} [ByteMemory μ]

/-- The word at an address, unless the read is refused. -/
def word (m : μ) (addr : UInt64) : Option UInt32 := (read m addr 4).bind wordOfBytes

/-- The value of a load, unless the read is refused. -/
def load (m : μ) (addr : UInt64) (plan : LoadPlan) : Option UInt32 :=
  (read m addr plan.width.bytes).bind (loadValue plan.width plan.extension)

/-- A reader of entries that keeps the addresses it is asked for. -/
def recording (m : μ) (addr : UInt64) (asked : List UInt64) : Option UInt32 × List UInt64 :=
  (word m addr, asked ++ [addr])

end ByteMemory

/-! ## One instruction -/

/-- What an instruction comes to. -/
structure Execution (μ : Type) where
  outcome : Outcome
  /-- What it asks of memory, in order. -/
  requests : List Request
  /-- The memory it leaves. -/
  memory : μ

/-- An execution that asks for more first. -/
def Execution.after {μ : Type} (sent : List Request) (e : Execution μ) : Execution μ :=
  { e with requests := sent ++ e.requests }

/-- The architectural state. -/
structure Hart where
  config : Rv32iConfig
  pc : UInt32
  regs : RegisterFile
  instret : UInt64
  csrs : CsrFile
  m3 : M3State
  deriving DecidableEq

/-- The architectural state of a CPU. -/
def Rv32iCpu.hart (c : Rv32iCpu) : Hart where
  config := c.config
  pc := c.pc
  regs := c.regs
  instret := c.instret
  csrs := c.csrs
  m3 := c.m3

namespace Hart

section

variable {μ : Type} [ByteMemory μ] (h : Hart)

def isa : Isa :=
  match h.config.profile with
  | .m1 => .m1
  | .m2 => .m2
  | .m3 => .m3 h.m3.privilege

/-- The physical address of an access, and the entries that are read to find it. -/
def translate (access : Access) (va : UInt32) (m : μ) : Except Sv32.Fault UInt64 × List UInt64 :=
  if h.config.profile = .m3 then
    Sv32.sv32Translate h.m3.satp h.m3.privilege h.m3.sum h.m3.mxr access va
      (ByteMemory.recording m) []
  else (.ok va.toUInt64, [])

/-- An access with its translation: a fault is a trap, and the access is not made. -/
def translated (access : Access) (va : UInt32) (m : μ) (k : UInt64 → Execution μ) :
    Except Sv32.Fault UInt64 × List UInt64 → Execution μ
  | (.error fault, asked) =>
    { outcome := .trap (fault.cause access) va, requests := pteReads asked, memory := m }
  | (.ok pa, asked) => (k pa).after (pteReads asked)

/-- Makes a load or store. -/
def perform (plan : MemoryPlan) (pa : UInt64) (m : μ) : Execution μ :=
  match plan with
  | .load plan =>
    { outcome := match ByteMemory.load m pa plan with
        | some value =>
          .exec (.effect { regWrite := some { rd := plan.rd, value }, nextPc := plan.nextPc })
        | none => .trap .loadAccessFault plan.addr
      requests := [.read pa plan.width.bytes]
      memory := m }
  | .store plan =>
    { outcome := match ByteMemory.write m pa plan.data with
        | some _ => .exec (.effect { regWrite := none, nextPc := plan.nextPc })
        | none => .trap .storeAccessFault plan.addr
      requests := [.write pa plan.data]
      memory := (ByteMemory.write m pa plan.data).getD m }

/-- Translates and makes a load or store. -/
def access (plan : MemoryPlan) (m : μ) : Execution μ :=
  translated (planAccess plan) (planAddr plan) m (fun pa => perform plan pa m)
    (h.translate (planAccess plan) (planAddr plan) m)

/-- Executes a fetched word, with nothing when its read was refused. -/
def decoded (word : Option UInt32) (m : μ) : Execution μ :=
  match word with
  | none => { outcome := .trap .instructionAccessFault h.pc, requests := [], memory := m }
  | some word =>
    match step h.isa word h.pc h.regs with
    | .done outcome => { outcome, requests := [], memory := m }
    | .memory plan => h.access plan m

/-- Reads the word at a physical address and executes it. -/
def fetchAt (pa : UInt64) (m : μ) : Execution μ :=
  (h.decoded (ByteMemory.word m pa) m).after [.read pa 4]

/-- Fetches and executes the instruction at `pc`. -/
def execute (m : μ) : Execution μ :=
  translated .fetch h.pc m (fun pa => h.fetchAt pa m) (h.translate .fetch h.pc m)

variable {h}

end

/-! ## Its effects -/

variable (h : Hart)

def readCsr (csr : UInt16) : Option UInt32 :=
  match h.config.profile with
  | .m1 | .m2 => h.csrs.read csr
  | .m3 => h.m3.read h.csrs csr

def writeCsr (csr : UInt16) (value : UInt32) : Option Hart :=
  match h.config.profile with
  | .m1 | .m2 => (h.csrs.write csr value).map fun csrs => { h with csrs }
  | .m3 => (h.m3.write h.csrs csr value).map fun (m3, csrs) => { h with m3, csrs }

/-- The effects of an outcome that is not a trap.  The CSRs an instruction can name are all there,
so nothing is lost in the default. -/
def retire : Outcome → Hart
  | .exec (.effect effect) =>
    { h with
      regs := effect.regWrite.elim h.regs fun w => h.regs.write w.rd w.value
      pc := effect.nextPc }
  | .exec (.trap _) => h
  | .csr op =>
    let old := (h.readCsr op.csr).getD 0
    let h := if op.write then (h.writeCsr op.csr (op.op.apply old op.operand)).getD h else h
    { h with regs := h.regs.write op.rd old, pc := op.nextPc }
  | .mret =>
    match h.config.profile with
    | .m1 | .m2 => { h with pc := h.csrs.mret.1, csrs := h.csrs.mret.2 }
    | .m3 =>
      let (pc, m3, csrs) := h.m3.mret h.csrs
      { h with pc, m3, csrs }
  | .sret => { h with pc := h.m3.sret.1, m3 := h.m3.sret.2 }

/-- Takes the interrupt, if it is eligible. -/
def sample : Hart :=
  match h.config.profile with
  | .m1 => h
  | .m2 =>
    if h.csrs.meiEligible then
      { h with pc := (h.csrs.takeMei h.pc).1, csrs := (h.csrs.takeMei h.pc).2 }
    else h
  | .m3 =>
    if h.m3.meiEligible h.csrs then
      let (pc, m3, csrs) := h.m3.takeMei h.csrs h.pc
      { h with pc, m3, csrs }
    else h

/-- Applies an outcome, and says whether the hart halts. -/
def commit (outcome : Outcome) : Hart × Option Halt :=
  match outcome with
  | .exec (.trap trap) =>
    match if h.config.profile = .m3 then h.m3.takeException trap.cause h.pc trap.tval else none with
    | some (handler, m3) => ({ h with pc := handler, m3 }, none)
    | none => (h, some (.trap { cause := trap.cause, pc := h.pc, tval := trap.tval }))
  | outcome =>
    let retired := { h.retire outcome with instret := h.instret + 1 }
    if h.config.maxInstructions ≤ retired.instret then (retired, some .instructionLimit)
    else (retired.sample, none)

/-- The hart with another level on its interrupt line. -/
def withLevel (level : Bool) : Hart := { h with csrs := { h.csrs with irqLevel := level } }

end Hart

/-! ## Runs -/

/-- A hart and its memory between instructions. -/
structure Atomic (μ : Type) where
  hart : Hart
  memory : μ
  halt : Option Halt

/-- What is seen of an instruction: what it asked of memory, and what it left. -/
structure Seen where
  requests : List Request
  hart : Hart
  halt : Option Halt
  deriving DecidableEq

namespace Atomic

variable {μ : Type} [ByteMemory μ]

/-- What the next instruction asks of memory. -/
def requests (a : Atomic μ) : List Request :=
  match a.halt with
  | some _ => []
  | none => (a.hart.execute a.memory).requests

/-- One instruction, with the level on the interrupt line as it commits. -/
def step (a : Atomic μ) (level : Bool) : Seen × Atomic μ :=
  match a.halt with
  | some _ => ({ requests := [], hart := a.hart, halt := a.halt }, a)
  | none =>
    let execution := a.hart.execute a.memory
    let (hart, halt) := (a.hart.withLevel level).commit execution.outcome
    ({ requests := execution.requests, hart, halt }, { hart, memory := execution.memory, halt })

end Atomic

/-! ## What is seen of a run -/

/-- What a run has shown so far. -/
structure Observation where
  /-- The level of the interrupt line at each commit. -/
  levels : List Bool
  /-- The instructions that have been committed. -/
  seen : List Seen
  /-- What has been asked of memory since. -/
  sent : List Request
  /-- The level of the interrupt line. -/
  line : Bool
  deriving DecidableEq

namespace Observation

def start : Observation where
  levels := []
  seen := []
  sent := []
  line := false

def record (o : Observation) : Entry → Observation
  | .sent msg => { o with sent := o.sent ++ (Request.ofMsg msg).toList }
  | .traced _ _ => o
  | .woke _ => o
  | .committed c =>
    { o with
      levels := o.levels ++ [o.line]
      seen := o.seen ++ [{ requests := o.sent, hart := c.hart, halt := c.halt }]
      sent := [] }
  | .level asserted => { o with line := asserted }

end Observation

def observe (log : List Entry) : Observation := log.foldl .record .start

lemma observe_append (log : List Entry) (e : Entry) :
    observe (log ++ [e]) = (observe log).record e := by
  simp [observe]

lemma observe_sent (log : List Entry) (msg : MemV1.MemMsg) (token : UInt64) :
    observe (log ++ [.sent msg, .woke token]) = (observe log).record (.sent msg) := by
  simp [observe, Observation.record]

lemma observe_commit {c c' : Rv32iCpu} {calls : List Call} (hc : c.Commits calls c')
    (log : List Entry) :
    observe (log ++ (calls.filterMap Call.entry ++ [.committed c'])) =
      (observe log).record (.committed c') := by
  unfold observe
  rw [List.foldl_append]
  cases hc with
  | halt | limit => rfl
  | exception =>
    rw [List.filterMap_cons, System.entries_wakes]
    rfl
  | retire hs hr hl =>
    rename_i d _
    rw [List.cons_append, List.filterMap_cons, List.filterMap_append, System.entries_wakes]
    unfold Rv32iCpu.interruptRecord
    cases d.counted.sampleMei <;> rfl

end SystemScope.Rv32i
