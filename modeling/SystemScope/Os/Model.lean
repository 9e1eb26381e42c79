import SystemScope.Os.ProcOp

/-!
# The process model

The second half of `components/os/src/procop.rs`: the metadata of a kernel with processes, and how
an operation goes from one stage to the next.  Every change of the metadata happens there.
-/

namespace SystemScope.Os

open Elf

/-- `sstatus.SPP`. -/
def sstatusSpp : UInt32 := (1 : UInt32) <<< 8

/-- `scause` of an `ecall` from user mode. -/
def ecallFromU : UInt32 := 8

def bootKind : String := "os.boot"

def createKind : String := "os.process.create"

def segmentKind : String := "os.load.segment"

def switchKind : String := "os.process.switch"

def faultKind : String := "os.process.fault"

def syscallEnterKind : String := "os.syscall.enter"

def syscallExitKind : String := "os.syscall.exit"

def exitKind : String := "os.process.exit"

def shutdownKind : String := "os.shutdown"

/-- Where a kernel with processes is in its life. -/
inductive Life
  | awaitBoot
  | up
  /-- A shutdown was decided. -/
  | down
  deriving DecidableEq, Repr

/-- A trace record that an operation asks for. -/
structure Note where
  kind : String
  fields : List (String × Value)
  deriving DecidableEq

/-- Where processes come from. -/
inductive Source
  | plan (plan : ProcessPlan)
  | disk (disk : DiskBoot)
  deriving DecidableEq

/-- The user layout. -/
def Source.layout : Source → UserLayout
  | plan p => p.layout
  | disk d => d.layout

/-- The metadata of a kernel with processes. -/
structure Model where
  source : Source
  /-- The number of boot images; 0 before the table of a disk is validated. -/
  entries : ℕ
  procs : Processes
  life : Life
  deriving DecidableEq

/-- Why the model does not go on. -/
inductive Failure
  | panic (p : Panic)
  | violation (v : Violation)
  deriving DecidableEq

/-- A computation that may panic or break an invariant. -/
abbrev Outcome (α : Type) := Except Failure α

/-- A violation. -/
def violate {α : Type} (why : String) : Outcome α := .error (.violation ⟨why⟩)

/-- What was decided at the end of a stage: the model, the records, and what comes next. -/
structure Decision (α : Type) where
  model : Model
  notes : List Note
  next : α

/-- A natural number as a traced value. -/
def natValue (n : ℕ) : Value := .u64 (UInt64.ofNat n)

/-- A word as a traced value. -/
def wordValue (w : UInt32) : Value := .u64 w.toUInt64

def shutdownNote (reason : UInt32) (detail : String) : Note :=
  { kind := shutdownKind, fields := [("reason", wordValue reason), ("detail", .str detail)] }

def exitNote (pid : ℕ) (nr ret : UInt32) : Note :=
  { kind := syscallExitKind
    fields := [("pid", natValue pid), ("nr", wordValue nr), ("ret", wordValue ret)] }

def createNote (pid : ℕ) (entry root : UInt32) (error : String) : Note :=
  { kind := createKind
    fields := [("pid", natValue pid), ("entry", wordValue entry), ("root", wordValue root),
      ("error", .str error)] }

def createError (pid : ℕ) (entry : UInt32) (error : String) : Note := createNote pid entry 0 error

def segmentNote (pid : ℕ) (s : UserSegment) : Note :=
  { kind := segmentKind
    fields := [("pid", natValue pid), ("va", wordValue s.vaddr), ("memsz", wordValue s.memsz),
      ("perms", .str (permStr s.perms))] }

def bootNote (entries : ℕ) : Note :=
  { kind := bootKind, fields := [("entries", natValue entries)] }

def switchNote (from_ to_ : ℕ) : Note :=
  { kind := switchKind, fields := [("from", natValue from_), ("to", natValue to_)] }

def faultNote (pid : ℕ) (cause : String) (epc tval : UInt32) : Note :=
  { kind := faultKind
    fields := [("pid", natValue pid), ("cause", .str cause), ("epc", wordValue epc),
      ("tval", wordValue tval)] }

def exitStatusNote (pid : ℕ) (status : Int32) : Note :=
  { kind := exitKind, fields := [("pid", natValue pid), ("status", .i64 status.toInt64)] }

/-- The name of an exception. -/
def causeName (scause : UInt32) : String :=
  match scause.toNat with
  | 0 => "InstructionAddressMisaligned"
  | 1 => "InstructionAccessFault"
  | 2 => "IllegalInstruction"
  | 3 => "Breakpoint"
  | 4 => "LoadAddressMisaligned"
  | 5 => "LoadAccessFault"
  | 6 => "StoreAddressMisaligned"
  | 7 => "StoreAccessFault"
  | 8 => "EnvironmentCallFromU"
  | 9 => "EnvironmentCallFromS"
  | 12 => "InstructionPageFault"
  | 13 => "LoadPageFault"
  | 15 => "StorePageFault"
  | other => "scause " ++ hex other

namespace Model

/-- A model that awaits boot. -/
def new (source : Source) (procs : Processes) : Model :=
  { source
    entries := match source with
      | .plan plan => plan.images.length
      | .disk _ => 0
    procs, life := .awaitBoot }

variable (config : KernelConfig) (m : Model)

/-- The name of the operation that an `ENTER` of a value starts. -/
def opName (value : UInt32) : String :=
  if value ≠ config.trapFrame then "shutdown"
  else
    match m.life with
    | .awaitBoot => "boot"
    | .up | .down => "trap"

/-- Decides a failure shutdown. -/
def fail (detail : String) : Decision ProcOp :=
  { model := { m with life := .down }, notes := [shutdownNote 1 detail]
    next := .new (.shutdown 1) }

/-- The reason of a shutdown with an empty queue: 0 only if every image became a process and every
process exited with status 0. -/
def emptyQueueReason : UInt32 :=
  if m.procs.pcbs.length = m.entries ∧ ∀ p ∈ m.procs.pcbs, p.state = .exited 0 then 0 else 1

/-- Dispatches the head of the queue, or shuts down. -/
def dispatchNext (from_ : ℕ) : Outcome (Decision ProcOp) := do
  let (procs, head) ← m.procs.scheduleNext.mapError .violation
  match head with
  | none =>
    let reason := m.emptyQueueReason
    return { model := { m with procs, life := .down }
             notes := [shutdownNote reason "the run queue is empty"]
             next := .new (.shutdown reason) }
  | some (pid, context) =>
    match procs.pcb pid with
    | none => .error (.panic .expect)
    | some p =>
      return { model := { m with procs }
               notes := [switchNote from_ pid]
               next := .new (.dispatch pid context (Pte.satp p.root)) }

/-- Records before those of a decision. -/
def after {α : Type} (notes : List Note) (d : Decision α) : Decision α :=
  { d with notes := notes ++ d.notes }

/-- Reserves the frames of an image and builds its space; nothing if the pool has too few. -/
def reserveSpace (pid : ℕ) (boot : BootImage) : Outcome (Option (Space × Model)) :=
  match m.procs.frames.reserve pid (framesNeeded boot.image m.source.layout) with
  | none => .ok none
  | some (frames, pool) => do
    let space ← (Space.build config m.source.layout boot frames).mapError .panic
    return some (space, { m with procs := { m.procs with frames := pool } })

/-- Creates the first of some images that can be created; `index` is that of the first one. -/
def createFrom (index : ℕ) : List BootImage → Outcome (Decision ProcOp)
  | [] => m.dispatchNext 0
  | boot :: rest => do
    let pid := index + 1
    if MegapageConflict boot.image config then
      return after [createError pid boot.image.entry "a segment is in a megapage slot"]
        (← createFrom (index + 1) rest)
    else
      match ← m.reserveSpace config pid boot with
      | none =>
        return after [createError pid boot.image.entry "frame pool exhausted"]
          (← createFrom (index + 1) rest)
      | some (space, m) =>
        return { model := m, notes := [], next := .new (.create pid space) }

/-- Creates the first image from an index on that can be created, or dispatches. -/
def nextCreation (from_ : ℕ) : Outcome (Decision ProcOp) :=
  match m.source with
  | .disk _ => violate "a plan creation without a plan"
  | .plan plan => m.createFrom config from_ (plan.images.drop from_)

/-- Admits a created process. -/
def admit_ (pid : ℕ) (image : UserImage) (space : Space) : Outcome (Model × List Note) := do
  let context := Context.initial image.entry m.source.layout.stackTop
  let procs ← (m.procs.admit_ (Pcb.new pid space context)).mapError .violation
  return ({ m with procs },
    image.segments.map (segmentNote pid) ++ [createNote pid image.entry space.root ""])

/-- Loads a table entry and the ones after it, or dispatches. -/
def nextLoad (table : Option ExecTable) (index : ℕ) : Outcome (Decision ProcOp) :=
  match table with
  | some t =>
    if index < t.entries.length then
      .ok { model := m, notes := [], next := .new (.command { table := some t, index }) }
    else m.dispatchNext 0
  | none => m.dispatchNext 0

/-- The transfer of a cursor is acknowledged. -/
def acked (cursor : Cursor) (error : UInt8) : Outcome (Decision ProcOp) :=
  if error = 0 then
    .ok { model := m, notes := [], next := .new (.staged cursor cursor.firstRead) }
  else if cursor.table = none then
    .ok (m.fail s!"block controller error {error} reading the executable table")
  else do
    return after [createError cursor.pid 0 s!"block controller error {error}"]
      (← m.nextLoad cursor.table (cursor.index + 1))

/-- Fails the creation of an entry and goes on with the next one. -/
def skipEntry (cursor : Cursor) (entry : UInt32) (error : String) : Outcome (Decision ProcOp) := do
  return after [createError cursor.pid entry error] (← m.nextLoad cursor.table (cursor.index + 1))

/-- The executable of an entry, as it lies in staging. -/
def stagedImage (entry : ExecEntry) (image : UserImage) : BootImage :=
  { staged := UInt32.ofNat config.staging.base.toNat, fileLen := entry.byteLen, image }

/-- The first bytes of staging are read: block 0, or the headers of an executable. -/
def staged (cursor : Cursor) (len : UInt32) (data : Bytes) : Outcome (Decision ProcOp) :=
  match m.source with
  | .plan _ => violate "a disk read without a disk"
  | .disk disk =>
    match cursor.entry with
    | none =>
      if data.length ≠ blockSize then violate "block 0 read is not one block"
      else
        match parseExecTable data disk.capacityBlocks (DiskBoot.stagingSize config) with
        | .error e => .ok (m.fail ("invalid executable table: " ++ e.text))
        | .ok table => do
          return after [bootNote table.entries.length]
            (← { m with entries := table.entries.length }.nextLoad (some table) 0)
    | some entry =>
      match parseUserElf32 data entry.byteLen disk.layout.imageRange with
      | .error (.prefixTooShort needed) =>
        if len < needed then
          .ok { model := m, notes := [], next := .new (.staged cursor needed) }
        else m.skipEntry cursor 0 (UserElfError.prefixTooShort needed).text
      | .error e => m.skipEntry cursor 0 e.text
      | .ok image =>
        if MegapageConflict image config then
          m.skipEntry cursor image.entry "a segment is in a megapage slot"
        else do
          match ← m.reserveSpace config cursor.pid (stagedImage config entry image) with
          | none => m.skipEntry cursor image.entry "frame pool exhausted"
          | some (space, m) =>
            return { model := m, notes := [], next := .new (.load cursor data image space) }

/-! ## Traps -/

/-- The root table of the running process. -/
def runningRoot : Outcome UInt32 :=
  match m.procs.current with
  | none => violate "a syscall with no process running"
  | some pid =>
    match m.procs.pcb pid with
    | none => violate "running PID has no PCB"
    | some p => .ok p.root

/-- Returns a value from a syscall to the process that called it. -/
def ret (nr sepc value : UInt32) : Outcome (Decision ProcOp) :=
  match m.procs.current with
  | none => violate "a syscall with no process running"
  | some pid =>
    .ok { model := m, notes := [exitNote pid nr value], next := .new (.return_ sepc value) }

/-- The record of a syscall that was decoded. -/
def enterNote (pid : ℕ) (frame : Bytes) : Note :=
  { kind := syscallEnterKind
    fields := [("pid", natValue pid), ("nr", wordValue (word frame frameA7)),
      ("a0", wordValue (word frame frameA0)), ("a1", wordValue (word frame frameA1)),
      ("a2", wordValue (word frame frameA2))] }

/-- A `write` of the running process. -/
def write (frame : Bytes) : Outcome (Decision ProcOp) :=
  let sepc := word frame frameSepc
  let a0 := word frame frameA0
  let n := min (word frame frameA2) writeMax
  if a0 ≠ 1 ∧ a0 ≠ 2 then m.ret sysWrite sepc (neg ebadf)
  else if n = 0 then m.ret sysWrite sepc 0
  else
    match Buffer.new sepc (word frame frameA1) n with
    | none => m.ret sysWrite sepc (neg efault)
    | some buffer => do
      return { model := m, notes := [], next := .new (.walk buffer [] (← m.runningRoot) 1) }

/-- The context of a caller that yields. -/
def yieldContext (frame : Bytes) : Context :=
  let context := Context.fromFrame frame
  { context with regs := context.regs.set 9 0, pc := word frame frameSepc + 4 }

/-- What the syscall of a trap frame does for the process that called it. -/
def serve (pid : ℕ) (frame : Bytes) : Outcome (Decision ProcOp) :=
  let nr := word frame frameA7
  let sepc := word frame frameSepc
  match Syscall.decode nr with
  | .getPid => m.ret nr sepc (UInt32.ofNat pid)
  | .unsupported _ => m.ret nr sepc (neg enosys)
  | .write => m.write frame
  | .schedYield => do
    let (procs, pid) ← (m.procs.yieldCurrent (yieldContext frame)).mapError .violation
    return after [exitNote pid nr 0] (← { m with procs }.dispatchNext pid)
  | .exit | .exitGroup => do
    let status := (word frame frameA0).toInt32
    let (procs, pid) ← (m.procs.endCurrent (.exited status)).mapError .violation
    return after [exitStatusNote pid status] (← { m with procs }.dispatchNext pid)

/-- The syscall of a trap frame. -/
def syscall (frame : Bytes) : Outcome (Decision ProcOp) :=
  match m.procs.current with
  | none => violate "a syscall with no process running"
  | some pid => do return after [enterNote pid frame] (← m.serve pid frame)

/-- The decision after a trap, from the frame. -/
def decide (frame : Bytes) : Outcome (Decision ProcOp) :=
  let scause := word frame frameScause
  if word frame frameSstatus &&& sstatusSpp ≠ 0 then
    .ok (m.fail ("trap from S-mode: " ++ causeName scause))
  else if scause = ecallFromU then m.syscall frame
  else do
    let sepc := word frame frameSepc
    let stval := word frame frameStval
    let (procs, pid) ← (m.procs.endCurrent (.faulted scause sepc stval)).mapError .violation
    return after [faultNote pid (causeName scause) sepc stval] (← { m with procs }.dispatchNext pid)

/-- The entry of a page of a buffer is read. -/
def walked (buffer : Buffer) (pages : List UInt32) (level : UInt8) (pte : UInt32) :
    Outcome (Decision ProcOp) := do
  let va ← (buffer.pageVa pages.length).mapError .panic
  match walkStep pte level va with
  | .next table => return { model := m, notes := [], next := .new (.walk buffer pages table 0) }
  | .page ppn =>
    if pages.length + 1 = buffer.pages then
      return { model := m, notes := [], next := .new (.output buffer (pages ++ [ppn]) 0) }
    else
      return { model := m, notes := []
               next := .new (.walk buffer (pages ++ [ppn]) (← m.runningRoot) 1) }
  | .fault => m.ret sysWrite buffer.sepc (neg efault)

/-- A chunk of a buffer is transmitted. -/
def chunkDone (buffer : Buffer) (pages : List UInt32) (done : ℕ) : Outcome (Decision ProcOp) :=
  let next := done + (buffer.chunk done).2
  if next = buffer.n.toNat then m.ret sysWrite buffer.sepc buffer.n
  else .ok { model := m, notes := [], next := .new (.output buffer pages next) }

/-- The image that a creation of a plan builds. -/
def planImage (plan : ProcessPlan) (pid : ℕ) : Outcome BootImage :=
  if pid = 0 then .error (.panic .overflow)
  else
    match plan.images[pid - 1]? with
    | none => .error (.panic .index)
    | some boot => .ok boot

/-! ## Operations -/

/-- Goes on with one more stage. -/
def continue_ (d : Decision ProcOp) : Decision (Option ProcOp) := { d with next := some d.next }

/-- Starts the operation of an `ENTER`. -/
def start (value : UInt32) : Outcome (Decision ProcOp) :=
  if value ≠ config.trapFrame then
    if m.life = .down then violate "ENTER after the shutdown"
    else .ok (m.fail "ENTER value is not the trap frame")
  else
    match m.life with
    | .awaitBoot =>
      match m.source with
      | .disk _ =>
        .ok { model := { m with life := .up }, notes := [], next := .new (.command .first) }
      | .plan _ => do
        return after [bootNote m.entries] (← { m with life := .up }.nextCreation config 0)
    | .up =>
      if m.procs.current.isSome then
        .ok { model := m, notes := [], next := .new .readFrame }
      else violate "ENTER with no process running"
    | .down => violate "ENTER after the shutdown"

/-- Moves past a finished stage; nothing comes next when the operation has finished. -/
def advance (o : ProcOp) : Outcome (Decision (Option ProcOp)) :=
  match o.stage with
  | .create pid space =>
    match m.source with
    | .disk _ => violate "a plan creation without a plan"
    | .plan plan => do
      let boot ← planImage plan pid
      let (m, notes) ← m.admit_ pid boot.image space
      return continue_ (after notes (← m.nextCreation config pid))
  | .load cursor _ image space => do
    let (m, notes) ← m.admit_ cursor.pid image space
    return continue_ (after notes (← m.nextLoad cursor.table (cursor.index + 1)))
  | .command cursor => .ok { model := m, notes := [], next := some (.new (.poll cursor)) }
  | .poll cursor =>
    let status := word o.data 0
    let stage : Stage :=
      if status &&& statusDone ≠ 0 then .ack cursor (status >>> statusErrorShift).toUInt8
      else .poll cursor
    .ok { model := m, notes := [], next := some (.new stage) }
  | .ack cursor error => do return continue_ (← m.acked cursor error)
  | .staged cursor len => do return continue_ (← m.staged config cursor len o.data)
  | .readFrame => do return continue_ (← m.decide o.data)
  | .walk buffer pages _ level => do
    return continue_ (← m.walked buffer pages level (word o.data 0))
  | .output buffer pages done => do return continue_ (← m.chunkDone buffer pages done)
  | .dispatch .. | .shutdown _ | .return_ .. => .ok { model := m, notes := [], next := none }

end Model

end SystemScope.Os
