import SystemScope.Os.Kernel

/-!
# Snapshots of the modeled kernel

The other half of `components/os/src/kernel.rs`: what a kernel writes (schema 1), and what it takes
back.  A restore decodes the whole snapshot (`RawKernel`), and then rebuilds and checks it section
by section: the processes (`RawModel.check`), the operation (`procOp`), and what ties them together
(`checkLife`).

The checks run before everything that they rely on has been checked, so the model says where the
source would panic: `Stop.panic` is neither of the two results that a restore has.
-/

namespace SystemScope.Os

open Elf SnapshotData SnapshotField Restoring

/-- The marker of a plan. -/
def planMarker : UInt8 := 0xA5

/-- The marker of a boot disk. -/
def diskMarker : UInt8 := 0xD5

/-- The tag of an operation with processes, after the two without. -/
def procOpTag : UInt8 := 2

/-- The mark of an allocated frame whose owner is not known yet. -/
def unclaimed : ℕ := 2 ^ 32 - 1

section Writing

variable [SnapshotData]

/-! ## Writing -/

def windowParts (w : Window) : List (Option Bytes) :=
  [SnapshotFields.u64.part w.base, SnapshotFields.u64.part w.size]

def KernelConfig.parts (config : KernelConfig) : List (Option Bytes) :=
  [SnapshotFields.u32.part config.clock] ++ Platform.latencyParts config.latency ++
    windowParts config.ram ++ windowParts config.gate ++
    [SnapshotFields.u32.part config.trapFrame] ++ windowParts config.staging ++
    windowParts config.framePool ++ windowParts config.blk ++
    [SnapshotFields.u64.part config.uartTx]

def permsPart (perms : Perms) : Option Bytes := SnapshotFields.u8.part (permBits perms)

def layoutParts (l : UserLayout) : List (Option Bytes) :=
  [SnapshotFields.u32.part l.userBase, SnapshotFields.u32.part l.stackTop,
    SnapshotFields.u32.part l.stackPages]

def copyParts : Option FileCopy → List (Option Bytes)
  | none => [SnapshotFields.u8.part 0]
  | some c =>
    [SnapshotFields.u8.part 1, SnapshotFields.u32.part c.fileOffset,
      SnapshotFields.u32.part c.pageOffset, SnapshotFields.u32.part c.len]

def pageParts (p : PagePlan) : List (Option Bytes) :=
  [SnapshotFields.u32.part p.va, permsPart p.perms] ++ copyParts p.copy

def segmentParts (s : UserSegment) : List (Option Bytes) :=
  [SnapshotFields.u16.part s.index, SnapshotFields.u32.part s.vaddr,
    SnapshotFields.u32.part s.memsz, permsPart s.perms, len.encode s.pages.length] ++
    s.pages.flatMap pageParts

def bootImageParts (b : BootImage) : List (Option Bytes) :=
  [SnapshotFields.u32.part b.staged, SnapshotFields.u32.part b.fileLen,
    SnapshotFields.u32.part b.image.entry, len.encode b.image.segments.length] ++
    b.image.segments.flatMap segmentParts

def sourceParts : Source → List (Option Bytes)
  | .plan plan =>
    [SnapshotFields.u8.part planMarker] ++ layoutParts plan.layout ++
      [len.encode plan.images.length] ++ plan.images.flatMap bootImageParts
  | .disk disk =>
    [SnapshotFields.u8.part diskMarker] ++ layoutParts disk.layout ++
      [SnapshotFields.u32.part disk.capacityBlocks]

def entryParts (e : ExecEntry) : List (Option Bytes) :=
  [SnapshotFields.u32.part e.startLba, SnapshotFields.u32.part e.byteLen]

def tableParts : Option ExecTable → List (Option Bytes)
  | none => [SnapshotFields.u8.part 0]
  | some t =>
    [SnapshotFields.u8.part 1, len.encode t.entries.length] ++ t.entries.flatMap entryParts

def cursorParts (c : Cursor) : List (Option Bytes) :=
  tableParts c.table ++ [SnapshotFields.u32.part (UInt32.ofNat c.index)]

def bufferParts (b : Buffer) : List (Option Bytes) :=
  [SnapshotFields.u32.part b.sepc, SnapshotFields.u32.part b.buf, SnapshotFields.u32.part b.n]

def contextParts (c : Context) : List (Option Bytes) := c.words.map SnapshotFields.u32.part

def ppnsParts (ppns : List UInt32) : List (Option Bytes) :=
  [len.encode ppns.length] ++ ppns.map SnapshotFields.u32.part

def pidPart (pid : ℕ) : Option Bytes := SnapshotFields.u32.part (UInt32.ofNat pid)

def stageParts : Stage → List (Option Bytes)
  | .create pid space => [SnapshotFields.u8.part 0, pidPart pid] ++ ppnsParts space.frames
  | .readFrame => [SnapshotFields.u8.part 1]
  | .dispatch pid context _ => [SnapshotFields.u8.part 2, pidPart pid] ++ contextParts context
  | .shutdown reason => [SnapshotFields.u8.part 3, SnapshotFields.u32.part reason]
  | .walk buffer pages table level =>
    [SnapshotFields.u8.part 4] ++ bufferParts buffer ++ ppnsParts pages ++
      [SnapshotFields.u32.part table, SnapshotFields.u8.part level]
  | .output buffer pages done =>
    [SnapshotFields.u8.part 5] ++ bufferParts buffer ++ ppnsParts pages ++
      [SnapshotFields.u32.part (UInt32.ofNat done)]
  | .return_ sepc value =>
    [SnapshotFields.u8.part 6, SnapshotFields.u32.part sepc, SnapshotFields.u32.part value]
  | .command cursor => [SnapshotFields.u8.part 7] ++ cursorParts cursor
  | .poll cursor => [SnapshotFields.u8.part 8] ++ cursorParts cursor
  | .ack cursor error =>
    [SnapshotFields.u8.part 9] ++ cursorParts cursor ++ [SnapshotFields.u8.part error]
  | .staged cursor len =>
    [SnapshotFields.u8.part 10] ++ cursorParts cursor ++ [SnapshotFields.u32.part len]
  | .load cursor headers _ space =>
    [SnapshotFields.u8.part 11] ++ cursorParts cursor ++ [bytes.encode headers] ++
      ppnsParts space.frames

def workParts : Option Work → List (Option Bytes)
  | none => []
  | some (.proto o) =>
    [SnapshotFields.u8.part (match o.op with | .script => 0 | .shutdown => 1),
      SnapshotFields.u32.part (UInt32.ofNat o.step), bytes.encode o.data]
  | some (.proc o) =>
    [SnapshotFields.u8.part procOpTag] ++ stageParts o.stage ++
      [SnapshotFields.u32.part (UInt32.ofNat o.step), bytes.encode o.data]

def procStateParts : ProcState → List (Option Bytes)
  | .ready => [SnapshotFields.u8.part 0]
  | .running => [SnapshotFields.u8.part 1]
  | .exited status => [SnapshotFields.u8.part 2, SnapshotFields.u32.part status.toUInt32]
  | .faulted cause epc tval =>
    [SnapshotFields.u8.part 3, SnapshotFields.u32.part cause, SnapshotFields.u32.part epc,
      SnapshotFields.u32.part tval]

def contextOptionParts : Option Context → List (Option Bytes)
  | none => [SnapshotFields.u8.part 0]
  | some c => [SnapshotFields.u8.part 1] ++ contextParts c

def regionParts (r : Region) : List (Option Bytes) :=
  [SnapshotFields.u32.part r.va, permsPart r.perms] ++ ppnsParts r.frames

def pcbParts (p : Pcb) : List (Option Bytes) :=
  [pidPart p.pid] ++ procStateParts p.state ++ contextOptionParts p.context ++
    [SnapshotFields.u32.part p.root] ++ ppnsParts p.tables ++ [len.encode p.regions.length] ++
    p.regions.flatMap regionParts

def currentParts : Option ℕ → List (Option Bytes)
  | none => [SnapshotFields.u8.part 0]
  | some pid => [SnapshotFields.u8.part 1, pidPart pid]

def entriesParts (m : Model) : List (Option Bytes) :=
  match m.source with
  | .plan _ => []
  | .disk _ => [SnapshotFields.u32.part (UInt32.ofNat m.entries)]

def lifeParts : Life → List (Option Bytes)
  | .awaitBoot => [SnapshotFields.u8.part 0]
  | .up => [SnapshotFields.u8.part 1]
  | .down => [SnapshotFields.u8.part 2]

def modelParts (m : Model) : List (Option Bytes) :=
  lifeParts m.life ++ entriesParts m ++ [len.encode m.procs.pcbs.length] ++
    m.procs.pcbs.flatMap pcbParts ++ [len.encode m.procs.queue.length] ++
    m.procs.queue.map pidPart ++ currentParts m.procs.current ++
    [bytes.encode m.procs.frames.bitmap]

/-- What comes first in every snapshot of a kernel: how it is configured. -/
def headParts (config : KernelConfig) (source : Option Source) : List (Option Bytes) :=
  config.parts ++ (source.map sourceParts).getD []

def stateParts : State → List (Option Bytes)
  | .idle => [SnapshotFields.u8.part 0]
  | .issue _ => [SnapshotFields.u8.part 1]
  | .wait _ txn => [SnapshotFields.u8.part 2, SnapshotFields.u64.part txn]

def heldParts : Option TxnId → List (Option Bytes)
  | none => [SnapshotFields.u8.part 0]
  | some txn => [SnapshotFields.u8.part 1, SnapshotFields.u64.part txn]

namespace ModeledKernel

variable {config : KernelConfig} (c : ModeledKernel config)

def parts : List (Option Bytes) :=
  headParts config (c.model.map Model.source) ++ stateParts c.state ++ workParts c.work ++
    heldParts c.held ++ [SnapshotFields.u64.part c.nextTxn] ++ (c.model.map modelParts).getD []

/-- The snapshot of a kernel, schema 1. -/
def snapshot : Option Bytes := Coder.concat c.parts

end ModeledKernel

end Writing

/-! ## Decoding -/

/-- A decoded cursor before it is checked: the entries of the table, if it was read, and the
index. -/
structure RawCursor where
  entries : Option (List ExecEntry)
  index : UInt32
  deriving DecidableEq, Repr

/-- A decoded stage before it is checked. -/
inductive RawStage
  | create (pid : ℕ) (frames : List UInt32)
  | readFrame
  | dispatch (pid : ℕ) (context : Context)
  | shutdown (reason : UInt32)
  | walk (buffer : Buffer) (pages : List UInt32) (table : UInt32) (level : UInt8)
  | output (buffer : Buffer) (pages : List UInt32) (done : ℕ)
  | return_ (sepc value : UInt32)
  | command (cursor : RawCursor)
  | poll (cursor : RawCursor)
  | ack (cursor : RawCursor) (error : UInt8)
  | staged (cursor : RawCursor) (len : UInt32)
  | load (cursor : RawCursor) (headers : Bytes) (frames : List UInt32)
  deriving DecidableEq

/-- A decoded operation before it is checked. -/
inductive RawOp
  | proto (op : Op) (step : ℕ) (data : Bytes)
  | proc (stage : RawStage) (step : ℕ) (data : Bytes)
  deriving DecidableEq

/-- The decoded process section before it is checked. -/
structure RawModel where
  life : Life
  entries : ℕ
  pcbs : List Pcb
  queue : List ℕ
  current : Option ℕ
  bitmap : Bytes
  deriving DecidableEq

/-- A decoded snapshot before it is checked. -/
structure RawKernel where
  /-- The outstanding transaction of a waiting kernel. -/
  outstanding : Option TxnId
  op : Option RawOp
  held : Option TxnId
  nextTxn : TxnId
  model : Option RawModel
  deriving DecidableEq

section Decoding

variable [SnapshotData]

def badTag {α : Type} (what : String) (tag : UInt8) : Restoring α :=
  throw (.decode (.invalidTag what tag))

/-- A number of elements that are at least some bytes long each, bounded by what remains. -/
def count (minBytes : ℕ) : Restoring ℕ := do
  let n ← data len
  let rest ← get
  if rest.length < n * minBytes then throw (.decode .truncated) else return n

def readWord : Restoring UInt32 := field SnapshotFields.u32

def readPid : Restoring ℕ := do return (← readWord).toNat

def decodePpns : Restoring (List UInt32) := do
  Decodes.replicateM readWord (← count 4)

def decodePids : Restoring (List ℕ) := do
  Decodes.replicateM readPid (← count 4)

def decodeEntry : Restoring ExecEntry := do
  let startLba ← readWord
  let byteLen ← readWord
  return { startLba, byteLen }

def decodeCursor : Restoring RawCursor := do
  let tag ← field SnapshotFields.u8
  if tag = 0 then return { entries := none, index := ← readWord }
  else if tag = 1 then do
    let entries ← Decodes.replicateM decodeEntry (← count 8)
    return { entries := some entries, index := ← readWord }
  else badTag "modeled kernel boot table" tag

def decodeBuffer : Restoring Buffer := do
  let sepc ← readWord
  let buf ← readWord
  let n ← readWord
  return { sepc, buf, n }

def decodeContext : Restoring Context := do
  let words ← Decodes.replicateM readWord 33
  return { regs := Vector.ofFn fun i => words.getD i 0, pc := words.getD 31 0
           sstatus := words.getD 32 0 }

def decodeStage : Restoring RawStage := do
  let tag ← field SnapshotFields.u8
  if tag = 0 then
    let pid ← readPid
    return .create pid (← decodePpns)
  else if tag = 1 then return .readFrame
  else if tag = 2 then
    let pid ← readPid
    return .dispatch pid (← decodeContext)
  else if tag = 3 then return .shutdown (← readWord)
  else if tag = 4 then
    let buffer ← decodeBuffer
    let pages ← decodePpns
    let table ← readWord
    return .walk buffer pages table (← field SnapshotFields.u8)
  else if tag = 5 then
    let buffer ← decodeBuffer
    let pages ← decodePpns
    return .output buffer pages (← readWord).toNat
  else if tag = 6 then
    let sepc ← readWord
    return .return_ sepc (← readWord)
  else if tag = 7 then return .command (← decodeCursor)
  else if tag = 8 then return .poll (← decodeCursor)
  else if tag = 9 then
    let cursor ← decodeCursor
    return .ack cursor (← field SnapshotFields.u8)
  else if tag = 10 then
    let cursor ← decodeCursor
    return .staged cursor (← readWord)
  else if tag = 11 then
    let cursor ← decodeCursor
    let headers ← data bytes
    return .load cursor headers (← decodePpns)
  else badTag "modeled kernel stage" tag

def decodeOp : Restoring RawOp := do
  let tag ← field SnapshotFields.u8
  if tag = procOpTag then
    let stage ← decodeStage
    let step ← readWord
    return .proc stage step.toNat (← data bytes)
  else if tag = 0 then
    let step ← readWord
    return .proto .script step.toNat (← data bytes)
  else if tag = 1 then
    let step ← readWord
    return .proto .shutdown step.toNat (← data bytes)
  else badTag "modeled kernel operation" tag

def decodeProcState : Restoring ProcState := do
  let tag ← field SnapshotFields.u8
  if tag = 0 then return .ready
  else if tag = 1 then return .running
  else if tag = 2 then return .exited (← readWord).toInt32
  else if tag = 3 then
    let cause ← readWord
    let epc ← readWord
    return .faulted cause epc (← readWord)
  else badTag "modeled kernel process state" tag

def decodeContextOption : Restoring (Option Context) := do
  let tag ← field SnapshotFields.u8
  if tag = 0 then return none
  else if tag = 1 then return some (← decodeContext)
  else badTag "modeled kernel context" tag

def decodeRegion : Restoring Region := do
  let va ← readWord
  let bits ← field SnapshotFields.u8
  match permsFromBits bits with
  | none => badTag "modeled kernel perms" bits
  | some perms => return { va, perms, frames := ← decodePpns }

def decodePcb : Restoring Pcb := do
  let pid ← readPid
  let state ← decodeProcState
  let context ← decodeContextOption
  let root ← readWord
  let tables ← decodePpns
  let regions ← Decodes.replicateM decodeRegion (← count 9)
  return { pid, state, context, root, tables, regions }

def decodeLife : Restoring Life := do
  let tag ← field SnapshotFields.u8
  if tag = 0 then return .awaitBoot
  else if tag = 1 then return .up
  else if tag = 2 then return .down
  else badTag "modeled kernel life" tag

/-- The number of boot images: that of the plan, or what a disk boot has counted. -/
def decodeEntries (source : Source) (life : Life) : Restoring ℕ :=
  match source with
  | .plan plan => return plan.images.length
  | .disk _ => do
    let n ← readWord
    if maxProcesses < n.toNat ∨ life = .awaitBoot ∧ n ≠ 0 then
      invalid "modeled kernel: a table count above the limit or before boot"
    else return n.toNat

def decodeCurrent : Restoring (Option ℕ) := do
  let tag ← field SnapshotFields.u8
  if tag = 0 then return none
  else if tag = 1 then return some (← readPid)
  else badTag "modeled kernel running PID" tag

def decodeModel (source : Source) : Restoring RawModel := do
  let life ← decodeLife
  let entries ← decodeEntries source life
  let pcbs ← Decodes.replicateM decodePcb (← count 4)
  let queue ← decodePids
  let current ← decodeCurrent
  let bitmap ← data bytes
  return { life, entries, pcbs, queue, current, bitmap }

def decodeHeld : Restoring (Option TxnId) := do
  let tag ← field SnapshotFields.u8
  if tag = 0 then return none
  else if tag = 1 then return some (← field SnapshotFields.u64)
  else badTag "modeled kernel held ENTER" tag

/-- The state tag, with the outstanding transaction of a waiting kernel. -/
def decodeState : Restoring (Bool × Option TxnId) := do
  let tag ← field SnapshotFields.u8
  if tag = 0 then return (false, none)
  else if tag = 1 then return (true, none)
  else if tag = 2 then return (true, some (← field SnapshotFields.u64))
  else badTag "modeled kernel state" tag

/-- Decodes a snapshot of a kernel that is configured so. -/
def decodeKernel (config : KernelConfig) (source : Option Source) : Restoring RawKernel := do
  expectRaw (headParts config source) "modeled kernel: snapshot has a different config"
  let (busy, outstanding) ← decodeState
  let op ← if busy then some <$> decodeOp else pure none
  let held ← decodeHeld
  let nextTxn ← field SnapshotFields.u64
  let model ← match source with
    | none => pure none
    | some source => some <$> decodeModel source
  return { outstanding, op, held, nextTxn, model }

end Decoding

end SystemScope.Os
