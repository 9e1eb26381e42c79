import SystemScope.Os.Process
import SystemScope.Os.Syscall

/-!
# Booting from disk

`components/os/src/boot.rs`: the registers of the block controller that the kernel drives, and where
boot is on the disk.
-/

namespace SystemScope

namespace Os

open Elf

/-- The offset of `COMMAND`. -/
def commandReg : ℕ := 0x00

/-- The offset of `STATUS`. -/
def statusReg : ℕ := 0x04

/-- The offset of `LBA`. -/
def lbaReg : ℕ := 0x08

/-- The offset of `MEM_ADDR`. -/
def memAddrReg : ℕ := 0x0C

/-- The offset of `BLOCK_COUNT`. -/
def blockCountReg : ℕ := 0x10

/-- The offset of `ACK`. -/
def ackReg : ℕ := 0x18

/-- The command of a read. -/
def opRead : UInt32 := 1

/-- `STATUS.DONE`. -/
def statusDone : UInt32 := (1 : UInt32) <<< 1

/-- The shift of `STATUS.ERROR`. -/
def statusErrorShift : UInt32 := 8

/-- What acknowledges `DONE`. -/
def ackDone : UInt32 := 1

/-- The size of an ELF32 header. -/
def elfHeaderBytes : UInt32 := 52

/-- Where boot is on the disk. -/
structure Cursor where
  /-- The validated table, or nothing while block 0 is being read. -/
  table : Option ExecTable
  /-- The entry that is being loaded. -/
  index : ℕ
  deriving DecidableEq, Repr

namespace Cursor

/-- The first transfer: block 0. -/
def first : Cursor := { table := none, index := 0 }

variable (c : Cursor)

/-- The entry that is being loaded. -/
def entry : Option ExecEntry := c.table.bind fun t => t.entries[c.index]?

/-- The PID that it becomes. -/
def pid : ℕ := c.index + 1

/-- The first block and the number of blocks to transfer. -/
def transfer : UInt32 × UInt32 :=
  match c.entry with
  | none => (0, 1)
  | some e => (e.startLba, e.blocks)

/-- The number of staging bytes to read first. -/
def firstRead : UInt32 :=
  match c.entry with
  | none => UInt32.ofNat blockSize
  | some e => min e.byteLen elfHeaderBytes

end Cursor

end Os

/-!
## Operations with processes

The first half of `components/os/src/procop.rs`: the stages that an operation of a kernel with
processes goes through, and the fixed list of accesses that each of them makes.
-/

namespace Os

open Elf

/-- The offset of `sstatus` in the trap frame. -/
def frameSstatus : ℕ := 0x80

/-- The offset of `scause` in the trap frame. -/
def frameScause : ℕ := 0x84

/-- The offset of `stval` in the trap frame. -/
def frameStval : ℕ := 0x88

/-- The offset of `satp` in the trap frame. -/
def frameSatp : ℕ := 0x8C

/-- One stage of an operation. -/
inductive Stage
  /-- Building a process in a space whose frames are reserved for it. -/
  | create (pid : ℕ) (space : Space)
  /-- Reading the trap frame. -/
  | readFrame
  /-- Writing the context and the `satp` of a process that is running. -/
  | dispatch (pid : ℕ) (context : Context) (satp : UInt32)
  /-- Writing `action` and `reason`. -/
  | shutdown (reason : UInt32)
  /-- Reading the entry of the next page of a buffer from a table. -/
  | walk (buffer : Buffer) (pages : List UInt32) (table : UInt32) (level : UInt8)
  /-- Transmitting the chunk of a buffer that starts after some bytes. -/
  | output (buffer : Buffer) (pages : List UInt32) (done : ℕ)
  /-- Writing the result of a syscall, then `sepc + 4`. -/
  | return_ (sepc value : UInt32)
  /-- Programming the block controller. -/
  | command (cursor : Cursor)
  /-- Reading `STATUS` once. -/
  | poll (cursor : Cursor)
  /-- Writing `ACK`, with the error of the transfer. -/
  | ack (cursor : Cursor) (error : UInt8)
  /-- Reading the first bytes of staging. -/
  | staged (cursor : Cursor) (len : UInt32)
  /-- Building the process of an entry from the executable in staging. -/
  | load (cursor : Cursor) (headers : Bytes) (image : UserImage) (space : Space)
  deriving DecidableEq

/-- The name that inspection uses. -/
def Stage.name : Stage → String
  | create .. => "create"
  | readFrame => "read_frame"
  | dispatch .. => "dispatch"
  | shutdown .. => "shutdown"
  | walk .. => "walk"
  | output .. => "output"
  | return_ .. => "return"
  | command .. => "blk_command"
  | poll .. => "blk_poll"
  | ack .. => "blk_ack"
  | staged .. => "read_staging"
  | load .. => "load"

/-- The PID and the frames of the creation in flight. -/
def Stage.creating : Stage → Option (ℕ × List UInt32)
  | create pid space => some (pid, space.frames)
  | load cursor _ _ space => some (cursor.pid, space.frames)
  | _ => none

/-- A running operation: its stage, how many accesses of it have completed, and the bytes it works
on. -/
structure ProcOp where
  stage : Stage
  step : ℕ
  data : Bytes
  deriving DecidableEq

def frameChunks (config : KernelConfig) : List (ℕ × ℕ) := chunks config.trapFrame.toNat frameBytes

def dispatchChunks (config : KernelConfig) : List (ℕ × ℕ) :=
  chunks config.trapFrame.toNat contextBytes ++ chunks (config.trapFrame.toNat + frameSatp) 8

def shutdownChunks (config : KernelConfig) : List (ℕ × ℕ) :=
  chunks (config.trapFrame.toNat + frameAction) 8

def stagedChunks (config : KernelConfig) (len : UInt32) : List (ℕ × ℕ) :=
  chunks config.staging.base.toNat len.toNat

/-- The bytes that the first accesses of a read return. -/
def readLen (chunks : List (ℕ × ℕ)) (step : ℕ) : ℕ := ((chunks.take step).map Prod.snd).sum

/-- The physical address of an address in a buffer whose pages are known. -/
def physical (buffer : Buffer) (pages : List UInt32) (va : ℕ) : Except Panic ℕ :=
  match pages[va / pageBytes - buffer.buf.toNat / pageBytes]? with
  | none => .error .index
  | some ppn => .ok (ppn.toNat * pageBytes + va % pageBytes)

/-- The words that program the block controller for a transfer. -/
def commandWords (config : KernelConfig) (cursor : Cursor) : List (ℕ × UInt32) :=
  [(lbaReg, cursor.transfer.1), (memAddrReg, UInt32.ofNat config.staging.base.toNat),
    (blockCountReg, cursor.transfer.2), (commandReg, opRead)]

/-- The trap frame of a process that is dispatched, as far as it is written. -/
def dispatchBytes (context : Context) (satp : UInt32) : Bytes :=
  -- `action` is 0, to resume.
  context.toFrame ++ List.replicate (frameSatp - contextBytes) 0 ++ wordBytes satp ++
    List.replicate (frameBytes - frameSatp - 4) 0

/-- A chunk as a read. -/
def readChunk (chunk : ℕ × ℕ) : Access := .read chunk.1 chunk.2

namespace ProcOp

/-- An operation at the start of a stage. -/
def new (stage : Stage) : ProcOp := { stage, step := 0, data := [] }

variable (config : KernelConfig) (o : ProcOp)

/-- The number of accesses of the stage. -/
def steps : Except Panic ℕ :=
  match o.stage with
  | .create _ space | .load _ _ _ space => space.steps
  | .readFrame => .ok (frameChunks config).length
  | .dispatch .. => .ok (dispatchChunks config).length
  | .shutdown _ => .ok (shutdownChunks config).length
  | .walk .. => .ok 1
  | .output buffer _ done => .ok (1 + (buffer.chunk done).2)
  | .return_ .. => .ok 2
  | .command _ => .ok 4
  | .poll _ | .ack .. => .ok 1
  | .staged _ len => .ok (stagedChunks config len).length

/-- The length of the working data at a step. -/
def dataLen (step : ℕ) : ℕ :=
  match o.stage with
  | .create _ space | .load _ _ _ space => space.dataLen step
  | .readFrame => readLen (frameChunks config) step
  | .staged _ len => readLen (stagedChunks config len) step
  | .output buffer _ done => if 0 < step then (buffer.chunk done).2 else 0
  | .dispatch .. | .shutdown _ | .walk .. | .return_ .. | .command _ | .poll _ | .ack .. => 0

/-- An operation at a step of a stage, unless no run reaches it. -/
def fromParts (stage : Stage) (step : ℕ) (data : Bytes) : Except Panic (Option ProcOp) := do
  let o : ProcOp := { stage, step, data }
  let steps ← o.steps config
  return if step < steps ∧ o.data.length = o.dataLen config step then some o else none

/-- The access that is due, or nothing once the stage has finished. -/
def access : Except Panic (Option Access) :=
  let frame := config.trapFrame.toNat
  match o.stage with
  | .create _ space | .load _ _ _ space => .ok (space.access o.step o.data)
  | .readFrame => .ok ((frameChunks config)[o.step]?.map readChunk)
  | .dispatch _ context satp =>
    .ok ((dispatchChunks config)[o.step]?.map (writeChunk frame (dispatchBytes context satp)))
  | .shutdown reason =>
    .ok ((shutdownChunks config)[o.step]?.map
      (writeChunk (frame + frameAction) (wordBytes 1 ++ wordBytes reason)))
  | .walk buffer pages table level =>
    if o.step = 0 then do
      let va ← buffer.pageVa pages.length
      return some (.read (pteAddress table va level) 4)
    else .ok none
  | .output buffer pages done =>
    let chunk := buffer.chunk done
    if o.step = 0 then do
      let addr ← physical buffer pages chunk.1
      return some (.read addr chunk.2)
    else if o.step ≤ chunk.2 then
      match o.data[o.step - 1]? with
      | none => .error .index
      | some b => .ok (some (.write config.uartTx.toNat [b]))
    else .ok none
  | .return_ sepc value =>
    .ok (match o.step with
      | 0 => some (.write (frame + frameA0) (wordBytes value))
      | 1 => some (.write (frame + frameSepc) (wordBytes (sepc + 4)))
      | _ => none)
  | .command cursor =>
    .ok ((commandWords config cursor)[o.step]?.map fun w =>
      .write (config.blk.base.toNat + w.1) (wordBytes w.2))
  | .poll _ =>
    .ok (if o.step = 0 then some (.read (config.blk.base.toNat + statusReg) 4) else none)
  | .ack .. =>
    .ok (if o.step = 0 then some (.write (config.blk.base.toNat + ackReg) (wordBytes ackDone))
      else none)
  | .staged _ len => .ok ((stagedChunks config len)[o.step]?.map readChunk)

/-- The working data after an access that a completion answers. -/
def answered : Access → Completion → Bytes → Except CoreError Bytes
  | .read _ len, .data data, held =>
    if data.length ≠ len then .error .dataLength else .ok (held ++ data)
  | .write .., .written, held => .ok held
  | _, _, _ => .error .wrongKind

/-- Goes to the next step.  The write of a copy drops the bytes it wrote. -/
def next (data : Bytes) : Except Panic ProcOp := do
  let o := { o with step := o.step + 1, data }
  let steps ← o.steps config
  return if o.step < steps ∧ o.data.length ≠ o.dataLen config o.step then { o with data := [] }
    else o

/-- Advances past the access that is due. -/
def complete (completion : Completion) : Except Panic (Except CoreError ProcOp) := do
  match ← o.access config with
  | none => return .error .finished
  | some access =>
    match answered access completion o.data with
    | .error e => return .error e
    | .ok data => return .ok (← o.next config data)

/-- Every access of the stage has completed. -/
def isFinished : Except Panic Bool := do return (← o.steps config) ≤ o.step

end ProcOp

end Os

end SystemScope
