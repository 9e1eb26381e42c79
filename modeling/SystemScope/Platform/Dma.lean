import SystemScope.Platform.Media

/-!
# The block DMA controller

`components/platform/src/dma.rs`: registers behind a `mem.v1` window, and an engine that moves
blocks between a `block.v0` media and memory, 16 bytes at a time.

A controller belongs to a configuration.  Functions that a caller of the source continues after take
what happens next as an argument; a call of the context that fails ends the handler where it is.  A
slice out of bounds, which stops the simulator, is a fault of the session here.
-/

namespace SystemScope

namespace Platform

open MemV1

/-! ## Configuration and state -/

/-- Configuration of a controller. -/
structure DmaBlockControllerConfig where
  /-- The engine's clock domain. -/
  clock : ClockDomainId
  /-- From accepting an MMIO request to sending its response. -/
  latency : LinkLatency
  /-- Blocks that commands are validated against. -/
  capacityBlocks : UInt64
  /-- First address of the DMA aperture. -/
  dmaBase : UInt64
  /-- Size of the DMA aperture in bytes. -/
  dmaSize : UInt64
  deriving DecidableEq, Repr

/-- Why a controller cannot be built. -/
inductive DmaBlockControllerConfigError
  | capacity (blocks : UInt64)
  | emptyAperture
  | apertureOutOfRange
  deriving DecidableEq, Repr

/-- What an accepted command does. -/
inductive Operation
  /-- Media to RAM. -/
  | read
  /-- RAM to media. -/
  | write
  deriving DecidableEq, Repr

/-- The `COMMAND` value, as the snapshot stores it. -/
def Operation.code : Operation → UInt8
  | .read => 1
  | .write => 2

/-- The registers a command latched when it was accepted. -/
structure Latched where
  op : Operation
  lba : UInt32
  addr : UInt32
  count : UInt32
  deriving DecidableEq, Repr

/-- The engine's position. -/
inductive Engine
  /-- No command, or DONE. -/
  | idle
  /-- The next request is due at the wake. -/
  | issue
  /-- The block request of the current block is outstanding. -/
  | waitMedia (txn : TxnId)
  /-- The current beat is outstanding. -/
  | waitBeat (txn : TxnId)
  deriving DecidableEq, Repr

/-- The block-device DMA controller. -/
@[ext]
structure DmaBlockController (config : DmaBlockControllerConfig) where
  lba : UInt32
  memAddr : UInt32
  blockCount : UInt32
  /-- Bit 0 only. -/
  irqEnable : UInt32
  busy : Bool
  done : Bool
  rejected : Bool
  error : UInt8
  /-- Present exactly when BUSY. -/
  latched : Option Latched
  engine : Engine
  /-- Block index of the latched command. -/
  block : UInt32
  /-- Beat index in the block. -/
  beat : UInt8
  /-- What is held of the block. -/
  buffer : Bytes
  /-- Next transaction on `dma`. -/
  dmaTxn : TxnId
  /-- Next transaction on `blk`. -/
  blkTxn : TxnId
  /-- The last level sent on `irq`. -/
  irqLevel : Bool
  deriving DecidableEq

/-- The largest capacity: LBAs are 32 bits. -/
def maxCapacityBlocks : UInt64 := 4294967296

/-- DMA addresses are below this. -/
def addressLimit : UInt64 := 4294967296

/-- One DMA beat. -/
def beatSize : ℕ := 16

def beatsPerBlock : UInt8 := 32

namespace DmaBlockController

/-! ## Registers, codes and ports -/

/-- The offset of `COMMAND`, and so on below. -/
def commandReg : UInt64 := 0x00

def statusReg : UInt64 := 0x04

def lbaReg : UInt64 := 0x08

def memAddrReg : UInt64 := 0x0C

def blockCountReg : UInt64 := 0x10

def irqEnableReg : UInt64 := 0x14

/-- `IRQ_STATUS` when read, `ACK` when written. -/
def ackReg : UInt64 := 0x18

/-- The size of the window. -/
def windowSize : UInt64 := 0x20

/-- `STATUS` bit 2. -/
def statusRejected : UInt32 := 4

def badCommand : UInt8 := 1

def badCount : UInt8 := 2

def lbaRange : UInt8 := 3

def dmaAlign : UInt8 := 4

def dmaRange : UInt8 := 5

def dmaFault : UInt8 := 6

def mediaError : UInt8 := 7

/-- The token of the wake that sends the engine's next request. -/
def issueToken : UInt64 := 0

def commandKind : String := "platform.blk.command"

def doneKind : String := "platform.blk.done"

def rejectedKind : String := "platform.blk.rejected"

def memPort : PortId := 0

def dmaPort : PortId := 1

def blkPort : PortId := 2

def irqPort : PortId := 3

/-- The index arithmetic of the engine overflowed. -/
def indexOverflow : String := "dma controller: engine index overflow"

/-- The wake came when no request was due. -/
def nothingToIssue : String := "dma controller: ISSUE wake with nothing to issue"

/-- A slice of the buffer that the source does not check. -/
def sliceOutOfBounds : String := "dma controller: beat outside the buffer"

/-- A counter ran out. -/
def txnExhausted : String := "dma controller: TxnId space exhausted"

variable {config : DmaBlockControllerConfig}

/-- Creates a controller in IDLE. -/
def new (config : DmaBlockControllerConfig) :
    Except DmaBlockControllerConfigError (DmaBlockController config) :=
  if config.capacityBlocks = 0 ∨ maxCapacityBlocks < config.capacityBlocks then
    .error (.capacity config.capacityBlocks)
  else if config.dmaSize = 0 then .error .emptyAperture
  else if (checkedAdd config.dmaBase config.dmaSize).all fun stop => addressLimit < stop then
    .error .apertureOutOfRange
  else
    .ok
      { lba := 0, memAddr := 0, blockCount := 0, irqEnable := 0, busy := false, done := false,
        rejected := false, error := 0, latched := none, engine := .idle, block := 0, beat := 0,
        buffer := [], dmaTxn := 0, blkTxn := 0, irqLevel := false }

end DmaBlockController

/-- Checks a command against the latched registers: the operation, or the first failing check's
code. -/
def DmaBlockControllerConfig.validate (config : DmaBlockControllerConfig)
    (command lba addr count : UInt32) : Except UInt8 Operation :=
  let check (op : Operation) : Except UInt8 Operation :=
    if count = 0 then .error DmaBlockController.badCount
    else if (checkedAdd lba.toUInt64 count.toUInt64).all fun stop =>
      config.capacityBlocks < stop then
      .error DmaBlockController.lbaRange
    else if addr.toUInt64 % 16 ≠ 0 then .error DmaBlockController.dmaAlign
    else
      let total := (checkedMul count.toUInt64 512).bind (checkedAdd addr.toUInt64)
      if total.any fun stop =>
          config.dmaBase ≤ addr.toUInt64 && stop ≤ config.dmaBase + config.dmaSize then
        .ok op
      else .error DmaBlockController.dmaRange
  if command = 1 then check .read
  else if command = 2 then check .write
  else .error DmaBlockController.badCommand

namespace DmaBlockController

variable {config : DmaBlockControllerConfig} (c : DmaBlockController config)

/-- The `STATUS` register. -/
def status : UInt32 :=
  c.error.toUInt32 <<< 8 ||| (if c.busy then 1 else 0) ||| (if c.done then 2 else 0) |||
    (if c.rejected then statusRejected else 0)

/-- Whether the interrupt line is asserted. -/
def level : Bool := c.done && c.irqEnable &&& 1 ≠ 0

/-! ## Ends of handlers -/

/-- Faults the session. -/
def reject (what : String) : Handler (DmaBlockController config) :=
  .done (.error (.componentFault what)) c

/-- The event is handled. -/
def finish : Handler (DmaBlockController config) := .done (.ok ()) c

/-- Recomputes the interrupt line and sends it if it changed. -/
def updateIrq (k : DmaBlockController config → Handler (DmaBlockController config)) :
    Handler (DmaBlockController config) :=
  if c.level = c.irqLevel then k c
  else
    .send irqPort (.irq (.level c.level)) .now .complete fun
      | .error e => .done (.error e) { c with irqLevel := c.level }
      | .ok () => k { c with irqLevel := c.level }

/-- Wakes the engine at the next controller cycle. -/
def wakeNextCycle (k : DmaBlockController config → Handler (DmaBlockController config)) :
    Handler (DmaBlockController config) :=
  .wakeSelf (.cycles config.clock 1) .request issueToken fun
    | .error e => .done (.error e) c
    | .ok () => k c

/-- Ends the command, or a failed validation. -/
def complete (code : UInt8)
    (k : DmaBlockController config → Handler (DmaBlockController config)) :
    Handler (DmaBlockController config) :=
  .trace doneKind [("error", .u64 code.toUInt64)] <|
    updateIrq
      { c with busy := false, done := true, error := code, latched := none, engine := .idle,
               block := 0, beat := 0, buffer := [] } k

/-! ## The engine -/

/-- The value after a counter, unless there is none. -/
def nextTxn (counter : TxnId) : Option TxnId := checkedAdd counter 1

/-- The media block of the current block. -/
def blockLba (latched : Latched) : Option UInt64 :=
  checkedAdd latched.lba.toUInt64 c.block.toUInt64

/-- The address of the current beat. -/
def beatAddr (latched : Latched) : Option UInt64 :=
  ((checkedMul c.block.toUInt64 512).bind fun block =>
    checkedAdd block (c.beat.toUInt64 * 16)).bind fun delta =>
      checkedAdd latched.addr.toUInt64 delta

/-- Sends a block request and waits for its result. -/
def sendBlock (msg : BlockMsg)
    (k : DmaBlockController config → Handler (DmaBlockController config)) :
    Handler (DmaBlockController config) :=
  match nextTxn c.blkTxn with
  | none => c.reject txnExhausted
  | some next =>
    .send blkPort (.block msg) .now .request fun
      | .error e => .done (.error e) c
      | .ok () => k { c with blkTxn := next, engine := .waitMedia c.blkTxn }

/-- Sends a beat and waits for its response. -/
def sendBeat (msg : MemV1.MemMsg) : Handler (DmaBlockController config) :=
  match nextTxn c.dmaTxn with
  | none => c.reject txnExhausted
  | some next =>
    .send dmaPort (.memV1 msg) .now .request fun
      | .error e => .done (.error e) c
      | .ok () => finish { c with dmaTxn := next, engine := .waitBeat c.dmaTxn }

def issueReadBlock (latched : Latched) : Handler (DmaBlockController config) :=
  match c.blockLba latched with
  | none => c.reject indexOverflow
  | some lba => c.sendBlock (.readBlock c.blkTxn lba) finish

def issueWriteBeat (latched : Latched) : Handler (DmaBlockController config) :=
  match c.beatAddr latched with
  | none => c.reject indexOverflow
  | some addr =>
    let start := c.beat.toNat * beatSize
    if start + beatSize ≤ c.buffer.length then
      c.sendBeat (.writeReq c.dmaTxn addr ((c.buffer.drop start).take beatSize))
    else c.reject sliceOutOfBounds

/-- The request carries the data, and none is kept while it is outstanding. -/
def issueWriteBlock (latched : Latched) : Handler (DmaBlockController config) :=
  match c.blockLba latched with
  | none => c.reject indexOverflow
  | some lba =>
    c.sendBlock (.writeBlock c.blkTxn lba c.buffer) fun sent => finish { sent with buffer := [] }

def issueReadBeat (latched : Latched) : Handler (DmaBlockController config) :=
  match c.beatAddr latched with
  | none => c.reject indexOverflow
  | some addr => c.sendBeat (.readReq c.dmaTxn addr 16)

/-- Sends the latched command's next request. -/
def issue : Handler (DmaBlockController config) :=
  match c.engine, c.latched with
  | .issue, some latched =>
    match latched.op with
    | .read => if c.buffer = [] then c.issueReadBlock latched else c.issueWriteBeat latched
    | .write =>
      if c.beat = beatsPerBlock then c.issueWriteBlock latched else c.issueReadBeat latched
  | _, _ => c.reject nothingToIssue

/-- Checks that a result answers the outstanding request, in its phase. -/
def checkResult (txn expected : TxnId) (k : Handler (DmaBlockController config)) :
    Handler (DmaBlockController config) :=
  if txn ≠ expected then c.reject "dma controller: result for a txn that is not outstanding"
  else
    .phase fun phase =>
      if phase ≠ .complete then c.reject "dma controller: result arrived outside COMPLETE" else k

/-- Starts the next block, or completes the command after the last one. -/
def nextBlock (latched : Latched) : Handler (DmaBlockController config) :=
  let cleared := { c with beat := 0, buffer := [] }
  if c.block.toNat + 1 < 2 ^ 32 then
    let next := { cleared with block := c.block + 1 }
    if next.block = latched.count then next.complete 0 finish
    else wakeNextCycle { next with engine := .issue } finish
  else cleared.reject indexOverflow

/-- A message on `blk`. -/
def mediaResult (msg : BlockMsg) : Handler (DmaBlockController config) :=
  match c.engine, c.latched with
  | .waitMedia expected, some latched =>
    match latched.op, msg with
    | .read, .readResult txn outcome =>
      c.checkResult txn expected <|
        match outcome with
        | .data data =>
          if data.length ≠ blockSize then c.reject "dma controller: block data is not 512 bytes"
          else wakeNextCycle { c with buffer := data, engine := .issue } finish
        | .error _ => c.complete mediaError finish
    | .write, .writeResult txn outcome =>
      c.checkResult txn expected <|
        match outcome with
        | .done => c.nextBlock latched
        | .error _ => c.complete mediaError finish
    | _, _ =>
      c.reject "dma controller: block.v0 message is not the outstanding request's result"
  | _, _ => c.reject "dma controller: block.v0 message with no request outstanding"

/-- A message on `dma`. -/
def beatResult (msg : MemV1.MemMsg) : Handler (DmaBlockController config) :=
  match c.engine, c.latched with
  | .waitBeat expected, some latched =>
    match latched.op, msg with
    | .read, .writeResp txn outcome =>
      c.checkResult txn expected <|
        match outcome with
        | .fault _ => c.complete dmaFault finish
        | .done =>
          let next := { c with beat := c.beat + 1 }
          if next.beat = beatsPerBlock then next.nextBlock latched
          else wakeNextCycle { next with engine := .issue } finish
    | .write, .readResp txn outcome =>
      c.checkResult txn expected <|
        match outcome with
        | .fault _ => c.complete dmaFault finish
        | .data data =>
          if data.length ≠ beatSize then c.reject "dma controller: beat data is not 16 bytes"
          else
            wakeNextCycle
              { c with buffer := c.buffer ++ data, beat := c.beat + 1, engine := .issue } finish
    | _, _ =>
      c.reject "dma controller: mem.v1 message is not the outstanding beat's response"
  | _, _ => c.reject "dma controller: mem.v1 message with no beat outstanding"

/-! ## The window -/

/-- A `COMMAND` write. -/
def command (value : UInt32)
    (k : DmaBlockController config → Handler (DmaBlockController config)) :
    Handler (DmaBlockController config) :=
  if c.busy || c.done then .trace rejectedKind [] (k { c with rejected := true })
  else
    let result := config.validate value c.lba c.memAddr c.blockCount
    .trace commandKind
      [("op", .u64 value.toUInt64), ("lba", .u64 c.lba.toUInt64), ("addr", .u64 c.memAddr.toUInt64),
        ("count", .u64 c.blockCount.toUInt64), ("accepted", .bool result.isOk)] <|
      match result with
      | .ok op =>
        wakeNextCycle
          { c with busy := true,
                   latched := some { op, lba := c.lba, addr := c.memAddr, count := c.blockCount },
                   engine := .issue } k
      | .error code => c.complete code k

/-- A register as a read sees it. -/
def readRegister (offset : UInt64) : Option UInt32 :=
  if offset = statusReg then some c.status
  else if offset = lbaReg then some c.lba
  else if offset = memAddrReg then some c.memAddr
  else if offset = blockCountReg then some c.blockCount
  else if offset = irqEnableReg then some c.irqEnable
  else if offset = ackReg then some (if c.done then 1 else 0)
  else none

/-- Writes a register, and goes on with whether it can be written. -/
def writeRegister (offset : UInt64) (value : UInt32)
    (k : Bool → DmaBlockController config → Handler (DmaBlockController config)) :
    Handler (DmaBlockController config) :=
  if offset = commandReg then c.command value (k true)
  else if offset = statusReg then
    k true (if value &&& statusRejected ≠ 0 then { c with rejected := false } else c)
  else if offset = lbaReg then k true { c with lba := value }
  else if offset = memAddrReg then k true { c with memAddr := value }
  else if offset = blockCountReg then k true { c with blockCount := value }
  else if offset = irqEnableReg then updateIrq { c with irqEnable := value &&& 1 } (k true)
  else if offset = ackReg then
    if value &&& 1 ≠ 0 ∧ c.done then updateIrq { c with done := false, error := 0 } (k true)
    else k true c
  else k false c

/-- Sends the response to an MMIO request. -/
def respond (resp : MemV1.MemMsg) : Handler (DmaBlockController config) :=
  .send memPort (.memV1 resp) (scheduleWhen config.latency) .complete fun result => .done result c

/-- `u32::from_le_bytes` of four bytes. -/
def word? (data : Bytes) : Option UInt32 :=
  if data.length = 4 then some (UInt32.ofNat (leNat data)) else none

/-- Reads or writes the register at an offset, if there is one. -/
def serve (word : Option UInt64) : MemV1.MemMsg → Handler (DmaBlockController config)
  | .readReq txn _ _ =>
    match word.bind c.readRegister with
    | some value => c.respond (.readResp txn (.data (leBytes 4 value.toNat)))
    | none => c.respond (.readResp txn (.fault .accessFault))
  | .writeReq txn _ data =>
    match word, word? data with
    | some offset, some value =>
      c.writeRegister offset value fun written next =>
        next.respond (.writeResp txn (if written then .done else .fault .accessFault))
    | _, _ => c.respond (.writeResp txn (.fault .accessFault))
  | .readResp .. | .writeResp .. => c.reject "dma controller: response on the mem port"

/-- Accepts a request on `mem`: the offset of an aligned 4-byte access in the window, if it is
one. -/
def request (msg : MemV1.MemMsg) : Handler (DmaBlockController config) :=
  match msg.access with
  | none => c.reject "dma controller: response on the mem port"
  | some .empty => c.reject "dma controller: zero-length request"
  | some .outOfRange => c.serve none msg
  | some (.bytes first last) =>
    c.serve (if last - first = 3 ∧ first % 4 = 0 ∧ first < windowSize then some first else none) msg

/-! ## The component -/

def ports (_ : DmaBlockController config) : List PortSpec :=
  [{ name := "mem", protocol := memV1Protocol, role := .target },
    { name := "dma", protocol := memV1Protocol, role := .initiator },
    { name := "blk", protocol := blockV0Protocol, role := .initiator },
    { name := "irq", protocol := irqV0Protocol, role := .initiator }]

def init : Handler (DmaBlockController config) := c.finish

/-- The fault of everything that is not for the controller. -/
def unexpected : Handler (DmaBlockController config) :=
  c.reject "dma controller: unexpected delivery"

def handleEvent : Delivered → Handler (DmaBlockController config)
  | .message port (.memV1 msg) =>
    if port = memPort then c.request msg
    else if port = dmaPort then c.beatResult msg
    else c.unexpected
  | .message port (.block msg) => if port = blkPort then c.mediaResult msg else c.unexpected
  | .wake token => if token = issueToken then c.issue else c.unexpected
  | .message _ (.mem _) | .message _ (.irq _) => c.unexpected

/-- A number as `{:#x}` shows it. -/
def hex (n : ℕ) : String := "0x" ++ String.ofList (Nat.toDigits 16 n)

def inspectLatched : Option Latched → String
  | none => "none"
  | some l =>
    (match l.op with
      | .read => "read"
      | .write => "write") ++
      " lba=" ++ hex l.lba.toNat ++ " addr=" ++ hex l.addr.toNat ++ " count=" ++
      toString l.count.toNat

def inspectEngine : Engine → String
  | .idle => "idle"
  | .issue => "issue"
  | .waitMedia _ => "wait_media"
  | .waitBeat _ => "wait_beat"

def inspect : StateView where
  fields :=
    [("lba", .u64 c.lba.toUInt64), ("mem_addr", .u64 c.memAddr.toUInt64),
      ("block_count", .u64 c.blockCount.toUInt64), ("irq_enable", .u64 c.irqEnable.toUInt64),
      ("status", .u64 c.status.toUInt64),
      ("state", .str (if c.busy then "busy" else if c.done then "done" else "idle")),
      ("error", .u64 c.error.toUInt64), ("rejected", .bool c.rejected),
      ("command", .str (inspectLatched c.latched)), ("engine", .str (inspectEngine c.engine)),
      ("block", .u64 c.block.toUInt64), ("beat", .u64 c.beat.toUInt64), ("irq", .bool c.irqLevel)]

end DmaBlockController

end Platform

/-!
## Snapshots of the block DMA controller

What a controller writes, in the order of `docs/m2-design.md` §9.9, and what it takes back.  The
format is conditional: the latched command is there when BUSY only, and the outstanding transaction
in the two waiting states only.  `PositionOk` is the check of the engine's position against the
command; the rest of the checks are made in place.
-/

namespace Platform

open SnapshotData SnapshotField Restoring

namespace DmaBlockController

/-- The transaction is the last one its counter gave out. -/
def Latest (next txn : TxnId) : Prop := next ≠ 0 ∧ next - 1 = txn

instance (next txn : TxnId) : Decidable (Latest next txn) := by
  unfold Latest
  infer_instance

/-- The position of a READ at a beat: the block is held in full, or not at all. -/
def ReadPositionOk (engine : Engine) (beat : UInt8) (buffer : Bytes) (dmaTxn blkTxn : TxnId) :
    Prop :=
  match engine with
  | .idle => False
  | .issue => buffer.length = blockSize ∨ buffer = [] ∧ beat = 0
  | .waitMedia txn => buffer = [] ∧ beat = 0 ∧ Latest blkTxn txn
  | .waitBeat txn => buffer.length = blockSize ∧ Latest dmaTxn txn

/-- The position of a WRITE at a beat: the beats before it are held. -/
def WritePositionOk (engine : Engine) (beat : UInt8) (buffer : Bytes) (dmaTxn blkTxn : TxnId) :
    Prop :=
  match engine with
  | .idle => False
  | .issue => buffer.length = beat.toNat * beatSize
  | .waitBeat txn =>
    beat < beatsPerBlock ∧ buffer.length = beat.toNat * beatSize ∧ Latest dmaTxn txn
  | .waitMedia txn => beat = beatsPerBlock ∧ buffer = [] ∧ Latest blkTxn txn

/-- The engine is where the latched command, or its absence, can put it. -/
def PositionOk (latched : Option Latched) (engine : Engine) (block : UInt32) (beat : UInt8)
    (buffer : Bytes) (dmaTxn blkTxn : TxnId) : Prop :=
  match latched with
  | none => engine = .idle ∧ block = 0 ∧ beat = 0 ∧ buffer = []
  | some { op := .write, count, .. } =>
    block < count ∧ beat ≤ beatsPerBlock ∧ WritePositionOk engine beat buffer dmaTxn blkTxn
  | some { op := .read, count, .. } =>
    block < count ∧ beat < beatsPerBlock ∧ ReadPositionOk engine beat buffer dmaTxn blkTxn

instance (latched : Option Latched) (engine : Engine) (block : UInt32) (beat : UInt8)
    (buffer : Bytes) (dmaTxn blkTxn : TxnId) :
    Decidable (PositionOk latched engine block beat buffer dmaTxn blkTxn) := by
  unfold PositionOk ReadPositionOk WritePositionOk
  split
  · infer_instance
  · cases engine <;> infer_instance
  · cases engine <;> infer_instance

variable [SnapshotData] {config : DmaBlockControllerConfig} (c : DmaBlockController config)

/-! ## Writing -/

/-- `write_config`. -/
def configParts (config : DmaBlockControllerConfig) : List (Option Bytes) :=
  [SnapshotFields.u32.part config.clock] ++ latencyParts config.latency ++
    [SnapshotFields.u64.part config.capacityBlocks, SnapshotFields.u64.part config.dmaBase,
      SnapshotFields.u64.part config.dmaSize]

def latchedParts : Option Latched → List (Option Bytes)
  | none => []
  | some l =>
    [SnapshotFields.u8.part l.op.code, SnapshotFields.u32.part l.lba,
      SnapshotFields.u32.part l.addr, SnapshotFields.u32.part l.count]

def engineParts : Engine → List (Option Bytes)
  | .idle => [SnapshotFields.u8.part 0]
  | .issue => [SnapshotFields.u8.part 1]
  | .waitMedia txn => [SnapshotFields.u8.part 2, SnapshotFields.u64.part txn]
  | .waitBeat txn => [SnapshotFields.u8.part 3, SnapshotFields.u64.part txn]

def parts : List (Option Bytes) :=
  configParts config ++
    [SnapshotFields.u32.part c.lba, SnapshotFields.u32.part c.memAddr,
      SnapshotFields.u32.part c.blockCount, SnapshotFields.u32.part c.irqEnable,
      SnapshotFields.bool.part c.busy, SnapshotFields.bool.part c.done,
      SnapshotFields.bool.part c.rejected, SnapshotFields.u8.part c.error] ++
    latchedParts c.latched ++ engineParts c.engine ++
    [SnapshotFields.u32.part c.block, SnapshotFields.u8.part c.beat, bytes.encode c.buffer,
      SnapshotFields.u64.part c.dmaTxn, SnapshotFields.u64.part c.blkTxn,
      SnapshotFields.bool.part c.irqLevel]

/-- The snapshot of a controller, schema 1. -/
def snapshot : Option Bytes := Coder.concat c.parts

/-! ## Restoring -/

/-- The latched command, which passes validation. -/
def readLatched (config : DmaBlockControllerConfig) (busy : Bool) : Restoring (Option Latched) :=
  if busy then do
    let code ← field SnapshotFields.u8
    let lba ← field SnapshotFields.u32
    let addr ← field SnapshotFields.u32
    let count ← field SnapshotFields.u32
    match config.validate code.toUInt32 lba addr count with
    | .ok op => return some { op, lba, addr, count }
    | .error _ => invalid "dma controller: latched command fails validation"
  else return none

def readEngine : Restoring Engine := do
  let tag ← field SnapshotFields.u8
  if tag = 0 then return .idle
  else if tag = 1 then return .issue
  else if tag = 2 then return .waitMedia (← field SnapshotFields.u64)
  else if tag = 3 then return .waitBeat (← field SnapshotFields.u64)
  else invalid "dma controller: unknown engine state"

/-- Reads a controller of the given configuration. -/
def restoreState (config : DmaBlockControllerConfig) : Restoring (DmaBlockController config) := do
  expectRaw (configParts config) "dma controller: snapshot has a different config"
  let lba ← field SnapshotFields.u32
  let memAddr ← field SnapshotFields.u32
  let blockCount ← field SnapshotFields.u32
  let irqEnable ← field SnapshotFields.u32
  if irqEnable &&& ~~~1 ≠ 0 then invalid "dma controller: IRQ_ENABLE has unused bits" else
  let busy ← field SnapshotFields.bool
  let done ← field SnapshotFields.bool
  let rejected ← field SnapshotFields.bool
  let error ← field SnapshotFields.u8
  if busy ∧ done then invalid "dma controller: BUSY and DONE together" else
  if ¬(if done then error ≤ mediaError else error = 0) then
    invalid "dma controller: ERROR does not match the state" else
  let latched ← readLatched config busy
  let engine ← readEngine
  let block ← field SnapshotFields.u32
  let beat ← field SnapshotFields.u8
  let buffer ← data bytes
  let dmaTxn ← field SnapshotFields.u64
  let blkTxn ← field SnapshotFields.u64
  let irqLevel ← field SnapshotFields.bool
  if ¬PositionOk latched engine block beat buffer dmaTxn blkTxn then
    invalid "dma controller: engine position not reachable for the command" else
  let restored : DmaBlockController config :=
    { lba, memAddr, blockCount, irqEnable, busy, done, rejected, error, latched, engine, block,
      beat, buffer, dmaTxn, blkTxn, irqLevel }
  if irqLevel ≠ restored.level then invalid "dma controller: IRQ level is not DONE && IRQ_ENABLE"
  else return restored

/-- Replaces the whole state with the snapshot's, or leaves it as it is. -/
def restore (bs : Bytes) (_ : UInt32) : DmaBlockController config × Except RestoreError Bytes :=
  (restoreState config).into id c bs

instance : Component (DmaBlockController config) where
  typeName _ := "platform.blk"
  ports := ports
  init := init
  handleEvent := handleEvent
  snapshotSchemaVersion _ := 1
  snapshot c := c.snapshot.getD []
  restore c := c.restore
  inspect := inspect

end DmaBlockController

end Platform

end SystemScope
