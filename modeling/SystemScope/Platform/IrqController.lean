import SystemScope.Framework.ExactCodec
import SystemScope.Platform.Dma

/-!
# The interrupt controller

`components/platform/src/irqc.rs`: an aggregator of level-sensitive interrupt lines.  It holds the
level of each source as it arrives, and what software enables; its output to the CPU is asserted
while a source that is enabled is.
-/

namespace SystemScope.Platform

open MemV1 SnapshotData SnapshotField Restoring

/-- Source count and timing of a controller. -/
structure IrqControllerConfig where
  /-- At least 1, at most 32. -/
  sources : UInt8
  /-- From accepting a request to sending its response. -/
  latency : LinkLatency
  deriving DecidableEq, Repr

/-- Why a controller cannot be built. -/
inductive IrqControllerConfigError
  | noSources
  | tooManySources (n : UInt8)
  deriving DecidableEq, Repr

/-- A level-sensitive interrupt controller. -/
@[ext]
structure SimpleIrqController (config : IrqControllerConfig) where
  /-- Bit `i`: the level last received on source `i`. -/
  pending : UInt32
  /-- Bit `i`: source `i` is enabled. -/
  enable : UInt32
  /-- The level last sent on `cpu`. -/
  out : Bool
  deriving DecidableEq

namespace SimpleIrqController

/-- The offset of `PENDING`. -/
def pendingReg : UInt64 := 0x0

/-- The offset of `ENABLE`. -/
def enableReg : UInt64 := 0x4

/-- The most sources a controller has. -/
def maxSources : UInt8 := 32

def levelKind : String := "platform.irq.level"

def meipKind : String := "platform.irq.meip"

/-- The bits that so many sources use. -/
def validMask (sources : UInt8) : UInt32 :=
  if sources = 32 then 0xFFFFFFFF else (1 <<< sources.toUInt32) - 1

/-- A controller with every line deasserted and every source disabled. -/
def new (config : IrqControllerConfig) :
    Except IrqControllerConfigError (SimpleIrqController config) :=
  if config.sources = 0 then .error .noSources
  else if maxSources < config.sources then .error (.tooManySources config.sources)
  else .ok { pending := 0, enable := 0, out := false }

variable {config : IrqControllerConfig} (c : SimpleIrqController config)

/-- The port of a source. -/
def srcPort (index : UInt8) : PortId := index.toUInt16

/-- The `cpu` port, after the sources. -/
def cpuPort (config : IrqControllerConfig) : PortId := config.sources.toUInt16

/-- The `mem` port, last. -/
def memPort (config : IrqControllerConfig) : PortId := config.sources.toUInt16 + 1

/-! ## Handlers -/

/-- Faults the session. -/
def reject (what : String) : Handler (SimpleIrqController config) :=
  .done (.error (.componentFault what)) c

/-- Whether a source that is enabled is asserted. -/
def meip : Bool := c.pending &&& c.enable ≠ 0

/-- Recomputes the output and sends it if it changed. -/
def updateOutput (k : SimpleIrqController config → Handler (SimpleIrqController config)) :
    Handler (SimpleIrqController config) :=
  if c.meip = c.out then k c
  else
    .trace meipKind [("asserted", .bool c.meip)] <|
      .send (cpuPort config) (.irq (.level c.meip)) .now .complete fun
        | .error e => .done (.error e) { c with out := c.meip }
        | .ok () => k { c with out := c.meip }

def finish : Handler (SimpleIrqController config) := .done (.ok ()) c

/-- `pending` with the level of a source. -/
def pendingWith (index : UInt16) (asserted : Bool) : UInt32 :=
  let bit : UInt32 := 1 <<< index.toUInt32
  if asserted then c.pending ||| bit else c.pending &&& ~~~bit

/-- Takes a level on a source. -/
def level (index : UInt16) (msg : IrqMsg) : Handler (SimpleIrqController config) :=
  .phase fun phase =>
    if phase ≠ .complete then c.reject "irq controller: irq.v0 level arrived outside COMPLETE"
    else
      match msg with
      | .level asserted =>
        if c.pendingWith index asserted = c.pending then c.finish
        else
          .trace levelKind [("source", .u64 index.toUInt64), ("asserted", .bool asserted)] <|
            updateOutput { c with pending := c.pendingWith index asserted } finish

/-- Sends the response to a request. -/
def respond (resp : MemV1.MemMsg) : Handler (SimpleIrqController config) :=
  .send (memPort config) (.memV1 resp) (scheduleWhen config.latency) .complete fun result =>
    .done result c

/-- What a read of a register gives. -/
def readRegister (first : Option UInt64) (len : UInt32) : MemV1.ReadOutcome :=
  if first = some pendingReg ∧ len = 4 then
    .data (leBytes 4 (c.pending &&& validMask config.sources).toNat)
  else if first = some enableReg ∧ len = 4 then .data (leBytes 4 c.enable.toNat)
  else .fault .accessFault

/-- Reads or writes a register; the first byte is that of an access inside the address space. -/
def serve (first : Option UInt64) : MemV1.MemMsg → Handler (SimpleIrqController config)
  | .readReq txn _ len => c.respond (.readResp txn (c.readRegister first len))
  | .writeReq txn _ data =>
    match DmaBlockController.word? data with
    | some value =>
      if first = some enableReg then
        updateOutput { c with enable := value &&& validMask config.sources } fun next =>
          next.respond (.writeResp txn .done)
      else c.respond (.writeResp txn (.fault .accessFault))
    | none => c.respond (.writeResp txn (.fault .accessFault))
  | .readResp .. | .writeResp .. => c.reject "irq controller: response on the target port"

/-- Accepts a request on `mem`. -/
def request (msg : MemV1.MemMsg) : Handler (SimpleIrqController config) :=
  match msg.access with
  | none => c.reject "irq controller: response on the target port"
  | some .empty => c.reject "irq controller: zero-length request"
  | some .outOfRange => c.serve none msg
  | some (.bytes first _) => c.serve (some first) msg

/-- The name of a source port. -/
def srcName (index : ℕ) : String := "src" ++ toString index

def ports (_ : SimpleIrqController config) : List PortSpec :=
  ((List.range config.sources.toNat).map fun i =>
    { name := srcName i, protocol := irqV0Protocol, role := .target }) ++
    [{ name := "cpu", protocol := irqV0Protocol, role := .initiator },
      { name := "mem", protocol := memV1Protocol, role := .target }]

def init : Handler (SimpleIrqController config) := c.finish

def handleEvent : Delivered → Handler (SimpleIrqController config)
  | .wake _ => c.reject "irq controller: unexpected wake"
  | .message port msg =>
    if port < cpuPort config then
      match msg with
      | .irq msg => c.level port msg
      | _ => c.reject "irq controller: message on a source is not irq.v0"
    else if port = cpuPort config then c.reject "irq controller: message on the cpu port"
    else if port = memPort config then
      match msg with
      | .memV1 msg => c.request msg
      | _ => c.reject "irq controller: message on mem is not mem.v1"
    else c.reject "irq controller: message on an unknown port"

def inspect : StateView where
  fields :=
    [("sources", .u64 config.sources.toUInt64), ("pending", .u64 c.pending.toUInt64),
      ("enable", .u64 c.enable.toUInt64), ("out", .bool c.out)]

/-! ## Snapshots -/

variable [SnapshotData]

/-- The snapshot of a controller, schema 1. -/
def parts : List (Option Bytes) :=
  SnapshotFields.u8.part config.sources :: latencyParts config.latency ++
    [SnapshotFields.u32.part c.pending, SnapshotFields.u32.part c.enable,
      SnapshotFields.bool.part c.out]

def snapshot : Option Bytes := Coder.concat c.parts

/-- Reads a controller of the given configuration. -/
def restoreState (config : IrqControllerConfig) : Restoring (SimpleIrqController config) := do
  let sources ← field SnapshotFields.u8
  if sources ≠ config.sources then
    invalid "irq controller: snapshot has a different source count" else
  expectRaw (latencyParts config.latency) "irq controller: snapshot has a different latency"
  let pending ← field SnapshotFields.u32
  let enable ← field SnapshotFields.u32
  let out ← field SnapshotFields.bool
  if pending &&& ~~~validMask config.sources ≠ 0 then
    invalid "irq controller: pending bit outside the sources" else
  if enable &&& ~~~validMask config.sources ≠ 0 then
    invalid "irq controller: enable bit outside the sources" else
  let restored : SimpleIrqController config := { pending, enable, out }
  if out ≠ restored.meip then invalid "irq controller: out is not (pending & enable) != 0"
  else return restored

/-- Replaces the whole state with the snapshot's, or leaves it as it is. -/
def restore (bs : Bytes) (_ : UInt32) : SimpleIrqController config × Except RestoreError Bytes :=
  (restoreState config).into id c bs

instance : Component (SimpleIrqController config) where
  typeName _ := "platform.irqc"
  ports := ports
  init := init
  handleEvent := handleEvent
  snapshotSchemaVersion _ := 1
  snapshot c := c.snapshot.getD []
  restore c := c.restore
  inspect := inspect

end SimpleIrqController

end SystemScope.Platform
