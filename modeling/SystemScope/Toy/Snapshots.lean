import SystemScope.Contracts.SnapshotData
import SystemScope.Framework.Refill
import SystemScope.Toy.Bus
import SystemScope.Toy.Dma
import SystemScope.Toy.Memory

/-!
# Snapshots of the toy components

The toy components restore in place: where one refuses a snapshot, it keeps what it took over from
it before.  A restore refuses snapshots of another configuration and ones that say what cannot be:
transactions that have not been allocated, and a slot that there is not (`ToyBus.Valid`,
`ToyDma.Valid`).

A bus has no priority out of range here, so a snapshot with one is refused before it is taken
over. -/

namespace SystemScope

/-- The fields of snapshots, queued messages included. -/
class ToySnapshotData extends SnapshotData where
  /-- `MemMsg::encode` and `MemMsg::decode`. -/
  memMsg : CanonicalCoder MemMsg

namespace Canonical

open Coder

scoped instance toySnapshotData : ToySnapshotData where
  toSnapshotData := snapshotData
  memMsg := memMsg

end Canonical

/-- A step of a restore in place. -/
abbrev Refilling (C : Type) := Refill C UInt8 RestoreError

namespace Refilling

variable {C α : Type}

/-- Restores a component: what is left of it, and the bytes left over or the error. -/
def run (p : Refilling C Unit) (c : C) (bs : Bytes) : C × Except RestoreError Bytes :=
  ((p c bs).1, (p c bs).2.map Prod.snd)

/-- Reads a value and takes it over. -/
def take (d : Restoring α) (put : α → C → C) : Refilling C α := do
  let x ← Refill.read d
  Refill.change (put x)
  return x

end Refilling

open SnapshotData SnapshotField Restoring Refill Refilling

variable [ToySnapshotData]

/-! ## The memory -/

namespace ToyMemoryConfig

def parts (config : ToyMemoryConfig) : List (Option Bytes) :=
  [SnapshotFields.u32.part config.size, u128.encode config.readLatency.femtoseconds,
    u128.encode config.writeLatency.femtoseconds]

end ToyMemoryConfig

namespace ToyMemory

variable {config : ToyMemoryConfig} (mem : ToyMemory config)

def parts : List (Option Bytes) := config.parts ++ [SnapshotData.bytes.encode mem.bytes.toList]

def snapshot : Option Bytes := Coder.concat mem.parts

/-- Reads the contents: they have the size of the memory. -/
def readContents (config : ToyMemoryConfig) : Restoring (Platform.Cell config.size.toNat) := do
  match Platform.Cell.ofBytes? config.size.toNat (← data SnapshotData.bytes) with
  | none => invalid "toy memory: wrong content size"
  | some cell => return cell

def restoring : Refilling (ToyMemory config) Unit := do
  Refill.read
    (expectRaw config.parts "toy memory: snapshot was taken with a different configuration")
  let contents ← Refill.read (readContents config)
  change fun _ => { bytes := contents }

end ToyMemory

instance {config : ToyMemoryConfig} : Component (ToyMemory config) where
  typeName _ := "toy.memory"
  ports := ToyMemory.ports
  init := ToyMemory.init
  handleEvent := ToyMemory.handleEvent
  snapshotSchemaVersion _ := 1
  snapshot mem := mem.snapshot.getD []
  restore mem bs _ := ToyMemory.restoring.run mem bs
  inspect := ToyMemory.inspect

/-! ## The bus -/

namespace ToyBus

open SnapshotFields ToySnapshotData

variable {config : ToyBusConfig} (bus : ToyBus config)

def queueParts (queue : List Request) : List (Option Bytes) :=
  len.encode queue.length :: queue.flatMap fun request => [memMsg.encode request.val]

def routeParts (e : TxnId × Route) : List (Option Bytes) :=
  [u64.part e.1, u16.part (upstreamPort e.2.port), u64.part e.2.txn, bool.part e.2.write]

def parts : List (Option Bytes) :=
  [u32.part config.clock, u64.part bus.nextDownstream, u16.part (upstreamPort bus.priority),
    bool.part bus.arbitrationScheduled] ++ queueParts (bus.queues.get 0) ++
    queueParts (bus.queues.get 1) ++ len.encode bus.routes.size ::
      bus.routes.toList.flatMap routeParts

def snapshot : Option Bytes := Coder.concat bus.parts

/-- Reads a queued message: a request. -/
def readRequest : Restoring Request := do
  match Request.of? (← data memMsg) with
  | none => invalid "toy bus: queued response"
  | some request => return request

/-- Reads a route: it has been allocated, after the ones before it. -/
def readRoute (nextDownstream : UInt64) (previous : Option TxnId) : Restoring (TxnId × Route) := do
  let downstream ← field u64
  if previous.any (fun p => downstream ≤ p) ∨ nextDownstream ≤ downstream then
    invalid "toy bus: routes out of order or not yet allocated"
  else
    let port ← field u16
    match side? port with
    | none => invalid "toy bus: unknown route port"
    | some port =>
      let txn ← field u64
      let write ← field bool
      return (downstream, { port, txn, write })

/-- Restores the queue of a side. -/
def restoringQueue (side : Upstream) : Refilling (ToyBus config) Unit := do
  change fun bus => { bus with queues := bus.queues.set side [] side.isLt }
  let count ← Refill.read (data len)
  forEach readRequest (fun request bus =>
    { bus with queues := bus.queues.set side (bus.queues.get side ++ [request]) side.isLt }) count

def restoring : Refilling (ToyBus config) Unit := do
  Refill.read (expect (field u32) config.clock
    "toy bus: snapshot was taken with a different configuration")
  let nextDownstream ← take (field u64) fun nextDownstream bus => { bus with nextDownstream }
  let priority ← Refill.read (field u16)
  let _ ← take (field bool) fun arbitrationScheduled bus => { bus with arbitrationScheduled }
  match side? priority with
  | none => refuse (.invalidState "toy bus: priority out of range")
  | some priority =>
    change fun bus => { bus with priority }
    restoringQueue 0
    restoringQueue 1
    change fun bus => { bus with routes := ∅ }
    let count ← Refill.read (data len)
    forEntries (readRoute nextDownstream) (fun e bus =>
      { bus with routes := bus.routes.insert e.1 e.2 }) count none

/-- A bus whose routes have been allocated. -/
def Valid : Prop := ∀ downstream route, bus.routes[downstream]? = some route →
  downstream < bus.nextDownstream

end ToyBus

instance {config : ToyBusConfig} : Component (ToyBus config) where
  typeName _ := "toy.bus"
  ports := ToyBus.ports
  init := ToyBus.init
  handleEvent := ToyBus.handleEvent
  snapshotSchemaVersion _ := 1
  snapshot bus := bus.snapshot.getD []
  restore bus bs _ := ToyBus.restoring.run bus bs
  inspect := ToyBus.inspect

/-! ## The CPU -/

namespace ToyCpuConfig

open SnapshotFields in
def parts (config : ToyCpuConfig) : List (Option Bytes) :=
  [u32.part config.clock, u64.part config.ops, u32.part config.maxOutstanding,
    u64.part config.maxThinkCycles.val, u32.part config.accessLen, u32.part config.slots,
    u64.part config.writePercent]

end ToyCpuConfig

namespace ToyCpu

open SnapshotFields

variable {config : ToyCpuConfig} (cpu : ToyCpu config)

def Op.parts : Op → List (Option Bytes)
  | .read addr => [u8.part 0, u64.part addr]
  | .write addr data => [u8.part 1, u64.part addr, bytes.encode data]

def opParts (e : TxnId × Op) : List (Option Bytes) := u64.part e.1 :: e.2.parts

def arrivalParts (e : Arrival) : List (Option Bytes) :=
  u64.part e.1 :: match e.2 with
    | none => [u8.part 0]
    | some data => [u8.part 1, bytes.encode data]

def slotParts (e : UInt64 × Bytes) : List (Option Bytes) := [u64.part e.1, bytes.encode e.2]

def parts : List (Option Bytes) :=
  config.parts ++ [u64.part cpu.issued, u64.part cpu.committed, u64.part cpu.nextTxn,
      bool.part cpu.issueScheduled, bool.part cpu.commitScheduled] ++
    len.encode cpu.outstanding.size :: cpu.outstanding.toList.flatMap opParts ++
    len.encode cpu.arrived.length :: cpu.arrived.flatMap arrivalParts ++
    len.encode cpu.shadow.size :: cpu.shadow.toList.flatMap slotParts ++ [u64.part cpu.checksum]

def snapshot : Option Bytes := Coder.concat cpu.parts

/-- Reads an operation in flight. -/
def readOp (previous : Option TxnId) : Restoring (TxnId × Op) := do
  let txn ← field u64
  if previous.any (fun p => txn ≤ p) then
    invalid "toy cpu: outstanding transactions out of order"
  else
    match ← field u8 with
    | 0 => return (txn, .read (← field u64))
    | 1 =>
      let addr ← field u64
      return (txn, .write addr (← data bytes))
    | tag => throw (.decode (.invalidTag "toy cpu operation" tag))

/-- Reads a response that arrived. -/
def readArrival : Restoring Arrival := do
  let txn ← field u64
  match ← field u8 with
  | 0 => return (txn, none)
  | 1 => return (txn, some (← data bytes))
  | tag => throw (.decode (.invalidTag "toy cpu arrival" tag))

/-- Reads a slot of the shadow. -/
def readSlot (previous : Option UInt64) : Restoring (UInt64 × Bytes) := do
  let addr ← field u64
  if previous.any (fun p => addr ≤ p) then invalid "toy cpu: shadow slots out of order"
  else return (addr, ← data bytes)

def restoring : Refilling (ToyCpu config) Unit := do
  Refill.read (expectRaw config.parts "toy cpu: snapshot was taken with a different configuration")
  let _ ← take (field u64) fun issued cpu => { cpu with issued }
  let _ ← take (field u64) fun committed cpu => { cpu with committed }
  let _ ← take (field u64) fun nextTxn cpu => { cpu with nextTxn }
  let _ ← take (field bool) fun issueScheduled cpu => { cpu with issueScheduled }
  let _ ← take (field bool) fun commitScheduled cpu => { cpu with commitScheduled }
  change fun cpu => { cpu with outstanding := ∅ }
  forEntries readOp (fun e cpu => { cpu with outstanding := cpu.outstanding.insert e.1 e.2 })
    (← Refill.read (data len)) none
  change fun cpu => { cpu with arrived := [] }
  forEach readArrival (fun e cpu => { cpu with arrived := cpu.arrived ++ [e] })
    (← Refill.read (data len))
  change fun cpu => { cpu with shadow := ∅ }
  forEntries readSlot (fun e cpu => { cpu with shadow := cpu.shadow.insert e.1 e.2 })
    (← Refill.read (data len)) none
  let _ ← take (field u64) fun checksum cpu => { cpu with checksum }

end ToyCpu

instance [SimRng] {config : ToyCpuConfig} : Component (ToyCpu config) where
  typeName _ := "toy.cpu"
  ports := ToyCpu.ports
  init cpu := cpu.init
  handleEvent cpu := cpu.handleEvent
  snapshotSchemaVersion _ := 1
  snapshot cpu := cpu.snapshot.getD []
  restore cpu bs _ := ToyCpu.restoring.run cpu bs
  inspect := ToyCpu.inspect

/-! ## The DMA -/

namespace ToyDmaConfig

open SnapshotFields in
def parts (config : ToyDmaConfig) : List (Option Bytes) :=
  [u32.part config.clock, u64.part config.ops, u32.part config.maxOutstanding,
    u64.part config.maxBurst.val, u64.part config.maxGapCycles.val, u64.part config.base,
    u32.part config.accessLen, u32.part config.slots]

end ToyDmaConfig

namespace ToyDma

open SnapshotFields

variable {config : ToyDmaConfig} (dma : ToyDma config)

def writeParts (e : TxnId × UInt64) : List (Option Bytes) := [u64.part e.1, u64.part e.2]

def parts : List (Option Bytes) :=
  config.parts ++ [u64.part dma.issued, u64.part dma.completed, u64.part dma.nextTxn,
      u32.part dma.burstSlot, u64.part dma.burstLeft, bool.part dma.wakeScheduled] ++
    len.encode dma.outstanding.size :: dma.outstanding.toList.flatMap writeParts ++
    [u64.part dma.checksum]

def snapshot : Option Bytes := Coder.concat dma.parts

/-- Reads a write in flight: it has been issued, after the ones before it. -/
def readWrite (nextTxn : UInt64) (previous : Option TxnId) : Restoring (TxnId × UInt64) := do
  let txn ← field u64
  if previous.any (fun p => txn ≤ p) ∨ nextTxn ≤ txn then
    invalid "toy dma: outstanding writes out of order"
  else return (txn, ← field u64)

def restoring : Refilling (ToyDma config) Unit := do
  Refill.read (expectRaw config.parts "toy dma: snapshot was taken with a different configuration")
  let _ ← take (field u64) fun issued dma => { dma with issued }
  let _ ← take (field u64) fun completed dma => { dma with completed }
  let nextTxn ← take (field u64) fun nextTxn dma => { dma with nextTxn }
  let burstSlot ← take (field u32) fun burstSlot dma => { dma with burstSlot }
  let _ ← take (field u64) fun burstLeft dma => { dma with burstLeft }
  let _ ← take (field bool) fun wakeScheduled dma => { dma with wakeScheduled }
  if config.slots ≤ burstSlot then refuse (.invalidState "toy dma: burst slot out of range")
  else
    change fun dma => { dma with outstanding := ∅ }
    forEntries (readWrite nextTxn) (fun e dma =>
      { dma with outstanding := dma.outstanding.insert e.1 e.2 }) (← Refill.read (data len)) none
    let _ ← take (field u64) fun checksum dma => { dma with checksum }

/-- A DMA that bursts in its region, and whose writes have been issued. -/
structure Valid : Prop where
  slot : dma.burstSlot < config.slots
  allocated : ∀ txn addr, dma.outstanding[txn]? = some addr → txn < dma.nextTxn

end ToyDma

instance [SimRng] {config : ToyDmaConfig} : Component (ToyDma config) where
  typeName _ := "toy.dma"
  ports := ToyDma.ports
  init dma := dma.init
  handleEvent dma := dma.handleEvent
  snapshotSchemaVersion _ := 1
  snapshot dma := dma.snapshot.getD []
  restore dma bs _ := ToyDma.restoring.run dma bs
  inspect := ToyDma.inspect

end SystemScope
