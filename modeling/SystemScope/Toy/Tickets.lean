import SystemScope.Framework.ByteMap
import SystemScope.Toy.Soc
import SystemScope.Toy.Steps

/-!
# Where the operations of the toy system are

Each operation that has been issued and not retired has a ticket, which says where it is: on its way
to the bus, queued there, on its way to the memory, served and on its way back.  What the components
hold of it and what is under way are views of the tickets (`Tells`), so that no operation is lost
and none is there twice; and the memory holds what the CPU believes, up to the writes that have been
served and not committed (`Coherent`).
-/

namespace SystemScope

namespace ToySoc

open ToyBus (Upstream Request Route)
open scoped ToyBus

/-- Where an operation is. -/
inductive Stage
  /-- On its way to the bus. -/
  | asked
  /-- In a queue of the bus. -/
  | queued
  /-- On its way to the memory. -/
  | granted (downstream : TxnId)
  /-- On its way back to the bus. -/
  | served (downstream : TxnId) (data : Option Bytes)
  /-- On its way back to its initiator. -/
  | returned (data : Option Bytes)
  /-- Received, and awaiting the commit. -/
  | arrived (data : Option Bytes)

/-- How many deliveries take an operation back to its initiator. -/
def Stage.weight : Stage → ℕ
  | .asked => 5
  | .queued => 4
  | .granted _ => 3
  | .served .. => 2
  | .returned _ => 1
  | .arrived _ => 0

/-- An operation that has been issued and not retired.  Side 0 is the CPU, side 1 the DMA. -/
structure Ticket where
  side : Upstream
  txn : TxnId
  op : ToyCpu.Op
  stage : Stage

namespace Ticket

variable (soc : ToySoc)

/-- The id of an initiator. -/
def initiator (side : Upstream) : ComponentId := UInt32.ofNat side

/-- The request for the operation. -/
def request (t : Ticket) : Request :=
  ⟨ToyCpu.requestOf soc.cpu t.txn t.op, by cases t.op <;> rfl⟩

/-- The response to the operation, if there is one. -/
def data? (t : Ticket) : Option (Option Bytes) :=
  match t.stage with
  | .asked | .queued | .granted _ => none
  | .served _ data | .returned data | .arrived data => some data

/-! ## Views -/

/-- What is under way. -/
def flight (t : Ticket) : Option Flight :=
  match t.stage with
  | .asked =>
    some ⟨busId, .request,
      .message (ToyBus.upstreamPort t.side) (.mem (ToyCpu.requestOf soc.cpu t.txn t.op))⟩
  | .granted downstream =>
    some ⟨memId, .transfer,
      .message ToyMemory.port (.mem (ToyCpu.requestOf soc.cpu downstream t.op))⟩
  | .served downstream data =>
    some ⟨busId, .complete, .message ToyBus.memPort (.mem (ToyBus.response downstream data))⟩
  | .returned data =>
    some ⟨initiator t.side, .complete,
      .message ToyCpu.port (.mem (ToyBus.response t.txn data))⟩
  | .queued | .arrived _ => none

/-- What a queue of the bus holds. -/
def queuedAt (side : Upstream) (t : Ticket) : Option Request :=
  match t.stage with
  | .queued => if t.side = side then some (t.request soc) else none
  | _ => none

@[simp] lemma queuedAt_self {side : Upstream} {txn : TxnId} {op : ToyCpu.Op} :
    queuedAt soc side ⟨side, txn, op, .queued⟩ = some (request soc ⟨side, txn, op, .queued⟩) :=
  if_pos rfl

lemma queuedAt_of_ne {side : Upstream} {t : Ticket} (h : t.side ≠ side) :
    t.queuedAt soc side = none := by
  unfold queuedAt
  split
  · rw [if_neg h]
  · rfl

lemma of_queuedAt {side : Upstream} {t : Ticket} {r : Request} (h : t.queuedAt soc side = some r) :
    t = ⟨side, t.txn, t.op, .queued⟩ ∧ r = t.request soc := by
  unfold queuedAt at h
  split at h
  next hstage =>
    split_ifs at h with hside
    cases h
    exact ⟨by rw [← hside, ← hstage], rfl⟩
  · cases h

/-- What the bus has routed. -/
def route (t : Ticket) : Option (TxnId × Route) :=
  match t.stage with
  | .granted downstream | .served downstream _ =>
    some (downstream, { port := t.side, txn := t.txn, write := t.op.isWrite })
  | _ => none

/-- What the CPU has in flight. -/
def cpuOp (t : Ticket) : Option (TxnId × ToyCpu.Op) :=
  if t.side = 0 then some (t.txn, t.op) else none

/-- The address of an operation of the CPU. -/
def cpuAddr (t : Ticket) : Option UInt64 := if t.side = 0 then some t.op.addr else none

/-- What the DMA has in flight. -/
def dmaOp (t : Ticket) : Option (TxnId × UInt64) :=
  if t.side = 1 then some (t.txn, t.op.addr) else none

/-- What has arrived at the CPU. -/
def arrival (t : Ticket) : Option ToyCpu.Arrival :=
  match t.stage with
  | .arrived data => some (t.txn, data)
  | _ => none

/-- How many deliveries an operation takes from here on, the commit of the CPU included. -/
def weight (t : Ticket) : ℕ := t.stage.weight + if t.side = 0 then 1 else 0

/-- Whether the bus has yet to grant the operation. -/
def ungranted (t : Ticket) : ℕ :=
  match t.stage with
  | .asked | .queued => 1
  | _ => 0

/-- An operation of its side, and a response of its kind. -/
structure Fits (t : Ticket) : Prop where
  cpu : t.side = 0 → t.op.Sized soc.cpu
  dma : t.side = 1 → ∃ slot < soc.dma.slots, ∃ data,
    t.op = .write (ToyDma.slotAddr soc.dma slot) data ∧ data.length = soc.dma.accessLen.toNat
  kind : ∀ data, t.data? = some data → data.isNone = t.op.isWrite
  arrived : ∀ data, t.stage = .arrived data → t.side = 0

end Ticket

/-! ## The components -/

/-- The four components. -/
structure Parts (soc : ToySoc) where
  cpu : ToyCpu soc.cpu
  dma : ToyDma soc.dma
  bus : ToyBus soc.bus
  mem : ToyMemory soc.mem

variable {soc : ToySoc}

namespace Parts

/-- The components by their ids. -/
def toList (parts : Parts soc) : List (ToyPart soc) :=
  [.cpu parts.cpu, .dma parts.dma, .bus parts.bus, .mem parts.mem]

/-- The wakes that are scheduled. -/
def wakes (parts : Parts soc) : Multiset Flight :=
  parts.cpu.issueWake cpuId + parts.cpu.commitWake cpuId + parts.dma.wake dmaId +
    parts.bus.wake busId

end Parts

/-- The configurations go together: the regions of the initiators are apart and in the memory, no
counter runs out, and there is something to do the work with. -/
structure Fits (soc : ToySoc) : Prop where
  cpuOutstanding : soc.cpu.maxOutstanding ≠ 0
  cpuSlots : soc.cpu.maxOutstanding < soc.cpu.slots
  cpuAccess : soc.cpu.accessLen ≠ 0
  cpuRegion : soc.cpu.slots.toNat * soc.cpu.accessLen.toNat ≤ soc.dma.base.toNat
  dmaOutstanding : soc.dma.maxOutstanding ≠ 0
  dmaSlots : soc.dma.slots ≠ 0
  dmaRegion : soc.dma.base.toNat + soc.dma.slots.toNat * soc.dma.accessLen.toNat ≤
    soc.mem.size.toNat
  ops : soc.cpu.ops.toNat + soc.dma.ops.toNat < 2 ^ 64

end ToySoc

/-- A memory as a map of bytes. -/
def ToyMemory.contents {config : ToyMemoryConfig} (mem : ToyMemory config) : ByteMap :=
  fun addr => mem.bytes.toList.getD addr 0

/-! ## Order -/

/-- The counters of a CPU agree. -/
structure ToyCpu.Counted {config : ToyCpuConfig} (cpu : ToyCpu config) : Prop where
  nextTxn : cpu.nextTxn = cpu.issued
  allocated : ∀ (txn : TxnId) (op : Op), cpu.outstanding[txn]? = some op → txn < cpu.nextTxn
  issued : cpu.issued ≤ config.ops
  committed : cpu.committed.toNat + cpu.outstanding.size = cpu.issued.toNat
  outstanding : cpu.outstanding.size ≤ config.maxOutstanding.toNat

/-- The counters and the flags of a CPU agree. -/
structure ToyCpu.InOrder {config : ToyCpuConfig} (cpu : ToyCpu config) : Prop extends
    cpu.Counted where
  issueScheduled : cpu.issueScheduled = cpu.canIssue
  commitScheduled : cpu.commitScheduled = !cpu.arrived.isEmpty

/-- The counters and the flag of a DMA agree. -/
structure ToyDma.InOrder {config : ToyDmaConfig} (dma : ToyDma config) : Prop where
  valid : dma.Valid
  nextTxn : dma.nextTxn = dma.issued
  issued : dma.issued ≤ config.ops
  completed : dma.completed.toNat + dma.outstanding.size = dma.issued.toNat
  outstanding : dma.outstanding.size ≤ config.maxOutstanding.toNat
  wakeScheduled : dma.wakeScheduled = dma.canIssue

/-- The routes and the flag of a bus agree. -/
structure ToyBus.InOrder {config : ToyBusConfig} (bus : ToyBus config) : Prop where
  valid : bus.Valid
  arbitrationScheduled : bus.arbitrationScheduled = bus.pending

namespace ToySoc

open ToyBus (Upstream)
open scoped ToyBus

variable {soc : ToySoc}

/-- What the components hold and what is under way is what the tickets say. -/
structure Tells (tickets : Multiset Ticket) (parts : Parts soc) (packets : Multiset Flight) :
    Prop where
  packets : packets = tickets.filterMap (Ticket.flight soc) + parts.wakes
  queues : ∀ side, (parts.bus.queues.get side : Multiset ToyBus.Request) =
    tickets.filterMap (Ticket.queuedAt soc side)
  routes : SparseMap.entries parts.bus.routes = tickets.filterMap Ticket.route
  cpu : SparseMap.entries parts.cpu.outstanding = tickets.filterMap Ticket.cpuOp
  dma : SparseMap.entries parts.dma.outstanding = tickets.filterMap Ticket.dmaOp
  arrived : (parts.cpu.arrived : Multiset ToyCpu.Arrival) = tickets.filterMap Ticket.arrival
  granted : parts.bus.nextDownstream.toNat + (tickets.map Ticket.ungranted).sum =
    parts.cpu.issued.toNat + parts.dma.issued.toNat

/-- A write of the CPU that the memory has taken and the CPU has not committed. -/
def Ticket.Taken (t : Ticket) : Prop := t.side = 0 ∧ t.op.isWrite ∧ t.data?.isSome

/-- The memory holds what the CPU believes, up to the writes that are taken and not committed. -/
structure Coherent (tickets : Multiset Ticket) (cpu : ToyCpu soc.cpu) (mem : ToyMemory soc.mem) :
    Prop where
  fits : ∀ t ∈ tickets, t.Fits soc
  distinct : (tickets.filterMap Ticket.cpuAddr).Nodup
  answers : ∀ t ∈ tickets, t.side = 0 → ∀ data, t.data? = some data → cpu.Answers t.op data
  taken : ∀ t ∈ tickets, t.Taken → ∀ addr data, t.op = .write addr data →
    mem.contents.read addr.toNat soc.cpu.accessLen.toNat = data
  believed : ∀ addr : UInt64,
    (∃ i < soc.cpu.slots.toNat, addr.toNat = i * soc.cpu.accessLen.toNat) →
    (∀ t ∈ tickets, t.op.addr = addr → ¬t.Taken) →
    mem.contents.read addr.toNat soc.cpu.accessLen.toNat = cpu.expected addr

/-- The system is in order. -/
structure Holds (tickets : Multiset Ticket) (parts : Parts soc) (packets : Multiset Flight) :
    Prop where
  cpu : parts.cpu.InOrder
  dma : parts.dma.InOrder
  bus : parts.bus.InOrder
  tells : Tells tickets parts packets
  coherent : Coherent tickets parts.cpu parts.mem

/-- How many deliveries are left at most. -/
def rank (tickets : Multiset Ticket) (parts : Parts soc) : ℕ :=
  7 * (soc.cpu.ops.toNat - parts.cpu.issued.toNat) +
    6 * (soc.dma.ops.toNat - parts.dma.issued.toNat) + (tickets.map Ticket.weight).sum

end ToySoc

end SystemScope
