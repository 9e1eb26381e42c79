import SystemScope.Toy.Cpu

/-!
# The toy DMA

`components/toy/src/dma.rs`: a clocked initiator that issues random bursts of writes to its own
region.
-/

namespace SystemScope

/-- Workload and timing of a DMA. -/
structure ToyDmaConfig where
  /-- The clock the DMA runs on. -/
  clock : ClockDomainId
  /-- Total writes to issue. -/
  ops : UInt64
  /-- Most writes in flight at once. -/
  maxOutstanding : UInt32
  /-- The longest burst. -/
  maxBurst : NonZeroU64
  /-- The longest idle time after a burst. -/
  maxGapCycles : NonZeroU64
  /-- First address of the region. -/
  base : UInt64
  /-- Bytes per write. -/
  accessLen : UInt32
  /-- Number of slots in the region. -/
  slots : UInt32
  deriving DecidableEq

/-- A seeded burst-write generator. -/
@[ext]
structure ToyDma (config : ToyDmaConfig) where
  issued : UInt64
  completed : UInt64
  nextTxn : TxnId
  /-- Slot of the current burst's next write. -/
  burstSlot : UInt32
  /-- Writes left in the current burst. -/
  burstLeft : UInt64
  wakeScheduled : Bool
  /-- The addresses of the writes in flight. -/
  outstanding : Std.ExtTreeMap TxnId UInt64
  checksum : UInt64

namespace ToyDma

/-- The DMA's only port. -/
def port : PortId := 0

/-- Wake token that issues the next write. -/
def issueToken : UInt64 := 0

/-- A DMA that has issued nothing. -/
def new (config : ToyDmaConfig) : ToyDma config where
  issued := 0
  completed := 0
  nextTxn := 0
  burstSlot := 0
  burstLeft := 0
  wakeScheduled := false
  outstanding := ∅
  checksum := 0

variable {config : ToyDmaConfig} (dma : ToyDma config)

/-- Faults the session. -/
def reject (what : String) : Handler (ToyDma config) :=
  .done (.error (.componentFault what)) dma

def finish : Handler (ToyDma config) := .done (.ok ()) dma

/-- Schedules the next issue. -/
def wakeIn (cycles : UInt64) : Handler (ToyDma config) :=
  .wakeSelf (.cycles config.clock cycles) .request issueToken fun
    | .error e => .done (.error e) dma
    | .ok () => .done (.ok ()) { dma with wakeScheduled := true }

def full : Bool := config.maxOutstanding.toNat ≤ dma.outstanding.size

/-- The address of a slot. -/
def slotAddr (config : ToyDmaConfig) (slot : UInt32) : UInt64 :=
  config.base + slot.toUInt64 * config.accessLen.toUInt64

section

variable [SimRng]

/-- Schedules the next issue after a gap. -/
def scheduleGap : Handler (ToyDma config) :=
  .rngBelow config.maxGapCycles fun gap => dma.wakeIn (1 + gap)

/-- Schedules the next issue: one cycle later in a burst, after a gap otherwise. -/
def scheduleNext : Handler (ToyDma config) :=
  if 0 < dma.burstLeft then dma.wakeIn 1 else dma.scheduleGap

/-- Starts a burst unless one is under way, and goes on. -/
def burst (slots : NonZeroU64) (k : ToyDma config → Handler (ToyDma config)) :
    Handler (ToyDma config) :=
  if dma.burstLeft = 0 then
    .rngBelow config.maxBurst fun len =>
      .rngBelow slots fun slot =>
        k { dma with burstLeft := min (1 + len) (config.ops - dma.issued),
                     burstSlot := slot.toUInt32 }
  else k dma

/-- The trace record of an issue. -/
def issueKind : String := "toy.dma.issue"

/-- The DMA once it has issued a write. -/
def withIssued : ToyDma config :=
  { dma with
    nextTxn := dma.nextTxn + 1
    outstanding := dma.outstanding.insert dma.nextTxn (slotAddr config dma.burstSlot)
    issued := dma.issued + 1
    burstLeft := dma.burstLeft - 1
    burstSlot := (dma.burstSlot + 1) % config.slots }

/-- Issues the next write of the burst and goes on. -/
def issueWrite (k : ToyDma config → Handler (ToyDma config)) : Handler (ToyDma config) :=
  .rngNextU64s (ToyCpu.drawsFor config.accessLen.toNat) fun values =>
    let data := (values.flatMap fun x => leBytes 8 x.toNat).take config.accessLen.toNat
    let addr := slotAddr config dma.burstSlot
    .send port (.mem (.writeReq dma.nextTxn addr data)) .now .request fun
      | .error e => .done (.error e) { dma with nextTxn := dma.nextTxn + 1 }
      | .ok () =>
        .trace issueKind [("txn", .u64 dma.nextTxn), ("addr", .u64 addr)] <| k dma.withIssued

def issue (k : ToyDma config → Handler (ToyDma config)) : Handler (ToyDma config) :=
  match NonZeroU64.new config.slots.toUInt64 with
  | none => dma.reject "toy dma: no slots"
  | some slots => dma.burst slots fun next => next.issueWrite k

/-- After an issue: the next one, if there may be one. -/
def issueAgain : Handler (ToyDma config) :=
  if dma.issued < config.ops && !dma.full then dma.scheduleNext else dma.finish

/-- Runs an issue. -/
def wakeIssue : Handler (ToyDma config) :=
  let next := { dma with wakeScheduled := false }
  if next.issued < config.ops && !next.full then next.issue (fun c => c.issueAgain)
    else next.issueAgain

/-! ## Responses -/

/-- The trace record of a completed write. -/
def doneKind : String := "toy.dma.done"

/-- After a completed write: a burst that paused resumes, and a burst that is over starts its
gap. -/
def resume : Handler (ToyDma config) :=
  if !dma.wakeScheduled && dma.issued < config.ops then dma.scheduleNext else dma.finish

/-- Retires a write. -/
def complete (txn : TxnId) : Handler (ToyDma config) :=
  match dma.outstanding[txn]? with
  | none => dma.reject "toy dma: response for unknown txn"
  | some addr =>
    let checksum := ToyCpu.fold (ToyCpu.fold dma.checksum txn) addr
    .trace doneKind [("txn", .u64 txn), ("checksum", .u64 checksum)] <|
      resume
        { dma with
          outstanding := dma.outstanding.erase txn
          completed := dma.completed + 1
          checksum }

/-! ## The component -/

def init : Handler (ToyDma config) :=
  if config.maxOutstanding = 0 ∨ config.slots = 0 then
    dma.reject "toy dma: max_outstanding and slots must be non-zero"
  else if 0 < config.ops then dma.scheduleGap
  else dma.finish

def handleEvent : Delivered → Handler (ToyDma config)
  | .wake token =>
    if token = issueToken then dma.wakeIssue else dma.reject "toy dma: unknown wake token"
  | .message _ (.mem (.writeResp txn)) => dma.complete txn
  | .message .. => dma.reject "toy dma: unexpected message on initiator port"

end

def ports (_ : ToyDma config) : List PortSpec :=
  [{ name := "mem", protocol := memV0Protocol, role := .initiator }]

def inspect : StateView where
  fields :=
    [("issued", .u64 dma.issued), ("completed", .u64 dma.completed), ("next_txn", .u64 dma.nextTxn),
      ("outstanding", .u64 (UInt64.ofNat dma.outstanding.size)), ("burst_left", .u64 dma.burstLeft),
      ("checksum", .u64 dma.checksum)]

end ToyDma

end SystemScope
