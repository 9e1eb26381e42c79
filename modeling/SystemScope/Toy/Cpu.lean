import SystemScope.Contracts.Draws
import SystemScope.Framework.Codec
import Std.Data.ExtTreeMap

/-!
# The toy CPU

`components/toy/src/cpu.rs`: a clocked initiator that issues a random stream of reads and writes and
commits their responses.  Reads are checked against a shadow copy of what it wrote.

Counters are machine words: a build without overflow checks wraps where they overflow.
-/

namespace SystemScope

/-- Workload and timing of a CPU. -/
structure ToyCpuConfig where
  /-- The clock the CPU runs on. -/
  clock : ClockDomainId
  /-- Total operations to issue. -/
  ops : UInt64
  /-- Most operations in flight at once.  Must be below the number of slots. -/
  maxOutstanding : UInt32
  /-- Think time between issues is at least one cycle and at most this. -/
  maxThinkCycles : NonZeroU64
  /-- Bytes per access; every address is a multiple of this. -/
  accessLen : UInt32
  /-- Number of slots of so many bytes, starting at address 0. -/
  slots : UInt32
  /-- Chance, in percent, that an operation is a write. -/
  writePercent : UInt64
  deriving DecidableEq

namespace ToyCpu

inductive Op
  | read (addr : UInt64)
  | write (addr : UInt64) (data : Bytes)
  deriving DecidableEq, Repr

def Op.addr : Op → UInt64
  | .read addr => addr
  | .write addr _ => addr

def Op.isWrite : Op → Bool
  | .read _ => false
  | .write .. => true

/-- A response, with the data of a read. -/
abbrev Arrival := TxnId × Option Bytes

end ToyCpu

open ToyCpu in
/-- A seeded memory-traffic generator. -/
@[ext]
structure ToyCpu (config : ToyCpuConfig) where
  issued : UInt64
  committed : UInt64
  nextTxn : TxnId
  issueScheduled : Bool
  commitScheduled : Bool
  outstanding : Std.ExtTreeMap TxnId Op
  /-- Responses in arrival order, awaiting the commit. -/
  arrived : List Arrival
  /-- Committed contents of every written slot. -/
  shadow : Std.ExtTreeMap UInt64 Bytes
  checksum : UInt64

namespace ToyCpu

/-- The CPU's only port. -/
def port : PortId := 0

/-- Wake token that issues the next operation. -/
def issueToken : UInt64 := 0

/-- Wake token that commits arrived responses. -/
def commitToken : UInt64 := 1

/-- A CPU that has issued nothing. -/
def new (config : ToyCpuConfig) : ToyCpu config where
  issued := 0
  committed := 0
  nextTxn := 0
  issueScheduled := false
  commitScheduled := false
  outstanding := ∅
  arrived := []
  shadow := ∅
  checksum := 0

variable {config : ToyCpuConfig} (cpu : ToyCpu config)

/-- Faults the session. -/
def reject (what : String) : Handler (ToyCpu config) :=
  .done (.error (.componentFault what)) cpu

def finish : Handler (ToyCpu config) := .done (.ok ()) cpu

def canIssue : Bool :=
  cpu.issued < config.ops && cpu.outstanding.size < config.maxOutstanding.toNat

/-! ## Issuing -/

section

variable [SimRng]

/-- Schedules the next issue after a think time. -/
def scheduleIssue : Handler (ToyCpu config) :=
  .rngBelow config.maxThinkCycles fun think =>
    .wakeSelf (.cycles config.clock (1 + think)) .request issueToken fun
      | .error e => .done (.error e) cpu
      | .ok () => .done (.ok ()) { cpu with issueScheduled := true }

/-- Whether an operation on an address is in flight. -/
def busy (addr : UInt64) : Bool := cpu.outstanding.toList.any fun e => e.2.addr = addr

/-- The addresses of the slots, from a slot on. -/
def probes (config : ToyCpuConfig) (start : UInt64) : List UInt64 :=
  (List.range config.slots.toNat).map fun i =>
    (start + UInt64.ofNat i) % config.slots.toUInt64 * config.accessLen.toUInt64

/-- How many draws fill so many bytes. -/
def drawsFor (len : ℕ) : ℕ := (len + 7) / 8

/-- Draws the operation on an address. -/
def drawOp (addr : UInt64) (k : Op → Handler (ToyCpu config)) : Handler (ToyCpu config) :=
  .rngChance config.writePercent ⟨100, by decide⟩ fun write =>
    if write then
      .rngNextU64s (drawsFor config.accessLen.toNat) fun values =>
        k (.write addr ((values.flatMap fun x => leBytes 8 x.toNat).take config.accessLen.toNat))
    else k (.read addr)

/-- The request for an operation. -/
def requestOf (config : ToyCpuConfig) (txn : TxnId) : Op → MemMsg
  | .read addr => .readReq txn addr config.accessLen
  | .write addr data => .writeReq txn addr data

/-- The trace record of an issue. -/
def issueKind : String := "toy.cpu.issue"

/-- The CPU once it has issued an operation. -/
def withIssued (op : Op) : ToyCpu config :=
  { cpu with
    nextTxn := cpu.nextTxn + 1
    outstanding := cpu.outstanding.insert cpu.nextTxn op
    issued := cpu.issued + 1 }

/-- Issues an operation on a slot with nothing in flight and goes on. -/
def issue (k : ToyCpu config → Handler (ToyCpu config)) : Handler (ToyCpu config) :=
  match NonZeroU64.new config.slots.toUInt64 with
  | none => cpu.reject "toy cpu: no slots"
  | some slots =>
    .rngBelow slots fun start =>
      match (probes config start).find? fun addr => !cpu.busy addr with
      | none => cpu.reject "toy cpu: every slot is busy"
      | some addr =>
        drawOp addr fun op =>
          .send port (.mem (requestOf config cpu.nextTxn op)) .now .request fun
            | .error e => .done (.error e) { cpu with nextTxn := cpu.nextTxn + 1 }
            | .ok () =>
              .trace issueKind
                [("txn", .u64 cpu.nextTxn), ("addr", .u64 op.addr), ("write", .bool op.isWrite)] <|
                k (cpu.withIssued op)

/-- After an issue: the next one, if there may be one. -/
def issueAgain : Handler (ToyCpu config) :=
  if cpu.canIssue then cpu.scheduleIssue else cpu.finish

end

/-! ## Committing -/

/-- FNV-1a style fold over 64-bit words. -/
def fold (checksum word : UInt64) : UInt64 := (checksum ^^^ word) * 0x00000100000001b3

/-- The checksum with a committed operation folded in. -/
def folded (tag : UInt64) (txn : TxnId) (addr : UInt64) (data : Bytes) : UInt64 :=
  ([tag, txn, addr] ++ data.map UInt8.toUInt64).foldl fold cpu.checksum

/-- What a slot holds, as far as the CPU knows. -/
def expected (addr : UInt64) : Bytes :=
  (cpu.shadow[addr]?).getD (List.replicate config.accessLen.toNat 0)

/-- The trace record of a commit. -/
def commitKind : String := "toy.cpu.commit"

/-- Counts a committed operation and goes on. -/
def retire (txn : TxnId) (checksum : UInt64) (k : ToyCpu config → Handler (ToyCpu config)) :
    Handler (ToyCpu config) :=
  .trace commitKind [("txn", .u64 txn), ("checksum", .u64 checksum)] <|
    k { cpu with committed := cpu.committed + 1, checksum }

/-- Commits one response and goes on. -/
def commitOne (arrival : Arrival) (k : ToyCpu config → Handler (ToyCpu config)) :
    Handler (ToyCpu config) :=
  match cpu.outstanding[arrival.1]? with
  | none => cpu.reject "toy cpu: response for unknown txn"
  | some op =>
    let next := { cpu with outstanding := cpu.outstanding.erase arrival.1 }
    match op, arrival.2 with
    | .read addr, some data =>
      if data ≠ cpu.expected addr then next.reject "toy cpu: read mismatch"
      else next.retire arrival.1 (cpu.folded 0 arrival.1 addr data) k
    | .write addr data, none =>
      { next with shadow := cpu.shadow.insert addr data }.retire arrival.1
        (cpu.folded 1 arrival.1 addr data) k
    | _, _ => next.reject "toy cpu: response kind mismatch"

/-- Commits responses in order and goes on. -/
def commitAll (k : ToyCpu config → Handler (ToyCpu config)) :
    List Arrival → ToyCpu config → Handler (ToyCpu config)
  | [], cpu => k cpu
  | arrival :: rest, cpu => cpu.commitOne arrival (commitAll k rest)

/-- Commits what has arrived and goes on. -/
def commit (k : ToyCpu config → Handler (ToyCpu config)) : Handler (ToyCpu config) :=
  commitAll k cpu.arrived { cpu with arrived := [] }

/-- Takes a response and schedules the commit, unless that is scheduled. -/
def receive (arrival : Arrival) : Handler (ToyCpu config) :=
  let next := { cpu with arrived := cpu.arrived ++ [arrival] }
  if next.commitScheduled then next.finish
  else
    .wakeSelf .now .commit commitToken fun
      | .error e => .done (.error e) next
      | .ok () => .done (.ok ()) { next with commitScheduled := true }

/-! ## The component -/

section

variable [SimRng]

def init : Handler (ToyCpu config) :=
  if config.maxOutstanding = 0 ∨ config.slots ≤ config.maxOutstanding then
    cpu.reject "toy cpu: max_outstanding must be in 1..slots"
  else if 0 < config.ops then cpu.scheduleIssue
  else cpu.finish

/-- Runs an issue. -/
def wakeIssue : Handler (ToyCpu config) :=
  let next := { cpu with issueScheduled := false }
  if next.canIssue then next.issue (fun c => c.issueAgain) else next.issueAgain

/-- After a commit: the next issue, unless it is scheduled. -/
def issueIfIdle : Handler (ToyCpu config) :=
  if !cpu.issueScheduled && cpu.canIssue then cpu.scheduleIssue else cpu.finish

/-- Runs a commit. -/
def wakeCommit : Handler (ToyCpu config) :=
  commit { cpu with commitScheduled := false } fun c => c.issueIfIdle

def handleEvent : Delivered → Handler (ToyCpu config)
  | .wake token =>
    if token = issueToken then cpu.wakeIssue
    else if token = commitToken then cpu.wakeCommit
    else cpu.reject "toy cpu: unknown wake token"
  | .message _ (.memV1 _) => cpu.reject "toy cpu: mem.v1 message"
  | .message _ (.irq _) | .message _ (.block _) => cpu.reject "toy cpu: non-mem message"
  | .message _ (.mem (.readResp txn data)) => cpu.receive (txn, some data)
  | .message _ (.mem (.writeResp txn)) => cpu.receive (txn, none)
  | .message _ (.mem (.readReq ..)) | .message _ (.mem (.writeReq ..)) =>
    cpu.reject "toy cpu: request on initiator port"

end

def ports (_ : ToyCpu config) : List PortSpec :=
  [{ name := "mem", protocol := memV0Protocol, role := .initiator }]

def inspect : StateView where
  fields :=
    [("issued", .u64 cpu.issued), ("committed", .u64 cpu.committed), ("next_txn", .u64 cpu.nextTxn),
      ("outstanding", .u64 (UInt64.ofNat cpu.outstanding.size)),
      ("arrived", .u64 (UInt64.ofNat cpu.arrived.length)), ("checksum", .u64 cpu.checksum)]

end ToyCpu

end SystemScope
