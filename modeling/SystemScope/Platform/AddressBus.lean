import SystemScope.Contracts.SnapshotData
import SystemScope.Framework.Checks
import SystemScope.Framework.SparseMap
import SystemScope.Platform.Access

/-!
# The address bus

`components/platform/src/bus.rs`: the bus that routes `mem.v1` requests from one initiator to
memory-mapped regions.  A bus belongs to its list of regions, which is checked when the bus is
created and never changes.
-/

namespace SystemScope.Platform

open MemV1 Checks SnapshotField

/-- Address of the last byte of a region. -/
def Region.last (r : Region) : UInt64 := r.base + (r.size - 1)

/-! ## Regions -/

/-- Why a list of regions cannot form a bus. -/
inductive BusConfigError
  | zeroSize (region : String)
  | wraps (region : String)
  | overlap (earlier region : String)
  | duplicateName (region : String)
  /-- The name of the upstream port. -/
  | reservedName (region : String)
  | tooManyRegions
  deriving DecidableEq, Repr

namespace AddressBus

/-- Checks a region against those before it, in order. -/
def checkEarlier (region : Region) : List Region → Except BusConfigError Unit
  | [] => .ok ()
  | e :: rest =>
    if e.name = region.name then .error (.duplicateName region.name)
    else if e.base ≤ region.last ∧ region.base ≤ e.last then .error (.overlap e.name region.name)
    else checkEarlier region rest

/-- Checks a region with those before it. -/
def checkRegion (earlier : List Region) (region : Region) : Except BusConfigError Unit :=
  if region.size = 0 then .error (.zeroSize region.name)
  else if 2 ^ 64 ≤ region.base.toNat + (region.size - 1).toNat then .error (.wraps region.name)
  else if region.name = "cpu" then .error (.reservedName region.name)
  else checkEarlier region earlier

end AddressBus

/-- A forwarded request that awaits its response. -/
structure Outstanding (regions : ℕ) where
  /-- The region it was forwarded to. -/
  region : Fin regions
  write : Bool
  deriving DecidableEq, Repr

/-- A single-initiator `mem.v1` interconnect over a fixed memory map. -/
structure AddressBus (regions : List Region) where
  /-- Forwarded requests that await a response. -/
  outstanding : Std.ExtTreeMap TxnId (Outstanding regions.length)
  deriving DecidableEq

namespace AddressBus

/-- The upstream port. -/
def cpuPort : PortId := 0

/-- The trace record of a request that the bus answers itself. -/
def faultKind : String := "platform.bus.fault"

/-- The port of a region: ports follow `cpu` in region order. -/
def regionPort (index : ℕ) : PortId := UInt16.ofNat (index + 1)

/-- Creates an idle bus. -/
def new (regions : List Region) : Except BusConfigError (AddressBus regions) :=
  if 65535 ≤ regions.length then .error .tooManyRegions
  else do
    checkedInOrder checkRegion regions
    return { outstanding := ∅ }

variable {regions : List Region}

/-- The index of the one region holding every byte of `first..=last`. -/
def route (regions : List Region) (first last : UInt64) : Option (Fin regions.length) :=
  match regions.findFinIdx? fun r => r.base ≤ first && first ≤ r.last with
  | none => none
  | some index => if last ≤ (regions.get index).last then some index else none

variable (bus : AddressBus regions)

/-! ## Events -/

/-- Faults the session. -/
def reject (what : String) : Handler (AddressBus regions) :=
  .done (.error (.componentFault what)) bus

/-- Sends the answer of the bus itself. -/
def answerFault (txn : TxnId) (addr len : UInt64) (resp : MemV1.MemMsg) :
    Handler (AddressBus regions) :=
  .send cpuPort (.memV1 resp) .now .complete fun
    | .error e => .done (.error e) bus
    | .ok () =>
      .trace faultKind [("txn", .u64 txn), ("addr", .u64 addr), ("len", .u64 len)] <|
        .done (.ok ()) bus

/-- Answers a request that no region contains with an access fault. -/
def fault : MemV1.MemMsg → Handler (AddressBus regions)
  | .readReq txn addr len =>
    bus.answerFault txn addr len.toUInt64 (.readResp txn (.fault .accessFault))
  | .writeReq txn addr data =>
    bus.answerFault txn addr (UInt64.ofNat data.length) (.writeResp txn (.fault .accessFault))
  | .readResp .. | .writeResp .. => bus.reject "address bus: response on the cpu port"

/-- The bus with a request outstanding. -/
def insert (txn : TxnId) (region : Fin regions.length) (write : Bool) : AddressBus regions :=
  { outstanding := bus.outstanding.insert txn { region, write } }

/-- The bus without a request. -/
def remove (txn : TxnId) : AddressBus regions := { outstanding := bus.outstanding.erase txn }

def request (msg : MemV1.MemMsg) : Handler (AddressBus regions) :=
  match requestTxn msg, msg.access with
  | some (txn, write), some access =>
    .phase fun phase =>
      if phase ≠ .request then bus.reject "address bus: request arrived after REQUEST"
      else if txn ∈ bus.outstanding then
        bus.reject "address bus: request reuses an outstanding txn"
      else
        match access with
        | .empty => bus.reject "address bus: zero-length request"
        | .outOfRange => bus.fault msg
        | .bytes first last =>
          match route regions first last with
          | none => bus.fault msg
          | some region =>
            let offset := first - (regions.get region).base
            -- The request is outstanding even if the send is refused.
            .send (regionPort region) (.memV1 (atOffset offset msg)) .now .transfer fun result =>
              .done result (bus.insert txn region write)
  | _, _ => bus.reject "address bus: response on the cpu port"

/-- Relays a response of the given transaction and kind, in the phase it arrived in. -/
def relay (port : PortId) (txn : TxnId) (write : Bool) (msg : MemV1.MemMsg) :
    Handler (AddressBus regions) :=
  if port = 0 ∨ regions.length < port.toNat then bus.reject "address bus: unknown port"
  else
    match bus.outstanding[txn]? with
    | none => bus.reject "address bus: response for unknown txn"
    | some expected =>
      if expected.region.val ≠ port.toNat - 1 then
        bus.reject "address bus: response on the wrong region port"
      else if expected.write ≠ write then bus.reject "address bus: response kind mismatch"
      else
        .phase fun phase =>
          .send cpuPort (.memV1 msg) .now phase fun result => .done result (bus.remove txn)

def response (port : PortId) (msg : MemV1.MemMsg) : Handler (AddressBus regions) :=
  match msg with
  | .readResp txn _ => bus.relay port txn false msg
  | .writeResp txn _ => bus.relay port txn true msg
  | .readReq .. | .writeReq .. => bus.reject "address bus: request on a region port"

/-! ## The component -/

/-- `cpu`, then the regions in order. -/
def ports (_ : AddressBus regions) : List PortSpec :=
  { name := "cpu", protocol := memV1Protocol, role := .target } ::
    regions.map fun r => { name := r.name, protocol := memV1Protocol, role := .initiator }

def init : Handler (AddressBus regions) := .done (.ok ()) bus

def handleEvent : Delivered → Handler (AddressBus regions)
  | .message port (.memV1 msg) => if port = cpuPort then bus.request msg else bus.response port msg
  | .message _ (.mem _) => bus.reject "address bus: mem.v0 message"
  | .message _ (.irq _) | .message _ (.block _) => bus.reject "address bus: non-mem message"
  | .wake _ => bus.reject "address bus: unexpected wake"

/-- The number of regions and of outstanding transactions. -/
def inspect : StateView where
  fields :=
    [("regions", .u64 (UInt64.ofNat regions.length)),
      ("outstanding", .u64 (UInt64.ofNat bus.outstanding.size))]

/-! ## Snapshots -/

section Snapshot

variable [SnapshotData]

open SnapshotFields SnapshotData Restoring

def regionParts (region : Region) : List (Option Bytes) :=
  [str.encode region.name, u64.part region.base, u64.part region.size]

/-- `write_config`. -/
def configParts (regions : List Region) : List (Option Bytes) :=
  len.encode regions.length :: regions.flatMap regionParts

/-- An outstanding request behind its transaction. -/
def outstandingParts (e : TxnId × Outstanding regions.length) : List (Option Bytes) :=
  [u64.part e.1, u16.part (UInt16.ofNat e.2.region), bool.part e.2.write]

def parts : List (Option Bytes) :=
  configParts regions ++
    len.encode bus.outstanding.size :: bus.outstanding.toList.flatMap outstandingParts

/-- The snapshot of the bus, unless a length in it does not fit. -/
def snapshot : Option Bytes := Coder.concat bus.parts

def snapshotSchemaVersion (_ : AddressBus regions) : UInt32 := 1

/-- The error of another memory map. -/
def different : String := "address bus: snapshot was taken with a different memory map"

/-- Reads the memory map of the bus, and nothing else. -/
def readConfig (regions : List Region) : Restoring Unit := do
  expect (data len) regions.length different
  regions.forM fun region => do
    expect (data str) region.name different
    expect (field u64) region.base different
    expect (field u64) region.size different

/-- Reads an outstanding request; the transactions ascend. -/
def readOutstanding (regions : List Region) (previous : Option TxnId) :
    Restoring (TxnId × Outstanding regions.length) := do
  let txn ← field u64
  if previous.any fun p => txn ≤ p then
    invalid "address bus: outstanding txns out of order or duplicated"
  else
    let region ← field u16
    if h : region.toNat < regions.length then
      let write ← field bool
      return (txn, { region := ⟨region.toNat, h⟩, write })
    else invalid "address bus: outstanding txn on an unknown region"

def restoreState (regions : List Region) : Restoring (AddressBus regions) := do
  readConfig regions
  let count ← data len
  let outstanding ← Parser.entries (readOutstanding regions) count none
  return { outstanding := .ofList outstanding }

/-- Restores the bus, or leaves it as it is: the bytes left over, or an error. -/
def restore (bs : Bytes) (_ : UInt32) : AddressBus regions × Except RestoreError Bytes :=
  match restoreState regions bs with
  | .ok (restored, rest) => (restored, .ok rest)
  | .error e => (bus, .error e)

end Snapshot

end AddressBus

instance [SnapshotData] {regions : List Region} : Component (AddressBus regions) where
  typeName _ := "platform.bus"
  ports := AddressBus.ports
  init := AddressBus.init
  handleEvent := AddressBus.handleEvent
  snapshotSchemaVersion := AddressBus.snapshotSchemaVersion
  snapshot bus := bus.snapshot.getD []
  restore bus bs schema := bus.restore bs schema
  inspect := AddressBus.inspect

end SystemScope.Platform
