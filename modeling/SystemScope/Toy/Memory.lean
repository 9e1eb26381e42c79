import SystemScope.Contracts.Draws
import SystemScope.Platform.Storage

/-!
# The toy memory

`components/toy/src/memory.rs`: a byte-addressable memory that applies each request when it arrives
and responds after a fixed latency.  A memory belongs to its configuration.
-/

namespace SystemScope

/-- Size and timing of a memory. -/
structure ToyMemoryConfig where
  /-- Capacity in bytes.  Addresses outside fault. -/
  size : UInt32
  readLatency : Duration
  writeLatency : Duration
  deriving DecidableEq, Repr

/-- A memory with a fixed latency. -/
@[ext]
structure ToyMemory (config : ToyMemoryConfig) where
  bytes : Platform.Cell config.size.toNat

namespace ToyMemory

/-- The memory's only port. -/
def port : PortId := 0

/-- A memory of zeros. -/
def new (config : ToyMemoryConfig) : ToyMemory config where
  bytes := .zero _

variable {config : ToyMemoryConfig} (mem : ToyMemory config)

/-- Faults the session. -/
def reject (what : String) : Handler (ToyMemory config) :=
  .done (.error (.componentFault what)) mem

/-- Whether `len` bytes from `addr` on lie in the memory. -/
def inRange (config : ToyMemoryConfig) (addr : UInt64) (len : ℕ) : Bool :=
  addr.toNat + len ≤ config.size.toNat

/-- The error of an access outside. -/
def outOfRange : String := "toy memory: address out of range"

/-- The bytes of a range. -/
def load (addr : UInt64) (len : ℕ) : Bytes := (mem.bytes.toList.drop addr.toNat).take len

/-- Copies bytes over a range. -/
def store (addr : UInt64) (data : Bytes) : ToyMemory config :=
  { bytes := mem.bytes.overlay addr.toNat data }

/-- Sends a response after a latency; the memory has changed by then. -/
def respond (resp : MemMsg) (latency : Duration) : Handler (ToyMemory config) :=
  .send port (.mem resp) (.after latency) .complete fun result => .done result mem

def handleEvent : Delivered → Handler (ToyMemory config)
  | .message _ (.mem (.readReq txn addr len)) =>
    if inRange config addr len.toNat then
      mem.respond (.readResp txn (mem.load addr len.toNat)) config.readLatency
    else mem.reject outOfRange
  | .message _ (.mem (.writeReq txn addr data)) =>
    if inRange config addr data.length then
      (mem.store addr data).respond (.writeResp txn) config.writeLatency
    else mem.reject outOfRange
  | .message _ (.mem (.readResp ..)) | .message _ (.mem (.writeResp ..)) =>
    mem.reject "toy memory: response on target port"
  | .message _ (.memV1 _) | .message _ (.irq _) | .message _ (.block _) | .wake _ =>
    mem.reject "toy memory: unexpected delivery"

def init : Handler (ToyMemory config) := .done (.ok ()) mem

def ports (_ : ToyMemory config) : List PortSpec :=
  [{ name := "mem", protocol := memV0Protocol, role := .target }]

def inspect (_ : ToyMemory config) : StateView where
  fields := [("size", .u64 config.size.toUInt64)]

end ToyMemory

end SystemScope
