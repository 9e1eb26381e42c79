import Mathlib.Data.Prod.Lex
import SystemScope.Framework.Integers

/-!
# The contract types

The vocabulary that components and the runtime share: time, event keys, protocol messages,
deliveries, trace records, topology declarations and errors.  The crate that declares them is a
sibling repository.  Their shapes are fixed by `docs/m0-design.md` (§3, §4, §6–§8), by the
pattern matches of `runtime/src/trace.rs`, which spell out every message constructor and field,
and by the protocol names and versions its tests pin.

Only data is declared here.  What the sibling crate *computes* (clock arithmetic, the canonical
codec, hashing) is a parameter of the model; see `Contracts/Interface.lean`.
-/

namespace SystemScope

/-! ## Time and event keys -/

/-- An absolute simulation tick. -/
abbrev Tick := UInt64

/-- The phases of a tick, in the order they run. -/
inductive Phase
  | request
  | transfer
  | complete
  | commit
  /-- Runtime only: nothing is ever scheduled here. -/
  | observe
  deriving DecidableEq, Repr

/-- The discriminant of a phase. -/
def Phase.rank : Phase → ℕ
  | .request => 0
  | .transfer => 1
  | .complete => 2
  | .commit => 3
  | .observe => 4

lemma Phase.rank_injective : Function.Injective Phase.rank := by
  intro p q h
  cases p <;> cases q <;> first | rfl | exact absurd h (by decide)

instance : LinearOrder Phase := LinearOrder.lift' Phase.rank Phase.rank_injective

lemma Phase.lt_iff_rank {p q : Phase} : p < q ↔ p.rank < q.rank := Iff.rfl

lemma Phase.observe_le {p : Phase} : .observe ≤ p ↔ p = .observe := by
  cases p <;> decide

/-- When an event runs, and which of the events at the same `(tick, phase)` it is. -/
structure EventKey where
  tick : Tick
  phase : Phase
  sequence : UInt64
  deriving DecidableEq, Repr

namespace EventKey

/-- The key as a lexicographic triple. -/
def toTriple (k : EventKey) : Tick ×ₗ Phase ×ₗ UInt64 :=
  toLex (k.tick, toLex (k.phase, k.sequence))

lemma toTriple_injective : Function.Injective toTriple := by
  rintro ⟨t, p, s⟩ ⟨t', p', s'⟩ h
  simp only [toTriple, EmbeddingLike.apply_eq_iff_eq, Prod.mk.injEq] at h
  obtain ⟨rfl, rfl, rfl⟩ := h
  rfl

/-- Event keys are ordered lexicographically by tick, phase and sequence (§4.1). -/
instance : LinearOrder EventKey := LinearOrder.lift' toTriple toTriple_injective

lemma lt_iff {a b : EventKey} :
    a < b ↔ a.tick < b.tick ∨ a.tick = b.tick ∧
      (a.phase < b.phase ∨ a.phase = b.phase ∧ a.sequence < b.sequence) := by
  change toTriple a < toTriple b ↔ _
  simp only [toTriple, Prod.Lex.toLex_lt_toLex]

lemma le_iff {a b : EventKey} :
    a ≤ b ↔ a.tick < b.tick ∨ a.tick = b.tick ∧
      (a.phase < b.phase ∨ a.phase = b.phase ∧ a.sequence ≤ b.sequence) := by
  change toTriple a ≤ toTriple b ↔ _
  simp only [toTriple, Prod.Lex.toLex_le_toLex]

lemma tick_le_of_lt {a b : EventKey} (h : a < b) : a.tick ≤ b.tick := by
  rcases lt_iff.mp h with h | ⟨h, -⟩
  · exact h.le
  · exact h.le

end EventKey

/-- A length of physical time, in femtoseconds. -/
structure Duration where
  femtoseconds : ℕ
  deriving DecidableEq, Repr

/-- Identifies a clock domain by its declaration order. -/
abbrev ClockDomainId := UInt32

/-- The tick resolution of a session. -/
structure SimulationClock where
  ticksPerSecond : UInt64
  deriving DecidableEq, Repr

/-- How a clock edge that falls between two ticks is placed. -/
inductive Rounding
  | floor
  | ceil
  deriving DecidableEq, Repr

/-- A clock domain, as the trace header records it. -/
structure ClockDomain where
  id : ClockDomainId
  freqNum : UInt64
  freqDen : UInt64
  offset : Tick
  rounding : Rounding
  deriving DecidableEq, Repr

/-- When a component asks for an event to run, relative to now. -/
inductive ScheduleWhen
  | now
  | after (d : Duration)
  | cycles (domain : ClockDomainId) (k : UInt64)
  deriving DecidableEq, Repr

/-- The latency of a link. -/
inductive LinkLatency
  | after (d : Duration)
  | cycles (domain : ClockDomainId) (k : UInt64)
  deriving DecidableEq, Repr

/-! ## Ports and protocols -/

/-- Identifies a component by its declaration order. -/
abbrev ComponentId := UInt32

/-- The id that stands for the runtime itself. -/
def ComponentId.runtime : ComponentId := 0xFFFFFFFF

/-- Indexes the ports of one component. -/
abbrev PortId := UInt16

/-- A protocol name and version. -/
structure ProtocolId where
  name : String
  version : UInt16
  deriving DecidableEq, Repr

/-- Which end of a link a port is. -/
inductive Role
  | initiator
  | target
  deriving DecidableEq, Repr

/-- A port a component declares. -/
structure PortSpec where
  name : String
  protocol : ProtocolId
  role : Role
  deriving DecidableEq, Repr

/-- Identifies a transaction of one initiator. -/
abbrev TxnId := UInt64

/-- A byte string. -/
abbrev Bytes := List UInt8

/-- `mem.v0` messages. -/
inductive MemMsg
  | readReq (txn : TxnId) (addr : UInt64) (len : UInt32)
  | readResp (txn : TxnId) (data : Bytes)
  | writeReq (txn : TxnId) (addr : UInt64) (data : Bytes)
  | writeResp (txn : TxnId)
  deriving DecidableEq, Repr

namespace MemV1

/-- Why a memory access was refused. -/
inductive MemFault
  | accessFault
  deriving DecidableEq, Repr

/-- How a read ended. -/
inductive ReadOutcome
  | data (data : Bytes)
  | fault (fault : MemFault)
  deriving DecidableEq, Repr

/-- How a write ended. -/
inductive WriteOutcome
  | done
  | fault (fault : MemFault)
  deriving DecidableEq, Repr

/-- `mem.v1` messages. -/
inductive MemMsg
  | readReq (txn : TxnId) (addr : UInt64) (len : UInt32)
  | readResp (txn : TxnId) (outcome : ReadOutcome)
  | writeReq (txn : TxnId) (addr : UInt64) (data : Bytes)
  | writeResp (txn : TxnId) (outcome : WriteOutcome)
  deriving DecidableEq, Repr

end MemV1

/-- `irq.v0` messages. -/
inductive IrqMsg
  | level (asserted : Bool)
  deriving DecidableEq, Repr

/-- Why a block access failed. -/
inductive MediaError
  | outOfRange
  | badBlock
  deriving DecidableEq, Repr

/-- How a block read ended. -/
inductive BlockReadOutcome
  | data (data : Bytes)
  | error (error : MediaError)
  deriving DecidableEq, Repr

/-- How a block write ended. -/
inductive BlockWriteOutcome
  | done
  | error (error : MediaError)
  deriving DecidableEq, Repr

/-- `block.v0` messages. -/
inductive BlockMsg
  | readBlock (txn : TxnId) (lba : UInt64)
  | writeBlock (txn : TxnId) (lba : UInt64) (data : Bytes)
  | readResult (txn : TxnId) (outcome : BlockReadOutcome)
  | writeResult (txn : TxnId) (outcome : BlockWriteOutcome)
  deriving DecidableEq, Repr

/-- A message of any protocol. -/
inductive Message
  | mem (msg : MemMsg)
  | memV1 (msg : MemV1.MemMsg)
  | irq (msg : IrqMsg)
  | block (msg : BlockMsg)
  deriving DecidableEq, Repr

/-- `mem::PROTOCOL`. -/
def memV0Protocol : ProtocolId := ⟨"mem", 0⟩

/-- `mem_v1::PROTOCOL`. -/
def memV1Protocol : ProtocolId := ⟨"mem", 1⟩

/-- `irq_v0::PROTOCOL`. -/
def irqV0Protocol : ProtocolId := ⟨"irq", 0⟩

/-- `block_v0::PROTOCOL`. -/
def blockV0Protocol : ProtocolId := ⟨"block", 0⟩

/-- The protocol a message belongs to. -/
def Message.protocol : Message → ProtocolId
  | .mem _ => memV0Protocol
  | .memV1 _ => memV1Protocol
  | .irq _ => irqV0Protocol
  | .block _ => blockV0Protocol

/-- What a component receives. -/
inductive Delivered
  | message (port : PortId) (msg : Message)
  | wake (token : UInt64)
  deriving DecidableEq, Repr

/-- A dispatched or queued event, in the form that is encoded and hashed. -/
structure CanonicalEvent where
  key : EventKey
  source : ComponentId
  target : ComponentId
  delivery : Delivered
  deriving DecidableEq, Repr

/-! ## Errors -/

/-- Why a time computation failed. -/
inductive TimeError
  | timeOverflow
  | frequencyAboveResolution
  deriving DecidableEq, Repr

/-- Why the simulation cannot go on. -/
inductive SimError
  | pastTick (now requested : Tick)
  | phaseViolation (now : Tick) (current : Phase) (tick : Tick) (requested : Phase)
  | sameTickLivelock (tick : Tick) (phase : Phase) (limit : UInt64)
  | sequenceOverflow
  | unknownPort (port : PortId)
  | protocolMismatch (port : PortId) (expected actual : ProtocolId)
  | unknownClockDomain (domain : ClockDomainId)
  | time (e : TimeError)
  | componentFault (what : String)
  deriving DecidableEq, Repr

/-- Why bytes did not decode.  `other` stands for the rejections of §4.5 that no code of this
repository names. -/
inductive DecodeError
  | truncated
  | trailingBytes
  | invalidTag (what : String) (tag : UInt8)
  | other (what : String)
  deriving DecidableEq, Repr

/-- The session settings restore compares. -/
inductive SessionField
  | seed
  | ticksPerSecond
  | maxEventsPerPhase
  | contractsVersion
  | clockDomains
  deriving DecidableEq, Repr

/-- Why a snapshot was refused. -/
inductive RestoreError
  | badMagic
  | formatVersion (found : UInt32)
  | sessionMismatch (field : SessionField)
  | topologyMismatch
  | schemaVersion (component : ComponentId) (expected found : UInt32)
  | invalidState (what : String)
  | decode (e : DecodeError)
  deriving DecidableEq, Repr

/-! ## Traces and declarations -/

/-- A 32-byte hash. -/
abbrev Digest := Vector UInt8 32

/-- The execution digest of a session that has dispatched nothing. -/
def Digest.zero : Digest := Vector.replicate 32 0

/-- A traced or inspected value. -/
inductive Value
  | u64 (v : UInt64)
  | i64 (v : Int64)
  | bool (v : Bool)
  | str (v : String)
  | bytes (v : Bytes)
  deriving DecidableEq

/-- What was running when a record was made. -/
inductive TraceAt
  | init
  | event (key : EventKey)
  deriving DecidableEq, Repr

/-- Who made a record. -/
inductive TraceOrigin
  | component
  | runtime
  deriving DecidableEq, Repr

/-- One trace record. -/
structure TraceRecord where
  at_ : TraceAt
  origin : TraceOrigin
  component : ComponentId
  kind : String
  fields : List (String × Value)
  deriving DecidableEq

/-- The kind of the records the runtime itself emits. -/
def dispatchKind : String := "runtime.dispatch"

/-- A component as the trace header and the topology hash record it. -/
structure ComponentDecl where
  path : String
  typeName : String
  ports : List PortSpec
  deriving DecidableEq, Repr

/-- A link as the trace header and the topology hash record it. -/
structure LinkDecl where
  a : ComponentId × PortId
  b : ComponentId × PortId
  latency : Option LinkLatency
  deriving DecidableEq, Repr

/-- The session facts needed to interpret a trace. -/
structure TraceHeader where
  ticksPerSecond : UInt64
  seed : UInt64
  contractsVersion : String
  topologyHash : Digest
  clockDomains : List ClockDomain
  components : List ComponentDecl
  links : List LinkDecl
  deriving DecidableEq

/-- Named values that observers may read. -/
structure StateView where
  fields : List (String × Value)
  deriving DecidableEq

end SystemScope
