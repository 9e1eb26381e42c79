import Mathlib.Algebra.Order.Floor.Div
import SystemScope.Contracts.Interface
import SystemScope.Framework.Blake3
import SystemScope.Framework.Codec

/-!
# The contracts as documented

The contracts crate is a parameter of the model.  This module is the instance its documentation
describes: the canonical encoding of `docs/m0-design.md` §4.5 with the protocol messages of
`m1-design.md` §4.3 and `m2-design.md`, the header layout of §8.1, the clock arithmetic of §3, and
BLAKE3.

Results about the runtime hold for all contracts and do not depend on it.  That what they ask for
can be had is shown in `Contracts/CanonicalLaws.lean`.
-/

namespace SystemScope.Canonical

open Coder

/-! ## Primitive rules -/

def u8 : CanonicalCoder UInt8 :=
  (word .truncated 1).refine UInt8.toNat fun n => .ok (UInt8.ofNat n)

def u16 : CanonicalCoder UInt16 :=
  (word .truncated 2).refine UInt16.toNat fun n => .ok (UInt16.ofNat n)

def u32 : CanonicalCoder UInt32 :=
  (word .truncated 4).refine UInt32.toNat fun n => .ok (UInt32.ofNat n)

def u64 : CanonicalCoder UInt64 :=
  (word .truncated 8).refine UInt64.toNat fun n => .ok (UInt64.ofNat n)

def u128 : CanonicalCoder ℕ := word .truncated 16

/-- Element counts and lengths are `u32`s. -/
def len : CanonicalCoder ℕ := word .truncated 4

def bytes : CanonicalCoder Bytes := counted .truncated len

/-- Strings are UTF-8, as byte strings; anything else is refused. -/
def str : CanonicalCoder String :=
  bytes.refine (fun s => s.toUTF8.data.toList) fun bs =>
    (String.fromUTF8? ⟨bs.toArray⟩).elim (.error (.other "utf-8")) .ok

def bool : CanonicalCoder Bool :=
  u8.refine (fun b => if b then 1 else 0) fun
    | 0 => .ok false
    | 1 => .ok true
    | tag => .error (.invalidTag "bool" tag)

def phaseTag : Phase → UInt8
  | .request => 0
  | .transfer => 1
  | .complete => 2
  | .commit => 3
  | .observe => 4

def phase : CanonicalCoder Phase :=
  u8.refine phaseTag fun
    | 0 => .ok .request
    | 1 => .ok .transfer
    | 2 => .ok .complete
    | 3 => .ok .commit
    | 4 => .ok .observe
    | tag => .error (.invalidTag "phase" tag)

def seq {α : Type} (encode : α → Option Bytes) (xs : List α) : Option Bytes :=
  concat (len.encode xs.length :: xs.map encode)

/-! ## Messages -/

def memMsg : CanonicalCoder MemMsg :=
  tagged u8
    (fun
      | .readReq .. => 0
      | .readResp .. => 1
      | .writeReq .. => 2
      | .writeResp .. => 3)
    (fun
      | .readReq txn addr len => [u64.encode txn, u64.encode addr, u32.encode len]
      | .readResp txn data => [u64.encode txn, bytes.encode data]
      | .writeReq txn addr data => [u64.encode txn, u64.encode addr, bytes.encode data]
      | .writeResp txn => [u64.encode txn])
    (fun
      | 0 => do
        let txn ← u64.read
        let addr ← u64.read
        let len ← u32.read
        return .readReq txn addr len
      | 1 => do
        let txn ← u64.read
        let data ← bytes.read
        return .readResp txn data
      | 2 => do
        let txn ← u64.read
        let addr ← u64.read
        let data ← bytes.read
        return .writeReq txn addr data
      | 3 => do
        let txn ← u64.read
        return .writeResp txn
      | tag => throw (.invalidTag "MemMsg" tag))

def memFault : CanonicalCoder MemV1.MemFault :=
  u8.refine (fun | .accessFault => 0) fun
    | 0 => .ok .accessFault
    | tag => .error (.invalidTag "MemFault" tag)

def readOutcome : CanonicalCoder MemV1.ReadOutcome :=
  tagged u8
    (fun
      | .data _ => 0
      | .fault _ => 1)
    (fun
      | .data data => [bytes.encode data]
      | .fault fault => [memFault.encode fault])
    (fun
      | 0 => do
        let data ← bytes.read
        return .data data
      | 1 => do
        let fault ← memFault.read
        return .fault fault
      | tag => throw (.invalidTag "ReadOutcome" tag))

def writeOutcome : CanonicalCoder MemV1.WriteOutcome :=
  tagged u8
    (fun
      | .done => 0
      | .fault _ => 1)
    (fun
      | .done => []
      | .fault fault => [memFault.encode fault])
    (fun
      | 0 => return .done
      | 1 => do
        let fault ← memFault.read
        return .fault fault
      | tag => throw (.invalidTag "WriteOutcome" tag))

def memV1Msg : CanonicalCoder MemV1.MemMsg :=
  tagged u8
    (fun
      | .readReq .. => 0
      | .readResp .. => 1
      | .writeReq .. => 2
      | .writeResp .. => 3)
    (fun
      | .readReq txn addr len => [u64.encode txn, u64.encode addr, u32.encode len]
      | .readResp txn outcome => [u64.encode txn, readOutcome.encode outcome]
      | .writeReq txn addr data => [u64.encode txn, u64.encode addr, bytes.encode data]
      | .writeResp txn outcome => [u64.encode txn, writeOutcome.encode outcome])
    (fun
      | 0 => do
        let txn ← u64.read
        let addr ← u64.read
        let len ← u32.read
        return .readReq txn addr len
      | 1 => do
        let txn ← u64.read
        let outcome ← readOutcome.read
        return .readResp txn outcome
      | 2 => do
        let txn ← u64.read
        let addr ← u64.read
        let data ← bytes.read
        return .writeReq txn addr data
      | 3 => do
        let txn ← u64.read
        let outcome ← writeOutcome.read
        return .writeResp txn outcome
      | tag => throw (.invalidTag "MemMsg" tag))

def irqMsg : CanonicalCoder IrqMsg :=
  tagged u8 (fun | .level _ => 0)
    (fun | .level asserted => [bool.encode asserted])
    (fun
      | 0 => do
        let asserted ← bool.read
        return .level asserted
      | tag => throw (.invalidTag "IrqMsg" tag))

def mediaError : CanonicalCoder MediaError :=
  u8.refine
    (fun
      | .outOfRange => 0
      | .badBlock => 1)
    fun
    | 0 => .ok .outOfRange
    | 1 => .ok .badBlock
    | tag => .error (.invalidTag "MediaError" tag)

def blockReadOutcome : CanonicalCoder BlockReadOutcome :=
  tagged u8
    (fun
      | .data _ => 0
      | .error _ => 1)
    (fun
      | .data data => [bytes.encode data]
      | .error error => [mediaError.encode error])
    (fun
      | 0 => do
        let data ← bytes.read
        return .data data
      | 1 => do
        let error ← mediaError.read
        return .error error
      | tag => throw (.invalidTag "BlockReadOutcome" tag))

def blockWriteOutcome : CanonicalCoder BlockWriteOutcome :=
  tagged u8
    (fun
      | .done => 0
      | .error _ => 1)
    (fun
      | .done => []
      | .error error => [mediaError.encode error])
    (fun
      | 0 => return .done
      | 1 => do
        let error ← mediaError.read
        return .error error
      | tag => throw (.invalidTag "BlockWriteOutcome" tag))

def blockMsg : CanonicalCoder BlockMsg :=
  tagged u8
    (fun
      | .readBlock .. => 0
      | .writeBlock .. => 1
      | .readResult .. => 2
      | .writeResult .. => 3)
    (fun
      | .readBlock txn lba => [u64.encode txn, u64.encode lba]
      | .writeBlock txn lba data => [u64.encode txn, u64.encode lba, bytes.encode data]
      | .readResult txn outcome => [u64.encode txn, blockReadOutcome.encode outcome]
      | .writeResult txn outcome => [u64.encode txn, blockWriteOutcome.encode outcome])
    (fun
      | 0 => do
        let txn ← u64.read
        let lba ← u64.read
        return .readBlock txn lba
      | 1 => do
        let txn ← u64.read
        let lba ← u64.read
        let data ← bytes.read
        return .writeBlock txn lba data
      | 2 => do
        let txn ← u64.read
        let outcome ← blockReadOutcome.read
        return .readResult txn outcome
      | 3 => do
        let txn ← u64.read
        let outcome ← blockWriteOutcome.read
        return .writeResult txn outcome
      | tag => throw (.invalidTag "BlockMsg" tag))

/-! ## Events -/

def protocol : CanonicalCoder ProtocolId :=
  (str.pair u16).refine (fun p => (p.name, p.version)) fun p => .ok ⟨p.1, p.2⟩

/-- The protocol's name and version say which message follows; others are refused. -/
def message : CanonicalCoder Message :=
  tagged protocol Message.protocol
    (fun
      | .mem msg => [memMsg.encode msg]
      | .memV1 msg => [memV1Msg.encode msg]
      | .irq msg => [irqMsg.encode msg]
      | .block msg => [blockMsg.encode msg])
    fun p => do
      if p = memV0Protocol then
        let msg ← memMsg.read
        return .mem msg
      else if p = memV1Protocol then
        let msg ← memV1Msg.read
        return .memV1 msg
      else if p = irqV0Protocol then
        let msg ← irqMsg.read
        return .irq msg
      else if p = blockV0Protocol then
        let msg ← blockMsg.read
        return .block msg
      else throw (.other "protocol")

def delivered : CanonicalCoder Delivered :=
  tagged u8
    (fun
      | .message .. => 0
      | .wake _ => 1)
    (fun
      | .message port msg => [u16.encode port, message.encode msg]
      | .wake token => [u64.encode token])
    (fun
      | 0 => do
        let port ← u16.read
        let msg ← message.read
        return .message port msg
      | 1 => do
        let token ← u64.read
        return .wake token
      | tag => throw (.invalidTag "delivery" tag))

def eventKey : CanonicalCoder EventKey :=
  (u64.pair (phase.pair u64)).refine (fun k => (k.tick, k.phase, k.sequence))
    fun k => .ok ⟨k.1, k.2.1, k.2.2⟩

def event : CanonicalCoder CanonicalEvent :=
  (eventKey.pair (u32.pair (u32.pair delivered))).refine
    (fun ev => (ev.key, ev.source, ev.target, ev.delivery))
    fun ev => .ok ⟨ev.1, ev.2.1, ev.2.2.1, ev.2.2.2⟩

/-- `Decoder::finish`. -/
def finish : Bytes → Except DecodeError Unit
  | [] => .ok ()
  | _ => .error .trailingBytes

/-! ## Declarations -/

def encodeClockDomain (d : ClockDomain) : Option Bytes :=
  concat [u32.encode d.id, u64.encode d.freqNum, u64.encode d.freqDen, u64.encode d.offset,
    u8.encode d.rounding.tag]

def encodePort (p : PortSpec) : Option Bytes :=
  concat [str.encode p.name, protocol.encode p.protocol,
    u8.encode (if p.role = .initiator then 0 else 1)]

def encodeComponentDecl (c : ComponentDecl) : Option Bytes :=
  concat [str.encode c.path, str.encode c.typeName, seq encodePort c.ports]

def encodeLatency : Option LinkLatency → Option Bytes
  | none => u8.encode 0
  | some (.after d) => concat [u8.encode 1, u128.encode d.femtoseconds]
  | some (.cycles domain k) => concat [u8.encode 2, u32.encode domain, u64.encode k]

def encodeLink (l : LinkDecl) : Option Bytes :=
  concat [u32.encode l.a.1, u16.encode l.a.2, u32.encode l.b.1, u16.encode l.b.2,
    encodeLatency l.latency]

/-- The components, then the links; what has no encoding makes the crate panic. -/
def encodeTopology (components : List ComponentDecl) (links : List LinkDecl) : Bytes :=
  (concat [seq encodeComponentDecl components, seq encodeLink links]).getD []

/-! ## Clock arithmetic -/

/-- A tick, if the true result is one. -/
def checkedTick (n : ℕ) : Except SimError Tick :=
  if n < 2 ^ 64 then .ok (UInt64.ofNat n) else .error (.time .timeOverflow)

/-- A duration in ticks, rounded up. -/
def ticks (clock : SimulationClock) (d : Duration) : ℕ :=
  (d.femtoseconds * clock.ticksPerSecond.toNat) ⌈/⌉ 10 ^ 15

def after (clock : SimulationClock) (now : Tick) (d : Duration) : Except SimError Tick :=
  checkedTick (now.toNat + ticks clock d)

/-- Division with the rounding of a clock domain. -/
def round : Rounding → ℕ → ℕ → ℕ
  | .floor, a, b => a / b
  | .ceil, a, b => a ⌈/⌉ b

lemma round_mono (r : Rounding) (b : ℕ) : Monotone fun a => round r a b := by
  intro a a' h
  cases r with
  | floor => exact Nat.div_le_div_right h
  | ceil =>
    simp only [round, Nat.ceilDiv_eq_add_pred_div]
    exact Nat.div_le_div_right (by omega)

lemma div_le_round (r : Rounding) (a b : ℕ) : a / b ≤ round r a b := by
  cases r with
  | floor => exact le_rfl
  | ceil =>
    rcases Nat.eq_zero_or_pos b with rfl | hb
    · rw [Nat.div_zero]
      exact Nat.zero_le _
    · rw [round, Nat.ceilDiv_eq_add_pred_div]
      exact Nat.div_le_div_right (by omega)

/-- The edge `n` of a clock domain, absolute, at a resolution in ticks per second. -/
def edge (resolution : ℕ) (d : ClockDomain) (n : ℕ) : ℕ :=
  d.offset.toNat + round d.rounding (n * (resolution * d.freqDen.toNat)) d.freqNum.toNat

lemma edge_mono (resolution : ℕ) (d : ClockDomain) : Monotone (edge resolution d) := by
  intro n m h
  exact Nat.add_le_add_left (round_mono _ _ (Nat.mul_le_mul_right _ h)) _

/-- The frequency is one, and a period is no shorter than a tick. -/
def Resolved (resolution : ℕ) (d : ClockDomain) : Prop :=
  0 < d.freqNum.toNat ∧ d.freqNum.toNat ≤ resolution * d.freqDen.toNat

instance (resolution : ℕ) (d : ClockDomain) : Decidable (Resolved resolution d) :=
  inferInstanceAs (Decidable (_ ∧ _))

lemma Resolved.le_edge {resolution : ℕ} {d : ClockDomain} (h : Resolved resolution d) (n : ℕ) :
    n ≤ edge resolution d n := by
  have hfloor : n ≤ n * (resolution * d.freqDen.toNat) / d.freqNum.toNat :=
    (Nat.le_div_iff_mul_le h.1).mpr (Nat.mul_le_mul_left n h.2)
  calc n ≤ n * (resolution * d.freqDen.toNat) / d.freqNum.toNat := hfloor
    _ ≤ round d.rounding (n * (resolution * d.freqDen.toNat)) d.freqNum.toNat :=
      div_le_round _ _ _
    _ ≤ edge resolution d n := Nat.le_add_left _ _

lemma Resolved.exists_edge {resolution : ℕ} {d : ClockDomain} (h : Resolved resolution d) (t : ℕ) :
    ∃ n, t ≤ edge resolution d n := ⟨t, h.le_edge t⟩

/-- The first edge at or after a tick. -/
def nextEdgeIndex {resolution : ℕ} {d : ClockDomain} (h : Resolved resolution d) (t : ℕ) : ℕ :=
  Nat.find (h.exists_edge t)

lemma le_edge_nextEdgeIndex {resolution : ℕ} {d : ClockDomain} (h : Resolved resolution d)
    (t : ℕ) : t ≤ edge resolution d (nextEdgeIndex h t) :=
  Nat.find_spec (h.exists_edge t)

lemma nextEdgeIndex_mono {resolution : ℕ} {d : ClockDomain} (h : Resolved resolution d) :
    Monotone (nextEdgeIndex h) := by
  intro t t' hle
  exact Nat.find_min' (h.exists_edge t) (hle.trans (le_edge_nextEdgeIndex h t'))

def cyclesAfter (resolution : ℕ) (d : ClockDomain) (now : Tick) (k : UInt64) :
    Except SimError Tick :=
  if h : Resolved resolution d then
    checkedTick (edge resolution d (nextEdgeIndex h now.toNat + k.toNat))
  else .error (.time .frequencyAboveResolution)

/-! ## The instance -/

/-- The contracts of a session with the given resolution.  The domains of a session carry its
resolution in the crate; here it is given once. -/
@[reducible] def contracts (resolution : ℕ) : Contracts where
  contractsVersion := "0.0.0"
  after
  cyclesAfter := cyclesAfter resolution
  u8
  u32
  u64
  str
  len
  bytes
  raw := array .truncated
  eventKey
  event
  finish
  toBytes ev := (event.encode ev).getD []
  encodeClockDomains := seq encodeClockDomain
  encodeTopology
  hash := Blake3.hash
  deriveKey := Blake3.deriveKey

end SystemScope.Canonical
