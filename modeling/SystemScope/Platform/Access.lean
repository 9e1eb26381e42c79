import SystemScope.Contracts.Interface
import SystemScope.Contracts.SnapshotData

/-!
# Memory accesses

How the platform's components look at `mem.v1` requests: `MemMsg::access`, which the contracts
crate documents in `docs/m1-design.md` §4.2, and the helpers of `components/platform/src/mmbus.rs`
that take requests apart and put them together again.

`Spans msg first size` is what a request is about, in natural numbers: the bytes
`[first, first + size)`.
-/

namespace SystemScope

namespace MemV1

/-- What a request accesses. -/
inductive Access
  /-- From the first byte to the last, inclusive. -/
  | bytes (first last : UInt64)
  /-- The last byte would lie past the end of the address space. -/
  | outOfRange
  /-- Not an access at all. -/
  | empty
  deriving DecidableEq, Repr

/-- The bytes `[addr, addr + len)`, with checked arithmetic. -/
def Access.ofRange (addr : UInt64) (len : ℕ) : Access :=
  if len = 0 then .empty
  else if addr.toNat + (len - 1) < 2 ^ 64 then .bytes addr (addr + UInt64.ofNat (len - 1))
  else .outOfRange

namespace MemMsg

/-- `MemMsg::access`: `none` for responses. -/
def access : MemMsg → Option Access
  | .readReq _ addr len => some (.ofRange addr len.toNat)
  | .writeReq _ addr data => some (.ofRange addr data.length)
  | .readResp .. | .writeResp .. => none

/-- The transaction of a message. -/
def txn : MemMsg → TxnId
  | .readReq txn _ _ | .readResp txn _ | .writeReq txn _ _ | .writeResp txn _ => txn

/-- A request accesses `size` bytes from `first` on. -/
def Spans (first size : ℕ) : MemMsg → Prop
  | .readReq _ addr len => addr.toNat = first ∧ len.toNat = size
  | .writeReq _ addr data => addr.toNat = first ∧ data.length = size
  | .readResp .. | .writeResp .. => False

instance (first size : ℕ) (msg : MemMsg) : Decidable (msg.Spans first size) := by
  cases msg <;> unfold Spans <;> infer_instance

/-- Well-formed requests are never empty. -/
def WellFormed (msg : MemMsg) : Prop := ∃ first size, msg.Spans first size ∧ 0 < size

end MemMsg

lemma Access.ofRange_eq_empty {addr : UInt64} {len : ℕ} : ofRange addr len = .empty ↔ len = 0 := by
  unfold ofRange
  split_ifs <;> simp_all

lemma Access.ofRange_eq_bytes {addr first last : UInt64} {len : ℕ} :
    ofRange addr len = .bytes first last ↔
      first = addr ∧ 0 < len ∧ last.toNat + 1 = addr.toNat + len := by
  unfold ofRange
  split_ifs with hlen hlt
  · simp [hlen]
  · have hlast : (addr + UInt64.ofNat (len - 1)).toNat = addr.toNat + (len - 1) := by
      have hsmall : len - 1 < 2 ^ 64 := by omega
      rw [UInt64.toNat_add, UInt64.toNat_ofNat_of_lt' hsmall, Nat.mod_eq_of_lt hlt]
    rw [Access.bytes.injEq, eq_comm (a := addr), ← UInt64.toNat_inj (b := last), hlast]
    refine and_congr_right fun _ => ?_
    omega
  · have hbound := last.toNat_lt
    simp only [false_iff, not_and]
    omega

lemma Access.ofRange_eq_outOfRange {addr : UInt64} {len : ℕ} :
    ofRange addr len = .outOfRange ↔ 2 ^ 64 < addr.toNat + len := by
  have haddr := addr.toNat_lt
  unfold ofRange
  split_ifs <;> simp <;> omega

end MemV1

namespace Platform

open MemV1

/-! ## Checked arithmetic -/

/-- `u64::checked_add`. -/
def checkedAdd (a b : UInt64) : Option UInt64 :=
  if a.toNat + b.toNat < 2 ^ 64 then some (a + b) else none

/-- `u64::checked_sub`. -/
def checkedSub (a b : UInt64) : Option UInt64 := if b ≤ a then some (a - b) else none

/-- `u64::checked_mul`. -/
def checkedMul (a b : UInt64) : Option UInt64 :=
  if a.toNat * b.toNat < 2 ^ 64 then some (a * b) else none

/-! ## Requests -/

/-- The `TxnId` of a request and whether it is a write, or `none` for a response. -/
def requestTxn : MemV1.MemMsg → Option (TxnId × Bool)
  | .readReq txn _ _ => some (txn, false)
  | .writeReq txn _ _ => some (txn, true)
  | .readResp .. | .writeResp .. => none

/-- A message with its `txn` replaced. -/
def withTxn (txn : TxnId) : MemV1.MemMsg → MemV1.MemMsg
  | .readReq _ addr len => .readReq txn addr len
  | .readResp _ outcome => .readResp txn outcome
  | .writeReq _ addr data => .writeReq txn addr data
  | .writeResp _ outcome => .writeResp txn outcome

/-- A request moved to `offset`. -/
def atOffset (offset : UInt64) : MemV1.MemMsg → MemV1.MemMsg
  | .readReq txn _ len => .readReq txn offset len
  | .writeReq txn _ data => .writeReq txn offset data
  | msg => msg

/-- A memory-mapped region: the bytes `[base, base + size)`. -/
structure Region where
  /-- The name of its initiator port too. -/
  name : String
  base : UInt64
  size : UInt64
  deriving DecidableEq, Repr

/-- The region holds every byte of the request. -/
def Region.Contains (region : Region) (msg : MemV1.MemMsg) : Prop :=
  ∃ first size, msg.Spans first size ∧ 0 < size ∧
    region.base.toNat ≤ first ∧ first + size ≤ region.base.toNat + region.size.toNat

lemma wellFormed_iff_access {msg : MemV1.MemMsg} :
    msg.WellFormed ↔ ∃ access, msg.access = some access ∧ access ≠ .empty := by
  cases msg with
  | readReq txn addr len =>
    simp [MemMsg.WellFormed, MemMsg.Spans, MemMsg.access, Access.ofRange_eq_empty,
      Nat.pos_iff_ne_zero]
  | writeReq txn addr data =>
    simp [MemMsg.WellFormed, MemMsg.Spans, MemMsg.access, Access.ofRange_eq_empty,
      List.length_pos_iff]
  | readResp => simp [MemMsg.WellFormed, MemMsg.Spans, MemMsg.access]
  | writeResp => simp [MemMsg.WellFormed, MemMsg.Spans, MemMsg.access]

/-- A request that stays inside the address space is about the bytes it spans. -/
lemma access_eq_bytes {msg : MemV1.MemMsg} {first last : UInt64} :
    msg.access = some (.bytes first last) ↔
      ∃ size, msg.Spans first.toNat size ∧ 0 < size ∧ last.toNat + 1 = first.toNat + size := by
  cases msg with
  | readReq txn addr len =>
    simp only [MemMsg.access, Option.some.injEq, Access.ofRange_eq_bytes, MemMsg.Spans,
      UInt64.toNat_inj]
    grind
  | writeReq txn addr data =>
    simp only [MemMsg.access, Option.some.injEq, Access.ofRange_eq_bytes, MemMsg.Spans,
      UInt64.toNat_inj]
    grind
  | readResp => simp [MemMsg.Spans, MemMsg.access]
  | writeResp => simp [MemMsg.Spans, MemMsg.access]

/-!
## Response latencies

The targets of the platform answer after a latency of their configuration.  All of them schedule it
in the same way and write it into their snapshots in the same way.
-/

/-- A latency as a time to schedule at. -/
def scheduleWhen : LinkLatency → ScheduleWhen
  | .after d => .after d
  | .cycles domain k => .cycles domain k

variable [SnapshotData]

open SnapshotData SnapshotField

/-- `write_latency`. -/
def latencyParts : LinkLatency → List (Option Bytes)
  | .after d => [SnapshotFields.u8.part 0, u128.encode d.femtoseconds]
  | .cycles domain k =>
    [SnapshotFields.u8.part 1, SnapshotFields.u32.part domain, SnapshotFields.u64.part k]

end Platform

end SystemScope
