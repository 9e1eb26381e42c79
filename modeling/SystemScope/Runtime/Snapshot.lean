import SystemScope.Runtime.Session

/-!
# Snapshots

`RuntimeSnapshot` of `runtime/src/snapshot.rs` (§7): its encoding, the strict decoder, and the
validated restore.  Encoder and decoder are written out separately, field by field, as in the
source; that they agree is a theorem and not a construction.

A value without a canonical encoding (a count or a length of 2^32 or more) makes the source's
encoder panic; `snapshot` returns `panicked` there.
-/

namespace SystemScope

/-- First bytes of every snapshot: `SSSNAP`, and two zeros. -/
def snapshotMagic : Vector UInt8 8 := #v[0x53, 0x53, 0x53, 0x4E, 0x41, 0x50, 0, 0]

/-- Version of the snapshot layout. -/
def snapshotFormatVersion : UInt32 := 1

/-- A component's entry: its id, its schema version, and its bytes. -/
abbrev ComponentEntry := UInt32 × UInt32 × Bytes

/-- A snapshot decoded but not yet checked against a session. -/
structure Decoded where
  seed : UInt64
  ticksPerSecond : UInt64
  maxEventsPerPhase : UInt64
  contractsVersion : String
  clockDomains : List Contracts.DomainFields
  topologyHash : Digest
  lastDispatched : Option EventKey
  dispatchedInPhase : UInt64
  nextSequence : UInt64
  executionDigest : Digest
  queue : List CanonicalEvent
  rngStates : List XoshiroState
  components : List ComponentEntry
  deriving DecidableEq

/-- The scheduler's part of a snapshot. -/
def Decoded.scheduler (snap : Decoded) : SchedulerSnapshot Pending where
  lastDispatched := snap.lastDispatched
  dispatchedInPhase := snap.dispatchedInPhase
  nextSequence := snap.nextSequence
  queue := snap.queue.map fun ev => ⟨ev.key, ⟨ev.source, ev.target, ev.delivery⟩⟩

section

variable [Contracts]

open Coder Contracts

/-! ## Encoding -/

def encodeLastDispatched : Option EventKey → Option Bytes
  | none => u8.encode 0
  | some key => concat [u8.encode 1, eventKey.encode key]

def encodeRngState (s : XoshiroState) : Option Bytes :=
  concat [u64.encode s.s0, u64.encode s.s1, u64.encode s.s2, u64.encode s.s3]

def encodeComponent : ComponentEntry → Option Bytes
  | (id, schema, state) => concat [u32.encode id, u32.encode schema, bytes.encode state]

/-- The entries of a list of components, the first of which has this id. -/
def componentEntries {C : Type} [Component C] (id : ℕ) : List C → List ComponentEntry
  | [] => []
  | c :: cs =>
    (UInt32.ofNat id, Component.snapshotSchemaVersion c, Component.snapshot c) ::
      componentEntries (id + 1) cs

/-! ## Decoding -/

/-- Reads one value, turning a decode error into a restore error. -/
def read {α : Type} (c : CanonicalCoder α) : Parser UInt8 RestoreError α :=
  fun bs => (c.decode bs).mapError .decode

/-- Refuses what was read so far, unless a condition holds. -/
def check (ok : Bool) (e : RestoreError) : Parser UInt8 RestoreError Unit :=
  if ok then pure () else throw e

def decodeMagic : Parser UInt8 RestoreError Unit := fun bs =>
  match (raw 8).decode bs with
  | .ok (magic, rest) => if magic = snapshotMagic then .ok ((), rest) else .error .badMagic
  | .error _ => .error .badMagic

/-- The fields of one clock domain, unchecked. -/
def decodeDomainFields : Parser UInt8 RestoreError DomainFields := do
  let id ← read u32
  let num ← read u64
  let den ← read u64
  let offset ← read u64
  let rounding ← read u8
  return (id, num, den, offset, rounding)

def decodeDomain : Parser UInt8 RestoreError DomainFields := do
  let domain ← decodeDomainFields
  check (domain.2.2.2.2 ≤ 1) (.decode (.invalidTag "rounding" domain.2.2.2.2))
  return domain

def decodeLastDispatched : Parser UInt8 RestoreError (Option EventKey) := do
  let tag ← read u8
  if tag = 0 then return none
  else if tag = 1 then return some (← read eventKey)
  else throw (.decode (.invalidTag "option" tag))

def decodeRngState : Parser UInt8 RestoreError XoshiroState := do
  let s0 ← read u64
  let s1 ← read u64
  let s2 ← read u64
  let s3 ← read u64
  return ⟨s0, s1, s2, s3⟩

def decodeComponent : Parser UInt8 RestoreError ComponentEntry := do
  let id ← read u32
  let schema ← read u32
  let state ← read bytes
  return (id, schema, state)

/-- A counted sequence. -/
def decodeSeq {α : Type} (item : Parser UInt8 RestoreError α) :
    Parser UInt8 RestoreError (List α) := do
  let n ← read len
  Decodes.replicateM item n

/-- Everything up to the end of the input. -/
def decodeFields : Parser UInt8 RestoreError Decoded := do
  decodeMagic
  let version ← read u32
  check (version = snapshotFormatVersion) (.formatVersion version)
  let seed ← read u64
  let ticksPerSecond ← read u64
  let maxEventsPerPhase ← read u64
  let contractsVersion ← read str
  let clockDomains ← decodeSeq decodeDomain
  let topologyHash ← read (raw 32)
  let lastDispatched ← decodeLastDispatched
  let dispatchedInPhase ← read u64
  let nextSequence ← read u64
  let executionDigest ← read (raw 32)
  let queue ← decodeSeq (read event)
  let rngStates ← decodeSeq decodeRngState
  let components ← decodeSeq decodeComponent
  return { seed, ticksPerSecond, maxEventsPerPhase, contractsVersion, clockDomains, topologyHash
           lastDispatched, dispatchedInPhase, nextSequence, executionDigest, queue, rngStates
           components }

/-- Decodes a snapshot, to the last byte. -/
def decode (bs : Bytes) : Except RestoreError Decoded :=
  match decodeFields bs with
  | .error e => .error e
  | .ok (snap, rest) => (finish rest).mapError .decode |>.map fun _ => snap

/-- The decoded form of this session's clock domains.  Where there is none, the source panics
("just encoded") and a restore here reports a mismatch; with a lawful codec there is one. -/
def domainFields (domains : List ClockDomain) : Option (List DomainFields) := do
  let bs ← encodeClockDomains domains
  match decodeSeq decodeDomainFields bs with
  | .error _ => none
  | .ok (fields, _) => some fields

/-! ## Restoring -/

def schedulerError : SchedulerRestoreError → RestoreError
  | .duplicateSequence _ => .invalidState "two queued events share a sequence"
  | .sequenceNotYetAssigned _ => .invalidState "a queued sequence is not below next_sequence"
  | .eventBeforeCursor _ => .invalidState "a queued event is not after the last dispatched event"
  | .observePhaseEvent _ => .invalidState "a queued event is in OBSERVE"
  | .invalidPhaseCount _ => .invalidState "dispatched_in_phase is inconsistent"

/-- The first component whose schema version differs from its entry's. -/
def schemaMismatch {C : Type} [Component C] (id : ℕ) :
    List C → List ComponentEntry → Option RestoreError
  | c :: cs, (_, found, _) :: entries =>
    if found ≠ Component.snapshotSchemaVersion c then
      some (.schemaVersion (UInt32.ofNat id) (Component.snapshotSchemaVersion c) found)
    else schemaMismatch (id + 1) cs entries
  | _, _ => none

/-- Whether the entries are numbered from `id` on. -/
def inIdOrder (id : ℕ) : List ComponentEntry → Bool
  | [] => true
  | (found, _, _) :: entries => found = UInt32.ofNat id && inIdOrder (id + 1) entries

/-- Hands each component its own bytes, all of which it must consume. -/
def restoreComponents {C : Type} [Component C] :
    List C → List ComponentEntry → Except RestoreError Unit × List C
  | c :: cs, (_, schema, state) :: entries =>
    match Component.restore c state schema with
    | (c, .error e) => (.error e, c :: cs)
    | (c, .ok rest) =>
      match finish rest with
      | .error e => (.error (.decode e), c :: cs)
      | .ok () =>
        let (result, cs) := restoreComponents cs entries
        (result, c :: cs)
  | cs, _ => (.ok (), cs)

namespace Runtime

variable {C : Type} [Component C]

/-- The bytes of a snapshot, field by field. -/
def snapshotBytes (rt : Runtime C) : Option Bytes :=
  let scheduler := rt.scheduler.snapshot
  let entries := componentEntries 0 rt.components
  concat
    [ (raw 8).encode snapshotMagic, u32.encode snapshotFormatVersion, u64.encode rt.config.seed,
      u64.encode rt.clock.ticksPerSecond, u64.encode rt.config.scheduler.maxEventsPerPhase,
      str.encode contractsVersion, encodeClockDomains rt.domains, (raw 32).encode rt.topologyHash,
      encodeLastDispatched scheduler.lastDispatched, u64.encode scheduler.dispatchedInPhase,
      u64.encode scheduler.nextSequence, (raw 32).encode rt.executionDigest,
      len.encode scheduler.queue.length,
      concat (scheduler.queue.map fun e => event.encode e.canonical),
      len.encode rt.rngs.length, concat (rt.rngs.map fun rng => encodeRngState rng.state),
      len.encode entries.length, concat (entries.map encodeComponent) ]

/-- Encodes the complete simulation state, at an event boundary. -/
def snapshot (rt : Runtime C) : Except RuntimeError Bytes :=
  match rt.require .ready with
  | .error e => .error e
  | .ok () =>
    match rt.snapshotBytes with
    | none => .error .panicked
    | some bs => .ok bs

/-- A session that is ready has a snapshot, if its fields can be written. -/
lemma exists_snapshot {rt : Runtime C} (hready : rt.lifecycle = .ready)
    (hbytes : rt.snapshotBytes.isSome) :
    ∃ bs, rt.snapshot = .ok bs := by
  obtain ⟨bs, hbs⟩ := Option.isSome_iff_exists.mp hbytes
  have hrequire : rt.require .ready = .ok () := by
    unfold require
    rw [hready]
    rfl
  refine ⟨bs, ?_⟩
  unfold snapshot
  rw [hrequire, hbs]

/-- `StateDigest`: the hash of the snapshot. -/
def stateDigest (rt : Runtime C) : Except RuntimeError Digest := rt.snapshot.map hash

/-- The first session setting in which a snapshot differs. -/
def sessionMismatch (rt : Runtime C) (snap : Decoded) : Option SessionField :=
  let session : List (Bool × SessionField) :=
    [ (snap.seed = rt.config.seed, .seed),
      (snap.ticksPerSecond = rt.clock.ticksPerSecond, .ticksPerSecond),
      (snap.maxEventsPerPhase = rt.config.scheduler.maxEventsPerPhase, .maxEventsPerPhase),
      (snap.contractsVersion = contractsVersion, .contractsVersion),
      (some snap.clockDomains = domainFields rt.domains, .clockDomains) ]
  (session.find? fun field => !field.1).map Prod.snd

/-- A queued event must be one this topology could have scheduled. -/
def checkEvent (rt : Runtime C) (ev : CanonicalEvent) : Except RestoreError Unit :=
  match rt.slots[ev.target.toNat]? with
  | none => .error (.invalidState "queued event for an unknown component")
  | some target =>
    match ev.delivery with
    | .message port msg =>
      if ev.source ≠ .runtime ∧ rt.slots.length ≤ ev.source.toNat then
        .error (.invalidState "queued message from an unknown component")
      else match target.ports[port.toNat]? with
        | none => .error (.invalidState "queued message for an unknown port")
        | some spec =>
          if spec.protocol ≠ msg.protocol then
            .error (.invalidState "queued message does not match its port's protocol")
          else .ok ()
    | .wake _ =>
      if ev.source ≠ ev.target then .error (.invalidState "queued wake for another component")
      else .ok ()

/-- The checks of §7, in order; the components' own bytes come after them. -/
def validate (rt : Runtime C) (snap : Decoded) :
    Except RestoreError (Scheduler Pending × List Xoshiro256StarStar) :=
  match rt.sessionMismatch snap with
  | some field => .error (.sessionMismatch field)
  | none =>
    if snap.topologyHash ≠ rt.topologyHash then .error .topologyMismatch
    else match schemaMismatch 0 rt.components snap.components with
      | some e => .error e
      | none =>
        if snap.components.length ≠ rt.components.length ∨
            snap.rngStates.length ≠ rt.components.length then
          .error (.invalidState "not one entry per component")
        else if !inIdOrder 0 snap.components then
          .error (.invalidState "component entries out of id order")
        else match snap.rngStates.mapM Xoshiro256StarStar.fromState with
          | none => .error (.invalidState "all-zero RNG state")
          | some rngs =>
            if snap.lastDispatched = none ∧ snap.executionDigest ≠ .zero then
              .error (.invalidState "execution digest without a dispatched event")
            else match snap.queue.forM rt.checkEvent with
              | .error e => .error e
              | .ok () =>
                match Scheduler.restore rt.config.scheduler snap.scheduler with
                | .error e => .error (schedulerError e)
                | .ok scheduler => .ok (scheduler, rngs)

/-- What passes all of these checks. -/
lemma validate_eq_ok_iff {rt : Runtime C} {snap : Decoded} {scheduler : Scheduler Pending}
    {rngs : List Xoshiro256StarStar} :
    rt.validate snap = .ok (scheduler, rngs) ↔
      rt.sessionMismatch snap = none ∧ snap.topologyHash = rt.topologyHash ∧
      schemaMismatch 0 rt.components snap.components = none ∧
      snap.components.length = rt.components.length ∧
      snap.rngStates.length = rt.components.length ∧ inIdOrder 0 snap.components ∧
      snap.rngStates.mapM Xoshiro256StarStar.fromState = some rngs ∧
      (snap.lastDispatched = none → snap.executionDigest = .zero) ∧
      snap.queue.forM rt.checkEvent = .ok () ∧
      Scheduler.restore rt.config.scheduler snap.scheduler = .ok scheduler := by
  unfold validate
  constructor
  · intro h
    split at h
    next => cases h
    next hsession =>
      by_cases hhash : snap.topologyHash ≠ rt.topologyHash
      · rw [if_pos hhash] at h
        cases h
      · rw [if_neg hhash] at h
        split at h
        next => cases h
        next hschema =>
          split at h
          next => cases h
          next hlength =>
            rw [not_or, not_not, not_not] at hlength
            split at h
            next => cases h
            next horder =>
              split at h
              next => cases h
              next hmap =>
                split at h
                next => cases h
                next hdigest =>
                  split at h
                  next => cases h
                  next hqueue =>
                    split at h
                    next => cases h
                    next hrestore =>
                      cases h
                      refine ⟨hsession, not_not.mp hhash, hschema, hlength.1, hlength.2,
                        by simpa using horder, hmap, ?_, hqueue, hrestore⟩
                      exact fun hlast => not_not.mp fun hne => hdigest ⟨hlast, hne⟩
  · rintro ⟨hsession, hhash, hschema, hlength, hrngs, horder, hmap, hdigest, hqueue, hrestore⟩
    have hzero : ¬(snap.lastDispatched = none ∧ snap.executionDigest ≠ .zero) :=
      fun h => h.2 (hdigest h.1)
    simp only [hsession, hhash, hschema, hlength, hrngs, horder, hmap, hqueue, hrestore,
      if_neg hzero, ne_eq, not_true_eq_false, or_self, if_false, Bool.not_true,
      Bool.false_eq_true]

def tryRestore (rt : Runtime C) (bs : Bytes) : Except RestoreError Unit × Runtime C :=
  match decode bs with
  | .error e => (.error e, rt)
  | .ok snap =>
    match rt.validate snap with
    | .error e => (.error e, rt)
    | .ok (scheduler, rngs) =>
      match restoreComponents rt.components snap.components with
      -- Components may already hold part of the snapshot.
      | (.error e, components) => (.error e, { rt with components })
      | (.ok (), components) =>
        (.ok (), { rt with
          components, scheduler, rngs, executionDigest := snap.executionDigest })

/-- Replaces `init`: resumes the session a snapshot was taken from. -/
def restore (rt : Runtime C) (bs : Bytes) : Except RuntimeError Unit × Runtime C :=
  match rt.require .elaborated with
  | .error e => (.error e, rt)
  | .ok () =>
    if rt.trace.isSome then (.error .traceNeedsPrefix, rt)
    else match rt.tryRestore bs with
      | (.ok (), rt) => (.ok (), { rt with lifecycle := .ready, freshlyRestored := true })
      | (.error e, rt) =>
        let (error, rt) := rt.failRestore e
        (.error error, rt)

end Runtime

end

end SystemScope
