import SystemScope.Runtime.Snapshot

/-!
# A snapshot is read back as it was written

The encoder and the decoder of `runtime/src/snapshot.rs` are two separate pieces of code.  If the
canonical codec reads back what it wrote (`Contracts.Lawful`), the decoder accepts every encoded
snapshot and returns what was encoded, field by field (`decode_snapshotBytes`).
-/

namespace SystemScope

open Contracts Coder

/-! ## Parts of the format -/

lemma decodes_read {α : Type} {c : CanonicalCoder α} (hc : c.RoundTrips) {x : α} (b : Bytes)
    (h : c.encode x = some b) : Decodes (read c) b x := by
  intro rest
  rw [read, hc x b rest h]
  rfl

/-- A check that passes reads nothing. -/
lemma decodes_check_bind {α : Type} {ok : Bool} (hok : ok = true) {e : RestoreError}
    {f : Unit → Parser UInt8 RestoreError α} {b : Bytes} {x : α} (h : Decodes (f ()) b x) :
    Decodes (check ok e >>= f) b x := by
  rw [check, if_pos hok]
  exact h

variable [Contracts] (hlawful : Lawful)

include hlawful

lemma decodes_magic {b : Bytes} (h : (raw 8).encode snapshotMagic = some b) :
    Decodes decodeMagic b () := by
  intro rest
  simp only [decodeMagic, hlawful.raw 8 _ _ rest h, if_true]

lemma decodes_domainFields {d : DomainFields} {b : Bytes} (h : encodeDomainFields d = some b) :
    Decodes decodeDomainFields b d := by
  obtain ⟨id, num, den, offset, rounding⟩ := d
  refine .bind_concat h (decodes_read hlawful.u32) fun _ h => ?_
  refine .bind_concat h (decodes_read hlawful.u64) fun _ h => ?_
  refine .bind_concat h (decodes_read hlawful.u64) fun _ h => ?_
  refine .bind_concat h (decodes_read hlawful.u64) fun _ h => ?_
  exact .bind_pure_concat h (decodes_read hlawful.u8)

lemma decodes_domain {d : ClockDomain} {b : Bytes} (h : encodeDomainFields d.fields = some b) :
    Decodes decodeDomain b d.fields := by
  have htag : decide (d.fields.2.2.2.2 ≤ 1) = true := by
    change decide (d.rounding.tag ≤ 1) = true
    cases d.rounding <;> decide
  rw [← List.append_nil b]
  exact (decodes_domainFields hlawful h).bind (decodes_check_bind htag (.pure _))

lemma decodes_lastDispatched {last : Option EventKey} {b : Bytes}
    (h : encodeLastDispatched last = some b) : Decodes decodeLastDispatched b last := by
  cases last with
  | none =>
    rw [← List.append_nil b]
    exact (decodes_read hlawful.u8 b h).bind (.pure none)
  | some key =>
    refine .bind_concat h (decodes_read hlawful.u8) fun _ h => ?_
    exact .bind_pure_concat h (decodes_read hlawful.eventKey)

lemma decodes_rngState {s : XoshiroState} {b : Bytes} (h : encodeRngState s = some b) :
    Decodes decodeRngState b s := by
  refine .bind_concat h (decodes_read hlawful.u64) fun _ h => ?_
  refine .bind_concat h (decodes_read hlawful.u64) fun _ h => ?_
  refine .bind_concat h (decodes_read hlawful.u64) fun _ h => ?_
  exact .bind_pure_concat h (decodes_read hlawful.u64)

lemma decodes_component {entry : ComponentEntry} {b : Bytes} (h : encodeComponent entry = some b) :
    Decodes decodeComponent b entry := by
  obtain ⟨id, schema, state⟩ := entry
  refine .bind_concat h (decodes_read hlawful.u32) fun _ h => ?_
  refine .bind_concat h (decodes_read hlawful.u32) fun _ h => ?_
  exact .bind_pure_concat h (decodes_read hlawful.bytes)

/-- A counted sequence is read back if each of its items is. -/
lemma decodes_seq {α : Type} {item : Parser UInt8 RestoreError α} (encode : α → Option Bytes)
    {xs : List α} (hitem : ∀ x ∈ xs, ∀ b, encode x = some b → Decodes item b x) {b : Bytes}
    (h : concat [len.encode xs.length, concat (xs.map encode)] = some b) :
    Decodes (decodeSeq item) b xs := by
  refine .bind_concat h (decodes_read hlawful.len) fun rest h => ?_
  rw [concat_cons_eq_some] at h
  obtain ⟨items, _, hitems, hnil, rfl⟩ := h
  rw [concat_nil_eq_some.mp hnil, List.append_nil]
  exact Decodes.replicateM_of_forall hitem hitems

/-! ## The whole snapshot -/

variable {C : Type} [Component C]

/-- What a snapshot of this session holds. -/
def Runtime.decoded (rt : Runtime C) : Decoded where
  seed := rt.config.seed
  ticksPerSecond := rt.clock.ticksPerSecond
  maxEventsPerPhase := rt.config.scheduler.maxEventsPerPhase
  contractsVersion := contractsVersion
  clockDomains := rt.domains.map ClockDomain.fields
  topologyHash := rt.topologyHash
  lastDispatched := rt.scheduler.lastDispatched
  dispatchedInPhase := rt.scheduler.dispatchedInPhase
  nextSequence := rt.scheduler.nextSequence
  executionDigest := rt.executionDigest
  queue := rt.scheduler.snapshot.queue.map Event.canonical
  rngStates := rt.rngs.map Xoshiro256StarStar.state
  components := componentEntries 0 rt.components

omit [Component C] in
lemma decodes_clockDomains {domains : List ClockDomain} {b : Bytes}
    (h : encodeClockDomains domains = some b) :
    Decodes (decodeSeq decodeDomain) b (domains.map ClockDomain.fields) ∧
      Decodes (decodeSeq decodeDomainFields) b (domains.map ClockDomain.fields) := by
  have hseq : concat [len.encode (domains.map ClockDomain.fields).length,
      concat ((domains.map ClockDomain.fields).map encodeDomainFields)] = some b := by
    rw [List.length_map, List.map_map]
    rw [hlawful.clockDomains, concat_cons_eq_some] at h
    obtain ⟨b₁, b₂, hlen, hitems, rfl⟩ := h
    rw [concat_cons_eq_some]
    exact ⟨b₁, b₂, hlen, concat_cons_eq_some.mpr ⟨b₂, [], hitems, rfl, by simp⟩, rfl⟩
  refine ⟨decodes_seq hlawful _ ?_ hseq, decodes_seq hlawful _ ?_ hseq⟩
  · intro fields hfields b hb
    obtain ⟨d, -, rfl⟩ := List.mem_map.mp hfields
    exact decodes_domain hlawful hb
  · exact fun fields _ b hb => decodes_domainFields hlawful hb

lemma decodes_queue {queue : List (Event Pending)} {b : Bytes}
    (h : concat [len.encode queue.length,
      concat (queue.map fun e => event.encode e.canonical)] = some b) :
    Decodes (decodeSeq (read event)) b (queue.map Event.canonical) := by
  refine decodes_seq hlawful event.encode
    (fun _ _ => decodes_read hlawful.event) ?_
  rwa [List.length_map, List.map_map]

lemma decodes_rngs {rngs : List Xoshiro256StarStar} {b : Bytes}
    (h : concat [len.encode rngs.length,
      concat (rngs.map fun rng => encodeRngState rng.state)] = some b) :
    Decodes (decodeSeq decodeRngState) b (rngs.map Xoshiro256StarStar.state) := by
  refine decodes_seq hlawful encodeRngState
    (fun _ _ _ => decodes_rngState hlawful) ?_
  rwa [List.length_map, List.map_map]

lemma decode_snapshotBytes {rt : Runtime C} {bs : Bytes} (h : rt.snapshotBytes = some bs) :
    decode bs = .ok rt.decoded := by
  have hfields : Decodes decodeFields bs rt.decoded := by
    refine .bind_concat h (fun _ => decodes_magic hlawful) fun _ h => ?_
    refine .bind_concat h (decodes_read hlawful.u32) fun _ h => ?_
    refine decodes_check_bind (by simp) ?_
    refine .bind_concat h (decodes_read hlawful.u64) fun _ h => ?_
    refine .bind_concat h (decodes_read hlawful.u64) fun _ h => ?_
    refine .bind_concat h (decodes_read hlawful.u64) fun _ h => ?_
    refine .bind_concat h (decodes_read hlawful.str) fun _ h => ?_
    refine .bind_concat h (fun _ hb => (decodes_clockDomains hlawful hb).1) fun _ h => ?_
    refine .bind_concat h (decodes_read (hlawful.raw 32)) fun _ h => ?_
    refine .bind_concat h (fun _ => decodes_lastDispatched hlawful) fun _ h => ?_
    refine .bind_concat h (decodes_read hlawful.u64) fun _ h => ?_
    refine .bind_concat h (decodes_read hlawful.u64) fun _ h => ?_
    refine .bind_concat h (decodes_read (hlawful.raw 32)) fun _ h => ?_
    -- A count and its items are one part for the decoder.
    rw [concat_cons_cons] at h
    refine .bind_concat h (fun _ => decodes_queue hlawful) fun _ h => ?_
    rw [concat_cons_cons] at h
    refine .bind_concat h (fun _ => decodes_rngs hlawful) fun _ h => ?_
    rw [concat_cons_cons] at h
    exact .bind_pure_concat h fun _ =>
      decodes_seq hlawful _ fun _ _ _ => decodes_component hlawful
  have hall := hfields []
  rw [List.append_nil] at hall
  simp only [decode, hall, hlawful.finish]
  rfl

end SystemScope
