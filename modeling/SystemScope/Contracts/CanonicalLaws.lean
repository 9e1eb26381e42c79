import SystemScope.Contracts.Canonical

/-!
# The documented contracts are lawful

The canonical encoding reads back what it writes (`canonical_lawful`), one message type at a time,
and the clock arithmetic never goes back and keeps order (`canonical_monotoneClock`).
-/

namespace SystemScope.Canonical

open Coder

/-! ## The codec is lawful -/

lemma u8_roundTrips : u8.RoundTrips :=
  refine_roundTrips (word_roundTrips 1) fun n => by rw [UInt8.ofNat_toNat]

lemma u16_roundTrips : u16.RoundTrips :=
  refine_roundTrips (word_roundTrips 2) fun n => by rw [UInt16.ofNat_toNat]

lemma u32_roundTrips : u32.RoundTrips :=
  refine_roundTrips (word_roundTrips 4) fun n => by rw [UInt32.ofNat_toNat]

lemma u64_roundTrips : u64.RoundTrips :=
  refine_roundTrips (word_roundTrips 8) fun n => by rw [UInt64.ofNat_toNat]

lemma bytes_roundTrips : bytes.RoundTrips := counted_roundTrips (word_roundTrips 4)

lemma str_roundTrips : str.RoundTrips := by
  refine refine_roundTrips bytes_roundTrips fun s => ?_
  have hvalid : (⟨s.toUTF8.data.toList.toArray⟩ : ByteArray).IsValidUTF8 := s.isValidUTF8
  rw [String.fromUTF8?, dif_pos hvalid]
  rfl

lemma bool_roundTrips : bool.RoundTrips :=
  refine_roundTrips u8_roundTrips fun b => by cases b <;> rfl

lemma phase_roundTrips : phase.RoundTrips :=
  refine_roundTrips u8_roundTrips fun p => by cases p <;> rfl

lemma decodes_field {α : Type} {c : CanonicalCoder α} (hc : c.RoundTrips) {x : α} (b : Bytes)
    (h : c.encode x = some b) : Decodes c.read b x :=
  roundTrips_iff.mp hc x b h

lemma memMsg_roundTrips : memMsg.RoundTrips := by
  refine tagged_roundTrips u8_roundTrips fun msg bs h => ?_
  cases msg with
  | readReq txn addr len =>
    refine .bind_concat h (decodes_field u64_roundTrips) fun _ h => ?_
    refine .bind_concat h (decodes_field u64_roundTrips) fun _ h => ?_
    exact .bind_pure_concat h (decodes_field u32_roundTrips)
  | readResp txn data =>
    refine .bind_concat h (decodes_field u64_roundTrips) fun _ h => ?_
    exact .bind_pure_concat h (decodes_field bytes_roundTrips)
  | writeReq txn addr data =>
    refine .bind_concat h (decodes_field u64_roundTrips) fun _ h => ?_
    refine .bind_concat h (decodes_field u64_roundTrips) fun _ h => ?_
    exact .bind_pure_concat h (decodes_field bytes_roundTrips)
  | writeResp txn => exact .bind_pure_concat h (decodes_field u64_roundTrips)

lemma memFault_roundTrips : memFault.RoundTrips :=
  refine_roundTrips u8_roundTrips fun f => by cases f; rfl

lemma readOutcome_roundTrips : readOutcome.RoundTrips := by
  refine tagged_roundTrips u8_roundTrips fun outcome bs h => ?_
  cases outcome with
  | data data => exact .bind_pure_concat h (decodes_field bytes_roundTrips)
  | fault fault => exact .bind_pure_concat h (decodes_field memFault_roundTrips)

lemma writeOutcome_roundTrips : writeOutcome.RoundTrips := by
  refine tagged_roundTrips u8_roundTrips fun outcome bs h => ?_
  cases outcome with
  | done =>
    rw [concat_nil_eq_some.mp h]
    exact .pure _
  | fault fault => exact .bind_pure_concat h (decodes_field memFault_roundTrips)

lemma memV1Msg_roundTrips : memV1Msg.RoundTrips := by
  refine tagged_roundTrips u8_roundTrips fun msg bs h => ?_
  cases msg with
  | readReq txn addr len =>
    refine .bind_concat h (decodes_field u64_roundTrips) fun _ h => ?_
    refine .bind_concat h (decodes_field u64_roundTrips) fun _ h => ?_
    exact .bind_pure_concat h (decodes_field u32_roundTrips)
  | readResp txn outcome =>
    refine .bind_concat h (decodes_field u64_roundTrips) fun _ h => ?_
    exact .bind_pure_concat h (decodes_field readOutcome_roundTrips)
  | writeReq txn addr data =>
    refine .bind_concat h (decodes_field u64_roundTrips) fun _ h => ?_
    refine .bind_concat h (decodes_field u64_roundTrips) fun _ h => ?_
    exact .bind_pure_concat h (decodes_field bytes_roundTrips)
  | writeResp txn outcome =>
    refine .bind_concat h (decodes_field u64_roundTrips) fun _ h => ?_
    exact .bind_pure_concat h (decodes_field writeOutcome_roundTrips)

lemma irqMsg_roundTrips : irqMsg.RoundTrips := by
  refine tagged_roundTrips u8_roundTrips fun msg bs h => ?_
  cases msg with
  | level asserted => exact .bind_pure_concat h (decodes_field bool_roundTrips)

lemma mediaError_roundTrips : mediaError.RoundTrips :=
  refine_roundTrips u8_roundTrips fun e => by cases e <;> rfl

lemma blockReadOutcome_roundTrips : blockReadOutcome.RoundTrips := by
  refine tagged_roundTrips u8_roundTrips fun outcome bs h => ?_
  cases outcome with
  | data data => exact .bind_pure_concat h (decodes_field bytes_roundTrips)
  | error error => exact .bind_pure_concat h (decodes_field mediaError_roundTrips)

lemma blockWriteOutcome_roundTrips : blockWriteOutcome.RoundTrips := by
  refine tagged_roundTrips u8_roundTrips fun outcome bs h => ?_
  cases outcome with
  | done =>
    rw [concat_nil_eq_some.mp h]
    exact .pure _
  | error error => exact .bind_pure_concat h (decodes_field mediaError_roundTrips)

lemma blockMsg_roundTrips : blockMsg.RoundTrips := by
  refine tagged_roundTrips u8_roundTrips fun msg bs h => ?_
  cases msg with
  | readBlock txn lba =>
    refine .bind_concat h (decodes_field u64_roundTrips) fun _ h => ?_
    exact .bind_pure_concat h (decodes_field u64_roundTrips)
  | writeBlock txn lba data =>
    refine .bind_concat h (decodes_field u64_roundTrips) fun _ h => ?_
    refine .bind_concat h (decodes_field u64_roundTrips) fun _ h => ?_
    exact .bind_pure_concat h (decodes_field bytes_roundTrips)
  | readResult txn outcome =>
    refine .bind_concat h (decodes_field u64_roundTrips) fun _ h => ?_
    exact .bind_pure_concat h (decodes_field blockReadOutcome_roundTrips)
  | writeResult txn outcome =>
    refine .bind_concat h (decodes_field u64_roundTrips) fun _ h => ?_
    exact .bind_pure_concat h (decodes_field blockWriteOutcome_roundTrips)

lemma protocol_roundTrips : protocol.RoundTrips :=
  refine_roundTrips (pair_roundTrips str_roundTrips u16_roundTrips) fun _ => rfl

lemma message_roundTrips : message.RoundTrips := by
  refine tagged_roundTrips protocol_roundTrips fun msg bs h => ?_
  have hv1 : memV1Protocol ≠ memV0Protocol := by decide
  have hirq : irqV0Protocol ≠ memV0Protocol ∧ irqV0Protocol ≠ memV1Protocol := by decide
  have hblock : blockV0Protocol ≠ memV0Protocol ∧ blockV0Protocol ≠ memV1Protocol ∧
      blockV0Protocol ≠ irqV0Protocol := by decide
  cases msg with
  | mem msg =>
    simp only [Message.protocol, if_true]
    exact .bind_pure_concat h (decodes_field memMsg_roundTrips)
  | memV1 msg =>
    simp only [Message.protocol, hv1, if_true, if_false]
    exact .bind_pure_concat h (decodes_field memV1Msg_roundTrips)
  | irq msg =>
    simp only [Message.protocol, hirq, if_true, if_false]
    exact .bind_pure_concat h (decodes_field irqMsg_roundTrips)
  | block msg =>
    simp only [Message.protocol, hblock, if_true, if_false]
    exact .bind_pure_concat h (decodes_field blockMsg_roundTrips)

lemma delivered_roundTrips : delivered.RoundTrips := by
  refine tagged_roundTrips u8_roundTrips fun delivery bs h => ?_
  cases delivery with
  | message port msg =>
    refine .bind_concat h (decodes_field u16_roundTrips) fun _ h => ?_
    exact .bind_pure_concat h (decodes_field message_roundTrips)
  | wake token => exact .bind_pure_concat h (decodes_field u64_roundTrips)

lemma eventKey_roundTrips : eventKey.RoundTrips :=
  refine_roundTrips (pair_roundTrips u64_roundTrips (pair_roundTrips phase_roundTrips
    u64_roundTrips)) fun _ => rfl

lemma event_roundTrips : event.RoundTrips :=
  refine_roundTrips (pair_roundTrips eventKey_roundTrips (pair_roundTrips u32_roundTrips
    (pair_roundTrips u32_roundTrips delivered_roundTrips))) fun _ => rfl

/-- The documented encoding is what the runtime asks of it. -/
theorem canonical_lawful (resolution : ℕ) : @Contracts.Lawful (contracts resolution) :=
  letI := contracts resolution
  { u8 := u8_roundTrips
    u32 := u32_roundTrips
    u64 := u64_roundTrips
    str := str_roundTrips
    len := word_roundTrips 4
    bytes := bytes_roundTrips
    raw := array_roundTrips
    eventKey := eventKey_roundTrips
    event := event_roundTrips
    finish := rfl
    clockDomains := fun _ => rfl }

/-! ## The clock is monotone -/

lemma checkedTick_eq_ok {n : ℕ} {tick : Tick} (h : checkedTick n = .ok tick) :
    tick.toNat = n := by
  unfold checkedTick at h
  split_ifs at h with hn
  obtain rfl := Except.ok.inj h
  exact UInt64.toNat_ofNat_of_lt' hn

lemma cyclesAfter_eq_ok {resolution : ℕ} {d : ClockDomain} {now : Tick} {k : UInt64} {tick : Tick}
    (h : cyclesAfter resolution d now k = .ok tick) :
    ∃ hd : Resolved resolution d,
      tick.toNat = edge resolution d (nextEdgeIndex hd now.toNat + k.toNat) := by
  unfold cyclesAfter at h
  split_ifs at h with hd
  exact ⟨hd, checkedTick_eq_ok h⟩

/-- The documented clock arithmetic never goes back, and keeps order. -/
theorem canonical_monotoneClock (resolution : ℕ) :
    @Contracts.MonotoneClock (contracts resolution) :=
  letI := contracts resolution
  { le_after := fun clock now d tick h => by
      have htick := checkedTick_eq_ok h
      rw [UInt64.le_iff_toNat_le]
      omega
    after_mono := fun clock now now' d tick tick' hle h h' => by
      have htick := checkedTick_eq_ok h
      have htick' := checkedTick_eq_ok h'
      rw [UInt64.le_iff_toNat_le] at hle ⊢
      omega
    le_cyclesAfter := fun domain now k tick h => by
      obtain ⟨hd, htick⟩ := cyclesAfter_eq_ok h
      rw [UInt64.le_iff_toNat_le, htick]
      exact (le_edge_nextEdgeIndex hd _).trans (edge_mono _ _ (Nat.le_add_right _ _))
    cyclesAfter_mono := fun domain now now' k tick tick' hle h h' => by
      obtain ⟨hd, htick⟩ := cyclesAfter_eq_ok h
      obtain ⟨_, htick'⟩ := cyclesAfter_eq_ok h'
      rw [UInt64.le_iff_toNat_le] at hle ⊢
      rw [htick, htick']
      exact edge_mono _ _ (Nat.add_le_add_right (nextEdgeIndex_mono hd hle) _) }

end SystemScope.Canonical
