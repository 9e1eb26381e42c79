import SystemScope.Platform.DmaSafety

/-!
# Restoring the block DMA controller

A restore accepts the snapshots of sound controllers, all of them and nothing else
(`restore_eq_ok_iff`).  Every state that a controller reaches is sound, so each is restored from its
snapshot, and what is restored is in the lifecycle table of `dma.rs`.
-/

namespace SystemScope.Platform

open SnapshotData SnapshotField Restoring

namespace DmaBlockController

variable {config : DmaBlockControllerConfig} {c c' : DmaBlockController config}

section

variable [SnapshotData] (hstrict : SnapshotData.Strict)

include hstrict

/-- The code of a latched command, read as an operation. -/
lemma readLatched_reads (haccepted : config.Accepted) (busy : Bool) :
    ReadsParts (readLatched config busy)
      (fun latched => latched.isSome = busy ∧ ∀ l, latched = some l → config.Covers l)
      latchedParts := by
  have hu8 := field_reads hstrict.fields.u8
  have hu32 := field_reads hstrict.fields.u32
  intro bs latched rest
  unfold readLatched
  cases busy with
  | false =>
    rw [if_neg Bool.false_ne_true, Parser.pure_eq_ok, eq_comm (a := none)]
    constructor
    · intro ⟨hnone, hrest⟩
      subst hnone
      exact ⟨⟨rfl, by simp⟩, writes_nil.mpr hrest⟩
    · intro ⟨⟨hnone, _⟩, hwrites⟩
      rw [Option.isSome_eq_false_iff, Option.isNone_iff_eq_none] at hnone
      subst hnone
      exact ⟨rfl, writes_nil.mp hwrites⟩
  | true =>
    rw [if_pos rfl]
    simp only [hu8.bind_eq_ok, hu32.bind_eq_ok, true_and]
    constructor
    · intro ⟨code, r₁, hcode, lba, r₂, hlba, addr, r₃, haddr, count, r₄, hcount, h⟩
      cases hvalid : config.validate code.toUInt32 lba addr count with
      | error e =>
        rw [hvalid] at h
        exact absurd h (by simp)
      | ok op =>
        rw [hvalid] at h
        obtain ⟨rfl, rfl⟩ := Parser.pure_eq_ok.mp h
        obtain ⟨hop, hcovers⟩ :=
          (DmaBlockControllerConfig.validate_eq_ok haccepted).mp hvalid
        obtain rfl : code = op.code := UInt8.toUInt32_inj.mp hop
        refine ⟨⟨rfl, fun l hl => Option.some.inj hl ▸ hcovers⟩, ?_⟩
        exact writes_cons_cons.mpr ⟨r₁, hcode, writes_cons_cons.mpr ⟨r₂, hlba,
          writes_cons_cons.mpr ⟨r₃, haddr, hcount⟩⟩⟩
    · intro ⟨⟨hsome, hcovers⟩, hwrites⟩
      obtain ⟨l, rfl⟩ := Option.isSome_iff_exists.mp hsome
      obtain ⟨r₁, hcode, h₁⟩ := writes_cons_cons.mp hwrites
      obtain ⟨r₂, hlba, h₂⟩ := writes_cons_cons.mp h₁
      obtain ⟨r₃, haddr, hcount⟩ := writes_cons_cons.mp h₂
      refine ⟨l.op.code, r₁, hcode, l.lba, r₂, hlba, l.addr, r₃, haddr, l.count, rest, hcount, ?_⟩
      have hvalid : config.validate l.op.code.toUInt32 l.lba l.addr l.count = .ok l.op :=
        (DmaBlockControllerConfig.validate_eq_ok haccepted).mpr ⟨rfl, hcovers l rfl⟩
      rw [hvalid]
      exact Parser.pure_eq_ok.mpr ⟨rfl, rfl⟩

lemma readEngine_reads : ReadsParts readEngine (fun _ => True) engineParts := by
  have hu8 := field_reads hstrict.fields.u8
  have hu64 := field_reads hstrict.fields.u64
  intro bs engine rest
  unfold readEngine
  rw [hu8.bind_eq_ok]
  simp only [true_and]
  constructor
  · intro ⟨tag, r, htag, h⟩
    by_cases h₀ : tag = 0
    · rw [if_pos h₀] at h
      obtain ⟨rfl, rfl⟩ := Parser.pure_eq_ok.mp h
      subst h₀
      exact htag
    rw [if_neg h₀] at h
    by_cases h₁ : tag = 1
    · rw [if_pos h₁] at h
      obtain ⟨rfl, rfl⟩ := Parser.pure_eq_ok.mp h
      subst h₁
      exact htag
    rw [if_neg h₁] at h
    by_cases h₂ : tag = 2
    · rw [if_pos h₂, hu64.bind_eq_ok] at h
      obtain ⟨txn, r', -, htxn, h⟩ := h
      obtain ⟨rfl, rfl⟩ := Parser.pure_eq_ok.mp h
      exact writes_cons_cons.mpr ⟨r, h₂ ▸ htag, htxn⟩
    rw [if_neg h₂] at h
    by_cases h₃ : tag = 3
    · rw [if_pos h₃, hu64.bind_eq_ok] at h
      obtain ⟨txn, r', -, htxn, h⟩ := h
      obtain ⟨rfl, rfl⟩ := Parser.pure_eq_ok.mp h
      exact writes_cons_cons.mpr ⟨r, h₃ ▸ htag, htxn⟩
    rw [if_neg h₃] at h
    exact absurd h (by simp)
  · intro hwrites
    cases engine with
    | idle => exact ⟨0, rest, hwrites, Parser.pure_eq_ok.mpr ⟨rfl, rfl⟩⟩
    | issue => exact ⟨1, rest, hwrites, Parser.pure_eq_ok.mpr ⟨rfl, rfl⟩⟩
    | waitMedia txn =>
      obtain ⟨r, htag, htxn⟩ := writes_cons_cons.mp hwrites
      exact ⟨2, r, htag, hu64.bind_eq_ok.mpr
        ⟨txn, rest, trivial, htxn, Parser.pure_eq_ok.mpr ⟨rfl, rfl⟩⟩⟩
    | waitBeat txn =>
      obtain ⟨r, htag, htxn⟩ := writes_cons_cons.mp hwrites
      exact ⟨3, r, htag, hu64.bind_eq_ok.mpr
        ⟨txn, rest, trivial, htxn, Parser.pure_eq_ok.mpr ⟨rfl, rfl⟩⟩⟩

lemma restoreState_reads (haccepted : config.Accepted) :
    ReadsParts (restoreState config) Sound parts := by
  have hu8 := field_reads hstrict.fields.u8
  have hu32 := field_reads hstrict.fields.u32
  have hu64 := field_reads hstrict.fields.u64
  have hbool := field_reads hstrict.fields.bool
  intro bs c rest
  unfold restoreState parts
  simp only [writes_append, writes_cons_cons, (expectRaw_reads hstrict _ _).bind_eq_ok,
    hu8.bind_eq_ok, hu32.bind_eq_ok, hu64.bind_eq_ok, hbool.bind_eq_ok,
    (data_reads hstrict.bytes).bind_eq_ok, (readLatched_reads hstrict haccepted _).bind_eq_ok,
    (readEngine_reads hstrict).bind_eq_ok, invalid, Parser.guard_eq_ok, Parser.pure_eq_ok, true_and,
    exists_const]
  constructor
  · intro ⟨r₀, h₀, lba, r₁, h₁, memAddr, r₂, h₂, blockCount, r₃, h₃, irqEnable, r₄, h₄, hirq,
      busy, r₅,
      h₅, done, r₆, h₆, rejected, r₇, h₇, error, r₈, h₈, hboth, herror, latched, r₉, hlatched, h₉,
      engine, r₁₀, h₁₀, block, r₁₁, h₁₁, beat, r₁₂, h₁₂, buffer, r₁₃, h₁₃, dmaTxn, r₁₄, h₁₄, blkTxn,
      r₁₅, h₁₅, irqLevel, r₁₆, h₁₆, hposition, hlevel, hc, hrest⟩
    subst hc hrest
    refine ⟨?_, r₁₀, ⟨r₉, ⟨r₈, ⟨r₀, h₀, r₁, h₁, r₂, h₂, r₃, h₃, r₄, h₄, r₅, h₅, r₆, h₆, r₇, h₇, h₈⟩,
      h₉⟩, h₁₀⟩, r₁₁, h₁₁, r₁₂, h₁₂, r₁₃, h₁₃, r₁₄, h₁₄, r₁₅, h₁₅, h₁₆⟩
    exact
      { irqEnable := not_not.mp hirq
        notBoth := hboth
        error := not_not.mp herror
        latched := hlatched.1
        covers := hlatched.2
        position := not_not.mp hposition
        level := not_not.mp hlevel }
  · intro ⟨hsound, r₁₀, ⟨r₉, ⟨r₈, ⟨r₀, h₀, r₁, h₁, r₂, h₂, r₃, h₃, r₄, h₄, r₅, h₅, r₆, h₆, r₇, h₇,
      h₈⟩, h₉⟩, h₁₀⟩, r₁₁, h₁₁, r₁₂, h₁₂, r₁₃, h₁₃, r₁₄, h₁₄, r₁₅, h₁₅, h₁₆⟩
    exact ⟨r₀, h₀, c.lba, r₁, h₁, c.memAddr, r₂, h₂, c.blockCount, r₃, h₃, c.irqEnable, r₄, h₄,
      not_not.mpr hsound.irqEnable, c.busy, r₅, h₅, c.done, r₆, h₆, c.rejected, r₇, h₇, c.error, r₈,
      h₈, hsound.notBoth, not_not.mpr hsound.error, c.latched, r₉, ⟨hsound.latched, hsound.covers⟩,
      h₉, c.engine, r₁₀, h₁₀, c.block, r₁₁, h₁₁, c.beat, r₁₂, h₁₂, c.buffer, r₁₃, h₁₃,
        c.dmaTxn, r₁₄,
      h₁₄, c.blkTxn, r₁₅, h₁₅, c.irqLevel, rest, h₁₆, not_not.mpr hsound.position,
      not_not.mpr hsound.level, rfl, rfl⟩

/-- What a restore accepts, to the last byte it reads. -/
lemma restore_eq_ok_iff (haccepted : config.Accepted) {bs rest : Bytes} {schema : UInt32} :
    c.restore bs schema = (c', .ok rest) ↔ c'.Sound ∧ Writes c'.parts bs rest := by
  rw [restore, into_eq_ok]
  constructor
  · rintro ⟨x, hx, rfl⟩
    exact (restoreState_reads hstrict haccepted bs x rest).mp hx
  · intro h
    exact ⟨c', (restoreState_reads hstrict haccepted bs c' rest).mpr h, rfl⟩

end

/-- A controller restores the snapshot of every state that it reaches, and gives that state back.
What it restores to the last byte is the snapshot of what it then is, in the lifecycle table; and
what it refuses changes nothing. -/
theorem snapshot_exact [SnapshotData] (hstrict : SnapshotData.Strict)
    {c₀ : DmaBlockController config}
    (hnew : new config = .ok c₀) :
    (∀ c bs, Component.Reaches c₀ c → c.snapshot = some bs →
      ∀ (other : DmaBlockController config) schema, other.restore bs schema = (c, .ok [])) ∧
    (∀ (c c' : DmaBlockController config) bs schema, c.restore bs schema = (c', .ok []) →
      c'.snapshot = some bs ∧ c'.Lifecycle) ∧
    ∀ (c c' : DmaBlockController config) bs schema e,
      c.restore bs schema = (c', .error e) → c' = c := by
  have haccepted := (new_eq_ok hnew).1
  refine ⟨?_, ?_, ?_⟩
  · intro c bs hreaches hsnapshot other schema
    exact (restore_eq_ok_iff hstrict haccepted).mpr
      ⟨Sound.of_reaches hnew hreaches, writes_to_end.mpr hsnapshot⟩
  · intro c c' bs schema hrestore
    obtain ⟨hsound, hwrites⟩ := (restore_eq_ok_iff hstrict haccepted).mp hrestore
    exact ⟨writes_to_end.mp hwrites, hsound.lifecycle⟩
  · intro c c' bs schema e hrestore
    exact eq_of_into_error hrestore

section

open Canonical

theorem snapshot_exact_top :
    (fresh topConfig).restore topSnapshot 1 = (topController, .ok []) ∧
      topController.snapshot = some topSnapshot ∧ topController.Lifecycle := by
  have hrestore : (fresh topConfig).restore topSnapshot 1 = (topController, .ok []) := by
    have hstate : ((fresh topConfig).restore topSnapshot 1).1 = topController := by decide +kernel
    have hrest : ((fresh topConfig).restore topSnapshot 1).2.toOption = some [] := by
      decide +kernel
    cases hresult : ((fresh topConfig).restore topSnapshot 1).2 with
    | error e =>
      rw [hresult] at hrest
      cases hrest
    | ok rest =>
      rw [hresult] at hrest
      cases hrest
      exact Prod.ext hstate hresult
  have hexact := snapshot_exact snapshotData_strict
    (show new topConfig = .ok (fresh topConfig) from rfl)
  exact ⟨hrestore, hexact.2.1 _ _ _ _ hrestore⟩

end

end DmaBlockController

end SystemScope.Platform
