import SystemScope.Platform.Media
import SystemScope.Platform.RamHistories

/-!
# Restoring storage

RAM and media restore the snapshots of contents, all of them and nothing else
(`restore_accepts_canonical`): a byte string is accepted to its last byte exactly when it is the
snapshot of a RAM or media that was built to hold some contents, and that is what is there
afterwards.
-/

namespace SystemScope.Platform

open SnapshotData SnapshotField Restoring

/-! ## The media -/

namespace SimpleBlockMedia

variable {config : BlockMediaConfig} {media media' : SimpleBlockMedia config}

lemma sound_iff : media.Sound ↔ ∀ (lba : UInt64) (block : Block), media.blocks[lba]? = some block →
    Acceptable (fun lba => lba < config.capacityBlocks) (fun _ _ => none) (lba, block) := by
  constructor
  · intro h lba block hblock
    have hne : block ≠ Cell.zero blockSize := fun heq => h.canonical lba (heq ▸ hblock)
    refine ⟨decide_eq_true ?_, hne, rfl⟩
    by_contra hpast
    have hzero := h.pastEnd lba (UInt64.not_lt.mp hpast)
    rw [SimpleBlockMedia.block, SparseMap.value_of_getElem? hblock] at hzero
    exact hne hzero
  · intro h
    refine ⟨fun lba hblock => (h lba _ hblock).ne_zero rfl, fun lba hpast => ?_⟩
    cases hblock : media.blocks[lba]? with
    | none => exact SparseMap.value_of_getElem?_none hblock
    | some block =>
      have hin : lba < config.capacityBlocks := of_decide_eq_true (h lba block hblock).inRange
      exact absurd hin (UInt64.not_lt.mpr hpast)

variable [SnapshotData] (hstrict : SnapshotData.Strict)

include hstrict

lemma readBadBlocks_reads (config : BlockMediaConfig) :
    ReadsParts (readBadBlocks config) (fun _ => True) fun _ => badBlockParts config := by
  have hlist := (field_reads hstrict.fields.u64).replicateM
  intro bs x rest
  unfold readBadBlocks badBlockParts
  simp only [writes_cons_flatMap, (data_reads hstrict.len).bind_eq_ok,
    (hlist _).bind_eq_ok, true_and]
  constructor
  · intro ⟨count, r, hcount, found, r', _, hfound, h⟩
    by_cases hdifferent : count ≠ config.badBlocks.size ∨ found ≠ config.badBlocks.toList
    · rw [if_pos hdifferent] at h
      exact absurd h (by simp)
    · rw [if_neg hdifferent] at h
      obtain ⟨-, rfl⟩ := Parser.pure_eq_ok.mp h
      push Not at hdifferent
      obtain ⟨rfl, rfl⟩ := hdifferent
      exact ⟨r, hcount, hfound⟩
  · intro ⟨r, hcount, hfound⟩
    refine ⟨_, r, hcount, config.badBlocks.toList, rest, ⟨?_, by simp⟩, hfound, ?_⟩
    · exact (Nat.min_eq_left (Nat.le_succ _)).symm
    · rw [if_neg (by simp)]
      exact Parser.pure_eq_ok.mpr ⟨rfl, rfl⟩

lemma restoreBlocks_reads (imageHash : Digest) :
    ReadsParts (restoreBlocks config imageHash)
      (fun blocks => (SimpleBlockMedia.mk imageHash blocks : SimpleBlockMedia config).Sound)
      fun blocks => (SimpleBlockMedia.mk imageHash blocks : SimpleBlockMedia config).parts := by
  intro bs blocks rest
  unfold restoreBlocks parts
  beta_reduce
  rw [sound_iff]
  simp only [writes_append, (expect_reads (field_reads hstrict.fields.u64) trivial).bind_eq_ok,
    (expect_reads (data_reads hstrict.digest) trivial).bind_eq_ok,
    (expectRaw_reads hstrict _ _).bind_eq_ok, (readBadBlocks_reads hstrict _).bind_eq_ok,
    readCells_reads hstrict hstrict.fields.u64 _ _ _, true_and, exists_const]
  grind

lemma restore_eq_ok_iff {bs rest : Bytes} {schema : UInt32} :
    media.restore bs schema = (media', .ok rest) ↔
      media'.imageHash = media.imageHash ∧ media'.Sound ∧ Writes media'.parts bs rest := by
  rw [restore, into_eq_ok]
  constructor
  · rintro ⟨blocks, hblocks, rfl⟩
    exact ⟨rfl, (restoreBlocks_reads hstrict _ bs blocks rest).mp hblocks⟩
  · intro ⟨hhash, hsound, hwrites⟩
    obtain ⟨imageHash, blocks⟩ := media'
    obtain rfl := hhash
    exact ⟨blocks, (restoreBlocks_reads hstrict _ bs blocks rest).mpr ⟨hsound, hwrites⟩, rfl⟩

end SimpleBlockMedia

/-! ## Contents -/

/-- A RAM can be built to hold any contents. -/
lemma Ram.exists_new {config : RamConfig} (haccepted : config.Accepted) (imageHash : Digest)
    (contents : FlatMemory config.size.toNat) :
    ∃ ram : Ram config,
      Ram.new config { imageHash, segments := [{ offset := 0, bytes := List.ofFn contents }] } =
        .ok ram ∧ ram.Sound ∧ ram.imageHash = imageHash ∧ ram.contents = contents := by
  have hnew : ∃ ram : Ram config,
      Ram.new config { imageHash, segments := [{ offset := 0, bytes := List.ofFn contents }] } =
        .ok ram := by
    have hzero : config.size ≠ 0 := by
      rintro heq
      have hpos := haccepted.pos
      rw [heq] at hpos
      exact absurd hpos (by decide)
    have hlarge : ¬maxSize < config.size := by
      rw [UInt64.lt_iff_toNat_lt]
      exact not_lt.mpr haccepted.le
    have hpos := haccepted.pos
    unfold Ram.new
    rw [if_neg hzero, if_neg hlarge]
    simp [RamConfig.spans, hpos, firstOverlap]
  obtain ⟨ram, hnew⟩ := hnew
  obtain ⟨hsound, hhash, hcontents⟩ := Ram.contents_of_new hnew
  refine ⟨ram, hnew, hsound, hhash, hcontents.trans (funext fun i => ?_)⟩
  simp [RamImage.contents, RamImage.byteAt, Segment.Covers, i.isLt]

/-- A media can be built to hold any contents. -/
lemma SimpleBlockMedia.exists_new {config : BlockMediaConfig}
    (hcapacity : 0 < config.capacityBlocks.toNat) (imageHash : Digest)
    (contents : FlatMemory (config.capacityBlocks.toNat * blockSize)) :
    ∃ media : SimpleBlockMedia config,
      SimpleBlockMedia.new config { imageHash, bytes := List.ofFn contents } = .ok media ∧
        media.Sound ∧ media.imageHash = imageHash ∧ media.contents = contents := by
  have hblocks : config.capacityBlocks.toNat * blockSize / blockSize =
    config.capacityBlocks.toNat := Nat.mul_div_cancel _ (by decide)
  obtain ⟨media, hnew⟩ : ∃ media : SimpleBlockMedia config,
      SimpleBlockMedia.new config { imageHash, bytes := List.ofFn contents } = .ok media :=
    ⟨_, SimpleBlockMedia.new_eq_ok.mpr ⟨hcapacity, by simp, by simp [hblocks], rfl⟩⟩
  obtain ⟨hsound, hhash, hcontents⟩ := SimpleBlockMedia.contents_of_new hnew
  refine ⟨media, hnew, hsound, hhash, funext fun i => ?_⟩
  rw [hcontents i]
  simp

section

variable [SnapshotData] (hstrict : SnapshotData.Strict)

include hstrict

lemma Ram.restore_iff_new {config : RamConfig} (haccepted : config.Accepted) {ram ram' : Ram config}
    {bs : Bytes} {schema : UInt32} :
    ram.restore bs schema = (ram', .ok []) ↔ ∃ contents : FlatMemory config.size.toNat,
      Ram.new config { imageHash := ram.imageHash,
                       segments := [{ offset := 0, bytes := List.ofFn contents }] } = .ok ram' ∧
        ram'.contents = contents ∧ ram'.snapshot = some bs := by
  rw [Ram.restore_eq_ok_iff hstrict, writes_to_end]
  constructor
  · intro ⟨hhash, hsound, hsnapshot⟩
    obtain ⟨ram₁, hnew, hsound₁, hhash₁, hcontents⟩ :=
      Ram.exists_new haccepted ram.imageHash ram'.contents
    have heq : ram' = ram₁ :=
      Ram.ext (hhash.trans hhash₁.symm) (hsound.pages_eq hsound₁ hcontents.symm)
    exact ⟨ram'.contents, heq ▸ hnew, rfl, hsnapshot⟩
  · intro ⟨contents, hnew, _, hsnapshot⟩
    obtain ⟨hsound, hhash, -⟩ := Ram.contents_of_new hnew
    exact ⟨hhash, hsound, hsnapshot⟩

lemma SimpleBlockMedia.restore_iff_new {config : BlockMediaConfig}
    (hcapacity : 0 < config.capacityBlocks.toNat) {media media' : SimpleBlockMedia config}
    {bs : Bytes} {schema : UInt32} :
    media.restore bs schema = (media', .ok []) ↔
      ∃ contents : FlatMemory (config.capacityBlocks.toNat * blockSize),
        SimpleBlockMedia.new config { imageHash := media.imageHash,
                                      bytes := List.ofFn contents } = .ok media' ∧
          media'.contents = contents ∧ media'.snapshot = some bs := by
  rw [SimpleBlockMedia.restore_eq_ok_iff hstrict, writes_to_end]
  constructor
  · intro ⟨hhash, hsound, hsnapshot⟩
    obtain ⟨media₁, hnew, hsound₁, hhash₁, hcontents⟩ :=
      SimpleBlockMedia.exists_new hcapacity media.imageHash media'.contents
    have heq : media' = media₁ :=
      SimpleBlockMedia.ext (hhash.trans hhash₁.symm) (hsound.blocks_eq hsound₁ hcontents.symm)
    exact ⟨media'.contents, heq ▸ hnew, rfl, hsnapshot⟩
  · intro ⟨contents, hnew, _, hsnapshot⟩
    obtain ⟨hsound, hhash, -⟩ := SimpleBlockMedia.contents_of_new hnew
    exact ⟨hhash, hsound, hsnapshot⟩

/-- RAM and media restore exactly the snapshots of contents.  What is accepted to the last byte is
the snapshot of a RAM (a media) built with those contents and the same image hash, whatever was
there before; and what is refused changes nothing. -/
theorem restore_accepts_canonical :
    (∀ (config : RamConfig) (image : RamImage) (ram₀ : Ram config),
      Ram.new config image = .ok ram₀ → ∀ (ram ram' : Ram config) (bs : Bytes) (schema : UInt32),
        (ram.restore bs schema = (ram', .ok []) ↔ ∃ contents : FlatMemory config.size.toNat,
          Ram.new config { imageHash := ram.imageHash,
                           segments := [{ offset := 0, bytes := List.ofFn contents }] } = .ok ram' ∧
            ram'.contents = contents ∧ ram'.snapshot = some bs) ∧
        ∀ e, ram.restore bs schema = (ram', .error e) → ram' = ram) ∧
    ∀ (config : BlockMediaConfig) (image : MediaImage) (media₀ : SimpleBlockMedia config),
      SimpleBlockMedia.new config image = .ok media₀ →
      ∀ (media media' : SimpleBlockMedia config) (bs : Bytes) (schema : UInt32),
        (media.restore bs schema = (media', .ok []) ↔
          ∃ contents : FlatMemory (config.capacityBlocks.toNat * blockSize),
            SimpleBlockMedia.new config { imageHash := media.imageHash,
                                          bytes := List.ofFn contents } = .ok media' ∧
              media'.contents = contents ∧ media'.snapshot = some bs) ∧
        ∀ e, media.restore bs schema = (media', .error e) → media' = media := by
  refine ⟨?_, ?_⟩
  · intro config image ram₀ hnew ram ram' bs schema
    exact ⟨Ram.restore_iff_new hstrict (Ram.new_eq_ok hnew).1, fun e h => eq_of_into_error h⟩
  · intro config image media₀ hnew media media' bs schema
    exact ⟨SimpleBlockMedia.restore_iff_new hstrict (SimpleBlockMedia.new_eq_ok.mp hnew).1,
      fun e h => eq_of_into_error h⟩

end

lemma eq_ok_of_toOption {State : Type} {restored : State × Except RestoreError Bytes} {rest : Bytes}
    (h : restored.2.toOption = some rest) : ∃ state, restored = (state, .ok rest) := by
  obtain ⟨state, result⟩ := restored
  cases result with
  | error e => cases h
  | ok bs =>
    cases h
    exact ⟨state, rfl⟩

/-- A RAM of three bytes. -/
def tinyRamConfig : RamConfig where
  size := 3
  latency := .cycles 0 2

/-- The snapshot of a RAM of three bytes, the first of them 7. -/
def tinyRamSnapshot : Bytes :=
  [3, 0, 0, 0, 0, 0, 0, 0] ++ List.replicate 32 0 ++ [1, 0, 0, 0, 0, 2, 0, 0, 0, 0, 0, 0, 0] ++
    [1, 0, 0, 0] ++ [0, 0, 0, 0] ++ [0, 16, 0, 0] ++ 7 :: List.replicate 4095 0

/-- A media of two blocks, one of them bad. -/
def tinyMediaConfig : BlockMediaConfig where
  capacityBlocks := 2
  latency := .cycles 0 2
  badBlocks := ⟨[1], List.pairwise_singleton _ _⟩

/-- The snapshot of a media of two blocks, its first byte 7. -/
def tinyMediaSnapshot : Bytes :=
  [2, 0, 0, 0, 0, 0, 0, 0] ++ [1, 0, 0, 0, 0, 2, 0, 0, 0, 0, 0, 0, 0] ++
    [1, 0, 0, 0, 1, 0, 0, 0, 0, 0, 0, 0] ++ List.replicate 32 0 ++ [1, 0, 0, 0] ++
    [0, 0, 0, 0, 0, 0, 0, 0] ++ [0, 2, 0, 0] ++ 7 :: List.replicate 511 0

open Canonical in
theorem restore_accepts_canonical_tiny :
    (∃ (blank ram : Ram tinyRamConfig) (contents : FlatMemory 3),
      blank.restore tinyRamSnapshot 1 = (ram, .ok []) ∧ ram.contents = contents ∧
        ram.snapshot = some tinyRamSnapshot) ∧
    ∃ (blank media : SimpleBlockMedia tinyMediaConfig) (contents : FlatMemory (2 * blockSize)),
      blank.restore tinyMediaSnapshot 1 = (media, .ok []) ∧ media.contents = contents ∧
        media.snapshot = some tinyMediaSnapshot := by
  obtain ⟨hram, hmedia⟩ := restore_accepts_canonical snapshotData_strict
  constructor
  · let blank : Ram tinyRamConfig := { imageHash := Digest.zero, pages := ∅ }
    have hnew : Ram.new tinyRamConfig { imageHash := Digest.zero, segments := [] } = .ok blank :=
      rfl
    have hok : (blank.restore tinyRamSnapshot 1).2.toOption = some [] := by decide +kernel
    obtain ⟨ram, hrestore⟩ := eq_ok_of_toOption hok
    obtain ⟨contents, -, hcontents, hsnapshot⟩ := (hram _ _ blank hnew blank ram _ 1).1.mp hrestore
    exact ⟨blank, ram, contents, hrestore, hcontents, hsnapshot⟩
  · let blank : SimpleBlockMedia tinyMediaConfig := { imageHash := Digest.zero, blocks := ∅ }
    have hnew : SimpleBlockMedia.new tinyMediaConfig { imageHash := Digest.zero, bytes := [] } =
      .ok blank := rfl
    have hok : (blank.restore tinyMediaSnapshot 1).2.toOption = some [] := by decide +kernel
    obtain ⟨media, hrestore⟩ := eq_ok_of_toOption hok
    obtain ⟨contents, -, hcontents, hsnapshot⟩ :=
      (hmedia _ _ blank hnew blank media _ 1).1.mp hrestore
    exact ⟨blank, media, contents, hrestore, hcontents, hsnapshot⟩

end SystemScope.Platform
