import Mathlib.Data.Finset.Prod
import SystemScope.Os.Runs
import SystemScope.Os.Sound

/-!
# Where the accesses of a creation go

A creation writes its own frames and reads its own file (`Space.Confines`), if no copy of the image
wraps the 32-bit sum that the check of its page compares.  A copy that wraps passes that check, and
its last byte is written outside the frames of the process: these are consecutive, and too few to
reach so far.
-/

namespace SystemScope.Os

open Elf Checks

/-- No byte of the access lies in the range. -/
def Access.Apart (a : Access) (base size : ℕ) : Prop :=
  a.addr + a.len ≤ base ∨ base + size ≤ a.addr

@[simp] lemma Access.addr_read (addr len : ℕ) : (Access.read addr len).addr = addr := rfl

@[simp] lemma Access.addr_write (addr : ℕ) (data : Bytes) :
    (Access.write addr data).addr = addr := rfl

@[simp] lemma Access.len_read (addr len : ℕ) : (Access.read addr len).len = len := rfl

@[simp] lemma Access.len_write (addr : ℕ) (data : Bytes) :
    (Access.write addr data).len = data.length := rfl

lemma Access.Within.apart {a : Access} {base size base' size' : ℕ} (h : a.Within base size)
    (hapart : base + size ≤ base' ∨ base' + size' ≤ base) : a.Apart base' size' := by
  unfold Access.Within at h
  unfold Access.Apart
  omega

/-- No copy of the image wraps the sum of its place in the page and its length. -/
def CopiesWrapNot (image : UserImage) : Prop :=
  ∀ p ∈ image.pages, ∀ c ∈ p.copy, c.pageOffset.toNat + c.len.toNat < 2 ^ 32

instance (image : UserImage) : Decidable (CopiesWrapNot image) :=
  inferInstanceAs (Decidable (∀ p ∈ image.pages, ∀ c ∈ p.copy, _))

/-- Of a checked image, the copies that do not wrap are those that stay in their page. -/
lemma copiesInPage_iff {boot : BootImage} (h : ∀ p ∈ boot.image.pages, boot.CopyFits p) :
    CopiesInPage boot.image ↔ CopiesWrapNot boot.image := by
  constructor
  · intro hin p hp c hc
    have hle := hin p hp c hc
    unfold pageBytes at hle
    omega
  · intro hwrap p hp c hc
    obtain ⟨⟨-, hpage⟩, -⟩ := h p hp c hc
    exact hpage _ (if_pos (hwrap p hp c hc))

namespace Space

/-- The access is due at a step of the creation, with working data of that step. -/
def Makes (s : Space) (a : Access) : Prop :=
  ∃ step data, data.length = s.dataLen step ∧ s.access step data = some a

/-- A write to a frame of the space, or a read of the staged file. -/
def Confines (s : Space) (boot : BootImage) (a : Access) : Prop :=
  match a with
  | .write .. => ∃ f ∈ s.frames, a.Within (f.toNat * pageBytes) pageBytes
  | .read .. => a.Within boot.staged.toNat boot.fileLen.toNat

variable {s : Space} {a : Access}

lemma lt_accesses {k : ℕ} {data : Bytes} (h : s.access k data = some a) : k < s.accesses := by
  unfold accesses
  unfold access at h
  by_cases hzero : k < s.zeroSteps
  · omega
  · rw [if_neg hzero] at h
    dsimp only at h
    cases hc : s.copies[(k - s.zeroSteps) / 2]? with
    | some c =>
      obtain ⟨hlt, -⟩ := List.getElem?_eq_some_iff.mp hc
      omega
    | none =>
      rw [hc] at h
      obtain ⟨e, he, -⟩ := Option.map_eq_some_iff.mp h
      obtain ⟨hlt, -⟩ := List.getElem?_eq_some_iff.mp he
      rw [List.getElem?_eq_none_iff] at hc
      omega

/-- The accesses of a creation: the zeroing of its frames, the pieces of its copies, and its
entries. -/
lemma makes_iff : s.Makes a ↔
    (∃ f ∈ s.frames, ∃ i < perFrame,
        a = .write (f.toNat * pageBytes + i * maxAccess) (List.replicate maxAccess 0)) ∨
      (∃ c ∈ s.copies, a = .read c.1 c.2.2) ∨
      (∃ c ∈ s.copies, ∃ data, data.length = c.2.2 ∧ a = .write c.2.1 data) ∨
      ∃ e ∈ s.ptes, a = .write e.1 (wordBytes e.2) := by
  have hread {j : ℕ} {c : ℕ × ℕ × ℕ} (hc : s.copies[j]? = some c) :
      s.dataLen (s.zeroSteps + (2 * j + 1)) = c.2.2 := by
    rw [← length_held (fun _ => 0), held_odd hc, ByteMap.length_read]
  constructor
  · rintro ⟨k, data, hdata, ha⟩
    rcases s.step_cases (lt_accesses ha) with
      ⟨f, i, frame, hf, hi, rfl⟩ | ⟨j, c, hc, rfl⟩ | ⟨j, c, hc, rfl⟩ | ⟨i, e, he, rfl⟩
    · rw [access_zero hf hi] at ha
      exact .inl ⟨frame, List.mem_of_getElem? hf, i, hi, (Option.some.inj ha).symm⟩
    · rw [access_read hc] at ha
      exact .inr (.inl ⟨c, List.mem_of_getElem? hc, (Option.some.inj ha).symm⟩)
    · rw [access_write hc] at ha
      rw [hread hc] at hdata
      exact .inr (.inr (.inl
        ⟨c, List.mem_of_getElem? hc, data, hdata, (Option.some.inj ha).symm⟩))
    · rw [access_entry he] at ha
      exact .inr (.inr (.inr ⟨e, List.mem_of_getElem? he, (Option.some.inj ha).symm⟩))
  · rintro (⟨f, hf, i, hi, rfl⟩ | ⟨c, hc, rfl⟩ | ⟨c, hc, data, hdata, rfl⟩ | ⟨e, he, rfl⟩)
    · obtain ⟨j, hj⟩ := List.mem_iff_getElem?.mp hf
      exact ⟨_, List.replicate (s.dataLen (j * perFrame + i)) 0, List.length_replicate,
        access_zero hj hi _⟩
    · obtain ⟨j, hj⟩ := List.mem_iff_getElem?.mp hc
      exact ⟨_, List.replicate (s.dataLen (s.zeroSteps + 2 * j)) 0, List.length_replicate,
        access_read hj _⟩
    · obtain ⟨j, hj⟩ := List.mem_iff_getElem?.mp hc
      exact ⟨_, data, hdata.trans (hread hj).symm, access_write hj data⟩
    · obtain ⟨j, hj⟩ := List.mem_iff_getElem?.mp he
      exact ⟨_, List.replicate (s.dataLen (s.entryStart + j)) 0, List.length_replicate,
        access_entry hj _⟩

namespace Built

variable {config : KernelConfig} {layout : UserLayout} {boot : BootImage} {frames : List UInt32}
  {mapped : List Mapped} (h : s.Built config layout boot frames mapped)

include h

/-- No access of a creation is empty, or larger than the kernel's accesses are. -/
lemma len_makes (ha : s.Makes a) : 0 < a.len ∧ a.len ≤ maxAccess := by
  rcases makes_iff.mp ha with ⟨f, -, i, -, rfl⟩ | ⟨c, hc, rfl⟩ | ⟨c, hc, data, hdata, rfl⟩ |
    ⟨e, -, rfl⟩
  · rw [Access.len_write, List.length_replicate]
    unfold maxAccess
    omega
  · obtain ⟨p, -, copy, -, hc⟩ := h.mem_copies hc
    obtain ⟨o, -, -, hpos, -, hle, -⟩ := mem_splitCopy hc
    exact ⟨hpos, hle⟩
  · obtain ⟨p, -, copy, -, hc⟩ := h.mem_copies hc
    obtain ⟨o, -, -, hpos, -, hle, -⟩ := mem_splitCopy hc
    rw [Access.len_write, hdata]
    exact ⟨hpos, hle⟩
  · rw [Access.len_write, length_wordBytes]
    unfold maxAccess
    omega

/-- With copies that stay in their page, the accesses are confined. -/
lemma confines (hin : CopiesInPage boot.image) (hcopies : ∀ p ∈ boot.image.pages, boot.CopyFits p)
    (ha : s.Makes a) : s.Confines boot a := by
  rcases makes_iff.mp ha with ⟨f, hf, i, hi, rfl⟩ | ⟨c, hc, rfl⟩ | ⟨c, hc, data, hdata, rfl⟩ |
    ⟨e, he, rfl⟩
  · refine ⟨f, hf, Nat.le_add_right _ _, ?_⟩
    rw [Access.addr_write, Access.len_write, List.length_replicate]
    unfold perFrame pageBytes maxAccess at *
    omega
  · obtain ⟨p, hp, copy, hcopy, hc⟩ := h.mem_copies hc
    obtain ⟨o, hsrc, -, -, hle, -⟩ := mem_splitCopy hc
    obtain ⟨-, e, hfile, hend⟩ := hcopies p.page (h.page_of_copy hp hcopy) copy hcopy
    obtain ⟨-, hfile⟩ := Option.ite_none_right_eq_some.mp hfile
    cases hfile
    refine ⟨?_, ?_⟩
    · rw [Access.addr_read]
      omega
    · rw [Access.addr_read, Access.len_read]
      omega
  · obtain ⟨p, hp, hle, hend⟩ := h.copy_in_frame hin hc
    refine ⟨p.frame, h.mem_frames.mpr (.inr ⟨p, hp, rfl⟩), hle, ?_⟩
    rw [Access.addr_write, Access.len_write, hdata]
    exact hend
  · obtain ⟨t, ht, i, hi, haddr⟩ := h.entry_in_table he
    have hrange := entry_range (t := t) hi
    refine ⟨t, h.mem_frames.mpr (.inl ht), ?_, ?_⟩
    · rw [Access.addr_write, haddr]
      exact hrange.1
    · rw [Access.addr_write, Access.len_write, length_wordBytes, haddr]
      exact hrange.2

end Built

end Space

/-! ## The number of frames -/

/-- Elements that are determined by two properties are at most as many as the pairs of these. -/
lemma length_le_card_mul {α : Type} {l : List α} {f g : α → ℕ}
    (hnodup : (l.map fun a => (f a, g a)).Nodup) {S T : Finset ℕ} (hf : ∀ a ∈ l, f a ∈ S)
    (hg : ∀ a ∈ l, g a ∈ T) : l.length ≤ S.card * T.card := by
  have hsub : (l.map fun a => (f a, g a)).toFinset ⊆ S ×ˢ T := by
    intro i hi
    obtain ⟨a, ha, rfl⟩ := List.mem_map.mp (List.mem_toFinset.mp hi)
    exact Finset.mem_product.mpr ⟨hf a ha, hg a ha⟩
  have hcard := Finset.card_le_card hsub
  rwa [List.toFinset_card_of_nodup hnodup, List.length_map, Finset.card_product] at hcard

/-- An image and a stack that avoid the MMIO megapage need few frames. -/
lemma framesNeeded_le {config : KernelConfig} {image : UserImage} {layout : UserLayout}
    (hfit : PagesFit image layout) (h : ValidLayout config layout)
    (hconflict : ¬MegapageConflict image config) : framesNeeded image layout ≤ 2 ^ 20 := by
  have hslot : ∀ p ∈ pages image layout, slotOf p ∈ (Finset.range (2 ^ 10)).erase 64 := by
    intro p hp
    refine Finset.mem_erase.mpr ⟨?_, Finset.mem_range.mpr (vpn1_lt _)⟩
    intro heq
    refine h.slot_not_mega hconflict p hp ?_
    rw [heq]
    exact List.mem_cons_of_mem _ List.mem_cons_self
  have hnodup : ((pages image layout).map fun p => (slotOf p, Placing.vpn0 p.va)).Nodup := by
    rw [List.Nodup, List.pairwise_map]
    refine (hfit.pages_ascending h).imp_of_mem ?_
    intro p q hp hq hlt heq
    obtain ⟨h1, h0⟩ := Prod.mk.inj heq
    exact UInt32.ne_of_lt hlt
      (eq_of_indices (hfit.pages_aligned h p hp) (hfit.pages_aligned h q hq) h1 h0)
  have hpages : (pages image layout).length ≤ 1023 * 1024 := by
    have hindex : ∀ p ∈ pages image layout, Placing.vpn0 p.va ∈ Finset.range (2 ^ 10) := by
      intro p _
      rw [Finset.mem_range]
      exact vpn0_lt p.va
    have hcard := length_le_card_mul hnodup hslot hindex
    rw [Finset.card_erase_of_mem (Finset.mem_range.mpr (by omega)), Finset.card_range] at hcard
    exact hcard.trans (by decide)
  have hslots : ((pages image layout).map slotOf).dedup.length ≤ 1023 := by
    have hsub : ((pages image layout).map slotOf).toFinset ⊆ (Finset.range (2 ^ 10)).erase 64 := by
      intro i hi
      obtain ⟨p, hp, rfl⟩ := List.mem_map.mp (List.mem_toFinset.mp hi)
      exact hslot p hp
    have hcard := Finset.card_le_card hsub
    rw [Finset.card_erase_of_mem (Finset.mem_range.mpr (by omega)), Finset.card_range,
      List.card_toFinset] at hcard
    exact hcard.trans (by decide)
  unfold framesNeeded
  omega

section Pool

variable {config : KernelConfig} {layout : UserLayout} (hvalid : ValidLayout config layout)

include hvalid

lemma inPool_ppn {i : ℕ} (hi : i < (framePool config).owners.length) :
    InPool config ((framePool config).ppn i) := by
  have hreach := hvalid.pool_reach
  have haligned := hvalid.pool_aligned
  have hnat := Frames.toNat_ppn (numbered_of_valid hvalid) hi
  unfold framePool Frames.new at hi
  rw [List.length_replicate] at hi
  unfold InPool Window.Contains
  rw [hnat]
  unfold framePool Frames.new
  dsimp only
  rw [UInt32.toNat_ofNat_of_lt' (show _ < 2 ^ 32 by unfold physLimit pageBytes at *; omega)]
  unfold physLimit pageBytes at *
  omega

lemma inPool_of_owner {frames : Frames} (hsame : (framePool config).SameFrames frames)
    {ppn : UInt32}
    {owner : ℕ} (h : frames.owner ppn = some owner) : InPool config ppn := by
  have hnumbered := hsame.numbered (numbered_of_valid hvalid)
  obtain ⟨i, rfl, hi⟩ := (Frames.owner_eq_some hnumbered).mp h
  obtain ⟨hlt, -⟩ := List.getElem?_eq_some_iff.mp hi
  rw [hsame.2] at hlt
  rw [hsame.ppn_eq]
  exact inPool_ppn hvalid hlt

end Pool

namespace Created

variable {config : KernelConfig} {layout : UserLayout} {boot : BootImage} {s : Space}
  (h : Created config layout boot s) (hvalid : ValidLayout config layout)

include h hvalid

/-- The frames of a creation, as numbers. -/
lemma toNat_frames : ∃ k, k + s.frames.length ≤ (framePool config).owners.length ∧
    ∀ i f, s.frames[i]? = some f → f.toNat = (framePool config).base.toNat + (k + i) := by
  obtain ⟨k, hframes, hk⟩ := h.frames
  refine ⟨k, hk, ?_⟩
  intro i f hf
  obtain ⟨hlt, -⟩ := List.getElem?_eq_some_iff.mp hf
  rw [hframes, List.getElem?_map, List.getElem?_range' hlt, Option.map_some, Nat.one_mul] at hf
  rw [← Option.some.inj hf]
  exact Frames.toNat_ppn (numbered_of_valid hvalid) (by omega)

lemma inPool {f : UInt32} (hf : f ∈ s.frames) : InPool config f := by
  obtain ⟨k, hframes, hk⟩ := h.frames
  rw [hframes] at hf
  obtain ⟨i, hi, rfl⟩ := List.mem_map.mp hf
  rw [List.mem_range'_1] at hi
  exact inPool_ppn hvalid (by omega)

lemma ascending : s.frames.Pairwise (· < ·) := by
  obtain ⟨k, hframes, hk⟩ := h.frames
  rw [hframes]
  exact Frames.ppn_pairwise (numbered_of_valid hvalid)
    (fun i hi => by rw [List.mem_range'_1] at hi; omega) List.pairwise_lt_range'

/-- All accesses of a creation are confined exactly when no copy wraps. -/
lemma confines_iff (hfits : boot.Fits config layout) :
    (∀ a, s.Makes a → s.Confines boot a) ↔ CopiesWrapNot boot.image := by
  obtain ⟨mapped, hbuilt⟩ := Space.built_of_build h.built
  rw [← copiesInPage_iff hfits.copies]
  constructor
  · intro hall p hp copy hcopy
    by_contra hleaves
    have hwraps : 2 ^ 32 ≤ copy.pageOffset.toNat + copy.len.toNat := by
      by_contra hlt
      obtain ⟨⟨-, hpage⟩, -⟩ := hfits.copies p hp copy hcopy
      exact hleaves (hpage _ (if_pos (by omega)))
    -- the frame of the page
    have hpage : p ∈ mapped.map Mapped.page := by
      rw [hbuilt.pages]
      exact List.mem_append_left _ hp
    obtain ⟨q, hq, rfl⟩ := List.mem_map.mp hpage
    have hmem : q.frame ∈ s.frames := hbuilt.mem_frames.mpr (.inr ⟨q, hq, rfl⟩)
    -- the piece with the last byte of the copy
    have hpos : 0 < copy.len.toNat := by
      have hlt := copy.pageOffset.toNat_lt
      omega
    obtain ⟨o, l, hpiece, hle, hlt⟩ := @exists_piece
      (boot.staged.toNat + copy.fileOffset.toNat)
      (q.frame.toNat * pageBytes + copy.pageOffset.toNat) copy.len.toNat
      (copy.len.toNat - 1) (by omega)
    have hcopies : (boot.staged.toNat + copy.fileOffset.toNat + o,
        q.frame.toNat * pageBytes + copy.pageOffset.toNat + o, l) ∈ s.copies := by
      rw [hbuilt.copies]
      refine List.mem_flatMap.mpr ⟨q, hq, ?_⟩
      unfold Mapped.copies Placing.copiesOf
      rw [show q.page.copy = some copy from hcopy]
      exact hpiece
    obtain ⟨f, hf, -, hend⟩ := hall _ (Space.makes_iff.mpr (.inr (.inr (.inl
      ⟨_, hcopies, List.replicate l 0, List.length_replicate, rfl⟩))))
    rw [Access.addr_write, Access.len_write, List.length_replicate] at hend
    dsimp only at hend
    -- no frame of the process is so far away
    obtain ⟨k, -, hframes⟩ := h.toNat_frames hvalid
    obtain ⟨i, hi⟩ := List.mem_iff_getElem?.mp hf
    obtain ⟨j, hj⟩ := List.mem_iff_getElem?.mp hmem
    have hroot : j ≠ 0 := by
      rintro rfl
      rw [Space.first_of_build h.built] at hj
      have hnodup := (h.ascending hvalid).imp UInt32.ne_of_lt
      exact hbuilt.table_ne_frame hnodup hbuilt.root_mem hq (Option.some.inj hj)
    obtain ⟨hlength, -⟩ := List.getElem?_eq_some_iff.mp hi
    have hcount := framesNeeded_le hfits.pages hvalid h.noConflict
    rw [← hbuilt.length_frames] at hcount
    have hi := hframes i f hi
    have hj := hframes j _ hj
    unfold pageBytes at hend
    omega
  · intro hin a ha
    exact hbuilt.confines hin hfits.copies ha

end Created

/-! ## Out of everything else -/

lemma Window.apart {w v : Window} (h : ¬w.Overlaps v.base.toNat v.size.toNat)
    (hw : w.size ≠ 0) (hv : v.size ≠ 0) (hw' : w.base.toNat + w.size.toNat < 2 ^ 64)
    (hv' : v.base.toNat + v.size.toNat < 2 ^ 64) :
    w.base.toNat + w.size.toNat ≤ v.base.toNat ∨ v.base.toNat + v.size.toNat ≤ w.base.toNat := by
  have hv0 : v.size.toNat ≠ 0 := fun hzero => hv (UInt64.toNat_inj.mp hzero)
  unfold Window.Overlaps Window.saturatingAdd at h
  by_contra hapart
  exact h ⟨hv0, hw, by omega, by omega⟩

lemma KernelConfig.Valid.apart {config : KernelConfig} (h : config.Valid) :
    (config.frame.base.toNat + config.frame.size.toNat ≤ config.staging.base.toNat ∨
        config.staging.base.toNat + config.staging.size.toNat ≤ config.frame.base.toNat) ∧
      (config.frame.base.toNat + config.frame.size.toNat ≤ config.framePool.base.toNat ∨
        config.framePool.base.toNat + config.framePool.size.toNat ≤ config.frame.base.toNat) ∧
      (config.staging.base.toNat + config.staging.size.toNat ≤ config.framePool.base.toNat ∨
        config.framePool.base.toNat + config.framePool.size.toNat ≤ config.staging.base.toNat) := by
  have hframe : config.frame.size ≠ 0 := (by decide : UInt64.ofNat frameBytes ≠ 0)
  have hstaging : config.staging.size ≠ 0 := by
    intro hzero
    exact h.staging_in_ram.1 (by rw [hzero]; rfl)
  have hpool := h.framePool_size
  have hbound : config.frame.base.toNat + config.frame.size.toNat < 2 ^ 64 := h.frame_in_ram.2.2.1
  exact ⟨Window.apart h.frame_staging hframe hstaging hbound h.staging,
    Window.apart h.frame_pool hframe hpool hbound h.framePool,
    Window.apart h.staging_pool hstaging hpool h.staging h.framePool⟩

/-- An access of the creation of a process: it is confined, and touches no frame that the process
does not own and not the trap frame.  It is in the RAM, where no device is. -/
structure InBounds (config : KernelConfig) (frames : Frames) (pid : ℕ) (boot : BootImage)
    (s : Space)
    (a : Access) : Prop where
  confined : s.Confines boot a
  others : ∀ ppn owner, frames.owner ppn = some owner → owner ≠ pid →
    a.Apart (ppn.toNat * pageBytes) pageBytes
  trapFrame : a.Apart config.trapFrame.toNat frameBytes
  ram : config.ram.Contains a.addr a.len

lemma ram_of_confines {config : KernelConfig} (hvalid : config.Valid) {boot : BootImage} {s : Space}
    (hpool : ∀ f ∈ s.frames, InPool config f)
    (hstaged : config.staging.Contains boot.staged.toNat boot.fileLen.toNat) {a : Access}
    (hlen : 0 < a.len) (ha : s.Confines boot a) : config.ram.Contains a.addr a.len := by
  cases a with
  | read addr len =>
    have hwithin : (Access.read addr len).Within boot.staged.toNat boot.fileLen.toNat := ha
    obtain ⟨-, hbase, -, hstop⟩ := hstaged
    obtain ⟨-, hram, hramLt, hramStop⟩ := hvalid.staging_in_ram
    unfold Access.Within at hwithin
    exact ⟨by omega, by omega, by omega, by omega⟩
  | write addr data =>
    obtain ⟨f, hf, hwithin⟩ := ha
    obtain ⟨-, hbase, -, hstop⟩ := hpool f hf
    obtain ⟨-, hram, hramLt, hramStop⟩ := hvalid.pool_in_ram
    unfold Access.Within at hwithin
    exact ⟨by omega, by omega, by omega, by omega⟩

lemma inBounds_of_confines {config : KernelConfig} (hvalid : config.Valid) {frames : Frames}
    {pid : ℕ}
    {boot : BootImage} {s : Space} (howns : frames.Owns pid s.frames)
    (hpool : ∀ f ∈ s.frames, InPool config f)
    (hothers : ∀ ppn owner, frames.owner ppn = some owner → InPool config ppn)
    (hstaged : config.staging.Contains boot.staged.toNat boot.fileLen.toNat) {a : Access}
    (hlen : 0 < a.len) (ha : s.Confines boot a) : InBounds config frames pid boot s a := by
  obtain ⟨hframeStaging, hframePool, hstagingPool⟩ := hvalid.apart
  have hframe : config.frame.base.toNat = config.trapFrame.toNat := UInt32.toNat_toUInt64 _
  have hsize : config.frame.size.toNat = frameBytes :=
    (by decide : (UInt64.ofNat frameBytes).toNat = frameBytes)
  rw [hframe, hsize] at hframeStaging hframePool
  have hram := ram_of_confines hvalid hpool hstaged hlen ha
  cases a with
  | read addr len =>
    -- a read is in staging
    have hwithin : (Access.read addr len).Within boot.staged.toNat boot.fileLen.toNat := ha
    obtain ⟨-, hbase, -, hstop⟩ := hstaged
    refine ⟨ha, ?_, hwithin.apart (by omega), hram⟩
    intro ppn owner howner _
    obtain ⟨-, hpoolBase, -, hpoolStop⟩ := hothers ppn owner howner
    refine hwithin.apart ?_
    omega
  | write addr data =>
    -- a write is in the pool
    obtain ⟨f, hf, hwithin⟩ := ha
    obtain ⟨-, hbase, -, hstop⟩ := hpool f hf
    refine ⟨⟨f, hf, hwithin⟩, ?_, hwithin.apart (by omega), hram⟩
    intro ppn owner howner hne
    have hother : f ≠ ppn := by
      rintro rfl
      rw [(howns.mem_iff f).mp hf] at howner
      exact hne (Option.some.inj howner).symm
    exact hwithin.apart (page_disjoint hother)

/-! ## In every state -/

lemma staging_contains_entry {config : KernelConfig} {disk : DiskBoot} (hvalid : disk.Valid config)
    {entry : ExecEntry} {capacity : UInt32}
    (hentry : entry.Fits capacity (DiskBoot.stagingSize config)) :
    config.staging.Contains (UInt32.ofNat config.staging.base.toNat).toNat entry.byteLen.toNat := by
  have hbelow := hvalid.below
  have hblock := hvalid.block
  have hne : entry.byteLen.toNat ≠ 0 := fun hzero => hentry.nonempty (UInt32.toNat_inj.mp hzero)
  have hle := UInt32.le_iff_toNat_le.mp hentry.staging
  unfold DiskBoot.stagingSize narrow at hle
  unfold blockSize at hblock
  rw [UInt32.toNat_ofNat_of_lt' (show _ < 2 ^ 32 by omega)]
  have hsize : entry.byteLen.toNat ≤ config.staging.size.toNat := by
    by_cases hlt : config.staging.size.toNat < 2 ^ 32
    · rwa [if_pos hlt, UInt32.toNat_ofNat_of_lt' hlt] at hle
    · have hword := entry.byteLen.toNat_lt
      omega
  exact ⟨hne, Nat.le_refl _, by omega, by omega⟩

lemma fits_stagedImage {config : KernelConfig} {disk : DiskBoot} (hvalid : disk.Valid config)
    {entry : ExecEntry} {capacity : UInt32}
    (hentry : entry.Fits capacity (DiskBoot.stagingSize config))
    {headers : Bytes} {image : UserImage}
    (hparse : parseUserElf32 headers entry.byteLen disk.layout.imageRange = .ok image) :
    (Model.stagedImage config entry image).Fits config disk.layout ∧ CopiesInPage image := by
  obtain ⟨h, segments, ha⟩ := accepted_of_parse hparse
  have hcopies := ha.copy_fits
  refine ⟨⟨staging_contains_entry hvalid hentry, pagesFit_of_accepted ha, ha.segments_pages,
    validPerms_of_accepted ha, ?_⟩, ?_⟩
  · intro p hp c hc
    obtain ⟨hpos, hpage, hfile⟩ := hcopies p hp c hc
    have hword := entry.byteLen.toNat_lt
    refine ⟨⟨?_, ?_⟩, _, if_pos (by omega), hfile⟩
    · rintro hzero
      rw [hzero] at hpos
      exact Nat.lt_irrefl 0 hpos
    · intro e he
      obtain ⟨-, hsum⟩ := Option.ite_none_right_eq_some.mp he
      rw [← Option.some.inj hsum]
      exact hpage
  · exact fun p hp c hc => (hcopies p hp c hc).2.1

lemma Cursor.Fits.entry_fits {config : KernelConfig} {m : Model} {cursor : Cursor}
    (h : cursor.Fits config m) {disk : DiskBoot} (hsource : m.source = .disk disk)
    {entry : ExecEntry}
    (hentry : cursor.entry = some entry) :
    entry.Fits disk.capacityBlocks (DiskBoot.stagingSize config) := by
  unfold Cursor.Fits at h
  obtain ⟨t, ht, hentry⟩ := Option.bind_eq_some_iff.mp hentry
  rw [ht, hsource] at h
  obtain ⟨-, -, block, hparse⟩ := h
  obtain ⟨-, -, hall⟩ := fits_of_parseExecTable hparse
  exact hall entry (List.mem_of_getElem? hentry)

/-- The access of an operation that builds a space is one that the creation makes. -/
lemma ProcOp.makes_of_access {config : KernelConfig} {m : Model} {o : ProcOp} (h : o.Fits config m)
    {s : Space} (hspace : o.stage.space = some s) {a : Access}
    (ha : o.access config = .ok (some a)) :
    s.Makes a := by
  obtain ⟨stage, step, data⟩ := o
  have hdata := h.data
  rw [dataLen_building hspace] at hdata
  rw [access_building hspace] at ha
  exact ⟨step, data, hdata, Except.ok.inj ha⟩

namespace ModeledKernel

variable {config : KernelConfig} {c c₀ : ModeledKernel config}

/-- What the kernel works on, in any state that it reaches. -/
lemma Validated.fits [SnapshotData] (h₀ : c₀.Validated) (h : Component.Evolves c₀ c) {m : Model}
    (hm : c.model = some m) {o : ProcOp} (ho : c.work = some (.proc o)) :
    o.Fits config m ∧ m.source.Valid config := by
  have hsound := h₀.sound.evolves h
  have hwork := hsound.work
  rw [ho, hm] at hwork
  obtain ⟨m', hm', hfits⟩ := hwork
  cases hm'
  exact ⟨hfits, hsound.valid m hm⟩

/-- In every state that a kernel reaches, all accesses of the creation in flight are in bounds
exactly when no copy of the image of the plan wraps.  Those of an entry of a disk always are. -/
theorem creation_bounds [SnapshotData] (h₀ : c₀.Validated) (h : Component.Evolves c₀ c) {m : Model}
    (hm : c.model = some m) {o : ProcOp} (ho : c.work = some (.proc o)) :
    (∀ pid s, o.stage = .create pid s → ∃ plan boot,
      m.source = .plan plan ∧ plan.images[pid - 1]? = some boot ∧
        (∀ a, o.access config = .ok (some a) → s.Makes a) ∧
        ((∀ a, s.Makes a → InBounds config m.procs.frames pid boot s a) ↔
          CopiesWrapNot boot.image)) ∧
    ∀ cursor headers image s, o.stage = .load cursor headers image s → ∃ entry,
      cursor.entry = some entry ∧ (∀ a, o.access config = .ok (some a) → s.Makes a) ∧
        ∀ a, s.Makes a →
          InBounds config m.procs.frames cursor.pid (Model.stagedImage config entry image) s a := by
  obtain ⟨hfits, hvalid⟩ := h₀.fits h hm ho
  have hstage := hfits.stage
  constructor
  · intro pid s hcreate
    rw [hcreate] at hstage
    obtain ⟨plan, boot, hsource, -, -, hboot, hcreated, hbooting⟩ := hstage
    rw [hsource] at hvalid
    have hplan : plan.Valid config := hvalid
    have hfit := hplan.images boot (List.mem_of_getElem? hboot)
    obtain ⟨mapped, hbuilt⟩ := Space.built_of_build hcreated.built
    have howns : m.procs.frames.Owns pid s.frames :=
      hbooting.procs.owns (pid, s.frames) (List.mem_append_right _ (List.mem_singleton_self _))
    refine ⟨plan, boot, hsource, hboot, fun a =>
      ProcOp.makes_of_access hfits (by rw [hcreate]; rfl), ?_⟩
    rw [← hcreated.confines_iff hplan.layout hfit]
    constructor
    · exact fun hall a ha => (hall a ha).confined
    · intro hall a ha
      exact inBounds_of_confines hplan.layout.valid howns
        (fun f hf => hcreated.inPool hplan.layout hf)
        (fun ppn owner howner => inPool_of_owner hplan.layout hbooting.pool howner)
        hfit.staged (hbuilt.len_makes ha).1 (hall a ha)
  · intro cursor headers image s hload
    rw [hload] at hstage
    obtain ⟨disk, entry, hsource, hcursor, hentry, hparse, hcreated, hbooting⟩ := hstage
    rw [hsource] at hvalid
    have hdisk : disk.Valid config := hvalid
    obtain ⟨mapped, hbuilt⟩ := Space.built_of_build hcreated.built
    have howns : m.procs.frames.Owns cursor.pid s.frames :=
      hbooting.procs.owns (cursor.pid, s.frames)
        (List.mem_append_right _ (List.mem_singleton_self _))
    obtain ⟨hfit, hin⟩ := fits_stagedImage hdisk (hcursor.entry_fits hsource hentry) hparse
    refine ⟨entry, hentry, fun a => ProcOp.makes_of_access hfits (by rw [hload]; rfl), ?_⟩
    intro a ha
    exact inBounds_of_confines hdisk.layout.valid howns
      (fun f hf => hcreated.inPool hdisk.layout hf)
      (fun ppn owner howner => inPool_of_owner hdisk.layout hbooting.pool howner)
      hfit.staged (hbuilt.len_makes ha).1 (hbuilt.confines hin hfit.copies ha)

end ModeledKernel

lemma ModeledKernel.Validated.create [SnapshotData] {config : KernelConfig}
    {c c₀ : ModeledKernel config} (h₀ : c₀.Validated) (h : Component.Evolves c₀ c)
    {plan : ProcessPlan} (hplan : c.model.map Model.source = some (.plan plan))
    (hcreating : (Work.creating c.work).isSome) :
    ∃ m o pid s, c.model = some m ∧ m.source = .plan plan ∧ c.work = some (.proc o) ∧
      o.stage = .create pid s := by
  obtain ⟨m, hm, hsource⟩ := Option.map_eq_some_iff.mp hplan
  unfold Work.creating at hcreating
  split at hcreating
  · next o ho =>
    have hfits := (h₀.fits h hm ho).1.stage
    unfold Stage.creating at hcreating
    split at hcreating
    · next pid s hstage => exact ⟨m, o, pid, s, hm, hsource, ho, hstage⟩
    · next cursor headers image s hstage =>
      rw [hstage] at hfits
      obtain ⟨disk, -, hdisk, -⟩ := hfits
      rw [hsource] at hdisk
      cases hdisk
    · cases hcreating
  · cases hcreating

open Canonical in
theorem creation_bounds_small :
    ∃ m o pid s boot, smallBooting.model = some m ∧ smallBooting.work = some (.proc o) ∧
      o.stage = .create pid s ∧
      ∀ a, s.Makes a → InBounds (smallConfig 0x80000000) m.procs.frames pid boot s a := by
  obtain ⟨m, o, pid, s, hm, hplan, ho, hstage⟩ :=
    smallKernel_validated.create smallBooting_evolves
      (show smallBooting.model.map Model.source = some (.plan (smallPlan 0x80000000)) by
        decide +kernel)
      (by decide +kernel)
  obtain ⟨hcreate, -⟩ :=
    ModeledKernel.creation_bounds smallKernel_validated smallBooting_evolves hm ho
  obtain ⟨plan, boot, hsource, hboot, -, hiff⟩ := hcreate pid s hstage
  refine ⟨m, o, pid, s, boot, hm, ho, hstage, hiff.mpr ?_⟩
  rw [hplan] at hsource
  cases hsource
  have hmem := List.mem_of_getElem? hboot
  rw [List.mem_singleton.mp hmem]
  decide +kernel

/-! ## A copy that wraps -/

/-- An executable whose copy has the largest 16-byte aligned place in its page. -/
def wrappingBoot : BootImage :=
  { staged := 0x80100000, fileLen := 64
    image :=
      { entry := 0x10000
        segments :=
          [{ index := 0, vaddr := 0x10000, memsz := 16
             perms := { read := true, write := false, execute := true }
             pages :=
              [{ va := 0x10000, perms := { read := true, write := false, execute := true }
                 copy := some { fileOffset := 0, pageOffset := 0xFFFFFFF0, len := 16 } }] }] } }

def wrappingPlan : ProcessPlan := { layout := smallLayout, images := [wrappingBoot] }

/-- A kernel that awaits the boot of an executable with a copy that wraps. -/
def wrappingKernel : ModeledKernel (smallConfig 0x80000000) := .withSource _ (.plan wrappingPlan)

lemma wrappingKernel_validated : wrappingKernel.Validated := by
  refine .processes wrappingPlan ?_
  have hvalid : wrappingPlan.validate (smallConfig 0x80000000) = .ok () := by decide +kernel
  unfold ModeledKernel.withProcesses
  rw [hvalid]
  rfl

/-- The kernel while it creates the process. -/
def wrappingBooting : ModeledKernel (smallConfig 0x80000000) :=
  ((wrappingKernel.handleEvent smallEnter).perform
    { component := 0, now := 0, phase := .request, rng := fun _ => 0 }).2.2

open Canonical in
/-- The plan is accepted, and the kernel writes outside the frames of the process. -/
theorem creation_leaves_frames :
    wrappingKernel.Validated ∧ Component.Evolves wrappingKernel wrappingBooting ∧
      ∃ m o pid s, wrappingBooting.model = some m ∧ wrappingBooting.work = some (.proc o) ∧
        o.stage = .create pid s ∧
        ¬∀ a, s.Makes a →
          InBounds (smallConfig 0x80000000) m.procs.frames pid wrappingBoot s a := by
  have hevolves : Component.Evolves wrappingKernel wrappingBooting :=
    .event .refl smallEnter (Handler.ends_of_perform _ _)
  obtain ⟨m, o, pid, s, hm, hplan, ho, hstage⟩ :=
    wrappingKernel_validated.create hevolves
      (show wrappingBooting.model.map Model.source = some (.plan wrappingPlan) by decide +kernel)
      (by decide +kernel)
  obtain ⟨hfits, -⟩ := wrappingKernel_validated.fits hevolves hm ho
  have hfits := hfits.stage
  rw [hstage] at hfits
  obtain ⟨plan, boot, hsource, -, -, hboot, hcreated, -⟩ := hfits
  rw [hplan] at hsource
  cases hsource
  have hvalid : wrappingPlan.validate (smallConfig 0x80000000) = .ok () := by decide +kernel
  have hvalid := ProcessPlan.valid_of_validate hvalid
  have hmem := List.mem_of_getElem? hboot
  obtain rfl : boot = wrappingBoot := List.mem_singleton.mp hmem
  refine ⟨wrappingKernel_validated, hevolves, m, o, pid, s, hm, ho, hstage, ?_⟩
  intro hall
  have hwrap := (hcreated.confines_iff hvalid.layout (hvalid.images _ hmem)).mp
    fun a ha => (hall a ha).confined
  exact absurd hwrap (by decide +kernel)

end SystemScope.Os
