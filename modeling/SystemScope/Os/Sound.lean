import Mathlib.Algebra.Group.Action.Defs
import Mathlib.Algebra.Order.BigOperators.Group.List
import Mathlib.Algebra.Order.Ring.Nat
import SystemScope.Elf.UserImage
import SystemScope.Os.Contents

/-!
# Address spaces of accepted executables

What an address space satisfies that the kernel builds for an executable that the parser accepts
(`Space.Sound`), in frames of the pool.  Its creation has fewer than `2 ^ 32` accesses, so that it
runs to its end.
-/

namespace SystemScope.Os

open Elf Checks

/-- The frame lies in the pool. -/
def InPool (config : KernelConfig) (frame : UInt32) : Prop :=
  config.framePool.Contains (frame.toNat * pageBytes) pageBytes

/-- An address space that is laid out in frames of the pool, with the pages it is made of. -/
structure Space.Laid (config : KernelConfig) (layout : UserLayout) (boot : BootImage)
    (frames : List UInt32) (mapped : List Mapped) (s : Space) : Prop where
  built : s.Built config layout boot frames mapped
  nodup : frames.Nodup
  pool : ∀ f ∈ frames, InPool config f
  valid : ValidLayout config layout
  fit : PagesFit boot.image layout
  perms : ∀ p ∈ boot.image.pages, ValidPerms p.perms
  noConflict : ¬MegapageConflict boot.image config

/-- What an address space satisfies, with the pages it is made of. -/
structure Space.Sound (config : KernelConfig) (layout : UserLayout) (boot : BootImage)
    (frames : List UInt32) (mapped : List Mapped) (s : Space) : Prop
    extends s.Laid config layout boot frames mapped where
  /-- The root is the first frame. -/
  first : s.frames[0]? = some s.root
  inPage : CopiesInPage boot.image

lemma Space.first_of_build {config : KernelConfig} {layout : UserLayout} {boot : BootImage}
    {frames : List UInt32} {s : Space} (h : build config layout boot frames = .ok s) :
    s.frames[0]? = some s.root := by
  obtain ⟨mapped, hbuilt⟩ := built_of_build h
  have hroot : frames.head? = some s.root := by
    unfold build at h
    cases frames with
    | nil => cases h
    | cons root free =>
      obtain ⟨b, -, h⟩ := bind_eq_ok.mp h
      obtain ⟨regions, -, h⟩ := bind_eq_ok.mp h
      cases h
      rfl
  obtain ⟨rest, horder⟩ := hbuilt.order
  have hpos : 0 < s.frames.length := by
    rw [hbuilt.perm.length_eq]
    exact Nat.succ_pos _
  rw [← horder, List.head?_eq_getElem?, List.getElem?_append_left hpos] at hroot
  exact hroot

/-- The image of an executable fits the layout whose range it was parsed for. -/
lemma pagesFit_of_accepted {elfPrefix : Bytes} {fileLen : UInt32} {layout : UserLayout} {h : Header}
    {segments : List Checked} {image : UserImage}
    (ha : Accepted elfPrefix fileLen layout.imageRange h segments image) :
      PagesFit image layout where
  aligned := ha.page_aligned
  inRange := ha.page_inRange
  ascending := ha.page_ascending

lemma validPerms_of_accepted {elfPrefix : Bytes} {fileLen : UInt32} {range : UserRange}
    {h : Header} {segments : List Checked} {image : UserImage}
    (ha : Accepted elfPrefix fileLen range h segments image) :
    ∀ p ∈ image.pages, ValidPerms p.perms := by
  intro p hp
  obtain ⟨s, hs, n, -, rfl⟩ := ha.mem_pages.mp hp
  have hfits := ha.fits s hs
  have hpermitted := hfits.permitted
  have hread := hfits.read_of_write
  change ValidPerms s.perms
  unfold ValidPerms
  revert hpermitted hread
  cases s.perms.read <;> cases s.perms.write <;> cases s.perms.execute <;> simp

/-- The address space of an accepted executable is sound. -/
lemma Space.sound_of_parse {config : KernelConfig} {layout : UserLayout}
    (hlayout : validateLayout config layout = .ok ()) {elfPrefix : Bytes} {boot : BootImage}
    (hparse : parseUserElf32 elfPrefix boot.fileLen layout.imageRange = .ok boot.image)
    (hconflict : ¬MegapageConflict boot.image config) {frames : List UInt32}
    (hpool : ∀ f ∈ frames, InPool config f) (hascending : frames.Pairwise (· < ·)) {s : Space}
    (hbuild : build config layout boot frames = .ok s) :
    ∃ mapped, s.Sound config layout boot frames mapped := by
  obtain ⟨h, segments, ha⟩ := accepted_of_parse hparse
  obtain ⟨mapped, hbuilt⟩ := built_of_build hbuild
  exact ⟨mapped,
    { built := hbuilt
      first := first_of_build hbuild
      nodup := hascending.imp UInt32.ne_of_lt
      pool := hpool
      valid := validLayout_of_validate hlayout
      fit := pagesFit_of_accepted ha
      perms := validPerms_of_accepted ha
      inPage := fun p hp c hc => (ha.copy_fits p hp c hc).2.1
      noConflict := hconflict }⟩

namespace Space.Laid

variable {config : KernelConfig} {layout : UserLayout} {boot : BootImage} {frames : List UInt32}
  {mapped : List Mapped} {s : Space} (h : s.Laid config layout boot frames mapped)

include h

lemma frame_mem {f : UInt32} (hf : f ∈ s.frames) : f ∈ frames := h.built.order.subset hf

/-- The frames are within the reach of Sv32. -/
lemma frame_lt {f : UInt32} (hf : f ∈ s.frames) : f.toNat < 2 ^ 22 := by
  obtain ⟨-, hbase, -, hsize⟩ := h.pool f (h.frame_mem hf)
  have hreach := h.valid.pool_reach
  unfold physLimit pageBytes at *
  omega

lemma table_lt {t : UInt32} (ht : t ∈ s.tables) : t.toNat < 2 ^ 22 :=
  h.frame_lt (h.built.mem_frames.mpr (.inl ht))

lemma page_lt {p : Mapped} (hp : p ∈ mapped) : p.frame.toNat < 2 ^ 22 :=
  h.frame_lt (h.built.mem_frames.mpr (.inr ⟨p, hp, rfl⟩))

lemma page_mem {p : Mapped} (hp : p ∈ mapped) : p.page ∈ Os.pages boot.image layout := by
  rw [← h.built.pages]
  exact List.mem_map_of_mem hp

lemma page_aligned {p : Mapped} (hp : p ∈ mapped) : p.page.va.toNat % pageBytes = 0 :=
  h.fit.pages_aligned h.valid p.page (h.page_mem hp)

/-- Every page has valid permissions; those of the stack are. -/
lemma page_perms {p : Mapped} (hp : p ∈ mapped) : ValidPerms p.page.perms := by
  rcases List.mem_append.mp (h.page_mem hp) with hpage | hpage
  · exact h.perms p.page hpage
  · obtain ⟨va, -, heq⟩ := List.mem_map.mp hpage
    rw [← heq]
    exact (show ValidPerms stackPerms by decide)

lemma ascending : mapped.Pairwise fun p q => p.page.va < q.page.va := by
  have hpages := h.fit.pages_ascending h.valid
  rwa [← h.built.pages, List.pairwise_map] at hpages

/-- A page is determined by its address. -/
lemma page_inj {p q : Mapped} (hp : p ∈ mapped) (hq : q ∈ mapped) (hva : p.page.va = q.page.va) :
    p = q := by
  have hnodup : (mapped.map fun m => m.page.va).Nodup := by
    rw [List.Nodup, List.pairwise_map]
    exact h.ascending.imp UInt32.ne_of_lt
  exact List.inj_on_of_nodup_map hnodup hp hq hva

/-! ## The number of accesses -/

/-- There are at most as many pages as the address space holds. -/
lemma length_mapped : mapped.length ≤ 2 ^ 20 := by
  have hnodup : (mapped.map fun m => m.page.va.toNat / pageBytes).Nodup := by
    rw [List.Nodup, List.pairwise_map]
    refine h.ascending.imp_of_mem ?_
    intro p q hp hq hlt heq
    have halign := h.page_aligned hp
    have halign' := h.page_aligned hq
    rw [UInt32.lt_iff_toNat_lt] at hlt
    unfold pageBytes at *
    omega
  have hsub : mapped.map (fun m => m.page.va.toNat / pageBytes) ⊆ List.range (2 ^ 20) := by
    intro n hn
    obtain ⟨p, -, rfl⟩ := List.mem_map.mp hn
    have hlt := p.page.va.toNat_lt
    rw [List.mem_range]
    unfold pageBytes
    omega
  have hlength := (hnodup.subperm hsub).length_le
  rwa [List.length_map, List.length_range] at hlength

/-- There are at most as many level-0 tables as the root has entries. -/
lemma length_slots : s.slots.length ≤ 2 ^ 10 := by
  have hsub : s.slots.map Prod.fst ⊆ List.range (2 ^ 10) := by
    intro n hn
    exact List.mem_range.mpr (h.built.slot_lt n (List.mem_append_left _ hn))
  have hlength := (h.built.keys.subperm hsub).length_le
  rwa [List.length_map, List.length_range] at hlength

end Space.Laid

namespace Space.Sound

variable {config : KernelConfig} {layout : UserLayout} {boot : BootImage} {frames : List UInt32}
  {mapped : List Mapped} {s : Space} (h : s.Sound config layout boot frames mapped)

include h

/-- The copy into a page has at most 257 pieces. -/
lemma length_copies_page {p : Mapped} (hp : p ∈ mapped) :
    (p.copies boot.staged.toNat).length ≤ 257 := by
  unfold Mapped.copies Placing.copiesOf
  split
  · exact Nat.zero_le _
  · next c hcopy =>
    have hfits := h.inPage p.page (h.built.page_of_copy hp hcopy) c hcopy
    refine (length_splitCopy _ _ _).trans ?_
    unfold crossings maxAccess pageBytes at *
    omega

lemma length_copies : s.copies.length ≤ 257 * mapped.length := by
  rw [h.built.copies, List.length_flatMap]
  have hall : ∀ n ∈ mapped.map fun p => (p.copies boot.staged.toNat).length, n ≤ 257 := by
    intro n hn
    obtain ⟨p, hp, rfl⟩ := List.mem_map.mp hn
    exact h.length_copies_page hp
  have hsum := List.sum_le_card_nsmul _ 257 hall
  rwa [List.length_map, smul_eq_mul, Nat.mul_comm] at hsum

lemma length_ptes : s.ptes.length = mapped.length + s.slots.length + 2 := by
  rw [h.built.ptes]
  simp [upperPtes, upper]
  omega

lemma ptes_ne_nil : s.ptes ≠ [] := by
  intro hnil
  have hlength := h.length_ptes
  rw [hnil, List.length_nil] at hlength
  omega

/-- The creation has fewer accesses than a 32-bit word can count. -/
lemma accesses_lt : s.accesses < 2 ^ 32 := by
  have hpages := h.length_mapped
  have hslots := h.length_slots
  have hcopies := h.length_copies
  have hptes := h.length_ptes
  have hframes : s.frames.length = 1 + (s.slots.length + mapped.length) := by
    rw [h.built.perm.length_eq]
    simp
    omega
  unfold accesses zeroSteps perFrame pageBytes maxAccess
  omega

/-- The creation zeroes the root. -/
lemma perFrame_le : perFrame ≤ s.accesses := by
  obtain ⟨hlt, -⟩ := List.getElem?_eq_some_iff.mp h.first
  have hle : 1 * perFrame ≤ s.zeroSteps := Nat.mul_le_mul_right _ hlt
  unfold accesses
  omega

/-- The first accesses of the creation, whatever the memory holds. -/
lemma exchanges {stage : Stage} (hstage : stage.space = some s) (m : ByteMap) {n : ℕ}
    (hn : n ≤ s.accesses) :
    ProcOp.exchanges config n (.new stage, m) =
      .ok (some (ProcOp.building stage s (m.after s.effect n) n, m.after s.effect n)) :=
  ProcOp.exchanges_creation hstage h.accesses_lt h.ptes_ne_nil hn

end Space.Sound

/-! ## A small executable -/

/-- An executable whose one segment is the file itself, and some zeros. -/
def smallElf : Bytes :=
  [0x7f, 0x45, 0x4c, 0x46, 1, 1, 1, 0, 0, 0, 0, 0, 0, 0, 0, 0, 2, 0, 0xf3, 0, 1, 0, 0, 0] ++
    [0, 0, 1, 0, 52, 0, 0, 0, 0, 0, 0, 0, 0, 0, 0, 0, 52, 0, 32, 0, 1, 0, 0, 0, 0, 0, 0, 0] ++
    [1, 0, 0, 0, 0, 0, 0, 0, 0, 0, 1, 0, 0, 0, 1, 0, 84, 0, 0, 0, 100, 0, 0, 0, 5, 0, 0, 0,
      0, 16, 0, 0]

/-- The small executable in staging. -/
def smallElfBoot : BootImage :=
  { staged := 0x80100000, fileLen := 84
    image :=
      { entry := 0x10000
        segments :=
          [{ index := 0, vaddr := 0x10000, memsz := 100
             perms := { read := true, write := false, execute := true }
             pages :=
              [{ va := 0x10000, perms := { read := true, write := false, execute := true }
                 copy := some { fileOffset := 0, pageOffset := 0, len := 84 } }] }] } }

lemma parse_smallElf :
    parseUserElf32 smallElf smallElfBoot.fileLen smallLayout.imageRange =
      .ok smallElfBoot.image := by
  decide +kernel

lemma smallFrames_inPool : ∀ f ∈ smallFrames 0x80000000, InPool (smallConfig 0x80000000) f := by
  unfold InPool smallFrames
  simp only [List.forall_mem_cons]
  refine ⟨?_, ?_, ?_, ?_, List.forall_mem_nil _⟩
  all_goals decide +kernel

lemma build_smallElf : ∃ s, Space.build (smallConfig 0x80000000) smallLayout smallElfBoot
    (smallFrames 0x80000000) = .ok s := by
  refine Space.build_isOk ?_ (by decide) (by decide +kernel)
  exact Nat.le_of_eq (show framesNeeded smallElfBoot.image smallLayout = _ by decide +kernel)

end SystemScope.Os
