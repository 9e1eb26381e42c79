import SystemScope.Os.Placement

/-!
# What validation guarantees

What a configuration and a user layout satisfy that `validateLayout` accepts, as facts about
numbers; and what an image of an accepted plan satisfies.  The pages of such an image and those of
the stack are aligned and strictly ascending, so that a page is determined by its two
indices. -/

namespace SystemScope.Os

open Elf Checks

/-! ## Indices of an address -/

lemma vpn1_lt (addr : ℕ) : vpn1 addr < 2 ^ 10 := Nat.mod_lt _ (by omega)

lemma vpn0_lt (va : UInt32) : Placing.vpn0 va < 2 ^ 10 := Nat.mod_lt _ (by omega)

/-- An aligned address is its two indices. -/
lemma toNat_of_aligned {va : UInt32} (h : va.toNat % pageBytes = 0) :
    va.toNat = vpn1 va.toNat * 2 ^ 22 + Placing.vpn0 va * 2 ^ 12 := by
  have hlt := va.toNat_lt
  unfold pageBytes at h
  unfold vpn1 Placing.vpn0
  omega

lemma eq_of_indices {va va' : UInt32} (h : va.toNat % pageBytes = 0)
    (h' : va'.toNat % pageBytes = 0) (h1 : vpn1 va.toNat = vpn1 va'.toNat)
    (h0 : Placing.vpn0 va = Placing.vpn0 va') : va = va' := by
  rw [← UInt32.toNat_inj, toNat_of_aligned h, toNat_of_aligned h', h1, h0]

/-! ## The layout -/

/-- What a configuration and a layout satisfy that are accepted. -/
structure ValidLayout (config : KernelConfig) (l : UserLayout) : Prop where
  valid : config.Valid
  mega_aligned : kernelMegapage config % megapage = 0
  mega_reach : kernelMegapage config + megapage ≤ physLimit
  frame_in_mega : (megaWindow config).Contains config.frame.base.toNat config.frame.size.toNat
  staging_in_mega : (megaWindow config).Contains config.staging.base.toNat config.staging.size.toNat
  pool_aligned : config.framePool.base.toNat % pageBytes = 0
  pool_whole : config.framePool.size.toNat % pageBytes = 0
  pool_reach : config.framePool.base.toNat + config.framePool.size.toNat ≤ physLimit
  pool_not_mega :
    ¬(megaWindow config).Overlaps config.framePool.base.toNat config.framePool.size.toNat
  base_aligned : l.userBase.toNat % pageBytes = 0
  top_aligned : l.stackTop.toNat % pageBytes = 0
  stackPages_ne : l.stackPages ≠ 0
  stackBase : ∃ base, l.stackBase = some base ∧ l.userBase < base
  stack_slots : ∀ va ∈ l.stackVas, vpn1 va.toNat ∉ megapageSlots config

lemma validLayout_of_validate {config : KernelConfig} {l : UserLayout}
    (h : validateLayout config l = .ok ()) : ValidLayout config l := by
  obtain ⟨hconfig, h⟩ := check_eq_ok.mp h
  simp only [guard_eq_ok, not_or, not_not, Nat.not_lt] at h
  obtain ⟨⟨h1, h2⟩, h3, h4, ⟨h5, h6⟩, ⟨h7, -⟩, h8, ⟨h9, h10⟩, h11, h⟩ := h
  cases hbase : l.stackBase with
  | none => simp [hbase] at h
  | some base =>
    rw [hbase] at h
    simp only [guard_eq_ok, UInt32.not_le] at h
    obtain ⟨h12, h13, -⟩ := h
    exact
      { valid := KernelConfig.valid_of_validate config (mapError_eq_ok.mp hconfig)
        mega_aligned := h1, mega_reach := h2, frame_in_mega := h3, staging_in_mega := h4
        pool_aligned := h5, pool_whole := h6, pool_reach := h7, pool_not_mega := h8
        base_aligned := h9, top_aligned := h10, stackPages_ne := h11
        stackBase := ⟨base, hbase, h12⟩
        stack_slots := fun va hva hslot => h13 ⟨va, hva, hslot⟩ }

namespace ValidLayout

variable {config : KernelConfig} {l : UserLayout} (h : ValidLayout config l)

include h

/-- The trap frame is at a 32-bit address, and so the kernel megapage is below 4 GiB. -/
lemma mega_below : kernelMegapage config + megapage ≤ 2 ^ 32 := by
  have hbase := h.frame_in_mega.2.1
  have haligned := h.mega_aligned
  have hframe : config.frame.base.toNat = config.trapFrame.toNat := UInt32.toNat_toUInt64 _
  have hlt := config.trapFrame.toNat_lt
  unfold kernelMegapage megapage at *
  change config.ram.base.toNat ≤ _ at hbase
  omega

/-- The two megapages share a slot only if they are one. -/
lemma slots_eq_iff :
    vpn1 (kernelMegapage config) = vpn1 mmioMegapage ↔ kernelMegapage config = mmioMegapage := by
  have hbelow := h.mega_below
  have haligned := h.mega_aligned
  constructor
  · intro hslot
    unfold vpn1 at hslot
    unfold megapage at hbelow haligned
    unfold mmioMegapage at hslot ⊢
    omega
  · intro heq
    rw [heq]

lemma stack_range : ∃ base : UInt32, l.stackBase = some base ∧ l.userBase < base ∧
    base.toNat + l.stackPages.toNat * pageBytes = l.stackTop.toNat := by
  obtain ⟨base, hbase, hlt⟩ := h.stackBase
  refine ⟨base, hbase, hlt, ?_⟩
  unfold UserLayout.stackBase at hbase
  obtain ⟨⟨-, hle⟩, hsome⟩ := Option.ite_none_right_eq_some.mp hbase
  have htop := l.stackTop.toNat_lt
  rw [← Option.some.inj hsome, UInt32.toNat_ofNat_of_lt' (Nat.lt_of_le_of_lt (Nat.sub_le _ _) htop)]
  omega

lemma toNat_stackVa {base : UInt32} (hbase : l.stackBase = some base) {i : ℕ}
    (hi : i < l.stackPages.toNat) :
    (l.stackBase.getD 0 + UInt32.ofNat i * UInt32.ofNat pageBytes).toNat =
      base.toNat + i * pageBytes := by
  obtain ⟨base', hbase', -, hrange⟩ := h.stack_range
  rw [hbase] at hbase'
  cases hbase'
  have htop := l.stackTop.toNat_lt
  have hpages := l.stackPages.toNat_lt
  have hsum : base.toNat + i * pageBytes < 2 ^ 32 := by
    unfold pageBytes at *
    omega
  unfold pageBytes at *
  rw [hbase, Option.getD_some, UInt32.toNat_add, UInt32.toNat_mul,
    UInt32.toNat_ofNat_of_lt' (show i < 2 ^ 32 by omega),
    UInt32.toNat_ofNat_of_lt' (show 4096 < 2 ^ 32 by omega)]
  omega

lemma stackVa_range {va : UInt32} (hva : va ∈ l.stackVas) :
    va.toNat % pageBytes = 0 ∧ ∃ base, l.stackBase = some base ∧ base ≤ va ∧
      va.toNat + pageBytes ≤ l.stackTop.toNat := by
  obtain ⟨base, hbase, -, hrange⟩ := h.stack_range
  obtain ⟨i, hi, rfl⟩ := List.mem_map.mp hva
  have hi := List.mem_range.mp hi
  have haligned := h.top_aligned
  have hva := h.toNat_stackVa hbase hi
  have hle : base ≤ l.stackBase.getD 0 + UInt32.ofNat i * UInt32.ofNat pageBytes := by
    rw [UInt32.le_iff_toNat_le, hva]
    omega
  rw [hva]
  unfold pageBytes at *
  exact ⟨by omega, base, hbase, hle, by omega⟩

lemma stackVas_pairwise : l.stackVas.Pairwise (· < ·) := by
  obtain ⟨base, hbase, -, -⟩ := h.stack_range
  unfold UserLayout.stackVas
  rw [List.pairwise_map]
  refine List.pairwise_lt_range.imp_of_mem ?_
  intro i j hi hj hij
  rw [UInt32.lt_iff_toNat_lt, h.toNat_stackVa hbase (List.mem_range.mp hi),
    h.toNat_stackVa hbase (List.mem_range.mp hj)]
  unfold pageBytes
  omega

lemma slot_not_mega {image : UserImage} (hconflict : ¬MegapageConflict image config) :
    ∀ p ∈ pages image l, slotOf p ∉ megapageSlots config := by
  intro p hp hslot
  rcases List.mem_append.mp hp with hp | hp
  · exact hconflict ⟨p, hp, hslot⟩
  · obtain ⟨va, hva, rfl⟩ := List.mem_map.mp hp
    exact h.stack_slots va hva hslot

end ValidLayout

/-! ## Images -/

/-- The pages of an image are aligned, in the image range, and strictly ascending. -/
structure PagesFit (image : UserImage) (layout : UserLayout) : Prop where
  aligned : ∀ p ∈ image.pages, p.va.toNat % pageBytes = 0
  inRange : ∀ p ∈ image.pages, layout.imageRange.Contains p.va
  ascending : image.pages.Pairwise fun p q => p.va < q.va

namespace PagesFit

variable {config : KernelConfig} {layout : UserLayout} {image : UserImage}
  (hfit : PagesFit image layout) (h : ValidLayout config layout)

include hfit h

lemma pages_aligned : ∀ p ∈ pages image layout, p.va.toNat % pageBytes = 0 := by
  intro p hp
  rcases List.mem_append.mp hp with hp | hp
  · exact hfit.aligned p hp
  · obtain ⟨va, hva, rfl⟩ := List.mem_map.mp hp
    exact (h.stackVa_range hva).1

/-- All pages are strictly ascending: the stack is above the image. -/
lemma pages_ascending : (pages image layout).Pairwise fun p q => p.va < q.va := by
  refine List.pairwise_append.mpr ⟨hfit.ascending, ?_, ?_⟩
  · unfold stackPages
    rw [List.pairwise_map]
    exact h.stackVas_pairwise
  · intro p hp q hq
    obtain ⟨va, hva, rfl⟩ := List.mem_map.mp hq
    obtain ⟨-, base, hbase, hle, -⟩ := h.stackVa_range hva
    have hstop := (hfit.inRange p hp).2
    unfold UserLayout.imageRange at hstop
    rw [hbase] at hstop
    exact UInt32.lt_of_lt_of_le hstop hle

end PagesFit

namespace BootImage

variable {boot : BootImage} {config : KernelConfig} {layout : UserLayout} {range : UserRange}

/-- What the check of a page establishes besides its place. -/
def CopyFits (boot : BootImage) (p : PagePlan) : Prop :=
  ∀ c ∈ p.copy, InPage c ∧ InFile boot.fileLen c

/-- What the checks of some pages establish after a last page. -/
structure Checked (boot : BootImage) (range : UserRange) (last last' : Option UInt32)
    (ps : List PagePlan) : Prop where
  aligned : ∀ p ∈ ps, p.va.toNat % pageBytes = 0
  inRange : ∀ p ∈ ps, range.Contains p.va
  after : ∀ p ∈ ps, ∀ l ∈ last, l < p.va
  ascending : ps.Pairwise fun p q => p.va < q.va
  perms : ∀ p ∈ ps, ValidPerms p.perms
  copies : ∀ p ∈ ps, boot.CopyFits p
  upto : ∀ p ∈ ps, ∃ l ∈ last', p.va ≤ l
  mono : ∀ l ∈ last, ∃ l' ∈ last', l ≤ l'

lemma Checked.nil (last : Option UInt32) : boot.Checked range last last [] where
  aligned := by simp
  inRange := by simp
  after := by simp
  ascending := .nil
  perms := by simp
  copies := by simp
  upto := by simp
  mono l hl := ⟨l, hl, UInt32.le_refl l⟩

lemma Checked.append {l₁ l₂ l₃ : Option UInt32} {ps qs : List PagePlan}
    (hp : boot.Checked range l₁ l₂ ps) (hq : boot.Checked range l₂ l₃ qs) :
    boot.Checked range l₁ l₃ (ps ++ qs) where
  aligned := List.forall_mem_append.mpr ⟨hp.aligned, hq.aligned⟩
  inRange := List.forall_mem_append.mpr ⟨hp.inRange, hq.inRange⟩
  after := by
    refine List.forall_mem_append.mpr ⟨hp.after, ?_⟩
    intro q hmem l hl
    obtain ⟨l', hl', hle⟩ := hp.mono l hl
    exact UInt32.lt_of_le_of_lt hle (hq.after q hmem l' hl')
  ascending := by
    refine List.pairwise_append.mpr ⟨hp.ascending, hq.ascending, ?_⟩
    intro p hmem q hmem'
    obtain ⟨l, hl, hle⟩ := hp.upto p hmem
    exact UInt32.lt_of_le_of_lt hle (hq.after q hmem' l hl)
  perms := List.forall_mem_append.mpr ⟨hp.perms, hq.perms⟩
  copies := List.forall_mem_append.mpr ⟨hp.copies, hq.copies⟩
  upto := by
    refine List.forall_mem_append.mpr ⟨?_, hq.upto⟩
    intro p hmem
    obtain ⟨l, hl, hle⟩ := hp.upto p hmem
    obtain ⟨l', hl', hle'⟩ := hq.mono l hl
    exact ⟨l', hl', UInt32.le_trans hle hle'⟩
  mono l hl := by
    obtain ⟨l', hl', hle⟩ := hp.mono l hl
    obtain ⟨l'', hl'', hle'⟩ := hq.mono l' hl'
    exact ⟨l'', hl'', UInt32.le_trans hle hle'⟩

lemma checked_of_checkPage {perms : Perms} (hperms : ValidPerms perms) {last last' : Option UInt32}
    {p : PagePlan} (h : boot.checkPage range perms last p = .ok last') :
    boot.Checked range last last' [p] := by
  unfold checkPage at h
  simp only [guard_eq_ok, not_not, Except.ok.injEq] at h
  obtain ⟨⟨haligned, hrange, rfl, hlast⟩, hcopy, rfl⟩ := h
  have hcopies : boot.CopyFits p := by
    intro c hc
    by_contra hbad
    exact hcopy ⟨c, hc, Decidable.not_and_iff_not_or_not.mp hbad⟩
  exact
    { aligned := by simpa using haligned
      inRange := by simpa using hrange
      after := by simpa using hlast
      ascending := List.pairwise_singleton _ _
      perms := by simpa using hperms
      copies := by simpa using hcopies
      upto := by simp
      mono := fun l hl => ⟨p.va, rfl, UInt32.le_of_lt (hlast l hl)⟩ }

lemma checked_of_checkPages {perms : Perms} (hperms : ValidPerms perms)
    {last last' : Option UInt32} {ps : List PagePlan}
    (h : ps.foldlM (boot.checkPage range perms) last = .ok last') :
    boot.Checked range last last' ps := by
  induction ps generalizing last with
  | nil =>
    cases h
    exact .nil _
  | cons p rest ih =>
    rw [List.foldlM_cons, bind_eq_ok] at h
    obtain ⟨next, hp, hrest⟩ := h
    exact (checked_of_checkPage hperms hp).append (ih hrest)

lemma checked_of_checkSegments {last last' : Option UInt32} {segments : List UserSegment}
    (h : segments.foldlM (boot.checkSegment range) last = .ok last') :
    boot.Checked range last last' (segments.flatMap UserSegment.pages) ∧
      ∀ s ∈ segments, s.pages ≠ [] := by
  induction segments generalizing last with
  | nil =>
    cases h
    exact ⟨.nil _, by simp⟩
  | cons s rest ih =>
    rw [List.foldlM_cons, bind_eq_ok] at h
    obtain ⟨next, hs, hrest⟩ := h
    obtain ⟨hok, hs⟩ := guard_eq_ok.mp hs
    obtain ⟨hchecked, hpages⟩ := ih hrest
    rw [not_or, not_not] at hok
    exact ⟨(checked_of_checkPages hok.1 hs).append hchecked,
      List.forall_mem_cons.mpr ⟨hok.2, hpages⟩⟩

/-- What the check of an image of a plan establishes. -/
structure Fits (boot : BootImage) (config : KernelConfig) (layout : UserLayout) : Prop where
  staged : config.staging.Contains boot.staged.toNat boot.fileLen.toNat
  pages : PagesFit boot.image layout
  segments : ∀ s ∈ boot.image.segments, s.pages ≠ []
  perms : ∀ p ∈ boot.image.pages, ValidPerms p.perms
  copies : ∀ p ∈ boot.image.pages, boot.CopyFits p

lemma fits_of_check (h : boot.check config layout = .ok ()) : boot.Fits config layout := by
  unfold check at h
  simp only [guard_eq_ok, not_not] at h
  obtain ⟨-, hstaged, -, -, h⟩ := h
  obtain ⟨last, hsegments, -⟩ := bind_eq_ok.mp h
  obtain ⟨hchecked, hpages⟩ := checked_of_checkSegments hsegments
  exact
    { staged := hstaged
      pages := ⟨hchecked.aligned, hchecked.inRange, hchecked.ascending⟩
      segments := hpages
      perms := hchecked.perms
      copies := hchecked.copies }

end BootImage

lemma fits_of_checkImages {config : KernelConfig} {layout : UserLayout} {index : ℕ}
    {images : List BootImage} (h : checkImages config layout index images = .ok ()) :
    ∀ boot ∈ images, boot.Fits config layout := by
  induction images generalizing index with
  | nil => simp
  | cons boot rest ih =>
    obtain ⟨hboot, hrest⟩ := check_eq_ok.mp h
    rw [mapError_eq_ok] at hboot
    exact List.forall_mem_cons.mpr ⟨BootImage.fits_of_check hboot, ih hrest⟩

/-- What an accepted plan satisfies. -/
structure ProcessPlan.Valid (plan : ProcessPlan) (config : KernelConfig) : Prop where
  layout : ValidLayout config plan.layout
  count : plan.images.length ≤ maxProcesses
  images : ∀ boot ∈ plan.images, boot.Fits config plan.layout

lemma ProcessPlan.valid_of_validate {plan : ProcessPlan} {config : KernelConfig}
    (h : plan.validate config = .ok ()) : plan.Valid config := by
  obtain ⟨hlayout, h⟩ := check_eq_ok.mp h
  obtain ⟨hcount, himages⟩ := guard_eq_ok.mp h
  rw [not_or, Nat.not_lt] at hcount
  exact ⟨validLayout_of_validate hlayout, hcount.2, fits_of_checkImages himages⟩

/-- What an accepted disk boot satisfies. -/
structure DiskBoot.Valid (disk : DiskBoot) (config : KernelConfig) : Prop where
  layout : ValidLayout config disk.layout
  capacity : disk.capacityBlocks ≠ 0
  aligned : config.staging.base.toNat % 16 = 0
  block : blockSize ≤ config.staging.size.toNat
  below : config.staging.base.toNat + config.staging.size.toNat ≤ 2 ^ 32
  registers : blkRegisters ≤ config.blk.size.toNat

lemma DiskBoot.valid_of_validate {disk : DiskBoot} {config : KernelConfig}
    (h : disk.validate config = .ok ()) : disk.Valid config := by
  obtain ⟨hlayout, h⟩ := check_eq_ok.mp h
  simp only [guard_eq_ok, not_not, Nat.not_lt] at h
  obtain ⟨h1, h2, h3, h4, h5, -⟩ := h
  exact ⟨validLayout_of_validate hlayout, h1, h2, h3, h4, h5⟩

end SystemScope.Os
