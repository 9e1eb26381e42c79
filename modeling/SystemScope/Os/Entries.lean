import SystemScope.Os.Layout

/-!
# Collisions of page-table entries

The addresses at which the creation of an address space writes entries.  The leaves never collide,
neither with each other nor with the entries of the root; the two megapages do when they are one,
which the validation of the layout does not rule out.
-/

namespace SystemScope.Os

open Elf Checks

/-- An entry is found in one place of one table. -/
lemma entry_inj {t t' : UInt32} {i j : ℕ} (hi : i < 2 ^ 10) (hj : j < 2 ^ 10)
    (h : t.toNat * pageBytes + 4 * i = t'.toNat * pageBytes + 4 * j) : t = t' ∧ i = j := by
  unfold pageBytes at h
  exact ⟨UInt32.toNat_inj.mp (by omega), by omega⟩

namespace Space

variable {config : KernelConfig} {layout : UserLayout} {boot : BootImage} {frames : List UInt32}
  {mapped : List Mapped} {s : Space}

/-- The values that the creation writes to an entry. -/
def written (s : Space) (addr : ℕ) : List UInt32 :=
  (s.ptes.filter fun e => e.1 = addr).map Prod.snd

/-- No entry is written twice: the addresses are distinct, and the entry of each slot of the root
that is used holds the one thing it is for, a table, the kernel megapage or the MMIO megapage. -/
structure CollisionFree (config : KernelConfig) (s : Space) : Prop where
  distinct : (s.ptes.map Prod.fst).Nodup
  upper : ∀ e ∈ upper config s.slots, s.written (upperAddr s.root e.1) = [e.2]

/-- The slots of the root that are used. -/
lemma upper_slots (slots : List (ℕ × UInt32)) :
    (upper config slots).map Prod.fst = slots.map Prod.fst ++ megapageSlots config := by
  unfold upper megapageSlots
  rw [List.map_append, List.map_map]
  rfl

lemma mem_upperPtes {root : UInt32} {slots : List (ℕ × UInt32)} {e : ℕ × UInt32}
    (h : e ∈ upper config slots) : (upperAddr root e.1, e.2) ∈ upperPtes config root slots :=
  List.mem_map.mpr ⟨e, List.mem_mergeSort.mpr h, rfl⟩

/-- The addresses of the entries of the root, up to their order. -/
lemma upperPtes_perm (root : UInt32) (slots : List (ℕ × UInt32)) :
    ((upperPtes config root slots).map Prod.fst).Perm
      ((slots.map Prod.fst ++ megapageSlots config).map (upperAddr root)) := by
  rw [← upper_slots, List.map_map]
  unfold upperPtes
  rw [List.map_map]
  exact (List.mergeSort_perm _ _).map _

lemma written_of_nodup (hnodup : (s.ptes.map Prod.fst).Nodup) {e : ℕ × UInt32} (he : e ∈ s.ptes) :
    s.written e.1 = [e.2] := by
  unfold written
  generalize s.ptes = ptes at hnodup he
  induction ptes with
  | nil => cases he
  | cons p rest ih =>
    rw [List.map_cons, List.nodup_cons] at hnodup
    obtain ⟨hp, hrest⟩ := hnodup
    rcases List.mem_cons.mp he with rfl | he
    · have hnone : rest.filter (fun q => q.1 = e.1) = [] := by
        rw [List.filter_eq_nil_iff]
        intro q hq hqe
        have hqe : q.1 = e.1 := by simpa using hqe
        exact hp (hqe ▸ List.mem_map_of_mem hq)
      rw [List.filter_cons_of_pos (by simp), hnone]
      rfl
    · have hne : p.1 ≠ e.1 := fun hpe => hp (hpe ▸ List.mem_map_of_mem he)
      rw [List.filter_cons_of_neg (by simpa using hne)]
      exact ih hrest he

namespace Built

variable (h : s.Built config layout boot frames mapped)

include h

/-- With distinct frames, the tables and the page frames are distinct. -/
lemma nodup (hnodup : frames.Nodup) :
    (s.root :: (s.slots.map Prod.snd ++ mapped.map Mapped.frame)).Nodup :=
  h.perm.nodup_iff.mp (hnodup.sublist h.order.sublist)

lemma slot_eq_of_table (hnodup : frames.Nodup) {m m' : Mapped} (hm : m ∈ mapped) (hm' : m' ∈ mapped)
    (htable : m.table = m'.table) : slotOf m.page = slotOf m'.page := by
  have htables := (List.nodup_append.mp (List.nodup_cons.mp (h.nodup hnodup)).2).1
  have heq := List.inj_on_of_nodup_map htables (h.table_mem m hm) (h.table_mem m' hm') htable
  exact (Prod.mk.inj heq).1

lemma table_ne_root (hnodup : frames.Nodup) {m : Mapped} (hm : m ∈ mapped) : m.table ≠ s.root := by
  intro heq
  refine (List.nodup_cons.mp (h.nodup hnodup)).1 (List.mem_append_left _ ?_)
  rw [← heq]
  exact List.mem_map_of_mem (h.table_mem m hm)

/-- The leaves are at distinct addresses. -/
lemma leaves_nodup (hnodup : frames.Nodup) (hlayout : ValidLayout config layout)
    (hfit : PagesFit boot.image layout) : ((mapped.map Mapped.leaf).map Prod.fst).Nodup := by
  have halign : ∀ m ∈ mapped, m.page.va.toNat % pageBytes = 0 := by
    intro m hm
    refine hfit.pages_aligned hlayout m.page ?_
    rw [← h.pages]
    exact List.mem_map_of_mem hm
  have hascending : mapped.Pairwise fun m m' => m.page.va < m'.page.va := by
    have hpages := hfit.pages_ascending hlayout
    rwa [← h.pages, List.pairwise_map] at hpages
  rw [List.map_map, List.Nodup, List.pairwise_map]
  refine hascending.imp_of_mem ?_
  intro m m' hm hm' hlt heq
  obtain ⟨htable, hvpn0⟩ := entry_inj (vpn0_lt _) (vpn0_lt _) heq
  have hslot := h.slot_eq_of_table hnodup hm hm' htable
  have hva := eq_of_indices (halign m hm) (halign m' hm') hslot hvpn0
  rw [hva] at hlt
  exact UInt32.lt_irrefl _ hlt

/-- The slots of the root that are used. -/
lemma slot_lt (e : ℕ) (he : e ∈ s.slots.map Prod.fst ++ megapageSlots config) : e < 2 ^ 10 := by
  rcases List.mem_append.mp he with he | he
  · obtain ⟨q, hq, rfl⟩ := List.mem_map.mp he
    obtain ⟨m, -, hslot⟩ := h.used q hq
    rw [← hslot]
    exact vpn1_lt _
  · simp only [megapageSlots, List.mem_cons, List.not_mem_nil, or_false] at he
    rcases he with rfl | rfl
    · exact vpn1_lt _
    · exact vpn1_lt _

lemma slots_disjoint (hlayout : ValidLayout config layout)
    (hconflict : ¬MegapageConflict boot.image config) :
    ∀ slot ∈ s.slots.map Prod.fst, slot ∉ megapageSlots config := by
  intro slot hslot
  obtain ⟨e, he, rfl⟩ := List.mem_map.mp hslot
  obtain ⟨m, hm, heq⟩ := h.used e he
  rw [← heq]
  refine hlayout.slot_not_mega hconflict m.page ?_
  rw [← h.pages]
  exact List.mem_map_of_mem hm

/-- The slots of the root are distinct exactly when the two megapages are. -/
lemma slots_nodup_iff (hlayout : ValidLayout config layout)
    (hconflict : ¬MegapageConflict boot.image config) :
    (s.slots.map Prod.fst ++ megapageSlots config).Nodup ↔
      kernelMegapage config ≠ mmioMegapage := by
  rw [List.nodup_append, ne_eq, ← hlayout.slots_eq_iff]
  constructor
  · intro hall
    simpa [megapageSlots] using hall.2.1
  · intro hne
    refine ⟨h.keys, by simpa [megapageSlots] using hne, ?_⟩
    intro a ha c hc heq
    rw [heq] at ha
    exact h.slots_disjoint hlayout hconflict c ha hc

/-- The entries are at distinct addresses exactly when the slots of the root are distinct. -/
lemma ptes_nodup_iff (hnodup : frames.Nodup) (hlayout : ValidLayout config layout)
    (hfit : PagesFit boot.image layout) :
    (s.ptes.map Prod.fst).Nodup ↔ (s.slots.map Prod.fst ++ megapageSlots config).Nodup := by
  have hupper : ((upperPtes config s.root s.slots).map Prod.fst).Perm
      ((s.slots.map Prod.fst ++ megapageSlots config).map (upperAddr s.root)) :=
    upperPtes_perm s.root s.slots
  have hinj : ((s.slots.map Prod.fst ++ megapageSlots config).map (upperAddr s.root)).Nodup ↔
      (s.slots.map Prod.fst ++ megapageSlots config).Nodup := by
    refine List.nodup_map_iff ?_
    intro i j heq
    unfold upperAddr at heq
    omega
  rw [h.ptes, List.map_append, List.nodup_append]
  constructor
  · intro hall
    exact hinj.mp (hupper.nodup_iff.mp hall.2.1)
  · intro hslots
    refine ⟨h.leaves_nodup hnodup hlayout hfit, hupper.nodup_iff.mpr (hinj.mpr hslots), ?_⟩
    intro a ha c hc heq
    obtain ⟨e, he, rfl⟩ := List.mem_map.mp ha
    obtain ⟨m, hm, rfl⟩ := List.mem_map.mp he
    obtain ⟨slot, hslot, rfl⟩ := List.mem_map.mp (hupper.mem_iff.mp hc)
    exact h.table_ne_root hnodup hm (entry_inj (vpn0_lt _) (h.slot_lt slot hslot) heq).1

/-- The creation writes no entry twice exactly when the megapages are two. -/
lemma collisionFree_iff (hnodup : frames.Nodup) (hlayout : ValidLayout config layout)
    (hfit : PagesFit boot.image layout) (hconflict : ¬MegapageConflict boot.image config) :
    s.CollisionFree config ↔ kernelMegapage config ≠ mmioMegapage := by
  rw [← h.slots_nodup_iff hlayout hconflict, ← h.ptes_nodup_iff hnodup hlayout hfit]
  constructor
  · exact CollisionFree.distinct
  · intro hdistinct
    refine ⟨hdistinct, ?_⟩
    intro e he
    have hmem : (upperAddr s.root e.1, e.2) ∈ s.ptes := by
      rw [h.ptes]
      exact List.mem_append_right _ (mem_upperPtes he)
    exact written_of_nodup hdistinct hmem

end Built

/-- In every accepted layout, for every image that can be mapped and all distinct frames that it
needs, the builder returns an address space unless a segment has no page; and then no entry is
written twice, and each slot of the root that is used holds one thing, exactly when the RAM base is
not the base of the MMIO megapage. -/
theorem entries_distinct_iff {config : KernelConfig} {layout : UserLayout}
    (hlayout : validateLayout config layout = .ok ()) {boot : BootImage}
    (hfit : PagesFit boot.image layout) (hconflict : ¬MegapageConflict boot.image config)
    {frames : List UInt32} (hlength : frames.length = framesNeeded boot.image layout)
    (hnodup : frames.Nodup) :
    ((∀ seg ∈ boot.image.segments, seg.pages ≠ []) →
        ∃ s, Space.build config layout boot frames = .ok s) ∧
      ∀ s, Space.build config layout boot frames = .ok s →
        (s.CollisionFree config ↔ config.ram.base.toNat ≠ mmioMegapage) := by
  have hvalid := validLayout_of_validate hlayout
  constructor
  · intro hsegments
    obtain ⟨base, hbase, -⟩ := hvalid.stackBase
    exact build_isOk hlength.ge hsegments (Option.isSome_iff_exists.mpr ⟨base, hbase⟩)
  · intro s hbuild
    obtain ⟨mapped, hbuilt⟩ := built_of_build hbuild
    exact hbuilt.collisionFree_iff hnodup hvalid hfit hconflict

end Space

/-! ## A layout whose megapages are one -/

/-- A small configuration with the RAM at an address. -/
def smallConfig (ram : UInt64) : KernelConfig :=
  { clock := 0, latency := .after ⟨0⟩
    ram := { base := ram, size := 0x1000000 }
    gate := { base := 0x20000000, size := 8 }
    trapFrame := ram.toUInt32 + 0x1000
    staging := { base := ram + 0x100000, size := 0x10000 }
    framePool := { base := ram + 0x400000, size := 0x10000 }
    blk := { base := 0x20001000, size := 0x20 }
    uartTx := 0x20002000 }

/-- A layout with one stack page. -/
def smallLayout : UserLayout := { userBase := 0x10000, stackTop := 0x30000, stackPages := 1 }

/-- An executable of one page that copies its first 16 bytes. -/
def smallBoot (ram : UInt32) : BootImage :=
  { staged := ram + 0x100000, fileLen := 64
    image :=
      { entry := 0x10000
        segments :=
          [{ index := 0, vaddr := 0x10000, memsz := 16
             perms := { read := true, write := false, execute := true }
             pages :=
              [{ va := 0x10000, perms := { read := true, write := false, execute := true }
                 copy := some { fileOffset := 0, pageOffset := 0, len := 16 } }] }] } }

def smallPlan (ram : UInt32) : ProcessPlan :=
  { layout := smallLayout, images := [smallBoot ram] }

/-- The first frames of the pool. -/
def smallFrames (ram : UInt32) : List UInt32 :=
  [ram / 0x1000 + 0x400, ram / 0x1000 + 0x401, ram / 0x1000 + 0x402, ram / 0x1000 + 0x403]

/-- With the RAM elsewhere, no entry is written twice. -/
theorem entries_distinct_iff_small :
    ∃ s, Space.build (smallConfig 0x80000000) smallLayout (smallBoot 0x80000000)
        (smallFrames 0x80000000) = .ok s ∧ s.CollisionFree (smallConfig 0x80000000) := by
  have hfits : (smallBoot 0x80000000).Fits (smallConfig 0x80000000) smallLayout :=
    BootImage.fits_of_check (by decide +kernel)
  obtain ⟨hbuild, hfree⟩ := Space.entries_distinct_iff
    (show validateLayout (smallConfig 0x80000000) smallLayout = .ok () by decide +kernel)
    hfits.pages (by decide +kernel)
    (show (smallFrames 0x80000000).length = framesNeeded (smallBoot 0x80000000).image smallLayout by
      decide +kernel)
    (by decide +kernel)
  obtain ⟨s, hs⟩ := hbuild hfits.segments
  exact ⟨s, hs, (hfree s hs).mpr (by decide)⟩

/-- With the RAM at the MMIO megapage, an accepted plan has a page table in which the kernel
megapage and the MMIO megapage are written to one entry. -/
theorem entries_collide :
    (smallPlan 0x10000000).validate (smallConfig 0x10000000) = .ok () ∧
      ¬MegapageConflict (smallBoot 0x10000000).image (smallConfig 0x10000000) ∧
      (smallFrames 0x10000000).length =
        framesNeeded (smallBoot 0x10000000).image smallLayout ∧
      (smallFrames 0x10000000).Nodup ∧
      ∃ s, Space.build (smallConfig 0x10000000) smallLayout (smallBoot 0x10000000)
          (smallFrames 0x10000000) = .ok s ∧ ¬(s.ptes.map Prod.fst).Nodup := by
  have hplan : (smallPlan 0x10000000).validate (smallConfig 0x10000000) = .ok () := by
    decide +kernel
  have hvalid := ProcessPlan.valid_of_validate hplan
  have hfits := hvalid.images (smallBoot 0x10000000) (List.mem_singleton_self _)
  have hconflict : ¬MegapageConflict (smallBoot 0x10000000).image (smallConfig 0x10000000) := by
    decide +kernel
  have hlength : (smallFrames 0x10000000).length =
      framesNeeded (smallBoot 0x10000000).image smallLayout := by decide +kernel
  have hnodup : (smallFrames 0x10000000).Nodup := by decide +kernel
  have hbuild : ∃ s, Space.build (smallConfig 0x10000000) smallLayout (smallBoot 0x10000000)
      (smallFrames 0x10000000) = .ok s :=
    Space.build_isOk hlength.ge hfits.segments (by decide +kernel)
  obtain ⟨s, hs⟩ := hbuild
  obtain ⟨mapped, hbuilt⟩ := Space.built_of_build hs
  refine ⟨hplan, hconflict, hlength, hnodup, s, hs, ?_⟩
  rw [hbuilt.ptes_nodup_iff hnodup hvalid.layout hfits.pages,
    hbuilt.slots_nodup_iff hvalid.layout hconflict]
  decide

end SystemScope.Os
