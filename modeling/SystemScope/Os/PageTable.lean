import SystemScope.Os.Sound
import SystemScope.Os.Walk

/-!
# The order of a creation

A page is filled before the entry that maps it is written, and a level-0 table before the entry that
points at it.  So at no moment of a creation does its page table lead to a frame that is not
finished (`Space.mapping_order`).
-/

namespace SystemScope

namespace Os

open Elf ByteMap Rv32i

/-- The entry maps a page for the user. -/
def MapsUser (pte : UInt32) : Prop := pte &&& Pte.u ≠ 0

/-- The entry points at a table. -/
def PointsToTable (pte : UInt32) : Prop := pte &&& (Pte.r ||| Pte.w ||| Pte.x) = 0

namespace Space.Laid

variable {config : KernelConfig} {layout : UserLayout} {boot : BootImage} {frames : List UInt32}
  {mapped : List Mapped} {s : Space} (h : s.Laid config layout boot frames mapped)

include h

lemma kernelMegapage_lt : kernelMegapage config < 2 ^ 32 := by
  have hbelow := h.valid.mega_below
  unfold megapage at hbelow
  omega

/-- Behind an entry of the root is a level-0 table that a page uses, or a megapage that is mapped to
itself. -/
lemma upper_cases {u : ℕ × UInt32} (hu : u ∈ upper config s.slots) :
    (∃ t ∈ s.slots.map Prod.snd, (u.1, t) ∈ s.slots ∧ u.2 = Pte.pointer t) ∨
      u.1 ∈ megapageSlots config ∧ ∃ base flags,
        u.2 = Pte.entry (UInt32.ofNat (base / pageBytes)) flags ∧
        u.1 = vpn1 base ∧ base % megapage = 0 ∧ base < 2 ^ 32 ∧ flags.toNat < 2 ^ 10 ∧
          flags &&& pteR ≠ 0 ∧ flags &&& Pte.u = 0 ∧ flags &&& (Pte.r ||| Pte.w ||| Pte.x) ≠ 0 := by
  rcases List.mem_append.mp hu with hu | hu
  · obtain ⟨e, he, rfl⟩ := List.mem_map.mp hu
    exact .inl ⟨e.2, List.mem_map_of_mem he, he, rfl⟩
  · refine .inr ?_
    simp only [List.mem_cons, List.not_mem_nil, or_false] at hu
    rcases hu with rfl | rfl
    · exact ⟨List.mem_cons_self, kernelMegapage config, _, rfl, rfl, h.valid.mega_aligned,
        h.kernelMegapage_lt, by decide, by decide, by decide, by decide⟩
    · exact ⟨List.mem_cons_of_mem _ (List.mem_singleton_self _), mmioMegapage, _, rfl, rfl,
        by decide, by decide, by decide, by decide, by decide, by decide⟩

end Space.Laid

namespace Space.Sound

variable {config : KernelConfig} {layout : UserLayout} {boot : BootImage} {frames : List UInt32}
  {mapped : List Mapped} {s : Space} {m : ByteMap} {n i : ℕ}
  (h : s.Sound config layout boot frames mapped)

include h

/-- An entry of the root is zero, or what the creation wants there and has begun to write. -/
lemma root_entry (hzeroed : perFrame ≤ n) (hn : n ≤ s.accesses) (hi : i < 2 ^ 10) :
    entryIn (m.after s.effect n) s.root i = 0 ∨
      s.upperStart mapped < n ∧
        ∃ u ∈ upper config s.slots, u.1 = i ∧ entryIn (m.after s.effect n) s.root i = u.2 := by
  have hroot := h.built.root_mem
  unfold entryIn
  by_cases hwritten : ∃ j e, s.ptes[j]? = some e ∧ s.entryStart + j < n ∧ e.1 = entryAddr s.root i
  · obtain ⟨j, e, he, hj, haddr⟩ := hwritten
    obtain ⟨j, e, he, hj, haddr, hread⟩ :=
      h.built.read_written (m := m) h.nodup h.inPage hroot hi he hj hn haddr
    rw [hread, word_wordBytes]
    have hupper : ¬j < mapped.length := by
      intro hlt
      rw [h.built.ptes, List.getElem?_append_left (by simpa using hlt)] at he
      obtain ⟨p, hp, rfl⟩ := List.mem_map.mp (List.mem_of_getElem? he)
      exact h.built.table_ne_root h.nodup hp (entry_inj (vpn0_lt _) hi haddr).1
    obtain ⟨u, hu, rfl⟩ := h.built.entry_in_root he (Nat.not_lt.mp hupper)
    refine .inr ⟨?_, u, hu, (entry_inj (h.built.upper_lt hu) hi haddr).2, rfl⟩
    unfold upperStart
    omega
  · refine .inl ?_
    rw [h.built.read_unwritten h.nodup h.inPage hroot hi h.first (by omega) hn, word_zeros]
    intro j e he hj haddr
    exact hwritten ⟨j, e, he, hj, haddr⟩

lemma table_entry {t : UInt32} (ht : t ∈ s.slots.map Prod.snd) (hzeroed : s.zeroSteps ≤ n)
    (hn : n ≤ s.accesses) (hi : i < 2 ^ 10) :
    entryIn (m.after s.effect n) t i = 0 ∨
      ∃ p ∈ mapped, p.table = t ∧ Placing.vpn0 p.page.va = i ∧
        entryIn (m.after s.effect n) t i = Pte.userLeaf p.frame p.page.perms := by
  have htable : t ∈ s.tables := by
    rw [h.built.tables]
    exact List.mem_cons_of_mem _ ht
  unfold entryIn
  by_cases hwritten : ∃ j e, s.ptes[j]? = some e ∧ s.entryStart + j < n ∧ e.1 = entryAddr t i
  · obtain ⟨j, e, he, hj, haddr⟩ := hwritten
    obtain ⟨j, e, he, hj, haddr, hread⟩ :=
      h.built.read_written (m := m) h.nodup h.inPage htable hi he hj hn haddr
    rw [hread, word_wordBytes]
    rcases h.built.mem_ptes (List.mem_of_getElem? he) with ⟨p, hp, rfl⟩ | ⟨u, hu, rfl⟩
    · obtain ⟨heq, hindex⟩ := entry_inj (vpn0_lt _) hi haddr
      exact .inr ⟨p, hp, heq, hindex, rfl⟩
    · obtain ⟨heq, -⟩ := entry_inj (h.built.upper_lt hu) hi haddr
      rw [← heq] at ht
      exact absurd (List.mem_append_left _ ht) (List.nodup_cons.mp (h.built.nodup h.nodup)).1
  · refine .inl ?_
    obtain ⟨f, hf⟩ := List.mem_iff_getElem?.mp (h.built.mem_frames.mpr (.inl htable))
    have hlast : (f + 1) * perFrame ≤ n := by
      obtain ⟨hlt, -⟩ := List.getElem?_eq_some_iff.mp hf
      refine le_trans ?_ hzeroed
      exact Nat.mul_le_mul_right _ hlt
    rw [h.built.read_unwritten h.nodup h.inPage htable hi hf hlast hn, word_zeros]
    intro j e he hj haddr
    exact hwritten ⟨j, e, he, hj, haddr⟩

/-- Once the root is zeroed, a walk leads to a megapage that is mapped to itself, or through a
finished table to a finished page. -/
lemma walk_cases (hzeroed : perFrame ≤ n) (hn : n ≤ s.accesses) {privilege : Privilege}
    (hprivilege : privilege ≠ .machine) {sum mxr : Bool} {access : Rv32i.Access} {va : UInt32}
    {pa : UInt64}
    (hwalk : translateIn (m.after s.effect n) s.root privilege sum mxr access va = .ok pa) :
    privilege ≠ .user ∧ vpn1 va.toNat ∈ megapageSlots config ∧ pa.toNat = va.toNat ∨
      s.upperStart mapped < n ∧
        ∃ p ∈ mapped, vpn1 p.page.va.toNat = vpn1 va.toNat ∧
          Placing.vpn0 p.page.va = Placing.vpn0 va ∧
          pa.toNat = p.frame.toNat * pageBytes + va.toNat % pageBytes := by
  rw [translateIn_eq (h.table_lt h.built.root_mem) hprivilege] at hwalk
  rcases h.root_entry (m := m) hzeroed hn (vpn1_lt va.toNat) with
    hzero | ⟨hstart, u, hu, hslot, hentry⟩
  · rw [hzero, step_zero] at hwalk
    cases hwalk
  · rw [hentry] at hwalk
    rcases h.upper_cases hu with
      ⟨t, ht, hslots, hptr⟩ | ⟨hmega, base, flags, hvalue, hbase, hmod, hlt, hflags, hr, hu, -⟩
    · refine .inr ⟨hstart, ?_⟩
      have htable : t ∈ s.tables := by
        rw [h.built.tables]
        exact List.mem_cons_of_mem _ ht
      rw [hptr, step_pointer (h.table_lt htable)] at hwalk
      dsimp only at hwalk
      have hz : s.zeroSteps ≤ n := by
        unfold upperStart entryStart at hstart
        omega
      rcases h.table_entry (m := m) ht hz hn (vpn0_lt va) with hzero | ⟨p, hp, hpt, hindex, hleaf⟩
      · rw [hzero, step_zero] at hwalk
        cases hwalk
      · rw [hleaf] at hwalk
        refine ⟨p, hp, ?_, hindex, ?_⟩
        · have hmem := h.built.table_mem p hp
          rw [hpt] at hmem
          have htables := (List.nodup_append.mp (List.nodup_cons.mp (h.built.nodup h.nodup)).2).1
          have heq := List.inj_on_of_nodup_map htables hmem hslots rfl
          rw [← hslot]
          exact (Prod.mk.inj heq).1
        · split at hwalk
          · next pa' hstep =>
            cases hwalk
            exact step_userLeaf_leaf (h.page_lt hp) hstep
          · cases hwalk
    · refine .inl ?_
      have hvpn : vpn1 va.toNat = vpn1 base := hslot.symm.trans hbase
      rw [hvalue] at hwalk
      split at hwalk
      · next pa' hstep =>
        cases hwalk
        obtain ⟨huser, hpa⟩ := (step_mega_leaf hmod hlt hflags hr hu hvpn).2 _ hstep
        exact ⟨huser, hslot ▸ hmega, hpa⟩
      · cases hwalk
      · next table hstep =>
        exact absurd hstep ((step_mega_leaf hmod hlt hflags hr hu hvpn).1 table)

/-! ## What is mapped is finished -/

/-- What an entry points at keeps its contents once the entry is written. -/
lemma read_pointed {j : ℕ} {e : ℕ × UInt32} (he : s.ptes[j]? = some e) (hj : s.entryStart + j < n)
    (hn : n ≤ s.accesses)
    (hkind : MapsUser e.2 ∨ PointsToTable e.2) :
    (m.after s.effect n).read ((e.2 >>> 10).toNat * pageBytes) pageBytes =
      (m.after s.effect s.accesses).read ((e.2 >>> 10).toNat * pageBytes) pageBytes := by
  by_cases hlt : j < mapped.length
  · rw [h.built.ptes, List.getElem?_append_left (by simpa using hlt)] at he
    obtain ⟨p, hp, rfl⟩ := List.mem_map.mp (List.mem_of_getElem? he)
    have hshift : p.leaf.2 >>> 10 = p.frame :=
      Pte.entry_shift (h.page_lt hp) (Pte.userFlags_lt p.page.perms)
    rw [hshift]
    exact (h.built.read_frame_final h.nodup hp (by omega) hn (Nat.le_refl _)).symm
  · obtain ⟨u, hu, rfl⟩ := h.built.entry_in_root he (Nat.not_lt.mp hlt)
    rcases h.upper_cases hu with
      ⟨t, ht, -, hptr⟩ | ⟨-, base, flags, hvalue, -, hmod, hbase, hflags, -, huser, htable⟩
    · have htable : t ∈ s.tables := by
        rw [h.built.tables]
        exact List.mem_cons_of_mem _ ht
      have hshift : u.2 >>> 10 = t := by
        rw [hptr]
        exact Pte.entry_shift (h.table_lt htable) (by decide)
      dsimp only
      rw [hshift]
      refine (h.built.read_table_final h.nodup ht ?_ hn (Nat.le_refl _)).symm
      unfold upperStart
      omega
    · obtain ⟨hppn, -⟩ := mega_ppn hmod hbase
      dsimp only at hkind
      unfold MapsUser PointsToTable at hkind
      rw [hvalue, Pte.entry_and hppn hflags (by decide), Pte.entry_and hppn hflags (by decide)]
        at hkind
      rcases hkind with hkind | hkind
      · exact absurd huser hkind
      · exact absurd hkind htable

end Space.Sound

/-- What holds in a memory after the first `n` accesses of a creation, given what all of them
leave. -/
structure Space.InOrder (config : KernelConfig) (s : Space) (n : ℕ) (now final : ByteMap) :
    Prop where
  /-- The frame of a leaf that was written has its final contents. -/
  leaf : ∀ (j : ℕ) (e : ℕ × UInt32), s.ptes[j]? = some e → s.entryStart + j < n → MapsUser e.2 →
    now.read ((e.2 >>> 10).toNat * pageBytes) pageBytes =
      final.read ((e.2 >>> 10).toNat * pageBytes) pageBytes
  /-- The table of a pointer that was written has its final contents. -/
  pointer : ∀ (j : ℕ) (e : ℕ × UInt32), s.ptes[j]? = some e → s.entryStart + j < n →
    PointsToTable e.2 →
    now.read ((e.2 >>> 10).toNat * pageBytes) pageBytes =
      final.read ((e.2 >>> 10).toNat * pageBytes) pageBytes
  /-- Once the root, which is the first frame, is zeroed, what its page table leads to is a megapage
  that is mapped to itself, or the frame of a page, and that has its final contents. -/
  reached : s.frames[0]? = some s.root ∧ (perFrame ≤ n →
    ∀ privilege ≠ Privilege.machine, ∀ sum mxr access va pa,
      translateIn now s.root privilege sum mxr access va = .ok pa →
        vpn1 va.toNat ∈ megapageSlots config ∧ pa.toNat = va.toNat ∨
          ∃ f ∈ s.frames, f ∉ s.tables ∧ pa.toNat / pageBytes = f.toNat ∧
            now.read (f.toNat * pageBytes) pageBytes = final.read (f.toNat * pageBytes) pageBytes)

/-- At every moment of the creation of an accepted executable, whatever was in memory before, what
the entries that are written point at is finished. -/
theorem Space.mapping_order {config : KernelConfig} {layout : UserLayout}
    (hlayout : validateLayout config layout = .ok ()) {elfPrefix : Bytes} {boot : BootImage}
    (hparse : parseUserElf32 elfPrefix boot.fileLen layout.imageRange = .ok boot.image)
    (hconflict : ¬MegapageConflict boot.image config) {frames : List UInt32}
    (hpool : ∀ f ∈ frames, InPool config f) (hascending : frames.Pairwise (· < ·)) {s : Space}
    (hbuild : build config layout boot frames = .ok s) {stage : Stage}
    (hstage : stage.space = some s) (m : ByteMap) :
    ∃ memory : ℕ → ByteMap, ∀ n ≤ s.accesses,
      (∃ o, ProcOp.exchanges config n (.new stage, m) = .ok (some (o, memory n))) ∧
        s.InOrder config n (memory n) (memory s.accesses) := by
  obtain ⟨mapped, h⟩ := sound_of_parse hlayout hparse hconflict hpool hascending hbuild
  refine ⟨m.after s.effect, ?_⟩
  intro n hn
  refine ⟨⟨_, h.exchanges hstage m hn⟩, ?_⟩
  exact
    { leaf := fun j e he hj hkind => h.read_pointed he hj hn (.inl hkind)
      pointer := fun j e he hj hkind => h.read_pointed he hj hn (.inr hkind)
      reached := by
        refine ⟨h.first, ?_⟩
        intro hzeroed privilege hprivilege sum mxr access va pa hwalk
        rcases h.walk_cases hzeroed hn hprivilege hwalk with ⟨-, hmega⟩ | ⟨hstart, p, hp, -, -, hpa⟩
        · exact .inl hmega
        · refine .inr ⟨p.frame, h.built.mem_frames.mpr (.inr ⟨p, hp, rfl⟩), ?_, ?_, ?_⟩
          · exact fun htable => h.built.table_ne_frame h.nodup htable hp rfl
          · have hoffset : va.toNat % pageBytes < pageBytes := Nat.mod_lt _ (by decide)
            rw [hpa, Nat.mul_comm, Nat.mul_add_div (by decide), Nat.div_eq_of_lt hoffset,
              Nat.add_zero]
          · refine (h.built.read_frame_final h.nodup hp ?_ hn (Nat.le_refl _)).symm
            unfold upperStart at hstart
            omega }

/-- The creation of a small executable, over an empty memory. -/
theorem mapping_order_small :
    ∃ s, Space.build (smallConfig 0x80000000) smallLayout smallElfBoot (smallFrames 0x80000000) =
        .ok s ∧
      ∃ memory : ℕ → ByteMap, ∀ n ≤ s.accesses,
        (∃ o, ProcOp.exchanges (smallConfig 0x80000000) n (.new (.create 1 s), fun _ => 0) =
            .ok (some (o, memory n))) ∧
          s.InOrder (smallConfig 0x80000000) n (memory n) (memory s.accesses) := by
  obtain ⟨s, hs⟩ := build_smallElf
  have hstage : (Stage.create 1 s).space = some s := rfl
  exact ⟨s, hs, Space.mapping_order (by decide +kernel) parse_smallElf (by decide +kernel)
    smallFrames_inPool (by decide) hs hstage _⟩

end Os

/-!
## A page table as it was built

The entries of a page table that holds what its creation writes (`Space.AsBuilt`): the root leads to
the tables of the pages and to the megapages, and a table to the frames of its pages.
-/

namespace Os

open Elf ByteMap Rv32i

namespace Space

/-- Every entry of the page table is one that the creation writes there, or zero where it writes
none. -/
def AsBuilt (s : Space) (m : ByteMap) : Prop :=
  ∀ t ∈ s.tables, ∀ i < 2 ^ 10, entryIn m t i ∈ s.written (entryAddr t i) ∨
    s.written (entryAddr t i) = [] ∧ entryIn m t i = 0

lemma mem_written {s : Space} {addr : ℕ} {w : UInt32} :
    w ∈ s.written addr ↔ (addr, w) ∈ s.ptes := by
  unfold written
  simp only [List.mem_map, List.mem_filter, decide_eq_true_eq]
  constructor
  · rintro ⟨e, ⟨he, rfl⟩, rfl⟩
    exact he
  · exact fun h => ⟨(addr, w), ⟨h, rfl⟩, rfl⟩

variable {config : KernelConfig} {layout : UserLayout} {boot : BootImage} {frames : List UInt32}
  {mapped : List Mapped} {s : Space} {m : ByteMap} {i : ℕ}

/-- An entry that the creation writes is one of those that it writes there. -/
lemma AsBuilt.written (h : s.AsBuilt m) {t : UInt32} (ht : t ∈ s.tables) (hi : i < 2 ^ 10)
    {w : UInt32} (hw : (entryAddr t i, w) ∈ s.ptes) : (entryAddr t i, entryIn m t i) ∈ s.ptes := by
  rcases h t ht i hi with hmem | ⟨hnone, -⟩
  · exact mem_written.mp hmem
  · rw [← mem_written, hnone] at hw
    cases hw

namespace Laid

variable (h : s.Laid config layout boot frames mapped) (hbuilt : s.AsBuilt m)

include h hbuilt

lemma root_entry (hi : i < 2 ^ 10) : entryIn m s.root i = 0 ∨
    ∃ u ∈ upper config s.slots, u.1 = i ∧ entryIn m s.root i = u.2 := by
  rcases hbuilt s.root h.built.root_mem i hi with hmem | ⟨-, hzero⟩
  · refine .inr ?_
    rcases h.built.mem_ptes (mem_written.mp hmem) with ⟨p, hp, heq⟩ | ⟨u, hu, heq⟩
    · obtain ⟨htable, -⟩ := entry_inj hi (vpn0_lt _) (Prod.mk.inj heq).1
      exact absurd htable.symm (h.built.table_ne_root h.nodup hp)
    · obtain ⟨haddr, hvalue⟩ := Prod.mk.inj heq
      exact ⟨u, hu, (entry_inj hi (h.built.upper_lt hu) haddr).2.symm, hvalue⟩
  · exact .inl hzero

lemma pointer_entry {p : Mapped} (hp : p ∈ mapped) :
    entryIn m s.root (slotOf p.page) = Pte.pointer p.table := by
  have hslot := h.built.table_mem p hp
  have hu : (slotOf p.page, Pte.pointer p.table) ∈ upper config s.slots :=
    List.mem_append_left _ (List.mem_map.mpr ⟨_, hslot, rfl⟩)
  have hmem : (upperAddr s.root (slotOf p.page), Pte.pointer p.table) ∈ s.ptes := by
    rw [h.built.ptes]
    exact List.mem_append_right _ (mem_upperPtes hu)
  have hentry := hbuilt.written h.built.root_mem (h.built.upper_lt hu) hmem
  rcases h.built.mem_ptes hentry with ⟨q, hq, heq⟩ | ⟨v, hv, heq⟩
  · obtain ⟨htable, -⟩ := entry_inj (h.built.upper_lt hu) (vpn0_lt _) (Prod.mk.inj heq).1
    exact absurd htable.symm (h.built.table_ne_root h.nodup hq)
  · obtain ⟨haddr, hvalue⟩ := Prod.mk.inj heq
    obtain ⟨-, hsame⟩ := entry_inj (h.built.upper_lt hu) (h.built.upper_lt hv) haddr
    rcases h.upper_cases hv with ⟨t, -, hslots, hptr⟩ | ⟨hmega, -⟩
    · rw [← hsame] at hslots
      rw [hvalue, hptr, Placing.slot_unique h.built.keys hslots hslot]
    · rw [← hsame] at hmega
      exact absurd hmega (h.valid.slot_not_mega h.noConflict p.page (h.page_mem hp))

lemma table_entry {t : UInt32} (ht : t ∈ s.slots.map Prod.snd) (hi : i < 2 ^ 10) :
    entryIn m t i = 0 ∨ ∃ p ∈ mapped, p.table = t ∧ Placing.vpn0 p.page.va = i ∧
      entryIn m t i = Pte.userLeaf p.frame p.page.perms := by
  have htable : t ∈ s.tables := by
    rw [h.built.tables]
    exact List.mem_cons_of_mem _ ht
  rcases hbuilt t htable i hi with hmem | ⟨-, hzero⟩
  · refine .inr ?_
    rcases h.built.mem_ptes (mem_written.mp hmem) with ⟨p, hp, heq⟩ | ⟨u, hu, heq⟩
    · obtain ⟨haddr, hvalue⟩ := Prod.mk.inj heq
      obtain ⟨heq, hindex⟩ := entry_inj hi (vpn0_lt _) haddr
      exact ⟨p, hp, heq.symm, hindex.symm, hvalue⟩
    · obtain ⟨heq, -⟩ := entry_inj hi (h.built.upper_lt hu) (Prod.mk.inj heq).1
      rw [heq] at ht
      exact absurd (List.mem_append_left _ ht) (List.nodup_cons.mp (h.built.nodup h.nodup)).1
  · exact .inl hzero

lemma leaf_entry {p : Mapped} (hp : p ∈ mapped) :
    entryIn m p.table (Placing.vpn0 p.page.va) = Pte.userLeaf p.frame p.page.perms := by
  have hmem : p.leaf ∈ s.ptes := by
    rw [h.built.ptes]
    exact List.mem_append_left _ (List.mem_map_of_mem hp)
  have hentry := hbuilt.written (h.built.table_mem_tables hp) (vpn0_lt _) hmem
  rcases h.built.mem_ptes hentry with ⟨q, hq, heq⟩ | ⟨u, hu, heq⟩
  · obtain ⟨haddr, hvalue⟩ := Prod.mk.inj heq
    obtain ⟨htable, hindex⟩ := entry_inj (vpn0_lt _) (vpn0_lt _) haddr
    have hslot := h.built.slot_eq_of_table h.nodup hp hq htable
    have hva := eq_of_indices (h.page_aligned hp) (h.page_aligned hq) hslot hindex
    obtain rfl := h.page_inj hp hq hva
    exact hvalue
  · obtain ⟨htable, -⟩ := entry_inj (vpn0_lt _) (h.built.upper_lt hu) (Prod.mk.inj heq).1
    exact absurd htable (h.built.table_ne_root h.nodup hp)

/-- With two megapages, each slot of the root that is used holds what is wanted there. -/
lemma upper_entry (hslots : vpn1 (kernelMegapage config) ≠ vpn1 Os.mmioMegapage) {u : ℕ × UInt32}
    (hu : u ∈ upper config s.slots) : entryIn m s.root u.1 = u.2 := by
  have hdistinct : (s.ptes.map Prod.fst).Nodup := by
    rw [h.built.ptes_nodup_iff h.nodup h.valid h.fit,
      h.built.slots_nodup_iff h.valid h.noConflict]
    exact fun heq => hslots (h.valid.slots_eq_iff.mpr heq)
  have hmem : (upperAddr s.root u.1, u.2) ∈ s.ptes := by
    rw [h.built.ptes]
    exact List.mem_append_right _ (mem_upperPtes hu)
  have hentry := hbuilt.written h.built.root_mem (h.built.upper_lt hu) hmem
  exact (Prod.mk.inj (List.inj_on_of_nodup_map hdistinct hentry hmem rfl)).2

end Laid

/-- A creation that has finished leaves the page table as it builds it. -/
lemma Sound.asBuilt (h : s.Sound config layout boot frames mapped) (m : ByteMap) :
    s.AsBuilt (m.after s.effect s.accesses) := by
  intro t ht i hi
  by_cases hwritten : ∃ e ∈ s.ptes, e.1 = entryAddr t i
  · obtain ⟨e, hmem, haddr⟩ := hwritten
    obtain ⟨j, he⟩ := List.mem_iff_getElem?.mp hmem
    obtain ⟨hj, -⟩ := List.getElem?_eq_some_iff.mp he
    obtain ⟨j', e', he', -, haddr', hread⟩ :=
      h.built.read_written (m := m) h.nodup h.inPage ht hi he
        (show s.entryStart + j < s.accesses by unfold accesses entryStart; omega)
          (Nat.le_refl _) haddr
    refine .inl (mem_written.mpr ?_)
    unfold entryIn
    rw [hread, word_wordBytes, ← haddr']
    exact List.mem_of_getElem? he'
  · obtain ⟨f, hf⟩ := List.mem_iff_getElem?.mp (h.built.mem_frames.mpr (.inl ht))
    obtain ⟨hlt, -⟩ := List.getElem?_eq_some_iff.mp hf
    have hzeroed : (f + 1) * perFrame ≤ s.accesses := by
      have hle : (f + 1) * perFrame ≤ s.zeroSteps := Nat.mul_le_mul_right _ hlt
      unfold accesses
      omega
    refine .inr ⟨List.eq_nil_iff_forall_not_mem.mpr ?_, ?_⟩
    · exact fun w hw => hwritten ⟨_, mem_written.mp hw, rfl⟩
    · unfold entryIn
      rw [h.built.read_unwritten h.nodup h.inPage ht hi hf hzeroed (Nat.le_refl _), word_zeros]
      exact fun j e he _ haddr => hwritten ⟨e, List.mem_of_getElem? he, haddr⟩

end Space

end Os

end SystemScope
