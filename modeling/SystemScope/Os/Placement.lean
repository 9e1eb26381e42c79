import Mathlib.Data.Finset.Card
import SystemScope.Os.Space

/-!
# What the builder assigns

The builder of `Os/Space.lean` in terms of the pages it has gone through.  `Mapped` is a page with
the table and the frame that it was given; `Placing.Made` says that everything the builder holds
follows from a list of them, and each step adds one (`Placing.made_place`).  A finished address
space is then described by such a list (`Space.Built`).
-/

namespace SystemScope.Os

open Elf Checks

/-- A page, the level-0 table of its slot, and its frame. -/
structure Mapped where
  page : PagePlan
  table : UInt32
  frame : UInt32

namespace Mapped

variable (m : Mapped)

/-- The entry of a page. -/
def leaf : ℕ × UInt32 := (Placing.leafAddr m.table m.page.va, Pte.userLeaf m.frame m.page.perms)

/-- The pieces of the copy into the frame of a page. -/
def copies (staged : ℕ) : List (ℕ × ℕ × ℕ) := Placing.copiesOf staged m.frame m.page.copy

end Mapped

namespace Placing

/-- Everything that the builder holds follows from the pages it has mapped. -/
structure Made (staged : ℕ) (root : UInt32) (free : List UInt32) (mapped : List Mapped)
    (b : Placing) : Prop where
  order : b.order ++ b.free = root :: free
  tables : b.tables = root :: b.slots.map Prod.snd
  keys : (b.slots.map Prod.fst).Nodup
  /-- A mapped page has the table of its slot. -/
  table_mem : ∀ m ∈ mapped, (slotOf m.page, m.table) ∈ b.slots
  /-- A slot has a table only if it is touched. -/
  used : ∀ e ∈ b.slots, ∃ m ∈ mapped, slotOf m.page = e.1
  leaves : b.leaves = mapped.map Mapped.leaf
  copies : b.copies = mapped.flatMap fun m => m.copies staged
  placed : b.placed = mapped.map fun m => (m.page.va, m.page.perms, m.frame)
  perm : b.order.Perm (root :: (b.slots.map Prod.snd ++ mapped.map Mapped.frame))

variable {staged : ℕ} {root : UInt32} {free : List UInt32} {mapped : List Mapped}
  {b b' : Placing} {p : PagePlan} {frame table : UInt32}

lemma take_eq_ok (h : b.take = .ok (frame, b')) :
    b.free = frame :: b'.free ∧
      b' = { b with free := b'.free, order := b.order ++ [frame] } := by
  unfold take at h
  cases hfree : b.free with
  | nil => simp [hfree] at h
  | cons first rest =>
    rw [hfree] at h
    cases h
    exact ⟨rfl, rfl⟩

lemma find_slot {slots : List (ℕ × UInt32)} {slot : ℕ} {s : ℕ × UInt32}
    (h : (slots.find? fun s => s.1 = slot) = some s) : s ∈ slots ∧ s.1 = slot :=
  ⟨List.mem_of_find?_eq_some h, by simpa using List.find?_some h⟩

lemma slot_not_mem {slots : List (ℕ × UInt32)} {slot : ℕ}
    (h : (slots.find? fun s => s.1 = slot) = none) : slot ∉ slots.map Prod.fst := by
  rw [List.find?_eq_none] at h
  intro hmem
  obtain ⟨s, hs, hslot⟩ := List.mem_map.mp hmem
  exact h s hs (by simpa using hslot)

lemma slot_unique {slots : List (ℕ × UInt32)} (hkeys : (slots.map Prod.fst).Nodup)
    {slot : ℕ} {t t' : UInt32} (h : (slot, t) ∈ slots) (h' : (slot, t') ∈ slots) : t = t' := by
  have heq := List.inj_on_of_nodup_map hkeys h h' rfl
  exact (Prod.mk.inj heq).2

/-- What the builder holds after it has found the table of a page that it maps next: the table is
there, but the page itself is not mapped. -/
structure Opened (staged : ℕ) (root : UInt32) (free : List UInt32) (mapped : List Mapped)
    (p : PagePlan) (table : UInt32) (b : Placing) : Prop where
  order : b.order ++ b.free = root :: free
  tables : b.tables = root :: b.slots.map Prod.snd
  keys : (b.slots.map Prod.fst).Nodup
  table_mem : ∀ m ∈ mapped, (slotOf m.page, m.table) ∈ b.slots
  opened : (slotOf p, table) ∈ b.slots
  used : ∀ e ∈ b.slots, e.1 = slotOf p ∨ ∃ m ∈ mapped, slotOf m.page = e.1
  leaves : b.leaves = mapped.map Mapped.leaf
  copies : b.copies = mapped.flatMap fun m => m.copies staged
  placed : b.placed = mapped.map fun m => (m.page.va, m.page.perms, m.frame)
  perm : b.order.Perm (root :: (b.slots.map Prod.snd ++ mapped.map Mapped.frame))

lemma Made.tableFor (hb : b.Made staged root free mapped)
    (h : b.tableFor (slotOf p) = .ok (table, b')) : b'.Opened staged root free mapped p table := by
  unfold Placing.tableFor at h
  split at h
  · next s hfind =>
    cases h
    obtain ⟨hs, hslot⟩ := find_slot hfind
    have hopened : (slotOf p, s.2) ∈ b.slots := by
      rw [← hslot]
      exact hs
    exact
      { order := hb.order, tables := hb.tables, keys := hb.keys, table_mem := hb.table_mem
        opened := hopened, used := fun e he => .inr (hb.used e he), leaves := hb.leaves
        copies := hb.copies, placed := hb.placed, perm := hb.perm }
  · next hfind =>
    obtain ⟨⟨t, c⟩, htake, h⟩ := bind_eq_ok.mp h
    cases h
    obtain ⟨hfree, hc⟩ := take_eq_ok htake
    rw [hc]
    refine
      { order := ?_, tables := ?_, keys := ?_, table_mem := ?_, opened := ?_, used := ?_
        leaves := hb.leaves, copies := hb.copies, placed := hb.placed, perm := ?_ }
    · show b.order ++ [table] ++ c.free = root :: free
      rw [← hb.order, hfree]
      simp
    · show b.tables ++ [table] = root :: (b.slots ++ [(slotOf p, table)]).map Prod.snd
      rw [hb.tables]
      simp
    · show ((b.slots ++ [(slotOf p, table)]).map Prod.fst).Nodup
      rw [List.map_append, List.nodup_append]
      refine ⟨hb.keys, List.nodup_singleton _, ?_⟩
      intro x hx y hy hxy
      have hy' : y = slotOf p := by simpa using hy
      rw [hxy, hy'] at hx
      exact slot_not_mem hfind hx
    · exact fun m hm => List.mem_append_left _ (hb.table_mem m hm)
    · exact List.mem_append_right _ (List.mem_singleton_self _)
    · exact List.forall_mem_append.mpr
        ⟨fun e he => .inr (hb.used e he), List.forall_mem_singleton.mpr (.inl rfl)⟩
    · show (b.order ++ [table]).Perm
        (root :: ((b.slots ++ [(slotOf p, table)]).map Prod.snd ++ mapped.map Mapped.frame))
      refine (List.perm_append_singleton table b.order).trans ?_
      refine (hb.perm.cons table).trans ?_
      refine (List.Perm.swap root table _).trans (.cons root ?_)
      rw [List.map_append, List.append_assoc]
      exact List.perm_middle.symm

/-- Mapping a page adds it to what the builder holds follows from. -/
lemma Made.place (hb : b.Made staged root free mapped) (h : b.place staged p = .ok b') :
    ∃ table frame, b'.Made staged root free (mapped ++ [{ page := p, table, frame }]) := by
  unfold Placing.place at h
  obtain ⟨⟨table, c⟩, htable, h⟩ := bind_eq_ok.mp h
  obtain ⟨⟨frame, d⟩, htake, h⟩ := bind_eq_ok.mp h
  cases h
  obtain ⟨hfree, hd⟩ := take_eq_ok htake
  have hc := hb.tableFor htable
  refine ⟨table, frame, ?_⟩
  rw [hd]
  refine
    { order := ?_, tables := hc.tables, keys := hc.keys, table_mem := ?_, used := ?_
      leaves := ?_, copies := ?_, placed := ?_, perm := ?_ }
  · show c.order ++ [frame] ++ d.free = root :: free
    rw [← hc.order, hfree]
    simp
  · exact List.forall_mem_append.mpr ⟨hc.table_mem, List.forall_mem_singleton.mpr hc.opened⟩
  · intro e he
    rcases hc.used e he with hslot | ⟨m, hm, hslot⟩
    · exact ⟨_, List.mem_append_right _ (List.mem_singleton_self _), hslot.symm⟩
    · exact ⟨m, List.mem_append_left _ hm, hslot⟩
  · show c.leaves ++ _ = _
    rw [hc.leaves, List.map_append]
    rfl
  · show c.copies ++ _ = _
    rw [hc.copies, List.flatMap_append, List.flatMap_singleton]
    rfl
  · show c.placed ++ _ = _
    rw [hc.placed, List.map_append]
    rfl
  · show (c.order ++ [frame]).Perm _
    refine (List.perm_append_singleton frame c.order).trans ?_
    refine (hc.perm.cons frame).trans ?_
    refine (List.Perm.swap root frame _).trans (.cons root ?_)
    rw [List.map_append, ← List.append_assoc]
    exact (List.perm_append_singleton frame _).symm

lemma Made.placeAll {ps : List PagePlan} (hb : b.Made staged root free mapped)
    (h : placeAll staged ps b = .ok b') :
    ∃ more, more.map Mapped.page = ps ∧ b'.Made staged root free (mapped ++ more) := by
  induction ps generalizing b mapped with
  | nil =>
    cases h
    exact ⟨[], rfl, by rwa [List.append_nil]⟩
  | cons p rest ih =>
    obtain ⟨c, hplace, h⟩ := bind_eq_ok.mp h
    obtain ⟨table, frame, hc⟩ := hb.place hplace
    obtain ⟨more, hmore, hb'⟩ := ih hc h
    refine ⟨{ page := p, table, frame } :: more, by rw [List.map_cons, hmore], ?_⟩
    rwa [List.append_assoc, List.singleton_append] at hb'

/-! ## Enough frames -/

/-- The slots that have a table. -/
def keySet (b : Placing) : Finset ℕ := (b.slots.map Prod.fst).toFinset

/-- The slots of some pages. -/
def slotSet (ps : List PagePlan) : Finset ℕ := (ps.map slotOf).toFinset

/-- The frames that the pages ahead take. -/
def ahead (b : Placing) (ps : List PagePlan) : ℕ := (slotSet ps \ b.keySet).card + ps.length

/-- A slot without a table takes one frame. -/
lemma card_insert_sdiff {slots keys : Finset ℕ} {k : ℕ} (h : k ∉ keys) :
    (insert k slots \ keys).card = (slots \ insert k keys).card + 1 := by
  have hsets : insert k slots \ keys = insert k (slots \ insert k keys) := by
    ext x
    by_cases hx : x = k
    · simp [hx, h]
    · simp [hx]
  rw [hsets, Finset.card_insert_of_notMem (by simp)]

lemma place_isOk (staged : ℕ) {rest : List PagePlan} (h : b.ahead (p :: rest) ≤ b.free.length) :
    ∃ b', b.place staged p = .ok b' ∧ b'.ahead rest ≤ b'.free.length := by
  have hslots : slotSet (p :: rest) = insert (slotOf p) (slotSet rest) := by
    simp [slotSet]
  unfold ahead at h
  rw [hslots, List.length_cons] at h
  unfold place Placing.tableFor
  cases hfind : b.slots.find? fun s => s.1 = slotOf p with
  | some s =>
    obtain ⟨hs, hslot⟩ := find_slot hfind
    have hmem : slotOf p ∈ b.keySet := by
      rw [keySet, List.mem_toFinset, ← hslot]
      exact List.mem_map_of_mem hs
    rw [Finset.insert_sdiff_of_mem _ hmem] at h
    cases hfree : b.free with
    | nil =>
      rw [hfree, List.length_nil] at h
      omega
    | cons frame left =>
      refine ⟨_, by simp only [bind, Except.bind, take, hfree]; rfl, ?_⟩
      rw [hfree, List.length_cons] at h
      show (slotSet rest \ b.keySet).card + rest.length ≤ left.length
      omega
  | none =>
    have hmem : slotOf p ∉ b.keySet := by
      rw [keySet, List.mem_toFinset]
      exact slot_not_mem hfind
    rw [card_insert_sdiff hmem] at h
    match hfree : b.free with
    | [] | [_] =>
      simp only [hfree, List.length_nil, List.length_singleton] at h
      omega
    | table :: frame :: left =>
      refine ⟨_, by simp only [bind, Except.bind, pure, Except.pure, take, hfree]; rfl, ?_⟩
      rw [hfree, List.length_cons, List.length_cons] at h
      have hkeys : ((b.slots ++ [(slotOf p, table)]).map Prod.fst).toFinset =
          insert (slotOf p) b.keySet := by
        ext x
        simp [keySet]
      show (slotSet rest \ ((b.slots ++ [(slotOf p, table)]).map Prod.fst).toFinset).card +
        rest.length ≤ left.length
      rw [hkeys]
      omega

/-- With enough frames, every page is mapped. -/
lemma placeAll_isOk (staged : ℕ) {ps : List PagePlan} (h : b.ahead ps ≤ b.free.length) :
    ∃ b', placeAll staged ps b = .ok b' := by
  induction ps generalizing b with
  | nil => exact ⟨b, rfl⟩
  | cons p rest ih =>
    obtain ⟨c, hc, hahead⟩ := place_isOk staged h
    obtain ⟨b', hb'⟩ := ih hahead
    exact ⟨b', bind_eq_ok.mpr ⟨c, hc, hb'⟩⟩

end Placing

/-! ## Finished address spaces -/

/-- An address space in terms of its pages. -/
structure Space.Built (config : KernelConfig) (layout : UserLayout) (boot : BootImage)
    (frames : List UInt32) (mapped : List Mapped) (s : Space) : Prop where
  pages : mapped.map Mapped.page = Os.pages boot.image layout
  order : s.frames <+: frames
  tables : s.tables = s.root :: s.slots.map Prod.snd
  keys : (s.slots.map Prod.fst).Nodup
  table_mem : ∀ m ∈ mapped, (slotOf m.page, m.table) ∈ s.slots
  used : ∀ e ∈ s.slots, ∃ m ∈ mapped, slotOf m.page = e.1
  copies : s.copies = mapped.flatMap fun m => m.copies boot.staged.toNat
  ptes : s.ptes = mapped.map Mapped.leaf ++ Space.upperPtes config s.root s.slots
  perm : s.frames.Perm (s.root :: (s.slots.map Prod.snd ++ mapped.map Mapped.frame))
  regions : regionsOf boot.image layout (mapped.map Mapped.frame) = .ok s.regions

namespace Space

variable {config : KernelConfig} {layout : UserLayout} {boot : BootImage} {frames : List UInt32}
  {mapped : List Mapped} {s : Space}

lemma built_of_build (h : build config layout boot frames = .ok s) :
    ∃ mapped, s.Built config layout boot frames mapped := by
  unfold build at h
  cases frames with
  | nil => cases h
  | cons root free =>
    obtain ⟨b, hplace, h⟩ := bind_eq_ok.mp h
    obtain ⟨regions, hregions, h⟩ := bind_eq_ok.mp h
    cases h
    have hstart : Placing.Made boot.staged.toNat root free []
        { free, tables := [root], slots := [], order := [root], leaves := [], copies := [],
          placed := [] } :=
      { order := rfl, tables := rfl, keys := .nil, table_mem := by simp, used := by simp
        leaves := rfl, copies := rfl, placed := rfl, perm := .refl _ }
    obtain ⟨mapped, hpages, hb⟩ := hstart.placeAll hplace
    rw [List.nil_append] at hb
    refine ⟨mapped,
      { pages := hpages, order := ⟨b.free, hb.order⟩, tables := hb.tables, keys := hb.keys
        table_mem := hb.table_mem, used := hb.used, copies := hb.copies, ptes := ?_
        perm := hb.perm, regions := ?_ }⟩
    · show b.leaves ++ _ = _
      rw [hb.leaves]
    · rw [← hregions, hb.placed, List.map_map]
      rfl

namespace Built

variable (h : s.Built config layout boot frames mapped)

include h

/-- The slots with a table are those that are touched. -/
lemma keys_toFinset :
    (s.slots.map Prod.fst).toFinset = ((Os.pages boot.image layout).map slotOf).toFinset := by
  ext slot
  rw [List.mem_toFinset, List.mem_toFinset, ← h.pages, List.map_map]
  constructor
  · intro hslot
    obtain ⟨e, he, rfl⟩ := List.mem_map.mp hslot
    obtain ⟨m, hm, hslot⟩ := h.used e he
    exact List.mem_map.mpr ⟨m, hm, hslot⟩
  · intro hslot
    obtain ⟨m, hm, rfl⟩ := List.mem_map.mp hslot
    exact List.mem_map_of_mem (h.table_mem m hm)

/-- An address space takes exactly the frames it needs. -/
lemma length_frames : s.frames.length = framesNeeded boot.image layout := by
  have hslots : s.slots.length = ((Os.pages boot.image layout).map slotOf).dedup.length := by
    rw [← List.card_toFinset, ← h.keys_toFinset, List.toFinset_card_of_nodup h.keys,
      List.length_map]
  have hpages : mapped.length = (Os.pages boot.image layout).length := by
    rw [← h.pages, List.length_map]
  rw [h.perm.length_eq, framesNeeded, ← hslots, ← hpages]
  simp
  omega

/-- With no frame to spare, it takes all of them. -/
lemma frames_eq (hlength : frames.length = framesNeeded boot.image layout) : s.frames = frames :=
  h.order.eq_of_length (h.length_frames.trans hlength.symm)

end Built

lemma segmentRegions_isOk {segments : List UserSegment} (h : ∀ s ∈ segments, s.pages ≠ [])
    (frames : List UInt32) : ∃ regions, segmentRegions segments frames = .ok regions := by
  induction segments generalizing frames with
  | nil => exact ⟨_, rfl⟩
  | cons s rest ih =>
    rw [List.forall_mem_cons] at h
    obtain ⟨regions, hregions⟩ := ih h.2 (frames.drop s.pages.length)
    unfold segmentRegions
    split
    · next hpages => exact absurd hpages h.1
    · exact ⟨_, by rw [hregions]; rfl⟩

/-- The builder succeeds in enough frames, if every segment has a page and there is a stack. -/
lemma build_isOk (hlength : framesNeeded boot.image layout ≤ frames.length)
    (hsegments : ∀ seg ∈ boot.image.segments, seg.pages ≠ []) (hstack : layout.stackBase.isSome) :
    ∃ s, build config layout boot frames = .ok s := by
  cases frames with
  | nil =>
    unfold framesNeeded at hlength
    rw [List.length_nil] at hlength
    omega
  | cons root free =>
    have hahead : Placing.ahead
        { free, tables := [root], slots := [], order := [root], leaves := [], copies := [],
          placed := [] } (pages boot.image layout) ≤ free.length := by
      rw [framesNeeded, List.length_cons, ← List.card_toFinset] at hlength
      unfold Placing.ahead Placing.keySet Placing.slotSet
      rw [List.map_nil, List.toFinset_nil, Finset.sdiff_empty]
      omega
    obtain ⟨b, hb⟩ := Placing.placeAll_isOk boot.staged.toNat hahead
    obtain ⟨⟨regions, left⟩, hregions⟩ :=
      segmentRegions_isOk hsegments (b.placed.map fun p => p.2.2)
    obtain ⟨va, hva⟩ := Option.isSome_iff_exists.mp hstack
    exact ⟨_, by simp only [build, hb, bind, Except.bind, regionsOf, hregions, hva]; rfl⟩

end Space

end SystemScope.Os
