import SystemScope.Os.PageTable

/-!
# What a finished address space translates

The page table that a creation leaves, walked by the CPU: in user mode the pages of the image and
the stack, each to a frame of its own; in supervisor mode the two megapages, each to itself
(`Space.translates`).
-/

namespace SystemScope.Os

open Elf ByteMap Rv32i Sv32

/-- The address lies on the page. -/
def OnPage (p : PagePlan) (va : UInt32) : Prop :=
  p.va.toNat ≤ va.toNat ∧ va.toNat < p.va.toNat + pageBytes

/-- An address lies on a page exactly when its indices are those of the page. -/
lemma onPage_iff {p : PagePlan} {va : UInt32} (haligned : p.va.toNat % pageBytes = 0) :
    OnPage p va ↔ vpn1 p.va.toNat = vpn1 va.toNat ∧ Placing.vpn0 p.va = Placing.vpn0 va := by
  have hva := va.toNat_lt
  have hp := toNat_of_aligned haligned
  have hp1 := vpn1_lt p.va.toNat
  have hp0 := vpn0_lt p.va
  unfold OnPage pageBytes
  constructor
  · intro hon
    unfold vpn1 Placing.vpn0 at *
    omega
  · rintro ⟨h1, h0⟩
    rw [h1, h0] at hp
    unfold vpn1 Placing.vpn0 at *
    omega

namespace Space.Sound

variable {config : KernelConfig} {layout : UserLayout} {boot : BootImage} {frames : List UInt32}
  {mapped : List Mapped} {s : Space} {m : ByteMap}
  (h : s.Sound config layout boot frames mapped)

include h

/-! ## The translations -/

variable {privilege : Privilege} (hprivilege : privilege ≠ .machine) (sum : Bool)
  (access : Rv32i.Access) {va : UInt32}

include hprivilege

/-- An address on a page translates to the frame of the page, for whoever may use a user page with
its permissions. -/
lemma translate_page {p : Mapped} (hp : p ∈ mapped) (hon : OnPage p.page va) :
    translateIn (m.after s.effect s.accesses) s.root privilege sum false access va =
      if userOk { privilege, sum, mxr := false, access } true ∧ Allows p.page.perms access then
        .ok (p.frame.toUInt64 <<< 12 ||| (va &&& 0xFFF).toUInt64)
      else .error .page := by
  obtain ⟨h1, h0⟩ := (onPage_iff (h.page_aligned hp)).mp hon
  have hroot := h.pointer_entry (h.asBuilt m) hp
  rw [show slotOf p.page = vpn1 va.toNat from h1] at hroot
  have hleaf := h.leaf_entry (h.asBuilt m) hp
  rw [h0] at hleaf
  rw [translateIn_eq (h.table_lt h.built.root_mem) hprivilege, hroot,
    step_pointer (h.table_lt (h.built.table_mem_tables hp))]
  dsimp only
  rw [hleaf, step_userLeaf (h.page_lt hp) (h.page_perms hp) rfl]
  by_cases hok : userOk { privilege, sum, mxr := false, access } true ∧ Allows p.page.perms access
  · rw [if_pos hok, if_pos hok]
  · rw [if_neg hok, if_neg hok]

omit hprivilege in
/-- In user mode exactly the pages translate, as their permissions allow. -/
lemma translate_user_iff {pa : UInt64} :
    translateIn (m.after s.effect s.accesses) s.root .user sum false access va = .ok pa ↔
      ∃ p ∈ mapped, OnPage p.page va ∧ Allows p.page.perms access ∧
        pa.toNat = p.frame.toNat * pageBytes + va.toNat % pageBytes := by
  have huser : Privilege.user ≠ .machine := by decide
  constructor
  · intro hwalk
    rcases h.walk_cases h.perFrame_le (Nat.le_refl _) huser hwalk with
      ⟨hne, -⟩ | ⟨-, p, hp, h1, h0, hpa⟩
    · exact absurd rfl hne
    · have hon := (onPage_iff (h.page_aligned hp)).mpr ⟨h1, h0⟩
      rw [h.translate_page huser sum access hp hon] at hwalk
      by_cases hallows : Allows p.page.perms access
      · exact ⟨p, hp, hon, hallows, hpa⟩
      · rw [if_neg fun hall => hallows hall.2] at hwalk
        cases hwalk
  · rintro ⟨p, hp, hon, hallows, hpa⟩
    rw [h.translate_page huser sum access hp hon, if_pos ⟨rfl, hallows⟩]
    congr 1
    rw [← UInt64.toNat_inj, leafAddr_toNat (h.page_lt hp), hpa]

variable (hslots : vpn1 (kernelMegapage config) ≠ vpn1 Os.mmioMegapage)

include hslots

/-- How an address of a megapage of the kernel translates. -/
lemma translate_mega {base : ℕ} {entry : UInt32} {x : Bool} {pa : UInt64}
    (hu : (vpn1 base, entry) ∈ upper config s.slots) (hslot : vpn1 va.toNat = vpn1 base)
    (hstep : step { privilege, sum, mxr := false, access } va 1 entry =
      if userOk { privilege, sum, mxr := false, access } false ∧ (access = .fetch → x) then .leaf pa
      else .pageFault) :
    translateIn (m.after s.effect s.accesses) s.root privilege sum false access va =
      if userOk { privilege, sum, mxr := false, access } false ∧ (access = .fetch → x) then .ok pa
      else .error .page := by
  have hroot := h.upper_entry (h.asBuilt m) hslots hu
  rw [← hslot] at hroot
  rw [translateIn_eq (h.table_lt h.built.root_mem) hprivilege, hroot, hstep]
  split_ifs <;> rfl

/-- An address of the kernel megapage translates to itself, for whoever may use a page that is not a
user page. -/
lemma translate_kernel (hslot : vpn1 va.toNat = vpn1 (kernelMegapage config)) :
    ∃ pa : UInt64, pa.toNat = va.toNat ∧
      translateIn (m.after s.effect s.accesses) s.root privilege sum false access va =
        if userOk { privilege, sum, mxr := false, access } false then .ok pa else .error .page := by
  have hu : (vpn1 (kernelMegapage config),
      Pte.kernelMegapage (UInt32.ofNat (kernelMegapage config / pageBytes))) ∈
        upper config s.slots := List.mem_append_right _ List.mem_cons_self
  obtain ⟨pa, hpa, hstep⟩ := step_mega h.valid.mega_aligned h.kernelMegapage_lt
    (show (Pte.v ||| Pte.r ||| Pte.w ||| Pte.x ||| Pte.g ||| Pte.a ||| Pte.d).toNat < 2 ^ 10
      by decide)
    (by decide) (by decide) (by decide) (show _ = true by decide) (by decide) (by decide)
      (by decide)
    (show ({ privilege, sum, mxr := false, access } : Sv32.Context).mxr = false from rfl) hslot
  refine ⟨pa, hpa, (h.translate_mega hprivilege sum access hslots hu hslot hstep).trans ?_⟩
  simp

/-- An address of the MMIO megapage translates to itself, except for a fetch. -/
lemma translate_mmio (hslot : vpn1 va.toNat = vpn1 Os.mmioMegapage) :
    ∃ pa : UInt64, pa.toNat = va.toNat ∧
      translateIn (m.after s.effect s.accesses) s.root privilege sum false access va =
        if userOk { privilege, sum, mxr := false, access } false ∧ access ≠ .fetch then .ok pa
        else .error .page := by
  have hu : (vpn1 Os.mmioMegapage,
      Pte.mmioMegapage (UInt32.ofNat (Os.mmioMegapage / pageBytes))) ∈
        upper config s.slots :=
    List.mem_append_right _ (List.mem_cons_of_mem _ (List.mem_singleton_self _))
  obtain ⟨pa, hpa, hstep⟩ := step_mega (show Os.mmioMegapage % megapage = 0 by decide) (by decide)
    (show (Pte.v ||| Pte.r ||| Pte.w ||| Pte.g ||| Pte.a ||| Pte.d).toNat < 2 ^ 10 by decide)
    (by decide) (by decide) (by decide) (show _ = false by decide) (by decide) (by decide)
      (by decide)
    (show ({ privilege, sum, mxr := false, access } : Sv32.Context).mxr = false from rfl) hslot
  refine ⟨pa, hpa, (h.translate_mega hprivilege sum access hslots hu hslot hstep).trans ?_⟩
  simp

omit hprivilege in
/-- In supervisor mode without `SUM` exactly the megapages translate, each to itself. -/
lemma translate_supervisor_iff {pa : UInt64} :
    translateIn (m.after s.effect s.accesses) s.root .supervisor false false access va = .ok pa ↔
      pa.toNat = va.toNat ∧ (vpn1 va.toNat = vpn1 (kernelMegapage config) ∨
        vpn1 va.toNat = vpn1 Os.mmioMegapage ∧ access ≠ .fetch) := by
  have hsuper : Privilege.supervisor ≠ .machine := by decide
  constructor
  · intro hwalk
    rcases h.walk_cases h.perFrame_le (Nat.le_refl _) hsuper hwalk with
      ⟨-, hmega, hpa⟩ | ⟨-, p, hp, h1, h0, -⟩
    · refine ⟨hpa, ?_⟩
      unfold megapageSlots at hmega
      rcases List.mem_cons.mp hmega with hslot | hmega
      · exact .inl hslot
      · have hslot := List.mem_singleton.mp hmega
        obtain ⟨pa', -, heq⟩ := h.translate_mmio (m := m) hsuper false access hslots hslot
        rw [heq] at hwalk
        refine .inr ⟨hslot, ?_⟩
        intro hfetch
        rw [if_neg fun hall => hall.2 hfetch] at hwalk
        cases hwalk
    · have hon := (onPage_iff (h.page_aligned hp)).mpr ⟨h1, h0⟩
      rw [h.translate_page hsuper false access hp hon, if_neg (by simp [userOk])] at hwalk
      cases hwalk
  · rintro ⟨hpa, hslot | ⟨hslot, hfetch⟩⟩
    · obtain ⟨pa', hpa', heq⟩ := h.translate_kernel (m := m) hsuper false access hslots hslot
      have hok : userOk { privilege := .supervisor, sum := false, mxr := false, access } false :=
        rfl
      rw [heq, if_pos hok]
      congr 1
      rw [← UInt64.toNat_inj, hpa, hpa']
    · obtain ⟨pa', hpa', heq⟩ := h.translate_mmio (m := m) hsuper false access hslots hslot
      rw [heq, if_pos ⟨rfl, hfetch⟩]
      congr 1
      rw [← UInt64.toNat_inj, hpa, hpa']

end Space.Sound

/-- The frame of the page at an address. -/
def frameOf (mapped : List Mapped) (va : UInt32) : UInt32 :=
  ((mapped.find? fun p => p.page.va = va).map Mapped.frame).getD 0

lemma Space.Sound.frameOf_eq {config : KernelConfig} {layout : UserLayout} {boot : BootImage}
    {frames : List UInt32} {mapped : List Mapped} {s : Space}
    (h : s.Sound config layout boot frames mapped) {p : Mapped} (hp : p ∈ mapped) :
    frameOf mapped p.page.va = p.frame := by
  unfold frameOf
  cases hfind : mapped.find? fun q => q.page.va = p.page.va with
  | none =>
    rw [List.find?_eq_none] at hfind
    exact absurd (hfind p hp) (by simp)
  | some q =>
    have hva : q.page.va = p.page.va := by simpa using List.find?_some hfind
    rw [h.page_inj (List.mem_of_find?_eq_some hfind) hp hva]
    rfl

/-- What the page table of an address space means for the CPU: each page of the image and the stack
has a frame of its own, which is the one that the regions of the process name. -/
structure Space.Translates (config : KernelConfig) (layout : UserLayout) (image : UserImage)
    (frames : List UInt32) (s : Space) (m : ByteMap) : Prop where
  user : ∃ frameOf : UInt32 → UInt32,
    regionsOf image layout ((pages image layout).map fun p => frameOf p.va) = .ok s.regions ∧
    (∀ p ∈ pages image layout, frameOf p.va ∈ frames ∧ frameOf p.va ∉ s.tables) ∧
    (∀ p ∈ pages image layout, ∀ q ∈ pages image layout, frameOf p.va = frameOf q.va → p = q) ∧
    ∀ sum access va pa, translateIn m s.root .user sum false access va = .ok pa ↔
      ∃ p ∈ pages image layout, OnPage p va ∧ Allows p.perms access ∧
        pa.toNat = (frameOf p.va).toNat * pageBytes + va.toNat % pageBytes
  supervisor : ∀ access va pa,
    translateIn m s.root .supervisor false false access va = .ok pa ↔
      pa.toNat = va.toNat ∧ (vpn1 va.toNat = vpn1 (kernelMegapage config) ∨
        vpn1 va.toNat = vpn1 Os.mmioMegapage ∧ access ≠ .fetch)

/-- The address space of an accepted executable, in frames of the pool: its creation runs to its
end, whatever the memory holds, and leaves a page table that translates as it should. -/
theorem Space.translates {config : KernelConfig} {layout : UserLayout}
    (hlayout : validateLayout config layout = .ok ())
    (hslots : vpn1 (kernelMegapage config) ≠ vpn1 Os.mmioMegapage) {elfPrefix : Bytes}
    {boot : BootImage}
    (hparse : parseUserElf32 elfPrefix boot.fileLen layout.imageRange = .ok boot.image)
    (hconflict : ¬MegapageConflict boot.image config) {frames : List UInt32}
    (hlength : frames.length = framesNeeded boot.image layout)
    (hpool : ∀ f ∈ frames, InPool config f) (hascending : frames.Pairwise (· < ·)) :
    ∃ s, build config layout boot frames = .ok s ∧ s.tables ⊆ frames ∧
      ∀ stage : Stage, stage.space = some s → ∀ m, ∃ o final,
        ProcOp.exchanges config s.accesses (.new stage, m) = .ok (some (o, final)) ∧
          o.isFinished config = .ok true ∧ s.Translates config layout boot.image frames final := by
  obtain ⟨header, segments, ha⟩ := accepted_of_parse hparse
  obtain ⟨base, hbase, -⟩ := (validLayout_of_validate hlayout).stackBase
  obtain ⟨s, hbuild⟩ : ∃ s, build config layout boot frames = .ok s :=
    build_isOk hlength.ge ha.segments_pages (Option.isSome_iff_exists.mpr ⟨base, hbase⟩)
  obtain ⟨mapped, h⟩ := sound_of_parse hlayout hparse hconflict hpool hascending hbuild
  refine ⟨s, hbuild, fun t ht => h.frame_mem (h.built.mem_frames.mpr (.inl ht)), ?_⟩
  intro stage hstage m
  refine ⟨_, _, h.exchanges hstage m (Nat.le_refl _),
    ProcOp.isFinished_building hstage h.accesses_lt, ?_⟩
  have hpages : (pages boot.image layout).map (fun p => frameOf mapped p.va) =
      mapped.map Mapped.frame := by
    rw [← h.built.pages, List.map_map]
    exact List.map_congr_left fun p hp => h.frameOf_eq hp
  have hmapped {p : PagePlan} (hp : p ∈ pages boot.image layout) : ∃ q ∈ mapped, q.page = p := by
    rw [← h.built.pages] at hp
    exact List.mem_map.mp hp
  refine { user := ⟨frameOf mapped, ?_, ?_, ?_, ?_⟩, supervisor := ?_ }
  · rw [hpages]
    exact h.built.regions
  · intro p hp
    obtain ⟨q, hq, rfl⟩ := hmapped hp
    rw [h.frameOf_eq hq]
    exact ⟨h.frame_mem (h.built.mem_frames.mpr (.inr ⟨q, hq, rfl⟩)),
      fun htable => h.built.table_ne_frame h.nodup htable hq rfl⟩
  · intro p hp p' hp' heq
    obtain ⟨q, hq, rfl⟩ := hmapped hp
    obtain ⟨q', hq', rfl⟩ := hmapped hp'
    rw [h.frameOf_eq hq, h.frameOf_eq hq'] at heq
    rw [h.built.frame_inj h.nodup hq hq' heq]
  · intro sum access va pa
    rw [h.translate_user_iff sum access]
    constructor
    · rintro ⟨q, hq, hon, hallows, hpa⟩
      refine ⟨q.page, h.page_mem hq, hon, hallows, ?_⟩
      rw [h.frameOf_eq hq, hpa]
    · rintro ⟨p, hp, hon, hallows, hpa⟩
      obtain ⟨q, hq, rfl⟩ := hmapped hp
      rw [h.frameOf_eq hq] at hpa
      exact ⟨q, hq, hon, hallows, hpa⟩
  · intro access va pa
    exact h.translate_supervisor_iff access hslots

/-- The small executable, in the first frames of the pool. -/
theorem translates_small :
    ∃ s, Space.build (smallConfig 0x80000000) smallLayout smallElfBoot (smallFrames 0x80000000) =
        .ok s ∧ s.tables ⊆ smallFrames 0x80000000 ∧
      ∀ stage : Stage, stage.space = some s → ∀ m, ∃ o final,
        ProcOp.exchanges (smallConfig 0x80000000) s.accesses (.new stage, m) =
            .ok (some (o, final)) ∧
          o.isFinished (smallConfig 0x80000000) = .ok true ∧
          s.Translates (smallConfig 0x80000000) smallLayout smallElfBoot.image
            (smallFrames 0x80000000) final :=
  Space.translates (by decide +kernel) (by decide) parse_smallElf (by decide +kernel)
    (by decide +kernel) smallFrames_inPool (by decide)

end SystemScope.Os
