import SystemScope.Os.Isolation
import SystemScope.Os.Syscall

/-!
# The walk of the kernel

The kernel decides an entry as the CPU does for a load in user mode (`walkStep_eq`).  In a page
table as it was built, both walks lead to the pages of the image and the stack that may be read,
each in its frame, and to nothing else (`Space.Laid.userWalk`, `Space.Laid.translate_load`).
-/

namespace SystemScope.Os

open Elf ByteMap Rv32i Sv32

/-! ## One entry -/

/-- A load in user mode. -/
def userLoad : Sv32.Context := { privilege := .user, sum := false, mxr := false, access := .load }

/-- The page number of a megapage and the index of an address below it. -/
lemma toNat_or_mega {ppn va : UInt32} (hlow : ppn &&& 0x3FF = 0) :
    (ppn ||| ((va >>> 12) &&& 0x3FF)).toNat = (ppn >>> 10).toNat * 2 ^ 10 + Placing.vpn0 va := by
  have hindex : ((va >>> 12) &&& 0x3FF).toNat = Placing.vpn0 va := toNat_vpn_zero va
  have hmod : ppn.toNat % 2 ^ 10 = 0 := by
    rw [← UInt32.toNat_and_mask ppn 10 (by omega)]
    exact congrArg UInt32.toNat hlow
  have hshift : (ppn >>> 10).toNat = ppn.toNat / 2 ^ 10 := by
    rw [UInt32.toNat_shiftRight]
    exact Nat.shiftRight_eq_div_pow _ _
  have hppn : ppn.toNat = ppn.toNat / 2 ^ 10 * 2 ^ 10 := by omega
  rw [UInt32.toNat_or, hindex, hshift]
  conv_lhs => rw [hppn]
  rw [Nat.mul_comm, ← Nat.two_pow_add_eq_or_of_lt (vpn0_lt va)]

lemma megaPage_toNat {pte va : UInt32} (hlow : pte >>> 10 &&& 0x3FF = 0) :
    ((pte >>> 20).toUInt64 <<< 22 ||| (va &&& 0x003FFFFF).toUInt64).toNat =
      (pte >>> 10 ||| ((va >>> 12) &&& 0x3FF)).toNat * pageBytes + va.toNat % pageBytes := by
  have hmask : (va &&& 0x003FFFFF).toNat = va.toNat % 2 ^ 22 :=
    UInt32.toNat_and_mask va 22 (by omega)
  have hpte := pte.toNat_lt
  have hshift : (pte >>> 10 >>> 10).toNat = pte.toNat / 2 ^ 20 := by
    rw [UInt32.toNat_shiftRight, UInt32.toNat_shiftRight]
    change pte.toNat >>> 10 >>> 10 = _
    rw [Nat.shiftRight_eq_div_pow, Nat.shiftRight_eq_div_pow]
    omega
  have hshift' : (pte >>> 20).toNat = pte.toNat / 2 ^ 20 := by
    rw [UInt32.toNat_shiftRight]
    exact Nat.shiftRight_eq_div_pow _ _
  have h : ((pte >>> 20).toUInt64 <<< UInt64.ofNat 22 ||| (va &&& 0x003FFFFF).toUInt64).toNat =
      (pte >>> 20).toNat * 2 ^ 22 + (va &&& 0x003FFFFF).toNat :=
    UInt32.toNat_shiftLeft_or (by omega) (by rw [hshift']; omega) (by rw [hmask]; omega)
  rw [toNat_or_mega hlow, hshift]
  rw [hmask, hshift'] at h
  refine h.trans ?_
  unfold Placing.vpn0 pageBytes
  omega

/-- The kernel decides an entry as the CPU does for a load in user mode. -/
theorem walkStep_eq (pte va : UInt32) {level : UInt8} (hlevel : level = 0 ∨ level = 1) :
    match step userLoad va level pte with
    | .next table => walkStep pte level va = .next table
    | .leaf pa => ∃ ppn, walkStep pte level va = .page ppn ∧
        pa.toNat = ppn.toNat * pageBytes + va.toNat % pageBytes
    | .pageFault => walkStep pte level va = .fault := by
  have hv : pteV = Pte.v := rfl
  have hr : pteR = Pte.r := rfl
  have hw : pteW = Pte.w := rfl
  have hx : pteX = Pte.x := rfl
  have hu : pteU = Pte.u := rfl
  have ha : pteA = Pte.a := rfl
  have hd : pteD = Pte.d := rfl
  have hppn : (pte >>> 10).toNat < 2 ^ 22 := by
    have hpte := pte.toNat_lt
    rw [UInt32.toNat_shiftRight]
    change pte.toNat >>> 10 < _
    rw [Nat.shiftRight_eq_div_pow]
    omega
  unfold step walkStep userLoad userOk allowed
  have hrx : pte &&& (Pte.r ||| Pte.x) = 0 ↔ _ := UInt32.and_or_eq_zero
  simp only [hv, hr, hw, hx, hu, ha, hd, hrx]
  by_cases h1 : pte &&& Pte.v = 0
  · simp [h1]
  by_cases h2 : pte &&& Pte.r = 0
  · by_cases h3 : pte &&& Pte.w = 0
    · by_cases h4 : pte &&& Pte.x = 0
      · rcases hlevel with rfl | rfl
        · simp [h1, h2, h3, h4]
        · by_cases h5 : pte &&& (Pte.d ||| Pte.a ||| Pte.u) = 0
          · simp [h1, h2, h3, h4, h5]
          · simp [h1, h2, h3, h4, h5]
      · simp [h1, h2, h3, h4]
    · simp [h1, h2, h3]
  by_cases h5 : pte &&& Pte.u = 0
  · simp [h1, h2, h5]
  by_cases h6 : pte &&& Pte.a = 0
  · simp [h1, h2, h6]
  rcases hlevel with rfl | rfl
  · simpa [h1, h2, h5, h6] using @leafAddr_toNat va _ hppn
  · by_cases hlow : pte >>> 10 &&& 0x3FF = 0
    · simpa [h1, h2, h5, h6, hlow] using @megaPage_toNat _ va hlow
    · simp [h1, h2, h5, h6, hlow]

lemma pteAddress_one (table va : UInt32) :
    Os.pteAddress table va 1 = entryAddr table (vpn1 va.toNat) := by
  have hva := va.toNat_lt
  have hindex : (va >>> 22).toNat = vpn1 va.toNat := by
    rw [UInt32.toNat_shiftRight]
    change va.toNat >>> 22 = va.toNat / 2 ^ 22 % 2 ^ 10
    rw [Nat.shiftRight_eq_div_pow, Nat.mod_eq_of_lt (by omega)]
  unfold Os.pteAddress entryAddr
  rw [if_pos rfl, hindex]

lemma pteAddress_zero (table va : UInt32) :
    Os.pteAddress table va 0 = entryAddr table (Placing.vpn0 va) := by
  unfold Os.pteAddress entryAddr
  rw [if_neg (by decide)]
  exact congrArg (table.toNat * pageBytes + 4 * ·) (toNat_vpn_zero va)

/-! ## The walk in a page table as it was built -/

namespace Space.Laid

variable {config : KernelConfig} {layout : UserLayout} {boot : BootImage} {frames : List UInt32}
  {mapped : List Mapped} {s : Space} {m : ByteMap}
  (h : s.Laid config layout boot frames mapped) (hbuilt : s.AsBuilt m) (va : UInt32)

include h hbuilt

/-- What the CPU makes of the entries of an address, for a load in user mode. -/
lemma user_steps :
    (∃ p ∈ mapped, OnPage p.page va ∧ p.page.perms.read ∧
        step userLoad va 1 (entryIn m s.root (vpn1 va.toNat)) = .next p.table ∧
        ∃ pa, step userLoad va 0 (entryIn m p.table (Placing.vpn0 va)) = .leaf pa ∧
          pa.toNat = p.frame.toNat * pageBytes + va.toNat % pageBytes) ∨
      (¬∃ p ∈ mapped, OnPage p.page va ∧ p.page.perms.read) ∧
        (step userLoad va 1 (entryIn m s.root (vpn1 va.toNat)) = .pageFault ∨
          ∃ t ∈ s.tables, step userLoad va 1 (entryIn m s.root (vpn1 va.toNat)) = .next t ∧
            step userLoad va 0 (entryIn m t (Placing.vpn0 va)) = .pageFault) := by
  by_cases hpage : ∃ p ∈ mapped, OnPage p.page va
  · obtain ⟨p, hp, hon⟩ := hpage
    obtain ⟨h1, h0⟩ := (onPage_iff (h.page_aligned hp)).mp hon
    have hroot := h.pointer_entry hbuilt hp
    rw [show slotOf p.page = vpn1 va.toNat from h1] at hroot
    have hleaf := h.leaf_entry hbuilt hp
    rw [h0] at hleaf
    have htable := h.built.table_mem_tables hp
    rw [hroot, step_pointer (h.table_lt htable)]
    have hstep := @step_userLeaf userLoad va _ _ (h.page_lt hp) (h.page_perms hp) rfl
    rw [← hleaf] at hstep
    by_cases hread : p.page.perms.read
    · rw [if_pos ⟨rfl, hread⟩] at hstep
      exact .inl ⟨p, hp, hon, hread, rfl, _, hstep, leafAddr_toNat (h.page_lt hp)⟩
    · rw [if_neg fun hall => hread hall.2] at hstep
      refine .inr ⟨?_, .inr ⟨p.table, htable, rfl, hstep⟩⟩
      rintro ⟨q, hq, honq, hreadq⟩
      obtain ⟨h1', h0'⟩ := (onPage_iff (h.page_aligned hq)).mp honq
      have hva := eq_of_indices (h.page_aligned hp) (h.page_aligned hq) (h1.trans h1'.symm)
        (h0.trans h0'.symm)
      obtain rfl := h.page_inj hp hq hva
      exact hread hreadq
  · refine .inr ⟨fun ⟨p, hp, hon, _⟩ => hpage ⟨p, hp, hon⟩, ?_⟩
    rcases h.root_entry hbuilt (vpn1_lt va.toNat) with hzero | ⟨u, hu, hslot, hentry⟩
    · exact .inl (by rw [hzero, step_zero])
    · rcases h.upper_cases hu with
        ⟨t, ht, hslots, hptr⟩ | ⟨-, base, flags, hvalue, hbase, hmod, hlt, hflags, hr, huser, -⟩
      · have htable : t ∈ s.tables := by
          rw [h.built.tables]
          exact List.mem_cons_of_mem _ ht
        refine .inr ⟨t, htable, by rw [hentry, hptr, step_pointer (h.table_lt htable)], ?_⟩
        rcases h.table_entry hbuilt ht (vpn0_lt va) with hzero | ⟨p, hp, hpt, hindex, -⟩
        · rw [hzero, step_zero]
        · have hmem := h.built.table_mem p hp
          rw [hpt] at hmem
          have htables := (List.nodup_append.mp (List.nodup_cons.mp (h.built.nodup h.nodup)).2).1
          have heq := List.inj_on_of_nodup_map htables hmem hslots rfl
          refine absurd ⟨p, hp, (onPage_iff (h.page_aligned hp)).mpr ⟨?_, hindex⟩⟩ hpage
          exact (Prod.mk.inj heq).1.trans hslot
      · left
        have hvpn : vpn1 va.toNat = vpn1 base := hslot.symm.trans hbase
        obtain ⟨hnext, hleaf⟩ := @step_mega_leaf userLoad va _ _ hmod hlt hflags hr huser hvpn
        rw [hentry, hvalue]
        cases hstep : step userLoad va 1 (Pte.entry (UInt32.ofNat (base / pageBytes)) flags) with
        | next t => exact absurd hstep (hnext t)
        | leaf pa => exact absurd rfl (hleaf pa hstep).1
        | pageFault => rfl

/-- The walk of the kernel: to the frame of the page of the address, if it may be read. -/
lemma userWalk :
    (∃ p ∈ mapped, OnPage p.page va ∧ p.page.perms.read ∧
        walkStep (entryIn m s.root (vpn1 va.toNat)) 1 va = .next p.table ∧
        walkStep (entryIn m p.table (Placing.vpn0 va)) 0 va = .page p.frame) ∨
      (¬∃ p ∈ mapped, OnPage p.page va ∧ p.page.perms.read) ∧
        (walkStep (entryIn m s.root (vpn1 va.toNat)) 1 va = .fault ∨
          ∃ t ∈ s.tables, walkStep (entryIn m s.root (vpn1 va.toNat)) 1 va = .next t ∧
            walkStep (entryIn m t (Placing.vpn0 va)) 0 va = .fault) := by
  have hone := walkStep_eq (entryIn m s.root (vpn1 va.toNat)) va (.inr rfl)
  have hzero (t : UInt32) := walkStep_eq (entryIn m t (Placing.vpn0 va)) va (.inl rfl)
  rcases h.user_steps hbuilt va with ⟨p, hp, hon, hread, hroot, pa, hleaf, hpa⟩
    | ⟨hnone, hroot | ⟨t, ht, hroot, hleaf⟩⟩
  · rw [hroot] at hone
    have hzero := hzero p.table
    rw [hleaf] at hzero
    obtain ⟨ppn, hstep, haddr⟩ := hzero
    have hppn : ppn = p.frame := by
      rw [← UInt32.toNat_inj]
      unfold pageBytes at *
      omega
    exact .inl ⟨p, hp, hon, hread, hone, hppn ▸ hstep⟩
  · rw [hroot] at hone
    exact .inr ⟨hnone, .inl hone⟩
  · rw [hroot] at hone
    have hzero := hzero t
    rw [hleaf] at hzero
    exact .inr ⟨hnone, .inr ⟨t, ht, hone, hzero⟩⟩

/-- The walk of the CPU for a load in user mode. -/
lemma translate_load :
    (∃ p ∈ mapped, OnPage p.page va ∧ p.page.perms.read ∧ ∃ pa,
        translateIn m s.root .user false false .load va = .ok pa ∧
          pa.toNat = p.frame.toNat * pageBytes + va.toNat % pageBytes) ∨
      (¬∃ p ∈ mapped, OnPage p.page va ∧ p.page.perms.read) ∧
        translateIn m s.root .user false false .load va = .error .page := by
  have hwalk := translateIn_eq (m := m) (h.table_lt h.built.root_mem)
    (show Privilege.user ≠ .machine by decide) false false .load va
  rw [show ({ privilege := .user, sum := false, mxr := false, access := .load } : Sv32.Context) =
    userLoad from rfl] at hwalk
  rcases h.user_steps hbuilt va with ⟨p, hp, hon, hread, hroot, pa, hleaf, hpa⟩
    | ⟨hnone, hroot | ⟨t, ht, hroot, hleaf⟩⟩
  · rw [hroot] at hwalk
    dsimp only at hwalk
    rw [hleaf] at hwalk
    exact .inl ⟨p, hp, hon, hread, pa, hwalk, hpa⟩
  · rw [hroot] at hwalk
    exact .inr ⟨hnone, hwalk⟩
  · rw [hroot] at hwalk
    dsimp only at hwalk
    rw [hleaf] at hwalk
    exact .inr ⟨hnone, hwalk⟩

end Space.Laid

end SystemScope.Os
