import SystemScope.Rv32i.Sv32

/-!
# What Sv32 specifies

The translation of an address, as the numbers say it: an entry is a pointer or a leaf by its bits,
the walk ends at the entry of the root or at the one behind a pointer, and the leaf at its end
decides (`sv32_translate_spec`).  Pointers with `D`, `A` or `U` are reserved here, and neither `A`
nor `D` is set by the walk.
-/

namespace SystemScope.Rv32i

namespace Sv32

/-! ## Entries -/

section Entry

variable (ctx : Context) (level : UInt8) (pte : UInt32)

/-- A bit of an entry is set. -/
def Bit (i : ℕ) : Prop := pte.toNat.testBit i

/-- A valid entry: `V`, and no `W` without `R`. -/
structure IsValid : Prop where
  valid : Bit pte 0
  readable : Bit pte 2 → Bit pte 1

/-- A pointer to a table: a valid entry that allows nothing, with `U`, `A` and `D` clear. -/
structure IsPointer : Prop extends IsValid pte where
  no_read : ¬Bit pte 1
  no_execute : ¬Bit pte 3
  no_user : ¬Bit pte 4
  no_accessed : ¬Bit pte 6
  no_dirty : ¬Bit pte 7

/-- The mode may use the page. -/
def ModeFits : Prop :=
  match ctx.privilege with
  | .user => Bit pte 4
  | .supervisor => Bit pte 4 → ctx.sum ∧ ctx.access ≠ .fetch
  | .machine => True

/-- The entry allows what the access does. -/
def Permits : Prop :=
  match ctx.access with
  | .fetch => Bit pte 3
  | .load => Bit pte 1 ∨ ctx.mxr ∧ Bit pte 3
  | .store => Bit pte 2

/-- A leaf that allows the access. -/
structure Grants : Prop extends IsValid pte where
  leaf : Bit pte 1 ∨ Bit pte 3
  aligned : level = 1 → pte.toNat / 2 ^ 10 % 2 ^ 10 = 0
  mode : ModeFits ctx pte
  permits : Permits ctx pte
  accessed : Bit pte 6
  dirty : ctx.access = .store → Bit pte 7

/-- The physical address at a leaf: a megapage takes `VPN[0]` from the address. -/
def leafAddress (va : UInt32) : ℕ :=
  if level = 1 then
    pte.toNat / 2 ^ 20 * 2 ^ 22 + va.toNat / 2 ^ 12 % 2 ^ 10 * 2 ^ 12 + va.toNat % 2 ^ 12
  else pte.toNat / 2 ^ 10 * 2 ^ 12 + va.toNat % 2 ^ 12

/-- A physical address has 34 bits and the offset of the virtual one. -/
lemma leafAddress_bounds (va : UInt32) :
    leafAddress level pte va < 2 ^ 34 ∧ leafAddress level pte va % 2 ^ 12 = va.toNat % 2 ^ 12 := by
  have hpte := pte.toNat_lt
  unfold leafAddress
  split <;> omega

variable {ctx level pte}

instance {i : ℕ} : Decidable (Bit pte i) := inferInstanceAs (Decidable (_ = true))

/-- A mask of one bit is how the code tests it. -/
lemma decide_mask (i : ℕ) (hi : i < 32) :
    decide (pte &&& (1 : UInt32) <<< UInt32.ofNat i ≠ 0) = decide (Bit pte i) :=
  decide_eq_decide.mpr (pte.and_bit_ne_zero hi)

lemma userOk_iff : userOk ctx (decide (Bit pte 4)) = true ↔ ModeFits ctx pte := by
  unfold userOk ModeFits
  cases ctx.privilege with
  | user => exact decide_eq_true_iff
  | supervisor =>
    by_cases hu : Bit pte 4
    · simp [hu]
    · simp [hu]
  | machine => exact iff_of_true rfl trivial

lemma allowed_iff :
    allowed ctx (decide (Bit pte 1)) (decide (Bit pte 2)) (decide (Bit pte 3)) = true ↔
    Permits ctx pte := by
  unfold allowed Permits
  cases ctx.access with
  | fetch => exact decide_eq_true_iff
  | load => simp
  | store => exact decide_eq_true_iff

lemma ppnZero_iff : pte >>> 10 &&& 0x3FF = 0 ↔ pte.toNat / 2 ^ 10 % 2 ^ 10 = 0 := by
  have hshift : (pte >>> 10).toNat = pte.toNat / 2 ^ 10 := by
    rw [UInt32.toNat_shiftRight]
    exact Nat.shiftRight_eq_div_pow _ _
  rw [← UInt32.toNat_inj, ← hshift, ← UInt32.toNat_and_mask (pte >>> 10) 10 (by omega)]
  rfl

lemma toNat_megapage (pte va : UInt32) :
    ((pte >>> 20).toUInt64 <<< 22 ||| (va &&& 0x003FFFFF).toUInt64).toNat =
      leafAddress 1 pte va := by
  have hpage : ((pte >>> 20).toUInt64 <<< 22 ||| (va &&& 0x003FFFFF).toUInt64).toNat =
      (pte >>> 20).toNat * 2 ^ 22 + va.toNat % 2 ^ 22 :=
    page_toNat (n := 22) (by omega)
  have hshift : (pte >>> 20).toNat = pte.toNat / 2 ^ 20 := by
    rw [UInt32.toNat_shiftRight]
    exact Nat.shiftRight_eq_div_pow _ _
  rw [hpage, hshift]
  unfold leafAddress
  rw [if_pos rfl]
  omega

lemma toNat_page (pte va : UInt32) :
    ((pte >>> 10).toUInt64 <<< 12 ||| (va &&& 0xFFF).toUInt64).toNat =
      pte.toNat / 2 ^ 10 * 2 ^ 12 + va.toNat % 2 ^ 12 := by
  have hpage : ((pte >>> 10).toUInt64 <<< 12 ||| (va &&& 0xFFF).toUInt64).toNat =
      (pte >>> 10).toNat * 2 ^ 12 + va.toNat % 2 ^ 12 :=
    page_toNat (n := 12) (by omega)
  have hshift : (pte >>> 10).toNat = pte.toNat / 2 ^ 10 := by
    rw [UInt32.toNat_shiftRight]
    exact Nat.shiftRight_eq_div_pow _ _
  rw [hpage, hshift]

end Entry

/-- What a step makes of an entry. -/
lemma step_spec (ctx : Context) (va : UInt32) {level : UInt8} (hlevel : level = 0 ∨ level = 1)
    (pte : UInt32) :
    match step ctx va level pte with
    | .next table => level = 1 ∧ IsPointer pte ∧ table = pte >>> 10
    | .leaf pa => Grants ctx level pte ∧ pa.toNat = leafAddress level pte va
    | .pageFault => ¬Grants ctx level pte ∧ ¬(level = 1 ∧ IsPointer pte) := by
  have hv : decide (pte &&& pteV ≠ 0) = decide (Bit pte 0) := decide_mask 0 (by omega)
  have hr : decide (pte &&& pteR ≠ 0) = decide (Bit pte 1) := decide_mask 1 (by omega)
  have hw : decide (pte &&& pteW ≠ 0) = decide (Bit pte 2) := decide_mask 2 (by omega)
  have hx : decide (pte &&& pteX ≠ 0) = decide (Bit pte 3) := decide_mask 3 (by omega)
  have hu : decide (pte &&& pteU ≠ 0) = decide (Bit pte 4) := decide_mask 4 (by omega)
  have ha : decide (pte &&& pteA ≠ 0) = decide (Bit pte 6) := decide_mask 6 (by omega)
  have hd : decide (pte &&& pteD ≠ 0) = decide (Bit pte 7) := decide_mask 7 (by omega)
  have hdau : decide (pte &&& (pteD ||| pteA ||| pteU) ≠ 0) =
      (decide (Bit pte 7) || decide (Bit pte 6) || decide (Bit pte 4)) := by
    rw [← hd, ← ha, ← hu, ← Bool.decide_or, ← Bool.decide_or, decide_eq_decide]
    rw [Ne, UInt32.and_or_eq_zero, UInt32.and_or_eq_zero, not_and_or, not_and_or]
  unfold step
  dsimp only
  simp only [hv, hr, hw, hx, hu, ha, hd, hdau]
  split_ifs with h1 h2 h3 h4 h5 h6
  all_goals simp only [Bool.or_eq_true, Bool.and_eq_true, ← Bool.not_eq_true, Bool.not_eq_true',
    decide_eq_true_eq, not_or, not_and, not_not] at h1
  · -- not valid
    have hinvalid : ¬IsValid pte := fun h => h1.elim (· h.valid) fun hw => hw.1 (h.readable hw.2)
    exact ⟨fun h => hinvalid h.toIsValid, fun h => hinvalid h.2.toIsValid⟩
  all_goals simp only [Bool.and_eq_true, ← Bool.not_eq_true, Bool.not_eq_true', decide_eq_true_eq,
    not_and, not_not] at h2
  all_goals have hvalid : IsValid pte := ⟨h1.1, fun hw => by_contra fun hr => h1.2 hr hw⟩
  · -- a pointer at level 0, or one with a reserved bit
    simp only [Bool.or_eq_true, decide_eq_true_eq] at h3
    refine ⟨fun h => h.leaf.elim h2.1 h2.2, ?_⟩
    rintro ⟨rfl, h⟩
    rcases h3 with hzero | (hd | ha) | hu
    · exact absurd hzero (by decide)
    · exact h.no_dirty hd
    · exact h.no_accessed ha
    · exact h.no_user hu
  · -- a pointer
    simp only [Bool.or_eq_true, decide_eq_true_eq, not_or] at h3
    obtain ⟨hzero, ⟨hd, ha⟩, hu⟩ := h3
    exact ⟨hlevel.resolve_left hzero, { hvalid with
      no_read := h2.1, no_execute := h2.2, no_user := hu, no_accessed := ha, no_dirty := hd }, rfl⟩
  all_goals have hleaf : Bit pte 1 ∨ Bit pte 3 := or_iff_not_imp_left.mpr h2
  all_goals have hpointer : ¬(level = 1 ∧ IsPointer pte) := fun h =>
    hleaf.elim h.2.no_read h.2.no_execute
  · -- a megapage that is not aligned
    simp only [Bool.and_eq_true, decide_eq_true_eq, ppnZero_iff, Ne] at h4
    exact ⟨fun h => h4.2 (h.aligned h4.1), hpointer⟩
  all_goals simp only [Bool.and_eq_true, decide_eq_true_eq, ppnZero_iff, Ne, not_and, not_not] at h4
  all_goals simp only [Bool.or_eq_true, ← Bool.not_eq_true, Bool.not_eq_true', decide_eq_true_eq,
    userOk_iff, allowed_iff, not_or, not_not, Ne] at h5
  · -- a leaf that does not allow the access
    refine ⟨fun h => ?_, hpointer⟩
    rcases h5 with ((hmode | hpermits) | ha) | ⟨hstore, hd⟩
    · exact hmode h.mode
    · exact hpermits h.permits
    · exact ha h.accessed
    · exact hd (h.dirty hstore)
  all_goals obtain ⟨⟨⟨hmode, hpermits⟩, ha⟩, hd⟩ := h5
  all_goals have hgrants : Grants ctx level pte := { hvalid with
    leaf := hleaf, aligned := h4, mode := hmode, permits := hpermits, accessed := ha
    dirty := fun hstore => by_contra fun hclear => hd ⟨hstore, hclear⟩ }
  · -- a megapage
    exact ⟨hgrants, h6 ▸ toNat_megapage pte va⟩
  · -- a page
    exact ⟨hgrants, (toNat_page pte va).trans (if_neg h6).symm⟩

/-! ## Walks -/

section Walk

variable {σ : Type} (satp va : UInt32) (readPte : UInt64 → σ → Option UInt32 × σ) (s : σ)

/-- The address of the entry in the root table. -/
def rootEntry : UInt64 := UInt64.ofNat (satp.toNat % 2 ^ 22 * 4096 + va.toNat / 2 ^ 22 * 4)

/-- The address of the entry in the table behind a pointer. -/
def lowerEntry (pointer : UInt32) : UInt64 :=
  UInt64.ofNat (pointer.toNat / 2 ^ 10 * 4096 + va.toNat / 2 ^ 12 % 2 ^ 10 * 4)

/-- Where a walk ends: the level, what was read there, nothing if the bus refused, and the state in
which that left the reader. -/
inductive Ends : UInt8 → Option UInt32 → σ → Prop
  | root {entry : Option UInt32} {s' : σ} (hread : readPte (rootEntry satp va) s = (entry, s'))
      (hstop : ∀ pte, entry = some pte → ¬IsPointer pte) : Ends 1 entry s'
  | lower {pointer : UInt32} {entry : Option UInt32} {s₁ s' : σ}
      (hread : readPte (rootEntry satp va) s = (some pointer, s₁)) (hpointer : IsPointer pointer)
      (hlower : readPte (lowerEntry va pointer) s₁ = (entry, s')) : Ends 0 entry s'

variable {satp va readPte s}

/-- A walk ends in one way. -/
lemma Ends.unique {level level' : UInt8} {entry entry' : Option UInt32} {s₁ s₂ : σ}
    (h : Ends satp va readPte s level entry s₁) (h' : Ends satp va readPte s level' entry' s₂) :
    level = level' ∧ entry = entry' := by
  cases h with
  | root hread hstop =>
    cases h' with
    | root hread' =>
      rw [hread] at hread'
      cases hread'
      exact ⟨rfl, rfl⟩
    | lower hread' hpointer =>
      rw [hread] at hread'
      cases hread'
      exact absurd hpointer (hstop _ rfl)
  | lower hread hpointer hlower =>
    cases h' with
    | root hread' hstop =>
      rw [hread] at hread'
      cases hread'
      exact absurd hpointer (hstop _ rfl)
    | lower hread' _ hlower' =>
      rw [hread] at hread'
      cases hread'
      rw [hlower] at hlower'
      cases hlower'
      exact ⟨rfl, rfl⟩

/-- What the end of a walk decides. -/
def Decides (ctx : Context) (va : UInt32) (level : UInt8) :
    Option UInt32 → Except Fault UInt64 → Prop
  | none, r => r = .error .access
  | some pte, r =>
    (Grants ctx level pte ∧ ∃ pa, r = .ok pa ∧ pa.toNat = leafAddress level pte va) ∨
      ¬Grants ctx level pte ∧ r = .error .page

lemma pteAddress_root (satp va : UInt32) :
    pteAddress (satp &&& satpPpn) va (UInt8.ofNat 1) = rootEntry satp va := by
  have hppn : (satp &&& satpPpn).toNat = satp.toNat % 2 ^ 22 :=
    UInt32.toNat_and_mask satp 22 (by omega)
  have hva := va.toNat_lt
  have haddr :=
    @toNat_pteAddress (satp &&& satpPpn) _ _ _ (Nat.mod_lt _ (by decide)) (toNat_vpn_one va)
  rw [hppn, Nat.mod_eq_of_lt (a := va.toNat / 2 ^ 22) (by omega)] at haddr
  rw [← UInt64.toNat_inj]
  refine haddr.trans (UInt64.toNat_ofNat_of_lt' (show _ < 2 ^ 64 from ?_)).symm
  omega

lemma pteAddress_lower (pointer va : UInt32) :
    pteAddress (pointer >>> 10) va (UInt8.ofNat 0) = lowerEntry va pointer := by
  have hpointer := pointer.toNat_lt
  have hppn : (pointer >>> 10).toNat = pointer.toNat / 2 ^ 10 := by
    rw [UInt32.toNat_shiftRight]
    exact Nat.shiftRight_eq_div_pow _ _
  have haddr :=
    @toNat_pteAddress (pointer >>> 10) _ _ _ (Nat.mod_lt _ (by decide)) (toNat_vpn_zero va)
  rw [hppn] at haddr
  rw [← UInt64.toNat_inj]
  refine haddr.trans (UInt64.toNat_ofNat_of_lt' (show _ < 2 ^ 64 from ?_)).symm
  omega

lemma translateFrom_ends (ctx : Context) (satp va : UInt32)
    (readPte : UInt64 → σ → Option UInt32 × σ) (s : σ) :
    ∃ level entry,
      Ends satp va readPte s level entry (translateFrom ctx va readPte 1 (satp &&& satpPpn) s).2 ∧
      Decides ctx va level entry (translateFrom ctx va readPte 1 (satp &&& satpPpn) s).1 := by
  unfold translateFrom
  rw [pteAddress_root]
  cases hread : readPte (rootEntry satp va) s with
  | mk entry s₁ =>
  cases entry with
  | none => exact ⟨1, none, .root hread nofun, rfl⟩
  | some pte =>
    have hstep := @step_spec ctx va (UInt8.ofNat 1) (.inr rfl) pte
    dsimp only
    cases hdecided : step ctx va (UInt8.ofNat 1) pte with
    | leaf pa =>
      rw [hdecided] at hstep
      obtain ⟨hgrants, hpa⟩ := hstep
      refine ⟨1, some pte, .root hread ?_, .inl ⟨hgrants, pa, rfl, hpa⟩⟩
      rintro _ ⟨⟩ hpointer
      exact hgrants.leaf.elim hpointer.no_read hpointer.no_execute
    | pageFault =>
      rw [hdecided] at hstep
      refine ⟨1, some pte, .root hread ?_, .inr ⟨hstep.1, rfl⟩⟩
      rintro _ ⟨⟩ hpointer
      exact hstep.2 ⟨rfl, hpointer⟩
    | next table =>
      rw [hdecided] at hstep
      obtain ⟨-, hpointer, rfl⟩ := hstep
      dsimp only
      unfold translateFrom
      rw [pteAddress_lower]
      cases hlower : readPte (lowerEntry va pte) s₁ with
      | mk entry s₂ =>
      cases entry with
      | none => exact ⟨0, none, .lower hread hpointer hlower, rfl⟩
      | some leaf =>
        have hstep := @step_spec ctx va (UInt8.ofNat 0) (.inl rfl) leaf
        dsimp only
        refine ⟨0, some leaf, ?_⟩
        cases hdecided : step ctx va (UInt8.ofNat 0) leaf with
        | leaf pa =>
          rw [hdecided] at hstep
          exact ⟨.lower hread hpointer hlower, .inl ⟨hstep.1, pa, rfl, hstep.2⟩⟩
        | pageFault =>
          rw [hdecided] at hstep
          exact ⟨.lower hread hpointer hlower, .inr ⟨hstep.1, rfl⟩⟩
        | next table =>
          rw [hdecided] at hstep
          exact absurd hstep.1 (by decide)

end Walk

lemma mode_iff (satp : UInt32) : satp &&& satpMode = 0 ↔ ¬satp.toNat.testBit 31 :=
  not_not.symm.trans (not_congr (satp.and_bit_ne_zero (n := 31) (by omega)))

end Sv32

open Sv32 in
/-- The translation of an address is what Sv32 specifies. -/
theorem sv32_translate_spec {σ : Type} (satp : UInt32) (privilege : Privilege) (sum mxr : Bool)
    (access : Access) (va : UInt32) (readPte : UInt64 → σ → Option UInt32 × σ) (s : σ) :
    let ctx : Context := { privilege, sum, mxr, access }
    let r := sv32Translate satp privilege sum mxr access va readPte s
    ((privilege = .machine ∨ ¬satp.toNat.testBit 31) → r = (.ok va.toUInt64, s)) ∧
    (privilege ≠ .machine → satp.toNat.testBit 31 →
      (∃ level entry, Ends satp va readPte s level entry r.2) ∧
      (∀ pa, r.1 = .ok pa ↔ ∃ level pte, Ends satp va readPte s level (some pte) r.2 ∧
        Grants ctx level pte ∧ pa.toNat = leafAddress level pte va) ∧
      (r.1 = .error .access ↔ ∃ level, Ends satp va readPte s level none r.2) ∧
      (r.1 = .error .page ↔ ∃ level pte, Ends satp va readPte s level (some pte) r.2 ∧
        ¬Grants ctx level pte) ∧
      ∀ pa, r.1 = .ok pa → pa.toNat < 2 ^ 34 ∧ pa.toNat % 2 ^ 12 = va.toNat % 2 ^ 12) := by
  dsimp only
  refine ⟨fun h => ?_, fun hprivilege hmode => ?_⟩
  · exact if_pos (h.imp_right (mode_iff satp).mpr)
  · have htranslate : sv32Translate satp privilege sum mxr access va readPte s =
        translateFrom { privilege, sum, mxr, access } va readPte 1 (satp &&& satpPpn) s :=
      if_neg (not_or.mpr ⟨hprivilege, fun hzero => (mode_iff satp).mp hzero hmode⟩)
    obtain ⟨level, entry, hends, hdecides⟩ :=
      translateFrom_ends { privilege, sum, mxr, access } satp va readPte s
    rw [htranslate]
    generalize translateFrom { privilege, sum, mxr, access } va readPte 1 (satp &&& satpPpn) s = r
      at hends hdecides ⊢
    refine ⟨⟨level, entry, hends⟩, ?_⟩
    cases entry with
    | none =>
      have hresult : r.1 = .error .access := hdecides
      have hnone {level' pte} (h : Ends satp va readPte s level' (some pte) r.2) : False :=
        nomatch (hends.unique h).2
      rw [hresult]
      exact ⟨fun pa => ⟨nofun, fun ⟨_, _, h, _⟩ => (hnone h).elim⟩, iff_of_true rfl ⟨level, hends⟩,
        ⟨nofun, fun ⟨_, _, h, _⟩ => (hnone h).elim⟩, nofun⟩
    | some pte =>
      have hsome {level'} (h : Ends satp va readPte s level' none r.2) : False :=
        nomatch (hends.unique h).2
      rcases hdecides with ⟨hgrants, pa, hresult, hpa⟩ | ⟨hrefuses, hresult⟩
      · rw [hresult]
        refine ⟨fun pa' => ⟨?_, ?_⟩, ⟨nofun, fun ⟨_, h⟩ => (hsome h).elim⟩, ⟨nofun, ?_⟩, ?_⟩
        · rintro ⟨⟩
          exact ⟨level, pte, hends, hgrants, hpa⟩
        · rintro ⟨level', pte', hends', -, hpa'⟩
          obtain ⟨rfl, ⟨⟩⟩ := hends.unique hends'
          rw [UInt64.toNat_inj.mp (hpa.trans hpa'.symm)]
        · rintro ⟨level', pte', hends', hrefuses⟩
          obtain ⟨rfl, ⟨⟩⟩ := hends.unique hends'
          exact absurd hgrants hrefuses
        · rintro _ ⟨⟩
          rw [hpa]
          exact leafAddress_bounds level pte va
      · rw [hresult]
        refine ⟨fun pa => ⟨nofun, ?_⟩, ⟨nofun, fun ⟨_, h⟩ => (hsome h).elim⟩,
          iff_of_true rfl ⟨level, pte, hends, hrefuses⟩, nofun⟩
        rintro ⟨level', pte', hends', hgrants, -⟩
        obtain ⟨rfl, ⟨⟩⟩ := hends.unique hends'
        exact absurd hgrants hrefuses

end SystemScope.Rv32i
