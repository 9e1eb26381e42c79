import SystemScope.Platform.MultiMasterBus

/-!
# What a bus configuration promises

`MultiMasterBus::new` accepts exactly the configurations that are `Accepted`: few enough ports, all
of them named differently, and regions that end within the address space and share no byte.  On
such a configuration a request is routed to the region that holds all of its bytes, and there is at
most one (`route_eq_some`).
-/

namespace SystemScope.Platform

open MemV1

/-- The region has bytes, and ends within the address space. -/
def Region.Fits (r : Region) : Prop :=
  0 < r.size.toNat ∧ r.base.toNat + r.size.toNat ≤ 2 ^ 64

/-- Two regions share no byte. -/
def Region.Apart (a b : Region) : Prop :=
  a.base.toNat + a.size.toNat ≤ b.base.toNat ∨ b.base.toNat + b.size.toNat ≤ a.base.toNat

/-- The number of the last byte. -/
lemma Region.Fits.toNat_last {r : Region} (h : r.Fits) :
    (r.base + (r.size - 1)).toNat + 1 = r.base.toNat + r.size.toNat := by
  obtain ⟨hpos, hend⟩ := h
  have hone : (1 : UInt64) ≤ r.size := UInt64.le_iff_toNat_le.mpr hpos
  have hsub : (r.size - 1).toNat = r.size.toNat - 1 := UInt64.toNat_sub_of_le _ _ hone
  rw [UInt64.toNat_add, hsub, Nat.mod_eq_of_lt (by omega)]
  omega

/-- The region holds a byte. -/
def Region.Holds (r : Region) (byte : ℕ) : Prop :=
  r.base.toNat ≤ byte ∧ byte < r.base.toNat + r.size.toNat

/-- A byte is in one of several regions that share none. -/
lemma Region.eq_of_holds {regions : List Region} (h : regions.Pairwise Region.Apart)
    {i j : Fin regions.length} {byte : ℕ} (hi : (regions.get i).Holds byte)
    (hj : (regions.get j).Holds byte) : i = j := by
  have hapart : ∀ i j : Fin regions.length, i < j → (regions.get i).Apart (regions.get j) :=
    fun i j hij => List.pairwise_iff_getElem.mp h i j i.isLt j.isLt hij
  unfold Region.Holds at hi hj
  rcases lt_trichotomy i j with hlt | heq | hlt
  · have hdisjoint := hapart i j hlt
    unfold Region.Apart at hdisjoint
    omega
  · exact heq
  · have hdisjoint := hapart j i hlt
    unfold Region.Apart at hdisjoint
    omega

namespace MultiMasterBusConfig

/-- What `new` has checked of a configuration. -/
structure Accepted (config : MultiMasterBusConfig) : Prop where
  masters : 0 < config.masters.length
  ports : config.masters.length + config.regions.length < 65535
  names : (config.masters ++ config.regions.map Region.name).Nodup
  fits : ∀ r ∈ config.regions, r.Fits
  apart : config.regions.Pairwise Region.Apart

lemma checkRegions_cons {earlier rest : List Region} {region : Region}
    (hearlier : ∀ e ∈ earlier, e.Fits) :
    checkRegions earlier (region :: rest) = .ok () ↔
      region.Fits ∧ (∀ e ∈ earlier, e.Apart region) ∧
        checkRegions (earlier ++ [region]) rest = .ok () := by
  have hzero : region.size = 0 ↔ region.size.toNat = 0 := by
    rw [← UInt64.toNat_inj]
    rfl
  by_cases hsize : region.size = 0
  · have hnot : ¬region.Fits := fun h => h.1.ne' (hzero.mp hsize)
    simp [checkRegions, hsize, hnot]
  · have hpos : 0 < region.size.toNat := Nat.pos_of_ne_zero fun h => hsize (hzero.mpr h)
    have hsub : (region.size - 1).toNat = region.size.toNat - 1 :=
      UInt64.toNat_sub_of_le _ _ (UInt64.le_iff_toNat_le.mpr hpos)
    by_cases hwraps : 2 ^ 64 ≤ region.base.toNat + (region.size - 1).toNat
    · have hnot : ¬region.Fits := fun h => by
        have := h.2
        omega
      simp only [checkRegions, if_neg hsize, if_pos hwraps, hnot, false_and]
      simp
    · have hfits : region.Fits := ⟨hpos, by omega⟩
      have hlast := hfits.toNat_last
      have hoverlap : ∀ e ∈ earlier,
          (e.base ≤ region.base + (region.size - 1) && region.base ≤ e.base + (e.size - 1)) =
            true ↔ ¬e.Apart region := by
        intro e he
        have helast := (hearlier e he).toNat_last
        simp only [Bool.and_eq_true, decide_eq_true_eq, UInt64.le_iff_toNat_le, Region.Apart]
        omega
      simp only [checkRegions, if_neg hsize, if_neg hwraps, hfits, true_and]
      split
      next e hfind =>
        have hmem := List.mem_of_find?_eq_some hfind
        have hfound : (e.base ≤ region.base + (region.size - 1) &&
            region.base ≤ e.base + (e.size - 1)) = true := by
          simpa using List.find?_some hfind
        have hnot : ¬∀ e ∈ earlier, e.Apart region := fun h =>
          (hoverlap e hmem).mp hfound (h e hmem)
        simp [hnot]
      next hfind =>
        have hall : ∀ e ∈ earlier, e.Apart region := by
          intro e he
          have hno := List.find?_eq_none.mp hfind e he
          rw [hoverlap e he, not_not] at hno
          exact hno
        rw [and_iff_right hall]

lemma checkRegions_eq_ok {earlier rest : List Region} (hearlier : ∀ e ∈ earlier, e.Fits) :
    checkRegions earlier rest = .ok () ↔ (∀ r ∈ rest, r.Fits) ∧
      (∀ e ∈ earlier, ∀ r ∈ rest, e.Apart r) ∧ rest.Pairwise Region.Apart := by
  induction rest generalizing earlier with
  | nil => simp [checkRegions]
  | cons region rest ih =>
    rw [checkRegions_cons hearlier]
    by_cases hfits : region.Fits
    · have hall : ∀ e ∈ earlier ++ [region], e.Fits := by
        intro e he
        rcases List.mem_append.mp he with he | he
        · exact hearlier e he
        · rwa [List.mem_singleton.mp he]
      rw [ih hall, List.pairwise_cons, List.forall_mem_cons]
      simp only [List.mem_append, List.mem_cons]
      grind
    · simp [hfits]

end MultiMasterBusConfig

variable {config : MultiMasterBusConfig}

/-- `new` accepts the configurations that are `Accepted`, and gives an idle bus. -/
lemma MultiMasterBus.new_eq_ok {bus : MultiMasterBus config} :
    new config = .ok bus ↔ ∃ h : config.Accepted,
      bus = { regions := Vector.replicate _ (.idle h.masters), nextDownstream := 0 } := by
  unfold new
  split_ifs with hmasters hports
  · simp only [false_iff, not_exists]
    intro h
    exact absurd h.masters (by omega)
  · simp only [false_iff, not_exists]
    intro h
    exact absurd h.ports (by omega)
  · cases hnames : List.firstRepeated [] (config.masters ++ config.regions.map Region.name) with
    | some name =>
      simp only [reduceCtorEq, false_iff, not_exists]
      intro h
      have hnone : List.firstRepeated [] (config.masters ++ config.regions.map Region.name) =
          none := List.firstRepeated_eq_none.mpr ⟨h.names, by simp⟩
      rw [hnames] at hnone
      cases hnone
    | none =>
      have hnodup := (List.firstRepeated_eq_none.mp hnames).1
      cases hregions : MultiMasterBusConfig.checkRegions [] config.regions with
      | error e =>
        simp only [reduceCtorEq, false_iff, not_exists]
        intro h
        have hok : MultiMasterBusConfig.checkRegions [] config.regions = .ok () :=
          (MultiMasterBusConfig.checkRegions_eq_ok (by simp)).mpr ⟨h.fits, by simp, h.apart⟩
        rw [hregions] at hok
        cases hok
      | ok u =>
        obtain ⟨hfits, -, hapart⟩ :=
          (MultiMasterBusConfig.checkRegions_eq_ok (by simp)).mp hregions
        have haccepted : config.Accepted :=
          ⟨Nat.pos_of_ne_zero hmasters, by omega, hnodup, hfits, hapart⟩
        simp [haccepted, eq_comm]

lemma MultiMasterBus.region_new {bus : MultiMasterBus config} (h : new config = .ok bus)
    (r : config.RegionIndex) : ∃ hmasters, bus.region r = .idle hmasters := by
  obtain ⟨hconfig, rfl⟩ := new_eq_ok.mp h
  exact ⟨hconfig.masters, Vector.getElem_replicate _⟩

namespace MultiMasterBusConfig.Accepted

variable (h : config.Accepted)

include h

lemma toNat_masterPort (m : config.Master) : (config.masterPort m).toNat = m := by
  have hports := h.ports
  have hm := m.isLt
  have hlt : m.val < UInt16.size := by
    change m.val < 65536
    omega
  exact UInt16.toNat_ofNat_of_lt' hlt

lemma toNat_regionPort (r : config.RegionIndex) :
    (config.regionPort r).toNat = config.masters.length + r := by
  have hports := h.ports
  have hr := r.isLt
  have hlt : config.masters.length + r < UInt16.size := by
    change config.masters.length + r < 65536
    omega
  exact UInt16.toNat_ofNat_of_lt' hlt

lemma region_fits (r : config.RegionIndex) : (config.regions.get r).Fits :=
  h.fits _ (List.get_mem _ _)

lemma eq_of_contains {r r' : config.RegionIndex} {byte : ℕ}
    (hr : (config.regions.get r).base.toNat ≤ byte ∧
      byte < (config.regions.get r).base.toNat + (config.regions.get r).size.toNat)
    (hr' : (config.regions.get r').base.toNat ≤ byte ∧
      byte < (config.regions.get r').base.toNat + (config.regions.get r').size.toNat) :
    r = r' :=
  Region.eq_of_holds h.apart hr hr'

/-- Requests are routed to the region that holds all of their bytes. -/
lemma route_eq_some {first last : UInt64} {r : config.RegionIndex} (hle : first ≤ last) :
    config.route first last = some r ↔
      (config.regions.get r).base.toNat ≤ first.toNat ∧
        last.toNat < (config.regions.get r).base.toNat + (config.regions.get r).size.toNat := by
  have hle' := UInt64.le_iff_toNat_le.mp hle
  have hsub : ∀ (i : config.RegionIndex) (a : UInt64), (config.regions.get i).base ≤ a →
      (a - (config.regions.get i).base < (config.regions.get i).size ↔
        a.toNat < (config.regions.get i).base.toNat + (config.regions.get i).size.toNat) := by
    intro i a ha
    rw [UInt64.lt_iff_toNat_lt, UInt64.toNat_sub_of_le _ _ ha]
    have := UInt64.le_iff_toNat_le.mp ha
    omega
  have hfirst : ∀ i : config.RegionIndex,
      ((decide ((config.regions.get i).base ≤ first) &&
        decide (first - (config.regions.get i).base < (config.regions.get i).size)) = true ↔
        (config.regions.get i).base.toNat ≤ first.toNat ∧ first.toNat <
          (config.regions.get i).base.toNat + (config.regions.get i).size.toNat) := by
    intro i
    simp only [Bool.and_eq_true, decide_eq_true_eq]
    constructor
    · rintro ⟨hbase, hlt⟩
      exact ⟨UInt64.le_iff_toNat_le.mp hbase, (hsub i first hbase).mp hlt⟩
    · rintro ⟨hbase, hlt⟩
      have hbase' := UInt64.le_iff_toNat_le.mpr hbase
      exact ⟨hbase', (hsub i first hbase').mpr hlt⟩
  unfold route
  split
  next hnone =>
    simp only [reduceCtorEq, false_iff]
    rintro ⟨hbase, hlast⟩
    have hno := List.findFinIdx?_eq_none_iff.mp hnone _ (List.get_mem config.regions r)
    exact hno ((hfirst r).mpr ⟨hbase, by omega⟩)
  next i hsome =>
    have hi := (List.findFinIdx?_eq_some_iff.mp hsome).1
    have hi' := (hfirst i).mp hi
    have hbase := UInt64.le_iff_toNat_le.mpr hi'.1
    have hlast := hsub i last (hbase.trans hle)
    dsimp only
    split_ifs with hlt
    · rw [Option.some.injEq]
      constructor
      · rintro rfl
        exact ⟨hi'.1, hlast.mp hlt⟩
      · rintro ⟨hbase', hlast'⟩
        exact h.eq_of_contains hi' ⟨hbase', by omega⟩
    · simp only [false_iff]
      rintro ⟨hbase', hlast'⟩
      obtain rfl := h.eq_of_contains hi' ⟨hbase', by omega⟩
      exact hlt (hlast.mpr hlast')

end MultiMasterBusConfig.Accepted

end SystemScope.Platform
