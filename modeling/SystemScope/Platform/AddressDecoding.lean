import SystemScope.Platform.AddressBus
import SystemScope.Platform.BusConfig

/-!
# Address decoding

What the two buses accept as a memory map, and where they route an access: to the region that holds
all of its bytes (`address_decoding`).  The buses compare differently, one with the last byte of a
region and one with its size; `routeChecked` is each comparison with every overflow caught, and none
is.
-/

namespace SystemScope.Platform

open Checks

/-- Every byte of an access is in a region. -/
def Region.HoldsAll (r : Region) (first last : UInt64) : Prop :=
  ∀ byte, first.toNat ≤ byte → byte ≤ last.toNat → r.Holds byte

lemma Region.holdsAll_iff {r : Region} {first last : UInt64} (hle : first ≤ last) :
    r.HoldsAll first last ↔ r.base.toNat ≤ first.toNat ∧
      last.toNat < r.base.toNat + r.size.toNat := by
  have hle := UInt64.le_iff_toNat_le.mp hle
  constructor
  · intro h
    exact ⟨(h first.toNat (Nat.le_refl _) hle).1, (h last.toNat hle (Nat.le_refl _)).2⟩
  · intro ⟨hbase, hend⟩ byte hfirst hlast
    exact ⟨hbase.trans hfirst, Nat.lt_of_le_of_lt hlast hend⟩

/-- The number of the last byte. -/
lemma Region.Fits.last {r : Region} (h : r.Fits) :
    r.last.toNat + 1 = r.base.toNat + r.size.toNat := h.toNat_last

/-! ## The address bus -/

namespace AddressBus

/-- The regions that `new` accepts. -/
structure Accepted (regions : List Region) : Prop where
  count : regions.length < 65535
  names : regions.Pairwise fun e r => e.name ≠ r.name
  not_cpu : ∀ r ∈ regions, r.name ≠ "cpu"
  fits : ∀ r ∈ regions, r.Fits
  apart : regions.Pairwise Region.Apart

lemma checkEarlier_eq_ok {earlier : List Region} {region : Region} (hregion : region.Fits)
    (hearlier : ∀ e ∈ earlier, e.Fits) :
    checkEarlier region earlier = .ok () ↔ ∀ e ∈ earlier, e.name ≠ region.name ∧
      e.Apart region := by
  induction earlier with
  | nil => simp [checkEarlier]
  | cons e rest ih =>
    obtain ⟨he, hrest⟩ := List.forall_mem_cons.mp hearlier
    have hlast := hregion.last
    have helast := he.last
    have hoverlap : ¬(e.base ≤ region.last ∧ region.base ≤ e.last) ↔ e.Apart region := by
      unfold Region.Apart
      rw [UInt64.le_iff_toNat_le, UInt64.le_iff_toNat_le]
      omega
    unfold checkEarlier
    rw [guard_eq_ok, guard_eq_ok, hoverlap, ih hrest, List.forall_mem_cons, and_assoc]

lemma checkRegion_eq_ok {earlier : List Region} {region : Region}
    (hearlier : ∀ e ∈ earlier, e.Fits ∧ e.name ≠ "cpu") :
    checkRegion earlier region = .ok () ↔ (region.Fits ∧ region.name ≠ "cpu") ∧
      ∀ e ∈ earlier, e.name ≠ region.name ∧ e.Apart region := by
  have hzero : region.size = 0 ↔ region.size.toNat = 0 := UInt64.toNat_inj.symm
  have hfits : ¬region.size = 0 ∧ ¬2 ^ 64 ≤ region.base.toNat + (region.size - 1).toNat ↔
      region.Fits := by
    unfold Region.Fits
    by_cases hsize : region.size = 0
    · simp [hsize]
    · have hpos : 0 < region.size.toNat := Nat.pos_of_ne_zero fun h => hsize (hzero.mpr h)
      have hsub : (region.size - 1).toNat = region.size.toNat - 1 :=
        UInt64.toNat_sub_of_le _ _ (UInt64.le_iff_toNat_le.mpr hpos)
      rw [hsub]
      simp only [hsize, not_false_eq_true, true_and]
      omega
  unfold checkRegion
  rw [guard_eq_ok, guard_eq_ok, guard_eq_ok, ← and_assoc, hfits, and_assoc]
  refine and_congr_right fun hregion => and_congr_right fun _ => ?_
  exact checkEarlier_eq_ok hregion fun e he => (hearlier e he).1

/-- `new` accepts the lists of regions that are `Accepted`, and gives an idle bus. -/
lemma new_eq_ok {regions : List Region} {bus : AddressBus regions} :
    new regions = .ok bus ↔ Accepted regions ∧ bus = { outstanding := ∅ } := by
  unfold new
  rw [guard_eq_ok, bind_eq_ok]
  have hchecked := @checkedInOrder_eq_ok _ _ _ _ _ (fun _ _ => checkRegion_eq_ok) regions
  constructor
  · rintro ⟨hcount, ⟨⟩, hregions, hbus⟩
    obtain ⟨hall, hpairs⟩ := hchecked.mp hregions
    exact ⟨⟨by omega, hpairs.imp And.left, fun r hr => (hall r hr).2, fun r hr => (hall r hr).1,
      hpairs.imp And.right⟩, (pure_eq_ok.mp hbus).symm⟩
  · rintro ⟨h, rfl⟩
    have hpairs := List.pairwise_and_iff.mpr ⟨h.names, h.apart⟩
    exact ⟨by have := h.count; omega, (),
      hchecked.mpr ⟨fun r hr => ⟨h.fits r hr, h.not_cpu r hr⟩, hpairs⟩, rfl⟩

variable {regions : List Region}

lemma Accepted.region_fits (h : Accepted regions) (r : Fin regions.length) : (regions.get r).Fits :=
  h.fits _ (List.get_mem _ _)

lemma Accepted.holds_iff (h : Accepted regions) (first : UInt64) (i : Fin regions.length) :
    ((regions.get i).base ≤ first && first ≤ (regions.get i).last) = true ↔
      (regions.get i).Holds first.toNat := by
  have hlast := (h.region_fits i).last
  unfold Region.Holds
  rw [Bool.and_eq_true, decide_eq_true_iff, decide_eq_true_iff, UInt64.le_iff_toNat_le,
    UInt64.le_iff_toNat_le]
  omega

lemma route_eq_some (h : Accepted regions) {first last : UInt64} (hle : first ≤ last)
    {r : Fin regions.length} :
    route regions first last = some r ↔ (regions.get r).HoldsAll first last := by
  have hle' := UInt64.le_iff_toNat_le.mp hle
  have hfirst := h.holds_iff first
  rw [Region.holdsAll_iff hle]
  unfold route
  cases hfound : regions.findFinIdx? fun r => r.base ≤ first && first ≤ r.last with
  | none =>
    have hno := List.findFinIdx?_eq_none_iff.mp hfound _ (List.get_mem regions r)
    rw [hfirst] at hno
    unfold Region.Holds at hno
    simp only [reduceCtorEq, false_iff]
    omega
  | some i =>
    have hi := (hfirst i).mp (List.findFinIdx?_eq_some_iff.mp hfound).1
    have hlast := (h.region_fits i).last
    have hlast' : last ≤ (regions.get i).last ↔
        last.toNat < (regions.get i).base.toNat + (regions.get i).size.toNat := by
      rw [UInt64.le_iff_toNat_le]
      omega
    dsimp only
    rw [Option.ite_none_right_eq_some, hlast', Option.some.injEq]
    constructor
    · rintro ⟨hend, rfl⟩
      exact ⟨hi.1, hend⟩
    · rintro ⟨hbase, hend⟩
      obtain rfl := Region.eq_of_holds h.apart hi ⟨hbase, by omega⟩
      exact ⟨hend, rfl⟩

end AddressBus

/-! ## Overflow -/

/-- The first index that passes a check which may overflow. -/
def checkedPosition {n : ℕ} (p : Fin n → Option Bool) : Option (Option (Fin n)) :=
  (List.finRange n).findM? p

/-- Where no check overflows, and one element passes at most. -/
lemma checkedPosition_eq {α : Type} {l : List α} {p : Fin l.length → Option Bool} {q : α → Bool}
    (h : ∀ i, p i = some (q (l.get i)))
    (hunique : ∀ i j, q (l.get i) = true → q (l.get j) = true → i = j) :
    checkedPosition p = some (l.findFinIdx? q) := by
  have hfind : checkedPosition p = some ((List.finRange l.length).find? fun i => q (l.get i)) := by
    unfold checkedPosition
    rw [funext h]
    exact List.findM?_pure _ _
  rw [hfind]
  refine congrArg some (Option.ext fun i => ?_)
  rw [List.findFinIdx?_eq_some_iff]
  constructor
  · intro hfound
    have hi := List.find?_some hfound
    refine ⟨hi, fun j hlt hj => ?_⟩
    rw [hunique i j hi hj] at hlt
    exact Nat.lt_irrefl _ hlt
  · rintro ⟨hi, -⟩
    cases hfound : (List.finRange l.length).find? fun i => q (l.get i) with
    | none => exact absurd hi (List.find?_eq_none.mp hfound i (List.mem_finRange i))
    | some j =>
      have hj := List.find?_some hfound
      exact congrArg some (hunique j i hj hi)

/-- Address of the last byte of a region, with every overflow caught. -/
def Region.lastChecked (r : Region) : Option UInt64 := do checkedAdd r.base (← checkedSub r.size 1)

lemma Region.Fits.lastChecked {r : Region} (h : r.Fits) : r.lastChecked = some r.last := by
  obtain ⟨hpos, hend⟩ := h
  have hone : (1 : UInt64) ≤ r.size := UInt64.le_iff_toNat_le.mpr hpos
  have hsub : (r.size - 1).toNat = r.size.toNat - 1 := UInt64.toNat_sub_of_le _ _ hone
  unfold Region.lastChecked checkedSub checkedAdd
  rw [if_pos hone]
  exact if_pos (by rw [hsub]; omega)

/-- `AddressBus::route` with every overflow caught. -/
def AddressBus.routeChecked (regions : List Region) (first last : UInt64) :
    Option (Option (Fin regions.length)) := do
  let found ← checkedPosition fun i : Fin regions.length => do
    let r := regions.get i
    if r.base ≤ first then return decide (first ≤ (← r.lastChecked)) else return false
  match found with
  | none => return none
  | some i => return if last ≤ (← (regions.get i).lastChecked) then some i else none

/-- `MultiMasterBus::route` with every overflow caught. -/
def MultiMasterBusConfig.routeChecked (config : MultiMasterBusConfig) (first last : UInt64) :
    Option (Option config.RegionIndex) := do
  let found ← checkedPosition fun i : config.RegionIndex => do
    let r := config.regions.get i
    if r.base ≤ first then return decide ((← checkedSub first r.base) < r.size) else return false
  match found with
  | none => return none
  | some i =>
    let r := config.regions.get i
    return if (← checkedSub last r.base) < r.size then some i else none

lemma AddressBus.Accepted.routeChecked {regions : List Region} (h : Accepted regions)
    (first last : UInt64) :
    AddressBus.routeChecked regions first last = some (route regions first last) := by
  have hposition := checkedPosition_eq (l := regions)
    (p := fun i => do
      let r := regions.get i
      if r.base ≤ first then return decide (first ≤ (← r.lastChecked)) else return false)
    (q := fun r => r.base ≤ first && first ≤ r.last)
    (fun i => by
      dsimp only
      rw [(h.region_fits i).lastChecked]
      by_cases hbase : (regions.get i).base ≤ first
      · rw [if_pos hbase, decide_eq_true hbase, Bool.true_and]
        rfl
      · rw [if_neg hbase, decide_eq_false hbase, Bool.false_and]
        rfl)
    fun i j hi hj => Region.eq_of_holds h.apart ((h.holds_iff first i).mp hi)
      ((h.holds_iff first j).mp hj)
  unfold AddressBus.routeChecked route
  rw [hposition]
  dsimp only [bind, Option.bind]
  cases regions.findFinIdx? fun r => r.base ≤ first && first ≤ r.last with
  | none => rfl
  | some i =>
    dsimp only
    rw [(h.region_fits i).lastChecked]
    rfl

lemma MultiMasterBusConfig.Accepted.routeChecked {config : MultiMasterBusConfig}
    (h : config.Accepted)
    {first last : UInt64} (hle : first ≤ last) :
    config.routeChecked first last = some (config.route first last) := by
  have hholds (i : config.RegionIndex) :
      ((config.regions.get i).base ≤ first &&
        first - (config.regions.get i).base < (config.regions.get i).size) = true →
        (config.regions.get i).Holds first.toNat := by
    unfold Region.Holds
    rw [Bool.and_eq_true, decide_eq_true_iff, decide_eq_true_iff, UInt64.lt_iff_toNat_lt]
    intro ⟨hbase, hlt⟩
    rw [UInt64.toNat_sub_of_le _ _ hbase] at hlt
    have hbase := UInt64.le_iff_toNat_le.mp hbase
    omega
  have hposition := checkedPosition_eq (l := config.regions)
    (p := fun i => do
      let r := config.regions.get i
      if r.base ≤ first then return decide ((← checkedSub first r.base) < r.size) else return false)
    (q := fun r => r.base ≤ first && first - r.base < r.size)
    (fun i => by
      dsimp only
      by_cases hbase : (config.regions.get i).base ≤ first
      · rw [if_pos hbase, decide_eq_true hbase, Bool.true_and, checkedSub, if_pos hbase]
        rfl
      · rw [if_neg hbase, decide_eq_false hbase, Bool.false_and]
        rfl)
    fun i j hi hj => Region.eq_of_holds h.apart (hholds i hi) (hholds j hj)
  unfold MultiMasterBusConfig.routeChecked route
  rw [hposition]
  dsimp only [bind, Option.bind]
  cases hfound : config.regions.findFinIdx? fun r => r.base ≤ first && first - r.base < r.size with
  | none => rfl
  | some i =>
    obtain ⟨hi, -⟩ := List.findFinIdx?_eq_some_iff.mp hfound
    rw [Bool.and_eq_true, decide_eq_true_iff] at hi
    have hbase : (config.regions.get i).base ≤ last := hi.1.trans hle
    dsimp only
    rw [checkedSub, if_pos hbase]
    rfl

/-! ## Both buses -/

/-- What a region list must be for a route to be exact: the result is the one region that holds
every byte of the access, and nothing overflows on the way or in the offset. -/
structure Exact (regions : List Region) (first last : UInt64)
    (route : Option (Fin regions.length)) (checked : Option (Option (Fin regions.length))) :
      Prop where
  holds : ∀ i, route = some i ↔ (regions.get i).HoldsAll first last
  unique : ∀ i j, (regions.get i).HoldsAll first last → (regions.get j).HoldsAll first last → i = j
  checked : checked = some route
  offset : ∀ i, route = some i →
    checkedSub first (regions.get i).base = some (first - (regions.get i).base) ∧ i.val < 2 ^ 16

lemma Region.HoldsAll.unique {regions : List Region} (h : regions.Pairwise Region.Apart)
    {first last : UInt64} (hle : first ≤ last) {i j : Fin regions.length}
    (hi : (regions.get i).HoldsAll first last) (hj : (regions.get j).HoldsAll first last) : i = j :=
  have hle := UInt64.le_iff_toNat_le.mp hle
  Region.eq_of_holds h (hi first.toNat (Nat.le_refl _) hle) (hj first.toNat (Nat.le_refl _) hle)

lemma Region.HoldsAll.checkedSub {r : Region} {first last : UInt64} (hle : first ≤ last)
    (h : r.HoldsAll first last) : checkedSub first r.base = some (first - r.base) :=
  if_pos (UInt64.le_iff_toNat_le.mpr ((Region.holdsAll_iff hle).mp h).1)

/-- What the two buses accept, and where they route accesses. -/
theorem address_decoding (regions : List Region) :
    ((∃ bus, AddressBus.new regions = .ok bus) ↔ AddressBus.Accepted regions) ∧
    (∀ masters clock, (∃ bus, MultiMasterBus.new { masters, regions, clock } = .ok bus) ↔
      MultiMasterBusConfig.Accepted { masters, regions, clock }) ∧
    (AddressBus.Accepted regions → ∀ first last, first ≤ last →
      Exact regions first last (AddressBus.route regions first last)
        (AddressBus.routeChecked regions first last)) ∧
    ∀ masters clock, MultiMasterBusConfig.Accepted { masters, regions, clock } →
      ∀ first last, first ≤ last →
        Exact regions first last
          (MultiMasterBusConfig.route { masters, regions, clock } first last)
          (MultiMasterBusConfig.routeChecked { masters, regions, clock } first last) ∧
        (AddressBus.Accepted regions → AddressBus.route regions first last =
          MultiMasterBusConfig.route { masters, regions, clock } first last) := by
  refine ⟨?_, ?_, ?_, ?_⟩
  · exact ⟨fun ⟨_, h⟩ => (AddressBus.new_eq_ok.mp h).1, fun h =>
      ⟨_, AddressBus.new_eq_ok.mpr ⟨h, rfl⟩⟩⟩
  · intro masters clock
    exact ⟨fun ⟨_, h⟩ => (MultiMasterBus.new_eq_ok.mp h).1,
      fun h => ⟨_, MultiMasterBus.new_eq_ok.mpr ⟨h, rfl⟩⟩⟩
  · intro h first last hle
    have hholds (i : Fin regions.length) := AddressBus.route_eq_some h hle (r := i)
    refine ⟨hholds, fun i j => Region.HoldsAll.unique h.apart hle, h.routeChecked first last, ?_⟩
    intro i hi
    have hcount := h.count
    have hlt := i.isLt
    exact ⟨((hholds i).mp hi).checkedSub hle, by omega⟩
  · intro masters clock h first last hle
    have hholds (i : Fin regions.length) :
        MultiMasterBusConfig.route { masters, regions, clock } first last = some i ↔
          (regions.get i).HoldsAll first last :=
      (h.route_eq_some hle).trans (Region.holdsAll_iff hle).symm
    refine ⟨⟨hholds, fun i j => Region.HoldsAll.unique h.apart hle, h.routeChecked hle, ?_⟩, ?_⟩
    · intro i hi
      have hcount : masters.length + regions.length < 65535 := h.ports
      have hlt := i.isLt
      exact ⟨((hholds i).mp hi).checkedSub hle, by omega⟩
    · intro haccepted
      refine Option.ext fun i => ?_
      rw [AddressBus.route_eq_some haccepted hle, hholds]

/-- A region with the name of the upstream port is refused, whatever else is right with it. -/
theorem reserved_name_refused :
    AddressBus.new [{ name := "cpu", base := 0, size := 1 }] = .error (.reservedName "cpu") ∧
      ({ name := "cpu", base := 0, size := 1 } : Region).Fits ∧
      ([{ name := "cpu", base := 0, size := 1 }] : List Region).Pairwise
        (fun e r => e.name ≠ r.name ∧ e.Apart r) ∧
      ([{ name := "cpu", base := 0, size := 1 }] : List Region).length < 65535 := by
  refine ⟨by decide, ⟨by decide, by decide⟩, List.pairwise_singleton _ _, by decide⟩

end SystemScope.Platform
