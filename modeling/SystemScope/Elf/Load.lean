import Mathlib.Data.List.Sort
import SystemScope.Elf.Parse
import SystemScope.Framework.Blake3
import SystemScope.Framework.Intervals
import SystemScope.Platform.RamImage

/-!
# The bare-metal loader

`load_elf32` of `elf/src/lib.rs`: the initial contents of the RAM and the entry point of the CPU,
from the bytes of an ELF file.  The file is untrusted.
-/

namespace SystemScope.Elf

open Checks

/-- A segment of the initial RAM contents. -/
structure LoadSegment where
  /-- The first byte, from the start of the RAM region. -/
  offset : UInt32
  /-- The file bytes of the segment, then zeros. -/
  bytes : Bytes
  deriving DecidableEq, Repr

/-- A program ready to run. -/
structure LoadImage where
  /-- Sorted by offset. -/
  segments : List LoadSegment
  /-- The entry point, as an absolute address. -/
  entry : UInt32
  /-- The hash of the file. -/
  imageHash : Digest
  deriving DecidableEq

/-- How loading ends without an image. -/
inductive LoadFailure
  | refused (e : ElfError)
  /-- A subtraction that wraps around. -/
  | panicked
  deriving DecidableEq, Repr

/-- A segment that was checked, before sorting. -/
structure Placed where
  index : UInt16
  offset : UInt32
  bytes : Bytes
  deriving DecidableEq, Repr

namespace Placed

variable (p : Placed)

/-- One past the last byte. -/
def «end» : ℕ := p.offset.toNat + p.bytes.length

def toSegment : LoadSegment := { offset := p.offset, bytes := p.bytes }

end Placed

/-- Bytes cut off or filled up with zeros. -/
def resize (bytes : Bytes) (n : ℕ) : Bytes :=
  (bytes ++ List.replicate (n - bytes.length) 0).take n

/-- A subtraction that must not wrap around. -/
def subtract (a b : UInt32) : Except LoadFailure UInt32 :=
  if a < b then .error .panicked else .ok (a - b)

section

variable (hash : Bytes → Digest) (elf : Bytes) (ramBase ramSize : UInt32)

/-- Checks one program header and reads its segment; nothing for one that places nothing. -/
def placeSegment (h : Header) (index : ℕ) : Except LoadFailure (Option Placed) := do
  let ph ← (programHeader elf h index).mapError .refused
  let name := UInt16.ofNat index
  let invalid := fun reason => LoadFailure.refused (.invalidSegment name reason)
  if ph.type ≠ ptLoad then return none else
  if ph.memsz < ph.filesz then .error (invalid .fileSizeExceedsMemSize) else
  if elf.length < ph.offset.toNat + ph.filesz.toNat then
    .error (invalid .fileRangeOutsideFile) else
  if ph.memsz = 0 then return none else
  if ph.vaddr ≠ ph.paddr then .error (invalid .addressMismatch) else
  if 2 ^ 32 < ph.vaddr.toNat + ph.memsz.toNat then .error (invalid .addressOverflow) else
  if ph.vaddr.toNat < ramBase.toNat ∨
      ramBase.toNat + ramSize.toNat < ph.vaddr.toNat + ph.memsz.toNat then
    .error (.refused (.segmentOutsideRam name)) else
  let bytes ← okOr (invalid .fileRangeOutsideFile)
    (Fields.bytes elf ph.offset.toNat ph.filesz.toNat)
  let offset ← subtract ph.vaddr ramBase
  return some { index := name, offset, bytes := resize bytes ph.memsz.toNat }

/-- Checks that neighbours do not overlap. -/
def checkNeighbours : List Placed → Except LoadFailure Unit
  | a :: b :: rest =>
    if b.offset.toNat < a.end then
      .error (.refused (.overlappingSegments (min a.index b.index) (max a.index b.index)))
    else checkNeighbours (b :: rest)
  | _ => .ok ()

/-- The entry point is in the memory of a segment. -/
def Placed.Inside (p : Placed) (entry : UInt32) : Prop :=
  ramBase.toNat + p.offset.toNat ≤ entry.toNat ∧ entry.toNat < ramBase.toNat + p.end

instance (p : Placed) (entry : UInt32) : Decidable (p.Inside ramBase entry) :=
  inferInstanceAs (Decidable (_ ∧ _))

/-- Loads an ELF32 RISC-V executable into a RAM region of `ramSize` bytes at `ramBase`; the hash
names the file. -/
def loadElf32 : Except LoadFailure LoadImage :=
  if ramSize = 0 ∨ 2 ^ 32 < ramBase.toNat + ramSize.toNat then .error (.refused .invalidRamRegion)
  else do
    let h ← (header elf).mapError .refused
    let found ← (List.range h.phnum.toNat).mapM (placeSegment elf ramBase ramSize h)
    let placed := (found.filterMap id).mergeSort fun a b => a.offset ≤ b.offset
    checkNeighbours placed
    if h.entry.toNat % 4 ≠ 0 then .error (.refused (.misalignedEntry h.entry)) else
    if ∀ p ∈ placed, ¬p.Inside ramBase h.entry then
      .error (.refused (.entryOutsideSegments h.entry)) else
    return { segments := placed.map Placed.toSegment, entry := h.entry
             imageHash := hash elf }

end

/-! ## What is accepted -/

/-- A byte of the memory of a segment. -/
def ProgramHeader.Covers (ph : ProgramHeader) (a : ℕ) : Prop :=
  ph.vaddr.toNat ≤ a ∧ a < ph.vaddr.toNat + ph.memsz.toNat

/-- What a loadable segment must keep, and what it must keep if it is not empty. -/
structure SegmentRules (elf : Bytes) (ramBase ramSize : UInt32) (ph : ProgramHeader) : Prop where
  filesz_le : ph.filesz ≤ ph.memsz
  in_file : ph.offset.toNat + ph.filesz.toNat ≤ elf.length
  placed : ph.memsz ≠ 0 → ph.vaddr = ph.paddr ∧ ramBase.toNat ≤ ph.vaddr.toNat ∧
    ph.vaddr.toNat + ph.memsz.toNat ≤ ramBase.toNat + ramSize.toNat

/-- The executables that are loaded. -/
structure Loadable (elf : Bytes) (ramBase ramSize : UInt32) (h : Header) : Prop where
  region : ramSize ≠ 0 ∧ ramBase.toNat + ramSize.toNat ≤ 2 ^ 32
  header : HeaderRules elf h
  segments : ∀ index ph, Loads elf h index ph → SegmentRules elf ramBase ramSize ph
  apart : ∀ i ph j ph', Loads elf h i ph → Loads elf h j ph' → i ≠ j →
    ∀ a, ¬(ph.Covers a ∧ ph'.Covers a)
  entry_aligned : h.entry.toNat % 4 = 0
  entry : ∃ index ph, Loads elf h index ph ∧ ph.Covers h.entry.toNat

/-! ## One segment -/

lemma length_resize (bytes : Bytes) (n : ℕ) : (resize bytes n).length = n := by
  rw [resize, List.length_take, List.length_append, List.length_replicate]
  omega

lemma getD_resize (bytes : Bytes) {n k : ℕ} (hk : k < n) :
    (resize bytes n).getD k 0 = bytes.getD k 0 := by
  simp only [resize, List.getD_eq_getElem?_getD, List.getElem?_take_of_lt hk]
  by_cases hlt : k < bytes.length
  · rw [List.getElem?_append_left hlt]
  · rw [List.getElem?_append_right (by omega), List.getElem?_eq_none (not_lt.mp hlt),
      List.getElem?_replicate_of_lt (by omega)]
    rfl

section

variable {elf : Bytes} {ramBase ramSize : UInt32} {h : Header} {index : ℕ} {ph : ProgramHeader}

variable (elf ramBase) in
/-- The segment of a program header, relative to the RAM. -/
def placedOf (index : ℕ) (ph : ProgramHeader) : Placed :=
  { index := UInt16.ofNat index
    offset := ph.vaddr - ramBase
    bytes := resize ((elf.drop ph.offset.toNat).take ph.filesz.toNat) ph.memsz.toNat }

variable (elf ramBase) in
/-- The segment that a program header places, if it places one. -/
def placedAt (index : ℕ) (ph : ProgramHeader) : Option Placed :=
  if ph.type = ptLoad ∧ ph.memsz ≠ 0 then some (placedOf elf ramBase index ph) else none

lemma placeSegment_eq_ok (hregion : ramBase.toNat + ramSize.toNat ≤ 2 ^ 32)
    (hph : programHeader elf h index = .ok ph) {o : Option Placed} :
    placeSegment elf ramBase ramSize h index = .ok o ↔
      (ph.type = ptLoad → SegmentRules elf ramBase ramSize ph) ∧
        o = placedAt elf ramBase index ph := by
  unfold placeSegment placedAt
  rw [hph]
  refine segmentChecks_eq_ok.trans ?_
  by_cases hload : ph.type = ptLoad ∧ ph.memsz ≠ 0
  · rw [if_pos hload, if_pos hload]
    simp only [guard_eq_ok, bind_eq_ok, okOr_eq_ok, pure_eq_ok, not_not, not_or, Nat.not_lt,
      subtract, UInt32.not_lt, Fields.bytes_eq_some]
    constructor
    · rintro ⟨hsizes, haddr, hmax, ⟨hstart, hend⟩, bytes, ⟨-, rfl⟩, offset, ⟨-, hoffset⟩, rfl⟩
      cases hoffset
      exact ⟨fun ht => ⟨(hsizes ht).1, (hsizes ht).2, fun _ => ⟨haddr, hstart, hend⟩⟩, rfl⟩
    · rintro ⟨hrules, rfl⟩
      obtain ⟨hsize, hfile, hplaced⟩ := hrules hload.1
      obtain ⟨haddr, hstart, hend⟩ := hplaced hload.2
      exact ⟨fun _ => ⟨hsize, hfile⟩, haddr, by omega, ⟨hstart, hend⟩, _, ⟨hfile, rfl⟩, _,
        ⟨UInt32.le_iff_toNat_le.mpr hstart, rfl⟩, rfl⟩
  · rw [if_neg hload, if_neg hload]
    refine and_congr_left fun _ => forall_congr' fun htype => ?_
    exact ⟨fun hsizes => ⟨hsizes.1, hsizes.2, fun hne => absurd ⟨htype, hne⟩ hload⟩,
      fun hrules => ⟨hrules.filesz_le, hrules.in_file⟩⟩

/-- Checking a program header never panics: the address is not below the RAM. -/
lemma placeSegment_yields :
    Yields (· ≠ .panicked) (fun _ => True) (placeSegment elf ramBase ramSize h index) := by
  unfold placeSegment
  refine Yields.bind (P := fun _ => True) ?_ fun ph _ => ?_
  · cases programHeader elf h index with
    | error e => exact nofun
    | ok ph => trivial
  · dsimp only
    split
    · trivial
    · refine .guard (fun _ => nofun) fun _ => .guard (fun _ => nofun) fun _ => ?_
      split
      · trivial
      · refine .guard (fun _ => nofun) fun _ => .guard (fun _ => nofun) fun _ =>
          .guard (fun _ => nofun) fun hrange => ?_
        refine Yields.bind (P := fun _ => True) ?_ fun bytes _ => ?_
        · cases Fields.bytes elf ph.offset.toNat ph.filesz.toNat with
          | none => exact nofun
          | some bytes => trivial
        · rw [not_or, Nat.not_lt] at hrange
          have hsub : subtract ph.vaddr ramBase = .ok (ph.vaddr - ramBase) :=
            if_neg fun hlt => absurd (UInt32.lt_iff_toNat_lt.mp hlt) (Nat.not_lt.mpr hrange.1)
          rw [hsub]
          trivial

end

lemma checkNeighbours_eq_ok {placed : List Placed} :
    checkNeighbours placed = .ok () ↔ placed.IsChain fun a b => a.end ≤ b.offset.toNat := by
  induction placed with
  | nil => exact ⟨fun _ => .nil, fun _ => rfl⟩
  | cons a rest ih =>
    cases rest with
    | nil => exact ⟨fun _ => List.IsChain.singleton a, fun _ => rfl⟩
    | cons b rest =>
      unfold checkNeighbours
      rw [guard_eq_ok, Nat.not_lt, List.isChain_cons_cons, ih]

lemma checkNeighbours_yields (placed : List Placed) :
    Yields (· ≠ .panicked) (fun _ => True) (checkNeighbours placed) := by
  induction placed with
  | nil => trivial
  | cons a rest ih =>
    cases rest with
    | nil => trivial
    | cons b rest => exact .guard (fun _ => nofun) fun _ => ih

/-! ## The whole file -/

section

variable (hash : Bytes → Digest) (elf : Bytes) (ramBase : UInt32) (h : Header)

/-- The segment that the program header with an index places, if it places one. -/
def placedFor (index : ℕ) : Option Placed :=
  (programHeader elf h index).toOption.bind (placedAt elf ramBase index)

/-- The segments of an executable, in the order of their program headers. -/
def placements : List Placed := (List.range h.phnum.toNat).filterMap (placedFor elf ramBase h)

/-- The image of an executable that is loaded. -/
def imageOf : LoadImage :=
  { segments := ((placements elf ramBase h).mergeSort fun a b => a.offset ≤ b.offset).map
      Placed.toSegment
    entry := h.entry, imageHash := hash elf }

end

section

variable {hash : Bytes → Digest} {elf : Bytes} {ramBase ramSize : UInt32} {h : Header} {i j : ℕ}
  {ph ph' : ProgramHeader}

lemma placedFor_eq_some {p : Placed} (hi : i < h.phnum.toNat) :
    placedFor elf ramBase h i = some p ↔
      ∃ ph, Loads elf h i ph ∧ ph.memsz ≠ 0 ∧ p = placedOf elf ramBase i ph := by
  unfold placedFor placedAt Loads
  cases hph : programHeader elf h i with
  | error e => simp [Except.toOption]
  | ok ph =>
    simp only [Except.toOption, Option.bind_some, Option.ite_none_right_eq_some, Option.some.injEq,
      Except.ok.injEq]
    constructor
    · rintro ⟨⟨htype, hempty⟩, rfl⟩
      exact ⟨ph, ⟨hi, rfl, htype⟩, hempty, rfl⟩
    · rintro ⟨_, ⟨-, rfl, htype⟩, hempty, rfl⟩
      exact ⟨⟨htype, hempty⟩, rfl⟩

lemma mem_placements {p : Placed} : p ∈ placements elf ramBase h ↔
    ∃ i ph, Loads elf h i ph ∧ ph.memsz ≠ 0 ∧ p = placedOf elf ramBase i ph := by
  unfold placements
  rw [List.mem_filterMap]
  constructor
  · rintro ⟨i, hi, hp⟩
    exact ⟨i, (placedFor_eq_some (List.mem_range.mp hi)).mp hp⟩
  · rintro ⟨i, ph, hload, hp⟩
    exact ⟨i, List.mem_range.mpr hload.1, (placedFor_eq_some hload.1).mpr ⟨ph, hload, hp⟩⟩

/-- Where the segment of a program header is. -/
lemma SegmentRules.placed_at (hrules : SegmentRules elf ramBase ramSize ph) (hne : ph.memsz ≠ 0) :
    ramBase.toNat + (placedOf elf ramBase i ph).offset.toNat = ph.vaddr.toNat ∧
      ramBase.toNat + (placedOf elf ramBase i ph).end = ph.vaddr.toNat + ph.memsz.toNat := by
  obtain ⟨-, hstart, -⟩ := hrules.placed hne
  have hoffset : (placedOf elf ramBase i ph).offset.toNat = ph.vaddr.toNat - ramBase.toNat :=
    UInt32.toNat_sub_of_le _ _ (UInt32.le_iff_toNat_le.mpr hstart)
  have hlength : (placedOf elf ramBase i ph).bytes.length = ph.memsz.toNat := length_resize _ _
  unfold Placed.end
  omega

lemma SegmentRules.covers_iff (hrules : SegmentRules elf ramBase ramSize ph) (hne : ph.memsz ≠ 0)
    {k : ℕ} : ph.Covers (ramBase.toNat + k) ↔ (placedOf elf ramBase i ph).offset.toNat ≤ k ∧
      k < (placedOf elf ramBase i ph).end := by
  obtain ⟨hstart, hend⟩ := @SegmentRules.placed_at _ _ _ i _ hrules hne
  unfold ProgramHeader.Covers
  omega

lemma ProgramHeader.Covers.ne_zero {a : ℕ} (hcovers : ph.Covers a) : ph.memsz ≠ 0 := by
  obtain ⟨hle, hlt⟩ := hcovers
  intro hzero
  rw [hzero, UInt32.toNat_zero] at hlt
  omega

lemma SegmentRules.nonempty (hrules : SegmentRules elf ramBase ramSize ph) (hne : ph.memsz ≠ 0) :
    (placedOf elf ramBase i ph).offset.toNat < (placedOf elf ramBase i ph).end := by
  obtain ⟨hstart, hend⟩ := @SegmentRules.placed_at _ _ _ i _ hrules hne
  have hpos : ph.memsz.toNat ≠ 0 := fun hzero => hne (UInt32.toNat_inj.mp hzero)
  omega

/-- Two placed segments are apart exactly if their program headers are. -/
lemma SegmentRules.apart_iff (hrules : SegmentRules elf ramBase ramSize ph) (hne : ph.memsz ≠ 0)
    (hrules' : SegmentRules elf ramBase ramSize ph') (hne' : ph'.memsz ≠ 0) :
    Intervals.Apart (fun p : Placed => p.offset.toNat) Placed.end (placedOf elf ramBase i ph)
      (placedOf elf ramBase j ph') ↔ ∀ a, ¬(ph.Covers a ∧ ph'.Covers a) := by
  constructor
  · rintro hapart a ⟨hcovers, hcovers'⟩
    obtain ⟨-, hstart, -⟩ := hrules.placed hne
    obtain ⟨k, rfl⟩ := Nat.exists_eq_add_of_le (hstart.trans hcovers.1)
    exact hapart k ⟨(hrules.covers_iff hne).mp hcovers, (hrules'.covers_iff hne').mp hcovers'⟩
  · rintro hapart k ⟨hk, hk'⟩
    exact hapart (ramBase.toNat + k)
      ⟨(hrules.covers_iff hne).mpr hk, (hrules'.covers_iff hne').mpr hk'⟩

/-- The segments are apart exactly if the program headers with different indices are. -/
lemma placements_pairwise
    (hrules : ∀ i ph, Loads elf h i ph → SegmentRules elf ramBase ramSize ph) :
    ((placements elf ramBase h).Pairwise
        (Intervals.Apart (fun p : Placed => p.offset.toNat) Placed.end)) ↔
      ∀ i ph j ph', Loads elf h i ph → Loads elf h j ph' → i ≠ j →
        ∀ a, ¬(ph.Covers a ∧ ph'.Covers a) := by
  unfold placements
  rw [Intervals.pairwise_filterMap_range]
  constructor
  · intro hpair
    have hordered : ∀ i ph j ph', Loads elf h i ph → Loads elf h j ph' → i < j →
        ∀ a, ¬(ph.Covers a ∧ ph'.Covers a) := by
      rintro i ph j ph' hload hload' hij a ⟨hcovers, hcovers'⟩
      have hne := hcovers.ne_zero
      have hne' := hcovers'.ne_zero
      have hpart := hpair i j _ _ hij hload'.1
        ((placedFor_eq_some hload.1).mpr ⟨ph, hload, hne, rfl⟩)
        ((placedFor_eq_some hload'.1).mpr ⟨ph', hload', hne', rfl⟩)
      exact ((hrules i ph hload).apart_iff hne (hrules j ph' hload') hne').mp hpart a
        ⟨hcovers, hcovers'⟩
    intro i ph j ph' hload hload' hne a hboth
    rcases Nat.lt_or_gt_of_ne hne with hij | hij
    · exact hordered i ph j ph' hload hload' hij a hboth
    · exact hordered j ph' i ph hload' hload hij a hboth.symm
  · intro hapart i j p q hij hj hp hq
    obtain ⟨ph, hload, hne, rfl⟩ := (placedFor_eq_some (hij.trans hj)).mp hp
    obtain ⟨ph', hload', hne', rfl⟩ := (placedFor_eq_some hj).mp hq
    exact ((hrules i ph hload).apart_iff hne (hrules j ph' hload') hne').mpr
      (hapart i ph j ph' hload hload' (Nat.ne_of_lt hij))

lemma inside_iff (hrules : ∀ i ph, Loads elf h i ph → SegmentRules elf ramBase ramSize ph)
    {entry : UInt32} : (∃ p ∈ placements elf ramBase h, p.Inside ramBase entry) ↔
      ∃ i ph, Loads elf h i ph ∧ ph.Covers entry.toNat := by
  have hiff : ∀ i ph, Loads elf h i ph → ph.memsz ≠ 0 →
      ((placedOf elf ramBase i ph).Inside ramBase entry ↔ ph.Covers entry.toNat) := by
    intro i ph hload hne
    obtain ⟨hstart, hend⟩ := @SegmentRules.placed_at _ _ _ i _ (hrules i ph hload) hne
    rw [Placed.Inside, hstart, hend]
    exact Iff.rfl
  constructor
  · rintro ⟨p, hp, hinside⟩
    obtain ⟨i, ph, hload, hne, rfl⟩ := mem_placements.mp hp
    exact ⟨i, ph, hload, (hiff i ph hload hne).mp hinside⟩
  · rintro ⟨i, ph, hload, hcovers⟩
    exact ⟨_, mem_placements.mpr ⟨i, ph, hload, hcovers.ne_zero, rfl⟩,
      (hiff i ph hload hcovers.ne_zero).mpr hcovers⟩

/-- Comparing neighbours finds every overlap. -/
lemma checkNeighbours_placements
    (hrules : ∀ i ph, Loads elf h i ph → SegmentRules elf ramBase ramSize ph) :
    checkNeighbours ((placements elf ramBase h).mergeSort fun a b => a.offset ≤ b.offset) = .ok () ↔
      ∀ i ph j ph', Loads elf h i ph → Loads elf h j ph' → i ≠ j →
        ∀ a, ¬(ph.Covers a ∧ ph'.Covers a) := by
  rw [checkNeighbours_eq_ok, ← placements_pairwise hrules]
  refine @Intervals.isChain_mergeSort_iff _ (fun p : Placed => p.offset.toNat) _ _ _
    (fun p : Placed => p.offset.toNat) (fun a b => ?_) (fun a b hab => hab) ?_
  · rw [decide_eq_true_iff, UInt32.le_iff_toNat_le]
  · intro p hp
    obtain ⟨i, ph, hload, hne, rfl⟩ := mem_placements.mp hp
    exact (hrules i ph hload).nonempty hne

/-- The program headers that are accepted one by one, and what they place. -/
lemma placeSegments_eq_ok (hregion : ramBase.toNat + ramSize.toNat ≤ 2 ^ 32)
    (htable : h.tableEnd ≤ elf.length) {found : List (Option Placed)} :
    (List.range h.phnum.toNat).mapM (placeSegment elf ramBase ramSize h) = .ok found ↔
      (∀ i ph, Loads elf h i ph → SegmentRules elf ramBase ramSize ph) ∧
        found = (List.range h.phnum.toNat).map (placedFor elf ramBase h) := by
  rw [mapM_eq_ok_map (P := fun i => ∀ ph, Loads elf h i ph → SegmentRules elf ramBase ramSize ph)
    (g := placedFor elf ramBase h)]
  · refine and_congr_left fun _ => ⟨fun hall i ph hload => ?_, fun hall i _ ph => hall i ph⟩
    exact hall i (List.mem_range.mpr hload.1) ph hload
  · intro i hi o
    have hi := List.mem_range.mp hi
    obtain ⟨ph, hph⟩ := programHeader_isOk htable hi
    have hplaced : placedFor elf ramBase h i = placedAt elf ramBase i ph := by
      rw [placedFor, hph]
      rfl
    rw [placeSegment_eq_ok hregion hph, hplaced]
    refine and_congr_left fun _ => ⟨fun hrules ph' hload => ?_, fun hrules htype => ?_⟩
    · cases hph.symm.trans hload.2.1
      exact hrules hload.2.2
    · exact hrules ph ⟨hi, hph, htype⟩

lemma loadElf32_eq_ok {image : LoadImage} : loadElf32 hash elf ramBase ramSize = .ok image ↔
    ∃ h, Loadable elf ramBase ramSize h ∧ image = imageOf hash elf ramBase h := by
  have hfound : ∀ h : Header,
    ((List.range h.phnum.toNat).map (placedFor elf ramBase h)).filterMap id =
      placements elf ramBase h := fun h => List.filterMap_map
  unfold loadElf32
  simp only [guard_eq_ok, bind_eq_ok, mapError_eq_ok, pure_eq_ok, header_eq_ok, not_or,
    Nat.not_lt, not_not, not_forall, exists_prop, List.mem_mergeSort]
  constructor
  · rintro ⟨hregion, h, hheader, found, hload, ⟨⟩, hneighbours, haligned, hinside, rfl⟩
    obtain ⟨hrules, rfl⟩ := (placeSegments_eq_ok hregion.2 hheader.table).mp hload
    rw [hfound] at hneighbours hinside ⊢
    exact ⟨h,
      { region := hregion, header := hheader, segments := hrules
        apart := (checkNeighbours_placements hrules).mp hneighbours
        entry_aligned := haligned, entry := (inside_iff hrules).mp hinside }, rfl⟩
  · rintro ⟨h, hload, rfl⟩
    refine ⟨hload.region, h, hload.header, _,
      (placeSegments_eq_ok hload.region.2 hload.header.table).mpr ⟨hload.segments, rfl⟩, ?_⟩
    rw [hfound]
    exact ⟨(), (checkNeighbours_placements hload.segments).mpr hload.apart, hload.entry_aligned,
      (inside_iff hload.segments).mpr hload.entry, rfl⟩

/-- Loading never panics. -/
lemma loadElf32_yields :
    Yields (· ≠ .panicked) (fun _ => True) (loadElf32 hash elf ramBase ramSize) := by
  unfold loadElf32
  refine .guard (fun _ => nofun) fun _ => Yields.bind (P := fun _ => True) ?_ fun h _ => ?_
  · cases header elf with
    | error e => exact nofun
    | ok h => trivial
  · refine Yields.bind (P := fun _ => True) (.mapM fun i _ => placeSegment_yields) fun found _ => ?_
    refine Yields.bind (P := fun _ => True) (checkNeighbours_yields _) fun _ _ => ?_
    exact .guard (fun _ => nofun) fun _ => .guard (fun _ => nofun) fun _ => trivial

/-! ## In the RAM -/

/-- The load image as the initial image of the RAM. -/
def ramImage (image : LoadImage) : Platform.RamImage :=
  { imageHash := image.imageHash
    segments := image.segments.map fun s => { offset := s.offset.toUInt64, bytes := s.bytes } }

lemma mem_ramImage {segment : Platform.Segment} :
    segment ∈ (ramImage (imageOf hash elf ramBase h)).segments ↔
      ∃ p ∈ placements elf ramBase h,
        segment = { offset := p.offset.toUInt64, bytes := p.bytes } := by
  unfold ramImage imageOf
  simp only [List.map_map, List.mem_map, List.mem_mergeSort, Function.comp_apply, eq_comm]
  exact Iff.rfl

/-- The segments are sorted, and each ends before the next begins. -/
lemma Loadable.segments_ascending (hload : Loadable elf ramBase ramSize h) :
    ((placements elf ramBase h).mergeSort fun a b => a.offset ≤ b.offset).Pairwise
      fun a b => a.end ≤ b.offset.toNat := by
  refine @Intervals.pairwise_of_isChain _ (fun p : Placed => p.offset.toNat) _ _ (fun p hp => ?_)
    (checkNeighbours_eq_ok.mp ((checkNeighbours_placements hload.segments).mpr hload.apart))
  obtain ⟨i, ph, hi, hne, rfl⟩ := mem_placements.mp (List.mem_mergeSort.mp hp)
  exact (hload.segments i ph hi).nonempty hne

/-- A byte of a segment: the one of the file, or a zero after them. -/
lemma getD_placedOf {k : ℕ} (hk : k < ph.memsz.toNat) :
    (placedOf elf ramBase i ph).bytes.getD k 0 =
      if k < ph.filesz.toNat then elf.getD (ph.offset.toNat + k) 0 else 0 := by
  unfold placedOf
  dsimp only
  rw [getD_resize _ hk]
  simp only [List.getD_eq_getElem?_getD]
  by_cases hfile : k < ph.filesz.toNat
  · rw [if_pos hfile, List.getElem?_take_of_lt hfile, List.getElem?_drop]
  · rw [if_neg hfile, List.getElem?_eq_none]
    · rfl
    · rw [List.length_take]
      omega

variable {config : Platform.RamConfig}

lemma Loadable.fits_ram (hload : Loadable elf ramBase ramSize h)
    (hsize : config.size = ramSize.toUInt64) :
    ∃ ram, Platform.Ram.new config (ramImage (imageOf hash elf ramBase h)) = .ok ram := by
  have hnat : config.size.toNat = ramSize.toNat := by rw [hsize, UInt32.toNat_toUInt64]
  have hregion := hload.region
  have hpos : ramSize.toNat ≠ 0 := fun hzero => hregion.1 (UInt32.toNat_inj.mp hzero)
  refine Platform.Ram.new_isOk_iff.mpr ⟨⟨by omega, by omega⟩, ?_, ?_⟩
  · intro segment hsegment
    obtain ⟨p, hp, rfl⟩ := mem_ramImage.mp hsegment
    obtain ⟨i, ph, hi, hne, rfl⟩ := mem_placements.mp hp
    have hend := (@SegmentRules.placed_at _ _ _ i _ (hload.segments i ph hi) hne).2
    have hin := ((hload.segments i ph hi).placed hne).2.2
    unfold Placed.end at hend
    dsimp only
    rw [UInt32.toNat_toUInt64, hnat]
    omega
  · unfold ramImage imageOf
    rw [List.map_map, List.pairwise_map]
    refine hload.segments_ascending.imp ?_
    rintro a b hab offset ⟨⟨-, hlt⟩, hle, -⟩
    unfold Placed.end at hab
    dsimp only [Function.comp_apply, Placed.toSegment] at hlt hle
    rw [UInt32.toNat_toUInt64] at hlt hle
    omega

/-- The byte of the RAM at an address of a segment. -/
lemma Loadable.contents_eq (hload : Loadable elf ramBase ramSize h) {ram : Platform.Ram config}
    (hnew : Platform.Ram.new config (ramImage (imageOf hash elf ramBase h)) = .ok ram)
    (hi : Loads elf h i ph) {a : Fin config.size.toNat} (hcovers : ph.Covers (ramBase.toNat + a)) :
    ram.contents a =
      if ramBase.toNat + a - ph.vaddr.toNat < ph.filesz.toNat then
        elf.getD (ph.offset.toNat + (ramBase.toNat + a - ph.vaddr.toNat)) 0
      else 0 := by
  have hne := hcovers.ne_zero
  have hrules := hload.segments i ph hi
  have hat := (@SegmentRules.placed_at _ _ _ i _ hrules hne).1
  obtain ⟨hle, hlt⟩ := (@SegmentRules.covers_iff _ _ _ i _ hrules hne _).mp hcovers
  obtain ⟨-, -, hapart, -⟩ := Platform.Ram.new_eq_ok hnew
  have hplaced : placedOf elf ramBase i ph ∈ placements elf ramBase h :=
    mem_placements.mpr ⟨i, ph, hi, hne, rfl⟩
  have hmem := (@mem_ramImage hash elf ramBase h _).mpr ⟨_, hplaced, rfl⟩
  have hk : a.val - (placedOf elf ramBase i ph).offset.toNat =
      ramBase.toNat + a.val - ph.vaddr.toNat := by omega
  have hend := hcovers.2
  rw [(Platform.Ram.contents_of_new hnew).2.2]
  refine (Platform.Ram.byteAt_of_covers hapart hmem ?_).trans ?_
  · show _ ∧ _
    dsimp only
    rw [UInt32.toNat_toUInt64]
    exact ⟨hle, hlt⟩
  · dsimp only
    rw [UInt32.toNat_toUInt64, hk, getD_placedOf (by omega)]

lemma Loadable.contents_eq_zero (hload : Loadable elf ramBase ramSize h) {ram : Platform.Ram config}
    (hnew : Platform.Ram.new config (ramImage (imageOf hash elf ramBase h)) = .ok ram)
    {a : Fin config.size.toNat}
    (hnone : ∀ i ph, Loads elf h i ph → ¬ph.Covers (ramBase.toNat + a)) : ram.contents a = 0 := by
  rw [(Platform.Ram.contents_of_new hnew).2.2]
  refine Platform.Ram.byteAt_of_not_covers fun segment hsegment hcovers => ?_
  obtain ⟨p, hp, rfl⟩ := mem_ramImage.mp hsegment
  obtain ⟨i, ph, hi, hne, rfl⟩ := mem_placements.mp hp
  obtain ⟨hle, hlt⟩ := hcovers
  dsimp only at hle hlt
  rw [UInt32.toNat_toUInt64] at hle hlt
  exact hnone i ph hi ((hload.segments i ph hi).covers_iff hne |>.mpr ⟨hle, hlt⟩)

end

/-! ## The loader -/

/-- **What the loader accepts, and what the RAM then holds.**  Loading never panics, and an image is
made exactly of the executables that are `Loadable`.  Its segments are not empty, sorted, and apart;
a RAM of that size is built from it, whatever its latency, and holds the bytes of the file and the
zeros after them at the addresses of the segments, and zeros everywhere else. -/
theorem load_places_executable (hash : Bytes → Digest) (elf : Bytes) (ramBase ramSize : UInt32) :
    loadElf32 hash elf ramBase ramSize ≠ .error .panicked ∧
    ((∃ image, loadElf32 hash elf ramBase ramSize = .ok image) ↔
      ∃ h, Loadable elf ramBase ramSize h) ∧
    ∀ image, loadElf32 hash elf ramBase ramSize = .ok image → ∃ h, Loadable elf ramBase ramSize h ∧
      image.entry = h.entry ∧ image.imageHash = hash elf ∧
      (∀ s ∈ image.segments, s.bytes ≠ []) ∧
      (image.segments.Pairwise fun a b => a.offset.toNat + a.bytes.length ≤ b.offset.toNat) ∧
      ∀ config : Platform.RamConfig, config.size = ramSize.toUInt64 →
        ∃ ram, Platform.Ram.new config (ramImage image) = .ok ram ∧
          (∀ index ph, Loads elf h index ph → ∀ a : Fin config.size.toNat,
            ph.Covers (ramBase.toNat + a) →
            ram.contents a =
              if ramBase.toNat + a - ph.vaddr.toNat < ph.filesz.toNat then
                elf.getD (ph.offset.toNat + (ramBase.toNat + a - ph.vaddr.toNat)) 0
              else 0) ∧
          ∀ a : Fin config.size.toNat,
            (∀ index ph, Loads elf h index ph → ¬ph.Covers (ramBase.toNat + a)) →
            ram.contents a = 0 := by
  refine ⟨fun hpanic => loadElf32_yields.of_error hpanic rfl, ?_, fun image himage => ?_⟩
  · simp only [loadElf32_eq_ok]
    constructor
    · rintro ⟨_, h, hload, -⟩
      exact ⟨h, hload⟩
    · rintro ⟨h, hload⟩
      exact ⟨_, h, hload, rfl⟩
  · obtain ⟨h, hload, rfl⟩ := loadElf32_eq_ok.mp himage
    refine ⟨h, hload, rfl, rfl, ?_, ?_, fun config hsize => ?_⟩
    · intro s hs
      obtain ⟨p, hp, rfl⟩ := List.mem_map.mp hs
      obtain ⟨i, ph, hi, hne, rfl⟩ := mem_placements.mp (List.mem_mergeSort.mp hp)
      have hbytes := (hload.segments i ph hi).nonempty (i := i) hne
      intro hnil
      unfold Placed.end at hbytes
      have hlength : (placedOf elf ramBase i ph).bytes.length = 0 := congrArg List.length hnil
      omega
    · exact List.pairwise_map.mpr hload.segments_ascending
    · obtain ⟨ram, hram⟩ := hload.fits_ram hsize
      exact ⟨ram, hram, fun i ph hi a hcovers => hload.contents_eq hram hi hcovers,
        fun a hnone => hload.contents_eq_zero hram hnone⟩

/-- A file with a segment of four zero bytes, and an empty one with a byte of the file. -/
def emptySegmentFile : Bytes :=
  [0x7f, 0x45, 0x4c, 0x46, 1, 1, 1, 0, 0, 0, 0, 0, 0, 0, 0, 0,
    2, 0, 0xf3, 0, 1, 0, 0, 0, 0, 0x10, 0, 0, 52, 0, 0, 0, 0, 0, 0, 0, 0, 0, 0, 0,
    52, 0, 32, 0, 2, 0, 0, 0, 0, 0, 0, 0,
    1, 0, 0, 0, 0, 0, 0, 0, 0, 0x10, 0, 0, 0, 0x10, 0, 0, 0, 0, 0, 0, 4, 0, 0, 0, 5, 0, 0, 0,
    0, 0, 0, 0,
    1, 0, 0, 0, 0, 0, 0, 0, 0, 0, 0, 0, 0, 0, 0, 0, 1, 0, 0, 0, 0, 0, 0, 0, 4, 0, 0, 0, 0, 0, 0, 0]

/-- A segment without memory is refused if it has file bytes, though it would place nothing. -/
theorem load_refuses_empty_segment : ¬∀ hash elf ramBase ramSize,
    (∃ image, loadElf32 hash elf ramBase ramSize = .ok image) ↔
      ∃ h, (ramSize ≠ 0 ∧ ramBase.toNat + ramSize.toNat ≤ 2 ^ 32) ∧ HeaderRules elf h ∧
        (∀ index ph, Loads elf h index ph → ph.memsz ≠ 0 →
          SegmentRules elf ramBase ramSize ph) ∧
        (∀ i ph j ph', Loads elf h i ph → Loads elf h j ph' → i ≠ j →
          ∀ a, ¬(ph.Covers a ∧ ph'.Covers a)) ∧
        h.entry.toNat % 4 = 0 ∧ ∃ index ph, Loads elf h index ph ∧ ph.Covers h.entry.toNat := by
  intro hclaim
  have hheader : HeaderRules emptySegmentFile { entry := 0x1000, phoff := 52, phnum := 2 } :=
    header_eq_ok.mp (by decide +kernel)
  have hfirst : Loads emptySegmentFile { entry := 0x1000, phoff := 52, phnum := 2 } 0
      { type := 1, offset := 0, vaddr := 0x1000, paddr := 0x1000, filesz := 0, memsz := 4 } :=
    ⟨by decide, by decide +kernel, rfl⟩
  have hsecond : Loads emptySegmentFile { entry := 0x1000, phoff := 52, phnum := 2 } 1
      { type := 1, offset := 0, vaddr := 0, paddr := 0, filesz := 1, memsz := 0 } :=
    ⟨by decide, by decide +kernel, rfl⟩
  have hall : ∀ index ph, Loads emptySegmentFile { entry := 0x1000, phoff := 52, phnum := 2 } index
      ph → ph.memsz ≠ 0 → index = 0 ∧
        ph = { type := 1, offset := 0, vaddr := 0x1000, paddr := 0x1000, filesz := 0,
               memsz := 4 } := by
    intro index ph hload hne
    have hlt : index < 2 := hload.1
    obtain rfl | rfl : index = 0 ∨ index = 1 := by omega
    · exact ⟨rfl, hload.unique hfirst⟩
    · rw [hload.unique hsecond] at hne
      exact absurd rfl hne
  have hothers : ∀ index ph, Loads emptySegmentFile { entry := 0x1000, phoff := 52, phnum := 2 }
      index ph → ph.memsz ≠ 0 → SegmentRules emptySegmentFile 0x1000 0x1000 ph := by
    intro index ph hload hne
    rw [(hall index ph hload hne).2]
    exact ⟨by decide, by decide, by decide⟩
  have hapart : ∀ i ph j ph', Loads emptySegmentFile { entry := 0x1000, phoff := 52, phnum := 2 } i
      ph → Loads emptySegmentFile { entry := 0x1000, phoff := 52, phnum := 2 } j ph' → i ≠ j →
        ∀ a, ¬(ph.Covers a ∧ ph'.Covers a) := by
    rintro i ph j ph' hi hj hij a ⟨ha, ha'⟩
    exact hij ((hall i ph hi ha.ne_zero).1.trans (hall j ph' hj ha'.ne_zero).1.symm)
  obtain ⟨image, himage⟩ := (hclaim Blake3.hash emptySegmentFile 0x1000 0x1000).mpr
    ⟨_, by decide, hheader, hothers, hapart, by decide, 0, _, hfirst, by decide, by decide⟩
  obtain ⟨h, hload, -⟩ := loadElf32_eq_ok.mp himage
  have hsame : h = { entry := 0x1000, phoff := 52, phnum := 2 } :=
    Except.ok.inj ((header_eq_ok.mpr hload.header).symm.trans (header_eq_ok.mpr hheader))
  subst hsame
  exact absurd (hload.segments _ _ hsecond).filesz_le (by decide)

end SystemScope.Elf
