import SystemScope.Elf.Load
import SystemScope.Elf.UserPrefix
import SystemScope.Os.Model
import SystemScope.Os.Sound

/-!
# What the parser accepts, and what it plans

`parse_user_elf32` as an equivalence (`parse_user_eq_ok`): the executables that are `Runnable` are
accepted, with the plan that their program headers say page by page (`Checked.Planned`), and the
kernel's own check of the image passes.  How much of the file it sees makes no difference
(`prefix_independent`): the kernel reads the headers in at most two steps and then does what it
would do with the whole file.
-/

namespace SystemScope

namespace Elf

open Checks

/-- The program header with this index maps a segment. -/
def Maps (elf : Bytes) (h : Header) (index : ℕ) (s : Checked) : Prop :=
  ∃ ph flags, Loads elf h index ph ∧ ph.memsz ≠ 0 ∧
    Fields.u32 elf (h.phdrAt index + pFlagsOffset) = some flags ∧ s = checkedOf index ph flags

/-- A page with a byte of the segment. -/
def Checked.Touches (s : Checked) (n : ℕ) : Prop :=
  ∃ a, s.vaddr.toNat ≤ a ∧ a < s.end ∧ a / pageSize = n

/-- The executables that are accepted. -/
structure Runnable (elf : Bytes) (fileLen : UInt32) (range : UserRange) (h : Header) : Prop where
  aligned : range.start.toNat % pageSize = 0 ∧ range.stop.toNat % pageSize = 0
  length : elf.length ≤ fileLen.toNat
  header : HeaderRules elf h
  phnum : h.phnum ≤ maxPhdrs
  sizes : ∀ index ph, Loads elf h index ph →
    ph.filesz ≤ ph.memsz ∧ ph.offset.toNat + ph.filesz.toNat ≤ fileLen.toNat
  fits : ∀ index s, Maps elf h index s → s.Fits fileLen range
  apart : ∀ i s j t, Maps elf h i s → Maps elf h j t → i ≠ j → ∀ n, ¬(s.Touches n ∧ t.Touches n)
  entry_aligned : h.entry.toNat % 4 = 0
  runs : ∃ index s, Maps elf h index s ∧ s.RunsEntry h.entry

/-! ## The header -/

lemma checkedHeader_eq_ok {elf : Bytes} {fileLen : UInt32} {h : Header} :
    checkedHeader elf fileLen = .ok h ↔
      elf.length ≤ fileLen.toNat ∧ HeaderRules elf h ∧ h.phnum ≤ maxPhdrs := by
  constructor
  · intro hchecked
    have hheader := header_of_checked hchecked
    unfold checkedHeader at hchecked
    rw [guard_eq_ok, hheader] at hchecked
    obtain ⟨hlength, hchecked⟩ := hchecked
    have hrules := header_eq_ok.mp hheader
    rw [if_neg (Nat.not_lt.mpr hrules.length)] at hchecked
    exact ⟨Nat.not_lt.mp hlength, hrules, UInt16.not_lt.mp (guard_eq_ok.mp hchecked).1⟩
  · rintro ⟨hlength, hheader, hmany⟩
    unfold checkedHeader
    rw [if_neg (Nat.not_lt.mpr hlength), if_neg (Nat.not_lt.mpr hheader.length),
      header_eq_ok.mpr hheader]
    exact if_neg (UInt16.not_lt.mpr hmany)

/-! ## One segment -/

section

variable {elf : Bytes} {fileLen : UInt32} {range : UserRange} {h : Header} {index : ℕ}
  {ph : ProgramHeader} {flags : UInt32}

/-- The flags of a program header can be read. -/
lemma flags_isSome (htable : h.tableEnd ≤ elf.length) (hi : index < h.phnum.toNat) :
    ∃ flags, Fields.u32 elf (h.phdrAt index + pFlagsOffset) = some flags := by
  have hin := Header.phdr_inFile htable hi
  exact Fields.u32_isSome (by unfold pFlagsOffset; omega)

lemma Maps.unique {s t : Checked} (hs : Maps elf h index s) (ht : Maps elf h index t) : s = t := by
  obtain ⟨ph, flags, hload, -, hflags, rfl⟩ := hs
  obtain ⟨ph', flags', hload', -, hflags', rfl⟩ := ht
  rw [hload.unique hload', Option.some.inj (hflags.symm.trans hflags')]

/-- The segment that a program header maps, if it maps one. -/
def mappedAt (index : ℕ) (ph : ProgramHeader) (flags : UInt32) : Option Checked :=
  if ph.type = ptLoad ∧ ph.memsz ≠ 0 then some (checkedOf index ph flags) else none

lemma checkSegment_iff_mappedAt (hph : programHeader elf h index = .ok ph)
    (hflags : Fields.u32 elf (h.phdrAt index + pFlagsOffset) = some flags) {o : Option Checked} :
    checkSegment elf fileLen range h index = .ok o ↔
      (ph.type = ptLoad →
        (ph.filesz ≤ ph.memsz ∧ ph.offset.toNat + ph.filesz.toNat ≤ fileLen.toNat) ∧
        (ph.memsz ≠ 0 → (checkedOf index ph flags).Fits fileLen range)) ∧
      o = mappedAt index ph flags := by
  have hpflags : pFlags elf h index = .ok flags := okOr_eq_ok.mpr hflags
  rw [checkSegment_eq_ok hph, mappedAt, hpflags]
  simp only [Except.ok.injEq, exists_eq_left']
  by_cases hload : ph.type = ptLoad ∧ ph.memsz ≠ 0
  · rw [if_pos hload, if_pos hload]
    simp only [hload.1, hload.2, forall_true_left, and_assoc, ne_eq, not_false_eq_true]
  · rw [if_neg hload, if_neg hload]
    refine and_congr_left fun _ => forall_congr' fun htype => ?_
    exact ⟨fun hsizes => ⟨hsizes, fun hne => absurd ⟨htype, hne⟩ hload⟩, And.left⟩

lemma Checked.Fits.touches_iff {s : Checked} (hs : s.Fits fileLen range) {n : ℕ} :
    s.Touches n ↔ s.HasPage n := by
  have hpos := hs.memsz_pos
  unfold Checked.HasPage Checked.firstPage Checked.lastPage Checked.Touches Checked.end pageSize
  constructor
  · rintro ⟨a, hle, hlt, rfl⟩
    omega
  · rintro ⟨hfirst, hlast⟩
    exact ⟨max s.vaddr.toNat (n * 4096), by omega, by omega, by omega⟩

/-! ## Neighbours -/

lemma checkPair_eq_ok {a b : Checked} (ha : a.Fits fileLen range) :
    checkPair a b = .ok () ↔ a.lastPage + 1 ≤ b.firstPage := by
  have hpos := ha.memsz_pos
  unfold checkPair
  dsimp only
  rw [guard_eq_ok, guard_eq_ok]
  unfold Checked.lastPage Checked.firstPage Checked.end pageSize
  constructor
  · rintro ⟨-, hpages, -⟩
    omega
  · intro hpages
    exact ⟨by omega, by omega, rfl⟩

lemma checkPairs_eq_ok {segments : List Checked} (hfits : ∀ s ∈ segments, s.Fits fileLen range) :
    checkPairs segments = .ok () ↔ segments.IsChain fun a b => a.lastPage + 1 ≤ b.firstPage := by
  induction segments with
  | nil => exact ⟨fun _ => .nil, fun _ => rfl⟩
  | cons a rest ih =>
    cases rest with
    | nil => exact ⟨fun _ => List.IsChain.singleton a, fun _ => rfl⟩
    | cons b rest =>
      obtain ⟨ha, hrest⟩ := List.forall_mem_cons.mp hfits
      unfold checkPairs
      rw [check_eq_ok, checkPair_eq_ok ha, List.isChain_cons_cons, ih hrest]

/-! ## The whole file -/

variable (elf h) in
/-- The segment that the program header with an index maps, if it maps one. -/
def mappedFor (index : ℕ) : Option Checked :=
  (programHeader elf h index).toOption.bind fun ph =>
    (Fields.u32 elf (h.phdrAt index + pFlagsOffset)).bind fun flags => mappedAt index ph flags

variable (elf h) in
/-- The segments of an executable, in the order of their program headers. -/
def mapped : List Checked := (List.range h.phnum.toNat).filterMap (mappedFor elf h)

variable (elf h) in
/-- The segments of an executable, in ascending order. -/
def ascending : List Checked := (mapped elf h).mergeSort fun a b => a.vaddr ≤ b.vaddr

variable (elf h) in
/-- The image of an executable that is accepted. -/
def userImageOf : UserImage :=
  { entry := h.entry, segments := (ascending elf h).map Checked.toSegment }

lemma mappedFor_eq_some (hi : index < h.phnum.toNat) {s : Checked} :
    mappedFor elf h index = some s ↔ Maps elf h index s := by
  unfold mappedFor mappedAt Maps Loads
  rw [Option.bind_eq_some_iff]
  simp only [Option.bind_eq_some_iff, Option.ite_none_right_eq_some, Option.some.injEq]
  constructor
  · rintro ⟨ph, hph, flags, hflags, ⟨htype, hne⟩, rfl⟩
    cases hread : programHeader elf h index with
    | error e =>
      rw [hread] at hph
      cases hph
    | ok found =>
      rw [hread] at hph
      cases hph
      exact ⟨ph, flags, ⟨hi, rfl, htype⟩, hne, hflags, rfl⟩
  · rintro ⟨ph, flags, ⟨-, hph, htype⟩, hne, hflags, rfl⟩
    exact ⟨ph, by rw [hph]; rfl, flags, hflags, ⟨htype, hne⟩, rfl⟩

lemma mem_mapped {s : Checked} : s ∈ mapped elf h ↔ ∃ i, Maps elf h i s := by
  unfold mapped
  rw [List.mem_filterMap]
  constructor
  · rintro ⟨i, hi, hs⟩
    exact ⟨i, (mappedFor_eq_some (List.mem_range.mp hi)).mp hs⟩
  · rintro ⟨i, hs⟩
    have hi : i < h.phnum.toNat := by
      obtain ⟨ph, flags, hload, -⟩ := hs
      exact hload.1
    exact ⟨i, List.mem_range.mpr hi, (mappedFor_eq_some hi).mpr hs⟩

lemma mem_ascending {s : Checked} : s ∈ ascending elf h ↔ ∃ i, Maps elf h i s := by
  rw [ascending, List.mem_mergeSort, mem_mapped]

/-- The segments share no page exactly if those of different program headers do not. -/
lemma mapped_pairwise (hfits : ∀ i s, Maps elf h i s → s.Fits fileLen range) :
    ((mapped elf h).Pairwise
        (Intervals.Apart Checked.firstPage fun s => s.lastPage + 1)) ↔
      ∀ i s j t, Maps elf h i s → Maps elf h j t → i ≠ j → ∀ n, ¬(s.Touches n ∧ t.Touches n) := by
  unfold mapped
  rw [Intervals.pairwise_filterMap_range]
  have hiff : ∀ {i s j t}, Maps elf h i s → Maps elf h j t →
      (Intervals.Apart Checked.firstPage (fun s => s.lastPage + 1) s t ↔
        ∀ n, ¬(s.Touches n ∧ t.Touches n)) := by
    intro i s j t hs ht
    simp only [Intervals.Apart, (hfits i s hs).touches_iff, (hfits j t ht).touches_iff,
      Checked.HasPage, Nat.lt_succ_iff]
  have hlt : ∀ {i s}, Maps elf h i s → i < h.phnum.toNat := by
    rintro i s ⟨ph, flags, hload, -⟩
    exact hload.1
  constructor
  · intro hpair
    have hordered : ∀ i s j t, Maps elf h i s → Maps elf h j t → i < j →
        ∀ n, ¬(s.Touches n ∧ t.Touches n) := by
      intro i s j t hs ht hij
      exact (hiff hs ht).mp (hpair i j s t hij (hlt ht) ((mappedFor_eq_some (hlt hs)).mpr hs)
        ((mappedFor_eq_some (hlt ht)).mpr ht))
    intro i s j t hs ht hne n hboth
    rcases Nat.lt_or_gt_of_ne hne with hij | hij
    · exact hordered i s j t hs ht hij n hboth
    · exact hordered j t i s ht hs hij n hboth.symm
  · intro hapart i j s t hij hj hs ht
    have hs := (mappedFor_eq_some (hij.trans hj)).mp hs
    have ht := (mappedFor_eq_some hj).mp ht
    exact (hiff hs ht).mpr (hapart i s j t hs ht (Nat.ne_of_lt hij))

/-- Comparing neighbours finds every shared page. -/
lemma checkPairs_ascending (hfits : ∀ i s, Maps elf h i s → s.Fits fileLen range) :
    checkPairs (ascending elf h) = .ok () ↔
      ∀ i s j t, Maps elf h i s → Maps elf h j t → i ≠ j → ∀ n, ¬(s.Touches n ∧ t.Touches n) := by
  have hall : ∀ s ∈ ascending elf h, s.Fits fileLen range := by
    intro s hs
    obtain ⟨i, hs⟩ := mem_ascending.mp hs
    exact hfits i s hs
  rw [checkPairs_eq_ok hall, ← mapped_pairwise hfits]
  refine @Intervals.isChain_mergeSort_iff _ Checked.firstPage (fun s => s.lastPage + 1) _ _
    (fun s : Checked => s.vaddr.toNat) (fun a b => ?_) (fun a b hab => ?_) ?_
  · rw [decide_eq_true_iff, UInt32.le_iff_toNat_le]
  · exact Nat.div_le_div_right hab
  · intro s hs
    obtain ⟨i, hs⟩ := mem_mapped.mp hs
    exact Nat.lt_succ_of_le (hfits i s hs).firstPage_le_lastPage

/-- The program headers that are accepted one by one, and what they map. -/
lemma checkSegments_eq_ok (htable : h.tableEnd ≤ elf.length) {loaded : List (Option Checked)} :
    (List.range h.phnum.toNat).mapM (checkSegment elf fileLen range h) = .ok loaded ↔
      ((∀ i ph, Loads elf h i ph →
          ph.filesz ≤ ph.memsz ∧ ph.offset.toNat + ph.filesz.toNat ≤ fileLen.toNat) ∧
        ∀ i s, Maps elf h i s → s.Fits fileLen range) ∧
      loaded = (List.range h.phnum.toNat).map (mappedFor elf h) := by
  rw [mapM_eq_ok_map (P := fun i => (∀ ph, Loads elf h i ph →
      ph.filesz ≤ ph.memsz ∧ ph.offset.toNat + ph.filesz.toNat ≤ fileLen.toNat) ∧
    ∀ s, Maps elf h i s → s.Fits fileLen range) (g := mappedFor elf h)]
  · refine and_congr_left fun _ => ⟨fun hall => ⟨fun i ph hload => ?_, fun i s hs => ?_⟩, ?_⟩
    · exact (hall i (List.mem_range.mpr hload.1)).1 ph hload
    · have hi : i < h.phnum.toNat := by
        obtain ⟨ph, flags, hload, -⟩ := hs
        exact hload.1
      exact (hall i (List.mem_range.mpr hi)).2 s hs
    · exact fun hall i _ => ⟨hall.1 i, hall.2 i⟩
  · intro i hi o
    have hi := List.mem_range.mp hi
    obtain ⟨ph, hph⟩ := programHeader_isOk htable hi
    obtain ⟨flags, hflags⟩ := flags_isSome htable hi
    have hmapped : mappedFor elf h i = mappedAt i ph flags := by
      rw [mappedFor, hph, hflags]
      rfl
    rw [checkSegment_iff_mappedAt hph hflags, hmapped]
    refine and_congr_left fun _ => ⟨fun hrules => ⟨fun ph' hload => ?_, ?_⟩, fun hrules htype => ?_⟩
    · cases hph.symm.trans hload.2.1
      exact (hrules hload.2.2).1
    · rintro s ⟨ph', flags', hload, hne, hflags', rfl⟩
      cases hph.symm.trans hload.2.1
      cases hflags.symm.trans hflags'
      exact (hrules hload.2.2).2 hne
    · exact ⟨hrules.1 ph ⟨hi, hph, htype⟩,
        fun hne => hrules.2 _ ⟨ph, flags, ⟨hi, hph, htype⟩, hne, hflags, rfl⟩⟩

lemma parse_user_eq_ok {image : UserImage} : parseUserElf32 elf fileLen range = .ok image ↔
    ∃ h, Runnable elf fileLen range h ∧ image = userImageOf elf h := by
  have hloaded : ∀ h : Header,
      (((List.range h.phnum.toNat).map (mappedFor elf h)).filterMap id).mergeSort
        (fun a b => a.vaddr ≤ b.vaddr) = ascending elf h := by
    intro h
    rw [List.filterMap_map]
    rfl
  unfold parseUserElf32
  simp only [guard_eq_ok, bind_eq_ok, pure_eq_ok, checkedHeader_eq_ok, not_or, not_not, not_forall,
    exists_prop]
  constructor
  · rintro ⟨⟨-, haligned⟩, h, ⟨hlength, hheader, hmany⟩, loaded, hload, ⟨⟩, hpairs, hentry,
      hruns, rfl⟩
    obtain ⟨⟨hsizes, hfits⟩, rfl⟩ := (checkSegments_eq_ok hheader.table).mp hload
    rw [hloaded] at hpairs hruns ⊢
    obtain ⟨s, hs, hruns⟩ := hruns
    obtain ⟨i, hs⟩ := mem_ascending.mp hs
    exact ⟨h,
      { aligned := haligned, length := hlength, header := hheader, phnum := hmany
        sizes := hsizes, fits := hfits, apart := (checkPairs_ascending hfits).mp hpairs
        entry_aligned := hentry, runs := ⟨i, s, hs, hruns⟩ }, rfl⟩
  · rintro ⟨h, hrunnable, rfl⟩
    obtain ⟨i, s, hs, hruns⟩ := hrunnable.runs
    have hfits := hrunnable.fits i s hs
    have hrange : ¬range.stop ≤ range.start := by
      have habove := UInt32.le_iff_toNat_le.mp hfits.above
      have hbelow := hfits.below
      have hpos := hfits.memsz_pos
      unfold Checked.end at hbelow
      rw [UInt32.le_iff_toNat_le]
      omega
    refine ⟨⟨hrange, hrunnable.aligned⟩, h,
      ⟨hrunnable.length, hrunnable.header, hrunnable.phnum⟩, _,
      (checkSegments_eq_ok hrunnable.header.table).mpr ⟨⟨hrunnable.sizes, hrunnable.fits⟩, rfl⟩, ?_⟩
    rw [hloaded]
    exact ⟨(), (checkPairs_ascending hrunnable.fits).mpr hrunnable.apart, hrunnable.entry_aligned,
      ⟨s, mem_ascending.mpr ⟨i, hs⟩, hruns⟩, rfl⟩

end

/-! ## The plan of a segment -/

namespace Checked

/-- A byte of the segment that the file has. -/
def Backed (s : Checked) (a : ℕ) : Prop :=
  s.vaddr.toNat ≤ a ∧ a < s.vaddr.toNat + s.filesz.toNat

/-- The pages of a segment are planned exactly. -/
structure Planned (s : Checked) : Prop where
  /-- One after the other, from the first to the last. -/
  pages : s.pages.map (fun p => p.va.toNat) =
    (List.range' s.firstPage (s.lastPage + 1 - s.firstPage)).map (· * pageSize)
  touched : ∀ n, s.Touches n ↔ ∃ p ∈ s.pages, p.va.toNat = n * pageSize
  perms : ∀ p ∈ s.pages, p.perms = s.perms
  /-- The copy of a page is where the file has bytes for it, if it has any. -/
  copy : ∀ p ∈ s.pages, ∀ k < pageSize, s.Backed (p.va.toNat + k) ↔
    ∃ c ∈ p.copy, c.pageOffset.toNat ≤ k ∧ k < c.pageOffset.toNat + c.len.toNat
  copy_pos : ∀ p ∈ s.pages, ∀ c ∈ p.copy, 0 < c.len.toNat ∧
    c.pageOffset.toNat + c.len.toNat ≤ pageSize
  /-- And it is of these bytes of the file. -/
  source : ∀ p ∈ s.pages, ∀ c ∈ p.copy, ∀ k < c.len.toNat,
    c.fileOffset.toNat + k + s.vaddr.toNat =
      s.offset.toNat + (p.va.toNat + c.pageOffset.toNat + k)

lemma Fits.planned {s : Checked} {fileLen : UInt32} {range : UserRange}
    (hs : s.Fits fileLen range) : s.Planned where
  pages := by
    unfold Checked.pages
    rw [List.map_map]
    refine List.map_congr_left fun n hn => hs.toNat_page_va ?_
    rw [List.mem_range'_1] at hn
    exact ⟨hn.1, by omega⟩
  touched n := by
    rw [hs.touches_iff]
    constructor
    · intro hn
      exact ⟨_, mem_pages.mpr ⟨n, hn, rfl⟩, hs.toNat_page_va hn⟩
    · rintro ⟨p, hp, hva⟩
      obtain ⟨m, hm, rfl⟩ := mem_pages.mp hp
      rw [hs.toNat_page_va hm] at hva
      rwa [← Nat.eq_of_mul_eq_mul_right (by decide) hva]
  perms p hp := by
    obtain ⟨n, -, rfl⟩ := mem_pages.mp hp
    rfl
  copy p hp k hk := by
    obtain ⟨n, hn, rfl⟩ := mem_pages.mp hp
    rw [hs.toNat_page_va hn, Backed]
    cases hc : (s.page n).copy with
    | none =>
      have hnone := page_no_copy hc
      simp only [Option.mem_def, reduceCtorEq, false_and, exists_false, iff_false]
      omega
    | some c =>
      obtain ⟨start, stop, hlt, hstart, hstop, -, hpage, hlen⟩ := hs.page_copy hn hc
      simp only [Option.mem_def, Option.some.injEq, exists_eq_left']
      omega
  copy_pos p hp c hc := by
    obtain ⟨n, hn, rfl⟩ := mem_pages.mp hp
    obtain ⟨start, stop, hlt, hstart, hstop, -, hpage, hlen⟩ := hs.page_copy hn hc
    omega
  source p hp c hc k hk := by
    obtain ⟨n, hn, rfl⟩ := mem_pages.mp hp
    obtain ⟨start, stop, hlt, hstart, hstop, hoffset, hpage, hlen⟩ := hs.page_copy hn hc
    rw [hs.toNat_page_va hn]
    omega

end Checked

end Elf

/-! ## The check of the kernel -/

namespace Os

open Elf Checks

namespace BootImage

variable {boot : BootImage} {range : UserRange} {perms : Perms} {last : Option UInt32}

lemma checkPages_isOk {ps : List PagePlan}
    (hplaced : ∀ p ∈ ps, p.va.toNat % pageBytes = 0 ∧ range.Contains p.va ∧ p.perms = perms)
    (hcopies : ∀ p ∈ ps, boot.CopyFits p) (hascending : ps.Pairwise fun p q => p.va < q.va)
    (hafter : ∀ l ∈ last, ∀ p ∈ ps, l < p.va) :
    ∃ last', ps.foldlM (boot.checkPage range perms) last = .ok last' ∧
      ∀ l ∈ last', l ∈ last ∨ ∃ p ∈ ps, p.va = l := by
  induction ps generalizing last with
  | nil => exact ⟨last, rfl, fun l hl => .inl hl⟩
  | cons p rest ih =>
    rw [List.forall_mem_cons] at hplaced hcopies
    obtain ⟨hfirst, hrest⟩ := List.pairwise_cons.mp hascending
    have hpage : boot.checkPage range perms last p = .ok (some p.va) := by
      unfold checkPage
      have hcopy : ¬∃ c ∈ p.copy, ¬InPage c ∨ ¬InFile boot.fileLen c := by
        rintro ⟨c, hc, hbad⟩
        obtain ⟨hpage, hfile⟩ := hcopies.1 c hc
        exact hbad.elim (fun hnot => hnot hpage) fun hnot => hnot hfile
      have hplace : PagePlaced range perms last p :=
        ⟨hplaced.1.1, hplaced.1.2.1, hplaced.1.2.2, fun l hl => hafter l hl p List.mem_cons_self⟩
      rw [if_neg (not_not.mpr hplace), if_neg hcopy]
    obtain ⟨last', hfold, hlast⟩ := @ih (some p.va) hplaced.2 hcopies.2 hrest fun l hl q hq => by
      cases hl
      exact hfirst q hq
    refine ⟨last', ?_, fun l hl => ?_⟩
    · rw [List.foldlM_cons, hpage]
      exact hfold
    · rcases hlast l hl with hl | ⟨q, hq, rfl⟩
      · cases hl
        exact .inr ⟨p, List.mem_cons_self, rfl⟩
      · exact .inr ⟨q, List.mem_cons_of_mem _ hq, rfl⟩

/-- Segments whose pages are in order pass. -/
lemma checkSegments_isOk {segments : List UserSegment}
    (hsegments : ∀ seg ∈ segments, ValidPerms seg.perms ∧ seg.pages ≠ [] ∧
      ∀ p ∈ seg.pages, p.perms = seg.perms)
    (hplaced : ∀ p ∈ segments.flatMap UserSegment.pages,
      p.va.toNat % pageBytes = 0 ∧ range.Contains p.va)
    (hcopies : ∀ p ∈ segments.flatMap UserSegment.pages, boot.CopyFits p)
    (hascending : (segments.flatMap UserSegment.pages).Pairwise fun p q => p.va < q.va)
    (hafter : ∀ l ∈ last, ∀ p ∈ segments.flatMap UserSegment.pages, l < p.va) :
    ∃ last', segments.foldlM (boot.checkSegment range) last = .ok last' := by
  induction segments generalizing last with
  | nil => exact ⟨last, rfl⟩
  | cons seg rest ih =>
    rw [List.flatMap_cons] at hplaced hcopies hascending hafter
    rw [List.forall_mem_cons] at hsegments
    rw [List.forall_mem_append] at hplaced hcopies
    obtain ⟨hhere, hrest, hacross⟩ := List.pairwise_append.mp hascending
    obtain ⟨⟨hperms, hnonempty, hsame⟩, hsegments⟩ := hsegments
    have hplace : ∀ p ∈ seg.pages,
        p.va.toNat % pageBytes = 0 ∧ range.Contains p.va ∧ p.perms = seg.perms :=
      fun p hp => ⟨(hplaced.1 p hp).1, (hplaced.1 p hp).2, hsame p hp⟩
    obtain ⟨next, hfold, hnext⟩ := checkPages_isOk hplace hcopies.1 hhere
      fun l hl p hp => hafter l hl p (List.mem_append_left _ hp)
    obtain ⟨last', hlast⟩ := @ih next hsegments hplaced.2 hcopies.2 hrest fun l hl p hp => by
      rcases hnext l hl with hl | ⟨q, hq, rfl⟩
      · exact hafter l hl p (List.mem_append_right _ hp)
      · exact hacross q hq p hp
    refine ⟨last', ?_⟩
    have hbad : ¬(¬ValidPerms seg.perms ∨ seg.pages = []) :=
      not_or.mpr ⟨not_not.mpr hperms, hnonempty⟩
    rw [List.foldlM_cons, checkSegment, if_neg hbad, hfold]
    exact hlast

/-- The image of an accepted executable that is inside staging passes the check of the kernel. -/
lemma check_of_parse {elfPrefix : Bytes} {config : KernelConfig} {layout : UserLayout}
    (hparse : parseUserElf32 elfPrefix boot.fileLen layout.imageRange = .ok boot.image)
    (hstaged : config.staging.Contains boot.staged.toNat boot.fileLen.toNat) :
    boot.check config layout = .ok () := by
  obtain ⟨h, segments, ha⟩ := accepted_of_parse hparse
  have hfit := pagesFit_of_accepted ha
  have hperms := validPerms_of_accepted ha
  obtain ⟨s, hs, hruns⟩ := ha.runs
  have hfits := ha.fits s hs
  have hlength : boot.fileLen ≠ 0 := by
    intro hzero
    have hlength := (header_eq_ok.mp (header_of_checked ha.header)).length
    have hle := (checkedHeader_eq_ok.mp ha.header).1
    rw [hzero, UInt32.toNat_zero] at hle
    unfold ehdrSize at hlength
    omega
  have hentry : layout.imageRange.Contains boot.image.entry := by
    obtain ⟨-, hle, hlt⟩ := hruns
    rw [ha.entry]
    exact ⟨UInt32.le_trans hfits.above (UInt32.le_iff_toNat_le.mpr hle),
      UInt32.lt_iff_toNat_lt.mpr (hlt.trans_le hfits.below)⟩
  have hsegments : ∀ seg ∈ boot.image.segments, ValidPerms seg.perms ∧ seg.pages ≠ [] ∧
      ∀ p ∈ seg.pages, p.perms = seg.perms := by
    intro seg hseg
    have hpages := ha.segments_pages seg hseg
    have hsame : ∀ p ∈ seg.pages, p.perms = seg.perms := by
      rw [ha.segments] at hseg
      obtain ⟨t, ht, rfl⟩ := List.mem_map.mp hseg
      exact (ha.fits t ht).planned.perms
    obtain ⟨p, hp⟩ := List.exists_mem_of_ne_nil _ hpages
    refine ⟨?_, hpages, hsame⟩
    rw [← hsame p hp]
    exact hperms p (List.mem_flatMap.mpr ⟨seg, hseg, hp⟩)
  have hnonempty : boot.image.segments ≠ [] := by
    rw [ha.segments]
    exact List.ne_nil_of_mem (List.mem_map_of_mem hs)
  have hcopies : ∀ p ∈ boot.image.pages, boot.CopyFits p := by
    intro p hp c hc
    obtain ⟨hpos, hpage, hfile⟩ := ha.copy_fits p hp c hc
    have hlen := boot.fileLen.toNat_lt
    refine ⟨⟨?_, fun e he => ?_⟩, _, if_pos (by omega), hfile⟩
    · intro hzero
      rw [hzero, UInt32.toNat_zero] at hpos
      omega
    · obtain ⟨-, he⟩ := Option.ite_none_right_eq_some.mp he
      rw [← Option.some.inj he]
      exact hpage
  obtain ⟨last, hfold⟩ :=
    @checkSegments_isOk boot layout.imageRange none boot.image.segments hsegments
    (fun p hp => ⟨hfit.aligned p hp, hfit.inRange p hp⟩) hcopies hfit.ascending fun l hl =>
      by cases hl
  unfold check
  dsimp only
  have hbad : ¬(boot.image.entry.toNat % 4 ≠ 0 ∨ ¬layout.imageRange.Contains boot.image.entry) :=
    not_or.mpr ⟨not_not.mpr (ha.entry ▸ ha.entry_aligned), not_not.mpr hentry⟩
  rw [if_neg hlength, if_neg (not_not.mpr hstaged), if_neg hbad, if_neg hnonempty, hfold]
  rfl

end BootImage

/-- **What the parser accepts, what it plans, and that the kernel takes it.**  From any bytes at the
start of a file, the parser makes an image exactly for the executables that are `Runnable`.  Its
segments are those of the program headers, ascending and without a common page; each of them is
planned exactly, page by page; and the kernel's check of the image passes wherever the file is
inside staging. -/
theorem user_plan_exact (elfPrefix : Bytes) (fileLen : UInt32) (range : UserRange) :
    ((∃ image, parseUserElf32 elfPrefix fileLen range = .ok image) ↔
      ∃ h, Runnable elfPrefix fileLen range h) ∧
    ∀ image, parseUserElf32 elfPrefix fileLen range = .ok image →
      (∃ h, ∃ segments : List Elf.Checked, Runnable elfPrefix fileLen range h ∧
        image.entry = h.entry ∧
        image.segments = segments.map Checked.toSegment ∧
        (∀ s, s ∈ segments ↔ ∃ index, Maps elfPrefix h index s) ∧
        (segments.Pairwise fun s t => s.end ≤ t.vaddr.toNat ∧ s.lastPage < t.firstPage) ∧
        ∀ s ∈ segments, s.Planned) ∧
      ∀ (config : KernelConfig) (layout : UserLayout) (staged : UInt32),
        layout.imageRange = range → config.staging.Contains staged.toNat fileLen.toNat →
          BootImage.check { staged, fileLen, image } config layout = .ok () := by
  refine ⟨?_, fun image hparse => ⟨?_, fun config layout staged hrange hstaged => ?_⟩⟩
  · simp only [parse_user_eq_ok]
    constructor
    · rintro ⟨_, h, hrunnable, -⟩
      exact ⟨h, hrunnable⟩
    · rintro ⟨h, hrunnable⟩
      exact ⟨_, h, hrunnable, rfl⟩
  · obtain ⟨h, hrunnable, rfl⟩ := parse_user_eq_ok.mp hparse
    have hfits : ∀ s ∈ ascending elfPrefix h, s.Fits fileLen range := by
      intro s hs
      obtain ⟨i, hs⟩ := mem_ascending.mp hs
      exact hrunnable.fits i s hs
    have hpairs := ascending_of_checkPairs (fun s hs => (hfits s hs).firstPage_le_lastPage)
      ((checkPairs_ascending hrunnable.fits).mpr hrunnable.apart)
    refine ⟨h, ascending elfPrefix h, hrunnable, rfl, rfl, fun s => mem_ascending, ?_,
      fun s hs => (hfits s hs).planned⟩
    refine hpairs.imp_of_mem fun {s t} hs _ hst => ⟨?_, hst⟩
    have hpos := (hfits s hs).memsz_pos
    unfold Checked.lastPage Checked.firstPage Checked.end pageSize at *
    omega
  · subst hrange
    exact BootImage.check_of_parse hparse hstaged

/-- A segment without memory is refused if it has file bytes, though it would map nothing. -/
theorem user_plan_refuses_empty_segment : ¬∀ elfPrefix fileLen range,
    (∃ image, parseUserElf32 elfPrefix fileLen range = .ok image) ↔
      (range.start.toNat % pageSize = 0 ∧ range.stop.toNat % pageSize = 0) ∧
      elfPrefix.length ≤ fileLen.toNat ∧ ∃ h, HeaderRules elfPrefix h ∧ h.phnum ≤ maxPhdrs ∧
        (∀ index s, Maps elfPrefix h index s → s.Fits fileLen range) ∧
        (∀ i s j t, Maps elfPrefix h i s → Maps elfPrefix h j t → i ≠ j →
          ∀ n, ¬(s.Touches n ∧ t.Touches n)) ∧
        h.entry.toNat % 4 = 0 ∧ ∃ index s, Maps elfPrefix h index s ∧ s.RunsEntry h.entry := by
  intro hclaim
  have hheader : HeaderRules emptySegmentFile { entry := 0x1000, phoff := 52, phnum := 2 } :=
    header_eq_ok.mp (by decide +kernel)
  have hfirst : Maps emptySegmentFile { entry := 0x1000, phoff := 52, phnum := 2 } 0
      (checkedOf 0 { type := 1, offset := 0, vaddr := 0x1000, paddr := 0x1000, filesz := 0,
                     memsz := 4 }
        5) :=
    ⟨_, _, ⟨by decide, by decide +kernel, rfl⟩, by decide, by decide +kernel, rfl⟩
  have hsecond : Loads emptySegmentFile { entry := 0x1000, phoff := 52, phnum := 2 } 1
      { type := 1, offset := 0, vaddr := 0, paddr := 0, filesz := 1, memsz := 0 } :=
    ⟨by decide, by decide +kernel, rfl⟩
  have hall : ∀ index s,
    Maps emptySegmentFile { entry := 0x1000, phoff := 52, phnum := 2 } index s →
      index = 0 := by
    rintro index s ⟨ph, flags, hload, hne, -⟩
    have hlt : index < 2 := hload.1
    obtain rfl | rfl : index = 0 ∨ index = 1 := by omega
    · rfl
    · rw [hload.unique hsecond] at hne
      exact absurd rfl hne
  have hfits : ∀ index s,
    Maps emptySegmentFile { entry := 0x1000, phoff := 52, phnum := 2 } index s →
      s.Fits 116 { start := 0x1000, stop := 0x2000 } := by
    intro index s hs
    rw [hall index s hs] at hs
    rw [hs.unique hfirst]
    exact ⟨by decide, by decide, by decide, by decide, by decide, by decide, by decide⟩
  have hapart : ∀ i s j t, Maps emptySegmentFile { entry := 0x1000, phoff := 52, phnum := 2 } i s →
      Maps emptySegmentFile { entry := 0x1000, phoff := 52, phnum := 2 } j t → i ≠ j →
        ∀ n, ¬(s.Touches n ∧ t.Touches n) :=
    fun i s j t hs ht hij => absurd ((hall i s hs).trans (hall j t ht).symm) hij
  obtain ⟨image, himage⟩ := (hclaim emptySegmentFile 116 { start := 0x1000, stop := 0x2000 }).mpr
    ⟨by decide, by decide, _, hheader, by decide, hfits, hapart, by decide, 0, _, hfirst, by decide⟩
  obtain ⟨h, hrunnable, -⟩ := parse_user_eq_ok.mp himage
  have hsame : h = { entry := 0x1000, phoff := 52, phnum := 2 } :=
    Except.ok.inj ((header_eq_ok.mpr hrunnable.header).symm.trans (header_eq_ok.mpr hheader))
  subst hsame
  exact absurd (hrunnable.sizes _ _ hsecond).1 (by decide)

/-! ## Reading the headers -/

section

variable {config : KernelConfig} {m : Model} {disk : DiskBoot} {cursor : Cursor} {e : ExecEntry}

variable (config m cursor e) in
/-- What the kernel does for an entry once its headers are parsed. -/
def Model.parsed (headers : Bytes) : Except UserElfError UserImage → Outcome (Decision ProcOp)
  | .error error => m.skipEntry cursor 0 error.text
  | .ok image =>
    if MegapageConflict image config then
      m.skipEntry cursor image.entry "a segment is in a megapage slot"
    else do
      match ← m.reserveSpace config cursor.pid (Model.stagedImage config e image) with
      | none => m.skipEntry cursor image.entry "frame pool exhausted"
      | some (space, m) =>
        return { model := m, notes := [], next := .new (.load cursor headers image space) }

variable (hsource : m.source = .disk disk) (hentry : cursor.entry = some e) {headers : Bytes}
  {len : UInt32}

include hsource hentry

lemma Model.staged_parsed
    (h : ∀ needed, parseUserElf32 headers e.byteLen disk.layout.imageRange ≠
      .error (.prefixTooShort needed)) :
    m.staged config cursor len headers =
      m.parsed config cursor e headers
        (parseUserElf32 headers e.byteLen disk.layout.imageRange) := by
  unfold Model.staged
  rw [hsource]
  dsimp only
  rw [hentry]
  dsimp only
  cases hparse : parseUserElf32 headers e.byteLen disk.layout.imageRange with
  | ok image => rfl
  | error error =>
    cases error with
    | prefixTooShort needed => exact absurd hparse (h needed)
    | _ => rfl

lemma Model.staged_again {needed : UInt32}
    (h : parseUserElf32 headers e.byteLen disk.layout.imageRange =
      .error (.prefixTooShort needed)) (hlt : len < needed) :
    m.staged config cursor len headers =
      .ok { model := m, notes := [], next := .new (.staged cursor needed) } := by
  unfold Model.staged
  rw [hsource]
  dsimp only
  rw [hentry]
  dsimp only
  rw [h]
  exact if_pos hlt

end

/-- After an entry no headers are read, at least not before the next transfer. -/
lemma Model.nextLoad_stage {m : Model} {table : Option ExecTable} {index : ℕ} {d : Decision ProcOp}
    (h : m.nextLoad table index = .ok d) (c : Cursor) (len : UInt32) :
    d.next.stage ≠ .staged c len := by
  have hdispatch : ∀ {d}, m.dispatchNext 0 = .ok d → d.next.stage ≠ .staged c len := by
    intro d hd
    obtain ⟨⟨procs, head⟩, -, hd⟩ := bind_eq_ok.mp hd
    cases head with
    | none =>
      cases hd
      exact nofun
    | some next =>
      dsimp only at hd
      split at hd
      · cases hd
      · cases hd
        exact nofun
  unfold nextLoad at h
  split at h
  · split_ifs at h
    · cases h
      exact nofun
    · exact hdispatch h
  · exact hdispatch h

lemma Model.skipEntry_stage {m : Model} {cursor : Cursor} {entry : UInt32} {error : String}
    {d : Decision ProcOp} (h : m.skipEntry cursor entry error = .ok d) (c : Cursor) (len : UInt32) :
    d.next.stage ≠ .staged c len := by
  obtain ⟨d', hd, h⟩ := bind_eq_ok.mp h
  cases h
  exact nextLoad_stage hd c len

lemma Model.parsed_stage {config : KernelConfig} {m : Model} {cursor : Cursor} {e : ExecEntry}
    {headers : Bytes} {result : Except UserElfError UserImage} {d : Decision ProcOp}
    (h : m.parsed config cursor e headers result = .ok d) (c : Cursor) (len : UInt32) :
    d.next.stage ≠ .staged c len := by
  unfold parsed at h
  split at h
  · exact skipEntry_stage h c len
  · split_ifs at h
    · exact skipEntry_stage h c len
    · obtain ⟨reserved, -, h⟩ := bind_eq_ok.mp h
      split at h
      · exact skipEntry_stage h c len
      · cases h
        exact nofun

/-- A prefix and the rest of a longer one. -/
lemma take_append {n n' : ℕ} (hle : n ≤ n') (file : Bytes) :
    file.take n' = file.take n ++ (file.drop n).take (n' - n) := by
  rw [← List.take_add, Nat.add_sub_cancel' hle]

/-- **How much of the file the parser sees makes no difference.**  If a prefix is enough, every
longer one gives the same result.  If it is not, the parser says how much it needs: more than it
saw, not more than there is, and enough if it saw the file header.  The kernel reads the headers of
a file in staging once, or a second time with what the parser asked for, and then does what it would
do with the whole file. -/
theorem prefix_independent (file : Bytes) (fileLen : UInt32) (hlen : file.length = fileLen.toNat)
    (range : UserRange) :
    (∀ n n', (∀ needed, parseUserElf32 (file.take n) fileLen range ≠
          .error (.prefixTooShort needed)) → n ≤ n' →
        parseUserElf32 (file.take n') fileLen range = parseUserElf32 (file.take n) fileLen range) ∧
    (∀ n needed, parseUserElf32 (file.take n) fileLen range = .error (.prefixTooShort needed) →
      (file.take n).length < needed.toNat ∧ needed ≤ fileLen ∧
        (ehdrSize ≤ (file.take n).length → ∀ again,
          parseUserElf32 (file.take needed.toNat) fileLen range ≠
            .error (.prefixTooShort again))) ∧
    ∀ (config : KernelConfig) (m : Model) (disk : DiskBoot) (cursor : Cursor) (e : ExecEntry),
      m.source = .disk disk → disk.layout.imageRange = range → cursor.entry = some e →
      e.byteLen = fileLen →
      let read (len : UInt32) := m.staged config cursor len (file.take len.toNat)
      let whole (len : UInt32) :=
        m.parsed config cursor e (file.take len.toNat) (parseUserElf32 file fileLen range)
      (read cursor.firstRead = whole cursor.firstRead ∨
        ∃ needed, cursor.firstRead < needed ∧ needed ≤ fileLen ∧
          read cursor.firstRead =
            .ok { model := m, notes := [], next := .new (.staged cursor needed) } ∧
          read needed = whole needed) ∧
      ∀ len d, whole len = .ok d → ∀ c len', d.next.stage ≠ .staged c len' := by
  have hmore : ∀ n n', n ≤ n' →
      (∃ needed, parseUserElf32 (file.take n) fileLen range = .error (.prefixTooShort needed)) ∨
        parseUserElf32 (file.take n) fileLen range = parseUserElf32
          (file.take n') fileLen range := by
    intro n n' hle
    rw [take_append hle]
    refine parse_longer range _ ?_
    rw [← take_append hle, List.length_take]
    omega
  have henough : ∀ n needed, parseUserElf32 (file.take n) fileLen range =
      .error (.prefixTooShort needed) →
      (file.take n).length < needed.toNat ∧ needed ≤ fileLen ∧
        (ehdrSize ≤ (file.take n).length → ∀ again,
          parseUserElf32 (file.take needed.toNat) fileLen range ≠
            .error (.prefixTooShort again)) := by
    intro n needed hshort
    obtain ⟨hlt, hle⟩ := parse_tooShort range hshort
    refine ⟨hlt, UInt32.le_iff_toNat_le.mpr hle, fun hheader again => ?_⟩
    have hn : n ≤ needed.toNat := by
      rw [List.length_take] at hlt
      omega
    rw [take_append hn]
    refine parse_enough range hheader hshort _ ?_ again
    rw [← take_append hn, List.length_take]
    omega
  refine ⟨fun n n' hn hle => ?_, henough, ?_⟩
  · rcases hmore n n' hle with ⟨needed, hshort⟩ | hsame
    · exact absurd hshort (hn needed)
    · exact hsame.symm
  · intro config m disk cursor e hsource hrange hentry hbytes
    subst hrange hbytes
    have hwhole : ∀ n ≤ file.length,
        (∀ needed, parseUserElf32 (file.take n) e.byteLen disk.layout.imageRange ≠
          .error (.prefixTooShort needed)) →
        parseUserElf32 (file.take n) e.byteLen disk.layout.imageRange =
          parseUserElf32 file e.byteLen disk.layout.imageRange := by
      intro n hn hnot
      rcases hmore n _ hn with ⟨needed, hshort⟩ | hsame
      · exact absurd hshort (hnot needed)
      · rw [hsame, List.take_length]
    have hfirst : cursor.firstRead.toNat = min e.byteLen.toNat 52 := by
      unfold Cursor.firstRead
      rw [hentry]
      show (if e.byteLen ≤ elfHeaderBytes then e.byteLen else elfHeaderBytes).toNat = _
      have hheader : elfHeaderBytes.toNat = 52 := rfl
      split
      · next hle =>
        rw [UInt32.le_iff_toNat_le] at hle
        omega
      · next hlt =>
        rw [UInt32.le_iff_toNat_le] at hlt
        omega
    refine ⟨?_, fun len d hd c len' => Model.parsed_stage hd c len'⟩
    dsimp only
    by_cases hshort : ∃ needed, parseUserElf32 (file.take cursor.firstRead.toNat) e.byteLen
        disk.layout.imageRange = .error (.prefixTooShort needed)
    · obtain ⟨needed, hshort⟩ := hshort
      obtain ⟨hlt, hle, hagain⟩ := henough _ _ hshort
      have hneeded := UInt32.le_iff_toNat_le.mp hle
      rw [List.length_take] at hlt hagain
      have hagain := hagain (by unfold ehdrSize; omega)
      have hfirstLt : cursor.firstRead < needed := UInt32.lt_iff_toNat_lt.mpr (by omega)
      refine .inr ⟨needed, hfirstLt, hle, Model.staged_again hsource hentry hshort hfirstLt, ?_⟩
      rw [Model.staged_parsed hsource hentry hagain, hwhole _ (by omega) hagain]
    · have hnot : ∀ needed, parseUserElf32 (file.take cursor.firstRead.toNat) e.byteLen
          disk.layout.imageRange ≠ .error (.prefixTooShort needed) :=
        fun needed hneeded => hshort ⟨needed, hneeded⟩
      left
      rw [Model.staged_parsed hsource hentry hnot, hwhole _ (by omega) hnot]

/-- The header of the small executable is not enough: the parser asks for the whole file. -/
theorem prefix_independent_small :
    parseUserElf32 (smallElf.take 52) 84 smallLayout.imageRange = .error (.prefixTooShort 84) ∧
    (∀ again, parseUserElf32 (smallElf.take 84) 84 smallLayout.imageRange ≠
      .error (.prefixTooShort again)) ∧
    ∀ n, 84 ≤ n → parseUserElf32 (smallElf.take n) 84 smallLayout.imageRange =
      .ok smallElfBoot.image := by
  have hshort : parseUserElf32 (smallElf.take 52) 84 smallLayout.imageRange =
      .error (.prefixTooShort 84) := by decide +kernel
  obtain ⟨hlonger, hneeds, -⟩ :=
    prefix_independent smallElf 84 (by decide) smallLayout.imageRange
  obtain ⟨-, -, henough⟩ := hneeds 52 84 hshort
  have henough := henough (by decide)
  exact ⟨hshort, henough, fun n hn => (hlonger 84 n henough hn).trans parse_smallElf⟩

end Os

end SystemScope
