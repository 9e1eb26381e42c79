import SystemScope.Elf.User

/-!
# What an accepted executable looks like

`parseUserElf32` as a relation (`Accepted`): the header, the checked segments in ascending order,
and the image made of them.  The pages of the image are then aligned, in the user range and strictly
ascending, and each copy stays in its page and in the file.
-/

namespace SystemScope.Elf

open Checks

/-- What the check of a segment establishes. -/
structure Checked.Fits (s : Checked) (fileLen : UInt32) (range : UserRange) : Prop where
  filesz_le : s.filesz ≤ s.memsz
  in_file : s.offset.toNat + s.filesz.toNat ≤ fileLen.toNat
  memsz_ne : s.memsz ≠ 0
  permitted : s.perms.read ∨ s.perms.write ∨ s.perms.execute
  read_of_write : s.perms.write → s.perms.read
  above : range.start ≤ s.vaddr
  below : s.end ≤ range.stop.toNat

/-- A checked segment is what its program header says. -/
structure Checked.Of (s : Checked) (elfPrefix : Bytes) (h : Header) (index : ℕ) : Prop where
  header : ∃ ph, programHeader elfPrefix h index = .ok ph ∧ ph.type = ptLoad ∧
    s.offset = ph.offset ∧ s.vaddr = ph.vaddr ∧ s.filesz = ph.filesz ∧ s.memsz = ph.memsz
  index : s.index = UInt16.ofNat index

/-- A loadable program header that maps nothing. -/
def MapsNothing (elfPrefix : Bytes) (h : Header) (index : ℕ) : Prop :=
  ∃ ph, programHeader elfPrefix h index = .ok ph ∧ (ph.type = ptLoad → ph.memsz = 0)

/-- The segment that a program header with some flags maps. -/
def checkedOf (index : ℕ) (ph : ProgramHeader) (flags : UInt32) : Checked :=
  { index := UInt16.ofNat index, offset := ph.offset, vaddr := ph.vaddr, filesz := ph.filesz
    memsz := ph.memsz, perms := permsOf flags }

/-- The checks of the permissions. -/
lemma perms_iff (perms : Perms) :
    ¬(!perms.read && !perms.write && !perms.execute) = true ∧
      ¬(perms.write && !perms.read) = true ↔
    (perms.read ∨ perms.write ∨ perms.execute) ∧ (perms.write → perms.read) := by
  cases perms.read <;> cases perms.write <;> cases perms.execute <;> simp

section

variable {elfPrefix : Bytes} {fileLen : UInt32} {range : UserRange} {h : Header} {index : ℕ}
  {o : Option Checked}

lemma checkSegment_eq_ok {ph : ProgramHeader} (hph : programHeader elfPrefix h index = .ok ph) :
    checkSegment elfPrefix fileLen range h index = .ok o ↔
      (ph.type = ptLoad →
        ph.filesz ≤ ph.memsz ∧ ph.offset.toNat + ph.filesz.toNat ≤ fileLen.toNat) ∧
      if ph.type = ptLoad ∧ ph.memsz ≠ 0 then
        ∃ flags, pFlags elfPrefix h index = .ok flags ∧
          (checkedOf index ph flags).Fits fileLen range ∧ o = some (checkedOf index ph flags)
      else o = none := by
  unfold checkSegment
  rw [hph]
  refine segmentChecks_eq_ok.trans (and_congr_right fun hsizes => ?_)
  by_cases hload : ph.type = ptLoad ∧ ph.memsz ≠ 0
  · rw [if_pos hload, if_pos hload, bind_eq_ok]
    refine exists_congr fun flags => and_congr_right fun _ => ?_
    simp only [guard_eq_ok, pure_eq_ok, not_or, UInt32.not_lt, Nat.not_lt]
    rw [← and_assoc, perms_iff]
    constructor
    · rintro ⟨⟨hpermitted, hread⟩, ⟨habove, hbelow⟩, rfl⟩
      exact ⟨⟨(hsizes hload.1).1, (hsizes hload.1).2, hload.2, hpermitted, hread, habove, hbelow⟩,
        rfl⟩
    · rintro ⟨hfits, rfl⟩
      exact ⟨⟨hfits.permitted, hfits.read_of_write⟩, ⟨hfits.above, hfits.below⟩, rfl⟩
  · rw [if_neg hload, if_neg hload]

lemma programHeader_of_checkSegment (hs : checkSegment elfPrefix fileLen range h index = .ok o) :
    ∃ ph, programHeader elfPrefix h index = .ok ph := by
  obtain ⟨ph, hph, -⟩ := bind_eq_ok.mp hs
  exact ⟨ph, mapError_eq_ok.mp hph⟩

lemma checkSegment_none (hs : checkSegment elfPrefix fileLen range h index = .ok none) :
    MapsNothing elfPrefix h index := by
  obtain ⟨ph, hph⟩ := programHeader_of_checkSegment hs
  obtain ⟨-, hs⟩ := (checkSegment_eq_ok hph).mp hs
  refine ⟨ph, hph, fun htype => not_not.mp fun hne => ?_⟩
  rw [if_pos ⟨htype, hne⟩] at hs
  obtain ⟨flags, -, -, hnone⟩ := hs
  cases hnone

lemma checkSegment_some {s : Checked}
    (hs : checkSegment elfPrefix fileLen range h index = .ok (some s)) :
    s.Fits fileLen range ∧ s.Of elfPrefix h index := by
  obtain ⟨ph, hph⟩ := programHeader_of_checkSegment hs
  obtain ⟨-, hs⟩ := (checkSegment_eq_ok hph).mp hs
  by_cases hload : ph.type = ptLoad ∧ ph.memsz ≠ 0
  · rw [if_pos hload] at hs
    obtain ⟨flags, -, hfits, ⟨⟩⟩ := hs
    exact ⟨hfits, ⟨ph, hph, hload.1, rfl, rfl, rfl, rfl⟩, rfl⟩
  · rw [if_neg hload] at hs
    cases hs

end

/-- What `parseUserElf32` accepts, and the image it returns. -/
structure Accepted (elfPrefix : Bytes) (fileLen : UInt32) (range : UserRange) (h : Header)
    (segments : List Checked) (image : UserImage) : Prop where
  range_aligned : range.start.toNat % pageSize = 0 ∧ range.stop.toNat % pageSize = 0
  header : checkedHeader elfPrefix fileLen = .ok h
  fits : ∀ s ∈ segments, s.Fits fileLen range
  /-- Every segment is one of the program headers. -/
  sound : ∀ s ∈ segments, ∃ index < h.phnum.toNat, s.Of elfPrefix h index
  /-- Every program header is a segment, unless it maps nothing. -/
  complete : ∀ index < h.phnum.toNat,
    MapsNothing elfPrefix h index ∨ ∃ s ∈ segments, s.Of elfPrefix h index
  ascending : segments.Pairwise fun a b => a.lastPage < b.firstPage
  entry : image.entry = h.entry
  entry_aligned : h.entry.toNat % 4 = 0
  runs : ∃ s ∈ segments, s.RunsEntry h.entry
  segments : image.segments = segments.map Checked.toSegment

namespace Checked

variable {s : Checked} {fileLen : UInt32} {range : UserRange}

namespace Fits

variable (hs : s.Fits fileLen range)

include hs

lemma memsz_pos : 0 < s.memsz.toNat := by
  have hne : s.memsz.toNat ≠ 0 := fun h => hs.memsz_ne (UInt32.toNat_inj.mp h)
  omega

lemma filesz_le_memsz : s.filesz.toNat ≤ s.memsz.toNat := UInt32.le_iff_toNat_le.mp hs.filesz_le

lemma firstPage_le_lastPage : s.firstPage ≤ s.lastPage := by
  have hpos := hs.memsz_pos
  unfold firstPage lastPage Checked.end pageSize
  omega

lemma end_lt : s.end < 2 ^ 32 := Nat.lt_of_le_of_lt hs.below range.stop.toNat_lt

/-- The addresses of the pages fit in 32 bits. -/
lemma page_lt {n : ℕ} (hn : n ≤ s.lastPage) : n * pageSize < s.end := by
  have hpos := hs.memsz_pos
  unfold lastPage Checked.end pageSize at *
  omega

end Fits

end Checked

lemma toNat_narrow {v : ℕ} (h : v < 2 ^ 32) : (narrow v).toNat = v := by
  rw [narrow, if_pos h]
  exact UInt32.toNat_ofNat_of_lt' h

/-- Segments that pass the check of neighbours are apart and ascending. -/
lemma ascending_of_checkPairs {segments : List Checked}
    (hpages : ∀ s ∈ segments, s.firstPage ≤ s.lastPage) (h : checkPairs segments = .ok ()) :
    segments.Pairwise fun a b => a.lastPage < b.firstPage := by
  induction segments with
  | nil => exact .nil
  | cons a rest ih =>
    cases rest with
    | nil => exact List.pairwise_singleton _ _
    | cons b rest =>
      obtain ⟨hpair, hrest⟩ := check_eq_ok.mp h
      unfold checkPair at hpair
      simp only [guard_eq_ok, Nat.not_le] at hpair
      rw [List.forall_mem_cons] at hpages
      have htail := ih hpages.2 hrest
      refine List.pairwise_cons.mpr ⟨?_, htail⟩
      intro c hc
      rcases List.mem_cons.mp hc with rfl | hc
      · exact hpair.2.1
      · have hb := hpages.2 b List.mem_cons_self
        have hbc := (List.pairwise_cons.mp htail).1 c hc
        omega

/-- An image is returned only for an executable that is accepted. -/
lemma accepted_of_parse {elfPrefix : Bytes} {fileLen : UInt32} {range : UserRange}
    {image : UserImage} (hparse : parseUserElf32 elfPrefix fileLen range = .ok image) :
    ∃ h segments, Accepted elfPrefix fileLen range h segments image := by
  unfold parseUserElf32 at hparse
  rw [guard_eq_ok] at hparse
  obtain ⟨hrange, hparse⟩ := hparse
  obtain ⟨h, hheader, hparse⟩ := bind_eq_ok.mp hparse
  obtain ⟨loaded, hloaded, hparse⟩ := bind_eq_ok.mp hparse
  rw [mapM_eq_ok] at hloaded
  obtain ⟨hpairs, hparse⟩ := check_eq_ok.mp hparse
  simp only [guard_eq_ok, pure_eq_ok, not_not] at hparse
  obtain ⟨haligned, hruns, rfl⟩ := hparse
  simp only [not_or, not_not] at hrange
  have hmem {s : Checked} :
      s ∈ (loaded.filterMap id).mergeSort (fun a b => a.vaddr ≤ b.vaddr) ↔ some s ∈ loaded := by
    rw [List.mem_mergeSort, List.mem_filterMap]
    simp
  have hsound : ∀ s, some s ∈ loaded →
      s.Fits fileLen range ∧ ∃ index < h.phnum.toNat, s.Of elfPrefix h index := by
    intro s hs
    obtain ⟨i, hi, hget⟩ := List.getElem_of_mem hs
    have hlen := hloaded.length_eq
    have hcheck := (List.forall₂_iff_get.mp hloaded).2 i (by omega) hi
    simp only [List.get_eq_getElem, List.getElem_range, hget] at hcheck
    obtain ⟨hfits, hof⟩ := checkSegment_some hcheck
    rw [List.length_range] at hlen
    exact ⟨hfits, i, by omega, hof⟩
  refine ⟨h, _,
    { range_aligned := hrange.2
      header := hheader
      fits := fun s hs => (hsound s (hmem.mp hs)).1
      sound := fun s hs => (hsound s (hmem.mp hs)).2
      complete := ?_
      ascending := ascending_of_checkPairs
        (fun s hs => (hsound s (hmem.mp hs)).1.firstPage_le_lastPage) hpairs
      entry := rfl
      entry_aligned := haligned
      runs := by simpa using hruns
      segments := rfl }⟩
  intro index hindex
  have hlen := hloaded.length_eq
  rw [List.length_range] at hlen
  have hcheck := (List.forall₂_iff_get.mp hloaded).2 index (by simpa using hindex) (by omega)
  simp only [List.get_eq_getElem, List.getElem_range] at hcheck
  cases hget : loaded[index] with
  | none =>
    rw [hget] at hcheck
    exact .inl (checkSegment_none hcheck)
  | some s =>
    rw [hget] at hcheck
    have hs : some s ∈ loaded := by
      rw [← hget]
      exact List.getElem_mem _
    exact .inr ⟨s, hmem.mpr hs, (checkSegment_some hcheck).2⟩

/-! ## The pages -/

namespace Checked

variable {s : Checked} {fileLen : UInt32} {range : UserRange} {n : ℕ}

/-- A page of the segment. -/
def HasPage (s : Checked) (n : ℕ) : Prop := s.firstPage ≤ n ∧ n ≤ s.lastPage

lemma mem_pages {p : PagePlan} : p ∈ s.pages ↔ ∃ n, s.HasPage n ∧ p = s.page n := by
  unfold pages HasPage
  rw [List.mem_map]
  constructor
  · rintro ⟨n, hn, rfl⟩
    rw [List.mem_range'_1] at hn
    exact ⟨n, ⟨hn.1, by omega⟩, rfl⟩
  · rintro ⟨n, hn, rfl⟩
    exact ⟨n, List.mem_range'_1.mpr ⟨hn.1, by omega⟩, rfl⟩

namespace Fits

variable (hs : s.Fits fileLen range)

include hs

lemma toNat_page_va (hn : s.HasPage n) : (s.page n).va.toNat = n * pageSize :=
  toNat_narrow (Nat.lt_trans (hs.page_lt hn.2) hs.end_lt)

lemma pages_ne_nil : s.pages ≠ [] := by
  have hfirst : s.page s.firstPage ∈ s.pages :=
    mem_pages.mpr ⟨_, ⟨Nat.le_refl _, hs.firstPage_le_lastPage⟩, rfl⟩
  exact List.ne_nil_of_mem hfirst

/-- What the copy of a page is, in numbers: the file bytes of the segment that lie in the page. -/
lemma page_copy (hn : s.HasPage n) {c : FileCopy} (hc : (s.page n).copy = some c) :
    ∃ start stop, start < stop ∧ start = max s.vaddr.toNat (n * pageSize) ∧
      stop = min (s.vaddr.toNat + s.filesz.toNat) (n * pageSize + pageSize) ∧
      c.fileOffset.toNat = s.offset.toNat + (start - s.vaddr.toNat) ∧
      c.pageOffset.toNat = start - n * pageSize ∧ c.len.toNat = stop - start := by
  have hend := hs.end_lt
  have hpage := hs.page_lt hn.2
  have hfile := hs.filesz_le_memsz
  have hin := hs.in_file
  have hlen := fileLen.toNat_lt
  unfold Checked.end at hend hpage
  unfold page at hc
  obtain ⟨hlt, hc⟩ := Option.ite_none_right_eq_some.mp hc
  refine ⟨_, _, hlt, rfl, rfl, ?_⟩
  rw [← Option.some.inj hc]
  dsimp only
  exact ⟨toNat_narrow (by omega), toNat_narrow (by unfold pageSize at *; omega),
    toNat_narrow (by unfold pageSize at *; omega)⟩

end Fits

/-- Without a copy, no file byte of the segment lies in the page. -/
lemma page_no_copy (hc : (s.page n).copy = none) :
    s.vaddr.toNat + s.filesz.toNat ≤ max s.vaddr.toNat (n * pageSize) ∨
      n * pageSize + pageSize ≤ max s.vaddr.toNat (n * pageSize) := by
  unfold page at hc
  have hlt := ite_eq_right_iff.mp hc
  by_contra hsome
  exact absurd (hlt (by omega)) (by simp)

end Checked

namespace Accepted

variable {elfPrefix : Bytes} {fileLen : UInt32} {range : UserRange} {h : Header}
  {segments : List Checked} {image : UserImage}
  (ha : Accepted elfPrefix fileLen range h segments image)

include ha

lemma pages_eq : image.pages = segments.flatMap Checked.pages := by
  unfold UserImage.pages
  rw [ha.segments, List.flatMap_map]
  rfl

lemma mem_pages {p : PagePlan} :
    p ∈ image.pages ↔ ∃ s ∈ segments, ∃ n, s.HasPage n ∧ p = s.page n := by
  rw [ha.pages_eq, List.mem_flatMap]
  simp only [Checked.mem_pages]

lemma segments_pages : ∀ seg ∈ image.segments, seg.pages ≠ [] := by
  intro seg hseg
  rw [ha.segments] at hseg
  obtain ⟨s, hs, rfl⟩ := List.mem_map.mp hseg
  exact (ha.fits s hs).pages_ne_nil

lemma page_aligned : ∀ p ∈ image.pages, p.va.toNat % pageSize = 0 := by
  intro p hp
  obtain ⟨s, hs, n, hn, rfl⟩ := ha.mem_pages.mp hp
  rw [(ha.fits s hs).toNat_page_va hn, Nat.mul_mod_left]

lemma page_inRange : ∀ p ∈ image.pages, range.Contains p.va := by
  intro p hp
  obtain ⟨s, hs, n, hn, rfl⟩ := ha.mem_pages.mp hp
  have hfits := ha.fits s hs
  have hstart := ha.range_aligned.1
  have habove := UInt32.le_iff_toNat_le.mp hfits.above
  have hva := hfits.toNat_page_va hn
  have hend := hfits.page_lt hn.2
  have hbelow := hfits.below
  obtain ⟨hfirst, -⟩ := hn
  unfold Checked.firstPage pageSize at *
  constructor
  · rw [UInt32.le_iff_toNat_le, hva]
    omega
  · rw [UInt32.lt_iff_toNat_lt, hva]
    omega

lemma page_ascending : image.pages.Pairwise fun p q => p.va < q.va := by
  rw [ha.pages_eq, List.pairwise_flatMap]
  constructor
  · intro s hs
    unfold Checked.pages
    rw [List.pairwise_map]
    refine (List.pairwise_lt_range' _).imp_of_mem ?_
    intro a b hmema hmemb hab
    rw [List.mem_range'_1] at hmema hmemb
    rw [UInt32.lt_iff_toNat_lt, (ha.fits s hs).toNat_page_va ⟨hmema.1, by omega⟩,
      (ha.fits s hs).toNat_page_va ⟨hmemb.1, by omega⟩]
    unfold pageSize
    omega
  · refine ha.ascending.imp_of_mem ?_
    intro a b hmema hmemb hab p hp q hq
    obtain ⟨i, hi, rfl⟩ := Checked.mem_pages.mp hp
    obtain ⟨j, hj, rfl⟩ := Checked.mem_pages.mp hq
    rw [UInt32.lt_iff_toNat_lt, (ha.fits a hmema).toNat_page_va hi,
      (ha.fits b hmemb).toNat_page_va hj]
    have hij : i < j := by
      have hi := hi.2
      have hj := hj.1
      omega
    unfold pageSize
    omega

lemma copy_fits : ∀ p ∈ image.pages, ∀ c ∈ p.copy, 0 < c.len.toNat ∧
    c.pageOffset.toNat + c.len.toNat ≤ pageSize ∧
    c.fileOffset.toNat + c.len.toNat ≤ fileLen.toNat := by
  intro p hp c hc
  obtain ⟨s, hs, n, hn, rfl⟩ := ha.mem_pages.mp hp
  have hfits := ha.fits s hs
  obtain ⟨start, stop, hlt, hstart, hstop, hoffset, hpage, hlen⟩ := hfits.page_copy hn hc
  have hin := hfits.in_file
  rw [hoffset, hpage, hlen]
  refine ⟨by omega, ?_, by omega⟩
  unfold pageSize at *
  omega

end Accepted

/-! ## The prefix and the file -/

section Prefix

variable {elf : Bytes} {at_ : ℕ} (rest : Bytes)

lemma Fields.u8_append {x : UInt8} (h : Fields.u8 elf at_ = some x) :
    Fields.u8 (elf ++ rest) at_ = some x := by
  unfold Fields.u8 at *
  obtain ⟨hlt, -⟩ := List.getElem?_eq_some_iff.mp h
  rwa [List.getElem?_append_left hlt]

lemma Fields.u16_append {x : UInt16} (h : Fields.u16 elf at_ = some x) :
    Fields.u16 (elf ++ rest) at_ = some x := by
  unfold Fields.u16 at *
  obtain ⟨bs, hbs, rfl⟩ := Option.map_eq_some_iff.mp h
  rw [Fields.bytes_append hbs]
  rfl

lemma Fields.u32_append {x : UInt32} (h : Fields.u32 elf at_ = some x) :
    Fields.u32 (elf ++ rest) at_ = some x := by
  unfold Fields.u32 at *
  obtain ⟨bs, hbs, rfl⟩ := Option.map_eq_some_iff.mp h
  rw [Fields.bytes_append hbs]
  rfl

/-- A program header that is read from a prefix is that of the file. -/
lemma programHeader_append {h : Header} {index : ℕ} {ph : ProgramHeader}
    (hph : programHeader elf h index = .ok ph) : programHeader (elf ++ rest) h index = .ok ph := by
  unfold programHeader at *
  simp only [bind_eq_ok, okOr_eq_ok, pure_eq_ok] at *
  obtain ⟨type, h1, offset, h2, vaddr, h3, paddr, h4, filesz, h5, memsz, h6, rfl⟩ := hph
  exact ⟨type, Fields.u32_append rest h1, offset, Fields.u32_append rest h2, vaddr,
    Fields.u32_append rest h3, paddr, Fields.u32_append rest h4, filesz,
    Fields.u32_append rest h5, memsz, Fields.u32_append rest h6, rfl⟩

/-- The header that is read from a prefix is that of the file. -/
lemma header_append {h : Header} (hh : header elf = .ok h) : header (elf ++ rest) = .ok h := by
  unfold header at *
  simp only [bind_eq_ok, okOr_eq_ok, pure_eq_ok, guard_eq_ok] at *
  obtain ⟨hlen, hmagic, cls, h1, hcls, data, h2, hdata, ver, h3, hver, type, h4, htype, machine, h5,
    hmachine, version, h6, hversion, entry, h7, phoff, h8, ehsize, h9, hehsize, phentsize, h10,
    phnum, h11, hphnum, htable, rfl⟩ := hh
  obtain ⟨ver', hver', rfl⟩ := Option.map_eq_some_iff.mp h3
  refine ⟨by rw [List.length_append]; omega, ?_, cls, Fields.u8_append rest h1, hcls, data,
    Fields.u8_append rest h2, hdata, _, by rw [Fields.u8_append rest hver']; rfl, hver, type,
    Fields.u16_append rest h4, htype, machine, Fields.u16_append rest h5, hmachine, version,
    Fields.u32_append rest h6, hversion, entry, Fields.u32_append rest h7, phoff,
    Fields.u32_append rest h8, ehsize, Fields.u16_append rest h9, hehsize, phentsize,
    Fields.u16_append rest h10, phnum, Fields.u16_append rest h11, hphnum,
    by rw [List.length_append]; omega, rfl⟩
  have hmagic := not_not.mp hmagic
  rw [Fields.bytes_append hmagic]
  exact fun hne => hne rfl

end Prefix

lemma header_of_checked {elfPrefix : Bytes} {fileLen : UInt32} {h : Header}
    (hh : checkedHeader elfPrefix fileLen = .ok h) : header elfPrefix = .ok h := by
  unfold checkedHeader at hh
  rw [guard_eq_ok] at hh
  obtain ⟨-, hh⟩ := hh
  split_ifs at hh
  split at hh
  · next found hfound =>
    rw [guard_eq_ok] at hh
    rw [hfound, Except.ok.inj hh.2]
  · simp only [guard_eq_ok] at hh
    exact absurd hh.2.2.2 (by simp)
  · cases hh

end SystemScope.Elf
