import SystemScope.Os.Isolation
import SystemScope.Os.Model

/-!
# The loader from end to end

From the bytes of an executable to the bytes that its process sees.  The frame of a page holds the
file bytes of its copy and zeros (`Space.Sound.page_contents`); for a page of a segment these are
the bytes of the segment (`Elf.Checked.pageByte_eq`); and the page table leads to nothing else
(`Space.loads`).
-/

namespace SystemScope

namespace Elf

/-- The byte that a segment has at an address. -/
def Checked.byteAt (s : Checked) (file : Bytes) (va : ℕ) : UInt8 :=
  if va - s.vaddr.toNat < s.filesz.toNat then file.getD (s.offset.toNat + (va - s.vaddr.toNat)) 0
  else 0

/-- The byte that a page is planned to hold at an offset. -/
def PagePlan.byteAt (p : PagePlan) (file : Bytes) (i : ℕ) : UInt8 :=
  match p.copy with
  | some c =>
    if c.pageOffset.toNat ≤ i ∧ i < c.pageOffset.toNat + c.len.toNat then
      file.getD (c.fileOffset.toNat + (i - c.pageOffset.toNat)) 0
    else 0
  | none => 0

/-- A page of a segment is planned to hold the bytes of the segment, and zeros elsewhere. -/
lemma Checked.Fits.page_byteAt {s : Checked} {fileLen : UInt32} {range : UserRange}
    (hs : s.Fits fileLen range) {n : ℕ} (hn : s.HasPage n) (file : Bytes) {i : ℕ}
    (hi : i < pageSize) :
    (s.page n).byteAt file i =
      if s.vaddr.toNat ≤ n * pageSize + i then s.byteAt file (n * pageSize + i) else 0 := by
  unfold PagePlan.byteAt Checked.byteAt
  cases hc : (s.page n).copy with
  | none =>
    have hnone := page_no_copy hc
    dsimp only
    unfold pageSize at *
    by_cases hle : s.vaddr.toNat ≤ n * 4096 + i
    · rw [if_pos hle, if_neg (by omega)]
    · rw [if_neg hle]
  | some c =>
    obtain ⟨start, stop, hlt, hstart, hstop, hoffset, hpage, hlen⟩ := hs.page_copy hn hc
    dsimp only
    rw [hoffset, hpage, hlen]
    unfold pageSize at *
    by_cases hin : start ≤ n * 4096 + i ∧ n * 4096 + i < stop
    · rw [if_pos (by omega), if_pos (by omega), if_pos (by omega)]
      congr 1
      omega
    · rw [if_neg (by omega)]
      by_cases hle : s.vaddr.toNat ≤ n * 4096 + i
      · rw [if_pos hle, if_neg (by omega)]
      · rw [if_neg hle]

end Elf

namespace Os

open Elf ByteMap Rv32i Sv32

namespace Space.Sound

variable {config : KernelConfig} {layout : UserLayout} {boot : BootImage} {frames : List UInt32}
  {mapped : List Mapped} {s : Space} {m : ByteMap} {k n : ℕ} {w : Write}
  (h : s.Sound config layout boot frames mapped)

include h

/-- Every write of a creation is in one of its frames. -/
lemma effect_in_frame (hk : k < s.accesses) (hw : w ∈ s.effect m k) :
    ∃ f ∈ s.frames, f.toNat * pageBytes ≤ w.1 ∧
      w.1 + w.2.length ≤ f.toNat * pageBytes + pageBytes := by
  rcases effect_cases hk hw with
    ⟨f, i, frame, hf, hi, -, rfl⟩ | ⟨j, c, hc, -, rfl⟩ | ⟨j, e, he, -, rfl⟩
  · refine ⟨frame, List.mem_of_getElem? hf, by dsimp only; omega, ?_⟩
    rw [List.length_replicate]
    dsimp only
    unfold perFrame pageBytes maxAccess at *
    omega
  · obtain ⟨p, hp, h1, h2⟩ := h.built.copy_in_frame h.inPage (List.mem_of_getElem? hc)
    refine ⟨p.frame, h.built.mem_frames.mpr (.inr ⟨p, hp, rfl⟩), h1, ?_⟩
    rwa [length_read]
  · obtain ⟨t, ht, i, hi, haddr⟩ := h.built.entry_in_table (List.mem_of_getElem? he)
    have hrange := entry_range (t := t) hi
    refine ⟨t, h.built.mem_frames.mpr (.inl ht), ?_, ?_⟩
    · rw [haddr]
      exact hrange.1
    · rw [length_wordBytes, haddr]
      exact hrange.2

variable (hstaged : config.staging.Contains boot.staged.toNat boot.fileLen.toNat)

include hstaged

lemma staging_away {f : UInt32} (hf : f ∈ s.frames) :
    f.toNat * pageBytes + pageBytes ≤ boot.staged.toNat ∨
      boot.staged.toNat + boot.fileLen.toNat ≤ f.toNat * pageBytes := by
  obtain ⟨-, hbase, -, hsize⟩ := h.pool f (h.frame_mem hf)
  obtain ⟨hlen, hbase', -, hsize'⟩ := hstaged
  have hpool := h.valid.valid.framePool
  have hstaging := h.valid.valid.staging
  have hne := h.valid.valid.framePool_size
  have hdisjoint := h.valid.valid.staging_pool
  unfold Window.Overlaps Window.saturatingAdd at hdisjoint
  have hpos : config.framePool.size.toNat ≠ 0 := fun hzero => hne (UInt64.toNat_inj.mp hzero)
  unfold pageBytes at *
  by_contra hoverlap
  refine hdisjoint ⟨hpos, ?_, by omega, by omega⟩
  intro hzero
  have hsize : config.staging.size.toNat = 0 := UInt64.toNat_inj.mpr hzero
  omega

lemma staging_kept (hn : n ≤ s.accesses) :
    (m.after s.effect n).read boot.staged.toNat boot.fileLen.toNat =
      m.read boot.staged.toNat boot.fileLen.toNat := by
  refine read_after_away (k := 0) (Nat.zero_le n) ?_
  intro j _ hj w hw
  obtain ⟨f, hf, h1, h2⟩ := h.effect_in_frame (Nat.lt_of_lt_of_le hj hn) hw
  have haway := h.staging_away hstaged hf
  unfold Away
  omega

variable (hfile : ∀ p ∈ boot.image.pages, ∀ c ∈ p.copy,
    c.fileOffset.toNat + c.len.toNat ≤ boot.fileLen.toNat)
  {file : Bytes} (hintact : m.read boot.staged.toNat boot.fileLen.toNat = file)

include hintact

lemma staged_byte (hn : n ≤ s.accesses) {o : ℕ} (ho : o < boot.fileLen.toNat) :
    m.after s.effect n (boot.staged.toNat + o) = file.getD o 0 := by
  have hkept := read_sub (h.staging_kept (m := m) hstaged hn)
    (show boot.staged.toNat ≤ boot.staged.toNat + o by omega)
    (show boot.staged.toNat + o + 1 ≤ boot.staged.toNat + boot.fileLen.toNat by omega)
  rw [read_one, read_one] at hkept
  rw [(List.cons.inj hkept).1, ← hintact]
  unfold ByteMap.read
  rw [List.getD_eq_getElem _ _ (by simpa using ho)]
  simp

include hfile

/-- What a write does to a byte of a page: nothing, or it zeroes the byte, or it copies there what
the page is planned to hold. -/
lemma byte_write {p : Mapped} (hp : p ∈ mapped) {i : ℕ} (hi : i < pageBytes) (hk : k < s.accesses)
    (hw : w ∈ s.effect (m.after s.effect k) k) :
    Away w (p.frame.toNat * pageBytes + i) 1 ∨
      Covers w (p.frame.toNat * pageBytes + i) 1 ∧
        (k < s.zeroSteps ∧ slice w (p.frame.toNat * pageBytes + i) 1 = [0] ∨
          ∃ c, p.page.copy = some c ∧ c.pageOffset.toNat ≤ i ∧
            i < c.pageOffset.toNat + c.len.toNat ∧
            slice w (p.frame.toNat * pageBytes + i) 1 = [p.page.byteAt file i]) := by
  rcases away_or_covers w (p.frame.toNat * pageBytes + i) with haway | hcovers
  · exact .inl haway
  rcases effect_cases hk hw with
    ⟨f, j, frame, hf, hj, rfl, rfl⟩ | ⟨j, c, hc, -, rfl⟩ | ⟨j, e, he, -, rfl⟩
  · exact .inr ⟨hcovers, .inl ⟨zero_lt hf hj, slice_replicate hcovers⟩⟩
  · obtain ⟨q, hq, copy, hcopy, hpiece⟩ := h.built.mem_copies (List.mem_of_getElem? hc)
    obtain ⟨o, hsrc, hdst, -, hle, -⟩ := mem_splitCopy hpiece
    have hin := h.inPage q.page (h.built.page_of_copy hq hcopy) copy hcopy
    have hfits := hfile q.page (h.built.page_of_copy hq hcopy) copy hcopy
    have hslice := slice_read hcovers
    obtain ⟨h1, h2⟩ := hcovers
    rw [length_read] at h2
    dsimp only at h1 h2
    have hframe : q.frame.toNat = p.frame.toNat := by
      unfold pageBytes at *
      omega
    obtain rfl := h.built.frame_inj h.nodup hq hp (UInt32.toNat_inj.mp hframe)
    refine .inr ⟨⟨h1, by rwa [length_read]⟩, .inr ⟨copy, hcopy, by omega, by omega, ?_⟩⟩
    have hoffset : c.1 + (q.frame.toNat * pageBytes + i - c.2.1) =
        boot.staged.toNat + (copy.fileOffset.toNat + (i - copy.pageOffset.toNat)) := by omega
    rw [hslice, hoffset, h.staged_byte hstaged hintact (Nat.le_of_lt hk) (by omega)]
    unfold PagePlan.byteAt
    rw [hcopy]
    dsimp only
    rw [if_pos (by omega)]
  · obtain ⟨t, ht, i', hi', haddr⟩ := h.built.entry_in_table (List.mem_of_getElem? he)
    have hrange := entry_range (t := t) hi'
    rw [← haddr] at hrange
    have haway := away_of_ne (w := (e.1, wordBytes e.2)) (h.built.table_ne_frame h.nodup ht hp)
      hrange.1 (by rw [length_wordBytes]; exact hrange.2)
    exact .inl (haway.part (by omega) (by omega))

/-- The frame of a page holds what the page is planned to hold. -/
lemma page_contents {p : Mapped} (hp : p ∈ mapped) {i : ℕ} (hi : i < pageBytes) :
    m.after s.effect s.accesses (p.frame.toNat * pageBytes + i) = p.page.byteAt file i := by
  have hread : (m.after s.effect s.accesses).read (p.frame.toNat * pageBytes + i) 1 =
      [p.page.byteAt file i] := by
    by_cases hcopied : ∃ c, p.page.copy = some c ∧ c.pageOffset.toNat ≤ i ∧
        i < c.pageOffset.toNat + c.len.toNat
    · obtain ⟨c, hcopy, hge, hlt⟩ := hcopied
      obtain ⟨o, l, hpiece, ho, hol⟩ : ∃ o l, (boot.staged.toNat + c.fileOffset.toNat + o,
          p.frame.toNat * pageBytes + c.pageOffset.toNat + o, l) ∈
            splitCopy (boot.staged.toNat + c.fileOffset.toNat)
              (p.frame.toNat * pageBytes + c.pageOffset.toNat) c.len.toNat ∧
          o ≤ i - c.pageOffset.toNat ∧ i - c.pageOffset.toNat < o + l :=
        exists_piece (by omega)
      have hmem : (boot.staged.toNat + c.fileOffset.toNat + o,
          p.frame.toNat * pageBytes + c.pageOffset.toNat + o, l) ∈ s.copies := by
        rw [h.built.copies]
        refine List.mem_flatMap.mpr ⟨p, hp, ?_⟩
        unfold Mapped.copies Placing.copiesOf
        rw [hcopy]
        exact hpiece
      obtain ⟨j, hj⟩ := List.mem_iff_getElem?.mp hmem
      obtain ⟨hjlt, -⟩ := List.getElem?_eq_some_iff.mp hj
      have hstep : s.zeroSteps + (2 * j + 1) < s.accesses := by
        unfold accesses
        omega
      have hw := effect_write (m := m.after s.effect (s.zeroSteps + (2 * j + 1))) hj
      have hcovers : Covers (p.frame.toNat * pageBytes + c.pageOffset.toNat + o,
          (m.after s.effect (s.zeroSteps + (2 * j + 1))).read
            (boot.staged.toNat + c.fileOffset.toNat + o) l)
          (p.frame.toNat * pageBytes + i) 1 := by
        unfold Covers
        rw [length_read]
        dsimp only
        omega
      refine read_after (P := (· = [p.page.byteAt file i])) hstep hw hcovers ?_ ?_
      · rcases h.byte_write hstaged hfile hintact hp hi hstep hw with
          haway | ⟨-, ⟨hzero, -⟩ | ⟨-, -, -, -, hslice⟩⟩
        · exact absurd haway hcovers.not_away
        · omega
        · exact hslice
      · intro k hk hlt w hw
        rcases h.byte_write hstaged hfile hintact hp hi hlt hw with
          haway | ⟨hcov, ⟨hzero, -⟩ | ⟨-, -, -, -, hslice⟩⟩
        · exact .inl haway
        · omega
        · exact .inr ⟨hcov, hslice⟩
    · have hnone : p.page.byteAt file i = 0 := by
        unfold PagePlan.byteAt
        split
        · next c hcopy =>
          rw [if_neg]
          exact fun hin => hcopied ⟨c, hcopy, hin⟩
        · rfl
      obtain ⟨f, hf⟩ := List.mem_iff_getElem?.mp (h.built.mem_frames.mpr (.inr ⟨p, hp, rfl⟩))
      have hpiece : i / maxAccess < perFrame := by
        unfold perFrame pageBytes maxAccess at *
        omega
      have hstep : f * perFrame + i / maxAccess < s.accesses := by
        have hlt := zero_lt hf hpiece
        unfold accesses
        omega
      have hcovers : Covers (p.frame.toNat * pageBytes + i / maxAccess * maxAccess,
          List.replicate maxAccess 0) (p.frame.toNat * pageBytes + i) 1 := by
        unfold Covers maxAccess
        rw [List.length_replicate]
        dsimp only
        omega
      rw [hnone]
      refine read_after (P := (· = [0])) hstep (effect_zero hf hpiece) hcovers
        (slice_replicate hcovers) ?_
      intro k hk hlt w hw
      rcases h.byte_write hstaged hfile hintact hp hi hlt hw with
        haway | ⟨hcov, ⟨-, hslice⟩ | ⟨c, hcopy, hge, hle, -⟩⟩
      · exact .inl haway
      · exact .inr ⟨hcov, hslice⟩
      · exact absurd ⟨c, hcopy, hge, hle⟩ hcopied
  rw [read_one] at hread
  exact (List.cons.inj hread).1

end Space.Sound

/-- What the user sees at an address is a byte: some access is allowed there, and every one that is
finds the byte. -/
structure Sees (m : ByteMap) (root va : UInt32) (b : UInt8) : Prop where
  allowed : ∃ access pa, translateIn m root .user false false access va = .ok pa
  found : ∀ sum mxr access pa, translateIn m root .user sum mxr access va = .ok pa → m pa.toNat = b

/-- A loadable segment of a file. -/
def IsLoaded (file : Bytes) (h : Header) (ph : ProgramHeader) : Prop :=
  ∃ index < h.phnum.toNat, programHeader file h index = .ok ph ∧ ph.type = ptLoad

/-- The segment has memory at an address. -/
def Holds (ph : ProgramHeader) (va : ℕ) : Prop :=
  ph.vaddr.toNat ≤ va ∧ va < ph.vaddr.toNat + ph.memsz.toNat

/-- A page of the segment is that of the address. -/
def Touches (ph : ProgramHeader) (va : ℕ) : Prop :=
  ∃ va', Holds ph va' ∧ va' / pageBytes = va / pageBytes

/-- The address is on the stack. -/
def OnStack (layout : UserLayout) (va : UInt32) : Prop :=
  ∃ base ∈ layout.stackBase, base ≤ va ∧ va < layout.stackTop

/-- The user of a page table sees a file as its program headers say, zeros on the rest of its pages
and on the stack, and nothing else. -/
structure Loads (layout : UserLayout) (file : Bytes) (h : Header) (m : ByteMap) (root : UInt32) :
    Prop where
  in_file : ∀ ph, IsLoaded file h ph → ph.memsz ≠ 0 →
    ph.offset.toNat + ph.filesz.toNat ≤ file.length
  segment : ∀ ph, IsLoaded file h ph → ∀ va : UInt32, Holds ph va.toNat →
    Sees m root va
      (if va.toNat - ph.vaddr.toNat < ph.filesz.toNat then
        file.getD (ph.offset.toNat + (va.toNat - ph.vaddr.toNat)) 0
      else 0)
  padding : ∀ va : UInt32, (∃ ph, IsLoaded file h ph ∧ Touches ph va.toNat) →
    (∀ ph, IsLoaded file h ph → ¬Holds ph va.toNat) → Sees m root va 0
  stack : ∀ va, OnStack layout va → Sees m root va 0
  nothing_else : ∀ sum mxr access va pa, translateIn m root .user sum mxr access va = .ok pa →
    (∃ ph, IsLoaded file h ph ∧ Touches ph va.toNat) ∨ OnStack layout va

lemma segment_of_loaded {elfPrefix rest : Bytes} {fileLen : UInt32} {range : UserRange} {h : Header}
    {segments : List Checked} {image : UserImage}
    (ha : Accepted elfPrefix fileLen range h segments image) {ph : ProgramHeader}
    (hph : IsLoaded (elfPrefix ++ rest) h ph) (hne : ph.memsz ≠ 0) :
    ∃ s ∈ segments, s.offset = ph.offset ∧ s.vaddr = ph.vaddr ∧ s.filesz = ph.filesz ∧
      s.memsz = ph.memsz := by
  obtain ⟨index, hindex, hread, htype⟩ := hph
  rcases ha.complete index hindex with ⟨ph', hread', hnothing⟩
    | ⟨s, hs, ⟨ph', hread', -, hfields⟩, -⟩
  · rw [programHeader_append rest hread'] at hread
    cases hread
    exact absurd (hnothing htype) hne
  · rw [programHeader_append rest hread'] at hread
    cases hread
    exact ⟨s, hs, hfields⟩

lemma loaded_of_segment {elfPrefix : Bytes} (rest : Bytes) {fileLen : UInt32} {range : UserRange}
    {h : Header} {segments : List Checked} {image : UserImage}
    (ha : Accepted elfPrefix fileLen range h segments image) {s : Checked} (hs : s ∈ segments) :
    ∃ ph, IsLoaded (elfPrefix ++ rest) h ph ∧ s.offset = ph.offset ∧ s.vaddr = ph.vaddr ∧
      s.filesz = ph.filesz ∧ s.memsz = ph.memsz := by
  obtain ⟨index, hindex, ⟨ph, hread, htype, hfields⟩, -⟩ := ha.sound s hs
  exact ⟨ph, ⟨index, hindex, programHeader_append rest hread, htype⟩, hfields⟩

namespace Space.Sound

variable {config : KernelConfig} {layout : UserLayout} {boot : BootImage} {frames : List UInt32}
  {mapped : List Mapped} {s : Space} {m : ByteMap}
  (h : s.Sound config layout boot frames mapped)
  (hstaged : config.staging.Contains boot.staged.toNat boot.fileLen.toNat)
  {elfPrefix rest : Bytes}
    (hintact : m.read boot.staged.toNat boot.fileLen.toNat = elfPrefix ++ rest)
  {header : Header} {segments : List Checked}
  (ha : Accepted elfPrefix boot.fileLen layout.imageRange header segments boot.image)

include h hstaged hintact ha

/-- What the user sees on a page is what the page is planned to hold. -/
lemma sees_page {p : Mapped} (hp : p ∈ mapped) {va : UInt32} (hon : OnPage p.page va) :
    Sees (m.after s.effect s.accesses) s.root va
      (p.page.byteAt (elfPrefix ++ rest) (va.toNat % pageBytes)) := by
  have huser : Privilege.user ≠ .machine := by decide
  constructor
  · have hallowed : ∃ access, Allows p.page.perms access := by
      rcases (h.page_perms hp).1 with hread | hexecute
      · exact ⟨.load, hread⟩
      · exact ⟨.fetch, hexecute⟩
    obtain ⟨access, hallows⟩ := hallowed
    refine ⟨access, p.frame.toUInt64 <<< 12 ||| (va &&& 0xFFF).toUInt64, ?_⟩
    rw [h.translate_page huser false access hp hon, if_pos ⟨rfl, hallows⟩]
  · intro sum mxr access pa hwalk
    rcases h.walk_cases h.perFrame_le (Nat.le_refl _) huser hwalk with
      ⟨hne, -⟩ | ⟨-, q, hq, h1, h0, hpa⟩
    · exact absurd rfl hne
    · obtain ⟨h1', h0'⟩ := (onPage_iff (h.page_aligned hp)).mp hon
      have hva := eq_of_indices (h.page_aligned hq) (h.page_aligned hp) (h1.trans h1'.symm)
        (h0.trans h0'.symm)
      obtain rfl := h.page_inj hq hp hva
      rw [hpa]
      exact h.page_contents hstaged (fun p hp c hc => (ha.copy_fits p hp c hc).2.2) hintact hq
        (Nat.mod_lt _ (by decide))

lemma sees_segment {seg : Checked} (hseg : seg ∈ segments) {va : UInt32}
    (hpage : seg.HasPage (va.toNat / pageBytes)) :
    Sees (m.after s.effect s.accesses) s.root va
      (if seg.vaddr.toNat ≤ va.toNat then seg.byteAt (elfPrefix ++ rest) va.toNat else 0) := by
  have hfits := ha.fits seg hseg
  have hmem : seg.page (va.toNat / pageBytes) ∈ pages boot.image layout :=
    List.mem_append_left _ (ha.mem_pages.mpr ⟨seg, hseg, _, hpage, rfl⟩)
  rw [← h.built.pages] at hmem
  obtain ⟨p, hp, hpeq⟩ := List.mem_map.mp hmem
  have hva := hfits.toNat_page_va hpage
  have hon : OnPage p.page va := by
    unfold OnPage
    rw [hpeq, hva]
    unfold pageBytes Elf.pageSize
    omega
  have hsees := h.sees_page hstaged hintact ha hp hon
  have hbyte := hfits.page_byteAt hpage (elfPrefix ++ rest)
    (show va.toNat % pageBytes < Elf.pageSize from Nat.mod_lt _ (by decide))
  have hsplit : va.toNat / pageBytes * Elf.pageSize + va.toNat % pageBytes = va.toNat := by
    unfold pageBytes Elf.pageSize
    omega
  rw [hsplit] at hbyte
  rwa [hpeq, hbyte] at hsees

lemma sees_stack {va : UInt32} (hva : OnStack layout va) :
    Sees (m.after s.effect s.accesses) s.root va 0 := by
  obtain ⟨base, hbase, hle, hlt⟩ := hva
  obtain ⟨base', hbase', -, hrange⟩ := h.valid.stack_range
  rw [hbase] at hbase'
  cases hbase'
  rw [UInt32.le_iff_toNat_le] at hle
  rw [UInt32.lt_iff_toNat_lt] at hlt
  have hi : (va.toNat - base.toNat) / pageBytes < layout.stackPages.toNat := by
    unfold pageBytes at *
    omega
  have hnat := h.valid.toNat_stackVa hbase hi
  have hstack : { va := layout.stackBase.getD 0 +
        UInt32.ofNat ((va.toNat - base.toNat) / pageBytes) * UInt32.ofNat pageBytes
                  perms := stackPerms, copy := none } ∈ pages boot.image layout := by
    refine List.mem_append_right _ (List.mem_map.mpr ⟨_, ?_, rfl⟩)
    exact List.mem_map.mpr ⟨_, List.mem_range.mpr hi, rfl⟩
  rw [← h.built.pages] at hstack
  obtain ⟨p, hp, hpeq⟩ := List.mem_map.mp hstack
  have hon : OnPage p.page va := by
    unfold OnPage
    rw [hpeq, hnat]
    unfold pageBytes
    omega
  have hsees := h.sees_page hstaged hintact ha hp hon
  rwa [hpeq] at hsees

omit hstaged hintact in
/-- The user sees no page but those of the segments and of the stack. -/
lemma seen {sum mxr : Bool} {access : Rv32i.Access} {va : UInt32} {pa : UInt64}
    (hwalk : translateIn (m.after s.effect s.accesses) s.root .user sum mxr access va = .ok pa) :
    (∃ seg ∈ segments, seg.HasPage (va.toNat / pageBytes)) ∨ OnStack layout va := by
  have huser : Privilege.user ≠ .machine := by decide
  rcases h.walk_cases h.perFrame_le (Nat.le_refl _) huser hwalk with
    ⟨hne, -⟩ | ⟨-, p, hp, h1, h0, -⟩
  · exact absurd rfl hne
  · obtain ⟨hge, hlt⟩ := (onPage_iff (h.page_aligned hp)).mpr ⟨h1, h0⟩
    rcases List.mem_append.mp (h.page_mem hp) with hpage | hpage
    · obtain ⟨seg, hseg, n, hn, heq⟩ := ha.mem_pages.mp hpage
      have hva := (ha.fits seg hseg).toNat_page_va hn
      rw [← heq] at hva
      have hdiv : va.toNat / pageBytes = n := by
        unfold pageBytes Elf.pageSize at *
        omega
      exact .inl ⟨seg, hseg, hdiv ▸ hn⟩
    · obtain ⟨va', hva', heq⟩ := List.mem_map.mp hpage
      obtain ⟨haligned, base, hbase, hle, htop⟩ := h.valid.stackVa_range hva'
      rw [← heq] at hge hlt
      rw [UInt32.le_iff_toNat_le] at hle
      refine .inr ⟨base, hbase, ?_, ?_⟩
      · rw [UInt32.le_iff_toNat_le]
        exact hle.trans hge
      · rw [UInt32.lt_iff_toNat_lt]
        exact Nat.lt_of_lt_of_le hlt htop

end Space.Sound

/-- The page of an address of a segment is one of its pages, and the other way round. -/
lemma hasPage_iff {seg : Checked} {fileLen : UInt32} {range : UserRange}
    (hfits : seg.Fits fileLen range) {ph : ProgramHeader} (hvaddr : seg.vaddr = ph.vaddr)
    (hmemsz : seg.memsz = ph.memsz) {va : ℕ} :
    seg.HasPage (va / pageBytes) ↔ Touches ph va := by
  have hpos := hfits.memsz_pos
  unfold Checked.HasPage Touches Holds
  rw [← hvaddr, ← hmemsz]
  unfold Checked.firstPage Checked.lastPage Checked.end Elf.pageSize pageBytes
  constructor
  · intro hpage
    exact ⟨max seg.vaddr.toNat (va / 4096 * 4096), by omega, by omega⟩
  · rintro ⟨va', hholds, hsame⟩
    omega

/-- The bytes of an accepted executable that is staged intact, as its process sees them when its
creation has finished. -/
lemma Space.Sound.loads {config : KernelConfig} {layout : UserLayout} {boot : BootImage}
    {frames : List UInt32} {mapped : List Mapped} {s : Space} {m : ByteMap}
    (h : s.Sound config layout boot frames mapped)
    (hstaged : config.staging.Contains boot.staged.toNat boot.fileLen.toNat)
    {elfPrefix rest : Bytes}
    (hintact : m.read boot.staged.toNat boot.fileLen.toNat = elfPrefix ++ rest) {header : Header}
    {segments : List Checked}
    (ha : Accepted elfPrefix boot.fileLen layout.imageRange header segments boot.image) :
    Loads layout (elfPrefix ++ rest) header (m.after s.effect s.accesses) s.root := by
  have hlength : (elfPrefix ++ rest).length = boot.fileLen.toNat := by
    rw [← hintact, length_read]
  have hne {ph : ProgramHeader} {va : ℕ} (hholds : Holds ph va) : ph.memsz ≠ 0 := by
    intro hzero
    unfold Holds at hholds
    rw [hzero] at hholds
    exact absurd hholds (by simp)
  constructor
  · intro ph hph hmemsz
    obtain ⟨seg, hseg, hoffset, -, hfilesz, -⟩ := segment_of_loaded ha hph hmemsz
    have hin := (ha.fits seg hseg).in_file
    rwa [hoffset, hfilesz, ← hlength] at hin
  · intro ph hph va hholds
    obtain ⟨seg, hseg, hoffset, hvaddr, hfilesz, hmemsz⟩ := segment_of_loaded ha hph (hne hholds)
    have hpage := (hasPage_iff (ha.fits seg hseg) hvaddr hmemsz).mpr ⟨va.toNat, hholds, rfl⟩
    have hsees := h.sees_segment hstaged hintact ha hseg hpage
    rw [hvaddr, if_pos hholds.1] at hsees
    unfold Checked.byteAt at hsees
    rwa [hvaddr, hfilesz, hoffset] at hsees
  · rintro va ⟨ph, hph, htouches⟩ hnone
    obtain ⟨va', hholds, hsame⟩ := htouches
    obtain ⟨seg, hseg, hoffset, hvaddr, hfilesz, hmemsz⟩ := segment_of_loaded ha hph (hne hholds)
    have hfits := ha.fits seg hseg
    have hpage := (hasPage_iff hfits hvaddr hmemsz).mpr ⟨va', hholds, hsame⟩
    have hsees := h.sees_segment hstaged hintact ha hseg hpage
    have hzero :
      (if seg.vaddr.toNat ≤ va.toNat then seg.byteAt (elfPrefix ++ rest) va.toNat else 0) =
        0 := by
      by_cases hle : seg.vaddr.toNat ≤ va.toNat
      · have hpast := hnone ph hph
        have hfile := hfits.filesz_le_memsz
        unfold Holds at hpast
        rw [← hvaddr, ← hmemsz] at hpast
        rw [if_pos hle, Checked.byteAt, if_neg (by omega)]
      · rw [if_neg hle]
    rwa [hzero] at hsees
  · intro va hva
    exact h.sees_stack hstaged hintact ha hva
  · intro sum mxr access va pa hwalk
    rcases h.seen ha hwalk with ⟨seg, hseg, hpage⟩ | hstack
    · obtain ⟨ph, hph, -, hvaddr, -, hmemsz⟩ := loaded_of_segment rest ha hseg
      exact .inl ⟨ph, hph, (hasPage_iff (ha.fits seg hseg) hvaddr hmemsz).mp hpage⟩
    · exact .inr hstack

/-- What the kernel adds to its processes when it admits one. -/
lemma Model.admitted {model model' : Model} {pid : ℕ} {image : UserImage} {space : Space}
    {notes : List Note} (h : model.admit_ pid image space = .ok (model', notes)) :
    model'.procs.pcbs = model.procs.pcbs ++
      [Pcb.new pid space (Context.initial image.entry model.source.layout.stackTop)] := by
  unfold Model.admit_ at h
  obtain ⟨procs, hprocs, h⟩ := Checks.bind_eq_ok.mp h
  have hprocs := Checks.mapError_eq_ok.mp hprocs
  cases h
  unfold Processes.admit_ at hprocs
  simp only [Checks.guard_eq_ok] at hprocs
  obtain ⟨-, -, -, hprocs⟩ := hprocs
  cases hprocs
  rfl

/-- For every executable that the parser accepts from some prefix and that is staged intact, whose
process is built in frames of the pool: when the creation has finished, the process sees its file;
and when it is admitted, it starts at the entry point, with only the stack pointer set. -/
theorem loader {config : KernelConfig} {layout : UserLayout}
    (hlayout : validateLayout config layout = .ok ()) {file elfPrefix : Bytes}
    (hhead : elfPrefix <+: file) {boot : BootImage}
    (hstaged : config.staging.Contains boot.staged.toNat boot.fileLen.toNat)
    (hparse : parseUserElf32 elfPrefix boot.fileLen layout.imageRange = .ok boot.image)
    (hconflict : ¬MegapageConflict boot.image config) {frames : List UInt32}
    (hpool : ∀ f ∈ frames, InPool config f) (hascending : frames.Pairwise (· < ·)) {s : Space}
    (hbuild : Space.build config layout boot frames = .ok s) {stage : Stage}
    (hstage : stage.space = some s) {m : ByteMap}
    (hintact : m.read boot.staged.toNat boot.fileLen.toNat = file) :
    ∃ h, header file = .ok h ∧
      (∃ o final, ProcOp.exchanges config s.accesses (.new stage, m) = .ok (some (o, final)) ∧
        o.isFinished config = .ok true ∧ Loads layout file h final s.root) ∧
      ∀ (model model' : Model) (pid : ℕ) (notes : List Note), model.source.layout = layout →
        model.admit_ pid boot.image s = .ok (model', notes) →
          ∃ pcb context, model'.procs.pcbs = model.procs.pcbs ++ [pcb] ∧ pcb.pid = pid ∧
            pcb.root = s.root ∧ pcb.context = some context ∧ context.pc = h.entry ∧
            context.sstatus = 0 ∧
            ∀ i, context.regs[i]? = if i < 31 then some (if i = 1 then layout.stackTop else 0)
              else none := by
  obtain ⟨rest, rfl⟩ := hhead
  obtain ⟨h, segments, ha⟩ := accepted_of_parse hparse
  obtain ⟨mapped, hs⟩ := Space.sound_of_parse hlayout hparse hconflict hpool hascending hbuild
  refine ⟨h, header_append rest (header_of_checked ha.header), ?_, ?_⟩
  · exact ⟨_, _, hs.exchanges hstage m (Nat.le_refl _),
      ProcOp.isFinished_building hstage hs.accesses_lt, hs.loads hstaged hintact ha⟩
  · intro model model' pid notes hsource hadmitted
    refine ⟨_, _, Model.admitted hadmitted, rfl, rfl, rfl, ha.entry, rfl, ?_⟩
    intro i
    rw [hsource]
    unfold Context.initial
    dsimp only
    rw [Vector.getElem?_set, Vector.getElem?_replicate]
    by_cases hi : i < 31
    · by_cases hsp : 1 = i
      · subst hsp
        simp
      · rw [if_neg hsp, if_pos hi, if_pos hi, if_neg (Ne.symm hsp)]
    · rw [if_neg (by omega), if_neg hi, if_neg hi]

/-- A memory with the small executable in staging. -/
def smallMemory : ByteMap := fun addr => smallElf.getD (addr - 0x80100000) 0

/-- The small executable, loaded by its own header. -/
theorem loader_small :
    ∃ s, Space.build (smallConfig 0x80000000) smallLayout smallElfBoot (smallFrames 0x80000000) =
        .ok s ∧
      ∃ h, header smallElf = .ok h ∧ ∃ o final,
        ProcOp.exchanges (smallConfig 0x80000000) s.accesses (.new (.create 1 s), smallMemory) =
            .ok (some (o, final)) ∧
          Loads smallLayout smallElf h final s.root := by
  obtain ⟨s, hs⟩ := build_smallElf
  have hstage : (Stage.create 1 s).space = some s := rfl
  obtain ⟨h, hheader, ⟨o, final, hrun, -, hloads⟩, -⟩ := loader (by decide +kernel)
    (List.prefix_rfl (l := smallElf)) (by decide +kernel) parse_smallElf (by decide +kernel)
    smallFrames_inPool (by decide) hs hstage (show smallMemory.read 0x80100000 84 = smallElf by rfl)
  exact ⟨s, hs, h, hheader, o, final, hrun, hloads⟩

end Os

end SystemScope
