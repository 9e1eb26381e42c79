import SystemScope.Os.Creation
import SystemScope.Os.Entries

/-!
# What a creation leaves in its frames

The memory in the course of a creation, whatever was there before.  A write of the creation goes to
one place (`Space.Built.effect_cases`): a zeroing to a frame, a copy to the frame of its page, an
entry to its table.  So the frame of a page does not change once the entries begin, a level-0 table
does not change once the entries of the root begin, and an entry is zero until it is
written. -/

namespace SystemScope.Os

open Elf ByteMap

/-- Every copy of the image stays in its page. -/
def CopiesInPage (image : UserImage) : Prop :=
  ∀ p ∈ image.pages, ∀ c ∈ p.copy, c.pageOffset.toNat + c.len.toNat ≤ pageBytes

/-- The address of an entry of a table. -/
def entryAddr (table : UInt32) (i : ℕ) : ℕ := table.toNat * pageBytes + 4 * i

lemma entry_range {t : UInt32} {i : ℕ} (hi : i < 2 ^ 10) :
    t.toNat * pageBytes ≤ entryAddr t i ∧
      entryAddr t i + 4 ≤ t.toNat * pageBytes + pageBytes := by
  unfold entryAddr pageBytes
  omega

lemma covers_entry (table : UInt32) (i : ℕ) :
    Covers (table.toNat * pageBytes + i / 4 * maxAccess, List.replicate maxAccess 0)
      (entryAddr table i) 4 := by
  unfold Covers entryAddr maxAccess
  rw [List.length_replicate]
  dsimp only
  omega

lemma page_disjoint {a b : UInt32} (h : a ≠ b) :
    a.toNat * pageBytes + pageBytes ≤ b.toNat * pageBytes ∨
      b.toNat * pageBytes + pageBytes ≤ a.toNat * pageBytes := by
  have hne : a.toNat ≠ b.toNat := fun heq => h (UInt32.toNat_inj.mp heq)
  unfold pageBytes
  omega

/-- A write into one frame is away from another. -/
lemma away_of_ne {a b : UInt32} {w : Write} (hab : a ≠ b) (h1 : a.toNat * pageBytes ≤ w.1)
    (h2 : w.1 + w.2.length ≤ a.toNat * pageBytes + pageBytes) :
    Away w (b.toNat * pageBytes) pageBytes := by
  have hdisjoint := page_disjoint hab
  unfold Away
  omega

@[simp] lemma length_wordBytes (w : UInt32) : (wordBytes w).length = 4 := by
  simp [wordBytes]

namespace Space

variable {config : KernelConfig} {layout : UserLayout} {boot : BootImage} {frames : List UInt32}
  {mapped : List Mapped} {s : Space} {m : ByteMap} {w : Write} {k n : ℕ}

/-- The step at which the entries of the root begin. -/
def upperStart (s : Space) (mapped : List Mapped) : ℕ := s.entryStart + mapped.length

/-- A write of a step is a zeroing, a piece of a copy, or an entry. -/
lemma effect_cases (hk : k < s.accesses) (hw : w ∈ s.effect m k) :
    (∃ f i frame, s.frames[f]? = some frame ∧ i < perFrame ∧ k = f * perFrame + i ∧
        w = (frame.toNat * pageBytes + i * maxAccess, List.replicate maxAccess 0)) ∨
      (∃ j c, s.copies[j]? = some c ∧ k = s.zeroSteps + (2 * j + 1) ∧
        w = (c.2.1, m.read c.1 c.2.2)) ∨
      ∃ i e, s.ptes[i]? = some e ∧ k = s.entryStart + i ∧ w = (e.1, wordBytes e.2) := by
  rcases s.step_cases hk with
    ⟨f, i, frame, hf, hi, rfl⟩ | ⟨j, c, hc, rfl⟩ | ⟨j, c, hc, rfl⟩ | ⟨i, e, he, rfl⟩
  · rw [effect_zero hf hi] at hw
    exact .inl ⟨f, i, frame, hf, hi, rfl, (Option.some.inj hw).symm⟩
  · rw [effect_read hc] at hw
    cases hw
  · rw [effect_write hc] at hw
    exact .inr (.inl ⟨j, c, hc, rfl, (Option.some.inj hw).symm⟩)
  · rw [effect_entry he] at hw
    exact .inr (.inr ⟨i, e, he, rfl, (Option.some.inj hw).symm⟩)

namespace Built

variable (h : s.Built config layout boot frames mapped)

include h

lemma mem_frames {f : UInt32} :
    f ∈ s.frames ↔ f ∈ s.tables ∨ ∃ p ∈ mapped, p.frame = f := by
  rw [h.perm.mem_iff, h.tables]
  simp only [List.mem_cons, List.mem_append, List.mem_map, or_assoc]

lemma root_mem : s.root ∈ s.tables := by
  rw [h.tables]
  exact List.mem_cons_self

lemma table_mem_tables {p : Mapped} (hp : p ∈ mapped) : p.table ∈ s.tables := by
  rw [h.tables]
  exact List.mem_cons_of_mem _ (List.mem_map_of_mem (h.table_mem p hp))

lemma table_ne_frame (hnodup : frames.Nodup) {t : UInt32} (ht : t ∈ s.tables) {p : Mapped}
    (hp : p ∈ mapped) : t ≠ p.frame := by
  have hall := h.nodup hnodup
  rw [← List.cons_append, ← h.tables] at hall
  exact List.disjoint_of_nodup_append hall ht ∘ fun heq => heq ▸ List.mem_map_of_mem hp

/-- Distinct pages have distinct frames. -/
lemma frame_inj (hnodup : frames.Nodup) {p q : Mapped} (hp : p ∈ mapped) (hq : q ∈ mapped)
    (heq : p.frame = q.frame) : p = q := by
  have hall := h.nodup hnodup
  have hframes := (List.nodup_append.mp (List.nodup_cons.mp hall).2).2.1
  exact List.inj_on_of_nodup_map hframes hp hq heq

lemma mem_copies {c : ℕ × ℕ × ℕ} (hc : c ∈ s.copies) :
    ∃ p ∈ mapped, ∃ copy, p.page.copy = some copy ∧
      c ∈ splitCopy (boot.staged.toNat + copy.fileOffset.toNat)
        (p.frame.toNat * pageBytes + copy.pageOffset.toNat) copy.len.toNat := by
  rw [h.copies] at hc
  obtain ⟨p, hp, hc⟩ := List.mem_flatMap.mp hc
  unfold Mapped.copies Placing.copiesOf at hc
  split at hc
  · cases hc
  · next copy hcopy => exact ⟨p, hp, copy, hcopy, hc⟩

lemma page_of_copy {p : Mapped} (hp : p ∈ mapped) {copy : FileCopy}
    (hcopy : p.page.copy = some copy) : p.page ∈ boot.image.pages := by
  have hpage : p.page ∈ Os.pages boot.image layout := by
    rw [← h.pages]
    exact List.mem_map_of_mem hp
  rcases List.mem_append.mp hpage with hpage | hpage
  · exact hpage
  · obtain ⟨va, -, heq⟩ := List.mem_map.mp hpage
    rw [← heq] at hcopy
    cases hcopy

lemma copy_in_frame (hin : CopiesInPage boot.image) {c : ℕ × ℕ × ℕ} (hc : c ∈ s.copies) :
    ∃ p ∈ mapped, p.frame.toNat * pageBytes ≤ c.2.1 ∧
      c.2.1 + c.2.2 ≤ p.frame.toNat * pageBytes + pageBytes := by
  obtain ⟨p, hp, copy, hcopy, hc⟩ := h.mem_copies hc
  obtain ⟨o, -, hdst, -, hle, -⟩ := mem_splitCopy hc
  have hfits := hin p.page (h.page_of_copy hp hcopy) copy hcopy
  exact ⟨p, hp, by omega, by omega⟩

/-- An entry is in a table. -/
lemma mem_ptes {e : ℕ × UInt32} (he : e ∈ s.ptes) :
    (∃ p ∈ mapped, e = p.leaf) ∨
      ∃ u ∈ upper config s.slots, e = (upperAddr s.root u.1, u.2) := by
  rw [h.ptes] at he
  rcases List.mem_append.mp he with he | he
  · obtain ⟨p, hp, rfl⟩ := List.mem_map.mp he
    exact .inl ⟨p, hp, rfl⟩
  · obtain ⟨u, hu, rfl⟩ := List.mem_map.mp he
    exact .inr ⟨u, List.mem_mergeSort.mp hu, rfl⟩

lemma upper_lt {u : ℕ × UInt32} (hu : u ∈ upper config s.slots) : u.1 < 2 ^ 10 := by
  refine h.slot_lt u.1 ?_
  rw [← upper_slots]
  exact List.mem_map_of_mem hu

lemma entry_in_table {e : ℕ × UInt32} (he : e ∈ s.ptes) :
    ∃ t ∈ s.tables, ∃ i < 2 ^ 10, e.1 = entryAddr t i := by
  rcases h.mem_ptes he with ⟨p, hp, rfl⟩ | ⟨u, hu, rfl⟩
  · exact ⟨p.table, h.table_mem_tables hp, _, vpn0_lt p.page.va, rfl⟩
  · exact ⟨s.root, h.root_mem, u.1, h.upper_lt hu, rfl⟩

lemma entry_in_root {i : ℕ} {e : ℕ × UInt32} (he : s.ptes[i]? = some e) (hi : mapped.length ≤ i) :
    ∃ u ∈ upper config s.slots, e = (upperAddr s.root u.1, u.2) := by
  rw [h.ptes, List.getElem?_append_right (by simpa using hi)] at he
  obtain ⟨u, hu, rfl⟩ := List.mem_map.mp (List.mem_of_getElem? he)
  exact ⟨u, List.mem_mergeSort.mp hu, rfl⟩

/-! ## What does not change any more -/

omit h in
/-- Once the entries begin, each write is one of an entry. -/
lemma effect_late {j : ℕ} (hk : s.entryStart ≤ j) (hj : j < s.accesses) (hw : w ∈ s.effect m j) :
    ∃ i e, s.ptes[i]? = some e ∧ j = s.entryStart + i ∧ w = (e.1, wordBytes e.2) := by
  rcases effect_cases hj hw with
    ⟨f, i, frame, hf, hi, rfl, -⟩ | ⟨i, c, hc, rfl, -⟩ | ⟨i, e, he, rfl, rfl⟩
  · have hlt := zero_lt hf hi
    unfold entryStart at hk
    omega
  · obtain ⟨hlt, -⟩ := List.getElem?_eq_some_iff.mp hc
    unfold entryStart at hk
    omega
  · exact ⟨i, e, he, rfl, rfl⟩

/-- The frame of a page keeps its contents once the entries begin. -/
lemma read_frame_final (hnodup : frames.Nodup) {p : Mapped} (hp : p ∈ mapped)
    (hk : s.entryStart ≤ k) (hkn : k ≤ n) (hn : n ≤ s.accesses) :
    (m.after s.effect n).read (p.frame.toNat * pageBytes) pageBytes =
      (m.after s.effect k).read (p.frame.toNat * pageBytes) pageBytes := by
  refine read_after_away hkn ?_
  intro j hkj hjn w hw
  obtain ⟨i, e, he, rfl, rfl⟩ := effect_late (hk.trans hkj) (Nat.lt_of_lt_of_le hjn hn) hw
  obtain ⟨t, ht, i', hi', haddr⟩ := h.entry_in_table (List.mem_of_getElem? he)
  have hrange := entry_range (t := t) hi'
  rw [← haddr] at hrange
  exact away_of_ne (h.table_ne_frame hnodup ht hp) hrange.1 (by simpa using hrange.2)

/-- A level-0 table keeps its contents once the entries of the root begin. -/
lemma read_table_final (hnodup : frames.Nodup) {t : UInt32} (ht : t ∈ s.slots.map Prod.snd)
    (hk : s.upperStart mapped ≤ k) (hkn : k ≤ n) (hn : n ≤ s.accesses) :
    (m.after s.effect n).read (t.toNat * pageBytes) pageBytes =
      (m.after s.effect k).read (t.toNat * pageBytes) pageBytes := by
  have hne : s.root ≠ t := by
    rintro rfl
    exact (List.nodup_cons.mp (h.nodup hnodup)).1 (List.mem_append_left _ ht)
  unfold upperStart at hk
  refine read_after_away hkn ?_
  intro j hkj hjn w hw
  obtain ⟨i, e, he, rfl, rfl⟩ := effect_late (by omega) (Nat.lt_of_lt_of_le hjn hn) hw
  obtain ⟨u, hu, rfl⟩ := h.entry_in_root he (by omega)
  have hrange := entry_range (t := s.root) (h.upper_lt hu)
  exact away_of_ne hne hrange.1 (by rw [length_wordBytes]; exact hrange.2)

/-! ## Entries -/

/-- A write that is not the one of an entry is away from it, or puts zeros there. -/
lemma away_or_zero (hnodup : frames.Nodup) (hin : CopiesInPage boot.image) {t : UInt32}
    (ht : t ∈ s.tables) {i : ℕ} (hi : i < 2 ^ 10) (hk : k < s.accesses) (hw : w ∈ s.effect m k) :
    Away w (entryAddr t i) 4 ∨
      k < s.zeroSteps ∧ Covers w (entryAddr t i) 4 ∧
        slice w (entryAddr t i) 4 = List.replicate 4 0 ∨
      ∃ j e, s.ptes[j]? = some e ∧ k = s.entryStart + j ∧ e.1 = entryAddr t i ∧
        Covers w (entryAddr t i) 4 ∧ slice w (entryAddr t i) 4 = wordBytes e.2 := by
  have hrange := entry_range (t := t) hi
  rcases effect_cases hk hw with
    ⟨f, k', frame, hf, hk', rfl, rfl⟩ | ⟨j, c, hc, -, rfl⟩ | ⟨j, e, he, rfl, rfl⟩
  · by_cases hpiece : frame = t ∧ k' = i / 4
    · obtain ⟨rfl, rfl⟩ := hpiece
      exact .inr
        (.inl ⟨zero_lt hf hk', covers_entry frame i, slice_replicate (covers_entry frame i)⟩)
    · refine .inl ?_
      unfold perFrame pageBytes maxAccess at *
      by_cases hframe : frame = t
      · subst hframe
        have hne : k' ≠ i / 4 := fun heq => hpiece ⟨rfl, heq⟩
        unfold Away entryAddr pageBytes
        rw [List.length_replicate]
        dsimp only
        omega
      · have hdisjoint := page_disjoint hframe
        unfold pageBytes at hdisjoint
        unfold Away
        rw [List.length_replicate]
        dsimp only
        omega
  · refine .inl ?_
    obtain ⟨p, hp, h1, h2⟩ := h.copy_in_frame hin (List.mem_of_getElem? hc)
    have haway := away_of_ne (w := (c.2.1, m.read c.1 c.2.2))
      (h.table_ne_frame hnodup ht hp).symm h1 (by simpa using h2)
    exact haway.part hrange.1 hrange.2
  · obtain ⟨t', ht', i', hi', haddr⟩ := h.entry_in_table (List.mem_of_getElem? he)
    by_cases heq : e.1 = entryAddr t i
    · refine .inr (.inr ⟨j, e, he, rfl, heq, ?_, ?_⟩)
      · rw [← heq]
        exact covers_self (e.1, wordBytes e.2)
      · rw [← heq]
        exact slice_self (e.1, wordBytes e.2)
    · refine .inl ?_
      rw [haddr] at heq
      unfold Away
      rw [length_wordBytes, haddr]
      unfold entryAddr pageBytes at *
      omega

/-- An entry that was not written is zero once its table is zeroed. -/
lemma read_unwritten (hnodup : frames.Nodup) (hin : CopiesInPage boot.image) {t : UInt32}
    (ht : t ∈ s.tables) {i : ℕ} (hi : i < 2 ^ 10) {f : ℕ} (hf : s.frames[f]? = some t)
    (hzeroed : (f + 1) * perFrame ≤ n) (hn : n ≤ s.accesses)
    (hnone : ∀ j e, s.ptes[j]? = some e → s.entryStart + j < n → e.1 ≠ entryAddr t i) :
    (m.after s.effect n).read (entryAddr t i) 4 = List.replicate 4 0 := by
  have hpiece : i / 4 < perFrame := by
    unfold perFrame pageBytes maxAccess
    omega
  have hstep : f * perFrame + i / 4 < n := by
    rw [Nat.succ_mul] at hzeroed
    omega
  refine read_after (P := (· = List.replicate 4 0)) hstep (effect_zero hf hpiece)
    (covers_entry t i) (slice_replicate (covers_entry t i)) ?_
  intro j hj hjn w hw
  rcases h.away_or_zero hnodup hin ht hi (Nat.lt_of_lt_of_le hjn hn) hw with
    haway | ⟨-, hcovers, hzero⟩ | ⟨j', e, he, rfl, haddr, -⟩
  · exact .inl haway
  · exact .inr ⟨hcovers, hzero⟩
  · exact absurd haddr (hnone j' e he hjn)

lemma read_written (hnodup : frames.Nodup) (hin : CopiesInPage boot.image) {t : UInt32}
    (ht : t ∈ s.tables) {i j : ℕ} (hi : i < 2 ^ 10) {e : ℕ × UInt32} (he : s.ptes[j]? = some e)
    (hj : s.entryStart + j < n) (hn : n ≤ s.accesses) (haddr : e.1 = entryAddr t i) :
    ∃ j' e', s.ptes[j']? = some e' ∧ s.entryStart + j' < n ∧ e'.1 = entryAddr t i ∧
      (m.after s.effect n).read (entryAddr t i) 4 = wordBytes e'.2 := by
  refine read_after
    (P := fun bs => ∃ j' e', s.ptes[j']? = some e' ∧ s.entryStart + j' < n ∧
      e'.1 = entryAddr t i ∧ bs = wordBytes e'.2) hj (effect_entry he) ?_ ?_ ?_
  · rw [← haddr]
    exact covers_self (e.1, wordBytes e.2)
  · refine ⟨j, e, he, hj, haddr, ?_⟩
    rw [← haddr]
    exact slice_self (e.1, wordBytes e.2)
  · intro k hk hkn w hw
    rcases h.away_or_zero hnodup hin ht hi (Nat.lt_of_lt_of_le hkn hn) hw with
      haway | ⟨hzero, -⟩ | ⟨j', e', he', rfl, haddr', hcovers, hslice⟩
    · exact .inl haway
    · unfold entryStart at hk
      omega
    · exact .inr ⟨hcovers, j', e', he', hkn, haddr', hslice⟩

end Built

end Space

end SystemScope.Os
