import Mathlib.Data.List.Basic
import SystemScope.Elf.ExecTable
import SystemScope.Framework.ExactCodec

/-!
# The executable table as a format

A table is accepted exactly in the form in which it is encoded.  Both directions go through the
bytes of a table laid out one after the other (`ExecTable.layout`): an encoder that overwrites
words of a zeroed block produces them, and a parser that finds nothing but zeros where nothing is
written has read them.
-/

namespace SystemScope.Elf

open Checks

/-! ## Words of a block -/

lemma blockWord_of_drop {block rest : Bytes} {at_ : ℕ} {value : UInt32}
    (h : block.drop at_ = leBytes 4 value.toNat ++ rest) : blockWord block at_ = value := by
  rw [blockWord, h, List.take_left' (length_leBytes ..), leNat_leBytes value.toNat_lt]
  exact UInt32.ofNat_toNat

lemma drop_eq_word {block : Bytes} {at_ : ℕ} (h : at_ + 4 ≤ block.length) :
    block.drop at_ = leBytes 4 (blockWord block at_).toNat ++ block.drop (at_ + 4) := by
  have hlength : ((block.drop at_).take 4).length = 4 := by
    rw [List.length_take, List.length_drop]
    omega
  have hlt := leNat_lt ((block.drop at_).take 4)
  have hword := leBytes_leNat ((block.drop at_).take 4)
  rw [hlength] at hlt hword
  rw [blockWord, UInt32.toNat_ofNat_of_lt' (show _ < 2 ^ 32 from hlt), hword, ← List.drop_drop,
    List.take_append_drop]

lemma put_append {before after : Bytes} {old : Bytes} {at_ : ℕ} (value : UInt32)
    (hat : before.length = at_) (hold : old.length = 4) :
    put (before ++ old ++ after) at_ value = before ++ leBytes 4 value.toNat ++ after := by
  subst hat
  rw [put, List.append_assoc before, List.take_left, ← List.drop_drop, List.drop_left, ← hold,
    List.drop_left]

/-- Overwriting the first of the zeros that a block ends with. -/
lemma put_zeros {before : Bytes} {at_ n : ℕ} (value : UInt32) (hat : before.length = at_) :
    put (before ++ List.replicate (4 + n) 0) at_ value =
      before ++ leBytes 4 value.toNat ++ List.replicate n 0 := by
  rw [← List.replicate_append_replicate, ← List.append_assoc]
  exact put_append value hat (by simp)

/-! ## The bytes of a table -/

/-- An entry, with its flags and its reserved word. -/
def ExecEntry.layout (e : ExecEntry) : Bytes :=
  leBytes 4 e.startLba.toNat ++ leBytes 4 e.byteLen.toNat ++ List.replicate 8 0

/-- The first words of a table. -/
def headerLayout (count : UInt32) : Bytes :=
  leBytes 4 tableMagic.toNat ++ leBytes 4 tableVersion.toNat ++ leBytes 4 count.toNat ++
    List.replicate 4 0

/-- Everything that the entries leave of a block. -/
def padding (count : ℕ) : Bytes := List.replicate (blockSize - slotOffset count) 0

/-- Block 0 of a disk with this table. -/
def ExecTable.layout (t : ExecTable) : Bytes :=
  headerLayout (UInt32.ofNat t.entries.length) ++ t.entries.flatMap ExecEntry.layout ++
    padding t.entries.length

@[simp] lemma ExecEntry.length_layout (e : ExecEntry) : e.layout.length = tableEntrySize := by
  simp [ExecEntry.layout, tableEntrySize]

@[simp] lemma length_headerLayout (count : UInt32) :
    (headerLayout count).length = tableHeaderSize := by
  simp [headerLayout, tableHeaderSize]

lemma length_flatMap_layout (entries : List ExecEntry) :
    (entries.flatMap ExecEntry.layout).length = entries.length * tableEntrySize := by
  induction entries with
  | nil => rfl
  | cons e entries ih =>
    rw [List.flatMap_cons, List.length_append, e.length_layout, ih, List.length_cons,
      Nat.succ_mul, Nat.add_comm]

lemma slotOffset_le {i : ℕ} (h : i ≤ maxEntries) : slotOffset i ≤ tableEnd := by
  unfold slotOffset tableEnd
  gcongr

lemma ExecTable.length_layout {t : ExecTable} (h : t.entries.length ≤ maxEntries) :
    t.layout.length = blockSize := by
  have hle := slotOffset_le h
  simp only [ExecTable.layout, padding, List.length_append, length_headerLayout,
    length_flatMap_layout, List.length_replicate]
  unfold slotOffset tableEnd tableHeaderSize tableEntrySize maxEntries blockSize at *
  omega

/-! ## Encoding -/

lemma putEntry_zeros {before : Bytes} {i n : ℕ} (e : ExecEntry)
    (hat : before.length = slotOffset i) :
    putEntry (before ++ List.replicate (tableEntrySize + n) 0) i e =
      before ++ e.layout ++ List.replicate n 0 := by
  have hfirst : tableEntrySize + n = 4 + (4 + (8 + n)) := by
    unfold tableEntrySize
    omega
  rw [putEntry, hfirst, put_zeros e.startLba hat,
    put_zeros e.byteLen (by rw [List.length_append, hat, length_leBytes]),
    ← List.replicate_append_replicate]
  simp only [ExecEntry.layout, List.append_assoc]

lemma putEntries_zeros {before : Bytes} {i n : ℕ} {entries : List ExecEntry}
    (hat : before.length = slotOffset i) :
    putEntries (before ++ List.replicate (entries.length * tableEntrySize + n) 0) i entries =
      before ++ entries.flatMap ExecEntry.layout ++ List.replicate n 0 := by
  induction entries generalizing before i with
  | nil => simp [putEntries]
  | cons e entries ih =>
    have hsize : (e :: entries).length * tableEntrySize + n =
        tableEntrySize + (entries.length * tableEntrySize + n) := by
      rw [List.length_cons, Nat.succ_mul, Nat.add_comm (_ * _), Nat.add_assoc]
    have hnext : (before ++ e.layout).length = slotOffset (i + 1) := by
      rw [List.length_append, hat, e.length_layout, slotOffset, slotOffset, Nat.succ_mul,
        Nat.add_assoc]
    rw [hsize, putEntries, putEntry_zeros e hat, ih hnext, List.flatMap_cons]
    simp only [List.append_assoc]

lemma encode_eq_layout {t : ExecTable} (hpos : 1 ≤ t.entries.length)
    (hmax : t.entries.length ≤ maxEntries) : t.encode = .ok t.layout := by
  have hsize : blockSize = 4 + (4 + (4 + (4 + (t.entries.length * tableEntrySize +
      (blockSize - slotOffset t.entries.length))))) := by
    have hle := slotOffset_le hmax
    unfold slotOffset tableEnd tableHeaderSize tableEntrySize maxEntries blockSize at *
    omega
  have hcount : ¬(t.entries.length < 1 ∨ maxEntries < t.entries.length) := by omega
  rw [ExecTable.encode, if_neg hcount]
  dsimp only
  have hheader : put (put (put (List.replicate blockSize 0) 0x00 tableMagic) 0x04 tableVersion)
      0x08 (UInt32.ofNat t.entries.length) =
      headerLayout (UInt32.ofNat t.entries.length) ++
        List.replicate (t.entries.length * tableEntrySize +
          (blockSize - slotOffset t.entries.length)) 0 := by
    conv_lhs => rw [hsize, ← List.nil_append (List.replicate _ 0)]
    rw [@put_zeros [] 0 _ tableMagic rfl, put_zeros tableVersion (by simp),
      put_zeros (UInt32.ofNat t.entries.length) (by simp), ← List.replicate_append_replicate]
    simp only [headerLayout, List.nil_append, List.append_assoc]
  rw [hheader, putEntries_zeros (by simp [slotOffset])]
  rfl

/-! ## Parsing -/

lemma headerLayout_words {block rest : Bytes} {count : UInt32}
    (h : block = headerLayout count ++ rest) :
    blockWord block 0x00 = tableMagic ∧ blockWord block 0x04 = tableVersion ∧
      blockWord block 0x08 = count ∧ blockWord block 0x0C = 0 ∧
      block.drop tableHeaderSize = rest := by
  have h0 : block.drop 0x00 = leBytes 4 tableMagic.toNat ++ (leBytes 4 tableVersion.toNat ++
      (leBytes 4 count.toNat ++ (List.replicate 4 0 ++ rest))) := by
    simp only [h, headerLayout, List.drop_zero, List.append_assoc]
  have h4 : block.drop 0x04 = leBytes 4 tableVersion.toNat ++ (leBytes 4 count.toNat ++
      (List.replicate 4 0 ++ rest)) := by
    rw [show 0x04 = 0 + 4 from rfl, ← List.drop_drop, h0, List.drop_left' (length_leBytes ..)]
  have h8 : block.drop 0x08 = leBytes 4 count.toNat ++ (List.replicate 4 0 ++ rest) := by
    rw [show 0x08 = 4 + 4 from rfl, ← List.drop_drop, h4, List.drop_left' (length_leBytes ..)]
  have h12 : block.drop 0x0C = leBytes 4 (0 : UInt32).toNat ++ rest := by
    rw [show 0x0C = 8 + 4 from rfl, ← List.drop_drop, h8, List.drop_left' (length_leBytes ..)]
    rfl
  have h16 : block.drop tableHeaderSize = rest := by
    rw [show tableHeaderSize = 12 + 4 from rfl, ← List.drop_drop, h12,
      List.drop_left' (length_leBytes ..)]
  exact ⟨blockWord_of_drop h0, blockWord_of_drop h4, blockWord_of_drop h8,
    blockWord_of_drop h12, h16⟩

lemma entryLayout_words {block rest : Bytes} {at_ : ℕ} {e : ExecEntry}
    (h : block.drop at_ = e.layout ++ rest) :
    blockWord block at_ = e.startLba ∧ blockWord block (at_ + 4) = e.byteLen ∧
      blockWord block (at_ + 8) = 0 ∧ blockWord block (at_ + 12) = 0 ∧
      block.drop (at_ + tableEntrySize) = rest := by
  have h0 : block.drop at_ = leBytes 4 e.startLba.toNat ++ (leBytes 4 e.byteLen.toNat ++
      (leBytes 4 (0 : UInt32).toNat ++ (leBytes 4 (0 : UInt32).toNat ++ rest))) := by
    simp only [h, ExecEntry.layout, List.append_assoc]
    rfl
  have h4 : block.drop (at_ + 4) = leBytes 4 e.byteLen.toNat ++
      (leBytes 4 (0 : UInt32).toNat ++ (leBytes 4 (0 : UInt32).toNat ++ rest)) := by
    rw [← List.drop_drop, h0, List.drop_left' (length_leBytes ..)]
  have h8 : block.drop (at_ + 8) =
      leBytes 4 (0 : UInt32).toNat ++ (leBytes 4 (0 : UInt32).toNat ++ rest) := by
    rw [← Nat.add_assoc at_ 4 4, ← List.drop_drop, h4, List.drop_left' (length_leBytes ..)]
  have h12 : block.drop (at_ + 12) = leBytes 4 (0 : UInt32).toNat ++ rest := by
    rw [← Nat.add_assoc at_ 8 4, ← List.drop_drop, h8, List.drop_left' (length_leBytes ..)]
  have h16 : block.drop (at_ + tableEntrySize) = rest := by
    rw [tableEntrySize, ← Nat.add_assoc at_ 12 4, ← List.drop_drop, h12,
      List.drop_left' (length_leBytes ..)]
  exact ⟨blockWord_of_drop h0, blockWord_of_drop h4, blockWord_of_drop h8,
    blockWord_of_drop h12, h16⟩

lemma slotOffset_succ (i : ℕ) : slotOffset (i + 1) = slotOffset i + tableEntrySize := by
  rw [slotOffset, slotOffset, Nat.succ_mul, Nat.add_assoc]

lemma slotOffset_mono {i j : ℕ} (h : i ≤ j) : slotOffset i ≤ slotOffset j := by
  unfold slotOffset
  gcongr

/-- The entry that a block holds at an index. -/
def readEntry (block : Bytes) (i : ℕ) : ExecEntry :=
  { startLba := blockWord block (slotOffset i), byteLen := blockWord block (slotOffset i + 4) }

lemma drop_slot {block : Bytes} {i : ℕ} (hlength : slotOffset (i + 1) ≤ block.length)
    (hzero : blockWord block (slotOffset i + 8) = 0 ∧ blockWord block (slotOffset i + 12) = 0) :
    block.drop (slotOffset i) =
      (readEntry block i).layout ++ block.drop (slotOffset (i + 1)) := by
  rw [slotOffset_succ, tableEntrySize] at hlength ⊢
  have h0 := @drop_eq_word block (slotOffset i) (by omega)
  have h4 := @drop_eq_word block (slotOffset i + 4) (by omega)
  have h8 := @drop_eq_word block (slotOffset i + 8) (by omega)
  have h12 := @drop_eq_word block (slotOffset i + 12) (by omega)
  rw [hzero.1] at h8
  rw [hzero.2] at h12
  rw [h0, h4, h8, h12]
  simp only [ExecEntry.layout, readEntry, List.append_assoc]
  rfl

/-- The bytes of a slot, and of the tail, are among those from an earlier slot on. -/
lemma mem_drop_of_mem_slotBytes {block : Bytes} {used slot : ℕ} {x : UInt8} (hle : used ≤ slot)
    (hslot : slot ≤ maxEntries) (hx : x ∈ slotBytes block slot) :
    x ∈ block.drop (slotOffset used) := by
  unfold slotBytes at hx
  split_ifs at hx
  · exact (List.drop_subset_drop_left block (slotOffset_mono hle)) (List.mem_of_mem_take hx)
  · exact (List.drop_subset_drop_left block (slotOffset_le (hle.trans hslot))) hx

lemma unusedSlot_eq_none {block : Bytes} {used : ℕ} (hmax : used ≤ maxEntries) :
    unusedSlot block used = none ↔
      ∀ slot, used ≤ slot → slot ≤ maxEntries → ∀ x ∈ slotBytes block slot, x = 0 := by
  unfold unusedSlot
  simp only [List.find?_eq_none, List.mem_range'_1, List.any_eq_true, decide_eq_true_eq,
    not_exists, not_and, not_not]
  refine forall_congr' fun slot => ⟨fun h hle hslot => h ⟨hle, by omega⟩, fun h hmem => ?_⟩
  exact h hmem.1 (by omega)

lemma parse_eq_ok {block : Bytes} {capacityBlocks stagingSize : UInt32} {t : ExecTable} :
    parseExecTable block capacityBlocks stagingSize = .ok t ↔
      ∃ used : ℕ, used = (blockWord block 0x08).toNat ∧ blockWord block 0x00 = tableMagic ∧
        blockWord block 0x04 = tableVersion ∧ (1 ≤ used ∧ used ≤ maxEntries) ∧
        blockWord block 0x0C = 0 ∧ (∀ offset ∈ reservedOffsets used, blockWord block offset = 0) ∧
        (∀ slot, used ≤ slot → slot ≤ maxEntries → ∀ x ∈ slotBytes block slot, x = 0) ∧
        checkEntries (readEntries block used) capacityBlocks stagingSize = .ok () ∧
        t = { entries := readEntries block used } := by
  unfold parseExecTable
  simp only [guard_eq_ok, not_or, Nat.not_lt, not_not, exists_eq_left]
  refine and_congr_right fun _ => and_congr_right fun _ => and_congr_right fun hused =>
    and_congr_right fun _ => ?_
  rw [← unusedSlot_eq_none hused.2]
  have hreserved : (reservedOffsets (blockWord block 0x08).toNat).find?
      (fun offset => blockWord block offset ≠ 0) = none ↔
      ∀ offset ∈ reservedOffsets (blockWord block 0x08).toNat, blockWord block offset = 0 := by
    simp [List.find?_eq_none]
  rw [← hreserved]
  split
  next hfirst => simp only [hfirst, reduceCtorEq, false_and]
  next hfirst =>
    split
    next hslot => simp only [hslot, reduceCtorEq, false_and, and_false]
    next hslot =>
      rw [check_eq_ok, pure_eq_ok]
      simp only [hfirst, hslot, true_and, eq_comm]

/-! ## The checks of the entries -/

lemma checkRanges_eq_ok {capacityBlocks stagingSize : UInt32} {first : ℕ}
    {entries : List ExecEntry} :
    checkRanges capacityBlocks stagingSize first entries = .ok () ↔
      ∀ e ∈ entries, e.Fits capacityBlocks stagingSize := by
  refine ⟨fits_of_checkRanges, fun h => ?_⟩
  induction entries generalizing first with
  | nil => rfl
  | cons e rest ih =>
    obtain ⟨he, hrest⟩ := List.forall_mem_cons.mp h
    unfold checkRanges
    simp only [guard_eq_ok, Nat.not_lt, UInt32.not_lt]
    exact ⟨he.lba, he.nonempty, he.staging, he.disk, ih hrest⟩

lemma checkBefore_eq_ok {b : ExecEntry} {second first : ℕ} {entries : List ExecEntry} :
    checkBefore b second first entries = .ok () ↔ ∀ a ∈ entries, ¬Overlaps a b := by
  induction entries generalizing first with
  | nil => simp [checkBefore]
  | cons a rest ih =>
    unfold checkBefore
    rw [guard_eq_ok, ih, List.forall_mem_cons]

lemma checkOverlaps_eq_ok {seen entries : List ExecEntry} :
    checkOverlaps seen entries = .ok () ↔
      (∀ a ∈ seen, ∀ b ∈ entries, ¬Overlaps a b) ∧
        entries.Pairwise fun a b => ¬Overlaps a b := by
  induction entries generalizing seen with
  | nil => simp [checkOverlaps]
  | cons b rest ih =>
    unfold checkOverlaps
    rw [check_eq_ok, checkBefore_eq_ok, ih, List.pairwise_cons]
    simp only [List.mem_append, List.mem_singleton, List.forall_mem_cons]
    constructor
    · rintro ⟨hbefore, hseen, hrest⟩
      exact ⟨fun a ha => ⟨hbefore a ha, fun c hc => hseen a (.inl ha) c hc⟩,
        fun c hc => hseen b (.inr rfl) c hc, hrest⟩
    · rintro ⟨hseen, hb, hrest⟩
      refine ⟨fun a ha => (hseen a ha).1, ?_, hrest⟩
      rintro a (ha | rfl) c hc
      · exact (hseen a ha).2 c hc
      · exact hb c hc

lemma checkEntries_eq_ok {capacityBlocks stagingSize : UInt32} {entries : List ExecEntry} :
    checkEntries entries capacityBlocks stagingSize = .ok () ↔
      (∀ e ∈ entries, e.Fits capacityBlocks stagingSize) ∧
        entries.Pairwise fun a b => ¬Overlaps a b := by
  rw [checkEntries, check_eq_ok, checkRanges_eq_ok, checkOverlaps_eq_ok]
  simp

/-! ## Both directions -/

lemma drop_layout {t : ExecTable} {i : ℕ} (hi : i ≤ t.entries.length) :
    t.layout.drop (slotOffset i) =
      (t.entries.drop i).flatMap ExecEntry.layout ++ padding t.entries.length := by
  induction i with
  | zero =>
    have hwords := @headerLayout_words t.layout _ _ (List.append_assoc ..)
    exact hwords.2.2.2.2
  | succ i ih =>
    have hdrop := ih (Nat.le_of_lt hi)
    rw [List.drop_eq_getElem_cons (show i < t.entries.length from hi), List.flatMap_cons,
      List.append_assoc] at hdrop
    rw [slotOffset_succ]
    exact (entryLayout_words hdrop).2.2.2.2

lemma readEntry_layout {t : ExecTable} {i : ℕ} (hi : i < t.entries.length) :
    readEntry t.layout i = t.entries[i] ∧ blockWord t.layout (slotOffset i + 8) = 0 ∧
      blockWord t.layout (slotOffset i + 12) = 0 := by
  have hdrop := drop_layout (Nat.le_of_lt hi)
  rw [List.drop_eq_getElem_cons hi, List.flatMap_cons, List.append_assoc] at hdrop
  obtain ⟨hlba, hlen, h8, h12, -⟩ := entryLayout_words hdrop
  rw [readEntry, hlba, hlen]
  exact ⟨rfl, h8, h12⟩

lemma readEntries_layout (t : ExecTable) : readEntries t.layout t.entries.length = t.entries := by
  refine List.ext_getElem (by simp [readEntries]) fun i hi hi' => ?_
  rw [← (readEntry_layout hi').1]
  simp [readEntries, readEntry]

/-- A block with nothing but zeros where nothing is written is the layout of what it holds. -/
lemma layout_of_zeros {block : Bytes} {used : ℕ} (hlength : block.length = blockSize)
    (hused : used = (blockWord block 0x08).toNat) (hmagic : blockWord block 0x00 = tableMagic)
    (hversion : blockWord block 0x04 = tableVersion) (hmax : used ≤ maxEntries)
    (hheader : blockWord block 0x0C = 0)
    (hreserved : ∀ offset ∈ reservedOffsets used, blockWord block offset = 0)
    (hunused : ∀ slot, used ≤ slot → slot ≤ maxEntries → ∀ x ∈ slotBytes block slot, x = 0) :
    block = ExecTable.layout { entries := readEntries block used } := by
  have hcount : (readEntries block used).length = used := by simp [readEntries]
  -- The header.
  have hhead : block = headerLayout (UInt32.ofNat used) ++ block.drop (slotOffset 0) := by
    have h0 := @drop_eq_word block 0 (by rw [hlength]; decide)
    have h4 := @drop_eq_word block 4 (by rw [hlength]; decide)
    have h8 := @drop_eq_word block 8 (by rw [hlength]; decide)
    have h12 := @drop_eq_word block 12 (by rw [hlength]; decide)
    rw [hmagic, List.drop_zero] at h0
    rw [hversion] at h4
    rw [hheader] at h12
    rw [hused, UInt32.ofNat_toNat]
    conv_lhs => rw [h0, h4, h8, h12]
    simp only [headerLayout, List.append_assoc]
    rfl
  -- The entries, one after the other.
  have hentries : ∀ k ≤ used, block.drop (slotOffset 0) =
      (readEntries block k).flatMap ExecEntry.layout ++ block.drop (slotOffset k) := by
    intro k hk
    induction k with
    | zero => rfl
    | succ k ih =>
      have hin : ∀ offset, offset = slotOffset k + 8 ∨ offset = slotOffset k + 12 →
          blockWord block offset = 0 := by
        intro offset hoffset
        refine hreserved offset (List.mem_flatMap.mpr ⟨k, List.mem_range.mpr (by omega), ?_⟩)
        simpa using hoffset
      have hle : slotOffset (k + 1) ≤ block.length := by
        refine (slotOffset_le (hk.trans hmax)).trans ?_
        rw [hlength]
        decide
      rw [ih (by omega), drop_slot hle ⟨hin _ (.inl rfl), hin _ (.inr rfl)⟩]
      simp only [readEntries, List.range_succ, List.map_append, List.flatMap_append,
        List.append_assoc, List.map_cons, List.map_nil, List.flatMap_cons, List.flatMap_nil,
        List.append_nil]
      rfl
  -- The unused slots and the tail.
  have hzeros : ∀ d k, maxEntries - k = d → used ≤ k → k ≤ maxEntries →
      ∀ x ∈ block.drop (slotOffset k), x = 0 := by
    intro d
    induction d with
    | zero =>
      intro k hd hk hle x hx
      obtain rfl : k = maxEntries := by omega
      exact hunused maxEntries hk le_rfl x (by rwa [slotBytes, if_neg (lt_irrefl _)])
    | succ d ih =>
      intro k hd hk hle x hx
      rw [← List.take_append_drop tableEntrySize (block.drop _), List.drop_drop,
        ← slotOffset_succ] at hx
      rcases List.mem_append.mp hx with hx | hx
      · exact hunused k hk hle x (by rwa [slotBytes, if_pos (by omega)])
      · exact ih (k + 1) (by omega) (by omega) (by omega) x hx
  have hpadding : block.drop (slotOffset used) = padding used := by
    refine List.eq_replicate_iff.mpr ⟨?_, hzeros _ used rfl le_rfl hmax⟩
    rw [List.length_drop, hlength]
  rw [ExecTable.layout, hcount, List.append_assoc, ← hpadding, ← hentries used le_rfl]
  exact hhead

/-! ## The format -/

/-- The tables that a kernel with this disk and this staging area can have. -/
structure ExecTable.Valid (t : ExecTable) (capacityBlocks stagingSize : UInt32) : Prop where
  nonempty : 1 ≤ t.entries.length
  few : t.entries.length ≤ maxEntries
  fits : ∀ e ∈ t.entries, e.Fits capacityBlocks stagingSize
  apart : t.entries.Pairwise fun a b => ¬Overlaps a b

/-- A block holds a byte of the file. -/
def ExecEntry.Occupies (e : ExecEntry) (lba : ℕ) : Prop :=
  ∃ k < e.byteLen.toNat, lba = e.startLba.toNat + k / blockSize

lemma ExecEntry.occupies_iff {e : ExecEntry} {lba : ℕ} :
    e.Occupies lba ↔ e.startLba.toNat ≤ lba ∧ lba < e.endLba := by
  obtain ⟨hcover, htight⟩ := e.blocks_range
  simp only [Occupies, endLba, blockSize] at hcover htight ⊢
  constructor
  · rintro ⟨k, hk, rfl⟩
    omega
  · rintro ⟨hstart, hend⟩
    obtain ⟨n, rfl⟩ := Nat.exists_eq_add_of_le hstart
    exact ⟨512 * n, by omega, by rw [Nat.mul_div_cancel_left n (by decide)]⟩

/-- Entries that are not empty overlap exactly if a block belongs to both. -/
lemma overlaps_iff {a b : ExecEntry} (ha : a.byteLen ≠ 0) (hb : b.byteLen ≠ 0) :
    Overlaps a b ↔ ∃ lba, a.Occupies lba ∧ b.Occupies lba := by
  have hpos : ∀ e : ExecEntry, e.byteLen ≠ 0 → e.startLba.toNat < e.endLba := by
    intro e he
    have hfirst : e.Occupies e.startLba.toNat :=
      ⟨0, Nat.pos_of_ne_zero fun h => he (UInt32.toNat_inj.mp h), rfl⟩
    exact (ExecEntry.occupies_iff.mp hfirst).2
  have ha := hpos a ha
  have hb := hpos b hb
  simp only [ExecEntry.occupies_iff, Overlaps]
  constructor
  · rintro ⟨hab, hba⟩
    exact ⟨max a.startLba.toNat b.startLba.toNat, by omega, by omega⟩
  · rintro ⟨lba, hla, hlb⟩
    omega

lemma parse_layout {t : ExecTable} {capacityBlocks stagingSize : UInt32}
    (h : t.Valid capacityBlocks stagingSize) :
    parseExecTable t.layout capacityBlocks stagingSize = .ok t := by
  obtain ⟨hmagic, hversion, hcount, hreserved, hdrop⟩ :=
    @headerLayout_words t.layout _ _ (List.append_assoc ..)
  have hfew := h.few
  have hused : (blockWord t.layout 0x08).toNat = t.entries.length := by
    rw [hcount, UInt32.toNat_ofNat_of_lt' (show _ < 2 ^ 32 by unfold maxEntries at hfew; omega)]
  refine parse_eq_ok.mpr ⟨_, hused.symm, hmagic, hversion, ⟨h.nonempty, hfew⟩, hreserved, ?_, ?_,
    ?_, ?_⟩
  · intro offset hoffset
    obtain ⟨i, hi, hoffset⟩ := List.mem_flatMap.mp hoffset
    obtain ⟨-, h8, h12⟩ := readEntry_layout (List.mem_range.mp hi)
    rcases List.mem_pair.mp hoffset with rfl | rfl
    · exact h8
    · exact h12
  · intro slot hle hslot x hx
    have hx := mem_drop_of_mem_slotBytes hle hslot hx
    rw [drop_layout le_rfl, List.drop_length, List.flatMap_nil, List.nil_append] at hx
    exact List.eq_of_mem_replicate hx
  · rw [readEntries_layout]
    exact checkEntries_eq_ok.mpr ⟨h.fits, h.apart⟩
  · rw [readEntries_layout]

lemma valid_of_parse {block : Bytes} {t : ExecTable} {capacityBlocks stagingSize : UInt32}
    (h : parseExecTable block capacityBlocks stagingSize = .ok t) :
    t.Valid capacityBlocks stagingSize := by
  obtain ⟨used, -, -, -, ⟨hpos, hmax⟩, -, -, -, hcheck, rfl⟩ := parse_eq_ok.mp h
  obtain ⟨hfits, hapart⟩ := checkEntries_eq_ok.mp hcheck
  have hcount : (readEntries block used).length = used := by simp [readEntries]
  exact ⟨by rwa [hcount], by rwa [hcount], hfits, hapart⟩

lemma eq_layout_of_parse {block : Bytes} {t : ExecTable} {capacityBlocks stagingSize : UInt32}
    (hlength : block.length = blockSize)
    (h : parseExecTable block capacityBlocks stagingSize = .ok t) : block = t.layout := by
  obtain ⟨used, hused, hmagic, hversion, ⟨-, hmax⟩, hheader, hreserved, hunused, -, rfl⟩ :=
    parse_eq_ok.mp h
  exact layout_of_zeros hlength hused hmagic hversion hmax hheader hreserved hunused

/-- **The executable table is a canonical format.**  For every disk and staging area, each table
of one to eight entries that keep the rules is encoded as a block which is parsed as that table,
and each block that is accepted is the encoding of what it is parsed as.  In an accepted table
every entry starts after block 0, is not empty, fits the staging area and ends on the disk, and no
block belongs to two entries.  No sum wraps around, whatever the fields. -/
theorem exec_table_canonical (capacityBlocks stagingSize : UInt32) :
    (∀ t : ExecTable, t.Valid capacityBlocks stagingSize →
      ∃ block, t.encode = .ok block ∧ block.length = blockSize ∧
        parseExecTable block capacityBlocks stagingSize = .ok t) ∧
    (∀ (block : Bytes) (t : ExecTable), block.length = blockSize →
      parseExecTable block capacityBlocks stagingSize = .ok t →
      t.encode = .ok block ∧ t.Valid capacityBlocks stagingSize ∧
      (∀ e ∈ t.entries, 1 ≤ e.startLba ∧ 1 ≤ e.byteLen ∧ e.byteLen ≤ stagingSize ∧
        ∀ lba, e.Occupies lba → 1 ≤ lba ∧ lba < capacityBlocks.toNat) ∧
      t.entries.Pairwise fun a b => ¬∃ lba, a.Occupies lba ∧ b.Occupies lba) ∧
    ∀ e : ExecEntry, e.endLba < 2 ^ 64 ∧
      ∀ lba, e.Occupies lba ↔ e.startLba.toNat ≤ lba ∧ lba < e.endLba := by
  refine ⟨fun t h => ?_, fun block t hlength h => ?_, fun e => ⟨?_, fun lba => e.occupies_iff⟩⟩
  · exact ⟨t.layout, encode_eq_layout h.nonempty h.few, ExecTable.length_layout h.few,
      parse_layout h⟩
  · have hvalid := valid_of_parse h
    have hblock := eq_layout_of_parse hlength h
    refine ⟨?_, hvalid, fun e he => ?_, ?_⟩
    · rw [hblock]
      exact encode_eq_layout hvalid.nonempty hvalid.few
    · obtain ⟨hlba, hnonempty, hstaging, hdisk⟩ := hvalid.fits e he
      have hone : ∀ x : UInt32, x ≠ 0 → 1 ≤ x := fun x hx =>
        UInt32.le_iff_toNat_le.mpr (Nat.pos_of_ne_zero fun h => hx (UInt32.toNat_inj.mp h))
      refine ⟨hone _ hlba, hone _ hnonempty, hstaging, fun lba hoccupies => ?_⟩
      obtain ⟨hstart, hend⟩ := ExecEntry.occupies_iff.mp hoccupies
      have hfirst := UInt32.le_iff_toNat_le.mp (hone _ hlba)
      exact ⟨hfirst.trans hstart, hend.trans_le hdisk⟩
    · refine hvalid.apart.imp_of_mem fun {a b} ha hb hapart => ?_
      rwa [← overlaps_iff (hvalid.fits a ha).nonempty (hvalid.fits b hb).nonempty]
  · have hlba := e.startLba.toNat_lt
    have hblocks := e.blocks.toNat_lt
    unfold ExecEntry.endLba
    omega

end SystemScope.Elf
