import SystemScope.Elf.Parse

/-!
# The executable table

`elf/src/exec_table.rs`: block 0 of the boot disk, which lists where each executable is.
-/

namespace SystemScope.Elf

open Checks

/-- The size of a disk block. -/
def blockSize : ℕ := 512

/-- The bytes `SSX0` as a word. -/
def tableMagic : UInt32 := 0x30585353

def tableVersion : UInt32 := 0

/-- The most entries of a table. -/
def maxEntries : ℕ := 8

def tableHeaderSize : ℕ := 0x10

def tableEntrySize : ℕ := 16

/-- The end of the last entry. -/
def tableEnd : ℕ := tableHeaderSize + maxEntries * tableEntrySize

/-- Where an executable is on the disk. -/
structure ExecEntry where
  startLba : UInt32
  byteLen : UInt32
  deriving DecidableEq, Repr

namespace ExecEntry

variable (e : ExecEntry)

/-- The number of blocks that the file occupies. -/
def blocks : UInt32 := UInt32.ofNat ((e.byteLen.toNat + blockSize - 1) / blockSize)

/-- One past the last block. -/
def endLba : ℕ := e.startLba.toNat + e.blocks.toNat

end ExecEntry

/-- The executables in the order of the table. -/
structure ExecTable where
  entries : List ExecEntry
  deriving DecidableEq, Repr

/-- Why a table is rejected. -/
inductive ExecTableError
  | badMagic (magic : UInt32)
  | badVersion (version : UInt32)
  | badCount (count : UInt32)
  | nonZeroReserved (offset : ℕ)
  | nonZeroUnusedEntry (slot : ℕ)
  | lbaZero (entry : ℕ)
  | emptyFile (entry : ℕ)
  | tooLarge (entry : ℕ)
  | outsideDisk (entry : ℕ)
  | overlap (first second : ℕ)
  deriving DecidableEq, Repr

/-- The text of an error. -/
def ExecTableError.text : ExecTableError → String
  | badMagic m => s!"bad execution table magic {hexWord m}"
  | badVersion v => s!"unsupported execution table version {v}"
  | badCount n => s!"execution table count {n} is not in 1..={maxEntries}"
  | nonZeroReserved offset => s!"reserved execution table word at {hex offset} is not zero"
  | nonZeroUnusedEntry slot => s!"unused execution table slot {slot} is not zero"
  | lbaZero entry => s!"execution table entry {entry} starts at block 0"
  | emptyFile entry => s!"execution table entry {entry} is empty"
  | tooLarge entry => s!"execution table entry {entry} is larger than the staging area"
  | outsideDisk entry => s!"execution table entry {entry} goes past the end of the disk"
  | overlap first second => s!"execution table entries {first} and {second} overlap"

/-- The word at an offset of a block. -/
def blockWord (block : Bytes) (at_ : ℕ) : UInt32 :=
  UInt32.ofNat (leNat ((block.drop at_).take 4))

/-- The block with the word at an offset replaced. -/
def put (block : Bytes) (at_ : ℕ) (value : UInt32) : Bytes :=
  block.take at_ ++ leBytes 4 value.toNat ++ block.drop (at_ + 4)

/-- The offset of an entry. -/
def slotOffset (i : ℕ) : ℕ := tableHeaderSize + i * tableEntrySize

/-- Checks the ranges of entries from an index on. -/
def checkRanges (capacityBlocks stagingSize : UInt32) (entry : ℕ) :
    List ExecEntry → Except ExecTableError Unit
  | [] => .ok ()
  | e :: rest =>
    if e.startLba = 0 then .error (.lbaZero entry)
    else if e.byteLen = 0 then .error (.emptyFile entry)
    else if stagingSize < e.byteLen then .error (.tooLarge entry)
    else if capacityBlocks.toNat < e.endLba then .error (.outsideDisk entry)
    else checkRanges capacityBlocks stagingSize (entry + 1) rest

/-- Two entries share a block. -/
def Overlaps (a b : ExecEntry) : Prop :=
  a.startLba.toNat < b.endLba ∧ b.startLba.toNat < a.endLba

instance (a b : ExecEntry) : Decidable (Overlaps a b) := inferInstanceAs (Decidable (_ ∧ _))

/-- Checks that an entry overlaps none of those before it. -/
def checkBefore (b : ExecEntry) (second first : ℕ) : List ExecEntry → Except ExecTableError Unit
  | [] => .ok ()
  | a :: rest =>
    if Overlaps a b then .error (.overlap first second) else checkBefore b second (first + 1) rest

/-- Checks that no entry overlaps one before it. -/
def checkOverlaps (seen : List ExecEntry) : List ExecEntry → Except ExecTableError Unit
  | [] => .ok ()
  | b :: rest => do
    checkBefore b seen.length 0 seen
    checkOverlaps (seen ++ [b]) rest

/-- Checks the range of each entry, then overlap. -/
def checkEntries (entries : List ExecEntry) (capacityBlocks stagingSize : UInt32) :
    Except ExecTableError Unit := do
  checkRanges capacityBlocks stagingSize 0 entries
  checkOverlaps [] entries

/-- The words of the entries that must be zero. -/
def reservedOffsets (used : ℕ) : List ℕ :=
  (List.range used).flatMap fun i => [slotOffset i + 8, slotOffset i + 12]

/-- The bytes of an entry, or those after the last one. -/
def slotBytes (block : Bytes) (slot : ℕ) : Bytes :=
  if slot < maxEntries then (block.drop (slotOffset slot)).take tableEntrySize
  else block.drop tableEnd

/-- The first entry at or after the count, or the tail of the block, that is not zero. -/
def unusedSlot (block : Bytes) (used : ℕ) : Option ℕ :=
  (List.range' used (maxEntries + 1 - used)).find? fun slot => (slotBytes block slot).any (· ≠ 0)

/-- The entries that a block holds. -/
def readEntries (block : Bytes) (used : ℕ) : List ExecEntry :=
  (List.range used).map fun i =>
    { startLba := blockWord block (slotOffset i), byteLen := blockWord block (slotOffset i + 4) }

/-- Parses and validates block 0 of a boot disk. -/
def parseExecTable (block : Bytes) (capacityBlocks stagingSize : UInt32) :
    Except ExecTableError ExecTable :=
  if blockWord block 0x00 ≠ tableMagic then .error (.badMagic (blockWord block 0x00))
  else if blockWord block 0x04 ≠ tableVersion then .error (.badVersion (blockWord block 0x04))
  else
    let count := blockWord block 0x08
    let used := count.toNat
    if used < 1 ∨ maxEntries < used then .error (.badCount count)
    else if blockWord block 0x0C ≠ 0 then .error (.nonZeroReserved 0x0C)
    else
      match (reservedOffsets used).find? fun offset => blockWord block offset ≠ 0 with
      | some offset => .error (.nonZeroReserved offset)
      | none =>
        match unusedSlot block used with
        | some slot => .error (.nonZeroUnusedEntry slot)
        | none => do
          checkEntries (readEntries block used) capacityBlocks stagingSize
          return { entries := readEntries block used }

/-- Writes an entry. -/
def putEntry (block : Bytes) (i : ℕ) (e : ExecEntry) : Bytes :=
  put (put block (slotOffset i) e.startLba) (slotOffset i + 4) e.byteLen

/-- Writes entries from an index on. -/
def putEntries : Bytes → ℕ → List ExecEntry → Bytes
  | block, _, [] => block
  | block, i, e :: rest => putEntries (putEntry block i e) (i + 1) rest

/-- Encodes a table as block 0; only the count is checked. -/
def ExecTable.encode (t : ExecTable) : Except ExecTableError Bytes :=
  let count := t.entries.length
  if count < 1 ∨ maxEntries < count then
    .error (.badCount (if count < 2 ^ 32 then UInt32.ofNat count else 0xFFFFFFFF))
  else
    let block := List.replicate blockSize 0
    .ok (putEntries
      (put (put (put block 0x00 tableMagic) 0x04 tableVersion) 0x08 (UInt32.ofNat count)) 0
      t.entries)

/-! ## Accepted tables -/

/-- The entry is not block 0, is not empty, and fits the staging area and the disk. -/
structure ExecEntry.Fits (e : ExecEntry) (capacityBlocks stagingSize : UInt32) : Prop where
  lba : e.startLba ≠ 0
  nonempty : e.byteLen ≠ 0
  staging : e.byteLen ≤ stagingSize
  disk : e.endLba ≤ capacityBlocks.toNat

lemma fits_of_checkRanges {capacityBlocks stagingSize : UInt32} {first : ℕ}
    {entries : List ExecEntry}
    (h : checkRanges capacityBlocks stagingSize first entries = .ok ()) :
    ∀ e ∈ entries, e.Fits capacityBlocks stagingSize := by
  induction entries generalizing first with
  | nil => simp
  | cons e rest ih =>
    unfold checkRanges at h
    simp only [guard_eq_ok, Nat.not_lt, UInt32.not_lt] at h
    obtain ⟨hlba, hnonempty, hstaging, hdisk, hrest⟩ := h
    exact List.forall_mem_cons.mpr ⟨⟨hlba, hnonempty, hstaging, hdisk⟩, ih hrest⟩

/-- The entries of an accepted table fit, and there are at most eight. -/
lemma fits_of_parseExecTable {block : Bytes} {capacityBlocks stagingSize : UInt32} {t : ExecTable}
    (h : parseExecTable block capacityBlocks stagingSize = .ok t) :
    0 < t.entries.length ∧ t.entries.length ≤ maxEntries ∧
      ∀ e ∈ t.entries, e.Fits capacityBlocks stagingSize := by
  unfold parseExecTable at h
  simp only [guard_eq_ok, not_or, Nat.not_lt] at h
  obtain ⟨-, -, ⟨hpos, hmax⟩, -, h⟩ := h
  split at h
  · cases h
  · split at h
    · cases h
    · obtain ⟨hcheck, ht⟩ := check_eq_ok.mp h
      obtain ⟨hranges, -⟩ := check_eq_ok.mp hcheck
      cases ht
      unfold readEntries
      rw [List.length_map, List.length_range]
      exact ⟨hpos, hmax, fits_of_checkRanges hranges⟩

/-- The blocks of an entry cover its bytes, and the last one is not to spare. -/
lemma ExecEntry.blocks_range (e : ExecEntry) :
    e.byteLen.toNat ≤ e.blocks.toNat * blockSize ∧
      e.blocks.toNat * blockSize < e.byteLen.toNat + blockSize := by
  have hlt := e.byteLen.toNat_lt
  unfold blocks blockSize
  rw [UInt32.toNat_ofNat_of_lt' (show _ < 2 ^ 32 by omega)]
  omega

end SystemScope.Elf
