import SystemScope.Contracts.Types
import SystemScope.Framework.Codec
import SystemScope.Framework.Checks

/-!
# ELF headers

`elf/src/error.rs` and `elf/src/parse.rs`: the errors of the loader, and the header and the program
headers of an ELF32 file, read with bounds checks.  The file is untrusted.  `HeaderRules` is what
`header` accepts, rule by rule.
-/

namespace SystemScope.Elf

open Checks

/-- What is wrong with a `PT_LOAD` segment. -/
inductive SegmentError
  | fileSizeExceedsMemSize
  | fileRangeOutsideFile
  | addressMismatch
  | addressOverflow
  deriving DecidableEq, Repr

/-- Why an ELF file cannot be loaded. -/
inductive ElfError
  | malformedHeader
  | invalidMagic
  | unsupportedClass (cls : UInt8)
  | unsupportedEndian (data : UInt8)
  | unsupportedVersion (version : UInt32)
  | unsupportedType (type : UInt16)
  | unsupportedMachine (machine : UInt16)
  | malformedProgramHeaders
  | invalidSegment (index : UInt16) (reason : SegmentError)
  | invalidRamRegion
  | segmentOutsideRam (index : UInt16)
  | overlappingSegments (first second : UInt16)
  | misalignedEntry (entry : UInt32)
  | entryOutsideSegments (entry : UInt32)
  deriving DecidableEq, Repr

/-- The text of an error of a segment. -/
def SegmentError.text : SegmentError → String
  | fileSizeExceedsMemSize => "p_filesz is larger than p_memsz"
  | fileRangeOutsideFile => "its file range is outside the file"
  | addressMismatch => "p_vaddr and p_paddr differ"
  | addressOverflow => "it reaches past the 32-bit address space"

/-- A number in hexadecimal, as `{:#x}` prints it. -/
def hex (n : ℕ) : String := "0x" ++ String.ofList (Nat.toDigits 16 n)

/-- A word in hexadecimal, as `{:#010x}` prints it. -/
def hexWord (w : UInt32) : String :=
  let digits := Nat.toDigits 16 w.toNat
  "0x" ++ String.ofList (List.replicate (8 - digits.length) '0' ++ digits)

/-- The text of an error. -/
def ElfError.text : ElfError → String
  | malformedHeader => "malformed ELF header"
  | invalidMagic => "not an ELF file"
  | unsupportedClass c => s!"ELF class {c} is not ELFCLASS32"
  | unsupportedEndian d => s!"ELF data encoding {d} is not little-endian"
  | unsupportedVersion v => s!"ELF version {v} is not EV_CURRENT"
  | unsupportedType t => s!"ELF type {t} is not ET_EXEC"
  | unsupportedMachine m => s!"ELF machine {m} is not EM_RISCV"
  | malformedProgramHeaders => "malformed program-header table"
  | invalidSegment index reason => s!"PT_LOAD segment {index} is invalid: {reason.text}"
  | invalidRamRegion => "the RAM region is empty or too large"
  | segmentOutsideRam index => s!"PT_LOAD segment {index} is outside the RAM region"
  | overlappingSegments first second => s!"PT_LOAD segments {first} and {second} overlap"
  | misalignedEntry e => s!"entry point {hexWord e} is misaligned"
  | entryOutsideSegments e => s!"entry point {hexWord e} is not in a loaded segment"

/-- The size of an ELF32 file header. -/
def ehdrSize : ℕ := 52

/-- The size of an ELF32 program header. -/
def phdrSize : UInt16 := 32

def elfClass32 : UInt8 := 1

def elfData2Lsb : UInt8 := 1

def evCurrent : UInt32 := 1

def etExec : UInt16 := 2

def emRiscv : UInt16 := 243

/-- The `e_phnum` that means "the count is in section header 0". -/
def pnXnum : UInt16 := 0xffff

/-- The type of a loadable segment. -/
def ptLoad : UInt32 := 1

/-! ## Bounds-checked reads -/

/-- The bytes of a file from an offset on, if it has so many. -/
def Fields.bytes (elf : Bytes) (at_ n : ℕ) : Option Bytes :=
  if at_ + n ≤ elf.length then some ((elf.drop at_).take n) else none

def Fields.u8 (elf : Bytes) (at_ : ℕ) : Option UInt8 := elf[at_]?

def Fields.u16 (elf : Bytes) (at_ : ℕ) : Option UInt16 :=
  (Fields.bytes elf at_ 2).map fun bs => UInt16.ofNat (leNat bs)

def Fields.u32 (elf : Bytes) (at_ : ℕ) : Option UInt32 :=
  (Fields.bytes elf at_ 4).map fun bs => UInt32.ofNat (leNat bs)

/-! ## The header -/

/-- The fields of the ELF header that the loader uses. -/
structure Header where
  entry : UInt32
  phoff : UInt32
  phnum : UInt16
  deriving DecidableEq, Repr

/-- Where a program header starts. -/
def Header.phdrAt (h : Header) (index : ℕ) : ℕ := h.phoff.toNat + index * phdrSize.toNat

/-- The end of the program-header table. -/
def Header.tableEnd (h : Header) : ℕ := h.phdrAt h.phnum.toNat

/-- Checks the file header and returns what the loader needs from it. -/
def header (elf : Bytes) : Except ElfError Header :=
  if elf.length < ehdrSize then .error .malformedHeader else do
  if Fields.bytes elf 0 4 ≠ some [0x7f, 0x45, 0x4c, 0x46] then .error .invalidMagic else
  let cls ← okOr .malformedHeader (Fields.u8 elf 4)
  if cls ≠ elfClass32 then .error (.unsupportedClass cls) else
  let data ← okOr .malformedHeader (Fields.u8 elf 5)
  if data ≠ elfData2Lsb then .error (.unsupportedEndian data) else
  let identVersion ← okOr .malformedHeader ((Fields.u8 elf 6).map UInt8.toUInt32)
  if identVersion ≠ evCurrent then .error (.unsupportedVersion identVersion) else
  let type ← okOr .malformedHeader (Fields.u16 elf 16)
  if type ≠ etExec then .error (.unsupportedType type) else
  let machine ← okOr .malformedHeader (Fields.u16 elf 18)
  if machine ≠ emRiscv then .error (.unsupportedMachine machine) else
  let version ← okOr .malformedHeader (Fields.u32 elf 20)
  if version ≠ evCurrent then .error (.unsupportedVersion version) else
  let entry ← okOr .malformedHeader (Fields.u32 elf 24)
  let phoff ← okOr .malformedHeader (Fields.u32 elf 28)
  let ehsize ← okOr .malformedHeader (Fields.u16 elf 40)
  if ehsize.toNat ≠ ehdrSize then .error .malformedHeader else
  let phentsize ← okOr .malformedHeader (Fields.u16 elf 42)
  let phnum ← okOr .malformedHeader (Fields.u16 elf 44)
  -- Without program headers, their size may be anything.
  if phnum = pnXnum ∨ phnum ≠ 0 ∧ phentsize ≠ phdrSize then .error .malformedProgramHeaders else
  let found : Header := { entry, phoff, phnum }
  if elf.length < found.tableEnd then .error .malformedProgramHeaders
  else return found

/-! ## Program headers -/

/-- The fields of a program header that the loader uses. -/
structure ProgramHeader where
  type : UInt32
  offset : UInt32
  vaddr : UInt32
  paddr : UInt32
  filesz : UInt32
  memsz : UInt32
  deriving DecidableEq, Repr

/-- A program header, which the header check placed inside the file. -/
def programHeader (elf : Bytes) (h : Header) (index : ℕ) : Except ElfError ProgramHeader := do
  let at_ := h.phdrAt index
  let type ← okOr .malformedProgramHeaders (Fields.u32 elf at_)
  let offset ← okOr .malformedProgramHeaders (Fields.u32 elf (at_ + 4))
  let vaddr ← okOr .malformedProgramHeaders (Fields.u32 elf (at_ + 8))
  let paddr ← okOr .malformedProgramHeaders (Fields.u32 elf (at_ + 12))
  let filesz ← okOr .malformedProgramHeaders (Fields.u32 elf (at_ + 16))
  let memsz ← okOr .malformedProgramHeaders (Fields.u32 elf (at_ + 20))
  return { type, offset, vaddr, paddr, filesz, memsz }

/-! ## What the reads mean -/

lemma Fields.bytes_eq_some {elf : Bytes} {at_ n : ℕ} {bs : Bytes} :
    Fields.bytes elf at_ n = some bs ↔ at_ + n ≤ elf.length ∧ bs = (elf.drop at_).take n := by
  unfold Fields.bytes
  by_cases h : at_ + n ≤ elf.length
  · simp [h, eq_comm]
  · simp [h]

/-- What is read from a prefix is read from the whole. -/
lemma Fields.bytes_append {elf : Bytes} {at_ n : ℕ} {bs : Bytes}
    (h : Fields.bytes elf at_ n = some bs)
    (rest : Bytes) : Fields.bytes (elf ++ rest) at_ n = some bs := by
  obtain ⟨hle, rfl⟩ := Fields.bytes_eq_some.mp h
  refine Fields.bytes_eq_some.mpr ⟨by rw [List.length_append]; omega, ?_⟩
  rw [List.drop_append_of_le_length (by omega),
    List.take_append_of_le_length (by rw [List.length_drop]; omega)]

/-! ## The rules of the headers -/

/-- The file header of an executable for a 32-bit RISC-V, with its table inside the file. -/
structure HeaderRules (elf : Bytes) (h : Header) : Prop where
  length : ehdrSize ≤ elf.length
  magic : Fields.bytes elf 0 4 = some [0x7f, 0x45, 0x4c, 0x46]
  cls : Fields.u8 elf 4 = some elfClass32
  data : Fields.u8 elf 5 = some elfData2Lsb
  identVersion : (Fields.u8 elf 6).map UInt8.toUInt32 = some evCurrent
  type : Fields.u16 elf 16 = some etExec
  machine : Fields.u16 elf 18 = some emRiscv
  version : Fields.u32 elf 20 = some evCurrent
  entry : Fields.u32 elf 24 = some h.entry
  phoff : Fields.u32 elf 28 = some h.phoff
  ehsize : (Fields.u16 elf 40).map UInt16.toNat = some ehdrSize
  phnum : Fields.u16 elf 44 = some h.phnum
  xnum : h.phnum ≠ pnXnum
  /-- Without program headers, their size may be anything. -/
  phentsize : h.phnum ≠ 0 → Fields.u16 elf 42 = some phdrSize
  table : h.tableEnd ≤ elf.length

lemma header_eq_ok {elf : Bytes} {h : Header} : header elf = .ok h ↔ HeaderRules elf h := by
  unfold header
  simp only [bind_eq_ok, okOr_eq_ok, pure_eq_ok, guard_eq_ok, not_not, Nat.not_lt]
  constructor
  · rintro ⟨hlength, hmagic, cls, h1, rfl, data, h2, rfl, ver, h3, rfl, type, h4, rfl, machine, h5,
      rfl, version, h6, rfl, entry, h7, phoff, h8, ehsize, h9, hehsize, phentsize, h10, phnum, h11,
      hphnum, htable, rfl⟩
    obtain ⟨hxnum, hsize⟩ := not_or.mp hphnum
    exact
      { length := hlength, magic := hmagic, cls := h1, data := h2, identVersion := h3, type := h4
        machine := h5, version := h6, entry := h7, phoff := h8
        ehsize := by rw [h9, Option.map_some, hehsize]
        phnum := h11, xnum := hxnum
        phentsize := fun hne => by
          rw [h10]
          exact congrArg some (not_not.mp fun hother => hsize ⟨hne, hother⟩)
        table := htable }
  · intro hrules
    obtain ⟨ehsize, h9, hehsize⟩ := Option.map_eq_some_iff.mp hrules.ehsize
    have hlength := hrules.length
    have h10 : ∃ phentsize, Fields.u16 elf 42 = some phentsize := by
      unfold ehdrSize at hlength
      exact ⟨_, by rw [Fields.u16, Fields.bytes, if_pos (by omega)]; rfl⟩
    obtain ⟨phentsize, h10⟩ := h10
    refine ⟨hlength, hrules.magic, _, hrules.cls, rfl, _, hrules.data, rfl, _, hrules.identVersion,
      rfl, _, hrules.type, rfl, _, hrules.machine, rfl, _, hrules.version, rfl, _, hrules.entry, _,
      hrules.phoff, ehsize, h9, hehsize, phentsize, h10, _, hrules.phnum, ?_, hrules.table, rfl⟩
    rintro (hxnum | ⟨hne, hother⟩)
    · exact hrules.xnum hxnum
    · exact hother (Option.some.inj (h10.symm.trans (hrules.phentsize hne)))

lemma Header.phdr_inFile {elf : Bytes} {h : Header} (htable : h.tableEnd ≤ elf.length) {i : ℕ}
    (hi : i < h.phnum.toNat) : h.phdrAt i + 32 ≤ elf.length := by
  have hstep : (i + 1) * phdrSize.toNat ≤ h.phnum.toNat * phdrSize.toNat :=
    Nat.mul_le_mul_right _ hi
  have hsize : phdrSize.toNat = 32 := rfl
  unfold Header.tableEnd Header.phdrAt at *
  rw [Nat.succ_mul] at hstep
  omega

lemma Fields.u32_isSome {elf : Bytes} {at_ : ℕ} (h : at_ + 4 ≤ elf.length) :
    ∃ word, Fields.u32 elf at_ = some word :=
  ⟨_, by rw [Fields.u32, Fields.bytes, if_pos h]; rfl⟩

lemma programHeader_isOk {elf : Bytes} {h : Header} (htable : h.tableEnd ≤ elf.length) {i : ℕ}
    (hi : i < h.phnum.toNat) : ∃ ph, programHeader elf h i = .ok ph := by
  have hin := Header.phdr_inFile htable hi
  have hread := fun k (hk : k ≤ 28) =>
    @Fields.u32_isSome elf (h.phdrAt i + k) (by omega)
  obtain ⟨type, h0⟩ := hread 0 (by omega)
  obtain ⟨offset, h4⟩ := hread 4 (by omega)
  obtain ⟨vaddr, h8⟩ := hread 8 (by omega)
  obtain ⟨paddr, h12⟩ := hread 12 (by omega)
  obtain ⟨filesz, h16⟩ := hread 16 (by omega)
  obtain ⟨memsz, h20⟩ := hread 20 (by omega)
  refine ⟨{ type, offset, vaddr, paddr, filesz, memsz }, ?_⟩
  unfold programHeader
  simp only [bind_eq_ok, okOr_eq_ok, pure_eq_ok]
  exact ⟨type, h0, offset, h4, vaddr, h8, paddr, h12, filesz, h16, memsz, h20, rfl⟩

/-- The checks that both loaders start with. -/
lemma segmentChecks_eq_ok {ε α : Type} {ph : ProgramHeader} {n : ℕ} {e₁ e₂ : ε}
    {rest : Except ε (Option α)} {o : Option α} :
    (if ph.type ≠ ptLoad then pure none else
      if ph.memsz < ph.filesz then .error e₁ else
      if n < ph.offset.toNat + ph.filesz.toNat then .error e₂ else
      if ph.memsz = 0 then pure none else rest) = Except.ok o ↔
    (ph.type = ptLoad → ph.filesz ≤ ph.memsz ∧ ph.offset.toNat + ph.filesz.toNat ≤ n) ∧
      if ph.type = ptLoad ∧ ph.memsz ≠ 0 then rest = .ok o else o = none := by
  by_cases htype : ph.type = ptLoad
  · rw [if_neg (not_not.mpr htype), guard_eq_ok, guard_eq_ok, UInt32.not_lt, Nat.not_lt,
      ← and_assoc,
      forall_prop_of_true htype]
    refine and_congr_right fun _ => ?_
    by_cases hempty : ph.memsz = 0
    · rw [if_pos hempty, pure_eq_ok, if_neg fun hload => hload.2 hempty, eq_comm]
    · rw [if_neg hempty, if_pos ⟨htype, hempty⟩]
  · rw [if_pos htype, pure_eq_ok, if_neg fun hload => htype hload.1, eq_comm]
    exact ⟨fun ho => ⟨fun hload => absurd hload htype, ho⟩, And.right⟩

/-- The program header with this index is that of a loadable segment. -/
def Loads (elf : Bytes) (h : Header) (index : ℕ) (ph : ProgramHeader) : Prop :=
  index < h.phnum.toNat ∧ programHeader elf h index = .ok ph ∧ ph.type = ptLoad

lemma Loads.unique {elf : Bytes} {h : Header} {index : ℕ} {ph ph' : ProgramHeader}
    (hload : Loads elf h index ph) (hload' : Loads elf h index ph') : ph = ph' :=
  Except.ok.inj (hload.2.1.symm.trans hload'.2.1)

end SystemScope.Elf
