import Mathlib.Data.List.Sort
import SystemScope.Elf.Parse

/-!
# User images

`elf/src/user.rs`: `parseUserElf32` checks an executable that a process will run in its own Sv32
address space and turns it into a `UserImage`: the entry point and, for every loaded segment, a
page-by-page mapping plan.  It reads a prefix of the file that holds the headers, never the bytes of
a segment.
-/

namespace SystemScope.Elf

open Checks

/-- The most program headers a user image may have. -/
def maxPhdrs : UInt16 := 16

/-- The Sv32 page size. -/
def pageSize : ℕ := 4096

def pfX : UInt32 := 1

def pfW : UInt32 := 2

def pfR : UInt32 := 4

/-- The offset of `p_flags` in a program header. -/
def pFlagsOffset : ℕ := 24

/-- What a segment or a page may be used for. -/
structure Perms where
  read : Bool
  write : Bool
  execute : Bool
  deriving DecidableEq, Repr

/-- File bytes to copy into one page. -/
structure FileCopy where
  /-- The first byte in the file. -/
  fileOffset : UInt32
  /-- The first byte in the page. -/
  pageOffset : UInt32
  len : UInt32
  deriving DecidableEq, Repr

/-- How one virtual page of a segment is filled. -/
structure PagePlan where
  va : UInt32
  perms : Perms
  /-- The file bytes the page holds; every other byte of it is zero. -/
  copy : Option FileCopy
  deriving DecidableEq, Repr

/-- A loaded segment and its mapping plan. -/
structure UserSegment where
  /-- Its program header. -/
  index : UInt16
  vaddr : UInt32
  memsz : UInt32
  perms : Perms
  /-- Every page the segment touches, in ascending order. -/
  pages : List PagePlan
  deriving DecidableEq, Repr

/-- A validated user executable. -/
structure UserImage where
  entry : UInt32
  /-- In ascending order; no two share a page. -/
  segments : List UserSegment
  deriving DecidableEq, Repr

/-- The pages of an image, in order. -/
def UserImage.pages (image : UserImage) : List PagePlan := image.segments.flatMap UserSegment.pages

/-- A half-open range of user addresses. -/
structure UserRange where
  start : UInt32
  stop : UInt32
  deriving DecidableEq, Repr

namespace UserRange

def Contains (r : UserRange) (a : UInt32) : Prop := r.start ≤ a ∧ a < r.stop

instance (r : UserRange) (a : UInt32) : Decidable (r.Contains a) :=
  inferInstanceAs (Decidable (_ ∧ _))

end UserRange

/-- Why a user executable is rejected. -/
inductive UserElfError
  | header (e : ElfError)
  | prefixLongerThanFile
  | prefixTooShort (needed : UInt32)
  | invalidUserRange
  | phdrCountExceeded (n : UInt16)
  | invalidSegmentSize (index : UInt16)
  | fileRangeOutsideFile (index : UInt16)
  | noPermission (index : UInt16)
  | writeWithoutRead (index : UInt16)
  | segmentOutsideUserRange (index : UInt16)
  | segmentOverlap (first second : UInt16)
  | sharedPage (first second : UInt16)
  | misalignedEntry (entry : UInt32)
  | entryNotExecutable (entry : UInt32)
  deriving DecidableEq, Repr

/-- The text of an error. -/
def UserElfError.text : UserElfError → String
  | header e => e.text
  | prefixLongerThanFile => "the ELF prefix is longer than the file"
  | prefixTooShort needed => s!"the ELF prefix must hold the first {needed} bytes of the file"
  | invalidUserRange => "the user range is empty or not page-aligned"
  | phdrCountExceeded n => s!"{n} program headers exceed the limit of {maxPhdrs}"
  | invalidSegmentSize index => s!"PT_LOAD segment {index} has p_filesz larger than p_memsz"
  | fileRangeOutsideFile index => s!"PT_LOAD segment {index} has a file range outside the file"
  | noPermission index => s!"PT_LOAD segment {index} has no permission"
  | writeWithoutRead index => s!"PT_LOAD segment {index} is writable but not readable"
  | segmentOutsideUserRange index => s!"PT_LOAD segment {index} is outside the user range"
  | segmentOverlap first second => s!"PT_LOAD segments {first} and {second} overlap"
  | sharedPage first second => s!"PT_LOAD segments {first} and {second} share a page"
  | misalignedEntry e => s!"entry point {hexWord e} is misaligned"
  | entryNotExecutable e => s!"entry point {hexWord e} is not in an executable segment"

/-- Narrows a value that is below `2 ^ 32`. -/
def narrow (v : ℕ) : UInt32 := if v < 2 ^ 32 then UInt32.ofNat v else 0xFFFFFFFF

/-! ## Segments -/

/-- A checked `PT_LOAD` segment. -/
structure Checked where
  index : UInt16
  offset : UInt32
  vaddr : UInt32
  filesz : UInt32
  memsz : UInt32
  perms : Perms
  deriving DecidableEq, Repr

namespace Checked

variable (s : Checked)

/-- One past the last byte of memory. -/
def «end» : ℕ := s.vaddr.toNat + s.memsz.toNat

/-- The page of the last byte of memory. -/
def lastPage : ℕ := (s.end - 1) / pageSize

def firstPage : ℕ := s.vaddr.toNat / pageSize

/-- The plan for the page with number `n`. -/
def page (n : ℕ) : PagePlan :=
  let fileStart := s.vaddr.toNat
  let fileEnd := fileStart + s.filesz.toNat
  let va := n * pageSize
  let from_ := max fileStart va
  let to_ := min fileEnd (va + pageSize)
  { va := narrow va
    perms := s.perms
    copy :=
      if from_ < to_ then
        some
          { fileOffset := narrow (s.offset.toNat + (from_ - fileStart))
            pageOffset := narrow (from_ - va)
            len := narrow (to_ - from_) }
      else none }

/-- The plan for every page the segment touches. -/
def pages : List PagePlan :=
  (List.range' s.firstPage (s.lastPage + 1 - s.firstPage)).map s.page

/-- The segment as the image holds it. -/
def toSegment : UserSegment :=
  { index := s.index, vaddr := s.vaddr, memsz := s.memsz, perms := s.perms, pages := s.pages }

end Checked

/-! ## The parser -/

/-- A 16-bit field of the raw header, 0 where the prefix is too short. -/
def rawU16 (elf : Bytes) (at_ : ℕ) : UInt16 := (Fields.u16 elf at_).getD 0

/-- Checks the prefix and the header with the code of the bare-metal loader, and returns the
header. -/
def checkedHeader (elfPrefix : Bytes) (fileLen : UInt32) : Except UserElfError Header :=
  if fileLen.toNat < elfPrefix.length then .error .prefixLongerThanFile
  else if elfPrefix.length < ehdrSize then
    if fileLen.toNat < ehdrSize then .error (.header .malformedHeader)
    else .error (.prefixTooShort (UInt32.ofNat ehdrSize))
  else
    match header elfPrefix with
    | .ok h => if maxPhdrs < h.phnum then .error (.phdrCountExceeded h.phnum) else .ok h
    | .error .malformedProgramHeaders =>
      -- The table may be in the file and only past the prefix.
      let phentsize := rawU16 elfPrefix 42
      let phnum := rawU16 elfPrefix 44
      let phoff := (Fields.u32 elfPrefix 28).getD 0
      if phnum = pnXnum ∨ phnum ≠ 0 ∧ phentsize ≠ phdrSize then
        .error (.header .malformedProgramHeaders)
      else if maxPhdrs < phnum then .error (.phdrCountExceeded phnum)
      else
        let tableEnd := phoff.toNat + phnum.toNat * phdrSize.toNat
        if tableEnd ≤ fileLen.toNat then .error (.prefixTooShort (narrow tableEnd))
        else .error (.header .malformedProgramHeaders)
    | .error e => .error (.header e)

/-- Reads the flags of a program header. -/
def pFlags (elfPrefix : Bytes) (h : Header) (index : ℕ) : Except UserElfError UInt32 :=
  okOr (.header .malformedProgramHeaders) (Fields.u32 elfPrefix (h.phdrAt index + pFlagsOffset))

/-- The permissions that flags stand for. -/
def permsOf (flags : UInt32) : Perms :=
  { read := flags &&& pfR ≠ 0, write := flags &&& pfW ≠ 0, execute := flags &&& pfX ≠ 0 }

/-- Checks one program header; nothing for one that maps nothing. -/
def checkSegment (elfPrefix : Bytes) (fileLen : UInt32) (range : UserRange) (h : Header)
    (index : ℕ) : Except UserElfError (Option Checked) := do
  let ph ← (programHeader elfPrefix h index).mapError .header
  let name := UInt16.ofNat index
  if ph.type ≠ ptLoad then return none else
  if ph.memsz < ph.filesz then .error (.invalidSegmentSize name) else
  if fileLen.toNat < ph.offset.toNat + ph.filesz.toNat then .error (.fileRangeOutsideFile name) else
  if ph.memsz = 0 then return none else
  let flags ← pFlags elfPrefix h index
  let perms := permsOf flags
  if !perms.read && !perms.write && !perms.execute then .error (.noPermission name) else
  if perms.write && !perms.read then .error (.writeWithoutRead name) else
  let segment : Checked :=
    { index := name, offset := ph.offset, vaddr := ph.vaddr, filesz := ph.filesz,
      memsz := ph.memsz, perms }
  if ph.vaddr < range.start ∨ range.stop.toNat < segment.end then
    .error (.segmentOutsideUserRange name)
  else return some segment

/-- Checks that a segment ends before the next one starts, and on another page. -/
def checkPair (a b : Checked) : Except UserElfError Unit :=
  let first := min a.index b.index
  let second := max a.index b.index
  if b.vaddr.toNat < a.end then .error (.segmentOverlap first second)
  else if b.firstPage ≤ a.lastPage then .error (.sharedPage first second)
  else .ok ()

/-- Checks every pair of neighbours. -/
def checkPairs : List Checked → Except UserElfError Unit
  | a :: b :: rest => do
    checkPair a b
    checkPairs (b :: rest)
  | _ => .ok ()

/-- The segment is executable and holds the entry point. -/
def Checked.RunsEntry (s : Checked) (entry : UInt32) : Prop :=
  s.perms.execute ∧ s.vaddr.toNat ≤ entry.toNat ∧ entry.toNat < s.end

instance (s : Checked) (entry : UInt32) : Decidable (s.RunsEntry entry) :=
  inferInstanceAs (Decidable (_ ∧ _))

/-- Validates a user executable and plans its mapping, from the first bytes of the file. -/
def parseUserElf32 (elfPrefix : Bytes) (fileLen : UInt32) (range : UserRange) :
    Except UserElfError UserImage :=
  if range.stop ≤ range.start ∨ range.start.toNat % pageSize ≠ 0 ∨
      range.stop.toNat % pageSize ≠ 0 then .error .invalidUserRange
  else do
    let h ← checkedHeader elfPrefix fileLen
    let loaded ← (List.range h.phnum.toNat).mapM (checkSegment elfPrefix fileLen range h)
    let checked := (loaded.filterMap id).mergeSort fun a b => a.vaddr ≤ b.vaddr
    checkPairs checked
    if h.entry.toNat % 4 ≠ 0 then .error (.misalignedEntry h.entry) else
    if ∀ s ∈ checked, ¬s.RunsEntry h.entry then .error (.entryNotExecutable h.entry) else
    return { entry := h.entry, segments := checked.map Checked.toSegment }

end SystemScope.Elf
