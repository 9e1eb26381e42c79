import SystemScope.Os.Image

/-!
# The address-space builder

`components/os/src/pte.rs` and `space.rs`: the entries and the `satp` values that the kernel writes
(the walker of the CPU, which reads them, is `Rv32i/Sv32.lean`); which frames a new process needs,
what goes in each, and the accesses that put it there.  The frames are assigned in the order a lazy
builder would allocate them (`Placing`); the accesses zero every frame, copy the file bytes, and
write the entries.
-/

namespace SystemScope.Os

open Elf

namespace Pte

def v : UInt32 := (1 : UInt32) <<< 0

def r : UInt32 := (1 : UInt32) <<< 1

def w : UInt32 := (1 : UInt32) <<< 2

def x : UInt32 := (1 : UInt32) <<< 3

def u : UInt32 := (1 : UInt32) <<< 4

def g : UInt32 := (1 : UInt32) <<< 5

def a : UInt32 := (1 : UInt32) <<< 6

def d : UInt32 := (1 : UInt32) <<< 7

/-- `satp.MODE` for Sv32. -/
def satpSv32 : UInt32 := (1 : UInt32) <<< 31

/-- An entry for a physical page with flags. -/
def entry (ppn flags : UInt32) : UInt32 := (ppn &&& 0x3FFFFF) <<< 10 ||| flags

/-- A user leaf: dirty exactly when it is writable. -/
def userLeaf (ppn : UInt32) (perms : Perms) : UInt32 :=
  entry ppn (v ||| (permBits perms).toUInt32 ||| u ||| a ||| if perms.write then d else 0)

/-- A level-1 entry that points at a level-0 table. -/
def pointer (ppn : UInt32) : UInt32 := entry ppn v

/-- The leaf of the kernel megapage. -/
def kernelMegapage (ppn : UInt32) : UInt32 := entry ppn (v ||| r ||| w ||| x ||| g ||| a ||| d)

/-- The leaf of the MMIO megapage. -/
def mmioMegapage (ppn : UInt32) : UInt32 := entry ppn (v ||| r ||| w ||| g ||| a ||| d)

/-- The `satp` value for a root table. -/
def satp (root : UInt32) : UInt32 := satpSv32 ||| (root &&& 0x3FFFFF)

end Pte

/-! ## Regions -/

/-- The permissions of the stack. -/
def stackPerms : Perms := { read := true, write := true, execute := false }

/-- A mapped region of a process: a loaded segment or the stack. -/
structure Region where
  /-- The first page. -/
  va : UInt32
  perms : Perms
  /-- The frame of each page. -/
  frames : List UInt32
  deriving DecidableEq, Repr

/-- The pages of the stack. -/
def stackPages (layout : UserLayout) : List PagePlan :=
  layout.stackVas.map fun va => { va, perms := stackPerms, copy := none }

/-- The pages to map: those of the image, then the stack. -/
def pages (image : UserImage) (layout : UserLayout) : List PagePlan :=
  image.pages ++ stackPages layout

/-- The 4 MiB slot of a page. -/
def slotOf (p : PagePlan) : ℕ := vpn1 p.va.toNat

/-- The number of frames that a process for an image needs. -/
def framesNeeded (image : UserImage) (layout : UserLayout) : ℕ :=
  1 + ((pages image layout).map slotOf).dedup.length + (pages image layout).length

/-- A page of the image lies in the slot of a megapage. -/
def MegapageConflict (image : UserImage) (config : KernelConfig) : Prop :=
  ∃ p ∈ image.pages, slotOf p ∈ megapageSlots config

instance (image : UserImage) (config : KernelConfig) : Decidable (MegapageConflict image config) :=
  inferInstanceAs (Decidable (∃ p ∈ image.pages, slotOf p ∈ megapageSlots config))

/-! ## What the regions of a live process describe -/

/-- Adds the page `k` of a region to those before it; the second component is the last page. -/
def regionPage (range : UserRange) (r : Region) (seen : List PagePlan × Option UInt32) (k : ℕ) :
    Option (List PagePlan × Option UInt32) :=
  if 2 ^ 32 ≤ r.va.toNat + k * pageBytes then none
  else
    let va := UInt32.ofNat (r.va.toNat + k * pageBytes)
    if va.toNat % pageBytes ≠ 0 ∨ ¬range.Contains va ∨ ∃ l ∈ seen.2, va ≤ l then none
    else some (seen.1 ++ [{ va, perms := r.perms, copy := none }], some va)

/-- Adds the segment that a region describes. -/
def regionSegment (range : UserRange) (seen : List UserSegment × Option UInt32)
    (r : Region) : Option (List UserSegment × Option UInt32) := do
  if r.frames = [] ∨ ¬ValidPerms r.perms then none else
  let (ps, last) ← (List.range r.frames.length).foldlM (regionPage range r) ([], seen.2)
  if 2 ^ 16 ≤ seen.1.length ∨ 2 ^ 32 ≤ ps.length * pageBytes then none else
  let segment : UserSegment :=
    { index := UInt16.ofNat seen.1.length, vaddr := r.va
      memsz := UInt32.ofNat (ps.length * pageBytes), perms := r.perms, pages := ps }
  return (seen.1 ++ [segment], last)

/-- The image that the regions of a live process describe, without file bytes. -/
def regionImage (regions : List Region) (layout : UserLayout) : Option UserImage :=
  match regions.dropLast with
  | [] => none
  | first :: rest => do
    let (segments, _) ← (first :: rest).foldlM (regionSegment layout.imageRange) ([], none)
    return { entry := first.va, segments }

/-! ## Assigning frames -/

/-- The length of the first piece of a copy: at most 16 bytes, that cross no page on either
side. -/
def pieceLen (src dst len : ℕ) : ℕ :=
  min (min (min len maxAccess) (pageBytes - src % pageBytes)) (pageBytes - dst % pageBytes)

lemma pieceLen_pos {src dst len : ℕ} (h : len ≠ 0) : 0 < pieceLen src dst len := by
  unfold pieceLen maxAccess pageBytes
  omega

/-- A copy in pieces: source, destination and length. -/
def splitCopy (src dst len : ℕ) : List (ℕ × ℕ × ℕ) :=
  if h : len = 0 then []
  else
    have : 0 < pieceLen src dst len := pieceLen_pos h
    (src, dst, pieceLen src dst len) ::
      splitCopy (src + pieceLen src dst len) (dst + pieceLen src dst len)
        (len - pieceLen src dst len)
termination_by len

/-- The frames that were assigned, and what follows from them, while the builder goes through the
pages. -/
structure Placing where
  /-- The frames that were not taken. -/
  free : List UInt32
  tables : List UInt32
  /-- The level-0 table of each slot. -/
  slots : List (ℕ × UInt32)
  /-- The frames that were taken. -/
  order : List UInt32
  leaves : List (ℕ × UInt32)
  copies : List (ℕ × ℕ × ℕ)
  placed : List (UInt32 × Perms × UInt32)
  deriving DecidableEq, Repr

namespace Placing

variable (b : Placing)

/-- Takes the next frame. -/
def take : Except Panic (UInt32 × Placing) :=
  match b.free with
  | [] => .error .expect
  | frame :: rest => .ok (frame, { b with free := rest, order := b.order ++ [frame] })

/-- The table of a slot, on its first use with a frame of its own. -/
def tableFor (slot : ℕ) : Except Panic (UInt32 × Placing) :=
  match b.slots.find? fun s => s.1 = slot with
  | some s => .ok (s.2, b)
  | none => do
    let (table, b) ← b.take
    return (table, { b with slots := b.slots ++ [(slot, table)], tables := b.tables ++ [table] })

/-- The pieces of the copy into the frame of a page. -/
def copiesOf (staged : ℕ) (frame : UInt32) : Option FileCopy → List (ℕ × ℕ × ℕ)
  | none => []
  | some c =>
    splitCopy (staged + c.fileOffset.toNat) (frame.toNat * pageBytes + c.pageOffset.toNat)
      c.len.toNat

/-- The level-0 index of an address. -/
def vpn0 (va : UInt32) : ℕ := va.toNat / 2 ^ 12 % 2 ^ 10

/-- The address of the entry of a page in its table. -/
def leafAddr (table va : UInt32) : ℕ := table.toNat * pageBytes + 4 * vpn0 va

/-- Maps one page. -/
def place (staged : ℕ) (p : PagePlan) : Except Panic Placing := do
  let (table, b) ← b.tableFor (slotOf p)
  let (frame, b) ← b.take
  return { b with
    leaves := b.leaves ++ [(leafAddr table p.va, Pte.userLeaf frame p.perms)]
    copies := b.copies ++ copiesOf staged frame p.copy
    placed := b.placed ++ [(p.va, p.perms, frame)] }

/-- Maps the pages in order. -/
def placeAll (staged : ℕ) : List PagePlan → Placing → Except Panic Placing
  | [], b => .ok b
  | p :: rest, b => do placeAll staged rest (← b.place staged p)

end Placing

/-! ## Address spaces -/

/-- The address space of a process: its frames, and what the creation writes. -/
structure Space where
  /-- The root table. -/
  root : UInt32
  /-- The root, then the level-0 tables in the order of their assignment. -/
  tables : List UInt32
  /-- The segments in the order of the image, then the stack. -/
  regions : List Region
  /-- Every frame, in the order of its assignment. -/
  frames : List UInt32
  /-- The level-0 table of each slot that is touched. -/
  slots : List (ℕ × UInt32)
  /-- Source, destination and length of each copy. -/
  copies : List (ℕ × ℕ × ℕ)
  /-- Address and value of each entry. -/
  ptes : List (ℕ × UInt32)
  deriving DecidableEq, Repr

/-- The regions of the segments, and the frames left over for the stack. -/
def segmentRegions : List UserSegment → List UInt32 → Except Panic (List Region × List UInt32)
  | [], frames => .ok ([], frames)
  | s :: rest, frames =>
    match s.pages with
    | [] => .error .index
    | p :: _ => do
      let (regions, left) ← segmentRegions rest (frames.drop s.pages.length)
      return ({ va := p.va, perms := s.perms, frames := frames.take s.pages.length } ::
        regions, left)

/-- The regions of an image in the frames of its pages. -/
def regionsOf (image : UserImage) (layout : UserLayout) (frames : List UInt32) :
    Except Panic (List Region) := do
  let (regions, left) ← segmentRegions image.segments frames
  match layout.stackBase with
  | none => .error .expect
  | some va => return regions ++ [{ va, perms := stackPerms, frames := left }]

namespace Space

/-- The level-1 entries before they are sorted: the pointers, and the two megapages. -/
def upper (config : KernelConfig) (slots : List (ℕ × UInt32)) : List (ℕ × UInt32) :=
  slots.map (fun s => (s.1, Pte.pointer s.2)) ++
    [(vpn1 (kernelMegapage config),
        Pte.kernelMegapage (UInt32.ofNat (kernelMegapage config / pageBytes))),
      (vpn1 mmioMegapage, Pte.mmioMegapage (UInt32.ofNat (mmioMegapage / pageBytes)))]

/-- The address of a level-1 entry. -/
def upperAddr (root : UInt32) (slot : ℕ) : ℕ := root.toNat * pageBytes + 4 * slot

/-- The level-1 entries in ascending order of their slots.  The source's sort is not stable; the
order that it gives to two entries of one slot is not specified, and here they stay as they are. -/
def upperPtes (config : KernelConfig) (root : UInt32) (slots : List (ℕ × UInt32)) :
    List (ℕ × UInt32) :=
  ((upper config slots).mergeSort fun a b => a.1 ≤ b.1).map fun e => (upperAddr root e.1, e.2)

/-- The address space of an executable in the given frames. -/
def build (config : KernelConfig) (layout : UserLayout) (boot : BootImage)
    (frames : List UInt32) : Except Panic Space :=
  match frames with
  | [] => .error .expect
  | root :: free => do
    let b ← Placing.placeAll boot.staged.toNat (pages boot.image layout)
      { free, tables := [root], slots := [], order := [root], leaves := [], copies := [],
        placed := [] }
    let regions ← regionsOf boot.image layout (b.placed.map fun p => p.2.2)
    return { root, tables := b.tables, regions, frames := b.order, slots := b.slots,
             copies := b.copies, ptes := b.leaves ++ upperPtes config root b.slots }

variable (s : Space)

/-- The table that maps the slot of an address. -/
def tableFor (va : UInt32) : Option UInt32 :=
  (s.slots.find? fun e => e.1 = vpn1 va.toNat).map Prod.snd

/-- The number of writes that zero a frame. -/
def perFrame : ℕ := pageBytes / maxAccess

def zeroSteps : ℕ := s.frames.length * perFrame

/-- The number of accesses of the creation. -/
def accesses : ℕ := s.zeroSteps + 2 * s.copies.length + s.ptes.length

/-- The number of accesses as a 32-bit word. -/
def steps : Except Panic ℕ := if s.accesses < 2 ^ 32 then .ok s.accesses else .error .expect

/-- The length of the working data at a step: that of a copy between its read and its write. -/
def dataLen (step : ℕ) : ℕ :=
  if step < s.zeroSteps then 0
  else
    match s.copies[(step - s.zeroSteps) / 2]? with
    | some c => if (step - s.zeroSteps) % 2 = 1 then c.2.2 else 0
    | none => 0

/-- The access that is due at a step, with the bytes a copy read. -/
def access (step : ℕ) (data : Bytes) : Option Access :=
  if step < s.zeroSteps then
    s.frames[step / perFrame]?.map fun frame =>
      .write (frame.toNat * pageBytes + step % perFrame * maxAccess) (List.replicate maxAccess 0)
  else
    let k := step - s.zeroSteps
    match s.copies[k / 2]? with
    | some (src, dst, len) => some (if k % 2 = 0 then .read src len else .write dst data)
    | none => s.ptes[k - 2 * s.copies.length]?.map fun e => .write e.1 (wordBytes e.2)

end Space

end SystemScope.Os
