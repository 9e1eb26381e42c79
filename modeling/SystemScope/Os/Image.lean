import SystemScope.Elf.ExecTable
import SystemScope.Elf.User
import SystemScope.Os.Core

/-!
# Where processes come from

`components/os/src/image.rs`: a plan of staged images, or a boot disk, and the rules that the
configuration, the user layout and the images are checked against before a kernel is built.
-/

namespace SystemScope.Os

open Elf

/-- The most processes, and the most boot images. -/
def maxProcesses : ℕ := 8

/-- The size of an Sv32 megapage. -/
def megapage : ℕ := 4 * 2 ^ 20

/-- The base of the MMIO megapage, mapped to itself in every address space. -/
def mmioMegapage : ℕ := 0x10000000

/-- The first physical address that Sv32 does not reach. -/
def physLimit : ℕ := 2 ^ 34

/-- The end of the registers of the block controller that the kernel uses. -/
def blkRegisters : ℕ := 0x1C

/-- The 4 MiB slot of an address: its level-1 index. -/
def vpn1 (addr : ℕ) : ℕ := addr / 2 ^ 22 % 2 ^ 10

/-- Where user segments may lie and where the stack is. -/
structure UserLayout where
  userBase : UInt32
  /-- The page at it stays unmapped. -/
  stackTop : UInt32
  stackPages : UInt32
  deriving DecidableEq, Repr

namespace UserLayout

variable (l : UserLayout)

/-- The layout of the reference platform. -/
def m3 : UserLayout := { userBase := 0x00010000, stackTop := 0x7FFFF000, stackPages := 4 }

/-- The lowest stack address, unless the stack runs below address 0. -/
def stackBase : Option UInt32 :=
  if l.stackPages.toNat * pageBytes < 2 ^ 32 ∧
    l.stackPages.toNat * pageBytes ≤ l.stackTop.toNat then
    some (UInt32.ofNat (l.stackTop.toNat - l.stackPages.toNat * pageBytes))
  else none

/-- The range that segments may occupy. -/
def imageRange : UserRange := { start := l.userBase, stop := l.stackBase.getD 0 }

/-- The addresses of the stack pages, ascending. -/
def stackVas : List UInt32 :=
  (List.range l.stackPages.toNat).map fun i =>
    l.stackBase.getD 0 + UInt32.ofNat i * UInt32.ofNat pageBytes

end UserLayout

/-- A user executable in staging and its mapping plan. -/
structure BootImage where
  /-- The physical address of the first byte of the file. -/
  staged : UInt32
  fileLen : UInt32
  image : UserImage
  deriving DecidableEq, Repr

/-- The images of a kernel with processes: image `i` becomes PID `i + 1`. -/
structure ProcessPlan where
  layout : UserLayout
  images : List BootImage
  deriving DecidableEq, Repr

/-- Why a process plan or a disk boot cannot form a kernel. -/
inductive PlanError
  | config (e : KernelConfigError)
  | layout (rule : String)
  | disk (rule : String)
  | imageCount (n : ℕ)
  | image (index : ℕ) (rule : String)
  deriving DecidableEq, Repr

/-- A user leaf may have these permissions. -/
def ValidPerms (perms : Perms) : Prop :=
  (perms.read ∨ perms.execute) ∧ (perms.read ∨ !perms.write)

instance (perms : Perms) : Decidable (ValidPerms perms) := inferInstanceAs (Decidable (_ ∧ _))

/-- The base of the kernel megapage: that of the RAM. -/
def kernelMegapage (config : KernelConfig) : ℕ := config.ram.base.toNat

/-- The kernel megapage as a range. -/
def megaWindow (config : KernelConfig) : Window :=
  { base := config.ram.base, size := UInt64.ofNat megapage }

/-- The slots that every address space maps to a megapage. -/
def megapageSlots (config : KernelConfig) : List ℕ :=
  [vpn1 (kernelMegapage config), vpn1 mmioMegapage]

/-- Checks the configuration and the user layout: what every kernel with processes needs. -/
def validateLayout (config : KernelConfig) (l : UserLayout) : Except PlanError Unit := do
  config.validate.mapError .config
  if kernelMegapage config % megapage ≠ 0 ∨ physLimit < kernelMegapage config + megapage then
    .error (.layout "the RAM base is not a 4 MiB aligned Sv32 address") else
  if ¬(megaWindow config).Contains config.frame.base.toNat config.frame.size.toNat then
    .error (.layout "the trap frame is outside the kernel megapage") else
  if ¬(megaWindow config).Contains config.staging.base.toNat config.staging.size.toNat then
    .error (.layout "staging is outside the kernel megapage") else
  let pool := config.framePool
  if pool.base.toNat % pageBytes ≠ 0 ∨ pool.size.toNat % pageBytes ≠ 0 then
    .error (.layout "the frame pool is not page-aligned") else
  if physLimit < pool.base.toNat + pool.size.toNat ∨ 2 ^ 32 - 1 < pool.size.toNat / pageBytes then
    .error (.layout "the frame pool is not reachable by Sv32") else
  if (megaWindow config).Overlaps pool.base.toNat pool.size.toNat then
    .error (.layout "the frame pool overlaps the kernel megapage") else
  if l.userBase.toNat % pageBytes ≠ 0 ∨ l.stackTop.toNat % pageBytes ≠ 0 then
    .error (.layout "USER_BASE or STACK_TOP is not page-aligned") else
  if l.stackPages = 0 then .error (.layout "there is no stack page") else
  match l.stackBase with
  | none => .error (.layout "the stack runs below address 0")
  | some stackBase =>
    if stackBase ≤ l.userBase then .error (.layout "USER_BASE is not below the stack") else
    if ∃ va ∈ l.stackVas, vpn1 va.toNat ∈ megapageSlots config then
      .error (.layout "a stack page is in a megapage slot")
    else .ok ()

/-! ## Images -/

/-- `checked_add` of two 32-bit words. -/
def checkedAdd (a b : UInt32) : Option ℕ :=
  if a.toNat + b.toNat < 2 ^ 32 then some (a.toNat + b.toNat) else none

/-- The copy stays in its page.  The source compares `Option` values, of which nothing is the
least, so that a sum that overflows passes. -/
def InPage (c : FileCopy) : Prop :=
  c.len ≠ 0 ∧ ∀ e ∈ checkedAdd c.pageOffset c.len, e ≤ pageBytes

instance (c : FileCopy) : Decidable (InPage c) := inferInstanceAs (Decidable (_ ∧ _))

/-- The copy stays in the file. -/
def InFile (fileLen : UInt32) (c : FileCopy) : Prop :=
  ∃ e ∈ checkedAdd c.fileOffset c.len, e ≤ fileLen.toNat

instance (fileLen : UInt32) (c : FileCopy) : Decidable (InFile fileLen c) :=
  inferInstanceAs (Decidable (∃ e ∈ checkedAdd c.fileOffset c.len, e ≤ fileLen.toNat))

namespace BootImage

variable (boot : BootImage)

/-- The page is where it may be, after the last one. -/
def PagePlaced (range : UserRange) (perms : Perms) (last : Option UInt32) (p : PagePlan) : Prop :=
  p.va.toNat % pageBytes = 0 ∧ range.Contains p.va ∧ p.perms = perms ∧ ∀ l ∈ last, l < p.va

-- Looks at the one address there is, rather than at all words.
instance (last : Option UInt32) (va : UInt32) : Decidable (∀ l ∈ last, l < va) :=
  Option.decidableForallMem last

instance (range : UserRange) (perms : Perms) (last : Option UInt32) (p : PagePlan) :
    Decidable (PagePlaced range perms last p) := inferInstanceAs (Decidable (_ ∧ _))

/-- Checks a page of a segment after the last one, and returns it as the next last one. -/
def checkPage (range : UserRange) (perms : Perms) (last : Option UInt32) (p : PagePlan) :
    Except String (Option UInt32) :=
  if ¬PagePlaced range perms last p then .error "a page is misplaced, out of order, or shared"
  else if ∃ c ∈ p.copy, ¬InPage c ∨ ¬InFile boot.fileLen c then
    .error "a copy leaves its page or the file"
  else .ok (some p.va)

/-- Checks a segment after the last page. -/
def checkSegment (range : UserRange) (last : Option UInt32) (seg : UserSegment) :
    Except String (Option UInt32) :=
  if ¬ValidPerms seg.perms ∨ seg.pages = [] then
    .error "a segment has no pages or invalid permissions"
  else seg.pages.foldlM (boot.checkPage range seg.perms) last

/-- Checks one image of a plan. -/
def check (config : KernelConfig) (layout : UserLayout) : Except String Unit :=
  let range := layout.imageRange
  if boot.fileLen = 0 then .error "the file is empty"
  else if ¬config.staging.Contains boot.staged.toNat boot.fileLen.toNat then
    .error "the file is not inside staging"
  else if boot.image.entry.toNat % 4 ≠ 0 ∨ ¬range.Contains boot.image.entry then
    .error "the entry is misaligned or outside the image range"
  else if boot.image.segments = [] then .error "there is no segment"
  else do
    let _ ← boot.image.segments.foldlM (boot.checkSegment range) none
    return ()

end BootImage

/-- Checks the images of a plan from an index on. -/
def checkImages (config : KernelConfig) (layout : UserLayout) (index : ℕ) :
    List BootImage → Except PlanError Unit
  | [] => .ok ()
  | boot :: rest => do
    (boot.check config layout).mapError (.image index)
    checkImages config layout (index + 1) rest

/-- Checks the configuration and the plan. -/
def ProcessPlan.validate (plan : ProcessPlan) (config : KernelConfig) : Except PlanError Unit := do
  validateLayout config plan.layout
  if plan.images = [] ∨ maxProcesses < plan.images.length then
    .error (.imageCount plan.images.length) else
  checkImages config plan.layout 0 plan.images

/-- What a kernel that boots from disk is configured with. -/
structure DiskBoot where
  layout : UserLayout
  /-- The size of the disk in blocks of 512 bytes. -/
  capacityBlocks : UInt32
  deriving DecidableEq, Repr

namespace DiskBoot

/-- Checks the configuration and the disk boot. -/
def validate (disk : DiskBoot) (config : KernelConfig) : Except PlanError Unit := do
  validateLayout config disk.layout
  if disk.capacityBlocks = 0 then .error (.disk "the disk has no block") else
  if config.staging.base.toNat % 16 ≠ 0 then
    .error (.disk "staging is not 16-byte aligned") else
  if config.staging.size.toNat < blockSize then
    .error (.disk "staging cannot hold block 0") else
  if 2 ^ 32 < config.staging.base.toNat + config.staging.size.toNat then
    .error (.disk "staging is not below 4 GiB") else
  if config.blk.size.toNat < blkRegisters then
    .error (.disk "the block controller window does not hold its registers")
  else return ()

/-- The size of staging, as the table check takes it. -/
def stagingSize (config : KernelConfig) : UInt32 := narrow config.staging.size.toNat

end DiskBoot

/-- Permissions as the bits 1 to 3 of a page-table entry. -/
def permBits (perms : Perms) : UInt8 :=
  (if perms.read then 2 else 0) ||| (if perms.write then 4 else 0) |||
    (if perms.execute then 8 else 0)

/-- Permissions as the trace spells them. -/
def permStr (perms : Perms) : String :=
  (if perms.read then "r" else "-") ++ (if perms.write then "w" else "-") ++
    (if perms.execute then "x" else "-")

end SystemScope.Os
