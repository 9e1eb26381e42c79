import SystemScope.Os.Space

/-!
# The syscall ABI

`components/os/src/syscall.rs`: the numbers and errors of the syscalls, the buffer of a `write`, and
the walk with which the kernel reads it through the page table of the caller.
-/

namespace SystemScope.Os

def sysWrite : UInt32 := 64

def sysExit : UInt32 := 93

def sysExitGroup : UInt32 := 94

def sysSchedYield : UInt32 := 124

def sysGetpid : UInt32 := 172

/-- Bad file descriptor. -/
def ebadf : UInt32 := 9

/-- Bad address. -/
def efault : UInt32 := 14

/-- Function not implemented. -/
def enosys : UInt32 := 38

/-- The most bytes that one `write` outputs. -/
def writeMax : UInt32 := 4096

/-- The offset of `a0` in the trap frame. -/
def frameA0 : ℕ := 0x24

/-- The offset of `a1` in the trap frame. -/
def frameA1 : ℕ := 0x28

/-- The offset of `a2` in the trap frame. -/
def frameA2 : ℕ := 0x2C

/-- The offset of `a7` in the trap frame. -/
def frameA7 : ℕ := 0x40

/-- A decoded syscall number. -/
inductive Syscall
  | write
  | exit
  | exitGroup
  | schedYield
  | getPid
  | unsupported (nr : UInt32)
  deriving DecidableEq, Repr

/-- The syscall that a number asks for. -/
def Syscall.decode (nr : UInt32) : Syscall :=
  if nr = sysWrite then .write
  else if nr = sysExit then .exit
  else if nr = sysExitGroup then .exitGroup
  else if nr = sysSchedYield then .schedYield
  else if nr = sysGetpid then .getPid
  else .unsupported nr

/-- `-errno` as a register value. -/
def neg (errno : UInt32) : UInt32 := -errno

/-- The buffer of a `write`, with the `sepc` of its caller. -/
structure Buffer where
  sepc : UInt32
  buf : UInt32
  /-- The bytes to output. -/
  n : UInt32
  deriving DecidableEq, Repr

namespace Buffer

/-- A buffer of 1 to 4096 bytes that does not wrap. -/
def new (sepc buf n : UInt32) : Option Buffer :=
  if (1 ≤ n ∧ n ≤ writeMax) ∧ buf.toNat + n.toNat ≤ 2 ^ 32 then some { sepc, buf, n } else none

/-- The buffer is not empty and does not wrap. -/
structure Valid (b : Buffer) : Prop where
  pos : 0 < b.n.toNat
  inSpace : b.buf.toNat + b.n.toNat ≤ 2 ^ 32

lemma new_eq_some {sepc buf n : UInt32} {b : Buffer} (h : Buffer.new sepc buf n = some b) :
    b.Valid ∧ b.sepc = sepc := by
  unfold Buffer.new at h
  obtain ⟨⟨⟨hpos, -⟩, hspace⟩, hb⟩ := Option.ite_none_right_eq_some.mp h
  cases hb
  exact ⟨⟨UInt32.le_iff_toNat_le.mp hpos, hspace⟩, rfl⟩

variable (b : Buffer)

/-- The number of pages that the buffer touches. -/
def pages : ℕ := (b.buf.toNat + b.n.toNat - 1) / pageBytes - b.buf.toNat / pageBytes + 1

/-- The address of a page of the buffer, unless it leaves the address space. -/
def pageVa (i : ℕ) : Except Panic UInt32 :=
  let offset := i % 2 ^ 32 * pageBytes
  let first := b.buf.toNat / pageBytes * pageBytes
  if 2 ^ 32 ≤ offset ∨ 2 ^ 32 ≤ first + offset then .error .overflow
  else .ok (UInt32.ofNat (first + offset))

/-- The chunk that starts after some bytes: its address and its length. -/
def chunk (done : ℕ) : ℕ × ℕ :=
  let va := b.buf.toNat + done
  (va, min (min (b.n.toNat - done) 16) (pageBytes - va % pageBytes))

lemma chunk_pos {done : ℕ} (h : done < b.n.toNat) : 0 < (b.chunk done).2 := by
  unfold chunk pageBytes
  show 0 < min (min (b.n.toNat - done) 16) (4096 - (b.buf.toNat + done) % 4096)
  omega

/-- A chunk starts after `done` bytes, among those from `at_` on. -/
def chunkStartFrom (done at_ : ℕ) : Bool :=
  if h : at_ < b.n.toNat then
    have := b.chunk_pos h
    if at_ = done then true else chunkStartFrom done (at_ + (b.chunk at_).2)
  else false
termination_by b.n.toNat - at_

/-- A chunk starts after `done` bytes. -/
def isChunkStart (done : ℕ) : Bool := b.chunkStartFrom done 0

end Buffer

/-- One step of the walk. -/
inductive WalkStep
  /-- A pointer to a level-0 table. -/
  | next (table : UInt32)
  /-- A readable user leaf. -/
  | page (ppn : UInt32)
  /-- No readable user mapping. -/
  | fault
  deriving DecidableEq, Repr

/-- The physical address of the entry of an address in a table. -/
def pteAddress (table va : UInt32) (level : UInt8) : ℕ :=
  table.toNat * pageBytes + 4 * (if level = 1 then va >>> 22 else (va >>> 12) &&& 0x3FF).toNat

/-- Decides an entry for a user read of an address. -/
def walkStep (pte : UInt32) (level : UInt8) (va : UInt32) : WalkStep :=
  if pte &&& Pte.v = 0 ∨ pte &&& Pte.r = 0 ∧ pte &&& Pte.w ≠ 0 then .fault
  else
    let ppn := pte >>> 10
    if pte &&& (Pte.r ||| Pte.x) = 0 then
      -- A pointer.
      if level = 1 ∧ pte &&& (Pte.d ||| Pte.a ||| Pte.u) = 0 then .next ppn else .fault
    else if pte &&& Pte.u = 0 ∨ pte &&& Pte.r = 0 ∨ pte &&& Pte.a = 0 then .fault
    else if level = 1 then
      -- A megapage.
      if ppn &&& 0x3FF ≠ 0 then .fault else .page (ppn ||| ((va >>> 12) &&& 0x3FF))
    else .page ppn

/-- The rest of a walk from a table at a level.  The reader of the entries passes its state
along. -/
def translateFrom {σ : Type} (va : UInt32) (readPte : ℕ → σ → UInt32 × σ) :
    ℕ → UInt32 → σ → Option ℕ × σ
  | level, table, s =>
    match readPte (pteAddress table va (UInt8.ofNat level)) s with
    | (pte, s) =>
      match walkStep pte (UInt8.ofNat level) va with
      | .page ppn => (some (ppn.toNat * pageBytes + va.toNat % pageBytes), s)
      | .fault => (none, s)
      | .next table =>
        match level with
        | 0 => (none, s)
        | level + 1 => translateFrom va readPte level table s

/-- The whole walk of an address from a root table. -/
def translate {σ : Type} (root va : UInt32) (readPte : ℕ → σ → UInt32 × σ) (s : σ) : Option ℕ × σ :=
  translateFrom va readPte 1 root s

end SystemScope.Os
