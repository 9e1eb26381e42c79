import SystemScope.Os.Space

/-!
# The frame allocator

`components/os/src/frames.rs`: the frames of the configured pool and their owners.  Allocation is
lowest free first, so that the frames a process gets depend only on which ones are free.
-/

namespace SystemScope

namespace Os

/-- Why frames cannot be released. -/
inductive FrameError
  | outsidePool (ppn : UInt32)
  | notOwned (ppn : UInt32)
  deriving DecidableEq, Repr

/-- The frames of the pool and their owners. -/
structure Frames where
  /-- The first frame. -/
  base : UInt32
  /-- Who owns each frame: 0 for a free one, else a PID. -/
  owners : List ℕ
  deriving DecidableEq, Repr

namespace Frames

/-- A pool of free frames in `base..base + size`. -/
def new (base size : UInt64) : Frames :=
  { base := UInt32.ofNat (base.toNat / pageBytes)
    owners := List.replicate (size.toNat / pageBytes) 0 }

variable (f : Frames)

/-- The number of frames. -/
def count : ℕ := f.owners.length

/-- The number of free frames. -/
def freeCount : ℕ := f.owners.count 0

/-- The place of a frame in the pool. -/
def index (ppn : UInt32) : Option ℕ :=
  if f.base ≤ ppn ∧ ppn.toNat - f.base.toNat < f.owners.length then
    some (ppn.toNat - f.base.toNat)
  else none

/-- The owner of a frame: nothing outside the pool, 0 for a free one. -/
def owner (ppn : UInt32) : Option ℕ := (f.index ppn).bind fun i => f.owners[i]?

/-- The frame with an index. -/
def ppn (i : ℕ) : UInt32 := f.base + UInt32.ofNat i

/-- The indices of the frames with an owner, ascending. -/
def indicesOf (pid : ℕ) : List ℕ :=
  (List.range f.owners.length).filter fun i => f.owners[i]? = some pid

/-- The frames that a PID owns, ascending. -/
def ownedBy (pid : ℕ) : List UInt32 := (f.indicesOf pid).map f.ppn

/-- The pool with the owner of some frames replaced. -/
def assign (pid : ℕ) (indices : List ℕ) : Frames :=
  { f with owners := indices.foldl (fun owners i => owners.set i pid) f.owners }

/-- Reserves frames, lowest free first, and returns them ascending; nothing if too few are
free. -/
def reserve (pid n : ℕ) : Option (List UInt32 × Frames) :=
  let free := (f.indicesOf 0).take n
  if free.length < n then none else some (free.map f.ppn, f.assign pid free)

/-- Why a PID may not release a frame. -/
def releaseError (pid : ℕ) (ppn : UInt32) : Option FrameError :=
  match f.owner ppn with
  | none => some (.outsidePool ppn)
  | some o => if o ≠ pid ∨ pid = 0 then some (.notOwned ppn) else none

/-- Frees frames that a PID owns, or none of them. -/
def release (pid : ℕ) (ppns : List UInt32) : Except FrameError Frames :=
  match ppns.findSome? (f.releaseError pid) with
  | some e => .error e
  | none => .ok (f.assign 0 (ppns.filterMap f.index))

/-- Bit `i % 8` of byte `i / 8` is set when frame `i` is allocated. -/
def bitmap : Bytes :=
  (List.range ((f.owners.length + 7) / 8)).map fun byte =>
    (List.range 8).foldl
      (fun (bits : UInt8) k =>
        if ∃ o ∈ f.owners[8 * byte + k]?, o ≠ 0 then bits ||| (1 <<< UInt8.ofNat k) else bits)
      0

/-- The bit of a frame in a bitmap. -/
def bit (bitmap : Bytes) (i : ℕ) : Bool :=
  match bitmap[i / 8]? with
  | some b => (b >>> UInt8.ofNat (i % 8)) &&& 1 = 1
  | none => false

end Frames

end Os

/-!
## Processes

`components/os/src/process.rs`: the process table, the run queue, the running PID, and the frames.
A change that would break an invariant of them is refused with a text; the source calls it a
violation.
-/

namespace Os

open Elf

/-- Where a process is in its life. -/
inductive ProcState
  | ready
  | running
  | exited (status : Int32)
  | faulted (cause epc tval : UInt32)
  deriving DecidableEq

namespace ProcState

/-- The process never runs again. -/
def IsTerminal : ProcState → Prop
  | ready | running => False
  | exited _ | faulted .. => True

instance (s : ProcState) : Decidable s.IsTerminal := by
  cases s <;> unfold IsTerminal <;> infer_instance

/-- The name that inspection uses. -/
def name : ProcState → String
  | ready => "ready"
  | running => "running"
  | exited _ => "exited"
  | faulted .. => "faulted"

end ProcState

/-- A saved register context. -/
structure Context where
  /-- `x1` to `x31`. -/
  regs : Vector UInt32 31
  /-- The `sepc` to resume at. -/
  pc : UInt32
  sstatus : UInt32
  deriving DecidableEq

/-- The bytes of the trap frame that a context fills. -/
def contextBytes : ℕ := 0x84

namespace Context

/-- The context of a new process. -/
def initial (entry stackTop : UInt32) : Context :=
  { regs := (Vector.replicate 31 0).set 1 stackTop, pc := entry, sstatus := 0 }

/-- The words of a context, in the order of the trap frame. -/
def words (c : Context) : List UInt32 := c.regs.toList ++ [c.pc, c.sstatus]

/-- The context as the trap frame lays it out. -/
def toFrame (c : Context) : Bytes := c.words.flatMap wordBytes

/-- The context at the start of a trap frame. -/
def fromFrame (frame : Bytes) : Context :=
  { regs := Vector.ofFn fun i => word frame (4 * i), pc := word frame (4 * 31)
    sstatus := word frame (4 * 32) }

end Context

/-- A process control block. -/
structure Pcb where
  pid : ℕ
  state : ProcState
  /-- Present exactly when the process is ready. -/
  context : Option Context
  /-- The root table, kept as history. -/
  root : UInt32
  /-- The root, then the level-0 tables; empty once terminal. -/
  tables : List UInt32
  /-- In ascending order; empty once terminal. -/
  regions : List Region
  deriving DecidableEq

namespace Pcb

/-- A ready process in a new address space. -/
def new (pid : ℕ) (space : Space) (context : Context) : Pcb :=
  { pid, state := .ready, context := some context, root := space.root, tables := space.tables
    regions := space.regions }

/-- Every frame of the process. -/
def frames (p : Pcb) : List UInt32 := p.tables ++ p.regions.flatMap Region.frames

end Pcb

/-- A change that would break an invariant. -/
structure Violation where
  why : String
  deriving DecidableEq, Repr

/-- The process table, the run queue, the running PID, and the frame pool. -/
structure Processes where
  pcbs : List Pcb
  /-- Head first. -/
  queue : List ℕ
  current : Option ℕ
  frames : Frames
  deriving DecidableEq

/-- Frames in ascending order. -/
def sortFrames (frames : List UInt32) : List UInt32 := frames.mergeSort (· ≤ ·)

namespace Processes

/-- No process, and a free pool. -/
def new (frames : Frames) : Processes := { pcbs := [], queue := [], current := none, frames }

variable (ps : Processes)

/-- The first process with a PID. -/
def pcb (pid : ℕ) : Option Pcb := ps.pcbs.find? fun p => p.pid = pid

/-- The table with the first process of a PID changed. -/
def update (pid : ℕ) (f : Pcb → Pcb) : List Pcb → List Pcb
  | [] => []
  | p :: rest => if p.pid = pid then f p :: rest else p :: update pid f rest

/-- Adds a created process at the tail of the queue. -/
def admit_ (pcb : Pcb) : Except Violation Processes :=
  if ∃ p ∈ ps.pcbs.getLast?, pcb.pid ≤ p.pid then
    .error ⟨"admitted PID is not above every PID"⟩
  else if pcb.state ≠ .ready ∨ pcb.context = none then
    .error ⟨"admitted process is not Ready with a context"⟩
  else if sortFrames pcb.frames ≠ ps.frames.ownedBy pcb.pid then
    .error ⟨"admitted process's frames are not reserved for it"⟩
  else .ok { ps with queue := ps.queue ++ [pcb.pid], pcbs := ps.pcbs ++ [pcb] }

/-- Switches away from the running process, which goes to the tail of the queue. -/
def yieldCurrent (context : Context) : Except Violation (Processes × ℕ) :=
  match ps.current with
  | none => .error ⟨"yield with no running process"⟩
  | some pid =>
    match ps.pcb pid with
    | none => .error ⟨"running PID has no PCB"⟩
    | some _ =>
      .ok
        ({ ps with
            pcbs :=
              update pid (fun p => { p with state := .ready, context := some context }) ps.pcbs
            queue := ps.queue ++ [pid]
            current := none },
          pid)

/-- A process that has ended. -/
def ended (state : ProcState) (p : Pcb) : Pcb :=
  { p with state, context := none, tables := [], regions := [] }

/-- Ends the running process and frees its frames. -/
def endCurrent (state : ProcState) : Except Violation (Processes × ℕ) :=
  if ¬state.IsTerminal then .error ⟨"a process can only end in a terminal state"⟩
  else
    match ps.current with
    | none => .error ⟨"no running process to end"⟩
    | some pid =>
      match ps.pcb pid with
      | none => .error ⟨"running PID has no PCB"⟩
      | some p =>
        match ps.frames.release pid p.frames with
        | .error _ => .error ⟨"a process frame is not owned by it"⟩
        | .ok frames =>
          .ok
            ({ ps with pcbs := update pid (ended state) ps.pcbs, current := none, frames }, pid)

/-- A process that was dispatched: its context leaves the table. -/
def dispatched (p : Pcb) : Pcb := { p with state := .running, context := none }

/-- Takes the head of the queue and makes it the running process; returns its PID and the context
to dispatch, or nothing from an empty queue. -/
def scheduleNext : Except Violation (Processes × Option (ℕ × Context)) :=
  if ps.current.isSome then .error ⟨"scheduling while a process runs"⟩
  else
    match ps.queue with
    | [] => .ok (ps, none)
    | pid :: rest =>
      match ps.pcb pid with
      | none => .error ⟨"queued PID has no PCB"⟩
      | some p =>
        match p.context with
        | none => .error ⟨"queued process has no context"⟩
        | some context =>
          if p.state ≠ .ready then .error ⟨"queued process is not Ready"⟩
          else
            .ok
              ({ ps with pcbs := update pid dispatched ps.pcbs, queue := rest,
                         current := some pid },
                some (pid, context))

/-! ## The invariants -/

/-- Checks the processes one by one, after a last PID. -/
def checkPcbs (images : ℕ) : ℕ → List Pcb → Except Violation Unit
  | _, [] => .ok ()
  | last, p :: rest =>
    if p.pid ≤ last ∨ images < p.pid then
      .error ⟨"PIDs not ascending, or outside 1..=images"⟩
    else if ¬(p.state = .ready ↔ p.context.isSome) then
      .error ⟨"a context on a process that is not Ready, or none on a Ready one"⟩
    else if ¬(p.state.IsTerminal ↔ p.tables = []) ∨ ¬(p.state.IsTerminal ↔ p.regions = []) then
      .error ⟨"a terminal process with frames, or a live one without tables"⟩
    else if ¬p.state.IsTerminal ∧ p.tables.head? ≠ some p.root then
      .error ⟨"a live process whose root is not its first table"⟩
    else checkPcbs images p.pid rest

/-- The PIDs of the running processes. -/
def runningPids : List ℕ := (ps.pcbs.filter fun p => p.state = .running).map Pcb.pid

/-- Checks the entries of the queue after those that were seen. -/
def checkQueue (seen : List ℕ) : List ℕ → Except Violation Unit
  | [] => .ok ()
  | pid :: rest =>
    if pid ∈ seen then .error ⟨"a PID queued twice"⟩
    else if (ps.pcb pid).map Pcb.state ≠ some .ready then
      .error ⟨"a queue entry that is not a Ready process"⟩
    else checkQueue (seen ++ [pid]) rest

/-- Marks a frame of the pool as one of a PID. -/
def claimFrame (base : UInt32) (pid : ℕ) (expected : List ℕ) (ppn : UInt32) :
    Except Violation (List ℕ) :=
  if ppn < base then .error ⟨"a process frame outside the pool"⟩
  else
    match expected[ppn.toNat - base.toNat]? with
    | none => .error ⟨"a process frame outside the pool"⟩
    | some o =>
      if o = 0 then .ok (expected.set (ppn.toNat - base.toNat) pid)
      else .error ⟨"a frame owned twice"⟩

/-- Marks the frames of every owner. -/
def claimFrames (base : UInt32) (owners : List (ℕ × List UInt32)) (expected : List ℕ) :
    Except Violation (List ℕ) :=
  owners.foldlM (fun expected o => o.2.foldlM (claimFrame base o.1) expected) expected

/-- Who should own frames: the processes, and the creation in flight. -/
def owners (creating : Option (ℕ × List UInt32)) : List (ℕ × List UInt32) :=
  ps.pcbs.map (fun p => (p.pid, p.frames)) ++ creating.toList

/-- Checks every invariant, with the PID and the frames of the creation in flight. -/
def check (images : ℕ) (creating : Option (ℕ × List UInt32)) : Except Violation Unit := do
  checkPcbs images 0 ps.pcbs
  if 1 < ps.runningPids.length then .error ⟨"two Running processes"⟩ else
  if ps.runningPids.head? ≠ ps.current then
    .error ⟨"the current PID is not the Running process"⟩ else
  ps.checkQueue [] ps.queue
  if ∃ p ∈ ps.pcbs, p.state = .ready ∧ p.pid ∉ ps.queue then
    .error ⟨"a Ready process missing from the queue"⟩ else
  if ∃ c ∈ creating, c.1 = 0 ∨ (ps.pcb c.1).isSome ∨ images < c.1 then
    .error ⟨"the creation in flight has a used or invalid PID"⟩ else
  let expected ← claimFrames ps.frames.base (ps.owners creating)
    (List.replicate ps.frames.count 0)
  if ∃ i < expected.length, ps.frames.owner (ps.frames.ppn i) ≠ expected[i]? then
    .error ⟨"an allocated frame no live process owns, or the reverse"⟩
  else return ()

end Processes

/-- The permissions that bits stand for, or nothing for other bits. -/
def permsFromBits (bits : UInt8) : Option Perms :=
  if bits &&& ~~~0b1110 = 0 then
    some { read := bits &&& 2 ≠ 0, write := bits &&& 4 ≠ 0, execute := bits &&& 8 ≠ 0 }
  else none

end Os

end SystemScope
