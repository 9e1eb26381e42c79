import SystemScope.Os.KernelSnapshot

/-!
# Restoring the modeled kernel

The checks of `components/os/src/kernel.rs` on a decoded snapshot.  What a snapshot does not hold is
rebuilt: the address spaces from the images or from the regions, the owners of the frames from the
bitmap and the processes, the pages of a buffer from the regions.
-/

namespace SystemScope.Os

open Elf SnapshotData SnapshotField Restoring

/-- Why a restore does not end in a kernel. -/
inductive Stop
  | panic (p : Panic)
  | refused (e : RestoreError)
  deriving DecidableEq

/-- A check of a decoded snapshot, which may panic. -/
abbrev Checking (α : Type) := Except Stop α

/-- Refuses a snapshot. -/
def refuse {α : Type} (what : String) : Checking α := .error (.refused (.invalidState what))

/-- A panic goes on; a broken invariant is a refusal. -/
def Stop.ofFailure : Failure → Stop
  | .panic p => .panic p
  | .violation v => .refused (.invalidState v.why)

/-! ## Processes -/

/-- The owners as the bitmap leaves them: free, or not known yet. -/
def markedOwners (count : ℕ) (bitmap : Bytes) : List ℕ :=
  (List.range count).map fun i => if Frames.bit bitmap i then unclaimed else 0

/-- Gives a marked frame to a PID. -/
def claimMark (base : UInt32) (pid : ℕ) (owners : List ℕ) (ppn : UInt32) : List ℕ :=
  if base ≤ ppn ∧ owners[ppn.toNat - base.toNat]? = some unclaimed then
    owners.set (ppn.toNat - base.toNat) pid
  else owners

/-- Gives the marked frames to the processes that list them. -/
def claimPcbs (base : UInt32) (pcbs : List Pcb) (owners : List ℕ) : List ℕ :=
  pcbs.foldl (fun owners p => p.frames.foldl (claimMark base p.pid) owners) owners

/-- The process has the root, the tables and the regions of a space. -/
def Pcb.IsIn (p : Pcb) (space : Space) : Prop :=
  space.root = p.root ∧ space.tables = p.tables ∧ space.regions = p.regions

instance (p : Pcb) (space : Space) : Decidable (p.IsIn space) :=
  inferInstanceAs (Decidable (_ ∧ _))

/-- For a disk boot, the space that the regions of a process describe, built in its frames; nothing
if no creation could have assigned them. -/
def diskSpace (config : KernelConfig) (layout : UserLayout) (p : Pcb) : Checking (Option Space) :=
  match regionImage p.regions layout with
  | none => .ok none
  | some image =>
    if (sortFrames p.frames).length = framesNeeded image layout ∧
      ¬MegapageConflict image config then
      some <$> (Space.build config layout
        { staged := UInt32.ofNat config.staging.base.toNat, fileLen := 0, image }
        (sortFrames p.frames)).mapError .panic
    else .ok none

/-- The image that becomes a PID. -/
def ProcessPlan.image (plan : ProcessPlan) (pid : ℕ) : Option BootImage :=
  if pid = 0 then none else plan.images[pid - 1]?

/-- Checks a live process of a plan against its image. -/
def checkPlanned (config : KernelConfig) (plan : ProcessPlan) (p : Pcb) : Checking Unit :=
  match plan.image p.pid with
  | none => refuse "modeled kernel: a PID outside the plan"
  | some boot =>
    if (sortFrames p.frames).length ≠ framesNeeded boot.image plan.layout ∨
        MegapageConflict boot.image config then
      refuse "modeled kernel: a process's frames do not fit its image"
    else do
      let space ← (Space.build config plan.layout boot (sortFrames p.frames)).mapError .panic
      if ¬p.IsIn space then
        refuse "modeled kernel: a process's tables or regions are not its image's"
      else return ()

/-- Checks a live process of a disk boot against the space its regions describe. -/
def checkLoaded (config : KernelConfig) (layout : UserLayout) (p : Pcb) : Checking Unit := do
  match ← diskSpace config layout p with
  | none => refuse "modeled kernel: a process's tables or regions are not a creation's"
  | some space =>
    if ¬p.IsIn space then
      refuse "modeled kernel: a process's tables or regions are not a creation's"
    else return ()

/-- Checks a process, if it is live. -/
def checkLive (config : KernelConfig) (source : Source) (p : Pcb) : Checking Unit :=
  if p.state.IsTerminal then .ok ()
  else
    match source with
    | .plan plan => checkPlanned config plan p
    | .disk disk => checkLoaded config disk.layout p

/-- Checks the process section.  The creation in flight is given its frames later. -/
def RawModel.check (config : KernelConfig) (source : Source) (raw : RawModel) : Checking Model := do
  let pool := Frames.new config.framePool.base config.framePool.size
  if raw.bitmap.length ≠ (pool.count + 7) / 8 then
    refuse "modeled kernel: frame bitmap of the wrong size" else
  if ∃ i < raw.bitmap.length * 8, pool.count ≤ i ∧ Frames.bit raw.bitmap i then
    refuse "modeled kernel: frame bitmap bit past the pool" else
  raw.pcbs.forM (checkLive config source)
  return { source, entries := raw.entries
           procs := { pcbs := raw.pcbs, queue := raw.queue, current := raw.current
                      frames := { base := pool.base
                                  owners := claimPcbs pool.base raw.pcbs
                                    (markedOwners pool.count raw.bitmap) } }
           life := raw.life }

/-! ## Operations -/

/-- Checks the cursor of a boot from disk. -/
def bootCursor (config : KernelConfig) (m : Model) (c : RawCursor) : Checking Cursor :=
  match m.source with
  | .plan _ => refuse "modeled kernel: a disk boot stage without a disk"
  | .disk disk =>
    if m.life ≠ .up ∨ m.procs.current.isSome then
      refuse "modeled kernel: a disk boot stage out of boot"
    else
      match c.entries with
      | none =>
        if c.index ≠ 0 ∨ m.entries ≠ 0 then
          refuse "modeled kernel: a block 0 read after the table was counted"
        else .ok .first
      | some entries =>
        let table : ExecTable := { entries }
        let valid := table.encode.toOption.bind fun block =>
          (parseExecTable block disk.capacityBlocks (DiskBoot.stagingSize config)).toOption
        if valid ≠ some table ∨ m.entries ≠ entries.length ∨ entries.length ≤ c.index.toNat then
          refuse "modeled kernel: a disk boot stage with a table no boot validated"
        else if ∃ p ∈ m.procs.pcbs, c.index.toNat < p.pid then
          refuse "modeled kernel: a disk boot stage out of boot order"
        else .ok { table := some table, index := c.index.toNat }

/-- The frame that a region gives to a page, if it is readable. -/
def Region.readable (va : UInt32) (r : Region) : Option UInt32 :=
  if va < r.va then none
  else
    match r.frames[(va.toNat - r.va.toNat) / pageBytes]? with
    | none => none
    | some frame => if r.perms.read then some frame else none

/-- The physical pages of a number of pages of a buffer from one on, as far as they are mapped
readable. -/
def mappedPages (regions : List Region) (buffer : Buffer) : ℕ → ℕ → Except Panic (List UInt32)
  | 0, _ => .ok []
  | n + 1, i => do
    let va ← buffer.pageVa i
    match regions.findSome? (Region.readable va) with
    | none => return []
    | some frame => return frame :: (← mappedPages regions buffer n (i + 1))

/-- For a `write`: the buffer, the space of the running process, and the physical pages of the
buffer. -/
def syscallSpace (config : KernelConfig) (m : Model) (b : Buffer) :
    Checking (Buffer × Space × List UInt32) := do
  match (m.procs.current.bind m.procs.pcb).filter fun _ => m.life = .up with
  | none => refuse "modeled kernel: a write with no process running"
  | some p =>
    match Buffer.new b.sepc b.buf b.n with
    | none => refuse "modeled kernel: a write buffer no write produces"
    | some buffer => do
      let space ← match m.source with
        | .plan plan => do
          let boot ← (Model.planImage plan p.pid).mapError Stop.ofFailure
          (Space.build config plan.layout boot (sortFrames p.frames)).mapError Stop.panic
        | .disk disk => do
          match ← diskSpace config disk.layout p with
          | none => refuse "modeled kernel: a write with no process running"
          | some space => pure space
      let expected ← (mappedPages p.regions buffer buffer.pages 0).mapError Stop.panic
      return (buffer, space, expected)

/-- Checks the frames of a creation against its image, and builds its space. -/
def creationSpace (config : KernelConfig) (layout : UserLayout) (boot : BootImage)
    (frames : List UInt32) (what : String) : Checking Space :=
  if ¬frames.IsChain (· < ·) ∨ frames.length ≠ framesNeeded boot.image layout ∨
      MegapageConflict boot.image config then
    refuse what
  else (Space.build config layout boot frames).mapError .panic

/-- Checks a creation of a plan. -/
def createStage (config : KernelConfig) (m : Model) (pid : ℕ) (frames : List UInt32) :
    Checking Stage :=
  match m.source with
  | .disk _ => refuse "modeled kernel: a plan creation without a plan"
  | .plan plan =>
    match plan.image pid with
    | none => refuse "modeled kernel: creation of a PID outside the plan"
    | some boot =>
      if m.life ≠ .up ∨ m.procs.current.isSome ∨ ∃ p ∈ m.procs.pcbs, pid ≤ p.pid then
        refuse "modeled kernel: creation out of boot order"
      else do
        let space ← creationSpace config plan.layout boot frames
          "modeled kernel: creation frames do not fit the image"
        return .create pid space

/-- Checks a creation of a boot from disk. -/
def loadStage (config : KernelConfig) (m : Model) (c : RawCursor) (headers : Bytes)
    (frames : List UInt32) : Checking Stage := do
  let cursor ← bootCursor config m c
  match cursor.entry, m.source with
  | some entry, .disk disk =>
    match parseUserElf32 headers entry.byteLen disk.layout.imageRange with
    | .error _ => refuse "modeled kernel: a load whose headers do not parse"
    | .ok image => do
      let space ← creationSpace config disk.layout (Model.stagedImage config entry image) frames
        "modeled kernel: load frames do not fit the image"
      return .load cursor headers image space
  | _, _ => refuse "modeled kernel: a load before the table"

/-- Checks a read of the first bytes of staging. -/
def stagedStage (config : KernelConfig) (m : Model) (c : RawCursor) (len : UInt32) :
    Checking Stage := do
  let cursor ← bootCursor config m c
  let reachable : Bool := match cursor.entry with
    | none => len = UInt32.ofNat blockSize
    | some e => cursor.firstRead ≤ len ∧ len ≤ e.byteLen
  if ¬reachable then refuse "modeled kernel: a staging read no boot makes"
  else return .staged cursor len

/-- The table that a walk reads is the one of its level. -/
def WalkTable (space : Space) (va table : UInt32) (level : UInt8) : Prop :=
  if level = 1 then table = space.root else level = 0 ∧ space.tableFor va = some table

instance (space : Space) (va table : UInt32) (level : UInt8) :
    Decidable (WalkTable space va table level) := by
  unfold WalkTable
  infer_instance

/-- Checks a walk of a buffer. -/
def walkStage (config : KernelConfig) (m : Model) (b : Buffer) (pages : List UInt32)
    (table : UInt32) (level : UInt8) : Checking Stage := do
  let (buffer, space, expected) ← syscallSpace config m b
  let va ← (buffer.pageVa pages.length).mapError Stop.panic
  if buffer.pages ≤ pages.length ∨ ¬pages <+: expected ∨ ¬WalkTable space va table level then
    refuse "modeled kernel: a walk that is not the running process's mapping"
  else return .walk buffer pages table level

/-- Checks the output of a buffer. -/
def outputStage (config : KernelConfig) (m : Model) (b : Buffer) (pages : List UInt32) (done : ℕ) :
    Checking Stage := do
  let (buffer, _, expected) ← syscallSpace config m b
  if pages ≠ expected ∨ ¬buffer.isChunkStart done then
    refuse "modeled kernel: output that is not the running process's buffer"
  else return .output buffer pages done

/-- Checks a stage against the process section. -/
def RawStage.check (config : KernelConfig) (m : Model) : RawStage → Checking Stage
  | .create pid frames => createStage config m pid frames
  | .command c => do return .command (← bootCursor config m c)
  | .poll c => do return .poll (← bootCursor config m c)
  | .ack c error => do return .ack (← bootCursor config m c) error
  | .staged c len => stagedStage config m c len
  | .load c headers frames => loadStage config m c headers frames
  | .readFrame =>
    if m.life ≠ .up ∨ m.procs.current = none then
      refuse "modeled kernel: frame read with no process running"
    else .ok .readFrame
  | .dispatch pid context =>
    if m.life ≠ .up ∨ m.procs.current ≠ some pid then
      refuse "modeled kernel: dispatch of a process that is not running"
    else .ok (.dispatch pid context (Pte.satp (((m.procs.pcb pid).map Pcb.root).getD 0)))
  | .shutdown reason =>
    if m.life ≠ .down ∨ 1 < reason then refuse "modeled kernel: a shutdown that was not decided"
    else .ok (.shutdown reason)
  | .walk b pages table level => walkStage config m b pages table level
  | .output b pages done => outputStage config m b pages done
  | .return_ sepc value =>
    if m.life ≠ .up ∨ m.procs.current = none then
      refuse "modeled kernel: a syscall return with no process running"
    else .ok (.return_ sepc value)

/-- Checks an operation with processes, and builds it. -/
def procOp (config : KernelConfig) (m : Model) (stage : RawStage) (step : ℕ) (data : Bytes) :
    Checking ProcOp := do
  let stage ← stage.check config m
  match ← (ProcOp.fromParts config stage step data).mapError Stop.panic with
  | none => refuse "modeled kernel: operation step or working data not reachable"
  | some o => return o

/-! ## The kernel -/

/-- The PID and the frames of the creation that is in flight. -/
def Work.creating : Option Work → Option (ℕ × List UInt32)
  | some (.proc o) => o.stage.creating
  | _ => none

/-- Gives a frame to the creation in flight. -/
def claimCreating (base : UInt32) (pid : ℕ) (owners : List ℕ) (ppn : UInt32) :
    Checking (List ℕ) :=
  if base ≤ ppn ∧ owners[ppn.toNat - base.toNat]? = some unclaimed then
    .ok (owners.set (ppn.toNat - base.toNat) pid)
  else refuse "modeled kernel: a creation frame not marked allocated"

/-- Gives its frames to the creation in flight, which are the lowest that were free. -/
def claimCreation (base : UInt32) (owners : List ℕ) :
    Option (ℕ × List UInt32) → Checking (List ℕ)
  | none => .ok owners
  | some (pid, frames) => do
    let owners ← frames.foldlM (claimCreating base pid) owners
    let last := (frames.getLast?).getD base
    if last < base then .error (.panic .overflow)
    else if owners.length < last.toNat - base.toNat then .error (.panic .index)
    else if 0 ∈ owners.take (last.toNat - base.toNat) then
      refuse "modeled kernel: creation frames are not the lowest free ones"
    else return owners

/-- The owners of the frames of a pool. -/
def Frames.ownerList (f : Frames) : Except Panic (List ℕ) :=
  if 2 ^ 32 < f.base.toNat + f.count then .error .overflow
  else .ok ((List.range f.count).map fun i => (f.owner (f.ppn i)).getD 0)

/-- The life, the operation and the process table do not fit. -/
def lifeError (m : Model) (work : Option Work) : Option String :=
  match m.life, work with
  | .awaitBoot, some _ => some "modeled kernel: an operation before boot"
  | .awaitBoot, none =>
    if m.procs.pcbs ≠ [] then some "modeled kernel: processes before boot" else none
  | .up, none =>
    if m.procs.current = none then some "modeled kernel: idle after boot with no process running"
    else none
  | _, _ => none

/-- Checks what ties the process table to the life and the operation. -/
def checkLife (m : Model) (work : Option Work) : Checking Model := do
  let owners ← m.procs.frames.ownerList.mapError Stop.panic
  let owners ← claimCreation m.procs.frames.base owners (Work.creating work)
  if unclaimed ∈ owners then refuse "modeled kernel: an allocated frame no live process owns" else
  let checked : Processes := { m.procs with frames := { base := m.procs.frames.base, owners } }
  (checked.check m.entries (Work.creating work)).mapError fun v => .ofFailure (.violation v)
  match lifeError m work with
  | some what => refuse what
  | none => return { m with procs := checked }

/-- The kernel may send the access that is due. -/
def checkAccess (config : KernelConfig) (work : Work) : Checking Unit := do
  match ← (work.access config).mapError Stop.panic with
  | none => .error (.panic .expect)
  | some access =>
    if ¬config.Permits access.addr access.len then
      refuse "modeled kernel: pending access outside the whitelist"
    else return ()

/-- Checks the operation. -/
def checkWork (config : KernelConfig) (model : Option Model) : Option RawOp → Checking (Option Work)
  | none => .ok none
  | some (.proto op step data) =>
    match model, Operation.fromParts config op step data with
    | some _, _ => refuse "modeled kernel: operation of the other mode"
    | none, none => refuse "modeled kernel: operation step or working data not reachable"
    | none, some o => .ok (some (.proto o))
  | some (.proc stage step data) =>
    match model with
    | none => refuse "modeled kernel: operation of the other mode"
    | some m => do return some (.proc (← procOp config m stage step data))

/-- Checks a decoded snapshot. -/
def RawKernel.check (config : KernelConfig) (source : Option Source) (raw : RawKernel) :
    Checking (ModeledKernel config) := do
  let model ← match source, raw.model with
    | some source, some m => some <$> m.check config source
    | _, _ => pure none
  let work ← checkWork config model raw.op
  if ¬(raw.held.isSome ↔ work.isSome) then
    refuse "modeled kernel: a held ENTER without an operation, or the reverse" else
  (work.toList).forM (checkAccess config)
  if ∃ txn ∈ raw.outstanding, ¬(raw.nextTxn ≠ 0 ∧ raw.nextTxn - 1 = txn) then
    refuse "modeled kernel: outstanding txn is not the latest issued" else
  let model ← model.mapM fun m => checkLife m work
  let state : State := match work, raw.outstanding with
    | none, _ => .idle
    | some work, none => .issue work
    | some work, some txn => .wait work txn
  return { state, held := raw.held, nextTxn := raw.nextTxn, model }

namespace ModeledKernel

variable [SnapshotData] {config : KernelConfig} (c : ModeledKernel config)

/-- Replaces the whole state with the snapshot's, or changes nothing; or it panics. -/
def restore (bs : Bytes) : Except Panic (ModeledKernel config × Except RestoreError Bytes) :=
  let source := c.model.map Model.source
  match decodeKernel config source bs with
  | .error e => .ok (c, .error e)
  | .ok (raw, rest) =>
    match raw.check config source with
    | .error (.panic p) => .error p
    | .error (.refused e) => .ok (c, .error e)
    | .ok restored => .ok (restored, .ok rest)

/-! ## Inspecting -/

/-- The state of a process as inspection shows it. -/
def stateText : ProcState → String
  | .exited status => s!"exited({status})"
  | .faulted cause epc tval =>
    s!"faulted({hex cause.toNat},{hex epc.toNat},{hex tval.toNat})"
  | other => other.name

/-- A transaction as inspection shows it. -/
def txnText : Option TxnId → String
  | none => "none"
  | some txn => toString txn

def lifeText : Life → String
  | .awaitBoot => "await_boot"
  | .up => "up"
  | .down => "down"

def phaseText : State → String
  | .idle => "idle"
  | .issue _ => "issue"
  | .wait .. => "wait"

/-- The outstanding transaction. -/
def memTxn : State → Option TxnId
  | .wait _ txn => some txn
  | .idle | .issue _ => none

def accessText : Option Access → String
  | none => "none"
  | some (.read ..) => "read"
  | some (.write ..) => "write"

/-- What inspection shows of the processes. -/
def modelFields (m : Model) : List (String × Value) :=
  [("life", .str (lifeText m.life)),
    ("running", .str ((m.procs.current.map toString).getD "none")),
    ("queue", .str (",".intercalate (m.procs.queue.map toString))),
    ("processes", .str (";".intercalate (m.procs.pcbs.map fun p =>
      s!"{p.pid}:{stateText p.state}:{hex p.root.toNat}"))),
    ("free_frames", natValue m.procs.frames.freeCount)]

/-- The access that is due or outstanding. -/
def pending : Option Access := c.work.bind fun w => ((w.access config).toOption).join

def inspect : StateView where
  fields :=
    [("phase", .str (phaseText c.state)), ("op", .str ((c.work.map Work.name).getD "none")),
      ("step", natValue ((c.work.map Work.step).getD 0)), ("held_txn", .str (txnText c.held)),
      ("mem_txn", .str (txnText (memTxn c.state))), ("next_txn", .u64 c.nextTxn),
      ("pending_kind", .str (accessText c.pending)),
      ("pending_addr", natValue ((c.pending.map Access.addr).getD 0)),
      ("pending_len", natValue ((c.pending.map Access.len).getD 0))] ++
      (c.model.map modelFields).getD []

/-- Where a restore panics, the session is over; here it is refused. -/
instance : Component (ModeledKernel config) where
  typeName _ := "os.modeled_kernel"
  ports := ports
  init := init
  handleEvent := handleEvent
  snapshotSchemaVersion _ := 1
  snapshot c := c.snapshot.getD []
  restore c bs _ :=
    match c.restore bs with
    | .ok result => result
    | .error p => (c, .error (.invalidState (failureText (.panic p))))
  inspect := inspect

end ModeledKernel

end SystemScope.Os
