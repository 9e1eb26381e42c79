import SystemScope.Framework.Checks
import SystemScope.Os.Layout
import SystemScope.Os.Model
import SystemScope.Os.Operations

/-!
# The life of a kernel

What holds of the metadata of a kernel between operations (`Model.Rests`) and in each stage of one
(`Stage.Fits`).  Starting an operation and going from a stage to the next keep it, and break no
invariant; only an `ENTER` after the shutdown does (`Model.start_yields`,
`Model.advance_yields`). -/

namespace SystemScope.Os

open Elf Checks

/-- The frame pool of a configuration, all free. -/
def framePool (config : KernelConfig) : Frames :=
  .new config.framePool.base config.framePool.size

/-- A space that is built for an image, in the frames that are reserved for it. -/
structure Created (config : KernelConfig) (layout : UserLayout) (boot : BootImage) (space : Space) :
    Prop where
  built : Space.build config layout boot space.frames = .ok space
  noConflict : ¬MegapageConflict boot.image config
  /-- The frames are consecutive frames of the pool. -/
  frames : ∃ k, space.frames = (List.range' k space.frames.length).map (framePool config).ppn ∧
    k + space.frames.length ≤ (framePool config).owners.length

/-- The boot goes on: the processes up to a PID are created, as far as they can be. -/
structure Model.Booting (config : KernelConfig) (m : Model) (upto : ℕ)
    (creating : Option (ℕ × List UInt32)) : Prop where
  procs : m.procs.Ok m.entries creating
  life : m.life = .up
  current : m.procs.current = none
  created : ∀ p ∈ m.procs.pcbs, p.pid ≤ upto
  packed : m.procs.frames.Packed
  pool : (framePool config).SameFrames m.procs.frames

/-- A process runs. -/
structure Model.Running (m : Model) : Prop where
  procs : m.procs.Ok m.entries none
  life : m.life = .up
  current : m.procs.current.isSome

/-- A shutdown was decided. -/
structure Model.Stopped (m : Model) : Prop where
  procs : m.procs.Ok m.entries none
  life : m.life = .down

/-- The plan or the disk boot was validated. -/
def Source.Valid (config : KernelConfig) : Source → Prop
  | .plan p => p.Valid config
  | .disk d => d.Valid config

lemma Source.Valid.layout {config : KernelConfig} {source : Source} (h : source.Valid config) :
    ValidLayout config source.layout := by
  cases source with
  | plan p => exact ProcessPlan.Valid.layout h
  | disk d => exact DiskBoot.Valid.layout h

lemma numbered_of_valid {layout : UserLayout} (h : ValidLayout config layout) :
    (framePool config).Numbered := by
  have hreach := h.pool_reach
  unfold framePool Frames.new Frames.Numbered
  dsimp only
  rw [List.length_replicate, UInt32.toNat_ofNat_of_lt']
  · unfold physLimit pageBytes at *
    omega
  · show _ < 2 ^ 32
    unfold physLimit pageBytes at *
    omega

/-- The table was read from the disk and accepted. -/
def Source.Accepts (config : KernelConfig) (t : ExecTable) : Source → Prop
  | .plan _ => False
  | .disk d =>
    ∃ block, parseExecTable block d.capacityBlocks (DiskBoot.stagingSize config) = .ok t

/-- The cursor is at an entry of the table that was read and counted, or before the table. -/
def Cursor.Fits (config : KernelConfig) (m : Model) (c : Cursor) : Prop :=
  match c.table with
  | none => c.index = 0 ∧ m.entries = 0
  | some t =>
    m.entries = t.entries.length ∧ c.index < t.entries.length ∧ m.source.Accepts config t

/-- A stage is one that the metadata allows. -/
def Stage.Fits (config : KernelConfig) (m : Model) : Stage → Prop
  | create pid space =>
    ∃ plan boot, m.source = .plan plan ∧ m.entries = plan.images.length ∧
      0 < pid ∧ plan.images[pid - 1]? = some boot ∧ Created config plan.layout boot space ∧
      m.Booting config (pid - 1) (some (pid, space.frames))
  | load cursor headers image space =>
    ∃ disk entry, m.source = .disk disk ∧ cursor.Fits config m ∧ cursor.entry = some entry ∧
      parseUserElf32 headers entry.byteLen disk.layout.imageRange = .ok image ∧
      Created config disk.layout (Model.stagedImage config entry image) space ∧
      m.Booting config cursor.index (some (cursor.pid, space.frames))
  | command cursor | poll cursor | ack cursor _ =>
    (∃ disk, m.source = .disk disk) ∧ cursor.Fits config m ∧ m.Booting config cursor.index none
  | staged cursor len =>
    (∃ disk, m.source = .disk disk) ∧ cursor.Fits config m ∧ m.Booting config cursor.index none ∧
      (cursor.table = none → len.toNat = blockSize)
  | dispatch pid _ _ => m.Running ∧ m.procs.current = some pid
  | readFrame | walk .. | output .. | return_ .. => m.Running
  | shutdown _ => m.Stopped

/-- What holds between operations. -/
inductive Model.Rests (config : KernelConfig) (m : Model) : Prop
  | awaitBoot (h : m = .new m.source (.new (framePool config)))
  | up (h : m.Running)
  | down (h : m.Stopped)

/-- The error is a panic, not a broken invariant. -/
def IsPanic : Failure → Prop
  | .panic _ => True
  | .violation _ => False

/-- The decision is for a stage that the metadata allows, and the processes come from where they
came from. -/
def Decision.Goes (config : KernelConfig) (source : Source) (d : Decision ProcOp) : Prop :=
  d.model.source = source ∧ ∃ stage, d.next = .new stage ∧ stage.Fits config d.model

/-- The stage belongs to a syscall of a caller that resumes after an address. -/
def Stage.OfCall (sepc : UInt32) : Stage → Prop
  | .return_ sepc' _ => sepc' = sepc
  | .walk buffer .. | .output buffer .. => buffer.sepc = sepc
  | _ => False

/-- What is known of a buffer is what the stage needs. -/
def Stage.InBuffer : Stage → Prop
  | walk buffer pages _ _ => buffer.Valid ∧ pages.length < buffer.pages
  | output buffer pages done => buffer.Valid ∧ pages.length = buffer.pages ∧ done < buffer.n.toNat
  | _ => True

/-- A syscall goes on: no metadata changes, and if the buffer was as it has to be, the stage that
comes next has what it needs of it. -/
structure Decision.Calls (valid : Prop) (sepc : UInt32) (m : Model) (d : Decision ProcOp) :
    Prop where
  model : d.model = m
  stage : ∃ stage, d.next = .new stage ∧ stage.OfCall sepc ∧ (valid → stage.InBuffer)

/-- The decision is for a stage that the metadata allows, or for the end of the operation, which
changes no metadata. -/
def Decision.Settles (config : KernelConfig) (m : Model) (d : Decision (Option ProcOp)) : Prop :=
  match d.next with
  | some o => d.model.source = m.source ∧ ∃ stage, o = .new stage ∧ stage.Fits config d.model
  | none => d.model = m ∧ m.Rests config

/-- A decision that does not break an invariant goes on well. -/
abbrev Goes (config : KernelConfig) (source : Source) (d : Outcome (Decision ProcOp)) : Prop :=
  Yields IsPanic (Decision.Goes config source) d

/-- While a process runs, a syscall goes on, or the kernel panics. -/
abbrev Calls (valid : Prop) (sepc : UInt32) (m : Model) (d : Outcome (Decision ProcOp)) : Prop :=
  Yields (fun e => m.Running → IsPanic e) (Decision.Calls valid sepc m) d

variable {config : KernelConfig} {m : Model}

lemma Goes.after {source : Source} {d : Outcome (Decision ProcOp)} (h : Goes config source d)
    (notes : List Note) : Goes config source (do return Model.after notes (← d)) :=
  h.bind fun _ hd => hd

lemma Cursor.Fits.of_eq {cursor : Cursor} {m' : Model} (h : cursor.Fits config m)
    (hsource : m'.source = m.source) (hentries : m'.entries = m.entries) :
      cursor.Fits config m' := by
  unfold Cursor.Fits at h ⊢
  rwa [hsource, hentries]

lemma Goes.of_eq {source source' : Source} {d : Outcome (Decision ProcOp)}
    (hsource : source = source')
    (h : Goes config source d) : Goes config source' d :=
  hsource ▸ h

lemma Calls.goes {d : Outcome (Decision ProcOp)} {valid : Prop} {sepc : UInt32}
    (hd : Calls valid sepc m d) (h : m.Running) : Goes config m.source d := by
  cases d with
  | error e => exact hd h
  | ok d =>
    obtain ⟨hmodel, stage, hnext, hcall, -⟩ := hd
    refine ⟨congrArg Model.source hmodel, stage, hnext, ?_⟩
    rw [hmodel]
    cases stage with
    | walk | output | return_ => exact h
    | _ => exact hcall.elim

/-- The invariants of the process table, whatever the kernel is doing. -/
lemma Stage.Fits.procs {stage : Stage} (h : stage.Fits config m) :
    m.procs.Ok m.entries stage.creating := by
  cases stage with
  | create pid space =>
    obtain ⟨-, -, -, -, -, -, -, h⟩ := h
    exact h.procs
  | load cursor headers image space =>
    obtain ⟨-, -, -, -, -, -, -, h⟩ := h
    exact h.procs
  | command cursor => exact h.2.2.procs
  | poll cursor => exact h.2.2.procs
  | ack cursor error => exact h.2.2.procs
  | staged cursor len => exact h.2.2.1.procs
  | dispatch pid context satp => exact h.1.procs
  | readFrame => exact Model.Running.procs h
  | walk buffer pages table level => exact Model.Running.procs h
  | output buffer pages done => exact Model.Running.procs h
  | return_ sepc value => exact Model.Running.procs h
  | shutdown reason => exact Model.Stopped.procs h

namespace Model

/-! ## Dispatching -/

lemma fail_goes (h : m.procs.Ok m.entries none) (detail : String) :
    (m.fail detail).Goes config m.source :=
  ⟨rfl, _, rfl, h, rfl⟩

/-- The head of the queue is dispatched, or the kernel shuts down. -/
lemma dispatchNext_goes (h : m.procs.Ok m.entries none) (hlife : m.life = .up)
    (hcurrent : m.procs.current = none) (from_ : ℕ) :
      Goes config m.source (m.dispatchNext from_) := by
  unfold dispatchNext
  rcases h.scheduleNext hcurrent with ⟨-, hnext⟩ | ⟨procs, pid, context, hnext, hok, hcurrent⟩
  · rw [hnext]
    exact ⟨rfl, _, rfl, h, rfl⟩
  · obtain ⟨p, -, -, -, hpcb⟩ := hok.running_pcb hcurrent
    rw [hnext]
    dsimp only [bind, Except.bind, Except.mapError]
    rw [hpcb]
    exact ⟨rfl, _, rfl, ⟨hok, hlife, by rw [hcurrent]; rfl⟩, hcurrent⟩

/-! ## Creating -/

lemma segmentRegions_frames {segments : List UserSegment} {frames left : List UInt32}
    {regions : List Region} (h : segmentRegions segments frames = .ok (regions, left)) :
    regions.flatMap Region.frames ++ left = frames := by
  induction segments generalizing frames left regions with
  | nil =>
    cases h
    rfl
  | cons s rest ih =>
    unfold segmentRegions at h
    split at h
    · cases h
    · obtain ⟨⟨regions', left'⟩, hrest, h⟩ := bind_eq_ok.mp h
      cases h
      rw [List.flatMap_cons, List.append_assoc, ih hrest]
      exact List.take_append_drop _ _

lemma regionsOf_frames {image : UserImage} {layout : UserLayout} {frames : List UInt32}
    {regions : List Region} (h : regionsOf image layout frames = .ok regions) :
    regions.flatMap Region.frames = frames ∧ regions ≠ [] := by
  obtain ⟨⟨regions', left⟩, hsegments, h⟩ := bind_eq_ok.mp h
  dsimp only at h
  split at h
  · cases h
  · cases h
    refine ⟨?_, by simp⟩
    rw [List.flatMap_append, List.flatMap_singleton]
    exact segmentRegions_frames hsegments

/-- The process of a space holds what a ready process holds, and owns the frames of the space. -/
lemma pcb_of_built {layout : UserLayout} {boot : BootImage} {frames : List UInt32} {space : Space}
    (h : Space.build config layout boot frames = .ok space) (pid : ℕ) (context : Context) :
    (Pcb.new pid space context).Ok ∧ space.frames.Perm (Pcb.new pid space context).frames := by
  obtain ⟨mapped, hbuilt⟩ := Space.built_of_build h
  obtain ⟨hframes, hregions⟩ := regionsOf_frames hbuilt.regions
  constructor
  · constructor
    · simp [Pcb.new]
    · exact fun hterminal => hterminal.elim
    · intro _
      refine ⟨?_, hregions⟩
      show space.tables.head? = some space.root
      rw [hbuilt.tables]
      rfl
  · unfold Pcb.frames Pcb.new
    dsimp only
    rw [hframes, hbuilt.tables, List.cons_append]
    exact hbuilt.perm

/-- The frames of an image are reserved, if there are enough, and its space is built in them. -/
lemma reserveSpace_spec {E : Failure → Prop} (hpanic : ∀ p, E (.panic p)) (pid : ℕ)
    (boot : BootImage) :
    Yields E
      (fun r => ∀ s ∈ r, ∃ frames pool,
        m.procs.frames.reserve pid (framesNeeded boot.image m.source.layout) = some (frames, pool) ∧
        Space.build config m.source.layout boot frames = .ok s.1 ∧
        s.2 = { m with procs := { m.procs with frames := pool } })
      (m.reserveSpace config pid boot) := by
  unfold reserveSpace
  cases hreserve : m.procs.frames.reserve pid (framesNeeded boot.image m.source.layout) with
  | none => exact fun _ hs => nomatch hs
  | some r =>
    show Yields _ _ (Except.bind (Except.mapError Failure.panic _) _)
    cases hbuild : Space.build config m.source.layout boot r.1 with
    | error p => exact hpanic p
    | ok space =>
      rintro s ⟨⟩
      exact ⟨r.1, r.2, rfl, hbuild, rfl⟩

lemma reserveSpace_yields {upto pid : ℕ} (h : m.Booting config upto none) (hupto : upto < pid)
    (hpid : pid ≤ m.entries) {boot : BootImage} (hconflict : ¬MegapageConflict boot.image config) :
    Yields IsPanic
      (fun r => ∀ s ∈ r, s.2.source = m.source ∧ s.2.entries = m.entries ∧
        Created config m.source.layout boot s.1 ∧
        s.2.Booting config upto (some (pid, s.1.frames)))
      (m.reserveSpace config pid boot) := by
  refine (reserveSpace_spec (fun _ => trivial) pid boot).mono fun r hr s hs => ?_
  obtain ⟨frames, pool, hreserve, hbuild, heq⟩ := hr s hs
  have hreserved := Frames.reserved_of_reserve h.procs.numbered hreserve
  obtain ⟨⟨k, hframes, hk⟩, hpacked⟩ := h.packed.reserved (by omega) hreserve
  obtain ⟨mapped, hbuilt⟩ := Space.built_of_build hbuild
  obtain rfl := hbuilt.frames_eq hreserved.length
  have hnew : ∀ p ∈ m.procs.pcbs, p.pid < pid :=
    fun p hp => Nat.lt_of_le_of_lt (h.created p hp) hupto
  rw [heq]
  refine ⟨rfl, rfl, ⟨hbuild, hconflict, k, ?_, ?_⟩,
    { procs := h.procs.reserve (by omega) hpid hnew hreserved
      life := h.life, current := h.current, created := h.created, packed := hpacked
      pool := ⟨hreserved.same.1.trans h.pool.1, hreserved.same.2.trans h.pool.2⟩ }⟩
  · rw [hreserved.length]
    refine hframes.trans (List.map_congr_left ?_)
    intro i _
    exact h.pool.ppn_eq i
  · rw [hreserved.length, ← h.pool.2]
    exact hk

lemma admit_yields {upto pid : ℕ} {space : Space} {layout : UserLayout} {boot : BootImage}
    (h : m.Booting config upto (some (pid, space.frames))) (hupto : upto ≤ pid)
    (hcreated : Created config layout boot space) (image : UserImage) :
    Yields IsPanic
      (fun r => r.1.source = m.source ∧ r.1.entries = m.entries ∧ r.1.Booting config pid none)
      (m.admit_ pid image space) := by
  obtain ⟨hok, hperm⟩ := pcb_of_built hcreated.built pid
    (Context.initial image.entry m.source.layout.stackTop)
  obtain ⟨hadmitted, hprocs⟩ := Processes.Ok.admit_ h.procs hperm hok rfl
  unfold Model.admit_
  dsimp only
  rw [hadmitted]
  refine ⟨rfl, rfl, hprocs, h.life, h.current, ?_, h.packed, h.pool⟩
  refine List.forall_mem_append.mpr ⟨?_, by simp [Pcb.new]⟩
  exact fun p hp => (h.created p hp).trans hupto

lemma createFrom_goes {plan : ProcessPlan} (hsource : m.source = .plan plan)
    (hentries : m.entries = plan.images.length) {rest : List BootImage} {index : ℕ}
    (hrest : plan.images.drop index = rest) (h : m.Booting config index none) :
    Goes config (.plan plan) (m.createFrom config index rest) := by
  induction rest generalizing index m with
  | nil => exact .of_eq hsource (dispatchNext_goes h.procs h.life h.current 0)
  | cons boot rest ih =>
    have hboot : plan.images[index]? = some boot := by
      rw [← List.head?_drop, hrest]
      rfl
    have hnext : plan.images.drop (index + 1) = rest := by
      rw [← List.tail_drop, hrest]
      rfl
    obtain ⟨hlt, -⟩ := List.getElem?_eq_some_iff.mp hboot
    have hskip : m.Booting config (index + 1) none :=
      { h with created := fun p hp => (h.created p hp).trans (Nat.le_succ index) }
    unfold createFrom
    by_cases hconflict : MegapageConflict boot.image config
    · rw [if_pos hconflict]
      exact (ih hsource hentries hnext hskip).after _
    · rw [if_neg hconflict]
      refine (reserveSpace_yields h (Nat.lt_succ_self index) (by omega) hconflict).bind ?_
      intro r hr
      cases r with
      | none => exact (ih hsource hentries hnext hskip).after _
      | some s =>
        obtain ⟨hsource', hentries', hcreated, hbooting⟩ := hr s rfl
        rw [hsource] at hsource' hcreated
        exact ⟨hsource', _, rfl, plan, boot, hsource', hentries'.trans hentries,
          Nat.succ_pos index, hboot,
          hcreated, hbooting⟩

lemma nextCreation_goes {plan : ProcessPlan} (hsource : m.source = .plan plan)
    (hentries : m.entries = plan.images.length) {from_ : ℕ} (h : m.Booting config from_ none) :
    Goes config (.plan plan) (m.nextCreation config from_) := by
  unfold nextCreation
  rw [hsource]
  exact createFrom_goes hsource hentries rfl h

/-! ## Loading -/

lemma nextLoad_goes {disk : DiskBoot} (hsource : m.source = .disk disk) {table : ExecTable}
    (htable : m.source.Accepts config table) (hentries : m.entries = table.entries.length)
    {index : ℕ} (h : m.Booting config index none) :
    Goes config (.disk disk) (m.nextLoad (some table) index) := by
  unfold nextLoad
  dsimp only
  by_cases hindex : index < table.entries.length
  · rw [if_pos hindex]
    exact ⟨hsource, _, rfl, ⟨disk, hsource⟩, ⟨hentries, hindex, htable⟩, h⟩
  · rw [if_neg hindex]
    exact .of_eq hsource (dispatchNext_goes h.procs h.life h.current 0)

lemma nextLoad_after {disk : DiskBoot} (hsource : m.source = .disk disk) {cursor : Cursor}
    (hcursor : cursor.Fits config m) (h : m.Booting config (cursor.index + 1) none) :
    Goes config (.disk disk) (m.nextLoad cursor.table (cursor.index + 1)) := by
  unfold Cursor.Fits at hcursor
  cases htable : cursor.table with
  | none => exact .of_eq hsource (dispatchNext_goes h.procs h.life h.current 0)
  | some t =>
    rw [htable] at hcursor
    exact nextLoad_goes hsource hcursor.2.2 hcursor.1 h

lemma exists_entry {cursor : Cursor} (hcursor : cursor.Fits config m) {t : ExecTable}
    (htable : cursor.table = some t) : ∃ entry, cursor.entry = some entry := by
  unfold Cursor.Fits at hcursor
  rw [htable] at hcursor
  refine ⟨t.entries[cursor.index], ?_⟩
  unfold Cursor.entry
  rw [htable]
  exact List.getElem?_eq_getElem hcursor.2.1

section Cursor

variable {cursor : Cursor} {disk : DiskBoot} (hsource : m.source = .disk disk)
  (hcursor : cursor.Fits config m) (h : m.Booting config cursor.index none)

include hsource hcursor h

lemma nextLoad_skip : Goes config (.disk disk) (m.nextLoad cursor.table (cursor.index + 1)) :=
  nextLoad_after hsource hcursor
    { h with created := fun p hp => (h.created p hp).trans (Nat.le_succ _) }

lemma acked_goes (error : UInt8) : Goes config (.disk disk) (m.acked cursor error) := by
  unfold acked
  by_cases hzero : error = 0
  · rw [if_pos hzero]
    refine ⟨hsource, _, rfl, ⟨disk, hsource⟩, hcursor, h, ?_⟩
    intro htable
    unfold Cursor.firstRead Cursor.entry
    rw [htable]
    rfl
  · rw [if_neg hzero]
    by_cases htable : cursor.table = none
    · rw [if_pos htable]
      exact .of_eq hsource (fail_goes h.procs _)
    · rw [if_neg htable]
      exact (nextLoad_skip hsource hcursor h).after _

lemma skipEntry_goes (entry : UInt32) (error : String) :
    Goes config (.disk disk) (m.skipEntry cursor entry error) :=
  (nextLoad_skip hsource hcursor h).after _

/-- The first bytes of staging are read. -/
lemma staged_goes {len : UInt32} {data : Bytes}
    (hdata : cursor.table = none → data.length = blockSize) :
    Goes config (.disk disk) (m.staged config cursor len data) := by
  unfold staged
  rw [hsource]
  dsimp only
  cases htable : cursor.table with
  | none =>
    have hentry : cursor.entry = none := by
      unfold Cursor.entry
      rw [htable]
      rfl
    rw [hentry]
    dsimp only
    rw [if_neg (not_not.mpr (hdata htable))]
    cases hparse : parseExecTable data disk.capacityBlocks (DiskBoot.stagingSize config) with
    | error e => exact .of_eq hsource (fail_goes h.procs _)
    | ok table =>
      unfold Cursor.Fits at hcursor
      rw [htable] at hcursor
      dsimp only
      rw [← hsource]
      refine .of_eq hsource.symm (Goes.after
        (nextLoad_goes (m := { m with entries := table.entries.length }) hsource ?_ rfl ?_) _)
      · show m.source.Accepts config table
        rw [hsource]
        exact ⟨data, hparse⟩
      rw [hcursor.1] at h
      exact { h with procs := h.procs.mono (by omega) }
  | some t =>
    obtain ⟨entry, hentry⟩ := exists_entry hcursor htable
    rw [hentry]
    dsimp only
    cases hparse : parseUserElf32 data entry.byteLen disk.layout.imageRange with
    | error e =>
      cases e with
      | prefixTooShort needed =>
        dsimp only
        by_cases hmore : len < needed
        · rw [if_pos hmore]
          refine ⟨hsource, _, rfl, ⟨disk, hsource⟩, hcursor, h, ?_⟩
          intro hnone
          rw [htable] at hnone
          cases hnone
        · rw [if_neg hmore]
          exact skipEntry_goes hsource hcursor h _ _
      | _ => exact skipEntry_goes hsource hcursor h _ _
    | ok image =>
      dsimp only
      by_cases hconflict : MegapageConflict image config
      · rw [if_pos hconflict]
        exact skipEntry_goes hsource hcursor h _ _
      · rw [if_neg hconflict]
        have hpid : cursor.pid ≤ m.entries := by
          unfold Cursor.Fits at hcursor
          rw [htable] at hcursor
          unfold Cursor.pid
          omega
        refine (reserveSpace_yields h (Nat.lt_succ_self cursor.index) hpid
          (show ¬MegapageConflict (stagedImage config entry image).image config from
            hconflict)).bind ?_
        intro r hr
        cases r with
        | none => exact skipEntry_goes hsource hcursor h _ _
        | some s =>
          obtain ⟨hsource', hentries', hcreated, hbooting⟩ := hr s rfl
          rw [hsource] at hsource' hcreated
          exact ⟨hsource', _, rfl, disk, entry, hsource',
            hcursor.of_eq (hsource'.trans hsource.symm) hentries', hentry, hparse, hcreated,
              hbooting⟩

end Cursor

/-! ## Syscalls -/

section Calls

variable {valid : Prop} {sepc : UInt32}

lemma ret_calls (nr value : UInt32) : Calls valid sepc m (m.ret nr sepc value) := by
  unfold ret
  split
  · next hcurrent =>
    intro h
    have hsome := h.current
    rw [hcurrent] at hsome
    cases hsome
  · exact ⟨rfl, _, rfl, rfl, fun _ => trivial⟩

lemma runningRoot_isOk (h : m.Running) : ∃ root, m.runningRoot = .ok root := by
  obtain ⟨pid, hcurrent⟩ := Option.isSome_iff_exists.mp h.current
  obtain ⟨p, -, -, -, hpcb⟩ := h.procs.running_pcb hcurrent
  refine ⟨p.root, ?_⟩
  unfold runningRoot
  rw [hcurrent]
  dsimp only
  rw [hpcb]

lemma runningRoot_yields :
    Yields (fun e => m.Running → IsPanic e) (fun _ => True) m.runningRoot := by
  cases hroot : m.runningRoot with
  | ok root => trivial
  | error e =>
    intro h
    obtain ⟨root, hok⟩ := runningRoot_isOk h
    rw [hroot] at hok
    cases hok

/-- A buffer that is accepted has a first page, whose entry is read. -/
lemma write_calls (frame : Bytes) : Calls True (word frame frameSepc) m (m.write frame) := by
  unfold write
  dsimp only
  split
  · exact ret_calls _ _
  · split
    · exact ret_calls _ _
    · split
      · exact ret_calls _ _
      · next buffer hnew =>
        obtain ⟨hvalid, hsepc⟩ := Buffer.new_eq_some hnew
        exact runningRoot_yields.bind fun root _ =>
          ⟨rfl, _, rfl, hsepc, fun _ => ⟨hvalid, Nat.succ_pos _⟩⟩

/-- With the page of an entry, one more page of the buffer is known. -/
lemma walked_calls (buffer : Buffer) (pages : List UInt32) (level : UInt8) (pte : UInt32) :
    Calls (buffer.Valid ∧ pages.length < buffer.pages) buffer.sepc m
      (m.walked buffer pages level pte) := by
  unfold walked
  cases buffer.pageVa pages.length with
  | error p => exact fun _ => trivial
  | ok va =>
    dsimp only [bind, Except.bind, Except.mapError]
    split
    · exact ⟨rfl, _, rfl, rfl, id⟩
    · next ppn _ =>
      have hlength : (pages ++ [ppn]).length = pages.length + 1 := List.length_append
      split
      · next hlast => exact ⟨rfl, _, rfl, rfl, fun h => ⟨h.1, hlength.trans hlast, h.1.pos⟩⟩
      · next hmore =>
        refine runningRoot_yields.bind fun root _ => ⟨rfl, _, rfl, rfl, fun h => ⟨h.1, ?_⟩⟩
        obtain ⟨-, hlt⟩ := h
        omega
    · exact ret_calls _ _

lemma chunkDone_calls (buffer : Buffer) (pages : List UInt32) (done : ℕ) :
    Calls (buffer.Valid ∧ pages.length = buffer.pages ∧ done < buffer.n.toNat) buffer.sepc m
      (m.chunkDone buffer pages done) := by
  unfold chunkDone
  dsimp only
  split
  · exact ret_calls _ _
  · next hmore =>
    refine ⟨rfl, _, rfl, rfl, fun ⟨hvalid, hpages, hdone⟩ => ⟨hvalid, hpages, ?_⟩⟩
    have hle : (buffer.chunk done).2 ≤ buffer.n.toNat - done := by
      unfold Buffer.chunk
      dsimp only
      omega
    omega

end Calls

/-! ## Traps -/

section Traps

variable (h : m.Running)

include h

omit h in
lemma terminal_exited (status : Int32) : (ProcState.exited status).IsTerminal := trivial

omit h in
lemma terminal_faulted (cause epc tval : UInt32) :
    (ProcState.faulted cause epc tval).IsTerminal := trivial

/-- The running process ends, and the next one is dispatched. -/
lemma endCurrent_goes {state : ProcState} (hterminal : state.IsTerminal)
    (notes : ℕ → List Note) :
    Goes config m.source (do
      let (procs, pid) ← (m.procs.endCurrent state).mapError .violation
      return after (notes pid) (← { m with procs }.dispatchNext pid)) := by
  obtain ⟨pid, hcurrent⟩ := Option.isSome_iff_exists.mp h.current
  obtain ⟨procs, hend, hok, hnone⟩ := h.procs.endCurrent hcurrent hterminal
  rw [hend]
  exact Goes.after (dispatchNext_goes (m := { m with procs }) hok h.life hnone pid) _

lemma serve_goes {pid : ℕ} (hcurrent : m.procs.current = some pid) (frame : Bytes) :
    Goes config m.source (m.serve pid frame) := by
  unfold serve
  dsimp only
  cases Syscall.decode (word frame frameA7) with
  | getPid => exact (ret_calls _ _ : Calls True _ m _).goes h
  | unsupported nr => exact (ret_calls _ _ : Calls True _ m _).goes h
  | write => exact (write_calls frame).goes h
  | schedYield =>
    obtain ⟨procs, hyield, hok, hnone⟩ := h.procs.yieldCurrent hcurrent (yieldContext frame)
    dsimp only
    rw [hyield]
    exact Goes.after (dispatchNext_goes (m := { m with procs }) hok h.life hnone pid) _
  | exit =>
    exact endCurrent_goes h (terminal_exited _) fun pid => [exitStatusNote pid _]
  | exitGroup =>
    exact endCurrent_goes h (terminal_exited _) fun pid => [exitStatusNote pid _]

lemma syscall_goes (frame : Bytes) : Goes config m.source (m.syscall frame) := by
  obtain ⟨pid, hcurrent⟩ := Option.isSome_iff_exists.mp h.current
  unfold syscall
  rw [hcurrent]
  exact (serve_goes h hcurrent frame).after _

/-- The decision after a trap, whatever the trap frame holds. -/
lemma decide_goes (frame : Bytes) : Goes config m.source (m.decide frame) := by
  unfold decide
  dsimp only
  by_cases hspp : word frame frameSstatus &&& sstatusSpp ≠ 0
  · rw [if_pos hspp]
    exact fail_goes h.procs _
  · rw [if_neg hspp]
    by_cases hecall : word frame frameScause = ecallFromU
    · rw [if_pos hecall]
      exact syscall_goes h frame
    · rw [if_neg hecall]
      exact endCurrent_goes h (terminal_faulted _ _ _) fun pid => [faultNote pid _ _ _]

end Traps

/-! ## Operations -/

/-- The boot starts from an empty table and a free pool. -/
lemma booting_of_awaitBoot (h : m = .new m.source (.new (framePool config)))
    (hvalid : (framePool config).Numbered) :
    m.procs.Ok m.entries none ∧ Model.Booting config { m with life := .up } 0 none := by
  have hfree : ∀ i < (framePool config).owners.length, (framePool config).owners[i]? = some 0 := by
    intro i hi
    unfold framePool Frames.new at hi ⊢
    rw [List.length_replicate] at hi
    exact List.getElem?_replicate_of_lt hi
  have hprocs : m.procs = .new (framePool config) := congrArg Model.procs h
  have hok : m.procs.Ok m.entries none := by
    rw [hprocs]
    refine Processes.ok_new hvalid ?_ _
    intro ppn pid howner
    obtain ⟨i, -, hi⟩ := (Frames.owner_eq_some hvalid).mp howner
    obtain ⟨hlt, -⟩ := List.getElem?_eq_some_iff.mp hi
    rw [hfree i hlt] at hi
    exact (Option.some.inj hi).symm
  refine ⟨hok,
    { procs := hok, life := rfl, current := ?_, created := ?_, packed := ?_, pool := ?_ }⟩
  · rw [hprocs]
    rfl
  · rw [hprocs]
    exact fun p hp => nomatch hp
  · rw [hprocs]
    exact ⟨0, Nat.zero_le _, fun i hi => ⟨fun _ => Nat.zero_le i, fun _ => hfree i hi⟩⟩
  · rw [hprocs]
    exact ⟨rfl, rfl⟩

/-- The invariants of the process table hold between operations. -/
lemma Rests.procs (h : m.Rests config) (hvalid : (framePool config).Numbered) :
    m.procs.Ok m.entries none := by
  cases h with
  | awaitBoot h => exact (booting_of_awaitBoot h hvalid).1
  | up h => exact h.procs
  | down h => exact h.procs

lemma start_down (hlife : m.life = .down) (value : UInt32) :
    m.start config value = violate "ENTER after the shutdown" := by
  unfold start
  by_cases hvalue : value ≠ config.trapFrame
  · rw [if_pos hvalue, if_pos hlife]
  · rw [if_neg hvalue, hlife]

/-- The operation of an `ENTER` starts, unless a shutdown was decided. -/
theorem start_yields (h : m.Rests config) (hvalid : (framePool config).Numbered)
    (hlife : m.life ≠ .down) (value : UInt32) : Goes config m.source (m.start config value) := by
  unfold start
  by_cases hvalue : value ≠ config.trapFrame
  · rw [if_pos hvalue, if_neg hlife]
    exact fail_goes (h.procs hvalid) _
  · rw [if_neg hvalue]
    cases h with
    | down h => exact absurd h.life hlife
    | up h =>
      rw [h.life]
      dsimp only
      rw [if_pos h.current]
      exact ⟨rfl, _, rfl, h⟩
    | awaitBoot h =>
      obtain ⟨-, hboot⟩ := booting_of_awaitBoot h hvalid
      have hawait : m.life = .awaitBoot := congrArg Model.life h
      have hentries := congrArg Model.entries h
      rw [hawait]
      dsimp only
      split
      · next disk hsource =>
        refine ⟨rfl, _, rfl, ⟨disk, hsource⟩, ⟨rfl, ?_⟩, hboot⟩
        show m.entries = 0
        rw [hentries, hsource]
        rfl
      · next plan hsource =>
        refine .of_eq (show .plan plan = m.source from hsource.symm) (Goes.after
          (nextCreation_goes (m := { m with life := .up }) hsource ?_ hboot) _)
        show m.entries = plan.images.length
        rw [hentries, hsource]
        rfl

/-- A finished stage is followed by one that the metadata allows. -/
theorem advance_yields {o : ProcOp} (h : o.stage.Fits config m)
    (hdata : ∀ cursor len, o.stage = .staged cursor len → o.data.length = len.toNat) :
    Yields IsPanic (Decision.Settles config m) (m.advance config o) := by
  have hgoes : ∀ {source : Source} {d : Outcome (Decision ProcOp)}, m.source = source →
      Goes config source d → Yields IsPanic (Decision.Settles config m)
        (do return continue_ (← d)) :=
    fun hsource hd => hd.bind fun _ hd => ⟨hd.1.trans hsource.symm, hd.2⟩
  unfold advance
  cases hstage : o.stage with
  | create pid space =>
    rw [hstage] at h
    obtain ⟨plan, boot, hsource, hentries, hpid, hboot, hcreated, hbooting⟩ := h
    have himage : planImage plan pid = .ok boot := by
      unfold planImage
      rw [if_neg (Nat.ne_of_gt hpid), hboot]
    dsimp only
    split
    · next disk hdisk => rw [hsource] at hdisk; cases hdisk
    · next plan' hplan =>
      rw [hsource] at hplan
      cases hplan
      rw [himage]
      refine (admit_yields hbooting (Nat.sub_le _ _) hcreated boot.image).bind ?_
      rintro ⟨m', notes⟩ ⟨hsource', hentries', hbooting'⟩
      exact (nextCreation_goes (hsource'.trans hsource) (hentries'.trans hentries) hbooting').bind
        fun _ hd => ⟨hd.1.trans hsource.symm, hd.2⟩
  | load cursor headers image space =>
    rw [hstage] at h
    obtain ⟨disk, entry, hsource, hcursor, -, -, hcreated, hbooting⟩ := h
    refine (admit_yields hbooting (Nat.le_succ _) hcreated image).bind ?_
    rintro ⟨m', notes⟩ ⟨hsource', hentries', hbooting'⟩
    exact (nextLoad_after (hsource'.trans hsource)
      (hcursor.of_eq hsource' hentries') hbooting').bind
      fun _ hd => ⟨hd.1.trans hsource.symm, hd.2⟩
  | command cursor =>
    rw [hstage] at h
    exact ⟨rfl, _, rfl, h⟩
  | poll cursor =>
    rw [hstage] at h
    dsimp only
    by_cases hdone : word o.data 0 &&& statusDone ≠ 0
    · rw [if_pos hdone]
      exact ⟨rfl, _, rfl, h⟩
    · rw [if_neg hdone]
      exact ⟨rfl, _, rfl, h⟩
  | ack cursor error =>
    rw [hstage] at h
    obtain ⟨⟨disk, hsource⟩, hcursor, hbooting⟩ := h
    exact hgoes hsource (acked_goes hsource hcursor hbooting error)
  | staged cursor len =>
    rw [hstage] at h
    obtain ⟨⟨disk, hsource⟩, hcursor, hbooting, hlen⟩ := h
    refine hgoes hsource (staged_goes hsource hcursor hbooting ?_)
    intro htable
    rw [hdata cursor len hstage, hlen htable]
  | readFrame =>
    rw [hstage] at h
    exact hgoes rfl (decide_goes h o.data)
  | walk buffer pages table level =>
    rw [hstage] at h
    exact hgoes rfl ((walked_calls buffer pages level _).goes h)
  | output buffer pages done =>
    rw [hstage] at h
    exact hgoes rfl ((chunkDone_calls buffer pages done).goes h)
  | dispatch pid context satp =>
    rw [hstage] at h
    exact ⟨rfl, .up h.1⟩
  | shutdown reason =>
    rw [hstage] at h
    exact ⟨rfl, .down h⟩
  | return_ sepc value =>
    rw [hstage] at h
    exact ⟨rfl, .up h⟩

end Model

end SystemScope.Os
