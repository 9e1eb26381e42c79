import SystemScope.Os.Lives

/-!
# What happens to the processes

Every change of the process table is one of a few (`ProcessEvent`): frames are reserved, a process
is admitted, yields, ends, or is dispatched.  What a stage of the boot does to the table is in
`Model.advance_boots`, and what a trap does is in `Model.advance_traps`; both also say which stage
comes next.
-/

namespace SystemScope.Os

open Elf Checks

/-- A change of the process table. -/
inductive ProcessEvent
  | reserved (pid n : ℕ)
  | admitted (pcb : Pcb)
  | yielded (pid : ℕ) (context : Context)
  | ended (pid : ℕ) (state : ProcState)
  | dispatched (pid : ℕ) (context : Context)

/-- The change is one that a trap makes. -/
def ProcessEvent.OfTrap : ProcessEvent → Prop
  | yielded .. | ended .. | dispatched .. => True
  | reserved .. | admitted .. => False

/-- The change is one that the boot makes. -/
def ProcessEvent.OfBoot : ProcessEvent → Prop
  | reserved .. | admitted .. | dispatched .. => True
  | yielded .. | ended .. => False

/-- The process that is dispatched, and its context. -/
def ProcessEvent.dispatch : ProcessEvent → Option (ℕ × Context)
  | dispatched pid context => some (pid, context)
  | _ => none

/-- The process that a stage dispatches, and its context. -/
def Stage.dispatches : Stage → Option (ℕ × Context)
  | dispatch pid context _ => some (pid, context)
  | _ => none

namespace Processes

/-- What happens to a process table, in order. -/
inductive Undergoes (ps : Processes) : List ProcessEvent → Processes → Prop
  | refl : Undergoes ps [] ps
  | reserved {events ps' pid n fs pool} (h : Undergoes ps events ps')
      (hevent : ps'.frames.reserve pid n = some (fs, pool)) :
      Undergoes ps (events ++ [.reserved pid n]) { ps' with frames := pool }
  | admitted {events ps' ps'' pcb} (h : Undergoes ps events ps')
    (hevent : ps'.admit_ pcb = .ok ps'') :
      Undergoes ps (events ++ [.admitted pcb]) ps''
  | yielded {events ps' ps'' pid context} (h : Undergoes ps events ps')
      (hevent : ps'.yieldCurrent context = .ok (ps'', pid)) :
      Undergoes ps (events ++ [.yielded pid context]) ps''
  | ended {events ps' ps'' pid state} (h : Undergoes ps events ps')
      (hevent : ps'.endCurrent state = .ok (ps'', pid)) :
      Undergoes ps (events ++ [.ended pid state]) ps''
  | dispatched {events ps' ps'' pid context} (h : Undergoes ps events ps')
      (hevent : ps'.scheduleNext = .ok (ps'', some (pid, context))) :
      Undergoes ps (events ++ [.dispatched pid context]) ps''

lemma Undergoes.trans {ps ps' ps'' : Processes} {events events' : List ProcessEvent}
    (h : ps.Undergoes events ps') (h' : ps'.Undergoes events' ps'') :
    ps.Undergoes (events ++ events') ps'' := by
  induction h' with
  | refl => rwa [List.append_nil]
  | reserved _ hevent ih =>
    rw [← List.append_assoc]
    exact .reserved ih hevent
  | admitted _ hevent ih =>
    rw [← List.append_assoc]
    exact .admitted ih hevent
  | yielded _ hevent ih =>
    rw [← List.append_assoc]
    exact .yielded ih hevent
  | ended _ hevent ih =>
    rw [← List.append_assoc]
    exact .ended ih hevent
  | dispatched _ hevent ih =>
    rw [← List.append_assoc]
    exact .dispatched ih hevent

/-! ## Each change -/

section Changes

variable {ps ps' : Processes} {pid : ℕ} {context : Context} {state : ProcState} {pcb : Pcb}

lemma admit_eq_ok (h : ps.admit_ pcb = .ok ps') :
    ps' = { ps with queue := ps.queue ++ [pcb.pid], pcbs := ps.pcbs ++ [pcb] } := by
  unfold Processes.admit_ at h
  obtain ⟨-, h⟩ := guard_eq_ok.mp h
  obtain ⟨-, h⟩ := guard_eq_ok.mp h
  obtain ⟨-, h⟩ := guard_eq_ok.mp h
  exact (Except.ok.inj h).symm

lemma admit_ready (h : ps.admit_ pcb = .ok ps') : pcb.state = .ready := by
  unfold Processes.admit_ at h
  obtain ⟨-, h⟩ := guard_eq_ok.mp h
  obtain ⟨hready, -⟩ := guard_eq_ok.mp h
  exact not_not.mp fun hne => hready (.inl hne)

lemma yieldCurrent_eq_ok (h : ps.yieldCurrent context = .ok (ps', pid)) :
    ps.current = some pid ∧ ∃ p, ps.pcb pid = some p ∧
      ps' = { ps with
        pcbs := update pid (fun p => { p with state := .ready, context := some context }) ps.pcbs
        queue := ps.queue ++ [pid]
        current := none } := by
  unfold Processes.yieldCurrent at h
  split at h
  · cases h
  · next hcurrent =>
    split at h
    · cases h
    · next p hpcb =>
      cases h
      exact ⟨hcurrent, p, hpcb, rfl⟩

lemma endCurrent_eq_ok (h : ps.endCurrent state = .ok (ps', pid)) :
    state.IsTerminal ∧ ps.current = some pid ∧ ∃ p frames, ps.pcb pid = some p ∧
      ps.frames.release pid p.frames = .ok frames ∧
      ps' = { ps with pcbs := update pid (ended state) ps.pcbs, current := none, frames } := by
  unfold Processes.endCurrent at h
  obtain ⟨hterminal, h⟩ := guard_eq_ok.mp h
  split at h
  · cases h
  · next hcurrent =>
    split at h
    · cases h
    · next p hpcb =>
      split at h
      · cases h
      · next frames hrelease =>
        cases h
        exact ⟨not_not.mp hterminal, hcurrent, p, frames, hpcb, hrelease, rfl⟩

lemma scheduleNext_eq_ok (h : ps.scheduleNext = .ok (ps', some (pid, context))) :
    ps.current = none ∧ ∃ rest p, ps.queue = pid :: rest ∧ ps.pcb pid = some p ∧
      p.context = some context ∧ p.state = .ready ∧
      ps' = { ps with pcbs := update pid dispatched ps.pcbs, queue := rest,
                      current := some pid } := by
  unfold Processes.scheduleNext at h
  obtain ⟨hcurrent, h⟩ := guard_eq_ok.mp h
  split at h
  · cases h
  · next pid' rest hqueue =>
    split at h
    · cases h
    · next p hpcb =>
      split at h
      · cases h
      · next context' hcontext =>
        obtain ⟨hstate, h⟩ := guard_eq_ok.mp h
        cases h
        exact ⟨by simpa using hcurrent, rest, p, hqueue, hpcb, hcontext, not_not.mp hstate, rfl⟩

/-- Nothing changes when the queue is empty. -/
lemma scheduleNext_eq_none (h : ps.scheduleNext = .ok (ps', none)) : ps' = ps := by
  unfold Processes.scheduleNext at h
  obtain ⟨-, h⟩ := guard_eq_ok.mp h
  split at h
  · cases h
    rfl
  · split at h
    · cases h
    · split at h
      · cases h
      · obtain ⟨-, h⟩ := guard_eq_ok.mp h
        cases h

end Changes

end Processes

/-! ## What a decision does -/

/-- The process that a stage admits when it is finished. -/
def Model.created (m : Model) : Stage → Option Pcb
  | .create pid space =>
    match m.source with
    | .plan p =>
      p.images[pid - 1]?.map fun boot =>
        .new pid space (.initial boot.image.entry p.layout.stackTop)
    | .disk _ => none
  | .load cursor _ image space =>
    some (.new cursor.pid space (.initial image.entry m.source.layout.stackTop))
  | _ => none

/-- A change during the boot: only the process that was created is admitted. -/
def BootEvent (created : Option Pcb) : ProcessEvent → Prop
  | .admitted pcb => created = some pcb
  | .reserved .. | .dispatched .. => True
  | .yielded .. | .ended .. => False

/-- The trap frame is that of a `sched_yield`. -/
def AsksToYield (frame : Bytes) : Prop :=
  word frame frameSstatus &&& sstatusSpp = 0 ∧ word frame frameScause = ecallFromU ∧
    Syscall.decode (word frame frameA7) = .schedYield

/-- The trap frame is that of an `exit` or `exit_group` with a status. -/
def AsksToExit (frame : Bytes) (status : Int32) : Prop :=
  word frame frameSstatus &&& sstatusSpp = 0 ∧ word frame frameScause = ecallFromU ∧
    (Syscall.decode (word frame frameA7) = .exit ∨
      Syscall.decode (word frame frameA7) = .exitGroup) ∧
    (word frame frameA0).toInt32 = status

/-- A change by a trap of a process, with its frame: only the process itself yields. -/
def TrapEvent (current : Option ℕ) (frame : Bytes) : ProcessEvent → Prop
  | .yielded pid context =>
    current = some pid ∧ AsksToYield frame ∧ context = Model.yieldContext frame
  | .ended .. | .dispatched .. => True
  | .reserved .. | .admitted .. => False

lemma BootEvent.ofBoot {created : Option Pcb} {e : ProcessEvent} (h : BootEvent created e) :
    e.OfBoot := by
  cases e with
  | yielded => exact h.elim
  | ended => exact h.elim
  | _ => trivial

lemma TrapEvent.ofTrap {current : Option ℕ} {frame : Bytes} {e : ProcessEvent}
    (h : TrapEvent current frame e) : e.OfTrap := by
  cases e with
  | reserved => exact h.elim
  | admitted => exact h.elim
  | _ => trivial

lemma TrapEvent.dispatched (current : Option ℕ) (frame : Bytes) (pid : ℕ) (context : Context) :
    TrapEvent current frame (.dispatched pid context) :=
  trivial

/-- What is decided for a trap frame: the kernel fails, a syscall goes on, or the running process
yields or ends and the next one is dispatched. -/
inductive ForTrap (m : Model) (frame : Bytes) : Model → ProcOp → Prop
  | fails (detail : String) (hspp : word frame frameSstatus &&& sstatusSpp ≠ 0) :
      ForTrap m frame (m.fail detail).model (m.fail detail).next
  | calls {d : Decision ProcOp} (hspp : word frame frameSstatus &&& sstatusSpp = 0)
      (hyield : ¬AsksToYield frame) (hexit : ∀ status, ¬AsksToExit frame status)
      (hd : d.Calls True (word frame frameSepc) m) : ForTrap m frame d.model d.next
  | yields {procs : Processes} {pid : ℕ} {d : Decision ProcOp} (hasks : AsksToYield frame)
      (hyield : m.procs.yieldCurrent (Model.yieldContext frame) = .ok (procs, pid))
      (hd : { m with procs }.dispatchNext pid = .ok d) : ForTrap m frame d.model d.next
  | ends {state : ProcState} {procs : Processes} {pid : ℕ} {d : Decision ProcOp}
      (hspp : word frame frameSstatus &&& sstatusSpp = 0) (hyield : ¬AsksToYield frame)
      (hexit : ∀ status, AsksToExit frame status ↔ state = .exited status)
      (hend : m.procs.endCurrent state = .ok (procs, pid))
      (hd : { m with procs }.dispatchNext pid = .ok d) : ForTrap m frame d.model d.next

/-- The changes of the table, all of a kind, and the stage that comes after them: it dispatches the
process that was dispatched last, in its own space. -/
structure Follows (kind : ProcessEvent → Prop) (m : Model) (events : List ProcessEvent) (m' : Model)
    (stage : Stage) : Prop where
  undergoes : m.procs.Undergoes events m'.procs
  kind : ∀ e ∈ events, kind e
  dispatches : events.filterMap ProcessEvent.dispatch = stage.dispatches.toList
  satp : ∀ pid context satp, stage = .dispatch pid context satp →
    ∃ p, m'.procs.pcb pid = some p ∧ satp = Pte.satp p.root

/-- The stage is one of the boot. -/
def Stage.OfBoot : Stage → Prop
  | .create .. | .load .. | .command _ | .poll _ | .ack .. | .staged .. => True
  | .readFrame | .walk .. | .output .. | .dispatch .. | .shutdown _ | .return_ .. => False

/-- The stage ends an operation in another process or in none. -/
def Stage.Switches : Stage → Prop
  | .dispatch .. | .shutdown _ => True
  | _ => False

/-- The stage is the last one of an operation. -/
def Stage.Ends : Stage → Prop
  | .dispatch .. | .shutdown _ | .return_ .. => True
  | _ => False

/-- The stage belongs to a syscall of a caller that resumes after an address, or ends the operation
elsewhere. -/
def Stage.Returns (sepc : UInt32) : Stage → Prop
  | .return_ sepc' _ => sepc' = sepc
  | .walk buffer .. | .output buffer .. => buffer.sepc = sepc
  | .dispatch .. | .shutdown _ => True
  | _ => False

/-- The boot is over. -/
def Model.Operating (m : Model) : Prop := m.life = .down ∨ m.procs.current.isSome

/-- A decision of the boot. -/
abbrev Boots (created : Option Pcb) (m : Model) (d : Outcome (Decision ProcOp)) : Prop :=
  Yields (fun _ => True)
    (fun d => (d.next.stage.OfBoot ∨ d.next.stage.Switches) ∧
      ∃ events, Follows (BootEvent created) m events d.model d.next.stage) d

/-- A decision after the boot, for a caller that resumes after an address. -/
abbrev Traps (kind : ProcessEvent → Prop) (sepc : UInt32) (m : Model)
    (d : Outcome (Decision ProcOp)) : Prop :=
  Yields (fun _ => True)
    (fun d => d.next.stage.Returns sepc ∧ d.model.Operating ∧
      ∃ events, Follows kind m events d.model d.next.stage) d

/-- A decision for a trap frame: a `sched_yield` begins with the change that it asks for. -/
abbrev Serves (frame : Bytes) (m : Model) (d : Outcome (Decision ProcOp)) : Prop :=
  Yields (fun _ => True)
    (fun d => d.next.stage.Returns (word frame frameSepc) ∧ d.model.Operating ∧ ∃ events,
      Follows (TrapEvent m.procs.current frame) m events d.model d.next.stage ∧
        (AsksToYield frame → ∀ pid ∈ m.procs.current,
          ∃ rest, events = .yielded pid (Model.yieldContext frame) :: rest)) d

section Decisions

variable {config : KernelConfig} {m : Model} {created : Option Pcb} {frame : Bytes}
  {kind : ProcessEvent → Prop}

/-- Nothing happens to the processes. -/
lemma follows_refl {m' : Model} {stage : Stage} (hprocs : m'.procs = m.procs)
    (hstage : ∀ pid context satp, stage ≠ .dispatch pid context satp) :
    Follows kind m [] m' stage where
  undergoes := by
    rw [hprocs]
    exact .refl
  kind := by simp
  dispatches := by
    cases stage with
    | dispatch pid context satp => exact absurd rfl (hstage pid context satp)
    | _ => rfl
  satp := fun pid context satp h => absurd h (hstage pid context satp)

lemma Follows.cons {m m' : Model} {e : ProcessEvent}
    {events : List ProcessEvent} {stage : Stage} {procs : Processes}
    (hevent : m.procs.Undergoes [e] procs) (he : kind e) (hnone : e.dispatch = none)
    (h : Follows kind { m with procs } events m' stage) :
      Follows kind m (e :: events) m' stage where
  undergoes := hevent.trans h.undergoes
  kind := List.forall_mem_cons.mpr ⟨he, h.kind⟩
  dispatches := by
    rw [List.filterMap_cons_none hnone]
    exact h.dispatches
  satp := h.satp

lemma Follows.mono {kind' : ProcessEvent → Prop} {m m' : Model} {events : List ProcessEvent}
    {stage : Stage} (h : Follows kind m events m' stage) (hkind : ∀ e, kind e → kind' e) :
    Follows kind' m events m' stage :=
  { h with kind := fun e he => hkind e (h.kind e he) }

/-- The head of the queue is dispatched, or a shutdown is decided. -/
lemma dispatchNext_follows (hkind : ∀ pid context, kind (.dispatched pid context)) (from_ : ℕ) :
    Yields (fun _ => True)
      (fun d => d.next.stage.Switches ∧ d.model.Operating ∧
        ∃ events, Follows kind m events d.model d.next.stage)
      (m.dispatchNext from_) := by
  unfold Model.dispatchNext
  cases hnext : m.procs.scheduleNext with
  | error v => trivial
  | ok r =>
    obtain ⟨procs, head⟩ := r
    cases head with
    | none =>
      refine ⟨trivial, .inl rfl, [], follows_refl ?_ nofun⟩
      exact Processes.scheduleNext_eq_none hnext
    | some r =>
      obtain ⟨pid, context⟩ := r
      obtain ⟨-, rest, p, -, -, -, -, hprocs⟩ := Processes.scheduleNext_eq_ok hnext
      dsimp only [bind, Except.bind, Except.mapError]
      cases hpcb : procs.pcb pid with
      | none => trivial
      | some p =>
        refine ⟨trivial, .inr ?_, [.dispatched pid context], .dispatched .refl hnext, ?_, rfl, ?_⟩
        · dsimp only
          rw [hprocs]
          rfl
        · exact List.forall_mem_singleton.mpr (hkind pid context)
        · rintro _ _ _ ⟨⟩
          exact ⟨p, hpcb, rfl⟩

lemma Stage.Switches.returns {stage : Stage} (h : stage.Switches) (sepc : UInt32) :
    stage.Returns sepc := by
  cases stage with
  | dispatch => trivial
  | shutdown => trivial
  | _ => exact h.elim

lemma dispatchNext_boots (from_ : ℕ) : Boots created m (m.dispatchNext from_) :=
  (dispatchNext_follows (fun _ _ => trivial) from_).mono fun _ hd => ⟨.inr hd.1, hd.2.2⟩

lemma dispatchNext_traps (hkind : ∀ pid context, kind (.dispatched pid context)) (sepc : UInt32)
    (from_ : ℕ) : Traps kind sepc m (m.dispatchNext from_) :=
  (dispatchNext_follows hkind from_).mono fun _ hd => ⟨hd.1.returns sepc, hd.2⟩

lemma Boots.after {d : Outcome (Decision ProcOp)} (h : Boots created m d) (notes : List Note) :
    Boots created m (do return Model.after notes (← d)) :=
  h.bind fun _ hd => hd

/-! ## Booting -/

lemma fail_boots (detail : String) : Boots created m (.ok (m.fail detail)) :=
  ⟨.inr trivial, [], follows_refl rfl nofun⟩

lemma reserveSpace_follows (created : Option Pcb) (pid : ℕ) (boot : BootImage) :
    Yields (fun _ => True)
      (fun r => ∀ s ∈ r, ∀ stage : Stage, (∀ pid context satp, stage ≠ .dispatch pid context satp) →
        ∃ events, Follows (BootEvent created) m events s.2 stage)
      (m.reserveSpace config pid boot) := by
  refine (Model.reserveSpace_spec (fun _ => trivial) pid boot).mono fun r hr s hs stage hstage => ?_
  obtain ⟨frames, pool, hreserve, -, heq⟩ := hr s hs
  have hrefl : Follows (BootEvent created) m [] m stage := follows_refl rfl hstage
  rw [heq]
  refine ⟨[.reserved pid _], .reserved .refl hreserve, by simp [BootEvent], hrefl.dispatches, ?_⟩
  exact fun pid context satp h => absurd h (hstage pid context satp)

lemma createFrom_boots (index : ℕ) (rest : List BootImage) :
    Boots created m (m.createFrom config index rest) := by
  induction rest generalizing index with
  | nil => exact dispatchNext_boots 0
  | cons boot rest ih =>
    unfold Model.createFrom
    by_cases hconflict : MegapageConflict boot.image config
    · rw [if_pos hconflict]
      exact (ih _).after _
    · rw [if_neg hconflict]
      refine (reserveSpace_follows created _ _).bind fun r hr => ?_
      cases r with
      | none => exact (ih _).after _
      | some s =>
        refine ⟨.inl trivial, hr s rfl (.create (index + 1) s.1) ?_⟩
        rintro _ _ _ ⟨⟩

lemma nextCreation_boots (from_ : ℕ) : Boots created m (m.nextCreation config from_) := by
  unfold Model.nextCreation
  cases m.source with
  | disk d => trivial
  | plan p => exact createFrom_boots _ _

lemma nextLoad_boots (table : Option ExecTable) (index : ℕ) :
    Boots created m (m.nextLoad table index) := by
  unfold Model.nextLoad
  cases table with
  | none => exact dispatchNext_boots 0
  | some t =>
    dsimp only
    by_cases hlt : index < t.entries.length
    · rw [if_pos hlt]
      exact ⟨.inl trivial, [], follows_refl rfl nofun⟩
    · rw [if_neg hlt]
      exact dispatchNext_boots 0

lemma acked_boots (cursor : Cursor) (error : UInt8) : Boots created m (m.acked cursor error) := by
  unfold Model.acked
  by_cases hzero : error = 0
  · rw [if_pos hzero]
    exact ⟨.inl trivial, [], follows_refl rfl nofun⟩
  · rw [if_neg hzero]
    by_cases htable : cursor.table = none
    · rw [if_pos htable]
      exact fail_boots _
    · rw [if_neg htable]
      exact (nextLoad_boots _ _).after _

lemma skipEntry_boots (cursor : Cursor) (entry : UInt32) (error : String) :
    Boots created m (m.skipEntry cursor entry error) :=
  (nextLoad_boots _ _).after _

lemma staged_boots (cursor : Cursor) (len : UInt32) (data : Bytes) :
    Boots created m (m.staged config cursor len data) := by
  unfold Model.staged
  split
  · trivial
  · next disk hsource =>
    split
    · split
      · trivial
      · split
        · exact fail_boots _
        · next table hparse =>
          refine Boots.after ?_ _
          exact (nextLoad_boots (m := { m with entries := table.entries.length }) _ _).mono
            fun _ ⟨hnext, events, hd⟩ =>
              ⟨hnext, events, hd.undergoes, hd.kind, hd.dispatches, hd.satp⟩
    · next entry hentry =>
      split
      · split
        · exact ⟨.inl trivial, [], follows_refl rfl nofun⟩
        · exact skipEntry_boots _ _ _
      · exact skipEntry_boots _ _ _
      · split
        · exact skipEntry_boots _ _ _
        · refine (reserveSpace_follows created _ _).bind fun r hr => ?_
          cases r with
          | none => exact skipEntry_boots _ _ _
          | some s => exact ⟨.inl trivial, hr s rfl (.load cursor data _ s.1) nofun⟩

/-! ## Traps -/

section ForTrap

/-- What is decided fits the trap frame. -/
abbrev ForTraps (m : Model) (frame : Bytes) (d : Outcome (Decision ProcOp)) : Prop :=
  Yields (fun _ => True) (fun d => ForTrap m frame d.model d.next) d

lemma Calls.forTraps {d : Outcome (Decision ProcOp)}
    (h : Calls True (word frame frameSepc) m d) (hspp : word frame frameSstatus &&& sstatusSpp = 0)
    (hyield : ¬AsksToYield frame) (hexit : ∀ status, ¬AsksToExit frame status) :
      ForTraps m frame d := by
  cases d with
  | error e => trivial
  | ok d => exact .calls hspp hyield hexit h

lemma endCurrent_forTraps {state : ProcState} (hspp : word frame frameSstatus &&& sstatusSpp = 0)
    (hyield : ¬AsksToYield frame)
    (hexit : ∀ status, AsksToExit frame status ↔ state = .exited status)
    (notes : ℕ → List Note) :
    ForTraps m frame (do
      let (procs, pid) ← (m.procs.endCurrent state).mapError .violation
      return Model.after (notes pid) (← { m with procs }.dispatchNext pid)) := by
  cases hend : m.procs.endCurrent state with
  | error v => trivial
  | ok r =>
    obtain ⟨procs, pid⟩ := r
    show Yields _ _ (Except.bind ({ m with procs }.dispatchNext pid) _)
    cases hd : { m with procs }.dispatchNext pid with
    | error e => trivial
    | ok d => exact .ends (d := d) hspp hyield hexit hend hd

lemma serve_forTraps (hspp : word frame frameSstatus &&& sstatusSpp = 0)
    (hecall : word frame frameScause = ecallFromU) (pid : ℕ) :
      ForTraps m frame (m.serve pid frame) := by
  have hyields {call : Syscall} (hcall : Syscall.decode (word frame frameA7) = call)
      (hne : call ≠ .schedYield) : ¬AsksToYield frame := fun h => hne (hcall.symm.trans h.2.2)
  have hexits {call : Syscall} (hcall : Syscall.decode (word frame frameA7) = call)
      (hexit : call ≠ .exit) (hgroup : call ≠ .exitGroup) (status : Int32) :
        ¬AsksToExit frame status := by
    rintro ⟨-, -, hcall' | hcall', -⟩
    · exact hexit (hcall.symm.trans hcall')
    · exact hgroup (hcall.symm.trans hcall')
  have hexited (hcall : Syscall.decode (word frame frameA7) = .exit ∨
      Syscall.decode (word frame frameA7) = .exitGroup) (status : Int32) :
      AsksToExit frame status ↔ ProcState.exited (word frame frameA0).toInt32 = .exited status := by
    rw [ProcState.exited.injEq]
    exact ⟨fun h => h.2.2.2, fun h => ⟨hspp, hecall, hcall, h⟩⟩
  unfold Model.serve
  dsimp only
  split
  · next hcall =>
    exact (Model.ret_calls _ _).forTraps hspp (hyields hcall nofun) (hexits hcall nofun nofun)
  · next hcall =>
    exact (Model.ret_calls _ _).forTraps hspp (hyields hcall nofun) (hexits hcall nofun nofun)
  · next hcall =>
    exact (Model.write_calls _).forTraps hspp (hyields hcall nofun) (hexits hcall nofun nofun)
  · next hcall =>
    cases hyield : m.procs.yieldCurrent (Model.yieldContext frame) with
    | error v => trivial
    | ok r =>
      obtain ⟨procs, pid⟩ := r
      show Yields _ _ (Except.bind ({ m with procs }.dispatchNext pid) _)
      cases hd : { m with procs }.dispatchNext pid with
      | error e => trivial
      | ok d => exact .yields (d := d) ⟨hspp, hecall, hcall⟩ hyield hd
  · next hcall =>
    exact endCurrent_forTraps hspp (hyields hcall nofun) (hexited (.inl hcall))
      fun pid => [exitStatusNote pid _]
  · next hcall =>
    exact endCurrent_forTraps hspp (hyields hcall nofun) (hexited (.inr hcall))
      fun pid => [exitStatusNote pid _]

lemma decide_forTraps : ForTraps m frame (m.decide frame) := by
  unfold Model.decide
  dsimp only
  split
  · next hspp => exact .fails _ hspp
  · next hspp =>
    split
    · next hecall =>
      unfold Model.syscall
      split
      · trivial
      · exact Yields.bind (serve_forTraps (not_not.mp hspp) hecall _) fun _ hd => hd
    · next hecall =>
      refine endCurrent_forTraps (not_not.mp hspp) (fun h => hecall h.2.1)
        (fun status => iff_of_false (fun h => hecall h.2.1) ?_) fun pid => [faultNote pid _ _ _]
      nofun

end ForTrap

section Traps

variable (hcurrent : m.procs.current.isSome)

include hcurrent

lemma calls_traps {valid : Prop} {sepc : UInt32} {d : Decision ProcOp} (h : d.Calls valid sepc m) :
    d.next.stage.Returns sepc ∧ d.model.Operating ∧ Follows kind m [] d.model d.next.stage := by
  obtain ⟨hmodel, stage, hnext, hcall, -⟩ := h
  rw [hnext, hmodel]
  cases stage with
  | walk | output | return_ => exact ⟨hcall, .inr hcurrent, follows_refl rfl nofun⟩
  | _ => exact hcall.elim

lemma Calls.traps {valid : Prop} {sepc : UInt32} {d : Outcome (Decision ProcOp)}
    (h : Calls valid sepc m d) : Traps kind sepc m d := by
  cases d with
  | error e => trivial
  | ok d =>
    obtain ⟨hstage, hop, hd⟩ := calls_traps hcurrent h
    exact ⟨hstage, hop, [], hd⟩

/-- What a trap does to the processes. -/
lemma decide_serves : Serves frame m (m.decide frame) := by
  refine decide_forTraps.mono fun d hd => ?_
  obtain ⟨m', notes, next⟩ := d
  dsimp only at hd ⊢
  have hnext (procs : Processes) (pid : ℕ) :
      Traps (TrapEvent m.procs.current frame) (word frame frameSepc) { m with procs }
        ({ m with procs }.dispatchNext pid) :=
    dispatchNext_traps (TrapEvent.dispatched m.procs.current frame) _ pid
  cases hd with
  | fails detail hspp =>
    exact ⟨trivial, .inl rfl, [], follows_refl rfl nofun, fun h => absurd h.1 hspp⟩
  | calls hspp hyield hexit hd =>
    obtain ⟨hstage, hop, hd⟩ := calls_traps hcurrent hd
    exact ⟨hstage, hop, [], hd, fun h => absurd h hyield⟩
  | @yields procs pid d hasks hyield hd =>
    obtain ⟨hpid, -⟩ := Processes.yieldCurrent_eq_ok hyield
    obtain ⟨hstage, hop, events, hd⟩ := (hnext procs pid).of_ok hd
    refine ⟨hstage, hop, _, hd.cons (.yielded .refl hyield) ⟨hpid, hasks, rfl⟩ rfl, ?_⟩
    intro _ pid' hpid'
    rw [hpid] at hpid'
    cases hpid'
    exact ⟨events, rfl⟩
  | @ends state procs pid d hspp hyield hexit hend hd =>
    obtain ⟨hstage, hop, events, hd⟩ := (hnext procs pid).of_ok hd
    exact ⟨hstage, hop, _, hd.cons (.ended .refl hend) trivial rfl, fun h => absurd h hyield⟩

end Traps

/-! ## Operations -/

/-- What may happen to the processes when a stage is finished. -/
def ProcOp.Changes (m : Model) (o : ProcOp) (e : ProcessEvent) : Prop :=
  (o.stage.OfBoot ∧ BootEvent (m.created o.stage) e) ∨
    (o.stage = .readFrame ∧ TrapEvent m.procs.current o.data e)

lemma Model.Booting.not_operating {upto : ℕ} {creating : Option (ℕ × List UInt32)}
    (h : m.Booting config upto creating) : ¬m.Operating := by
  rintro (hlife | hcurrent)
  · rw [h.life] at hlife
    cases hlife
  · rw [h.current] at hcurrent
    cases hcurrent

lemma Model.Running.operating (h : m.Running) : m.Operating := .inr h.current

lemma Model.Stopped.operating (h : m.Stopped) : m.Operating := .inl h.life

/-- What starting an operation does to the processes: only the boot does anything to them. -/
theorem start_follows (h : m.Rests config) (value : UInt32) :
    Yields (fun _ => True)
      (fun d => (d.next.stage = .readFrame ∨ d.next.stage.OfBoot ∨ d.next.stage.Switches) ∧
        (m.Operating → d.model.Operating) ∧ ∃ events,
          Follows (fun e => ¬m.Operating ∧ BootEvent none e) m events d.model d.next.stage)
      (m.start config value) := by
  unfold Model.start
  split
  · split
    · trivial
    · exact ⟨.inr (.inr trivial), fun _ => .inl rfl, [], follows_refl rfl nofun⟩
  · cases h with
    | down h =>
      rw [h.life]
      trivial
    | up h =>
      rw [h.life]
      dsimp only
      rw [if_pos h.current]
      exact ⟨.inl rfl, id, [], follows_refl rfl nofun⟩
    | awaitBoot h =>
      have hawait : m.life = .awaitBoot := congrArg Model.life h
      have hcurrent : m.procs.current = none := by
        rw [h]
        rfl
      have hop : ¬m.Operating := by
        rintro (hlife | hsome)
        · rw [hawait] at hlife
          cases hlife
        · rw [hcurrent] at hsome
          cases hsome
      rw [hawait]
      dsimp only
      split
      · exact ⟨.inr (.inl trivial), fun h => absurd h hop, [], follows_refl rfl nofun⟩
      · refine Yields.bind
          (show Boots none _ _ from nextCreation_boots (m := { m with life := .up }) 0)
          fun d hd => ?_
        obtain ⟨hstage, events, hd⟩ := hd
        exact ⟨.inr hstage, fun h => absurd h hop, events, hd.undergoes, fun e he =>
          ⟨hop, hd.kind e he⟩,
          hd.dispatches, hd.satp⟩

/-- Where the caller of the syscall of a stage resumes. -/
def ProcOp.caller (o : ProcOp) : Option UInt32 :=
  match o.stage with
  | .readFrame => some (word o.data frameSepc)
  | .walk buffer .. | .output buffer .. => some buffer.sepc
  | _ => none

/-- The stage may come after a finished one: the boot goes on or is over, or the syscall does. -/
def Stage.Succeeds (stage : Stage) (o : ProcOp) : Prop :=
  (o.stage.OfBoot ∧ (stage.OfBoot ∨ stage.Switches)) ∨ ∃ sepc ∈ o.caller, stage.Returns sepc

/-- The change with which a finished stage saves a context. -/
def ProcOp.Saves (m : Model) (o : ProcOp) : ProcessEvent → Prop
  | .admitted pcb => m.created o.stage = some pcb
  | .yielded pid context =>
    o.stage = .readFrame ∧ m.procs.current = some pid ∧ AsksToYield o.data ∧
      context = Model.yieldContext o.data
  | _ => False

/-- What is known of the decision after a stage: nothing changes, or some stage comes next. -/
abbrev Proceeds (m : Model) (o : ProcOp) (d : Outcome (Decision (Option ProcOp))) : Prop :=
  Yields (fun _ => True)
    (fun d => match d.next with
      | none => d.model = m ∧ o.stage.Ends
      | some next => next.stage.Succeeds o ∧ (m.Operating → d.model.Operating) ∧
        ∃ events, Follows (o.Changes m) m events d.model next.stage ∧
          ∀ e, o.Saves m e → ∃ rest, events = e :: rest) d

lemma ProcOp.not_saves {o : ProcOp} (hcreated : m.created o.stage = none)
    (hstage : o.stage ≠ .readFrame)
    {P : ProcessEvent → Prop} : ∀ e, o.Saves m e → P e := by
  intro e he
  cases e with
  | admitted pcb =>
    unfold ProcOp.Saves at he
    rw [hcreated] at he
    cases he
  | yielded pid context => exact absurd he.1 hstage
  | _ => exact he.elim

lemma Boots.proceeds {o : ProcOp} {d : Outcome (Decision ProcOp)}
    (h : Boots (m.created o.stage) m d)
    (hop : ¬m.Operating) (hstage : o.stage.OfBoot) (hcreated : m.created o.stage = none) :
    Proceeds m o (do return Model.continue_ (← d)) := by
  refine h.bind fun _ ⟨hnext, events, hd⟩ => ⟨.inl ⟨hstage, hnext⟩, fun h => absurd h hop, events,
    hd.mono fun _ he => .inl ⟨hstage, he⟩, ProcOp.not_saves hcreated ?_⟩
  intro hread
  rw [hread] at hstage
  exact hstage

lemma Traps.proceeds {o : ProcOp} {sepc : UInt32} {d : Outcome (Decision ProcOp)}
    (h : Traps (o.Changes m) sepc m d) (hcaller : o.caller = some sepc)
    (hcreated : m.created o.stage = none) (hstage : o.stage ≠ .readFrame) :
    Proceeds m o (do return Model.continue_ (← d)) :=
  h.bind fun _ ⟨hnext, hop, events, hd⟩ =>
    ⟨.inr ⟨sepc, hcaller, hnext⟩, fun _ => hop, events, hd, ProcOp.not_saves hcreated hstage⟩

lemma admit_proceeds {o : ProcOp} {pid : ℕ} {image : UserImage} {space : Space}
    (hcreated : m.created o.stage =
      some (.new pid space (.initial image.entry m.source.layout.stackTop)))
    (hop : ¬m.Operating) (hstage : o.stage.OfBoot)
    {next : Model → Outcome (Decision ProcOp)}
    (hnext : ∀ m', Boots (m.created o.stage) m' (next m')) :
    Proceeds m o (do
      let (m, notes) ← m.admit_ pid image space
      return Model.continue_ (Model.after notes (← next m))) := by
  unfold Model.admit_
  dsimp only
  cases hadmitted :
    m.procs.admit_ (.new pid space (.initial image.entry m.source.layout.stackTop)) with
  | error v => trivial
  | ok procs =>
    refine Yields.bind (hnext { m with procs }) fun d hd => ?_
    obtain ⟨hkind, events, hd⟩ := hd
    refine ⟨.inl ⟨hstage, hkind⟩, fun h => absurd h hop, _,
      (hd.cons (.admitted .refl hadmitted) hcreated rfl).mono fun _ he => .inl ⟨hstage, he⟩, ?_⟩
    intro e he
    cases e with
    | admitted pcb =>
      unfold ProcOp.Saves at he
      rw [hcreated] at he
      cases he
      exact ⟨events, rfl⟩
    | yielded pid context =>
      rw [he.1] at hstage
      exact hstage.elim
    | _ => exact he.elim

/-- What a finished stage does to the processes. -/
theorem advance_follows {o : ProcOp} (h : o.stage.Fits config m) :
    Proceeds m o (m.advance config o) := by
  have hcreated {stage : Stage} (hstage : o.stage = stage) (hnone : m.created stage = none) :
      m.created o.stage = none := hstage ▸ hnone
  have hrefl {stage : Stage} (hnext : ∀ pid context satp, stage ≠ .dispatch pid context satp)
      (hnone : m.created o.stage = none) (hread : o.stage ≠ .readFrame) :
      ∃ events, Follows (o.Changes m) m events m stage ∧
        ∀ e, o.Saves m e → ∃ rest, events = e :: rest :=
    ⟨[], follows_refl rfl hnext, ProcOp.not_saves hnone hread⟩
  unfold Model.advance
  cases hstage : o.stage with
  | create pid space =>
    rw [hstage] at h
    obtain ⟨plan, boot, hsource, -, hpid, hboot, -, hbooting⟩ := h
    have himage : Model.planImage plan pid = .ok boot := by
      unfold Model.planImage
      rw [if_neg (Nat.ne_of_gt hpid), hboot]
    dsimp only
    split
    · trivial
    · next plan' hplan =>
      rw [hsource] at hplan
      cases hplan
      rw [himage]
      refine admit_proceeds ?_ hbooting.not_operating (by rw [hstage]; trivial)
        fun m' => nextCreation_boots pid
      unfold Model.created
      rw [hstage]
      dsimp only
      rw [hsource]
      dsimp only
      rw [hboot]
      rfl
  | load cursor headers image space =>
    rw [hstage] at h
    obtain ⟨disk, entry, -, -, -, -, -, hbooting⟩ := h
    refine admit_proceeds ?_ hbooting.not_operating (by rw [hstage]; trivial)
      fun m' => nextLoad_boots _ _
    rw [hstage]
    rfl
  | command cursor => exact ⟨.inl ⟨by rw [hstage]; trivial, .inl trivial⟩, id,
    hrefl nofun (hcreated hstage rfl) (by rw [hstage]; exact nofun)⟩
  | poll cursor =>
    dsimp only
    refine ⟨.inl ⟨by rw [hstage]; trivial, .inl ?_⟩, id,
      hrefl ?_ (hcreated hstage rfl) (by rw [hstage]; exact nofun)⟩
    · split <;> trivial
    · split <;> exact nofun
  | ack cursor error =>
    rw [hstage] at h
    exact (acked_boots cursor error).proceeds h.2.2.not_operating
      (by rw [hstage]; trivial) (hcreated hstage rfl)
  | staged cursor len =>
    rw [hstage] at h
    exact (staged_boots cursor len o.data).proceeds h.2.2.1.not_operating
      (by rw [hstage]; trivial) (hcreated hstage rfl)
  | readFrame =>
    rw [hstage] at h
    refine Yields.bind (decide_serves (Model.Running.current h)) fun d hd => ?_
    obtain ⟨hnext, hop, events, hd, hyields⟩ := hd
    refine ⟨.inr ⟨word o.data frameSepc, ?_, hnext⟩, fun _ => hop, events,
      hd.mono fun e he => .inr ⟨hstage, he⟩, ?_⟩
    · unfold ProcOp.caller
      rw [hstage]
      rfl
    · intro e he
      cases e with
      | admitted pcb =>
        exact absurd he (by unfold ProcOp.Saves; rw [hcreated hstage rfl]; exact nofun)
      | yielded pid context =>
        obtain ⟨-, hpid, hasks, rfl⟩ := he
        exact hyields hasks pid hpid
      | _ => exact he.elim
  | walk buffer pages table level =>
    rw [hstage] at h
    refine ((Model.walked_calls _ _ _ _).traps (Model.Running.current h)).proceeds
      ?_ (hcreated hstage rfl)
      (by rw [hstage]; exact nofun)
    unfold ProcOp.caller
    rw [hstage]
  | output buffer pages done =>
    rw [hstage] at h
    refine ((Model.chunkDone_calls _ _ _).traps (Model.Running.current h)).proceeds
      ?_ (hcreated hstage rfl)
      (by rw [hstage]; exact nofun)
    unfold ProcOp.caller
    rw [hstage]
  | dispatch pid context satp => exact ⟨rfl, by rw [hstage]; trivial⟩
  | shutdown reason => exact ⟨rfl, by rw [hstage]; trivial⟩
  | return_ sepc value => exact ⟨rfl, by rw [hstage]; trivial⟩

end Decisions

end SystemScope.Os
