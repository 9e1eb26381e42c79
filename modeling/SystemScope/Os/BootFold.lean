import SystemScope.Os.Board

/-!
# What a boot leaves

The processes and the memory that a boot leaves, as a fold over its images (`Site.bootAll`): an
image becomes a process in the lowest free frames, if they are enough and no segment of it is in a
megapage slot.  What the kernel decides about an image is one step of the fold.
-/

namespace SystemScope.Os

open Elf Checks

namespace Processes

variable (config : KernelConfig) (layout : UserLayout) (ps : Processes)

/-- The space of an image in the lowest free frames; nothing if a segment is in a megapage slot or
too few frames are free. -/
def place (boot : BootImage) : Option Space :=
  let free := ps.frames.ownedBy 0
  let needed := framesNeeded boot.image layout
  if MegapageConflict boot.image config ∨ free.length < needed then none
  else (Space.build config layout boot (free.take needed)).toOption

/-- The pool with the lowest free frames given to a PID. -/
def taken (pid n : ℕ) : Frames := ps.frames.assign pid ((ps.frames.indicesOf 0).take n)

/-- The table with a ready process in a space, at the tail of the queue. -/
def created (pid : ℕ) (entry : UInt32) (space : Space) : Processes :=
  { pcbs := ps.pcbs ++ [.new pid space (.initial entry layout.stackTop)]
    queue := ps.queue ++ [pid]
    current := ps.current
    frames := ps.taken pid space.frames.length }

/-- The table after an image, if there is one: it becomes a process if it can. -/
def boot (pid : ℕ) : Option BootImage → Processes
  | none => ps
  | some b =>
    match ps.place config layout b with
    | none => ps
    | some space => ps.created layout pid b.image.entry space

/-- The table after the images from an index on. -/
def bootAll : ℕ → List (Option BootImage) → Processes → Processes
  | _, [], ps => ps
  | i, b :: rest, ps => bootAll (i + 1) rest (ps.boot config layout (i + 1) b)

/-- The head of the queue is dispatched. -/
def dispatchFirst : Processes :=
  match ps.queue with
  | [] => ps
  | pid :: rest =>
    { ps with pcbs := update pid dispatched ps.pcbs, queue := rest, current := some pid }

/-- The memory after the head of the queue is dispatched, or after the shutdown that an empty queue
starts. -/
def entered (memory : ByteMap) : ByteMap :=
  match ps.queue with
  | [] => shutdownMemory config 1 memory
  | pid :: _ =>
    match ps.pcb pid with
    | some { context := some context, root, .. } =>
      dispatchMemory config context (Pte.satp root) memory
    | _ => memory

/-- What a trap frame tells the machine: to run the head of the queue in its space, or to shut down
with reason 1. -/
def Starts (frame : Bytes) : Prop :=
  match ps.queue with
  | [] => word frame frameAction = 1 ∧ word frame frameReason = 1
  | pid :: _ =>
    ∃ p, ps.pcb pid = some p ∧ p.context = some (Context.fromFrame frame) ∧
      word frame frameSatp = Pte.satp p.root ∧ word frame frameAction = 0

end Processes

/-- Processes and memory. -/
structure Site where
  procs : Processes
  memory : ByteMap

namespace Site

variable (config : KernelConfig) (layout : UserLayout) (x : Site)

/-- What an image leaves, if there is one. -/
def boot (pid : ℕ) : Option BootImage → Site
  | none => x
  | some b =>
    match x.procs.place config layout b with
    | none => x
    | some space =>
      { procs := x.procs.created layout pid b.image.entry space
        memory := x.memory.after space.effect space.accesses }

/-- What the images from an index on leave; something happens to the memory before each of them. -/
def bootAll : ℕ → List ((ByteMap → ByteMap) × Option BootImage) → Site → Site
  | _, [], x => x
  | i, (before, b) :: rest, x =>
    bootAll (i + 1) rest ({ x with memory := before x.memory }.boot config layout (i + 1) b)

lemma procs_boot (pid : ℕ) (b : Option BootImage) :
    (x.boot config layout pid b).procs = x.procs.boot config layout pid b := by
  cases b with
  | none => rfl
  | some b =>
    unfold boot Processes.boot
    dsimp only
    cases x.procs.place config layout b with
    | none => rfl
    | some space => rfl

/-- The processes do not depend on the memory. -/
lemma procs_bootAll (i : ℕ) (steps : List ((ByteMap → ByteMap) × Option BootImage)) :
    (x.bootAll config layout i steps).procs =
      x.procs.bootAll config layout i (steps.map Prod.snd) := by
  induction steps generalizing i x with
  | nil => rfl
  | cons step rest ih =>
    obtain ⟨before, b⟩ := step
    exact (ih _ _).trans (congrArg _ (procs_boot config layout _ _ b))

end Site

/-- Every process is queued, in the order of their PIDs. -/
lemma Processes.queue_bootAll (config : KernelConfig) (layout : UserLayout) (i : ℕ)
    (images : List (Option BootImage)) {ps : Processes} (h : ps.queue = ps.pcbs.map Pcb.pid) :
    (ps.bootAll config layout i images).queue =
      (ps.bootAll config layout i images).pcbs.map Pcb.pid := by
  induction images generalizing i ps with
  | nil => exact h
  | cons b rest ih =>
    refine ih (i + 1) ?_
    cases b with
    | none => exact h
    | some b =>
      unfold boot
      dsimp only
      cases ps.place config layout b with
      | none => exact h
      | some space =>
        unfold created
        rw [List.map_append, ← h]
        rfl

/-! ## A step of the fold -/

variable {config : KernelConfig} {m : Model} {i : ℕ} {b : BootImage}

/-- The model during the creation of a process. -/
def Model.reserved (m : Model) (pid : ℕ) (space : Space) : Model :=
  { m with procs := { m.procs with frames := m.procs.taken pid space.frames.length } }

lemma Processes.place_eq_some {layout : UserLayout} {ps : Processes} {s : Space}
    (h : ps.place config layout b = some s) :
    ¬MegapageConflict b.image config ∧
      Space.build config layout b
        ((ps.frames.ownedBy 0).take (framesNeeded b.image layout)) = .ok s ∧
      framesNeeded b.image layout ≤ (ps.frames.ownedBy 0).length ∧
      s.frames.length = framesNeeded b.image layout := by
  unfold place at h
  dsimp only at h
  obtain ⟨hnot, h⟩ := Option.ite_none_left_eq_some.mp h
  obtain ⟨hconflict, hfree⟩ := not_or.mp hnot
  have hbuild : Space.build config layout b
      ((ps.frames.ownedBy 0).take (framesNeeded b.image layout)) = .ok s := by
    cases hd : Space.build config layout b
        ((ps.frames.ownedBy 0).take (framesNeeded b.image layout)) with
    | error p =>
      rw [hd] at h
      cases h
    | ok s' =>
      rw [hd] at h
      cases h
      rfl
  obtain ⟨mapped, hbuilt⟩ := Space.built_of_build hbuild
  exact ⟨hconflict, hbuild, Nat.not_lt.mp hfree, hbuilt.length_frames⟩

section Step

variable (hvalid : ValidLayout config m.source.layout) (hfits : b.Fits config m.source.layout)

include hvalid hfits

/-- The frames of an image are reserved and its space is built where the fold places it. -/
lemma Model.reserveSpace_eq (pid : ℕ) (hconflict : ¬MegapageConflict b.image config) :
    m.reserveSpace config pid b =
      .ok ((m.procs.place config m.source.layout b).map fun s => (s, m.reserved pid s)) := by
  have hlength : ((m.procs.frames.indicesOf 0).take (framesNeeded b.image m.source.layout)).length <
      framesNeeded b.image m.source.layout ↔
        (m.procs.frames.ownedBy 0).length < framesNeeded b.image m.source.layout := by
    unfold Frames.ownedBy
    rw [List.length_take, List.length_map]
    omega
  unfold reserveSpace Frames.reserve Processes.place
  dsimp only
  by_cases hfew : (m.procs.frames.ownedBy 0).length < framesNeeded b.image m.source.layout
  · rw [if_pos (hlength.mpr hfew), if_pos (.inr hfew)]
    rfl
  · have htake : ((m.procs.frames.indicesOf 0).take (framesNeeded b.image m.source.layout)).map
        m.procs.frames.ppn =
          (m.procs.frames.ownedBy 0).take (framesNeeded b.image m.source.layout) := List.map_take
    obtain ⟨base, hbase, -⟩ := hvalid.stackBase
    obtain ⟨s, hbuild⟩ : ∃ s, Space.build config m.source.layout b
        ((m.procs.frames.ownedBy 0).take (framesNeeded b.image m.source.layout)) = .ok s :=
      Space.build_isOk (by rw [List.length_take]; omega) hfits.segments
        (Option.isSome_iff_exists.mpr ⟨base, hbase⟩)
    obtain ⟨mapped, hbuilt⟩ := Space.built_of_build hbuild
    rw [if_neg (fun h => hfew (hlength.mp h)), if_neg (not_or.mpr ⟨hconflict, hfew⟩), htake]
    dsimp only
    rw [hbuild]
    unfold reserved Processes.taken
    rw [← hbuilt.length_frames]
    rfl

variable (hbooting : m.Booting config i none) (hindex : i < m.entries) {s : Space}
  (hplace : m.procs.place config m.source.layout b = some s)

include hbooting hindex hplace

/-- While the space is built, the frames are those of the creation in flight. -/
lemma Model.reserved_booting : Created config m.source.layout b s ∧
    (m.reserved (i + 1) s).Booting config i (some (i + 1, s.frames)) := by
  obtain ⟨hconflict, -⟩ := Processes.place_eq_some hplace
  have hyields := reserveSpace_yields hbooting (Nat.lt_succ_self i) hindex hconflict
  rw [reserveSpace_eq hvalid hfits _ hconflict, hplace] at hyields
  obtain ⟨-, -, hcreated, hreserved⟩ := hyields (s, m.reserved (i + 1) s) rfl
  exact ⟨hcreated, hreserved⟩

lemma Model.admitted_eq : ∃ notes, (m.reserved (i + 1) s).admit_ (i + 1) b.image s =
      .ok ({ m with procs := m.procs.created m.source.layout (i + 1) b.image.entry s }, notes) ∧
    Model.Booting config
      { m with procs := m.procs.created m.source.layout (i + 1) b.image.entry s } (i + 1) none := by
  obtain ⟨hcreated, hreserved⟩ := reserved_booting hvalid hfits hbooting hindex hplace
  obtain ⟨hok, hperm⟩ := pcb_of_built hcreated.built (i + 1)
    (Context.initial b.image.entry m.source.layout.stackTop)
  obtain ⟨hadmitted, -⟩ := Processes.Ok.admit_ hreserved.procs hperm hok rfl
  have hyields := admit_yields hreserved (Nat.le_succ i) hcreated b.image
  have hadmitted : (m.reserved (i + 1) s).admit_ (i + 1) b.image s = .ok
      ({ m with procs := m.procs.created m.source.layout (i + 1) b.image.entry s },
        b.image.segments.map (segmentNote (i + 1)) ++
          [createNote (i + 1) b.image.entry s.root ""]) := by
    unfold admit_
    dsimp only
    rw [show (m.reserved (i + 1) s).source = m.source from rfl, hadmitted]
    rfl
  rw [hadmitted] at hyields
  exact ⟨_, hadmitted, hyields.2.2⟩

end Step

/-! ## The end of the boot -/

/-- The process that was changed in a table. -/
lemma Processes.find_update {f : Pcb → Pcb} (hf : ∀ p, (f p).pid = p.pid) (pid : ℕ)
    (pcbs : List Pcb) :
    (update pid f pcbs).find? (fun p => p.pid = pid) = (pcbs.find? fun p => p.pid = pid).map f := by
  induction pcbs with
  | nil => rfl
  | cons p rest ih =>
    unfold update
    by_cases hpid : p.pid = pid
    · rw [if_pos hpid, List.find?_cons_of_pos (by simpa [hf] using hpid),
        List.find?_cons_of_pos (by simpa using hpid)]
      rfl
    · rw [if_neg hpid, List.find?_cons_of_neg (by simpa using hpid),
        List.find?_cons_of_neg (by simpa using hpid), ih]

variable {δ : Type} (bus : BusMap config) (device : Responder (Board δ))

/-- With every image created as far as it can be, the head of the queue is dispatched; a boot
without processes ends with a shutdown for reason 1. -/
lemma Execution.Leads.finished (hvalid : config.Valid) {upto : ℕ}
    (hbooting : m.Booting config upto none)
    (hqueue : m.procs.queue = m.procs.pcbs.map Pcb.pid) (hentries : 0 < m.entries) (w : Board δ) :
    Leads config (bus.serve device) (m.dispatchNext 0) w
        { model :=
            { m with
              procs := m.procs.dispatchFirst
              life := if m.procs.queue = [] then .down else .up }
          op := none, world := { w with memory := m.procs.entered config w.memory } } ∧
      m.procs.Starts
        ((m.procs.entered config w.memory).read config.trapFrame.toNat frameBytes) := by
  unfold Processes.dispatchFirst Processes.entered Processes.Starts
  cases hhead : m.procs.queue with
  | nil =>
    have hnone : m.procs.pcbs = [] := by
      rw [hhead] at hqueue
      exact List.map_eq_nil_iff.mp hqueue.symm
    have hreason : m.emptyQueueReason = 1 := by
      unfold Model.emptyQueueReason
      rw [hnone, if_neg]
      rintro ⟨hlength, -⟩
      exact Nat.ne_of_gt hentries hlength.symm
    have hnext : m.procs.scheduleNext = .ok (m.procs, none) := by
      unfold Processes.scheduleNext
      rw [hbooting.current, hhead]
      rfl
    have hdecision : m.dispatchNext 0 =
        .ok { model := { m with life := .down }
              notes := [shutdownNote m.emptyQueueReason "the run queue is empty"]
              next := .new (.shutdown m.emptyQueueReason) } :=
      bind_eq_ok.mpr ⟨_, mapError_eq_ok.mpr hnext, rfl⟩
    rw [hreason] at hdecision
    exact ⟨⟨_, hdecision, Reaches.shutdown bus device hvalid 1⟩,
      frame_shutdownMemory config w.memory 1⟩
  | cons pid rest =>
    obtain ⟨p, hp, rfl, hstate⟩ := (hbooting.procs.queue pid).mp (hhead ▸ List.mem_cons_self)
    obtain ⟨context, hcontext⟩ :=
      Option.isSome_iff_exists.mp ((hbooting.procs.pcb p hp).context.mp hstate)
    have hpcb := hbooting.procs.pcb_eq_some.mpr ⟨hp, rfl⟩
    have hnext : m.procs.scheduleNext = .ok
        ({ m.procs with pcbs := Processes.update p.pid Processes.dispatched m.procs.pcbs,
                        queue := rest
                        current := some p.pid }, some (p.pid, context)) := by
      unfold Processes.scheduleNext
      rw [hbooting.current, hhead]
      dsimp only [Option.isSome_none]
      rw [if_neg (by simp), hpcb]
      dsimp only
      rw [hcontext]
      dsimp only
      rw [if_neg (not_not.mpr hstate)]
    have hfound : Processes.pcb { m.procs with
        pcbs := Processes.update p.pid Processes.dispatched m.procs.pcbs, queue := rest
        current := some p.pid } p.pid = some (Processes.dispatched p) :=
      (Processes.find_update (f := Processes.dispatched) (fun _ => rfl) _ _).trans (congrArg _ hpcb)
    have hframe := frame_dispatchMemory config w.memory context (Pte.satp p.root)
    have hdecision : m.dispatchNext 0 =
        .ok { model := { m with procs := { m.procs with
                pcbs := Processes.update p.pid Processes.dispatched m.procs.pcbs, queue := rest
                current := some p.pid } }
              notes := [switchNote 0 p.pid]
              next := .new (.dispatch p.pid context (Pte.satp p.root)) } := by
      refine bind_eq_ok.mpr ⟨_, mapError_eq_ok.mpr hnext, ?_⟩
      dsimp only
      rw [hfound]
      rfl
    have hreaches := (Through.dispatch bus device hvalid (w := w) (m := { m with
      procs := { m.procs with
        pcbs := Processes.update p.pid Processes.dispatched m.procs.pcbs, queue := rest
        current := some p.pid } }) p.pid context (Pte.satp p.root)).reaches
    obtain ⟨pid, state, held, root, tables, regions⟩ := p
    dsimp only at hcontext
    obtain rfl := hcontext
    dsimp only at hpcb hdecision hreaches ⊢
    rw [hpcb, if_neg nofun, ← hbooting.life]
    exact ⟨⟨_, hdecision, hreaches⟩, _, rfl, congrArg some hframe.1.symm, hframe.2⟩

end SystemScope.Os
