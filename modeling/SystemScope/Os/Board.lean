import SystemScope.Os.Execution
import SystemScope.Os.Spaces
import SystemScope.Os.TrapFrame

/-!
# Executions on a board

An operation whose accesses are answered by a memory and by the devices beside it (`BusMap.serve`):
what the stages of a boot leave in the memory.
-/

namespace SystemScope.Os

open Elf Checks

/-- A memory, and the devices beside it. -/
structure Board (δ : Type) where
  memory : ByteMap
  devices : δ

variable {config : KernelConfig} {δ : Type}

namespace BusMap

variable (bus : BusMap config) (device : Responder (Board δ))

/-- A memory answers with what it holds, and the devices answer all other accesses. -/
def serve : Responder (Board δ) := fun w access =>
  if bus.devices access.addr then device w access
  else ((answer w.memory access).1, { w with memory := (answer w.memory access).2 })

lemma serve_memory (access : Access) (h : bus.devices access.addr = false) (w : Board δ) :
    bus.serve device w access =
      ((answer w.memory access).1, { w with memory := (answer w.memory access).2 }) := by
  unfold serve
  rw [h]
  rfl

lemma serve_device (access : Access) (h : bus.devices access.addr = true) (w : Board δ) :
    bus.serve device w access = device w access := by
  unfold serve
  rw [h]
  rfl

end BusMap

/-! ## Pieces of a byte string -/

/-- The memory after some pieces of a byte string are written. -/
def writePieces (base : ℕ) (bs : Bytes) (pieces : List (ℕ × ℕ)) (memory : ByteMap) : ByteMap :=
  pieces.foldl (fun m c => m.write c.1 ((bs.drop (c.1 - base)).take c.2)) memory

/-- The bytes of the pieces are there, the others are unchanged. -/
lemma writePieces_apply {base : ℕ} {bs : Bytes} {pieces : List (ℕ × ℕ)}
    (h : ∀ c ∈ pieces, base ≤ c.1 ∧ c.1 + c.2 ≤ base + bs.length) (memory : ByteMap) (a : ℕ) :
    writePieces base bs pieces memory a =
      if ∃ c ∈ pieces, c.1 ≤ a ∧ a < c.1 + c.2 then bs.getD (a - base) 0 else memory a := by
  induction pieces generalizing memory with
  | nil => simp [writePieces]
  | cons c rest ih =>
    obtain ⟨hle, hlt⟩ := h c List.mem_cons_self
    have hlength : ((bs.drop (c.1 - base)).take c.2).length = c.2 := by
      rw [List.length_take, List.length_drop]
      omega
    have hrest : writePieces base bs (c :: rest) memory =
        writePieces base bs rest (memory.write c.1 ((bs.drop (c.1 - base)).take c.2)) := rfl
    rw [hrest, ih (fun c' hc' => h c' (List.mem_cons_of_mem _ hc'))]
    by_cases hmem : ∃ c' ∈ rest, c'.1 ≤ a ∧ a < c'.1 + c'.2
    · obtain ⟨c', hc', hin⟩ := hmem
      rw [if_pos ⟨c', hc', hin⟩, if_pos ⟨c', List.mem_cons_of_mem _ hc', hin⟩]
    · rw [if_neg hmem]
      unfold ByteMap.write
      rw [hlength]
      by_cases hin : c.1 ≤ a ∧ a < c.1 + c.2
      · rw [if_pos hin, if_pos ⟨c, List.mem_cons_self, hin⟩]
        rw [List.getD_eq_getElem _ _ (by omega), List.getD_eq_getElem _ _ (by omega)]
        rw [List.getElem_take, List.getElem_drop]
        congr 1
        omega
      · rw [if_neg hin, if_neg]
        rintro ⟨c', hc', hin'⟩
        rcases List.mem_cons.mp hc' with rfl | hc'
        · exact hin hin'
        · exact hmem ⟨c', hc', hin'⟩

/-- The trap frame after the dispatch of a process. -/
def dispatchMemory (config : KernelConfig) (context : Context) (satp : UInt32) :
    ByteMap → ByteMap :=
  writePieces config.trapFrame.toNat (dispatchBytes context satp) (dispatchChunks config)

/-- The trap frame after a shutdown. -/
def shutdownMemory (config : KernelConfig) (reason : UInt32) : ByteMap → ByteMap :=
  writePieces (config.trapFrame.toNat + frameAction) (wordBytes 1 ++ wordBytes reason)
    (shutdownChunks config)

section Frame

variable (config) (memory : ByteMap)

/-- A dispatch writes the context, and from `satp` to `action`. -/
lemma dispatchMemory_apply (context : Context) (satp : UInt32) (i : ℕ) :
    dispatchMemory config context satp memory (config.trapFrame.toNat + i) =
      if i < contextBytes ∨ frameSatp ≤ i ∧ i < frameSatp + 8 then
        (dispatchBytes context satp).getD i 0
      else memory (config.trapFrame.toNat + i) := by
  unfold dispatchMemory
  rw [writePieces_apply]
  · have hiff : (∃ c ∈ dispatchChunks config,
        c.1 ≤ config.trapFrame.toNat + i ∧ config.trapFrame.toNat + i < c.1 + c.2) ↔
          i < contextBytes ∨ frameSatp ≤ i ∧ i < frameSatp + 8 := by
      constructor
      · rintro ⟨c, hc, hin⟩
        rcases List.mem_append.mp hc with hc | hc
        · obtain ⟨-, hle, hlt⟩ := mem_chunks hc
          left
          omega
        · obtain ⟨-, hle, hlt⟩ := mem_chunks hc
          right
          omega
      · rintro (hi | ⟨hle, hlt⟩)
        · obtain ⟨c, hc, hin⟩ := exists_chunk config.trapFrame.toNat contextBytes
            (Nat.le_add_right _ i) (by omega)
          exact ⟨c, List.mem_append_left _ hc, hin⟩
        · obtain ⟨c, hc, hin⟩ := exists_chunk (config.trapFrame.toNat + frameSatp) 8
            (a := config.trapFrame.toNat + i) (by omega) (by omega)
          exact ⟨c, List.mem_append_right _ hc, hin⟩
    rw [Nat.add_sub_cancel_left]
    simp only [hiff]
  · intro c hc
    obtain ⟨-, hle, hlt⟩ := mem_dispatchChunks hc
    rw [length_dispatchBytes]
    exact ⟨hle, hlt⟩

lemma shutdownMemory_apply (reason : UInt32) (a : ℕ) :
    shutdownMemory config reason memory a =
      if config.trapFrame.toNat + frameAction ≤ a ∧
        a < config.trapFrame.toNat + frameAction + 8 then
        (wordBytes 1 ++ wordBytes reason).getD (a - (config.trapFrame.toNat + frameAction)) 0
      else memory a := by
  unfold shutdownMemory
  rw [writePieces_apply]
  · have hiff : (∃ c ∈ shutdownChunks config, c.1 ≤ a ∧ a < c.1 + c.2) ↔
        config.trapFrame.toNat + frameAction ≤ a ∧
          a < config.trapFrame.toNat + frameAction + 8 := by
      constructor
      · rintro ⟨c, hc, hin⟩
        obtain ⟨-, hle, hlt⟩ := mem_chunks hc
        omega
      · rintro ⟨hle, hlt⟩
        exact exists_chunk _ 8 hle hlt
    simp only [hiff]
  · intro c hc
    obtain ⟨-, hle, hlt⟩ := mem_chunks hc
    exact ⟨hle, hlt⟩

lemma frame_dispatchMemory (context : Context) (satp : UInt32) :
    let frame := (dispatchMemory config context satp memory).read config.trapFrame.toNat frameBytes
    Context.fromFrame frame = context ∧ word frame frameSatp = satp ∧
      word frame frameAction = 0 := by
  refine dispatched_frame (ByteMap.length_read _ _ _) (fun i hi => ?_) fun i hle hi => ?_
  · have hframe : i < frameBytes := by
      unfold contextBytes frameBytes at *
      omega
    rw [ByteMap.getD_read hframe, dispatchMemory_apply, if_pos (.inl hi)]
  · have hframe : i < frameBytes := by
      unfold frameSatp frameBytes at *
      omega
    rw [ByteMap.getD_read hframe, dispatchMemory_apply, if_pos (.inr ⟨hle, hi⟩)]

lemma frame_shutdownMemory (reason : UInt32) :
    let frame := (shutdownMemory config reason memory).read config.trapFrame.toNat frameBytes
    word frame frameAction = 1 ∧ word frame frameReason = reason := by
  have hwords : (((shutdownMemory config reason memory).read config.trapFrame.toNat frameBytes).drop
      frameAction).take 8 = wordBytes 1 ++ wordBytes reason := by
    rw [ByteMap.read_drop_take (by decide)]
    refine List.ext_getElem (by simp) fun i hi hi' => ?_
    rw [ByteMap.length_read] at hi
    have hbyte :=
      shutdownMemory_apply config memory reason (config.trapFrame.toNat + frameAction + i)
    rw [if_pos (by omega), Nat.add_sub_cancel_left, List.getD_eq_getElem _ _ hi'] at hbyte
    simpa [ByteMap.read] using hbyte
  constructor
  · refine word_eq ?_
    have htake := congrArg (List.take 4) hwords
    rwa [List.take_take, List.take_left' (length_wordBytes 1)] at htake
  · refine word_eq ?_
    have hdrop := congrArg (List.drop 4) hwords
    rw [List.drop_left' (length_wordBytes 1), List.drop_take, List.drop_drop] at hdrop
    exact hdrop

end Frame

/-! ## The stages of a boot -/

namespace Execution

variable (bus : BusMap config) (device : Responder (Board δ)) {m : Model} {w : Board δ}
  {d : Decision (Option ProcOp)}

/-- A stage that reads a range of memory, piece by piece. -/
lemma Through.board_read {stage : Stage} {base len : ℕ} (hpos : 0 < len)
    (hstage : ReadsRange config stage base len)
    (hdevices : ∀ a, base ≤ a → a < base + len → bus.devices a = false)
    (hadvance : m.advance config
      { stage, step := (chunks base len).length, data := w.memory.read base len } = .ok d) :
    let last : Execution (Board δ) := { model := d.model, op := d.next, world := w }
    Through config (bus.serve device) { model := m, op := some (.new stage), world := w }
      (chunks base len).length last.begun.toList last := by
  refine Through.pieces_read hpos hstage ?_ hadvance
  intro c hc
  obtain ⟨hpiece, hle, hlt⟩ := mem_chunks hc
  have hcpos := hpiece.pos
  exact bus.serve_memory device (.read c.1 c.2) (hdevices c.1 hle (by omega)) w

lemma Through.board_written {stage : Stage} {pieces : List (ℕ × ℕ)} {base : ℕ} {bs : Bytes}
    (hpos : 0 < pieces.length)
    (hstage : WritesPieces config stage base bs pieces)
    (hdevices : ∀ c ∈ pieces, bus.devices c.1 = false)
    (hadvance : m.advance config { stage, step := pieces.length, data := [] } = .ok d) :
    let last : Execution (Board δ) :=
      { model := d.model, op := d.next
        world := { w with memory := writePieces base bs pieces w.memory } }
    Through config (bus.serve device) { model := m, op := some (.new stage), world := w }
      pieces.length last.begun.toList last := by
  let worlds (k : ℕ) : Board δ :=
    { w with memory := writePieces base bs (pieces.take k) w.memory }
  have hwrite : ∀ k c, pieces[k]? = some c →
      bus.serve device (worlds k) (writeChunk base bs c) = (.written, worlds (k + 1)) := by
    intro k c hc
    refine (bus.serve_memory device (writeChunk base bs c)
      (hdevices c (List.mem_of_getElem? hc)) _).trans ?_
    have hnext : writePieces base bs (pieces.take (k + 1)) w.memory =
        (writePieces base bs (pieces.take k) w.memory).write c.1
          ((bs.drop (c.1 - base)).take c.2) := by
      unfold writePieces
      rw [List.take_add_one, hc, List.foldl_append]
      rfl
    show _ = (_, { w with memory := writePieces base bs (pieces.take (k + 1)) w.memory })
    rw [hnext]
    rfl
  have hthrough := Through.pieces_written hpos hstage worlds hwrite hadvance
  rwa [show worlds pieces.length = { w with memory := writePieces base bs pieces w.memory } from
    congrArg (fun ps => Board.mk (writePieces base bs ps w.memory) w.devices)
      (List.take_length)] at hthrough

/-- The first process is dispatched. -/
lemma Through.dispatch (hvalid : config.Valid) (pid : ℕ) (context : Context) (satp : UInt32) :
    Through config (bus.serve device)
      { model := m, op := some (.new (.dispatch pid context satp)), world := w }
      (dispatchChunks config).length []
      { model := m, op := none
        world := { w with memory := dispatchMemory config context satp w.memory } } := by
  have hpos : 0 < (dispatchChunks config).length := by
    obtain ⟨c, hc, -⟩ := exists_chunk config.trapFrame.toNat contextBytes (Nat.le_refl _)
      (Nat.lt_add_of_pos_right (by decide))
    exact List.length_pos_of_mem (List.mem_append_left _ hc)
  have hadvance : m.advance config { stage := .dispatch pid context satp
                                     step := (dispatchChunks config).length, data := [] } =
      .ok { model := m, notes := [], next := none } := rfl
  refine Through.board_written bus device hpos ⟨fun _ _ => rfl, fun _ _ => rfl, fun _ _ _ => rfl⟩ ?_
    hadvance
  intro c hc
  obtain ⟨hpiece, hle, hlt⟩ := mem_dispatchChunks hc
  have hcpos := hpiece.pos
  exact bus.devices_frame hvalid hle (by omega)

/-- A shutdown that was decided is carried out. -/
lemma Reaches.shutdown (hvalid : config.Valid) (reason : UInt32) :
    Reaches config (bus.serve device)
      { model := m, op := some (.new (.shutdown reason)), world := w }
      { model := m, op := none
        world := { w with memory := shutdownMemory config reason w.memory } } := by
  have hpos : 0 < (shutdownChunks config).length := by
    obtain ⟨c, hc, -⟩ := exists_chunk (config.trapFrame.toNat + frameAction) 8 (Nat.le_refl _)
      (Nat.lt_add_of_pos_right (by decide))
    exact List.length_pos_of_mem hc
  have hadvance : m.advance config { stage := .shutdown reason
                                     step := (shutdownChunks config).length, data := [] } =
      .ok { model := m, notes := [], next := none } := rfl
  refine (Through.board_written bus device hpos ⟨fun _ _ => rfl, fun _ _ => rfl, fun _ _ _ => rfl⟩
    ?_ hadvance).reaches
  intro c hc
  obtain ⟨hpiece, hle, hlt⟩ := mem_chunks hc
  have hcpos := hpiece.pos
  exact bus.devices_frame hvalid (by omega) (by unfold frameAction frameBytes at *; omega)

/-- An address space is built. -/
lemma Through.creation {stage : Stage} {s : Space} (hstage : stage.space = some s)
    {layout : UserLayout} {boot : BootImage} {frames : List UInt32} {mapped : List Mapped}
    (hsound : s.Sound config layout boot frames mapped) (hfits : boot.Fits config layout)
    (hadvance : m.advance config (ProcOp.building stage s (w.memory.after s.effect s.accesses)
      s.accesses) = .ok d) :
    let last : Execution (Board δ) :=
      { model := d.model, op := d.next
        world := { w with memory := w.memory.after s.effect s.accesses } }
    Through config (bus.serve device) { model := m, op := some (.new stage), world := w } s.accesses
      last.begun.toList last := by
  have hsteps := hsound.accesses_lt
  let ops (k : ℕ) : ProcOp := .building stage s (w.memory.after s.effect k) k
  have hstart : ops 0 = .new stage := by
    show ProcOp.mk _ _ (s.held _ 0) = _
    rw [Space.held_zero (Nat.zero_le _)]
    rfl
  have hthrough : let last : Execution (Board δ) :=
        { model := d.model, op := d.next
          world := { w with memory := w.memory.after s.effect s.accesses } }
      Through config (bus.serve device) { model := m, op := some (ops 0), world := w } s.accesses
        last.begun.toList last :=
    Through.stage (Nat.lt_of_lt_of_le (by decide) hsound.perFrame_le) ops
      (fun k => { w with memory := w.memory.after s.effect k }) ?_ ?_ hadvance
  · rwa [hstart] at hthrough
  · intro k hk
    have hexchange : ProcOp.exchange config (ops k, w.memory.after s.effect k) = _ :=
      ProcOp.exchange_building hstage hsteps hsound.ptes_ne_nil hk
    unfold ProcOp.exchange at hexchange
    obtain ⟨due, hdue, hexchange⟩ := bind_eq_ok.mp hexchange
    cases due with
    | none => cases hexchange
    | some access =>
      obtain ⟨r, hcomplete, hexchange⟩ := bind_eq_ok.mp hexchange
      cases r with
      | error e => cases hexchange
      | ok o =>
        obtain ⟨rfl, hmemory⟩ := Prod.mk.inj (Option.some.inj (Except.ok.inj hexchange))
        have haccess : s.access k (s.held (w.memory.after s.effect k) k) = some access :=
          Except.ok.inj ((ProcOp.access_building hstage _).symm.trans hdue)
        have hmakes : s.Makes access := ⟨k, _, Space.length_held _ _, haccess⟩
        obtain ⟨hpos, -⟩ := hsound.built.len_makes hmakes
        obtain ⟨-, hbase, -, hstop⟩ := ram_of_confines hsound.valid.valid
          (fun f hf => hsound.pool f (hsound.frame_mem hf)) hfits.staged hpos
          (hsound.built.confines hsound.inPage hfits.copies hmakes)
        have hserve := bus.serve_memory device access (bus.ram access.addr hbase (by omega))
          { w with memory := w.memory.after s.effect k }
        refine ⟨access, hdue, ?_, ?_⟩
        · rw [hserve]
          exact congrArg (fun memory => Board.mk memory w.devices) hmemory
        · rw [hserve]
          exact hcomplete
  · intro k _
    exact bind_eq_ok.mpr ⟨_, ProcOp.steps_building hstage hsteps _, rfl⟩

end Execution

end SystemScope.Os
