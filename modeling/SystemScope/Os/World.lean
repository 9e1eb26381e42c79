import SystemScope.Os.Execution
import SystemScope.Os.TrapFrame

/-!
# Executions in a memory with a UART

An operation whose accesses are answered by a memory, and by devices that answer whatever their
registers hold; what is written to the UART is kept (`BusMap.respond`).  Each stage of a syscall
runs from its start to its end.
-/

namespace SystemScope.Os

open ByteMap Checks

/-- A memory, and the bytes that the UART has been sent. -/
structure World where
  memory : ByteMap
  uart : Bytes

variable {config : KernelConfig}

namespace BusMap

variable (bus : BusMap config) (registers : Access → Bytes)

/-- What an access gets. -/
def completion (memory : ByteMap) (access : Access) : Completion :=
  if bus.devices access.addr then
    match access with
    | .read .. => .data (registers access)
    | .write .. => .written
  else (answer memory access).1

/-- A memory answers with what it holds, and a device with what its registers hold. -/
def respond : Responder World := fun w access =>
  (bus.completion registers w.memory access,
    { memory := bus.effect w.memory access
      uart := w.uart ++ Machine.transmitted config access })

end BusMap

lemma BusMap.respond_read (bus : BusMap config) (registers : Access → Bytes) {addr : ℕ}
    (hdevices : bus.devices addr = false) (w : World) (len : ℕ) :
    bus.respond registers w (.read addr len) = (.data (w.memory.read addr len), w) := by
  have hcompletion : bus.completion registers w.memory (.read addr len) =
      .data (w.memory.read addr len) := by
    unfold BusMap.completion
    rw [show bus.devices (Access.read addr len).addr = false from hdevices]
    rfl
  have hnone : Machine.transmitted config (.read addr len) = [] := ite_self _
  unfold BusMap.respond
  rw [hcompletion, bus.effect_read, hnone, List.append_nil]

namespace Execution

variable (bus : BusMap config) (registers : Access → Bytes) {o : ProcOp} {w : World} {n : ℕ}

lemma Exchanged.read {addr len : ℕ} (ha : o.access config = .ok (some (.read addr len)))
    (hdevices : bus.devices addr = false) (hn : o.steps config = .ok n)
    (hkeep : o.step + 1 < n → o.data.length + len = o.dataLen config (o.step + 1)) :
    Exchanged config (bus.respond registers) o w
      { o with step := o.step + 1, data := o.data ++ w.memory.read addr len } w :=
  .of_read ha (bus.respond_read registers hdevices w len) hn hkeep

lemma Exchanged.write {addr : ℕ} {data : Bytes}
    (ha : o.access config = .ok (some (.write addr data)))
    (hdevices : bus.devices addr = false) (hn : o.steps config = .ok n)
    (hkeep : o.step + 1 < n → o.data.length = o.dataLen config (o.step + 1)) :
    Exchanged config (bus.respond registers) o w { o with step := o.step + 1 }
      { w with memory := w.memory.write addr data } := by
  refine ⟨_, ha, ?_, ProcOp.complete_of_answered ha ?_ hn hkeep⟩
  · have haddr : addr ≠ config.uartTx.toNat := by
      rintro rfl
      rw [bus.uart] at hdevices
      cases hdevices
    show World.mk (bus.effect w.memory (.write addr data))
      (w.uart ++ Machine.transmitted config _) = _
    have hnone : Machine.transmitted config (.write addr data) = [] := if_neg haddr
    rw [bus.effect_write hdevices, hnone, List.append_nil]
  · show ProcOp.answered _ (bus.completion registers w.memory (.write addr data)) _ = _
    unfold BusMap.completion
    rw [show bus.devices (Access.write addr data).addr = false from hdevices]
    rfl

lemma Exchanged.uart {data : Bytes}
    (ha : o.access config = .ok (some (.write config.uartTx.toNat data)))
    (hn : o.steps config = .ok n)
    (hkeep : o.step + 1 < n → o.data.length = o.dataLen config (o.step + 1)) :
    Exchanged config (bus.respond registers) o w { o with step := o.step + 1 }
      { w with uart := w.uart ++ data } := by
  refine ⟨_, ha, ?_, ProcOp.complete_of_answered ha ?_ hn hkeep⟩
  · show World.mk (bus.effect w.memory (.write config.uartTx.toNat data))
      (w.uart ++ Machine.transmitted config _) = _
    have hsent : Machine.transmitted config (.write config.uartTx.toNat data) = data := if_pos rfl
    rw [bus.effect_uart, hsent]
  · show ProcOp.answered _
      (bus.completion registers w.memory (.write config.uartTx.toNat data)) _ = _
    unfold BusMap.completion
    rw [show bus.devices (Access.write config.uartTx.toNat data).addr = true from bus.uart]
    rfl

/-! ## The stages of a syscall -/

section Stages

variable {m : Model} {d : Decision (Option ProcOp)}

lemma Through.readFrame (hvalid : config.Valid)
    (hadvance : m.advance config
      { stage := .readFrame, step := (frameChunks config).length
        data := w.memory.read config.trapFrame.toNat frameBytes } = .ok d) :
    let last : Execution World := { model := d.model, op := d.next, world := w }
    Through config (bus.respond registers) { model := m, op := some (.new .readFrame), world := w }
      (frameChunks config).length last.begun.toList last := by
  refine Through.pieces_read (by decide)
    ⟨fun _ _ => rfl, fun _ _ => rfl, fun _ _ _ => rfl⟩ ?_ hadvance
  intro c hc
  obtain ⟨hpiece, hle, hlt⟩ := mem_chunks hc
  have hcpos := hpiece.pos
  exact bus.respond_read registers (bus.devices_frame hvalid hle (by omega)) w c.2

/-- One entry is read. -/
lemma Reaches.walk {buffer : Buffer} {pages : List UInt32} {table va : UInt32} {level : UInt8}
    (hva : buffer.pageVa pages.length = .ok va)
    (hdevices : bus.devices (pteAddress table va level) = false)
    (hadvance : m.advance config
      { stage := .walk buffer pages table level, step := 1
        data := w.memory.read (pteAddress table va level) 4 } = .ok d) :
    Reaches config (bus.respond registers)
      { model := m, op := some (.new (.walk buffer pages table level)), world := w }
      { model := d.model, op := d.next, world := w } := by
  have haccess : (ProcOp.new (.walk buffer pages table level)).access config =
      .ok (some (.read (pteAddress table va level) 4)) := bind_eq_ok.mpr ⟨va, hva, rfl⟩
  have hstep : Exchanged config (bus.respond registers) (.new (.walk buffer pages table level)) w
      { stage := .walk buffer pages table level, step := 1
        data := w.memory.read (pteAddress table va level) 4 } w :=
    Exchanged.read bus registers haccess hdevices rfl fun hlt => absurd hlt (Nat.lt_irrefl 1)
  exact .single (hstep.next_of_finished rfl hadvance)

/-- The stage that transmits a chunk, after each of its steps: the read gives the bytes, and each
write sends one of them. -/
def sending (buffer : Buffer) (pages : List UInt32) (done : ℕ) (bytes : Bytes) : ℕ → ProcOp
  | 0 => .new (.output buffer pages done)
  | k + 1 => { stage := .output buffer pages done, step := k + 1, data := bytes }

/-- A chunk is read and transmitted. -/
lemma Reaches.output {buffer : Buffer} {pages : List UInt32} {done addr : ℕ}
    (haddr : physical buffer pages (buffer.chunk done).1 = .ok addr)
    (hdevices : bus.devices addr = false)
    (hadvance : m.advance config
      { stage := .output buffer pages done, step := 1 + (buffer.chunk done).2
        data := w.memory.read addr (buffer.chunk done).2 } = .ok d) :
    Reaches config (bus.respond registers)
      { model := m, op := some (.new (.output buffer pages done)), world := w }
      { model := d.model, op := d.next
        world := { w with uart := w.uart ++ w.memory.read addr (buffer.chunk done).2 } } := by
  obtain ⟨len, hlen⟩ : ∃ len, (buffer.chunk done).2 = len := ⟨_, rfl⟩
  obtain ⟨bytes, hbytes⟩ : ∃ bytes, w.memory.read addr len = bytes := ⟨_, rfl⟩
  have hlength : bytes.length = len := hbytes ▸ length_read _ _ _
  rw [hlen, hbytes] at hadvance ⊢
  let ops := sending buffer pages done bytes
  let worlds (k : ℕ) : World := { w with uart := w.uart ++ bytes.take (k - 1) }
  have hsteps (step : ℕ) (data : Bytes) :
      ({ stage := .output buffer pages done, step, data } : ProcOp).steps config = .ok (1 + len) :=
    congrArg (fun l => Except.ok (1 + l)) hlen
  have hfirst : worlds 0 = w := by
    show World.mk w.memory (w.uart ++ []) = w
    rw [List.append_nil]
  have hlast : worlds (1 + len) = { w with uart := w.uart ++ bytes } := by
    show World.mk w.memory (w.uart ++ bytes.take (1 + len - 1)) = _
    rw [Nat.add_sub_cancel_left, List.take_of_length_le (Nat.le_of_eq hlength)]
  have hreaches : Reaches config (bus.respond registers)
      { model := m, op := some (ops 0), world := worlds 0 }
      { model := d.model, op := d.next, world := worlds (1 + len) } :=
    (Through.stage (by omega) ops worlds ?_ ?_ ?_).reaches
  · rwa [hfirst, hlast] at hreaches
  · intro k hk
    cases k with
    | zero =>
      have haccess : (ops 0).access config = .ok (some (.read addr len)) := by
        rw [← hlen]
        exact bind_eq_ok.mpr ⟨addr, haddr, rfl⟩
      have hstep := Exchanged.read (w := w) bus registers haccess hdevices (hsteps 0 [])
        fun _ => (Nat.zero_add len).trans hlen.symm
      rw [hbytes] at hstep
      rw [hfirst]
      exact hstep
    | succ k =>
      obtain ⟨b, hb⟩ : ∃ b, bytes[k]? = some b := ⟨_, List.getElem?_eq_getElem (by omega)⟩
      have haccess : (ops (k + 1)).access config = .ok (some (.write config.uartTx.toNat [b])) := by
        unfold ProcOp.access
        show (if k + 1 = 0 then _ else if k + 1 ≤ (buffer.chunk done).2 then _ else _) = _
        rw [if_neg (Nat.succ_ne_zero k), if_pos (by omega)]
        dsimp only [ops, sending]
        rw [Nat.add_sub_cancel, hb]
      have hstep := Exchanged.uart (w := worlds (k + 1)) bus registers haccess (hsteps _ _)
        fun _ => hlength.trans hlen.symm
      have hsent : (worlds (k + 1)).uart ++ [b] = w.uart ++ bytes.take (k + 1) := by
        rw [List.take_add_one, hb, ← List.append_assoc]
        rfl
      rw [hsent] at hstep
      exact hstep
  · intro k hk
    cases k with
    | zero => exact bind_eq_ok.mpr ⟨_, hsteps 0 [], rfl⟩
    | succ k => exact bind_eq_ok.mpr ⟨_, hsteps _ _, rfl⟩
  · rw [Nat.add_comm] at hadvance ⊢
    exact hadvance

/-- The world after each of the two writes of a return. -/
def returning (config : KernelConfig) (w : World) (sepc value : UInt32) : ℕ → World
  | 0 => w
  | 1 => { w with memory := w.memory.write (config.trapFrame.toNat + frameA0) (wordBytes value) }
  | _ =>
    let a0 := w.memory.write (config.trapFrame.toNat + frameA0) (wordBytes value)
    { w with memory := a0.write (config.trapFrame.toNat + frameSepc) (wordBytes (sepc + 4)) }

/-- The result is written, and the caller resumes after its `ecall`. -/
lemma Reaches.return_ (hvalid : config.Valid) (sepc value : UInt32) :
    Reaches config (bus.respond registers)
      { model := m, op := some (.new (.return_ sepc value)), world := w }
      { model := m, op := none
        world := { w with
          memory := (w.memory.write (config.trapFrame.toNat + frameA0) (wordBytes value)).write
            (config.trapFrame.toNat + frameSepc) (wordBytes (sepc + 4)) } } := by
  let ops (k : ℕ) : ProcOp := { stage := .return_ sepc value, step := k, data := [] }
  let worlds := returning config w sepc value
  refine (Through.stage (n := 2) (by omega) ops worlds ?_ (fun k _ => rfl) rfl).reaches
  intro k hk
  have hsteps : k = 0 ∨ k = 1 := by omega
  rcases hsteps with rfl | rfl
  · exact Exchanged.write bus registers rfl
      (bus.devices_frame hvalid (by omega) (by unfold frameA0 frameBytes; omega))
      rfl fun _ => rfl
  · exact Exchanged.write (o := ops 1) (w := worlds 1) bus registers rfl
      (bus.devices_frame hvalid (by omega) (by unfold frameSepc frameBytes; omega)) rfl fun _ => rfl

end Stages

end Execution

end SystemScope.Os
