import SystemScope.Os.Board

/-!
# A disk behind a block controller

The block controller as the kernel sees it (`drive`): a transfer of blocks to memory is programmed,
its `STATUS` is polled until it is done, with or without an error, and it is acknowledged
(`Execution.Reaches.transfer`).  When a transfer is done and how it ends is up to the
controller. -/

namespace SystemScope.Os

open Elf Checks

/-- How the block controller serves a transfer. -/
structure Service where
  /-- What `STATUS` reads as before the transfer is done. -/
  pending : List UInt32
  /-- What `STATUS` reads as from then on. -/
  status : UInt32
  /-- What a transfer that fails leaves in memory. -/
  residue : ByteMap
  busy : ∀ w ∈ pending, w &&& statusDone = 0
  done : status &&& statusDone ≠ 0

namespace Service

variable (s : Service)

/-- The error of the transfer, 0 for none. -/
def error : UInt8 := (s.status >>> statusErrorShift).toUInt8

/-- What `STATUS` reads as after a number of polls. -/
def statusAt (polls : ℕ) : UInt32 := s.pending[polls]?.getD s.status

/-- The memory after the transfer of some blocks of a disk. -/
def transferred (disk : ByteMap) (lba memAddr blockCount : UInt32) (memory : ByteMap) : ByteMap :=
  let len := blockSize * blockCount.toNat
  memory.write memAddr.toNat
    (if s.error = 0 then disk.read (blockSize * lba.toNat) len
      else s.residue.read memAddr.toNat len)

end Service

/-- The registers of the block controller, and where it is in its transfers. -/
structure Controller where
  lba : UInt32
  memAddr : UInt32
  blockCount : UInt32
  /-- The number of transfers that were started. -/
  started : ℕ
  /-- How often `STATUS` was read since the last start. -/
  polls : ℕ
  deriving DecidableEq, Repr

namespace Controller

/-- A controller after reset. -/
def new : Controller := { lba := 0, memAddr := 0, blockCount := 0, started := 0, polls := 0 }

variable (c : Controller)

/-- A word is written to a register. -/
def program (reg : ℕ) (value : UInt32) : Controller :=
  if reg = lbaReg then { c with lba := value }
  else if reg = memAddrReg then { c with memAddr := value }
  else if reg = blockCountReg then { c with blockCount := value }
  else if reg = commandReg then { c with started := c.started + 1, polls := 0 }
  else c

/-- The controller after it has served a transfer to staging. -/
def served (config : KernelConfig) (cursor : Cursor) (s : Service) : Controller :=
  { lba := cursor.transfer.1, memAddr := UInt32.ofNat config.staging.base.toNat
    blockCount := cursor.transfer.2, started := c.started + 1, polls := s.pending.length + 1 }

end Controller

section Drive

variable (config : KernelConfig) (disk : ByteMap) (services : ℕ → Service)

/-- The block controller with a disk, which serves its transfers one after the other. -/
def drive : Responder (Board Controller) := fun w access =>
  let c := w.devices
  match access with
  | .write addr data =>
    (.written, { w with devices := c.program (addr - config.blk.base.toNat) (word data 0) })
  | .read addr len =>
    let s := services (c.started - 1)
    if addr = config.blk.base.toNat + statusReg ∧ len = 4 then
      (.data (wordBytes (s.statusAt c.polls)),
        { memory :=
            if c.polls = s.pending.length then
              s.transferred disk c.lba c.memAddr c.blockCount w.memory
            else w.memory
          devices := { c with polls := c.polls + 1 } })
    else (.data (List.replicate len 0), w)

variable {config}

lemma BusMap.devices_blk (bus : BusMap config) {boot : DiskBoot} (hvalid : boot.Valid config)
    {reg : ℕ}
    (hreg : reg < blkRegisters) : bus.devices (config.blk.base.toNat + reg) = true := by
  have hregisters := hvalid.registers
  exact bus.blk _ (Nat.le_add_right _ _) (by omega)

namespace Execution

variable (bus : BusMap config) {boot : DiskBoot} (hvalid : boot.Valid config) {m : Model}
  {w : Board Controller}

include hvalid

lemma serve_program {reg : ℕ} (hreg : reg < blkRegisters) (value : UInt32) (w : Board Controller) :
    bus.serve (drive config disk services) w
        (.write (config.blk.base.toNat + reg) (wordBytes value)) =
      (.written, { w with devices := w.devices.program reg value }) := by
  rw [bus.serve_device _ (.write (config.blk.base.toNat + reg) (wordBytes value))
    (bus.devices_blk hvalid hreg) w]
  unfold drive
  dsimp only
  rw [Nat.add_sub_cancel_left, word_wordBytes]

/-- `STATUS` is read. -/
lemma serve_status (w : Board Controller) :
    bus.serve (drive config disk services) w (.read (config.blk.base.toNat + statusReg) 4) =
      (.data (wordBytes ((services (w.devices.started - 1)).statusAt w.devices.polls)),
        { memory :=
            if w.devices.polls = (services (w.devices.started - 1)).pending.length then
              (services (w.devices.started - 1)).transferred disk w.devices.lba w.devices.memAddr
                w.devices.blockCount w.memory
            else w.memory
          devices := { w.devices with polls := w.devices.polls + 1 } }) := by
  rw [bus.serve_device _ (.read (config.blk.base.toNat + statusReg) 4)
    (bus.devices_blk hvalid (by decide)) w]
  exact if_pos ⟨rfl, rfl⟩

/-- A transfer is programmed. -/
lemma Reaches.command (cursor : Cursor) :
    Reaches config (bus.serve (drive config disk services))
      { model := m, op := some (.new (.command cursor)), world := w }
      { model := m, op := some (.new (.poll cursor))
        world :=
          { w with
            devices :=
              { lba := cursor.transfer.1, memAddr := UInt32.ofNat config.staging.base.toNat
                blockCount := cursor.transfer.2, started := w.devices.started + 1,
                polls := 0 } } } := by
  let worlds : ℕ → Board Controller
    | 0 => w
    | 1 => { w with devices := w.devices.program lbaReg cursor.transfer.1 }
    | 2 =>
      { w with
        devices := (w.devices.program lbaReg cursor.transfer.1).program memAddrReg
          (UInt32.ofNat config.staging.base.toNat) }
    | 3 =>
      { w with
        devices := ((w.devices.program lbaReg cursor.transfer.1).program memAddrReg
          (UInt32.ofNat config.staging.base.toNat)).program blockCountReg cursor.transfer.2 }
    | _ =>
      { w with
        devices :=
          { lba := cursor.transfer.1, memAddr := UInt32.ofNat config.staging.base.toNat
            blockCount := cursor.transfer.2, started := w.devices.started + 1, polls := 0 } }
  have hadvance : m.advance config { stage := .command cursor, step := 4, data := [] } =
      .ok { model := m, notes := [], next := some (.new (.poll cursor)) } := rfl
  refine (Through.stage (by decide)
    (fun k => { stage := .command cursor, step := k, data := [] }) worlds
    ?_ (fun k _ => rfl) hadvance).reaches
  intro k hk
  have hreg {reg : ℕ} (hreg : reg ∈ [lbaReg, memAddrReg, blockCountReg, commandReg]) :
      reg < blkRegisters := by
    revert reg
    decide
  match k with
  | 0 =>
    exact .of_write rfl (serve_program disk services bus hvalid (hreg (by simp)) _ w) rfl
      fun _ => rfl
  | 1 =>
    exact .of_write rfl (serve_program disk services bus hvalid (hreg (by simp)) _ (worlds 1)) rfl
      fun _ => rfl
  | 2 =>
    exact .of_write rfl (serve_program disk services bus hvalid (hreg (by simp)) _ (worlds 2)) rfl
      fun _ => rfl
  | 3 =>
    exact .of_write rfl (serve_program disk services bus hvalid (hreg (by simp)) _ (worlds 3)) rfl
      fun _ => rfl

/-- A poll of `STATUS`. -/
lemma Reaches.polled (cursor : Cursor) {s : Service} (hs : services (w.devices.started - 1) = s) :
    Reaches config (bus.serve (drive config disk services))
      { model := m, op := some (.new (.poll cursor)), world := w }
      { model := m
        op := some (.new
          (if s.statusAt w.devices.polls &&& statusDone ≠ 0 then
            .ack cursor (s.statusAt w.devices.polls >>> statusErrorShift).toUInt8
          else .poll cursor))
        world :=
          { memory :=
              if w.devices.polls = s.pending.length then
                s.transferred disk w.devices.lba w.devices.memAddr w.devices.blockCount w.memory
              else w.memory
            devices := { w.devices with polls := w.devices.polls + 1 } } } := by
  have hstatus := serve_status disk services bus hvalid w
  rw [hs] at hstatus
  have haccess : (ProcOp.new (.poll cursor)).access config =
      .ok (some (.read (config.blk.base.toNat + statusReg) 4)) := rfl
  have hdata : ProcOp.answered (.read (config.blk.base.toNat + statusReg) 4)
      (bus.serve (drive config disk services) w (.read (config.blk.base.toNat + statusReg) 4)).1
        [] =
      .ok (wordBytes (s.statusAt w.devices.polls)) := by
    rw [hstatus]
    have hlength := length_wordBytes (s.statusAt w.devices.polls)
    generalize wordBytes (s.statusAt w.devices.polls) = data at hlength
    exact if_neg (not_not.mpr hlength)
  have hstep := Exchanged.of_answered haccess hdata rfl fun hlt => absurd hlt (Nat.lt_irrefl 1)
  rw [hstatus] at hstep
  refine .single ((hstep.next_of_finished rfl rfl).trans ?_)
  show Except.ok
    (Execution.mk m (some (.new (if word (wordBytes _) 0 &&& _ ≠ 0 then _ else _))) _) = _
  rw [word_wordBytes]

/-- `STATUS` is polled until the transfer is done. -/
lemma Reaches.polls (cursor : Cursor) {s : Service} (hs : services (w.devices.started - 1) = s)
    (hpolls : w.devices.polls ≤ s.pending.length) :
    Reaches config (bus.serve (drive config disk services))
      { model := m, op := some (.new (.poll cursor)), world := w }
      { model := m, op := some (.new (.ack cursor s.error))
        world :=
          { memory := s.transferred disk w.devices.lba w.devices.memAddr
              w.devices.blockCount w.memory
            devices := { w.devices with polls := s.pending.length + 1 } } } := by
  obtain ⟨k, hk⟩ := Nat.exists_eq_add_of_le hpolls
  induction k generalizing w with
  | zero =>
    rw [Nat.add_zero] at hk
    have hlast : s.statusAt w.devices.polls = s.status := by
      unfold Service.statusAt
      rw [List.getElem?_eq_none (Nat.le_of_eq hk)]
      rfl
    have hstep := Reaches.polled disk services bus hvalid (m := m) (w := w) cursor hs
    rw [hlast, if_pos s.done, if_pos hk.symm, ← hk] at hstep
    exact hstep
  | succ k ih =>
    obtain ⟨status, hstatus⟩ : ∃ status, s.pending[w.devices.polls]? = some status :=
      ⟨_, List.getElem?_eq_getElem (by omega)⟩
    have hnow : s.statusAt w.devices.polls = status := by
      unfold Service.statusAt
      rw [hstatus]
      rfl
    have hbusy := s.busy status (List.mem_of_getElem? hstatus)
    have hstep := Reaches.polled disk services bus hvalid (m := m) (w := w) cursor hs
    rw [hnow, if_neg (not_not.mpr hbusy), if_neg (by omega)] at hstep
    exact hstep.trans
      (ih (w := { w with devices := { w.devices with polls := w.devices.polls + 1 } }) hs
      (by dsimp only; omega) (by dsimp only; omega))

/-- The end of a transfer is acknowledged. -/
lemma Reaches.acknowledged (cursor : Cursor) (error : UInt8) {d : Decision ProcOp}
    (hacked : m.acked cursor error = .ok d) :
    Reaches config (bus.serve (drive config disk services))
      { model := m, op := some (.new (.ack cursor error)), world := w }
      { model := d.model, op := some d.next, world := w } := by
  have haccess : (ProcOp.new (.ack cursor error)).access config =
      .ok (some (.write (config.blk.base.toNat + ackReg) (wordBytes ackDone))) := rfl
  have hack : bus.serve (drive config disk services) w
      (.write (config.blk.base.toNat + ackReg) (wordBytes ackDone)) = (.written, w) :=
    serve_program disk services bus hvalid (show ackReg < blkRegisters by decide) ackDone w
  have hstep := Exchanged.of_write haccess hack rfl fun _ => rfl
  exact .single (hstep.next_of_finished rfl (bind_eq_ok.mpr ⟨d, hacked, rfl⟩))

/-- A transfer is programmed, polled until it is done, and acknowledged. -/
lemma Reaches.transfer (cursor : Cursor) {s : Service} (hs : services w.devices.started = s)
    {d : Decision ProcOp} (hacked : m.acked cursor s.error = .ok d) :
    Reaches config (bus.serve (drive config disk services))
      { model := m, op := some (.new (.command cursor)), world := w }
      { model := d.model, op := some d.next
        world :=
          { memory := s.transferred disk cursor.transfer.1
              (UInt32.ofNat config.staging.base.toNat) cursor.transfer.2 w.memory
            devices := w.devices.served config cursor s } } := by
  refine (Reaches.command disk services bus hvalid cursor).trans
    ((Reaches.polls disk services bus hvalid cursor ?_ ?_).trans
      (Reaches.acknowledged disk services bus hvalid cursor s.error hacked))
  · exact hs
  · exact Nat.zero_le _

end Execution

end Drive

end SystemScope.Os
