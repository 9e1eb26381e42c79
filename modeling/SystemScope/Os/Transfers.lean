import SystemScope.Os.CreationBounds

/-!
# Where the transfers of a boot go

A transfer writes whole blocks, while the check of the table compares the length of a file with the
size of staging in bytes.  So a transfer stays in staging exactly when the file fits the whole
blocks of it (`ModeledKernel.transfers_in_staging`).
-/

namespace SystemScope.Os

open Elf MemV1

/-- The value that some words leave in a register. -/
def programmed (words : List (ℕ × UInt32)) (reg : ℕ) : UInt32 :=
  ((words.find? fun w => w.1 = reg).map Prod.snd).getD 0

/-- The bytes that the block controller writes to the memory when it is given some words. -/
def transferWindow (words : List (ℕ × UInt32)) : Window :=
  { base := (programmed words memAddrReg).toUInt64
    size := UInt64.ofNat (blockSize * (programmed words blockCountReg).toNat) }

/-- A transfer is in staging and on the disk, and so away from the trap frame and the frame pool. -/
structure TransferInStaging (config : KernelConfig) (disk : DiskBoot) (words : List (ℕ × UInt32)) :
    Prop where
  staging : config.staging.Contains (transferWindow words).base.toNat
    (transferWindow words).size.toNat
  trapFrame : ¬(transferWindow words).Overlaps config.trapFrame.toNat frameBytes
  pool : ¬(transferWindow words).Overlaps config.framePool.base.toNat config.framePool.size.toNat
  disk : (programmed words lbaReg).toNat + (programmed words blockCountReg).toNat ≤
    disk.capacityBlocks.toNat

/-- The file of the entry fits the whole blocks of staging. -/
def Cursor.FitsBlocks (config : KernelConfig) (cursor : Cursor) : Prop :=
  ∀ e ∈ cursor.entry, e.byteLen.toNat ≤ config.staging.size.toNat -
    config.staging.size.toNat % blockSize

instance (config : KernelConfig) (cursor : Cursor) : Decidable (cursor.FitsBlocks config) :=
  inferInstanceAs (Decidable (∀ e ∈ cursor.entry, _))

section Words

variable (config : KernelConfig) (cursor : Cursor)

lemma programmed_memAddr :
    programmed (commandWords config cursor) memAddrReg = UInt32.ofNat config.staging.base.toNat :=
      rfl

lemma programmed_blockCount :
    programmed (commandWords config cursor) blockCountReg = cursor.transfer.2 := rfl

end Words

lemma Window.not_overlaps {w : Window} {addr len : ℕ}
    (h : w.base.toNat + w.size.toNat ≤ addr ∨ addr + len ≤ w.base.toNat) :
      ¬w.Overlaps addr len := by
  rintro ⟨-, -, hlt, hlt'⟩
  unfold saturatingAdd at hlt hlt'
  omega

variable {config : KernelConfig} {disk : DiskBoot} {m : Model} {cursor : Cursor}

lemma transferWindow_range (hvalid : disk.Valid config) (cursor : Cursor) :
    (transferWindow (commandWords config cursor)).base.toNat = config.staging.base.toNat ∧
      (transferWindow (commandWords config cursor)).size.toNat =
        blockSize * cursor.transfer.2.toNat := by
  have hbelow := hvalid.below
  have hblock := hvalid.block
  have hcount := cursor.transfer.2.toNat_lt
  unfold transferWindow
  rw [programmed_memAddr, programmed_blockCount]
  unfold blockSize at *
  constructor
  · rw [UInt32.toNat_toUInt64, UInt32.toNat_ofNat_of_lt' (show _ < 2 ^ 32 by omega)]
  · rw [UInt64.toNat_ofNat_of_lt' (show _ < 2 ^ 64 by omega)]

/-- A window in staging is away from the trap frame and the frame pool. -/
lemma transferInStaging_iff (hvalid : disk.Valid config) :
    TransferInStaging config disk (commandWords config cursor) ↔
      0 < cursor.transfer.2.toNat ∧
        blockSize * cursor.transfer.2.toNat ≤ config.staging.size.toNat ∧
        cursor.transfer.1.toNat + cursor.transfer.2.toNat ≤ disk.capacityBlocks.toNat := by
  obtain ⟨hbase, hsize⟩ := transferWindow_range hvalid cursor
  obtain ⟨hframe, -, hpool⟩ := hvalid.layout.valid.apart
  have haddr : config.frame.base.toNat = config.trapFrame.toNat := UInt32.toNat_toUInt64 _
  have hbytes : config.frame.size.toNat = frameBytes :=
    (by decide : (UInt64.ofNat frameBytes).toNat = frameBytes)
  have hbelow := hvalid.below
  rw [haddr, hbytes] at hframe
  constructor
  · intro h
    obtain ⟨hne, -, -, hle⟩ := h.staging
    rw [hbase, hsize] at hle
    rw [hsize] at hne
    refine ⟨?_, by omega, h.disk⟩
    unfold blockSize at hne
    omega
  · rintro ⟨hpos, hle, hdisk⟩
    unfold blockSize at *
    refine ⟨?_, ?_, ?_, hdisk⟩
    · rw [hbase, hsize]
      unfold Window.Contains
      omega
    · refine Window.not_overlaps ?_
      rw [hbase, hsize]
      omega
    · refine Window.not_overlaps ?_
      rw [hbase, hsize]
      omega

lemma transfer_iff (hvalid : disk.Valid config) (hsource : m.source = .disk disk)
    (hcursor : cursor.Fits config m) :
    TransferInStaging config disk (commandWords config cursor) ↔ cursor.FitsBlocks config := by
  rw [transferInStaging_iff hvalid]
  unfold Cursor.FitsBlocks Cursor.transfer
  cases hentry : cursor.entry with
  | none =>
    have hblock := hvalid.block
    have hcapacity : disk.capacityBlocks.toNat ≠ 0 :=
      fun hzero => hvalid.capacity (UInt32.toNat_inj.mp hzero)
    constructor
    · exact fun _ e he => nomatch he
    · intro _
      have hone : (1 : UInt32).toNat = 1 := rfl
      have hzero : (0 : UInt32).toNat = 0 := rfl
      dsimp only
      rw [hone, hzero]
      omega
  | some e =>
    have hfits := hcursor.entry_fits hsource hentry
    have hdisk := hfits.disk
    have hne : e.byteLen.toNat ≠ 0 := fun hzero => hfits.nonempty (UInt32.toNat_inj.mp hzero)
    obtain ⟨hcover, hspare⟩ := e.blocks_range
    unfold ExecEntry.endLba at hdisk
    unfold blockSize at *
    dsimp only
    constructor
    · rintro ⟨-, hle, -⟩ e' he'
      cases he'
      omega
    · intro hall
      have hle := hall e rfl
      refine ⟨by omega, by omega, hdisk⟩

/-- In every state that a kernel reaches, a transfer that it programs stays in staging and on the
disk exactly when the file fits the whole blocks of staging. -/
theorem ModeledKernel.transfers_in_staging [SnapshotData] {c c₀ : ModeledKernel config}
    (h₀ : c₀.Validated) (h : Component.Evolves c₀ c) (hm : c.model = some m) {o : ProcOp}
    (ho : c.work = some (.proc o)) (hstage : o.stage = .command cursor) :
    ∃ disk, m.source = .disk disk ∧
      o.access config = .ok ((commandWords config cursor)[o.step]?.map fun w =>
        .write (config.blk.base.toNat + w.1) (wordBytes w.2)) ∧
      (TransferInStaging config disk (commandWords config cursor) ↔ cursor.FitsBlocks config) := by
  obtain ⟨hfits, hvalid⟩ := h₀.fits h hm ho
  have hfits := hfits.stage
  rw [hstage] at hfits
  obtain ⟨⟨disk, hsource⟩, hcursor, -⟩ := hfits
  rw [hsource] at hvalid
  refine ⟨disk, hsource, ?_, transfer_iff hvalid hsource hcursor⟩
  unfold ProcOp.access
  rw [hstage]

/-! ## A file that does not fit -/

namespace ModeledKernel

/-- The kernel after a delivery, everything that it asks for being granted. -/
def deliver (c : ModeledKernel config) (delivery : Delivered) : ModeledKernel config :=
  ((c.handleEvent delivery).perform
    { component := 0, now := 0, phase := .complete, rng := fun _ => 0 }).2.2

/-- The response of a memory. -/
def answerOf (mem : ByteMap) (txn : TxnId) : Access → MemV1.MemMsg
  | .read addr len => .readResp txn (.data (mem.read addr len))
  | .write .. => .writeResp txn .done

/-- The kernel after one more access, which a memory answers that does not change. -/
def turn (mem : ByteMap) (c : ModeledKernel config) : ModeledKernel config :=
  let c := c.deliver (.wake issueToken)
  match c.state with
  | .wait work txn =>
    match work.access config with
    | .ok (some a) => c.deliver (.message memPort (.memV1 (answerOf mem txn a)))
    | _ => c
  | _ => c

variable [SnapshotData] {c c₀ : ModeledKernel config}

lemma evolves_deliver (h : Component.Evolves c₀ c) (delivery : Delivered) :
    Component.Evolves c₀ (c.deliver delivery) :=
  .event h delivery (Handler.ends_of_perform _ _)

lemma evolves_turn (h : Component.Evolves c₀ c) (mem : ByteMap) :
    Component.Evolves c₀ (c.turn mem) := by
  have hwake := evolves_deliver h (.wake issueToken)
  unfold turn
  dsimp only
  split
  · split
    · exact evolves_deliver hwake _
    · exact hwake
  · exact hwake

lemma evolves_turns (h : Component.Evolves c₀ c) (mem : ByteMap) (n : ℕ) :
    Component.Evolves c₀ ((turn mem)^[n] c) := by
  induction n generalizing c with
  | zero => exact h
  | succ n ih => exact ih (evolves_turn h mem)

end ModeledKernel

/-- A small configuration whose staging is no whole number of blocks. -/
def oddConfig : KernelConfig :=
  { smallConfig 0x80000000 with staging := { base := 0x80100000, size := 1000 } }

/-- A disk of eight blocks. -/
def smallDisk : DiskBoot := { layout := smallLayout, capacityBlocks := 8 }

/-- A kernel that awaits the boot from the disk. -/
def diskKernel : ModeledKernel oddConfig := .withSource _ (.disk smallDisk)

lemma diskKernel_validated : diskKernel.Validated := by
  refine .disk smallDisk ?_
  have hvalid : smallDisk.validate oddConfig = .ok () := by decide +kernel
  unfold ModeledKernel.withDisk
  rw [hvalid]
  rfl

/-- The kernel at the transfer of block 0. -/
def diskBooting : ModeledKernel oddConfig := diskKernel.deliver smallEnter

open Canonical in
theorem transfers_in_staging_first :
    TransferInStaging oddConfig smallDisk (commandWords oddConfig .first) := by
  have hevolves : Component.Evolves diskKernel diskBooting :=
    ModeledKernel.evolves_deliver .refl smallEnter
  have hwork : diskBooting.work = some (.proc (.new (.command .first))) := by decide +kernel
  have hmodel : diskBooting.model.map Model.source = some (.disk smallDisk) := by decide +kernel
  obtain ⟨m, hm, hsource⟩ := Option.map_eq_some_iff.mp hmodel
  obtain ⟨disk, hdisk, -, hiff⟩ :=
    ModeledKernel.transfers_in_staging diskKernel_validated hevolves hm hwork rfl
  rw [hsource] at hdisk
  cases hdisk
  exact hiff.mpr (by decide)

/-- The bytes that are not 0 of a memory with a status of `DONE` in the block controller, and with a
block 0 in staging that lists one executable of 1000 bytes. -/
def oddBytes : List (ℕ × UInt8) :=
  [(0x20001004, 2), (0x80100000, 0x53), (0x80100001, 0x53), (0x80100002, 0x58), (0x80100003, 0x30),
    (0x80100008, 1), (0x80100010, 1), (0x80100014, 0xE8), (0x80100015, 3)]

def oddMemory : ByteMap := fun addr => (oddBytes.lookup addr).getD 0

/-- The kernel at the transfer of the executable. -/
def diskLoading : ModeledKernel oddConfig :=
  (ModeledKernel.turn oddMemory)^[38] diskBooting

/-- The cursor at the only entry of the table. -/
def oddCursor : Cursor :=
  { table := some { entries := [{ startLba := 1, byteLen := 1000 }] }, index := 0 }

open Canonical in
/-- The table is accepted, and the transfer of the executable goes past the end of staging. -/
theorem transfer_leaves_staging :
    diskKernel.Validated ∧ Component.Evolves diskKernel diskLoading ∧
      diskLoading.work = some (.proc (.new (.command oddCursor))) ∧
      diskLoading.model.map Model.source = some (.disk smallDisk) ∧
      ¬TransferInStaging oddConfig smallDisk (commandWords oddConfig oddCursor) := by
  have hevolves : Component.Evolves diskKernel diskLoading :=
    ModeledKernel.evolves_turns (ModeledKernel.evolves_deliver .refl smallEnter) oddMemory 38
  have hstate : diskLoading.work = some (.proc (.new (.command oddCursor))) ∧
      diskLoading.model.map Model.source = some (.disk smallDisk) := by decide +kernel
  have hvalid : smallDisk.validate oddConfig = .ok () := by decide +kernel
  refine ⟨diskKernel_validated, hevolves, hstate.1, hstate.2, ?_⟩
  rw [transferInStaging_iff (DiskBoot.valid_of_validate hvalid)]
  decide

end SystemScope.Os
