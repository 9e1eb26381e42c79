import SystemScope.Platform.DmaInvariant

/-!
# The DMA aperture is never left

Every handler keeps `Sound` whatever its calls are answered (`handleEvent_always`).  There is one
rule for each function of the controller, applied along its continuations, and the rules say at the
same time what the handler may ask for (`SafeCall`) and which faults it cannot end in
(`EngineFault`).
-/

namespace SystemScope.Platform

open MemV1

/-- A beat inside the aperture. -/
structure SafeBeat (config : DmaBlockControllerConfig) (msg : MemV1.MemMsg) (first : ℕ) :
    Prop where
  spans : msg.Spans first 16
  aligned : first % 16 = 0
  base : config.dmaBase.toNat ≤ first
  stop : first + 16 ≤ config.dmaBase.toNat + config.dmaSize.toNat
  limit : first + 16 ≤ 2 ^ 32

/-- The block of a request lies below the capacity. -/
def SafeBlock (config : DmaBlockControllerConfig) : BlockMsg → Prop
  | .readBlock _ lba | .writeBlock _ lba _ => lba < config.capacityBlocks
  | .readResult .. | .writeResult .. => False

/-- What is sent on `dma` is a beat inside the aperture, and on `blk` a request below the
capacity. -/
def SafeCall (config : DmaBlockControllerConfig) : Call → Prop
  | .sent port msg _ _ =>
    (port = DmaBlockController.dmaPort →
      ∃ beat first, msg = .memV1 beat ∧ SafeBeat config beat first) ∧
    (port = DmaBlockController.blkPort → ∃ request, msg = .block request ∧ SafeBlock config request)
  | .woke .. | .traced .. => True

namespace DmaBlockController

/-- The faults that the engine's own state would have to cause. -/
def EngineFault (e : SimError) : Prop :=
  e = .componentFault indexOverflow ∨ e = .componentFault nothingToIssue ∨
    e = .componentFault sliceOutOfBounds

instance (e : SimError) : Decidable (EngineFault e) := by
  unfold EngineFault
  infer_instance

variable {config : DmaBlockControllerConfig} {c : DmaBlockController config}
  {E : SimError → Prop} {k : DmaBlockController config → Handler (DmaBlockController config)}

/-- The end of a handler: the invariant, and no fault of the engine but those of the context. -/
def Keeps (E : SimError → Prop) (result : Except SimError Unit) (c : DmaBlockController config) :
    Prop := c.Sound ∧ ∀ e, result = .error e → EngineFault e → E e

/-! ## Rules -/

lemma finish_always (h : c.Sound) : c.finish.Always E (SafeCall config) (Keeps E) :=
  ⟨h, fun _ herror => nomatch herror⟩

lemma error_keeps (h : c.Sound) {e : SimError} (he : E e) : Keeps E (.error e) c := by
  refine ⟨h, fun e' herror _ => ?_⟩
  rw [← Except.error.inj herror]
  exact he

lemma reject_always (h : c.Sound) {what : String} (hwhat : ¬EngineFault (.componentFault what)) :
    (c.reject what).Always E (SafeCall config) (Keeps E) := by
  refine ⟨h, fun e herror he => absurd ?_ hwhat⟩
  rw [Except.error.inj herror]
  exact he

lemma updateIrq_always (h : c.Consistent)
    (hk : (k c.leveled).Always E (SafeCall config) (Keeps E)) :
    (c.updateIrq k).Always E (SafeCall config) (Keeps E) := by
  unfold updateIrq
  by_cases hlevel : c.level = c.irqLevel
  · have hsame : c.leveled = c := by
      unfold leveled
      rw [hlevel]
    rw [if_pos hlevel, ← hsame]
    exact hk
  · rw [if_neg hlevel]
    refine ⟨⟨?_, ?_⟩, hk, fun e he => error_keeps h.leveled he⟩
    · intro hport
      exact absurd hport (by decide)
    · intro hport
      exact absurd hport (by decide)

lemma wakeNextCycle_always (h : c.Sound)
    (hk : (k c).Always E (SafeCall config) (Keeps E)) :
    (c.wakeNextCycle k).Always E (SafeCall config) (Keeps E) :=
  ⟨trivial, hk, fun _ he => error_keeps h he⟩

/-- What ending a command leaves behind. -/
def completed (c : DmaBlockController config) (code : UInt8) : DmaBlockController config :=
  leveled { c with busy := false, done := true, error := code, latched := none, engine := .idle,
                   block := 0, beat := 0, buffer := [] }

lemma complete_always {code : UInt8} (h : c.irqEnable &&& ~~~1 = 0) (hcode : code ≤ mediaError)
    (hk : (c.completed code).Sound →
      (k (c.completed code)).Always E (SafeCall config) (Keeps E)) :
    (c.complete code k).Always E (SafeCall config) (Keeps E) := by
  have hended : Consistent ({ c with
      busy := false, done := true, error := code, latched := none, engine := .idle, block := 0,
      beat := 0, buffer := [] } : DmaBlockController config) :=
    { irqEnable := h
      notBoth := by simp
      error := by simpa using hcode
      latched := rfl
      covers := by simp
      position := by simp [PositionOk] }
  exact ⟨trivial, updateIrq_always hended (hk hended.leveled)⟩

/-! ## The engine -/

lemma nextTxn_eq_some {counter next : TxnId} :
    nextTxn counter = some next ↔ next.toNat = counter.toNat + 1 := checkedAdd_eq_some

lemma latest_of_nextTxn {counter next : TxnId} (h : nextTxn counter = some next) :
    Latest next counter := by
  rw [nextTxn_eq_some] at h
  refine ⟨?_, ?_⟩
  · rintro rfl
    exact absurd h (Nat.succ_ne_zero _).symm
  · have hone : (1 : UInt64) ≤ next := by
      rw [UInt64.le_iff_toNat_le, h]
      exact Nat.le_add_left _ _
    rw [← UInt64.toNat_inj, UInt64.toNat_sub_of_le _ _ hone, h]
    exact Nat.add_sub_cancel _ _

lemma exists_blockLba (c : DmaBlockController config) (l : Latched) :
    ∃ lba, c.blockLba l = some lba ∧ lba.toNat = l.lba.toNat + c.block.toNat := by
  have hlba := l.lba.toNat_lt
  have hblock := c.block.toNat_lt
  obtain ⟨lba, hsome, hlbaNat⟩ := checkedAdd_of_lt (a := l.lba.toUInt64) (b := c.block.toUInt64)
    (by rw [UInt32.toNat_toUInt64, UInt32.toNat_toUInt64]; omega)
  rw [UInt32.toNat_toUInt64, UInt32.toNat_toUInt64] at hlbaNat
  exact ⟨lba, hsome, hlbaNat⟩

lemma exists_beatAddr (c : DmaBlockController config) (l : Latched) :
    ∃ addr, c.beatAddr l = some addr ∧
      addr.toNat = l.addr.toNat + (512 * c.block.toNat + 16 * c.beat.toNat) := by
  have haddr := l.addr.toNat_lt
  have hblock := c.block.toNat_lt
  have hbeat := c.beat.toNat_lt
  have hoffset : (c.beat.toUInt64 * 16).toNat = 16 * c.beat.toNat := by
    rw [UInt64.toNat_mul, UInt8.toNat_toUInt64]
    exact (Nat.mod_eq_of_lt (by simp; omega)).trans (Nat.mul_comm _ _)
  obtain ⟨start, hstart, hstartNat⟩ := checkedMul_of_lt (a := c.block.toUInt64) (b := 512)
    (by simp; omega)
  simp only [UInt32.toNat_toUInt64, UInt64.reduceToNat] at hstartNat
  obtain ⟨delta, hdelta, hdeltaNat⟩ := checkedAdd_of_lt (a := start) (b := c.beat.toUInt64 * 16)
    (by rw [hstartNat, hoffset]; omega)
  obtain ⟨addr, hsome, haddrNat⟩ := checkedAdd_of_lt (a := l.addr.toUInt64) (b := delta)
    (by rw [UInt32.toNat_toUInt64, hdeltaNat, hstartNat, hoffset]; omega)
  refine ⟨addr, ?_, ?_⟩
  · rw [beatAddr, hstart, Option.bind_some, hdelta, Option.bind_some, hsome]
  · rw [haddrNat, UInt32.toNat_toUInt64, hdeltaNat, hstartNat, hoffset]
    omega

/-- The beat at the engine's position is inside the aperture. -/
lemma safeBeat (haccepted : config.Accepted) {l : Latched} (hcovers : config.Covers l)
    (hblock : c.block < l.count) (hbeat : c.beat < beatsPerBlock) {msg : MemV1.MemMsg}
    {addr : UInt64} (haddr : c.beatAddr l = some addr) (hspans : msg.Spans addr.toNat 16) :
    SafeBeat config msg addr.toNat := by
  have haligned := hcovers.aligned
  have hbase := hcovers.base
  have hstop := hcovers.stop
  have hlimit := haccepted.aperture_le
  obtain ⟨addr', haddr', haddrNat⟩ := c.exists_beatAddr l
  obtain rfl := Option.some.inj (haddr'.symm.trans haddr)
  rw [UInt32.lt_iff_toNat_lt] at hblock
  rw [UInt8.lt_iff_toNat_lt] at hbeat
  have hbeat' : c.beat.toNat < 32 := hbeat
  exact
    { spans := hspans
      aligned := by omega
      base := by omega
      stop := by omega
      limit := by omega }

/-- The block at the engine's position is below the capacity. -/
lemma safeBlock {l : Latched} (hcovers : config.Covers l) (hblock : c.block < l.count)
    {lba : UInt64} (hlba : c.blockLba l = some lba) : lba < config.capacityBlocks := by
  have hblocks := hcovers.blocks
  obtain ⟨lba', hlba', hlbaNat⟩ := c.exists_blockLba l
  obtain rfl := Option.some.inj (hlba'.symm.trans hlba)
  rw [UInt32.lt_iff_toNat_lt] at hblock
  rw [UInt64.lt_iff_toNat_lt]
  omega

lemma sendBlock_always (h : c.Sound) {msg : BlockMsg} (hsafe : SafeBlock config msg)
    (hk : ∀ next, Latest next c.blkTxn →
      (k { c with blkTxn := next, engine := .waitMedia c.blkTxn }).Always E (SafeCall config)
        (Keeps E)) :
    (c.sendBlock msg k).Always E (SafeCall config) (Keeps E) := by
  unfold sendBlock
  cases hnext : nextTxn c.blkTxn with
  | none => exact reject_always h (by decide)
  | some next =>
    refine ⟨⟨?_, ?_⟩, hk next (latest_of_nextTxn hnext), fun _ he => error_keeps h he⟩
    · intro hport
      exact absurd hport (by decide)
    · intro _
      exact ⟨msg, rfl, hsafe⟩

lemma sendBeat_always (h : c.Sound) {msg : MemV1.MemMsg} {first : ℕ}
    (hsafe : SafeBeat config msg first)
    (hk : ∀ next, Latest next c.dmaTxn →
      ({ c with dmaTxn := next, engine := .waitBeat c.dmaTxn } :
        DmaBlockController config).Sound) :
    (c.sendBeat msg).Always E (SafeCall config) (Keeps E) := by
  unfold sendBeat
  cases hnext : nextTxn c.dmaTxn with
  | none => exact reject_always h (by decide)
  | some next =>
    refine ⟨⟨?_, ?_⟩, finish_always (hk next (latest_of_nextTxn hnext)),
      fun _ he => error_keeps h he⟩
    · intro _
      exact ⟨msg, first, rfl, hsafe⟩
    · intro hport
      exact absurd hport (by decide)

section

variable (haccepted : config.Accepted) {l : Latched} (hlatched : c.latched = some l)

include hlatched

lemma issueReadBlock_always (h : c.Sound) (hop : l.op = .read) (hengine : c.engine = .issue)
    (hbuffer : c.buffer = []) :
    (c.issueReadBlock l).Always E (SafeCall config) (Keeps E) := by
  obtain ⟨hblock, hbeat, hposition⟩ := h.read hlatched hop
  rw [hengine] at hposition
  have hbeatZero : c.beat = 0 := by
    rcases hposition with hfull | hempty
    · rw [hbuffer] at hfull
      exact absurd hfull (by decide)
    · exact hempty.2
  obtain ⟨lba, hlba, -⟩ := c.exists_blockLba l
  unfold issueReadBlock
  rw [hlba]
  refine sendBlock_always h (safeBlock (h.covers l hlatched) hblock hlba) fun next hnext => ?_
  refine finish_always (h.move hlatched ?_)
  obtain ⟨op, _, _, count⟩ := l
  obtain rfl := hop
  exact ⟨hblock, hbeat, hbuffer, hbeatZero, hnext⟩

lemma issueWriteBlock_always (h : c.Sound) (hop : l.op = .write)
    (hbeat : c.beat = beatsPerBlock) :
    (c.issueWriteBlock l).Always E (SafeCall config) (Keeps E) := by
  obtain ⟨hblock, -, -⟩ := h.write hlatched hop
  obtain ⟨lba, hlba, -⟩ := c.exists_blockLba l
  unfold issueWriteBlock
  rw [hlba]
  refine sendBlock_always h (safeBlock (h.covers l hlatched) hblock hlba) fun next hnext => ?_
  refine finish_always (h.move hlatched ?_)
  obtain ⟨op, _, _, count⟩ := l
  obtain rfl := hop
  exact ⟨hblock, hbeat ▸ UInt8.le_refl _, hbeat, rfl, hnext⟩

include haccepted

lemma issueWriteBeat_always (h : c.Sound) (hop : l.op = .read) (hengine : c.engine = .issue)
    (hbuffer : c.buffer ≠ []) :
    (c.issueWriteBeat l).Always E (SafeCall config) (Keeps E) := by
  obtain ⟨hblock, hbeat, hposition⟩ := h.read hlatched hop
  rw [hengine] at hposition
  have hfull : c.buffer.length = blockSize := by
    rcases hposition with hfull | hempty
    · exact hfull
    · exact absurd hempty.1 hbuffer
  have hbeatNat : c.beat.toNat < 32 := UInt8.lt_iff_toNat_lt.mp hbeat
  have hslice : c.beat.toNat * beatSize + beatSize ≤ c.buffer.length := by
    rw [hfull, beatSize, blockSize]
    omega
  obtain ⟨addr, haddr, -⟩ := c.exists_beatAddr l
  unfold issueWriteBeat
  rw [haddr]
  dsimp only
  rw [if_pos hslice]
  have hspans : (MemV1.MemMsg.writeReq c.dmaTxn addr
      ((c.buffer.drop (c.beat.toNat * beatSize)).take beatSize)).Spans addr.toNat 16 := by
    refine ⟨rfl, ?_⟩
    rw [List.length_take, List.length_drop, beatSize]
    rw [beatSize] at hslice
    omega
  refine sendBeat_always h (safeBeat haccepted (h.covers l hlatched) hblock hbeat haddr hspans)
    fun next hnext => h.move hlatched ?_
  obtain ⟨op, _, _, count⟩ := l
  obtain rfl := hop
  exact ⟨hblock, hbeat, hfull, hnext⟩

lemma issueReadBeat_always (h : c.Sound) (hop : l.op = .write) (hengine : c.engine = .issue)
    (hbeat : c.beat ≠ beatsPerBlock) :
    (c.issueReadBeat l).Always E (SafeCall config) (Keeps E) := by
  obtain ⟨hblock, hle, hposition⟩ := h.write hlatched hop
  rw [hengine] at hposition
  have hlt : c.beat < beatsPerBlock := UInt8.lt_of_le_of_ne hle hbeat
  obtain ⟨addr, haddr, -⟩ := c.exists_beatAddr l
  unfold issueReadBeat
  rw [haddr]
  refine sendBeat_always h
    (safeBeat haccepted (h.covers l hlatched) hblock hlt haddr ⟨rfl, rfl⟩)
    fun next hnext => h.move hlatched ?_
  obtain ⟨op, _, _, count⟩ := l
  obtain rfl := hop
  exact ⟨hblock, hle, hlt, hposition, hnext⟩

end

/-- A wake outside ISSUE. -/
lemma issue_of_ne (hengine : c.engine ≠ .issue) : c.issue = c.reject nothingToIssue := by
  unfold issue
  split
  next hissue _ => exact absurd hissue hengine
  · rfl

lemma issue_always (haccepted : config.Accepted) (h : c.Sound)
    (hwake : c.engine = .issue ∨ E (.componentFault nothingToIssue)) :
    c.issue.Always E (SafeCall config) (Keeps E) := by
  by_cases hengine : c.engine = .issue
  · obtain ⟨l, hlatched⟩ := h.exists_latched (by rw [hengine]; exact Engine.noConfusion)
    simp only [issue, hengine, hlatched]
    cases hop : l.op with
    | read =>
      dsimp only
      by_cases hbuffer : c.buffer = []
      · rw [if_pos hbuffer]
        exact issueReadBlock_always hlatched h hop hengine hbuffer
      · rw [if_neg hbuffer]
        exact issueWriteBeat_always haccepted hlatched h hop hengine hbuffer
    | write =>
      dsimp only
      by_cases hbeat : c.beat = beatsPerBlock
      · rw [if_pos hbeat]
        exact issueWriteBlock_always hlatched h hop hbeat
      · rw [if_neg hbeat]
        exact issueReadBeat_always haccepted hlatched h hop hengine hbeat
  · rw [issue_of_ne hengine]
    exact error_keeps h (hwake.resolve_left hengine)

/-! ## Results -/

lemma checkResult_always (h : c.Sound) {txn expected : TxnId}
    {next : Handler (DmaBlockController config)}
    (hnext : next.Always E (SafeCall config) (Keeps E)) :
    (c.checkResult txn expected next).Always E (SafeCall config) (Keeps E) := by
  unfold checkResult
  by_cases htxn : txn ≠ expected
  · rw [if_pos htxn]
    exact reject_always h (by decide)
  · rw [if_neg htxn]
    intro p
    beta_reduce
    by_cases hphase : p ≠ .complete
    · rw [if_pos hphase]
      exact reject_always h (by decide)
    · rw [if_neg hphase]
      exact hnext

lemma positionOk_start {l : Latched} {block : UInt32} {dmaTxn blkTxn : TxnId}
    (hblock : block < l.count) : PositionOk (some l) .issue block 0 [] dmaTxn blkTxn := by
  obtain ⟨op, lba, addr, count⟩ := l
  cases op with
  | read => exact ⟨hblock, by decide, .inr ⟨rfl, rfl⟩⟩
  | write => exact ⟨hblock, by decide, rfl⟩

lemma succ_lt_count {block count : UInt32} (hlt : block < count) :
    block.toNat + 1 < 2 ^ 32 ∧ (block + 1).toNat = block.toNat + 1 ∧
      (block + 1 ≠ count → block + 1 < count) := by
  have hcount := count.toNat_lt
  rw [UInt32.lt_iff_toNat_lt] at hlt
  have hsucc : (block + 1).toNat = block.toNat + 1 := by
    rw [UInt32.toNat_add]
    exact Nat.mod_eq_of_lt (by simp; omega)
  refine ⟨by omega, hsucc, fun hne => ?_⟩
  rw [UInt32.lt_iff_toNat_lt, hsucc]
  rw [ne_eq, ← UInt32.toNat_inj, hsucc] at hne
  omega

lemma nextBlock_always (h : c.Sound) {l : Latched} (hlatched : c.latched = some l)
    (hblock : c.block < l.count) (beat : UInt8) :
    (({ c with beat } : DmaBlockController config).nextBlock l).Always E (SafeCall config)
      (Keeps E) := by
  obtain ⟨hfits, hsucc, hnext⟩ := succ_lt_count hblock
  unfold nextBlock
  rw [if_pos hfits]
  dsimp only
  by_cases hlast : c.block + 1 = l.count
  · rw [if_pos hlast]
    exact complete_always h.irqEnable (by decide) finish_always
  · rw [if_neg hlast]
    have hposition : PositionOk (some l) .issue (c.block + 1) 0 [] c.dmaTxn c.blkTxn :=
      positionOk_start (hnext hlast)
    have hstart := h.move hlatched hposition
    exact wakeNextCycle_always hstart (finish_always hstart)

lemma mediaResult_always (h : c.Sound) (msg : BlockMsg) :
    (c.mediaResult msg).Always E (SafeCall config) (Keeps E) := by
  unfold mediaResult
  split
  next expected l hengine hlatched =>
    split
    next txn outcome hop =>
      obtain ⟨hblock, hbeat, hposition⟩ := h.read hlatched hop
      rw [hengine] at hposition
      refine checkResult_always h ?_
      cases outcome with
      | data data =>
        dsimp only
        by_cases hlength : data.length ≠ blockSize
        · rw [if_pos hlength]
          exact reject_always h (by decide)
        · rw [if_neg hlength]
          have hheld : ({ c with buffer := data, engine := .issue } :
              DmaBlockController config).Sound := by
            refine h.move hlatched ?_
            obtain ⟨op, _, _, count⟩ := l
            obtain rfl := hop
            exact ⟨hblock, hbeat, .inl (not_not.mp hlength)⟩
          exact wakeNextCycle_always hheld (finish_always hheld)
      | error _ => exact complete_always h.irqEnable (by decide) finish_always
    next txn outcome hop =>
      refine checkResult_always h ?_
      cases outcome with
      | done => exact nextBlock_always h hlatched (h.write hlatched hop).1 c.beat
      | error _ => exact complete_always h.irqEnable (by decide) finish_always
    · exact reject_always h (by decide)
  · exact reject_always h (by decide)

lemma beat_succ {beat : UInt8} (hlt : beat < beatsPerBlock) :
    (beat + 1).toNat = beat.toNat + 1 ∧ beat + 1 ≤ beatsPerBlock ∧
      (beat + 1 ≠ beatsPerBlock → beat + 1 < beatsPerBlock) := by
  have hlt' : beat.toNat < 32 := UInt8.lt_iff_toNat_lt.mp hlt
  have hsucc : (beat + 1).toNat = beat.toNat + 1 := by
    rw [UInt8.toNat_add]
    exact Nat.mod_eq_of_lt (by simp; omega)
  have hle : beat + 1 ≤ beatsPerBlock := by
    rw [UInt8.le_iff_toNat_le, hsucc]
    exact hlt'
  exact ⟨hsucc, hle, UInt8.lt_of_le_of_ne hle⟩

lemma beatResult_always (h : c.Sound) (msg : MemV1.MemMsg) :
    (c.beatResult msg).Always E (SafeCall config) (Keeps E) := by
  unfold beatResult
  split
  next expected l hengine hlatched =>
    split
    next txn outcome hop =>
      obtain ⟨hblock, hbeat, hposition⟩ := h.read hlatched hop
      rw [hengine] at hposition
      refine checkResult_always h ?_
      cases outcome with
      | fault _ => exact complete_always h.irqEnable (by decide) finish_always
      | done =>
        dsimp only
        by_cases hlast : c.beat + 1 = beatsPerBlock
        · rw [if_pos hlast]
          exact nextBlock_always h hlatched hblock _
        · rw [if_neg hlast]
          have hheld : ({ c with beat := c.beat + 1, engine := .issue } :
              DmaBlockController config).Sound := by
            refine h.move hlatched ?_
            obtain ⟨op, _, _, count⟩ := l
            obtain rfl := hop
            exact ⟨hblock, (beat_succ hbeat).2.2 hlast, .inl hposition.1⟩
          exact wakeNextCycle_always hheld (finish_always hheld)
    next txn outcome hop =>
      obtain ⟨hblock, hle, hposition⟩ := h.write hlatched hop
      rw [hengine] at hposition
      obtain ⟨hbeat, hread, -⟩ := hposition
      refine checkResult_always h ?_
      cases outcome with
      | fault _ => exact complete_always h.irqEnable (by decide) finish_always
      | data data =>
        dsimp only
        by_cases hlength : data.length ≠ beatSize
        · rw [if_pos hlength]
          exact reject_always h (by decide)
        · rw [if_neg hlength]
          obtain ⟨hsucc, hnextLe, -⟩ := beat_succ hbeat
          have hheld :
            ({ c with buffer := c.buffer ++ data, beat := c.beat + 1, engine := .issue } :
              DmaBlockController config).Sound := by
            refine h.move hlatched ?_
            obtain ⟨op, _, _, count⟩ := l
            obtain rfl := hop
            refine ⟨hblock, hnextLe, ?_⟩
            show (c.buffer ++ data).length = (c.beat + 1).toNat * beatSize
            rw [List.length_append, hread, not_not.mp hlength, hsucc, Nat.succ_mul]
          exact wakeNextCycle_always hheld (finish_always hheld)
    · exact reject_always h (by decide)
  · exact reject_always h (by decide)

/-! ## The window -/

lemma command_always (haccepted : config.Accepted) (h : c.Sound) (value : UInt32)
    (hk : ∀ c' : DmaBlockController config, c'.Sound →
      (k c').Always E (SafeCall config) (Keeps E)) :
    (c.command value k).Always E (SafeCall config) (Keeps E) := by
  unfold command
  by_cases hended : (c.busy || c.done) = true
  · rw [if_pos hended]
    exact ⟨trivial, hk _ { h with }⟩
  · rw [if_neg hended]
    simp only [Bool.or_eq_true, not_or, Bool.not_eq_true] at hended
    obtain ⟨hlatched, hengine, hblock, hbeat, hbuffer⟩ := h.idle hended.1
    refine ⟨trivial, ?_⟩
    cases hvalid : config.validate value c.lba c.memAddr c.blockCount with
    | ok op =>
      obtain ⟨-, hcovers⟩ := (DmaBlockControllerConfig.validate_eq_ok haccepted).mp hvalid
      have hcount : (0 : UInt32) < c.blockCount := by
        rw [UInt32.lt_iff_toNat_lt]
        exact hcovers.count_pos
      have hstarted : ({ c with
          busy := true,
          latched := some { op, lba := c.lba, addr := c.memAddr, count := c.blockCount },
          engine := .issue } : DmaBlockController config).Sound :=
        { irqEnable := h.irqEnable
          notBoth := by simp [hended.2]
          error := h.error
          latched := rfl
          covers := by
            intro l hl
            obtain rfl := Option.some.inj hl
            exact hcovers
          position := by
            show PositionOk _ _ c.block c.beat c.buffer _ _
            rw [hblock, hbeat, hbuffer]
            exact positionOk_start hcount
          level := h.level }
      exact wakeNextCycle_always hstarted (hk _ hstarted)
    | error code =>
      exact complete_always h.irqEnable (DmaBlockControllerConfig.error_le hvalid) (hk _)

lemma writeRegister_always (haccepted : config.Accepted) (h : c.Sound) (offset : UInt64)
    (value : UInt32) {k : Bool → DmaBlockController config → Handler (DmaBlockController config)}
    (hk : ∀ written, ∀ c' : DmaBlockController config, c'.Sound →
      (k written c').Always E (SafeCall config) (Keeps E)) :
    (c.writeRegister offset value k).Always E (SafeCall config) (Keeps E) := by
  unfold writeRegister
  by_cases hcommand : offset = commandReg
  · rw [if_pos hcommand]
    exact command_always haccepted h value (hk true)
  rw [if_neg hcommand]
  by_cases hstatus : offset = statusReg
  · rw [if_pos hstatus]
    refine hk true _ ?_
    split
    · exact { h with }
    · exact h
  rw [if_neg hstatus]
  by_cases hlba : offset = lbaReg
  · rw [if_pos hlba]
    exact hk true _ { h with }
  rw [if_neg hlba]
  by_cases haddr : offset = memAddrReg
  · rw [if_pos haddr]
    exact hk true _ { h with }
  rw [if_neg haddr]
  by_cases hcount : offset = blockCountReg
  · rw [if_pos hcount]
    exact hk true _ { h with }
  rw [if_neg hcount]
  by_cases hirq : offset = irqEnableReg
  · rw [if_pos hirq]
    have hwritten : ({ c with irqEnable := value &&& 1 } : DmaBlockController config).Consistent :=
      { h with
        irqEnable := by
          show value &&& 1 &&& ~~~1 = 0
          rw [UInt32.and_assoc]
          exact UInt32.and_zero }
    exact updateIrq_always hwritten (hk true _ hwritten.leveled)
  rw [if_neg hirq]
  by_cases hack : offset = ackReg
  · rw [if_pos hack]
    by_cases hdone : value &&& 1 ≠ 0 ∧ c.done
    · rw [if_pos hdone]
      have hacked : ({ c with done := false, error := 0 } : DmaBlockController config).Consistent :=
        { h with
          notBoth := by simp
          error := rfl }
      exact updateIrq_always hacked (hk true _ hacked.leveled)
    · rw [if_neg hdone]
      exact hk true _ h
  rw [if_neg hack]
  exact hk false _ h

lemma respond_always (h : c.Sound) (resp : MemV1.MemMsg) :
    (c.respond resp).Always E (SafeCall config) (Keeps E) := by
  refine ⟨⟨?_, ?_⟩, finish_always h, fun _ he => error_keeps h he⟩
  · intro hport
    exact absurd hport (by decide)
  · intro hport
    exact absurd hport (by decide)

lemma serve_always (haccepted : config.Accepted) (h : c.Sound) (word : Option UInt64)
    (msg : MemV1.MemMsg) : (c.serve word msg).Always E (SafeCall config) (Keeps E) := by
  cases msg with
  | readReq txn addr len =>
    rw [serve]
    split
    · exact respond_always h _
    · exact respond_always h _
  | writeReq txn addr data =>
    cases word with
    | none => exact respond_always h _
    | some offset =>
      cases hvalue : word? data with
      | none =>
        simp only [serve, hvalue]
        exact respond_always h _
      | some value =>
        simp only [serve, hvalue]
        exact writeRegister_always haccepted h _ _ fun _ _ hnext => respond_always hnext _
  | readResp => exact reject_always h (by decide)
  | writeResp => exact reject_always h (by decide)

lemma request_always (haccepted : config.Accepted) (h : c.Sound) (msg : MemV1.MemMsg) :
    (c.request msg).Always E (SafeCall config) (Keeps E) := by
  unfold request
  split
  · exact reject_always h (by decide)
  · exact reject_always h (by decide)
  · exact serve_always haccepted h _ msg
  · exact serve_always haccepted h _ msg

/-- Every handler keeps the invariant and stays inside the aperture, and no handler ends in a fault
of the engine; a wake finds the engine ready, unless its fault is expected. -/
lemma handleEvent_always (haccepted : config.Accepted) (h : c.Sound) {delivery : Delivered}
    (hwake : delivery = .wake issueToken →
      c.engine = .issue ∨ E (.componentFault nothingToIssue)) :
    (c.handleEvent delivery).Always E (SafeCall config) (Keeps E) := by
  have hunexpected : c.unexpected.Always E (SafeCall config) (Keeps E) :=
    reject_always h (by decide)
  cases delivery with
  | wake token =>
    rw [handleEvent]
    by_cases htoken : token = issueToken
    · rw [if_pos htoken]
      exact issue_always haccepted h (hwake (congrArg Delivered.wake htoken))
    · rw [if_neg htoken]
      exact hunexpected
  | message port msg =>
    cases msg with
    | memV1 msg =>
      rw [handleEvent]
      by_cases hmem : port = memPort
      · rw [if_pos hmem]
        exact request_always haccepted h msg
      · rw [if_neg hmem]
        by_cases hdma : port = dmaPort
        · rw [if_pos hdma]
          exact beatResult_always h msg
        · rw [if_neg hdma]
          exact hunexpected
    | block msg =>
      rw [handleEvent]
      by_cases hblk : port = blkPort
      · rw [if_pos hblk]
        exact mediaResult_always h msg
      · rw [if_neg hblk]
        exact hunexpected
    | mem msg => exact hunexpected
    | irq msg => exact hunexpected

/-! ## Restores -/

section

variable [SnapshotData]

open Parser Restoring SnapshotField

lemma readLatched_gives (haccepted : config.Accepted) (busy : Bool) :
    Gives (readLatched config busy) fun latched =>
      latched.isSome = busy ∧ ∀ l, latched = some l → config.Covers l := by
  unfold readLatched
  cases busy with
  | false =>
    rw [if_neg Bool.false_ne_true]
    exact .pure ⟨rfl, by simp⟩
  | true =>
    rw [if_pos rfl]
    refine .next fun code => .next fun lba => .next fun addr => .next fun count => ?_
    cases hvalid : config.validate code.toUInt32 lba addr count with
    | ok op =>
      refine .pure ⟨rfl, fun l hl => ?_⟩
      obtain rfl := Option.some.inj hl
      exact ((DmaBlockControllerConfig.validate_eq_ok haccepted).mp hvalid).2
    | error code => exact .throw

/-- Whatever a restore accepts satisfies the invariant. -/
lemma restoreState_gives (haccepted : config.Accepted) : Gives (restoreState config) Sound := by
  unfold restoreState
  refine .next fun _ => .next fun lba => .next fun memAddr => .next fun blockCount =>
    .next fun irqEnable => .guard fun hirq => .next fun busy => .next fun done =>
    .next fun rejected => .next fun error => .guard fun hboth => .guard fun herror =>
    .bind (readLatched_gives haccepted busy) fun latched hlatched => .next fun engine =>
    .next fun block => .next fun beat => .next fun buffer => .next fun dmaTxn =>
    .next fun blkTxn => .next fun irqLevel => .guard fun hposition => .guard fun hlevel => .pure ?_
  exact
    { irqEnable := not_not.mp hirq
      notBoth := hboth
      error := not_not.mp herror
      latched := hlatched.1
      covers := hlatched.2
      position := not_not.mp hposition
      level := not_not.mp hlevel }

lemma Sound.restore (haccepted : config.Accepted) (h : c.Sound) (bs : Bytes) (schema : UInt32) :
    (c.restore bs schema).1.Sound := by
  obtain ⟨c', result, hrestore⟩ : ∃ c' result, c.restore bs schema = (c', result) := ⟨_, _, rfl⟩
  rw [hrestore]
  cases result with
  | error e =>
    rw [eq_of_into_error hrestore]
    exact h
  | ok rest =>
    obtain ⟨x, hx, rfl⟩ := into_eq_ok.mp hrestore
    exact restoreState_gives haccepted bs x rest hx

/-! ## Histories -/

lemma Sound.of_reaches {c₀ : DmaBlockController config} (hnew : new config = .ok c₀)
    (hreaches : Component.Reaches c₀ c) : c.Sound := by
  obtain ⟨haccepted, rfl⟩ := new_eq_ok hnew
  refine hreaches.invariant fresh_sound ?_ ?_ ?_
  · intro c c' h hends
    cases hends
    exact h
  · intro c c' delivery h hends
    obtain ⟨result, hresult⟩ :=
      (handleEvent_always haccepted h fun _ => .inr trivial).ends hends
    exact hresult.1
  · intro c bs schema h
    exact h.restore haccepted bs schema

/-- In every state that a controller reaches, by events and restores in any order and whatever its
calls are answered, every beat it asks for lies in the aperture and below 2^32, and every block
below the capacity.  No event ends in an index overflow or a slice out of bounds; only a wake
outside ISSUE finds nothing to issue. -/
theorem aperture_safe {c₀ : DmaBlockController config} (hnew : new config = .ok c₀)
    (hreaches : Component.Reaches c₀ c) (delivery : Delivered) :
    (∀ call, (Component.handleEvent c delivery).Asks call → SafeCall config call) ∧
      ∀ E : SimError → Prop, (∀ e, E e → ¬EngineFault e) →
        (Component.handleEvent c delivery).Always E (SafeCall config) fun result _ =>
          ∀ e, result = .error e → EngineFault e →
            e = .componentFault nothingToIssue ∧ delivery = .wake issueToken ∧
              c.engine ≠ .issue := by
  have haccepted := (new_eq_ok hnew).1
  have h := Sound.of_reaches hnew hreaches
  refine ⟨fun call hasks => ?_, fun E hE => ?_⟩
  · exact (handleEvent_always haccepted h fun _ => .inr trivial).of_asks hasks
  · by_cases hstray : delivery = .wake issueToken ∧ c.engine ≠ .issue
    · have hissue : Component.handleEvent c delivery = c.reject nothingToIssue := by
        rw [hstray.1]
        exact issue_of_ne hstray.2
      rw [hissue]
      intro e herror _
      exact ⟨(Except.error.inj herror).symm, hstray⟩
    · have hready : delivery = .wake issueToken →
          c.engine = .issue ∨ E (.componentFault nothingToIssue) := fun hwake =>
        .inl (by_contra fun hengine => hstray ⟨hwake, hengine⟩)
      refine (handleEvent_always haccepted h hready).mono fun result c' hkeeps e herror hfault => ?_
      exact absurd hfault (hE e (hkeeps.2 e herror hfault))

end

/-- An aperture of two blocks at the top of the 32-bit address space. -/
def topConfig : DmaBlockControllerConfig where
  clock := 0
  latency := .cycles 0 1
  capacityBlocks := 4294967296
  dmaBase := 4294966272
  dmaSize := 1024

/-- The snapshot of a WRITE to the last block of all, whose last beat is due. -/
def topSnapshot : Bytes :=
  [0, 0, 0, 0] ++ [1, 0, 0, 0, 0, 1, 0, 0, 0, 0, 0, 0, 0] ++ [0, 0, 0, 0, 1, 0, 0, 0] ++
    [0, 252, 255, 255, 0, 0, 0, 0] ++ [0, 4, 0, 0, 0, 0, 0, 0] ++ List.replicate 16 0 ++
    [1, 0, 0, 0] ++ [2, 255, 255, 255, 255, 0, 254, 255, 255, 1, 0, 0, 0] ++ [1] ++ [0, 0, 0, 0] ++
    [31] ++ [240, 1, 0, 0] ++ List.replicate 496 0 ++ [31, 0, 0, 0, 0, 0, 0, 0] ++
    List.replicate 8 0 ++ [0]

/-- What is restored from it. -/
def topController : DmaBlockController topConfig :=
  { fresh topConfig with
    busy := true
    latched := some { op := .write, lba := 4294967295, addr := 4294966784, count := 1 }
    engine := .issue
    beat := 31
    buffer := List.replicate 496 0
    dmaTxn := 31 }

open Canonical in
lemma reaches_restored (bs : Bytes) {c : DmaBlockController topConfig}
    (h : ((fresh topConfig).restore bs 1).1 = c) : Component.Reaches (fresh topConfig) c :=
  h ▸ .restore .refl bs 1

open Canonical in
theorem aperture_safe_top :
    ∃ beat first, Message.memV1 (.readReq 31 4294967280 16) = .memV1 beat ∧
      SafeBeat topConfig beat first := by
  have hrestore : ((fresh topConfig).restore topSnapshot 1).1 = topController := by
    decide +kernel
  have hsafe : SafeCall topConfig
      (.sent dmaPort (.memV1 (.readReq 31 4294967280 16)) .now .request) :=
    (aperture_safe (show new topConfig = .ok (fresh topConfig) from rfl)
      (reaches_restored topSnapshot hrestore) (.wake 0)).1 _
      .send
  exact hsafe.1 rfl

end DmaBlockController

end SystemScope.Platform
