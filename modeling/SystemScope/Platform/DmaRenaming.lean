import SystemScope.Contracts.Embedding
import SystemScope.Platform.DmaSystem

/-!
# DMA transactions are only names

A controller whose transaction counters are moved does the same as before, with other transactions
in its requests (`handleEvent_shift`), as long as its counters have room.  So does a whole system
(`DmaSystem.Runs.shift`): what a controller does does not depend on how many requests it has
made. -/

namespace SystemScope

/-- The message with another transaction. -/
def MemV1.MemMsg.mapTxn (f : TxnId → TxnId) : MemV1.MemMsg → MemV1.MemMsg
  | .readReq txn addr len => .readReq (f txn) addr len
  | .readResp txn outcome => .readResp (f txn) outcome
  | .writeReq txn addr data => .writeReq (f txn) addr data
  | .writeResp txn outcome => .writeResp (f txn) outcome

def BlockMsg.mapTxn (f : TxnId → TxnId) : BlockMsg → BlockMsg
  | .readBlock txn lba => .readBlock (f txn) lba
  | .readResult txn outcome => .readResult (f txn) outcome
  | .writeBlock txn lba data => .writeBlock (f txn) lba data
  | .writeResult txn outcome => .writeResult (f txn) outcome

namespace Platform

open Handler

/-- How far the transactions of either port are moved. -/
structure Shift where
  dma : UInt64
  blk : UInt64

namespace Shift

variable (d : Shift)

/-- The message on a port of the controller, its transaction moved. -/
def message (port : PortId) : Message → Message
  | .memV1 msg =>
    if port = DmaBlockController.dmaPort then .memV1 (msg.mapTxn (· + d.dma)) else .memV1 msg
  | .block msg =>
    if port = DmaBlockController.blkPort then .block (msg.mapTxn (· + d.blk)) else .block msg
  | .mem msg => .mem msg
  | .irq msg => .irq msg

def delivered : Delivered → Delivered
  | .message port msg => .message port (d.message port msg)
  | .wake token => .wake token

/-- Back again. -/
def neg : Shift := ⟨-d.dma, -d.blk⟩

end Shift

def Engine.shift (d : Shift) : Engine → Engine
  | .idle => .idle
  | .issue => .issue
  | .waitMedia txn => .waitMedia (txn + d.blk)
  | .waitBeat txn => .waitBeat (txn + d.dma)

namespace DmaBlockController

variable {config : DmaBlockControllerConfig}

/-- The controller with its transactions moved. -/
def shift (d : Shift) (c : DmaBlockController config) : DmaBlockController config :=
  { c with engine := c.engine.shift d, dmaTxn := c.dmaTxn + d.dma, blkTxn := c.blkTxn + d.blk }

/-- Either counter has a transaction left. -/
structure HasRoom (c : DmaBlockController config) : Prop where
  dmaTxn : c.dmaTxn.toNat + 1 < 2 ^ 64
  blkTxn : c.blkTxn.toNat + 1 < 2 ^ 64

variable {d : Shift} {c : DmaBlockController config}
  {k : DmaBlockController config → Handler (DmaBlockController config)}

/-- The handler of a controller with its transactions moved. -/
def renamed (d : Shift) (h : Handler (DmaBlockController config)) :
    Handler (DmaBlockController config) :=
  h.rename d.message (shift d)

/-- What a function goes on with does not depend on the transactions. -/
def Uniform (d : Shift)
    (k : DmaBlockController config → Handler (DmaBlockController config)) : Prop :=
  ∀ c, k (shift d c) = renamed d (k c)

lemma uniform_finish :
    Uniform d (finish : DmaBlockController config → Handler (DmaBlockController config)) :=
  fun _ => rfl

lemma updateIrq_shift (hk : Uniform d k) : (shift d c).updateIrq k = renamed d (c.updateIrq k) := by
  have hlevel : (shift d c).level = c.level := rfl
  unfold updateIrq
  by_cases hsame : c.level = c.irqLevel
  · rw [if_pos hsame, if_pos (show (shift d c).level = (shift d c).irqLevel from hsame)]
    exact hk c
  · rw [if_neg hsame, if_neg (show ¬(shift d c).level = (shift d c).irqLevel from hsame)]
    refine congrArg (Handler.send irqPort (.irq (.level c.level)) .now .complete)
      (funext fun result => ?_)
    cases result with
    | error e => rfl
    | ok u => exact hk { c with irqLevel := c.level }

lemma wakeNextCycle_shift (hk : Uniform d k) :
    (shift d c).wakeNextCycle k = renamed d (c.wakeNextCycle k) := by
  refine congrArg (Handler.wakeSelf (.cycles config.clock 1) .request issueToken)
    (funext fun result => ?_)
  cases result with
  | error e => rfl
  | ok u => exact hk c

lemma complete_shift {code : UInt8} (hk : Uniform d k) :
    (shift d c).complete code k = renamed d (c.complete code k) := by
  have hirq := updateIrq_shift (d := d)
    (c := { c with busy := false, done := true, error := code, latched := none, engine := .idle,
                   block := 0, beat := 0, buffer := [] }) hk
  exact congrArg (Handler.trace doneKind [("error", .u64 code.toUInt64)]) hirq

/-! ## The engine -/

lemma nextTxn_add {counter n : TxnId} (h : counter.toNat + 1 < 2 ^ 64)
    (h' : (counter + n).toNat + 1 < 2 ^ 64) :
    nextTxn counter = some (counter + 1) ∧ nextTxn (counter + n) = some (counter + 1 + n) := by
  have hswap : counter + n + 1 = counter + 1 + n := by
    rw [UInt64.add_assoc, UInt64.add_comm n 1, ← UInt64.add_assoc]
  refine ⟨if_pos h, ?_⟩
  rw [← hswap]
  exact if_pos h'

lemma sendBlock_shift (hroom : c.HasRoom) (hroom' : (shift d c).HasRoom) (msg : BlockMsg)
    (hk : Uniform d k) : (shift d c).sendBlock (msg.mapTxn (· + d.blk)) k =
      renamed d (c.sendBlock msg k) := by
  obtain ⟨hnext, hnext'⟩ := nextTxn_add hroom.blkTxn hroom'.blkTxn
  unfold sendBlock
  rw [hnext, show nextTxn (shift d c).blkTxn = _ from hnext']
  refine congrArg (Handler.send blkPort (.block (msg.mapTxn (· + d.blk))) .now .request)
    (funext fun result => ?_)
  cases result with
  | error e => rfl
  | ok u => exact hk { c with blkTxn := c.blkTxn + 1, engine := .waitMedia c.blkTxn }

lemma sendBeat_shift (hroom : c.HasRoom) (hroom' : (shift d c).HasRoom) (msg : MemV1.MemMsg) :
    (shift d c).sendBeat (msg.mapTxn (· + d.dma)) = renamed d (c.sendBeat msg) := by
  obtain ⟨hnext, hnext'⟩ := nextTxn_add hroom.dmaTxn hroom'.dmaTxn
  unfold sendBeat
  rw [hnext, show nextTxn (shift d c).dmaTxn = _ from hnext']
  refine congrArg (Handler.send dmaPort (.memV1 (msg.mapTxn (· + d.dma))) .now .request)
    (funext fun result => ?_)
  cases result <;> rfl

lemma issueReadBlock_shift (hroom : c.HasRoom) (hroom' : (shift d c).HasRoom) {l : Latched} :
    (shift d c).issueReadBlock l = renamed d (c.issueReadBlock l) := by
  unfold issueReadBlock
  rw [show (shift d c).blockLba l = c.blockLba l from rfl]
  cases c.blockLba l with
  | none => rfl
  | some lba => exact sendBlock_shift hroom hroom' (.readBlock c.blkTxn lba) uniform_finish

lemma issueWriteBlock_shift (hroom : c.HasRoom) (hroom' : (shift d c).HasRoom) {l : Latched} :
    (shift d c).issueWriteBlock l = renamed d (c.issueWriteBlock l) := by
  unfold issueWriteBlock
  rw [show (shift d c).blockLba l = c.blockLba l from rfl]
  cases c.blockLba l with
  | none => rfl
  | some lba =>
    exact sendBlock_shift hroom hroom' (.writeBlock c.blkTxn lba c.buffer) fun _ => rfl

lemma issueWriteBeat_shift (hroom : c.HasRoom) (hroom' : (shift d c).HasRoom) {l : Latched} :
    (shift d c).issueWriteBeat l = renamed d (c.issueWriteBeat l) := by
  unfold issueWriteBeat
  rw [show (shift d c).beatAddr l = c.beatAddr l from rfl]
  cases c.beatAddr l with
  | none => rfl
  | some addr =>
    dsimp only
    by_cases hslice : c.beat.toNat * beatSize + beatSize ≤ c.buffer.length
    · rw [if_pos hslice, if_pos (show (shift d c).beat.toNat * beatSize + beatSize ≤
        (shift d c).buffer.length from hslice)]
      exact sendBeat_shift hroom hroom' (.writeReq c.dmaTxn addr
        ((c.buffer.drop (c.beat.toNat * beatSize)).take beatSize))
    · rw [if_neg hslice, if_neg (show ¬(shift d c).beat.toNat * beatSize + beatSize ≤
        (shift d c).buffer.length from hslice)]
      rfl

lemma issueReadBeat_shift (hroom : c.HasRoom) (hroom' : (shift d c).HasRoom) {l : Latched} :
    (shift d c).issueReadBeat l = renamed d (c.issueReadBeat l) := by
  unfold issueReadBeat
  rw [show (shift d c).beatAddr l = c.beatAddr l from rfl]
  cases c.beatAddr l with
  | none => rfl
  | some addr => exact sendBeat_shift hroom hroom' (.readReq c.dmaTxn addr 16)

lemma issue_shift (hroom : c.HasRoom) (hroom' : (shift d c).HasRoom) :
    (shift d c).issue = renamed d c.issue := by
  have hengine : (shift d c).engine = c.engine.shift d := rfl
  have hlatched : (shift d c).latched = c.latched := rfl
  by_cases hissue : c.engine = .issue
  · unfold issue
    rw [hengine, hlatched, hissue]
    cases c.latched with
    | none => rfl
    | some l =>
      dsimp only [Engine.shift]
      cases l.op with
      | read =>
        dsimp only
        by_cases hbuffer : c.buffer = []
        · rw [if_pos hbuffer, if_pos (show (shift d c).buffer = [] from hbuffer)]
          exact issueReadBlock_shift hroom hroom'
        · rw [if_neg hbuffer, if_neg (show ¬(shift d c).buffer = [] from hbuffer)]
          exact issueWriteBeat_shift hroom hroom'
      | write =>
        dsimp only
        by_cases hbeat : c.beat = beatsPerBlock
        · rw [if_pos hbeat, if_pos (show (shift d c).beat = beatsPerBlock from hbeat)]
          exact issueWriteBlock_shift hroom hroom'
        · rw [if_neg hbeat, if_neg (show ¬(shift d c).beat = beatsPerBlock from hbeat)]
          exact issueReadBeat_shift hroom hroom'
  · have hissue' : (shift d c).engine ≠ .issue := by
      rw [hengine]
      cases hcase : c.engine with
      | issue => exact absurd hcase hissue
      | idle => simp [Engine.shift]
      | waitMedia => simp [Engine.shift]
      | waitBeat => simp [Engine.shift]
    rw [issue_of_ne hissue, issue_of_ne hissue']
    rfl

/-! ## The answers -/

lemma checkResult_shift {txn expected n : TxnId} {h h' : Handler (DmaBlockController config)}
    (hh : h' = renamed d h) : (shift d c).checkResult (txn + n) (expected + n) h' =
      renamed d (c.checkResult txn expected h) := by
  subst hh
  unfold checkResult
  by_cases htxn : txn = expected
  · rw [if_neg (not_not.mpr htxn), if_neg (not_not.mpr (congrArg (· + n) htxn))]
    refine congrArg Handler.phase (funext fun phase => ?_)
    beta_reduce
    by_cases hphase : phase = .complete
    · rw [if_neg (not_not.mpr hphase), if_neg (not_not.mpr hphase)]
      rfl
    · rw [if_pos hphase, if_pos hphase]
      rfl
  · have htxn' : txn + n ≠ expected + n := fun heq => htxn (UInt64.add_left_inj n |>.mp heq)
    rw [if_pos htxn, if_pos htxn']
    rfl

lemma nextBlock_shift {l : Latched} : (shift d c).nextBlock l = renamed d (c.nextBlock l) := by
  unfold nextBlock
  dsimp only
  by_cases hfits : c.block.toNat + 1 < 2 ^ 32
  · rw [if_pos hfits, if_pos (show (shift d c).block.toNat + 1 < 2 ^ 32 from hfits)]
    by_cases hlast : c.block + 1 = l.count
    · rw [if_pos hlast, if_pos (show (shift d c).block + 1 = l.count from hlast)]
      exact complete_shift (c := { c with beat := 0, buffer := [], block := c.block + 1 })
        uniform_finish
    · rw [if_neg hlast, if_neg (show ¬(shift d c).block + 1 = l.count from hlast)]
      exact wakeNextCycle_shift (c := { c with beat := 0, buffer := [], block := c.block + 1,
                                               engine := .issue }) uniform_finish
  · rw [if_neg hfits, if_neg (show ¬(shift d c).block.toNat + 1 < 2 ^ 32 from hfits)]
    rfl

lemma mediaResult_shift {msg : BlockMsg} :
    (shift d c).mediaResult (msg.mapTxn (· + d.blk)) = renamed d (c.mediaResult msg) := by
  have hengine : (shift d c).engine = c.engine.shift d := rfl
  have hlatched : (shift d c).latched = c.latched := rfl
  unfold mediaResult
  rw [hengine, hlatched]
  cases c.engine with
  | idle => rfl
  | issue => rfl
  | waitBeat => rfl
  | waitMedia expected =>
    cases c.latched with
    | none => rfl
    | some l =>
      dsimp only [Engine.shift]
      cases l.op with
      | read =>
        cases msg with
        | readBlock => rfl
        | writeBlock => rfl
        | writeResult => rfl
        | readResult txn outcome =>
          refine checkResult_shift ?_
          cases outcome with
          | error e => exact complete_shift uniform_finish
          | data data =>
            dsimp only
            by_cases hlength : data.length = blockSize
            · rw [if_neg (not_not.mpr hlength), if_neg (not_not.mpr hlength)]
              exact wakeNextCycle_shift (c := { c with
                latched := some l, buffer := data, engine := .issue }) uniform_finish
            · rw [if_pos hlength, if_pos hlength]
              rfl
      | write =>
        cases msg with
        | readBlock => rfl
        | writeBlock => rfl
        | readResult => rfl
        | writeResult txn outcome =>
          refine checkResult_shift ?_
          cases outcome with
          | error e => exact complete_shift uniform_finish
          | done => exact nextBlock_shift

lemma beatResult_shift {msg : MemV1.MemMsg} :
    (shift d c).beatResult (msg.mapTxn (· + d.dma)) = renamed d (c.beatResult msg) := by
  have hengine : (shift d c).engine = c.engine.shift d := rfl
  have hlatched : (shift d c).latched = c.latched := rfl
  unfold beatResult
  rw [hengine, hlatched]
  cases c.engine with
  | idle => rfl
  | issue => rfl
  | waitMedia => rfl
  | waitBeat expected =>
    cases c.latched with
    | none => rfl
    | some l =>
      dsimp only [Engine.shift]
      cases l.op with
      | read =>
        cases msg with
        | readReq => rfl
        | writeReq => rfl
        | readResp => rfl
        | writeResp txn outcome =>
          refine checkResult_shift ?_
          cases outcome with
          | fault f => exact complete_shift uniform_finish
          | done =>
            dsimp only
            by_cases hlast : c.beat + 1 = beatsPerBlock
            · rw [if_pos hlast, if_pos (show (shift d c).beat + 1 = beatsPerBlock from hlast)]
              exact nextBlock_shift (c := { c with
                latched := some l, engine := .waitBeat expected, beat := c.beat + 1 })
            · rw [if_neg hlast, if_neg (show ¬(shift d c).beat + 1 = beatsPerBlock from hlast)]
              exact wakeNextCycle_shift (c := { c with
                latched := some l, beat := c.beat + 1, engine := .issue }) uniform_finish
      | write =>
        cases msg with
        | readReq => rfl
        | writeReq => rfl
        | writeResp => rfl
        | readResp txn outcome =>
          refine checkResult_shift ?_
          cases outcome with
          | fault f => exact complete_shift uniform_finish
          | data data =>
            dsimp only
            by_cases hlength : data.length = beatSize
            · rw [if_neg (not_not.mpr hlength), if_neg (not_not.mpr hlength)]
              exact wakeNextCycle_shift (c := { c with
                latched := some l, buffer := c.buffer ++ data, beat := c.beat + 1,
                engine := .issue })
                uniform_finish
            · rw [if_pos hlength, if_pos hlength]
              rfl

/-! ## The window -/

lemma command_shift {value : UInt32} (hk : Uniform d k) :
    (shift d c).command value k = renamed d (c.command value k) := by
  unfold command
  by_cases hended : (c.busy || c.done) = true
  · rw [if_pos hended, if_pos (show ((shift d c).busy || (shift d c).done) = true from hended)]
    exact congrArg (Handler.trace rejectedKind []) (hk { c with rejected := true })
  · rw [if_neg hended, if_neg (show ¬((shift d c).busy || (shift d c).done) = true from hended)]
    have hvalid : config.validate value (shift d c).lba (shift d c).memAddr (shift d c).blockCount =
      config.validate value c.lba c.memAddr c.blockCount := rfl
    refine congrArg (Handler.trace commandKind _) ?_
    rw [hvalid]
    cases config.validate value c.lba c.memAddr c.blockCount with
    | ok op =>
      exact wakeNextCycle_shift (c := { c with
        busy := true
        latched := some { op, lba := c.lba, addr := c.memAddr, count := c.blockCount }
        engine := .issue }) hk
    | error code => exact complete_shift hk

lemma writeRegister_shift {offset : UInt64} {value : UInt32}
    {k : Bool → DmaBlockController config → Handler (DmaBlockController config)}
    (hk : ∀ written, Uniform d (k written)) :
    (shift d c).writeRegister offset value k = renamed d (c.writeRegister offset value k) := by
  unfold writeRegister
  by_cases hcommand : offset = commandReg
  · rw [if_pos hcommand, if_pos hcommand]
    exact command_shift (hk true)
  rw [if_neg hcommand, if_neg hcommand]
  by_cases hstatus : offset = statusReg
  · rw [if_pos hstatus, if_pos hstatus]
    by_cases hclear : value &&& statusRejected ≠ 0
    · rw [if_pos hclear, if_pos hclear]
      exact hk true { c with rejected := false }
    · rw [if_neg hclear, if_neg hclear]
      exact hk true c
  rw [if_neg hstatus, if_neg hstatus]
  by_cases hlba : offset = lbaReg
  · rw [if_pos hlba, if_pos hlba]
    exact hk true { c with lba := value }
  rw [if_neg hlba, if_neg hlba]
  by_cases haddr : offset = memAddrReg
  · rw [if_pos haddr, if_pos haddr]
    exact hk true { c with memAddr := value }
  rw [if_neg haddr, if_neg haddr]
  by_cases hcount : offset = blockCountReg
  · rw [if_pos hcount, if_pos hcount]
    exact hk true { c with blockCount := value }
  rw [if_neg hcount, if_neg hcount]
  by_cases hirq : offset = irqEnableReg
  · rw [if_pos hirq, if_pos hirq]
    exact updateIrq_shift (c := { c with irqEnable := value &&& 1 }) (hk true)
  rw [if_neg hirq, if_neg hirq]
  by_cases hack : offset = ackReg
  · rw [if_pos hack, if_pos hack]
    by_cases hdone : value &&& 1 ≠ 0 ∧ c.done = true
    · rw [if_pos hdone, if_pos (show value &&& 1 ≠ 0 ∧ (shift d c).done = true from hdone)]
      exact updateIrq_shift (c := { c with done := false, error := 0 }) (hk true)
    · rw [if_neg hdone, if_neg (show ¬(value &&& 1 ≠ 0 ∧ (shift d c).done = true) from hdone)]
      exact hk true c
  rw [if_neg hack, if_neg hack]
  exact hk false c

lemma uniform_respond {resp : MemV1.MemMsg} :
    Uniform d fun c : DmaBlockController config => c.respond resp := fun _ => rfl

lemma serve_shift {word : Option UInt64} {msg : MemV1.MemMsg} :
    (shift d c).serve word msg = renamed d (c.serve word msg) := by
  cases msg with
  | readReq txn addr len =>
    have hread : word.bind (shift d c).readRegister = word.bind c.readRegister := rfl
    unfold serve
    rw [hread]
    cases word.bind c.readRegister <;> rfl
  | writeReq txn addr data =>
    cases word with
    | none => rfl
    | some offset =>
      cases hvalue : word? data with
      | none =>
        simp only [serve, hvalue]
        rfl
      | some value =>
        simp only [serve, hvalue]
        exact writeRegister_shift fun written => uniform_respond
  | readResp => rfl
  | writeResp => rfl

lemma request_shift {msg : MemV1.MemMsg} : (shift d c).request msg = renamed d (c.request msg) := by
  unfold request
  cases msg.access with
  | none => rfl
  | some access =>
    cases access with
    | empty => rfl
    | outOfRange => exact serve_shift
    | bytes first last => exact serve_shift

/-- Where the transactions are does not matter: everything is handled alike, while the counters
have room for the request of a wake. -/
lemma handleEvent_shift {delivery : Delivered}
    (hroom : delivery = .wake issueToken → c.HasRoom ∧ (shift d c).HasRoom) :
    (shift d c).handleEvent (d.delivered delivery) = renamed d (c.handleEvent delivery) := by
  cases delivery with
  | wake token =>
    unfold Shift.delivered handleEvent
    dsimp only
    by_cases htoken : token = issueToken
    · rw [if_pos htoken, if_pos htoken]
      obtain ⟨hroom, hroom'⟩ := hroom (congrArg _ htoken)
      exact issue_shift hroom hroom'
    · rw [if_neg htoken, if_neg htoken]
      rfl
  | message port msg =>
    cases msg with
    | mem msg => rfl
    | irq msg => rfl
    | block msg =>
      by_cases hblk : port = blkPort
      · subst hblk
        exact mediaResult_shift
      · simp only [Shift.delivered, Shift.message, if_neg hblk, handleEvent]
        rfl
    | memV1 msg =>
      by_cases hmem : port = memPort
      · subst hmem
        exact request_shift
      · by_cases hdma : port = dmaPort
        · subst hdma
          exact beatResult_shift
        · simp only [Shift.delivered, Shift.message, if_neg hdma, handleEvent, if_neg hmem]
          rfl

end DmaBlockController

/-! ## Systems -/

def Traffic.shift (d : Shift) : Traffic → Traffic
  | .asked port msg => .asked port (d.message port msg)
  | .answered port msg => .answered port (d.message port msg)

namespace Shift

/-- A message on its way, its transaction moved. -/
def sent (d : Shift) (message : PortId × Message) : PortId × Message :=
  (message.1, d.message message.1 message.2)

variable {d : Shift}

lemma add_neg_cancel (txn n : UInt64) : txn + n + -n = txn := by
  rw [UInt64.add_assoc, UInt64.add_right_neg, UInt64.add_zero]

lemma mapTxn_neg {n : UInt64} (msg : MemV1.MemMsg) :
    (msg.mapTxn (· + n)).mapTxn (· + -n) = msg := by
  cases msg <;> simp only [MemV1.MemMsg.mapTxn, add_neg_cancel]

lemma mapTxn_neg_block {n : UInt64} (msg : BlockMsg) :
    (msg.mapTxn (· + n)).mapTxn (· + -n) = msg := by
  cases msg <;> simp only [BlockMsg.mapTxn, add_neg_cancel]

lemma message_neg (port : PortId) (msg : Message) :
    d.neg.message port (d.message port msg) = msg := by
  cases msg with
  | mem msg => rfl
  | irq msg => rfl
  | memV1 msg =>
    by_cases hport : port = DmaBlockController.dmaPort
    · simp only [message, if_pos hport, neg, mapTxn_neg]
    · simp only [message, if_neg hport]
  | block msg =>
    by_cases hport : port = DmaBlockController.blkPort
    · simp only [message, if_pos hport, neg, mapTxn_neg_block]
    · simp only [message, if_neg hport]

lemma sent_neg (message : PortId × Message) : d.neg.sent (d.sent message) = message :=
  Prod.ext rfl (message_neg message.1 message.2)

lemma traffic_neg (said : Traffic) : (said.shift d).shift d.neg = said := by
  cases said with
  | asked port msg => exact congrArg (Traffic.asked port) (message_neg port msg)
  | answered port msg => exact congrArg (Traffic.answered port) (message_neg port msg)

lemma message_memV1 (port : PortId) :
    ∃ f, ∀ msg, d.message port (.memV1 msg) = .memV1 (msg.mapTxn f) := by
  by_cases hport : port = DmaBlockController.dmaPort
  · exact ⟨_, fun _ => if_pos hport⟩
  · refine ⟨id, fun msg => (if_neg hport).trans ?_⟩
    cases msg <;> rfl

lemma message_block (port : PortId) :
    ∃ f, ∀ msg, d.message port (.block msg) = .block (msg.mapTxn f) := by
  by_cases hport : port = DmaBlockController.blkPort
  · exact ⟨_, fun _ => if_pos hport⟩
  · refine ⟨id, fun msg => (if_neg hport).trans ?_⟩
    cases msg <;> rfl

/-- A peer takes no notice of transactions. -/
lemma serve_message {held held' : Contents} {port : PortId} {msg answer : Message}
    (h : held.serve msg = some (answer, held')) :
    held.serve (d.message port msg) = some (d.message port answer, held') := by
  obtain ⟨f, hf⟩ := d.message_memV1 port
  obtain ⟨g, hg⟩ := d.message_block port
  unfold Contents.serve at h
  split at h
  next txn addr len =>
    obtain ⟨rfl, rfl⟩ := Prod.mk.inj (Option.some.inj h)
    simp only [hf, MemV1.MemMsg.mapTxn, Contents.serve]
  next txn addr data =>
    obtain ⟨rfl, rfl⟩ := Prod.mk.inj (Option.some.inj h)
    simp only [hf, MemV1.MemMsg.mapTxn, Contents.serve]
  next txn lba =>
    obtain ⟨rfl, rfl⟩ := Prod.mk.inj (Option.some.inj h)
    simp only [hg, BlockMsg.mapTxn, Contents.serve]
  next txn lba data =>
    obtain ⟨block, hblock, hanswer⟩ := Option.map_eq_some_iff.mp h
    obtain ⟨rfl, rfl⟩ := Prod.mk.inj hanswer
    simp only [hg, BlockMsg.mapTxn, Contents.serve, hblock, Option.map_some]
  next => cases h

lemma refusal_message {fault : MemV1.MemFault} {error : MediaError} {port : PortId}
    {msg answer : Message} (h : refusal fault error msg = some answer) :
    refusal fault error (d.message port msg) = some (d.message port answer) := by
  obtain ⟨f, hf⟩ := d.message_memV1 port
  obtain ⟨g, hg⟩ := d.message_block port
  unfold refusal at h
  split at h
  next txn addr len =>
    obtain rfl := Option.some.inj h
    simp only [hf, MemV1.MemMsg.mapTxn, refusal]
  next txn addr data =>
    obtain rfl := Option.some.inj h
    simp only [hf, MemV1.MemMsg.mapTxn, refusal]
  next txn lba =>
    obtain rfl := Option.some.inj h
    simp only [hg, BlockMsg.mapTxn, refusal]
  next txn lba data =>
    obtain rfl := Option.some.inj h
    simp only [hg, BlockMsg.mapTxn, refusal]
  next => cases h

end Shift

namespace DmaSystem

open DmaBlockController

variable {config : DmaBlockControllerConfig}

/-- The system with its transactions moved. -/
def shift (d : Shift) (s : DmaSystem config) : DmaSystem config where
  dma := s.dma.shift d
  wakes := s.wakes
  requests := s.requests.map d.sent
  answers := s.answers.map d.sent
  held := s.held
  log := s.log.map (Traffic.shift d)

/-- The controller has room for a request, and would have it with its transactions moved. -/
def Roomy (d : Shift) (s : DmaSystem config) : Prop := s.dma.HasRoom ∧ (s.dma.shift d).HasRoom

/-- Anything that can happen. -/
inductive Step (others : Others) (s : DmaSystem config) : DmaSystem config → Prop
  | engine {s' : DmaSystem config} (h : s.Engine s') : Step others s s'
  | refuses {s' : DmaSystem config} (h : s.Refuses s') : Step others s s'
  | meanwhile {s' : DmaSystem config} (h : s.Meanwhile others s') : Step others s s'

/-- Runs whose states all meet a condition before they are left. -/
inductive Runs (others : Others) (P : DmaSystem config → Prop) (s : DmaSystem config) :
    DmaSystem config → Prop
  | refl : Runs others P s s
  | step {s₁ s₂ : DmaSystem config} (h : Runs others P s s₁) (hP : P s₁)
      (hstep : s₁.Step others s₂) : Runs others P s s₂

variable {d : Shift} {s s' : DmaSystem config} {others : Others}

lemma shift_neg (s : DmaSystem config) : (s.shift d).shift d.neg = s := by
  have hdma : (s.dma.shift d).shift d.neg = s.dma := by
    have hengine : (s.dma.engine.shift d).shift d.neg = s.dma.engine := by
      cases s.dma.engine <;> simp only [Engine.shift, Shift.neg, Shift.add_neg_cancel]
    unfold DmaBlockController.shift
    rw [hengine]
    simp only [Shift.neg, Shift.add_neg_cancel]
  have hsent : d.neg.sent ∘ d.sent = id := funext Shift.sent_neg
  have hsaid : Traffic.shift d.neg ∘ Traffic.shift d = id := funext Shift.traffic_neg
  unfold shift
  simp only [hdma, List.map_map, hsent, hsaid, List.map_id]

lemma Roomy.neg (h : s.Roomy d) : (s.shift d).Roomy d.neg := by
  refine ⟨h.2, ?_⟩
  have hback := congrArg DmaSystem.dma (shift_neg (d := d) s)
  rw [show ((s.shift d).dma.shift d.neg) = s.dma from hback]
  exact h.1

lemma shift_take {calls : List Call} {c : DmaBlockController config} :
    (s.take calls c).shift d =
      (s.shift d).take (calls.map (Call.rename d.message)) (c.shift d) := by
  have hwakes : (calls.map (Call.rename d.message)).filterMap wake? = calls.filterMap wake? := by
    rw [List.filterMap_map]
    refine List.filterMap_congr fun call _ => ?_
    cases call <;> rfl
  have hrequests : (calls.map (Call.rename d.message)).filterMap request? =
      (calls.filterMap request?).map d.sent := by
    rw [List.filterMap_map, List.map_filterMap]
    refine List.filterMap_congr fun call _ => ?_
    cases call with
    | sent port msg when_ at_ =>
      by_cases hport : port = dmaPort ∨ port = blkPort
      · simp [request?, Call.rename, hport, Shift.sent]
      · simp [request?, Call.rename, hport]
    | woke => rfl
    | traced => rfl
  unfold shift take
  simp only [hwakes, hrequests, List.map_append, List.map_map]
  congr 1

lemma handle_shift {env : Surroundings} {delivery : Delivered}
    (hroom : delivery = .wake issueToken → s.Roomy d) (h : s.handle env delivery = some s') :
    (s.shift d).handle env (d.delivered delivery) = some (s'.shift d) := by
  obtain ⟨calls, c, hperforms, rfl⟩ := handle_eq_some.mp h
  have hrenamed : (s.dma.shift d).handleEvent (d.delivered delivery) =
    renamed d (s.dma.handleEvent delivery) := handleEvent_shift hroom
  refine handle_eq_some.mpr ⟨calls.map (Call.rename d.message), c.shift d, ?_, shift_take⟩
  rw [show (s.shift d).dma = s.dma.shift d from rfl, hrenamed]
  exact hperforms.rename

lemma Step.shift (h : s.Step others s') (hroom : s.Roomy d) :
    (s.shift d).Step others (s'.shift d) := by
  cases h with
  | engine h =>
    refine .engine ?_
    cases h with
    | wake hwakes h =>
      exact .wake hwakes (handle_shift (d := d) (by exact fun _ => hroom) h)
    | serve hrequests h =>
      have hmoved : (s.shift d).requests = _ := congrArg (List.map d.sent) hrequests
      rw [List.map_append, List.map_cons] at hmoved
      have hstep := Engine.serve hmoved (Shift.serve_message (d := d) h)
      simpa [DmaSystem.shift, Shift.sent] using hstep
    | answer hanswers h =>
      have hmoved : (s.shift d).answers = _ := congrArg (List.map d.sent) hanswers
      rw [List.map_append, List.map_cons] at hmoved
      have hstep := handle_shift (d := d) (by simp) h
      simp only [DmaSystem.shift, List.map_append, List.map_cons, List.map_nil, Traffic.shift]
        at hstep
      exact .answer hmoved hstep
  | refuses h =>
    cases h with
    | refuse hrequests h =>
      have hmoved : (s.shift d).requests = _ := congrArg (List.map d.sent) hrequests
      rw [List.map_append, List.map_cons] at hmoved
      have hstep := Refuses.refuse hmoved (Shift.refusal_message (d := d) h)
      refine .refuses ?_
      simpa [DmaSystem.shift, Shift.sent] using hstep
  | meanwhile h =>
    cases h with
    | access h => exact .meanwhile (.access (handle_shift (d := d) (by simp) h))
    | write h => exact .meanwhile (.write h)

/-- Every run is a run with any other transactions, while both have room. -/
lemma Runs.shift (h : s.Runs others (Roomy d) s') :
    (s.shift d).Runs others (Roomy d.neg) (s'.shift d) := by
  induction h with
  | refl => exact .refl
  | step _ hroom hstep ih => exact .step ih hroom.neg (hstep.shift hroom)

lemma neg_neg (d : Shift) : d.neg.neg = d := by
  simp [Shift.neg]

/-- The transactions of a system are only names: with others, it runs alike. -/
lemma runs_shift : (s.shift d).Runs others (Roomy d.neg) (s'.shift d) ↔
    s.Runs others (Roomy d) s' := by
  constructor
  · intro h
    have hback := h.shift
    rwa [neg_neg, shift_neg, shift_neg] at hback
  · intro h
    exact h.shift

end DmaSystem

end Platform

end SystemScope
