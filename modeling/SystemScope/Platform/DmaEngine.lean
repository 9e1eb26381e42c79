import SystemScope.Platform.DmaSafety

/-!
# The steps of the DMA engine

What the engine does when its calls succeed: one equivalence for each function that a wake or an
answer leads to, saying all that a handler which ends well has asked for and left behind
(`issue_performs` for the wake, `mediaResult_performs` and `beatResult_performs` for the answers).
The window is different: whatever is accessed, a running command stays as it is
(`request_busy`). -/

namespace SystemScope.Platform

open Handler MemV1

namespace DmaBlockController

variable {config : DmaBlockControllerConfig} {c c' : DmaBlockController config}
  {env : Surroundings} {calls : List Call}
  {k : DmaBlockController config → Handler (DmaBlockController config)}

/-! ## The ends of handlers -/

lemma reject_performs {what : String} : (c.reject what).Performs env calls c' ↔ False :=
  performs_error

lemma finish_performs : c.finish.Performs env calls c' ↔ calls = [] ∧ c' = c := performs_ok

/-- The level that is sent, if it changed. -/
def irqCalls (c : DmaBlockController config) : List Call :=
  if c.level = c.irqLevel then [] else [.sent irqPort (.irq (.level c.level)) .now .complete]

lemma updateIrq_performs : (c.updateIrq k).Performs env calls c' ↔
    ∃ rest, calls = c.irqCalls ++ rest ∧ (k c.leveled).Performs env rest c' := by
  unfold updateIrq irqCalls
  by_cases hlevel : c.level = c.irqLevel
  · have hsame : c.leveled = c := by
      unfold leveled
      rw [hlevel]
    rw [if_pos hlevel, if_pos hlevel, hsame]
    simp
  · rw [if_neg hlevel, if_neg hlevel, performs_send]
    rfl

/-- What ending a command asks for. -/
def endCalls (c : DmaBlockController config) (code : UInt8) : List Call :=
  .traced doneKind [("error", .u64 code.toUInt64)] ::
    ({ c with busy := false, done := true, error := code, latched := none, engine := .idle,
              block := 0, beat := 0, buffer := [] } : DmaBlockController config).irqCalls

lemma complete_performs {code : UInt8} : (c.complete code k).Performs env calls c' ↔
    ∃ rest, calls = c.endCalls code ++ rest ∧ (k (c.completed code)).Performs env rest c' := by
  unfold complete
  rw [performs_trace]
  simp only [updateIrq_performs, endCalls, List.cons_append]
  constructor
  · rintro ⟨_, rfl, rest, rfl, hk⟩
    exact ⟨rest, rfl, hk⟩
  · rintro ⟨rest, rfl, hk⟩
    exact ⟨_, rfl, rest, rfl, hk⟩

lemma complete_finish_performs {code : UInt8} :
    (c.complete code finish).Performs env calls c' ↔
      calls = c.endCalls code ∧ c' = c.completed code := by
  simp [complete_performs, finish_performs]

/-- The wake that the engine asks for. -/
def wakeCall (config : DmaBlockControllerConfig) : Call :=
  .woke (.cycles config.clock 1) .request issueToken

lemma wakeNextCycle_performs : (c.wakeNextCycle k).Performs env calls c' ↔
    ∃ rest, calls = wakeCall config :: rest ∧ (k c).Performs env rest c' := performs_wakeSelf

lemma wake_finish_performs : (c.wakeNextCycle finish).Performs env calls c' ↔
    calls = [wakeCall config] ∧ c' = c := by
  simp [wakeNextCycle_performs, finish_performs]

/-! ## The wake -/

lemma sendBlock_performs {msg : BlockMsg} : (c.sendBlock msg k).Performs env calls c' ↔
    ∃ next rest, nextTxn c.blkTxn = some next ∧
      calls = .sent blkPort (.block msg) .now .request :: rest ∧
      (k { c with blkTxn := next, engine := .waitMedia c.blkTxn }).Performs env rest c' := by
  unfold sendBlock
  cases hnext : nextTxn c.blkTxn with
  | none => simp [reject_performs]
  | some next => simp [performs_send]

lemma sendBeat_performs {msg : MemV1.MemMsg} : (c.sendBeat msg).Performs env calls c' ↔
    ∃ next, nextTxn c.dmaTxn = some next ∧
      calls = [.sent dmaPort (.memV1 msg) .now .request] ∧
      c' = { c with dmaTxn := next, engine := .waitBeat c.dmaTxn } := by
  unfold sendBeat
  cases hnext : nextTxn c.dmaTxn with
  | none => simp [reject_performs]
  | some next => simp [performs_send, finish_performs]

lemma issueReadBlock_performs {l : Latched} : (c.issueReadBlock l).Performs env calls c' ↔
    ∃ lba next, c.blockLba l = some lba ∧ nextTxn c.blkTxn = some next ∧
      calls = [.sent blkPort (.block (.readBlock c.blkTxn lba)) .now .request] ∧
      c' = { c with blkTxn := next, engine := .waitMedia c.blkTxn } := by
  unfold issueReadBlock
  cases hlba : c.blockLba l with
  | none => simp [reject_performs]
  | some lba => simp [sendBlock_performs, finish_performs]

lemma issueWriteBlock_performs {l : Latched} : (c.issueWriteBlock l).Performs env calls c' ↔
    ∃ lba next, c.blockLba l = some lba ∧ nextTxn c.blkTxn = some next ∧
      calls = [.sent blkPort (.block (.writeBlock c.blkTxn lba c.buffer)) .now .request] ∧
      c' = { c with blkTxn := next, engine := .waitMedia c.blkTxn, buffer := [] } := by
  unfold issueWriteBlock
  cases hlba : c.blockLba l with
  | none => simp [reject_performs]
  | some lba => simp [sendBlock_performs, finish_performs]

lemma issueWriteBeat_performs {l : Latched} : (c.issueWriteBeat l).Performs env calls c' ↔
    ∃ addr next, c.beatAddr l = some addr ∧ nextTxn c.dmaTxn = some next ∧
      c.beat.toNat * beatSize + beatSize ≤ c.buffer.length ∧
      calls = [.sent dmaPort (.memV1 (.writeReq c.dmaTxn addr
        ((c.buffer.drop (c.beat.toNat * beatSize)).take beatSize))) .now .request] ∧
      c' = { c with dmaTxn := next, engine := .waitBeat c.dmaTxn } := by
  unfold issueWriteBeat
  cases haddr : c.beatAddr l with
  | none => simp [reject_performs]
  | some addr =>
    by_cases hslice : c.beat.toNat * beatSize + beatSize ≤ c.buffer.length
    · simp [sendBeat_performs, hslice]
    · simp [reject_performs, hslice]

lemma issueReadBeat_performs {l : Latched} : (c.issueReadBeat l).Performs env calls c' ↔
    ∃ addr next, c.beatAddr l = some addr ∧ nextTxn c.dmaTxn = some next ∧
      calls = [.sent dmaPort (.memV1 (.readReq c.dmaTxn addr 16)) .now .request] ∧
      c' = { c with dmaTxn := next, engine := .waitBeat c.dmaTxn } := by
  unfold issueReadBeat
  cases haddr : c.beatAddr l with
  | none => simp [reject_performs]
  | some addr => simp [sendBeat_performs]

/-- The request of a latched command that is sent. -/
def Issues (c : DmaBlockController config) (env : Surroundings) (l : Latched) (calls : List Call)
    (c' : DmaBlockController config) : Prop :=
  match l.op with
  | .read =>
    if c.buffer = [] then (c.issueReadBlock l).Performs env calls c'
    else (c.issueWriteBeat l).Performs env calls c'
  | .write =>
    if c.beat = beatsPerBlock then (c.issueWriteBlock l).Performs env calls c'
    else (c.issueReadBeat l).Performs env calls c'

/-- A wake that ends well sends the request of the latched command. -/
lemma issue_performs : c.issue.Performs env calls c' ↔
    ∃ l, c.engine = .issue ∧ c.latched = some l ∧ c.Issues env l calls c' := by
  by_cases hengine : c.engine = .issue
  · cases hlatched : c.latched with
    | none => simp [issue, hengine, hlatched, reject_performs]
    | some l =>
      simp only [issue, Issues, hengine, hlatched, Option.some.injEq, true_and, exists_eq_left']
      cases l.op with
      | read =>
        dsimp only
        split_ifs <;> rfl
      | write =>
        dsimp only
        split_ifs <;> rfl
  · simp [issue_of_ne hengine, reject_performs, hengine]

lemma issue_performs_of_latched {l : Latched} (hengine : c.engine = .issue)
    (hlatched : c.latched = some l) : c.issue.Performs env calls c' ↔
      c.Issues env l calls c' := by
  rw [issue_performs]
  constructor
  · intro ⟨l', _, hlatched', h⟩
    obtain rfl := Option.some.inj (hlatched'.symm.trans hlatched)
    exact h
  · intro h
    exact ⟨l, hengine, hlatched, h⟩

/-! ## The answers -/

lemma checkResult_performs {txn expected : TxnId} {next : Handler (DmaBlockController config)} :
    (c.checkResult txn expected next).Performs env calls c' ↔
      txn = expected ∧ env.phase = .complete ∧ next.Performs env calls c' := by
  unfold checkResult
  by_cases htxn : txn = expected
  · rw [if_neg (not_not.mpr htxn), performs_phase]
    by_cases hphase : env.phase = .complete
    · simp [htxn, hphase]
    · simp [hphase, reject_performs]
  · rw [if_pos htxn]
    simp [htxn, reject_performs]

/-- The start of the next block. -/
def nextStart (c : DmaBlockController config) : DmaBlockController config :=
  { c with beat := 0, buffer := [], block := c.block + 1, engine := .issue }

lemma nextBlock_performs {l : Latched} : (c.nextBlock l).Performs env calls c' ↔
    c.block.toNat + 1 < 2 ^ 32 ∧
      if c.block + 1 = l.count then calls = c.endCalls 0 ∧ c' = c.completed 0
      else calls = [wakeCall config] ∧ c' = c.nextStart := by
  unfold nextBlock
  by_cases hfits : c.block.toNat + 1 < 2 ^ 32
  · rw [if_pos hfits]
    by_cases hlast : c.block + 1 = l.count
    · rw [if_pos hlast, if_pos hlast, complete_finish_performs]
      exact (and_iff_right hfits).symm
    · rw [if_neg hlast, if_neg hlast, wake_finish_performs]
      exact (and_iff_right hfits).symm
  · rw [if_neg hfits, reject_performs]
    exact iff_of_false id fun h => hfits h.1

/-- What an answer on `blk` does for a latched command. -/
def MediaAnswers (c : DmaBlockController config) (env : Surroundings) (l : Latched) (txn : TxnId)
    (msg : BlockMsg) (calls : List Call) (c' : DmaBlockController config) : Prop :=
  match l.op with
  | .read =>
    (∃ data, msg = .readResult txn (.data data) ∧ data.length = blockSize ∧
      calls = [wakeCall config] ∧ c' = { c with buffer := data, engine := .issue }) ∨
    ∃ e, msg = .readResult txn (.error e) ∧ calls = c.endCalls mediaError ∧
      c' = c.completed mediaError
  | .write =>
    (msg = .writeResult txn .done ∧ (c.nextBlock l).Performs env calls c') ∨
    ∃ e, msg = .writeResult txn (.error e) ∧ calls = c.endCalls mediaError ∧
      c' = c.completed mediaError

/-- An answer on `blk` that ends well answers the outstanding request. -/
lemma mediaResult_performs {msg : BlockMsg} : (c.mediaResult msg).Performs env calls c' ↔
    ∃ txn l, c.engine = .waitMedia txn ∧ c.latched = some l ∧ env.phase = .complete ∧
      c.MediaAnswers env l txn msg calls c' := by
  cases hengine : c.engine with
  | waitMedia expected =>
    cases hlatched : c.latched with
    | none => simp [mediaResult, hengine, hlatched, reject_performs]
    | some l =>
      simp only [mediaResult, MediaAnswers, hengine, hlatched, Engine.waitMedia.injEq,
        Option.some.injEq,
        exists_and_left, exists_eq_left']
      cases l.op with
      | read =>
        cases msg with
        | readResult txn outcome =>
          cases outcome with
          | data data =>
            by_cases hlength : data.length = blockSize
            · simp [checkResult_performs, hlength, wake_finish_performs]
              grind
            · simp [checkResult_performs, hlength, reject_performs]
          | error e =>
            simp [checkResult_performs, complete_finish_performs]
            grind
        | readBlock => simp [reject_performs]
        | writeBlock => simp [reject_performs]
        | writeResult => simp [reject_performs]
      | write =>
        cases msg with
        | writeResult txn outcome =>
          cases outcome with
          | done =>
            simp [checkResult_performs]
            grind
          | error e =>
            simp [checkResult_performs, complete_finish_performs]
            grind
        | readBlock => simp [reject_performs]
        | writeBlock => simp [reject_performs]
        | readResult => simp [reject_performs]
  | idle => simp [mediaResult, hengine, reject_performs]
  | issue => simp [mediaResult, hengine, reject_performs]
  | waitBeat => simp [mediaResult, hengine, reject_performs]

lemma mediaResult_performs_of_latched {msg : BlockMsg} {txn : TxnId} {l : Latched}
    (hengine : c.engine = .waitMedia txn) (hlatched : c.latched = some l) :
    (c.mediaResult msg).Performs env calls c' ↔ env.phase = .complete ∧
      c.MediaAnswers env l txn msg calls c' := by
  rw [mediaResult_performs]
  constructor
  · intro ⟨txn', l', hengine', hlatched', h⟩
    obtain rfl := Engine.waitMedia.inj (hengine'.symm.trans hengine)
    obtain rfl := Option.some.inj (hlatched'.symm.trans hlatched)
    exact h
  · intro h
    exact ⟨txn, l, hengine, hlatched, h⟩

/-- What an answer on `dma` does for a latched command. -/
def BeatAnswers (c : DmaBlockController config) (env : Surroundings) (l : Latched) (txn : TxnId)
    (msg : MemV1.MemMsg) (calls : List Call) (c' : DmaBlockController config) : Prop :=
  match l.op with
  | .read =>
    (msg = .writeResp txn .done ∧
      if c.beat + 1 = beatsPerBlock then
        (({ c with beat := c.beat + 1 } : DmaBlockController config).nextBlock l).Performs env
          calls c'
      else calls = [wakeCall config] ∧ c' = { c with beat := c.beat + 1, engine := .issue }) ∨
    ∃ f, msg = .writeResp txn (.fault f) ∧ calls = c.endCalls dmaFault ∧
      c' = c.completed dmaFault
  | .write =>
    (∃ data, msg = .readResp txn (.data data) ∧ data.length = beatSize ∧
      calls = [wakeCall config] ∧
      c' = { c with buffer := c.buffer ++ data, beat := c.beat + 1, engine := .issue }) ∨
    ∃ f, msg = .readResp txn (.fault f) ∧ calls = c.endCalls dmaFault ∧
      c' = c.completed dmaFault

/-- An answer on `dma` that ends well answers the outstanding beat. -/
lemma beatResult_performs {msg : MemV1.MemMsg} : (c.beatResult msg).Performs env calls c' ↔
    ∃ txn l, c.engine = .waitBeat txn ∧ c.latched = some l ∧ env.phase = .complete ∧
      c.BeatAnswers env l txn msg calls c' := by
  cases hengine : c.engine with
  | waitBeat expected =>
    cases hlatched : c.latched with
    | none => simp [beatResult, hengine, hlatched, reject_performs]
    | some l =>
      simp only [beatResult, BeatAnswers, hengine, hlatched, Engine.waitBeat.injEq,
        Option.some.injEq,
        exists_and_left, exists_eq_left']
      cases l.op with
      | read =>
        cases msg with
        | writeResp txn outcome =>
          cases outcome with
          | done =>
            by_cases hlast : c.beat + 1 = beatsPerBlock
            · simp [checkResult_performs, hlast]
              grind
            · simp [checkResult_performs, hlast, wake_finish_performs]
              grind
          | fault f =>
            have hfault : Nonempty MemV1.MemFault := ⟨f⟩
            simp [checkResult_performs, complete_finish_performs]
            grind
        | readReq => simp [reject_performs]
        | writeReq => simp [reject_performs]
        | readResp => simp [reject_performs]
      | write =>
        cases msg with
        | readResp txn outcome =>
          cases outcome with
          | data data =>
            by_cases hlength : data.length = beatSize
            · simp [checkResult_performs, hlength, wake_finish_performs]
              grind
            · simp [checkResult_performs, hlength, reject_performs]
          | fault f =>
            have hfault : Nonempty MemV1.MemFault := ⟨f⟩
            simp [checkResult_performs, complete_finish_performs]
            grind
        | readReq => simp [reject_performs]
        | writeReq => simp [reject_performs]
        | writeResp => simp [reject_performs]
  | idle => simp [beatResult, hengine, reject_performs]
  | issue => simp [beatResult, hengine, reject_performs]
  | waitMedia => simp [beatResult, hengine, reject_performs]

lemma beatResult_performs_of_latched {msg : MemV1.MemMsg} {txn : TxnId} {l : Latched}
    (hengine : c.engine = .waitBeat txn) (hlatched : c.latched = some l) :
    (c.beatResult msg).Performs env calls c' ↔ env.phase = .complete ∧
      c.BeatAnswers env l txn msg calls c' := by
  rw [beatResult_performs]
  constructor
  · intro ⟨txn', l', hengine', hlatched', h⟩
    obtain rfl := Engine.waitBeat.inj (hengine'.symm.trans hengine)
    obtain rfl := Option.some.inj (hlatched'.symm.trans hlatched)
    exact h
  · intro h
    exact ⟨txn, l, hengine, hlatched, h⟩

/-! ## The window -/

/-- Calls that the peers of the engine do not see, and that do not wake it. -/
def Quiet : Call → Prop
  | .sent port _ _ _ => port ≠ dmaPort ∧ port ≠ blkPort
  | .woke .. => False
  | .traced .. => True

/-- The command and the engine are the same. -/
structure SameEngine (c c' : DmaBlockController config) : Prop where
  busy : c'.busy = c.busy
  latched : c'.latched = c.latched
  engine : c'.engine = c.engine
  block : c'.block = c.block
  beat : c'.beat = c.beat
  buffer : c'.buffer = c.buffer
  dmaTxn : c'.dmaTxn = c.dmaTxn
  blkTxn : c'.blkTxn = c.blkTxn

lemma SameEngine.refl (c : DmaBlockController config) : c.SameEngine c :=
  ⟨rfl, rfl, rfl, rfl, rfl, rfl, rfl, rfl⟩

/-- The request is a `COMMAND` that the controller accepts. -/
def Starts (c : DmaBlockController config) (msg : MemV1.MemMsg) : Prop :=
  c.busy = false ∧ c.done = false ∧ ∃ txn data value op, msg = .writeReq txn commandReg data ∧
    word? data = some value ∧ config.validate value c.lba c.memAddr c.blockCount = .ok op

lemma quiet_irqCalls : ∀ call ∈ c.irqCalls, Quiet call := by
  unfold irqCalls
  split_ifs
  · simp
  · simp [Quiet, irqPort, dmaPort, blkPort]

lemma quiet_endCalls {code : UInt8} : ∀ call ∈ c.endCalls code, Quiet call := by
  unfold endCalls
  exact List.forall_mem_cons.mpr ⟨trivial, quiet_irqCalls⟩

section

variable {E : SimError → Prop} {c₁ : DmaBlockController config}

lemma respond_quiet (hsame : c.SameEngine c₁) (resp : MemV1.MemMsg) :
    (c₁.respond resp).Always E Quiet fun _ c' => c.SameEngine c' :=
  ⟨⟨by decide, by decide⟩, hsame, fun _ _ => hsame⟩

lemma updateIrq_quiet (hsame : c.SameEngine c₁.leveled)
    (hk : (k c₁.leveled).Always E Quiet fun _ c' => c.SameEngine c') :
    (c₁.updateIrq k).Always E Quiet fun _ c' => c.SameEngine c' := by
  unfold updateIrq
  by_cases hlevel : c₁.level = c₁.irqLevel
  · have hleveled : c₁.leveled = c₁ := by
      unfold leveled
      rw [hlevel]
    rw [if_pos hlevel, ← hleveled]
    exact hk
  · rw [if_neg hlevel]
    exact ⟨⟨by decide, by decide⟩, hk, fun _ _ => hsame⟩

/-- A `COMMAND` that is rejected or fails validation does not move the engine. -/
lemma command_quiet (h : c.Sound) {value : UInt32}
    (hnot : c.busy = false → c.done = false → ∀ op,
      config.validate value c.lba c.memAddr c.blockCount ≠ .ok op)
    (hk : ∀ c₁ : DmaBlockController config, c.SameEngine c₁ →
      (k c₁).Always E Quiet fun _ c' => c.SameEngine c') :
    (c.command value k).Always E Quiet fun _ c' => c.SameEngine c' := by
  unfold command
  by_cases hended : (c.busy || c.done) = true
  · rw [if_pos hended]
    exact ⟨trivial, hk _ ⟨rfl, rfl, rfl, rfl, rfl, rfl, rfl, rfl⟩⟩
  · rw [if_neg hended]
    simp only [Bool.or_eq_true, not_or, Bool.not_eq_true] at hended
    obtain ⟨hlatched, hengine, hblock, hbeat, hbuffer⟩ := h.idle hended.1
    refine ⟨trivial, ?_⟩
    cases hvalid : config.validate value c.lba c.memAddr c.blockCount with
    | ok op => exact absurd hvalid (hnot hended.1 hended.2 op)
    | error code =>
      have hsame : c.SameEngine (c.completed code) :=
        { busy := hended.1.symm
          latched := hlatched.symm
          engine := hengine.symm
          block := hblock.symm
          beat := hbeat.symm
          buffer := hbuffer.symm
          dmaTxn := rfl
          blkTxn := rfl }
      exact ⟨trivial, updateIrq_quiet hsame (hk _ hsame)⟩

lemma writeRegister_quiet (h : c.Sound) {offset : UInt64} {value : UInt32}
    (hnot : offset = commandReg → c.busy = false → c.done = false → ∀ op,
      config.validate value c.lba c.memAddr c.blockCount ≠ .ok op)
    {k : Bool → DmaBlockController config → Handler (DmaBlockController config)}
    (hk : ∀ written, ∀ c₁ : DmaBlockController config, c.SameEngine c₁ →
      (k written c₁).Always E Quiet fun _ c' => c.SameEngine c') :
    (c.writeRegister offset value k).Always E Quiet fun _ c' => c.SameEngine c' := by
  have hregister {c₁ : DmaBlockController config} (hsame : c.SameEngine c₁) :
      (k true c₁).Always E Quiet fun _ c' => c.SameEngine c' := hk true c₁ hsame
  have hsame : c.SameEngine c := .refl c
  unfold writeRegister
  by_cases hcommand : offset = commandReg
  · rw [if_pos hcommand]
    exact command_quiet h (hnot hcommand) (hk true)
  rw [if_neg hcommand]
  by_cases hstatus : offset = statusReg
  · rw [if_pos hstatus]
    refine hregister ?_
    split
    · exact { hsame with }
    · exact hsame
  rw [if_neg hstatus]
  by_cases hlba : offset = lbaReg
  · rw [if_pos hlba]
    exact hregister { hsame with }
  rw [if_neg hlba]
  by_cases haddr : offset = memAddrReg
  · rw [if_pos haddr]
    exact hregister { hsame with }
  rw [if_neg haddr]
  by_cases hcount : offset = blockCountReg
  · rw [if_pos hcount]
    exact hregister { hsame with }
  rw [if_neg hcount]
  by_cases hirq : offset = irqEnableReg
  · rw [if_pos hirq]
    exact updateIrq_quiet { hsame with } (hregister { hsame with })
  rw [if_neg hirq]
  by_cases hack : offset = ackReg
  · rw [if_pos hack]
    split
    · exact updateIrq_quiet { hsame with } (hregister { hsame with })
    · exact hregister hsame
  rw [if_neg hack]
  exact hk false c hsame

lemma serve_quiet (h : c.Sound) {word : Option UInt64} {msg : MemV1.MemMsg}
    (hnot : ∀ txn addr data value op, msg = .writeReq txn addr data → word = some commandReg →
      word? data = some value → c.busy = false → c.done = false →
        config.validate value c.lba c.memAddr c.blockCount ≠ .ok op) :
    (c.serve word msg).Always E Quiet fun _ c' => c.SameEngine c' := by
  have hsame : c.SameEngine c := .refl c
  cases msg with
  | readReq txn addr len =>
    rw [serve]
    split
    · exact respond_quiet hsame _
    · exact respond_quiet hsame _
  | writeReq txn addr data =>
    cases word with
    | none => exact respond_quiet hsame _
    | some offset =>
      cases hvalue : word? data with
      | none =>
        simp only [serve, hvalue]
        exact respond_quiet hsame _
      | some value =>
        simp only [serve, hvalue]
        refine writeRegister_quiet h (fun hcommand hbusy hdone op => ?_)
          fun _ _ hnext => respond_quiet hnext _
        exact hnot txn addr data value op rfl (congrArg some hcommand) hvalue hbusy hdone
  | readResp => exact hsame
  | writeResp => exact hsame

/-- Whatever is accessed, the engine stays where it is, unless a command is accepted. -/
lemma request_quiet (h : c.Sound) {msg : MemV1.MemMsg} (hnot : ¬c.Starts msg) :
    (c.request msg).Always E Quiet fun _ c' => c.SameEngine c' := by
  have hsame : c.SameEngine c := .refl c
  unfold request
  split
  · exact hsame
  · exact hsame
  · refine serve_quiet h fun txn addr data value op _ hword => ?_
    cases hword
  next first last haccess =>
    refine serve_quiet h fun txn addr data value op hmsg hword hvalue hbusy hdone hvalid => ?_
    split at hword
    · obtain rfl := Option.some.inj hword
      subst hmsg
      obtain ⟨rfl, -⟩ := Access.ofRange_eq_bytes.mp (Option.some.inj haccess)
      exact hnot ⟨hbusy, hdone, txn, data, value, op, rfl, hvalue, hvalid⟩
    · cases hword

end

/-! ## Commands -/

lemma respond_performs {resp : MemV1.MemMsg} : (c.respond resp).Performs env calls c' ↔
    calls = [.sent memPort (.memV1 resp) (scheduleWhen config.latency) .complete] ∧ c' = c := by
  simp [respond, performs_send, performs_ok]

lemma length_of_word? {data : Bytes} {value : UInt32} (hvalue : word? data = some value) :
    data.length = 4 := by
  unfold word? at hvalue
  by_contra hne
  rw [if_neg hne] at hvalue
  cases hvalue

/-- A write to `COMMAND` is served as one. -/
lemma request_command {txn : TxnId} {data : Bytes} {value : UInt32}
    (hvalue : word? data = some value) :
    c.request (.writeReq txn commandReg data) =
      c.command value fun next => next.respond (.writeResp txn .done) := by
  have hlength := length_of_word? hvalue
  have haccess : (MemV1.MemMsg.writeReq txn commandReg data).access = some (.bytes 0 3) := by
    rw [MemMsg.access, hlength]
    rfl
  have hword : (if (3 : UInt64) - 0 = 3 ∧ (0 : UInt64) % 4 = 0 ∧ 0 < windowSize then
      some (0 : UInt64) else none) = some commandReg := by decide
  simp only [request, haccess, hword, serve, hvalue]
  rfl

/-- The controller with a command accepted. -/
def started (c : DmaBlockController config) (op : Operation) : DmaBlockController config :=
  { c with busy := true,
           latched := some { op, lba := c.lba, addr := c.memAddr, count := c.blockCount },
           engine := .issue }

/-- A command that passes validation asks for one wake, and is answered. -/
lemma request_starts {txn : TxnId} {data : Bytes} {value : UInt32} {op : Operation}
    (hbusy : c.busy = false) (hdone : c.done = false) (hvalue : word? data = some value)
    (hvalid : config.validate value c.lba c.memAddr c.blockCount = .ok op) :
    (c.request (.writeReq txn commandReg data)).Performs env calls c' ↔
      calls = [.traced commandKind [("op", .u64 value.toUInt64), ("lba", .u64 c.lba.toUInt64),
          ("addr", .u64 c.memAddr.toUInt64), ("count", .u64 c.blockCount.toUInt64),
          ("accepted", .bool true)], wakeCall config,
        .sent memPort (.memV1 (.writeResp txn .done)) (scheduleWhen config.latency) .complete] ∧
      c' = c.started op := by
  rw [request_command hvalue]
  simp [command, hbusy, hdone, hvalid, performs_trace, wakeNextCycle_performs, respond_performs,
    started, Except.isOk, Except.toBool]

/-- A command while another one runs, or before it is acknowledged, is answered, and leaves nothing
behind but `REJECTED`. -/
lemma request_rejects {txn : TxnId} {data : Bytes} {value : UInt32}
    (hended : c.busy = true ∨ c.done = true) (hvalue : word? data = some value) :
    (c.request (.writeReq txn commandReg data)).Performs env calls c' ↔
      calls = [.traced rejectedKind [],
        .sent memPort (.memV1 (.writeResp txn .done)) (scheduleWhen config.latency) .complete] ∧
      c' = { c with rejected := true } := by
  rw [request_command hvalue]
  simp [command, hended, performs_trace, respond_performs]

end DmaBlockController

end SystemScope.Platform
