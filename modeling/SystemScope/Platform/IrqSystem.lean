import SystemScope.Framework.LevelLine
import SystemScope.Platform.DmaEngine
import SystemScope.Platform.IrqController
import SystemScope.Rv32i.Refinement

/-!
# Interrupt lines

A DMA controller drives a source of an interrupt controller, which drives the CPU.  Each of them
handles whatever else it is sent in between, in any order, and levels travel as long as they like.
In every state that is reached either sender has last said what its level is now, and either line
is faithful (`levels_exact`): no level is lost, and none is stuck.
-/

namespace SystemScope.Platform

open Handler Rv32i

/-- The levels that calls send on a port. -/
def levelsOn (port : PortId) (calls : List Call) : List Bool :=
  calls.filterMap fun
    | .sent p (.irq (.level asserted)) _ _ => if p = port then some asserted else none
    | .sent .. | .woke .. | .traced .. => none

lemma levelsOn_append (port : PortId) (calls calls' : List Call) :
    levelsOn port (calls ++ calls') = levelsOn port calls ++ levelsOn port calls' :=
  List.filterMap_append

/-- A handler tells a level when it changes, and only then. -/
def Tells (before after : Bool) (levels : List Bool) : Prop :=
  levels = [] ∧ after = before ∨ levels = [after] ∧ after ≠ before

/-! ## The DMA controller -/

namespace DmaBlockController

variable {config : DmaBlockControllerConfig} {c c₁ c' : DmaBlockController config}
  {env : Surroundings} {calls : List Call}
  {k : DmaBlockController config → Handler (DmaBlockController config)}

/-- What a handler goes on with says no level. -/
def Mute (k : DmaBlockController config → Handler (DmaBlockController config)) : Prop :=
  ∀ c env calls c', (k c).Performs env calls c' → levelsOn irqPort calls = [] ∧ c' = c

lemma mute_finish : Mute (finish : DmaBlockController config → _) := by
  intro c env calls c' h
  obtain ⟨rfl, rfl⟩ := finish_performs.mp h
  exact ⟨rfl, rfl⟩

lemma mute_respond {resp : MemV1.MemMsg} :
    Mute fun c : DmaBlockController config => c.respond resp := by
  intro c env calls c' h
  obtain ⟨rfl, rfl⟩ := respond_performs.mp h
  exact ⟨rfl, rfl⟩

lemma levelsOn_irqCalls : Tells c.irqLevel c.level (levelsOn irqPort c.irqCalls) := by
  unfold irqCalls
  by_cases hlevel : c.level = c.irqLevel
  · rw [if_pos hlevel]
    exact .inl ⟨rfl, hlevel⟩
  · rw [if_neg hlevel]
    exact .inr ⟨rfl, hlevel⟩

lemma updateIrq_tells (hk : Mute k) (h : (c.updateIrq k).Performs env calls c') :
    Tells c.irqLevel c'.irqLevel (levelsOn irqPort calls) := by
  obtain ⟨rest, rfl, hrest⟩ := updateIrq_performs.mp h
  obtain ⟨hmute, rfl⟩ := hk _ _ _ _ hrest
  rw [levelsOn_append, hmute, List.append_nil]
  exact levelsOn_irqCalls

lemma complete_tells {code : UInt8} (hk : Mute k) (h : (c.complete code k).Performs env calls c') :
    Tells c.irqLevel c'.irqLevel (levelsOn irqPort calls) := by
  obtain ⟨rest, rfl, hrest⟩ := performs_trace.mp h
  have htells := updateIrq_tells hk hrest
  exact htells

/-- The end of a command says the level if it changed. -/
lemma endCalls_tells {code : UInt8} :
    Tells c.irqLevel (c.completed code).irqLevel (levelsOn irqPort (c.endCalls code)) := by
  have hcomplete : (c.complete code finish).Performs ⟨0, 0, .complete, fun _ => 0⟩
    (c.endCalls code) (c.completed code) := complete_finish_performs.mpr ⟨rfl, rfl⟩
  exact complete_tells mute_finish hcomplete

lemma command_tells {value : UInt32} (hk : Mute k) (h : (c.command value k).Performs env calls c') :
    Tells c.irqLevel c'.irqLevel (levelsOn irqPort calls) := by
  unfold command at h
  by_cases hended : (c.busy || c.done) = true
  · rw [if_pos hended] at h
    obtain ⟨rest, rfl, hrest⟩ := performs_trace.mp h
    obtain ⟨hmute, rfl⟩ := hk _ _ _ _ hrest
    exact .inl ⟨hmute, rfl⟩
  · rw [if_neg hended] at h
    obtain ⟨rest, rfl, hrest⟩ := performs_trace.mp h
    cases hvalid : config.validate value c.lba c.memAddr c.blockCount with
    | ok op =>
      rw [hvalid] at hrest
      obtain ⟨rest', rfl, hrest'⟩ := wakeNextCycle_performs.mp hrest
      obtain ⟨hmute, rfl⟩ := hk _ _ _ _ hrest'
      exact .inl ⟨hmute, rfl⟩
    | error code =>
      rw [hvalid] at hrest
      have htells := complete_tells hk hrest
      exact htells

lemma writeRegister_tells {offset : UInt64} {value : UInt32}
    {k : Bool → DmaBlockController config → Handler (DmaBlockController config)}
    (hk : ∀ written, Mute (k written))
    (h : (c.writeRegister offset value k).Performs env calls c') :
    Tells c.irqLevel c'.irqLevel (levelsOn irqPort calls) := by
  have hplain {written : Bool} {c₁ : DmaBlockController config} (hsame : c₁.irqLevel = c.irqLevel)
      (h : (k written c₁).Performs env calls c') :
      Tells c.irqLevel c'.irqLevel (levelsOn irqPort calls) := by
    obtain ⟨hmute, rfl⟩ := hk written _ _ _ _ h
    exact .inl ⟨hmute, hsame⟩
  unfold writeRegister at h
  by_cases hcommand : offset = commandReg
  · rw [if_pos hcommand] at h
    exact command_tells (hk true) h
  rw [if_neg hcommand] at h
  by_cases hstatus : offset = statusReg
  · rw [if_pos hstatus] at h
    refine hplain ?_ h
    split <;> rfl
  rw [if_neg hstatus] at h
  by_cases hlba : offset = lbaReg
  · rw [if_pos hlba] at h
    exact hplain (by rfl) h
  rw [if_neg hlba] at h
  by_cases haddr : offset = memAddrReg
  · rw [if_pos haddr] at h
    exact hplain (by rfl) h
  rw [if_neg haddr] at h
  by_cases hcount : offset = blockCountReg
  · rw [if_pos hcount] at h
    exact hplain (by rfl) h
  rw [if_neg hcount] at h
  by_cases hirq : offset = irqEnableReg
  · rw [if_pos hirq] at h
    have htells := updateIrq_tells (hk true) h
    exact htells
  rw [if_neg hirq] at h
  by_cases hack : offset = ackReg
  · rw [if_pos hack] at h
    split at h
    · have htells := updateIrq_tells (hk true) h
      exact htells
    · exact hplain (by rfl) h
  rw [if_neg hack] at h
  exact hplain (by rfl) h

lemma serve_tells {word : Option UInt64} {msg : MemV1.MemMsg}
    (h : (c.serve word msg).Performs env calls c') :
    Tells c.irqLevel c'.irqLevel (levelsOn irqPort calls) := by
  have hrespond {resp : MemV1.MemMsg} (h : (c.respond resp).Performs env calls c') :
      Tells c.irqLevel c'.irqLevel (levelsOn irqPort calls) := by
    obtain ⟨hmute, rfl⟩ := mute_respond _ _ _ _ h
    exact .inl ⟨hmute, rfl⟩
  cases msg with
  | readReq txn addr len =>
    rw [serve] at h
    split at h
    · exact hrespond h
    · exact hrespond h
  | writeReq txn addr data =>
    unfold serve at h
    dsimp only at h
    split at h
    · exact writeRegister_tells (fun _ => mute_respond) h
    · exact hrespond h
  | readResp => exact (reject_performs.mp h).elim
  | writeResp => exact (reject_performs.mp h).elim

lemma request_tells {msg : MemV1.MemMsg} (h : (c.request msg).Performs env calls c') :
    Tells c.irqLevel c'.irqLevel (levelsOn irqPort calls) := by
  unfold request at h
  split at h
  · exact (reject_performs.mp h).elim
  · exact (reject_performs.mp h).elim
  · exact serve_tells h
  · exact serve_tells h

lemma issue_tells (h : c.issue.Performs env calls c') :
    Tells c.irqLevel c'.irqLevel (levelsOn irqPort calls) := by
  obtain ⟨l, -, -, h⟩ := issue_performs.mp h
  unfold Issues at h
  split at h
  · split at h
    · obtain ⟨lba, next, -, -, rfl, rfl⟩ := issueReadBlock_performs.mp h
      exact .inl ⟨rfl, rfl⟩
    · obtain ⟨addr, next, -, -, -, rfl, rfl⟩ := issueWriteBeat_performs.mp h
      exact .inl ⟨rfl, rfl⟩
  · split at h
    · obtain ⟨lba, next, -, -, rfl, rfl⟩ := issueWriteBlock_performs.mp h
      exact .inl ⟨rfl, rfl⟩
    · obtain ⟨addr, next, -, -, rfl, rfl⟩ := issueReadBeat_performs.mp h
      exact .inl ⟨rfl, rfl⟩

lemma nextBlock_tells {l : Latched} (h : (c.nextBlock l).Performs env calls c') :
    Tells c.irqLevel c'.irqLevel (levelsOn irqPort calls) := by
  obtain ⟨-, h⟩ := nextBlock_performs.mp h
  split at h
  · obtain ⟨rfl, rfl⟩ := h
    exact endCalls_tells
  · obtain ⟨rfl, rfl⟩ := h
    exact .inl ⟨rfl, rfl⟩

lemma mediaResult_tells {msg : BlockMsg} (h : (c.mediaResult msg).Performs env calls c') :
    Tells c.irqLevel c'.irqLevel (levelsOn irqPort calls) := by
  obtain ⟨txn, l, -, -, -, h⟩ := mediaResult_performs.mp h
  unfold MediaAnswers at h
  split at h
  · rcases h with ⟨data, -, -, rfl, rfl⟩ | ⟨e, -, rfl, rfl⟩
    · exact .inl ⟨rfl, rfl⟩
    · exact endCalls_tells
  · rcases h with ⟨-, h⟩ | ⟨e, -, rfl, rfl⟩
    · exact nextBlock_tells h
    · exact endCalls_tells

lemma beatResult_tells {msg : MemV1.MemMsg} (h : (c.beatResult msg).Performs env calls c') :
    Tells c.irqLevel c'.irqLevel (levelsOn irqPort calls) := by
  obtain ⟨txn, l, -, -, -, h⟩ := beatResult_performs.mp h
  unfold BeatAnswers at h
  split at h
  · rcases h with ⟨-, h⟩ | ⟨f, -, rfl, rfl⟩
    · split at h
      · have htells := nextBlock_tells h
        exact htells
      · obtain ⟨rfl, rfl⟩ := h
        exact .inl ⟨rfl, rfl⟩
    · exact endCalls_tells
  · rcases h with ⟨data, -, -, rfl, rfl⟩ | ⟨f, -, rfl, rfl⟩
    · exact .inl ⟨rfl, rfl⟩
    · exact endCalls_tells

/-- Whatever the controller is sent, it says its level when it changes, and only then. -/
lemma handleEvent_tells {delivery : Delivered}
    (h : (c.handleEvent delivery).Performs env calls c') :
    Tells c.irqLevel c'.irqLevel (levelsOn irqPort calls) := by
  unfold handleEvent at h
  split at h
  · split at h
    · exact request_tells h
    · split at h
      · exact beatResult_tells h
      · exact (reject_performs.mp h).elim
  · split at h
    · exact mediaResult_tells h
    · exact (reject_performs.mp h).elim
  · split at h
    · exact issue_tells h
    · exact (reject_performs.mp h).elim
  · exact (reject_performs.mp h).elim
  · exact (reject_performs.mp h).elim

end DmaBlockController

/-! ## The interrupt controller -/

namespace SimpleIrqController

variable {config : IrqControllerConfig} {c c' : SimpleIrqController config} {env : Surroundings}
  {calls : List Call} {k : SimpleIrqController config → Handler (SimpleIrqController config)}

/-- The level of a source. -/
def line (c : SimpleIrqController config) (index : UInt8) : Bool :=
  c.pending.toBitVec.getLsbD index.toNat

/-- What a handler does to the output: nothing, or it brings it up to date. -/
structure Updates (c c' : SimpleIrqController config) (calls : List Call) : Prop where
  tells : Tells c.out c'.out (levelsOn (cpuPort config) calls)
  upToDate : c.out = c.meip → c'.out = c'.meip

lemma reject_performs {what : String} : (c.reject what).Performs env calls c' ↔ False :=
  performs_error

lemma finish_performs : c.finish.Performs env calls c' ↔ calls = [] ∧ c' = c := performs_ok

lemma respond_performs {resp : MemV1.MemMsg} : (c.respond resp).Performs env calls c' ↔
    calls = [.sent (memPort config) (.memV1 resp) (scheduleWhen config.latency) .complete] ∧
      c' = c := by
  simp [respond, performs_send, performs_ok]

/-- What a handler goes on with says no level. -/
def Mute (k : SimpleIrqController config → Handler (SimpleIrqController config)) : Prop :=
  ∀ c env calls c', (k c).Performs env calls c' → levelsOn (cpuPort config) calls = [] ∧ c' = c

lemma mute_finish : Mute (finish : SimpleIrqController config → _) := by
  intro c env calls c' h
  obtain ⟨rfl, rfl⟩ := finish_performs.mp h
  exact ⟨rfl, rfl⟩

lemma mute_respond {resp : MemV1.MemMsg} :
    Mute fun c : SimpleIrqController config => c.respond resp := by
  intro c env calls c' h
  obtain ⟨rfl, rfl⟩ := respond_performs.mp h
  exact ⟨rfl, rfl⟩

/-- Bringing the output up to date. -/
lemma updateOutput_updates (hk : Mute k) (h : (c.updateOutput k).Performs env calls c') :
    Tells c.out c'.out (levelsOn (cpuPort config) calls) ∧ c' = { c with out := c.meip } := by
  unfold updateOutput at h
  by_cases hsame : c.meip = c.out
  · rw [if_pos hsame] at h
    obtain ⟨hmute, rfl⟩ := hk _ _ _ _ h
    refine ⟨.inl ⟨hmute, rfl⟩, ?_⟩
    rw [hsame]
  · rw [if_neg hsame] at h
    obtain ⟨rest, rfl, hsend⟩ := performs_trace.mp h
    obtain ⟨rest', rfl, hrest⟩ := performs_send.mp hsend
    obtain ⟨hmute, rfl⟩ := hk _ _ _ _ hrest
    refine ⟨.inr ⟨?_, hsame⟩, rfl⟩
    simp only [levelsOn] at hmute
    simp [levelsOn, hmute]

lemma getLsbD_bit {index i : UInt8} (hindex : index.toNat < 32) :
    ((1 : UInt32) <<< index.toUInt16.toUInt32).toBitVec.getLsbD i.toNat = decide (i = index) := by
  have hsame : i = index ↔ i.toNat = index.toNat := UInt8.toNat_inj.symm
  rw [UInt32.toBitVec_shiftLeft]
  simp only [UInt32.toBitVec_one, BitVec.shiftLeft_eq', BitVec.getLsbD_shiftLeft, hsame]
  simp only [UInt8.toUInt32_toUInt16, BitVec.getLsbD_one, BitVec.toNat_umod,
    UInt32.toNat_toBitVec, UInt8.toNat_toUInt32, BitVec.reduceToNat, Nat.mod_eq_of_lt hindex]
  by_cases heq : i.toNat = index.toNat
  · simp [heq, hindex]
  · rw [decide_eq_false heq]
    by_cases hlt : i.toNat < index.toNat
    · simp [hlt]
    · simp [show i.toNat - index.toNat ≠ 0 by omega]

/-- A source level that is taken is held, and the others are as they were. -/
lemma line_pendingWith {index i : UInt8} (hindex : index.toNat < 32) (hi : i.toNat < 32)
    {asserted : Bool} (out : Bool) :
    line ({ c with pending := c.pendingWith index.toUInt16 asserted, out } :
      SimpleIrqController config) i = if i = index then asserted else c.line i := by
  unfold line pendingWith
  cases asserted with
  | true =>
    simp only [if_true, UInt32.toBitVec_or, BitVec.getLsbD_or, getLsbD_bit hindex]
    by_cases hsame : i = index
    · rw [decide_eq_true hsame, if_pos hsame, Bool.or_true]
    · rw [decide_eq_false hsame, if_neg hsame, Bool.or_false]
  | false =>
    simp only [Bool.false_eq_true, if_false, UInt32.toBitVec_and, UInt32.toBitVec_not,
      BitVec.getLsbD_and, BitVec.getLsbD_not, getLsbD_bit hindex, decide_eq_true hi]
    by_cases hsame : i = index
    · rw [decide_eq_true hsame, if_pos hsame]
      simp
    · rw [decide_eq_false hsame, if_neg hsame]
      simp

lemma level_updates {index : UInt16} {asserted : Bool}
    (h : (c.level index (.level asserted)).Performs env calls c') :
    c.Updates c' calls ∧ ∃ out, c' = { c with pending := c.pendingWith index asserted, out } := by
  unfold level at h
  rw [performs_phase] at h
  by_cases hphase : env.phase = .complete
  · rw [if_neg (not_not.mpr hphase)] at h
    dsimp only at h
    by_cases hsame : c.pendingWith index asserted = c.pending
    · rw [if_pos hsame] at h
      obtain ⟨rfl, rfl⟩ := finish_performs.mp h
      exact ⟨⟨.inl ⟨rfl, rfl⟩, id⟩, c'.out, by rw [hsame]⟩
    · rw [if_neg hsame] at h
      obtain ⟨rest, rfl, hrest⟩ := performs_trace.mp h
      obtain ⟨htells, rfl⟩ := updateOutput_updates mute_finish hrest
      exact ⟨⟨htells, fun _ => rfl⟩, _, rfl⟩
  · rw [if_pos hphase] at h
    exact (reject_performs.mp h).elim

lemma serve_updates {first : Option UInt64} {msg : MemV1.MemMsg}
    (h : (c.serve first msg).Performs env calls c') :
    c.Updates c' calls ∧ c'.pending = c.pending := by
  have hrespond {resp : MemV1.MemMsg} (h : (c.respond resp).Performs env calls c') :
      c.Updates c' calls ∧ c'.pending = c.pending := by
    obtain ⟨hmute, rfl⟩ := mute_respond _ _ _ _ h
    exact ⟨⟨.inl ⟨hmute, rfl⟩, id⟩, rfl⟩
  cases msg with
  | readReq txn addr len => exact hrespond h
  | readResp => exact (reject_performs.mp h).elim
  | writeResp => exact (reject_performs.mp h).elim
  | writeReq txn addr data =>
    unfold serve at h
    dsimp only at h
    split at h
    · split at h
      · obtain ⟨htells, rfl⟩ := updateOutput_updates mute_respond h
        exact ⟨⟨htells, fun _ => rfl⟩, rfl⟩
      · exact hrespond h
    · exact hrespond h

lemma request_updates {msg : MemV1.MemMsg} (h : (c.request msg).Performs env calls c') :
    c.Updates c' calls ∧ c'.pending = c.pending := by
  unfold request at h
  split at h
  · exact (reject_performs.mp h).elim
  · exact (reject_performs.mp h).elim
  · exact serve_updates h
  · exact serve_updates h

/-- What a delivery makes of the level of a source. -/
def lineAfter (c : SimpleIrqController config) (i : UInt8) : Delivered → Bool
  | .message port (.irq (.level asserted)) => if port = srcPort i then asserted else c.line i
  | _ => c.line i

/-- Whatever the controller is sent, its output is brought up to date, and only a level changes a
source: its own. -/
lemma handleEvent_updates (hsources : config.sources.toNat ≤ 32) {delivery : Delivered}
    (h : (c.handleEvent delivery).Performs env calls c') :
    c.Updates c' calls ∧ ∀ i < config.sources, c'.line i = c.lineAfter i delivery := by
  unfold handleEvent at h
  cases delivery with
  | wake token => exact (reject_performs.mp h).elim
  | message port msg =>
    dsimp only at h
    by_cases hsrc : port < cpuPort config
    · rw [if_pos hsrc] at h
      split at h
      next msg =>
        obtain ⟨asserted⟩ := msg
        obtain ⟨hupdates, out, rfl⟩ := level_updates h
        refine ⟨hupdates, fun i hi => ?_⟩
        have hport : port.toNat < config.sources.toNat := hsrc
        have hnat : port.toUInt8.toNat = port.toNat := by
          rw [UInt16.toNat_toUInt8]
          omega
        have hindex : port.toUInt8.toUInt16 = port := by
          rw [← UInt16.toNat_inj, UInt8.toNat_toUInt16, hnat]
        have hi' : i.toNat < config.sources.toNat := hi
        have hline : line ({ c with pending := c.pendingWith port.toUInt8.toUInt16 asserted, out } :
            SimpleIrqController config) i = if i = port.toUInt8 then asserted else c.line i :=
          line_pendingWith (by omega) (by omega) out
        rw [hindex] at hline
        rw [hline]
        unfold lineAfter srcPort
        have hsame : i = port.toUInt8 ↔ port = i.toUInt16 := by
          rw [← UInt8.toNat_inj, ← UInt16.toNat_inj, UInt8.toNat_toUInt16, hnat]
          exact eq_comm
        simp only [hsame]
      · exact (reject_performs.mp h).elim
    · rw [if_neg hsrc] at h
      by_cases hcpu : port = cpuPort config
      · rw [if_pos hcpu] at h
        exact (reject_performs.mp h).elim
      · rw [if_neg hcpu] at h
        by_cases hmem : port = memPort config
        · rw [if_pos hmem] at h
          split at h
          next msg =>
            obtain ⟨hupdates, hpending⟩ := request_updates h
            refine ⟨hupdates, fun i _ => ?_⟩
            unfold line lineAfter
            rw [hpending]
            rfl
          · exact (reject_performs.mp h).elim
        · rw [if_neg hmem] at h
          exact (reject_performs.mp h).elim

end SimpleIrqController

/-! ## The CPU -/

lemma irqLevel_of_level {c c' : Rv32iCpu} {env : Surroundings} {asserted : Bool} {calls : List Call}
    (h : (c.handleEvent (.message Rv32i.irqPort (.irq (.level asserted)))).Performs env calls c') :
    c'.csrs.irqLevel = asserted := by
  obtain ⟨phase, hmoves⟩ :
      ∃ phase, c.Moves phase (.message Rv32i.irqPort (.irq (.level asserted))) calls c' :=
    ⟨env.phase, (Rv32iCpu.perform_handleEvent_iff env).mp h⟩
  cases hmoves with
  | irq => rfl

/-- Nothing else that the CPU is sent changes the level it holds. -/
lemma irqLevel_of_other {c c' : Rv32iCpu} {env : Surroundings} {delivery : Delivered}
    {calls : List Call} (hother : ∀ msg, delivery ≠ .message Rv32i.irqPort msg)
    (h : (c.handleEvent delivery).Performs env calls c') :
    c'.csrs.irqLevel = c.csrs.irqLevel := by
  obtain ⟨phase, hmoves⟩ : ∃ phase, c.Moves phase delivery calls c' :=
    ⟨env.phase, (Rv32iCpu.perform_handleEvent_iff env).mp h⟩
  cases hmoves with
  | issue => rfl
  | answer => rfl
  | irq => exact absurd rfl (hother _)
  | commit hc => exact hc.irqLevel

/-! ## The system -/

/-- A DMA controller, an interrupt controller and a CPU, with the levels that either controller has
sent, oldest first, and those of them that are on their way. -/
structure IrqSystem (dmaConfig : DmaBlockControllerConfig) (irqConfig : IrqControllerConfig) where
  dma : DmaBlockController dmaConfig
  irqc : SimpleIrqController irqConfig
  cpu : Rv32iCpu
  dmaSent : List Bool
  dmaFlight : List Bool
  cpuSent : List Bool
  cpuFlight : List Bool

namespace IrqSystem

variable {dmaConfig : DmaBlockControllerConfig} {irqConfig : IrqControllerConfig}

/-- Three components to which nothing was sent. -/
def start (dma : DmaBlockController dmaConfig) (irqc : SimpleIrqController irqConfig)
    (cpu : Rv32iCpu) : IrqSystem dmaConfig irqConfig where
  dma
  irqc
  cpu
  dmaSent := []
  dmaFlight := []
  cpuSent := []
  cpuFlight := []

/-- The DMA controller has handled something, and sent these levels. -/
def withDma (s : IrqSystem dmaConfig irqConfig) (dma : DmaBlockController dmaConfig)
    (levels : List Bool) : IrqSystem dmaConfig irqConfig :=
  { s with dma, dmaSent := s.dmaSent ++ levels, dmaFlight := s.dmaFlight ++ levels }

/-- The interrupt controller has handled something, and sent these levels. -/
def withIrqc (s : IrqSystem dmaConfig irqConfig) (irqc : SimpleIrqController irqConfig)
    (levels : List Bool) : IrqSystem dmaConfig irqConfig :=
  { s with irqc, cpuSent := s.cpuSent ++ levels, cpuFlight := s.cpuFlight ++ levels }

/-- What can happen: a component handles anything that does not come over one of the two links, or
the oldest level on a link arrives.  A handler that fails stops the session. -/
inductive Step (source : UInt8) :
    IrqSystem dmaConfig irqConfig → IrqSystem dmaConfig irqConfig → Prop
  | dma {s : IrqSystem dmaConfig irqConfig} {env : Surroundings} {delivery : Delivered}
      {calls : List Call} {c : DmaBlockController dmaConfig}
      (h : (s.dma.handleEvent delivery).Performs env calls c) :
      Step source s (s.withDma c (levelsOn DmaBlockController.irqPort calls))
  | irqc {s : IrqSystem dmaConfig irqConfig} {env : Surroundings} {delivery : Delivered}
      {calls : List Call} {c : SimpleIrqController irqConfig}
      (hother : ∀ msg, delivery ≠ .message (SimpleIrqController.srcPort source) msg)
      (h : (s.irqc.handleEvent delivery).Performs env calls c) :
      Step source s (s.withIrqc c (levelsOn (SimpleIrqController.cpuPort irqConfig) calls))
  | sourceLevel {s : IrqSystem dmaConfig irqConfig} {env : Surroundings} {asserted : Bool}
      {rest : List Bool} {calls : List Call} {c : SimpleIrqController irqConfig}
      (hflight : s.dmaFlight = asserted :: rest)
      (h : (s.irqc.handleEvent (.message (SimpleIrqController.srcPort source)
        (.irq (.level asserted)))).Performs env calls c) :
      Step source s (({ s with dmaFlight := rest } : IrqSystem dmaConfig irqConfig).withIrqc c
        (levelsOn (SimpleIrqController.cpuPort irqConfig) calls))
  | cpu {s : IrqSystem dmaConfig irqConfig} {env : Surroundings} {delivery : Delivered}
      {calls : List Call} {c : Rv32iCpu}
      (hother : ∀ msg, delivery ≠ .message Rv32i.irqPort msg)
      (h : (s.cpu.handleEvent delivery).Performs env calls c) : Step source s { s with cpu := c }
  | cpuLevel {s : IrqSystem dmaConfig irqConfig} {env : Surroundings} {asserted : Bool}
      {rest : List Bool} {calls : List Call} {c : Rv32iCpu}
      (hflight : s.cpuFlight = asserted :: rest)
      (h : (s.cpu.handleEvent (.message Rv32i.irqPort (.irq (.level asserted)))).Performs env
        calls c) : Step source s { s with cpu := c, cpuFlight := rest }

/-- The states that the three components reach. -/
inductive Reached (source : UInt8) (s₀ : IrqSystem dmaConfig irqConfig) :
    IrqSystem dmaConfig irqConfig → Prop
  | start : Reached source s₀ s₀
  | step {s s' : IrqSystem dmaConfig irqConfig} (h : Reached source s₀ s)
      (hstep : Step source s s') : Reached source s₀ s'

variable {source : UInt8} {s s' : IrqSystem dmaConfig irqConfig}

/-- The link from the DMA controller. -/
def dmaLine (s : IrqSystem dmaConfig irqConfig) (source : UInt8) : LevelLine where
  sent := s.dmaSent
  flight := s.dmaFlight
  received := s.irqc.line source

/-- The link to the CPU. -/
def cpuLine (s : IrqSystem dmaConfig irqConfig) : LevelLine where
  sent := s.cpuSent
  flight := s.cpuFlight
  received := s.cpu.csrs.irqLevel

/-- Either sender has said what its level is, and either link is faithful. -/
structure Exact (source : UInt8) (s : IrqSystem dmaConfig irqConfig) : Prop where
  sound : s.dma.Sound
  upToDate : s.irqc.out = s.irqc.meip
  dmaLast : LevelLine.last s.dmaSent = s.dma.irqLevel
  cpuLast : LevelLine.last s.cpuSent = s.irqc.out
  dmaLine : (s.dmaLine source).Faithful
  cpuLine : s.cpuLine.Faithful

/-- A sender that tells of each change keeps its link faithful. -/
lemma faithful_of_tells {sent flight levels : List Bool} {received before after : Bool}
    (h : LevelLine.Faithful { sent, flight, received }) (hlast : LevelLine.last sent = before)
    (htells : Tells before after levels) :
    LevelLine.Faithful { sent := sent ++ levels, flight := flight ++ levels, received } ∧
      LevelLine.last (sent ++ levels) = after := by
  rcases htells with ⟨rfl, rfl⟩ | ⟨rfl, hchanged⟩
  · rw [List.append_nil, List.append_nil]
    exact ⟨h, hlast⟩
  · refine ⟨h.send (hlast ▸ hchanged), LevelLine.last_append sent after⟩

lemma Exact.withIrqc (h : Exact source s) {c : SimpleIrqController irqConfig} {calls : List Call}
    (hupdates : s.irqc.Updates c calls) (hline : c.line source = s.irqc.line source) :
    Exact source (s.withIrqc c (levelsOn (SimpleIrqController.cpuPort irqConfig) calls)) := by
  obtain ⟨hfaithful, hlast⟩ := faithful_of_tells h.cpuLine h.cpuLast hupdates.tells
  exact
    { sound := h.sound
      upToDate := hupdates.upToDate h.upToDate
      dmaLast := h.dmaLast
      cpuLast := hlast
      dmaLine := by
        have hdma := h.dmaLine
        unfold IrqSystem.dmaLine at hdma ⊢
        rw [← hline] at hdma
        exact hdma
      cpuLine := hfaithful }

lemma Exact.step (haccepted : dmaConfig.Accepted) (hsources : irqConfig.sources.toNat ≤ 32)
    (hsource : source < irqConfig.sources) (h : Exact source s) (hstep : Step source s s') :
    Exact source s' := by
  cases hstep with
  | @dma env delivery calls c hperforms =>
    have htells := DmaBlockController.handleEvent_tells hperforms
    obtain ⟨hfaithful, hlast⟩ := faithful_of_tells h.dmaLine h.dmaLast htells
    have halways : (s.dma.handleEvent delivery).Always (fun _ => True)
        (SafeCall dmaConfig) (DmaBlockController.Keeps fun _ => True) :=
      DmaBlockController.handleEvent_always haccepted h.sound fun _ => .inr trivial
    have hend := (halways.perform env).2
    rw [hperforms] at hend
    exact
      { sound := hend.1
        upToDate := h.upToDate
        dmaLast := hlast
        cpuLast := h.cpuLast
        dmaLine := hfaithful
        cpuLine := h.cpuLine }
  | @irqc env delivery calls c hother hperforms =>
    obtain ⟨hupdates, hline⟩ := SimpleIrqController.handleEvent_updates hsources hperforms
    refine h.withIrqc hupdates ((hline source hsource).trans ?_)
    unfold SimpleIrqController.lineAfter
    split
    next port asserted =>
      exact if_neg fun heq => hother (.irq (.level asserted)) (by rw [heq])
    · rfl
  | @sourceLevel env asserted rest calls c hflight hperforms =>
    obtain ⟨hupdates, hline⟩ := SimpleIrqController.handleEvent_updates hsources hperforms
    have hheld : c.line source = asserted := (hline source hsource).trans (if_pos rfl)
    obtain ⟨hfaithful, hlast⟩ := faithful_of_tells h.cpuLine h.cpuLast hupdates.tells
    have hdelivered := h.dmaLine.deliver hflight
    exact
      { sound := h.sound
        upToDate := hupdates.upToDate h.upToDate
        dmaLast := h.dmaLast
        cpuLast := hlast
        dmaLine := by
          unfold IrqSystem.dmaLine IrqSystem.withIrqc
          dsimp only
          rw [hheld]
          exact hdelivered
        cpuLine := hfaithful }
  | @cpu env delivery calls c hother hperforms =>
    have hlevel := irqLevel_of_other hother hperforms
    exact
      { h with
        cpuLine := by
          have hcpu := h.cpuLine
          unfold IrqSystem.cpuLine at hcpu ⊢
          rw [← hlevel] at hcpu
          exact hcpu }
  | @cpuLevel env asserted rest calls c hflight hperforms =>
    have hlevel := irqLevel_of_level hperforms
    have hdelivered := h.cpuLine.deliver hflight
    exact
      { h with
        cpuLine := by
          unfold IrqSystem.cpuLine
          dsimp only
          rw [hlevel]
          exact hdelivered }

lemma exact_start {dma : DmaBlockController dmaConfig} {irqc : SimpleIrqController irqConfig}
    {cpuConfig : Rv32iConfig} {cpu : Rv32iCpu} (hdma : DmaBlockController.new dmaConfig = .ok dma)
    (hirqc : SimpleIrqController.new irqConfig = .ok irqc)
    (hcpu : Rv32iCpu.new cpuConfig = .ok cpu) : Exact source (start dma irqc cpu) := by
  obtain ⟨-, rfl⟩ := DmaBlockController.new_eq_ok hdma
  unfold SimpleIrqController.new at hirqc
  unfold Rv32iCpu.new at hcpu
  split_ifs at hirqc
  split_ifs at hcpu
  obtain rfl := Except.ok.inj hirqc
  obtain rfl := Except.ok.inj hcpu
  exact
    { sound := DmaBlockController.fresh_sound
      upToDate := by
        simp [start, SimpleIrqController.meip]
      dmaLast := rfl
      cpuLast := rfl
      dmaLine := by
        have hlow : (start (DmaBlockController.fresh dmaConfig)
          ({ pending := 0, enable := 0, out := false } : SimpleIrqController irqConfig)
          (Rv32iCpu.reset cpuConfig)).dmaLine source = .low := by
          simp [dmaLine, start, SimpleIrqController.line, LevelLine.low]
        rw [hlow]
        exact .low
      cpuLine := .low }

/-- Interrupt levels are never lost and never stuck.  In every state that a new DMA controller, a
new interrupt controller and a CPU at reset reach, either controller has last sent what its level is
now, the levels on either link alternate and the first one is asserted, and with nothing on its way
either receiver holds the level that was sent last. -/
theorem levels_exact {dma : DmaBlockController dmaConfig} {irqc : SimpleIrqController irqConfig}
    {cpuConfig : Rv32iConfig} {cpu : Rv32iCpu} (hdma : DmaBlockController.new dmaConfig = .ok dma)
    (hirqc : SimpleIrqController.new irqConfig = .ok irqc)
    (hcpu : Rv32iCpu.new cpuConfig = .ok cpu) (hsource : source < irqConfig.sources)
    (hreached : Reached source (start dma irqc cpu) s) :
    (s.dma.irqLevel = (s.dma.done && decide (s.dma.irqEnable &&& 1 ≠ 0)) ∧
      LevelLine.last s.dmaSent = s.dma.irqLevel) ∧
    (s.irqc.out = decide (s.irqc.pending &&& s.irqc.enable ≠ 0) ∧
      LevelLine.last s.cpuSent = s.irqc.out) ∧
    LevelLine.Alternates s.dmaSent ∧ LevelLine.Alternates s.cpuSent ∧
    (s.dmaFlight = [] → s.irqc.line source = LevelLine.last s.dmaSent) ∧
    (s.cpuFlight = [] → s.cpu.csrs.irqLevel = LevelLine.last s.cpuSent) := by
  have haccepted := (DmaBlockController.new_eq_ok hdma).1
  have hsources : irqConfig.sources.toNat ≤ 32 := by
    unfold SimpleIrqController.new at hirqc
    split_ifs at hirqc with hnone hmany
    exact UInt8.le_iff_toNat_le.mp (UInt8.not_lt.mp hmany)
  have hexact : Exact source s := by
    induction hreached with
    | start => exact exact_start hdma hirqc hcpu
    | step _ hstep ih => exact ih.step haccepted hsources hsource hstep
  exact ⟨⟨hexact.sound.level, hexact.dmaLast⟩, ⟨hexact.upToDate, hexact.cpuLast⟩,
    hexact.dmaLine.alternates, hexact.cpuLine.alternates, fun hflight =>
      hexact.dmaLine.settled hflight,
    fun hflight => hexact.cpuLine.settled hflight⟩

/-- An interrupt controller with one source. -/
def oneSource : IrqControllerConfig where
  sources := 1
  latency := .cycles 0 1

/-- A CPU with an interrupt line. -/
def lineCpu : Rv32iConfig where
  clock := 0
  entry := 0
  maxInstructions := 1
  nonzero := by decide
  profile := .m2

/-- A command that fails while interrupts are enabled raises the line. -/
theorem levels_exact_raised : ∃ s : IrqSystem DmaBlockController.topConfig oneSource,
    s.dma.done = true ∧ s.dmaSent = [true] ∧ s.dmaFlight = [] ∧ s.irqc.line 0 = true := by
  have henabled : Reached 0
      (start (DmaBlockController.fresh DmaBlockController.topConfig)
        ({ pending := 0, enable := 0, out := false } : SimpleIrqController oneSource)
        (Rv32iCpu.reset lineCpu)) _ :=
    .step .start (.dma
      (show (DmaBlockController.handleEvent _
        (.message DmaBlockController.memPort (.memV1 (.writeReq 0 0x14 [1, 0, 0, 0])))).Performs
          ⟨0, 0, .transfer, fun _ => 0⟩ _ _ from rfl))
  have hfailed := henabled.step (.dma
    (show (DmaBlockController.handleEvent _
      (.message DmaBlockController.memPort (.memV1 (.writeReq 1 0 [9, 0, 0, 0])))).Performs
        ⟨0, 0, .transfer, fun _ => 0⟩ _ _ from rfl))
  have hraised := hfailed.step (.sourceLevel rfl
    (show (SimpleIrqController.handleEvent _ _).Performs ⟨0, 0, .complete, fun _ => 0⟩ _
      _ from rfl))
  have hcpu : Rv32iCpu.new lineCpu = .ok (Rv32iCpu.reset lineCpu) := rfl
  have hexact := levels_exact rfl rfl hcpu (by decide) hraised
  exact ⟨_, rfl, rfl, rfl, hexact.2.2.2.2.1 rfl⟩

end IrqSystem

end SystemScope.Platform
