import SystemScope.Platform.DmaSystem

/-!
# The course of a DMA transfer

`At x others log₀ i t stage s` says that the transfer `x` is at exchange `t` of block `i` in the
state `s`, and how far that exchange is.  Each step of the engine takes one stage to the next
(`At.engine_step`), and nothing else moves it (`At.meanwhile`); so a run is at the stage that its
number of engine steps says, until the last one ends the command (`At.during`).  A request that is
refused ends it at once (`At.answer_refused`).
-/

namespace SystemScope.Platform

open DmaBlockController Handler

/-- How far an exchange is. -/
inductive Stage
  /-- The wake that sends the request is due. -/
  | due
  /-- The request is on its way. -/
  | asked
  /-- The answer is on its way. -/
  | answered
  /-- The request was refused with this answer, which is on its way. -/
  | refused (answer : Message)

namespace Stage

/-- The wakes on their way. -/
def wakes : Stage → List UInt64
  | .due => [issueToken]
  | .asked | .answered | .refused _ => []

def requests (e : Exchange) : Stage → List (PortId × Message)
  | .asked => [(e.port, e.request)]
  | .due | .answered | .refused _ => []

def answers (e : Exchange) : Stage → List (PortId × Message)
  | .answered => [(e.port, e.answer)]
  | .refused answer => [(e.port, answer)]
  | .due | .asked => []

/-- What was said in the exchange. -/
def log (e : Exchange) : Stage → List Traffic
  | .due => []
  | .asked | .answered | .refused _ => [.asked e.port e.request]

/-- Whether the request was sent, as a number. -/
def sent : Stage → ℕ
  | .due => 0
  | .asked | .answered | .refused _ => 1

/-- Whether the request was served, as a number. -/
def served : Stage → ℕ
  | .answered => 1
  | .due | .asked | .refused _ => 0

/-- The engine's steps in the exchange so far. -/
def index : Stage → ℕ
  | .due => 0
  | .asked => 1
  | .answered | .refused _ => 2

lemma index_le (stage : Stage) : stage.index ≤ 2 := by
  cases stage with
  | due => decide
  | asked => decide
  | answered => exact le_rfl
  | refused _ => exact le_rfl

end Stage

/-- What is said in an exchange that is served. -/
def Exchange.traffic (e : Exchange) : List Traffic :=
  [.asked e.port e.request, .answered e.port e.answer]

namespace Transfer

variable (x : Transfer)

/-- What the engine waits for in exchange `t` of block `i`. -/
def waiting (i t : ℕ) : Engine :=
  if x.AsksBlock t then .waitMedia (UInt64.ofNat (x.blkTxn + i))
  else .waitBeat (UInt64.ofNat (x.dmaTxn + x.beatsBefore i t))

def engineAt (i t : ℕ) : Stage → Engine
  | .due => .issue
  | .asked | .answered | .refused _ => x.waiting i t

def beatAt (t : ℕ) : ℕ :=
  match x.command.op with
  | .read => t - 1
  | .write => t

/-- What the engine holds of the block. -/
def bufferAt (i t : ℕ) (stage : Stage) : Bytes :=
  match x.command.op with
  | .read => if t = 0 then [] else (x.sourceBlock i).toList
  | .write =>
    if t = 32 ∧ stage.sent = 1 then []
    else x.source.bytes (x.addr + blockSize * i) (beatSize * t)

/-- The transfer is at exchange `t` of block `i`. -/
structure At (others : Others) (log₀ : List Traffic) (i t : ℕ) (stage : Stage)
    {config : DmaBlockControllerConfig} (s : DmaSystem config) : Prop where
  block_lt : i < x.count
  step_lt : t < 33
  sound : s.dma.Sound
  latched : s.dma.latched = some x.command
  engine : s.dma.engine = x.engineAt i t stage
  block : s.dma.block.toNat = i
  beat : s.dma.beat.toNat = x.beatAt t
  buffer : s.dma.buffer = x.bufferAt i t stage
  dmaTxn : s.dma.dmaTxn.toNat = x.dmaTxn + x.beatsBefore i (t + stage.sent)
  blkTxn : s.dma.blkTxn.toNat = x.blkTxn + x.blocksBefore i (t + stage.sent)
  wakes : s.wakes = stage.wakes
  requests : s.requests = stage.requests (x.exchange i t)
  answers : s.answers = stage.answers (x.exchange i t)
  held : s.held.Agrees others (x.after i (t + stage.served))
  log : s.log = log₀ ++ (x.before i t).flatMap Exchange.traffic ++ stage.log (x.exchange i t)

/-- The command has ended before exchange `t` of block `i`. -/
structure Ended (others : Others) (i t : ℕ) (code : UInt8)
    {config : DmaBlockControllerConfig} (s : DmaSystem config) : Prop where
  busy : s.dma.busy = false
  done : s.dma.done = true
  error : s.dma.error = code
  engine : s.dma.engine = .idle
  block : s.dma.block = 0
  beat : s.dma.beat = 0
  buffer : s.dma.buffer = []
  quiet : s.Quiet
  held : s.held.Agrees others (x.after i t)

/-- The command has ended with all of it done. -/
structure Finished (others : Others) (log₀ : List Traffic) {config : DmaBlockControllerConfig}
    (s : DmaSystem config) : Prop extends x.Ended others x.count 0 0 s where
  log : s.log = log₀ ++ x.exchanges.flatMap Exchange.traffic
  dmaTxn : s.dma.dmaTxn.toNat = x.dmaTxn + x.beatsBefore x.count 0
  blkTxn : s.dma.blkTxn.toNat = x.blkTxn + x.blocksBefore x.count 0

variable {x : Transfer} {others : Others} {log₀ : List Traffic} {i t : ℕ} {stage : Stage}
  {config : DmaBlockControllerConfig} {s s' : DmaSystem config} {env : Surroundings}
  {calls : List Call} {c : DmaBlockController config}

/-! ## Requests -/

lemma ofNat_toNat_eq {n : UInt64} {k : ℕ} (h : n.toNat = k) : UInt64.ofNat k = n := by
  rw [← h, UInt64.ofNat_toNat]

lemma At.issue_block (h : x.At others log₀ i t .due s) (hblock : x.AsksBlock t) :
    s.dma.issue.Performs env calls c ↔ ∃ next, nextTxn s.dma.blkTxn = some next ∧
      calls = [.sent blkPort (x.exchange i t).request .now .request] ∧
      c = { s.dma with blkTxn := next, engine := .waitMedia s.dma.blkTxn, buffer := [] } := by
  obtain ⟨lba, hlba, hlbaNat⟩ := s.dma.exists_blockLba x.command
  have hlbaEq : UInt64.ofNat (x.lba + i) = lba := by
    refine ofNat_toNat_eq ?_
    rw [hlbaNat, h.block]
    rfl
  have htxn : UInt64.ofNat (x.blkTxn + i) = s.dma.blkTxn := by
    refine ofNat_toNat_eq ?_
    rw [h.blkTxn]
    exact congrArg _ (before_succ_block hblock).1
  have hbuffer := h.buffer
  rw [issue_performs_of_latched h.engine h.latched, Issues, exchange_block hblock]
  unfold AsksBlock at hblock
  cases hop : x.command.op with
  | read =>
    rw [hop] at hblock
    dsimp only at hblock ⊢
    simp only [bufferAt, hop, hblock, if_true] at hbuffer
    rw [if_pos hbuffer, issueReadBlock_performs]
    simp only [hlba, Option.some.injEq, exists_and_left, exists_eq_left', blockExchange, hop,
      hlbaEq, htxn, hbuffer]
  | write =>
    rw [hop] at hblock
    dsimp only at hblock ⊢
    subst hblock
    have hbeat : s.dma.beat = beatsPerBlock := by
      rw [← UInt8.toNat_inj, h.beat, beatAt, hop]
      rfl
    have hdata : s.dma.buffer = (x.targetBlock i).toList := by
      rw [hbuffer, ← bytes_targetBlock]
      simp only [bufferAt, hop, Stage.sent]
      rfl
    rw [if_pos hbeat, issueWriteBlock_performs]
    simp only [hlba, Option.some.injEq, exists_and_left, exists_eq_left', blockExchange, hop,
      hlbaEq, htxn, hdata]

lemma At.issue_beat (h : x.At others log₀ i t .due s) (hbeat : ¬x.AsksBlock t) :
    s.dma.issue.Performs env calls c ↔ ∃ next, nextTxn s.dma.dmaTxn = some next ∧
      calls = [.sent dmaPort (x.exchange i t).request .now .request] ∧
      c = { s.dma with dmaTxn := next, engine := .waitBeat s.dma.dmaTxn } := by
  obtain ⟨addr, haddr, haddrNat⟩ := s.dma.exists_beatAddr x.command
  have htxn : UInt64.ofNat (x.dmaTxn + x.beatsBefore i t) = s.dma.dmaTxn := ofNat_toNat_eq h.dmaTxn
  have hbuffer := h.buffer
  have ht := h.step_lt
  rw [h.block, h.beat] at haddrNat
  rw [issue_performs_of_latched h.engine h.latched, Issues, exchange_beat hbeat ht]
  unfold AsksBlock at hbeat
  cases hop : x.command.op with
  | read =>
    rw [hop] at hbeat
    dsimp only at hbeat ⊢
    have hindex : s.dma.beat.toNat = t - 1 := by
      rw [h.beat, beatAt, hop]
    have hbefore : x.beatsBefore i t = 32 * i + (t - 1) := by
      rw [beatsBefore, hop]
    have haddrEq : UInt64.ofNat (x.addr + beatSize * (32 * i + (t - 1))) = addr := by
      refine ofNat_toNat_eq ?_
      rw [haddrNat, beatAt, hop]
      unfold Transfer.addr beatSize
      dsimp only
      omega
    simp only [bufferAt, hop, if_neg hbeat] at hbuffer
    have hfull : s.dma.buffer ≠ [] := by
      rw [hbuffer, ← List.length_pos_iff, length_sourceBlock]
      decide
    have hslice : (t - 1) * beatSize + beatSize ≤ (x.sourceBlock i).toList.length := by
      rw [length_sourceBlock]
      unfold blockSize beatSize
      omega
    rw [if_neg hfull, issueWriteBeat_performs]
    rw [hbefore] at htxn
    simp only [haddr, Option.some.injEq, exists_and_left, exists_eq_left', beatExchange,
      hop, hbefore,
      haddrEq, htxn, hbuffer, hindex, hslice, true_and, map_image (show t - 1 < 32 by omega)]
  | write =>
    rw [hop] at hbeat
    dsimp only at hbeat ⊢
    have hindex : s.dma.beat ≠ beatsPerBlock := by
      intro heq
      have hnat := h.beat
      rw [heq, beatAt, hop] at hnat
      exact hbeat hnat.symm
    have hbefore : x.beatsBefore i t = 32 * i + t := by
      rw [beatsBefore, hop]
      dsimp only
      omega
    have haddrEq : UInt64.ofNat (x.addr + beatSize * (32 * i + t)) = addr := by
      refine ofNat_toNat_eq ?_
      rw [haddrNat, beatAt, hop]
      unfold Transfer.addr beatSize
      dsimp only
      omega
    rw [if_neg hindex, issueReadBeat_performs]
    rw [hbefore] at htxn
    simp only [haddr, Option.some.injEq, exists_and_left, exists_eq_left', beatExchange,
      hop, hbefore,
      haddrEq, htxn]

lemma bufferAt_block (hblock : x.AsksBlock t) : x.bufferAt i t .asked = [] := by
  unfold AsksBlock at hblock
  unfold bufferAt
  cases hop : x.command.op with
  | read =>
    rw [hop] at hblock
    exact if_pos hblock
  | write =>
    rw [hop] at hblock
    exact if_pos ⟨hblock, rfl⟩

lemma bufferAt_beat (hbeat : ¬x.AsksBlock t) : x.bufferAt i t .asked = x.bufferAt i t .due := by
  unfold AsksBlock at hbeat
  unfold bufferAt
  cases hop : x.command.op with
  | read => rfl
  | write =>
    rw [hop] at hbeat
    dsimp only at hbeat ⊢
    rw [if_neg fun hlast => hbeat hlast.1, if_neg fun hlast => hbeat hlast.1]

lemma exchange_port_block (hblock : x.AsksBlock t) : (x.exchange i t).port = blkPort := by
  rw [exchange_block hblock, blockExchange_port]

lemma exchange_port_beat (hbeat : ¬x.AsksBlock t) (ht : t < 33) :
    (x.exchange i t).port = dmaPort := by
  rw [exchange_beat hbeat ht, beatExchange_port]

/-- The wake sends the request. -/
lemma At.wake (haccepted : config.Accepted) (h : x.At others log₀ i t .due s) {token : UInt64}
    {pre post : List UInt64} (hwakes : s.wakes = pre ++ token :: post)
    (hstep : ({ s with wakes := pre ++ post } : DmaSystem config).handle env (.wake token) =
      some s') : x.At others log₀ i t .asked s' := by
  have ht := h.step_lt
  have hsound : s'.dma.Sound := by
    refine DmaSystem.handle_sound haccepted ?_ hstep
    exact h.sound
  have hdue : [issueToken] = pre ++ token :: post := h.wakes.symm.trans hwakes
  obtain ⟨rfl, rfl, rfl⟩ : pre = [] ∧ token = issueToken ∧ post = [] := by
    rcases List.append_eq_singleton_iff.mp hdue.symm with ⟨hpre, hpost⟩ | ⟨-, hnil⟩
    · exact ⟨hpre, List.cons.inj hpost⟩
    · cases hnil
  obtain ⟨calls, c, hperforms, rfl⟩ := DmaSystem.handle_eq_some.mp hstep
  have hissue : s.dma.issue.Performs env calls c := hperforms
  by_cases hblock : x.AsksBlock t
  · obtain ⟨hnow, hnext, hbeats⟩ := before_succ_block (i := i) hblock
    obtain ⟨next, htxn, rfl, rfl⟩ := (h.issue_block hblock).mp hissue
    have hcounter : s.dma.blkTxn.toNat = x.blkTxn + x.blocksBefore i t := h.blkTxn
    rw [nextTxn_eq_some] at htxn
    rw [DmaSystem.take_sent (.inr rfl)] at hsound ⊢
    exact
      { h with
        sound := hsound
        engine := by
          simp only [engineAt, waiting, if_pos hblock, Engine.waitMedia.injEq]
          refine (ofNat_toNat_eq ?_).symm
          rw [hcounter]
          exact congrArg _ hnow
        buffer := (bufferAt_block hblock).symm
        dmaTxn := by
          show s.dma.dmaTxn.toNat = x.dmaTxn + x.beatsBefore i (t + 1)
          rw [hbeats]
          exact h.dmaTxn
        blkTxn := by
          show next.toNat = x.blkTxn + x.blocksBefore i (t + 1)
          rw [htxn, hcounter, hnow, hnext, Nat.add_assoc]
        wakes := rfl
        requests := by
          show s.requests ++ _ = _
          rw [h.requests, Stage.requests, Stage.requests, exchange_port_block hblock]
          rfl
        log := by
          show s.log ++ _ = _
          rw [h.log, Stage.log, Stage.log, exchange_port_block hblock, List.append_nil] }
  · obtain ⟨hnow, hblocks⟩ := before_succ_beat (i := i) hblock ht
    obtain ⟨next, htxn, rfl, rfl⟩ := (h.issue_beat hblock).mp hissue
    have hcounter : s.dma.dmaTxn.toNat = x.dmaTxn + x.beatsBefore i t := h.dmaTxn
    rw [nextTxn_eq_some] at htxn
    rw [DmaSystem.take_sent (.inl rfl)] at hsound ⊢
    exact
      { h with
        sound := hsound
        engine := by
          simp only [engineAt, waiting, if_neg hblock, Engine.waitBeat.injEq]
          exact (ofNat_toNat_eq hcounter).symm
        buffer := h.buffer.trans (bufferAt_beat hblock).symm
        dmaTxn := by
          show next.toNat = x.dmaTxn + x.beatsBefore i (t + 1)
          rw [htxn, hcounter, hnow, Nat.add_assoc]
        blkTxn := by
          show s.dma.blkTxn.toNat = x.blkTxn + x.blocksBefore i (t + 1)
          rw [hblocks]
          exact h.blkTxn
        wakes := rfl
        requests := by
          show s.requests ++ _ = _
          rw [h.requests, Stage.requests, Stage.requests, exchange_port_beat hblock ht]
          rfl
        log := by
          show s.log ++ _ = _
          rw [h.log, Stage.log, Stage.log, exchange_port_beat hblock ht, List.append_nil] }

/-- A counter that has not run out. -/
lemma exists_nextTxn {counter : TxnId} (h : counter.toNat + 1 < 2 ^ 64) :
    ∃ next, nextTxn counter = some next := by
  obtain ⟨next, hnext, -⟩ :=
    checkedAdd_of_lt (show counter.toNat + (1 : UInt64).toNat < 2 ^ 64 from h)
  exact ⟨next, hnext⟩

/-- The counters have room for the whole command. -/
structure Room (x : Transfer) : Prop where
  dmaTxn : x.dmaTxn + 32 * x.count < 2 ^ 64
  blkTxn : x.blkTxn + x.count < 2 ^ 64

/-- While the counters have room, the wake finds a request to send. -/
lemma At.exists_wake (h : x.At others log₀ i t .due s) (hroom : x.Room) (env : Surroundings) :
    ∃ s', s.Engine s' := by
  have ht := h.step_lt
  have hi := h.block_lt
  have hexists : ∃ calls c, s.dma.issue.Performs env calls c := by
    by_cases hblock : x.AsksBlock t
    · have hcounter : s.dma.blkTxn.toNat = x.blkTxn + x.blocksBefore i t := h.blkTxn
      have hbound := hroom.blkTxn
      rw [(before_succ_block hblock).1] at hcounter
      obtain ⟨next, hnext⟩ := exists_nextTxn (show s.dma.blkTxn.toNat + 1 < 2 ^ 64 by omega)
      exact ⟨_, _, (h.issue_block hblock).mpr ⟨next, hnext, rfl, rfl⟩⟩
    · have hcounter : s.dma.dmaTxn.toNat = x.dmaTxn + x.beatsBefore i t := h.dmaTxn
      have hbound := hroom.dmaTxn
      have hbeats := beatsBefore_lt hblock hi ht
      obtain ⟨next, hnext⟩ := exists_nextTxn (show s.dma.dmaTxn.toNat + 1 < 2 ^ 64 by omega)
      exact ⟨_, _, (h.issue_beat hblock).mpr ⟨next, hnext, rfl, rfl⟩⟩
  obtain ⟨calls, c, hperforms⟩ := hexists
  have hwakes : s.wakes = [] ++ issueToken :: [] := h.wakes
  exact ⟨_, .wake hwakes (DmaSystem.handle_eq_some.mpr ⟨calls, c, hperforms, rfl⟩)⟩

/-! ## Serving -/

lemma eq_of_singleton_eq_append_cons {α : Type} {a b : α} {pre post : List α}
    (h : [a] = pre ++ b :: post) : pre = [] ∧ b = a ∧ post = [] := by
  rcases List.append_eq_singleton_iff.mp h.symm with ⟨hpre, hpost⟩ | ⟨-, hnil⟩
  · exact ⟨hpre, List.cons.inj hpost⟩
  · cases hnil

lemma At.request_eq (h : x.At others log₀ i t .asked s) {port : PortId} {msg : Message}
    {pre post : List (PortId × Message)} (hrequests : s.requests = pre ++ (port, msg) :: post) :
    pre = [] ∧ (port, msg) = ((x.exchange i t).port, (x.exchange i t).request) ∧ post = [] :=
  eq_of_singleton_eq_append_cons (h.requests.symm.trans hrequests)

lemma At.serve (hothers : others.Avoid x) (h : x.At others log₀ i t .asked s) {port : PortId}
    {msg answer : Message} {held : Contents} {pre post : List (PortId × Message)}
    (hrequests : s.requests = pre ++ (port, msg) :: post)
    (hserve : s.held.serve msg = some (answer, held)) :
    x.At others log₀ i t .answered
      { s with requests := pre ++ post, answers := s.answers ++ [(port, answer)], held } := by
  obtain ⟨rfl, hmsg, rfl⟩ := h.request_eq hrequests
  obtain ⟨rfl, rfl⟩ := Prod.mk.inj hmsg
  obtain ⟨held', hexpected, hheld⟩ := serve_exchange hothers h.block_lt h.step_lt h.held
  obtain ⟨rfl, rfl⟩ := Prod.mk.inj (Option.some.inj (hserve.symm.trans hexpected))
  exact
    { h with
      requests := rfl
      answers := by
        show s.answers ++ _ = _
        rw [h.answers]
        rfl
      held := hheld }

lemma At.refuse (h : x.At others log₀ i t .asked s) {port : PortId} {msg answer : Message}
    {pre post : List (PortId × Message)} (hrequests : s.requests = pre ++ (port, msg) :: post) :
    x.At others log₀ i t (.refused answer)
      { s with requests := pre ++ post, answers := s.answers ++ [(port, answer)] } := by
  obtain ⟨rfl, hmsg, rfl⟩ := h.request_eq hrequests
  obtain ⟨rfl, rfl⟩ := Prod.mk.inj hmsg
  exact
    { h with
      requests := rfl
      answers := by
        show s.answers ++ _ = _
        rw [h.answers]
        rfl }

/-- A peer can always serve the request. -/
lemma At.exists_serve (hothers : others.Avoid x) (h : x.At others log₀ i t .asked s) :
    ∃ s', s.Engine s' := by
  obtain ⟨held, hserve, -⟩ := serve_exchange hothers h.block_lt h.step_lt h.held
  have hrequests : s.requests = [] ++ ((x.exchange i t).port, (x.exchange i t).request) :: [] :=
    h.requests
  exact ⟨_, .serve hrequests hserve⟩

/-! ## Answers -/

/-- The controller after an answer that does not end a block. -/
def advanced (x : Transfer) (i t : ℕ) (c : DmaBlockController config) :
    DmaBlockController config :=
  match x.command.op with
  | .read =>
    if t = 0 then { c with buffer := (x.sourceBlock i).toList, engine := .issue }
    else { c with beat := c.beat + 1, engine := .issue }
  | .write =>
    { c with buffer := c.buffer ++ x.source.bytes (x.addr + beatSize * (32 * i + t)) beatSize,
             beat := c.beat + 1, engine := .issue }

/-- What the answer to exchange `t` leads to, if it is not a refusal. -/
def Follows (x : Transfer) (i t : ℕ) (c : DmaBlockController config) (calls : List Call)
    (c' : DmaBlockController config) : Prop :=
  if t < 32 then calls = [wakeCall config] ∧ c' = x.advanced i t c
  else if i + 1 = x.count then calls = c.endCalls 0 ∧ c' = c.completed 0
  else calls = [wakeCall config] ∧ c' = c.nextStart

lemma nextBlock_performs_iff {c c' : DmaBlockController config} (hblock : c.block.toNat = i)
    (hi : i < x.count) : (c.nextBlock x.command).Performs env calls c' ↔
      if i + 1 = x.count then calls = c.endCalls 0 ∧ c' = c.completed 0
      else calls = [wakeCall config] ∧ c' = c.nextStart := by
  have hlt : c.block < x.command.count := by
    rw [UInt32.lt_iff_toNat_lt, hblock]
    exact hi
  obtain ⟨hfits, hsucc, -⟩ := succ_lt_count hlt
  have hlast : c.block + 1 = x.command.count ↔ i + 1 = x.count := by
    rw [← UInt32.toNat_inj, hsucc, hblock]
    rfl
  rw [nextBlock_performs, and_iff_right hfits]
  simp only [hlast]

lemma At.media_performs (h : x.At others log₀ i t .answered s) (hblock : x.AsksBlock t) :
    (s.dma.handleEvent (.message (x.exchange i t).port (x.exchange i t).answer)).Performs env calls
      c ↔ env.phase = .complete ∧ x.Follows i t s.dma calls c := by
  have hengine : s.dma.engine = .waitMedia (UInt64.ofNat (x.blkTxn + i)) :=
    h.engine.trans (if_pos hblock)
  have hmedia (msg : BlockMsg) : s.dma.handleEvent (.message blkPort (.block msg)) =
    s.dma.mediaResult msg := rfl
  have hnext : (s.dma.nextBlock x.command).Performs env calls c ↔
      if i + 1 = x.count then calls = s.dma.endCalls 0 ∧ c = s.dma.completed 0
      else calls = [wakeCall config] ∧ c = s.dma.nextStart :=
    nextBlock_performs_iff h.block h.block_lt
  rw [exchange_block hblock, blockExchange_port]
  unfold AsksBlock at hblock
  cases hop : x.command.op with
  | read =>
    rw [hop] at hblock
    dsimp only at hblock
    subst hblock
    simp only [blockExchange, hop, hmedia, mediaResult_performs_of_latched hengine h.latched,
      MediaAnswers]
    simp [Follows, advanced, hop]
  | write =>
    rw [hop] at hblock
    dsimp only at hblock
    subst hblock
    simp only [blockExchange, hop, hmedia, mediaResult_performs_of_latched hengine h.latched, hnext,
      MediaAnswers]
    simp [Follows]

lemma At.memory_performs (h : x.At others log₀ i t .answered s) (hbeat : ¬x.AsksBlock t) :
    (s.dma.handleEvent (.message (x.exchange i t).port (x.exchange i t).answer)).Performs env calls
      c ↔ env.phase = .complete ∧ x.Follows i t s.dma calls c := by
  have hengine : s.dma.engine = .waitBeat (UInt64.ofNat (x.dmaTxn + x.beatsBefore i t)) :=
    h.engine.trans (if_neg hbeat)
  have ht := h.step_lt
  have hnat := h.beat
  have hmemory (msg : MemV1.MemMsg) : s.dma.handleEvent (.message dmaPort (.memV1 msg)) =
    s.dma.beatResult msg := rfl
  have hnext : (({ s.dma with beat := s.dma.beat + 1 } : DmaBlockController config).nextBlock
      x.command).Performs env calls c ↔
      if i + 1 = x.count then calls = s.dma.endCalls 0 ∧ c = s.dma.completed 0
      else calls = [wakeCall config] ∧ c = s.dma.nextStart := by
    refine nextBlock_performs_iff ?_ h.block_lt
    exact h.block
  rw [exchange_beat hbeat ht, beatExchange_port]
  unfold AsksBlock at hbeat
  cases hop : x.command.op with
  | read =>
    rw [hop] at hbeat
    dsimp only at hbeat
    rw [beatAt, hop] at hnat
    have hbeatLt : s.dma.beat < beatsPerBlock := by
      rw [UInt8.lt_iff_toNat_lt, hnat]
      show t - 1 < 32
      omega
    have hlast : s.dma.beat + 1 = beatsPerBlock ↔ ¬t < 32 := by
      rw [← UInt8.toNat_inj, (beat_succ hbeatLt).1, hnat]
      show t - 1 + 1 = 32 ↔ _
      omega
    simp only [beatExchange, hop, hmemory, beatResult_performs_of_latched hengine h.latched, hnext,
      BeatAnswers, hlast, ite_not]
    simp [Follows, advanced, hop, hbeat]
  | write =>
    rw [hop] at hbeat
    dsimp only at hbeat
    have hbefore : x.beatsBefore i t = 32 * i + t := by
      rw [beatsBefore, hop]
      dsimp only
      omega
    have hlt : t < 32 := by omega
    rw [hbefore] at hengine ⊢
    simp only [beatExchange, hop, hmemory, beatResult_performs_of_latched hengine h.latched,
      BeatAnswers]
    simp [Follows, advanced, hop, hlt, length_bytes]

lemma At.answer_performs (h : x.At others log₀ i t .answered s) :
    (s.dma.handleEvent (.message (x.exchange i t).port (x.exchange i t).answer)).Performs env calls
      c ↔ env.phase = .complete ∧ x.Follows i t s.dma calls c := by
  by_cases hblock : x.AsksBlock t
  · exact h.media_performs hblock
  · exact h.memory_performs hblock

/-- The fields of the controller after an answer within a block. -/
lemma advanced_spec (h : x.At others log₀ i t .answered s) (ht : t < 32) :
    (x.advanced i t s.dma).engine = .issue ∧
      (x.advanced i t s.dma).latched = s.dma.latched ∧
      (x.advanced i t s.dma).block = s.dma.block ∧
      (x.advanced i t s.dma).beat.toNat = x.beatAt (t + 1) ∧
      (x.advanced i t s.dma).buffer = x.bufferAt i (t + 1) .due ∧
      (x.advanced i t s.dma).dmaTxn = s.dma.dmaTxn ∧
      (x.advanced i t s.dma).blkTxn = s.dma.blkTxn := by
  have hbeat := h.beat
  have hbuffer := h.buffer
  unfold beatAt at hbeat ⊢
  unfold bufferAt at hbuffer ⊢
  unfold advanced
  cases hop : x.command.op with
  | read =>
    simp only [hop] at hbeat hbuffer
    by_cases hfirst : t = 0
    · subst hfirst
      simp [hbeat]
    · have hlt : s.dma.beat < beatsPerBlock := by
        rw [UInt8.lt_iff_toNat_lt, hbeat]
        show t - 1 < 32
        omega
      rw [if_neg hfirst] at hbuffer
      simp only [if_neg hfirst, Nat.add_sub_cancel, hbuffer, Nat.succ_ne_zero, if_false]
      refine ⟨trivial, trivial, trivial, ?_, trivial, trivial, trivial⟩
      rw [(beat_succ hlt).1, hbeat]
      omega
  | write =>
    simp only [hop] at hbeat hbuffer
    have hlt : s.dma.beat < beatsPerBlock := by
      rw [UInt8.lt_iff_toNat_lt, hbeat]
      exact ht
    have hnotLast : ¬(t = 32 ∧ Stage.answered.sent = 1) := fun hlast => by omega
    have hnotSent : ¬(t + 1 = 32 ∧ Stage.due.sent = 1) := fun hlast => absurd hlast.2 (by decide)
    rw [if_neg hnotLast] at hbuffer
    simp only [hbuffer, if_neg hnotSent]
    refine ⟨trivial, trivial, trivial, ?_, ?_, trivial, trivial⟩
    · rw [(beat_succ hlt).1, hbeat]
    · have haddr : x.addr + beatSize * (32 * i + t) = x.addr + blockSize * i + beatSize * t := by
        unfold blockSize beatSize
        omega
      rw [haddr, bytes_append, Nat.mul_succ]

lemma log_succ (h : x.At others log₀ i t .answered s) :
    s.log ++ [.answered (x.exchange i t).port (x.exchange i t).answer] =
      log₀ ++ (x.before i (t + 1)).flatMap Exchange.traffic := by
  rw [h.log, before_succ, List.flatMap_append]
  simp [Exchange.traffic, Stage.log]

/-- The answer takes the transfer to its next exchange, or ends it. -/
lemma At.answer (haccepted : config.Accepted) (h : x.At others log₀ i t .answered s)
    {port : PortId} {msg : Message} {pre post : List (PortId × Message)}
    (hanswers : s.answers = pre ++ (port, msg) :: post)
    (hstep : ({ s with answers := pre ++ post, log := s.log ++ [.answered port msg] } :
      DmaSystem config).handle env (.message port msg) = some s') :
    (t < 32 ∧ x.At others log₀ i (t + 1) .due s') ∨
      (t = 32 ∧ i + 1 < x.count ∧ x.At others log₀ (i + 1) 0 .due s') ∨
      (t = 32 ∧ i + 1 = x.count ∧ x.Finished others log₀ s') := by
  have hlog := log_succ h
  have ht := h.step_lt
  have hi := h.block_lt
  have hsound : s'.dma.Sound := by
    refine DmaSystem.handle_sound haccepted ?_ hstep
    exact h.sound
  obtain ⟨rfl, hmsg, rfl⟩ := eq_of_singleton_eq_append_cons (h.answers.symm.trans hanswers)
  obtain ⟨rfl, rfl⟩ := Prod.mk.inj hmsg
  obtain ⟨calls, c, hperforms, rfl⟩ := DmaSystem.handle_eq_some.mp hstep
  obtain ⟨-, hfollows⟩ := h.answer_performs.mp hperforms
  unfold Follows at hfollows
  by_cases hlast : t < 32
  · rw [if_pos hlast] at hfollows
    obtain ⟨rfl, rfl⟩ := hfollows
    obtain ⟨hengine, hlatched, hblock, hbeat, hbuffer, hdmaTxn, hblkTxn⟩ := advanced_spec h hlast
    rw [DmaSystem.take_wakeCall] at hsound ⊢
    refine .inl ⟨hlast, ?_⟩
    exact
      { block_lt := hi
        step_lt := by omega
        sound := hsound
        latched := hlatched.trans h.latched
        engine := hengine
        block := (congrArg UInt32.toNat hblock).trans h.block
        beat := hbeat
        buffer := hbuffer
        dmaTxn := (congrArg UInt64.toNat hdmaTxn).trans h.dmaTxn
        blkTxn := (congrArg UInt64.toNat hblkTxn).trans h.blkTxn
        wakes := by
          show s.wakes ++ _ = _
          rw [h.wakes]
          rfl
        requests := h.requests
        answers := rfl
        held := h.held
        log := by
          show s.log ++ _ = _
          rw [hlog]
          exact (List.append_nil _).symm }
  · obtain rfl : t = 32 := by omega
    have hbeats : x.beatsBefore i (32 + 1) = x.beatsBefore (i + 1) 0 := beatsBefore_end
    have hblocks : x.blocksBefore i (32 + 1) = x.blocksBefore (i + 1) 0 := blocksBefore_end
    have hheld : s.held.Agrees others (x.after (i + 1) 0) := by
      rw [← after_end]
      exact h.held
    rw [before_end] at hlog
    rw [if_neg hlast] at hfollows
    by_cases hend : i + 1 = x.count
    · rw [if_pos hend] at hfollows
      obtain ⟨rfl, rfl⟩ := hfollows
      rw [DmaSystem.take_quiet quiet_endCalls] at hsound ⊢
      refine .inr (.inr ⟨rfl, hend, ?_⟩)
      exact
        { busy := rfl
          done := rfl
          error := rfl
          engine := rfl
          block := rfl
          beat := rfl
          buffer := rfl
          quiet := ⟨h.wakes, h.requests, rfl⟩
          held := hend ▸ hheld
          log := by
            rw [exchanges, ← hend]
            exact hlog
          dmaTxn := by
            rw [← hend, ← hbeats]
            exact h.dmaTxn
          blkTxn := by
            rw [← hend, ← hblocks]
            exact h.blkTxn }
    · rw [if_neg hend] at hfollows
      obtain ⟨rfl, rfl⟩ := hfollows
      have hlt : i + 1 < x.count := by omega
      have hblock : s.dma.block < x.command.count := by
        rw [UInt32.lt_iff_toNat_lt, h.block]
        exact hi
      rw [DmaSystem.take_wakeCall] at hsound ⊢
      refine .inr (.inl ⟨rfl, hlt, ?_⟩)
      exact
        { block_lt := hlt
          step_lt := by decide
          sound := hsound
          latched := h.latched
          engine := rfl
          block := by
            show (s.dma.block + 1).toNat = i + 1
            rw [(succ_lt_count hblock).2.1, h.block]
          beat := by
            unfold beatAt
            cases x.command.op <;> rfl
          buffer := by
            unfold bufferAt
            cases x.command.op <;> rfl
          dmaTxn := h.dmaTxn.trans (congrArg _ hbeats)
          blkTxn := h.blkTxn.trans (congrArg _ hblocks)
          wakes := by
            show s.wakes ++ _ = _
            rw [h.wakes]
            rfl
          requests := h.requests
          answers := rfl
          held := hheld
          log := by
            show s.log ++ _ = _
            rw [hlog]
            exact (List.append_nil _).symm }

lemma At.exists_answer (h : x.At others log₀ i t .answered s) {env : Surroundings}
    (hphase : env.phase = .complete) : ∃ s', s.Engine s' := by
  have hanswers : s.answers = [] ++ ((x.exchange i t).port, (x.exchange i t).answer) :: [] :=
    h.answers
  have hexists : ∃ calls c, x.Follows i t s.dma calls c := by
    unfold Follows
    by_cases hlast : t < 32
    · simp only [hlast, if_true]
      exact ⟨_, _, rfl, rfl⟩
    · by_cases hend : i + 1 = x.count
      · simp only [hlast, hend, if_true, if_false]
        exact ⟨_, _, rfl, rfl⟩
      · simp only [hlast, hend, if_false]
        exact ⟨_, _, rfl, rfl⟩
  obtain ⟨calls, c, hfollows⟩ := hexists
  have hperforms := h.answer_performs.mpr ⟨hphase, hfollows⟩
  exact ⟨_, .answer hanswers (DmaSystem.handle_eq_some.mpr ⟨calls, c, hperforms, rfl⟩)⟩

/-- The answer of a peer that refuses ends the command. -/
lemma At.refused_performs {answer : Message} (h : x.At others log₀ i t (.refused answer) s)
    {fault : MemV1.MemFault} {error : MediaError}
    (hrefusal : refusal fault error (x.exchange i t).request = some answer) :
    (s.dma.handleEvent (.message (x.exchange i t).port answer)).Performs env calls c ↔
      env.phase = .complete ∧ calls = s.dma.endCalls (x.errorOf t) ∧
        c = s.dma.completed (x.errorOf t) := by
  have ht := h.step_lt
  have hfault : Nonempty MemV1.MemFault := ⟨fault⟩
  have hmedia (msg : BlockMsg) : s.dma.handleEvent (.message blkPort (.block msg)) =
    s.dma.mediaResult msg := rfl
  have hmemory (msg : MemV1.MemMsg) : s.dma.handleEvent (.message dmaPort (.memV1 msg)) =
    s.dma.beatResult msg := rfl
  rw [errorOf_eq]
  by_cases hblock : x.AsksBlock t
  · have hengine : s.dma.engine = .waitMedia (UInt64.ofNat (x.blkTxn + i)) :=
      h.engine.trans (if_pos hblock)
    rw [exchange_block hblock, blockExchange_port, if_pos hblock]
    rw [exchange_block hblock] at hrefusal
    cases hop : x.command.op with
    | read =>
      simp only [blockExchange, hop, refusal, Option.some.injEq] at hrefusal
      subst hrefusal
      simp only [hmedia, mediaResult_performs_of_latched hengine h.latched, MediaAnswers, hop]
      simp
    | write =>
      simp only [blockExchange, hop, refusal, Option.some.injEq] at hrefusal
      subst hrefusal
      simp only [hmedia, mediaResult_performs_of_latched hengine h.latched, MediaAnswers, hop]
      simp
  · have hengine : s.dma.engine = .waitBeat (UInt64.ofNat (x.dmaTxn + x.beatsBefore i t)) :=
      h.engine.trans (if_neg hblock)
    rw [exchange_beat hblock ht, beatExchange_port, if_neg hblock]
    rw [exchange_beat hblock ht] at hrefusal
    cases hop : x.command.op with
    | read =>
      simp only [beatExchange, hop, refusal, Option.some.injEq] at hrefusal
      subst hrefusal
      simp only [hmemory, beatResult_performs_of_latched hengine h.latched, BeatAnswers, hop]
      simp
    | write =>
      simp only [beatExchange, hop, refusal, Option.some.injEq] at hrefusal
      subst hrefusal
      simp only [hmemory, beatResult_performs_of_latched hengine h.latched, BeatAnswers, hop]
      simp

/-- After a refusal the command has ended, and nothing is on its way. -/
lemma At.answer_refused {answer : Message} (h : x.At others log₀ i t (.refused answer) s)
    {fault : MemV1.MemFault} {error : MediaError}
    (hrefusal : refusal fault error (x.exchange i t).request = some answer)
    {port : PortId} {msg : Message} {pre post : List (PortId × Message)}
    (hanswers : s.answers = pre ++ (port, msg) :: post)
    (hstep : ({ s with answers := pre ++ post, log := s.log ++ [.answered port msg] } :
      DmaSystem config).handle env (.message port msg) = some s') :
    x.Ended others i t (x.errorOf t) s' ∧ s'.dma = s.dma.completed (x.errorOf t) ∧
      s'.log = log₀ ++ (x.before i t).flatMap Exchange.traffic ++
        [.asked (x.exchange i t).port (x.exchange i t).request,
          .answered (x.exchange i t).port answer] := by
  obtain ⟨rfl, hmsg, rfl⟩ := eq_of_singleton_eq_append_cons (h.answers.symm.trans hanswers)
  obtain ⟨rfl, rfl⟩ := Prod.mk.inj hmsg
  obtain ⟨calls, c, hperforms, rfl⟩ := DmaSystem.handle_eq_some.mp hstep
  obtain ⟨-, rfl, rfl⟩ := (h.refused_performs hrefusal).mp hperforms
  rw [DmaSystem.take_quiet quiet_endCalls]
  refine ⟨?_, rfl, ?_⟩
  · exact
      { busy := rfl
        done := rfl
        error := rfl
        engine := rfl
        block := rfl
        beat := rfl
        buffer := rfl
        quiet := ⟨h.wakes, h.requests, rfl⟩
        held := h.held }
  · show s.log ++ _ = _
    rw [h.log, List.append_assoc]
    rfl

/-! ## Steps -/

lemma not_nil_of_append_cons {α : Type} {a : α} {pre post : List α} : [] ≠ pre ++ a :: post := by
  simp

/-- Neither an access nor anyone else moves the transfer. -/
lemma At.meanwhile (haccepted : config.Accepted) (h : x.At others log₀ i t stage s)
    (hstep : s.Meanwhile others s') : x.At others log₀ i t stage s' := by
  cases hstep with
  | access hstep =>
    have hsound := DmaSystem.handle_sound haccepted h.sound hstep
    rcases DmaSystem.access_cases h.sound hstep with ⟨c, hsame, rfl⟩ | ⟨hbusy, -⟩
    · exact
        { h with
          sound := hsound
          latched := hsame.latched.trans h.latched
          engine := hsame.engine.trans h.engine
          block := (congrArg UInt32.toNat hsame.block).trans h.block
          beat := (congrArg UInt8.toNat hsame.beat).trans h.beat
          buffer := hsame.buffer.trans h.buffer
          dmaTxn := (congrArg UInt64.toNat hsame.dmaTxn).trans h.dmaTxn
          blkTxn := (congrArg UInt64.toNat hsame.blkTxn).trans h.blkTxn }
    · rw [h.sound.busy h.latched] at hbusy
      cases hbusy
  | write hheld => exact { h with held := hheld.trans h.held }

lemma At.engine_step (haccepted : config.Accepted) (hothers : others.Avoid x)
    (h : x.At others log₀ i t stage s) (hstage : ∀ answer, stage ≠ .refused answer)
    (hstep : s.Engine s') :
    (∃ i' t' stage', x.At others log₀ i' t' stage' s' ∧ (∀ answer, stage' ≠ .refused answer) ∧
        3 * (33 * i' + t') + stage'.index = 3 * (33 * i + t) + stage.index + 1) ∨
      (3 * (33 * i + t) + stage.index + 1 = 99 * x.count ∧ x.Finished others log₀ s') := by
  cases stage with
  | refused answer => exact absurd rfl (hstage answer)
  | due =>
    cases hstep with
    | wake hwakes hstep =>
      exact .inl ⟨i, t, .asked, h.wake haccepted hwakes hstep, by simp, rfl⟩
    | serve hrequests _ => exact absurd (h.requests.symm.trans hrequests) not_nil_of_append_cons
    | answer hanswers _ => exact absurd (h.answers.symm.trans hanswers) not_nil_of_append_cons
  | asked =>
    cases hstep with
    | wake hwakes _ => exact absurd (h.wakes.symm.trans hwakes) not_nil_of_append_cons
    | serve hrequests hserve =>
      exact .inl ⟨i, t, .answered, h.serve hothers hrequests hserve, by simp, rfl⟩
    | answer hanswers _ => exact absurd (h.answers.symm.trans hanswers) not_nil_of_append_cons
  | answered =>
    cases hstep with
    | wake hwakes _ => exact absurd (h.wakes.symm.trans hwakes) not_nil_of_append_cons
    | serve hrequests _ => exact absurd (h.requests.symm.trans hrequests) not_nil_of_append_cons
    | answer hanswers hstep =>
      rcases h.answer haccepted hanswers hstep with ⟨-, hnext⟩ | ⟨rfl, -, hnext⟩
        | ⟨rfl, hend, hended⟩
      · refine .inl ⟨i, t + 1, .due, hnext, by simp, ?_⟩
        simp only [Stage.index]
        omega
      · refine .inl ⟨i + 1, 0, .due, hnext, by simp, ?_⟩
        simp only [Stage.index]
        omega
      · refine .inr ⟨?_, hended⟩
        simp only [Stage.index]
        omega

/-- A step of the engine can be taken, while the counters have room. -/
lemma At.exists_step (hothers : others.Avoid x) (h : x.At others log₀ i t stage s)
    (hstage : ∀ answer, stage ≠ .refused answer) (hroom : x.Room) {env : Surroundings}
    (hphase : env.phase = .complete) : ∃ s', s.Engine s' := by
  cases stage with
  | refused answer => exact absurd rfl (hstage answer)
  | due => exact h.exists_wake hroom env
  | asked => exact h.exists_serve hothers
  | answered => exact h.exists_answer hphase

/-- At most one message or wake is on its way. -/
lemma At.one (h : x.At others log₀ i t stage s) :
    s.wakes.length + s.requests.length + s.answers.length = 1 := by
  rw [h.wakes, h.requests, h.answers]
  cases stage <;> rfl

end Transfer

namespace DmaSystem

variable {config : DmaBlockControllerConfig}

/-- Runs during a command: so many steps of the engine, and any number of accesses and writes of
others in between. -/
inductive During (others : Others) (s : DmaSystem config) : ℕ → DmaSystem config → Prop
  | refl : During others s 0 s
  | engine {k : ℕ} {s₁ s₂ : DmaSystem config} (h : During others s k s₁)
      (hbusy : s₁.dma.busy = true) (hstep : s₁.Engine s₂) : During others s (k + 1) s₂
  | meanwhile {k : ℕ} {s₁ s₂ : DmaSystem config} (h : During others s k s₁)
      (hbusy : s₁.dma.busy = true) (hstep : s₁.Meanwhile others s₂) : During others s k s₂

end DmaSystem

namespace Transfer

variable {x : Transfer} {others : Others} {log₀ : List Traffic} {i t : ℕ} {stage : Stage}
  {config : DmaBlockControllerConfig} {s s' : DmaSystem config}

/-- A run is at the stage that its number of steps says, or at the end. -/
lemma At.during (haccepted : config.Accepted) (hothers : others.Avoid x)
    (h : x.At others log₀ 0 0 .due s) {k : ℕ} (hrun : s.During others k s') :
    (∃ i t stage, x.At others log₀ i t stage s' ∧ (∀ answer, stage ≠ .refused answer) ∧
        k = 3 * (33 * i + t) + stage.index) ∨
      (k = 99 * x.count ∧ x.Finished others log₀ s') := by
  induction hrun with
  | refl => exact .inl ⟨0, 0, .due, h, by simp, rfl⟩
  | engine _ hbusy hstep ih =>
    rcases ih with ⟨i, t, stage, hat, hstage, rfl⟩ | ⟨-, hended⟩
    · rcases hat.engine_step haccepted hothers hstage hstep with
        ⟨i', t', stage', hat', hstage', hindex⟩ | ⟨hlast, hended⟩
      · exact .inl ⟨i', t', stage', hat', hstage', hindex.symm⟩
      · exact .inr ⟨hlast, hended⟩
    · rw [hended.busy] at hbusy
      cases hbusy
  | meanwhile _ hbusy hstep ih =>
    rcases ih with ⟨i, t, stage, hat, hstage, rfl⟩ | ⟨-, hended⟩
    · exact .inl ⟨i, t, stage, hat.meanwhile haccepted hstep, hstage, rfl⟩
    · rw [hended.busy] at hbusy
      cases hbusy

/-- While the counters have room, there is a run of every length up to the end. -/
lemma At.exists_during (haccepted : config.Accepted) (hothers : others.Avoid x)
    (h : x.At others log₀ 0 0 .due s) (hroom : x.Room) {k : ℕ} (hk : k ≤ 99 * x.count) :
    ∃ s', s.During others k s' := by
  induction k with
  | zero => exact ⟨s, .refl⟩
  | succ k ih =>
    obtain ⟨s₁, hrun⟩ := ih (Nat.le_of_succ_le hk)
    rcases h.during haccepted hothers hrun with ⟨i, t, stage, hat, hstage, -⟩ | ⟨rfl, -⟩
    · obtain ⟨s₂, hstep⟩ := hat.exists_step hothers hstage hroom
        (show Surroundings.phase ⟨0, 0, .complete, fun _ => 0⟩ = .complete from rfl)
      exact ⟨s₂, .engine hrun (hat.sound.busy hat.latched) hstep⟩
    · exact absurd hk (Nat.not_succ_le_self _)

end Transfer

end SystemScope.Platform
