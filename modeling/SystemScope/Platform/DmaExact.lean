import SystemScope.Platform.DmaTransfer

/-!
# DMA transfers are exact

What a finished transfer has done, in the terms of its command: which bytes and blocks are where,
and which requests were made, each of them once and in order (`Transfer.Complete`).  Every run of
a command that is accepted comes to that, whatever the delays and the accesses to the window, as
long as the transaction counters have room (`transfer_exact`).
-/

namespace SystemScope.Platform

open DmaBlockController Handler

/-- The requests on a port. -/
def asked (port : PortId) (log : List Traffic) : List Message :=
  log.filterMap fun
    | .asked p msg => if p = port then some msg else none
    | .answered .. => none

/-- The answers on a port. -/
def answered (port : PortId) (log : List Traffic) : List Message :=
  log.filterMap fun
    | .answered p msg => if p = port then some msg else none
    | .asked .. => none

namespace Transfer

variable {x : Transfer} {others : Others} {log₀ : List Traffic} {i t : ℕ} {stage : Stage}
  {config : DmaBlockControllerConfig} {s s' : DmaSystem config}

/-! ## What was said -/

/-- Exchange by exchange, and block by block. -/
lemma before_induction {P : ℕ → ℕ → Prop} (zero : P 0 0)
    (step : ∀ i t, t < 33 → P i t → P i (t + 1)) (next : ∀ i, P i 33 → P (i + 1) 0) :
    ∀ i t, t ≤ 33 → P i t := by
  have hblock (i : ℕ) (h : P i 0) : ∀ t, t ≤ 33 → P i t := by
    intro t ht
    induction t with
    | zero => exact h
    | succ t ih => exact step i t ht (ih (by omega))
  intro i
  induction i with
  | zero => exact hblock 0 zero
  | succ i ih => exact hblock (i + 1) (next i (ih 33 le_rfl))

lemma traffic_succ : (x.before i (t + 1)).flatMap Exchange.traffic =
    (x.before i t).flatMap Exchange.traffic ++ (x.exchange i t).traffic := by
  rw [before_succ, List.flatMap_append]
  simp

lemma asked_append (port : PortId) (log log' : List Traffic) :
    asked port (log ++ log') = asked port log ++ asked port log' := List.filterMap_append

lemma answered_append (port : PortId) (log log' : List Traffic) :
    answered port (log ++ log') = answered port log ++ answered port log' := List.filterMap_append

lemma asked_blocks : ∀ i t, t ≤ 33 →
    asked blkPort ((x.before i t).flatMap Exchange.traffic) =
      (List.range (x.blocksBefore i t)).map fun i => (x.blockExchange i).request := by
  refine before_induction ?_ ?_ ?_
  · unfold blocksBefore
    cases x.command.op <;> rfl
  · intro i t ht ih
    rw [traffic_succ, asked_append, ih]
    by_cases hblock : x.AsksBlock t
    · obtain ⟨hnow, hnext, -⟩ := before_succ_block (i := i) hblock
      rw [hnow, hnext, List.range_succ, List.map_append]
      simp [asked, Exchange.traffic, exchange_block hblock, blockExchange_port]
    · obtain ⟨-, hblocks⟩ := before_succ_beat (i := i) hblock ht
      rw [hblocks]
      simp [asked, Exchange.traffic, exchange_beat hblock ht, beatExchange_port, dmaPort, blkPort]
  · intro i ih
    rw [← before_end, ih, blocksBefore_end]

lemma asked_beats : ∀ i t, t ≤ 33 →
    asked dmaPort ((x.before i t).flatMap Exchange.traffic) =
      (List.range (x.beatsBefore i t)).map fun k => (x.beatExchange k).request := by
  refine before_induction ?_ ?_ ?_
  · unfold beatsBefore
    cases x.command.op <;> rfl
  · intro i t ht ih
    rw [traffic_succ, asked_append, ih]
    by_cases hblock : x.AsksBlock t
    · obtain ⟨-, -, hbeats⟩ := before_succ_block (i := i) hblock
      rw [hbeats]
      simp [asked, Exchange.traffic, exchange_block hblock, blockExchange_port, dmaPort, blkPort]
    · obtain ⟨hbeats, -⟩ := before_succ_beat (i := i) hblock ht
      rw [hbeats, List.range_succ, List.map_append]
      simp [asked, Exchange.traffic, exchange_beat hblock ht, beatExchange_port]
  · intro i ih
    rw [← before_end, ih, beatsBefore_end]

/-- As many beats were answered as were asked for. -/
lemma length_answered : ∀ i t, t ≤ 33 →
    (answered dmaPort ((x.before i t).flatMap Exchange.traffic)).length = x.beatsBefore i t := by
  refine before_induction ?_ ?_ ?_
  · unfold beatsBefore
    cases x.command.op <;> rfl
  · intro i t ht ih
    rw [traffic_succ, answered_append, List.length_append, ih]
    by_cases hblock : x.AsksBlock t
    · obtain ⟨-, -, hbeats⟩ := before_succ_block (i := i) hblock
      rw [hbeats]
      simp [answered, Exchange.traffic, exchange_block hblock, blockExchange_port, dmaPort, blkPort]
    · obtain ⟨hbeats, -⟩ := before_succ_beat (i := i) hblock ht
      rw [hbeats]
      simp [answered, Exchange.traffic, exchange_beat hblock ht, beatExchange_port]
  · intro i ih
    rw [← before_end, ih, beatsBefore_end]

/-- No block is written before all of its beats were read. -/
lemma At.blocks_after_beats (hop : x.command.op = .write) (h : x.At others log₀ i t stage s) :
    32 * (asked blkPort (s.log.drop log₀.length)).length ≤
      (answered dmaPort (s.log.drop log₀.length)).length := by
  have ht := h.step_lt
  have hbeats : x.beatsBefore i t = 32 * i + min t 32 := by
    rw [beatsBefore, hop]
  have hblocks : x.blocksBefore i t = i + (t - 32) := by
    rw [blocksBefore, hop]
  have hdrop : s.log.drop log₀.length =
      (x.before i t).flatMap Exchange.traffic ++ stage.log (x.exchange i t) := by
    rw [h.log, List.append_assoc, List.drop_left]
  have hstage : (asked blkPort (stage.log (x.exchange i t))).length ≤ t - 31 := by
    by_cases hblock : x.AsksBlock t
    · have hlast : t = 32 := by
        unfold AsksBlock at hblock
        rw [hop] at hblock
        exact hblock
      subst hlast
      have hlength : ([.asked (x.exchange i 32).port (x.exchange i 32).request] :
          List Traffic).length ≤ 32 - 31 := le_rfl
      cases stage with
      | due => exact Nat.zero_le _
      | asked => exact (List.length_filterMap_le _ _).trans hlength
      | answered => exact (List.length_filterMap_le _ _).trans hlength
      | refused error => exact (List.length_filterMap_le _ _).trans hlength
    · cases stage <;> simp [asked, Stage.log, exchange_port_beat hblock ht, dmaPort, blkPort]
  rw [hdrop, asked_append, answered_append, List.length_append, List.length_append,
    asked_blocks i t ht.le, length_answered i t ht.le, List.length_map, List.length_range, hbeats,
    hblocks]
  omega

/-! ## What was done -/

/-- What a finished transfer leaves behind, in the terms of its command. -/
structure Complete (x : Transfer) (others : Others) (log₀ : List Traffic) (s : DmaSystem config) :
    Prop where
  busy : s.dma.busy = false
  done : s.dma.done = true
  error : s.dma.error = 0
  quiet : s.Quiet
  /-- A READ has brought every byte of its blocks to memory. -/
  read : x.command.op = .read → ∀ i < x.count, ∀ k : Fin blockSize,
    s.held.memory (x.addr + blockSize * i + k) = (x.source.disk (x.lba + i)).get k
  /-- A WRITE has brought every byte of memory to its blocks. -/
  write : x.command.op = .write → ∀ i < x.count, ∀ k : Fin blockSize,
    (s.held.disk (x.lba + i)).get k = x.source.memory (x.addr + blockSize * i + k)
  /-- Nothing else has changed in memory, but what others wrote. -/
  memory : ∀ a, a ∉ others.addresses →
    (x.command.op = .read → a < x.addr ∨ x.addr + blockSize * x.count ≤ a) →
      s.held.memory a = x.source.memory a
  /-- Nothing else has changed on the disk, but what others wrote. -/
  disk : ∀ b, b ∉ others.blocks →
    (x.command.op = .write → b < x.lba ∨ x.lba + x.count ≤ b) →
      s.held.disk b = x.source.disk b
  /-- All that was said: one exchange after the other. -/
  log : s.log = log₀ ++ x.exchanges.flatMap Exchange.traffic
  blocks : asked blkPort (s.log.drop log₀.length) =
    (List.range x.count).map fun i => (x.blockExchange i).request
  beats : asked dmaPort (s.log.drop log₀.length) =
    (List.range (32 * x.count)).map fun k => (x.beatExchange k).request
  blkTxns : ∀ i j, i < j → j < x.count → UInt64.ofNat (x.blkTxn + i) < UInt64.ofNat (x.blkTxn + j)
  dmaTxns : ∀ i j, i < j → j < 32 * x.count →
    UInt64.ofNat (x.dmaTxn + i) < UInt64.ofNat (x.dmaTxn + j)

lemma beatsBefore_count : x.beatsBefore x.count 0 = 32 * x.count := by
  unfold beatsBefore
  cases x.command.op <;> rfl

lemma blocksBefore_count : x.blocksBefore x.count 0 = x.count := by
  unfold blocksBefore
  cases x.command.op <;> rfl

lemma ofNat_lt_ofNat {m n : ℕ} (hmn : m < n) (hn : n < 2 ^ 64) :
    UInt64.ofNat m < UInt64.ofNat n := by
  rw [UInt64.lt_iff_toNat_lt, UInt64.toNat_ofNat_of_lt' hn,
    UInt64.toNat_ofNat_of_lt' (show m < 2 ^ 64 from hmn.trans hn)]
  exact hmn

/-- The byte that a READ brings to a place in a block. -/
lemma image_eq (i : ℕ) (k : Fin blockSize) :
    x.image (x.addr + blockSize * i + k) = (x.source.disk (x.lba + i)).get k := by
  have hk : k.val < blockSize := k.isLt
  have hoffset : x.addr + blockSize * i + k - x.addr = k + blockSize * i := by omega
  have hdiv : (k + blockSize * i) / blockSize = i := by
    rw [Nat.add_mul_div_left _ _ (by decide), Nat.div_eq_of_lt hk, Nat.zero_add]
  have hmod : (k + blockSize * i) % blockSize = k := by
    rw [Nat.add_mul_mod_self_left, Nat.mod_eq_of_lt hk]
  simp only [image, sourceBlock, hoffset, hdiv, hmod]

lemma Finished.complete (hothers : others.Avoid x) (h : x.Finished others log₀ s) :
    x.Complete others log₀ s where
  busy := h.busy
  done := h.done
  error := h.error
  quiet := h.quiet
  read := by
    intro hop i hi k
    have hk : k.val < blockSize := k.isLt
    have hin : x.addr ≤ x.addr + blockSize * i + k ∧
        x.addr + blockSize * i + k < x.addr + blockSize * x.count := by
      unfold blockSize at *
      omega
    rw [h.held.memory _ (hothers.memory _ hin.1 hin.2)]
    simp only [after, hop, beatsBefore_count]
    rw [if_pos ⟨hin.1, by unfold blockSize beatSize at *; omega⟩, image_eq]
  write := by
    intro hop i hi k
    rw [h.held.disk _ (hothers.disk _ (Nat.le_add_right _ _) (by omega))]
    simp only [after, hop, blocksBefore_count]
    rw [if_pos (by omega), Nat.add_sub_cancel_left]
    simp [targetBlock, Contents.blockAt, Vector.get_eq]
  memory := by
    intro a ha hout
    rw [h.held.memory a ha]
    cases hop : x.command.op with
    | read =>
      have hnot := hout hop
      simp only [after, hop, beatsBefore_count]
      refine if_neg ?_
      unfold blockSize at hnot
      unfold beatSize
      omega
    | write => simp only [after, hop]
  disk := by
    intro b hb hout
    rw [h.held.disk b hb]
    cases hop : x.command.op with
    | read => simp only [after, hop]
    | write =>
      have hnot := hout hop
      simp only [after, hop, blocksBefore_count]
      exact if_neg (by omega)
  log := h.log
  blocks := by
    rw [h.log, List.drop_left, exchanges, asked_blocks _ _ (Nat.zero_le _), blocksBefore_count]
  beats := by
    rw [h.log, List.drop_left, exchanges, asked_beats _ _ (Nat.zero_le _), beatsBefore_count]
  blkTxns := by
    intro i j hij hj
    have hcounter := h.blkTxn
    have hbound := s.dma.blkTxn.toNat_lt
    rw [blocksBefore_count] at hcounter
    exact ofNat_lt_ofNat (by omega) (by omega)
  dmaTxns := by
    intro i j hij hj
    have hcounter := h.dmaTxn
    have hbound := s.dma.dmaTxn.toNat_lt
    rw [beatsBefore_count] at hcounter
    exact ofNat_lt_ofNat (by omega) (by omega)

/-- The same at the end. -/
lemma Finished.blocks_after_beats (h : x.Finished others log₀ s) :
    32 * (asked blkPort (s.log.drop log₀.length)).length ≤
      (answered dmaPort (s.log.drop log₀.length)).length := by
  rw [h.log, List.drop_left, exchanges, asked_blocks _ _ (Nat.zero_le _),
    length_answered _ _ (Nat.zero_le _), List.length_map, List.length_range, blocksBefore_count,
    beatsBefore_count]

/-- Without a transaction left for its first request, a transfer stays where it starts. -/
lemma At.during_of_exhausted (haccepted : config.Accepted) (h : x.At others log₀ 0 0 .due s)
    (hblock : x.AsksBlock 0) (hfull : x.blkTxn + 1 = 2 ^ 64) {k : ℕ}
    (hrun : s.During others k s') : x.At others log₀ 0 0 .due s' := by
  induction hrun with
  | refl => exact h
  | engine _ hbusy hstep ih =>
    cases hstep with
    | wake hwakes hstep =>
      obtain ⟨calls, c, hperforms, -⟩ := DmaSystem.handle_eq_some.mp hstep
      have hdue := ih.wakes.symm.trans hwakes
      obtain ⟨-, rfl, -⟩ := eq_of_singleton_eq_append_cons hdue
      obtain ⟨next, hnext, -⟩ := (ih.issue_block hblock).mp hperforms
      have hcounter := ih.blkTxn
      have hbound := next.toNat_lt
      rw [nextTxn_eq_some] at hnext
      have hnow : x.blocksBefore 0 (0 + Stage.due.sent) = 0 := (before_succ_block hblock).1
      omega
    | serve hrequests _ => exact absurd (ih.requests.symm.trans hrequests) not_nil_of_append_cons
    | answer hanswers _ => exact absurd (ih.answers.symm.trans hanswers) not_nil_of_append_cons
  | meanwhile _ hbusy hstep ih => exact ih.meanwhile haccepted hstep

end Transfer

/-! ## From a command to its end -/

namespace DmaSystem

variable {config : DmaBlockControllerConfig}

/-- The transfer that an accepted command is. -/
def transfer (s : DmaSystem config) (op : Operation) : Transfer where
  command := { op, lba := s.dma.lba, addr := s.dma.memAddr, count := s.dma.blockCount }
  source := s.held
  dmaTxn := s.dma.dmaTxn.toNat
  blkTxn := s.dma.blkTxn.toNat

/-- The system with a command accepted. -/
def accept (s : DmaSystem config) (op : Operation) : DmaSystem config :=
  { s with dma := s.dma.started op, wakes := [issueToken] }

variable {s : DmaSystem config} {op : Operation} {data : Bytes} {value : UInt32}

/-- A `COMMAND` that passes validation is accepted. -/
lemma handle_command (env : Surroundings) (txn : TxnId) (h : s.Matched)
    (hbusy : s.dma.busy = false) (hdone : s.dma.done = false) (hvalue : word? data = some value)
    (hvalid : config.validate value s.dma.lba s.dma.memAddr s.dma.blockCount = .ok op) :
    s.handle env (.message memPort (.memV1 (.writeReq txn commandReg data))) =
      some (s.accept op) := by
  rw [handle_eq_some]
  refine ⟨_, _, (request_starts hbusy hdone hvalue hvalid).mpr ⟨rfl, rfl⟩, ?_⟩
  rw [take_started, (h.quiet hbusy).wakes]
  rfl

/-- An accepted command is at its first exchange. -/
lemma accept_at (haccepted : config.Accepted) (h : s.Matched) (hbusy : s.dma.busy = false)
    (hdone : s.dma.done = false) (hvalue : word? data = some value)
    (hvalid : config.validate value s.dma.lba s.dma.memAddr s.dma.blockCount = .ok op)
    (others : Others) : (s.transfer op).At others s.log 0 0 .due (s.accept op) := by
  have hsound : (s.accept op).dma.Sound :=
    handle_sound haccepted h.sound
      (handle_command ⟨0, 0, .request, fun _ => 0⟩ 0 h hbusy hdone hvalue hvalid)
  obtain ⟨-, hquiet, hquiet'⟩ := h.quiet hbusy
  obtain ⟨-, -, hblock, hbeat, hbuffer⟩ := h.sound.idle hbusy
  exact
    { block_lt := (hsound.covers _ rfl).count_pos
      step_lt := by decide
      sound := hsound
      latched := rfl
      engine := rfl
      block := by
        show s.dma.block.toNat = 0
        rw [hblock]
        rfl
      beat := by
        show s.dma.beat.toNat = _
        rw [hbeat]
        unfold Transfer.beatAt
        cases op <;> rfl
      buffer := by
        show s.dma.buffer = _
        rw [hbuffer]
        unfold Transfer.bufferAt
        cases op <;> rfl
      dmaTxn := by
        unfold Transfer.beatsBefore
        cases op <;> rfl
      blkTxn := by
        unfold Transfer.blocksBefore
        cases op <;> rfl
      wakes := rfl
      requests := hquiet
      answers := hquiet'
      held := by
        rw [show 0 + Stage.due.served = 0 from rfl, Transfer.after_start]
        exact .refl _
      log := by
        show s.log = _
        simp [Transfer.before, Stage.log] }

/-- A running command, or one that is not acknowledged, rejects any other. -/
lemma handle_command_rejected (env : Surroundings) (txn : TxnId)
    (hended : s.dma.busy = true ∨ s.dma.done = true) (hvalue : word? data = some value) :
    s.handle env (.message memPort (.memV1 (.writeReq txn commandReg data))) =
      some { s with dma := { s.dma with rejected := true } } := by
  rw [handle_eq_some]
  refine ⟨_, _, (request_rejects hended hvalue).mpr ⟨rfl, rfl⟩,
    (take_quiet fun call hcall => ?_).symm⟩
  rcases List.mem_pair.mp hcall with rfl | rfl
  · trivial
  · exact ⟨by decide, by decide⟩

/-- Every READ and every WRITE that passes validation is exact: in each of its runs at most one
message is on its way, and no block is written before its beats were read.  While the counters have
room, the engine makes progress until the command has ended with all of it done.  A command that
comes too early leaves nothing behind but `REJECTED`. -/
theorem transfer_exact [SnapshotData] {c₀ : DmaBlockController config} (hnew : new config = .ok c₀)
    (hreached : Reached c₀ s) (hbusy : s.dma.busy = false) (hdone : s.dma.done = false)
    (hvalue : word? data = some value)
    (hvalid : config.validate value s.dma.lba s.dma.memAddr s.dma.blockCount = .ok op)
    {others : Others} (hothers : others.Avoid (s.transfer op)) (env : Surroundings) (txn : TxnId) :
    s.handle env (.message memPort (.memV1 (.writeReq txn commandReg data))) =
        some (s.accept op) ∧
      (∀ k s', (s.accept op).During others k s' →
        s'.wakes.length + s'.requests.length + s'.answers.length ≤ 1 ∧
        (op = .write → 32 * (asked blkPort (s'.log.drop s.log.length)).length ≤
          (answered dmaPort (s'.log.drop s.log.length)).length) ∧
        (k < 99 * (s.transfer op).count ∧ s'.dma.busy = true ∧
            s'.dma.latched = some (s.transfer op).command ∧
            ((s.transfer op).Room → ∃ s'', s'.Engine s'') ∨
          k = 99 * (s.transfer op).count ∧ (s.transfer op).Complete others s.log s')) ∧
      ∀ (s' : DmaSystem config) env txn data value, s'.dma.busy = true ∨ s'.dma.done = true →
        word? data = some value →
          s'.handle env (.message memPort (.memV1 (.writeReq txn commandReg data))) =
            some { s' with dma := { s'.dma with rejected := true } } := by
  have haccepted := (new_eq_ok hnew).1
  have hmatched := hreached.matched hnew
  refine ⟨handle_command env txn hmatched hbusy hdone hvalue hvalid, ?_, ?_⟩
  · intro k s' hrun
    have hstart := accept_at haccepted hmatched hbusy hdone hvalue hvalid others
    rcases hstart.during haccepted hothers hrun with ⟨i, t, stage, hat, hstage, rfl⟩ | ⟨rfl, hended⟩
    · have hi := hat.block_lt
      have ht := hat.step_lt
      have hindex : stage.index ≤ 2 := stage.index_le
      refine ⟨hat.one.le, fun hop => hat.blocks_after_beats hop,
        .inl ⟨by omega, hat.sound.busy hat.latched, hat.latched, fun hroom => ?_⟩⟩
      exact hat.exists_step hothers hstage hroom
        (show { env with phase := .complete }.phase = _ from rfl)
    · refine ⟨?_, fun hop => hended.blocks_after_beats, .inr ⟨rfl, hended.complete hothers⟩⟩
      rw [hended.quiet.wakes, hended.quiet.requests, hended.quiet.answers]
      exact Nat.zero_le _
  · intro s' env txn data value hended hvalue
    exact handle_command_rejected env txn hended hvalue

/-! ## Two blocks at the top -/

/-- A snapshot of a controller without a command, set up for the blocks that `topConfig` has memory
for.  Its last but one field is the counter of `blk`. -/
def readySnapshot (blkTxn : Bytes) : Bytes :=
  [0, 0, 0, 0] ++ [1, 0, 0, 0, 0, 1, 0, 0, 0, 0, 0, 0, 0] ++ [0, 0, 0, 0, 1, 0, 0, 0] ++
    [0, 252, 255, 255, 0, 0, 0, 0] ++ [0, 4, 0, 0, 0, 0, 0, 0] ++ [0, 0, 0, 0] ++
    [0, 252, 255, 255] ++ [2, 0, 0, 0] ++ [0, 0, 0, 0] ++ [0, 0, 0, 0] ++ [0] ++
    [0, 0, 0, 0] ++ [0] ++ [0, 0, 0, 0] ++ List.replicate 8 0 ++ blkTxn ++ [0]

/-- What is restored from it. -/
def readyController (blkTxn : TxnId) : DmaBlockController topConfig :=
  { fresh topConfig with
    memAddr := 4294966272
    blockCount := 2
    blkTxn }

/-- Memory of zeros, and a disk with blocks of their numbers. -/
def numbered : Contents where
  memory _ := 0
  disk b := .replicate _ (.ofNat b)

open Canonical in
lemma ready_reaches : Component.Reaches (fresh topConfig) (readyController 0) :=
  reaches_restored (readySnapshot (List.replicate 8 0)) (by decide +kernel)

open Canonical in
lemma exhausted_reaches :
    Component.Reaches (fresh topConfig) (readyController 18446744073709551615) :=
  reaches_restored (readySnapshot (List.replicate 8 255)) (by decide +kernel)

open Canonical in
theorem transfer_exact_top : ∃ s₁ : DmaSystem topConfig,
    (quiet (readyController 0) numbered).handle ⟨0, 0, .request, fun _ => 0⟩
      (.message memPort (.memV1 (.writeReq 7 commandReg [1, 0, 0, 0]))) = some s₁ ∧
    ∀ k s', s₁.During ⟨∅, ∅⟩ k s' → k ≤ 198 ∧ (k < 198 → ∃ s'', s'.Engine s'') ∧
      (k = 198 → s'.dma.done = true ∧ s'.dma.error = 0) := by
  have hvalid : topConfig.validate 1 0 4294966272 2 = .ok .read := by
    decide +kernel
  obtain ⟨hstart, hruns, -⟩ := transfer_exact
    (show new topConfig = .ok (fresh topConfig) from rfl)
    (.start ready_reaches rfl numbered) rfl rfl (show word? [1, 0, 0, 0] = some 1 from rfl) hvalid
    (.none _) ⟨0, 0, .request, fun _ => 0⟩ 7
  refine ⟨_, hstart, fun k s' hrun => ?_⟩
  obtain ⟨-, -, ⟨hlt, -, -, hstep⟩ | ⟨hend, hcomplete⟩⟩ := hruns k s' hrun
  · have hlt' : k < 198 := hlt
    exact ⟨hlt'.le, fun _ => hstep ⟨by decide, by decide⟩, fun heq => absurd heq hlt'.ne⟩
  · have hend' : k = 198 := hend
    exact ⟨hend'.le, fun hlt => absurd hend' hlt.ne, fun _ => ⟨hcomplete.done, hcomplete.error⟩⟩

open Canonical in
/-- A snapshot may hold a counter with no transaction left: a command is accepted, and never
ends. -/
theorem exhausted_never_ends : ∃ c : DmaBlockController topConfig,
    Component.Reaches (fresh topConfig) c ∧ c.busy = false ∧ c.done = false ∧
    ∃ s₁ : DmaSystem topConfig, (quiet c numbered).handle ⟨0, 0, .request, fun _ => 0⟩
      (.message memPort (.memV1 (.writeReq 7 commandReg [1, 0, 0, 0]))) = some s₁ ∧
    s₁.dma.busy = true ∧
    ∀ k s', s₁.During ⟨∅, ∅⟩ k s' → s'.dma.busy = true ∧ s'.dma.done = false := by
  have hvalid : topConfig.validate 1 0 4294966272 2 = .ok .read := by
    decide +kernel
  have hnew : new topConfig = .ok (fresh topConfig) := rfl
  have hmatched : (quiet (readyController 18446744073709551615) numbered).Matched :=
    (Reached.start exhausted_reaches rfl numbered).matched hnew
  have hvalue : word? [1, 0, 0, 0] = some 1 := rfl
  refine ⟨_, exhausted_reaches, rfl, rfl, _, handle_command _ _ hmatched rfl rfl hvalue hvalid, rfl,
    fun k s' hrun => ?_⟩
  have hstart := accept_at (new_eq_ok hnew).1 hmatched rfl rfl hvalue hvalid ⟨∅, ∅⟩
  have hat := hstart.during_of_exhausted (new_eq_ok hnew).1 rfl rfl hrun
  have hbusy := hat.sound.busy hat.latched
  refine ⟨hbusy, ?_⟩
  by_contra hdone
  exact hat.sound.notBoth ⟨hbusy, by simpa using hdone⟩

end DmaSystem

end SystemScope.Platform
