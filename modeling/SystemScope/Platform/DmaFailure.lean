import SystemScope.Platform.DmaExact
import SystemScope.Platform.DmaRenaming

/-!
# DMA transfers that fail

The first request that a peer refuses ends its command: DONE, with the error of that peer, and with
all that was served before and nothing after it done (`Transfer.Failed`).  The engine is idle then,
and stays silent; and a controller that was acknowledged cannot be told from one that never failed,
but for its transaction counters (`refusal_exact`).
-/

namespace SystemScope.Platform

open DmaBlockController Handler

namespace Transfer

variable {x : Transfer} {others : Others} {log₀ : List Traffic} {i t : ℕ} {stage : Stage}
  {config : DmaBlockControllerConfig} {s s' : DmaSystem config} {place : Option ℕ}

/-! ## Where a command fails -/

/-- The exchange of a block in which the media fails (`none`), or a beat. -/
def failedAt (x : Transfer) (place : Option ℕ) : ℕ :=
  match x.command.op, place with
  | .read, none => 0
  | .read, some j => j + 1
  | .write, none => 32
  | .write, some j => j

/-- The error of the peer that fails. -/
def failure : Option ℕ → UInt8
  | none => mediaError
  | some _ => dmaFault

/-- Every exchange of a block is with the media, or is a beat. -/
lemma exists_failedAt (x : Transfer) (ht : t < 33) :
    ∃ place, t = x.failedAt place ∧ x.errorOf t = failure place ∧ ∀ j, place = some j → j < 32 := by
  cases hop : x.command.op with
  | read =>
    cases t with
    | zero =>
      refine ⟨none, ?_, ?_, by simp⟩
      · simp only [failedAt, hop]
      · simp only [errorOf, hop, if_true, failure]
    | succ j =>
      refine ⟨some j, ?_, ?_, fun j' hj => ?_⟩
      · simp only [failedAt, hop]
      · simp only [errorOf, hop, if_neg (Nat.succ_ne_zero j), failure]
      · obtain rfl := Option.some.inj hj
        omega
  | write =>
    by_cases hlast : t = 32
    · refine ⟨none, ?_, ?_, by simp⟩
      · simp only [failedAt, hop, hlast]
      · simp only [errorOf, hop, if_pos hlast, failure]
    · refine ⟨some t, ?_, ?_, fun j hj => ?_⟩
      · simp only [failedAt, hop]
      · simp only [errorOf, hop, if_neg hlast, failure]
      · obtain rfl := Option.some.inj hj
        omega

lemma beatsBefore_failedAt (hop : x.command.op = .read) :
    x.beatsBefore i (x.failedAt place) = 32 * i + place.getD 0 := by
  unfold beatsBefore failedAt
  cases place with
  | none => simp only [hop, Option.getD, Nat.zero_sub]
  | some j => simp only [hop, Option.getD, Nat.add_sub_cancel]

lemma blocksBefore_failedAt (hop : x.command.op = .write) (hplace : ∀ j, place = some j → j < 32) :
    x.blocksBefore i (x.failedAt place) = i := by
  unfold blocksBefore failedAt
  cases place with
  | none => simp only [hop, Nat.sub_self, Nat.add_zero]
  | some j =>
    have hj := hplace j rfl
    simp only [hop]
    omega

/-- What is left behind by a command that fails in block `i`: at the media, or at a beat. -/
structure Failed (x : Transfer) (others : Others) (log₀ : List Traffic) (i : ℕ) (place : Option ℕ)
    (s : DmaSystem config) : Prop where
  busy : s.dma.busy = false
  done : s.dma.done = true
  error : s.dma.error = failure place
  engine : s.dma.engine = .idle
  block : s.dma.block = 0
  beat : s.dma.beat = 0
  buffer : s.dma.buffer = []
  quiet : s.Quiet
  /-- A READ has brought the blocks before to memory, and the beats before in the same block. -/
  read : x.command.op = .read → ∀ n < blockSize * i + beatSize * place.getD 0,
    s.held.memory (x.addr + n) =
      (x.source.disk (x.lba + n / blockSize)).get ⟨n % blockSize, Nat.mod_lt _ (by decide)⟩
  /-- A WRITE has brought the blocks before to the disk. -/
  write : x.command.op = .write → ∀ m < i, ∀ k : Fin blockSize,
    (s.held.disk (x.lba + m)).get k = x.source.memory (x.addr + blockSize * m + k)
  /-- Nothing else has changed in memory, but what others wrote. -/
  memory : ∀ a, a ∉ others.addresses →
    (x.command.op = .read → a < x.addr ∨ x.addr + blockSize * i + beatSize * place.getD 0 ≤ a) →
      s.held.memory a = x.source.memory a
  /-- Nothing else has changed on the disk, but what others wrote. -/
  disk : ∀ b, b ∉ others.blocks → (x.command.op = .write → b < x.lba ∨ x.lba + i ≤ b) →
    s.held.disk b = x.source.disk b
  /-- All that was said: the exchanges before, and the request with its refusal. -/
  log : ∃ fault error answer,
    refusal fault error (x.exchange i (x.failedAt place)).request = some answer ∧
    s.log = log₀ ++ (x.before i (x.failedAt place)).flatMap Exchange.traffic ++
      [.asked (x.exchange i (x.failedAt place)).port (x.exchange i (x.failedAt place)).request,
        .answered (x.exchange i (x.failedAt place)).port answer]

lemma Ended.failed (hothers : others.Avoid x) (hi : i < x.count)
    (hplace : ∀ j, place = some j → j < 32) {code : UInt8} (hcode : code = failure place)
    (h : x.Ended others i (x.failedAt place) code s) {fault : MemV1.MemFault} {error : MediaError}
    {answer : Message}
    (hanswer : refusal fault error (x.exchange i (x.failedAt place)).request = some answer)
    (hlog : s.log = log₀ ++ (x.before i (x.failedAt place)).flatMap Exchange.traffic ++
      [.asked (x.exchange i (x.failedAt place)).port (x.exchange i (x.failedAt place)).request,
        .answered (x.exchange i (x.failedAt place)).port answer]) :
    x.Failed others log₀ i place s where
  busy := h.busy
  done := h.done
  error := h.error.trans hcode
  engine := h.engine
  block := h.block
  beat := h.beat
  buffer := h.buffer
  quiet := h.quiet
  read := by
    intro hop n hn
    have hgetD : place.getD 0 < 32 := by
      cases place with
      | none => decide
      | some j => exact hplace j rfl
    have hin : x.addr + n < x.addr + blockSize * x.count := by
      unfold blockSize beatSize at *
      omega
    rw [h.held.memory _ (hothers.memory _ (Nat.le_add_right _ _) hin)]
    simp only [after, hop, beatsBefore_failedAt hop]
    rw [if_pos (by unfold blockSize beatSize at *; omega)]
    simp only [image, sourceBlock, Nat.add_sub_cancel_left]
  write := by
    intro hop m hm k
    rw [h.held.disk _ (hothers.disk _ (Nat.le_add_right _ _) (by omega))]
    simp only [after, hop, blocksBefore_failedAt hop hplace]
    rw [if_pos (by omega), Nat.add_sub_cancel_left]
    simp [targetBlock, Contents.blockAt, Vector.get_eq]
  memory := by
    intro a ha hout
    rw [h.held.memory a ha]
    cases hop : x.command.op with
    | read =>
      have hnot := hout hop
      simp only [after, hop, beatsBefore_failedAt hop]
      refine if_neg ?_
      unfold blockSize beatSize at *
      omega
    | write => simp only [after, hop]
  disk := by
    intro b hb hout
    rw [h.held.disk b hb]
    cases hop : x.command.op with
    | read => simp only [after, hop]
    | write =>
      have hnot := hout hop
      simp only [after, hop, blocksBefore_failedAt hop hplace]
      exact if_neg (by omega)
  log := ⟨fault, error, answer, hanswer, hlog⟩

/-! ## How a command fails -/

/-- Waiting for the answer changes nothing. -/
lemma At.waiting (haccepted : config.Accepted) (h : x.At others log₀ i t stage s) {k : ℕ}
    (hrun : s.During others k s') (hk : k = 0) : x.At others log₀ i t stage s' := by
  induction hrun with
  | refl => exact h
  | engine => cases hk
  | meanwhile _ _ hstep ih => exact (ih hk).meanwhile haccepted hstep

lemma At.of_refuses (h : x.At others log₀ i t stage s) (hstage : ∀ answer, stage ≠ .refused answer)
    (hstep : s.Refuses s') : stage = .asked ∧ s'.dma = s.dma ∧ ∃ fault error answer,
      refusal fault error (x.exchange i t).request = some answer ∧
      x.At others log₀ i t (.refused answer) s' := by
  cases hstep with
  | refuse hrequests hrefusal =>
    cases stage with
    | refused answer => exact absurd rfl (hstage answer)
    | due => exact absurd (h.requests.symm.trans hrequests) not_nil_of_append_cons
    | answered => exact absurd (h.requests.symm.trans hrequests) not_nil_of_append_cons
    | asked =>
      obtain ⟨-, hmsg, -⟩ := h.request_eq hrequests
      obtain ⟨rfl, rfl⟩ := Prod.mk.inj hmsg
      exact ⟨rfl, rfl, _, _, _, hrefusal, h.refuse hrequests⟩

/-- The refusal ends the command. -/
lemma At.engine_refused {answer : Message} {fault : MemV1.MemFault} {error : MediaError}
    (h : x.At others log₀ i t (.refused answer) s)
    (hrefusal : refusal fault error (x.exchange i t).request = some answer)
    (hstep : s.Engine s') : x.Ended others i t (x.errorOf t) s' ∧
      s'.dma = s.dma.completed (x.errorOf t) ∧
      s'.log = log₀ ++ (x.before i t).flatMap Exchange.traffic ++
        [.asked (x.exchange i t).port (x.exchange i t).request,
          .answered (x.exchange i t).port answer] := by
  cases hstep with
  | wake hwakes _ => exact absurd (h.wakes.symm.trans hwakes) not_nil_of_append_cons
  | serve hrequests _ => exact absurd (h.requests.symm.trans hrequests) not_nil_of_append_cons
  | answer hanswers hstep => exact h.answer_refused hrefusal hanswers hstep

/-- The refusal can be delivered in COMPLETE. -/
lemma At.exists_refused {answer : Message} {fault : MemV1.MemFault} {error : MediaError}
    (h : x.At others log₀ i t (.refused answer) s)
    (hrefusal : refusal fault error (x.exchange i t).request = some answer) :
      ∃ s', s.Engine s' := by
  have hanswers : s.answers = [] ++ ((x.exchange i t).port, answer) :: [] := h.answers
  have hperforms : (s.dma.handleEvent (.message (x.exchange i t).port answer)).Performs
      ⟨0, 0, .complete, fun _ => 0⟩ (s.dma.endCalls (x.errorOf t))
      (s.dma.completed (x.errorOf t)) :=
    (h.refused_performs hrefusal).mpr ⟨rfl, rfl, rfl⟩
  exact ⟨_, .answer hanswers (DmaSystem.handle_eq_some.mpr ⟨_, _, hperforms, rfl⟩)⟩

end Transfer

/-- A write to `ACK` after a command is served as an acknowledgement. -/
lemma DmaBlockController.request_ack {config : DmaBlockControllerConfig}
    {c : DmaBlockController config} {txn : TxnId} {data : Bytes} {value : UInt32}
    (hvalue : word? data = some value) (hack : value &&& 1 ≠ 0) (hdone : c.done = true) :
    c.request (.writeReq txn ackReg data) =
      updateIrq { c with done := false, error := 0 } fun next =>
        next.respond (.writeResp txn .done) := by
  have hlength := length_of_word? hvalue
  have haccess : (MemV1.MemMsg.writeReq txn ackReg data).access =
      some (.bytes ackReg (ackReg + 3)) := by
    rw [MemV1.MemMsg.access, hlength]
    rfl
  have hword : (if ackReg + 3 - ackReg = 3 ∧ ackReg % 4 = 0 ∧ ackReg < windowSize then
      some ackReg else none) = some ackReg := by decide
  have hwrite (k : Bool → DmaBlockController config → Handler (DmaBlockController config)) :
      c.writeRegister ackReg value k = updateIrq { c with done := false, error := 0 } (k true) := by
    have hboth : value &&& 1 ≠ 0 ∧ c.done = true := ⟨hack, hdone⟩
    unfold writeRegister
    rw [if_neg (by decide), if_neg (by decide), if_neg (by decide), if_neg (by decide),
      if_neg (by decide), if_neg (by decide), if_pos rfl, if_pos hboth]
  simp only [request, haccess, hword, serve, hvalue, hwrite, if_true]

namespace DmaSystem

variable {config : DmaBlockControllerConfig} {s s' : DmaSystem config} {others : Others}

/-! ## Afterwards -/

lemma Matched.step (haccepted : config.Accepted) (h : s.Matched) (hstep : s.Step others s') :
    s'.Matched := by
  cases hstep with
  | engine hstep => exact h.engine haccepted hstep
  | refuses hstep => exact h.refuses hstep
  | meanwhile hstep => exact h.meanwhile haccepted hstep

/-- Without a command nothing is said. -/
lemma Matched.silent (h : s.Matched) (hbusy : s.dma.busy = false) (hstep : s.Step others s') :
    s'.log = s.log := by
  obtain ⟨hwakes, hrequests, hanswers⟩ := h.quiet hbusy
  cases hstep with
  | engine hstep =>
    cases hstep with
    | wake h _ => exact absurd (hwakes.symm.trans h) Transfer.not_nil_of_append_cons
    | serve h _ => exact absurd (hrequests.symm.trans h) Transfer.not_nil_of_append_cons
    | answer h _ => exact absurd (hanswers.symm.trans h) Transfer.not_nil_of_append_cons
  | refuses hstep =>
    cases hstep with
    | refuse h _ => exact absurd (hrequests.symm.trans h) Transfer.not_nil_of_append_cons
  | meanwhile hstep =>
    cases hstep with
    | access hstep =>
      rcases access_cases h.sound hstep with ⟨c, -, rfl⟩ | ⟨-, op, rfl⟩
      · rfl
      · rfl
    | write _ => rfl

lemma Matched.runs (haccepted : config.Accepted) (h : s.Matched)
    (hrun : s.Runs others (fun s => s.dma.busy = false) s') : s'.Matched ∧ s'.log = s.log := by
  induction hrun with
  | refl => exact ⟨h, rfl⟩
  | step _ hbusy hstep ih =>
    exact ⟨ih.1.step haccepted hstep, (ih.1.silent hbusy hstep).trans ih.2⟩

lemma Matched.during (haccepted : config.Accepted) (h : s.Matched) {k : ℕ}
    (hrun : s.During others k s') : s'.Matched := by
  induction hrun with
  | refl => exact h
  | engine _ _ hstep ih => exact ih.engine haccepted hstep
  | meanwhile _ _ hstep ih => exact ih.meanwhile haccepted hstep

/-- Two controllers without a command whose registers agree differ in their counters only. -/
lemma eq_shift {c c' : DmaBlockController config} (h : c.Sound) (h' : c'.Sound)
    (hidle : c.busy = false ∧ c.done = false) (hidle' : c'.busy = false ∧ c'.done = false)
    (hregisters : c'.lba = c.lba ∧ c'.memAddr = c.memAddr ∧ c'.blockCount = c.blockCount ∧
      c'.irqEnable = c.irqEnable ∧ c'.rejected = c.rejected) :
    c' = c.shift ⟨c'.dmaTxn - c.dmaTxn, c'.blkTxn - c.blkTxn⟩ := by
  obtain ⟨hlba, haddr, hcount, hirq, hrejected⟩ := hregisters
  obtain ⟨hlatched, hengine, hblock, hbeat, hbuffer⟩ := h.idle hidle.1
  obtain ⟨hlatched', hengine', hblock', hbeat', hbuffer'⟩ := h'.idle hidle'.1
  have herror := h.error
  have herror' := h'.error
  have hlevel := h.level
  have hlevel' := h'.level
  unfold level at hlevel hlevel'
  simp only [hidle.2, Bool.false_eq_true, if_false, Bool.false_and] at herror hlevel
  simp only [hidle'.2, Bool.false_eq_true, if_false, Bool.false_and] at herror' hlevel'
  have hadd (a b : UInt64) : b = a + (b - a) := by
    rw [UInt64.add_comm, UInt64.sub_add_cancel]
  ext1
  · exact hlba
  · exact haddr
  · exact hcount
  · exact hirq
  · exact hidle'.1.trans hidle.1.symm
  · exact hidle'.2.trans hidle.2.symm
  · exact hrejected
  · exact herror'.trans herror.symm
  · exact hlatched'.trans hlatched.symm
  · rw [hengine']
    show _ = c.engine.shift _
    rw [hengine]
    rfl
  · exact hblock'.trans hblock.symm
  · exact hbeat'.trans hbeat.symm
  · exact hbuffer'.trans hbuffer.symm
  · exact hadd _ _
  · exact hadd _ _
  · exact hlevel'.trans hlevel.symm

/-- An acknowledgement takes a command that has ended away. -/
lemma handle_ack {env : Surroundings} {txn : TxnId} {data : Bytes} {value : UInt32}
    (hvalue : word? data = some value) (hack : value &&& 1 ≠ 0) (hdone : s.dma.done = true)
    (h : s.handle env (.message memPort (.memV1 (.writeReq txn ackReg data))) = some s') :
    s'.dma.busy = s.dma.busy ∧ s'.dma.done = false := by
  obtain ⟨calls, c, hperforms, rfl⟩ := handle_eq_some.mp h
  have hrequest : (s.dma.request (.writeReq txn ackReg data)).Performs env calls c := hperforms
  rw [request_ack hvalue hack hdone] at hrequest
  obtain ⟨rest, -, hrespond⟩ := updateIrq_performs.mp hrequest
  obtain ⟨-, rfl⟩ := respond_performs.mp hrespond
  exact ⟨rfl, rfl⟩

/-- A system whose controller cannot be told from another one without a command and with the same
registers, but for its transactions: the two run alike, one with the names of the other. -/
def LikeNew [SnapshotData] (c₀ : DmaBlockController config) (s : DmaSystem config) : Prop :=
  s.Quiet ∧ ∀ c : DmaBlockController config, Component.Reaches c₀ c →
    c.busy = false → c.done = false →
    (s.dma.lba = c.lba ∧ s.dma.memAddr = c.memAddr ∧ s.dma.blockCount = c.blockCount ∧
      s.dma.irqEnable = c.irqEnable ∧ s.dma.rejected = c.rejected) →
    ∃ d : Shift, s.dma = c.shift d ∧ ∀ others held s',
      (quiet c held).Runs others (Roomy d) s' ↔
        (quiet s.dma held).Runs others (Roomy d.neg) (s'.shift d)

lemma Matched.likeNew [SnapshotData] {c₀ : DmaBlockController config} (hnew : new config = .ok c₀)
    (h : s.Matched) (hbusy : s.dma.busy = false) (hdone : s.dma.done = false) : s.LikeNew c₀ := by
  refine ⟨h.quiet hbusy, fun c hreaches hbusy' hdone' hregisters => ?_⟩
  have hshift := eq_shift (Sound.of_reaches hnew hreaches) h.sound ⟨hbusy', hdone'⟩ ⟨hbusy, hdone⟩
    hregisters
  refine ⟨_, hshift, fun others held s' => ?_⟩
  have hquiet := congrArg (fun c => DmaSystem.quiet c held) hshift
  rw [hquiet]
  exact runs_shift.symm

/-- Every READ and every WRITE of which a request is refused fails exactly there.  Whatever has been
served before it, and however long its refusal takes, the refusal can be delivered, and ends the
command with the error of the peer and with what was served before it done; `REJECTED` is as it was.
Then nothing is said without a new command, and after an acknowledgement the controller is like
one that never failed. -/
theorem refusal_exact [SnapshotData] {c₀ : DmaBlockController config} (hnew : new config = .ok c₀)
    (hreached : Reached c₀ s) (hbusy : s.dma.busy = false) (hdone : s.dma.done = false)
    {op : Operation} {txn : TxnId} {data : Bytes} {value : UInt32}
    (hvalue : word? data = some value)
    (hvalid : config.validate value s.dma.lba s.dma.memAddr s.dma.blockCount = .ok op)
    (hothers : others.Avoid (s.transfer op)) {env : Surroundings} {k : ℕ}
    {s₀ s₁ s₂ s₃ : DmaSystem config}
    (hcommand : s.handle env (.message memPort (.memV1 (.writeReq txn commandReg data))) = some s₀)
    (hserved : s₀.During others k s₁) (hrefused : s₁.Refuses s₂) (hwaited : s₂.During others 0 s₃) :
    (∃ s₄, s₃.Engine s₄) ∧ ∀ s₄, s₃.Engine s₄ →
      ∃ i < (s.transfer op).count, ∃ place, (∀ j, place = some j → j < 32) ∧
        k = 3 * (33 * i + (s.transfer op).failedAt place) + 1 ∧
        (s.transfer op).Failed others s.log i place s₄ ∧
        s₄.dma.rejected = s₃.dma.rejected ∧
        ∀ s₅, s₄.Runs others (fun s => s.dma.busy = false) s₅ → s₅.log = s₄.log ∧
          ∀ env txn data value s₆, s₅.dma.busy = false → s₅.dma.done = true →
            word? data = some value → value &&& 1 ≠ 0 →
            s₅.handle env (.message memPort (.memV1 (.writeReq txn ackReg data))) = some s₆ →
              s₆.LikeNew c₀ := by
  have haccepted := (new_eq_ok hnew).1
  have hmatched := hreached.matched hnew
  have haccess : s.Meanwhile others s₀ := .access hcommand
  have hmatched₀ := hmatched.meanwhile haccepted haccess
  have hmatched₃ := ((hmatched₀.during haccepted hserved).refuses hrefused).during haccepted hwaited
  have hstart := accept_at haccepted hmatched hbusy hdone hvalue hvalid others
  obtain rfl :=
    Option.some.inj ((handle_command env txn hmatched hbusy hdone hvalue hvalid).symm.trans
    hcommand)
  rcases hstart.during haccepted hothers hserved with ⟨i, t, stage, hat, hstage, hk⟩ | ⟨-, hended⟩
  · obtain ⟨rfl, -, fault, error, answer, hrefusal, hrefusedAt⟩ := hat.of_refuses hstage hrefused
    have hwaiting := hrefusedAt.waiting haccepted hwaited rfl
    obtain ⟨place, rfl, hcode, hplace⟩ := (s.transfer op).exists_failedAt hat.step_lt
    refine ⟨hwaiting.exists_refused hrefusal, fun s₄ hstep => ?_⟩
    obtain ⟨hended, hdma, hlog⟩ := hwaiting.engine_refused hrefusal hstep
    have hi := hat.block_lt
    have hfailed := hended.failed hothers hi hplace hcode hrefusal hlog
    have hmatched₄ := hmatched₃.engine haccepted hstep
    refine ⟨i, hi, place, hplace, hk, hfailed, ?_, fun s₅ hrun => ?_⟩
    · rw [hdma]
      rfl
    · obtain ⟨hmatched₅, hsilent⟩ := hmatched₄.runs haccepted hrun
      refine ⟨hsilent, fun env txn data value s₆ hbusy₅ hdone₅ hvalue hack hstep₆ => ?_⟩
      obtain ⟨hbusy₆, hdone₆⟩ := handle_ack hvalue hack hdone₅ hstep₆
      have haccess₆ : s₅.Meanwhile others s₆ := .access hstep₆
      have hmatched₆ := hmatched₅.meanwhile haccepted haccess₆
      exact hmatched₆.likeNew hnew (hbusy₆.trans hbusy₅) hdone₆
  · cases hrefused with
    | refuse hrequests _ =>
      exact absurd (hended.quiet.requests.symm.trans hrequests) Transfer.not_nil_of_append_cons

open Canonical in
/-- Memory refuses the fifth beat of the second block of a READ. -/
theorem refusal_exact_top : ∃ s₃ s₄ : DmaSystem topConfig, s₃.Engine s₄ ∧ s₄.dma.done = true ∧
    s₄.dma.error = dmaFault ∧ s₄.held.memory (4294966272 + 575) = 1 ∧
    s₄.held.memory (4294966272 + 576) = 0 := by
  have hvalid : topConfig.validate 1 0 4294966272 2 = .ok .read := by
    decide +kernel
  have hnew : new topConfig = .ok (fresh topConfig) := rfl
  have haccepted := (new_eq_ok hnew).1
  have hreached : Reached (fresh topConfig) (quiet (readyController 0) numbered) :=
    .start ready_reaches rfl numbered
  have hmatched := hreached.matched hnew
  have hvalue : word? [1, 0, 0, 0] = some 1 := rfl
  have hcommand := handle_command ⟨0, 0, .request, fun _ => 0⟩ 7 hmatched rfl rfl hvalue hvalid
  have hstart := accept_at haccepted hmatched rfl rfl hvalue hvalid ⟨∅, ∅⟩
  obtain ⟨s₁, hserved⟩ := hstart.exists_during haccepted (.none _) ⟨by decide, by decide⟩
    (show 3 * (33 * 1 + 5) + 1 ≤ 99 * 2 by decide)
  rcases hstart.during haccepted (.none _) hserved with ⟨i, t, stage, hat, -, hk⟩ | ⟨hk, -⟩
  · have ht := hat.step_lt
    have hstage := stage.index_le
    obtain ⟨rfl, rfl, hindex⟩ : i = 1 ∧ t = 5 ∧ stage.index = 1 := by omega
    cases stage with
    | due => cases hindex
    | answered => cases hindex
    | refused answer => cases hindex
    | asked =>
      have hrequests : s₁.requests = [] ++ _ :: [] := hat.requests
      have hrefused := Refuses.refuse hrequests
        (show refusal .accessFault .badBlock _ = some _ from rfl)
      obtain ⟨⟨s₄, hend⟩, hfails⟩ :=
        refusal_exact hnew hreached rfl rfl hvalue hvalid (.none _) hcommand hserved hrefused .refl
      obtain ⟨i, -, place, hplace, hk, hfailed, -, -⟩ := hfails s₄ hend
      cases place with
      | none =>
        have hblock : 3 * (33 * 1 + 5) + 1 = 3 * (33 * i + 0) + 1 := hk
        omega
      | some j =>
        have hj := hplace j rfl
        have hbeat : 3 * (33 * 1 + 5) + 1 = 3 * (33 * i + (j + 1)) + 1 := hk
        obtain ⟨rfl, rfl⟩ : i = 1 ∧ j = 4 := by omega
        refine ⟨_, s₄, hend, hfailed.done, hfailed.error, ?_, ?_⟩
        · exact (hfailed.read rfl 575 (by decide)).trans (by decide)
        · exact hfailed.memory (4294966272 + 576) id fun _ => .inr (by decide)
  · have hlast : 3 * (33 * 1 + 5) + 1 = 99 * 2 := hk
    omega

end DmaSystem

end SystemScope.Platform
