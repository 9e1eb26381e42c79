import SystemScope.Os.Machine
import SystemScope.Os.Walk

/-!
# The trap frame

The words of a trap frame as its bytes, and what is in memory of the trap frame in each stage of an
operation (`Framed`): what the process trapped with, until the results of a syscall are written over
it, or the context of the next process is.
-/

namespace SystemScope.Os

open ByteMap Checks

/-! ## Words of a frame -/

/-- Bytes with a word in them. -/
def putWord (bs : Bytes) (offset : ℕ) (w : UInt32) : Bytes := overwrite bs offset (wordBytes w)

lemma word_eq {bs : Bytes} {offset : ℕ} {w : UInt32} (h : (bs.drop offset).take 4 = wordBytes w) :
    word bs offset = w := by
  have hword : word bs offset = word (wordBytes w) 0 := by
    unfold word
    rw [h, List.drop_zero, List.take_of_length_le (by simp)]
  rw [hword, word_wordBytes]

lemma drop_take_words {ws : List UInt32} {w : UInt32} {i : ℕ} (rest : Bytes) (h : ws[i]? = some w) :
    ((ws.flatMap wordBytes ++ rest).drop (4 * i)).take 4 = wordBytes w := by
  induction ws generalizing i with
  | nil => cases h
  | cons w' ws ih =>
    rw [List.flatMap_cons, List.append_assoc]
    cases i with
    | zero =>
      cases h
      rw [Nat.mul_zero, List.drop_zero, List.take_left' (length_wordBytes w)]
    | succ i =>
      have hdrop : 4 * (i + 1) = (wordBytes w').length + 4 * i := by
        rw [length_wordBytes]
        omega
      rw [hdrop, ← List.drop_drop, List.drop_left]
      exact ih h

lemma length_flatMap_wordBytes (ws : List UInt32) :
    (ws.flatMap wordBytes).length = 4 * ws.length := by
  induction ws with
  | nil => rfl
  | cons w ws ih =>
    rw [List.flatMap_cons, List.length_append, ih, length_wordBytes, List.length_cons]
    omega

namespace Context

variable (c : Context)

@[simp] lemma length_words : c.words.length = 33 := by simp [words]

@[simp] lemma length_toFrame : c.toFrame.length = contextBytes := by
  unfold toFrame
  rw [length_flatMap_wordBytes, length_words]
  rfl

lemma word_toFrame (rest : Bytes) {i : ℕ} {w : UInt32} (h : c.words[i]? = some w) :
    word (c.toFrame ++ rest) (4 * i) = w :=
  word_eq (drop_take_words rest h)

/-- A context is read back from the frame that it fills. -/
lemma fromFrame_toFrame (rest : Bytes) : fromFrame (c.toFrame ++ rest) = c := by
  have hregs : (Vector.ofFn fun i : Fin 31 => word (c.toFrame ++ rest) (4 * i)) = c.regs := by
    ext i hi
    rw [Vector.getElem_ofFn, c.word_toFrame rest]
    unfold words
    rw [List.getElem?_append_left (by simpa using hi)]
    simp
  have hpc : word (c.toFrame ++ rest) (4 * 31) = c.pc := c.word_toFrame rest (by simp [words])
  have hsstatus : word (c.toFrame ++ rest) (4 * 32) = c.sstatus :=
    c.word_toFrame rest (by simp [words])
  unfold fromFrame
  rw [hregs, hpc, hsstatus]

end Context

/-! ## Parts of a frame -/

/-- Parts of byte strings that agree byte by byte. -/
lemma slice_eq {a b : Bytes} {offset n : ℕ} (ha : offset + n ≤ a.length)
    (hb : offset + n ≤ b.length)
    (h : ∀ i, offset ≤ i → i < offset + n → a.getD i 0 = b.getD i 0) :
    (a.drop offset).take n = (b.drop offset).take n := by
  refine List.ext_getElem ?_ fun i hi hi' => ?_
  · simp only [List.length_take, List.length_drop]
    omega
  · rw [List.length_take] at hi
    have hbyte := h (offset + i) (by omega) (by omega)
    rw [List.getD_eq_getElem _ _ (by omega), List.getD_eq_getElem _ _ (by omega)] at hbyte
    simpa using hbyte

section DispatchBytes

variable (context : Context) (satp : UInt32)

@[simp] lemma length_dispatchBytes : (dispatchBytes context satp).length = frameBytes := by
  unfold dispatchBytes
  simp [contextBytes, frameSatp, frameBytes]

lemma dispatchBytes_context : (dispatchBytes context satp).take contextBytes = context.toFrame := by
  unfold dispatchBytes
  rw [List.append_assoc, List.append_assoc, List.take_left' context.length_toFrame]

lemma dispatchBytes_satp :
    ((dispatchBytes context satp).drop frameSatp).take 8 = wordBytes satp ++
      List.replicate 4 0 := by
  unfold dispatchBytes
  rw [List.append_assoc, List.drop_left' (by simp [contextBytes, frameSatp])]
  rw [List.take_append, length_wordBytes, List.take_of_length_le (by simp), List.take_replicate]
  rfl

variable {context satp} {frame : Bytes}

/-- A frame that agrees with what a dispatch writes holds the context, the `satp`, and the action to
resume. -/
lemma dispatched_frame (hlength : frame.length = frameBytes)
    (hcontext : ∀ i < contextBytes, frame.getD i 0 = (dispatchBytes context satp).getD i 0)
    (hsatp : ∀ i, frameSatp ≤ i → i < frameSatp + 8 →
      frame.getD i 0 = (dispatchBytes context satp).getD i 0) :
    Context.fromFrame frame = context ∧ word frame frameSatp = satp ∧
      word frame frameAction = 0 := by
  have hbytes := length_dispatchBytes context satp
  have hfirst : (frame.drop 0).take contextBytes =
      ((dispatchBytes context satp).drop 0).take contextBytes :=
    slice_eq (by rw [hlength]; decide) (by rw [hbytes]; decide) fun i _ hi => hcontext i (by omega)
  rw [List.drop_zero, List.drop_zero, dispatchBytes_context] at hfirst
  have hsecond : (frame.drop frameSatp).take 8 = wordBytes satp ++ List.replicate 4 0 := by
    rw [← dispatchBytes_satp context satp]
    exact slice_eq (by rw [hlength]; decide) (by rw [hbytes]; decide) hsatp
  refine ⟨?_, ?_, ?_⟩
  · rw [← List.take_append_drop contextBytes frame, hfirst]
    exact context.fromFrame_toFrame _
  · refine word_eq ?_
    have htake := congrArg (List.take 4) hsecond
    rwa [List.take_take, List.take_left' (length_wordBytes satp)] at htake
  · refine word_eq ?_
    have hdrop := congrArg (List.drop 4) hsecond
    rw [List.drop_left' (length_wordBytes satp), List.drop_take, List.drop_drop] at hdrop
    exact hdrop

end DispatchBytes

/-! ## The frame in each stage -/

/-- The frame after some accesses of a return. -/
def returned (trapped : Bytes) (sepc value : UInt32) : ℕ → Bytes
  | 0 => trapped
  | 1 => putWord trapped frameA0 value
  | _ => putWord (putWord trapped frameA0 value) frameSepc (sepc + 4)

variable {config : KernelConfig} {frame trapped : Bytes} {o o' : ProcOp}

/-- What the trap frame in memory and the working data hold in each stage, with the frame that was
trapped with. -/
def Framed (config : KernelConfig) (frame trapped : Bytes) (o : ProcOp) : Prop :=
  match o.stage with
  | .readFrame => frame = trapped ∧ o.data = trapped.take (readLen (frameChunks config) o.step)
  | .walk buffer .. | .output buffer .. => frame = trapped ∧ buffer.sepc = word trapped frameSepc
  | .return_ sepc value =>
    sepc = word trapped frameSepc ∧ frame = returned trapped sepc value o.step
  | .dispatch _ context satp =>
    ∀ i < frameBytes, (∃ c ∈ (dispatchChunks config).take o.step,
      c.1 ≤ config.trapFrame.toNat + i ∧ config.trapFrame.toNat + i < c.1 + c.2) →
        frame.getD i 0 = (dispatchBytes context satp).getD i 0
  | _ => True

/-- At the start of a stage that does not belong to a syscall, nothing is known of the frame. -/
lemma framed_new {stage : Stage} (hstage : stage.OfBoot ∨ stage.Switches) :
    Framed config frame trapped (.new stage) := by
  cases stage with
  | dispatch pid context satp =>
    intro i _ h
    obtain ⟨c, hc, -⟩ := h
    exact nomatch hc
  | readFrame => exact (hstage.elim id id).elim
  | walk => exact (hstage.elim id id).elim
  | output => exact (hstage.elim id id).elim
  | return_ => exact (hstage.elim id id).elim
  | _ => trivial

lemma framed_readFrame : Framed config frame frame (.new .readFrame) := ⟨rfl, rfl⟩

lemma framed_returns {stage : Stage} (hstage : stage.Returns (word frame frameSepc)) :
    Framed config frame frame (.new stage) := by
  cases stage with
  | walk buffer pages table level => exact ⟨rfl, hstage⟩
  | output buffer pages done => exact ⟨rfl, hstage⟩
  | return_ sepc value => exact ⟨hstage, rfl⟩
  | dispatch pid context satp => exact framed_new (.inr trivial)
  | shutdown reason => exact framed_new (.inr trivial)
  | _ => exact hstage.elim

section Answered

variable {bus : BusMap config} {memory : ByteMap} {access : Access} {completion : Completion}

lemma BusMap.devices_frame (bus : BusMap config) (hvalid : config.Valid) {addr : ℕ}
    (hle : config.trapFrame.toNat ≤ addr) (hlt : addr < config.trapFrame.toNat + frameBytes) :
    bus.devices addr = false := by
  obtain ⟨-, hbase, -, htop⟩ := hvalid.frame_in_ram
  have hframe : config.frame.base.toNat = config.trapFrame.toNat := UInt32.toNat_toUInt64 _
  have hsize : config.frame.size.toNat = frameBytes := rfl
  exact bus.ram addr (by omega) (by omega)

lemma BusMap.effect_read (bus : BusMap config) (addr len : ℕ) :
    bus.effect memory (.read addr len) = memory := by
  unfold BusMap.effect
  split <;> rfl

/-- A read of the frame gets what is there. -/
lemma BusMap.Answers.read {addr len : ℕ} (h : bus.Answers memory (.read addr len) completion)
    (hdevices : bus.devices addr = false) : completion = .data (memory.read addr len) := h hdevices

lemma BusMap.effect_write {addr : ℕ} {data : Bytes} (hdevices : bus.devices addr = false) :
    bus.effect memory (.write addr data) = memory.write addr data := by
  unfold BusMap.effect
  rw [show bus.devices (Access.write addr data).addr = false from hdevices]
  rfl

lemma BusMap.effect_uart (bus : BusMap config) (data : Bytes) :
    bus.effect memory (.write config.uartTx.toNat data) = memory := by
  unfold BusMap.effect
  rw [show bus.devices (Access.write config.uartTx.toNat data).addr = true from bus.uart]
  rfl

/-- The frame after a write of a piece of it: its bytes are there, the others are unchanged. -/
lemma getD_writeChunk {c : ℕ × ℕ} {bs : Bytes} {i : ℕ} (hi : i < frameBytes)
    (hle : config.trapFrame.toNat ≤ c.1) (hlt : c.1 + c.2 ≤ config.trapFrame.toNat + bs.length)
    (hdevices : bus.devices c.1 = false) :
    ((bus.effect memory (writeChunk config.trapFrame.toNat bs c)).read config.trapFrame.toNat
        frameBytes).getD i 0 =
      if c.1 ≤ config.trapFrame.toNat + i ∧ config.trapFrame.toNat + i < c.1 + c.2 then bs.getD i 0
      else (memory.read config.trapFrame.toNat frameBytes).getD i 0 := by
  have hlength : ((bs.drop (c.1 - config.trapFrame.toNat)).take c.2).length = c.2 := by
    rw [List.length_take, List.length_drop]
    omega
  rw [getD_read hi, getD_read hi, writeChunk, BusMap.effect_write hdevices]
  unfold ByteMap.write
  rw [hlength]
  split
  · next hin =>
    rw [List.getD_eq_getElem _ _ (by omega), List.getD_eq_getElem _ _ (by omega)]
    rw [List.getElem_take, List.getElem_drop]
    congr 1
    omega
  · rfl

lemma mem_dispatchChunks {c : ℕ × ℕ} (h : c ∈ dispatchChunks config) :
    IsPiece c ∧ config.trapFrame.toNat ≤ c.1 ∧ c.1 + c.2 ≤ config.trapFrame.toNat + frameBytes := by
  rcases List.mem_append.mp h with h | h
  · obtain ⟨hpiece, hle, hlt⟩ := mem_chunks h
    unfold contextBytes at hlt
    unfold frameBytes
    exact ⟨hpiece, hle, by omega⟩
  · obtain ⟨hpiece, hle, hlt⟩ := mem_chunks h
    unfold frameSatp at hle hlt
    unfold frameBytes
    exact ⟨hpiece, by omega, by omega⟩

lemma framed_read {step : ℕ} {data : Bytes}
    (h : Framed config (memory.read config.trapFrame.toNat frameBytes) trapped
      { stage := .readFrame, step, data })
    {c : ℕ × ℕ} (hc : (frameChunks config)[step]? = some c) :
    data ++ memory.read c.1 c.2 = trapped.take (readLen (frameChunks config) (step + 1)) := by
  obtain ⟨hframe, hdata⟩ := h
  have hstart := chunk_start hc
  obtain ⟨-, -, hlt⟩ := mem_chunks (List.mem_of_getElem? hc)
  rw [readLen_succ hc, List.take_add, ← hdata, hstart, ← hframe, read_drop_take]
  · rfl
  · unfold frameChunks
    omega

variable (hvalid : config.Valid)

include hvalid

/-- A write of a dispatch puts its piece of the context, or of what follows it, in the frame. -/
lemma framed_dispatched {pid : ℕ} {context : Context} {satp : UInt32} {step : ℕ}
    {data data' : Bytes}
    (h : Framed config (memory.read config.trapFrame.toNat frameBytes) trapped
      { stage := .dispatch pid context satp, step, data })
    {c : ℕ × ℕ} (hc : (dispatchChunks config)[step]? = some c) :
    Framed config
      ((bus.effect memory (writeChunk config.trapFrame.toNat (dispatchBytes context satp) c)).read
        config.trapFrame.toNat frameBytes)
      trapped { stage := .dispatch pid context satp, step := step + 1, data := data' } := by
  obtain ⟨hpiece, hle, hlt⟩ := mem_dispatchChunks (List.mem_of_getElem? hc)
  have hpos := hpiece.pos
  intro i hi hmem
  rw [getD_writeChunk hi hle (by rwa [length_dispatchBytes])
    (bus.devices_frame hvalid hle (by omega))]
  split
  · rfl
  · next hnot =>
    refine h i hi ?_
    obtain ⟨c', hc', hin⟩ := hmem
    rw [List.take_add_one, hc, Option.toList_some, List.mem_append, List.mem_singleton] at hc'
    rcases hc' with hc' | rfl
    · exact ⟨c', hc', hin⟩
    · exact absurd hin hnot

lemma putWord_frame {offset : ℕ} (w : UInt32) (h : offset + 4 ≤ frameBytes) :
    (bus.effect memory (.write (config.trapFrame.toNat + offset) (wordBytes w))).read
      config.trapFrame.toNat frameBytes =
      putWord (memory.read config.trapFrame.toNat frameBytes) offset w := by
  rw [BusMap.effect_write (bus.devices_frame hvalid (by omega) (by omega))]
  exact read_write_within (by rwa [length_wordBytes])

lemma framed_answered (h : Framed config (memory.read config.trapFrame.toNat frameBytes) trapped o)
    (ha : o.access config = .ok (some access)) (hanswers : bus.Answers memory access completion)
    (hheld : o.data.length = o.dataLen config o.step)
    (hcomplete : o.complete config completion = .ok (.ok o')) :
    Framed config
      ((bus.effect memory access).read config.trapFrame.toNat frameBytes) trapped o' := by
  obtain ⟨access', data, n, ha', hdata, -, rfl⟩ := ProcOp.complete_eq_ok hcomplete
  rw [ha] at ha'
  cases ha'
  obtain ⟨stage, step, held⟩ := o
  cases stage with
  | readFrame =>
    have hreads := ProcOp.length_reads (Except.ok.inj ha) hheld hdata
    obtain ⟨c, hc, rfl⟩ := Option.map_eq_some_iff.mp (Except.ok.inj ha)
    obtain ⟨hpiece, hle, hlt⟩ := mem_chunks (List.mem_of_getElem? hc)
    have hpos := hpiece.pos
    have hcompletion := hanswers.read (bus.devices_frame hvalid hle (by omega))
    rw [hcompletion] at hdata
    obtain ⟨-, hdata⟩ := guard_eq_ok.mp hdata
    cases hdata
    rw [readChunk, BusMap.effect_read]
    exact ⟨h.1, (ProcOp.complete_reads hreads n).trans (framed_read h hc)⟩
  | dispatch pid context satp =>
    obtain ⟨c, hc, rfl⟩ := Option.map_eq_some_iff.mp (Except.ok.inj ha)
    exact framed_dispatched hvalid h hc
  | walk buffer pages table level =>
    obtain ⟨-, va, -, rfl⟩ := ProcOp.access_walk ha
    rw [BusMap.effect_read]
    exact h
  | output buffer pages done =>
    rcases ProcOp.access_output ha with ⟨-, addr, -, rfl⟩ | ⟨-, -, b, -, rfl⟩
    · rw [BusMap.effect_read]
      exact h
    · rw [BusMap.effect_uart]
      exact h
  | return_ sepc value =>
    obtain ⟨hsepc, hframe⟩ := h
    refine ⟨hsepc, ?_⟩
    rcases ProcOp.access_return ha with ⟨rfl, rfl⟩ | ⟨rfl, rfl⟩
    · rw [putWord_frame hvalid value (by decide), hframe]
      rfl
    · rw [putWord_frame hvalid (sepc + 4) (by decide), hframe]
      rfl
  | _ => trivial

end Answered

lemma framed_readAll (h : Framed config frame trapped o) (hstage : o.stage = .readFrame)
    (hlength : frame.length = frameBytes) (hfinished : o.isFinished config = .ok true) :
    frame = trapped ∧ o.data = trapped := by
  obtain ⟨stage, step, data⟩ := o
  obtain rfl : stage = .readFrame := hstage
  obtain ⟨rfl, hdata⟩ := h
  have hle : (frameChunks config).length ≤ step := by simpa using Except.ok.inj hfinished
  have hall : readLen (frameChunks config) step = frameBytes := by
    unfold readLen
    rw [List.take_of_length_le hle]
    exact sum_chunks _ _
  refine ⟨rfl, ?_⟩
  rwa [hall, List.take_of_length_le (Nat.le_of_eq hlength)] at hdata

/-- The context, the `satp` and the action to resume are in the frame when a dispatch is
finished. -/
lemma framed_dispatchAll (h : Framed config frame trapped o) {pid : ℕ} {context : Context}
    {satp : UInt32} (hstage : o.stage = .dispatch pid context satp)
    (hlength : frame.length = frameBytes) (hfinished : o.isFinished config = .ok true) :
    Context.fromFrame frame = context ∧ word frame frameSatp = satp ∧
      word frame frameAction = 0 := by
  obtain ⟨stage, step, data⟩ := o
  obtain rfl : stage = .dispatch pid context satp := hstage
  have hle : (dispatchChunks config).length ≤ step := by simpa using Except.ok.inj hfinished
  have hbyte (offset len : ℕ) {i : ℕ} (hchunks : ∀ c ∈ chunks (config.trapFrame.toNat + offset) len,
      c ∈ dispatchChunks config) (hin : offset + len ≤ frameBytes) (hoffset : offset ≤ i)
      (hi : i < offset + len) : frame.getD i 0 = (dispatchBytes context satp).getD i 0 := by
    obtain ⟨c, hc, hmem⟩ := exists_chunk (config.trapFrame.toNat + offset) len
      (a := config.trapFrame.toNat + i) (by omega) (by omega)
    refine h i (by omega) ⟨c, ?_, hmem⟩
    rw [List.take_of_length_le hle]
    exact hchunks c hc
  refine dispatched_frame hlength (fun i hi => ?_) fun i hle hi => ?_
  · exact hbyte 0 contextBytes (fun c hc => List.mem_append_left _ hc) (by decide) (by omega)
      (by omega)
  · exact hbyte frameSatp 8 (fun c hc => List.mem_append_right _ hc) (by decide) hle hi

/-- Only `a0` and `sepc` have changed when a return is finished. -/
lemma framed_returnAll (h : Framed config frame trapped o) {sepc value : UInt32}
    (hstage : o.stage = .return_ sepc value) (hfinished : o.isFinished config = .ok true) :
    frame = putWord (putWord trapped frameA0 value) frameSepc (word trapped frameSepc + 4) := by
  obtain ⟨stage, step, data⟩ := o
  obtain rfl : stage = .return_ sepc value := hstage
  obtain ⟨hsepc, hframe⟩ := h
  have hle : 2 ≤ step := by simpa using Except.ok.inj hfinished
  obtain ⟨k, rfl⟩ := Nat.exists_eq_add_of_le' hle
  rw [hframe, ← hsepc]
  rfl

/-- A syscall resumes after the `sepc` that was trapped with. -/
lemma framed_caller (h : Framed config frame trapped o) (hlength : frame.length = frameBytes)
    (hfinished : o.isFinished config = .ok true) {sepc : UInt32} (hcaller : sepc ∈ o.caller) :
    frame = trapped ∧ sepc = word trapped frameSepc := by
  unfold ProcOp.caller at hcaller
  split at hcaller
  · next hstage =>
    obtain ⟨hframe, hdata⟩ := framed_readAll h hstage hlength hfinished
    cases hcaller
    exact ⟨hframe, congrArg (word · frameSepc) hdata⟩
  · next hstage =>
    unfold Framed at h
    rw [hstage] at h
    cases hcaller
    exact h
  · next hstage =>
    unfold Framed at h
    rw [hstage] at h
    cases hcaller
    exact h
  · cases hcaller

namespace Machine

variable {bus : BusMap config} {others : Others config} {x x' : Machine config} {m : Model}

/-- Others leave the trap frame as it is while an `ENTER` is held. -/
def KeepFrame (others : Others config) : Prop :=
  ∀ c memory memory', others c memory memory' → c.held.isSome →
    memory'.read config.trapFrame.toNat frameBytes = memory.read config.trapFrame.toNat frameBytes

/-- The trap frame is what the stage of the operation says. -/
def Framed (x : Machine config) : Prop :=
  ∀ o, x.kernel.work = some (.proc o) → Os.Framed config x.frame x.trapped o

lemma length_frame (x : Machine config) : x.frame.length = frameBytes := length_read _ _ _

lemma Framed.completes (hframed : x.Framed) (hsound : x.kernel.Sound) (hm : x.kernel.model = some m)
    {o o' : ProcOp} {access : Access} {completion : Completion}
    (hwork : x.kernel.work = some (.proc o)) (haccess : o.access config = .ok (some access))
    (hanswers : bus.Answers x.memory access completion)
    (hcomplete : o.complete config completion = .ok (.ok o'))
    (hmemory : x'.memory = bus.effect x.memory access) :
      Os.Framed config x'.frame x.trapped o' := by
  have hframed' :=
    framed_answered (hsound.valid m hm).layout.valid (hframed o hwork) haccess hanswers
    (hsound.fits hm hwork).data hcomplete
  rwa [← hmemory] at hframed'

/-- The trap frame stays what the stage of the operation says. -/
lemma Step.framed (h : Step bus others x x') (hothers : KeepFrame others) (hsound : x.kernel.Sound)
    (hm : x.kernel.model = some m) (hframed : x.Framed) : x'.Framed := by
  obtain ⟨m', -, hacts⟩ := h.acts hsound hm
  have hheld {o : ProcOp} (hwork : x.kernel.work = some (.proc o)) : x.kernel.held.isSome :=
    hsound.held.mpr (by rw [hwork]; rfl)
  intro o hwork'
  cases hacts with
  | others hkernel hmodel hmemory huart htrapped =>
    rw [hkernel] at hwork'
    have hsame : x'.frame = x.frame := hothers _ _ _ hmemory (hheld hwork')
    rw [hsame, htrapped]
    exact hframed o hwork'
  | waits hwork hheld' hmodel hbegun hmemory huart htrapped =>
    rw [hwork] at hwork'
    have hsame : x'.frame = x.frame := congrArg (ByteMap.read · _ _) hmemory
    rw [hsame, htrapped (hheld hwork')]
    exact hframed o hwork'
  | @starts stage events hheld hheld' hwork hbegun hstage hfollows hop hmemory huart htrapped =>
    rw [hwork] at hwork'
    cases hwork'
    have hsame : x'.frame = x.frame := congrArg (ByteMap.read · _ _) hmemory
    rw [hsame, htrapped]
    rcases hstage with rfl | hstage
    · exact framed_readFrame
    · exact framed_new hstage
  | @completes o₁ o' access completion hwork haccess hanswers hcomplete hgoes hmemory huart
    htrapped =>
    have hframed' := hframed.completes hsound hm hwork haccess hanswers hcomplete hmemory
    rw [htrapped]
    cases hgoes with
    | next hfinished hwork'' hheld hmodel hbegun =>
      rw [hwork''] at hwork'
      cases hwork'
      exact hframed'
    | stage hfinished hfits hwork'' hheld hbegun hstage hfollows hsaves hop =>
      rw [hwork''] at hwork'
      cases hwork'
      rcases hstage with ⟨-, hstage⟩ | ⟨sepc, hcaller, hreturns⟩
      · exact framed_new hstage
      · obtain ⟨hframe, rfl⟩ := framed_caller hframed' x'.length_frame hfinished hcaller
        rw [hframe]
        exact framed_returns hreturns
    | ends hfinished hstage hstate hheld hmodel hbegun =>
      unfold ModeledKernel.work at hwork'
      rw [hstate] at hwork'
      cases hwork'

end Machine

end SystemScope.Os
