import SystemScope.Os.CopyWalk
import SystemScope.Os.HeldEnter
import SystemScope.Os.Spaces
import SystemScope.Os.TrapFrame

/-!
# Operations, access by access

A stage of an operation makes a fixed number of accesses.  `ProcOp.Reached` and `Operation.Reached`
follow an operation from its start through any completions that answer its accesses; at each step
an access is due exactly before the end, the working data is what a restore asks for, and nothing is
read out of bounds (`ProcOp.WellStepped`, `Operation.WellStepped`).  The stages of a kernel are ones
for which this holds (`Stage.Steppable`).
-/

namespace SystemScope.Os

open Checks

/-- The completion is of the kind and the length of the access. -/
def Access.AnsweredBy : Access → Completion → Prop
  | read _ len, .data data => data.length = len
  | write .., .written => True
  | _, _ => False

lemma Access.exists_answer (access : Access) : ∃ completion, access.AnsweredBy completion := by
  cases access with
  | read addr len => exact ⟨.data (List.replicate len 0), List.length_replicate⟩
  | write addr data => exact ⟨.written, trivial⟩

/-- A piece of a byte string that is written lies in it. -/
def SliceFits (base : ℕ) (bs : Bytes) (chunk : ℕ × ℕ) : Prop :=
  base ≤ chunk.1 ∧ chunk.1 - base + chunk.2 ≤ bs.length

/-- The arguments of a stage are as the kernel makes them: a space whose accesses a 32-bit word can
count, a buffer that does not wrap, the pages that are known of it, a chunk inside it, and an entry
of the table. -/
def Stage.Steppable : Stage → Prop
  | create _ space => space.accesses < 2 ^ 32
  | load _ _ _ space => space.accesses < 2 ^ 32
  | walk buffer pages _ _ => buffer.Valid ∧ pages.length < buffer.pages
  | output buffer pages done => buffer.Valid ∧ pages.length = buffer.pages ∧ done < buffer.n.toNat
  | command cursor => ∀ t ∈ cursor.table, cursor.index < t.entries.length
  | _ => True

namespace ProcOp

variable (config : KernelConfig)

/-- The operation after some accesses of a stage, each answered as it has to be. -/
inductive Reached (stage : Stage) : ℕ → ProcOp → Prop
  | start : Reached stage 0 (.new stage)
  | complete {k : ℕ} {o o' : ProcOp} {access : Access} {completion : Completion}
      (h : Reached stage k o) (haccess : o.access config = .ok (some access))
      (hanswer : access.AnsweredBy completion)
      (hcomplete : o.complete config completion = .ok (.ok o')) : Reached stage (k + 1) o'

/-- What is indexed or sliced lies in the list or the byte string that it is taken from. -/
def SlicesFit (o : ProcOp) : Prop :=
  match o.stage with
  | .create _ space | .load _ _ _ space =>
    o.step < space.zeroSteps → o.step / Space.perFrame < space.frames.length
  | .dispatch _ context satp => ∀ c, (dispatchChunks config)[o.step]? = some c →
      SliceFits config.trapFrame.toNat (dispatchBytes context satp) c
  | .shutdown reason => ∀ c, (shutdownChunks config)[o.step]? = some c →
      SliceFits (config.trapFrame.toNat + frameAction) (wordBytes 1 ++ wordBytes reason) c
  | .readFrame => o.step ≤ (frameChunks config).length
  | .staged _ len => o.step ≤ (stagedChunks config len).length
  | .command cursor => ∀ t ∈ cursor.table, cursor.index < t.entries.length
  | _ => True

/-- The second half of `complete` as the source writes it: the next step, on the operation in
place. -/
def stepInPlace (o : ProcOp) : Except Panic (Except CoreError Unit × ProcOp) := do
  let o := { o with step := o.step + 1 }
  let steps ← o.steps config
  if o.step < steps ∧ o.data.length ≠ o.dataLen config o.step then
    return (.ok (), { o with data := [] })
  else return (.ok (), o)

/-- `complete` as the source writes it: it changes the operation in place. -/
def completeInPlace (o : ProcOp) (completion : Completion) :
    Except Panic (Except CoreError Unit × ProcOp) := do
  match ← o.access config with
  | none => return (.error .finished, o)
  | some access =>
    match access, completion with
    | .read _ len, .data data =>
      if data.length ≠ len then return (.error .dataLength, o)
      else stepInPlace config { o with data := o.data ++ data }
    | .write .., .written => stepInPlace config o
    | _, _ => return (.error .wrongKind, o)

/-- A result, with the operation as it is left. -/
def left (o : ProcOp) : Except CoreError ProcOp → Except CoreError Unit × ProcOp
  | .ok o' => (.ok (), o')
  | .error e => (.error e, o)

/-- What holds of an operation after `k` of the `n` accesses of a stage. -/
structure WellStepped (stage : Stage) (n k : ℕ) (o : ProcOp) : Prop where
  at_ : o.stage = stage
  step : o.step = k
  le : k ≤ n
  /-- The number of accesses is a 32-bit word. -/
  count : o.steps config = .ok n ∧ n < 2 ^ 32
  /-- An access is due exactly before the end. -/
  access : ∃ due, o.access config = .ok due ∧ (due.isSome ↔ k < n)
  /-- The working data is what the step requires. -/
  parts : k < n → fromParts config stage k o.data = .ok (some o)
  slices : o.SlicesFit config
  /-- A completion is taken exactly if it answers the access that is due. -/
  complete : ∀ completion, ∃ result, o.complete config completion = .ok result ∧
    ((∃ o', result = .ok o') ↔
      ∃ access, o.access config = .ok (some access) ∧ access.AnsweredBy completion)
  /-- After an error the operation is as it was. -/
  inPlace : ∀ completion, o.completeInPlace config completion =
    (o.complete config completion).map o.left
  finished : o.isFinished config = .ok (decide (k = n))

variable {config} {stage : Stage} {o : ProcOp} {n k : ℕ}

/-! ## What is due -/

lemma answered_isOk {access : Access} {completion : Completion} {held : Bytes} :
    (∃ data, answered access completion held = .ok data) ↔ access.AnsweredBy completion := by
  cases access with
  | read addr len =>
    cases completion with
    | data bs =>
      show (∃ data, (if bs.length ≠ len then _ else Except.ok (held ++ bs)) = _) ↔ bs.length = len
      simp only [guard_eq_ok, not_not, exists_and_left, Except.ok.injEq, exists_eq', and_true]
    | written => simp [answered, Access.AnsweredBy]
  | write addr bs => cases completion <;> simp [answered, Access.AnsweredBy]

lemma frame_lt (s : Space) {k : ℕ} (hzero : k < s.zeroSteps) :
    k / Space.perFrame < s.frames.length :=
  (Nat.div_lt_iff_lt_mul (by decide)).mpr hzero

/-- In a creation, an access is due exactly before the end. -/
lemma isSome_creation (s : Space) (k : ℕ) (data : Bytes) :
    (s.access k data).isSome ↔ k < s.accesses := by
  constructor
  · intro h
    obtain ⟨access, ha⟩ := Option.isSome_iff_exists.mp h
    exact Space.lt_accesses ha
  · intro hlt
    unfold Space.accesses at hlt
    unfold Space.access
    by_cases hzero : k < s.zeroSteps
    · rw [if_pos hzero, List.getElem?_eq_getElem (frame_lt s hzero)]
      rfl
    · rw [if_neg hzero]
      dsimp only
      cases hc : s.copies[(k - s.zeroSteps) / 2]? with
      | some c => rfl
      | none =>
        rw [List.getElem?_eq_none_iff] at hc
        have hpte : k - s.zeroSteps - 2 * s.copies.length < s.ptes.length := by omega
        dsimp only
        rw [List.getElem?_eq_getElem hpte]
        rfl

/-- In a list of accesses, one is due exactly before the end. -/
lemma isSome_listed {α : Type} (l : List α) (f : α → Access) (k : ℕ) :
    (l[k]?.map f).isSome ↔ k < l.length := by
  rw [Option.isSome_map, isSome_getElem?]

lemma length_chunksTo_le (stop addr : ℕ) : (chunksTo stop addr).length ≤ stop - addr := by
  induction addr using chunksTo.induct stop with
  | case1 addr hlt hnext ih =>
    rw [chunksTo, dif_pos hlt, List.length_cons]
    omega
  | case2 addr hge =>
    rw [chunksTo, dif_neg hge]
    exact Nat.zero_le _

/-- A range has no more pieces than bytes. -/
lemma length_chunks_le (base len : ℕ) : (chunks base len).length ≤ len := by
  have h := length_chunksTo_le (base + len) base
  rwa [Nat.add_sub_cancel_left] at h

/-- A stage has a number of accesses that a 32-bit word can count. -/
lemma steps_of_steppable (h : stage.Steppable) :
    ∃ n < 2 ^ 32, ∀ step data, steps config { stage, step, data } = .ok n := by
  have hchunks : ∀ {base len}, len < 2 ^ 32 → (chunks base len).length < 2 ^ 32 :=
    fun hlen => Nat.lt_of_le_of_lt (length_chunks_le _ _) hlen
  cases stage with
  | create pid space => exact ⟨_, h, fun _ _ => if_pos h⟩
  | load cursor headers image space => exact ⟨_, h, fun _ _ => if_pos h⟩
  | readFrame => exact ⟨_, hchunks (by decide), fun _ _ => rfl⟩
  | dispatch pid context satp =>
    refine ⟨_, ?_, fun _ _ => rfl⟩
    have hcontext := length_chunks_le config.trapFrame.toNat contextBytes
    have hsatp := length_chunks_le (config.trapFrame.toNat + frameSatp) 8
    unfold dispatchChunks
    rw [List.length_append]
    unfold contextBytes at hcontext ⊢
    omega
  | shutdown reason => exact ⟨_, hchunks (by decide), fun _ _ => rfl⟩
  | walk buffer pages table level => exact ⟨1, by decide, fun _ _ => rfl⟩
  | output buffer pages done =>
    refine ⟨_, ?_, fun _ _ => rfl⟩
    unfold Buffer.chunk
    dsimp only
    omega
  | return_ sepc value => exact ⟨2, by decide, fun _ _ => rfl⟩
  | command cursor => exact ⟨4, by decide, fun _ _ => rfl⟩
  | poll cursor => exact ⟨1, by decide, fun _ _ => rfl⟩
  | ack cursor error => exact ⟨1, by decide, fun _ _ => rfl⟩
  | staged cursor len => exact ⟨_, hchunks len.toNat_lt, fun _ _ => rfl⟩

lemma physical_isOk {buffer : Buffer} {pages : List UInt32} {done : ℕ} (hvalid : buffer.Valid)
    (hpages : pages.length = buffer.pages) (hdone : done < buffer.n.toNat) :
    ∃ addr, physical buffer pages (buffer.chunk done).1 = .ok addr := by
  have hpos := hvalid.pos
  have hindex : (buffer.chunk done).1 / pageBytes - buffer.buf.toNat / pageBytes <
    pages.length := by
    rw [hpages]
    unfold Buffer.pages Buffer.chunk pageBytes
    dsimp only
    omega
  unfold physical
  rw [List.getElem?_eq_getElem hindex]
  exact ⟨_, rfl⟩

/-- An access is due exactly before the end, if the working data is that of the step. -/
lemma access_of_steppable (h : stage.Steppable) {step : ℕ} {data : Bytes}
    (hsteps : steps config { stage, step, data } = .ok n)
    (hdata : step < n → data.length = dataLen config { stage, step, data } step) :
    ∃ due, access config { stage, step, data } = .ok due ∧ (due.isSome ↔ step < n) := by
  cases stage with
  | create pid space =>
    cases Except.ok.inj (hsteps.symm.trans (if_pos h))
    exact ⟨_, rfl, isSome_creation space step data⟩
  | load cursor headers image space =>
    cases Except.ok.inj (hsteps.symm.trans (if_pos h))
    exact ⟨_, rfl, isSome_creation space step data⟩
  | readFrame =>
    cases hsteps
    exact ⟨_, rfl, isSome_listed _ _ _⟩
  | dispatch pid context satp =>
    cases hsteps
    exact ⟨_, rfl, isSome_listed _ _ _⟩
  | shutdown reason =>
    cases hsteps
    exact ⟨_, rfl, isSome_listed _ _ _⟩
  | walk buffer pages table level =>
    cases hsteps
    obtain ⟨va, hva, -⟩ := h.1.pageVa h.2
    unfold access
    dsimp only
    by_cases hzero : step = 0
    · rw [if_pos hzero, hva]
      exact ⟨_, rfl, by simp [hzero]⟩
    · rw [if_neg hzero]
      exact ⟨_, rfl, by simp; omega⟩
  | output buffer pages done =>
    cases hsteps
    obtain ⟨addr, haddr⟩ := physical_isOk h.1 h.2.1 h.2.2
    unfold access
    dsimp only
    by_cases hzero : step = 0
    · rw [if_pos hzero, haddr]
      exact ⟨_, rfl, by simp [hzero]⟩
    · rw [if_neg hzero]
      by_cases hle : step ≤ (buffer.chunk done).2
      · have hlength : data.length = (buffer.chunk done).2 :=
          (hdata (by omega)).trans (if_pos (Nat.pos_of_ne_zero hzero))
        have hindex : step - 1 < data.length := by omega
        rw [if_pos hle, List.getElem?_eq_getElem hindex]
        exact ⟨_, rfl, by simp; omega⟩
      · rw [if_neg hle]
        exact ⟨_, rfl, by simp; omega⟩
  | return_ sepc value =>
    cases hsteps
    refine ⟨_, rfl, ?_⟩
    cases step with
    | zero => simp
    | succ step =>
      cases step with
      | zero => simp
      | succ step => simp
  | command cursor =>
    cases hsteps
    exact ⟨_, rfl, isSome_listed (commandWords config cursor) _ _⟩
  | poll cursor =>
    cases hsteps
    refine ⟨_, rfl, ?_⟩
    by_cases hzero : step = 0 <;> simp [hzero]
  | ack cursor error =>
    cases hsteps
    refine ⟨_, rfl, ?_⟩
    by_cases hzero : step = 0 <;> simp [hzero]
  | staged cursor len =>
    cases hsteps
    exact ⟨_, rfl, isSome_listed _ _ _⟩

/-! ## Through the stage -/

section Due

variable {access : Access} {completion : Completion}

lemma complete_refused (haccess : o.access config = .ok (some access)) {e : CoreError}
    (h : answered access completion o.data = .error e) :
    o.complete config completion = .ok (.error e) := by
  unfold complete
  rw [haccess]
  dsimp only [bind, Except.bind]
  rw [h]
  rfl

lemma complete_taken (haccess : o.access config = .ok (some access)) {data : Bytes}
    (h : answered access completion o.data = .ok data) :
    o.complete config completion = (o.next config data).map .ok := by
  unfold complete
  rw [haccess]
  dsimp only [bind, Except.bind]
  rw [h]
  dsimp only
  cases o.next config data <;> rfl

/-- A completion is taken exactly if it answers the access that is due. -/
lemma complete_of_due {due : Option Access} (hdue : o.access config = .ok due)
    (hsteps : ∀ step data, steps config { stage := o.stage, step, data } = .ok n)
    (completion : Completion) : ∃ result, o.complete config completion = .ok result ∧
      ((∃ o', result = .ok o') ↔
        ∃ access, o.access config = .ok (some access) ∧ access.AnsweredBy completion) := by
  cases due with
  | none =>
    refine ⟨.error .finished, ?_, by simp [hdue]⟩
    unfold complete
    rw [hdue]
    rfl
  | some access =>
    have hiff : (∃ a, o.access config = .ok (some a) ∧ a.AnsweredBy completion) ↔
        ∃ data, answered access completion o.data = .ok data := by
      rw [answered_isOk, hdue]
      simp
    rw [hiff]
    cases hanswered : answered access completion o.data with
    | error e => exact ⟨_, complete_refused hdue hanswered, by simp⟩
    | ok data =>
      have hnext : ∃ o', o.next config data = .ok o' := by
        unfold next
        dsimp only
        rw [hsteps]
        exact ⟨_, rfl⟩
      obtain ⟨o', hnext⟩ := hnext
      refine ⟨.ok o', ?_, by simp⟩
      rw [complete_taken hdue hanswered, hnext]
      rfl

lemma stepInPlace_eq (data : Bytes) :
    stepInPlace config { o with data } = ((o.next config data).map .ok).map o.left := by
  unfold stepInPlace next
  dsimp only
  cases steps config { o with step := o.step + 1, data } with
  | error p => rfl
  | ok n =>
    by_cases hdrop : o.step + 1 < n ∧
        data.length ≠ dataLen config { o with step := o.step + 1, data } (o.step + 1)
    · show (if _ then _ else _) = Except.map o.left (.ok (.ok (if _ then _ else _)))
      rw [if_pos hdrop, if_pos hdrop]
      rfl
    · show (if _ then _ else _) = Except.map o.left (.ok (.ok (if _ then _ else _)))
      rw [if_neg hdrop, if_neg hdrop]
      rfl

lemma completeInPlace_eq (completion : Completion) :
    o.completeInPlace config completion = (o.complete config completion).map o.left := by
  cases haccess : o.access config with
  | error p =>
    unfold completeInPlace complete
    rw [haccess]
    rfl
  | ok due =>
    cases due with
    | none =>
      unfold completeInPlace complete
      rw [haccess]
      rfl
    | some access =>
      cases access with
      | read addr len =>
        cases completion with
        | written =>
          rw [complete_refused haccess rfl]
          unfold completeInPlace
          rw [haccess]
          rfl
        | data bs =>
          by_cases hlen : bs.length = len
          · have hanswered : answered (.read addr len) (.data bs) o.data = .ok (o.data ++ bs) :=
              if_neg (not_not.mpr hlen)
            rw [complete_taken haccess hanswered, ← stepInPlace_eq]
            unfold completeInPlace
            rw [haccess]
            exact if_neg (not_not.mpr hlen)
          · have hanswered : answered (.read addr len) (.data bs) o.data = .error .dataLength :=
              if_pos hlen
            rw [complete_refused haccess hanswered]
            unfold completeInPlace
            rw [haccess]
            exact if_pos hlen
      | write addr bs =>
        cases completion with
        | data bs' =>
          rw [complete_refused haccess rfl]
          unfold completeInPlace
          rw [haccess]
          rfl
        | written =>
          rw [complete_taken haccess rfl, ← stepInPlace_eq]
          unfold completeInPlace
          rw [haccess]
          rfl

end Due

lemma dataLen_zero (config : KernelConfig) (stage : Stage) (data : Bytes) :
    dataLen config { stage, step := 0, data } 0 = 0 := by
  unfold dataLen
  cases stage with
  | create pid space => exact ModeledKernel.dataLen_start space
  | load cursor headers image space => exact ModeledKernel.dataLen_start space
  | _ => rfl

lemma Reached.keeps (h : stage.Steppable)
    (hsteps : ∀ step data, steps config { stage, step, data } = .ok n)
    (hreached : Reached config stage k o) :
    o.stage = stage ∧ o.step = k ∧ k ≤ n ∧ (k < n → o.data.length = o.dataLen config k) := by
  induction hreached with
  | start => exact ⟨rfl, rfl, Nat.zero_le _, fun _ => (dataLen_zero config stage []).symm⟩
  | @complete k o o' access completion _ haccess _ hcomplete ih =>
    obtain ⟨hstage, hstep, -, hdata⟩ := ih
    obtain ⟨_, step, data⟩ := o
    dsimp only at hstage hstep
    subst hstage hstep
    obtain ⟨due, hdue, hlt⟩ := access_of_steppable h (hsteps step data) hdata
    rw [haccess] at hdue
    cases hdue
    have hlt : step < n := hlt.mp rfl
    obtain ⟨hstage, hstep, hheld, -⟩ := complete_spec (hdata hlt) hcomplete
    refine ⟨hstage, hstep, hlt, fun hnext => ?_⟩
    have hlength := hheld n (hsteps step data) (by rw [hstep]; exact hnext)
    rwa [hstep] at hlength

lemma slicesFit_of_le {data : Bytes} (h : stage.Steppable)
    (hsteps : steps config { stage, step := k, data } = .ok n)
    (hle : k ≤ n) : SlicesFit config { stage, step := k, data } := by
  cases stage with
  | create pid space => exact frame_lt space
  | load cursor headers image space => exact frame_lt space
  | command cursor => exact h
  | dispatch pid context satp =>
    intro c hc
    obtain ⟨-, hbase, hend⟩ := mem_dispatchChunks (List.mem_of_getElem? hc)
    unfold SliceFits
    rw [length_dispatchBytes]
    omega
  | shutdown reason =>
    intro c hc
    obtain ⟨-, hbase, hend⟩ := mem_chunks (List.mem_of_getElem? hc)
    have hlength : (wordBytes 1 ++ wordBytes reason).length = 8 := rfl
    unfold SliceFits
    rw [hlength]
    omega
  | readFrame =>
    cases hsteps
    exact hle
  | staged cursor len =>
    cases hsteps
    exact hle
  | _ => trivial

section Run

variable (h : stage.Steppable) (hword : n < 2 ^ 32)
  (hsteps : ∀ step data, steps config { stage, step, data } = .ok n)

include h hword hsteps

lemma Reached.wellStepped (hreached : Reached config stage k o) :
    WellStepped config stage n k o := by
  obtain ⟨hstage, hstep, hle, hdata⟩ := hreached.keeps h hsteps
  obtain ⟨_, step, data⟩ := o
  dsimp only at hstage hstep
  subst hstage hstep
  obtain ⟨due, hdue, hlt⟩ := access_of_steppable h (hsteps step data) hdata
  refine
    { at_ := rfl, step := rfl, le := hle, count := ⟨hsteps step data, hword⟩,
      access := ⟨due, hdue, hlt⟩
      parts := fun hnext => ?_
      slices := slicesFit_of_le h (hsteps step data) hle
      complete := complete_of_due hdue hsteps
      inPlace := completeInPlace_eq
      finished := ?_ }
  · unfold fromParts
    dsimp only
    rw [hsteps]
    exact congrArg Except.ok (if_pos ⟨hnext, hdata hnext⟩)
  · unfold isFinished
    rw [hsteps]
    refine congrArg Except.ok (decide_eq_decide.mpr ?_)
    show n ≤ step ↔ step = n
    omega

/-- A stage goes on to its last access. -/
lemma exists_reached (hle : k ≤ n) : ∃ o, Reached config stage k o := by
  induction k with
  | zero => exact ⟨_, .start⟩
  | succ k ih =>
    obtain ⟨o, hreached⟩ := ih (Nat.le_of_succ_le hle)
    have hwell := hreached.wellStepped h hword hsteps
    obtain ⟨due, hdue, hlt⟩ := hwell.access
    obtain ⟨access, rfl⟩ := Option.isSome_iff_exists.mp (hlt.mpr hle)
    obtain ⟨completion, hanswer⟩ := access.exists_answer
    obtain ⟨result, hresult, htaken⟩ := hwell.complete completion
    obtain ⟨o', rfl⟩ := htaken.mpr ⟨access, hdue, hanswer⟩
    exact ⟨o', .complete hreached hdue hanswer hresult⟩

lemma exists_reached_iff : (∃ o, Reached config stage k o) ↔ k ≤ n := by
  constructor
  · rintro ⟨o, hreached⟩
    exact (hreached.wellStepped h hword hsteps).le
  · exact exists_reached h hword hsteps

end Run

end ProcOp

/-! ## Without processes -/

namespace Operation

variable (config : KernelConfig)

/-- The operation of an `ENTER` after some accesses, each answered as it has to be. -/
inductive Reached (value : UInt32) : ℕ → Operation → Prop
  | start : Reached value 0 (.start config value)
  | complete {k : ℕ} {o o' : Operation} {access : Access} {completion : Completion}
      (h : Reached value k o) (haccess : o.access config = some access)
      (hanswer : access.AnsweredBy completion) (hcomplete : o.complete config completion = .ok o') :
      Reached value (k + 1) o'

/-- What is indexed or sliced lies in the list or the byte string that it is taken from. -/
def SlicesFit (o : Operation) : Prop :=
  match o.op with
  | .script =>
    let n := (frameChunks config).length
    n ≤ o.step → o.step < 2 * n → frameSepc + 4 ≤ o.data.length ∧
      ∀ c, (frameChunks config)[o.step - n]? = some c →
        SliceFits config.trapFrame.toNat (advanced o.data) c
  | .shutdown => ∀ c, (shutdownChunks config)[o.step]? = some c →
      SliceFits (config.trapFrame.toNat + frameAction) (wordBytes 1 ++ wordBytes shutdownReason) c

/-- The second half of `complete` as the source writes it: the next step, on the operation in
place. -/
def stepInPlace (o : Operation) : Except CoreError Unit × Operation :=
  let o := { o with step := o.step + 1 }
  if o.data.length ≠ o.dataLen config then (.ok (), { o with data := [] }) else (.ok (), o)

/-- `complete` as the source writes it: it changes the operation in place. -/
def completeInPlace (o : Operation) (completion : Completion) : Except CoreError Unit × Operation :=
  match o.access config with
  | none => (.error .finished, o)
  | some access =>
    match access, completion with
    | .read _ len, .data data =>
      if data.length ≠ len then (.error .dataLength, o)
      else stepInPlace config { o with data := o.data ++ data }
    | .write .., .written => stepInPlace config o
    | _, _ => (.error .wrongKind, o)

/-- A result, with the operation as it is left. -/
def left (o : Operation) : Except CoreError Operation → Except CoreError Unit × Operation
  | .ok o' => (.ok (), o')
  | .error e => (.error e, o)

/-- What holds of an operation after `k` of the accesses of the one that it started as. -/
structure WellStepped (o₀ : Operation) (k : ℕ) (o : Operation) : Prop where
  op : o.op = o₀.op
  step : o.step = k
  le : k ≤ o₀.steps config
  count : o.steps config = o₀.steps config ∧ o₀.steps config < 2 ^ 32
  access : (o.access config).isSome ↔ k < o₀.steps config
  parts : k < o₀.steps config → fromParts config o.op k o.data = some o
  slices : o.SlicesFit config
  complete : ∀ completion, (∃ o', o.complete config completion = .ok o') ↔
    ∃ access, o.access config = some access ∧ access.AnsweredBy completion
  inPlace : ∀ completion, o.completeInPlace config completion = o.left
    (o.complete config completion)
  finished : o.IsFinished config ↔ k = o₀.steps config

variable {config} {value : UInt32} {o o' : Operation} {k : ℕ} {access : Access}
  {completion : Completion}

lemma steps_of_op (h : o.op = o'.op) : o.steps config = o'.steps config := by
  unfold steps
  rw [h]

lemma steps_lt (o : Operation) : o.steps config < 2 ^ 32 := by
  have hframe := ProcOp.length_chunks_le config.trapFrame.toNat frameBytes
  have hshutdown := ProcOp.length_chunks_le (config.trapFrame.toNat + frameAction) 8
  unfold steps
  unfold frameBytes at hframe
  cases o.op with
  | script =>
    unfold frameChunks frameBytes
    dsimp only
    omega
  | shutdown =>
    unfold shutdownChunks
    dsimp only
    omega

/-- An access is due exactly before the end. -/
lemma isSome_access (o : Operation) : (o.access config).isSome ↔ o.step < o.steps config := by
  obtain ⟨op, step, data⟩ := o
  unfold access steps
  cases op with
  | shutdown => exact ProcOp.isSome_listed _ _ _
  | script =>
    dsimp only
    by_cases hread : step < (frameChunks config).length
    · rw [if_pos hread, ProcOp.isSome_listed]
      omega
    · rw [if_neg hread]
      by_cases hwrite : step < 2 * (frameChunks config).length
      · rw [if_pos hwrite, ProcOp.isSome_listed]
        omega
      · rw [if_neg hwrite]
        by_cases hlast : step = 2 * (frameChunks config).length
        · rw [if_pos hlast]
          exact ⟨fun _ => by omega, fun _ => rfl⟩
        · rw [if_neg hlast]
          exact ⟨nofun, by omega⟩

lemma complete_of_access (haccess : o.access config = some access) (completion : Completion) :
    o.complete config completion =
      (ProcOp.answered access completion o.data).map (o.next config) := by
  unfold complete
  rw [haccess]
  cases access with
  | write addr bs => cases completion <;> rfl
  | read addr len =>
    cases completion with
    | written => rfl
    | data bs =>
      show (if bs.length ≠ len then _ else _) =
        Except.map (o.next config)
          (if bs.length ≠ len then .error CoreError.dataLength else .ok (o.data ++ bs))
      by_cases hlen : bs.length = len
      · rw [if_neg (not_not.mpr hlen), if_neg (not_not.mpr hlen)]
        rfl
      · rw [if_pos hlen, if_pos hlen]
        rfl

lemma complete_of_none (haccess : o.access config = none) (completion : Completion) :
    o.complete config completion = .error .finished := by
  unfold complete
  rw [haccess]

lemma complete_eq_ok (h : o.complete config completion = .ok o') :
    ∃ access data, o.access config = some access ∧
      ProcOp.answered access completion o.data = .ok data ∧ o' = o.next config data := by
  cases haccess : o.access config with
  | none =>
    rw [complete_of_none haccess] at h
    cases h
  | some access =>
    rw [complete_of_access haccess] at h
    cases hanswered : ProcOp.answered access completion o.data with
    | error e =>
      rw [hanswered] at h
      cases h
    | ok data =>
      rw [hanswered] at h
      exact ⟨access, data, rfl, hanswered, (Except.ok.inj h).symm⟩

/-- A completion is taken exactly if it answers the access that is due. -/
lemma complete_isOk (o : Operation) (completion : Completion) :
    (∃ o', o.complete config completion = .ok o') ↔
      ∃ access, o.access config = some access ∧ access.AnsweredBy completion := by
  constructor
  · rintro ⟨o', h⟩
    obtain ⟨access, data, haccess, hanswered, -⟩ := complete_eq_ok h
    exact ⟨access, haccess, ProcOp.answered_isOk.mp ⟨data, hanswered⟩⟩
  · rintro ⟨access, haccess, hanswer⟩
    obtain ⟨data, hanswered⟩ := ProcOp.answered_isOk.mpr hanswer
    rw [complete_of_access haccess, hanswered]
    exact ⟨_, rfl⟩

lemma length_next (haccess : o.access config = some access)
    (hheld : o.data.length = o.dataLen config)
    {data : Bytes} (hdata : ProcOp.answered access completion o.data = .ok data) :
    data.length = dataLen config { o with step := o.step + 1, data } ∨
      dataLen config { o with step := o.step + 1, data } = 0 := by
  obtain ⟨op, step, held⟩ := o
  have hlength := ProcOp.length_answered hdata
  cases op with
  | shutdown => exact .inr rfl
  | script =>
    have hall : readLen (frameChunks config) (frameChunks config).length = frameBytes := by
      rw [readLen_length]
      exact sum_chunks _ _
    unfold Operation.access at haccess
    unfold dataLen at hheld ⊢
    dsimp only at haccess hheld hlength ⊢
    by_cases hread : step < (frameChunks config).length
    · rw [if_pos hread] at haccess hheld
      obtain ⟨c, hc, rfl⟩ := Option.map_eq_some_iff.mp haccess
      have hnext : data.length = readLen (frameChunks config) (step + 1) := by
        rw [readLen_succ hc, hlength, hheld]
        rfl
      left
      by_cases hmore : step + 1 < (frameChunks config).length
      · rw [if_pos hmore]
        exact hnext
      · have hlast : step + 1 = (frameChunks config).length := by omega
        rw [if_neg hmore, if_pos (by omega), hnext, hlast, hall]
    · rw [if_neg hread] at haccess hheld
      rw [if_neg (by omega)]
      by_cases hwrite : step + 1 < 2 * (frameChunks config).length
      · left
        rw [if_pos hwrite]
        rw [if_pos (by omega)] at haccess hheld
        obtain ⟨c, -, rfl⟩ := Option.map_eq_some_iff.mp haccess
        rw [hlength, hheld]
        rfl
      · rw [if_neg hwrite]
        exact .inr rfl

lemma Reached.keeps (hreached : Reached config value k o) :
    o.op = (Operation.start config value).op ∧ o.step = k ∧
      k ≤ (Operation.start config value).steps config ∧
      o.data.length = o.dataLen config := by
  induction hreached with
  | start =>
    refine ⟨rfl, rfl, Nat.zero_le _, ?_⟩
    unfold dataLen Operation.start
    dsimp only
    split
    · by_cases hpos : 0 < (frameChunks config).length
      · rw [if_pos hpos]
        rfl
      · rw [if_neg hpos, if_neg (by omega)]
        rfl
    · rfl
  | @complete k o o' _ completion _ _ _ hcomplete ih =>
    obtain ⟨hop, hstep, -, hdata⟩ := ih
    obtain ⟨access, data, haccess, hanswered, rfl⟩ := complete_eq_ok hcomplete
    have hlt := (isSome_access o).mp (by rw [haccess]; rfl)
    rw [steps_of_op hop, hstep] at hlt
    have hlength := length_next haccess hdata hanswered
    unfold next
    dsimp only
    split
    · next hkeep => exact ⟨hop, congrArg (· + 1) hstep, hlt, hkeep⟩
    · next hdrop => exact ⟨hop, congrArg (· + 1) hstep, hlt, (hlength.resolve_left hdrop).symm⟩

lemma slicesFit (hdata : o.data.length = o.dataLen config) : o.SlicesFit config := by
  obtain ⟨op, step, data⟩ := o
  cases op with
  | shutdown =>
    intro c hc
    obtain ⟨-, hbase, hend⟩ := mem_chunks (List.mem_of_getElem? hc)
    have hlength : (wordBytes 1 ++ wordBytes shutdownReason).length = 8 := rfl
    unfold SliceFits
    rw [hlength]
    omega
  | script =>
    intro hle hlt
    unfold dataLen at hdata
    dsimp only at hle hlt hdata
    rw [if_neg (by omega), if_pos hlt] at hdata
    have hframe : frameSepc + 4 ≤ data.length := by
      rw [hdata]
      decide
    refine ⟨hframe, fun c hc => ?_⟩
    obtain ⟨-, hbase, hend⟩ := mem_chunks (List.mem_of_getElem? hc)
    have hlength : (advanced data).length = frameBytes := by
      unfold advanced
      simp only [List.length_append, List.length_take, List.length_drop, length_wordBytes]
      omega
    unfold SliceFits
    rw [hlength]
    omega

lemma completeInPlace_eq (o : Operation) (completion : Completion) :
    o.completeInPlace config completion = o.left (o.complete config completion) := by
  have hstep (data : Bytes) : stepInPlace config { o with data } = o.left
    (.ok (o.next config data)) := by
    unfold stepInPlace next left
    dsimp only
    by_cases hkeep : data.length = dataLen config { o with step := o.step + 1, data }
    · rw [if_neg (not_not.mpr hkeep), if_pos hkeep]
    · rw [if_pos hkeep, if_neg hkeep]
  unfold completeInPlace
  cases haccess : o.access config with
  | none => rw [complete_of_none haccess]; rfl
  | some access =>
    rw [complete_of_access haccess]
    cases access with
    | write addr bs =>
      cases completion with
      | data bs' => rfl
      | written => exact hstep o.data
    | read addr len =>
      cases completion with
      | written => rfl
      | data bs =>
        show (if bs.length ≠ len then _ else _) =
          o.left (Except.map (o.next config)
            (if bs.length ≠ len then .error CoreError.dataLength else .ok (o.data ++ bs)))
        by_cases hlen : bs.length = len
        · rw [if_neg (not_not.mpr hlen), if_neg (not_not.mpr hlen)]
          exact hstep _
        · rw [if_pos hlen, if_pos hlen]
          rfl

lemma Reached.wellStepped (hreached : Reached config value k o) :
    WellStepped config (Operation.start config value) k o := by
  obtain ⟨hop, hstep, hle, hdata⟩ := hreached.keeps
  have hsteps : o.steps config = (Operation.start config value).steps config := steps_of_op hop
  obtain ⟨op, step, data⟩ := o
  dsimp only at hstep
  subst hstep
  refine
    { op := hop, step := rfl, le := hle, count := ⟨hsteps, steps_lt _⟩
      access := by rw [isSome_access, hsteps]
      parts := fun hlt => if_pos ⟨by rwa [hsteps], hdata⟩
      slices := slicesFit hdata, complete := complete_isOk _, inPlace := completeInPlace_eq _
      finished := ?_ }
  unfold IsFinished
  rw [hsteps]
  show _ ≤ step ↔ step = _
  omega

lemma exists_reached_iff :
    (∃ o, Reached config value k o) ↔ k ≤ (Operation.start config value).steps config := by
  constructor
  · rintro ⟨o, hreached⟩
    exact hreached.wellStepped.le
  · intro hle
    induction k with
    | zero => exact ⟨_, .start⟩
    | succ k ih =>
      obtain ⟨o, hreached⟩ := ih (Nat.le_of_succ_le hle)
      have hwell := hreached.wellStepped
      obtain ⟨access, haccess⟩ := Option.isSome_iff_exists.mp (hwell.access.mpr hle)
      obtain ⟨completion, hanswer⟩ := access.exists_answer
      obtain ⟨o', hcomplete⟩ := (hwell.complete completion).mpr ⟨access, haccess, hanswer⟩
      exact ⟨o', .complete hreached haccess hanswer hcomplete⟩

end Operation

/-! ## The stages of a kernel -/

/-- The executables of a plan are as the parser accepts them. -/
def Source.Parsed : Source → Prop
  | .plan p => ∀ boot ∈ p.images, ∃ elf,
      Elf.parseUserElf32 elf boot.fileLen p.layout.imageRange = .ok boot.image
  | .disk _ => True

variable {config : KernelConfig} {m : Model}

/-- A stage of a kernel has a number of accesses that can be counted, and all that it needs. -/
lemma Stage.Fits.steppable {stage : Stage} (h : stage.Fits config m)
    (hvalid : m.source.Valid config)
    (hparsed : m.source.Parsed) (hbuffer : stage.InBuffer) : stage.Steppable := by
  cases stage with
  | create pid space =>
    obtain ⟨plan, boot, hsource, -, -, hboot, hcreated, -⟩ := h
    rw [hsource] at hvalid hparsed
    have hplan : plan.Valid config := hvalid
    have hmem := List.mem_of_getElem? hboot
    obtain ⟨elf, hparse⟩ := hparsed boot hmem
    obtain ⟨_, segments, ha⟩ := Elf.accepted_of_parse hparse
    obtain ⟨mapped, hsound⟩ := hcreated.sound hplan.layout (hplan.images boot hmem)
      fun p hp c hc => (ha.copy_fits p hp c hc).2.1
    exact hsound.accesses_lt
  | load cursor headers image space =>
    obtain ⟨disk, entry, hsource, hcursor, hentry, hparse, hcreated, -⟩ := h
    rw [hsource] at hvalid
    have hdisk : disk.Valid config := hvalid
    obtain ⟨hfits, hin⟩ := fits_stagedImage hdisk (hcursor.entry_fits hsource hentry) hparse
    obtain ⟨mapped, hsound⟩ := hcreated.sound hdisk.layout hfits hin
    exact hsound.accesses_lt
  | walk buffer pages table level => exact hbuffer
  | output buffer pages done => exact hbuffer
  | command cursor =>
    obtain ⟨-, hcursor, -⟩ := h
    intro t ht
    unfold Cursor.Fits at hcursor
    rw [Option.mem_def.mp ht] at hcursor
    exact hcursor.2.1
  | _ => trivial

/-- Only a syscall needs a buffer. -/
lemma Stage.OfBoot.inBuffer {stage : Stage} (h : stage.OfBoot) : stage.InBuffer := by
  cases stage with
  | walk | output => exact h.elim
  | _ => trivial

lemma Stage.Switches.inBuffer {stage : Stage} (h : stage.Switches) : stage.InBuffer := by
  cases stage with
  | dispatch | shutdown => trivial
  | _ => exact h.elim

namespace Model

lemma start_inBuffer (hrests : m.Rests config) {value : UInt32} {d : Decision ProcOp}
    (hstart : m.start config value = .ok d) : d.next.stage.InBuffer := by
  obtain ⟨hread | hboot | hswitches, -⟩ := (start_follows hrests value).of_ok hstart
  · rw [hread]
    trivial
  · exact hboot.inBuffer
  · exact hswitches.inBuffer

lemma decide_inBuffer {frame : Bytes} {d : Decision ProcOp} (h : m.decide frame = .ok d) :
    d.next.stage.InBuffer := by
  have hforTrap := decide_forTraps.of_ok h
  have hdispatch {m' : Model} {pid : ℕ} {d' : Decision ProcOp} (hd : m'.dispatchNext pid = .ok d') :
      d'.next.stage.InBuffer :=
    have hboots : Boots none m' (m'.dispatchNext pid) := dispatchNext_boots pid
    (hboots.of_ok hd).1.elim Stage.OfBoot.inBuffer Stage.Switches.inBuffer
  generalize d.model = m', d.next = next at hforTrap ⊢
  cases hforTrap with
  | fails => trivial
  | calls _ _ _ hd =>
    obtain ⟨-, stage, hnext, -, hbuffer⟩ := hd
    rw [hnext]
    exact hbuffer trivial
  | yields _ _ hd => exact hdispatch hd
  | ends _ _ _ _ hd => exact hdispatch hd

/-- The stage that comes after a finished one has what it needs of its buffer. -/
lemma advance_inBuffer {o : ProcOp} (hfits : o.stage.Fits config m) (h : o.stage.InBuffer)
    {d : Decision (Option ProcOp)} (hadvance : m.advance config o = .ok d) {next : ProcOp}
    (hnext : d.next = some next) : next.stage.InBuffer := by
  have hproceeds := (advance_follows hfits).of_ok hadvance
  rw [hnext] at hproceeds
  obtain ⟨⟨-, hboot | hswitches⟩ | ⟨sepc, hcaller, -⟩, -⟩ := hproceeds
  · exact hboot.inBuffer
  · exact hswitches.inBuffer
  have hgoes {d' : Outcome (Decision ProcOp)} (hd' : ∀ e, d' = .ok e → e.next.stage.InBuffer)
      (hd : (do return continue_ (← d')) = Except.ok d) : next.stage.InBuffer := by
    obtain ⟨e, he, hd⟩ := bind_eq_ok.mp hd
    cases hd
    cases hnext
    exact hd' e he
  have hcalls {valid : Prop} {sepc : UInt32} {d' : Outcome (Decision ProcOp)}
      (hd' : Calls valid sepc m d') (hvalid : valid) (e : Decision ProcOp) (he : d' = .ok e) :
      e.next.stage.InBuffer := by
    obtain ⟨-, stage, hstage, -, hbuffer⟩ := hd'.of_ok he
    rw [hstage]
    exact hbuffer hvalid
  obtain ⟨stage, step, data⟩ := o
  cases stage with
  | readFrame => exact hgoes (fun e he => decide_inBuffer he) hadvance
  | walk buffer pages table level =>
    exact hgoes (hcalls (walked_calls buffer pages level _) h) hadvance
  | output buffer pages done => exact hgoes (hcalls (chunkDone_calls buffer pages done) h) hadvance
  | _ => cases hcaller

end Model

/-- What the kernel works on was reached from the start of its stage. -/
def Work.Stepping (config : KernelConfig) : Work → Prop
  | .proc o => o.stage.Steppable ∧ o.stage.InBuffer ∧ ∃ k, ProcOp.Reached config o.stage k o
  | .proto o => ∃ value k, Operation.Reached config value k o

namespace ModeledKernel

variable {c c' c₀ : ModeledKernel config}

/-- Every executable of the kernel is as the parser accepts it, and so is what it works on. -/
structure Stepping (c : ModeledKernel config) : Prop where
  parsed : ∀ m ∈ c.model, m.source.Parsed
  work : ∀ work ∈ c.work, work.Stepping config

lemma stepping_new {m : Model} {stage : Stage} (h : stage.Fits config m)
    (hvalid : m.source.Valid config) (hparsed : m.source.Parsed) (hbuffer : stage.InBuffer) :
    (Work.proc (.new stage)).Stepping config :=
  ⟨h.steppable hvalid hparsed hbuffer, hbuffer, 0, .start⟩

lemma stepping_proc {o o' : ProcOp} {completion : Completion}
    (h : (Work.proc o).Stepping config) (hcomplete : o.complete config completion = .ok (.ok o')) :
    (Work.proc o').Stepping config := by
  obtain ⟨hsteppable, hbuffer, k, hreached⟩ := h
  obtain ⟨access, data, n, haccess, hanswered, -, ho⟩ := ProcOp.complete_eq_ok hcomplete
  have hstage : o'.stage = o.stage := by rw [ho]
  have hanswer := ProcOp.answered_isOk.mp ⟨data, hanswered⟩
  rw [← hstage] at hsteppable hbuffer hreached
  exact ⟨hsteppable, hbuffer, k + 1, .complete hreached haccess hanswer hcomplete⟩

lemma stepping_proto {o o' : Operation} {completion : Completion}
    (h : (Work.proto o).Stepping config) (hcomplete : o.complete config completion = .ok o') :
    (Work.proto o').Stepping config := by
  obtain ⟨value, k, hreached⟩ := h
  obtain ⟨access, data, haccess, hanswered, -⟩ := Operation.complete_eq_ok hcomplete
  exact ⟨value, k + 1,
    .complete hreached haccess (ProcOp.answered_isOk.mp ⟨data, hanswered⟩) hcomplete⟩

/-- A step keeps what the kernel works on. -/
lemma Stepping.step (h : c.Stepping) (hsound : c.Sound) {delivery : Delivered} {calls : List Call}
    (hstep : Step c delivery calls c') : c'.Stepping := by
  cases hstep with
  | @enter msg txn value m d hmsg hheld hmodel hstart =>
    obtain ⟨hsource, stage, hnext, hfits⟩ := hsound.started hmodel hheld hstart
    have hbuffer := Model.start_inBuffer (hsound.rests hmodel hheld).2 hstart
    have hvalid := hsound.valid m hmodel
    have hparsed := h.parsed m hmodel
    rw [← hsource] at hvalid hparsed
    rw [hnext] at hbuffer
    refine ⟨?_, ?_⟩
    · rintro _ ⟨⟩
      exact hparsed
    · rintro _ ⟨⟩
      rw [hnext]
      exact stepping_new hfits hvalid hparsed hbuffer
  | @enterProto msg txn value hmsg hheld hmodel =>
    refine ⟨h.parsed, ?_⟩
    rintro _ ⟨⟩
    exact ⟨value, 0, .start⟩
  | refuse => exact h
  | @issue work access hstate =>
    refine ⟨h.parsed, ?_⟩
    rintro _ ⟨⟩
    exact h.work work (by unfold ModeledKernel.work; rw [hstate]; rfl)
  | @next msg txn o o' completion hstate hmsg hcomplete hfinished =>
    refine ⟨h.parsed, ?_⟩
    rintro _ ⟨⟩
    exact stepping_proc (h.work _ (work_of_wait hstate)) hcomplete
  | @stage msg txn o o' completion m d next hstate hmsg hcomplete hfinished hmodel hadvance hnext =>
    have hwork := work_of_wait hstate
    obtain ⟨hsteppable, hbuffer, -⟩ := stepping_proc (h.work _ hwork) hcomplete
    obtain ⟨hfits, hsettles⟩ := hsound.advanced hmodel hwork hcomplete hfinished
    have hd := hsettles d hadvance
    have hnextBuffer := Model.advance_inBuffer hfits hbuffer hadvance hnext
    unfold Decision.Settles at hd
    rw [hnext] at hd
    obtain ⟨hsource, stage, rfl, hfits⟩ := hd
    have hvalid := hsound.valid m hmodel
    have hparsed := h.parsed m hmodel
    rw [← hsource] at hvalid hparsed
    refine ⟨?_, ?_⟩
    · rintro _ ⟨⟩
      exact hparsed
    · rintro _ ⟨⟩
      exact stepping_new hfits hvalid hparsed hnextBuffer
  | @release msg txn o o' completion m d held hstate hmsg hcomplete hfinished hmodel
    hadvance hnext =>
    obtain ⟨-, hsettles⟩ := hsound.advanced hmodel (work_of_wait hstate) hcomplete hfinished
    have hd := hsettles d hadvance
    unfold Decision.Settles at hd
    rw [hnext] at hd
    refine ⟨?_, nofun⟩
    rintro _ ⟨⟩
    rw [hd.1]
    exact h.parsed m hmodel
  | @nextProto msg txn o o' completion hstate hmsg hcomplete hfinished =>
    refine ⟨h.parsed, ?_⟩
    rintro _ ⟨⟩
    exact stepping_proto (h.work _ (work_of_wait hstate)) hcomplete
  | releaseProto => exact ⟨h.parsed, nofun⟩

/-- In every state that a kernel reaches, what it works on was reached from the start of its
stage. -/
lemma Validated.stepping (h₀ : c₀.Validated) (hparsed : ∀ m ∈ c₀.model, m.source.Parsed)
    {stages : List Stage} (h : Passes c₀ stages c) : c.Stepping := by
  induction h with
  | start =>
    refine ⟨hparsed, ?_⟩
    have hidle := h₀.fresh.2
    unfold ModeledKernel.work
    rw [hidle]
    exact nofun
  | event hpasses hc ih => exact ih.step (h₀.sound.passes hpasses) (step_of_performs hc)

end ModeledKernel

/-- Every stage with what it needs, and every operation without processes, goes through as many
accesses as it has, and is well stepped after each of them.  What a kernel works on, in any state
that it reaches, is an operation so reached. -/
theorem operation_stepping (config : KernelConfig) :
    (∀ stage : Stage, stage.Steppable → ∃ n,
      (∀ k, (∃ o, ProcOp.Reached config stage k o) ↔ k ≤ n) ∧
        ∀ k o, ProcOp.Reached config stage k o → ProcOp.WellStepped config stage n k o) ∧
    (∀ value,
      (∀ k, (∃ o, Operation.Reached config value k o) ↔
        k ≤ (Operation.start config value).steps config) ∧
        ∀ k o, Operation.Reached config value k o →
          Operation.WellStepped config (.start config value) k o) ∧
    ∀ (c₀ c : ModeledKernel config) stages, c₀.Validated → (∀ m ∈ c₀.model, m.source.Parsed) →
      ModeledKernel.Passes c₀ stages c →
        (∀ o, c.work = some (.proc o) → o.stage.Steppable ∧ ∃ k,
          ProcOp.Reached config o.stage k o) ∧
          ∀ o, c.work = some (.proto o) → ∃ value k, Operation.Reached config value k o := by
  refine ⟨?_, ?_, ?_⟩
  · intro stage h
    obtain ⟨n, hword, hsteps⟩ := ProcOp.steps_of_steppable h
    exact ⟨n, fun _ => ProcOp.exists_reached_iff h hword hsteps,
      fun _ _ hreached => hreached.wellStepped h hword hsteps⟩
  · exact fun value =>
      ⟨fun _ => Operation.exists_reached_iff, fun _ _ hreached => hreached.wellStepped⟩
  · intro c₀ c stages h₀ hparsed hpasses
    have hwork := (h₀.stepping hparsed hpasses).work
    refine ⟨fun o ho => ?_, fun o ho => hwork (.proto o) ho⟩
    obtain ⟨hsteppable, -, hreached⟩ := hwork (.proc o) ho
    exact ⟨hsteppable, hreached⟩

/-- The trap frame after its first access. -/
theorem operation_stepping_frame : ∃ n,
    ProcOp.WellStepped (smallConfig 0x80000000) .readFrame n 1
      { stage := .readFrame, step := 1, data := List.replicate maxAccess 7 } := by
  obtain ⟨n, -, hwell⟩ := (operation_stepping (smallConfig 0x80000000)).1 .readFrame trivial
  have hanswer :
      Access.AnsweredBy (.read 0x80001000 maxAccess) (.data (List.replicate maxAccess 7)) := rfl
  exact ⟨n, hwell 1 _ (.complete .start (by decide +kernel) hanswer (by decide +kernel))⟩

end SystemScope.Os
