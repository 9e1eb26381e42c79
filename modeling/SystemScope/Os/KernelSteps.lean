import SystemScope.Contracts.Histories
import SystemScope.Os.Runs

/-!
# What the kernel does

The steps of the kernel as a relation (`ModeledKernel.Step`): what was delivered, the calls that it
led to, and the kernel after it, with one constructor for each thing that can happen.  A delivery
that does not fail is one of these steps (`ModeledKernel.step_of_performs`).
-/

namespace SystemScope.Os

open MemV1 Handler

/-- Records as calls. -/
def traces (notes : List Note) : List Call := notes.map fun n => .traced n.kind n.fields

/-- The wake for the next access, as a call. -/
def wakeCall (config : KernelConfig) : Call := .woke (.cycles config.clock 1) .request issueToken

/-- The answer to a held `ENTER`, as calls. -/
def releaseCalls (txn : TxnId) : List Call :=
  [.sent gatePort (.memV1 (.writeResp txn .done)) .now .complete,
    .traced releaseKind [("txn", .u64 txn)]]

/-- A request that is answered with a fault. -/
def refusal : MemV1.MemMsg → MemV1.MemMsg
  | .readReq txn _ _ => .readResp txn (.fault .accessFault)
  | msg => .writeResp msg.txn (.fault .accessFault)

/-- The records of an `ENTER` to a kernel without processes. -/
def protoNotes (config : KernelConfig) (txn : TxnId) (value : UInt32) : List Note :=
  let o := Operation.start config value
  ModeledKernel.enterNote txn value o.op.name ::
    if o.op = .shutdown then [shutdownNote 1 "ENTER value is not the trap frame"] else []

namespace ModeledKernel

variable {config : KernelConfig}

/-- The request is a whole word to `ENTER`. -/
def EntersWith (msg : MemV1.MemMsg) (txn : TxnId) (value : UInt32) : Prop :=
  ∃ addr data, msg = .writeReq txn addr data ∧ value = word data 0 ∧
    ∃ a, msg.access = some a ∧ IsEnter a

/-- The message answers an access that is outstanding. -/
structure Answers (config : KernelConfig) (work : Work) (txn : TxnId) (msg : MemV1.MemMsg)
    (completion : Completion) : Prop where
  response : response msg = some (txn, some completion)
  kind : ∃ access, work.access config = .ok access ∧ (IsWrite access ↔ IsWriteResp msg)

/-- What a delivery that does not fail does to the kernel. -/
inductive Step (c : ModeledKernel config) : Delivered → List Call → ModeledKernel config → Prop
  /-- An `ENTER` starts an operation on the processes. -/
  | enter {msg txn value m d} (hmsg : EntersWith msg txn value) (hheld : c.held = none)
      (hmodel : c.model = some m) (hstart : m.start config value = .ok d) :
      Step c (.message gatePort (.memV1 msg))
        (traces (enterNote txn value (m.opName config value) :: d.notes) ++ [wakeCall config])
        { c with held := some txn, state := .issue (.proc d.next), model := some d.model }
  /-- An `ENTER` starts an operation without processes. -/
  | enterProto {msg txn value} (hmsg : EntersWith msg txn value) (hheld : c.held = none)
      (hmodel : c.model = none) :
      Step c (.message gatePort (.memV1 msg))
        (traces (protoNotes config txn value) ++ [wakeCall config])
        { c with held := some txn, state := .issue (.proto (Operation.start config value)) }
  /-- Any other request is answered with a fault. -/
  | refuse {msg a} (haccess : msg.access = some a) (hempty : a ≠ .empty)
      (hmsg : ∀ txn value, ¬EntersWith msg txn value) :
      Step c (.message gatePort (.memV1 msg))
        [.sent gatePort (.memV1 (refusal msg)) (Platform.scheduleWhen config.latency) .complete] c
  /-- The access that is due is sent. -/
  | issue {work access} (hstate : c.state = .issue work)
      (haccess : work.access config = .ok (some access))
      (hpermits : config.Permits access.addr access.len) (htxn : c.nextTxn.toNat + 1 < 2 ^ 64) :
      Step c (.wake issueToken) [.sent memPort (.memV1 (request c.nextTxn access)) .now .request]
        { c with nextTxn := c.nextTxn + 1, state := .wait work c.nextTxn }
  /-- An access has completed, and another one of the stage is due. -/
  | next {msg txn o o' completion} (hstate : c.state = .wait (.proc o) txn)
      (hmsg : Answers config (.proc o) txn msg completion)
      (hcomplete : o.complete config completion = .ok (.ok o'))
      (hfinished : o'.isFinished config = .ok false) :
      Step c (.message memPort (.memV1 msg)) [wakeCall config] { c with state := .issue (.proc o') }
  /-- The last access of a stage has completed, and another stage begins. -/
  | stage {msg txn o o' completion m d next} (hstate : c.state = .wait (.proc o) txn)
      (hmsg : Answers config (.proc o) txn msg completion)
      (hcomplete : o.complete config completion = .ok (.ok o'))
      (hfinished : o'.isFinished config = .ok true) (hmodel : c.model = some m)
      (hadvance : m.advance config o' = .ok d) (hnext : d.next = some next) :
      Step c (.message memPort (.memV1 msg)) (traces d.notes ++ [wakeCall config])
        { c with state := .issue (.proc next), model := some d.model }
  /-- The last access of an operation has completed, and the held `ENTER` is answered. -/
  | release {msg txn o o' completion m d held} (hstate : c.state = .wait (.proc o) txn)
      (hmsg : Answers config (.proc o) txn msg completion)
      (hcomplete : o.complete config completion = .ok (.ok o'))
      (hfinished : o'.isFinished config = .ok true) (hmodel : c.model = some m)
      (hadvance : m.advance config o' = .ok d) (hnext : d.next = none)
        (hheld : c.held = some held) :
      Step c (.message memPort (.memV1 msg)) (traces d.notes ++ releaseCalls held)
        { c with held := none, state := .idle, model := some d.model }
  /-- The same without processes. -/
  | nextProto {msg txn o o' completion} (hstate : c.state = .wait (.proto o) txn)
      (hmsg : Answers config (.proto o) txn msg completion)
      (hcomplete : o.complete config completion = .ok o') (hfinished : ¬o'.IsFinished config) :
      Step c (.message memPort (.memV1 msg)) [wakeCall config]
        { c with state := .issue (.proto o') }
  | releaseProto {msg txn o o' completion held} (hstate : c.state = .wait (.proto o) txn)
      (hmsg : Answers config (.proto o) txn msg completion)
      (hcomplete : o.complete config completion = .ok o') (hfinished : o'.IsFinished config)
      (hheld : c.held = some held) :
      Step c (.message memPort (.memV1 msg)) (releaseCalls held)
        { c with held := none, state := .idle }

/-! ## Deliveries as steps -/

section Steps

variable {c c' : ModeledKernel config} {env : Surroundings} {calls : List Call}

lemma performs_reject {what : String} : (c.reject what).Performs env calls c' ↔ False :=
  performs_error

lemma performs_emit {notes : List Note} {k : Handler (ModeledKernel config)} :
    (emit notes k).Performs env calls c' ↔
      ∃ rest, calls = traces notes ++ rest ∧ k.Performs env rest c' := by
  induction notes generalizing calls with
  | nil => simp [emit, traces]
  | cons note notes ih =>
    have hcons : emit (note :: notes) k = .trace note.kind note.fields (emit notes k) := rfl
    rw [hcons, performs_trace]
    simp only [ih]
    constructor
    · rintro ⟨_, rfl, rest, rfl, hk⟩
      exact ⟨rest, rfl, hk⟩
    · rintro ⟨rest, rfl, hk⟩
      exact ⟨traces notes ++ rest, rfl, rest, rfl, hk⟩

lemma performs_wakeNextCycle :
    c.wakeNextCycle.Performs env calls c' ↔ calls = [wakeCall config] ∧ c' = c := by
  unfold wakeNextCycle
  rw [performs_wakeSelf]
  simp only [performs_ok]
  constructor
  · rintro ⟨_, rfl, rfl, rfl⟩
    exact ⟨rfl, rfl⟩
  · rintro ⟨rfl, rfl⟩
    exact ⟨[], rfl, rfl, rfl⟩

lemma performs_refuse {resp : MemV1.MemMsg} : (c.refuse resp).Performs env calls c' ↔
    calls = [.sent gatePort (.memV1 resp) (Platform.scheduleWhen config.latency) .complete] ∧
      c' = c := by
  unfold refuse
  rw [performs_send]
  simp only [performs_ok]
  constructor
  · rintro ⟨_, rfl, rfl, rfl⟩
    exact ⟨rfl, rfl⟩
  · rintro ⟨rfl, rfl⟩
    exact ⟨[], rfl, rfl, rfl⟩

lemma performs_release : c.release.Performs env calls c' ↔
    ∃ held, c.held = some held ∧ calls = releaseCalls held ∧
      c' = { c with held := none, state := .idle } := by
  unfold release
  cases hheld : c.held with
  | none => simp [performs_reject]
  | some held =>
    dsimp only
    rw [performs_send]
    simp only [performs_trace, performs_ok]
    constructor
    · rintro ⟨_, rfl, _, rfl, rfl, rfl⟩
      exact ⟨held, rfl, rfl, rfl⟩
    · rintro ⟨_, ⟨⟩, rfl, rfl⟩
      exact ⟨_, rfl, [], rfl, rfl, rfl⟩

lemma step_of_enter {msg : MemV1.MemMsg} {txn : TxnId} {value : UInt32}
    (hmsg : EntersWith msg txn value) (h : (c.enter txn value).Performs env calls c') :
    Step c (.message gatePort (.memV1 msg)) calls c' := by
  unfold enter at h
  by_cases hheld : c.held.isSome
  · rw [if_pos hheld, performs_reject] at h
    exact h.elim
  · rw [if_neg hheld] at h
    rw [Option.not_isSome_iff_eq_none] at hheld
    split at h
    · next m hmodel =>
      split at h
      · exact (performs_reject.mp h).elim
      · next d hstart =>
        obtain ⟨rest, rfl, hwake⟩ := performs_emit.mp h
        obtain ⟨rfl, rfl⟩ := performs_wakeNextCycle.mp hwake
        exact .enter hmsg hheld hmodel hstart
    · next hmodel =>
      obtain ⟨rest, rfl, hwake⟩ := performs_emit.mp h
      obtain ⟨rfl, rfl⟩ := performs_wakeNextCycle.mp hwake
      exact .enterProto hmsg hheld hmodel

lemma step_of_gateRequest {msg : MemV1.MemMsg} (h : (c.gateRequest msg).Performs env calls c') :
    Step c (.message gatePort (.memV1 msg)) calls c' := by
  unfold gateRequest at h
  split at h
  · exact (performs_reject.mp h).elim
  · exact (performs_reject.mp h).elim
  · next a hempty haccess =>
    split at h
    · next txn addr data =>
      by_cases henter : IsEnter a
      · rw [if_pos henter] at h
        exact step_of_enter ⟨addr, data, rfl, rfl, a, haccess, henter⟩ h
      · rw [if_neg henter, performs_refuse] at h
        obtain ⟨rfl, rfl⟩ := h
        refine .refuse haccess hempty ?_
        rintro txn' value ⟨addr', data', hmsg, -, a', ha', henter'⟩
        rw [haccess] at ha'
        cases ha'
        exact henter henter'
    · next txn addr len =>
      obtain ⟨rfl, rfl⟩ := performs_refuse.mp h
      refine .refuse haccess hempty ?_
      rintro txn' value ⟨addr', data', hmsg, -⟩
      cases hmsg
    · exact (performs_reject.mp h).elim
    · exact (performs_reject.mp h).elim

lemma step_of_issue (h : c.issue.Performs env calls c') : Step c (.wake issueToken) calls c' := by
  unfold issue at h
  split at h
  · next work hstate =>
    split at h
    · exact (performs_reject.mp h).elim
    · exact (performs_reject.mp h).elim
    · next access haccess =>
      split at h
      · exact (performs_reject.mp h).elim
      · next hpermits =>
        split at h
        · exact (performs_reject.mp h).elim
        · next htxn =>
          obtain ⟨rest, rfl, hdone⟩ := performs_send.mp h
          obtain ⟨rfl, rfl⟩ := performs_ok.mp hdone
          have hlt := c.nextTxn.toNat_lt
          exact .issue hstate haccess (not_not.mp hpermits) (by omega)
  · exact (performs_reject.mp h).elim

section Response

variable {msg : MemV1.MemMsg} {txn : TxnId} {completion : Completion}

lemma step_of_completedProc {o o' : ProcOp} (hstate : c.state = .wait (.proc o) txn)
    (hmsg : Answers config (.proc o) txn msg completion)
    (hcomplete : o.complete config completion = .ok (.ok o'))
    (h : (c.completedProc o').Performs env calls c') :
    Step c (.message memPort (.memV1 msg)) calls c' := by
  unfold completedProc at h
  split at h
  · exact (performs_reject.mp h).elim
  · next hfinished =>
    obtain ⟨rfl, rfl⟩ := performs_wakeNextCycle.mp h
    exact .next hstate hmsg hcomplete hfinished
  · next hfinished =>
    split at h
    · exact (performs_reject.mp h).elim
    · next m hmodel =>
      split at h
      · exact (performs_reject.mp h).elim
      · next d hadvance =>
        obtain ⟨rest, rfl, hrest⟩ := performs_emit.mp h
        split at hrest
        · next hnext =>
          obtain ⟨held, hheld, rfl, rfl⟩ := performs_release.mp hrest
          exact .release hstate hmsg hcomplete hfinished hmodel hadvance hnext hheld
        · next next hnext =>
          obtain ⟨rfl, rfl⟩ := performs_wakeNextCycle.mp hrest
          exact .stage hstate hmsg hcomplete hfinished hmodel hadvance hnext

lemma step_of_complete {work : Work} (hstate : c.state = .wait work txn)
    (hmsg : Answers config work txn msg completion)
    (h : (c.complete work completion).Performs env calls c') :
    Step c (.message memPort (.memV1 msg)) calls c' := by
  unfold complete at h
  cases work with
  | proto o =>
    dsimp only at h
    split at h
    · exact (performs_reject.mp h).elim
    · next o' hcomplete =>
      by_cases hfinished : o'.IsFinished config
      · rw [if_pos hfinished] at h
        obtain ⟨held, hheld, rfl, rfl⟩ := performs_release.mp h
        exact .releaseProto hstate hmsg hcomplete hfinished hheld
      · rw [if_neg hfinished] at h
        obtain ⟨rfl, rfl⟩ := performs_wakeNextCycle.mp h
        exact .nextProto hstate hmsg hcomplete hfinished
  | proc o =>
    dsimp only at h
    split at h
    · exact (performs_reject.mp h).elim
    · exact (performs_reject.mp h).elim
    · next o' hcomplete => exact step_of_completedProc hstate hmsg hcomplete h

lemma step_of_memResponse (h : (c.memResponse msg).Performs env calls c') :
    Step c (.message memPort (.memV1 msg)) calls c' := by
  unfold memResponse at h
  split at h
  · next work expected hstate =>
    split at h
    · exact (performs_reject.mp h).elim
    · next txn completion hresponse =>
      split at h
      · exact (performs_reject.mp h).elim
      · next htxn =>
        rw [performs_phase] at h
        split at h
        · exact (performs_reject.mp h).elim
        · split at h
          · exact (performs_reject.mp h).elim
          · next access haccess =>
            split at h
            · exact (performs_reject.mp h).elim
            · next hkind =>
              split at h
              · exact (performs_reject.mp h).elim
              · next completion =>
                rw [not_not.mp htxn] at hresponse
                exact step_of_complete hstate ⟨hresponse, access, haccess, not_not.mp hkind⟩ h
  · exact (performs_reject.mp h).elim

end Response

/-- A delivery that does not fail is a step. -/
theorem step_of_performs {delivery : Delivered}
    (h : (c.handleEvent delivery).Performs env calls c') : Step c delivery calls c' := by
  unfold handleEvent at h
  split at h
  · next port msg =>
    split at h
    · next msg =>
      by_cases hgate : port = gatePort
      · rw [if_pos hgate] at h
        rw [hgate]
        exact step_of_gateRequest h
      · rw [if_neg hgate] at h
        by_cases hmem : port = memPort
        · rw [if_pos hmem] at h
          rw [hmem]
          exact step_of_memResponse h
        · rw [if_neg hmem] at h
          exact (performs_reject.mp h).elim
    · exact (performs_reject.mp h).elim
  · next token =>
    by_cases hissue : token = issueToken
    · rw [if_pos hissue] at h
      rw [hissue]
      exact step_of_issue h
    · rw [if_neg hissue] at h
      exact (performs_reject.mp h).elim

end Steps

/-! ## The stages of a run -/

/-- The stage that begins between two states, one after the other. -/
def begun (c c' : ModeledKernel config) : Option Stage :=
  match c.state, c'.state with
  | .issue _, _ => none
  | _, .issue (.proc o) => if o.step = 0 then some o.stage else none
  | _, _ => none

/-- A kernel goes on, as long as nothing fails, with the stages that begin meanwhile. -/
inductive Passes (c₀ : ModeledKernel config) : List Stage → ModeledKernel config → Prop
  | start : Passes c₀ [] c₀
  | event {stages : List Stage} {c c' : ModeledKernel config} (h : Passes c₀ stages c)
      {delivery : Delivered} {env : Surroundings} {calls : List Call}
      (hc : (c.handleEvent delivery).Performs env calls c') :
      Passes c₀ (stages ++ (begun c c').toList) c'

end ModeledKernel

end SystemScope.Os
