import SystemScope.Os.KernelSteps

/-!
# The held `ENTER`

The kernel answers each `ENTER` that it accepts once, when the last access of the operation has
completed, and has one access outstanding at most (`ModeledKernel.EnterProtocol`).  What a
well-formed initiator does not send faults the session and has no other effect
(`ModeledKernel.Faults`).
-/

namespace SystemScope.Os

open MemV1 Handler

/-- The transaction of a whole word to `ENTER`. -/
def enterTxn : Delivered → Option TxnId
  | .message port (.memV1 (.writeReq txn addr data)) =>
    if port = gatePort ∧
        ∃ a ∈ (MemV1.MemMsg.writeReq txn addr data).access, ModeledKernel.IsEnter a then some txn
    else none
  | _ => none

/-- The transaction of a response on the memory port. -/
def answerTxn : Delivered → Option TxnId
  | .message port (.memV1 msg) => if port = memPort then some msg.txn else none
  | _ => none

/-- The transaction of a write on the gate that is done. -/
def doneTxn : Call → Option TxnId
  | .sent port (.memV1 (.writeResp txn .done)) _ _ => if port = gatePort then some txn else none
  | _ => none

/-- The transaction of a message on the memory port. -/
def issueTxn : Call → Option TxnId
  | .sent port (.memV1 msg) _ _ => if port = memPort then some msg.txn else none
  | _ => none

namespace ModeledKernel

variable {config : KernelConfig}

/-- The transaction that is outstanding. -/
def outstanding (c : ModeledKernel config) : Option TxnId :=
  match c.state with
  | .wait _ txn => some txn
  | _ => none

/-- The completion ends the operation. -/
def EndsWith (c : ModeledKernel config) (completion : Completion) : Work → Prop
  | .proto o => ∃ o', o.complete config completion = .ok o' ∧ o'.IsFinished config
  | .proc o => ∃ o' m d, o.complete config completion = .ok (.ok o') ∧
      o'.isFinished config = .ok true ∧ c.model = some m ∧ m.advance config o' = .ok d ∧
        d.next = none

/-- The delivery answers the last access of the operation. -/
def Finishes (c : ModeledKernel config) (delivery : Delivered) : Prop :=
  ∃ msg work txn completion, delivery = .message memPort (.memV1 msg) ∧ c.state = .wait work txn ∧
    Answers config work txn msg completion ∧ c.EndsWith completion work

/-- What was delivered and asked for, up to a state. -/
structure EnterProtocol (history : Component.History) (c : ModeledKernel config) : Prop where
  /-- Every `ENTER` that was accepted is answered once, or held. -/
  answered : history.deliveries.filterMap enterTxn = history.calls.filterMap doneTxn ++
    c.held.toList
  held : c.held.isSome ↔ c.state ≠ .idle
  /-- Every access that was sent is answered once, or outstanding. -/
  outstanding : history.calls.filterMap issueTxn =
    history.deliveries.filterMap answerTxn ++ c.outstanding.toList
  ascending : (history.calls.filterMap issueTxn).Pairwise (· < ·)
  issued : ∀ txn ∈ history.calls.filterMap issueTxn, txn < c.nextTxn
  permitted : ∀ msg when_ phase, .sent memPort msg when_ phase ∈ history.calls →
    ∃ txn access, msg = .memV1 (request txn access) ∧ config.Permits access.addr access.len

section Calls

@[simp] lemma doneTxn_traces (notes : List Note) : (traces notes).filterMap doneTxn = [] := by
  rw [List.filterMap_eq_nil_iff]
  intro call hcall
  obtain ⟨n, -, rfl⟩ := List.mem_map.mp hcall
  rfl

@[simp] lemma issueTxn_traces (notes : List Note) : (traces notes).filterMap issueTxn = [] := by
  rw [List.filterMap_eq_nil_iff]
  intro call hcall
  obtain ⟨n, -, rfl⟩ := List.mem_map.mp hcall
  rfl

lemma not_sent_traces {notes : List Note} {port : PortId} {msg : Message} {when_ : ScheduleWhen}
    {phase : Phase} : .sent port msg when_ phase ∉ traces notes := by
  intro hmem
  obtain ⟨n, -, hn⟩ := List.mem_map.mp hmem
  cases hn

lemma filterMap_issueTxn_eq_nil {calls : List Call}
    (h : ∀ msg when_ phase, .sent memPort msg when_ phase ∉ calls) :
    calls.filterMap issueTxn = [] := by
  rw [List.filterMap_eq_nil_iff]
  intro call hcall
  unfold issueTxn
  split
  · next port msg when_ phase =>
    rw [if_neg]
    rintro rfl
    exact h _ _ _ hcall
  · rfl

lemma enterTxn_of_entersWith {msg : MemV1.MemMsg} {txn : TxnId} {value : UInt32}
    (h : EntersWith msg txn value) : enterTxn (.message gatePort (.memV1 msg)) = some txn := by
  obtain ⟨addr, data, rfl, -, a, ha, henter⟩ := h
  exact if_pos ⟨rfl, a, ha, henter⟩

lemma enterTxn_of_not {msg : MemV1.MemMsg} (h : ∀ txn value, ¬EntersWith msg txn value) :
    enterTxn (.message gatePort (.memV1 msg)) = none := by
  cases msg with
  | writeReq txn addr data =>
    refine if_neg ?_
    rintro ⟨-, a, ha, henter⟩
    exact h txn _ ⟨addr, data, rfl, rfl, a, ha, henter⟩
  | _ => rfl

lemma txn_request (txn : TxnId) (access : Access) : (request txn access).txn = txn := by
  cases access <;> rfl

lemma filterMap_issueTxn_request (txn : TxnId) (access : Access) (when_ : ScheduleWhen)
    (phase : Phase) :
    [Call.sent memPort (.memV1 (request txn access)) when_ phase].filterMap issueTxn = [txn] := by
  have hsent : issueTxn (.sent memPort (.memV1 (request txn access)) when_ phase) = some txn :=
    congrArg some (txn_request txn access)
  rw [List.filterMap_cons_some hsent, List.filterMap_nil]

lemma enterTxn_mem (msg : MemV1.MemMsg) : enterTxn (.message memPort (.memV1 msg)) = none := by
  cases msg with
  | writeReq txn addr data =>
    unfold enterTxn
    dsimp only
    rw [if_neg fun h => absurd h.1 (by decide)]
  | _ => rfl

lemma txn_of_answers {work : Work} {txn : TxnId} {msg : MemV1.MemMsg} {completion : Completion}
    (h : Answers config work txn msg completion) : msg.txn = txn := by
  have hresponse := h.response
  unfold response at hresponse
  split at hresponse <;> cases hresponse <;> rfl

end Calls

namespace Step

variable {c c' : ModeledKernel config} {delivery : Delivered} {calls : List Call}

lemma held_conserved (h : Step c delivery calls c') :
    c.held.toList ++ (enterTxn delivery).toList = calls.filterMap doneTxn ++ c'.held.toList := by
  cases h with
  | enter hmsg hheld hmodel hstart =>
    rw [enterTxn_of_entersWith hmsg, hheld, List.filterMap_append, doneTxn_traces]
    rfl
  | enterProto hmsg hheld hmodel =>
    rw [enterTxn_of_entersWith hmsg, hheld, List.filterMap_append, doneTxn_traces]
    rfl
  | @refuse msg a haccess hempty hmsg =>
    rw [enterTxn_of_not hmsg]
    have hnone :
      doneTxn (.sent gatePort (.memV1 (refusal msg)) (Platform.scheduleWhen config.latency)
        .complete) = none := by
      cases msg <;> rfl
    rw [List.filterMap_cons_none hnone]
    simp
  | @issue work access hstate haccess hpermits htxn =>
    have hnone :
      doneTxn (.sent memPort (.memV1 (request c.nextTxn access)) .now .request) = none := by
      cases access <;> rfl
    rw [List.filterMap_cons_none hnone]
    simp [enterTxn]
  | next hstate hmsg hcomplete hfinished =>
    rw [enterTxn_mem]
    simp [wakeCall, doneTxn]
  | stage hstate hmsg hcomplete hfinished hmodel hadvance hnext =>
    rw [enterTxn_mem, List.filterMap_append, doneTxn_traces]
    simp [wakeCall, doneTxn]
  | release hstate hmsg hcomplete hfinished hmodel hadvance hnext hheld =>
    rw [enterTxn_mem, List.filterMap_append, doneTxn_traces, hheld]
    rfl
  | nextProto hstate hmsg hcomplete hfinished =>
    rw [enterTxn_mem]
    simp [wakeCall, doneTxn]
  | releaseProto hstate hmsg hcomplete hfinished hheld =>
    rw [enterTxn_mem, hheld]
    rfl

lemma outstanding_conserved (h : Step c delivery calls c')
    (hidle : c.held.isSome ↔ c.state ≠ .idle) :
    c.outstanding.toList ++ calls.filterMap issueTxn =
      (answerTxn delivery).toList ++ c'.outstanding.toList := by
  have hanswered {work : Work} {txn : TxnId} {msg : MemV1.MemMsg} {completion : Completion}
      (hmsg : Answers config work txn msg completion) :
      answerTxn (.message memPort (.memV1 msg)) = some txn := by
    rw [← txn_of_answers hmsg]
    rfl
  have hgate (msg : MemV1.MemMsg) : answerTxn (.message gatePort (.memV1 msg)) = none := rfl
  have hstart (hheld : c.held = none) : c.outstanding = none := by
    rw [hheld] at hidle
    have hstate : c.state = .idle := not_not.mp fun hne => absurd (hidle.mpr hne) (by simp)
    unfold outstanding
    rw [hstate]
  have hwait {work : Work} {txn : TxnId} (hstate : c.state = .wait work txn) :
      c.outstanding = some txn := by
    unfold outstanding
    rw [hstate]
  cases h with
  | enter hmsg hheld hmodel hstart' =>
    rw [hgate, hstart hheld, List.filterMap_append, issueTxn_traces]
    rfl
  | enterProto hmsg hheld hmodel =>
    rw [hgate, hstart hheld, List.filterMap_append, issueTxn_traces]
    rfl
  | refuse haccess hempty hmsg =>
    rw [hgate]
    exact List.append_nil _
  | @issue work access hstate haccess hpermits htxn =>
    have hnone : c.outstanding = none := by
      unfold outstanding
      rw [hstate]
    rw [filterMap_issueTxn_request, hnone]
    rfl
  | next hstate hmsg hcomplete hfinished =>
    rw [hanswered hmsg, hwait hstate]
    rfl
  | stage hstate hmsg hcomplete hfinished hmodel hadvance hnext =>
    rw [hanswered hmsg, hwait hstate, List.filterMap_append, issueTxn_traces]
    rfl
  | release hstate hmsg hcomplete hfinished hmodel hadvance hnext hheld =>
    rw [hanswered hmsg, hwait hstate, List.filterMap_append, issueTxn_traces]
    rfl
  | nextProto hstate hmsg hcomplete hfinished =>
    rw [hanswered hmsg, hwait hstate]
    rfl
  | releaseProto hstate hmsg hcomplete hfinished hheld =>
    rw [hanswered hmsg, hwait hstate]
    rfl

/-- An `ENTER` is held exactly while the state is not idle. -/
lemma held_iff (h : Step c delivery calls c') (hidle : c.held.isSome ↔ c.state ≠ .idle) :
    c'.held.isSome ↔ c'.state ≠ .idle := by
  cases h with
  | enter => simp
  | enterProto => simp
  | refuse => exact hidle
  | issue hstate => simpa [hstate] using hidle
  | next hstate => simpa [hstate] using hidle
  | stage hstate => simpa [hstate] using hidle
  | release => simp
  | nextProto hstate => simpa [hstate] using hidle
  | releaseProto => simp

/-- A step sends nothing on the memory port, or one access that is permitted. -/
lemma issue_cases (h : Step c delivery calls c') :
    (c'.nextTxn = c.nextTxn ∧ ∀ msg when_ phase, .sent memPort msg when_ phase ∉ calls) ∨
      c.nextTxn.toNat + 1 < 2 ^ 64 ∧ c'.nextTxn = c.nextTxn + 1 ∧
        ∃ access, config.Permits access.addr access.len ∧
          calls = [.sent memPort (.memV1 (request c.nextTxn access)) .now .request] := by
  have hwoken (notes : List Note) (msg : Message) (when_ : ScheduleWhen) (phase : Phase) :
      .sent memPort msg when_ phase ∉ traces notes ++ [wakeCall config] := by
    simp [not_sent_traces, wakeCall]
  have hreleased (notes : List Note) (held : TxnId) (msg : Message) (when_ : ScheduleWhen)
      (phase : Phase) : .sent memPort msg when_ phase ∉ traces notes ++ releaseCalls held := by
    simp [not_sent_traces, releaseCalls, memPort, gatePort]
  cases h with
  | enter => exact .inl ⟨rfl, hwoken _⟩
  | enterProto => exact .inl ⟨rfl, hwoken _⟩
  | refuse => exact .inl ⟨rfl, by simp [memPort, gatePort]⟩
  | @issue work access hstate haccess hpermits htxn =>
    exact .inr ⟨htxn, rfl, access, hpermits, rfl⟩
  | next => exact .inl ⟨rfl, hwoken []⟩
  | stage => exact .inl ⟨rfl, hwoken _⟩
  | release => exact .inl ⟨rfl, hreleased _ _⟩
  | nextProto => exact .inl ⟨rfl, hwoken []⟩
  | releaseProto => exact .inl ⟨rfl, hreleased [] _⟩

/-- The held `ENTER` is answered exactly when the last access of the operation has completed. -/
lemma done_iff (h : Step c delivery calls c') :
    calls.filterMap doneTxn ≠ [] ↔ c.Finishes delivery := by
  have hsame {work : Work} {txn : TxnId} {msg : MemV1.MemMsg} {completion : Completion}
      (hstate : c.state = .wait work txn) (hmsg : Answers config work txn msg completion)
      (hfinishes : c.Finishes (.message memPort (.memV1 msg))) : c.EndsWith completion work := by
    obtain ⟨msg', work', txn', completion', hdelivery, hstate', hmsg', hends⟩ := hfinishes
    cases hdelivery
    rw [hstate] at hstate'
    cases hstate'
    have hresponse := hmsg.response
    rw [hmsg'.response] at hresponse
    cases hresponse
    exact hends
  have hgate {msg : MemV1.MemMsg} : ¬c.Finishes (.message gatePort (.memV1 msg)) := by
    rintro ⟨msg', work, txn, completion, hdelivery, -⟩
    exact absurd (Delivered.message.inj hdelivery).1 (by decide)
  have hwoken (notes : List Note) : (traces notes ++ [wakeCall config]).filterMap doneTxn = [] := by
    rw [List.filterMap_append, doneTxn_traces]
    rfl
  cases h with
  | enter => simp [hwoken, hgate]
  | enterProto => simp [hwoken, hgate]
  | @refuse msg =>
    have hnone :
      doneTxn (.sent gatePort (.memV1 (refusal msg)) (Platform.scheduleWhen config.latency)
        .complete) = none := by
      cases msg <;> rfl
    simp [hnone, hgate]
  | @issue work access =>
    have hnone :
      doneTxn (.sent memPort (.memV1 (request c.nextTxn access)) .now .request) = none := by
      cases access <;> rfl
    have hwake : ¬c.Finishes (.wake issueToken) := by
      rintro ⟨msg', work, txn, completion, hdelivery, -⟩
      cases hdelivery
    simp [hnone, hwake]
  | next hstate hmsg hcomplete hfinished =>
    refine iff_of_false (fun hne => hne (hwoken [])) ?_
    intro hfinishes
    obtain ⟨o', m, d, hcomplete', hfinished', -⟩ := hsame hstate hmsg hfinishes
    rw [hcomplete] at hcomplete'
    cases hcomplete'
    rw [hfinished] at hfinished'
    cases hfinished'
  | stage hstate hmsg hcomplete hfinished hmodel hadvance hnext =>
    refine iff_of_false (fun hne => hne (hwoken _)) ?_
    intro hfinishes
    obtain ⟨o', m, d, hcomplete', -, hmodel', hadvance', hnext'⟩ := hsame hstate hmsg hfinishes
    rw [hcomplete] at hcomplete'
    cases hcomplete'
    rw [hmodel] at hmodel'
    cases hmodel'
    rw [hadvance] at hadvance'
    cases hadvance'
    rw [hnext] at hnext'
    cases hnext'
  | release hstate hmsg hcomplete hfinished hmodel hadvance hnext hheld =>
    refine iff_of_true ?_ ⟨_, _, _, _, rfl, hstate, hmsg, _, _, _, hcomplete, hfinished, hmodel,
      hadvance, hnext⟩
    rw [List.filterMap_append, doneTxn_traces]
    exact List.cons_ne_nil _ _
  | nextProto hstate hmsg hcomplete hfinished =>
    refine iff_of_false (fun hne => hne (hwoken [])) ?_
    intro hfinishes
    obtain ⟨o', hcomplete', hfinished'⟩ := hsame hstate hmsg hfinishes
    rw [hcomplete] at hcomplete'
    cases hcomplete'
    exact hfinished hfinished'
  | releaseProto hstate hmsg hcomplete hfinished hheld =>
    exact iff_of_true (List.cons_ne_nil _ _)
      ⟨_, _, _, _, rfl, hstate, hmsg, _, hcomplete, hfinished⟩

end Step

lemma Validated.fresh {c : ModeledKernel config} (h : c.Validated) :
    c.held = none ∧ c.state = .idle := by
  cases h with
  | prototype h =>
    obtain ⟨-, h⟩ := Checks.check_eq_ok.mp h
    cases h
    exact ⟨rfl, rfl⟩
  | processes plan h =>
    obtain ⟨-, h⟩ := Checks.check_eq_ok.mp h
    cases h
    exact ⟨rfl, rfl⟩
  | disk disk h =>
    obtain ⟨-, h⟩ := Checks.check_eq_ok.mp h
    cases h
    exact ⟨rfl, rfl⟩

namespace EnterProtocol

variable {c c' : ModeledKernel config} {history : Component.History} {delivery : Delivered}
  {calls : List Call}

lemma start (hheld : c.held = none) (hstate : c.state = .idle) : c.EnterProtocol [] where
  answered := by
    rw [hheld]
    rfl
  held := by simp [hheld, hstate]
  outstanding := by
    unfold ModeledKernel.outstanding
    rw [hstate]
    rfl
  ascending := .nil
  issued := fun _ h => nomatch h
  permitted := fun _ _ _ h => nomatch h

lemma step (h : c.EnterProtocol history) (hstep : Step c delivery calls c') :
    c'.EnterProtocol (history ++ [(delivery, calls)]) := by
  have hheld := hstep.held_conserved
  have houtstanding := hstep.outstanding_conserved h.held
  constructor
  · rw [Component.History.deliveries_append, Component.History.calls_append, List.filterMap_append,
      List.filterMap_append, h.answered, List.append_assoc, List.append_assoc, ← hheld]
    cases henter : enterTxn delivery with
    | none => simp [henter]
    | some txn => simp [henter]
  · exact hstep.held_iff h.held
  · rw [Component.History.deliveries_append, Component.History.calls_append, List.filterMap_append,
      List.filterMap_append, h.outstanding, List.append_assoc, List.append_assoc, houtstanding]
    cases hanswer : answerTxn delivery with
    | none => simp [hanswer]
    | some txn => simp [hanswer]
  · rw [Component.History.calls_append, List.filterMap_append]
    rcases hstep.issue_cases with ⟨-, hnone⟩ | ⟨-, -, access, -, rfl⟩
    · rw [filterMap_issueTxn_eq_nil hnone, List.append_nil]
      exact h.ascending
    · rw [filterMap_issueTxn_request]
      refine List.pairwise_append.mpr ⟨h.ascending, List.pairwise_singleton _ _, ?_⟩
      intro txn htxn _ hnext
      rw [List.mem_singleton.mp hnext]
      exact h.issued txn htxn
  · rw [Component.History.calls_append, List.filterMap_append]
    rcases hstep.issue_cases with ⟨hnext, hnone⟩ | ⟨hlt, hnext, access, -, rfl⟩
    · rw [filterMap_issueTxn_eq_nil hnone, List.append_nil, hnext]
      exact h.issued
    · have hself : c.nextTxn < c'.nextTxn := by
        have hone : (1 : UInt64).toNat = 1 := rfl
        rw [hnext, UInt64.lt_iff_toNat_lt, UInt64.toNat_add, hone, Nat.mod_eq_of_lt hlt]
        exact Nat.lt_succ_self _
      rw [filterMap_issueTxn_request]
      refine List.forall_mem_append.mpr ⟨?_, ?_⟩
      · exact fun txn htxn => UInt64.lt_trans (h.issued txn htxn) hself
      · intro txn htxn
        rw [List.mem_singleton.mp htxn]
        exact hself
  · intro msg when_ phase hmem
    rw [Component.History.calls_append] at hmem
    rcases List.mem_append.mp hmem with hmem | hmem
    · exact h.permitted msg when_ phase hmem
    · rcases hstep.issue_cases with ⟨-, hnone⟩ | ⟨-, -, access, hpermits, rfl⟩
      · exact absurd hmem (hnone msg when_ phase)
      · cases List.mem_singleton.mp hmem
        exact ⟨c.nextTxn, access, rfl, hpermits⟩

end EnterProtocol

lemma EnterProtocol.ran [SnapshotData] {c₀ c : ModeledKernel config} {history : Component.History}
    (h₀ : c₀.Validated) (h : Component.Ran c₀ history c) : c.EnterProtocol history := by
  induction h with
  | start => exact .start h₀.fresh.1 h₀.fresh.2
  | event _ hc ih => exact ih.step (step_of_performs hc)

/-! ## Faults -/

/-- However it is answered, the delivery faults the session: nothing is asked for, and nothing
changes. -/
def Faults (c : ModeledKernel config) (delivery : Delivered) : Prop :=
  (c.handleEvent delivery).Always (fun _ => True) (fun _ => False)
    fun r c' => (∃ what, r = .error (.componentFault what)) ∧ c' = c

section Faults

variable {c : ModeledKernel config} {msg : MemV1.MemMsg}

lemma faults_reject {delivery : Delivered} (what : String)
    (h : c.handleEvent delivery = c.reject what) : c.Faults delivery := by
  unfold Faults
  rw [h]
  exact ⟨⟨what, rfl⟩, rfl⟩

lemma handleEvent_gate : c.handleEvent (.message gatePort (.memV1 msg)) = c.gateRequest msg := rfl

lemma handleEvent_mem : c.handleEvent (.message memPort (.memV1 msg)) = c.memResponse msg := rfl

/-- A request without bytes is no access. -/
lemma faults_empty (h : msg.access = some .empty) : c.Faults (.message gatePort (.memV1 msg)) := by
  refine faults_reject "modeled kernel: zero-length gate request" ?_
  rw [handleEvent_gate]
  unfold gateRequest
  rw [h]

/-- An `ENTER` while one is held. -/
lemma faults_enter {txn : TxnId} {value : UInt32} (h : EntersWith msg txn value)
    (hheld : c.held.isSome) : c.Faults (.message gatePort (.memV1 msg)) := by
  refine faults_reject "modeled kernel: second ENTER while one is held" ?_
  obtain ⟨addr, data, rfl, -, a, ha, henter⟩ := h
  rw [handleEvent_gate]
  unfold gateRequest
  rw [ha]
  cases a with
  | bytes first last =>
    dsimp only
    rw [if_pos henter]
    unfold enter
    rw [if_pos hheld]
  | outOfRange => exact henter.elim
  | empty => exact henter.elim

/-- Any other request is answered with a fault. -/
lemma handleEvent_refuse {a : MemV1.Access} (haccess : msg.access = some a) (hempty : a ≠ .empty)
    (h : ∀ txn value, ¬EntersWith msg txn value) :
    c.handleEvent (.message gatePort (.memV1 msg)) = c.refuse (refusal msg) := by
  rw [handleEvent_gate]
  unfold gateRequest
  rw [haccess]
  split
  · next hnone => cases hnone
  · next hsome =>
    cases hsome
    exact absurd rfl hempty
  · next a' hsome =>
    cases hsome
    cases msg with
    | writeReq txn addr data =>
      dsimp only
      rw [if_neg fun henter => h txn _ ⟨addr, data, rfl, rfl, a, haccess, henter⟩]
      rfl
    | readReq txn addr len => rfl
    | readResp txn outcome => cases haccess
    | writeResp txn outcome => cases haccess

/-- A message on the memory port that does not answer the access that is outstanding. -/
lemma faults_mismatch
    (h : ¬∃ work txn completion, c.state = .wait work txn ∧
      Answers config work txn msg completion) :
    c.Faults (.message memPort (.memV1 msg)) := by
  have hreject (what : String) : (c.reject what).Always (fun _ => True) (fun _ => False)
      fun r c' => (∃ what, r = .error (.componentFault what)) ∧ c' = c := ⟨⟨what, rfl⟩, rfl⟩
  unfold Faults
  rw [handleEvent_mem]
  unfold memResponse
  split
  · next work expected hstate =>
    split
    · exact hreject _
    · next txn completion hresponse =>
      split
      · exact hreject _
      · next htxn =>
        intro phase
        show Always _ _ _ (if phase ≠ .complete then _ else _)
        split
        · exact hreject _
        · split
          · exact hreject _
          · next access haccess =>
            split
            · exact hreject _
            · next hkind =>
              split
              · exact hreject _
              · next completion =>
                rw [not_not.mp htxn] at hresponse
                exact absurd ⟨work, expected, completion, hstate, hresponse, access, haccess,
                  not_not.mp hkind⟩ h
  · exact hreject _

lemma faults_length {work : Work} {txn : TxnId} {addr len : ℕ} {data : Bytes}
    (hstate : c.state = .wait work txn) (hmsg : Answers config work txn msg (.data data))
    (haccess : work.access config = .ok (some (.read addr len))) (hlen : data.length ≠ len) :
    c.Faults (.message memPort (.memV1 msg)) := by
  have hreject (what : String) : (c.reject what).Always (fun _ => True) (fun _ => False)
      fun r c' => (∃ what, r = .error (.componentFault what)) ∧ c' = c := ⟨⟨what, rfl⟩, rfl⟩
  obtain ⟨access, haccess', hkind⟩ := hmsg.kind
  have hcomplete : c.complete work (.data data) =
      c.reject "modeled kernel: read data of the wrong length" := by
    unfold complete
    cases work with
    | proto o =>
      have hdue : o.access config = some (.read addr len) := Except.ok.inj haccess
      dsimp only
      unfold Operation.complete
      rw [hdue]
      dsimp only
      rw [if_pos hlen]
    | proc o =>
      have hdue : o.access config = .ok (some (.read addr len)) := haccess
      dsimp only
      unfold ProcOp.complete
      rw [hdue]
      simp only [bind, Except.bind, ProcOp.answered, if_pos hlen, pure, Except.pure]
  unfold Faults
  rw [handleEvent_mem]
  unfold memResponse
  rw [hstate]
  dsimp only
  rw [hmsg.response]
  dsimp only
  rw [if_neg (not_not.mpr rfl)]
  intro phase
  show Always _ _ _ (if phase ≠ .complete then _ else _)
  split
  · exact hreject _
  · rw [haccess']
    dsimp only
    rw [if_neg (not_not.mpr hkind), hcomplete]
    exact hreject _

end Faults

/-- The `ENTER` protocol in every run.  Every `ENTER` that the kernel accepts is answered once, when
the last access of its operation has completed, and is held until then; accesses are sent one at a
time, with ascending transactions, if the whitelist permits them.  Any other request with bytes is
answered with one fault.  A request without bytes, a second `ENTER`, and a message that does not
answer the access that is outstanding fault the session and do nothing else. -/
theorem held_enter_protocol [SnapshotData] {c₀ c : ModeledKernel config}
    {history : Component.History}
    (h₀ : c₀.Validated) (h : Component.Ran c₀ history c) :
    c.EnterProtocol history ∧
      (∀ env delivery calls c', (c.handleEvent delivery).Performs env calls c' →
        (calls.filterMap doneTxn ≠ [] ↔ c.Finishes delivery)) ∧
      (∀ msg a, msg.access = some a → a ≠ .empty → (∀ txn value, ¬EntersWith msg txn value) →
        ∀ env, (c.handleEvent (.message gatePort (.memV1 msg))).Performs env
          [.sent gatePort (.memV1 (refusal msg)) (Platform.scheduleWhen config.latency) .complete]
            c) ∧
      (∀ msg, msg.access = some .empty → c.Faults (.message gatePort (.memV1 msg))) ∧
      (∀ msg txn value, EntersWith msg txn value → c.held.isSome →
        c.Faults (.message gatePort (.memV1 msg))) ∧
      (∀ msg, (¬∃ work txn completion, c.state = .wait work txn ∧
        Answers config work txn msg completion) → c.Faults (.message memPort (.memV1 msg))) ∧
      (∀ msg work txn addr len data, c.state = .wait work txn →
        Answers config work txn msg (.data data) →
        work.access config = .ok (some (.read addr len)) → data.length ≠ len →
        c.Faults (.message memPort (.memV1 msg))) := by
  refine ⟨.ran h₀ h, ?_, ?_, ?_, ?_, ?_, ?_⟩
  · exact fun env delivery calls c' hperforms => (step_of_performs hperforms).done_iff
  · intro msg a haccess hempty hmsg env
    rw [handleEvent_refuse haccess hempty hmsg, performs_refuse]
    exact ⟨rfl, rfl⟩
  · exact fun msg hempty => faults_empty hempty
  · exact fun msg txn value hmsg hheld => faults_enter hmsg hheld
  · exact fun msg hmsg => faults_mismatch hmsg
  · exact fun msg work txn addr len data hstate hmsg haccess hlen =>
      faults_length hstate hmsg haccess hlen

end ModeledKernel

open Canonical in
/-- An `ENTER` with a wrong value: the kernel writes the shutdown into the trap frame and releases
the `ENTER`. -/
theorem held_enter_protocol_released : ∃ history c, Component.Ran smallKernel history c ∧
    history.deliveries.filterMap enterTxn = [3] ∧ history.calls.filterMap doneTxn = [3] ∧
      history.calls.filterMap issueTxn = [0] ∧ c.EnterProtocol history := by
  have hnext {history : Component.History} {c : ModeledKernel (smallConfig 0x80000000)}
      (h : Component.Ran smallKernel history c) (delivery : Delivered) (phase : Phase)
      (hok : ((c.handleEvent delivery).perform ⟨0, 0, phase, fun _ => 0⟩).2.1 = .ok ()) :=
    Component.Ran.event h (Handler.performs_of_ok hok)
  have h := hnext .start (.message gatePort (.memV1 (.writeReq 3 0 (wordBytes 0)))) .request
    (by decide +kernel)
  have h := hnext h (.wake issueToken) .request (by decide +kernel)
  have h := hnext h (.message memPort (.memV1 (.writeResp 0 .done))) .complete (by decide +kernel)
  have hprotocol := (ModeledKernel.held_enter_protocol smallKernel_validated h).1
  exact ⟨_, _, h, by decide +kernel, by decide +kernel, by decide +kernel, hprotocol⟩

/-- A read of nothing is not answered: it faults the session. -/
theorem empty_request_unanswered :
    (∀ txn value, ¬ModeledKernel.EntersWith (.readReq 0 0 0) txn value) ∧
      smallKernel.Faults (.message gatePort (.memV1 (.readReq 0 0 0))) ∧
      ∀ env, ¬(smallKernel.handleEvent (.message gatePort (.memV1 (.readReq 0 0 0)))).Performs env
        [.sent gatePort (.memV1 (refusal (.readReq 0 0 0)))
          (Platform.scheduleWhen (smallConfig 0x80000000).latency) .complete] smallKernel := by
  refine ⟨?_, ModeledKernel.faults_empty rfl, ?_⟩
  · rintro txn value ⟨addr, data, hmsg, -⟩
    cases hmsg
  · intro env hperforms
    have hreject : smallKernel.handleEvent (.message gatePort (.memV1 (.readReq 0 0 0))) =
        smallKernel.reject "modeled kernel: zero-length gate request" := rfl
    rw [hreject, ModeledKernel.performs_reject] at hperforms
    exact hperforms

end SystemScope.Os
