import SystemScope.Framework.Runs
import SystemScope.Rv32i.RoundTrip

/-!
# The CPU in its surroundings

The CPU, the memory behind its `mem` port and the runtime that owns the pending events, as one
machine.  Time is left out: the schedule says which pending event is dispatched next and when the
interrupt line changes, which allows for every delay and every interleaving.  Memory is anything
that answers each request once, under its transaction (`MemTarget`).

`Matched` is the protocol between the three: a running CPU waits for exactly one event, and that is
the one that is pending.  Under it, `Advances` lists what a step can do; every result about whole
runs is proved over these five cases (`run_induction`).
-/

namespace SystemScope.Rv32i

open MemV1

/-- The transaction of a request. -/
def requestTxn : MemV1.MemMsg → Option TxnId
  | .readReq txn _ _ => some txn
  | .writeReq txn _ _ => some txn
  | _ => none

/-- A `mem.v1` target that answers each request once. -/
class MemTarget (μ : Type) where
  /-- The response to a request, and the target after it. -/
  serve : μ → MemV1.MemMsg → MemV1.MemMsg × μ
  txnOf_serve : ∀ m req txn, requestTxn req = some txn →
    Rv32iCpu.txnOf (serve m req).1 = some txn

/-- A byte memory: it reads and writes at once, and may refuse some addresses. -/
class ByteMemory (μ : Type) where
  read : μ → UInt64 → UInt32 → Option Bytes
  write : μ → UInt64 → Bytes → Option μ
  length_read : ∀ m addr len data, read m addr len = some data → data.length = len.toNat

/-- A byte memory behind a `mem.v1` port. -/
instance (μ : Type) [ByteMemory μ] : MemTarget μ where
  serve m
    | .readReq txn addr len =>
      match ByteMemory.read m addr len with
      | some data => (.readResp txn (.data data), m)
      | none => (.readResp txn (.fault .accessFault), m)
    | .writeReq txn addr data =>
      match ByteMemory.write m addr data with
      | some m' => (.writeResp txn .done, m')
      | none => (.writeResp txn (.fault .accessFault), m)
    | msg => (msg, m)
  txnOf_serve m req txn h := by
    cases req with
    | readReq txn' addr len =>
      cases h
      dsimp only
      split <;> rfl
    | writeReq txn' addr data =>
      cases h
      dsimp only
      split <;> rfl
    | _ => cases h

/-- A RAM from address 0; nothing is mapped past its end. -/
structure Ram where
  bytes : Bytes
  deriving DecidableEq

instance : ByteMemory Ram where
  read m addr len :=
    if addr.toNat + len.toNat ≤ m.bytes.length then some ((m.bytes.drop addr.toNat).take len.toNat)
    else none
  write m addr data :=
    if addr.toNat + data.length ≤ m.bytes.length then
      some ⟨m.bytes.take addr.toNat ++ data ++ m.bytes.drop (addr.toNat + data.length)⟩
    else none
  length_read m addr len data h := by
    split_ifs at h with hle
    cases h
    simp only [List.length_take, List.length_drop]
    omega

/-- An event of the CPU or of its memory that the runtime owns. -/
inductive Pending
  | wake (phase : Phase) (token : UInt64)
  /-- A request on its way to memory. -/
  | request (msg : MemV1.MemMsg)
  /-- A response on its way back. -/
  | response (msg : MemV1.MemMsg)
  deriving DecidableEq

/-- What is recorded of a run. -/
inductive Entry
  | sent (msg : MemV1.MemMsg)
  | traced (kind : String) (fields : List (String × Value))
  /-- A wake that sent the request before it. -/
  | woke (token : UInt64)
  /-- The CPU right after a `commit` wake. -/
  | committed (cpu : Rv32iCpu)
  /-- A level on the interrupt line. -/
  | level (asserted : Bool)
  deriving DecidableEq

/-- The event a call leaves pending. -/
def Call.pending : Call → Option Pending
  | .sent _ (.memV1 msg) _ _ => some (.request msg)
  | .woke _ phase token => some (.wake phase token)
  | _ => none

/-- What is recorded of a call. -/
def Call.entry : Call → Option Entry
  | .sent _ (.memV1 msg) _ _ => some (.sent msg)
  | .traced kind fields => some (.traced kind fields)
  | _ => none

/-- What is recorded of an event, besides its calls. -/
def entryOf (ev : Delivered) (cpu : Rv32iCpu) : List Entry :=
  match ev with
  | .wake token => if token = Token.commit then [.committed cpu] else [.woke token]
  | .message _ (.irq (.level asserted)) => [.level asserted]
  | .message _ _ => []

/-- What a schedule does next. -/
inductive Action
  /-- Dispatches a pending event. -/
  | dispatch (i : ℕ)
  /-- Sets the interrupt line, in `Complete`. -/
  | irq (asserted : Bool)
  deriving DecidableEq

/-- The CPU, its memory, and the events that are pending between them. -/
structure System (μ : Type) where
  cpu : Rv32iCpu
  memory : μ
  pending : List Pending
  log : List Entry

/-- The surroundings of a handler; the CPU reads nothing but the phase. -/
def surroundings (phase : Phase) : Surroundings where
  component := 0
  now := 0
  phase
  rng _ := 0

namespace System

variable {μ : Type}

/-- A CPU and its memory when the session starts. -/
def boot (c : Rv32iCpu) (m : μ) : System μ where
  cpu := c
  memory := m
  pending := (c.init.perform (surroundings .request)).1.filterMap Call.pending
  log := []

/-- Lets the CPU handle an event, with `pending` the events that are left. -/
def handle (s : System μ) (pending : List Pending) (phase : Phase) (ev : Delivered) :
    Except SimError (System μ) :=
  match (s.cpu.handleEvent ev).perform (surroundings phase) with
  | (calls, .ok (), cpu) =>
    .ok
      { cpu
        memory := s.memory
        pending := pending ++ calls.filterMap Call.pending
        log := s.log ++ (calls.filterMap Call.entry ++ entryOf ev cpu) }
  | (_, .error e, _) => .error e

variable [MemTarget μ]

/-- One step of a schedule.  A handler that fails ends the run; there is nothing to dispatch at an
index without an event. -/
def step (s : System μ) (a : Action) : Except SimError (System μ) :=
  match a with
  | .irq asserted => s.handle s.pending .complete (.message irqPort (.irq (.level asserted)))
  | .dispatch i =>
    match s.pending[i]? with
    | none => .ok s
    | some (.wake phase token) => s.handle (s.pending.eraseIdx i) phase (.wake token)
    | some (.response msg) =>
      s.handle (s.pending.eraseIdx i) .complete (.message port (.memV1 msg))
    | some (.request msg) =>
      let (response, memory) := MemTarget.serve s.memory msg
      .ok { s with memory, pending := s.pending.eraseIdx i ++ [.response response] }

def run (s : System μ) (actions : List Action) : Except SimError (System μ) :=
  actions.foldlM step s

end System

/-! ## The protocol -/

/-- A pending event of a transaction: its request, or its response. -/
def Pending.For (txn : TxnId) : Pending → Prop
  | .wake _ _ => False
  | .request msg => requestTxn msg = some txn
  | .response msg => Rv32iCpu.txnOf msg = some txn

/-- The event a state waits for. -/
def State.Awaits : State → Pending → Prop
  | .fetchIssue _, e => e = .wake .request Token.fetch
  | .memIssue _ _ _, e => e = .wake .request Token.memory
  | .walkIssue _, e => e = .wake .request Token.walk
  | .commitPending _ _ _, e => e = .wake .commit Token.commit
  | .fetchWait txn _, e => e.For txn
  | .memWait txn _ _ _, e => e.For txn
  | .walkWait txn _, e => e.For txn
  | .halted _, _ => False

namespace System

variable {μ : Type}

/-- A running CPU waits for the one event that is pending; for a halted one there is none. -/
def Matched (s : System μ) : Prop :=
  (∃ e, s.pending = [e] ∧ s.cpu.state.Awaits e) ∨ s.cpu.halt.isSome = true ∧ s.pending = []

/-- The events that a state's wakes leave pending. -/
def wakesOf (s : State) (clock : ClockDomainId) : List Pending :=
  (s.wakes clock).filterMap Call.pending

/-- What a step can do while the protocol is kept. -/
inductive Advances [MemTarget μ] (s : System μ) : System μ → Prop
  | serve {req : MemV1.MemMsg} (hp : s.pending = [.request req]) :
      Advances s
        { s with
          memory := (MemTarget.serve s.memory req).2
          pending := [.response (MemTarget.serve s.memory req).1] }
  | irq {asserted : Bool} (hprofile : s.cpu.config.profile ≠ .m1) :
      Advances s
        { s with
          cpu := { s.cpu with csrs := { s.cpu.csrs with irqLevel := asserted } }
          log := s.log ++ [.level asserted] }
  | issue {token next : UInt64} {msg : TxnId → MemV1.MemMsg} {waiting : TxnId → State}
      (hp : s.pending = [.wake .request token]) (hi : s.cpu.Issues token msg waiting)
      (hn : s.cpu.advanceTxn = some next) :
      Advances s
        { s with
          cpu := { s.cpu with nextTxn := next, state := waiting s.cpu.nextTxn }
          pending := [.request (msg s.cpu.nextTxn)]
          log := s.log ++ [.sent (msg s.cpu.nextTxn), .woke token] }
  | answer {msg : MemV1.MemMsg} {state : State} (hp : s.pending = [.response msg])
      (ha : s.cpu.Answers msg state) :
      Advances s
        { s with
          cpu := s.cpu.enter state
          pending := wakesOf state s.cpu.config.clock }
  | commit {calls : List Call} {c' : Rv32iCpu} (hp : s.pending = [.wake .commit Token.commit])
      (hc : s.cpu.Commits calls c') :
      Advances s
        { s with
          cpu := c'
          pending := calls.filterMap Call.pending
          log := s.log ++ (calls.filterMap Call.entry ++ [.committed c']) }

variable {s s' : System μ}

lemma handle_eq_ok {pending : List Pending} {phase : Phase} {ev : Delivered} :
    s.handle pending phase ev = .ok s' ↔
      ∃ calls c', s.cpu.Moves phase ev calls c' ∧
        s' =
          { cpu := c'
            memory := s.memory
            pending := pending ++ calls.filterMap Call.pending
            log := s.log ++ (calls.filterMap Call.entry ++ entryOf ev c') } := by
  unfold handle
  constructor
  · intro h
    split at h
    · rename_i calls c' hperform
      cases h
      exact ⟨calls, c', (Rv32iCpu.perform_handleEvent_iff (surroundings phase)).mp hperform, rfl⟩
    · cases h
  · rintro ⟨calls, c', hmoves, rfl⟩
    rw [(Rv32iCpu.perform_handleEvent_iff (surroundings phase)).mpr hmoves]

lemma wakesOf_of_quiet {state : State} (clock : ClockDomainId)
    (hhalt : ∀ halt, state ≠ .halted halt)
    (hquiet : state.outstanding = none) : ∃ e, wakesOf state clock = [e] ∧ state.Awaits e := by
  cases state with
  | fetchIssue | memIssue | walkIssue | commitPending => exact ⟨_, rfl, rfl⟩
  | fetchWait | memWait | walkWait => cases hquiet
  | halted halt => exact absurd rfl (hhalt halt)

lemma wakesOf_fetchState (c : Rv32iCpu) (clock : ClockDomainId) :
    ∃ e, wakesOf c.fetchState clock = [e] ∧ c.fetchState.Awaits e := by
  unfold Rv32iCpu.fetchState
  split_ifs <;> exact ⟨_, rfl, rfl⟩

lemma entries_wakes (state : State) (clock : ClockDomainId) :
    (state.wakes clock).filterMap Call.entry = [] := by
  cases state <;> rfl

lemma pending_interruptRecord (c : Rv32iCpu) :
    c.interruptRecord.filterMap Call.pending = [] := by
  unfold Rv32iCpu.interruptRecord
  cases c.sampleMei <;> rfl

/-- A request goes out under the number it is given. -/
lemma requestTxn_of_issues {c : Rv32iCpu} {token : UInt64} {msg : TxnId → MemV1.MemMsg}
    {waiting : TxnId → State} (hi : c.Issues token msg waiting) (txn : TxnId) :
    requestTxn (msg txn) = some txn := by
  cases hi with
  | fetch | walk => rfl
  | memory =>
    rename_i plan _ _
    cases plan <;> rfl

lemma eq_wake_of_issues {c : Rv32iCpu} {token : UInt64} {msg : TxnId → MemV1.MemMsg}
    {waiting : TxnId → State} {e : Pending} (hi : c.Issues token msg waiting)
    (hawaits : c.state.Awaits e) : e = .wake .request token := by
  cases hi with
  | fetch hs | memory hs | walk hs =>
    rw [hs] at hawaits
    exact hawaits

lemma commits_state {c c' : Rv32iCpu} {calls : List Call} (hc : c.Commits calls c') :
    ∃ insn outcome pa, c.state = .commitPending insn outcome pa := by
  cases hc with
  | halt hs | exception hs | limit hs | retire hs => exact ⟨_, _, _, hs⟩

section

variable [MemTarget μ]

lemma dispatch_advances {e : Pending} (hp : s.pending = [e]) (hawaits : s.cpu.state.Awaits e)
    (h : s.step (.dispatch 0) = .ok s') : s.Advances s' := by
  unfold step at h
  rw [hp] at h
  cases e with
  | wake phase token =>
    obtain ⟨calls, c', hmoves, rfl⟩ := handle_eq_ok.mp h
    cases hmoves with
    | issue hi hn =>
      have hwake := eq_wake_of_issues hi hawaits
      have hentry (c : Rv32iCpu) : entryOf (.wake token) c = [.woke token] := by
        cases hi <;> rfl
      rw [hentry]
      exact .issue (hp.trans (by rw [hwake])) hi hn
    | commit hc =>
      obtain ⟨insn, outcome, pa, hs⟩ := commits_state hc
      rw [hs] at hawaits
      exact .commit (hp.trans (by rw [show Pending.wake phase Token.commit = _ from hawaits])) hc
  | request msg =>
    cases h
    exact .serve hp
  | response msg =>
    obtain ⟨calls, c', hmoves, rfl⟩ := handle_eq_ok.mp h
    cases hmoves with
    | answer _ ha =>
      have hentry (c : Rv32iCpu) : entryOf (.message port (.memV1 msg)) c = [] := rfl
      rw [entries_wakes, hentry, List.append_nil, List.append_nil]
      exact .answer hp ha

/-- While the protocol is kept, a step advances or finds nothing to dispatch. -/
lemma step_cases {a : Action} (hm : s.Matched) (h : s.step a = .ok s') :
    s' = s ∨ s.Advances s' := by
  cases a with
  | irq asserted =>
    obtain ⟨calls, c', hmoves, rfl⟩ := handle_eq_ok.mp h
    cases hmoves with
    | irq hprofile =>
      rw [List.filterMap_nil, List.append_nil]
      exact .inr (.irq hprofile)
  | dispatch i =>
    rcases hm with ⟨e, hp, hawaits⟩ | ⟨-, hp⟩
    · cases i with
      | zero => exact .inr (dispatch_advances hp hawaits h)
      | succ i =>
        unfold step at h
        rw [hp] at h
        cases h
        exact .inl rfl
    · unfold step at h
      rw [hp] at h
      cases h
      exact .inl rfl

/-- Every advance keeps the protocol. -/
lemma Matched.advances (hm : s.Matched) (h : s.Advances s') : s'.Matched := by
  cases h with
  | serve hp =>
    rename_i req
    rcases hm with ⟨e, hp', hawaits⟩ | ⟨-, hp'⟩
    · obtain rfl : e = .request req := by simpa [hp] using hp'.symm
      refine .inl ⟨_, rfl, ?_⟩
      have hserve (txn : TxnId) (hfor : (Pending.request req).For txn) :
          (Pending.response (MemTarget.serve s.memory req).1).For txn :=
        MemTarget.txnOf_serve _ _ _ hfor
      cases hs : s.cpu.state <;> rw [hs] at hawaits
      case fetchWait | memWait | walkWait => exact hserve _ hawaits
      all_goals cases hawaits
    · rw [hp] at hp'
      cases hp'
  | irq => exact hm
  | issue hp hi hn =>
    refine .inl ⟨_, rfl, ?_⟩
    have hfor := requestTxn_of_issues hi s.cpu.nextTxn
    cases hi <;> exact hfor
  | answer hp ha => exact .inl (wakesOf_of_quiet _ ha.running.2.1 ha.running.2.2)
  | commit hp hc =>
    cases hc with
    | halt | limit => exact .inr ⟨rfl, rfl⟩
    | exception => exact .inl (wakesOf_fetchState _ _)
    | retire hs hr hl =>
      left
      rw [List.cons_append, List.filterMap_cons_none rfl, List.filterMap_append,
        pending_interruptRecord, List.nil_append]
      exact wakesOf_fetchState _ _

/-- The rule for whole runs: what every advance keeps holds at the end. -/
theorem run_induction {I : System μ → Prop}
    (hI : ∀ s s', s.Matched → I s → s.Advances s' → I s') (hm : s.Matched) (hs : I s)
    {actions : List Action} (h : s.run actions = .ok s') : s'.Matched ∧ I s' := by
  refine Machine.foldlM_invariant (I := fun s => s.Matched ∧ I s) ?_ ⟨hm, hs⟩ h
  rintro s a s' - hstep ⟨hm, hs⟩
  rcases step_cases hm hstep with rfl | hadvances
  · exact ⟨hm, hs⟩
  · exact ⟨hm.advances hadvances, hI s s' hm hs hadvances⟩

omit [MemTarget μ] in
lemma matched_boot (c : Rv32iCpu) (hc : c.state = .fetchIssue none) (m : μ) :
    (boot c m).Matched := by
  refine .inl ⟨_, rfl, ?_⟩
  change c.state.Awaits _
  rw [hc]
  rfl

end

end System

end SystemScope.Rv32i
