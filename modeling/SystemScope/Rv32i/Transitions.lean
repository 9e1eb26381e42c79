import SystemScope.Contracts.Calls
import SystemScope.Rv32i.Cpu

/-!
# The CPU as a transition system

What an event can do to the CPU, said once.  `Moves c phase ev calls c'` lists every way in which
handling `ev` in `phase` succeeds: a request goes out (`Issues`), a response is taken (`Answers`),
an interrupt level is taken, or a pending outcome is committed (`Commits`).  It is exactly what the
handlers do when their calls succeed (`perform_handleEvent_iff`); whatever the calls are answered,
the CPU ends as it was or as in one of these moves (`eq_or_moves_of_ends`).
-/

namespace SystemScope.Rv32i

open MemV1

/-- The wake that is scheduled when a state is entered. -/
def State.wakes (clock : ClockDomainId) : State → List Call
  | .fetchIssue _ => [.woke (.cycles clock 1) .request Token.fetch]
  | .memIssue .. => [.woke (.cycles clock 1) .request Token.memory]
  | .walkIssue _ => [.woke (.cycles clock 1) .request Token.walk]
  | .commitPending .. => [.woke .now .commit Token.commit]
  | _ => []

/-- The request that is outstanding in a state. -/
def State.outstanding : State → Option TxnId
  | .fetchWait txn _ => some txn
  | .memWait txn _ _ _ => some txn
  | .walkWait txn _ => some txn
  | _ => none

/-- The instruction a walk belongs to, if there is one yet. -/
def Purpose.insn : Purpose → Option UInt32
  | .fetch => none
  | .data insn _ => some insn

/-- Where a walk goes when it has found its physical address. -/
def Purpose.issue (pa : UInt64) : Purpose → State
  | .fetch => .fetchIssue (some pa)
  | .data insn plan => .memIssue insn plan (some pa)

/-- The physical address an outcome keeps for its commit record. -/
def ExecOutcome.keep (pa : Option UInt64) : ExecOutcome → Option UInt64
  | .effect _ => pa
  | .trap _ => none

/-- A trap as an outcome to be committed. -/
def Outcome.trap (cause : TrapCause) (tval : UInt32) : Outcome := .exec (.trap { cause, tval })

namespace Rv32iCpu

variable (c : Rv32iCpu)

/-- The CPU in another execution state. -/
def enter (s : State) : Rv32iCpu := { c with state := s }

/-- The state in which an instruction is fetched. -/
def fetchState : State :=
  if c.translating then .walkIssue { purpose := .fetch, level := 1, table := c.m3.root }
  else .fetchIssue none

/-- The state in which an aligned access is made. -/
def accessState (insn : UInt32) (plan : MemoryPlan) : State :=
  if c.translating then .walkIssue { purpose := .data insn plan, level := 1, table := c.m3.root }
  else .memIssue insn plan none

/-- The next fetch. -/
def resume : Rv32iCpu := c.enter c.fetchState

/-- Where a delegated trap goes. -/
def delivery (trap : PendingTrap) : Option (UInt32 × M3State) :=
  if c.config.profile = .m3 then c.m3.takeException trap.cause c.pc trap.tval else none

/-- The record of a trap that halts. -/
def trapRecord (insn : Option UInt32) (trap : PendingTrap) : Call :=
  .traced trapKind
    [("pc", .u64 c.pc.toUInt64), ("insn", .u64 (insn.getD 0).toUInt64),
      ("cause", .str (c.causeName trap.cause)), ("tval", .u64 trap.tval.toUInt64)]

/-- The record of a trap that is delivered to S. -/
def exceptionRecord (insn : Option UInt32) (trap : PendingTrap) (m3 : M3State) : Call :=
  .traced exceptionKind
    [("pc", .u64 c.pc.toUInt64), ("insn", .u64 (insn.getD 0).toUInt64),
      ("cause", .str trap.cause.m3Name), ("tval", .u64 trap.tval.toUInt64),
      ("from", .str c.m3.privilege.name), ("to", .str m3.privilege.name)]

/-- The CPU with one more instruction retired. -/
def counted : Rv32iCpu := { c with instret := c.instret + 1 }

/-- The CPU after a retirement, with the interrupt taken if it is eligible. -/
def sampled : Rv32iCpu := c.sampleMei.elim c Prod.fst

/-- The record of an interrupt entry, if there is one. -/
def interruptRecord : List Call := c.sampleMei.elim [] fun taken => [.traced interruptKind taken.2]

/-- The requests a wake sends: its token, the message, and the state that waits for the response. -/
inductive Issues : UInt64 → (TxnId → MemV1.MemMsg) → (TxnId → State) → Prop
  | fetch {pa : Option UInt64} (hs : c.state = .fetchIssue pa) :
      Issues Token.fetch (fun txn => .readReq txn (pa.getD c.pc.toUInt64) 4)
        (fun txn => .fetchWait txn pa)
  | memory {insn : UInt32} {plan : MemoryPlan} {pa : Option UInt64}
      (hs : c.state = .memIssue insn plan pa) :
      Issues Token.memory (planRequest plan (pa.getD (planAddr plan).toUInt64))
        (fun txn => .memWait txn insn plan pa)
  | walk {walk : Walk} (hs : c.state = .walkIssue walk) :
      Issues Token.walk
        (fun txn => .readReq txn (Sv32.pteAddress walk.table (c.walkVa walk) walk.level) 4)
        (fun txn => .walkWait txn walk)

/-- Where a response leads. -/
inductive Answers : MemV1.MemMsg → State → Prop
  | done {txn : TxnId} {pa : Option UInt64} {data : Bytes} {word : UInt32} {outcome : Outcome}
      (hs : c.state = .fetchWait txn pa) (hw : wordOfBytes data = some word)
      (hstep : step c.isa word c.pc c.regs = .done outcome) :
      Answers (.readResp txn (.data data)) (.commitPending (some word) outcome none)
  | access {txn : TxnId} {pa : Option UInt64} {data : Bytes} {word : UInt32} {plan : MemoryPlan}
      (hs : c.state = .fetchWait txn pa) (hw : wordOfBytes data = some word)
      (hstep : step c.isa word c.pc c.regs = .memory plan) :
      Answers (.readResp txn (.data data)) (c.accessState word plan)
  | fetchRefused {txn : TxnId} {pa : Option UInt64} (hs : c.state = .fetchWait txn pa) :
      Answers (.readResp txn (.fault .accessFault))
        (.commitPending none (.trap .instructionAccessFault c.pc) none)
  | loaded {txn : TxnId} {insn : UInt32} {plan : LoadPlan} {pa : Option UInt64}
      {read : ReadOutcome} {outcome : ExecOutcome}
      (hs : c.state = .memWait txn insn (.load plan) pa)
      (hm : completeLoad plan read = .ok outcome) :
      Answers (.readResp txn read) (.commitPending (some insn) (.exec outcome) (outcome.keep pa))
  | stored {txn : TxnId} {insn : UInt32} {plan : StorePlan} {pa : Option UInt64}
      {written : WriteOutcome} (hs : c.state = .memWait txn insn (.store plan) pa) :
      Answers (.writeResp txn written)
        (.commitPending (some insn) (.exec (completeStore plan written))
          ((completeStore plan written).keep pa))
  | next {txn : TxnId} {walk : Walk} {data : Bytes} {pte table : UInt32}
      (hs : c.state = .walkWait txn walk) (hw : wordOfBytes data = some pte)
      (hstep : Sv32.step (c.walkContext walk) (c.walkVa walk) walk.level pte = .next table) :
      Answers (.readResp txn (.data data))
        (.walkIssue { walk with level := walk.level - 1, table })
  | leaf {txn : TxnId} {walk : Walk} {data : Bytes} {pte : UInt32} {pa : UInt64}
      (hs : c.state = .walkWait txn walk) (hw : wordOfBytes data = some pte)
      (hstep : Sv32.step (c.walkContext walk) (c.walkVa walk) walk.level pte = .leaf pa) :
      Answers (.readResp txn (.data data)) (walk.purpose.issue pa)
  | pageFault {txn : TxnId} {walk : Walk} {data : Bytes} {pte : UInt32}
      (hs : c.state = .walkWait txn walk) (hw : wordOfBytes data = some pte)
      (hstep : Sv32.step (c.walkContext walk) (c.walkVa walk) walk.level pte = .pageFault) :
      Answers (.readResp txn (.data data))
        (.commitPending walk.purpose.insn
          (.trap (Sv32.Fault.page.cause walk.purpose.access) (c.walkVa walk)) none)
  | walkRefused {txn : TxnId} {walk : Walk} (hs : c.state = .walkWait txn walk) :
      Answers (.readResp txn (.fault .accessFault))
        (.commitPending walk.purpose.insn
          (.trap (Sv32.Fault.access.cause walk.purpose.access) (c.walkVa walk)) none)

/-- What the `commit` wake does: its records and wakes, and the CPU after it. -/
inductive Commits : List Call → Rv32iCpu → Prop
  | halt {insn : Option UInt32} {trap : PendingTrap} {pa : Option UInt64}
      (hs : c.state = .commitPending insn (.exec (.trap trap)) pa) (hd : c.delivery trap = none) :
      Commits [c.trapRecord insn trap]
        (c.enter (.halted (.trap { cause := trap.cause, pc := c.pc, tval := trap.tval })))
  | exception {insn : Option UInt32} {trap : PendingTrap} {pa : Option UInt64} {handler : UInt32}
      {m3 : M3State} (hs : c.state = .commitPending insn (.exec (.trap trap)) pa)
      (hd : c.delivery trap = some (handler, m3)) :
      Commits
        (c.exceptionRecord insn trap m3 ::
          { c with pc := handler, m3 }.fetchState.wakes c.config.clock)
        { c with pc := handler, m3 }.resume
  | limit {insn : UInt32} {outcome : Outcome} {pa : Option UInt64} {d : Rv32iCpu}
      {fields : List (String × Value)} (hs : c.state = .commitPending (some insn) outcome pa)
      (hr : c.retire insn outcome pa = (d, .ok fields))
      (hl : d.config.maxInstructions ≤ d.counted.instret) :
      Commits [.traced commitKind fields, .traced haltKind [("instret", .u64 d.counted.instret)]]
        (d.counted.enter (.halted .instructionLimit))
  | retire {insn : UInt32} {outcome : Outcome} {pa : Option UInt64} {d : Rv32iCpu}
      {fields : List (String × Value)} (hs : c.state = .commitPending (some insn) outcome pa)
      (hr : c.retire insn outcome pa = (d, .ok fields))
      (hl : ¬d.config.maxInstructions ≤ d.counted.instret) :
      Commits
        (.traced commitKind fields :: d.counted.interruptRecord ++
          d.counted.sampled.fetchState.wakes d.config.clock)
        d.counted.sampled.resume

/-- What handling an event in a phase does. -/
inductive Moves : Phase → Delivered → List Call → Rv32iCpu → Prop
  | issue {phase : Phase} {token : UInt64} {msg : TxnId → MemV1.MemMsg} {waiting : TxnId → State}
      {next : UInt64} (hi : c.Issues token msg waiting) (hn : c.advanceTxn = some next) :
      Moves phase (.wake token) [.sent port (.memV1 (msg c.nextTxn)) .now .request]
        { c with nextTxn := next, state := waiting c.nextTxn }
  | answer {p : PortId} {msg : MemV1.MemMsg} {s : State} (hp : c.config.profile = .m1 ∨ p = port)
      (ha : c.Answers msg s) :
      Moves .complete (.message p (.memV1 msg)) (s.wakes c.config.clock) (c.enter s)
  | irq {asserted : Bool} (hp : c.config.profile ≠ .m1) :
      Moves .complete (.message irqPort (.irq (.level asserted))) []
        { c with csrs := { c.csrs with irqLevel := asserted } }
  | commit {phase : Phase} {calls : List Call} {c' : Rv32iCpu} (hc : c.Commits calls c') :
      Moves phase (.wake Token.commit) calls c'

/-! ## What the pure parts leave alone -/

variable {c}

/-- What only the handlers around a commit change. -/
structure SameFrame (c d : Rv32iCpu) : Prop where
  config : d.config = c.config
  instret : d.instret = c.instret
  nextTxn : d.nextTxn = c.nextTxn
  state : d.state = c.state

lemma SameFrame.refl (c : Rv32iCpu) : SameFrame c c := ⟨rfl, rfl, rfl, rfl⟩

lemma writeCsr_frame {csr : UInt16} {value : UInt32} {d : Rv32iCpu}
    (h : c.writeCsr csr value = some d) :
    SameFrame c d ∧ d.pc = c.pc ∧ d.regs = c.regs := by
  unfold writeCsr at h
  split at h
  all_goals
    obtain ⟨-, -, rfl⟩ := Option.map_eq_some_iff.mp h
    exact ⟨⟨rfl, rfl, rfl, rfl⟩, rfl, rfl⟩

lemma mret_frame : SameFrame c c.mret := by
  unfold mret
  split <;> exact ⟨rfl, rfl, rfl, rfl⟩

lemma sret_frame : SameFrame c c.sret := ⟨rfl, rfl, rfl, rfl⟩

lemma sampled_frame : SameFrame c c.sampled := by
  unfold sampled sampleMei
  split
  · exact .refl c
  all_goals
    split_ifs
    · exact ⟨rfl, rfl, rfl, rfl⟩
    · exact .refl c

lemma readCsr_isSome_of_writeCsr {csr : UInt16} {value : UInt32} {d : Rv32iCpu}
    (h : c.writeCsr csr value = some d) : (d.readCsr csr).isSome = true := by
  have hconfig := (writeCsr_frame h).1.config
  unfold writeCsr at h
  unfold readCsr
  rw [hconfig]
  cases hprofile : c.config.profile with
  | m1 | m2 =>
    rw [hprofile] at h
    obtain ⟨csrs, hwrite, rfl⟩ := Option.map_eq_some_iff.mp h
    rw [← CsrFile.isSome_write c.csrs csrs csr value, hwrite]
    rfl
  | m3 =>
    rw [hprofile] at h
    obtain ⟨⟨m3, csrs⟩, hwrite, rfl⟩ := Option.map_eq_some_iff.mp h
    exact M3State.isSome_read_of_write hwrite

/-- A CSR instruction that fails changes nothing; one that does not reads the CSR and then writes
it, unless the write is suppressed. -/
lemma commitCsr_cases (insn : UInt32) (op : PendingCsr) :
    (∃ e, c.commitCsr insn op = (c, .error e)) ∨
      ∃ old d fields, c.readCsr op.csr = some old ∧
        (if op.write then c.writeCsr op.csr (op.op.apply old op.operand) else some c) = some d ∧
        c.commitCsr insn op = ({ d with regs := d.regs.write op.rd old, pc := op.nextPc }, .ok
          (c.commitFields insn { regWrite := some ⟨op.rd, old⟩, nextPc := op.nextPc } none ++
            ("csr", .u64 op.csr.toUInt64) :: fields)) := by
  unfold commitCsr
  cases hread : c.readCsr op.csr with
  | none => exact .inl ⟨_, rfl⟩
  | some old =>
    dsimp only
    by_cases hwrite : op.write = true
    · rw [if_pos hwrite]
      cases hd : c.writeCsr op.csr (op.op.apply old op.operand) with
      | none => exact .inl ⟨_, rfl⟩
      | some d =>
        obtain ⟨stored, hstored⟩ := Option.isSome_iff_exists.mp (readCsr_isSome_of_writeCsr hd)
        refine .inr ⟨old, d, [("csr_value", .u64 stored.toUInt64)], rfl, ?_, ?_⟩
        · rw [if_pos hwrite, hd]
        · simp only [hstored, List.append_assoc, List.singleton_append]
    · rw [if_neg hwrite]
      refine .inr ⟨old, c, [], rfl, ?_, rfl⟩
      rw [if_neg hwrite]

lemma commitCsr_frame {insn : UInt32} {op : PendingCsr} :
    SameFrame c (c.commitCsr insn op).1 := by
  rcases c.commitCsr_cases insn op with ⟨e, h⟩ | ⟨old, d, fields, -, hd, h⟩
  · rw [h]
    exact .refl c
  · rw [h]
    have hframe : SameFrame c d := by
      by_cases hwrite : op.write = true
      · rw [if_pos hwrite] at hd
        exact (writeCsr_frame hd).1
      · rw [if_neg hwrite] at hd
        cases hd
        exact .refl c
    exact ⟨hframe.config, hframe.instret, hframe.nextTxn, hframe.state⟩

lemma retire_frame {insn : UInt32} {outcome : Outcome} {pa : Option UInt64} :
    SameFrame c (c.retire insn outcome pa).1 := by
  unfold retire
  split
  · exact ⟨rfl, rfl, rfl, rfl⟩
  · exact commitCsr_frame
  · exact mret_frame
  · exact sret_frame
  · exact .refl c

/-- A retirement that fails changes nothing. -/
lemma eq_of_retire_error {insn : UInt32} {outcome : Outcome} {pa : Option UInt64} {d : Rv32iCpu}
    {e : SimError} (h : c.retire insn outcome pa = (d, .error e)) : d = c := by
  unfold retire at h
  split at h
  · cases h
  · rename_i op
    rcases c.commitCsr_cases insn op with ⟨e', hcsr⟩ | ⟨_, _, _, -, -, hcsr⟩
    · rw [hcsr] at h
      cases h
      rfl
    · rw [hcsr] at h
      cases h
  · cases h
  · cases h
  · cases h
    rfl

/-! ## The handlers make exactly these moves -/

lemma fault_meets (what : String) {P : Phase → List Call → Rv32iCpu → Prop} :
    (c.fault what).Meets c P :=
  .error _

lemma wakeNextCycle_enter_meets {d : Rv32iCpu} {s : State} {token : UInt64}
    {P : Phase → List Call → Rv32iCpu → Prop}
    (hs : s.wakes d.config.clock = [.woke (.cycles d.config.clock 1) .request token])
    (hP : ∀ phase, P phase (s.wakes d.config.clock) (d.enter s)) :
    ((d.enter s).wakeNextCycle token).Meets c P :=
  .wake fun phase => hs ▸ hP phase

lemma fetchNext_meets {d : Rv32iCpu} {P : Phase → List Call → Rv32iCpu → Prop}
    (hP : ∀ phase, P phase (d.fetchState.wakes d.config.clock) d.resume) :
    d.fetchNext.Meets c P := by
  unfold resume fetchState at hP
  unfold fetchNext
  split_ifs at hP ⊢
  · exact wakeNextCycle_enter_meets rfl hP
  · exact wakeNextCycle_enter_meets rfl hP

lemma accessNext_meets {insn : UInt32} {plan : MemoryPlan}
    {P : Phase → List Call → Rv32iCpu → Prop}
    (hP : ∀ phase, P phase ((c.accessState insn plan).wakes c.config.clock)
      (c.enter (c.accessState insn plan))) :
    (c.accessNext insn plan).Meets c P := by
  unfold accessState at hP
  unfold accessNext
  split_ifs at hP ⊢
  · exact wakeNextCycle_enter_meets rfl hP
  · exact wakeNextCycle_enter_meets rfl hP

lemma commitNext_meets {insn : Option UInt32} {outcome : Outcome} {pa : Option UInt64}
    {P : Phase → List Call → Rv32iCpu → Prop}
    (hP : ∀ phase, P phase ((State.commitPending insn outcome pa).wakes c.config.clock)
      (c.enter (.commitPending insn outcome pa))) :
    (c.commitNext insn outcome pa).Meets c P :=
  .wake hP

lemma send_meets {token : UInt64} {msg : TxnId → MemV1.MemMsg} {waiting : TxnId → State}
    (hi : c.Issues token msg waiting) :
    (c.send msg waiting).Meets c fun phase calls c' => c.Moves phase (.wake token) calls c' := by
  unfold send
  cases hn : c.advanceTxn with
  | none => exact fault_meets _
  | some next => exact .send rfl (fun _ => rfl) fun _ => .issue hi hn

lemma commitTrap_eq (insn : Option UInt32) (trap : PendingTrap) : c.commitTrap insn trap =
    match c.delivery trap with
    | some (handler, m3) =>
      .trace exceptionKind
        [("pc", .u64 c.pc.toUInt64), ("insn", .u64 (insn.getD 0).toUInt64),
          ("cause", .str trap.cause.m3Name), ("tval", .u64 trap.tval.toUInt64),
          ("from", .str c.m3.privilege.name), ("to", .str m3.privilege.name)] <|
        { c with pc := handler, m3 }.fetchNext
    | none =>
      .trace trapKind
        [("pc", .u64 c.pc.toUInt64), ("insn", .u64 (insn.getD 0).toUInt64),
          ("cause", .str (c.causeName trap.cause)), ("tval", .u64 trap.tval.toUInt64)] <|
        .done (.ok ())
          { c with
            state := .halted (.trap { cause := trap.cause, pc := c.pc, tval := trap.tval }) } :=
  rfl

lemma retired_eq (d : Rv32iCpu) (fields : List (String × Value)) : d.retired fields =
    .trace commitKind fields
      (if d.config.maxInstructions ≤ d.counted.instret then
        .trace haltKind [("instret", .u64 d.counted.instret)] <|
          .done (.ok ()) { d.counted with state := .halted .instructionLimit }
      else match d.counted.sampleMei with
        | some (c, fields) => .trace interruptKind fields c.fetchNext
        | none => d.counted.fetchNext) := rfl

lemma commitTrap_meets {insn : Option UInt32} {trap : PendingTrap} {pa : Option UInt64}
    (hs : c.state = .commitPending insn (.exec (.trap trap)) pa) :
    (c.commitTrap insn trap).Meets c fun _ calls c' => c.Commits calls c' := by
  rw [commitTrap_eq]
  cases hd : c.delivery trap with
  | none => exact .trace (.ok fun _ => .halt hs hd)
  | some delivered => exact .trace (fetchNext_meets fun _ => .exception hs hd)

lemma retired_meets {insn : UInt32} {outcome : Outcome} {pa : Option UInt64} {d : Rv32iCpu}
    {fields : List (String × Value)} (hs : c.state = .commitPending (some insn) outcome pa)
    (hr : c.retire insn outcome pa = (d, .ok fields)) :
    (d.retired fields).Meets c fun _ calls c' => c.Commits calls c' := by
  rw [retired_eq]
  refine .trace ?_
  by_cases hl : d.config.maxInstructions ≤ d.counted.instret
  · rw [if_pos hl]
    exact .trace (.ok fun _ => .limit hs hr hl)
  · rw [if_neg hl]
    have hcommits := Commits.retire hs hr hl
    unfold sampled interruptRecord at hcommits
    cases hmei : d.counted.sampleMei with
    | none =>
      rw [hmei] at hcommits
      exact fetchNext_meets fun _ => hcommits
    | some taken =>
      have hconfig : taken.1.config = d.config := by
        have h := d.counted.sampled_frame.config
        rwa [sampled, hmei] at h
      rw [hmei] at hcommits
      refine .trace (fetchNext_meets fun _ => ?_)
      rw [hconfig]
      exact hcommits

lemma commit_meets {insn : Option UInt32} {outcome : Outcome} {pa : Option UInt64}
    (hs : c.state = .commitPending insn outcome pa) :
    (c.commit insn outcome pa).Meets c fun _ calls c' => c.Commits calls c' := by
  unfold commit
  split
  · exact commitTrap_meets hs
  · cases insn with
    | none => exact fault_meets _
    | some insn =>
      obtain ⟨d, result, hr⟩ : ∃ d result, c.retire insn outcome pa = (d, result) := ⟨_, _, rfl⟩
      dsimp only
      rw [hr]
      cases result with
      | error e =>
        obtain rfl := eq_of_retire_error hr
        exact .error e
      | ok fields => exact retired_meets hs hr

lemma wake_meets (token : UInt64) :
    (c.wake token).Meets c fun phase calls c' => c.Moves phase (.wake token) calls c' := by
  unfold wake
  dsimp only
  split
  · rename_i hs
    split_ifs with htoken
    · subst htoken
      exact send_meets (.fetch hs)
    · exact fault_meets _
  · rename_i hs
    split_ifs with htoken
    · subst htoken
      exact send_meets (.memory hs)
    · exact fault_meets _
  · rename_i hs
    split_ifs with htoken
    · subst htoken
      exact send_meets (.walk hs)
    · exact fault_meets _
  · rename_i hs
    split_ifs with htoken
    · subst htoken
      exact (commit_meets hs).mono fun _ _ _ hc => .commit hc
    · exact fault_meets _
  · exact fault_meets _

/-- The transaction a response is for. -/
def txnOf : MemV1.MemMsg → Option TxnId
  | .readResp txn _ => some txn
  | .writeResp txn _ => some txn
  | _ => none

lemma fetched_meets {msg : MemV1.MemMsg} {P : Phase → List Call → Rv32iCpu → Prop} {txn : TxnId}
    {pa : Option UInt64} (hs : c.state = .fetchWait txn pa) (htxn : txnOf msg = some txn)
    (hP : ∀ phase s, c.Answers msg s → P phase (s.wakes c.config.clock) (c.enter s)) :
    (c.fetched msg).Meets c P := by
  unfold fetched
  split
  · cases htxn
    split
    · exact fault_meets _
    · rename_i hw
      split
      · rename_i hstep
        exact commitNext_meets fun phase => hP phase _ (.done hs hw hstep)
      · rename_i hstep
        exact accessNext_meets fun phase => hP phase _ (.access hs hw hstep)
  · cases htxn
    exact commitNext_meets fun phase => hP phase _ (.fetchRefused hs)
  · exact fault_meets _

lemma accessed_meets {msg : MemV1.MemMsg} {P : Phase → List Call → Rv32iCpu → Prop} {txn : TxnId}
    {insn : UInt32} {plan : MemoryPlan} {pa : Option UInt64}
    (hs : c.state = .memWait txn insn plan pa) (htxn : txnOf msg = some txn)
    (hP : ∀ phase s, c.Answers msg s → P phase (s.wakes c.config.clock) (c.enter s)) :
    (c.accessed insn plan pa msg).Meets c P := by
  unfold accessed
  cases hm : completeMemory plan msg with
  | error e => exact .error _
  | ok outcome =>
    have hanswers :
      c.Answers msg (.commitPending (some insn) (.exec outcome) (outcome.keep pa)) := by
      unfold completeMemory at hm
      split at hm
      · cases htxn
        exact .loaded hs hm
      · cases htxn
        cases hm
        exact .stored hs
      · cases hm
    cases outcome <;> exact commitNext_meets fun phase => hP phase _ hanswers

lemma walked_some_meets {P : Phase → List Call → Rv32iCpu → Prop} {txn : TxnId} {walk : Walk}
    {data : Bytes} {pte : UInt32} (hs : c.state = .walkWait txn walk)
    (hw : wordOfBytes data = some pte)
    (hP : ∀ phase s, c.Answers (.readResp txn (.data data)) s →
      P phase (s.wakes c.config.clock) (c.enter s)) :
    (c.walked walk (some pte)).Meets c P := by
  unfold walked
  dsimp only [Option.map_some]
  cases hstep : Sv32.step (c.walkContext walk) (c.walkVa walk) walk.level pte with
  | next table => exact wakeNextCycle_enter_meets rfl fun phase => hP phase _ (.next hs hw hstep)
  | leaf pa =>
    have hleaf := fun phase => hP phase _ (.leaf hs hw hstep)
    cases hpurpose : walk.purpose with
    | fetch =>
      rw [hpurpose] at hleaf
      exact wakeNextCycle_enter_meets rfl hleaf
    | data insn plan =>
      rw [hpurpose] at hleaf
      exact wakeNextCycle_enter_meets rfl hleaf
  | pageFault => exact commitNext_meets fun phase => hP phase _ (.pageFault hs hw hstep)

lemma walkResponse_meets {msg : MemV1.MemMsg} {P : Phase → List Call → Rv32iCpu → Prop}
    {txn : TxnId} {walk : Walk} (hs : c.state = .walkWait txn walk) (htxn : txnOf msg = some txn)
    (hP : ∀ phase s, c.Answers msg s → P phase (s.wakes c.config.clock) (c.enter s)) :
    (c.walkResponse walk msg).Meets c P := by
  unfold walkResponse
  split
  · cases htxn
    split
    · exact fault_meets _
    · rename_i hw
      exact walked_some_meets hs hw hP
  · cases htxn
    exact commitNext_meets fun phase => hP phase _ (.walkRefused hs)
  · exact fault_meets _

lemma response_meets {msg : MemV1.MemMsg} {p : PortId}
    (hp : c.config.profile = .m1 ∨ p = port) :
    (c.response msg).Meets c fun phase calls c' =>
      c.Moves phase (.message p (.memV1 msg)) calls c' := by
  have hmoves (phase : Phase) (s : State) (ha : c.Answers msg s) :
      c.Moves .complete (.message p (.memV1 msg)) (s.wakes c.config.clock) (c.enter s) :=
    .answer hp ha
  have hexpecting {txn expected : TxnId} {next : Handler Rv32iCpu}
      (hnext : txn = expected → next.Meets c fun _ calls c' =>
        c.Moves .complete (.message p (.memV1 msg)) calls c') :
      (c.expecting txn expected next).Meets c fun phase calls c' =>
        c.Moves phase (.message p (.memV1 msg)) calls c' := by
    unfold expecting
    split_ifs with htxn
    · exact fault_meets _
    · exact .guardPhase (hnext (not_not.mp htxn))
  have hresponse {txn : TxnId} (htxn : txnOf msg = some txn) :
      Handler.Meets
        (match c.state with
        | .fetchWait expected _ => c.expecting txn expected (c.fetched msg)
        | .memWait expected insn plan pa => c.expecting txn expected (c.accessed insn plan pa msg)
        | .walkWait expected walk => c.expecting txn expected (c.walkResponse walk msg)
        | _ => c.fault "rv32 cpu: response with no transaction outstanding")
        c fun phase calls c' => c.Moves phase (.message p (.memV1 msg)) calls c' := by
    split
    · rename_i hs
      exact hexpecting fun h => fetched_meets hs (h ▸ htxn) hmoves
    · rename_i hs
      exact hexpecting fun h => accessed_meets hs (h ▸ htxn) hmoves
    · rename_i hs
      exact hexpecting fun h => walkResponse_meets hs (h ▸ htxn) hmoves
    · exact fault_meets _
  unfold response
  split
  · exact fault_meets _
  · exact fault_meets _
  · exact hresponse rfl
  · exact hresponse rfl

lemma irq_meets (msg : IrqMsg) (hp : c.config.profile ≠ .m1) :
    (c.irq msg).Meets c fun phase calls c' =>
      c.Moves phase (.message irqPort (.irq msg)) calls c' := by
  cases msg with
  | level asserted => exact .guardPhase (.ok fun _ => .irq hp)

lemma message_meets (p : PortId) (msg : Message) (hp : c.config.profile ≠ .m1) :
    (c.message p msg).Meets c fun phase calls c' => c.Moves phase (.message p msg) calls c' := by
  unfold message
  split_ifs with hport hirq
  · cases msg with
    | memV1 msg => exact response_meets (.inr hport)
    | _ => exact fault_meets _
  · subst hirq
    cases msg with
    | irq msg => exact irq_meets msg hp
    | _ => exact fault_meets _
  · exact fault_meets _

/-- Handling an event makes a move or leaves the CPU alone. -/
theorem handleEvent_meets (ev : Delivered) :
    (c.handleEvent ev).Meets c fun phase calls c' => c.Moves phase ev calls c' := by
  cases ev with
  | wake token => exact wake_meets token
  | message p msg =>
    unfold handleEvent
    dsimp only
    split
    · rename_i hprofile
      cases msg with
      | memV1 msg => exact response_meets (.inl hprofile)
      | _ => exact fault_meets _
    · rename_i hprofile
      exact message_meets p msg (by rw [hprofile]; decide)
    · rename_i hprofile
      exact message_meets p msg (by rw [hprofile]; decide)

/-! ## Every move is made -/

section Performs

variable (env : Surroundings) {c' : Rv32iCpu} {calls : List Call}

lemma perform_fetchNext {d : Rv32iCpu} :
    d.fetchNext.perform env = (d.fetchState.wakes d.config.clock, .ok (), d.resume) := by
  unfold fetchNext resume fetchState
  split_ifs <;> rfl

lemma perform_accessNext {insn : UInt32} {plan : MemoryPlan} :
    (c.accessNext insn plan).perform env =
      ((c.accessState insn plan).wakes c.config.clock, .ok (),
        c.enter (c.accessState insn plan)) := by
  unfold accessNext accessState
  split_ifs <;> rfl

lemma perform_wake_of_issues {token : UInt64} {msg : TxnId → MemV1.MemMsg}
    {waiting : TxnId → State} {next : UInt64} (hi : c.Issues token msg waiting)
    (hn : c.advanceTxn = some next) :
    (c.wake token).perform env =
      ([.sent port (.memV1 (msg c.nextTxn)) .now .request], .ok (),
        { c with nextTxn := next, state := waiting c.nextTxn }) := by
  cases hi with
  | fetch hs => simp [wake, hs, send, hn, Handler.perform]
  | memory hs => simp [wake, hs, send, hn, Handler.perform]
  | walk hs => simp [wake, hs, send, hn, Handler.perform]

lemma perform_response_of_answers {msg : MemV1.MemMsg} {s : State} (henv : env.phase = .complete)
    (ha : c.Answers msg s) :
    (c.response msg).perform env = (s.wakes c.config.clock, .ok (), c.enter s) := by
  cases ha with
  | done hs hw hstep =>
    simp [response, hs, expecting, henv, fetched, hw, hstep, commitNext, Handler.perform,
      State.wakes, enter]
  | access hs hw hstep =>
    simp [response, hs, expecting, henv, fetched, hw, hstep, perform_accessNext, Handler.perform]
  | fetchRefused hs =>
    simp [response, hs, expecting, henv, fetched, commitNext, Handler.perform, State.wakes, enter,
      Outcome.trap]
  | loaded hs hm =>
    rename_i outcome
    cases outcome <;>
      simp [response, hs, expecting, henv, accessed, completeMemory, hm, commitNext,
        Handler.perform, State.wakes, enter, ExecOutcome.keep]
  | stored hs =>
    rename_i written
    cases hm : completeStore _ written <;>
      simp [response, hs, expecting, henv, accessed, completeMemory, hm, commitNext,
        Handler.perform, State.wakes, enter, ExecOutcome.keep]
  | next hs hw hstep =>
    simp [response, hs, expecting, henv, walkResponse, hw, walked, hstep, wakeNextCycle,
      Handler.perform, State.wakes, enter]
  | leaf hs hw hstep =>
    rename_i walk _ _ _
    cases hpurpose : walk.purpose <;>
      simp [response, hs, expecting, henv, walkResponse, hw, walked, hstep, wakeNextCycle,
        Handler.perform, State.wakes, enter, hpurpose, Purpose.issue]
  | pageFault hs hw hstep =>
    rename_i walk _ _
    cases hpurpose : walk.purpose <;>
      simp [response, hs, expecting, henv, walkResponse, hw, walked, hstep, commitNext,
        Handler.perform, State.wakes, enter, Purpose.insn, Outcome.trap, hpurpose]
  | walkRefused hs =>
    rename_i walk
    cases hpurpose : walk.purpose <;>
      simp [response, hs, expecting, henv, walkResponse, walked, commitNext, Handler.perform,
        State.wakes, enter, Purpose.insn, Outcome.trap, hpurpose]

lemma perform_retired {d : Rv32iCpu} {fields : List (String × Value)} :
    (d.retired fields).perform env =
      if d.config.maxInstructions ≤ d.counted.instret then
        ([.traced commitKind fields, .traced haltKind [("instret", .u64 d.counted.instret)]],
          .ok (),
          d.counted.enter (.halted .instructionLimit))
      else
        (.traced commitKind fields :: d.counted.interruptRecord ++
          d.counted.sampled.fetchState.wakes d.config.clock, .ok (), d.counted.sampled.resume) := by
  rw [retired_eq]
  by_cases hl : d.config.maxInstructions ≤ d.counted.instret
  · rw [if_pos hl, if_pos hl]
    rfl
  · rw [if_neg hl, if_neg hl]
    have hconfig : d.counted.sampled.config = d.config := d.counted.sampled_frame.config
    unfold interruptRecord
    unfold sampled at hconfig ⊢
    cases hmei : d.counted.sampleMei with
    | none =>
      simp only [Handler.perform, perform_fetchNext]
      rfl
    | some taken =>
      rw [hmei] at hconfig
      simp only [Handler.perform, perform_fetchNext]
      rw [← hconfig]
      rfl

lemma perform_wake_of_commits (hc : c.Commits calls c') :
    (c.wake Token.commit).perform env = (calls, .ok (), c') := by
  have hwake {insn : Option UInt32} {outcome : Outcome} {pa : Option UInt64}
      (hs : c.state = .commitPending insn outcome pa) :
      c.wake Token.commit = c.commit insn outcome pa := by
    simp [wake, hs]
  have htrap {insn : Option UInt32} {trap : PendingTrap} {pa : Option UInt64}
      (hs : c.state = .commitPending insn (.exec (.trap trap)) pa) :
      c.wake Token.commit = c.commitTrap insn trap := hwake hs
  have hretire {insn : UInt32} {outcome : Outcome} {pa : Option UInt64} {d : Rv32iCpu}
      {fields : List (String × Value)} (hs : c.state = .commitPending (some insn) outcome pa)
      (hr : c.retire insn outcome pa = (d, .ok fields)) :
      c.wake Token.commit = d.retired fields := by
    rw [hwake hs]
    unfold commit
    split
    · cases hr
    · dsimp only
      rw [hr]
  cases hc with
  | halt hs hd =>
    rw [htrap hs, commitTrap_eq, hd]
    rfl
  | exception hs hd =>
    rw [htrap hs, commitTrap_eq, hd]
    simp only [Handler.perform, perform_fetchNext]
    rfl
  | limit hs hr hl => rw [hretire hs hr, perform_retired, if_pos hl]
  | retire hs hr hl => rw [hretire hs hr, perform_retired, if_neg hl]

lemma handleEvent_message {p : PortId} {msg : MemV1.MemMsg}
    (hp : c.config.profile = .m1 ∨ p = port) :
    c.handleEvent (.message p (.memV1 msg)) = c.response msg := by
  unfold handleEvent
  dsimp only
  split
  · rfl
  all_goals
    rename_i hprofile
    obtain rfl := hp.resolve_left (by rw [hprofile]; decide)
    rfl

lemma handleEvent_irq {msg : IrqMsg} (hp : c.config.profile ≠ .m1) :
    c.handleEvent (.message irqPort (.irq msg)) = c.irq msg := by
  unfold handleEvent
  dsimp only
  split
  · rename_i hprofile
    exact absurd hprofile hp
  · rfl
  · rfl

lemma perform_of_moves {ev : Delivered} (h : c.Moves env.phase ev calls c') :
    (c.handleEvent ev).perform env = (calls, .ok (), c') := by
  generalize hphase : env.phase = phase at h
  cases h with
  | issue hi hn => exact perform_wake_of_issues env hi hn
  | answer hp ha =>
    rw [handleEvent_message hp]
    exact perform_response_of_answers env hphase ha
  | irq hp =>
    rw [handleEvent_irq hp]
    simp [irq, Handler.perform, hphase]
  | commit hc => exact perform_wake_of_commits env hc

/-- The moves are what the handlers do when their calls succeed. -/
theorem perform_handleEvent_iff {ev : Delivered} :
    (c.handleEvent ev).perform env = (calls, .ok (), c') ↔ c.Moves env.phase ev calls c' :=
  ⟨(handleEvent_meets ev).performs env calls c', perform_of_moves env⟩

end Performs

/-- Whatever the calls of a handler are answered, it moves or leaves the CPU alone. -/
theorem eq_or_moves_of_ends {ev : Delivered} {c' : Rv32iCpu} (h : (c.handleEvent ev).Ends c') :
    c' = c ∨ ∃ phase calls, c.Moves phase ev calls c' :=
  (handleEvent_meets ev).ends c' h

lemma eq_of_init_ends {c' : Rv32iCpu} (h : c.init.Ends c') : c' = c := by
  cases h with
  | wakeSelf _ h =>
    cases h
    rfl

end Rv32iCpu

end SystemScope.Rv32i
