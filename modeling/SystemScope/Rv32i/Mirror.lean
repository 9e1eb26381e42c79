import SystemScope.Contracts.Calls
import SystemScope.Framework.Integers
import SystemScope.Rv32i.Progress
import SystemScope.Rv32i.Translation

/-!
# The same CPU in another profile

No decoder of the other profiles accepts an RV32I instruction, and each executes the same in every
profile in M-mode (`step_of_decode`).  So a CPU of the `M1` profile and the same CPU in another one,
with its CSRs at reset but for the level of the line, handle every event alike (`alike_wake`,
`alike_response`), until the other one has run out of transactions.
-/

namespace SystemScope.Rv32i

/-! ## Disjoint decoders -/

lemma decodePrivileged_of_decode {word : UInt32} {instr : Instr} (h : decode word = .ok instr) :
    decodePrivileged word = none := by
  cases hprivileged : decodePrivileged word with
  | none => rfl
  | some priv =>
    rcases word_of_decode (opcode_of_decodePrivileged hprivileged) h with rfl | rfl
    · cases hprivileged
    · cases hprivileged

lemma decodeSupervisor_of_decode {word : UInt32} {instr : Instr} (h : decode word = .ok instr) :
    decodeSupervisor word = none := by
  cases hsupervisor : decodeSupervisor word with
  | none => rfl
  | some supervisor =>
    rcases word_of_decode (opcode_of_decodeSupervisor hsupervisor) h with rfl | rfl
    · cases hsupervisor
    · cases hsupervisor

/-- `SRET` and `SFENCE.VMA` have the minor opcode 0, and are not `MRET`. -/
lemma decodeSupervisor_of_decodePrivileged {word : UInt32} {instr : PrivInstr}
    (h : decodePrivileged word = some instr) : decodeSupervisor word = none := by
  have hminor : word ≠ sretWord ∧ word &&& 0xFE007FFF ≠ 0x12000073 := by
    unfold decodePrivileged at h
    by_cases hmret : word = mretWord
    · rw [hmret]
      decide
    · rw [if_neg hmret] at h
      obtain ⟨-, h⟩ := Option.ite_none_left_eq_some.mp h
      obtain ⟨op, hop, -⟩ := Option.map_eq_some_iff.mp h
      refine ⟨?_, ?_⟩
      · rintro rfl
        cases hop
      · intro hsfence
        have hwindow : (word &&& 0x7000).toNat = word.toNat / 2 ^ 12 % 2 ^ 3 * 2 ^ 12 :=
          @UInt32.toNat_and_window word 12 3 (by omega)
        have hzero : word &&& 0x7000 = 0 := by
          have hmask : word &&& 0x7000 = word &&& 0xFE007FFF &&& 0x7000 := by
            rw [UInt32.and_assoc]
            rfl
          rw [hmask, hsfence]
          rfl
        have hfield : (word >>> 12 &&& 0x7).toNat = word.toNat / 2 ^ 12 % 2 ^ 3 :=
          @UInt32.toNat_field word 12 3 (by omega) (by omega)
        have hfunct3 : word >>> 12 &&& 0x7 = 0 := by
          rw [hzero] at hwindow
          rw [← UInt32.toNat_inj, hfield]
          change 0 = _ at hwindow
          change _ = 0
          omega
        rw [hfunct3] at hop
        cases hop
  unfold decodeSupervisor
  rw [if_neg hminor.1, if_neg hminor.2]

/-- An RV32I instruction executes the same in every profile, in M-mode. -/
lemma step_of_decode {word : UInt32} {instr : Instr} (h : decode word = .ok instr) (pc : UInt32)
    (regs : RegisterFile) :
    step .m2 word pc regs = step .m1 word pc regs ∧
      step (.m3 .machine) word pc regs = step .m1 word pc regs := by
  have hm2 : step .m2 word pc regs = stepBase .m2 word pc regs := by
    unfold step
    dsimp only
    rw [decodePrivileged_of_decode h]
  have hm3 : step (.m3 .machine) word pc regs = stepBase (.m3 .machine) word pc regs := by
    unfold step privilegedM3
    dsimp only
    rw [decodePrivileged_of_decode h, decodeSupervisor_of_decode h]
    rfl
  rw [hm2, hm3]
  unfold step stepBase
  dsimp only
  rw [h]
  dsimp only
  cases instr <;> exact ⟨rfl, rfl⟩

/-! ## The same CPU in another profile -/

/-- A state of the `M1` profile: there are no walks, and no privileged instruction to commit. -/
def State.Plain : State → Prop
  | .walkIssue _ => False
  | .walkWait _ _ => False
  | .commitPending _ (.exec _) _ => True
  | .commitPending _ _ _ => False
  | _ => True

namespace Rv32iCpu

/-- A CPU in another profile, with the CSRs as they are at reset but for the level of the line. -/
def mirror (c : Rv32iCpu) (p : Rv32iProfile) (irqLevel : Bool) : Rv32iCpu :=
  { c with
    config := { c.config with profile := p }
    csrs := { CsrFile.new with irqLevel }
    m3 := .new }

/-- The second CPU is the first one, of the `M1` profile, in the profile `p`. -/
structure Mirrors (p : Rv32iProfile) (c d : Rv32iCpu) : Prop where
  m1 : c.config.profile = .m1
  plain : c.state.Plain
  eq : ∃ irqLevel, d = c.mirror p irqLevel

variable {p : Rv32iProfile} {c d : Rv32iCpu}

lemma mirrors_mirror (h : c.config.profile = .m1) (hs : c.state.Plain) (irqLevel : Bool) :
    Mirrors p c (c.mirror p irqLevel) := ⟨h, hs, irqLevel, rfl⟩

lemma translating_of_m1 (h : c.config.profile = .m1) : c.translating = false := by
  unfold translating
  rw [h]
  rfl

lemma translating_mirror (irqLevel : Bool) : (c.mirror p irqLevel).translating = false := by
  cases p <;> rfl

lemma step_isa_mirror (irqLevel : Bool) (hm1 : c.config.profile = .m1) {word : UInt32}
    {instr : Instr}
    (h : decode word = .ok instr) (pc : UInt32) (regs : RegisterFile) :
    step (c.mirror p irqLevel).isa word pc regs = step c.isa word pc regs := by
  have hc : c.isa = .m1 := by
    unfold isa
    rw [hm1]
  rw [hc]
  cases p with
  | m1 => rfl
  | m2 => exact (step_of_decode h pc regs).1
  | m3 => exact (step_of_decode h pc regs).2

lemma plain_commit {word : UInt32} {outcome : Outcome} {pc : UInt32} {regs : RegisterFile}
    (h : step .m1 word pc regs = .done outcome) (insn : Option UInt32) (pa : Option UInt64) :
    (State.commitPending insn outcome pa).Plain := by
  obtain ⟨o, rfl⟩ := exec_of_stepBase h
  trivial

section

variable (hm1 : c.config.profile = .m1) (irqLevel : Bool)

include hm1

lemma alike_fault (hs : c.state.Plain) (what : String) :
    Handler.Alike (Mirrors p) (c.fault what) ((c.mirror p irqLevel).fault what) :=
  .done (mirrors_mirror hm1 hs irqLevel)

lemma alike_fetchNext : Handler.Alike (Mirrors p) c.fetchNext (c.mirror p irqLevel).fetchNext := by
  unfold fetchNext
  rw [translating_of_m1 hm1, translating_mirror, if_neg Bool.false_ne_true,
    if_neg Bool.false_ne_true]
  exact .wakeSelf fun _ => .done ⟨hm1, trivial, irqLevel, rfl⟩

lemma alike_accessNext (insn : UInt32) (plan : MemoryPlan) :
    Handler.Alike (Mirrors p) (c.accessNext insn plan)
      ((c.mirror p irqLevel).accessNext insn plan) := by
  unfold accessNext
  rw [translating_of_m1 hm1, translating_mirror, if_neg Bool.false_ne_true,
    if_neg Bool.false_ne_true]
  exact .wakeSelf fun _ => .done ⟨hm1, trivial, irqLevel, rfl⟩

lemma alike_commitNext {insn : Option UInt32} {outcome : Outcome} {pa : Option UInt64}
    (hs : (State.commitPending insn outcome pa).Plain) :
    Handler.Alike (Mirrors p) (c.commitNext insn outcome pa)
      ((c.mirror p irqLevel).commitNext insn outcome pa) :=
  .wakeSelf fun _ => .done ⟨hm1, hs, irqLevel, rfl⟩

lemma alike_commitTrap (insn : Option UInt32) (t : PendingTrap) :
    Handler.Alike (Mirrors p) (c.commitTrap insn t) ((c.mirror p irqLevel).commitTrap insn t) := by
  have hd : (if (c.mirror p irqLevel).config.profile = .m3 then
      (c.mirror p irqLevel).m3.takeException t.cause (c.mirror p irqLevel).pc t.tval
        else none) = none := by
    cases p <;> rfl
  unfold commitTrap
  rw [hd, hm1]
  exact .trace (.done ⟨hm1, trivial, irqLevel, rfl⟩)

lemma alike_retired (fields fields' : List (String × Value)) :
    Handler.Alike (Mirrors p) (c.retired fields) ((c.mirror p irqLevel).retired fields') := by
  have hsample : c.counted.sampleMei = none := by
    unfold sampleMei counted
    dsimp only
    rw [hm1]
  have hsample' : (c.counted.mirror p irqLevel).sampleMei = none := by
    cases p <;> cases irqLevel <;> rfl
  have hcounted : c.counted.config.profile = .m1 := hm1
  rw [retired_eq c, retired_eq (c.mirror p irqLevel), hsample,
    show (c.mirror p irqLevel).counted = c.counted.mirror p irqLevel from rfl, hsample']
  refine .trace ?_
  by_cases hlimit : c.config.maxInstructions ≤ c.counted.instret
  · have hlimit' :
      (c.mirror p irqLevel).config.maxInstructions ≤ (c.counted.mirror p irqLevel).instret := hlimit
    rw [if_pos hlimit, if_pos hlimit']
    exact .trace (.done ⟨hcounted, trivial, irqLevel, rfl⟩)
  · have hlimit' : ¬(c.mirror p irqLevel).config.maxInstructions ≤
      (c.counted.mirror p irqLevel).instret := hlimit
    rw [if_neg hlimit, if_neg hlimit']
    exact alike_fetchNext hcounted irqLevel

lemma alike_commit {insn : Option UInt32} {outcome : Outcome} {pa : Option UInt64}
    (hs : c.state.Plain)
    (hplain : (State.commitPending insn outcome pa).Plain) :
    Handler.Alike (Mirrors p) (c.commit insn outcome pa)
      ((c.mirror p irqLevel).commit insn outcome pa) := by
  cases outcome with
  | exec o =>
    cases o with
    | trap t => exact alike_commitTrap hm1 irqLevel insn t
    | effect effect =>
      cases insn with
      | none => exact alike_fault hm1 irqLevel hs _
      | some insn =>
        exact @alike_retired p { c with
          regs := effect.regWrite.elim c.regs fun w => c.regs.write w.rd w.value
          pc := effect.nextPc } hm1 irqLevel _ _
  | _ => exact hplain.elim

lemma alike_fetched (hs : c.state.Plain) (msg : MemV1.MemMsg)
    (hdecode : ∀ txn data word, msg = .readResp txn (.data data) → wordOfBytes data = some word →
      ∃ instr, decode word = .ok instr) :
    Handler.Alike (Mirrors p) (c.fetched msg) ((c.mirror p irqLevel).fetched msg) := by
  cases msg with
  | readResp txn outcome =>
    cases outcome with
    | fault f =>
      cases f
      exact alike_commitNext hm1 irqLevel trivial
    | data data =>
      unfold fetched
      dsimp only
      cases hword : wordOfBytes data with
      | none => exact alike_fault hm1 irqLevel hs _
      | some word =>
        obtain ⟨instr, hinstr⟩ := hdecode txn data word rfl hword
        have hstep : step (c.mirror p irqLevel).isa word (c.mirror p irqLevel).pc
          (c.mirror p irqLevel).regs =
            step c.isa word c.pc c.regs := step_isa_mirror irqLevel hm1 hinstr c.pc c.regs
        have hisa : c.isa = .m1 := by
          unfold isa
          rw [hm1]
        dsimp only
        rw [hstep]
        cases hdone : step c.isa word c.pc c.regs with
        | done outcome =>
          rw [hisa] at hdone
          exact alike_commitNext hm1 irqLevel (plain_commit hdone _ _)
        | memory plan => exact alike_accessNext hm1 irqLevel word plan
  | _ => exact alike_fault hm1 irqLevel hs _

lemma alike_accessed (hs : c.state.Plain) (insn : UInt32) (plan : MemoryPlan) (pa : Option UInt64)
    (msg : MemV1.MemMsg) :
    Handler.Alike (Mirrors p) (c.accessed insn plan pa msg)
      ((c.mirror p irqLevel).accessed insn plan pa msg) := by
  unfold accessed
  cases completeMemory plan msg with
  | error e => exact .done (mirrors_mirror hm1 hs irqLevel)
  | ok outcome => exact alike_commitNext hm1 irqLevel trivial

lemma alike_expecting (hs : c.state.Plain) (txn expected : TxnId) {next next' : Handler Rv32iCpu}
    (h : Handler.Alike (Mirrors p) next next') :
    Handler.Alike (Mirrors p) (c.expecting txn expected next)
      ((c.mirror p irqLevel).expecting txn expected next') := by
  unfold expecting
  by_cases htxn : txn ≠ expected
  · rw [if_pos htxn, if_pos htxn]
    exact alike_fault hm1 irqLevel hs _
  · rw [if_neg htxn, if_neg htxn]
    refine .phase fun phase => ?_
    by_cases hphase : phase ≠ .complete
    · rw [if_pos hphase, if_pos hphase]
      exact alike_fault hm1 irqLevel hs _
    · rw [if_neg hphase, if_neg hphase]
      exact h

/-- The response of a fetch gives a word that is an RV32I instruction. -/
def FetchesDecode (c : Rv32iCpu) (msg : MemV1.MemMsg) : Prop :=
  ∀ expected pa txn data word, c.state = .fetchWait expected pa → msg = .readResp txn (.data data) →
    wordOfBytes data = some word → ∃ instr, decode word = .ok instr

lemma alike_answered (hs : c.state.Plain) (msg : MemV1.MemMsg) (hdecode : c.FetchesDecode msg)
    (txn : TxnId) : Handler.Alike (Mirrors p)
      (match c.state with
        | .fetchWait expected _ => c.expecting txn expected (c.fetched msg)
        | .memWait expected insn plan pa => c.expecting txn expected (c.accessed insn plan pa msg)
        | .walkWait expected walk => c.expecting txn expected (c.walkResponse walk msg)
        | _ => c.fault "rv32 cpu: response with no transaction outstanding")
      (match (c.mirror p irqLevel).state with
        | .fetchWait expected _ =>
          (c.mirror p irqLevel).expecting txn expected ((c.mirror p irqLevel).fetched msg)
        | .memWait expected insn plan pa =>
          (c.mirror p irqLevel).expecting txn expected
            ((c.mirror p irqLevel).accessed insn plan pa msg)
        | .walkWait expected walk =>
          (c.mirror p irqLevel).expecting txn expected ((c.mirror p irqLevel).walkResponse walk msg)
        | _ => (c.mirror p irqLevel).fault
          "rv32 cpu: response with no transaction outstanding") := by
  rw [show (c.mirror p irqLevel).state = c.state from rfl]
  cases hstate : c.state with
  | fetchWait expected pa =>
    exact alike_expecting hm1 irqLevel hs _ _
      (alike_fetched hm1 irqLevel hs msg fun txn data word =>
        hdecode expected pa txn data word hstate)
  | memWait expected insn plan pa =>
    exact alike_expecting hm1 irqLevel hs _ _ (alike_accessed hm1 irqLevel hs insn plan pa msg)
  | walkWait =>
    rw [hstate] at hs
    exact hs.elim
  | _ => exact alike_fault hm1 irqLevel hs _

lemma alike_response (hs : c.state.Plain) (msg : MemV1.MemMsg) (hdecode : c.FetchesDecode msg) :
    Handler.Alike (Mirrors p) (c.response msg) ((c.mirror p irqLevel).response msg) := by
  cases msg with
  | readReq | writeReq => exact alike_fault hm1 irqLevel hs _
  | readResp txn outcome => exact alike_answered hm1 irqLevel hs _ hdecode txn
  | writeResp txn outcome => exact alike_answered hm1 irqLevel hs _ hdecode txn

/-- A request goes out the same, unless the other profile has run out of numbers. -/
lemma alike_send (hs : c.state.Plain) (msg : TxnId → MemV1.MemMsg) (waiting : TxnId → State)
    (hplain : ∀ txn, (waiting txn).Plain) :
    Handler.Alike (Mirrors p) (c.send msg waiting) ((c.mirror p irqLevel).send msg waiting) ∨
      c.nextTxn = UInt64.ofNat (2 ^ 64 - 1) ∧
        (c.mirror p irqLevel).send msg waiting =
          (c.mirror p irqLevel).fault "rv32 cpu: TxnId space exhausted" := by
  have hsent {next : UInt64} (h : (c.mirror p irqLevel).advanceTxn = some next)
    (hnext : next = c.nextTxn + 1) :
      Handler.Alike (Mirrors p) (c.send msg waiting) ((c.mirror p irqLevel).send msg waiting) := by
    have hadvance : c.advanceTxn = some next := by
      unfold advanceTxn
      rw [hm1, hnext]
    unfold send
    dsimp only
    rw [hadvance, h]
    refine .send fun r => ?_
    cases r with
    | error e => exact .done (mirrors_mirror hm1 hs irqLevel)
    | ok => exact .done ⟨hm1, hplain _, irqLevel, rfl⟩
  by_cases hmax : c.nextTxn = UInt64.ofNat (2 ^ 64 - 1)
  · cases p with
    | m1 => exact .inl (hsent rfl rfl)
    | m2 | m3 =>
      refine .inr ⟨hmax, ?_⟩
      unfold send advanceTxn mirror
      dsimp only
      rw [if_pos hmax]
  · cases p with
    | m1 => exact .inl (hsent rfl rfl)
    | m2 | m3 =>
      refine .inl (hsent ?_ rfl)
      unfold advanceTxn mirror
      dsimp only
      rw [if_neg hmax]

/-- Every event is handled alike, unless it asks for a request and the numbers have run out. -/
lemma alike_wake (hs : c.state.Plain) (token : UInt64) :
    Handler.Alike (Mirrors p) (c.wake token) ((c.mirror p irqLevel).wake token) ∨
      c.nextTxn = UInt64.ofNat (2 ^ 64 - 1) ∧
        (∃ msg waiting, (∀ txn, requestTxn (msg txn) = some txn) ∧
          c.wake token = c.send msg waiting) ∧
        (c.mirror p irqLevel).wake token =
          (c.mirror p irqLevel).fault "rv32 cpu: TxnId space exhausted" := by
  have hmismatched :=
    alike_fault (p := p) hm1 irqLevel hs "rv32 cpu: wake does not match the execution state"
  unfold wake
  dsimp only
  rw [show (c.mirror p irqLevel).state = c.state from rfl]
  cases hstate : c.state with
  | fetchIssue pa =>
    dsimp only
    by_cases htoken : token = Token.fetch
    · rw [if_pos htoken, if_pos htoken]
      rcases alike_send (p := p) hm1 irqLevel hs (fun txn => .readReq txn (pa.getD c.pc.toUInt64) 4)
        (fun txn => .fetchWait txn pa) (fun _ => trivial) with h | ⟨hmax, h⟩
      · exact .inl h
      · exact .inr ⟨hmax, ⟨_, _, fun _ => rfl, rfl⟩, h⟩
    · rw [if_neg htoken, if_neg htoken]
      exact .inl hmismatched
  | memIssue insn plan pa =>
    dsimp only
    by_cases htoken : token = Token.memory
    · rw [if_pos htoken, if_pos htoken]
      rcases alike_send (p := p) hm1 irqLevel hs
        (planRequest plan (pa.getD (planAddr plan).toUInt64))
        (fun txn => .memWait txn insn plan pa) (fun _ => trivial) with h | ⟨hmax, h⟩
      · exact .inl h
      · exact .inr ⟨hmax, ⟨_, _, fun _ => by cases plan <;> rfl, rfl⟩, h⟩
    · rw [if_neg htoken, if_neg htoken]
      exact .inl hmismatched
  | walkIssue walk =>
    rw [hstate] at hs
    exact hs.elim
  | commitPending insn outcome pa =>
    dsimp only
    by_cases htoken : token = Token.commit
    · rw [if_pos htoken, if_pos htoken]
      have hplain := hs
      rw [hstate] at hplain
      exact .inl (alike_commit hm1 irqLevel hs hplain)
    · rw [if_neg htoken, if_neg htoken]
      exact .inl hmismatched
  | _ => exact .inl hmismatched

end

end Rv32iCpu

end SystemScope.Rv32i
