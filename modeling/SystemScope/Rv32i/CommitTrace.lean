import SystemScope.Rv32i.Precise
import SystemScope.Rv32i.Protocol

/-!
# The commit trace is faithful

The `rv32.commit` record of an instruction is computed when it commits, from the state before it,
and not from the request it sent.  The two agree all the same: over every run from reset, the
records add up to the register file, each starts at the `pc` the one before it led to, and a load or
store is recorded with the address, width and value of the one data request it sent
(`run_commit_trace`).

The trail of a run is read off its log: one `Commit` for each `commit` wake, with the CPU before and
after it, the data requests since the last one, and its records.
-/

namespace SystemScope.Rv32i

/-- A trace record: its kind and its fields. -/
abbrev Record := String × List (String × Value)

/-- A `commit` wake in a run. -/
structure Commit where
  /-- The CPU after the commit before this one. -/
  before : Rv32iCpu
  /-- The data requests that were sent since. -/
  data : List MemV1.MemMsg
  records : List Record
  after : Rv32iCpu

/-- What is read off a log. -/
structure Trail where
  commits : List Commit
  /-- The CPU after the last commit. -/
  cpu : Rv32iCpu
  /-- The last request. -/
  last : Option MemV1.MemMsg
  /-- The data requests since the last commit. -/
  data : List MemV1.MemMsg
  /-- The records since the last commit. -/
  records : List Record

namespace Trail

def start (c : Rv32iCpu) : Trail where
  commits := []
  cpu := c
  last := none
  data := []
  records := []

def record (t : Trail) : Entry → Trail
  | .sent msg => { t with last := some msg }
  | .woke token => if token = Token.memory then { t with data := t.data ++ t.last.toList } else t
  | .traced kind fields => { t with records := t.records ++ [(kind, fields)] }
  | .level _ => t
  | .committed c =>
    { commits := t.commits ++
        [{ before := t.cpu, data := t.data, records := t.records, after := c }]
      cpu := c
      last := none
      data := []
      records := [] }

end Trail

/-- The trail of a run that started with the CPU `c`. -/
def trail (c : Rv32iCpu) (log : List Entry) : Trail := log.foldl .record (.start c)

lemma trail_append (c : Rv32iCpu) (log entries : List Entry) :
    trail c (log ++ entries) = entries.foldl .record (trail c log) := by
  simp [trail]

/-- A register file after a record: a commit writes `rd_value` to `rd`, unless that is 0. -/
def replay (regs : RegisterFile) (record : Record) : RegisterFile :=
  if record.1 = commitKind then
    match record.2.lookup "rd", record.2.lookup "rd_value" with
    | some (.u64 rd), some (.u64 value) =>
      if rd = 0 then regs
      else (Reg.new rd.toUInt8).elim regs fun reg => regs.write reg value.toUInt32
    | _, _ => regs
  else regs

/-- The record of a load or store, against the instruction and its data request. -/
structure AccessRecorded (b : Commit) (fields : List (String × Value)) (plan : MemoryPlan) :
    Prop where
  addr : fields.lookup "addr" = some (.u64 (planAddr plan).toUInt64)
  request : ∃ txn pa, b.data = [Rv32iCpu.planRequest plan pa txn] ∧
    (b.before.config.profile = .m3 → fields.lookup "paddr" = some (.u64 pa)) ∧
    (b.before.config.profile ≠ .m3 → pa = (planAddr plan).toUInt64)
  store : ∀ store, plan = .store store →
    fields.lookup "width" = some (.u64 (UInt64.ofNat store.data.length)) ∧
      ∃ value, fields.lookup "value" = some (.u64 value) ∧
        value.toNat = Nat.ofDigits 256 (store.data.map UInt8.toNat)

/-- The record of an instruction that retired and went on at `next`. -/
structure CommitRecorded (b : Commit) (fields : List (String × Value)) (next : UInt32) : Prop where
  pc : fields.lookup "pc" = some (.u64 b.before.pc.toUInt64)
  nextPc : fields.lookup "next_pc" = some (.u64 next.toUInt64)
  regs : replay b.before.regs (commitKind, fields) = b.after.regs
  /-- Its word, and the access of a load or store; nothing else has sent a data request. -/
  insn : ∃ word, fields.lookup "insn" = some (.u64 word.toUInt64) ∧
    (∀ plan, step b.before.isa word b.before.pc b.before.regs = .memory plan →
      AccessRecorded b fields plan) ∧
    ∀ outcome, step b.before.isa word b.before.pc b.before.regs = .done outcome → b.data = []

/-- The records of a commit, against the CPU before and after it. -/
inductive Recorded (b : Commit) : Prop
  | trap {fields : List (String × Value)} (hrecords : b.records = [(trapKind, fields)])
      (hregs : b.after.regs = b.before.regs) (hhalt : b.after.halt ≠ none)
  | exception {fields : List (String × Value)} (hrecords : b.records = [(exceptionKind, fields)])
      (hregs : b.after.regs = b.before.regs) (hpc : b.after.pc = b.after.m3.stvec)
  | limit {fields halt : List (String × Value)}
      (hrecords : b.records = [(commitKind, fields), (haltKind, halt)])
      (hcommit : CommitRecorded b fields b.after.pc) (hhalt : b.after.halt ≠ none)
  | retire {fields : List (String × Value)} (hrecords : b.records = [(commitKind, fields)])
      (hcommit : CommitRecorded b fields b.after.pc)
  | interrupt {fields taken : List (String × Value)} {next : UInt32}
      (hrecords : b.records = [(commitKind, fields), (interruptKind, taken)])
      (hcommit : CommitRecorded b fields next)
      (hmepc : taken.lookup "mepc" = some (.u64 next.toUInt64) ∧ b.after.csrs.mepc = next)
      (hhandler : taken.lookup "handler" = some (.u64 b.after.pc.toUInt64))

/-! ## The fields of a commit record -/

namespace Rv32iCpu

variable {c : Rv32iCpu} {word : UInt32} {effect : PendingEffect} {pa : Option UInt64}
  {more : List (String × Value)}

/-- Replaying a record does what the instruction did to the registers. -/
lemma replay_commitFields (regs : RegisterFile) :
    replay regs (commitKind, c.commitFields word effect pa ++ more) =
      effect.regWrite.elim regs fun w => regs.write w.rd w.value := by
  have hrd : (c.commitFields word effect pa ++ more).lookup "rd" = some (.u64
      ((effect.regWrite.filter fun w => w.rd ≠ .zero).elim (0 : UInt8) fun w =>
        w.rd.index).toUInt64) :=
    rfl
  have hvalue : (c.commitFields word effect pa ++ more).lookup "rd_value" = some (.u64
      ((effect.regWrite.filter fun w => w.rd ≠ .zero).elim (0 : UInt32) fun w =>
        w.value).toUInt64) :=
    rfl
  unfold replay
  rw [if_pos rfl]
  simp only [hrd, hvalue]
  cases effect.regWrite with
  | none => rfl
  | some w =>
    by_cases hzero : w.rd = .zero
    · simp [Option.filter, hzero, RegisterFile.write_zero]
    · have hindex : w.rd.index ≠ 0 := fun h => hzero (Reg.ext_toNat (congrArg UInt8.toNat h))
      have hindex' : w.rd.index.toUInt64 ≠ 0 :=
        fun h => hindex (by simpa using congrArg UInt64.toUInt8 h)
      simp [Option.filter, hzero, hindex']

variable (effect pa more)

/-- The record of a load: its addresses. -/
lemma lookup_load {plan : LoadPlan} (hstep : step c.isa word c.pc c.regs = .memory (.load plan)) :
    (c.commitFields word effect pa ++ more).lookup "addr" = some (.u64 plan.addr.toUInt64) ∧
      (c.config.profile = .m3 →
        (c.commitFields word effect pa ++ more).lookup "paddr" =
          some (.u64 (pa.getD plan.addr.toUInt64))) := by
  unfold commitFields
  simp only [hstep]
  cases hprofile : c.config.profile with
  | m1 | m2 =>
    simp only [isa, hprofile]
    exact ⟨rfl, fun h => by cases h⟩
  | m3 =>
    simp only [isa_of_m3 hprofile]
    exact ⟨rfl, fun _ => rfl⟩

lemma lookup_store {plan : StorePlan}
    (hstep : step c.isa word c.pc c.regs = .memory (.store plan)) :
    (c.commitFields word effect pa ++ more).lookup "addr" = some (.u64 plan.addr.toUInt64) ∧
      (c.config.profile = .m3 →
        (c.commitFields word effect pa ++ more).lookup "paddr" =
          some (.u64 (pa.getD plan.addr.toUInt64))) ∧
      (c.commitFields word effect pa ++ more).lookup "width" =
        some (.u64 (UInt64.ofNat plan.data.length)) ∧
      (c.commitFields word effect pa ++ more).lookup "value" =
        some (.u64 (plan.data.reverse.foldl (fun v b => (v <<< 8) ||| b.toUInt64) 0)) := by
  unfold commitFields
  simp only [hstep]
  cases hprofile : c.config.profile with
  | m1 | m2 =>
    simp only [isa, hprofile]
    exact ⟨rfl, (fun h => by cases h), rfl, rfl⟩
  | m3 =>
    simp only [isa_of_m3 hprofile]
    exact ⟨rfl, fun _ => rfl, rfl, rfl⟩

end Rv32iCpu

/-! ## What a retirement records -/

/-- A store has at most four bytes. -/
lemma length_data_of_step {isa : Isa} {word pc : UInt32} {regs : RegisterFile} {plan : StorePlan}
    (h : step isa word pc regs = .memory (.store plan)) : plan.data.length ≤ 4 := by
  have hbase := stepBase_of_step h
  unfold stepBase at hbase
  split at hbase
  · cases hbase
  · rename_i instr _
    have hfamily := Option.eq_some_iff_get_eq.mpr ⟨_, hbase⟩
    cases instr with
    | store op =>
      simp only [family, prepareMemory, Option.map_some, Option.some.injEq] at hfamily
      split at hfamily
      · rename_i halign
        cases hfamily
        cases align_eq_request halign
        exact List.length_take_le' _ _
      · cases hfamily
    | load op =>
      simp only [family, prepareMemory, Option.map_some, Option.some.injEq] at hfamily
      split at hfamily
      · rename_i halign
        cases hfamily
        cases align_eq_request halign
      · cases hfamily
    | branch op =>
      simp only [family, executeControl] at hfamily
      split_ifs at hfamily <;> cases hfamily
    | _ => cases hfamily

namespace Rv32iCpu

variable {c d : Rv32iCpu} {insn : UInt32} {outcome : Outcome} {pa : Option UInt64}
  {fields : List (String × Value)}

/-- The record of a retirement is that of an effect that leads to the CPU after it.  Only an effect
can be that of a load or store. -/
lemma Retires.recorded (hs : Consistent c.isa c.translating c.pc c.regs (some insn) outcome)
    (h : c.Retires insn pa outcome d fields) :
    ∃ effect kept more, fields = c.commitFields insn effect kept ++ more ∧ effect.nextPc = d.pc ∧
      d.regs = (effect.regWrite.elim c.regs fun w => c.regs.write w.rd w.value) ∧
      ∀ plan, step c.isa insn c.pc c.regs = .memory plan →
        kept = pa ∧ outcome = .exec (.effect effect) := by
  have hdone (hnot : ∀ o, outcome ≠ .exec o) (effect : PendingEffect) (plan : MemoryPlan)
      (hstep : step c.isa insn c.pc c.regs = .memory plan) :
      none = pa ∧ outcome = .exec (.effect effect) := by
    cases hs with
    | done h => cases hstep.symm.trans h
    | loaded | stored | fault => exact absurd rfl (hnot _)
  cases h with
  | effect hpc =>
    exact ⟨_, pa, [], (List.append_nil _).symm, rfl, rfl, fun plan hstep => ⟨rfl, rfl⟩⟩
  | csr hm1 hpc hm3 hread hwrite =>
    refine ⟨_, none, _, rfl, rfl, ?_, hdone (by simp) _⟩
    split_ifs at hwrite
    · rw [(writeCsr_frame hwrite).2.2]
      rfl
    · cases hwrite
      rfl
  | mret =>
    refine ⟨_, none, [], (List.append_nil _).symm, ?_, ?_, hdone (by simp) _⟩
    · unfold Rv32iCpu.mret
      split <;> rfl
    · unfold Rv32iCpu.mret
      split <;> rfl
  | sret => exact ⟨_, none, [], (List.append_nil _).symm, rfl, rfl, hdone (by simp) _⟩

end Rv32iCpu

/-! ## The data requests of an instruction -/

namespace Rv32iCpu

/-- The data requests that the instruction under way has sent: one for a load or store whose
response is awaited or has come, and none otherwise. -/
def DataFits (c : Rv32iCpu) (data : List MemV1.MemMsg) : Prop :=
  match c.state with
  | .memWait txn _ plan pa => data = [planRequest plan (pa.getD (planAddr plan).toUInt64) txn]
  | .commitPending insn outcome pa =>
    ∀ word, insn = some word →
      (∀ plan effect, step c.isa word c.pc c.regs = .memory plan →
        outcome = .exec (.effect effect) →
        ∃ txn, data = [planRequest plan (pa.getD (planAddr plan).toUInt64) txn]) ∧
      ∀ done, step c.isa word c.pc c.regs = .done done → data = []
  | .halted _ => True
  | _ => data = []

variable {c d : Rv32iCpu} {data : List MemV1.MemMsg}

/-- Only the wake of a load or store sends a data request. -/
lemma DataFits.issue {token next : UInt64} {msg : TxnId → MemV1.MemMsg} {waiting : TxnId → State}
    (h : c.DataFits data) (hi : c.Issues token msg waiting) :
    DataFits { c with nextTxn := next, state := waiting c.nextTxn }
      (if token = Token.memory then data ++ [msg c.nextTxn] else data) := by
  cases hi with
  | fetch hs | walk hs =>
    simp only [DataFits, hs] at h
    exact h
  | memory hs =>
    simp only [DataFits, hs] at h
    subst h
    rfl

lemma dataFits_accessState (insn : UInt32) (plan : MemoryPlan) :
    (c.enter (c.accessState insn plan)).DataFits [] := by
  unfold accessState
  split_ifs <;> rfl

lemma dataFits_fetchState : c.resume.DataFits [] := by
  unfold resume fetchState
  split_ifs <;> rfl

lemma dataFits_accessed {txn : TxnId} {insn : UInt32} {plan : MemoryPlan} {pa : Option UInt64}
    {outcome : ExecOutcome} (hstep : step c.isa insn c.pc c.regs = .memory plan) :
    (c.enter (.commitPending (some insn) (.exec outcome) (outcome.keep pa))).DataFits
      [planRequest plan (pa.getD (planAddr plan).toUInt64) txn] := by
  rintro word ⟨⟩
  refine ⟨?_, fun done hdone => ?_⟩
  · rintro plan' effect hstep' ⟨⟩
    cases hstep.symm.trans hstep'
    exact ⟨txn, rfl⟩
  · cases hstep.symm.trans hdone

/-- A trap of a walk comes before any data request. -/
lemma dataFits_trap {insn : Option UInt32} {cause : TrapCause} {tval : UInt32} :
    (c.enter (.commitPending insn (.trap cause tval) none)).DataFits [] :=
  fun _ _ => ⟨fun _ _ _ heffect => (by cases heffect), fun _ _ => rfl⟩

/-- A response leads to a state that the data requests fit. -/
lemma DataFits.answer {msg : MemV1.MemMsg} {state : State} (hc : c.Valid) (h : c.DataFits data)
    (ha : c.Answers msg state) : (c.enter state).DataFits data := by
  have hfits := hc.state
  cases ha with
  | done hs hw hstep =>
    simp only [DataFits, hs] at h
    subst h
    rintro word ⟨⟩
    exact ⟨fun plan effect hmemory => (by cases hstep.symm.trans hmemory), fun _ _ => rfl⟩
  | access hs hw hstep =>
    simp only [DataFits, hs] at h
    subst h
    exact dataFits_accessState _ _
  | fetchRefused hs =>
    rintro word ⟨⟩
  | loaded hs hm =>
    simp only [DataFits, hs] at h
    rw [hs] at hfits
    subst h
    exact dataFits_accessed hfits.1
  | stored hs =>
    simp only [DataFits, hs] at h
    rw [hs] at hfits
    subst h
    exact dataFits_accessed hfits.1
  | next hs hw hstep =>
    simp only [DataFits, hs] at h
    exact h
  | leaf hs hw hstep =>
    rename_i walk _ _ _
    simp only [DataFits, hs] at h
    subst h
    cases hpurpose : walk.purpose <;> rfl
  | pageFault hs | walkRefused hs =>
    simp only [DataFits, hs] at h
    subst h
    exact dataFits_trap

end Rv32iCpu

/-! ## What a commit records -/

namespace Rv32iCpu

variable {before c c' d : Rv32iCpu} {insn : UInt32} {outcome : Outcome} {pa : Option UInt64}
  {fields : List (String × Value)} {data : List MemV1.MemMsg} {calls : List Call}

lemma SameArch.isa (h : before.SameArch c) (hconfig : c.config = before.config) :
    before.isa = c.isa := by
  unfold Rv32iCpu.isa
  rw [hconfig, h.m3]

/-- Outside the `M3` profile an access is made at its own address. -/
lemma Valid.getD_pa (hc : c.Valid) (hs : c.state = .commitPending (some insn) outcome pa)
    (hprofile : c.config.profile ≠ .m3) (va : UInt64) : pa.getD va = va := by
  have htranslated := hc.translated_pa
  have htranslating : c.translating = false := by
    unfold translating
    simp [hprofile]
  cases pa with
  | none => rfl
  | some pa =>
    have hpa : c.pa? = some pa := by simp [pa?, hs]
    rw [hpa] at htranslated
    cases hva : c.va? with
    | none =>
      rw [hva] at htranslated
      cases htranslated
    | some va =>
      rw [hva] at htranslated
      cases htranslating.symm.trans htranslated.1

lemma commitRecorded_of_retire (hc : c.Valid) (hs : c.state = .commitPending (some insn) outcome pa)
    (hr : c.retire insn outcome pa = (d, .ok fields)) (hdata : c.DataFits data)
    (harch : before.SameArch c) (hconfig : c.config = before.config) (records : List Record)
    (c' : Rv32iCpu) (hregs : c'.regs = d.regs) :
    CommitRecorded { before, data, records, after := c' } fields d.pc := by
  have hfits := hc.state
  rw [hs] at hfits
  obtain ⟨effect, kept, more, rfl, hnext, heffect, haccess⟩ :=
    (hc.retires hs hr).recorded (consistent_iff.mp hfits.1)
  simp only [DataFits, hs] at hdata
  obtain ⟨hmemory, hnone⟩ := hdata insn rfl
  refine ⟨?_, ?_, ?_, insn, rfl, fun plan hstep => ?_, fun done hstep => ?_⟩
  · rw [← harch.pc]
    rfl
  · rw [← hnext]
    rfl
  · rw [replay_commitFields, hregs, heffect, harch.regs]
  · rw [harch.isa hconfig, ← harch.pc, ← harch.regs] at hstep
    obtain ⟨rfl, rfl⟩ := haccess plan hstep
    obtain ⟨txn, rfl⟩ := hmemory plan effect hstep rfl
    have hpa : before.config.profile ≠ .m3 →
        kept.getD (planAddr plan).toUInt64 = (planAddr plan).toUInt64 :=
      fun hprofile => hc.getD_pa hs (hconfig ▸ hprofile) _
    cases plan with
    | load plan =>
      obtain ⟨haddr, hpaddr⟩ := lookup_load effect kept more hstep
      exact ⟨haddr, ⟨txn, _, rfl, fun hprofile => hpaddr (hconfig ▸ hprofile), hpa⟩,
        fun store hstore => (by cases hstore)⟩
    | store plan =>
      obtain ⟨haddr, hpaddr, hwidth, hvalue⟩ := lookup_store effect kept more hstep
      refine ⟨haddr, ⟨txn, _, rfl, fun hprofile => hpaddr (hconfig ▸ hprofile), hpa⟩, ?_⟩
      rintro store ⟨⟩
      have hlength := length_data_of_step hstep
      exact ⟨hwidth, _, hvalue, UInt64.toNat_foldl_bytes (by omega)⟩
  · rw [harch.isa hconfig, ← harch.pc, ← harch.regs] at hstep
    exact hnone done hstep

lemma interruptRecord_cases (c : Rv32iCpu) :
    c.interruptRecord = [] ∧ c.sampled = c ∨
      ∃ taken, c.interruptRecord = [.traced interruptKind taken] ∧ c.sampled.regs = c.regs ∧
        c.sampled.csrs.mepc = c.pc ∧ taken.lookup "mepc" = some (.u64 c.pc.toUInt64) ∧
        taken.lookup "handler" = some (.u64 c.sampled.pc.toUInt64) := by
  unfold interruptRecord sampled sampleMei
  split
  · exact .inl ⟨rfl, rfl⟩
  · split_ifs
    · exact .inr ⟨_, rfl, rfl, rfl, rfl, rfl⟩
    · exact .inl ⟨rfl, rfl⟩
  · split_ifs
    · exact .inr ⟨_, rfl, rfl, rfl, rfl, rfl⟩
    · exact .inl ⟨rfl, rfl⟩

lemma Commits.recorded (hc : c.Valid) (h : c.Commits calls c') (hdata : c.DataFits data)
    (harch : before.SameArch c) (hconfig : c.config = before.config) :
    ∃ records : List Record,
      calls.filterMap Call.entry = records.map (fun record => .traced record.1 record.2) ∧
        Recorded { before, data, records, after := c' } := by
  cases h with
  | halt hs hd =>
    exact ⟨[(trapKind, _)], rfl, .trap rfl harch.regs (by simp [Rv32iCpu.halt, enter])⟩
  | exception hs hd =>
    rw [List.filterMap_cons, System.entries_wakes]
    refine ⟨[(exceptionKind, _)], rfl, .exception rfl harch.regs ?_⟩
    unfold delivery at hd
    split_ifs at hd with hprofile
    obtain ⟨-, rfl, spp, -, rfl⟩ := M3State.takeException_eq_some hd
    exact Aligned.and_not (hc.legal.m3 hprofile).stvec
  | limit hs hr hl =>
    exact ⟨[(commitKind, _), (haltKind, _)], rfl,
      .limit rfl (commitRecorded_of_retire hc hs hr hdata harch hconfig _ _ rfl)
        (by simp [Rv32iCpu.halt, enter])⟩
  | retire hs hr hl =>
    rename_i d fields
    rw [List.cons_append, List.filterMap_cons, List.filterMap_append, System.entries_wakes,
      List.append_nil]
    rcases d.counted.interruptRecord_cases with ⟨hrecord, hsampled⟩ |
      ⟨taken, hrecord, hregs, hmepc, htaken, hhandler⟩
    · rw [hrecord, hsampled]
      exact ⟨[(commitKind, fields)], rfl,
        .retire rfl (commitRecorded_of_retire hc hs hr hdata harch hconfig _ _ rfl)⟩
    · rw [hrecord]
      exact ⟨[(commitKind, fields), (interruptKind, taken)], rfl,
        .interrupt rfl (commitRecorded_of_retire hc hs hr hdata harch hconfig _ _ hregs)
          ⟨htaken, hmepc⟩ hhandler⟩

end Rv32iCpu

/-! ## Commits in a row -/

/-- Each commit starts where the one before it ended, from `c` to `c'`. -/
def Linked : Rv32iCpu → List Commit → Rv32iCpu → Prop
  | c, [], c' => c' = c
  | c, b :: rest, c' => b.before = c ∧ Linked b.after rest c'

/-- Where the last record of a commit says that the program goes on. -/
def Commit.leadsTo (b : Commit) : Option Value :=
  b.records.getLast?.bind fun record =>
    if record.1 = commitKind then record.2.lookup "next_pc"
    else if record.1 = interruptKind then record.2.lookup "handler"
    else if record.1 = exceptionKind then some (.u64 b.after.m3.stvec.toUInt64)
    else none

section

variable {c c' : Rv32iCpu} {b : Commit} {commits more : List Commit}

lemma linked_append :
    Linked c (commits ++ more) c' ↔ ∃ d, Linked c commits d ∧ Linked d more c' := by
  induction commits generalizing c with
  | nil => simp [Linked]
  | cons b rest ih => simp [Linked, ih, and_assoc]

lemma replay_of_ne {regs : RegisterFile} {kind : String} {fields : List (String × Value)}
    (h : kind ≠ commitKind) : replay regs (kind, fields) = regs :=
  if_neg h

/-- The records of a commit take its registers from before to after it. -/
lemma Recorded.replay (h : Recorded b) : b.records.foldl replay b.before.regs = b.after.regs := by
  cases h with
  | trap hrecords hregs =>
    rw [hrecords, List.foldl_cons, List.foldl_nil, replay_of_ne (by decide), hregs]
  | exception hrecords hregs =>
    rw [hrecords, List.foldl_cons, List.foldl_nil, replay_of_ne (by decide), hregs]
  | limit hrecords hcommit =>
    rw [hrecords, List.foldl_cons, List.foldl_cons, List.foldl_nil, replay_of_ne (by decide),
      hcommit.regs]
  | retire hrecords hcommit => rw [hrecords, List.foldl_cons, List.foldl_nil, hcommit.regs]
  | interrupt hrecords hcommit =>
    rw [hrecords, List.foldl_cons, List.foldl_cons, List.foldl_nil, replay_of_ne (by decide),
      hcommit.regs]

/-- A commit record starts at the `pc` before it. -/
lemma Recorded.pc {fields : List (String × Value)} (h : Recorded b)
    (hmem : (commitKind, fields) ∈ b.records) :
    fields.lookup "pc" = some (.u64 b.before.pc.toUInt64) := by
  cases h with
  | trap hrecords | exception hrecords =>
    simp [hrecords, commitKind, trapKind, exceptionKind] at hmem
  | limit hrecords hcommit | retire hrecords hcommit | interrupt hrecords hcommit =>
    simp [hrecords, commitKind, haltKind, interruptKind] at hmem
    rw [hmem]
    exact hcommit.pc

/-- Unless it halts, a commit leads to the `pc` after it. -/
lemma Recorded.leadsTo (h : Recorded b) (hrunning : b.after.halt = none) :
    b.leadsTo = some (.u64 b.after.pc.toUInt64) := by
  unfold Commit.leadsTo
  cases h with
  | trap hrecords hregs hhalt => exact absurd hrunning hhalt
  | limit hrecords hcommit hhalt => exact absurd hrunning hhalt
  | exception hrecords hregs hpc =>
    rw [hrecords, hpc]
    rfl
  | retire hrecords hcommit =>
    rw [hrecords]
    exact hcommit.nextPc
  | interrupt hrecords hcommit hmepc hhandler =>
    rw [hrecords]
    exact hhandler

/-- Commits in a row take the registers from those at the start to those at the end. -/
lemma replay_linked (h : Linked c commits c') (hrecorded : ∀ b ∈ commits, Recorded b) :
    (commits.flatMap Commit.records).foldl replay c.regs = c'.regs := by
  induction commits generalizing c with
  | nil => rw [h]; rfl
  | cons b rest ih =>
    obtain ⟨rfl, hrest⟩ := h
    rw [List.flatMap_cons, List.foldl_append, (hrecorded b List.mem_cons_self).replay]
    exact ih hrest fun b' hb' => hrecorded b' (List.mem_cons_of_mem _ hb')

end

/-! ## The trace of a run -/

namespace System

variable {μ : Type} {s s' : System μ} {c₀ : Rv32iCpu}

lemma halt_of_running {c : Rv32iCpu} (h : ∀ halt, c.state ≠ .halted halt) : c.halt = none := by
  unfold Rv32iCpu.halt
  split
  · exact absurd ‹_› (h _)
  · rfl

/-- What is known of a run that started with the CPU `c₀`. -/
structure Traced (c₀ : Rv32iCpu) (s : System μ) : Prop where
  arch : (trail c₀ s.log).cpu.SameArch s.cpu
  config : s.cpu.config = (trail c₀ s.log).cpu.config
  halt : (trail c₀ s.log).cpu.halt = s.cpu.halt
  records : (trail c₀ s.log).records = []
  data : s.cpu.DataFits (trail c₀ s.log).data
  linked : Linked c₀ (trail c₀ s.log).commits (trail c₀ s.log).cpu
  recorded : ∀ b ∈ (trail c₀ s.log).commits, b.before.halt = none ∧ Recorded b

/-- Records are kept until the commit they belong to. -/
lemma foldl_traced (t : Trail) (records : List Record) :
    (records.map fun record => Entry.traced record.1 record.2).foldl .record t =
      { t with records := t.records ++ records } := by
  induction records generalizing t with
  | nil => simp
  | cons record rest ih => simp [ih, Trail.record]

/-- A step that only moves the execution on, and sends `data`. -/
lemma Traced.congr {data : List MemV1.MemMsg} (h : s.Traced c₀)
    (harch : (trail c₀ s.log).cpu.SameArch s'.cpu) (hconfig : s'.cpu.config = s.cpu.config)
    (hhalt : s'.cpu.halt = s.cpu.halt)
    (htrail : ∃ last, trail c₀ s'.log = { trail c₀ s.log with last, data })
    (hdata : s'.cpu.DataFits data) : s'.Traced c₀ := by
  obtain ⟨last, htrail⟩ := htrail
  constructor <;> rw [htrail]
  · exact harch
  · exact hconfig.trans h.config
  · exact h.halt.trans hhalt.symm
  · exact h.records
  · exact hdata
  · exact h.linked
  · exact h.recorded

/-- A commit adds what it recorded to the trail. -/
lemma Traced.commit {calls : List Call} {c' : Rv32iCpu} (hc : s.cpu.Valid) (h : s.Traced c₀)
    (hcommits : s.cpu.Commits calls c') :
    Traced c₀
      { s with
        cpu := c'
        pending := calls.filterMap Call.pending
        log := s.log ++ (calls.filterMap Call.entry ++ [.committed c']) } := by
  obtain ⟨records, hentries, hrecorded⟩ := hcommits.recorded hc h.data h.arch h.config
  have htrail : trail c₀ (s.log ++ (calls.filterMap Call.entry ++ [.committed c'])) =
      { commits := (trail c₀ s.log).commits ++
          [{ before := (trail c₀ s.log).cpu, data := (trail c₀ s.log).data, records, after := c' }]
        cpu := c'
        last := none
        data := []
        records := [] } := by
    rw [trail_append, List.foldl_append, hentries, foldl_traced, h.records]
    rfl
  have hrunning : (trail c₀ s.log).cpu.halt = none := by
    obtain ⟨insn, outcome, pa, hs⟩ := commits_state hcommits
    rw [h.halt, halt_of_running (by simp [hs])]
  constructor <;> rw [htrail]
  · exact .refl c'
  · cases hcommits with
    | halt | limit => trivial
    | exception | retire => exact Rv32iCpu.dataFits_fetchState
  · exact linked_append.mpr ⟨_, h.linked, rfl, rfl⟩
  · exact List.forall_mem_append.mpr
      ⟨h.recorded, List.forall_mem_singleton.mpr ⟨hrunning, hrecorded⟩⟩

/-- At reset nothing has been recorded. -/
lemma traced_boot {config : Rv32iConfig} (hnew : Rv32iCpu.new config = .ok c₀) (m : μ) :
    (boot c₀ m).Traced c₀ := by
  unfold Rv32iCpu.new at hnew
  split_ifs at hnew
  cases hnew
  exact ⟨.refl _, rfl, rfl, rfl, rfl, rfl, fun b hb => (by cases hb)⟩

section

variable [MemTarget μ]

lemma Traced.advances (hc : s.cpu.Valid) (h : s.Traced c₀) (ha : s.Advances s') : s'.Traced c₀ := by
  cases ha with
  | serve hp => exact h.congr h.arch rfl rfl ⟨_, rfl⟩ h.data
  | irq hprofile =>
    rename_i asserted
    have harch := h.arch
    refine h.congr ⟨harch.pc, harch.regs, harch.instret, ?_, harch.m3⟩ rfl rfl
      ⟨_, trail_append c₀ s.log [.level asserted]⟩ h.data
    rw [harch.csrs]
  | issue hp hi hn =>
    rename_i token next msg waiting
    obtain ⟨hrunning, hwaiting, -⟩ := hi.running s.cpu.nextTxn
    have harch := h.arch
    refine h.congr ⟨harch.pc, harch.regs, harch.instret, harch.csrs, harch.m3⟩ rfl
      ((halt_of_running hwaiting).trans (halt_of_running hrunning).symm)
      ⟨some (msg s.cpu.nextTxn), ?_⟩ (h.data.issue hi)
    rw [trail_append]
    simp only [List.foldl_cons, List.foldl_nil, Trail.record]
    split_ifs <;> rfl
  | answer hp ha =>
    obtain ⟨hrunning, hnext, -⟩ := ha.running
    have harch := h.arch
    exact h.congr ⟨harch.pc, harch.regs, harch.instret, harch.csrs, harch.m3⟩ rfl
      ((halt_of_running hnext).trans (halt_of_running hrunning).symm) ⟨_, rfl⟩ (h.data.answer hc ha)
  | commit hp hcommits => exact h.commit hc hcommits

/-- For every run from reset: the records of each commit are those of the instruction, trap and
interrupt it stands for; replaying them gives the registers after each commit, and those of the CPU
in the end; and each commit record starts where the commit before it led. -/
theorem run_commit_trace {config : Rv32iConfig} {c : Rv32iCpu}
    (hnew : Rv32iCpu.new config = .ok c) (m : μ) {actions : List Action}
    (hrun : (boot c m).run actions = .ok s) :
    (∀ b ∈ (trail c s.log).commits, Recorded b) ∧
      (∀ done b rest, (trail c s.log).commits = done ++ b :: rest →
        ((done ++ [b]).flatMap Commit.records).foldl replay .new = b.after.regs) ∧
      ((trail c s.log).commits.flatMap Commit.records).foldl replay .new = s.cpu.regs ∧
      ∀ done b b' rest, (trail c s.log).commits = done ++ b :: b' :: rest →
        ∀ fields, (commitKind, fields) ∈ b'.records → fields.lookup "pc" = b.leadsTo := by
  obtain ⟨hsound₀, -⟩ := Rv32iCpu.sound_new hnew
  obtain ⟨hmatched₀, hregs⟩ : (boot c m).Matched ∧ c.regs = .new := by
    unfold Rv32iCpu.new at hnew
    split_ifs at hnew
    cases hnew
    exact ⟨matched_boot _ rfl m, rfl⟩
  obtain ⟨-, hsound, h⟩ := run_induction (I := fun s => s.cpu.Sound ∧ s.Traced c)
    (fun _ _ _ ⟨hsound, h⟩ ha => ⟨sound_advances hsound ha, h.advances hsound.valid ha⟩)
    hmatched₀ ⟨hsound₀, traced_boot hnew m⟩ hrun
  have hlinked := h.linked
  have hrecorded (b : Commit) (hb : b ∈ (trail c s.log).commits) := (h.recorded b hb).2
  refine ⟨hrecorded, fun done b rest hcommits => ?_, ?_,
    fun done b b' rest hcommits fields hmem => ?_⟩
  · -- The commits up to `b` are in a row themselves.
    rw [hcommits, linked_append] at hlinked
    obtain ⟨d, hdone, hbefore, -⟩ := hlinked
    have hupto : Linked c (done ++ [b]) b.after := linked_append.mpr ⟨d, hdone, hbefore, rfl⟩
    rw [← hregs]
    refine replay_linked hupto fun b' hb' => hrecorded b' ?_
    rw [hcommits, List.append_cons]
    exact List.mem_append_left rest hb'
  · rw [← hregs, replay_linked hlinked hrecorded, h.arch.regs]
  · rw [hcommits, linked_append] at hlinked
    obtain ⟨d, -, -, hnext, -⟩ := hlinked
    have hb : b ∈ (trail c s.log).commits := by simp [hcommits]
    have hb' : b' ∈ (trail c s.log).commits := by simp [hcommits]
    rw [(hrecorded b' hb').pc hmem, hnext, (hrecorded b hb).leadsTo (hnext ▸ (h.recorded b' hb').1)]

end

section

/-- A CPU of the `M3` profile at address 0. -/
def storeConfig : Rv32iConfig where
  clock := 0
  entry := 0
  maxInstructions := 5
  nonzero := Rv32iConfig.five_ne_zero
  profile := .m3

/-- `sw x0, 4(x0)`, and the word it overwrites. -/
def storeRam : Ram := ⟨[0x23, 0x22, 0, 0, 0x2a, 0, 0, 0]⟩

theorem run_commit_trace_store : ∃ s b,
    (boot (.reset storeConfig) storeRam).run (List.replicate 7 (.dispatch 0)) = .ok s ∧
      (trail (.reset storeConfig) s.log).commits = [b] ∧
      b.data = [.writeReq 1 4 [0, 0, 0, 0]] ∧
      b.records = [(commitKind,
        [("pc", .u64 0), ("insn", .u64 0x2223), ("rd", .u64 0), ("rd_value", .u64 0),
          ("next_pc", .u64 4), ("priv", .u64 3), ("addr", .u64 4), ("paddr", .u64 4),
          ("width", .u64 4), ("value", .u64 0)])] ∧
      Recorded b ∧ b.records.foldl replay .new = b.after.regs := by
  have hnew : Rv32iCpu.new storeConfig = .ok (.reset storeConfig) := rfl
  have hrun : (boot (.reset storeConfig) storeRam).run (List.replicate 7 (.dispatch 0)) = .ok _ :=
    rfl
  obtain ⟨hrecorded, hreplay, -⟩ := run_commit_trace hnew storeRam hrun
  exact ⟨_, _, hrun, rfl, rfl, rfl, hrecorded _ (List.mem_singleton.mpr rfl), hreplay [] _ [] rfl⟩

end

end System

end SystemScope.Rv32i
