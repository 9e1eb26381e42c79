import SystemScope.Rv32i.SnapshotFormat

/-!
# Restoring the CPU

A restore accepts exactly the snapshots of valid CPUs of its configuration (`restore_eq_ok_iff`):
what it reads is what is written, and what it checks is the invariant.
-/

namespace SystemScope.Rv32i

open SnapshotFields Restore

/-! ## What is checked -/

/-- The request that is outstanding is the latest one counted. -/
def Latest (nextTxn : UInt64) (s : State) : Prop :=
  ∀ txn, s.outstanding = some txn → nextTxn ≠ 0 ∧ nextTxn - 1 = txn

lemma outstanding_eq_ok {nextTxn txn txn' : UInt64} {bs rest : Bytes} :
    outstanding nextTxn txn bs = .ok (txn', rest) ↔
      (nextTxn ≠ 0 ∧ nextTxn - 1 = txn) ∧ txn = txn' ∧ bs = rest := by
  unfold outstanding
  by_cases h : nextTxn ≠ 0 ∧ nextTxn - 1 = txn
  · rw [if_pos h, Parser.pure_eq_ok]
    exact (and_iff_right h).symm
  · rw [if_neg h]
    refine iff_of_false (fun herror => ?_) fun hok => h hok.1
    cases herror

lemma memoryPlan_eq_ok {isa : Isa} {pc : UInt32} {regs : RegisterFile} {insn : UInt32}
    {plan : MemoryPlan} {bs rest : Bytes} :
    memoryPlan isa pc regs insn bs = .ok (plan, rest) ↔
      step isa insn pc regs = .memory plan ∧ bs = rest := by
  unfold memoryPlan
  cases hstep : step isa insn pc regs with
  | memory plan' =>
    dsimp only
    rw [Parser.pure_eq_ok, Step.memory.injEq]
  | done outcome =>
    refine iff_of_false (fun herror => ?_) fun hok => ?_
    · cases herror
    · cases hok.1

lemma okOr_eq_ok {α : Type} {x : Option α} {what : String} {y : α} {bs rest : Bytes} :
    okOr x what bs = .ok (y, rest) ↔ x = some y ∧ bs = rest := by
  cases x with
  | none => exact iff_of_false (fun h => by cases h) fun h => by cases h.1
  | some x =>
    rw [Option.some.injEq]
    exact Parser.pure_eq_ok

lemma offset_iff {pa : UInt64} {va : UInt32} :
    pa &&& 0xFFF = (va &&& 0xFFF).toUInt64 ↔ pa.toNat % 2 ^ 12 = va.toNat % 2 ^ 12 := by
  rw [← UInt64.toNat_inj, UInt64.toNat_and, UInt32.toNat_toUInt64, UInt32.toNat_and]
  change pa.toNat &&& (2 ^ 12 - 1) = va.toNat &&& (2 ^ 12 - 1) ↔ _
  rw [Nat.and_two_pow_sub_one_eq_mod, Nat.and_two_pow_sub_one_eq_mod]

lemma shiftRight_paBits {pa : UInt64} : pa >>> paBits = 0 ↔ pa.toNat < 2 ^ 34 := by
  rw [← UInt64.toNat_inj, UInt64.toNat_shiftRight, Nat.shiftRight_eq_div_pow]
  change pa.toNat / 2 ^ 34 = 0 ↔ _
  rw [Nat.div_eq_zero_iff]
  omega

lemma Privilege.fromBits_eq_some {bits : UInt8} {mode : Privilege} :
    Privilege.fromBits bits = some mode ↔ mode.bits = bits := by
  constructor
  · intro h
    unfold Privilege.fromBits at h
    split at h
    all_goals cases h
    all_goals rfl
  · rintro rfl
    cases mode <;> rfl

lemma Spp.fromBits_eq_some {bits : UInt8} {spp : Spp} :
    Spp.fromBits bits = some spp ↔ spp.bits = bits := by
  constructor
  · intro h
    unfold Spp.fromBits at h
    split at h
    all_goals cases h
    all_goals rfl
  · rintro rfl
    cases spp <;> rfl

lemma validateM3_eq_ok {r : M3Record} {m : M3State} {bs rest : Bytes} :
    validateM3 r bs = .ok (m, rest) ↔ m.Legal ∧ m.record = r ∧ bs = rest := by
  unfold validateM3 invalid
  simp only [Parser.bind_eq_ok, okOr_eq_ok, Parser.guard_eq_ok, Parser.pure_eq_ok,
    Privilege.fromBits_eq_some, Spp.fromBits_eq_some, ne_eq, not_not, Bool.not_eq_true',
    Bool.not_eq_false, satpReachable, decide_eq_true_eq]
  constructor
  · rintro ⟨privilege, _, ⟨hprivilege, rfl⟩, spp, _, ⟨hspp, rfl⟩, mpp, _, ⟨hmpp, rfl⟩,
      hmedeleg, hstvec,
      hsepc, hsatp, rfl, rfl⟩
    refine ⟨⟨aligned_iff_and.mpr hstvec, aligned_iff_and.mpr hsepc, hmedeleg, hsatp⟩, ?_, rfl⟩
    unfold M3State.record
    rw [hprivilege, hspp, hmpp]
  · rintro ⟨hlegal, rfl, rfl⟩
    exact ⟨m.privilege, _, ⟨rfl, rfl⟩, m.spp, _, ⟨rfl, rfl⟩, m.mpp, _, ⟨rfl, rfl⟩, hlegal.medeleg,
      aligned_iff_and.mp hlegal.stvec, aligned_iff_and.mp hlegal.sepc, hlegal.satp, rfl, rfl⟩

namespace Rv32iCpu

variable {c d : Rv32iCpu}

lemma translated_iff {pa : Option UInt64} {va : UInt32} (h : d.translating = false) :
    d.Translated pa va ↔ pa = none := by
  cases pa with
  | none => exact iff_of_true h rfl
  | some pa => exact iff_of_false (fun ht => by rw [ht.1] at h; cases h) (fun hp => by cases hp)

lemma translating_of_ne (h : d.config.profile ≠ .m3) : d.translating = false := by
  unfold translating
  simp [h]

lemma isa_congr (hprofile : d.config.profile ≠ .m3) (hconfig : c.config = d.config) :
    c.isa = d.isa := by
  unfold isa
  rw [hconfig]
  cases h : d.config.profile with
  | m3 => exact absurd h hprofile
  | _ => rfl

lemma inSchema_of_consistent {insn : Option UInt32} {outcome : Outcome}
    (h : Consistent d.isa d.translating d.pc d.regs insn outcome) :
    outcome.InSchema d.config.profile := by
  cases h with
  | done hstep =>
    cases done_of_step hstep with
    | effect => trivial
    | trap hcause => exact mem_causes_of_consistent (.done hstep)
    | csr hm1 => exact profile_ne_m1_of_isa hm1
    | mret hm1 => exact profile_ne_m1_of_isa hm1
    | sret hisa => exact (profile_of_isa_m3 hisa).1
  | loaded | stored => trivial
  | fetch h => exact mem_causes_of_consistent (.fetch h)
  | fault h ht => exact mem_causes_of_consistent (.fault h ht)

lemma fits_commitPending {insn : Option UInt32} {outcome : Outcome} {pa : Option UInt64}
    (htranslating : d.translating = false) :
    d.Fits (.commitPending insn outcome pa) ↔
      consistent d.isa false insn outcome d.pc d.regs = true ∧ pa = none := by
  unfold Fits
  rw [htranslating]
  refine and_congr_right fun _ => ?_
  split
  · exact translated_iff htranslating
  · exact Iff.rfl

lemma not_walkFits {walk : Walk} (htranslating : d.translating = false) : ¬d.WalkFits walk := by
  intro h
  rw [h.translating] at htranslating
  cases htranslating

/-! ## The checks of schema 3 -/

lemma translating_of_m3 (hprofile : d.config.profile = .m3) : d.translating = d.m3.translates := by
  simp [translating, hprofile]

lemma translated_eq_ok (hprofile : d.config.profile = .m3) {pa pa' : Option UInt64} {va : UInt32}
    {bs rest : Bytes} :
    translated d.m3.translates pa va bs = .ok (pa', rest) ↔
      d.Translated pa va ∧ pa = pa' ∧ bs = rest := by
  unfold Translated
  rw [translating_of_m3 hprofile]
  cases d.m3.translates with
  | false =>
    cases pa with
    | none => simp [translated, Parser.pure_eq_ok]
    | some pa => simp [translated, invalid, Parser.throw_eq_ok]
  | true =>
    cases pa with
    | none => simp [translated, invalid, Parser.throw_eq_ok]
    | some pa =>
      simp only [translated, invalid, Parser.guard_eq_ok, Parser.pure_eq_ok, ne_eq, not_not,
        shiftRight_paBits, offset_iff, true_and, and_assoc]

lemma validateWalk_eq_ok (hprofile : d.config.profile = .m3) {r : WalkRecord} {walk : Walk}
    {bs rest : Bytes} :
    validateWalk d.m3 d.pc d.regs r bs = .ok (walk, rest) ↔
      d.WalkFits walk ∧ walk.record = r ∧ bs = rest := by
  have hpurpose {data : Option UInt32} {purpose : Purpose} {bs rest : Bytes} :
      validatePurpose d.m3 d.pc d.regs data bs = .ok (purpose, rest) ↔
        purpose.insn = data ∧
          (∀ insn plan, purpose = .data insn plan → step d.isa insn d.pc d.regs = .memory plan) ∧
          bs = rest := by
    rw [isa_of_m3 hprofile]
    cases data with
    | none => cases purpose <;> simp [validatePurpose, Parser.pure_eq_ok, Purpose.insn]
    | some insn =>
      simp only [validatePurpose, Parser.bind_eq_ok, memoryPlan_eq_ok, Parser.pure_eq_ok]
      constructor
      · rintro ⟨plan, _, ⟨hstep, rfl⟩, rfl, rfl⟩
        refine ⟨rfl, fun _ _ h => ?_, rfl⟩
        cases h
        exact hstep
      · rintro ⟨hinsn, hplan, rfl⟩
        cases purpose <;> cases hinsn
        exact ⟨_, _, ⟨hplan _ _ rfl, rfl⟩, rfl, rfl⟩
  have hlevel : ¬r.level > 1 ↔ r.level = 0 ∨ r.level = 1 := by
    rw [← UInt8.toNat_inj, ← UInt8.toNat_inj, gt_iff_lt, UInt8.lt_iff_toNat_lt]
    change ¬(1 < r.level.toNat) ↔ r.level.toNat = 0 ∨ r.level.toNat = 1
    omega
  unfold validateWalk invalid
  simp only [Parser.bind_eq_ok, Parser.guard_eq_ok, Parser.pure_eq_ok, hpurpose, hlevel, ne_eq,
    not_not, not_and, Bool.not_eq_true', Bool.not_eq_false]
  constructor
  · rintro ⟨htranslates, hlevel, htable, hroot, purpose, _, ⟨hdata, hplan, rfl⟩, rfl, rfl⟩
    refine ⟨⟨(translating_of_m3 hprofile).trans htranslates, hlevel, htable, hroot, hplan⟩, ?_, rfl⟩
    unfold Walk.record
    rw [hdata]
  · rintro ⟨hfits, rfl, rfl⟩
    exact ⟨(translating_of_m3 hprofile).symm.trans hfits.translating, hfits.level, hfits.table,
      hfits.root,
      walk.purpose, _, ⟨rfl, hfits.plan, rfl⟩, rfl, rfl⟩

lemma heldPa_eq_ok (hprofile : d.config.profile = .m3) {access : Option MemoryPlan}
    {pa pa' : Option UInt64} {bs rest : Bytes} :
    heldPa d.m3.translates access pa bs = .ok (pa', rest) ↔
      (match access with
        | some plan => d.Translated pa (planAddr plan)
        | none => pa = none) ∧ pa = pa' ∧ bs = rest := by
  cases access with
  | some plan => exact translated_eq_ok hprofile
  | none =>
    simp only [heldPa, invalid, Parser.guard_eq_ok, Parser.pure_eq_ok, Bool.not_eq_true,
      Option.isSome_eq_false_iff, Option.isNone_iff_eq_none]
    constructor
    · rintro ⟨rfl, rfl, rfl⟩
      exact ⟨rfl, rfl, rfl⟩
    · rintro ⟨rfl, rfl, rfl⟩
      exact ⟨rfl, rfl, rfl⟩

lemma validateStateM3_eq_ok (hprofile : d.config.profile = .m3) {r : StateRecord} {s : State}
    {bs rest : Bytes} :
    validateStateM3 r d.m3 d.pc d.regs d.nextTxn bs = .ok (s, rest) ↔
      (d.Fits s ∧ Latest d.nextTxn s) ∧ s.record = r ∧ bs = rest := by
  have hquiet {s : State} (h : s.outstanding = none) : Latest d.nextTxn s := by
    intro txn ht
    rw [h] at ht
    cases ht
  have hlatest {s : State} {txn : TxnId} (h : d.nextTxn ≠ 0 ∧ d.nextTxn - 1 = txn)
      (hs : s.outstanding = some txn) : Latest d.nextTxn s := by
    intro txn' ht
    rw [hs] at ht
    cases ht
    exact h
  unfold validateStateM3
  rw [← isa_of_m3 hprofile]
  cases r with
  | fetchIssue pa =>
    simp only [Parser.bind_eq_ok, translated_eq_ok hprofile, Parser.pure_eq_ok]
    constructor
    · rintro ⟨_, _, ⟨hpa, rfl, rfl⟩, rfl, rfl⟩
      exact ⟨⟨hpa, hquiet rfl⟩, rfl, rfl⟩
    · rintro ⟨⟨hfits, -⟩, hr, rfl⟩
      rcases s with _ | _ | _ | _ | _ | _ | _ | (_ | _) <;> cases hr
      exact ⟨_, _, ⟨hfits, rfl, rfl⟩, rfl, rfl⟩
  | fetchWait txn pa =>
    simp only [Parser.bind_eq_ok, outstanding_eq_ok, translated_eq_ok hprofile, Parser.pure_eq_ok]
    constructor
    · rintro ⟨_, _, ⟨htxn, rfl, rfl⟩, _, _, ⟨hpa, rfl, rfl⟩, rfl, rfl⟩
      exact ⟨⟨hpa, hlatest htxn rfl⟩, rfl, rfl⟩
    · rintro ⟨⟨hfits, htxn⟩, hr, rfl⟩
      rcases s with _ | _ | _ | _ | _ | _ | _ | (_ | _) <;> cases hr
      exact ⟨_, _, ⟨htxn _ rfl, rfl, rfl⟩, _, _, ⟨hfits, rfl, rfl⟩, rfl, rfl⟩
  | memIssue insn pa =>
    simp only [Parser.bind_eq_ok, memoryPlan_eq_ok, translated_eq_ok hprofile, Parser.pure_eq_ok]
    constructor
    · rintro ⟨plan, _, ⟨hstep, rfl⟩, _, _, ⟨hpa, rfl, rfl⟩, rfl, rfl⟩
      exact ⟨⟨⟨hstep, hpa⟩, hquiet rfl⟩, rfl, rfl⟩
    · rintro ⟨⟨hfits, -⟩, hr, rfl⟩
      rcases s with _ | _ | _ | _ | _ | _ | _ | (_ | _) <;> cases hr
      exact ⟨_, _, ⟨hfits.1, rfl⟩, _, _, ⟨hfits.2, rfl, rfl⟩, rfl, rfl⟩
  | memWait txn insn pa =>
    simp only [Parser.bind_eq_ok, memoryPlan_eq_ok, outstanding_eq_ok, translated_eq_ok hprofile,
      Parser.pure_eq_ok]
    constructor
    · rintro ⟨plan, _, ⟨hstep, rfl⟩, _, _, ⟨htxn, rfl, rfl⟩, _, _, ⟨hpa, rfl, rfl⟩, rfl, rfl⟩
      exact ⟨⟨⟨hstep, hpa⟩, hlatest htxn rfl⟩, rfl, rfl⟩
    · rintro ⟨⟨hfits, htxn⟩, hr, rfl⟩
      rcases s with _ | _ | _ | _ | _ | _ | _ | (_ | _) <;> cases hr
      exact ⟨_, _, ⟨hfits.1, rfl⟩, _, _, ⟨htxn _ rfl, rfl, rfl⟩, _, _, ⟨hfits.2, rfl, rfl⟩,
        rfl, rfl⟩
  | walkIssue r =>
    simp only [Parser.bind_eq_ok, validateWalk_eq_ok hprofile, Parser.pure_eq_ok]
    constructor
    · rintro ⟨walk, _, ⟨hwalk, rfl, rfl⟩, rfl, rfl⟩
      exact ⟨⟨hwalk, hquiet rfl⟩, rfl, rfl⟩
    · rintro ⟨⟨hfits, -⟩, hr, rfl⟩
      rcases s with _ | _ | _ | _ | _ | _ | _ | (_ | _) <;> cases hr
      exact ⟨_, _, ⟨hfits, rfl, rfl⟩, rfl, rfl⟩
  | walkWait txn r =>
    simp only [Parser.bind_eq_ok, outstanding_eq_ok, validateWalk_eq_ok hprofile, Parser.pure_eq_ok]
    constructor
    · rintro ⟨_, _, ⟨htxn, rfl, rfl⟩, walk, _, ⟨hwalk, rfl, rfl⟩, rfl, rfl⟩
      exact ⟨⟨hwalk, hlatest htxn rfl⟩, rfl, rfl⟩
    · rintro ⟨⟨hfits, htxn⟩, hr, rfl⟩
      rcases s with _ | _ | _ | _ | _ | _ | _ | (_ | _) <;> cases hr
      exact ⟨_, _, ⟨htxn _ rfl, rfl, rfl⟩, _, _, ⟨hfits, rfl, rfl⟩, rfl, rfl⟩
  | commitPending insn outcome pa =>
    simp only [invalid, Parser.guard_eq_ok, Parser.bind_eq_ok, heldPa_eq_ok hprofile,
      Parser.pure_eq_ok, Bool.not_eq_true', Bool.not_eq_false]
    rw [← translating_of_m3 hprofile]
    constructor
    · rintro ⟨hconsistent, _, _, ⟨hpa, rfl, rfl⟩, rfl, rfl⟩
      exact ⟨⟨⟨hconsistent, hpa⟩, hquiet rfl⟩, rfl, rfl⟩
    · rintro ⟨⟨hfits, -⟩, hr, rfl⟩
      rcases s with _ | _ | _ | _ | _ | _ | _ | (_ | _) <;> cases hr
      exact ⟨hfits.1, _, _, ⟨hfits.2, rfl, rfl⟩, rfl, rfl⟩
  | trap t =>
    simp only [invalid, Parser.guard_eq_ok, Parser.pure_eq_ok, Bool.and_eq_true, not_and, ne_eq,
      not_not, Bool.not_eq_true', Bool.not_eq_false, Bool.not_eq_true, decide_eq_true_eq]
    constructor
    · rintro ⟨hpage, hpc, hdelegates, hecall, rfl, rfl⟩
      have hfits : d.TrapFits t :=
        ⟨hpc, hprofile ▸ mem_causes_m3 _, fun _ => hpage, fun _ => hdelegates, fun _ => hecall⟩
      exact ⟨⟨hfits, hquiet rfl⟩, rfl, rfl⟩
    · rintro ⟨⟨hfits, -⟩, hr, rfl⟩
      rcases s with _ | _ | _ | _ | _ | _ | _ | (_ | _) <;> cases hr
      exact ⟨hfits.translates hprofile, hfits.pc, hfits.undelegated hprofile, hfits.ecall hprofile,
        rfl, rfl⟩
  | instructionLimit =>
    simp only [Parser.pure_eq_ok]
    constructor
    · rintro ⟨rfl, rfl⟩
      exact ⟨⟨trivial, hquiet rfl⟩, rfl, rfl⟩
    · rintro ⟨-, hr, rfl⟩
      rcases s with _ | _ | _ | _ | _ | _ | _ | (_ | _) <;> cases hr
      exact ⟨rfl, rfl⟩

end Rv32iCpu

/-! ## The states of schemas 1 and 2 -/

variable [SnapshotFields]

def State.tag : State → UInt8
  | .fetchIssue _ => 0
  | .fetchWait .. => 1
  | .memIssue .. => 2
  | .memWait .. => 3
  | .commitPending .. => 4
  | .halted _ => 5
  | .walkIssue _ => 6
  | .walkWait .. => 7

/-- The second tag of a halt. -/
def State.haltTag : State → UInt8
  | .halted (.trap _) => 0
  | _ => 1

/-- What follows the tags of a halt. -/
def State.haltBody : State → Bytes
  | .halted (.trap t) => writeCause t.cause ++ u32.write t.pc ++ u32.write t.tval
  | _ => []

/-- What follows the tag of a state, in schemas 1 and 2. -/
def State.body : State → Bytes
  | .fetchIssue _ => []
  | .fetchWait txn _ => u64.write txn
  | .memIssue insn _ _ => u32.write insn
  | .memWait txn insn _ _ => u64.write txn ++ u32.write insn
  | .commitPending insn outcome _ =>
    (u8.write (optionTag insn) ++ insn.elim [] u32.write) ++ writeOutcome outcome
  | .halted halt => u8.write (State.halted halt).haltTag ++ (State.halted halt).haltBody
  | .walkIssue walk => writeWalk walk
  | .walkWait txn walk => u64.write txn ++ writeWalk walk

lemma writeState_eq {profile : Rv32iProfile} (hprofile : profile ≠ .m3) (s : State) :
    writeState profile s = u8.write s.tag ++ s.body := by
  unfold writeState
  rcases s with _ | _ | _ | _ | _ | _ | ⟨_ | _, _, _⟩ | (_ | _) <;>
    simp [hprofile, State.tag, State.body, optionTag, State.haltTag, State.haltBody]

lemma readCsrs_reads (h : Strict) : Reads readCsrs CsrFile.Legal writeCsrs := by
  intro bs csrs rest
  unfold readCsrs writeCsrs invalid
  simp only [(flag_reads h).bind_eq_ok, (get_reads h.u32).bind_eq_ok, Parser.guard_eq_ok,
    Parser.pure_eq_ok, List.append_assoc, ne_eq, not_not]
  constructor
  · rintro ⟨mie, _, -, rfl, mpie, _, -, rfl, meie, _, -, rfl, mtvec, _, -, rfl, hmtvec,
      mscratch, _, -,
      rfl, mepc, _, -, rfl, hmepc, mcause, _, -, rfl, mtval, _, -, rfl, irqLevel, _, -, rfl,
        rfl, rfl⟩
    exact ⟨⟨aligned_iff_and.mpr hmtvec, aligned_iff_and.mpr hmepc⟩, rfl⟩
  · rintro ⟨hlegal, rfl⟩
    exact ⟨csrs.mie, _, trivial, rfl, csrs.mpie, _, trivial, rfl, csrs.meie, _, trivial, rfl,
      csrs.mtvec, _, trivial, rfl, aligned_iff_and.mp hlegal.mtvec, csrs.mscratch, _, trivial, rfl,
      csrs.mepc, _, trivial, rfl, aligned_iff_and.mp hlegal.mepc, csrs.mcause, _, trivial, rfl,
      csrs.mtval, _, trivial, rfl, csrs.irqLevel, _, trivial, rfl, rfl, rfl⟩

namespace Rv32iCpu

variable {c d : Rv32iCpu}

lemma halted_reads (h : Strict) (hprofile : d.config.profile ≠ .m3) :
    Reads
      (tagged "rv32 cpu halt"
        [(0, do
            let trap ← readTrap d.config.profile
            if trap.pc ≠ d.pc then invalid "rv32 cpu: trap pc is not the architectural pc"
            else return .halted (.trap trap)),
          (1, return .halted .instructionLimit)])
      (fun s => (d.Fits s ∧ Latest d.nextTxn s) ∧ State.tag s = 5) State.body := by
  refine Reads.congr (P := fun s => (d.Fits s ∧ Latest d.nextTxn s) ∧ s.tag = 5)
    (w := fun s => u8.write s.haltTag ++ s.haltBody) ?_ (fun _ => Iff.rfl) ?_
  · refine tagged_reads h (by simp) ?_ ?_
    · intro v hv
      simp only [List.mem_cons, List.not_mem_nil, or_false] at hv
      rcases hv with rfl | rfl
      · intro bs s rest
        simp only [(readTrap_reads h _).bind_eq_ok, invalid, Parser.guard_eq_ok,
          Parser.pure_eq_ok, ne_eq, not_not]
        constructor
        · rintro ⟨trap, _, hcause, rfl, hpc, rfl, rfl⟩
          have hfits : d.TrapFits trap :=
            ⟨hpc, hcause, fun hm3 => absurd hm3 hprofile, fun hm3 => absurd hm3 hprofile,
              fun hm3 => absurd hm3 hprofile⟩
          exact ⟨⟨⟨⟨hfits, fun _ ht => by cases ht⟩, rfl⟩, rfl⟩, rfl⟩
        · rintro ⟨⟨⟨⟨hfits, -⟩, ht⟩, ht'⟩, rfl⟩
          cases s <;> cases ht
          rename_i halt
          cases halt <;> cases ht'
          exact ⟨_, _, hfits.cause, rfl, hfits.pc, rfl, rfl⟩
      · refine Reads.variant (State.halted .instructionLimit)
          ⟨⟨trivial, fun _ ht => by cases ht⟩, rfl⟩ rfl rfl ?_
        rintro s ⟨-, ht⟩ ht'
        cases s <;> cases ht
        rename_i halt
        cases halt <;> cases ht'
        rfl
    · rintro s ⟨-, ht⟩
      cases s <;> cases ht
      rename_i halt
      cases halt <;> simp [State.haltTag]
  · rintro s ⟨-, ht⟩
    cases s <;> cases ht
    rfl

/-- Schemas 1 and 2 hold exactly the states that fit. -/
lemma readState_reads (h : Strict) (hprofile : d.config.profile ≠ .m3)
    (hconfig : c.config = d.config) :
    Reads (c.readState d.pc d.regs d.nextTxn) (fun s => d.Fits s ∧ Latest d.nextTxn s)
      (writeState d.config.profile) := by
  have htranslating := translating_of_ne hprofile
  refine Reads.congr (P := fun s => d.Fits s ∧ Latest d.nextTxn s) ?_ (fun _ => Iff.rfl)
    fun s _ => (writeState_eq hprofile s).symm
  unfold readState
  rw [isa_congr hprofile hconfig, hconfig]
  refine tagged_reads h (by simp) ?_ ?_
  · intro v hv
    simp only [List.mem_cons, List.not_mem_nil, or_false] at hv
    rcases hv with rfl | rfl | rfl | rfl | rfl | rfl
    · refine Reads.variant (State.fetchIssue none)
        ⟨htranslating, fun _ ht => by cases ht⟩ rfl rfl ?_
      rintro s ⟨hfits, -⟩ ht
      cases s <;> cases ht
      rw [(translated_iff htranslating).mp hfits]
    · intro bs s rest
      simp only [(get_reads h.u64).bind_eq_ok, Parser.bind_eq_ok, outstanding_eq_ok,
        Parser.pure_eq_ok]
      constructor
      · rintro ⟨txn, _, -, rfl, _, _, ⟨hlatest, rfl, rfl⟩, rfl, rfl⟩
        refine ⟨⟨⟨htranslating, fun _ ht => ?_⟩, rfl⟩, rfl⟩
        cases ht
        exact hlatest
      · rintro ⟨⟨⟨hfits, hlatest⟩, ht⟩, rfl⟩
        cases s <;> cases ht
        rename_i txn pa
        rw [(translated_iff htranslating).mp hfits]
        exact ⟨txn, _, trivial, rfl, txn, _, ⟨hlatest txn rfl, rfl, rfl⟩, rfl, rfl⟩
    · intro bs s rest
      simp only [(get_reads h.u32).bind_eq_ok, Parser.bind_eq_ok, memoryPlan_eq_ok,
        Parser.pure_eq_ok]
      constructor
      · rintro ⟨insn, _, -, rfl, plan, _, ⟨hstep, rfl⟩, rfl, rfl⟩
        exact ⟨⟨⟨⟨hstep, htranslating⟩, fun _ ht => by cases ht⟩, rfl⟩, rfl⟩
      · rintro ⟨⟨⟨hfits, -⟩, ht⟩, rfl⟩
        cases s <;> cases ht
        rename_i insn plan pa
        rw [(translated_iff htranslating).mp hfits.2]
        exact ⟨insn, _, trivial, rfl, plan, _, ⟨hfits.1, rfl⟩, rfl, rfl⟩
    · intro bs s rest
      simp only [(get_reads h.u64).bind_eq_ok, (get_reads h.u32).bind_eq_ok, Parser.bind_eq_ok,
        outstanding_eq_ok, memoryPlan_eq_ok, Parser.pure_eq_ok]
      constructor
      · rintro ⟨txn, _, -, rfl, _, _, ⟨hlatest, rfl, rfl⟩, insn, _, -, rfl, plan, _,
          ⟨hstep, rfl⟩, rfl,
          rfl⟩
        refine ⟨⟨⟨⟨hstep, htranslating⟩, fun _ ht => ?_⟩, rfl⟩, (List.append_assoc ..).symm⟩
        cases ht
        exact hlatest
      · rintro ⟨⟨⟨hfits, hlatest⟩, ht⟩, rfl⟩
        cases s <;> cases ht
        rename_i txn insn plan pa
        rw [(translated_iff htranslating).mp hfits.2]
        exact ⟨txn, _, trivial, List.append_assoc .., txn, _, ⟨hlatest txn rfl, rfl, rfl⟩, insn, _,
          trivial, rfl, plan, _, ⟨hfits.1, rfl⟩, rfl, rfl⟩
    · intro bs s rest
      simp only [(readInsn_reads h).bind_eq_ok, (readOutcome_reads h _).bind_eq_ok, invalid,
        Parser.guard_eq_ok, Parser.pure_eq_ok, Bool.not_eq_true', Bool.not_eq_false]
      constructor
      · rintro ⟨insn, _, -, rfl, outcome, _, -, rfl, hconsistent, rfl, rfl⟩
        refine ⟨⟨⟨(fits_commitPending htranslating).mpr ⟨hconsistent, rfl⟩, fun _ ht =>
          by cases ht⟩,
          rfl⟩, (List.append_assoc ..).symm⟩
      · rintro ⟨⟨⟨hfits, -⟩, ht⟩, rfl⟩
        cases s <;> cases ht
        rename_i insn outcome pa
        obtain ⟨hconsistent, rfl⟩ := (fits_commitPending htranslating).mp hfits
        have hschema := inSchema_of_consistent (consistent_iff.mp hfits.1)
        exact ⟨insn, _, trivial, List.append_assoc .., outcome, _, hschema, rfl, hconsistent,
          rfl, rfl⟩
    · exact halted_reads h hprofile
  · rintro s ⟨hfits, -⟩
    cases s with
    | walkIssue walk => exact absurd hfits (not_walkFits htranslating)
    | walkWait txn walk => exact absurd hfits (not_walkFits htranslating)
    | _ => simp [State.tag]

/-! ## What a restore accepts -/

lemma config_reads (h : Strict) :
    Reads (Parser.mapError RestoreError.decode (raw (writeConfig c.config).length))
      (fun bs => bs.length = (writeConfig c.config).length) id := (h.raw _).mapError _

lemma readCsrBlock_reads (h : Strict) (profile : Rv32iProfile) :
    Reads (readCsrBlock profile) (fun csrs => csrs.Legal ∧ (profile = .m1 → csrs = .new))
      (fun csrs => if profile ≠ .m1 then writeCsrs csrs else []) := by
  unfold readCsrBlock
  by_cases hprofile : profile = .m1
  · rw [if_pos hprofile]
    exact Reads.pure ⟨CsrFile.legal_new, fun _ => rfl⟩ (fun _ hcsrs => hcsrs.2 hprofile)
      (by simp [hprofile])
  · rw [if_neg hprofile]
    refine (readCsrs_reads h).congr (fun csrs => ?_) fun csrs _ => ?_
    · exact ⟨fun hlegal => ⟨hlegal, fun hm1 => absurd hm1 hprofile⟩, And.left⟩
    · rw [if_pos hprofile]

omit [SnapshotFields] in
lemma latest_iff : Latest c.nextTxn c.state ↔
    (∀ txn, c.state.outstanding = some txn → txn = c.nextTxn - 1) ∧ c.Numbered := by
  constructor
  · intro h
    exact ⟨fun txn ht => (h txn ht).2.symm, fun txn ht => (h txn ht).1⟩
  · rintro ⟨htxn, hnumbered⟩ txn ht
    exact ⟨hnumbered txn ht, (htxn txn ht).symm⟩

lemma restoreBase_eq_ok (h : Strict) (hprofile : c.config.profile ≠ .m3) {c' : Rv32iCpu}
    {bs rest : Bytes} :
    c.restoreBase bs = .ok (c', rest) ↔
      c'.config = c.config ∧ c'.m3 = c.m3 ∧ c'.Valid ∧ c'.Numbered ∧ bs = c'.snapshot ++ rest := by
  have hstate (pc : UInt32) (regs : RegisterFile) (nextTxn : UInt64) :
      Reads (c.readState pc regs nextTxn)
        (fun s => ({ c with pc, regs, nextTxn } : Rv32iCpu).Fits s ∧ Latest nextTxn s)
        (writeState c.config.profile) :=
    readState_reads (d := { c with pc, regs, nextTxn }) h hprofile rfl
  unfold restoreBase invalid
  simp only [(config_reads h).bind_eq_ok, (get_reads h.u32).bind_eq_ok,
    (get_reads h.u64).bind_eq_ok,
    (readRegisters_reads h).bind_eq_ok, (hstate _ _ _).bind_eq_ok,
    (readCsrBlock_reads h _).bind_eq_ok, Parser.guard_eq_ok, Parser.pure_eq_ok, ne_eq, not_not,
    Bool.not_eq_true', Bool.not_eq_false, id_eq]
  constructor
  · rintro ⟨_, _, -, rfl, rfl, pc, _, -, rfl, hpc, regs, _, -, rfl, instret, _, -, rfl,
      nextTxn, _, -,
      rfl, state, _, ⟨hfits, hlatest⟩, rfl, hcount, csrs, _, ⟨hcsrs, hm1⟩, rfl, rfl, rfl⟩
    obtain ⟨htxn, hnumbered⟩ :=
      (latest_iff (c := { c with pc, regs, instret, nextTxn, state, csrs })).mp hlatest
    have hlegal : ({ c with pc, regs, instret, nextTxn, state, csrs } : Rv32iCpu).Legal :=
      ⟨aligned_iff_mod.mpr hpc, hcsrs, hm1, fun hm3 => absurd hm3 hprofile⟩
    refine ⟨rfl, rfl, ⟨hlegal, hfits.congr rfl rfl rfl rfl, hcount, htxn⟩, hnumbered, ?_⟩
    simp [snapshot, hprofile]
  · rintro ⟨hconfig, hm3, hvalid, hnumbered, rfl⟩
    have hlatest := latest_iff.mpr ⟨hvalid.txn, hnumbered⟩
    have hcount := hvalid.count
    unfold CountFits at hcount
    rw [hconfig] at hcount
    refine ⟨_, _, rfl, ?_, rfl, c'.pc, _, trivial, rfl, aligned_iff_mod.mp hvalid.legal.pc,
      c'.regs, _,
      trivial, rfl, c'.instret, _, trivial, rfl, c'.nextTxn, _, trivial, rfl, c'.state, _,
      ⟨hvalid.state.congr hconfig.symm rfl rfl hm3.symm, hlatest⟩, rfl, hcount, c'.csrs, _,
      ⟨hvalid.legal.machine, fun hm1 => hvalid.legal.m1 (hconfig ▸ hm1)⟩, rfl, ?_, rfl⟩
    · simp [snapshot, hprofile, hconfig]
    · rw [← hconfig, ← hm3]

lemma restoreM3_eq_ok (h : Strict) (hprofile : c.config.profile = .m3) {c' : Rv32iCpu}
    {bs rest : Bytes} :
    c.restoreM3 bs = .ok (c', rest) ↔
      c'.config = c.config ∧ c'.Valid ∧ c'.Numbered ∧ bs = c'.snapshot ++ rest := by
  have hstate {r : StateRecord} {s : State} {m3 : M3State} {pc : UInt32} {regs : RegisterFile}
      {nextTxn : UInt64} {bs rest : Bytes} :
      validateStateM3 r m3 pc regs nextTxn bs = .ok (s, rest) ↔
        (({ c with m3, pc, regs, nextTxn } : Rv32iCpu).Fits s ∧ Latest nextTxn s) ∧
          s.record = r ∧ bs = rest :=
    validateStateM3_eq_ok (d := { c with m3, pc, regs, nextTxn }) hprofile
  unfold restoreM3 invalid
  simp only [(config_reads h).bind_eq_ok, (get_reads h.u32).bind_eq_ok,
    (get_reads h.u64).bind_eq_ok,
    (readRegisters_reads h).bind_eq_ok, (decodeStateM3_reads h).bind_eq_ok,
    (decodeCsrs_reads h).bind_eq_ok, (readM3Record_reads h).bind_eq_ok, Parser.bind_eq_ok,
    validateM3_eq_ok, hstate, Parser.guard_eq_ok, Parser.pure_eq_ok, ne_eq, not_not,
    Bool.not_eq_true', Bool.not_eq_false, id_eq]
  constructor
  · rintro ⟨_, _, -, rfl, pc, _, -, rfl, regs, _, -, rfl, instret, _, -, rfl, nextTxn, _, -,
      rfl, _, _, -,
      rfl, csrs, _, -, rfl, _, _, -, rfl, rfl, hpc, hmtvec, hmepc, m3, _, ⟨hm3, rfl, rfl⟩, state, _,
      ⟨⟨hfits, hlatest⟩, rfl, rfl⟩, hcount, rfl, rfl⟩
    obtain ⟨htxn, hnumbered⟩ :=
      (latest_iff (c := { c with pc, regs, instret, nextTxn, state, csrs, m3 })).mp hlatest
    have hlegal : ({ c with pc, regs, instret, nextTxn, state, csrs, m3 } : Rv32iCpu).Legal :=
      ⟨aligned_iff_mod.mpr hpc, ⟨aligned_iff_and.mpr hmtvec, aligned_iff_and.mpr hmepc⟩,
        fun hm1 => absurd hm1 (by rw [hprofile]; decide), fun _ => hm3⟩
    refine ⟨rfl, ⟨hlegal, hfits.congr rfl rfl rfl rfl, hcount, htxn⟩, hnumbered, ?_⟩
    simp [snapshot, hprofile, writeState_m3, writeM3_eq]
  · rintro ⟨hconfig, hvalid, hnumbered, rfl⟩
    have hprofile' : c'.config.profile = .m3 := hconfig ▸ hprofile
    have hlatest := latest_iff.mpr ⟨hvalid.txn, hnumbered⟩
    have hmachine := hvalid.legal.machine
    have hcount := hvalid.count
    unfold CountFits at hcount
    rw [hconfig] at hcount
    refine ⟨_, _, rfl, ?_, c'.pc, _, trivial, rfl, c'.regs, _, trivial, rfl, c'.instret, _,
      trivial, rfl,
      c'.nextTxn, _, trivial, rfl, c'.state.record, _, trivial, rfl, c'.csrs, _, trivial, rfl,
      c'.m3.record, _, trivial, rfl, rfl, aligned_iff_mod.mp hvalid.legal.pc,
      aligned_iff_and.mp hmachine.mtvec, aligned_iff_and.mp hmachine.mepc, c'.m3, _,
      ⟨hvalid.legal.m3 hprofile', rfl, rfl⟩, c'.state, _,
      ⟨⟨hvalid.state.congr hconfig.symm rfl rfl rfl, hlatest⟩, rfl, rfl⟩, hcount, ?_, rfl⟩
    · simp [snapshot, hprofile, hconfig, writeState_m3, writeM3_eq]
    · rw [← hconfig]

/-- A restore accepts exactly the snapshots of the valid CPUs of its configuration, and becomes the
CPU whose snapshot it is.  The `M3` state is not part of the other schemas. -/
theorem restore_eq_ok_iff (h : Strict) {c' : Rv32iCpu} {bs rest : Bytes} {schema : UInt32} :
    c.restore bs schema = (c', .ok rest) ↔
      schema = c.snapshotSchemaVersion ∧ c'.config = c.config ∧
        (c.config.profile ≠ .m3 → c'.m3 = c.m3) ∧ c'.Valid ∧ c'.Numbered ∧
        bs = c'.snapshot ++ rest := by
  have hparse : (if c.config.profile = .m3 then c.restoreM3 else c.restoreBase) bs = .ok
    (c', rest) ↔
      c'.config = c.config ∧ (c.config.profile ≠ .m3 → c'.m3 = c.m3) ∧ c'.Valid ∧ c'.Numbered ∧
        bs = c'.snapshot ++ rest := by
    by_cases hprofile : c.config.profile = .m3
    · rw [if_pos hprofile, restoreM3_eq_ok h hprofile]
      simp [hprofile]
    · rw [if_neg hprofile, restoreBase_eq_ok h hprofile]
      simp [hprofile]
  unfold restore
  rw [← hparse]
  by_cases hschema : schema = c.snapshotSchemaVersion
  · rw [if_neg (not_not.mpr hschema)]
    cases (if c.config.profile = .m3 then c.restoreM3 else c.restoreBase) bs with
    | error e => simp
    | ok p => simp [hschema, Prod.ext_iff]
  · rw [if_pos hschema]
    simp [hschema]

end Rv32iCpu

end SystemScope.Rv32i
