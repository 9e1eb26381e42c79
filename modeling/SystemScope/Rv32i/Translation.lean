import SystemScope.Rv32i.Refinement

/-!
# The walk of the CPU is `sv32Translate`

From any CPU of the `M3` profile that is about to fetch, or to make an aligned load or store: the
entries it reads are those `sv32Translate` asks for, in that order, and then the access goes out
once, at the address it returns, or its fault is committed as a trap (`walk_translates`).  Mode,
`SUM`, `MXR` and `satp` cannot change under a walk, so it makes no difference that the CPU reads
them again at each response.
-/

namespace SystemScope.Rv32i

open SnapshotFields

/-! ## Loads and stores are not privileged -/

/-- The words of the `SYSTEM` opcode that the base decoder accepts. -/
lemma word_of_decode {word : UInt32} {instr : Instr} (hop : word &&& 0x7f = 0b1110011)
    (h : decode word = .ok instr) : word = ecallWord ∨ word = ebreakWord := by
  unfold decode instrOf at h
  rw [hop] at h
  dsimp only at h
  by_cases hecall : word = ecallWord
  · exact .inl hecall
  · rw [if_neg hecall] at h
    by_cases hebreak : word = ebreakWord
    · exact .inr hebreak
    · rw [if_neg hebreak] at h
      cases h

lemma decode_system {word : UInt32} {instr : Instr} (hop : word &&& 0x7f = 0b1110011)
    (h : decode word = .ok instr) : instr = .ecall ∨ instr = .ebreak := by
  rcases word_of_decode hop h with rfl | rfl
  · cases h
    exact .inl rfl
  · cases h
    exact .inr rfl

/-- Privileged instructions have the `SYSTEM` opcode. -/
lemma opcode_of_decodePrivileged {word : UInt32} {instr : PrivInstr}
    (h : decodePrivileged word = some instr) :
    word &&& 0x7f = 0b1110011 := by
  unfold decodePrivileged at h
  by_cases hmret : word = mretWord
  · rw [hmret]
    decide
  · rw [if_neg hmret] at h
    by_contra hop
    rw [if_pos hop] at h
    cases h

lemma opcode_of_decodeSupervisor {word : UInt32} {instr : SupervisorInstr}
    (h : decodeSupervisor word = some instr) : word &&& 0x7f = 0b1110011 := by
  unfold decodeSupervisor at h
  by_cases hsret : word = sretWord
  · rw [hsret]
    decide
  · rw [if_neg hsret] at h
    obtain ⟨hsfence, -⟩ := Option.ite_none_right_eq_some.mp h
    have hmask : word &&& 0x7f = word &&& 0xFE007FFF &&& 0x7f := by
      rw [UInt32.and_assoc]
      rfl
    rw [hmask, hsfence]
    decide

lemma opcode_of_privilegedM3 {mode : Privilege} {word pc : UInt32} {regs : RegisterFile}
    {outcome : Outcome} (h : privilegedM3 mode word pc regs = some outcome) :
    word &&& 0x7f = 0b1110011 := by
  unfold privilegedM3 at h
  cases hprivileged : decodePrivileged word with
  | some instr => exact opcode_of_decodePrivileged hprivileged
  | none =>
    rw [hprivileged] at h
    obtain ⟨instr, hsupervisor, -⟩ := Option.map_eq_some_iff.mp h
    exact opcode_of_decodeSupervisor hsupervisor

/-- A load or store that is not aligned to its width, with its cause and its address. -/
inductive Misaligned (regs : RegisterFile) (word : UInt32) : TrapCause → UInt32 → Prop
  | load {op : LoadOp} {rd rs1 : Reg} {offset : Int32}
      (hdecode : decode word = .ok (.load op rd rs1 offset))
      (h : (regs.read rs1 + offset.toUInt32).toNat % (loadShape op).1.bytes.toNat ≠ 0) :
      Misaligned regs word .loadAddressMisaligned (regs.read rs1 + offset.toUInt32)
  | store {op : StoreOp} {rs1 rs2 : Reg} {offset : Int32}
      (hdecode : decode word = .ok (.store op rs1 rs2 offset))
      (h : (regs.read rs1 + offset.toUInt32).toNat % (storeWidth op).bytes.toNat ≠ 0) :
      Misaligned regs word .storeAddressMisaligned (regs.read rs1 + offset.toUInt32)

lemma align_of_misaligned {addr : UInt32} {width : MemWidth} {cause : TrapCause} {plan : MemoryPlan}
    (h : addr.toNat % width.bytes.toNat ≠ 0) :
    align addr width cause plan = .trap { cause, tval := addr } := by
  have hmask : addr &&& (width.bytes - 1) ≠ 0 := by
    intro hzero
    apply h
    have hmod (n : ℕ) (hn : n < 32) (hwidth : width.bytes - 1 = UInt32.ofNat (2 ^ n - 1)) :
        addr.toNat % 2 ^ n = 0 := by
      rw [← UInt32.toNat_and_mask addr n hn, ← hwidth, hzero]
      rfl
    cases width with
    | byte => exact hmod 0 (by omega) rfl
    | half => exact hmod 1 (by omega) rfl
    | word => exact hmod 2 (by omega) rfl
  unfold align
  rw [if_pos hmask]

/-- A misaligned load or store traps before memory is involved. -/
lemma step_of_misaligned {mode : Privilege} {word pc addr : UInt32} {regs : RegisterFile}
    {cause : TrapCause} (h : Misaligned regs word cause addr) :
    step (.m3 mode) word pc regs = .done (.trap cause addr) := by
  have hbase {instr : Instr} (hdecode : decode word = .ok instr)
      (hsystem : instr ≠ .ecall ∧ instr ≠ .ebreak) :
      step (.m3 mode) word pc regs = stepBase (.m3 mode) word pc regs := by
    unfold step
    dsimp only
    cases hprivileged : privilegedM3 mode word pc regs with
    | none => rfl
    | some outcome =>
      rcases decode_system (opcode_of_privilegedM3 hprivileged) hdecode with heq | heq
      · exact absurd heq hsystem.1
      · exact absurd heq hsystem.2
  cases h with
  | load hdecode h =>
    rw [hbase hdecode (by simp)]
    unfold stepBase
    rw [hdecode]
    simp only [family, sources, prepareMemory, align_of_misaligned h]
    rfl
  | store hdecode h =>
    rw [hbase hdecode (by simp)]
    unfold stepBase
    rw [hdecode]
    simp only [family, sources, prepareMemory, align_of_misaligned h]
    rfl

/-! ## The access a CPU is about to make -/

/-- What an access asks of memory. -/
def Purpose.request (pa : UInt64) : Purpose → Request
  | .fetch => .read pa 4
  | .data _ (.load plan) => .read pa plan.width.bytes
  | .data _ (.store plan) => .write pa plan.data

variable {μ : Type} [ByteMemory μ]

namespace Rv32iCpu

variable (c : Rv32iCpu)

/-- The virtual address of an access. -/
def va : Purpose → UInt32
  | .fetch => c.pc
  | .data _ plan => planAddr plan

/-- A CPU that is about to fetch, or to make an aligned load or store. -/
def AboutTo : Purpose → Prop
  | .fetch => c.state = c.fetchState
  | .data insn plan => c.state = c.accessState insn plan

/-- `sv32Translate` for an access under the CPU's `satp`, mode, `SUM` and `MXR`: its result, and the
addresses it passes to its reader. -/
def translation (p : Purpose) (m : μ) : Except Sv32.Fault UInt64 × List UInt64 :=
  Sv32.sv32Translate c.m3.satp c.m3.privilege c.m3.sum c.m3.mxr p.access (c.va p)
    (ByteMemory.recording m) []

/-- All that an access asks of memory: the entries, and then the access, if it is allowed. -/
def accessRequests (p : Purpose) (m : μ) : List Request :=
  match c.translation p m with
  | (.error _, asked) => pteReads asked
  | (.ok pa, asked) => pteReads asked ++ [p.request pa]

/-- What comes after an access at `pa` in the same instruction: the access of a load or store that
was fetched and is aligned. -/
def following (p : Purpose) (pa : UInt64) (m : μ) : List Request :=
  match p with
  | .data _ _ => []
  | .fetch =>
    match ByteMemory.word m pa with
    | none => []
    | some word =>
      match step c.isa word c.pc c.regs with
      | .done _ => []
      | .memory plan => c.accessRequests (.data word plan) m

/-- A trap was committed: the CPU halted with it, or delivered it to S. -/
def Trapped (cause : TrapCause) (tval : UInt32) (seen : Seen) : Prop :=
  seen.halt = some (.trap { cause, pc := c.pc, tval }) ∨
    seen.halt = none ∧ seen.hart.m3.privilege = .supervisor ∧ seen.hart.m3.sepc = c.pc ∧
      seen.hart.m3.scause = cause.code ∧ seen.hart.m3.stval = tval

/-- The access as the interpreter makes it. -/
def toDo (p : Purpose) (m : μ) : Execution μ :=
  Hart.translated p.access (c.va p) m (fun pa => c.arrived p pa m) (c.translation p m)

variable {c} {p : Purpose} {m : μ}

lemma translate_hart (hprofile : c.config.profile = .m3) (p : Purpose) (m : μ) :
    c.hart.translate p.access (c.va p) m = c.translation p m := by
  unfold Hart.translate
  rw [if_pos (show c.hart.config.profile = .m3 from hprofile)]
  rfl

lemma toDo_fetch (hprofile : c.config.profile = .m3) (m : μ) :
    c.toDo .fetch m = c.hart.execute m := by
  unfold toDo
  rw [← translate_hart hprofile]
  rfl

lemma toDo_data (hprofile : c.config.profile = .m3) (insn : UInt32) (plan : MemoryPlan) (m : μ) :
    c.toDo (.data insn plan) m = c.hart.access plan m := by
  unfold toDo
  rw [← translate_hart hprofile]
  cases plan <;> rfl

lemma toDo_error {fault : Sv32.Fault} {asked : List UInt64}
    (h : c.translation p m = (.error fault, asked)) :
    c.toDo p m =
      { outcome := .trap (fault.cause p.access) (c.va p), requests := pteReads asked,
        memory := m } := by
  unfold toDo
  rw [h]
  rfl

lemma requests_perform (insn : UInt32) (plan : MemoryPlan) (pa : UInt64) (m : μ) :
    (Hart.perform plan pa m).requests = [Purpose.request pa (.data insn plan)] := by
  cases plan <;> rfl

lemma requests_access (hprofile : c.config.profile = .m3) (insn : UInt32) (plan : MemoryPlan)
    (m : μ) :
    (c.hart.access plan m).requests = c.accessRequests (.data insn plan) m := by
  rw [← toDo_data hprofile insn]
  unfold toDo accessRequests
  rcases c.translation (.data insn plan) m with ⟨fault | pa, asked⟩
  · rfl
  · change pteReads asked ++ (Hart.perform plan pa m).requests = _
    rw [requests_perform insn]

lemma requests_decoded (hprofile : c.config.profile = .m3) (pa : UInt64) (m : μ) :
    (c.hart.decoded (ByteMemory.word m pa) m).requests = c.following .fetch pa m := by
  unfold following
  cases ByteMemory.word m pa with
  | none => rfl
  | some word =>
    dsimp only
    cases hstep : step c.isa word c.pc c.regs with
    | done outcome => rw [Hart.decoded_done (h := c.hart) hstep]
    | memory plan =>
      rw [Hart.decoded_memory (h := c.hart) hstep, requests_access hprofile word]

/-- An access that is translated goes out once, after its entries. -/
lemma requests_toDo_ok {pa : UInt64} {asked : List UInt64} (hprofile : c.config.profile = .m3)
    (h : c.translation p m = (.ok pa, asked)) :
    (c.toDo p m).requests = pteReads asked ++ p.request pa :: c.following p pa m := by
  unfold toDo
  rw [h]
  change pteReads asked ++ (c.arrived p pa m).requests = _
  cases p with
  | fetch =>
    change pteReads asked ++ .read pa 4 :: (c.hart.decoded (ByteMemory.word m pa) m).requests = _
    rw [requests_decoded hprofile]
    rfl
  | data insn plan =>
    change pteReads asked ++ (Hart.perform plan pa m).requests = _
    rw [requests_perform insn]
    rfl

end Rv32iCpu

namespace System

/-- A CPU that is about to act, with nothing else pending; the record starts with the level of its
interrupt line. -/
def starting (c : Rv32iCpu) (m : μ) : System μ where
  cpu := c
  memory := m
  pending := wakesOf c.state c.config.clock
  log := [.level c.csrs.irqLevel]

/-- The requests of the first instruction, as far as it has come. -/
def asked (s : System μ) : List Request :=
  match (observe s.log).seen with
  | [] => (observe s.log).sent
  | first :: _ => first.requests

/-- The first instruction, which comes to `e₀` on the hart `h₀`, is under way, or it has been
committed. -/
inductive First (h₀ : Hart) (e₀ : Execution μ) (s : System μ) : Prop
  | underway {e : Execution μ} {level : Bool} (hseen : (observe s.log).seen = [])
      (hhart : s.cpu.hart = h₀.withLevel level) (he : s.Expects e)
      (h : e₀ = e.after (observe s.log).sent) : First h₀ e₀ s
  | committed {first : Seen} {rest : List Seen} {level : Bool}
      (hseen : (observe s.log).seen = first :: rest) (hrequests : first.requests = e₀.requests)
      (hcommit : (h₀.withLevel level).commit e₀.outcome = (first.hart, first.halt)) : First h₀ e₀ s

variable {h₀ : Hart} {e₀ : Execution μ} {s s' : System μ} {c : Rv32iCpu} {p : Purpose} {m : μ}

omit [ByteMemory μ] in
/-- What has been seen stays. -/
lemma seen_advances [MemTarget μ] (ha : s.Advances s') :
    ∃ more, (observe s'.log).seen = (observe s.log).seen ++ more := by
  cases ha with
  | serve | answer => exact ⟨[], (List.append_nil _).symm⟩
  | irq =>
    refine ⟨[], ?_⟩
    rw [observe_append, List.append_nil]
    rfl
  | issue =>
    refine ⟨[], ?_⟩
    rw [observe_sent, List.append_nil]
    rfl
  | commit hp hc =>
    rw [observe_commit hc]
    exact ⟨_, rfl⟩

lemma First.advances (hc : s.cpu.Valid) (h : s.First h₀ e₀) (ha : s.Advances s') :
    s'.First h₀ e₀ := by
  cases h with
  | committed hseen hrequests hcommit =>
    obtain ⟨more, hmore⟩ := seen_advances ha
    rw [hseen] at hmore
    exact .committed hmore hrequests hcommit
  | underway hseen hhart he h =>
    rename_i e level
    rcases he.advances hc ha with ⟨calls, c', hp, hcommits, rfl⟩ |
      ⟨e', sent, line, he', rfl, hobserve, hhart'⟩
    · obtain ⟨insn, outcome, pa, hs, rfl⟩ := he.committing hp
      have hobserve := observe_commit hcommits s.log
      have hcommit := hcommits.hart hs
      rw [hhart] at hcommit
      have hseen' : (observe (s.log ++ (calls.filterMap Call.entry ++ [.committed c']))).seen =
          [{ requests := (observe s.log).sent, hart := c'.hart, halt := c'.halt }] := by
        rw [hobserve]
        simp [Observation.record, hseen]
      subst h
      exact .committed hseen' (List.append_nil _).symm hcommit
    · have hlevel : ∃ level, s'.cpu.hart = h₀.withLevel level := by
        rcases hhart' with ⟨hhart', -⟩ | hhart'
        · exact ⟨level, hhart'.trans hhart⟩
        · exact ⟨line, by rw [hhart', hhart]; rfl⟩
      obtain ⟨level', hlevel⟩ := hlevel
      refine .underway ?_ hlevel he' ?_
      · rw [hobserve]
        exact hseen
      · rw [hobserve, h, Execution.after_after]

/-- What has been asked for is the beginning of what the first instruction asks for. -/
lemma First.asked (h : s.First h₀ e₀) : s.asked <+: e₀.requests := by
  unfold System.asked
  cases h with
  | underway hseen hhart he h =>
    rw [hseen, h]
    exact List.prefix_append _ _
  | committed hseen hrequests hcommit =>
    rw [hseen]
    dsimp only
    rw [hrequests]

/-- Once the first instruction has been committed, it has asked for all of it. -/
lemma First.seen (h : s.First h₀ e₀) {first : Seen} {rest : List Seen}
    (hseen : (observe s.log).seen = first :: rest) :
    first.requests = e₀.requests ∧
      ∃ level, (h₀.withLevel level).commit e₀.outcome = (first.hart, first.halt) := by
  cases h with
  | underway hnone hhart he h => cases hnone.symm.trans hseen
  | committed hseen' hrequests hcommit =>
    cases hseen.symm.trans hseen'
    exact ⟨hrequests, _, hcommit⟩

/-- At the start, the whole access is to be done. -/
lemma first_starting (hprofile : c.config.profile = .m3) (hp : c.AboutTo p) (m : μ) :
    (starting c m).First c.hart (c.toDo p m) := by
  have hexpects : (starting c m).Expects (c.toDo p m) := by
    cases p with
    | fetch =>
      have hs : c.state = c.fetchState := hp
      rw [Rv32iCpu.toDo_fetch hprofile]
      exact expects_fetchState hs (by unfold starting; rw [hs])
    | data insn plan =>
      have hs : c.state = c.accessState insn plan := hp
      rw [Rv32iCpu.toDo_data hprofile]
      exact expects_accessState hs (by unfold starting; rw [hs])
  have hhart : (starting c m).cpu.hart = c.hart.withLevel c.csrs.irqLevel := rfl
  exact .underway rfl hhart hexpects rfl

omit [ByteMemory μ] in
lemma matched_starting (hp : c.AboutTo p) (m : μ) : (starting c m).Matched := by
  left
  unfold starting
  cases p with
  | fetch =>
    have hs : c.state = c.fetchState := hp
    rw [hs]
    exact wakesOf_fetchState c _
  | data insn plan =>
    have hs : c.state = c.accessState insn plan := hp
    rw [hs]
    unfold Rv32iCpu.accessState
    split_ifs <;> exact ⟨_, rfl, rfl⟩

lemma trapped_of_commit {cause : TrapCause} {tval : UInt32} {seen : Seen} {level : Bool}
    (hprofile : c.config.profile = .m3)
    (h : (c.hart.withLevel level).commit (.trap cause tval) = (seen.hart, seen.halt)) :
    c.Trapped cause tval seen := by
  unfold Hart.commit Outcome.trap at h
  dsimp only at h
  rw [if_pos (show (c.hart.withLevel level).config.profile = .m3 from hprofile)] at h
  split at h
  · rename_i handler m3 hdelivered
    obtain ⟨-, -, spp, -, rfl⟩ := M3State.takeException_eq_some hdelivered
    obtain ⟨hhart, hhalt⟩ := Prod.mk.inj h
    refine .inr ⟨hhalt.symm, ?_⟩
    rw [← hhart]
    exact ⟨rfl, rfl, rfl, rfl⟩
  · exact .inl (Prod.mk.inj h).2.symm

/-- For every CPU of the `M3` profile that is about to make an access, every memory and every
schedule: if `sv32Translate` faults, the entries it reads are read, no access goes out, and the
fault is committed with the virtual address; if it returns an address, the entries are read and then
the access goes out once, at that address, before whatever the same instruction does next.  Without
translation there are no entries and the address is the virtual one.  A misaligned load or store
that has been fetched asks for nothing and traps.  And a schedule that goes on dispatching gets
there. -/
theorem walk_translates [SnapshotFields] (hstrict : Strict) (hmade : c.Made)
    (hprofile : c.config.profile = .m3) (hp : c.AboutTo p) (m : μ) {actions : List Action}
    (hrun : (starting c m).run actions = .ok s) :
    (∀ fault entries, c.translation p m = (.error fault, entries) →
        s.asked <+: pteReads entries ∧
        ∀ first rest, (observe s.log).seen = first :: rest →
          first.requests = pteReads entries ∧ c.Trapped (fault.cause p.access) (c.va p) first) ∧
      (∀ pa entries, c.translation p m = (.ok pa, entries) →
        s.asked <+: pteReads entries ++ p.request pa :: c.following p pa m ∧
        ∀ first rest, (observe s.log).seen = first :: rest →
          first.requests = pteReads entries ++ p.request pa :: c.following p pa m) ∧
      (c.translating = false → c.translation p m = (.ok (c.va p).toUInt64, [])) ∧
      (∀ pa entries word cause addr, c.translation .fetch m = (.ok pa, entries) →
        ByteMemory.word m pa = some word → Misaligned c.regs word cause addr →
        c.following .fetch pa m = [] ∧
        ∀ first rest, p = .fetch → (observe s.log).seen = first :: rest →
          c.Trapped cause addr first) ∧
      ((observe s.log).seen = [] → ∀ more : List Action, 20 ≤ more.count (.dispatch 0) →
        ∃ pre s', pre <+: more ∧ s.run pre = .ok s' ∧
          ((observe s'.log).seen.length = 1 ∨ s'.cpu.nextTxn = UInt64.ofNat (2 ^ 64 - 1))) := by
  have hsound₀ := hmade.sound hstrict
  obtain ⟨hmatched, hsound, hfirst⟩ := run_induction
    (I := fun s => s.cpu.Sound ∧ s.First c.hart (c.toDo p m))
    (fun _ _ _ ⟨hsound, hfirst⟩ ha => ⟨sound_advances hsound ha, hfirst.advances hsound.valid ha⟩)
    (matched_starting hp m) ⟨hsound₀, first_starting hprofile hp m⟩ hrun
  refine ⟨fun fault entries h => ?_, fun pa entries h => ?_, fun hoff => ?_,
    fun pa entries word cause addr h hword hmisaligned => ?_, fun hseen more hcount => ?_⟩
  · rw [Rv32iCpu.toDo_error h] at hfirst
    refine ⟨hfirst.asked, fun first rest hseen => ?_⟩
    obtain ⟨hrequests, level, hcommit⟩ := hfirst.seen hseen
    exact ⟨hrequests, trapped_of_commit hprofile hcommit⟩
  · have hrequests := Rv32iCpu.requests_toDo_ok hprofile h
    rw [← hrequests]
    exact ⟨hfirst.asked, fun first rest hseen => (hfirst.seen hseen).1⟩
  · rw [← Rv32iCpu.translate_hart hprofile]
    exact Rv32iCpu.translate_of_not_translating hoff _ _ m
  · have hstep : Rv32i.step c.isa word c.pc c.regs = .done (.trap cause addr) := by
      rw [Rv32iCpu.isa_of_m3 hprofile]
      exact step_of_misaligned hmisaligned
    refine ⟨?_, fun first rest hfetch hseen => ?_⟩
    · unfold Rv32iCpu.following
      simp only [hword, hstep]
    · subst hfetch
      obtain ⟨-, level, hcommit⟩ := hfirst.seen hseen
      have houtcome : (c.toDo .fetch m).outcome = .trap cause addr := by
        unfold Rv32iCpu.toDo
        rw [h]
        change (c.hart.decoded (ByteMemory.word m pa) m).outcome = _
        rw [hword, Hart.decoded_done (h := c.hart) hstep]
      rw [houtcome] at hcommit
      exact trapped_of_commit hprofile hcommit
  · cases hfirst with
    | committed hseen' => cases hseen.symm.trans hseen'
    | underway _ hhart he _ =>
      have hm3 : s.cpu.config.profile = .m3 := by
        rw [show s.cpu.config = c.config from congrArg Hart.config hhart, hprofile]
      obtain ⟨pre, s', hpre, hrun', hend⟩ := run_progress hsound hmatched he
        (fun hm1 => by rw [hm3] at hm1; cases hm1) ((rank_le s).trans hcount)
      refine ⟨pre, s', hpre, hrun', ?_⟩
      rw [hseen] at hend
      rcases hend with hone | ⟨-, hexhausted⟩
      · exact .inl hone
      · exact .inr hexhausted

section

open Canonical

/-- A CPU in U-mode with its page table at address 0, about to fetch at `0x1000`. -/
def walkingCpu : Rv32iCpu :=
  { Rv32iCpu.reset Rv32iCpu.exampleConfig with
    m3 := { M3State.new with privilege := .user, satp := 0x80000000 }
    state := .walkIssue { purpose := .fetch, level := 1, table := 0 } }

/-- A megapage at address 0 that U-mode may execute, and nothing behind it. -/
def megapage : Ram := ⟨[0x5b, 0, 0, 0]⟩

lemma made_walkingCpu : walkingCpu.Made := by
  have hnew : Rv32iCpu.new Rv32iCpu.exampleConfig = .ok (.reset Rv32iCpu.exampleConfig) := rfl
  have hsound := (Rv32iCpu.sound_new hnew).1
  have hlegal := hsound.valid.legal
  have hvalid : walkingCpu.Valid :=
    ⟨⟨hlegal.pc, hlegal.machine, hlegal.m1, fun _ => ⟨rfl, rfl, rfl, rfl⟩⟩,
      ⟨rfl, .inr rfl, rfl, fun _ => rfl, fun _ _ h => by cases h⟩, rfl, fun _ htxn => by cases htxn⟩
  have hnumbered : walkingCpu.Numbered := fun _ htxn => by cases htxn
  exact Rv32iCpu.Sound.made snapshotFields_strict
    ⟨hvalid, fun h => absurd rfl h, fun _ => hnumbered⟩ hnumbered hnew

theorem walk_translates_megapage : ∃ s first,
    (starting walkingCpu megapage).run (List.replicate 7 (.dispatch 0)) = .ok s ∧
      (observe s.log).seen = [first] ∧
      walkingCpu.translation .fetch megapage = (.ok 0x1000, [0]) ∧
      first.requests = [.read 0 4, .read 0x1000 4] := by
  obtain ⟨s, first, hrun, hseen⟩ : ∃ s first,
      (starting walkingCpu megapage).run (List.replicate 7 (.dispatch 0)) = .ok s ∧
        (observe s.log).seen = [first] := ⟨_, _, rfl, rfl⟩
  have htranslation : walkingCpu.translation .fetch megapage = (.ok 0x1000, [0]) := rfl
  have habout : walkingCpu.AboutTo .fetch := rfl
  have hwalk := walk_translates snapshotFields_strict made_walkingCpu rfl habout megapage hrun
  exact ⟨s, first, hrun, hseen, htranslation, (hwalk.2.1 _ _ htranslation).2 first [] hseen⟩

end

end System

end SystemScope.Rv32i
