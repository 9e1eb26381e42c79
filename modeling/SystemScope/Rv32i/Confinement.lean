import SystemScope.Rv32i.Precise

/-!
# Confinement

Below M-mode no event touches the machine part of the state or enters M-mode, except the entry of
the machine external interrupt at a retirement; in U-mode none touches the supervisor part or enters
S-mode, except the delivery of a delegated exception.  Whatever word is in memory: the outcome of
every word has passed the mode it runs in (`Retires`).
-/

namespace SystemScope.Rv32i

open SnapshotFields

namespace Rv32iCpu

/-- Two CPUs with the same machine part. -/
structure SameMachine (c c' : Rv32iCpu) : Prop where
  mtvec : c'.csrs.mtvec = c.csrs.mtvec
  mscratch : c'.csrs.mscratch = c.csrs.mscratch
  mepc : c'.csrs.mepc = c.csrs.mepc
  mcause : c'.csrs.mcause = c.csrs.mcause
  mtval : c'.csrs.mtval = c.csrs.mtval
  meie : c'.csrs.meie = c.csrs.meie
  mie : c'.csrs.mie = c.csrs.mie
  mpie : c'.csrs.mpie = c.csrs.mpie
  mpp : c'.m3.mpp = c.m3.mpp
  medeleg : c'.m3.medeleg = c.m3.medeleg

/-- Two CPUs with the same supervisor part. -/
structure SameSupervisor (c c' : Rv32iCpu) : Prop where
  satp : c'.m3.satp = c.m3.satp
  sscratch : c'.m3.sscratch = c.m3.sscratch
  stvec : c'.m3.stvec = c.m3.stvec
  sepc : c'.m3.sepc = c.m3.sepc
  scause : c'.m3.scause = c.m3.scause
  stval : c'.m3.stval = c.m3.stval
  sum : c'.m3.sum = c.m3.sum
  mxr : c'.m3.mxr = c.m3.mxr
  sie : c'.m3.sie = c.m3.sie
  spie : c'.m3.spie = c.m3.spie
  spp : c'.m3.spp = c.m3.spp

/-- Nothing above the mode of the CPU is touched or entered. -/
structure Keeps (c c' : Rv32iCpu) : Prop where
  machine : c.m3.privilege ≠ .machine → c.SameMachine c' ∧ c'.m3.privilege ≠ .machine
  supervisor : c.m3.privilege = .user → c.SameSupervisor c' ∧ c'.m3.privilege ≠ .supervisor

variable {c c' d : Rv32iCpu} {ev : Delivered} {insn : UInt32} {outcome : Outcome}
  {pa : Option UInt64} {fields : List (String × Value)}

lemma SameArch.machine (h : c.SameArch c') : c.SameMachine c' := by
  constructor <;> first | rw [h.csrs] | rw [h.m3]

lemma SameSupervisor.of_eq (h : c'.m3 = c.m3) : c.SameSupervisor c' := by
  constructor <;> rw [h]

lemma SameMachine.congr (h : c.SameMachine d) (hcsrs : c'.csrs = d.csrs) (hm3 : c'.m3 = d.m3) :
    c.SameMachine c' := by
  obtain ⟨⟩ := h
  constructor <;> first | rwa [hcsrs] | rwa [hm3]

/-- What is kept is kept, whatever the exceptions are. -/
lemma Keeps.or_exceptions {p q : Prop} (h : c.Keeps c') :
    (c.m3.privilege ≠ .machine → c.SameMachine c' ∧ c'.m3.privilege ≠ .machine ∨ p) ∧
      (c.m3.privilege = .user → c.SameSupervisor c' ∧ c'.m3.privilege ≠ .supervisor ∨ q) :=
  ⟨fun hmode => .inl (h.machine hmode), fun hmode => .inl (h.supervisor hmode)⟩

lemma SameArch.keeps (h : c.SameArch c') : c.Keeps c' where
  machine hmode := ⟨h.machine, by rwa [h.m3]⟩
  supervisor hmode := by
    refine ⟨.of_eq h.m3, ?_⟩
    rw [h.m3, hmode]
    decide

/-! ## CSR accesses -/

lemma not_accessible_machine {csr : UInt16} {mode : Privilege} {write : Bool}
    (hmode : mode ≠ .machine)
    (hcsr : csr ∈ M3State.machineCsrs ∨ csr = Csr.mstatus ∨ csr = Csr.medeleg ∨ csr = Csr.mideleg) :
    accessible csr mode write = false := by
  simp only [M3State.machineCsrs, List.mem_cons, List.not_mem_nil, or_false] at hcsr
  rcases hcsr with (rfl | rfl | rfl | rfl | rfl | rfl | rfl) | rfl | rfl | rfl <;>
    cases mode <;> first | exact absurd rfl hmode | cases write <;> decide

/-- Every CSR is out of reach in U-mode. -/
lemma not_accessible_user {csr : UInt16} {s : M3State} {m : CsrFile} {write : Bool}
    (hread : (s.read m csr).isSome = true) : accessible csr .user write = false := by
  by_cases hmachine : csr ∈ M3State.machineCsrs
  · exact not_accessible_machine (by decide) (.inl hmachine)
  unfold M3State.read at hread
  split_ifs at hread with h1 h2 h3 h4 h5 h6 h7 h8 h9 h10
  case neg => cases hread
  all_goals first
    | subst csr
      cases write <;> decide
    | rcases h4 with rfl | rfl | rfl <;> cases write <;> decide

/-- A CSR write below M-mode leaves the machine part alone. -/
lemma writeCsr_machine {csr : UInt16} {value : UInt32} {write : Bool}
    (hprofile : c.config.profile = .m3) (hmode : c.m3.privilege ≠ .machine)
    (haccess : accessible csr c.m3.privilege write = true)
    (h : c.writeCsr csr value = some d) : SameMachine c d ∧ d.m3.privilege = c.m3.privilege := by
  unfold writeCsr at h
  rw [hprofile] at h
  obtain ⟨⟨m3, csrs⟩, hwrite, rfl⟩ := Option.map_eq_some_iff.mp h
  have hout {csr : UInt16} (haccess : accessible csr c.m3.privilege write = true)
      (hcsr : csr ∈ M3State.machineCsrs ∨ csr = Csr.mstatus ∨ csr = Csr.medeleg ∨
        csr = Csr.mideleg) :
      False := by
    rw [not_accessible_machine hmode hcsr] at haccess
    cases haccess
  cases M3State.writes_of_write hwrite with
  | mstatus => exact (hout haccess (.inr (.inl rfl))).elim
  | medeleg => exact (hout haccess (.inr (.inr (.inl rfl)))).elim
  | machine hcsr => exact (hout haccess (.inl hcsr)).elim
  | _ => exact ⟨⟨rfl, rfl, rfl, rfl, rfl, rfl, rfl, rfl, rfl, rfl⟩, rfl⟩

/-! ## Retirement -/

/-- Below M-mode, an instruction leaves the machine part alone and does not enter M-mode. -/
lemma Retires.machine (hprofile : c.config.profile = .m3) (hmode : c.m3.privilege ≠ .machine)
    (h : c.Retires insn pa outcome d fields) : SameMachine c d ∧ d.m3.privilege ≠ .machine := by
  cases h with
  | effect => exact ⟨⟨rfl, rfl, rfl, rfl, rfl, rfl, rfl, rfl, rfl, rfl⟩, hmode⟩
  | csr hm1 hpc hm3 hread hwrite =>
    split_ifs at hwrite
    · obtain ⟨hsame, hprivilege⟩ := writeCsr_machine hprofile hmode (hm3 hprofile) hwrite
      exact ⟨hsame.congr rfl rfl, fun hm => hmode (hprivilege.symm.trans hm)⟩
    · cases hwrite
      exact ⟨⟨rfl, rfl, rfl, rfl, rfl, rfl, rfl, rfl, rfl, rfl⟩, hmode⟩
  | mret hm1 hm3 => exact absurd (hm3 hprofile) hmode
  | sret =>
    refine ⟨⟨rfl, rfl, rfl, rfl, rfl, rfl, rfl, rfl, rfl, rfl⟩, ?_⟩
    change c.m3.spp.privilege ≠ .machine
    cases c.m3.spp <;> decide

/-- In U-mode, an instruction leaves the rest of the state of the modes alone too. -/
lemma Retires.user (hprofile : c.config.profile = .m3) (hmode : c.m3.privilege = .user)
    (h : c.Retires insn pa outcome d fields) : d.m3 = c.m3 := by
  cases h with
  | effect => rfl
  | csr hm1 hpc hm3 hread hwrite =>
    have haccess := hm3 hprofile
    unfold readCsr at hread
    rw [hprofile] at hread
    rw [hmode, not_accessible_user (Option.isSome_iff_exists.mpr ⟨_, hread⟩)] at haccess
    cases haccess
  | mret hm1 hm3 =>
    rw [hm3 hprofile] at hmode
    cases hmode
  | sret _ hnot => exact absurd hmode hnot

lemma Retires.keeps (hprofile : c.config.profile = .m3) (h : c.Retires insn pa outcome d fields)
    (hcsrs : c'.csrs = d.csrs) (hm3 : c'.m3 = d.m3) : c.Keeps c' where
  machine hmode := by
    obtain ⟨hsame, hprivilege⟩ := h.machine hprofile hmode
    exact ⟨hsame.congr hcsrs hm3, hm3 ▸ hprivilege⟩
  supervisor hmode := by
    have huser := hm3.trans (h.user hprofile hmode)
    refine ⟨.of_eq huser, ?_⟩
    rw [huser, hmode]
    decide

/-! ## Events -/

/-- Whatever is in memory and whatever the event: below M-mode the machine part is changed and
M-mode entered only by the interrupt entry at a retirement; in U-mode the supervisor part is changed
and S-mode entered only by the delivery of a delegated exception. -/
theorem event_confined [SnapshotFields] (hstrict : Strict) (hmade : c.Made)
    (hprofile : c.config.profile = .m3) (h : (c.handleEvent ev).Ends c') :
    (c.m3.privilege ≠ .machine →
      c.SameMachine c' ∧ c'.m3.privilege ≠ .machine ∨
        c.Committing ev ∧ ∃ d, c.Retired d ∧ c.SameMachine d ∧ d.m3.privilege ≠ .machine ∧
          d.counted.MeiEligible ∧ c' = d.counted.sampled.resume) ∧
      (c.m3.privilege = .user →
        c.SameSupervisor c' ∧ c'.m3.privilege ≠ .supervisor ∨
          c.Committing ev ∧ c.Delivers c') := by
  have hsound := hmade.sound hstrict
  rcases eq_or_moves_of_ends h with rfl | ⟨phase, calls, hmoves⟩
  · exact (SameArch.refl c').keeps.or_exceptions
  by_cases hcommitting : c.Committing ev
  swap
  · exact (hmoves.sameArch hcommitting).keeps.or_exceptions
  have hcommits : c.Commits calls c' := by
    obtain ⟨rfl, insn, outcome, pa, hs⟩ := hcommitting
    cases hmoves with
    | issue hi hn =>
      generalize htoken : Token.commit = token at hi
      cases hi <;> cases htoken
    | commit hc => exact hc
  cases hcommits with
  | halt hs hd =>
    refine Keeps.or_exceptions (SameArch.keeps ?_)
    exact ⟨rfl, rfl, rfl, rfl, rfl⟩
  | exception hs hd =>
    unfold delivery at hd
    rw [if_pos hprofile] at hd
    obtain ⟨hdelegates, rfl, spp, hspp, rfl⟩ := M3State.takeException_eq_some hd
    refine ⟨fun _ => .inl ⟨⟨rfl, rfl, rfl, rfl, rfl, rfl, rfl, rfl, rfl, rfl⟩, ?_⟩,
      fun _ => .inr ⟨hcommitting, _, _, _, spp, hs, hprofile, hdelegates, hspp, rfl⟩⟩
    exact (by decide : Privilege.supervisor ≠ .machine)
  | limit hs hr hl =>
    refine Keeps.or_exceptions ((hsound.valid.retires hs hr).keeps hprofile ?_ ?_) <;> rfl
  | retire hs hr hl =>
    rename_i d fields
    have hretires := hsound.valid.retires hs hr
    have hconfig : d.config.profile = .m3 := by rw [(retire_frame_of_eq hr).config, hprofile]
    rcases d.counted.sampled_cases with ⟨-, h⟩ | ⟨hm2, -, -⟩ | ⟨-, helig, h⟩
    · exact (hretires.keeps hprofile (by rw [h]; rfl) (by rw [h]; rfl)).or_exceptions
    · cases hconfig.symm.trans hm2
    · refine ⟨fun hmode => .inr ⟨hcommitting, d, ⟨_, _, _, _, hs, not_trap_of_retire hr, hr⟩, ?_⟩,
        fun hmode => .inl ?_⟩
      · obtain ⟨hsame, hprivilege⟩ := hretires.machine hprofile hmode
        exact ⟨hsame, hprivilege, .inr ⟨hconfig, helig⟩, rfl⟩
      · have huser : d.m3 = c.m3 := hretires.user hprofile hmode
        have hm3 : d.counted.sampled.resume.m3 =
            { c.m3 with mpp := c.m3.privilege, privilege := .machine } := by
          rw [h, ← huser]
          rfl
        refine ⟨by constructor <;> rw [hm3], ?_⟩
        rw [hm3]
        exact (by decide : Privilege.machine ≠ .supervisor)

open Canonical in
/-- An instruction retires in U-mode, and M-mode is entered by the interrupt that follows it. -/
theorem event_confined_interrupted : interruptedCpu.m3.privilege = .user ∧
    ∃ c', (interruptedCpu.handleEvent (.wake Token.commit)).Ends c' ∧ c'.m3.privilege = .machine ∧
      interruptedCpu.SameSupervisor c' ∧
      ∃ d, interruptedCpu.Retired d ∧ interruptedCpu.SameMachine d ∧ d.counted.MeiEligible ∧
        c' = d.counted.sampled.resume := by
  have hends := Handler.ends_of_perform ⟨0, 0, .commit, fun _ => 0⟩
    (interruptedCpu.handleEvent (.wake Token.commit))
  have hconfined := event_confined snapshotFields_strict made_interruptedCpu rfl hends
  refine ⟨rfl, _, hends, rfl, ?_, ?_⟩
  · rcases hconfined.2 rfl with hkeeps | ⟨-, insn, t, pa, spp, hs, -⟩
    · exact hkeeps.1
    · cases hs
  · rcases hconfined.1 (by decide) with hkeeps | ⟨-, d, hretired, hsame, -, helig, heq⟩
    · exact absurd rfl hkeeps.2
    · exact ⟨d, hretired, hsame, helig, heq⟩

end Rv32iCpu

end SystemScope.Rv32i
