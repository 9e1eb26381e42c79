import SystemScope.Rv32i.Invariant

/-!
# Reachable CPUs

From reset, whatever program is in memory, however memory answers, whatever the interrupt line
does and whichever calls of the runtime fail, the CPU stays `Sound`.  `evolves_architectural` spells
out what that says about the architectural state.
-/

namespace SystemScope.Rv32i

namespace Rv32iCpu

/-- What holds of a CPU that has been built and has only handled events. -/
structure Sound (c : Rv32iCpu) : Prop where
  valid : c.Valid
  confined : c.Confined
  numbered : c.config.profile ≠ .m1 → c.Numbered

variable {c c' d : Rv32iCpu} {insn : UInt32} {outcome : Outcome} {pa : Option UInt64}
  {fields : List (String × Value)} {phase : Phase} {ev : Delivered} {calls : List Call}

/-! ## What a move leaves alone -/

lemma writeCsr_m3 {csr : UInt16} {value : UInt32} (hprofile : c.config.profile ≠ .m3)
    (h : c.writeCsr csr value = some d) : d.m3 = c.m3 := by
  unfold writeCsr at h
  split at h
  · obtain ⟨_, -, rfl⟩ := Option.map_eq_some_iff.mp h
    rfl
  · obtain ⟨_, -, rfl⟩ := Option.map_eq_some_iff.mp h
    rfl
  · rename_i hm3
    exact absurd hm3 hprofile

lemma Retires.m3 (hprofile : c.config.profile ≠ .m3) (h : c.Retires insn pa outcome d fields) :
    d.m3 = c.m3 := by
  cases h with
  | effect => rfl
  | csr hm1 hpc hm3 hread hwrite =>
    split_ifs at hwrite
    · have hm3 := writeCsr_m3 hprofile hwrite
      exact hm3
    · cases hwrite
      rfl
  | mret =>
    unfold Rv32iCpu.mret
    split
    · rfl
    · rfl
    · rename_i hm3
      exact absurd hm3 hprofile
  | sret hm3 => exact absurd hm3 hprofile

lemma sampled_m3 (hprofile : c.config.profile ≠ .m3) : c.sampled.m3 = c.m3 := by
  rcases c.sampled_cases with ⟨-, h⟩ | ⟨-, -, h⟩ | ⟨hm3, -, -⟩
  · rw [h]
  · rw [h]
  · exact absurd hm3 hprofile

lemma Moves.config (h : c.Moves phase ev calls c') : c'.config = c.config := by
  cases h with
  | issue | answer | irq => rfl
  | commit hc =>
    cases hc with
    | halt | exception => rfl
    | limit hs hr hl => exact (retire_frame_of_eq hr).config
    | retire hs hr hl =>
      exact sampled_frame.config.trans (retire_frame_of_eq hr).config

/-- The `M3` state is never touched in the other profiles. -/
lemma Moves.m3 (hc : c.Valid) (hprofile : c.config.profile ≠ .m3)
    (h : c.Moves phase ev calls c') : c'.m3 = c.m3 := by
  cases h with
  | issue | answer | irq => rfl
  | commit h =>
    cases h with
    | halt => rfl
    | exception hs hd =>
      unfold delivery at hd
      rw [if_neg hprofile] at hd
      cases hd
    | limit hs hr hl =>
      have hm3 := (hc.retires hs hr).m3 hprofile
      exact hm3
    | retire hs hr hl =>
      rename_i d _
      have hconfig := (retire_frame_of_eq hr).config
      have hm3 := (hc.retires hs hr).m3 hprofile
      have hsampled : d.counted.sampled.m3 = d.counted.m3 := sampled_m3 (hconfig ▸ hprofile)
      exact hsampled.trans hm3

/-- Only a request that is sent leaves one outstanding. -/
lemma Commits.outstanding (h : c.Commits calls c') : c'.state.outstanding = none := by
  cases h with
  | halt | limit => rfl
  | exception | retire =>
    unfold resume enter fetchState
    split_ifs <;> rfl

lemma Numbered.moves (hn : c.Numbered) (hprofile : c.config.profile ≠ .m1)
    (h : c.Moves phase ev calls c') : c'.Numbered := by
  intro txn htxn
  cases h with
  | issue hi hnext => exact (advanceTxn_eq_some hnext).2 hprofile
  | answer hp ha => cases ha.running.2.2.symm.trans htxn
  | irq => exact hn txn htxn
  | commit h => cases h.outstanding.symm.trans htxn

/-! ## Reachable CPUs are sound -/

lemma Sound.moves (hc : c.Sound) (h : c.Moves phase ev calls c') : c'.Sound where
  valid := hc.valid.moves h
  confined hprofile := by
    rw [h.config] at hprofile
    rw [h.m3 hc.valid hprofile]
    exact hc.confined hprofile
  numbered hprofile := by
    rw [h.config] at hprofile
    exact (hc.numbered hprofile).moves hprofile h

lemma sound_new {config : Rv32iConfig} (h : Rv32iCpu.new config = .ok c) :
    c.Sound ∧ c.config = config := by
  unfold Rv32iCpu.new at h
  split_ifs at h with hentry
  cases h
  have haligned : Aligned config.entry := aligned_iff_mod.mpr (not_not.mp hentry)
  have hcount : (0 : UInt64) < config.maxInstructions := UInt64.pos_iff_ne_zero.mpr config.nonzero
  refine ⟨⟨⟨⟨haligned, CsrFile.legal_new, fun _ => rfl, fun _ => M3State.legal_new⟩, ?_,
    decide_eq_true hcount, fun _ htxn => by cases htxn⟩, fun _ => rfl,
    fun _ _ htxn => by cases htxn⟩, rfl⟩
  unfold Fits Translated translating M3State.translates
  simp [reset, M3State.new]

lemma Sound.ends (hc : c.Sound) (h : (c.handleEvent ev).Ends c') :
    c'.Sound ∧ c'.config = c.config := by
  rcases eq_or_moves_of_ends h with rfl | ⟨phase, calls, hmoves⟩
  · exact ⟨hc, rfl⟩
  · exact ⟨hc.moves hmoves, hmoves.config⟩

lemma Sound.evolves [SnapshotFields] {c₀ : Rv32iCpu} (hc : c₀.Sound)
    (h : Component.Evolves c₀ c) : c.Sound ∧ c.config = c₀.config := by
  induction h with
  | refl => exact ⟨hc, rfl⟩
  | init _ hends ih =>
    obtain rfl := eq_of_init_ends hends
    exact ih
  | event _ ev hends ih =>
    obtain ⟨hsound, hconfig⟩ := ih.1.ends hends
    exact ⟨hsound, hconfig.trans ih.2⟩

/-- A move is made by an event whose calls succeed. -/
lemma evolves_of_moves [SnapshotFields] {c₀ : Rv32iCpu} (h : Component.Evolves c₀ c)
    (hm : c.Moves phase ev calls c') : Component.Evolves c₀ c' := by
  have hends := Handler.ends_of_perform ⟨0, 0, phase, fun _ => 0⟩ (c.handleEvent ev)
  rw [perform_of_moves _ hm] at hends
  exact .event h ev hends

/-! ## What it says -/

/-- The walk the CPU is in. -/
def walk? (c : Rv32iCpu) : Option Walk :=
  match c.state with
  | .walkIssue walk => some walk
  | .walkWait _ walk => some walk
  | _ => none

/-- The physical address the CPU holds. -/
def pa? (c : Rv32iCpu) : Option UInt64 :=
  match c.state with
  | .fetchIssue pa => pa
  | .fetchWait _ pa => pa
  | .memIssue _ _ pa => pa
  | .memWait _ _ _ pa => pa
  | .commitPending _ _ pa => pa
  | _ => none

/-- The virtual address of the access the CPU is at, past its walk: a fetch, or a load or store
until it retires. -/
def va? (c : Rv32iCpu) : Option UInt32 :=
  match c.state with
  | .fetchIssue _ => some c.pc
  | .fetchWait _ _ => some c.pc
  | .memIssue _ plan _ => some (planAddr plan)
  | .memWait _ _ plan _ => some (planAddr plan)
  | .commitPending insn outcome _ => (retiringAccess c.isa c.pc c.regs insn outcome).map planAddr
  | _ => none

/-- A physical address is held exactly for an access that is translated. -/
lemma Valid.translated_pa (hc : c.Valid) :
    match c.va? with
    | some va => c.Translated c.pa? va
    | none => c.pa? = none := by
  have hfits := hc.state
  unfold va? pa?
  cases hs : c.state with
  | fetchIssue pa | fetchWait txn pa =>
    rw [hs] at hfits
    exact hfits
  | memIssue insn plan pa | memWait txn insn plan pa =>
    rw [hs] at hfits
    exact hfits.2
  | commitPending insn outcome pa =>
    rw [hs] at hfits
    obtain ⟨-, hpa⟩ := hfits
    dsimp only
    cases haccess : retiringAccess c.isa c.pc c.regs insn outcome with
    | some plan =>
      rw [haccess] at hpa
      exact hpa
    | none =>
      rw [haccess] at hpa
      exact hpa
  | _ => rfl

lemma Valid.walkFits (hc : c.Valid) {walk : Walk} (h : c.walk? = some walk) : c.WalkFits walk := by
  have hfits := hc.state
  unfold walk? at h
  split at h
  · rename_i hs
    rw [hs] at hfits
    cases h
    exact hfits
  · rename_i hs
    rw [hs] at hfits
    cases h
    exact hfits
  · cases h

lemma Sound.m3_legal (hc : c.Sound) : c.m3.Legal := by
  by_cases hprofile : c.config.profile = .m3
  · exact hc.valid.legal.m3 hprofile
  · rw [hc.confined hprofile]
    exact M3State.legal_new

lemma Valid.count_cases (hc : c.Valid) :
    c.state = .halted .instructionLimit ∧ c.instret = c.config.maxInstructions ∨
      c.state ≠ .halted .instructionLimit ∧ c.instret < c.config.maxInstructions := by
  have hcount := hc.count
  unfold CountFits consistentCount at hcount
  split at hcount
  · rename_i hs
    exact .inl ⟨hs, of_decide_eq_true hcount⟩
  · rename_i hs
    exact .inr ⟨hs, of_decide_eq_true hcount⟩

/-- In every reachable CPU: addresses are aligned, `x0` reads 0, CSRs stay within their masks, the
instruction limit is reached exactly in its halt, a walk is at level 0 or 1, from the root at level
1, and a physical address is one of 34 bits with the offset of the virtual address it translates;
both are there only while translating. -/
theorem evolves_architectural [SnapshotFields] {config : Rv32iConfig} {c₀ c : Rv32iCpu}
    (hnew : Rv32iCpu.new config = .ok c₀) (h : Component.Evolves c₀ c) :
    c.pc.toNat % 4 = 0 ∧ c.csrs.mepc.toNat % 4 = 0 ∧ c.m3.sepc.toNat % 4 = 0 ∧
      c.csrs.mtvec.toNat % 4 = 0 ∧ c.m3.stvec.toNat % 4 = 0 ∧
      c.regs.read .zero = 0 ∧
      c.m3.medeleg &&& ~~~0xB1FF = 0 ∧ c.m3.satp &&& satpAsid = 0 ∧
      c.instret ≤ config.maxInstructions ∧
      (c.instret = config.maxInstructions ↔ c.state = .halted .instructionLimit) ∧
      (∀ walk, c.walk? = some walk → c.translating = true ∧ (walk.level = 0 ∨ walk.level = 1) ∧
        (walk.level = 1 → walk.table = c.m3.satp &&& satpPpn)) ∧
      ∀ pa, c.pa? = some pa → c.translating = true ∧ pa.toNat < 2 ^ 34 ∧
        ∃ va, c.va? = some va ∧ pa.toNat % 4096 = va.toNat % 4096 := by
  obtain ⟨hsound, hconfig⟩ := sound_new hnew
  obtain ⟨hc, hconfig'⟩ := hsound.evolves h
  have hlegal := hc.valid.legal
  have hm3 := hc.m3_legal
  have hmax : c.config.maxInstructions = config.maxInstructions := by rw [hconfig', hconfig]
  have hcount := hc.valid.count_cases
  rw [hmax] at hcount
  refine ⟨hlegal.pc, hlegal.machine.mepc, hm3.sepc, hlegal.machine.mtvec, hm3.stvec,
    RegisterFile.read_zero _, hm3.medeleg, hm3.satp, ?_, ?_, fun walk hwalk => ?_, fun p hpa => ?_⟩
  · rcases hcount with ⟨-, heq⟩ | ⟨-, hlt⟩
    · exact UInt64.le_of_eq heq
    · exact UInt64.le_of_lt hlt
  · rcases hcount with ⟨hs, heq⟩ | ⟨hs, hlt⟩
    · exact ⟨fun _ => hs, fun _ => heq⟩
    · exact ⟨fun heq => absurd heq (UInt64.ne_of_lt hlt), fun h => absurd h hs⟩
  · have hfits := hc.valid.walkFits hwalk
    exact ⟨hfits.translating, hfits.level, hfits.root⟩
  · have hheld := hc.valid.translated_pa
    cases hva : c.va? with
    | none =>
      rw [hva, hpa] at hheld
      cases hheld
    | some va =>
      rw [hva, hpa] at hheld
      obtain ⟨htranslating, hlt, hoffset⟩ := hheld
      exact ⟨htranslating, hlt, va, rfl, hoffset⟩

section

open Canonical

/-- A CPU of the `M3` profile. -/
def exampleConfig : Rv32iConfig where
  clock := 0
  entry := 0x1000
  maxInstructions := 5
  nonzero := Rv32iConfig.five_ne_zero
  profile := .m3

theorem evolves_architectural_fetching : ∃ c₀ c, Rv32iCpu.new exampleConfig = .ok c₀ ∧
    Component.Evolves c₀ c ∧ c.state = .fetchWait 0 none ∧ c.pc.toNat % 4 = 0 := by
  have hnew : Rv32iCpu.new exampleConfig = .ok (reset exampleConfig) := rfl
  have hmoves : (reset exampleConfig).Moves .request (.wake Token.fetch) _ _ :=
    .issue (.fetch rfl) rfl
  have hevolves := evolves_of_moves .refl hmoves
  exact ⟨_, _, hnew, hevolves, rfl, (evolves_architectural hnew hevolves).1⟩

end

end Rv32iCpu

end SystemScope.Rv32i
