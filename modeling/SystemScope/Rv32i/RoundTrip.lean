import SystemScope.Rv32i.Restoring

/-!
# Snapshots of a running CPU

A CPU that has been built, given events and given snapshots is `Sound`.  So a snapshot taken at any
event boundary is accepted by every CPU of the same configuration and gives the same CPU back
(`restore_snapshot_iff`), with one exception: the transaction counter of the `M1` profile wraps, and
the last request before it does cannot be restored while it is outstanding.  A restore that is
accepted is canonical, and one that is refused changes nothing (`restore_canonical`).
-/

namespace SystemScope.Rv32i

open SnapshotFields

namespace Rv32iCpu

section

variable [SnapshotFields]

/-- The CPUs there are: built, then given events and snapshots. -/
inductive Made : Rv32iCpu → Prop
  | new {config : Rv32iConfig} {c : Rv32iCpu} (h : Rv32iCpu.new config = .ok c) : Made c
  | init {c c' : Rv32iCpu} (h : Made c) (hends : c.init.Ends c') : Made c'
  | event {c c' : Rv32iCpu} (h : Made c) (ev : Delivered) (hends : (c.handleEvent ev).Ends c') :
      Made c'
  | restore {c : Rv32iCpu} (h : Made c) (bs : Bytes) (schema : UInt32) :
      Made (c.restore bs schema).1

variable {c c' : Rv32iCpu}

/-- A restore that is refused changes nothing. -/
lemma eq_of_restore_error {bs : Bytes} {schema : UInt32} {e : RestoreError}
    (h : c.restore bs schema = (c', .error e)) : c' = c := by
  unfold restore at h
  split_ifs at h
  · cases h
    rfl
  all_goals
    split at h
    · cases h
    · cases h
      rfl

lemma Sound.restore (hstrict : Strict) (hc : c.Sound) (bs : Bytes) (schema : UInt32) :
    (c.restore bs schema).1.Sound := by
  obtain ⟨c', result, h⟩ : ∃ c' result, c.restore bs schema = (c', result) := ⟨_, _, rfl⟩
  rw [h]
  cases result with
  | error e =>
    rw [eq_of_restore_error h]
    exact hc
  | ok rest =>
    obtain ⟨-, hconfig, hm3, hvalid, hnumbered, -⟩ := (restore_eq_ok_iff hstrict).mp h
    refine ⟨hvalid, fun hprofile => ?_, fun _ => hnumbered⟩
    rw [hconfig] at hprofile
    exact (hm3 hprofile).trans (hc.confined hprofile)

lemma Made.sound (hstrict : Strict) (h : Made c) : c.Sound := by
  induction h with
  | new h => exact (sound_new h).1
  | init _ hends ih =>
    rw [eq_of_init_ends hends]
    exact ih
  | event _ ev hends ih => exact (ih.ends hends).1
  | restore _ bs schema ih => exact ih.restore hstrict bs schema

lemma Sound.made (hstrict : Strict) (hc : c.Sound) (hnumbered : c.Numbered)
    (hnew : Rv32iCpu.new c.config = .ok (reset c.config)) : Made c := by
  have hrestore : (reset c.config).restore c.snapshot c.snapshotSchemaVersion = (c, .ok []) :=
    (restore_eq_ok_iff hstrict).mpr
      ⟨rfl, rfl, hc.confined, hc.valid, hnumbered, (List.append_nil _).symm⟩
  have hmade := Made.restore (.new hnew) c.snapshot c.snapshotSchemaVersion
  rwa [hrestore] at hmade

end

variable {c : Rv32iCpu}

/-! ## The round trip -/

/-- In every CPU reachable from reset, a snapshot restores, into any CPU of the same configuration,
to exactly the CPU it was taken of; except in the `M1` profile when the last request before the
counter wrapped is outstanding. -/
theorem restore_snapshot_iff [SnapshotFields] (hstrict : Strict) {config : Rv32iConfig}
    {c₀ c₁ : Rv32iCpu}
    (hnew : Rv32iCpu.new config = .ok c₀) (hc : Component.Evolves c₀ c) (hmade : Made c₁)
    (hconfig : c₁.config = config) :
    c₁.restore c.snapshot c.snapshotSchemaVersion = (c, .ok []) ↔
      ¬(config.profile = .m1 ∧ c.nextTxn = 0 ∧ ∃ txn, c.state.outstanding = some txn) := by
  obtain ⟨hsound₀, hconfig₀⟩ := sound_new hnew
  obtain ⟨hsound, hconfig'⟩ := hsound₀.evolves hc
  have hsound₁ := hmade.sound hstrict
  have hsame : c.config = c₁.config := by rw [hconfig', hconfig₀, hconfig]
  have hversion : c.snapshotSchemaVersion = c₁.snapshotSchemaVersion := by
    unfold snapshotSchemaVersion
    rw [hsame]
  have hm3 (hprofile : c₁.config.profile ≠ .m3) : c.m3 = c₁.m3 := by
    rw [hsound₁.confined hprofile, hsound.confined (hsame ▸ hprofile)]
  rw [restore_eq_ok_iff hstrict]
  constructor
  · rintro ⟨-, -, -, -, hnumbered, -⟩ ⟨-, hzero, txn, htxn⟩
    exact hnumbered txn htxn hzero
  · intro hnot
    refine ⟨hversion, hsame, hm3, hsound.valid, fun txn htxn hzero => ?_,
      (List.append_nil _).symm⟩
    by_cases hm1 : config.profile = .m1
    · exact hnot ⟨hm1, hzero, txn, htxn⟩
    · have hprofile : c.config.profile ≠ .m1 := by rwa [hconfig', hconfig₀]
      exact hsound.numbered hprofile txn htxn hzero

open Canonical in
theorem restore_snapshot_fetching : ∃ c, Component.Evolves (reset exampleConfig) c ∧
    c.state = .fetchWait 0 none ∧
      (reset exampleConfig).restore c.snapshot c.snapshotSchemaVersion = (c, .ok []) := by
  have hnew : Rv32iCpu.new exampleConfig = .ok (reset exampleConfig) := rfl
  have hmoves : (reset exampleConfig).Moves .request (.wake Token.fetch) _ _ :=
    .issue (.fetch rfl) rfl
  have hevolves := evolves_of_moves .refl hmoves
  have hiff := restore_snapshot_iff snapshotFields_strict hnew hevolves (.new hnew) rfl
  exact ⟨_, hevolves, rfl, hiff.mpr fun hm1 => by cases hm1.1⟩

/-- A restore that is accepted to the last byte gives a CPU whose snapshot is those bytes and whose
architectural state keeps its invariants; a restore that is refused changes nothing. -/
theorem restore_canonical [SnapshotFields] (hstrict : Strict) (hmade : Made c) (bs : Bytes)
    (schema : UInt32) :
    (∀ c', c.restore bs schema = (c', .ok []) →
      c'.snapshot = bs ∧
        c'.pc.toNat % 4 = 0 ∧ c'.csrs.mtvec.toNat % 4 = 0 ∧ c'.csrs.mepc.toNat % 4 = 0 ∧
        c'.m3.stvec.toNat % 4 = 0 ∧ c'.m3.sepc.toNat % 4 = 0 ∧
        c'.m3.medeleg &&& ~~~medelegMask = 0 ∧ c'.m3.satp &&& satpAsid = 0 ∧
        (c'.state = .halted .instructionLimit ∧ c'.instret = c'.config.maxInstructions ∨
          c'.state ≠ .halted .instructionLimit ∧ c'.instret < c'.config.maxInstructions) ∧
        (c'.pa?.isSome = true ↔ c'.va?.isSome = true ∧ c'.translating = true) ∧
        ∀ pa va, c'.pa? = some pa → c'.va? = some va →
          pa.toNat < 2 ^ 34 ∧ pa.toNat % 4096 = va.toNat % 4096) ∧
      ∀ c' e, c.restore bs schema = (c', .error e) → c' = c := by
  refine ⟨fun c' h => ?_, fun c' e h => eq_of_restore_error h⟩
  have hsound : c'.Sound := by
    have hrestored := (hmade.sound hstrict).restore hstrict bs schema
    rwa [h] at hrestored
  obtain ⟨-, -, -, -, -, hbs⟩ := (restore_eq_ok_iff hstrict).mp h
  have hlegal := hsound.valid.legal
  have hm3 := hsound.m3_legal
  have hheld := hsound.valid.translated_pa
  refine ⟨by rw [hbs, List.append_nil], hlegal.pc, hlegal.machine.mtvec, hlegal.machine.mepc,
    hm3.stvec,
    hm3.sepc, hm3.medeleg, hm3.satp, hsound.valid.count_cases, ?_, fun pa va hpa hva => ?_⟩
  · cases hva : c'.va? with
    | none =>
      rw [hva] at hheld
      simp [hheld]
    | some va =>
      rw [hva] at hheld
      cases hpa : c'.pa? with
      | none =>
        rw [hpa] at hheld
        simp [show c'.translating = false from hheld]
      | some pa =>
        rw [hpa] at hheld
        simp [hheld.1]
  · rw [hva, hpa] at hheld
    exact hheld.2

section

open Canonical

/-- A CPU of the `M3` profile in U-mode that is about to retire `addi x1, x0, 5`, while the external
interrupt is pending. -/
def interruptedCpu : Rv32iCpu :=
  { reset exampleConfig with
    csrs := { CsrFile.new with meie := true, mtvec := 0x2000, irqLevel := true }
    m3 := { M3State.new with privilege := .user }
    state :=
      .commitPending (some 0x00500093)
        (.exec (.effect
          { regWrite := some { rd := .field 0x00500093 7, value := 5 }, nextPc := 0x1004 })) none }

lemma valid_interruptedCpu : interruptedCpu.Valid :=
  ⟨⟨rfl, ⟨rfl, rfl⟩, nofun, fun _ => ⟨rfl, rfl, rfl, rfl⟩⟩, ⟨rfl, rfl⟩, rfl, nofun⟩

lemma made_interruptedCpu : interruptedCpu.Made := by
  have hnew : Rv32iCpu.new exampleConfig = .ok (reset exampleConfig) := rfl
  exact Sound.made snapshotFields_strict
    ⟨valid_interruptedCpu, fun h => absurd rfl h, fun _ => nofun⟩ nofun hnew

theorem restore_canonical_interrupted :
    (reset exampleConfig).restore interruptedCpu.snapshot 3 = (interruptedCpu, .ok []) ∧
      interruptedCpu.csrs.mtvec.toNat % 4 = 0 := by
  have hnew : Rv32iCpu.new exampleConfig = .ok (reset exampleConfig) := rfl
  have hok : (reset exampleConfig).restore interruptedCpu.snapshot 3 = (interruptedCpu, .ok []) :=
    (restore_eq_ok_iff snapshotFields_strict).mpr
      ⟨rfl, rfl, fun h => absurd rfl h, valid_interruptedCpu, nofun, (List.append_nil _).symm⟩
  have hcanonical := restore_canonical snapshotFields_strict (.new hnew) interruptedCpu.snapshot 3
  exact ⟨hok, (hcanonical.1 _ hok).2.2.1⟩

end

/-! ## A counter that wraps -/

section Wrapping

open Canonical

/-- A CPU of the `M1` profile without a limit to speak of. -/
def spinConfig : Rv32iConfig where
  clock := 0
  entry := 0
  maxInstructions := UInt64.ofNat (2 ^ 64 - 1)
  nonzero := by decide
  profile := .m1

/-- `lw x0, 0(x0)`. -/
def spinWord : UInt32 := 0x00002003

/-- The load `spinWord` is at `pc`. -/
def spinPlan (pc : UInt32) : LoadPlan where
  rd := .zero
  addr := 0
  width := .word
  extension := .signed
  nextPc := pc + 4

/-- The CPU after `k` turns, in a memory full of `spinWord`. -/
def spun (k : ℕ) : Rv32iCpu :=
  { reset spinConfig with
    pc := UInt32.ofNat (4 * k)
    instret := UInt64.ofNat k
    nextTxn := UInt64.ofNat (2 * k) }

/-- The CPU in the middle of a turn, waiting for its load. -/
def spinning (k : ℕ) : Rv32iCpu :=
  { spun k with
    nextTxn := UInt64.ofNat (2 * k) + 1 + 1
    state := .memWait (UInt64.ofNat (2 * k) + 1) spinWord (.load (spinPlan (spun k).pc)) none }

lemma step_spinWord (pc : UInt32) :
    step .m1 spinWord pc .new = .memory (.load (spinPlan pc)) := by
  rfl

/-- A turn up to its load. -/
lemma evolves_spinning {k : ℕ} (h : Component.Evolves (reset spinConfig) (spun k)) :
    Component.Evolves (reset spinConfig) (spinning k) := by
  let fetching : Rv32iCpu :=
    { spun k with nextTxn := UInt64.ofNat (2 * k) + 1,
                  state := .fetchWait (UInt64.ofNat (2 * k)) none }
  let plan : MemoryPlan := .load (spinPlan (spun k).pc)
  have hissue : (spun k).Moves .request (.wake Token.fetch) _ fetching := .issue (.fetch rfl) rfl
  have hanswer : fetching.Answers (.readResp (UInt64.ofNat (2 * k)) (.data (u32Bytes spinWord)))
      (.memIssue spinWord plan none) := .access rfl rfl (step_spinWord _)
  have hload : (fetching.enter (.memIssue spinWord plan none)).Moves .request (.wake Token.memory) _
      (spinning k) := .issue (.memory rfl) rfl
  exact evolves_of_moves
    (evolves_of_moves (evolves_of_moves h hissue) (.answer (p := port) (.inl rfl) hanswer)) hload

/-- The load has brought a value. -/
def spinPending (k : ℕ) (value : UInt32) : State :=
  .commitPending (some spinWord)
    (.exec (.effect { regWrite := some ⟨.zero, value⟩, nextPc := (spun k).pc + 4 })) none

lemma commits_spinning {k : ℕ} (hk : k + 1 < 2 ^ 64 - 1) (value : UInt32) : ∃ fields,
    ((spinning k).enter (spinPending k value)).Commits
      (.traced commitKind fields :: (spun (k + 1)).state.wakes 0) (spun (k + 1)) := by
  have hinstret : UInt64.ofNat k + 1 = UInt64.ofNat (k + 1) := (UInt64.ofNat_add k 1).symm
  have hlimit : ¬UInt64.ofNat (2 ^ 64 - 1) ≤ UInt64.ofNat k + 1 := by
    have hlt : (UInt64.ofNat (k + 1)).toNat < 2 ^ 64 - 1 := by
      rwa [UInt64.toNat_ofNat_of_lt' (show k + 1 < 2 ^ 64 by omega)]
    rw [hinstret, UInt64.not_le, UInt64.lt_iff_toNat_lt]
    exact hlt
  have hspun : ({ spinning k with regs := .new, pc := (spun k).pc + 4 } : Rv32iCpu).counted.resume =
      spun (k + 1) := by
    have hpc : UInt32.ofNat (4 * k) + 4 = UInt32.ofNat (4 * (k + 1)) :=
      (UInt32.ofNat_add (4 * k) 4).symm
    have htxn : UInt64.ofNat (2 * k) + 1 + 1 = UInt64.ofNat (2 * (k + 1)) := by
      rw [Nat.mul_succ, UInt64.ofNat_add, UInt64.add_assoc]
      rfl
    simp only [spun, ← hpc, ← hinstret, ← htxn]
    rfl
  have hcommit : ((spinning k).enter (spinPending k value)).Commits _ _ := .retire rfl rfl hlimit
  rw [← hspun]
  exact ⟨_, hcommit⟩

/-- The rest of the turn. -/
lemma evolves_spun_succ {k : ℕ} (hk : k + 1 < 2 ^ 64 - 1)
    (h : Component.Evolves (reset spinConfig) (spinning k)) :
    Component.Evolves (reset spinConfig) (spun (k + 1)) := by
  have hanswer : (spinning k).Answers (.readResp (UInt64.ofNat (2 * k) + 1) (.data [0, 0, 0, 0]))
      (spinPending k 0) := .loaded rfl rfl
  obtain ⟨fields, hcommits⟩ := commits_spinning hk 0
  have hcommitted : Moves _ .commit (.wake Token.commit) _ _ := .commit hcommits
  exact evolves_of_moves (evolves_of_moves h (.answer (p := port) (.inl rfl) hanswer)) hcommitted

lemma evolves_spun {k : ℕ} (hk : k < 2 ^ 64 - 1) :
    Component.Evolves (reset spinConfig) (spun k) := by
  induction k with
  | zero => exact .refl
  | succ k ih => exact evolves_spun_succ hk (evolves_spinning (ih (by omega)))

/-- After 2^64 requests the counter of the `M1` profile is back at 0, and the load that is
outstanding cannot be restored. -/
theorem restore_snapshot_wrapped :
    Rv32iCpu.new spinConfig = .ok (reset spinConfig) ∧
      Component.Evolves (reset spinConfig) (spinning (2 ^ 63 - 1)) ∧
      (reset spinConfig).restore (spinning (2 ^ 63 - 1)).snapshot
        (spinning (2 ^ 63 - 1)).snapshotSchemaVersion ≠ (spinning (2 ^ 63 - 1), .ok []) := by
  refine ⟨rfl, evolves_spinning (evolves_spun (by decide)), fun h => ?_⟩
  obtain ⟨-, -, -, -, hnumbered, -⟩ := (restore_eq_ok_iff snapshotFields_strict).mp h
  exact hnumbered (UInt64.ofNat (2 * (2 ^ 63 - 1)) + 1) rfl (by decide)

end Wrapping

end Rv32iCpu

end SystemScope.Rv32i
