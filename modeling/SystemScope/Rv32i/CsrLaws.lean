import SystemScope.Framework.Integers
import SystemScope.Rv32i.Precise

/-!
# The laws of the CSRs

What a CSR reads after a write (`legalised`), and what else that changes: nothing, but for the bits
that `sstatus` shares with `mstatus` (`CsrLaws`).  The laws hold of every CPU of the `M3` profile
that there is, and a CSR instruction is one read and one write of them, or an illegal instruction
(`csr_laws`).
-/

namespace SystemScope.Rv32i

open SnapshotFields

/-- `sstatus`'s bits, a subset of `mstatus`'s. -/
def sstatusMask : UInt32 := mstatusSie ||| mstatusSpie ||| mstatusSpp ||| mstatusSum ||| mstatusMxr

/-! ## Bits -/

/-- A bit that was tested, back in its place. -/
lemma ofBool_shiftLeft {n : ℕ} (hn : n < 32) (v : UInt32) :
    ofBool (decide (v &&& (1 : UInt32) <<< UInt32.ofNat n ≠ 0)) <<< UInt32.ofNat n =
      v &&& (1 : UInt32) <<< UInt32.ofNat n := by
  have hlt : 2 ^ n < 2 ^ 32 := Nat.pow_lt_pow_right (by omega) hn
  have hone : ((1 : UInt32) <<< UInt32.ofNat n).toNat = 2 ^ n := by
    rw [UInt32.toNat_shiftLeft_ofNat _ hn]
    change 1 * 2 ^ n % 2 ^ 32 = _
    rw [Nat.one_mul, Nat.mod_eq_of_lt hlt]
  have hmask : (1 : UInt32) <<< UInt32.ofNat n = UInt32.ofNat ((2 ^ 1 - 1) * 2 ^ n) := by
    rw [← UInt32.toNat_inj, hone, UInt32.toNat_ofNat_of_lt' (show _ < 2 ^ 32 by omega)]
    omega
  have hbit : (v &&& (1 : UInt32) <<< UInt32.ofNat n).toNat = v.toNat / 2 ^ n % 2 ^ 1 * 2 ^ n := by
    rw [hmask]
    exact UInt32.toNat_and_window v (by omega)
  by_cases hzero : v &&& (1 : UInt32) <<< UInt32.ofNat n = 0
  · rw [decide_eq_false (not_not.mpr hzero), hzero]
    exact UInt32.zero_shiftLeft
  · rw [decide_eq_true hzero]
    rw [← UInt32.toNat_inj, hbit] at hzero
    rw [← UInt32.toNat_inj, hbit]
    have hset : v.toNat / 2 ^ n % 2 ^ 1 = 1 := by
      rcases Nat.mod_two_eq_zero_or_one (v.toNat / 2 ^ n) with h | h
      · rw [pow_one, h, Nat.zero_mul] at hzero
        exact absurd rfl hzero
      · exact h
    rw [hset, Nat.one_mul]
    exact hone

/-- `MPP` as it is stored: the reserved encoding becomes that of U. -/
lemma legalMpp_bits (v : UInt32) :
    (legalMpp (v >>> mstatusMppShift)).bits.toUInt32 <<< mstatusMppShift =
      if v &&& mstatusMpp = (0b10 : UInt32) <<< 11 then 0 else v &&& mstatusMpp := by
  have hfield : (v >>> mstatusMppShift &&& 0b11).toNat = v.toNat / 2 ^ 11 % 2 ^ 2 :=
    @UInt32.toNat_field v 11 2 (by omega) (by omega)
  have hplaced : (v &&& mstatusMpp).toNat = v.toNat / 2 ^ 11 % 2 ^ 2 * 2 ^ 11 :=
    @UInt32.toNat_and_window v 11 2 (by omega)
  have hshift : v &&& mstatusMpp = (v >>> mstatusMppShift &&& 0b11) <<< 11 := by
    rw [← UInt32.toNat_inj, hplaced]
    exact (@UInt32.toNat_placed v 11 2 11 (by omega) (by omega) (by omega) (by omega)).symm
  have hlt : (v >>> mstatusMppShift &&& 0b11).toNat < 4 := hfield ▸ Nat.mod_lt _ (by omega)
  rw [hshift]
  unfold legalMpp
  generalize v >>> mstatusMppShift &&& 0b11 = f at hlt ⊢
  obtain rfl | rfl | rfl | rfl : f = 0 ∨ f = 1 ∨ f = 2 ∨ f = 3 := by
    simp only [← UInt32.toNat_inj]
    change f.toNat = 0 ∨ f.toNat = 1 ∨ f.toNat = 2 ∨ f.toNat = 3
    omega
  all_goals rfl

/-- The bits of `mstatus` are its fields, and `sstatus` is `mstatus` under its mask. -/
structure StatusLaws (s : M3State) (m : CsrFile) : Prop where
  view : s.sstatus = s.mstatus m &&& sstatusMask
  sie : decide (s.mstatus m &&& mstatusSie ≠ 0) = s.sie
  spie : decide (s.mstatus m &&& mstatusSpie ≠ 0) = s.spie
  spp : (if s.mstatus m &&& mstatusSpp ≠ 0 then Spp.supervisor else .user) = s.spp
  sum : decide (s.mstatus m &&& mstatusSum ≠ 0) = s.sum
  mxr : decide (s.mstatus m &&& mstatusMxr ≠ 0) = s.mxr
  mie : decide (s.mstatus m &&& mstatusMie ≠ 0) = m.mie
  mpie : decide (s.mstatus m &&& mstatusMpie ≠ 0) = m.mpie
  mpp : legalMpp (s.mstatus m >>> mstatusMppShift) = s.mpp
  rest : s.mstatus m &&& ~~~sstatusMask =
    ofBool m.mie <<< 3 ||| ofBool m.mpie <<< 7 ||| s.mpp.bits.toUInt32 <<< mstatusMppShift

/-- There are only so many values of the fields. -/
lemma statusLaws_of_fields : ∀ (spp : Spp) (mpp : Privilege) (sie spie sum mxr mie mpie : Bool),
    let s := { M3State.new with sie, spie, spp, mpp, sum, mxr }
    let m := { CsrFile.new with mie, mpie }
    s.sstatus = s.mstatus m &&& sstatusMask ∧
      decide (s.mstatus m &&& mstatusSie ≠ 0) = sie ∧
        decide (s.mstatus m &&& mstatusSpie ≠ 0) = spie ∧
      (if s.mstatus m &&& mstatusSpp ≠ 0 then Spp.supervisor else .user) = spp ∧
      decide (s.mstatus m &&& mstatusSum ≠ 0) = sum ∧
        decide (s.mstatus m &&& mstatusMxr ≠ 0) = mxr ∧
      decide (s.mstatus m &&& mstatusMie ≠ 0) = mie ∧
        decide (s.mstatus m &&& mstatusMpie ≠ 0) = mpie ∧
      legalMpp (s.mstatus m >>> mstatusMppShift) = mpp ∧
      s.mstatus m &&& ~~~sstatusMask =
        ofBool mie <<< 3 ||| ofBool mpie <<< 7 ||| mpp.bits.toUInt32 <<< mstatusMppShift := by
  intro spp mpp
  cases spp <;> cases mpp <;> decide +kernel

lemma statusLaws (s : M3State) (m : CsrFile) : StatusLaws s m := by
  obtain ⟨hview, hsie, hspie, hspp, hsum, hmxr, hmie, hmpie, hmpp, hrest⟩ :=
    statusLaws_of_fields s.spp s.mpp s.sie s.spie s.sum s.mxr m.mie m.mpie
  exact ⟨hview, hsie, hspie, hspp, hsum, hmxr, hmie, hmpie, hmpp, hrest⟩

/-! ## Writes to the status registers -/

lemma sstatus_writeSstatus (s : M3State) (v : UInt32) :
    (s.writeSstatus v).sstatus = v &&& sstatusMask := by
  have hsie : ofBool (decide (v &&& mstatusSie ≠ 0)) <<< 1 = v &&& mstatusSie :=
    @ofBool_shiftLeft 1 (by omega) v
  have hspie : ofBool (decide (v &&& mstatusSpie ≠ 0)) <<< 5 = v &&& mstatusSpie :=
    @ofBool_shiftLeft 5 (by omega) v
  have hsum : ofBool (decide (v &&& mstatusSum ≠ 0)) <<< 18 = v &&& mstatusSum :=
    @ofBool_shiftLeft 18 (by omega) v
  have hmxr : ofBool (decide (v &&& mstatusMxr ≠ 0)) <<< 19 = v &&& mstatusMxr :=
    @ofBool_shiftLeft 19 (by omega) v
  have hspp : (if v &&& mstatusSpp ≠ 0 then Spp.supervisor else .user).bits.toUInt32 <<< 8 =
      v &&& mstatusSpp := by
    refine Eq.trans ?_ (@ofBool_shiftLeft 8 (by omega) v)
    by_cases h : v &&& mstatusSpp ≠ 0
    · rw [if_pos h]
      exact (congrArg (ofBool · <<< 8) (decide_eq_true h)).symm
    · rw [if_neg h]
      exact (congrArg (ofBool · <<< 8) (decide_eq_false h)).symm
  unfold M3State.sstatus M3State.writeSstatus sstatusMask
  dsimp only
  rw [hsie, hspie, hspp, hsum, hmxr, UInt32.and_or_distrib, UInt32.and_or_distrib,
    UInt32.and_or_distrib,
    UInt32.and_or_distrib]

/-- What `mstatus` reads after a write: the fields there are, with a legal `MPP`. -/
def legalMstatus (v : UInt32) : UInt32 :=
  v &&& (sstatusMask ||| mstatusMie ||| mstatusMpie) |||
    if v &&& mstatusMpp = (0b10 : UInt32) <<< 11 then 0 else v &&& mstatusMpp

lemma mstatus_write (s : M3State) (m : CsrFile) (v : UInt32) :
    ({ s with mpp := legalMpp (v >>> mstatusMppShift) }.writeSstatus v).mstatus
      { m with mie := v &&& mstatusMie ≠ 0, mpie := v &&& mstatusMpie ≠ 0 } = legalMstatus v := by
  have hmie : ofBool (decide (v &&& mstatusMie ≠ 0)) <<< 3 = v &&& mstatusMie :=
    @ofBool_shiftLeft 3 (by omega) v
  have hmpie : ofBool (decide (v &&& mstatusMpie ≠ 0)) <<< 7 = v &&& mstatusMpie :=
    @ofBool_shiftLeft 7 (by omega) v
  unfold M3State.mstatus legalMstatus
  rw [sstatus_writeSstatus, UInt32.and_or_distrib, UInt32.and_or_distrib, ← legalMpp_bits,
    hmie, hmpie]
  rfl

/-- A write to `sstatus` leaves the other bits of `mstatus` alone. -/
lemma mstatus_writeSstatus (s : M3State) (m : CsrFile) (v : UInt32) :
    (s.writeSstatus v).mstatus m = s.mstatus m &&& ~~~sstatusMask ||| v &&& sstatusMask := by
  rw [(statusLaws s m).rest, ← sstatus_writeSstatus s v]
  unfold M3State.mstatus
  rw [UInt32.or_comm _ (s.writeSstatus v).sstatus, ← UInt32.or_assoc, ← UInt32.or_assoc]
  rfl

/-! ## Writes to any CSR -/

/-- What a CSR reads after a write, unless it keeps its value: `mip` does, and so do the CSRs that
are 0. -/
def legalised (csr : UInt16) (v : UInt32) : Option UInt32 :=
  if csr = Csr.mstatus then some (legalMstatus v)
  else if csr = Csr.sstatus then some (v &&& sstatusMask)
  else if csr = Csr.mie then some (v &&& meiBit)
  else if csr = Csr.medeleg then some (v &&& medelegMask)
  else if csr = Csr.mtvec ∨ csr = Csr.mepc ∨ csr = Csr.stvec ∨ csr = Csr.sepc then
    some (v &&& ~~~0b11)
  else if csr = Csr.satp then some (satpWrite v)
  else if csr = Csr.mip ∨ csr = Csr.mideleg ∨ csr = Csr.sie ∨ csr = Csr.sip then none
  else some v

/-- The two views of the status bits. -/
def Aliased (csr other : UInt16) : Prop :=
  csr = Csr.mstatus ∧ other = Csr.sstatus ∨ csr = Csr.sstatus ∧ other = Csr.mstatus

namespace M3State

/-- What a write of `v` does to the CSRs as they are read. -/
structure Written (s : M3State) (m : CsrFile) (csr : UInt16) (v : UInt32) (s' : M3State)
    (m' : CsrFile) :
    Prop where
  self : ∀ old, s.read m csr = some old → s'.read m' csr = some ((legalised csr v).getD old)
  others : ∀ other, other ≠ csr → ¬Aliased csr other → s'.read m' other = s.read m other
  mstatus : csr = Csr.mstatus → s'.sstatus = v &&& sstatusMask
  sstatus : csr = Csr.sstatus → s'.mstatus m' = s.mstatus m &&& ~~~sstatusMask ||| v &&& sstatusMask

variable {s s' : M3State} {m m' : CsrFile} {csr : UInt16} {v : UInt32}

lemma written_of_write (h : s.write m csr v = some (s', m')) : Written s m csr v s' m' := by
  have hmie : ofBool (decide (v &&& meiBit ≠ 0)) <<< 11 = v &&& meiBit :=
    @ofBool_shiftLeft 11 (by omega) v
  cases writes_of_write h with
  | mstatus =>
    refine ⟨?_, ?_, ?_, fun h => absurd h (by decide)⟩
    · intro old _
      exact congrArg some (mstatus_write s m v)
    · intro other hne hview
      have hs : other ≠ Csr.sstatus := fun h => hview (.inl ⟨rfl, h⟩)
      simp only [M3State.read, CsrFile.read, if_neg hne, if_neg hs]
      rfl
    · intro _
      exact sstatus_writeSstatus _ v
  | sstatus =>
    refine ⟨?_, ?_, fun h => absurd h (by decide), ?_⟩
    · intro old _
      exact congrArg some (sstatus_writeSstatus s v)
    · intro other hne hview
      have hs : other ≠ Csr.mstatus := fun h => hview (.inr ⟨rfl, h⟩)
      simp only [M3State.read, if_neg hne, if_neg hs]
      rfl
    · intro _
      exact mstatus_writeSstatus s m v
  | medeleg | stvec | sscratch | sepc | scause | stval | satp =>
    refine ⟨fun _ _ => rfl, ?_, fun h => absurd h (by decide), fun h => absurd h (by decide)⟩
    intro other hne _
    simp only [M3State.read, if_neg hne]
    rfl
  | ignored hcsr =>
    refine ⟨?_, fun _ _ _ => rfl, ?_, ?_⟩
    · intro old hold
      rcases hcsr with rfl | rfl | rfl
      all_goals exact hold
    · rintro rfl
      rcases hcsr with h | h | h
      all_goals exact absurd h (by decide)
    · rintro rfl
      rcases hcsr with h | h | h
      all_goals exact absurd h (by decide)
  | machine hcsr hm =>
    simp only [machineCsrs, List.mem_cons, List.not_mem_nil, or_false] at hcsr
    rcases hcsr with rfl | rfl | rfl | rfl | rfl | rfl | rfl
    all_goals cases hm
    · refine ⟨fun _ _ => congrArg some hmie, ?_, fun h => absurd h (by decide), fun h =>
        absurd h (by decide)⟩
      intro other hne _
      simp only [M3State.read, CsrFile.read, if_neg hne]
      rfl
    · exact ⟨fun old hold => hold, fun _ _ _ => rfl, fun h => absurd h (by decide), fun h =>
        absurd h (by decide)⟩
    all_goals
      refine ⟨fun _ _ => rfl, ?_, fun h => absurd h (by decide), fun h => absurd h (by decide)⟩
      intro other hne _
      simp only [M3State.read, CsrFile.read, if_neg hne]
      rfl

/-- Writing what was read changes nothing. -/
lemma write_read (hs : s.Legal) (hm : m.Legal) {old : UInt32} (h : s.read m csr = some old) :
    s.write m csr old = some (s, m) := by
  have laws := statusLaws s m
  -- The bits that are written are the same in both views.
  have hview (bit : UInt32) (hbit : sstatusMask &&& bit = bit) :
    s.sstatus &&& bit = s.mstatus m &&& bit := by
    rw [laws.view, UInt32.and_assoc, hbit]
  unfold read at h
  rcases ite_eq_iff.mp h with ⟨rfl, h⟩ | ⟨-, h⟩
  · cases h
    change some (M3State.writeSstatus _ _, _) = _
    simp only [writeSstatus, laws.sie, laws.spie, laws.spp, laws.sum, laws.mxr, laws.mie, laws.mpie,
      laws.mpp]
  rcases ite_eq_iff.mp h with ⟨rfl, h⟩ | ⟨-, h⟩
  · cases h
    change some (writeSstatus _ _, _) = _
    simp only [writeSstatus, hview mstatusSie rfl, hview mstatusSpie rfl, hview mstatusSpp rfl,
      hview mstatusSum rfl, hview mstatusMxr rfl, laws.sie, laws.spie, laws.spp, laws.sum, laws.mxr]
  rcases ite_eq_iff.mp h with ⟨rfl, h⟩ | ⟨-, h⟩
  · cases h
    change some ({ s with medeleg := s.medeleg &&& medelegMask }, m) = _
    rw [UInt32.and_eq_self hs.medeleg]
  rcases ite_eq_iff.mp h with ⟨hcsr, h⟩ | ⟨-, h⟩
  · rcases hcsr with rfl | rfl | rfl <;> rfl
  rcases ite_eq_iff.mp h with ⟨rfl, h⟩ | ⟨-, h⟩
  · cases h
    change some ({ s with stvec := s.stvec &&& ~~~0b11 }, m) = _
    rw [hs.stvec.and_not]
  rcases ite_eq_iff.mp h with ⟨rfl, h⟩ | ⟨-, h⟩
  · cases h
    rfl
  rcases ite_eq_iff.mp h with ⟨rfl, h⟩ | ⟨-, h⟩
  · cases h
    change some ({ s with sepc := s.sepc &&& ~~~0b11 }, m) = _
    rw [hs.sepc.and_not]
  rcases ite_eq_iff.mp h with ⟨rfl, h⟩ | ⟨-, h⟩
  · cases h
    rfl
  rcases ite_eq_iff.mp h with ⟨rfl, h⟩ | ⟨-, h⟩
  · cases h
    rfl
  rcases ite_eq_iff.mp h with ⟨rfl, h⟩ | ⟨-, h⟩
  · cases h
    change some ({ s with satp := s.satp &&& ~~~satpAsid }, m) = _
    rw [UInt32.and_eq_self (by rw [UInt32.not_not]; exact hs.satp)]
  obtain ⟨hcsr, h⟩ := Option.ite_none_right_eq_some.mp h
  simp only [machineCsrs, List.mem_cons, List.not_mem_nil, or_false] at hcsr
  have hmeie : decide (ofBool m.meie <<< 11 &&& meiBit ≠ 0) = m.meie := by
    cases m.meie <;> rfl
  rcases hcsr with rfl | rfl | rfl | rfl | rfl | rfl | rfl
  all_goals cases h
  · change some (s, { m with meie := decide (ofBool m.meie <<< 11 &&& meiBit ≠ 0) }) = _
    rw [hmeie]
  · rfl
  · change some (s, { m with mtvec := m.mtvec &&& ~~~0b11 }) = _
    rw [hm.mtvec.and_not]
  · rfl
  · change some (s, { m with mepc := m.mepc &&& ~~~0b11 }) = _
    rw [hm.mepc.and_not]
  all_goals rfl

end M3State

/-! ## CSR instructions -/

/-- The CSRs that there are can be read and written. -/
lemma M3State.read_write_of_mem {csr : UInt16} (h : csr ∈ Csr.supportedM3) (s : M3State)
    (m : CsrFile)
    (v : UInt32) : ∃ old s' m', s.read m csr = some old ∧ s.write m csr v = some (s', m') := by
  simp only [Csr.supportedM3, List.mem_cons, List.not_mem_nil, or_false] at h
  rcases h with rfl | rfl | rfl | rfl | rfl | rfl | rfl | rfl | rfl | rfl | rfl | rfl | rfl | rfl
    | rfl | rfl |
    rfl | rfl | rfl
  all_goals exact ⟨_, _, _, rfl, rfl⟩

namespace Rv32iCpu

/-- A CSR instruction that may execute: its CSR is there, and this mode may access it so. -/
def MayAccess (c : Rv32iCpu) (csr : UInt16) (writes : Bool) : Prop :=
  csr ∈ Csr.supportedM3 ∧ accessible csr c.m3.privilege writes = true

/-- A CSR instruction at its commit: `rd` receives the old value, and the CSR is written, or none
is. -/
def Applies (c : Rv32iCpu) (word : UInt32) (p : PendingCsr) : Prop :=
  ∃ old d fields, c.readCsr p.csr = some old ∧
    (if p.write then c.writeCsr p.csr (p.op.apply old p.operand) = some d else d = c) ∧
    ∀ pa, c.retire word (.csr p) pa =
      ({ d with regs := c.regs.write p.rd old, pc := p.nextPc }, .ok fields)

/-- A trap was taken or delivered: no register, no machine CSR and no count changed. -/
def TrapsOnly (c c' : Rv32iCpu) : Prop :=
  (c.Traps c' ∨ c.Delivers c') ∧ c'.regs = c.regs ∧ c'.csrs = c.csrs ∧ c'.instret = c.instret

/-- A CSR instruction that is illegal: its commit traps, whatever its calls are answered. -/
def Refuses (c : Rv32iCpu) (word : UInt32) : Prop :=
  ∀ pa, c.state = .commitPending (some word) (illegal word) pa →
    (∃ c', c.TrapsOnly c' ∧
      ∀ env, ∃ calls, (c.handleEvent (.wake Token.commit)).perform env = (calls, .ok (), c')) ∧
    ∀ c', (c.handleEvent (.wake Token.commit)).Ends c' → c.TrapsOnly c'

variable {c : Rv32iCpu}

lemma applies_of_mem (hprofile : c.config.profile = .m3) {word : UInt32} {p : PendingCsr}
    (h : p.csr ∈ Csr.supportedM3) : c.Applies word p := by
  obtain ⟨old, -, -, hread, -⟩ := M3State.read_write_of_mem h c.m3 c.csrs 0
  have hold : c.readCsr p.csr = some old := by
    unfold readCsr
    rw [hprofile]
    exact hread
  obtain ⟨-, s', m', -, hwrite⟩ :=
    M3State.read_write_of_mem h c.m3 c.csrs (p.op.apply old p.operand)
  have hwritten :
    c.writeCsr p.csr (p.op.apply old p.operand) = some { c with m3 := s', csrs := m' } := by
    unfold writeCsr
    rw [hprofile]
    dsimp only
    rw [hwrite]
    rfl
  have hstored : ∃ stored, Rv32iCpu.readCsr { c with m3 := s', csrs := m' } p.csr = some stored :=
    Option.isSome_iff_exists.mp (readCsr_isSome_of_writeCsr hwritten)
  obtain ⟨stored, hstored⟩ := hstored
  have hcommit (pa : Option UInt64) : ∃ d fields,
      (if p.write then c.writeCsr p.csr (p.op.apply old p.operand) = some d else d = c) ∧
        c.retire word (.csr p) pa = ({ d with regs := c.regs.write p.rd old, pc := p.nextPc },
          .ok fields) := by
    unfold retire commitCsr
    by_cases hp : p.write = true
    · simp only [hold, hp, hwritten, hstored, if_true]
      exact ⟨_, _, rfl, rfl⟩
    · simp only [hold, hp]
      exact ⟨c, _, rfl, rfl⟩
  obtain ⟨d, fields, hd, hretire⟩ := hcommit none
  exact ⟨old, d, fields, hold, hd, fun _ => hretire⟩

lemma Valid.outcome_of_done (hc : c.Valid) {word : UInt32} {o outcome : Outcome}
    {pa : Option UInt64}
    (hstep : step c.isa word c.pc c.regs = .done o)
    (hs : c.state = .commitPending (some word) outcome pa) :
    outcome = o := by
  have hfits := hc.state
  rw [hs] at hfits
  cases consistent_iff.mp hfits.1 with
  | done h =>
    rw [hstep] at h
    cases h
    rfl
  | loaded h | stored h | fault h =>
    rw [hstep] at h
    cases h

lemma refuses [SnapshotFields] (hstrict : Strict) (hmade : Made c) (word : UInt32) :
    c.Refuses word := by
  intro pa hs
  have hvalid := (hmade.sound hstrict).valid
  have htraps (c' : Rv32iCpu) (hends : (c.handleEvent (.wake Token.commit)).Ends c') :
      c.TrapsOnly c' := by
    obtain ⟨calls, hcommits⟩ := commits_of_ends hvalid ⟨rfl, _, _, _, hs⟩ hends
    rcases hcommits.precise hvalid with
      ⟨insn, t, pa', ht, hdelegates, rfl⟩
        | ⟨insn, t, pa', spp, ht, hprofile, hdelegates, hspp, rfl⟩ |
        ⟨d, hretired, -⟩
    · exact ⟨.inl ⟨insn, t, pa', ht, hdelegates, rfl⟩, rfl, rfl, rfl⟩
    · exact ⟨.inr ⟨insn, t, pa', spp, ht, hprofile, hdelegates, hspp, rfl⟩, rfl, rfl, rfl⟩
    · obtain ⟨insn, outcome, pa', fields, hs', hnot, -⟩ := hretired
      rw [hs] at hs'
      cases hs'
      exact absurd rfl (hnot _)
  refine ⟨?_, htraps⟩
  obtain ⟨calls, c', hcommits⟩ := exists_commits hvalid hs
  have hperform (env : Surroundings) :=
    perform_of_moves env (.commit hcommits : c.Moves env.phase (.wake Token.commit) calls c')
  have hends := Handler.ends_of_perform ⟨0, 0, .request, fun _ => 0⟩
    (c.handleEvent (.wake Token.commit))
  rw [hperform] at hends
  exact ⟨c', htraps c' hends, fun env => ⟨calls, hperform env⟩⟩

/-- In every CPU of the `M3` profile that there is, `sstatus` is `mstatus` under its mask; a write
gives the CSR its legalised value, changes no CSR but the other view of the same bits, and changes
nothing when it writes back what was read; and a CSR instruction reads and writes its CSR, or is
illegal. -/
theorem csr_laws [SnapshotFields] (hstrict : Strict) (hmade : Made c)
    (hprofile : c.config.profile = .m3) :
    c.readCsr Csr.sstatus = (c.readCsr Csr.mstatus).map (· &&& sstatusMask) ∧
    (∀ csr ∈ Csr.supportedM3, ∀ v, ∃ old s m, c.readCsr csr = some old ∧
      c.writeCsr csr v = some { c with m3 := s, csrs := m } ∧ c.m3.Written c.csrs csr v s m ∧
      c.writeCsr csr old = some c) ∧
    ∀ word op rd src csr, decodePrivileged word = some (.csr op rd src csr) →
      ∃ o, step c.isa word c.pc c.regs = .done o ∧
        (∀ outcome pa, c.state = .commitPending (some word) outcome pa → outcome = o) ∧
        (c.MayAccess csr (PrivInstr.csr op rd src csr).writes → ∃ p,
          p = csrOperation op rd src csr (PrivInstr.csr op rd src csr).writes c.pc c.regs ∧
            o = .csr p ∧ c.Applies word p) ∧
        (¬c.MayAccess csr (PrivInstr.csr op rd src csr).writes → o = illegal word ∧
          c.Refuses word) := by
  have hsound := hmade.sound hstrict
  have hread (csr : UInt16) : c.readCsr csr = c.m3.read c.csrs csr := by
    unfold readCsr
    rw [hprofile]
  have hwrite (csr : UInt16) (v : UInt32) : c.writeCsr csr v =
      (c.m3.write c.csrs csr v).map fun written =>
        { c with m3 := written.1, csrs := written.2 } := by
    unfold writeCsr
    rw [hprofile]
  refine ⟨?_, ?_, ?_⟩
  · rw [hread, hread]
    exact congrArg some (statusLaws c.m3 c.csrs).view
  · intro csr hcsr v
    obtain ⟨old, s, m, hold, hv⟩ := M3State.read_write_of_mem hcsr c.m3 c.csrs v
    refine ⟨old, s, m, (hread csr).trans hold, ?_, M3State.written_of_write hv, ?_⟩
    · rw [hwrite, hv]
      rfl
    · rw [hwrite, M3State.write_read hsound.m3_legal hsound.valid.legal.machine hold]
      rfl
  · intro word op rd src csr hdecode
    have hstep {o : Outcome} (h : privilegedM3 c.m3.privilege word c.pc c.regs = some o) :
        step c.isa word c.pc c.regs = .done o := by
      rw [isa_of_m3 hprofile]
      unfold step
      dsimp only
      rw [h]
    have hoperation : privilegedM3 c.m3.privilege word c.pc c.regs =
        if !Csr.isSupportedM3 csr || !accessible csr c.m3.privilege
          (PrivInstr.csr op rd src csr).writes then
          some (illegal word)
        else some (.csr
          (csrOperation op rd src csr (PrivInstr.csr op rd src csr).writes c.pc c.regs)) := by
      unfold privilegedM3
      rw [hdecode]
    have hguard : (!Csr.isSupportedM3 csr || !accessible csr c.m3.privilege
      (PrivInstr.csr op rd src csr).writes) =
        true ↔ ¬c.MayAccess csr (PrivInstr.csr op rd src csr).writes := by
      unfold Csr.isSupportedM3 MayAccess
      rw [Bool.or_eq_true, Bool.not_eq_true', Bool.not_eq_true', decide_eq_false_iff_not,
        not_and_or,
        Bool.not_eq_true]
    by_cases hmay : c.MayAccess csr (PrivInstr.csr op rd src csr).writes
    · rw [if_neg (mt hguard.mp (not_not.mpr hmay))] at hoperation
      exact ⟨_, hstep hoperation, fun _ _ => hsound.valid.outcome_of_done (hstep hoperation),
        fun _ => ⟨_, rfl, rfl, applies_of_mem hprofile hmay.1⟩, fun h => absurd hmay h⟩
    · rw [if_pos (hguard.mpr hmay)] at hoperation
      exact ⟨_, hstep hoperation, fun _ _ => hsound.valid.outcome_of_done (hstep hoperation),
        fun h => absurd h hmay, fun _ => ⟨rfl, refuses hstrict hmade word⟩⟩

open Canonical in
/-- `CSRRW x1, satp, x0` at reset. -/
theorem csr_laws_reset :
    ∃ old d fields, (reset exampleConfig).readCsr Csr.satp = some old ∧ old = 0 ∧
    (reset exampleConfig).retire 0x180010F3
      (.csr (csrOperation .write ⟨1, by decide⟩ (.reg .zero) Csr.satp true 0x1000 .new)) none =
        (d, .ok fields) ∧ d.pc = 0x1004 := by
  have hnew : Rv32iCpu.new exampleConfig = .ok (reset exampleConfig) := rfl
  have hdecode :
    decodePrivileged 0x180010F3 = some (.csr .write ⟨1, by decide⟩ (.reg .zero) Csr.satp) := by
    decide +kernel
  obtain ⟨-, -, hinstr⟩ := csr_laws snapshotFields_strict (Made.new hnew) rfl
  obtain ⟨o, -, -, hmay, -⟩ := hinstr _ _ _ _ _ hdecode
  obtain ⟨p, rfl, -, old, d, fields, hread, -, hretire⟩ := hmay ⟨by decide, by decide⟩
  refine ⟨old, _, fields, hread, ?_, hretire none, rfl⟩
  cases hread
  rfl

end Rv32iCpu

end SystemScope.Rv32i
