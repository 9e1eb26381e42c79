import SystemScope.Rv32i.Encoding

/-!
# The decoder is the inverse of the encoder

`decode` accepts exactly the words that are encodings, and `FENCE` besides in each of its
configurations (`decode_inverse`).  Each format has a lemma for either direction: a word with the
fields of an instruction is its encoding, and an encoding has the fields it is put together
from. -/

namespace SystemScope.Rv32i

/-! ## The tables of operations -/

lemma branchOp_eq_some {f : UInt32} {op : BranchOp} :
    branchOp f = some op ↔ f.toNat = op.funct3 := by
  constructor
  · intro h
    unfold branchOp at h
    split at h <;> cases h <;> rfl
  · intro h
    obtain rfl : f = UInt32.ofNat op.funct3 := by rw [← h, UInt32.ofNat_toNat]
    cases op <;> rfl

lemma loadOp_eq_some {f : UInt32} {op : LoadOp} : loadOp f = some op ↔ f.toNat = op.funct3 := by
  constructor
  · intro h
    unfold loadOp at h
    split at h <;> cases h <;> rfl
  · intro h
    obtain rfl : f = UInt32.ofNat op.funct3 := by rw [← h, UInt32.ofNat_toNat]
    cases op <;> rfl

lemma storeOp_eq_some {f : UInt32} {op : StoreOp} : storeOp f = some op ↔ f.toNat = op.funct3 := by
  constructor
  · intro h
    unfold storeOp at h
    split at h <;> cases h <;> rfl
  · intro h
    obtain rfl : f = UInt32.ofNat op.funct3 := by rw [← h, UInt32.ofNat_toNat]
    cases op <;> rfl

lemma immOp_eq_some {f : UInt32} {op : ImmOp} : immOp f = some op ↔ f.toNat = op.funct3 := by
  constructor
  · intro h
    unfold immOp at h
    split at h <;> cases h <;> rfl
  · intro h
    obtain rfl : f = UInt32.ofNat op.funct3 := by rw [← h, UInt32.ofNat_toNat]
    cases op <;> rfl

lemma shiftOp_eq_some {f g : UInt32} {op : ShiftOp} :
    shiftOp f g = some op ↔ g.toNat = op.functs.1 ∧ f.toNat = op.functs.2 := by
  constructor
  · intro h
    unfold shiftOp at h
    split at h <;> cases h <;> exact ⟨rfl, rfl⟩
  · rintro ⟨hg, hf⟩
    obtain rfl : f = UInt32.ofNat op.functs.2 := by rw [← hf, UInt32.ofNat_toNat]
    obtain rfl : g = UInt32.ofNat op.functs.1 := by rw [← hg, UInt32.ofNat_toNat]
    cases op <;> rfl

lemma regOp_eq_some {f g : UInt32} {op : RegOp} :
    regOp f g = some op ↔ f.toNat = op.functs.1 ∧ g.toNat = op.functs.2 := by
  constructor
  · intro h
    unfold regOp at h
    split at h <;> cases h <;> exact ⟨rfl, rfl⟩
  · rintro ⟨hf, hg⟩
    obtain rfl : f = UInt32.ofNat op.functs.1 := by rw [← hf, UInt32.ofNat_toNat]
    obtain rfl : g = UInt32.ofNat op.functs.2 := by rw [← hg, UInt32.ofNat_toNat]
    cases op <;> rfl

/-- A shift is not an immediate operation. -/
lemma immOp_of_shift (op : ShiftOp) : immOp (UInt32.ofNat op.functs.2) = none := by
  cases op <;> rfl

/-! ## From a word to its instruction and back -/

section Format

variable {word : UInt32} {funct7 rs2 rs1 funct3 rd opcode : ℕ}
  (h : HasFields word funct7 rs2 rs1 funct3 rd opcode)

include h

lemma HasFields.iType :
    iType (Reg.field word 15).number funct3 (Reg.field word 7).number opcode
      (Rv32i.immI word).toInt =
      word.toNat := by
  rw [iType_eq, h.immI.1, h.immI.2, Reg.number, Reg.number, h.rs1_eq, h.rd_eq, h.toNat]

lemma HasFields.sType :
    sType (Reg.field word 20).number (Reg.field word 15).number funct3 opcode
      (Rv32i.immS word).toInt =
      word.toNat := by
  unfold Rv32i.sType Reg.number
  rw [h.immS.1, h.immS.2, h.rs1_eq, h.rs2_eq, h.toNat]
  rfl

lemma HasFields.bType :
    bType (Reg.field word 20).number (Reg.field word 15).number funct3 opcode
      (Rv32i.immB word).toInt =
      word.toNat := by
  rw [bType_eq, h.immB.1, h.immB.2, Reg.number, Reg.number, h.rs1_eq, h.rs2_eq, h.toNat]

lemma HasFields.uType :
    uType (Reg.field word 7).number opcode (Rv32i.immU word).toNat = word.toNat := by
  obtain ⟨h7, h2, h1, h3⟩ := h.immU
  rw [uType_eq, h7, h2, h1, h3, Reg.number, h.rd_eq, h.toNat]

lemma HasFields.jType :
    jType (Reg.field word 7).number opcode (Rv32i.immJ word).toInt = word.toNat := by
  obtain ⟨h7, h2, h1, h3⟩ := h.immJ
  rw [jType_eq, h7, h2, h1, h3, Reg.number, h.rd_eq, h.toNat]

lemma HasFields.rType :
    rType funct7 (Reg.field word 20).number (Reg.field word 15).number funct3
      (Reg.field word 7).number
      opcode = word.toNat := by
  rw [Reg.number, Reg.number, Reg.number, h.rs2_eq, h.rs1_eq, h.rd_eq, h.toNat]

end Format

lemma decode_eq_ok {word : UInt32} {instr : Instr} :
    decode word = .ok instr ↔ instrOf word = some instr := by
  unfold decode
  cases instrOf word <;> simp

/-- The fields of a word, with the decoder's own where it has them. -/
lemma hasFields_of (word : UInt32) :
    HasFields word (word >>> 25).toNat ((word >>> 20) &&& 0x1f).toNat (word.toNat / 2 ^ 15 % 2 ^ 5)
      ((word >>> 12) &&& 0x7).toNat (word.toNat / 2 ^ 7 % 2 ^ 5) (word &&& 0x7f).toNat := by
  have h : HasFields word _ _ _ _ _ _ := ⟨rfl, rfl, rfl, rfl, rfl, rfl⟩
  rw [h.funct7_eq, h.shamt_eq, h.funct3_eq, h.opcode_eq]
  exact h

/-- What a word decodes to is in range, and encodes to the word unless it is a `FENCE`. -/
lemma encoding_of_instrOf {word : UInt32} {instr : Instr} (h : instrOf word = some instr) :
    instr.InRange ∧
      (instr = .fence ∧ IsFence word ∨ instr ≠ .fence ∧ encoding instr = word.toNat) := by
  have hfields := hasFields_of word
  obtain ⟨opcode, hopcode⟩ : ∃ opcode, opcode = word &&& 0x7f := ⟨_, rfl⟩
  unfold instrOf at h
  rw [← hopcode] at h hfields
  dsimp only at h
  split at h
  -- LUI, AUIPC, JAL, JALR
  · cases h
    refine ⟨?_, .inr ⟨nofun, hfields.uType⟩⟩
    show (immU word).toNat % 2 ^ 12 = 0
    rw [toNat_immU, Nat.mul_mod_left]
  · cases h
    refine ⟨?_, .inr ⟨nofun, hfields.uType⟩⟩
    show (immU word).toNat % 2 ^ 12 = 0
    rw [toNat_immU, Nat.mul_mod_left]
  · cases h
    exact ⟨fits_immJ word, .inr ⟨nofun, hfields.jType⟩⟩
  · split_ifs at h with hfunct3
    cases h
    rw [hfunct3] at hfields
    exact ⟨fits_immI word, .inr ⟨nofun, hfields.iType⟩⟩
  -- BRANCH, LOAD, STORE
  · obtain ⟨op, hop, rfl⟩ := Option.map_eq_some_iff.mp h
    rw [branchOp_eq_some.mp hop] at hfields
    exact ⟨fits_immB word, .inr ⟨nofun, hfields.bType⟩⟩
  · obtain ⟨op, hop, rfl⟩ := Option.map_eq_some_iff.mp h
    rw [loadOp_eq_some.mp hop] at hfields
    exact ⟨fits_immI word, .inr ⟨nofun, hfields.iType⟩⟩
  · obtain ⟨op, hop, rfl⟩ := Option.map_eq_some_iff.mp h
    rw [storeOp_eq_some.mp hop] at hfields
    exact ⟨fits_immS word, .inr ⟨nofun, hfields.sType⟩⟩
  -- OP-IMM
  · split at h
    · rename_i op hop
      cases h
      rw [immOp_eq_some.mp hop] at hfields
      exact ⟨fits_immI word, .inr ⟨nofun, hfields.iType⟩⟩
    · obtain ⟨op, hop, rfl⟩ := Option.map_eq_some_iff.mp h
      obtain ⟨h7, h3⟩ := shiftOp_eq_some.mp hop
      have hshamt : ((word >>> 20) &&& 0x1f).toNat < 32 := by
        have hlt := Nat.mod_lt (word.toNat / 2 ^ 20) (show 0 < 2 ^ 5 by omega)
        exact (UInt32.toNat_field word (show 20 < 32 by omega) (show 5 < 32 by omega)).trans_lt hlt
      rw [h7, h3] at hfields
      refine ⟨hshamt, .inr ⟨nofun, ?_⟩⟩
      rw [← hfields.rType, Reg.number, hfields.rs2_eq]
      rfl
  -- OP
  · obtain ⟨op, hop, rfl⟩ := Option.map_eq_some_iff.mp h
    obtain ⟨h7, h3⟩ := regOp_eq_some.mp hop
    rw [h7, h3] at hfields
    exact ⟨trivial, .inr ⟨nofun, hfields.rType⟩⟩
  -- MISC-MEM
  · split_ifs at h with hfunct3
    cases h
    rw [hfunct3] at hfields
    exact ⟨trivial, .inl ⟨rfl, hfields.opcode, hfields.funct3⟩⟩
  -- SYSTEM
  · split_ifs at h with hecall hebreak
    · cases h
      rw [hecall]
      exact ⟨trivial, .inr ⟨nofun, rfl⟩⟩
    · cases h
      rw [hebreak]
      exact ⟨trivial, .inr ⟨nofun, rfl⟩⟩
  · cases h

/-! ## From an instruction to its word and back -/

section Words

variable {rs1 rs2 rd : Reg} {funct3 opcode : ℕ}

lemma hasFields_iType (imm : ℤ) (h3 : funct3 < 2 ^ 3) (ho : opcode < 2 ^ 7) :
    HasFields (UInt32.ofNat (iType rs1.number funct3 rd.number opcode imm)) (bits imm 5 7)
      (bits imm 0 5)
      rs1.number funct3 rd.number opcode := by
  rw [iType_eq]
  exact hasFields_rType (bits_lt _ _ _) (bits_lt _ _ _) rs1.number_lt h3 rd.number_lt ho

lemma hasFields_sType (imm : ℤ) (h3 : funct3 < 2 ^ 3) (ho : opcode < 2 ^ 7) :
    HasFields (UInt32.ofNat (sType rs2.number rs1.number funct3 opcode imm))
      (bits imm 5 7) rs2.number
      rs1.number funct3 (bits imm 0 5) opcode :=
  hasFields_rType (bits_lt _ _ _) rs2.number_lt rs1.number_lt h3 (bits_lt _ _ _) ho

lemma hasFields_bType (imm : ℤ) (h3 : funct3 < 2 ^ 3) (ho : opcode < 2 ^ 7) :
    HasFields (UInt32.ofNat (bType rs2.number rs1.number funct3 opcode imm))
      (bits imm 12 1 * 2 ^ 6 + bits imm 5 6) rs2.number rs1.number funct3
      (bits imm 1 4 * 2 + bits imm 11 1) opcode := by
  have h12 := bits_lt imm 12 1
  have h10 := bits_lt imm 5 6
  have h4 := bits_lt imm 1 4
  have h11 := bits_lt imm 11 1
  rw [bType_eq]
  exact hasFields_rType (by omega) rs2.number_lt rs1.number_lt h3 (by omega) ho

lemma hasFields_uType (imm : ℤ) (ho : opcode < 2 ^ 7) :
    HasFields (UInt32.ofNat (uType rd.number opcode imm)) (bits imm 25 7) (bits imm 20 5)
      (bits imm 15 5)
      (bits imm 12 3) rd.number opcode := by
  rw [uType_eq]
  exact hasFields_rType (bits_lt _ _ _) (bits_lt _ _ _) (bits_lt _ _ _)
    (bits_lt _ _ _) rd.number_lt ho

lemma hasFields_jType (imm : ℤ) (ho : opcode < 2 ^ 7) :
    HasFields (UInt32.ofNat (jType rd.number opcode imm)) (bits imm 20 1 * 2 ^ 6 + bits imm 5 6)
      (bits imm 1 4 * 2 + bits imm 11 1) (bits imm 15 5) (bits imm 12 3) rd.number opcode := by
  have h20 := bits_lt imm 20 1
  have h10 := bits_lt imm 5 6
  have h4 := bits_lt imm 1 4
  have h11 := bits_lt imm 11 1
  rw [jType_eq]
  exact hasFields_rType (by omega) (by omega) (bits_lt _ _ _) (bits_lt _ _ _) rd.number_lt ho

end Words

section Operands

variable {word : UInt32} {funct7 rs2 rs1 funct3 rd opcode : ℕ} {imm : Int32}

lemma Reg.eq_of_number {a b : Reg} (h : a.number = b.number) : a = b := Reg.ext_toNat h

lemma HasFields.immI_eq
    (h : HasFields word (bits imm.toInt 5 7) (bits imm.toInt 0 5) rs1 funct3 rd opcode)
    (hfits : Fits 12 imm.toInt) : Rv32i.immI word = imm := by
  obtain ⟨hlo, hhi⟩ := fits_immI word
  have hown := (fits_immI word).eq_of_twelve
  have hother := hfits.eq_of_twelve
  obtain ⟨hlo', hhi'⟩ := hfits
  rw [h.immI.1, h.immI.2] at hown
  rw [← Int32.toInt_inj]
  omega

lemma HasFields.immS_eq
    (h : HasFields word (bits imm.toInt 5 7) rs2 rs1 funct3 (bits imm.toInt 0 5) opcode)
    (hfits : Fits 12 imm.toInt) : Rv32i.immS word = imm := by
  obtain ⟨hlo, hhi⟩ := fits_immS word
  have hown := (fits_immS word).eq_of_twelve
  have hother := hfits.eq_of_twelve
  obtain ⟨hlo', hhi'⟩ := hfits
  rw [h.immS.1, h.immS.2] at hown
  rw [← Int32.toInt_inj]
  omega

lemma HasFields.immB_eq
    (h : HasFields word (bits imm.toInt 12 1 * 2 ^ 6 + bits imm.toInt 5 6) rs2 rs1 funct3
    (bits imm.toInt 1 4 * 2 + bits imm.toInt 11 1) opcode) (hfits : Fits 13 imm.toInt)
    (heven : imm.toInt % 2 = 0) : Rv32i.immB word = imm := by
  have hown := (fits_immB word).1.eq_of_thirteen (fits_immB word).2
  have hother := hfits.eq_of_thirteen heven
  obtain ⟨hupper, hlower⟩ := h.immB
  have h5 := bits_lt imm.toInt 5 6
  have h5' := bits_lt (Rv32i.immB word).toInt 5 6
  have h11 := bits_lt imm.toInt 11 1
  have h11' := bits_lt (Rv32i.immB word).toInt 11 1
  rw [← Int32.toInt_inj]
  omega

lemma HasFields.immU_eq {imm : UInt32}
    (h : HasFields word (bits imm.toNat 25 7) (bits imm.toNat 20 5)
    (bits imm.toNat 15 5) (bits imm.toNat 12 3) rd opcode) (hlow : imm.toNat % 2 ^ 12 = 0) :
    Rv32i.immU word = imm := by
  have hown := eq_of_upper (Rv32i.immU word).toNat_lt (by rw [toNat_immU, Nat.mul_mod_left])
  have hother := eq_of_upper imm.toNat_lt hlow
  obtain ⟨h7, h2, h1, h3⟩ := h.immU
  rw [h7, h2, h1, h3, ← hother] at hown
  exact UInt32.toNat_inj.mp hown

lemma HasFields.immJ_eq (h : HasFields word (bits imm.toInt 20 1 * 2 ^ 6 + bits imm.toInt 5 6)
    (bits imm.toInt 1 4 * 2 + bits imm.toInt 11 1) (bits imm.toInt 15 5)
      (bits imm.toInt 12 3) rd opcode)
    (hfits : Fits 21 imm.toInt) (heven : imm.toInt % 2 = 0) : Rv32i.immJ word = imm := by
  have hown := (fits_immJ word).1.eq_of_twentyOne (fits_immJ word).2
  have hother := hfits.eq_of_twentyOne heven
  obtain ⟨hupper, hmiddle, h1, h3⟩ := h.immJ
  have h5 := bits_lt imm.toInt 5 6
  have h5' := bits_lt (Rv32i.immJ word).toInt 5 6
  have h11 := bits_lt imm.toInt 11 1
  have h11' := bits_lt (Rv32i.immJ word).toInt 11 1
  rw [← Int32.toInt_inj]
  omega

variable (h : HasFields word funct7 rs2 rs1 funct3 rd opcode)

include h

lemma HasFields.opcode_word : word &&& 0x7f = UInt32.ofNat opcode := by
  rw [← h.opcode_eq, UInt32.ofNat_toNat]

lemma HasFields.funct3_word : (word >>> 12) &&& 0x7 = UInt32.ofNat funct3 := by
  rw [← h.funct3_eq, UInt32.ofNat_toNat]

end Operands

lemma BranchOp.funct3_lt (op : BranchOp) : op.funct3 < 2 ^ 3 := by cases op <;> decide

lemma LoadOp.funct3_lt (op : LoadOp) : op.funct3 < 2 ^ 3 := by cases op <;> decide

lemma StoreOp.funct3_lt (op : StoreOp) : op.funct3 < 2 ^ 3 := by cases op <;> decide

lemma ImmOp.funct3_lt (op : ImmOp) : op.funct3 < 2 ^ 3 := by cases op <;> decide

lemma ShiftOp.functs_lt (op : ShiftOp) : op.functs.1 < 2 ^ 7 ∧ op.functs.2 < 2 ^ 3 := by
  cases op <;> decide

lemma RegOp.functs_lt (op : RegOp) : op.functs.1 < 2 ^ 7 ∧ op.functs.2 < 2 ^ 3 := by
  cases op <;> decide

lemma instrOf_encode {instr : Instr} (h : instr.InRange) : instrOf (encode instr) = some instr := by
  cases instr with
  | lui rd imm =>
    have hfields := @hasFields_uType rd 0b0110111 imm.toNat (by omega)
    unfold encode encoding instrOf
    dsimp only
    rw [hfields.opcode_word, hfields.immU_eq h, Reg.eq_of_number hfields.rd_eq]
    rfl
  | auipc rd imm =>
    have hfields := @hasFields_uType rd 0b0010111 imm.toNat (by omega)
    unfold encode encoding instrOf
    dsimp only
    rw [hfields.opcode_word, hfields.immU_eq h, Reg.eq_of_number hfields.rd_eq]
    rfl
  | jal rd offset =>
    have hfields := @hasFields_jType rd 0b1101111 offset.toInt (by omega)
    unfold encode encoding instrOf
    dsimp only
    rw [hfields.opcode_word, hfields.immJ_eq h.1 h.2, Reg.eq_of_number hfields.rd_eq]
    rfl
  | jalr rd rs1 offset =>
    have hfields := @hasFields_iType rs1 rd 0b000 0b1100111 offset.toInt (by omega) (by omega)
    unfold encode encoding instrOf
    dsimp only
    rw [hfields.opcode_word, hfields.funct3_word, hfields.immI_eq h, Reg.eq_of_number hfields.rd_eq,
      Reg.eq_of_number hfields.rs1_eq]
    rfl
  | branch op rs1 rs2 offset =>
    have hfields :=
      @hasFields_bType rs1 rs2 op.funct3 0b1100011 offset.toInt op.funct3_lt (by omega)
    unfold encode encoding instrOf
    dsimp only
    rw [hfields.opcode_word, branchOp_eq_some.mpr hfields.funct3_eq, hfields.immB_eq h.1 h.2,
      Reg.eq_of_number hfields.rs1_eq, Reg.eq_of_number hfields.rs2_eq]
    rfl
  | load op rd rs1 offset =>
    have hfields := @hasFields_iType rs1 rd op.funct3 0b0000011 offset.toInt op.funct3_lt (by omega)
    unfold encode encoding instrOf
    dsimp only
    rw [hfields.opcode_word, loadOp_eq_some.mpr hfields.funct3_eq, hfields.immI_eq h,
      Reg.eq_of_number hfields.rd_eq, Reg.eq_of_number hfields.rs1_eq]
    rfl
  | store op rs1 rs2 offset =>
    have hfields :=
      @hasFields_sType rs1 rs2 op.funct3 0b0100011 offset.toInt op.funct3_lt (by omega)
    unfold encode encoding instrOf
    dsimp only
    rw [hfields.opcode_word, storeOp_eq_some.mpr hfields.funct3_eq, hfields.immS_eq h,
      Reg.eq_of_number hfields.rs1_eq, Reg.eq_of_number hfields.rs2_eq]
    rfl
  | opImm op rd rs1 imm =>
    have hfields := @hasFields_iType rs1 rd op.funct3 0b0010011 imm.toInt op.funct3_lt (by omega)
    unfold encode encoding instrOf
    dsimp only
    rw [hfields.opcode_word, immOp_eq_some.mpr hfields.funct3_eq, hfields.immI_eq h,
      Reg.eq_of_number hfields.rd_eq, Reg.eq_of_number hfields.rs1_eq]
    rfl
  | shiftImm op rd rs1 shamt =>
    obtain ⟨h7, h3⟩ := op.functs_lt
    have hfields :=
      @hasFields_rType op.functs.1 shamt.toNat rs1.number op.functs.2 rd.number 0b0010011
      h7 h rs1.number_lt h3 rd.number_lt (by omega)
    have hshamt := UInt32.toNat_inj.mp hfields.shamt_eq
    have hshift := shiftOp_eq_some.mpr ⟨hfields.funct7_eq, hfields.funct3_eq⟩
    unfold encode encoding instrOf
    dsimp only
    rw [hfields.opcode_word, hshift, hfields.funct3_word, hshamt, Reg.eq_of_number hfields.rd_eq,
      Reg.eq_of_number hfields.rs1_eq, immOp_of_shift]
    rfl
  | op op rd rs1 rs2 =>
    obtain ⟨h7, h3⟩ := op.functs_lt
    have hfields :=
      @hasFields_rType op.functs.1 rs2.number rs1.number op.functs.2 rd.number 0b0110011
      h7 rs2.number_lt rs1.number_lt h3 rd.number_lt (by omega)
    have hop := regOp_eq_some.mpr ⟨hfields.funct7_eq, hfields.funct3_eq⟩
    unfold encode encoding instrOf
    dsimp only
    rw [hfields.opcode_word, hop, Reg.eq_of_number hfields.rd_eq, Reg.eq_of_number hfields.rs1_eq,
      Reg.eq_of_number hfields.rs2_eq]
    rfl
  | fence => decide
  | ecall => decide
  | ebreak => decide

/-- Every `MISC-MEM` word with `funct3` 0 is a `FENCE`. -/
lemma instrOf_fence {word : UInt32} (h : IsFence word) : instrOf word = some .fence := by
  have hfields := hasFields_of word
  have hopcode := hfields.opcode_word
  have hfunct3 := hfields.funct3_word
  rw [← hfields.opcode, h.1] at hopcode
  rw [← hfields.funct3, h.2] at hfunct3
  unfold instrOf
  dsimp only
  rw [hopcode, hfunct3]
  rfl

/-- `decode` is the inverse of the encoding of RV32I: it gives back every instruction with operands
in range, what it decodes a word to is in range and encodes to that word, except that every
`MISC-MEM` word with `funct3` 0 is a `FENCE`; and it accepts these words and no others. -/
theorem decode_inverse :
    (∀ instr : Instr, instr.InRange → decode (encode instr) = .ok instr) ∧
    (∀ word instr, decode word = .ok instr →
      instr.InRange ∧ (IsFence word ∧ instr = .fence ∨ instr ≠ .fence ∧ encode instr = word)) ∧
    (∀ word, IsFence word → decode word = .ok .fence) ∧
    ∀ word, (∃ instr, decode word = .ok instr) ↔
      IsFence word ∨ ∃ instr : Instr, instr.InRange ∧ encode instr = word := by
  have hback : ∀ word instr, decode word = .ok instr →
      instr.InRange ∧ (IsFence word ∧ instr = .fence ∨ instr ≠ .fence ∧ encode instr = word) := by
    intro word instr h
    obtain ⟨hrange, ⟨hfence, hword⟩ | ⟨hne, hword⟩⟩ := encoding_of_instrOf (decode_eq_ok.mp h)
    · exact ⟨hrange, .inl ⟨hword, hfence⟩⟩
    · refine ⟨hrange, .inr ⟨hne, ?_⟩⟩
      unfold encode
      rw [hword, UInt32.ofNat_toNat]
  refine ⟨fun instr h => decode_eq_ok.mpr (instrOf_encode h), hback,
    fun word h => decode_eq_ok.mpr (instrOf_fence h), fun word => ⟨?_, ?_⟩⟩
  · rintro ⟨instr, h⟩
    obtain ⟨hrange, ⟨hword, -⟩ | ⟨-, hword⟩⟩ := hback word instr h
    · exact .inl hword
    · exact .inr ⟨instr, hrange, hword⟩
  · rintro (h | ⟨instr, hrange, rfl⟩)
    · exact ⟨.fence, decode_eq_ok.mpr (instrOf_fence h)⟩
    · exact ⟨instr, decode_eq_ok.mpr (instrOf_encode hrange)⟩

end SystemScope.Rv32i
