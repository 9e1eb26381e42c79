import Mathlib.Tactic.Linarith
import SystemScope.Framework.Integers
import SystemScope.Rv32i.Decode

/-!
# Encoding

A reference encoder of the 40 instructions, by the formats of the ISA, over the integers (`encode`);
and what the decoder takes from a word, in the same terms: its fields (`HasFields`), and its
immediates with their ranges and their bits.
-/

namespace SystemScope.Rv32i

/-! ## Formats -/

/-- The bits `lo + n - 1` down to `lo` of a two's-complement value. -/
def bits (x : ℤ) (lo n : ℕ) : ℕ := (x / 2 ^ lo % 2 ^ n).toNat

lemma cast_bits (x : ℤ) (lo n : ℕ) : (bits x lo n : ℤ) = x / 2 ^ lo % 2 ^ n :=
  Int.toNat_of_nonneg (Int.emod_nonneg _ (by positivity))

lemma bits_lt (x : ℤ) (lo n : ℕ) : bits x lo n < 2 ^ n := by
  have hlt := Int.emod_lt_of_pos (x / 2 ^ lo) (show (0 : ℤ) < 2 ^ n by positivity)
  rw [← cast_bits] at hlt
  exact_mod_cast hlt

/-- A field is its upper bits and its lower ones. -/
lemma bits_add (x : ℤ) (lo n m : ℕ) :
    bits x lo (n + m) = bits x (lo + n) m * 2 ^ n + bits x lo n := by
  have hhi : x / 2 ^ (lo + n) = x / 2 ^ lo / 2 ^ n := by
    rw [pow_add, Int.ediv_ediv_of_nonneg (by positivity)]
  zify
  rw [cast_bits, cast_bits, cast_bits, hhi]
  generalize x / 2 ^ lo = y
  have hn : (0 : ℤ) < 2 ^ n := by positivity
  have hm : (0 : ℤ) < 2 ^ m := by positivity
  have hlow := Int.mul_ediv_add_emod y (2 ^ n)
  have hhigh := congrArg ((2 : ℤ) ^ n * ·) (Int.mul_ediv_add_emod (y / 2 ^ n) (2 ^ m))
  have hsum : y = y / 2 ^ n % 2 ^ m * 2 ^ n + y % 2 ^ n + 2 ^ (n + m) * (y / 2 ^ n / 2 ^ m) := by
    rw [pow_add]
    linarith only [hlow, hhigh]
  have hlt : y / 2 ^ n % 2 ^ m * 2 ^ n + y % 2 ^ n < 2 ^ (n + m) := by
    have hdigit : y / 2 ^ n % 2 ^ m + 1 ≤ 2 ^ m := Int.emod_lt_of_pos _ hm
    have hmul := mul_le_mul_of_nonneg_right hdigit hn.le
    rw [pow_add]
    linarith only [hmul, Int.emod_lt_of_pos y hn]
  calc y % 2 ^ (n + m)
      = (y / 2 ^ n % 2 ^ m * 2 ^ n + y % 2 ^ n) % 2 ^ (n + m) := by
        conv_lhs => rw [hsum, Int.add_mul_emod_self_left]
    _ = y / 2 ^ n % 2 ^ m * 2 ^ n + y % 2 ^ n :=
        Int.emod_eq_of_lt (add_nonneg (mul_nonneg (Int.emod_nonneg _ hm.ne') hn.le)
          (Int.emod_nonneg _ hn.ne')) hlt

section Formats

variable (funct7 rs2 rs1 funct3 rd opcode : ℕ) (imm : ℤ)

/-- `funct7 | rs2 | rs1 | funct3 | rd | opcode`: the fields of every format that has them. -/
def rType : ℕ :=
  funct7 * 2 ^ 25 + rs2 * 2 ^ 20 + rs1 * 2 ^ 15 + funct3 * 2 ^ 12 + rd * 2 ^ 7 + opcode

/-- `imm[11:0] | rs1 | funct3 | rd | opcode` -/
def iType : ℕ := bits imm 0 12 * 2 ^ 20 + rs1 * 2 ^ 15 + funct3 * 2 ^ 12 + rd * 2 ^ 7 + opcode

/-- `imm[11:5] | rs2 | rs1 | funct3 | imm[4:0] | opcode` -/
def sType : ℕ :=
  bits imm 5 7 * 2 ^ 25 + rs2 * 2 ^ 20 + rs1 * 2 ^ 15 + funct3 * 2 ^ 12 + bits imm 0 5 *
    2 ^ 7 + opcode

/-- `imm[12] | imm[10:5] | rs2 | rs1 | funct3 | imm[4:1] | imm[11] | opcode` -/
def bType : ℕ :=
  bits imm 12 1 * 2 ^ 31 + bits imm 5 6 * 2 ^ 25 + rs2 * 2 ^ 20 + rs1 * 2 ^ 15 + funct3 * 2 ^ 12 +
    bits imm 1 4 * 2 ^ 8 + bits imm 11 1 * 2 ^ 7 + opcode

/-- `imm[31:12] | rd | opcode` -/
def uType : ℕ := bits imm 12 20 * 2 ^ 12 + rd * 2 ^ 7 + opcode

/-- `imm[20] | imm[10:1] | imm[11] | imm[19:12] | rd | opcode` -/
def jType : ℕ :=
  bits imm 20 1 * 2 ^ 31 + bits imm 1 10 * 2 ^ 21 + bits imm 11 1 * 2 ^ 20 +
    bits imm 12 8 * 2 ^ 12 +
    rd * 2 ^ 7 + opcode

/-! Every format is the fields of the first, with the immediate in some of them. -/

lemma iType_eq : iType rs1 funct3 rd opcode imm =
    rType (bits imm 5 7) (bits imm 0 5) rs1 funct3 rd opcode := by
  have himm : bits imm 0 12 = bits imm 5 7 * 2 ^ 5 + bits imm 0 5 := bits_add imm 0 5 7
  unfold iType rType
  omega

lemma bType_eq : bType rs2 rs1 funct3 opcode imm =
    rType (bits imm 12 1 * 2 ^ 6 + bits imm 5 6) rs2 rs1 funct3 (bits imm 1 4 * 2 + bits imm 11 1)
      opcode := by
  unfold bType rType
  omega

lemma uType_eq : uType rd opcode imm =
    rType (bits imm 25 7) (bits imm 20 5) (bits imm 15 5) (bits imm 12 3) rd opcode := by
  have h15 : bits imm 12 20 = bits imm 15 17 * 2 ^ 3 + bits imm 12 3 := bits_add imm 12 3 17
  have h20 : bits imm 15 17 = bits imm 20 12 * 2 ^ 5 + bits imm 15 5 := bits_add imm 15 5 12
  have h25 : bits imm 20 12 = bits imm 25 7 * 2 ^ 5 + bits imm 20 5 := bits_add imm 20 5 7
  unfold uType rType
  omega

lemma jType_eq : jType rd opcode imm =
    rType (bits imm 20 1 * 2 ^ 6 + bits imm 5 6) (bits imm 1 4 * 2 + bits imm 11 1) (bits imm 15 5)
      (bits imm 12 3) rd opcode := by
  have h10 : bits imm 1 10 = bits imm 5 6 * 2 ^ 4 + bits imm 1 4 := bits_add imm 1 4 6
  have h19 : bits imm 12 8 = bits imm 15 5 * 2 ^ 3 + bits imm 12 3 := bits_add imm 12 3 5
  unfold jType rType
  omega

end Formats

/-! ## The fields of a word -/

section Fields

variable {word : UInt32} {funct7 rs2 rs1 funct3 rd opcode : ℕ}

/-- What the fields of a word are. -/
structure HasFields (word : UInt32) (funct7 rs2 rs1 funct3 rd opcode : ℕ) : Prop where
  funct7 : word.toNat / 2 ^ 25 = funct7
  rs2 : word.toNat / 2 ^ 20 % 2 ^ 5 = rs2
  rs1 : word.toNat / 2 ^ 15 % 2 ^ 5 = rs1
  funct3 : word.toNat / 2 ^ 12 % 2 ^ 3 = funct3
  rd : word.toNat / 2 ^ 7 % 2 ^ 5 = rd
  opcode : word.toNat % 2 ^ 7 = opcode

lemma HasFields.toNat (h : HasFields word funct7 rs2 rs1 funct3 rd opcode) :
    word.toNat = rType funct7 rs2 rs1 funct3 rd opcode := by
  obtain ⟨rfl, rfl, rfl, rfl, rfl, rfl⟩ := h
  unfold rType
  omega

/-- A word that is put together has the fields it is put together from. -/
lemma hasFields_rType (h7 : funct7 < 2 ^ 7) (h2 : rs2 < 2 ^ 5) (h1 : rs1 < 2 ^ 5)
    (h3 : funct3 < 2 ^ 3)
    (hd : rd < 2 ^ 5) (ho : opcode < 2 ^ 7) :
    HasFields (UInt32.ofNat (rType funct7 rs2 rs1 funct3 rd opcode)) funct7 rs2 rs1 funct3
      rd opcode := by
  have hword : (UInt32.ofNat (rType funct7 rs2 rs1 funct3 rd opcode)).toNat =
      rType funct7 rs2 rs1 funct3 rd opcode := by
    refine UInt32.toNat_ofNat_of_lt' (show _ < 2 ^ 32 from ?_)
    unfold rType
    omega
  constructor <;> rw [hword] <;> unfold rType <;> omega

/-! The decoder's fields. -/

lemma toNat_field_index (word : UInt32) {k : ℕ} (hk : k < 32) :
    (Reg.field word (UInt32.ofNat k)).index.toNat = word.toNat / 2 ^ k % 2 ^ 5 := by
  have hfield : ((word >>> UInt32.ofNat k) &&& 0x1f).toNat = _ :=
    UInt32.toNat_field word hk (show 5 < 32 by omega)
  unfold Reg.field
  dsimp only
  rw [UInt32.toNat_toUInt8, hfield]
  omega

variable (h : HasFields word funct7 rs2 rs1 funct3 rd opcode)

include h

lemma HasFields.rd_eq : (Reg.field word 7).index.toNat = rd :=
  (toNat_field_index word (show 7 < 32 by omega)).trans h.rd

lemma HasFields.rs1_eq : (Reg.field word 15).index.toNat = rs1 :=
  (toNat_field_index word (show 15 < 32 by omega)).trans h.rs1

lemma HasFields.rs2_eq : (Reg.field word 20).index.toNat = rs2 :=
  (toNat_field_index word (show 20 < 32 by omega)).trans h.rs2

lemma HasFields.opcode_eq : (word &&& 0x7f).toNat = opcode :=
  (UInt32.toNat_and_mask word 7 (by omega)).trans h.opcode

lemma HasFields.funct3_eq : ((word >>> 12) &&& 0x7).toNat = funct3 :=
  (UInt32.toNat_field word (show 12 < 32 by omega) (show 3 < 32 by omega)).trans h.funct3

lemma HasFields.funct7_eq : (word >>> 25).toNat = funct7 :=
  (UInt32.toNat_shiftRight_ofNat word (show 25 < 32 by omega)).trans h.funct7

lemma HasFields.shamt_eq : ((word >>> 20) &&& 0x1f).toNat = rs2 :=
  (UInt32.toNat_field word (show 20 < 32 by omega) (show 5 < 32 by omega)).trans h.rs2

end Fields

/-! ## The immediates of a word -/

section Immediates

variable (word : UInt32)

lemma toInt_immI : (immI word).toInt = word.toInt32.toInt / 2 ^ 20 :=
  Int32.toInt_shiftRight_ofNat _ (show 20 < 32 by omega)

lemma toInt_immS :
    (immS word).toInt = word.toInt32.toInt / 2 ^ 25 * 2 ^ 5 + (word.toNat / 2 ^ 7 % 2 ^ 5 : ℕ) := by
  have hhi := Int32.toInt_shiftRight_ofNat word.toInt32 (show 25 < 32 by omega)
  have hlo := UInt32.toNat_field word (show 7 < 32 by omega) (show 5 < 32 by omega)
  have hvalue := word.toInt_toInt32
  have hword := word.toNat_lt
  have hsum := @Int32.toInt_shiftLeft_or (word.toInt32 >>> Int32.ofNat 25)
    ((word >>> UInt32.ofNat 7) &&& UInt32.ofNat (2 ^ 5 - 1)) 5 (by omega)
  rw [hhi, hlo] at hsum
  refine hsum ?_ ?_ (Nat.mod_lt _ (by omega))
  · split_ifs at hvalue <;> omega
  · split_ifs at hvalue <;> omega

lemma toInt_immB :
    (immB word).toInt = word.toInt32.toInt / 2 ^ 31 * 2 ^ 12 +
      (word.toNat / 2 ^ 7 % 2 ^ 1 * 2 ^ 11 + word.toNat / 2 ^ 25 % 2 ^ 6 * 2 ^ 5 +
        word.toNat / 2 ^ 8 % 2 ^ 4 * 2 ^ 1 : ℕ) := by
  have hhi : (word.toInt32 >>> 31).toInt = _ :=
    @Int32.toInt_shiftRight_ofNat word.toInt32 31 (by omega)
  have hb : (((word >>> 7) &&& 0x1) <<< 11).toNat = _ :=
    @UInt32.toNat_placed word 7 1 11 (by omega) (by omega) (by omega) (by omega)
  have hc : (((word >>> 25) &&& 0x3f) <<< 5).toNat = _ :=
    @UInt32.toNat_placed word 25 6 5 (by omega) (by omega) (by omega) (by omega)
  have hd : (((word >>> 8) &&& 0xf) <<< 1).toNat = _ :=
    @UInt32.toNat_placed word 8 4 1 (by omega) (by omega) (by omega) (by omega)
  have hvalue := word.toInt_toInt32
  have hword := word.toNat_lt
  unfold immB
  rw [← hb, ← hc, ← hd, ← hhi]
  refine @Int32.toInt_shiftLeft_or_or_or _ _ _ _ 12 11 5 (by omega) ?_ ?_ ?_ ?_ ?_ ?_ ?_
  · rw [hhi]
    split_ifs at hvalue <;> omega
  · rw [hhi]
    split_ifs at hvalue <;> omega
  all_goals omega

lemma toNat_immU : (immU word).toNat = word.toNat / 2 ^ 12 % 2 ^ 20 * 2 ^ 12 :=
  @UInt32.toNat_and_window word 12 20 (by omega)

lemma toInt_immJ :
    (immJ word).toInt = word.toInt32.toInt / 2 ^ 31 * 2 ^ 20 +
      (word.toNat / 2 ^ 12 % 2 ^ 8 * 2 ^ 12 + word.toNat / 2 ^ 20 % 2 ^ 1 * 2 ^ 11 +
        word.toNat / 2 ^ 21 % 2 ^ 10 * 2 ^ 1 : ℕ) := by
  have hhi : (word.toInt32 >>> 31).toInt = _ :=
    @Int32.toInt_shiftRight_ofNat word.toInt32 31 (by omega)
  have hb : (word &&& 0x000ff000).toNat = _ :=
    @UInt32.toNat_and_window word 12 8 (by omega)
  have hc : (((word >>> 20) &&& 0x1) <<< 11).toNat = _ :=
    @UInt32.toNat_placed word 20 1 11 (by omega) (by omega) (by omega) (by omega)
  have hd : (((word >>> 21) &&& 0x3ff) <<< 1).toNat = _ :=
    @UInt32.toNat_placed word 21 10 1 (by omega) (by omega) (by omega) (by omega)
  have hvalue := word.toInt_toInt32
  have hword := word.toNat_lt
  unfold immJ
  rw [← hb, ← hc, ← hd, ← hhi]
  refine @Int32.toInt_shiftLeft_or_or_or _ _ _ _ 20 12 11 (by omega) ?_ ?_ ?_ ?_ ?_ ?_ ?_
  · rw [hhi]
    split_ifs at hvalue <;> omega
  · rw [hhi]
    split_ifs at hvalue <;> omega
  all_goals omega

/-! Their ranges. -/

/-- The value is an `n`-bit two's-complement number. -/
def Fits (n : ℕ) (x : ℤ) : Prop := -2 ^ (n - 1) ≤ x ∧ x < 2 ^ (n - 1)

lemma fits_immI : Fits 12 (immI word).toInt := by
  have hvalue := word.toInt_toInt32
  have hword := word.toNat_lt
  unfold Fits
  rw [toInt_immI]
  split_ifs at hvalue <;> omega

lemma fits_immS : Fits 12 (immS word).toInt := by
  have hvalue := word.toInt_toInt32
  have hword := word.toNat_lt
  unfold Fits
  rw [toInt_immS]
  split_ifs at hvalue <;> omega

lemma fits_immB : Fits 13 (immB word).toInt ∧ (immB word).toInt % 2 = 0 := by
  have hvalue := word.toInt_toInt32
  have hword := word.toNat_lt
  unfold Fits
  rw [toInt_immB]
  split_ifs at hvalue <;> omega

lemma fits_immJ : Fits 21 (immJ word).toInt ∧ (immJ word).toInt % 2 = 0 := by
  have hvalue := word.toInt_toInt32
  have hword := word.toNat_lt
  unfold Fits
  rw [toInt_immJ]
  split_ifs at hvalue <;> omega

end Immediates

/-! Their bits are the fields they are taken from. -/

section Bits

variable {word : UInt32} {funct7 rs2 rs1 funct3 rd opcode : ℕ}
  (h : HasFields word funct7 rs2 rs1 funct3 rd opcode)

include h

lemma HasFields.immI : bits (immI word).toInt 5 7 = funct7 ∧ bits (immI word).toInt 0 5 = rs2 := by
  have hvalue := word.toInt_toInt32
  have hword := word.toNat_lt
  obtain ⟨h7, h2, -⟩ := h
  unfold bits
  rw [toInt_immI]
  split_ifs at hvalue <;> omega

lemma HasFields.immS : bits (immS word).toInt 5 7 = funct7 ∧ bits (immS word).toInt 0 5 = rd := by
  have hvalue := word.toInt_toInt32
  have hword := word.toNat_lt
  obtain ⟨h7, -, -, -, hd, -⟩ := h
  unfold bits
  rw [toInt_immS]
  split_ifs at hvalue <;> omega

omit h in
lemma toInt_div_sign (word : UInt32) :
    word.toInt32.toInt / 2 ^ 31 = -(word.toNat / 2 ^ 31 : ℕ) := by
  have hvalue := word.toInt_toInt32
  have hword := word.toNat_lt
  split_ifs at hvalue <;> omega

omit h in
lemma bits_immB {s b c d : ℕ} (hs : s < 2) (hb : b < 2) (hc : c < 2 ^ 6) (hd : d < 2 ^ 4) {x : ℤ}
    (hx : x = -s * 2 ^ 12 + (b * 2 ^ 11 + c * 2 ^ 5 + d * 2 ^ 1 : ℕ)) :
    bits x 12 1 = s ∧ bits x 5 6 = c ∧ bits x 1 4 = d ∧ bits x 11 1 = b := by
  unfold bits
  rcases (show s = 0 ∨ s = 1 by omega) with rfl | rfl
  · refine ⟨?_, ?_, ?_, ?_⟩ <;> omega
  · refine ⟨?_, ?_, ?_, ?_⟩ <;> omega

lemma HasFields.immB :
    bits (immB word).toInt 12 1 * 2 ^ 6 + bits (immB word).toInt 5 6 = funct7 ∧
      bits (immB word).toInt 1 4 * 2 + bits (immB word).toInt 11 1 = rd := by
  have hword := word.toNat_lt
  obtain ⟨h7, -, -, -, hd, -⟩ := h
  obtain ⟨h12, h10, h4, h11⟩ := bits_immB (show word.toNat / 2 ^ 31 < 2 by omega)
    (Nat.mod_lt _ (by omega)) (Nat.mod_lt _ (by omega)) (Nat.mod_lt _ (by omega))
    ((toInt_immB word).trans (congrArg (· * 2 ^ 12 + _) (toInt_div_sign word)))
  rw [h12, h10, h4, h11]
  omega

lemma HasFields.immU :
    bits (immU word).toNat 25 7 = funct7 ∧ bits (immU word).toNat 20 5 = rs2 ∧
      bits (immU word).toNat 15 5 = rs1 ∧ bits (immU word).toNat 12 3 = funct3 := by
  have hword := word.toNat_lt
  obtain ⟨h7, h2, h1, h3, -, -⟩ := h
  unfold bits
  rw [toNat_immU]
  refine ⟨?_, ?_, ?_, ?_⟩
  · clear h2 h1 h3
    omega
  · clear h7 h1 h3
    omega
  · clear h7 h2 h3
    omega
  · clear h7 h2 h1
    omega

omit h in
lemma bits_immJ {s a b c : ℕ} (hs : s < 2) (ha : a < 2 ^ 8) (hb : b < 2) (hc : c < 2 ^ 10) {x : ℤ}
    (hx : x = -s * 2 ^ 20 + (a * 2 ^ 12 + b * 2 ^ 11 + c * 2 ^ 1 : ℕ)) :
    bits x 20 1 = s ∧ bits x 5 6 = c / 2 ^ 4 ∧ bits x 1 4 = c % 2 ^ 4 ∧ bits x 11 1 = b ∧
      bits x 15 5 = a / 2 ^ 3 ∧ bits x 12 3 = a % 2 ^ 3 := by
  unfold bits
  rcases (show s = 0 ∨ s = 1 by omega) with rfl | rfl
  · refine ⟨?_, ?_, ?_, ?_, ?_, ?_⟩ <;> omega
  · refine ⟨?_, ?_, ?_, ?_, ?_, ?_⟩ <;> omega

lemma HasFields.immJ :
    bits (immJ word).toInt 20 1 * 2 ^ 6 + bits (immJ word).toInt 5 6 = funct7 ∧
      bits (immJ word).toInt 1 4 * 2 + bits (immJ word).toInt 11 1 = rs2 ∧
      bits (immJ word).toInt 15 5 = rs1 ∧ bits (immJ word).toInt 12 3 = funct3 := by
  have hword := word.toNat_lt
  obtain ⟨h7, h2, h1, h3, -, -⟩ := h
  obtain ⟨h20, h10, h4, h11, h19, h14⟩ := bits_immJ (show word.toNat / 2 ^ 31 < 2 by omega)
    (Nat.mod_lt _ (by omega)) (Nat.mod_lt _ (by omega)) (Nat.mod_lt _ (by omega))
    ((toInt_immJ word).trans (congrArg (· * 2 ^ 20 + _) (toInt_div_sign word)))
  rw [h20, h10, h4, h11, h19, h14]
  refine ⟨?_, ?_, ?_, ?_⟩
  · clear h2 h1 h3
    omega
  · clear h7 h1 h3
    omega
  · clear h7 h2 h3
    omega
  · clear h7 h2 h1
    omega

end Bits

/-! A value in range is its bits. -/

section Values

variable {x : ℤ}

lemma Fits.eq_of_twelve (h : Fits 12 x) : x = (bits x 5 7 * 2 ^ 5 + bits x 0 5 : ℕ) ∨
    x = (bits x 5 7 * 2 ^ 5 + bits x 0 5 : ℕ) - 2 ^ 12 := by
  unfold Fits at h
  unfold bits
  omega

lemma Fits.eq_of_thirteen (h : Fits 13 x) (heven : x % 2 = 0) :
    x = -bits x 12 1 * 2 ^ 12 +
      (bits x 11 1 * 2 ^ 11 + bits x 5 6 * 2 ^ 5 + bits x 1 4 * 2 : ℕ) := by
  have hsign : x = -bits x 12 1 * 2 ^ 12 + bits x 0 12 := by
    unfold Fits at h
    unfold bits
    omega
  have hlow : bits x 0 1 = 0 := by
    unfold bits
    omega
  have h11 : bits x 0 12 = bits x 11 1 * 2 ^ 11 + bits x 0 11 := bits_add x 0 11 1
  have h10 : bits x 0 11 = bits x 5 6 * 2 ^ 5 + bits x 0 5 := bits_add x 0 5 6
  have h4 : bits x 0 5 = bits x 1 4 * 2 ^ 1 + bits x 0 1 := bits_add x 0 1 4
  omega

lemma Fits.eq_of_twentyOne (h : Fits 21 x) (heven : x % 2 = 0) :
    x = -bits x 20 1 * 2 ^ 20 +
      (bits x 15 5 * 2 ^ 15 + bits x 12 3 * 2 ^ 12 + bits x 11 1 * 2 ^ 11 +
      bits x 5 6 * 2 ^ 5 + bits x 1 4 * 2 : ℕ) := by
  obtain ⟨hlo, hhi⟩ := h
  push_cast
  simp only [cast_bits]
  -- From the lowest bits to the sign.
  have h1 : x = x / 2 ^ 1 * 2 := by omega
  have h5 : x / 2 ^ 1 = x / 2 ^ 5 * 2 ^ 4 + x / 2 ^ 1 % 2 ^ 4 := by omega
  have h11 : x / 2 ^ 5 = x / 2 ^ 11 * 2 ^ 6 + x / 2 ^ 5 % 2 ^ 6 := by omega
  have h12 : x / 2 ^ 11 = x / 2 ^ 12 * 2 ^ 1 + x / 2 ^ 11 % 2 ^ 1 := by omega
  have h15 : x / 2 ^ 12 = x / 2 ^ 15 * 2 ^ 3 + x / 2 ^ 12 % 2 ^ 3 := by omega
  have h20 : x / 2 ^ 15 = x / 2 ^ 20 * 2 ^ 5 + x / 2 ^ 15 % 2 ^ 5 := by omega
  have hsign : x / 2 ^ 20 = -(x / 2 ^ 20 % 2 ^ 1) := by omega
  linarith

lemma eq_of_upper {n : ℕ} (h : n < 2 ^ 32) (hlow : n % 2 ^ 12 = 0) :
    n = bits n 25 7 * 2 ^ 25 + bits n 20 5 * 2 ^ 20 + bits n 15 5 * 2 ^ 15 +
      bits n 12 3 * 2 ^ 12 := by
  have hvalue : n = bits n 12 20 * 2 ^ 12 := by
    unfold bits
    omega
  have h15 : bits n 12 20 = bits n 15 17 * 2 ^ 3 + bits n 12 3 := bits_add n 12 3 17
  have h20 : bits n 15 17 = bits n 20 12 * 2 ^ 5 + bits n 15 5 := bits_add n 15 5 12
  have h25 : bits n 20 12 = bits n 25 7 * 2 ^ 5 + bits n 20 5 := bits_add n 20 5 7
  rw [h15, h20, h25] at hvalue
  linarith only [hvalue]

end Values

/-! ## The encoder -/

/-- The number of a register. -/
def Reg.number (r : Reg) : ℕ := r.index.toNat

lemma Reg.number_lt (r : Reg) : r.number < 2 ^ 5 := r.lt

/-! The codes of the operations. -/

def BranchOp.funct3 : BranchOp → ℕ
  | .eq => 0b000
  | .ne => 0b001
  | .lt => 0b100
  | .ge => 0b101
  | .ltu => 0b110
  | .geu => 0b111

def LoadOp.funct3 : LoadOp → ℕ
  | .b => 0b000
  | .h => 0b001
  | .w => 0b010
  | .bu => 0b100
  | .hu => 0b101

def StoreOp.funct3 : StoreOp → ℕ
  | .b => 0b000
  | .h => 0b001
  | .w => 0b010

def ImmOp.funct3 : ImmOp → ℕ
  | .addi => 0b000
  | .slti => 0b010
  | .sltiu => 0b011
  | .xori => 0b100
  | .ori => 0b110
  | .andi => 0b111

/-- `funct7` and `funct3`. -/
def ShiftOp.functs : ShiftOp → ℕ × ℕ
  | .sll => (0b0000000, 0b001)
  | .srl => (0b0000000, 0b101)
  | .sra => (0b0100000, 0b101)

/-- `funct7` and `funct3`. -/
def RegOp.functs : RegOp → ℕ × ℕ
  | .add => (0b0000000, 0b000)
  | .sub => (0b0100000, 0b000)
  | .sll => (0b0000000, 0b001)
  | .slt => (0b0000000, 0b010)
  | .sltu => (0b0000000, 0b011)
  | .xor => (0b0000000, 0b100)
  | .srl => (0b0000000, 0b101)
  | .sra => (0b0100000, 0b101)
  | .or => (0b0000000, 0b110)
  | .and => (0b0000000, 0b111)

/-- The number of the word that an instruction is encoded in. -/
def encoding : Instr → ℕ
  | .lui rd imm => uType rd.number 0b0110111 imm.toNat
  | .auipc rd imm => uType rd.number 0b0010111 imm.toNat
  | .jal rd offset => jType rd.number 0b1101111 offset.toInt
  | .jalr rd rs1 offset => iType rs1.number 0b000 rd.number 0b1100111 offset.toInt
  | .branch op rs1 rs2 offset => bType rs2.number rs1.number op.funct3 0b1100011 offset.toInt
  | .load op rd rs1 offset => iType rs1.number op.funct3 rd.number 0b0000011 offset.toInt
  | .store op rs1 rs2 offset => sType rs2.number rs1.number op.funct3 0b0100011 offset.toInt
  | .opImm op rd rs1 imm => iType rs1.number op.funct3 rd.number 0b0010011 imm.toInt
  | .shiftImm op rd rs1 shamt =>
    rType op.functs.1 shamt.toNat rs1.number op.functs.2 rd.number 0b0010011
  | .op op rd rs1 rs2 => rType op.functs.1 rs2.number rs1.number op.functs.2 rd.number 0b0110011
  -- `FENCE` with every predecessor and successor.
  | .fence => iType 0 0b000 0 0b0001111 0x0ff
  | .ecall => iType 0 0b000 0 0b1110011 0
  | .ebreak => iType 0 0b000 0 0b1110011 1

/-- The reference encoder. -/
def encode (instr : Instr) : UInt32 := UInt32.ofNat (encoding instr)

/-- The operands of an instruction are in range: the offsets of branches and jumps are even. -/
def Instr.InRange : Instr → Prop
  | .lui _ imm | .auipc _ imm => imm.toNat % 2 ^ 12 = 0
  | .jal _ offset => Fits 21 offset.toInt ∧ offset.toInt % 2 = 0
  | .branch _ _ _ offset => Fits 13 offset.toInt ∧ offset.toInt % 2 = 0
  | .jalr _ _ imm | .load _ _ _ imm | .store _ _ _ imm | .opImm _ _ _ imm => Fits 12 imm.toInt
  | .shiftImm _ _ _ shamt => shamt.toNat < 32
  | .op .. | .fence | .ecall | .ebreak => True

/-- The word of every `FENCE`: the `MISC-MEM` words with `funct3` 0. -/
def IsFence (word : UInt32) : Prop :=
  word.toNat % 2 ^ 7 = 0b0001111 ∧ word.toNat / 2 ^ 12 % 2 ^ 3 = 0

example : encode (.branch .eq ⟨2, by decide⟩ .zero (-28)) = 0xFE0102E3 := by decide +kernel

end SystemScope.Rv32i
