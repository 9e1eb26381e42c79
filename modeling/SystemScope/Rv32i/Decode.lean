import Mathlib.Tactic.Common

/-!
# RV32I instructions and registers

`components/rv32i/src/instr.rs` and `regfile.rs`: a decoded instruction is always one of the 40 of
RV32I, with its operands extracted, and a register index is always below 32.
-/

namespace SystemScope

namespace Rv32i

/-- An integer register, `x0` to `x31`. -/
structure Reg where
  index : UInt8
  lt : index.toNat < 32
  deriving DecidableEq

namespace Reg

/-- `x0`, which always reads 0. -/
def zero : Reg := ⟨0, by decide⟩

/-- Register `x{index}`, if there is one. -/
def new (index : UInt8) : Option Reg :=
  if h : index.toNat < 32 then some ⟨index, h⟩ else none

@[simp] lemma new_index (r : Reg) : new r.index = some r := by
  simp [new, r.lt]

lemma new_eq_some {index : UInt8} {r : Reg} : new index = some r ↔ index = r.index := by
  constructor
  · intro h
    unfold new at h
    split_ifs at h with hlt
    cases h
    rfl
  · rintro rfl
    exact new_index r

lemma ext_toNat {a b : Reg} (h : a.index.toNat = b.index.toNat) : a = b := by
  obtain ⟨i, hi⟩ := a
  obtain ⟨j, hj⟩ := b
  obtain rfl : i = j := UInt8.toNat_inj.mp h
  rfl

/-- The register named by the 5-bit field at `word[shift + 4:shift]`. -/
def field (word shift : UInt32) : Reg where
  index := ((word >>> shift) &&& 0x1f).toUInt8
  lt := by
    rw [UInt32.toNat_toUInt8, UInt32.toNat_and]
    have hle : (word >>> shift).toNat &&& (0x1f : UInt32).toNat ≤ 31 := Nat.and_le_right
    omega

end Reg

/-- The comparison of a conditional branch. -/
inductive BranchOp
  | eq
  | ne
  | lt
  | ge
  | ltu
  | geu
  deriving DecidableEq

/-- The width and extension of a load. -/
inductive LoadOp
  | b
  | h
  | w
  | bu
  | hu
  deriving DecidableEq

/-- The width of a store. -/
inductive StoreOp
  | b
  | h
  | w
  deriving DecidableEq

/-- A register-immediate operation other than a shift. -/
inductive ImmOp
  | addi
  | slti
  | sltiu
  | xori
  | ori
  | andi
  deriving DecidableEq

/-- A shift. -/
inductive ShiftOp
  | sll
  | srl
  | sra
  deriving DecidableEq

/-- A register-register operation. -/
inductive RegOp
  | add
  | sub
  | sll
  | slt
  | sltu
  | xor
  | srl
  | sra
  | or
  | and
  deriving DecidableEq

/-- A decoded RV32I instruction. -/
inductive Instr
  | lui (rd : Reg) (imm : UInt32)
  | auipc (rd : Reg) (imm : UInt32)
  | jal (rd : Reg) (offset : Int32)
  | jalr (rd rs1 : Reg) (offset : Int32)
  | branch (op : BranchOp) (rs1 rs2 : Reg) (offset : Int32)
  | load (op : LoadOp) (rd rs1 : Reg) (offset : Int32)
  | store (op : StoreOp) (rs1 rs2 : Reg) (offset : Int32)
  | opImm (op : ImmOp) (rd rs1 : Reg) (imm : Int32)
  | shiftImm (op : ShiftOp) (rd rs1 : Reg) (shamt : UInt32)
  | op (op : RegOp) (rd rs1 rs2 : Reg)
  | fence
  | ecall
  | ebreak
  deriving DecidableEq

/-! ## The register file -/

/-- The integer registers.  `x0` has no storage: `x[i]` holds register `x{i + 1}`. -/
structure RegisterFile where
  x : Vector UInt32 31
  deriving DecidableEq

namespace RegisterFile

/-- All registers zero. -/
def new : RegisterFile := ⟨Vector.replicate 31 0⟩

/-- The value of a register; always 0 for `x0`. -/
def read (regs : RegisterFile) (reg : Reg) : UInt32 :=
  match h : reg.index.toNat with
  | 0 => 0
  | i + 1 => regs.x.get ⟨i, by have := reg.lt; omega⟩

/-- Sets a register.  A write to `x0` has no effect. -/
def write (regs : RegisterFile) (reg : Reg) (value : UInt32) : RegisterFile :=
  match h : reg.index.toNat with
  | 0 => regs
  | i + 1 => ⟨regs.x.set i value (by have := reg.lt; omega)⟩

lemma read_zero (regs : RegisterFile) : regs.read .zero = 0 := rfl

lemma write_zero (regs : RegisterFile) (value : UInt32) : regs.write .zero value = regs := rfl

lemma read_succ (regs : RegisterFile) {reg : Reg} {i : ℕ} (hi : i < 31)
    (h : reg.index.toNat = i + 1) : regs.read reg = regs.x[i] := by
  unfold read
  split
  · omega
  · rename_i j hj
    obtain rfl : i = j := by omega
    rfl

lemma write_succ (regs : RegisterFile) {reg : Reg} {i : ℕ} (hi : i < 31) (value : UInt32)
    (h : reg.index.toNat = i + 1) : regs.write reg value = ⟨regs.x.set i value⟩ := by
  unfold write
  split
  · omega
  · rename_i j hj
    obtain rfl : i = j := by omega
    rfl

/-- A register other than `x0` is stored. -/
lemma exists_stored {reg : Reg} (h : reg ≠ .zero) : ∃ i < 31, reg.index.toNat = i + 1 := by
  have hlt := reg.lt
  have hne : reg.index.toNat ≠ 0 := fun h0 => h (Reg.ext_toNat h0)
  exact ⟨reg.index.toNat - 1, by omega, by omega⟩

lemma read_write_self (regs : RegisterFile) {reg : Reg} (value : UInt32) (h : reg ≠ .zero) :
    (regs.write reg value).read reg = value := by
  obtain ⟨i, hi, hindex⟩ := exists_stored h
  rw [read_succ _ hi hindex, write_succ _ hi value hindex]
  exact Vector.getElem_set_self hi

lemma read_write_of_ne (regs : RegisterFile) {reg other : Reg} (value : UInt32)
    (h : other ≠ reg) : (regs.write reg value).read other = regs.read other := by
  by_cases hreg : reg = .zero
  · rw [hreg, write_zero]
  by_cases hother : other = .zero
  · rw [hother, read_zero, read_zero]
  obtain ⟨i, hi, hindex⟩ := exists_stored hreg
  obtain ⟨j, hj, hindex'⟩ := exists_stored hother
  have hne : i ≠ j := fun hij => h (Reg.ext_toNat (by omega))
  rw [read_succ _ hj hindex', read_succ _ hj hindex', write_succ _ hi value hindex]
  exact Vector.getElem_set_ne hi hj hne

lemma ext_read {regs regs' : RegisterFile} (h : ∀ reg, regs.read reg = regs'.read reg) :
    regs = regs' := by
  obtain ⟨x⟩ := regs
  obtain ⟨x'⟩ := regs'
  congr
  refine Vector.ext fun i hi => ?_
  have hindex : (UInt8.ofNat (i + 1)).toNat = i + 1 :=
    UInt8.toNat_ofNat_of_lt' (show i + 1 < 256 by omega)
  have hread := h ⟨UInt8.ofNat (i + 1), by omega⟩
  rw [read_succ _ hi hindex, read_succ _ hi hindex] at hread
  exact hread

end RegisterFile

end Rv32i

/-!
## Decoding

`components/rv32i/src/immediate.rs` and `decode.rs`: the five immediate formats, and the decoder,
total over all words.  A word that is none of the 40 instructions is `Illegal`.
-/

namespace Rv32i

/-! ## Immediates -/

/-- The I-type immediate: `word[31:20]`, sign-extended. -/
def immI (word : UInt32) : Int32 := word.toInt32 >>> 20

/-- The S-type immediate: `word[31:25]` then `word[11:7]`. -/
def immS (word : UInt32) : Int32 :=
  (word.toInt32 >>> 25 <<< 5) ||| ((word >>> 7) &&& 0x1f).toInt32

/-- The B-type immediate, an even byte offset. -/
def immB (word : UInt32) : Int32 :=
  (word.toInt32 >>> 31 <<< 12) ||| (((word >>> 7) &&& 0x1) <<< 11).toInt32 |||
    (((word >>> 25) &&& 0x3f) <<< 5).toInt32 ||| (((word >>> 8) &&& 0xf) <<< 1).toInt32

/-- The U-type immediate: `word[31:12]` in place. -/
def immU (word : UInt32) : UInt32 := word &&& 0xfffff000

/-- The J-type immediate, an even byte offset. -/
def immJ (word : UInt32) : Int32 :=
  (word.toInt32 >>> 31 <<< 20) ||| (word &&& 0x000ff000).toInt32 |||
    (((word >>> 20) &&& 0x1) <<< 11).toInt32 ||| (((word >>> 21) &&& 0x3ff) <<< 1).toInt32

/-! ## Instructions -/

/-- A word that is not an instruction. -/
structure Illegal where
  word : UInt32
  deriving DecidableEq

def branchOp (funct3 : UInt32) : Option BranchOp :=
  match funct3 with
  | 0b000 => some .eq
  | 0b001 => some .ne
  | 0b100 => some .lt
  | 0b101 => some .ge
  | 0b110 => some .ltu
  | 0b111 => some .geu
  | _ => none

def loadOp (funct3 : UInt32) : Option LoadOp :=
  match funct3 with
  | 0b000 => some .b
  | 0b001 => some .h
  | 0b010 => some .w
  | 0b100 => some .bu
  | 0b101 => some .hu
  | _ => none

def storeOp (funct3 : UInt32) : Option StoreOp :=
  match funct3 with
  | 0b000 => some .b
  | 0b001 => some .h
  | 0b010 => some .w
  | _ => none

def immOp (funct3 : UInt32) : Option ImmOp :=
  match funct3 with
  | 0b000 => some .addi
  | 0b010 => some .slti
  | 0b011 => some .sltiu
  | 0b100 => some .xori
  | 0b110 => some .ori
  | 0b111 => some .andi
  | _ => none

/-- `imm[11:5]` selects the shift; every other value is reserved, `shamt[5] = 1` included. -/
def shiftOp (funct3 funct7 : UInt32) : Option ShiftOp :=
  match funct3, funct7 with
  | 0b001, 0b0000000 => some .sll
  | 0b101, 0b0000000 => some .srl
  | 0b101, 0b0100000 => some .sra
  | _, _ => none

def regOp (funct7 funct3 : UInt32) : Option RegOp :=
  match funct7, funct3 with
  | 0b0000000, 0b000 => some .add
  | 0b0100000, 0b000 => some .sub
  | 0b0000000, 0b001 => some .sll
  | 0b0000000, 0b010 => some .slt
  | 0b0000000, 0b011 => some .sltu
  | 0b0000000, 0b100 => some .xor
  | 0b0000000, 0b101 => some .srl
  | 0b0100000, 0b101 => some .sra
  | 0b0000000, 0b110 => some .or
  | 0b0000000, 0b111 => some .and
  | _, _ => none

def ecallWord : UInt32 := 0x00000073

def ebreakWord : UInt32 := 0x00100073

/-- The instruction a word stands for, if any. -/
def instrOf (word : UInt32) : Option Instr :=
  let rd := Reg.field word 7
  let rs1 := Reg.field word 15
  let rs2 := Reg.field word 20
  let funct3 := (word >>> 12) &&& 0x7
  let funct7 := word >>> 25
  match word &&& 0x7f with
  -- LUI, AUIPC, JAL, JALR
  | 0b0110111 => some (.lui rd (immU word))
  | 0b0010111 => some (.auipc rd (immU word))
  | 0b1101111 => some (.jal rd (immJ word))
  | 0b1100111 => if funct3 = 0 then some (.jalr rd rs1 (immI word)) else none
  -- BRANCH, LOAD, STORE
  | 0b1100011 => (branchOp funct3).map fun op => .branch op rs1 rs2 (immB word)
  | 0b0000011 => (loadOp funct3).map fun op => .load op rd rs1 (immI word)
  | 0b0100011 => (storeOp funct3).map fun op => .store op rs1 rs2 (immS word)
  -- OP-IMM: what is not an immediate operation may be a shift
  | 0b0010011 =>
    match immOp funct3 with
    | some op => some (.opImm op rd rs1 (immI word))
    | none =>
      (shiftOp funct3 funct7).map fun op => .shiftImm op rd rs1 ((word >>> 20) &&& 0x1f)
  -- OP
  | 0b0110011 => (regOp funct7 funct3).map fun op => .op op rd rs1 rs2
  -- MISC-MEM: every FENCE configuration
  | 0b0001111 => if funct3 = 0 then some .fence else none
  -- SYSTEM
  | 0b1110011 =>
    if word = ecallWord then some .ecall else if word = ebreakWord then some .ebreak else none
  | _ => none

/-- Decodes one instruction word. -/
def decode (word : UInt32) : Except Illegal Instr :=
  match instrOf word with
  | some instr => .ok instr
  | none => .error { word }

example : decode 0xFE0102E3 = .ok (.branch .eq ⟨2, by decide⟩ .zero (-28)) := by decide +kernel

example : decode 0x40515093 = .ok (.shiftImm .sra ⟨1, by decide⟩ ⟨2, by decide⟩ 5) := by
  decide +kernel

end Rv32i

end SystemScope
