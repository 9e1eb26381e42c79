import SystemScope.Framework.Integers
import SystemScope.Rv32i.Privilege

/-!
# Sv32 translation

`components/rv32i/src/sv32.rs`: what one page table entry means for a walk (`Sv32.step`), and the
whole walk against a reader of entries (`sv32Translate`).  The reader is a mutable closure in the
source; here it passes its state along, so that the addresses it is asked for can be
recorded. -/

namespace SystemScope.Rv32i

def pteV : UInt32 := (1 : UInt32) <<< 0
def pteR : UInt32 := (1 : UInt32) <<< 1
def pteW : UInt32 := (1 : UInt32) <<< 2
def pteX : UInt32 := (1 : UInt32) <<< 3
def pteU : UInt32 := (1 : UInt32) <<< 4
def pteA : UInt32 := (1 : UInt32) <<< 6
def pteD : UInt32 := (1 : UInt32) <<< 7

/-- The page size, 4 KiB. -/
def pageSize : UInt64 := 4096

/-- A physical address has 34 bits. -/
def paBits : UInt64 := 34

/-- What the translated access does. -/
inductive Access
  | fetch
  | load
  | store
  deriving DecidableEq, Repr

namespace Access

/-- The page fault of an access. -/
def pageFault : Access → TrapCause
  | fetch => .instructionPageFault
  | load => .loadPageFault
  | store => .storePageFault

/-- The access fault of an access. -/
def accessFault : Access → TrapCause
  | fetch => .instructionAccessFault
  | load => .loadAccessFault
  | store => .storeAccessFault

end Access

namespace Sv32

/-- What a walk checks the leaf against. -/
structure Context where
  privilege : Privilege
  sum : Bool
  mxr : Bool
  access : Access
  deriving DecidableEq

/-- A walk that did not produce a physical address. -/
inductive Fault
  /-- A page fault of the access type. -/
  | page
  /-- A read the bus refused. -/
  | access
  deriving DecidableEq, Repr

/-- The trap cause a fault raises for an access. -/
def Fault.cause : Fault → Access → TrapCause
  | .page, a => a.pageFault
  | .access, a => a.accessFault

/-- What one entry means for the walk. -/
inductive Step
  /-- A pointer: read the level-0 entry in the table with this PPN. -/
  | next (table : UInt32)
  /-- A leaf that allows the access. -/
  | leaf (pa : UInt64)
  | pageFault
  deriving DecidableEq

/-- `VPN[level]` of an address. -/
def vpn (va : UInt32) (level : UInt8) : UInt32 := (va >>> (12 + 10 * level.toUInt32)) &&& 0x3FF

/-- The address of an entry in the table with PPN `table`. -/
def pteAddress (table va : UInt32) (level : UInt8) : UInt64 :=
  table.toUInt64 * pageSize + (vpn va level).toUInt64 * 4

lemma toNat_vpn_one (va : UInt32) : (vpn va 1).toNat = va.toNat / 2 ^ 22 % 2 ^ 10 := by
  have hmask : ((va >>> 22) &&& 0x3FF).toNat = (va >>> 22).toNat % 2 ^ 10 :=
    UInt32.toNat_and_mask _ 10 (by omega)
  refine hmask.trans ?_
  rw [UInt32.toNat_shiftRight]
  change va.toNat >>> 22 % 2 ^ 10 = _
  rw [Nat.shiftRight_eq_div_pow]

lemma toNat_vpn_zero (va : UInt32) : (vpn va 0).toNat = va.toNat / 2 ^ 12 % 2 ^ 10 := by
  have hmask : ((va >>> 12) &&& 0x3FF).toNat = (va >>> 12).toNat % 2 ^ 10 :=
    UInt32.toNat_and_mask _ 10 (by omega)
  refine hmask.trans ?_
  rw [UInt32.toNat_shiftRight]
  change va.toNat >>> 12 % 2 ^ 10 = _
  rw [Nat.shiftRight_eq_div_pow]

/-- The address of an entry does not wrap. -/
lemma toNat_pteAddress {table va : UInt32} {level : UInt8} {i : ℕ} (hi : i < 2 ^ 10)
    (h : (vpn va level).toNat = i) :
    (pteAddress table va level).toNat = table.toNat * 4096 + i * 4 := by
  have htable := table.toNat_lt
  unfold pteAddress
  rw [UInt64.toNat_add, UInt64.toNat_mul, UInt64.toNat_mul, UInt32.toNat_toUInt64,
    UInt32.toNat_toUInt64, h]
  change (table.toNat * 4096 % 2 ^ 64 + i * 4 % 2 ^ 64) % 2 ^ 64 = _
  omega

/-- Whether the entry allows the mode to use the page. -/
def userOk (ctx : Context) (u : Bool) : Bool :=
  match ctx.privilege with
  | .user => u
  | .supervisor => !u || (ctx.sum && ctx.access ≠ .fetch)
  | .machine => true

/-- Whether the entry's permissions allow the access. -/
def allowed (ctx : Context) (r w x : Bool) : Bool :=
  match ctx.access with
  | .fetch => x
  | .load => r || (ctx.mxr && x)
  | .store => w

/-- What the level-`level` entry `pte` means for an access to `va`. -/
def step (ctx : Context) (va : UInt32) (level : UInt8) (pte : UInt32) : Step :=
  let has (bit : UInt32) : Bool := pte &&& bit ≠ 0
  if !has pteV || (!has pteR && has pteW) then .pageFault
  else
    let ppn := pte >>> 10
    if !has pteR && !has pteX then
      -- A pointer.  D, A, and U are reserved in an entry that is not a leaf.
      if level = 0 || has (pteD ||| pteA ||| pteU) then .pageFault
      else .next ppn
    else if level = 1 && ppn &&& 0x3FF ≠ 0 then .pageFault
    else
      let dirtyOk := ctx.access ≠ .store || has pteD
      if !userOk ctx (has pteU) || !allowed ctx (has pteR) (has pteW) (has pteX) || !has pteA ||
          !dirtyOk then .pageFault
      else if level = 1 then
        .leaf ((pte >>> 20).toUInt64 <<< 22 ||| (va &&& 0x003FFFFF).toUInt64)
      else .leaf (ppn.toUInt64 <<< 12 ||| (va &&& 0xFFF).toUInt64)

/-- The rest of a walk from the table `table` at a level. -/
def translateFrom {σ : Type} (ctx : Context) (va : UInt32)
    (readPte : UInt64 → σ → Option UInt32 × σ) : ℕ → UInt32 → σ → Except Fault UInt64 × σ
  | level, table, s =>
    match readPte (pteAddress table va (UInt8.ofNat level)) s with
    | (none, s) => (.error .access, s)
    | (some pte, s) =>
      match step ctx va (UInt8.ofNat level) pte with
      | .leaf pa => (.ok pa, s)
      | .pageFault => (.error .page, s)
      | .next table =>
        match level with
        -- A level-0 entry is never a pointer.
        | 0 => (.error .page, s)
        | level + 1 => translateFrom ctx va readPte level table s

/-- Translates `va` for `access`, reading each entry with `readPte`, which returns nothing when
the bus refuses the read. -/
def sv32Translate {σ : Type} (satp : UInt32) (privilege : Privilege) (sum mxr : Bool)
    (access : Access) (va : UInt32) (readPte : UInt64 → σ → Option UInt32 × σ) (s : σ) :
    Except Fault UInt64 × σ :=
  if privilege = .machine ∨ satp &&& satpMode = 0 then (.ok va.toUInt64, s)
  else translateFrom { privilege, sum, mxr, access } va readPte 1 (satp &&& satpPpn) s

/-! ## What a step says of its entry -/

/-- A pointer is found at the upper level only, and holds a PPN. -/
lemma step_next {ctx : Context} {va : UInt32} {level : UInt8} {pte table : UInt32}
    (h : step ctx va level pte = .next table) : level ≠ 0 ∧ table = pte >>> 10 := by
  unfold step at h
  dsimp only at h
  split_ifs at h with h1 h2 h3
  cases h
  refine ⟨?_, rfl⟩
  rintro rfl
  simp at h3

/-- An address made of a page number and an offset. -/
lemma page_toNat {pte va : UInt32} {n : ℕ} (hn : 12 ≤ n ∧ n ≤ 22) :
    ((pte >>> UInt32.ofNat (n - 2)).toUInt64 <<< UInt64.ofNat n |||
        (va &&& UInt32.ofNat (2 ^ n - 1)).toUInt64).toNat =
      (pte >>> UInt32.ofNat (n - 2)).toNat * 2 ^ n + va.toNat % 2 ^ n := by
  have hmask := UInt32.toNat_and_mask va n (by omega)
  rw [UInt32.toNat_shiftLeft_or (by omega), hmask]
  · have hppn := UInt32.toNat_shiftRight_lt pte (n := n - 2) (by omega)
    exact Nat.lt_of_lt_of_le hppn (Nat.pow_le_pow_right (by omega) (by omega))
  · rw [hmask]
    exact Nat.mod_lt _ (Nat.two_pow_pos n)

/-- The physical address of a leaf has 34 bits and the page offset of the virtual one. -/
lemma step_leaf {ctx : Context} {va : UInt32} {level : UInt8} {pte : UInt32} {pa : UInt64}
    (h : step ctx va level pte = .leaf pa) :
    pa.toNat < 2 ^ 34 ∧ pa.toNat % 2 ^ 12 = va.toNat % 2 ^ 12 := by
  unfold step at h
  dsimp only at h
  split_ifs at h
  · cases h
    have hpage : ((pte >>> 20).toUInt64 <<< 22 ||| (va &&& 0x003FFFFF).toUInt64).toNat =
        (pte >>> 20).toNat * 2 ^ 22 + va.toNat % 2 ^ 22 :=
      page_toNat (n := 22) (by omega)
    have hppn : (pte >>> 20).toNat < 2 ^ 12 := UInt32.toNat_shiftRight_lt pte (n := 20) (by omega)
    rw [hpage]
    omega
  · cases h
    have hpage : ((pte >>> 10).toUInt64 <<< 12 ||| (va &&& 0xFFF).toUInt64).toNat =
        (pte >>> 10).toNat * 2 ^ 12 + va.toNat % 2 ^ 12 :=
      page_toNat (n := 12) (by omega)
    have hppn : (pte >>> 10).toNat < 2 ^ 22 := UInt32.toNat_shiftRight_lt pte (n := 10) (by omega)
    rw [hpage]
    omega

end Sv32

end SystemScope.Rv32i
