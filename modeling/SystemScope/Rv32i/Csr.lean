import SystemScope.Rv32i.Execute

/-!
# The machine CSRs

`components/rv32i/src/csr.rs`: the Zicsr instructions and `MRET`, the eight machine CSRs of the
`M2` profile, and the machine external interrupt.
-/

namespace SystemScope.Rv32i

/-! ## CSR numbers -/

namespace Csr

def mstatus : UInt16 := 0x300
def mie : UInt16 := 0x304
def mtvec : UInt16 := 0x305
def mscratch : UInt16 := 0x340
def mepc : UInt16 := 0x341
def mcause : UInt16 := 0x342
def mtval : UInt16 := 0x343
def mip : UInt16 := 0x344

/-- The whitelist of the `M2` profile, in inspect order. -/
def supported : List UInt16 := [mstatus, mie, mip, mtvec, mscratch, mepc, mcause, mtval]

/-- Whether a CSR is on the whitelist. -/
def isSupported (csr : UInt16) : Bool := csr ∈ supported

end Csr

def mretWord : UInt32 := 0x30200073

def mstatusMie : UInt32 := (1 : UInt32) <<< 3
def mstatusMpie : UInt32 := (1 : UInt32) <<< 7
/-- `mstatus.MPP`, hardwired to `0b11` in the `M2` profile. -/
def mstatusMpp : UInt32 := (0b11 : UInt32) <<< 11
/-- `mie.MEIE` and `mip.MEIP`. -/
def meiBit : UInt32 := (1 : UInt32) <<< 11
/-- `mcause` of the machine external interrupt. -/
def meiCause : UInt32 := 0x8000000b

/-! ## Instructions -/

/-- A CSR instruction's operation. -/
inductive CsrOp
  | write
  | set
  | clear
  deriving DecidableEq

/-- The value to store, before the CSR's own write rule. -/
def CsrOp.apply (op : CsrOp) (old operand : UInt32) : UInt32 :=
  match op with
  | .write => operand
  | .set => old ||| operand
  | .clear => old &&& ~~~operand

/-- Where a CSR instruction's operand comes from. -/
inductive CsrSource
  | reg (rs1 : Reg)
  | imm (uimm : UInt8)
  deriving DecidableEq

/-- A privileged instruction of the `M2` profile. -/
inductive PrivInstr
  | csr (op : CsrOp) (rd : Reg) (src : CsrSource) (csr : UInt16)
  | mret
  deriving DecidableEq

/-- Whether a CSR instruction writes its CSR: `CSRRS` and `CSRRC` with `x0` or 0 do not. -/
def PrivInstr.writes : PrivInstr → Bool
  | .csr op _ src _ =>
    op = .write || match src with
      | .reg rs1 => rs1 ≠ Reg.zero
      | .imm uimm => uimm ≠ 0
  | .mret => false

def csrOp (funct3 : UInt32) : Option CsrOp :=
  match funct3 &&& 0b11 with
  | 1 => some .write
  | 2 => some .set
  | 3 => some .clear
  | _ => none

/-- Decodes the words the `M2` profile adds to RV32I. -/
def decodePrivileged (word : UInt32) : Option PrivInstr :=
  if word = mretWord then some .mret
  else if word &&& 0x7f ≠ 0b1110011 then none
  else
    let funct3 := (word >>> 12) &&& 0x7
    (csrOp funct3).map fun op =>
      let src := if funct3 &&& 0b100 = 0 then CsrSource.reg (Reg.field word 15)
        else .imm ((word >>> 15) &&& 0x1f).toUInt8
      .csr op (Reg.field word 7) src (word >>> 20).toUInt16

/-! ## The CSR file -/

/-- The machine CSR state: only the implemented bits are stored. -/
structure CsrFile where
  mie : Bool
  mpie : Bool
  meie : Bool
  mtvec : UInt32
  mscratch : UInt32
  mepc : UInt32
  mcause : UInt32
  mtval : UInt32
  /-- The `irq` input level, which `mip.MEIP` reads. -/
  irqLevel : Bool
  deriving DecidableEq

namespace CsrFile

/-- The reset state. -/
def new : CsrFile where
  mie := false
  mpie := false
  meie := false
  mtvec := 0
  mscratch := 0
  mepc := 0
  mcause := 0
  mtval := 0
  irqLevel := false

/-- `mstatus` as read in the `M2` profile. -/
def mstatus (c : CsrFile) : UInt32 := ofBool c.mie <<< 3 ||| ofBool c.mpie <<< 7 ||| mstatusMpp

/-- Reads a CSR, if it is supported. -/
def read (c : CsrFile) (csr : UInt16) : Option UInt32 :=
  if csr = Csr.mstatus then some c.mstatus
  else if csr = Csr.mie then some (ofBool c.meie <<< 11)
  else if csr = Csr.mip then some (ofBool c.irqLevel <<< 11)
  else if csr = Csr.mtvec then some c.mtvec
  else if csr = Csr.mscratch then some c.mscratch
  else if csr = Csr.mepc then some c.mepc
  else if csr = Csr.mcause then some c.mcause
  else if csr = Csr.mtval then some c.mtval
  else none

/-- Writes a CSR under its rule, if it is supported: unimplemented bits are dropped, and a write
to `mip` is ignored. -/
def write (c : CsrFile) (csr : UInt16) (value : UInt32) : Option CsrFile :=
  if csr = Csr.mstatus then
    some { c with mie := value &&& mstatusMie ≠ 0, mpie := value &&& mstatusMpie ≠ 0 }
  else if csr = Csr.mie then some { c with meie := value &&& meiBit ≠ 0 }
  else if csr = Csr.mip then some c
  else if csr = Csr.mtvec then some { c with mtvec := value &&& ~~~0b11 }
  else if csr = Csr.mscratch then some { c with mscratch := value }
  else if csr = Csr.mepc then some { c with mepc := value &&& ~~~0b11 }
  else if csr = Csr.mcause then some { c with mcause := value }
  else if csr = Csr.mtval then some { c with mtval := value }
  else none

/-- `MRET`'s CSR effects, and the new `pc`. -/
def mret (c : CsrFile) : UInt32 × CsrFile :=
  (c.mepc, { c with mie := c.mpie, mpie := true })

/-- Whether the machine external interrupt is eligible. -/
def meiEligible (c : CsrFile) : Bool := c.mie && c.meie && c.irqLevel

/-- The machine external interrupt's CSR effects, and the new `pc`. -/
def takeMei (c : CsrFile) (nextPc : UInt32) : UInt32 × CsrFile :=
  (c.mtvec,
    { c with mepc := nextPc, mcause := meiCause, mtval := 0, mpie := c.mie, mie := false })

/-- The CSRs that can be written are those that can be read. -/
lemma isSome_write (c d : CsrFile) (csr : UInt16) (value : UInt32) :
    (c.write csr value).isSome = (d.read csr).isSome := by
  unfold write read
  split_ifs <;> rfl

end CsrFile

end SystemScope.Rv32i
