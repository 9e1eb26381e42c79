import SystemScope.Rv32i.Csr

/-!
# Modes and the supervisor CSRs

`components/rv32i/src/privilege.rs`: what the `M3` profile adds to the `M2` one.  `M3State` holds
the mode, the fields of `mstatus` that `CsrFile` does not have, and the supervisor CSRs; every
operation that needs the machine CSRs takes the `M2` file as an argument.
-/

namespace SystemScope.Rv32i

/-! ## CSR numbers and masks -/

namespace Csr

def sstatus : UInt16 := 0x100
def sie : UInt16 := 0x104
def stvec : UInt16 := 0x105
def sscratch : UInt16 := 0x140
def sepc : UInt16 := 0x141
def scause : UInt16 := 0x142
def stval : UInt16 := 0x143
def sip : UInt16 := 0x144
def satp : UInt16 := 0x180
def medeleg : UInt16 := 0x302
def mideleg : UInt16 := 0x303

/-- The whitelist of the `M3` profile, in inspect order. -/
def supportedM3 : List UInt16 :=
  [mstatus, mie, mip, mtvec, mscratch, mepc, mcause, mtval, sstatus, sie, sip, stvec, sscratch,
    sepc, scause, stval, satp, medeleg, mideleg]

/-- Whether a CSR is on the whitelist of the `M3` profile. -/
def isSupportedM3 (csr : UInt16) : Bool := csr ∈ supportedM3

end Csr

def sretWord : UInt32 := 0x10200073

def mstatusSie : UInt32 := (1 : UInt32) <<< 1
def mstatusSpie : UInt32 := (1 : UInt32) <<< 5
def mstatusSpp : UInt32 := (1 : UInt32) <<< 8
/-- The shift of `mstatus.MPP`, bits 12:11. -/
def mstatusMppShift : UInt32 := 11
def mstatusSum : UInt32 := (1 : UInt32) <<< 18
def mstatusMxr : UInt32 := (1 : UInt32) <<< 19

/-- `medeleg`'s writable bits. -/
def medelegMask : UInt32 := 0xB1FF

/-- `satp.MODE`: 0 for Bare and 1 for Sv32. -/
def satpMode : UInt32 := (1 : UInt32) <<< 31
/-- `satp.ASID`, always 0. -/
def satpAsid : UInt32 := (0x1FF : UInt32) <<< 22
/-- `satp.PPN`. -/
def satpPpn : UInt32 := 0x003FFFFF

/-! ## Modes -/

/-- A privilege mode.  The reserved encoding 2 has no value. -/
inductive Privilege
  | user
  | supervisor
  | machine
  deriving DecidableEq, Repr

namespace Privilege

/-- The architectural encoding. -/
def bits : Privilege → UInt8
  | user => 0
  | supervisor => 1
  | machine => 3

/-- The mode encoded as `bits`. -/
def fromBits : UInt8 → Option Privilege
  | 0 => some user
  | 1 => some supervisor
  | 3 => some machine
  | _ => none

/-- As trace records show it. -/
def name : Privilege → String
  | user => "U"
  | supervisor => "S"
  | machine => "M"

end Privilege

/-- `mstatus.SPP`: the mode before the last delegated trap. -/
inductive Spp
  | user
  | supervisor
  deriving DecidableEq, Repr

namespace Spp

def bits : Spp → UInt8
  | user => 0
  | supervisor => 1

def fromBits : UInt8 → Option Spp
  | 0 => some user
  | 1 => some supervisor
  | _ => none

/-- The mode `SRET` returns to. -/
def privilege : Spp → Privilege
  | user => .user
  | supervisor => .supervisor

end Spp

/-- `MPP` as a write legalizes it: the reserved encoding is stored as U. -/
def legalMpp (field : UInt32) : Privilege :=
  match field &&& 0b11 with
  | 1 => .supervisor
  | 3 => .machine
  | _ => .user

/-- The CSR access rule: bits `[9:8]` of the number are the lowest mode that may access it, and
bits `[11:10]` = `0b11` make it read-only. -/
def accessible (csr : UInt16) (privilege : Privilege) (writes : Bool) : Bool :=
  let lowest := ((csr >>> 8) &&& 0b11).toUInt8
  let readOnly := (csr >>> 10) &&& 0b11 = 0b11
  privilege.bits ≥ lowest && !(writes && readOnly)

/-- `satp` after a write: `MODE` and `PPN` as written, `ASID` 0. -/
def satpWrite (value : UInt32) : UInt32 := value &&& ~~~satpAsid

/-- Whether writes from reset can leave `satp` at this value. -/
def satpReachable (value : UInt32) : Bool := value &&& satpAsid = 0

/-! ## Instructions -/

/-- A privileged instruction the `M3` profile adds. -/
inductive SupervisorInstr
  | sret
  | sfenceVma
  deriving DecidableEq

/-- Decodes `SRET` and `SFENCE.VMA`. -/
def decodeSupervisor (word : UInt32) : Option SupervisorInstr :=
  if word = sretWord then some .sret
  else if word &&& 0xFE007FFF = 0x12000073 then some .sfenceVma
  else none

/-! ## State -/

/-- The state the `M3` profile adds to the CSR file. -/
structure M3State where
  privilege : Privilege
  sie : Bool
  spie : Bool
  spp : Spp
  mpp : Privilege
  sum : Bool
  mxr : Bool
  medeleg : UInt32
  stvec : UInt32
  sscratch : UInt32
  sepc : UInt32
  scause : UInt32
  stval : UInt32
  satp : UInt32
  deriving DecidableEq

namespace M3State

/-- The reset state: M-mode, `MPP` = U, and every field 0. -/
def new : M3State where
  privilege := .machine
  sie := false
  spie := false
  spp := .user
  mpp := .user
  sum := false
  mxr := false
  medeleg := 0
  stvec := 0
  sscratch := 0
  sepc := 0
  scause := 0
  stval := 0
  satp := 0

/-- `sstatus`, a view of `mstatus`. -/
def sstatus (s : M3State) : UInt32 :=
  ofBool s.sie <<< 1 ||| ofBool s.spie <<< 5 ||| s.spp.bits.toUInt32 <<< 8 |||
    ofBool s.sum <<< 18 ||| ofBool s.mxr <<< 19

/-- `mstatus` as read in the `M3` profile. -/
def mstatus (s : M3State) (m : CsrFile) : UInt32 :=
  s.sstatus ||| ofBool m.mie <<< 3 ||| ofBool m.mpie <<< 7 |||
    s.mpp.bits.toUInt32 <<< mstatusMppShift

/-- The machine CSRs whose rules the `M3` profile takes from the `M2` file. -/
def machineCsrs : List UInt16 :=
  [Csr.mie, Csr.mip, Csr.mtvec, Csr.mscratch, Csr.mepc, Csr.mcause, Csr.mtval]

/-- Reads a CSR, if it is on the whitelist. -/
def read (s : M3State) (m : CsrFile) (csr : UInt16) : Option UInt32 :=
  if csr = Csr.mstatus then some (s.mstatus m)
  else if csr = Csr.sstatus then some s.sstatus
  else if csr = Csr.medeleg then some s.medeleg
  else if csr = Csr.mideleg ∨ csr = Csr.sie ∨ csr = Csr.sip then some 0
  else if csr = Csr.stvec then some s.stvec
  else if csr = Csr.sscratch then some s.sscratch
  else if csr = Csr.sepc then some s.sepc
  else if csr = Csr.scause then some s.scause
  else if csr = Csr.stval then some s.stval
  else if csr = Csr.satp then some s.satp
  else if csr ∈ machineCsrs then m.read csr
  else none

/-- The `sstatus` fields of a write. -/
def writeSstatus (s : M3State) (value : UInt32) : M3State :=
  { s with
    sie := value &&& mstatusSie ≠ 0
    spie := value &&& mstatusSpie ≠ 0
    spp := if value &&& mstatusSpp ≠ 0 then .supervisor else .user
    sum := value &&& mstatusSum ≠ 0
    mxr := value &&& mstatusMxr ≠ 0 }

/-- Writes a CSR under its rule, if it is on the whitelist. -/
def write (s : M3State) (m : CsrFile) (csr : UInt16) (value : UInt32) :
    Option (M3State × CsrFile) :=
  if csr = Csr.mstatus then
    some ({ s with mpp := legalMpp (value >>> mstatusMppShift) }.writeSstatus value,
      { m with mie := value &&& mstatusMie ≠ 0, mpie := value &&& mstatusMpie ≠ 0 })
  else if csr = Csr.sstatus then some (s.writeSstatus value, m)
  else if csr = Csr.medeleg then some ({ s with medeleg := value &&& medelegMask }, m)
  else if csr = Csr.mideleg ∨ csr = Csr.sie ∨ csr = Csr.sip then some (s, m)
  else if csr = Csr.stvec then some ({ s with stvec := value &&& ~~~0b11 }, m)
  else if csr = Csr.sscratch then some ({ s with sscratch := value }, m)
  else if csr = Csr.sepc then some ({ s with sepc := value &&& ~~~0b11 }, m)
  else if csr = Csr.scause then some ({ s with scause := value }, m)
  else if csr = Csr.stval then some ({ s with stval := value }, m)
  else if csr = Csr.satp then some ({ s with satp := satpWrite value }, m)
  else if csr ∈ machineCsrs then (m.write csr value).map fun m => (s, m)
  else none

/-- `MRET`: the new `pc` and what changes. -/
def mret (s : M3State) (m : CsrFile) : UInt32 × M3State × CsrFile :=
  (m.mepc, { s with privilege := s.mpp, mpp := .user }, { m with mie := m.mpie, mpie := true })

/-- `SRET`: the new `pc` and what changes. -/
def sret (s : M3State) : UInt32 × M3State :=
  (s.sepc, { s with privilege := s.spp.privilege, spp := .user, sie := s.spie, spie := true })

/-- Whether fetches, loads, and stores are translated. -/
def translates (s : M3State) : Bool := s.privilege ≠ .machine && s.satp &&& satpMode ≠ 0

/-- The root page table's PPN. -/
def root (s : M3State) : UInt32 := s.satp &&& satpPpn

/-- Whether a synchronous exception is delegated to S. -/
def delegates (s : M3State) (cause : TrapCause) : Bool :=
  s.privilege ≠ .machine && s.medeleg >>> cause.code &&& 1 = 1

/-- Delivers a delegated exception of the instruction at `pc`: the new `pc` and what changes. -/
def takeException (s : M3State) (cause : TrapCause) (pc tval : UInt32) :
    Option (UInt32 × M3State) :=
  if s.delegates cause then
    let spp : Option Spp := match s.privilege with
      | .user => some .user
      | .supervisor => some .supervisor
      | .machine => none
    spp.map fun spp =>
      (s.stvec &&& ~~~0b11,
        { s with
          spp
          sepc := pc
          scause := cause.code
          stval := tval
          spie := s.sie
          sie := false
          privilege := .supervisor })
  else none

/-- Whether the machine external interrupt is eligible: below M whatever `MIE` says. -/
def meiEligible (s : M3State) (m : CsrFile) : Bool :=
  m.irqLevel && m.meie && (s.privilege ≠ .machine || m.mie)

/-- The machine external interrupt's entry: the new `pc` and what changes. -/
def takeMei (s : M3State) (m : CsrFile) (nextPc : UInt32) : UInt32 × M3State × CsrFile :=
  let (pc, m) := m.takeMei nextPc
  (pc, { s with mpp := s.privilege, privilege := .machine }, m)

/-! ## Writes, CSR by CSR -/

/-- What a write does, CSR by CSR. -/
inductive Writes (s : M3State) (m : CsrFile) (value : UInt32) : UInt16 → M3State → CsrFile → Prop
  | mstatus :
      Writes s m value Csr.mstatus
        ({ s with mpp := legalMpp (value >>> mstatusMppShift) }.writeSstatus value)
        { m with mie := value &&& mstatusMie ≠ 0, mpie := value &&& mstatusMpie ≠ 0 }
  | sstatus : Writes s m value Csr.sstatus (s.writeSstatus value) m
  | medeleg : Writes s m value Csr.medeleg { s with medeleg := value &&& medelegMask } m
  | ignored {csr : UInt16} (h : csr = Csr.mideleg ∨ csr = Csr.sie ∨ csr = Csr.sip) :
      Writes s m value csr s m
  | stvec : Writes s m value Csr.stvec { s with stvec := value &&& ~~~0b11 } m
  | sscratch : Writes s m value Csr.sscratch { s with sscratch := value } m
  | sepc : Writes s m value Csr.sepc { s with sepc := value &&& ~~~0b11 } m
  | scause : Writes s m value Csr.scause { s with scause := value } m
  | stval : Writes s m value Csr.stval { s with stval := value } m
  | satp : Writes s m value Csr.satp { s with satp := satpWrite value } m
  | machine {csr : UInt16} {m' : CsrFile} (hcsr : csr ∈ machineCsrs)
      (hm : m.write csr value = some m') : Writes s m value csr s m'

lemma writes_of_write {s s' : M3State} {m m' : CsrFile} {csr : UInt16} {value : UInt32}
    (h : s.write m csr value = some (s', m')) : s.Writes m value csr s' m' := by
  unfold write at h
  rcases ite_eq_iff.mp h with ⟨rfl, h⟩ | ⟨-, h⟩
  · cases h
    exact .mstatus
  rcases ite_eq_iff.mp h with ⟨rfl, h⟩ | ⟨-, h⟩
  · cases h
    exact .sstatus
  rcases ite_eq_iff.mp h with ⟨rfl, h⟩ | ⟨-, h⟩
  · cases h
    exact .medeleg
  rcases ite_eq_iff.mp h with ⟨hcsr, h⟩ | ⟨-, h⟩
  · cases h
    exact .ignored hcsr
  rcases ite_eq_iff.mp h with ⟨rfl, h⟩ | ⟨-, h⟩
  · cases h
    exact .stvec
  rcases ite_eq_iff.mp h with ⟨rfl, h⟩ | ⟨-, h⟩
  · cases h
    exact .sscratch
  rcases ite_eq_iff.mp h with ⟨rfl, h⟩ | ⟨-, h⟩
  · cases h
    exact .sepc
  rcases ite_eq_iff.mp h with ⟨rfl, h⟩ | ⟨-, h⟩
  · cases h
    exact .scause
  rcases ite_eq_iff.mp h with ⟨rfl, h⟩ | ⟨-, h⟩
  · cases h
    exact .stval
  rcases ite_eq_iff.mp h with ⟨rfl, h⟩ | ⟨-, h⟩
  · cases h
    exact .satp
  obtain ⟨hcsr, h⟩ := Option.ite_none_right_eq_some.mp h
  obtain ⟨_, hm, heq⟩ := Option.map_eq_some_iff.mp h
  cases heq
  exact .machine hcsr hm

lemma isSome_read_of_mem_machineCsrs {csr : UInt16} (h : csr ∈ machineCsrs) (s : M3State)
    (m : CsrFile) : (s.read m csr).isSome = true := by
  simp only [machineCsrs, List.mem_cons, List.not_mem_nil, or_false] at h
  rcases h with rfl | rfl | rfl | rfl | rfl | rfl | rfl <;> rfl

lemma isSome_read_of_write {s s' : M3State} {m m' : CsrFile} {csr : UInt16} {value : UInt32}
    (h : s.write m csr value = some (s', m')) : (s'.read m' csr).isSome = true := by
  cases writes_of_write h with
  | ignored hcsr => rcases hcsr with rfl | rfl | rfl <;> rfl
  | machine hcsr => exact isSome_read_of_mem_machineCsrs hcsr s m'
  | _ => rfl

end M3State

end SystemScope.Rv32i
