import SystemScope.Contracts.Types
import SystemScope.Framework.Checks

/-!
# The configuration of the modeled kernel

`components/os/src/config.rs`: the physical layout that the kernel may touch, the window of its own
gate, which it may never touch, and the whitelist that every access is checked against.
-/

namespace SystemScope.Os

/-- The size of the trap frame: `x1` to `x31`, `sepc`, `sstatus`, `scause`, `stval`, `satp`,
`action` and `reason`. -/
def frameBytes : ℕ := 0x98

/-- The offset of `sepc` in the trap frame. -/
def frameSepc : ℕ := 0x7C

/-- The offset of `action` in the trap frame. -/
def frameAction : ℕ := 0x90

/-- The offset of `reason` in the trap frame. -/
def frameReason : ℕ := 0x94

/-- A range of physical addresses. -/
structure Window where
  base : UInt64
  size : UInt64
  deriving DecidableEq, Repr

namespace Window

/-- Every byte of the range lies in the window; false of an empty or overflowing range. -/
def Contains (w : Window) (addr len : ℕ) : Prop :=
  len ≠ 0 ∧ w.base.toNat ≤ addr ∧ addr + len < 2 ^ 64 ∧ addr + len - w.base.toNat ≤ w.size.toNat

instance (w : Window) (addr len : ℕ) : Decidable (w.Contains addr len) :=
  inferInstanceAs (Decidable (_ ∧ _))

/-- A sum that stops at the largest address. -/
def saturatingAdd (a b : ℕ) : ℕ := min (a + b) (2 ^ 64 - 1)

/-- The window and the range share a byte. -/
def Overlaps (w : Window) (addr len : ℕ) : Prop :=
  len ≠ 0 ∧ w.size ≠ 0 ∧ addr < saturatingAdd w.base.toNat w.size.toNat ∧
    w.base.toNat < saturatingAdd addr len

instance (w : Window) (addr len : ℕ) : Decidable (w.Overlaps addr len) :=
  inferInstanceAs (Decidable (_ ∧ _))

end Window

/-- The configuration of a kernel. -/
structure KernelConfig where
  /-- Accesses are sent in `Request` of its cycles. -/
  clock : ClockDomainId
  /-- From accepting a request that the kernel refuses to its fault response. -/
  latency : LinkLatency
  ram : Window
  /-- The kernel's own gate as the bus maps it. -/
  gate : Window
  /-- The physical address of the trap frame, and the only value an `ENTER` may carry. -/
  trapFrame : UInt32
  /-- Where executables are loaded to. -/
  staging : Window
  framePool : Window
  /-- The registers of the block controller. -/
  blk : Window
  /-- The transmit register of the UART. -/
  uartTx : UInt64
  deriving DecidableEq, Repr

/-- Why a configuration cannot form a kernel. -/
inductive KernelConfigError
  | empty (name : String)
  | wraps (name : String)
  | outsideRam (name : String)
  | overlap (a b : String)
  | misalignedFrame (addr : UInt32)
  deriving DecidableEq, Repr

namespace KernelConfig

variable (config : KernelConfig)

/-- The trap frame as a range. -/
def frame : Window := { base := config.trapFrame.toUInt64, size := UInt64.ofNat frameBytes }

/-- The granted ranges. -/
def grants : List Window :=
  [config.frame, config.staging, config.framePool, config.blk, { base := config.uartTx, size := 1 }]

/-- The kernel may send an access to the range. -/
def Permits (addr len : ℕ) : Prop :=
  ¬config.gate.Overlaps addr len ∧ ∃ g ∈ config.grants, g.Contains addr len

instance (addr len : ℕ) : Decidable (config.Permits addr len) :=
  inferInstanceAs (Decidable (_ ∧ _))

/-- Every range is not empty and does not wrap. -/
def checkNamed : List (String × Window) → Except KernelConfigError Unit
  | [] => .ok ()
  | (name, w) :: rest =>
    if w.size = 0 then .error (.empty name)
    else if 2 ^ 64 ≤ w.base.toNat + w.size.toNat then .error (.wraps name)
    else checkNamed rest

/-- No range of the list shares a byte with the named one. -/
def checkDisjoint (name : String) (w : Window) :
    List (String × Window) → Except KernelConfigError Unit
  | [] => .ok ()
  | (other, o) :: rest =>
    if o.Overlaps w.base.toNat w.size.toNat then .error (.overlap other name)
    else checkDisjoint name w rest

/-- Every range lies in the RAM and shares no byte with one before it. -/
def checkInRam (seen : List (String × Window)) :
    List (String × Window) → Except KernelConfigError Unit
  | [] => .ok ()
  | (name, w) :: rest =>
    if ¬config.ram.Contains w.base.toNat w.size.toNat then .error (.outsideRam name)
    else do
      checkDisjoint name w seen
      checkInRam (seen ++ [(name, w)]) rest

/-- Checks the rules that belong to the kernel itself. -/
def validate : Except KernelConfigError Unit := do
  checkNamed
    [("the RAM", config.ram), ("kgate", config.gate), ("the trap frame", config.frame),
      ("staging", config.staging), ("the frame pool", config.framePool),
      ("the block controller", config.blk)]
  if config.trapFrame.toNat % 4 ≠ 0 then .error (.misalignedFrame config.trapFrame) else
  config.checkInRam []
    [("the trap frame", config.frame), ("staging", config.staging),
      ("the frame pool", config.framePool)]

/-! ## What a valid configuration satisfies -/

lemma checkNamed_eq_ok {named : List (String × Window)} :
    checkNamed named = .ok () ↔
      ∀ p ∈ named, p.2.size ≠ 0 ∧ p.2.base.toNat + p.2.size.toNat < 2 ^ 64 := by
  induction named with
  | nil => simp [checkNamed]
  | cons p rest ih =>
    rw [checkNamed, List.forall_mem_cons, ← ih]
    by_cases hsize : p.2.size = 0
    · simp [hsize]
    · by_cases hwraps : 2 ^ 64 ≤ p.2.base.toNat + p.2.size.toNat
      · rw [if_neg hsize, if_pos hwraps]
        constructor
        · nofun
        · intro h
          exact absurd h.1.2 (Nat.not_lt.mpr hwraps)
      · rw [if_neg hsize, if_neg hwraps]
        constructor
        · intro h
          exact ⟨⟨hsize, Nat.not_le.mp hwraps⟩, h⟩
        · exact And.right

lemma checkDisjoint_eq_ok {name : String} {w : Window} {seen : List (String × Window)} :
    checkDisjoint name w seen = .ok () ↔ ∀ p ∈ seen, ¬p.2.Overlaps w.base.toNat w.size.toNat := by
  induction seen with
  | nil => simp [checkDisjoint]
  | cons p rest ih =>
    rw [checkDisjoint, List.forall_mem_cons, ← ih]
    by_cases h : p.2.Overlaps w.base.toNat w.size.toNat
    · simp [h]
    · simp [h]

/-- What a valid configuration satisfies. -/
structure Valid : Prop where
  ram : config.ram.base.toNat + config.ram.size.toNat < 2 ^ 64
  gate : config.gate.base.toNat + config.gate.size.toNat < 2 ^ 64
  staging : config.staging.base.toNat + config.staging.size.toNat < 2 ^ 64
  framePool : config.framePool.base.toNat + config.framePool.size.toNat < 2 ^ 64
  blk : config.blk.base.toNat + config.blk.size.toNat < 2 ^ 64
  framePool_size : config.framePool.size ≠ 0
  aligned : config.trapFrame.toNat % 4 = 0
  frame_in_ram : config.ram.Contains config.frame.base.toNat config.frame.size.toNat
  staging_in_ram : config.ram.Contains config.staging.base.toNat config.staging.size.toNat
  pool_in_ram : config.ram.Contains config.framePool.base.toNat config.framePool.size.toNat
  frame_staging : ¬config.frame.Overlaps config.staging.base.toNat config.staging.size.toNat
  frame_pool : ¬config.frame.Overlaps config.framePool.base.toNat config.framePool.size.toNat
  staging_pool : ¬config.staging.Overlaps config.framePool.base.toNat config.framePool.size.toNat

lemma checkInRam_eq_ok {seen named : List (String × Window)} :
    config.checkInRam seen named = .ok () ↔
      (∀ p ∈ named, config.ram.Contains p.2.base.toNat p.2.size.toNat) ∧
        (∀ p ∈ seen, ∀ q ∈ named, ¬p.2.Overlaps q.2.base.toNat q.2.size.toNat) ∧
          named.Pairwise fun p q => ¬p.2.Overlaps q.2.base.toNat q.2.size.toNat := by
  induction named generalizing seen with
  | nil => simp [checkInRam]
  | cons p rest ih =>
    rw [checkInRam, Checks.guard_eq_ok, Checks.check_eq_ok, not_not, checkDisjoint_eq_ok]
    simp only [ih, List.forall_mem_cons, List.forall_mem_append,
      List.pairwise_cons]
    constructor
    · rintro ⟨hp, hseen, hrest, ⟨hbefore, hlast, -⟩, hpairs⟩
      exact ⟨⟨hp, hrest⟩, fun q hq => ⟨hseen q hq, hbefore q hq⟩, hlast, hpairs⟩
    · rintro ⟨⟨hp, hrest⟩, hseen, hlast, hpairs⟩
      exact ⟨hp, fun q hq => (hseen q hq).1, hrest,
        ⟨fun q hq => (hseen q hq).2, hlast, by simp⟩, hpairs⟩

lemma valid_of_validate (h : config.validate = .ok ()) : config.Valid := by
  obtain ⟨hnamed, h⟩ := Checks.check_eq_ok.mp h
  obtain ⟨haligned, hram⟩ := Checks.guard_eq_ok.mp h
  rw [checkNamed_eq_ok] at hnamed
  obtain ⟨hin, -, hpairs⟩ := config.checkInRam_eq_ok.mp hram
  simp only [List.forall_mem_cons, List.pairwise_cons] at hnamed hin hpairs
  obtain ⟨⟨-, h1⟩, ⟨-, h2⟩, -, ⟨-, h4⟩, ⟨h5, h6⟩, ⟨-, h7⟩, -⟩ := hnamed
  obtain ⟨⟨h8, h9, -⟩, ⟨h10, -⟩, -⟩ := hpairs
  exact
    { ram := h1, gate := h2, staging := h4, framePool := h6, blk := h7, framePool_size := h5
      aligned := not_not.mp haligned
      frame_in_ram := hin.1, staging_in_ram := hin.2.1, pool_in_ram := hin.2.2.1
      frame_staging := h8, frame_pool := h9, staging_pool := h10 }

end KernelConfig

end SystemScope.Os
