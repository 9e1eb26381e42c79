import SystemScope.Contracts.Calls
import SystemScope.Contracts.Histories
import SystemScope.Platform.Dma

/-!
# What every DMA controller keeps

`Sound` is the lifecycle table of `dma.rs` together with the engine's position in the latched
command, which lies inside the configuration (`Covers`).  It is what a restore checks; a controller
starts in it (`new_eq_ok`), and every handler keeps it (`SystemScope.Platform.DmaSafety`).

The checked 64-bit arithmetic of the source is read as arithmetic of natural numbers once,
here. -/

namespace SystemScope.Platform

/-! ## Checked arithmetic -/

lemma checkedAdd_eq_some {a b x : UInt64} :
    checkedAdd a b = some x ↔ x.toNat = a.toNat + b.toNat := by
  have hx := x.toNat_lt
  unfold checkedAdd
  by_cases hlt : a.toNat + b.toNat < 2 ^ 64
  · rw [if_pos hlt, Option.some.injEq, ← UInt64.toNat_inj, UInt64.toNat_add, Nat.mod_eq_of_lt hlt]
    exact eq_comm
  · rw [if_neg hlt]
    simp only [reduceCtorEq, false_iff]
    omega

/-- A sum without an overflow. -/
lemma checkedAdd_of_lt {a b : UInt64} (h : a.toNat + b.toNat < 2 ^ 64) :
    ∃ x, checkedAdd a b = some x ∧ x.toNat = a.toNat + b.toNat := by
  refine ⟨a + b, if_pos h, ?_⟩
  rw [UInt64.toNat_add, Nat.mod_eq_of_lt h]

lemma checkedMul_of_lt {a b : UInt64} (h : a.toNat * b.toNat < 2 ^ 64) :
    ∃ x, checkedMul a b = some x ∧ x.toNat = a.toNat * b.toNat := by
  refine ⟨a * b, if_pos h, ?_⟩
  rw [UInt64.toNat_mul, Nat.mod_eq_of_lt h]

/-- A sum above a limit, or above every limit. -/
lemma checkedAdd_all_lt {a b limit : UInt64} :
    ((checkedAdd a b).all fun stop => limit < stop) = true ↔
      limit.toNat < a.toNat + b.toNat := by
  have hlimit := limit.toNat_lt
  by_cases hlt : a.toNat + b.toNat < 2 ^ 64
  · obtain ⟨x, hsome, hx⟩ := checkedAdd_of_lt hlt
    rw [hsome, Option.all_some, decide_eq_true_iff, UInt64.lt_iff_toNat_lt, hx]
  · rw [checkedAdd, if_neg hlt, Option.all_none]
    simp only [true_iff]
    omega

/-! ## Configurations and commands -/

namespace DmaBlockControllerConfig

/-- The configurations of controllers. -/
structure Accepted (config : DmaBlockControllerConfig) : Prop where
  capacity_le : config.capacityBlocks.toNat ≤ 2 ^ 32
  aperture_le : config.dmaBase.toNat + config.dmaSize.toNat ≤ 2 ^ 32

/-- The blocks and the memory of a command are inside. -/
structure Covers (config : DmaBlockControllerConfig) (l : Latched) : Prop where
  count_pos : 0 < l.count.toNat
  blocks : l.lba.toNat + l.count.toNat ≤ config.capacityBlocks.toNat
  aligned : l.addr.toNat % 16 = 0
  base : config.dmaBase.toNat ≤ l.addr.toNat
  stop : l.addr.toNat + 512 * l.count.toNat ≤ config.dmaBase.toNat + config.dmaSize.toNat

variable {config : DmaBlockControllerConfig}

/-- The checks of a command whose operation is known. -/
lemma checks_iff (haccepted : config.Accepted) {l : Latched} :
    config.Covers l ↔ l.count ≠ 0 ∧
      ¬((checkedAdd l.lba.toUInt64 l.count.toUInt64).all fun stop =>
        config.capacityBlocks < stop) = true ∧
      ¬l.addr.toUInt64 % 16 ≠ 0 ∧
      (((checkedMul l.count.toUInt64 512).bind (checkedAdd l.addr.toUInt64)).any fun stop =>
        config.dmaBase ≤ l.addr.toUInt64 && stop ≤ config.dmaBase + config.dmaSize) = true := by
  have haperture := haccepted.aperture_le
  have hcount := l.count.toNat_lt
  have haddr := l.addr.toNat_lt
  have hend : (config.dmaBase + config.dmaSize).toNat =
      config.dmaBase.toNat + config.dmaSize.toNat := by
    rw [UInt64.toNat_add, Nat.mod_eq_of_lt (by omega)]
  obtain ⟨size, hsize, hsizeNat⟩ : ∃ x, checkedMul l.count.toUInt64 512 = some x ∧
      x.toNat = l.count.toUInt64.toNat * (512 : UInt64).toNat :=
    checkedMul_of_lt (by simp; omega)
  obtain ⟨stop, hstop, hstopNat⟩ : ∃ x, checkedAdd l.addr.toUInt64 size = some x ∧
      x.toNat = l.addr.toUInt64.toNat + size.toNat :=
    checkedAdd_of_lt (by rw [hsizeNat]; simp; omega)
  simp only [UInt32.toNat_toUInt64, UInt64.reduceToNat] at hsizeNat hstopNat
  have hcountPos : 0 < l.count.toNat ↔ l.count ≠ 0 := by
    rw [Nat.pos_iff_ne_zero, ne_eq, ne_eq, ← UInt32.toNat_inj]
    rfl
  have hblocks : ¬((checkedAdd l.lba.toUInt64 l.count.toUInt64).all fun stop =>
      config.capacityBlocks < stop) = true ↔
      l.lba.toNat + l.count.toNat ≤ config.capacityBlocks.toNat := by
    rw [checkedAdd_all_lt, UInt32.toNat_toUInt64, UInt32.toNat_toUInt64, not_lt]
  have haligned : ¬l.addr.toUInt64 % 16 ≠ 0 ↔ l.addr.toNat % 16 = 0 := by
    rw [not_not, ← UInt64.toNat_inj, UInt64.toNat_mod, UInt32.toNat_toUInt64]
    rfl
  have hrange : (((checkedMul l.count.toUInt64 512).bind (checkedAdd l.addr.toUInt64)).any
      fun stop => config.dmaBase ≤ l.addr.toUInt64 && stop ≤ config.dmaBase + config.dmaSize) =
        true ↔ config.dmaBase.toNat ≤ l.addr.toNat ∧
          l.addr.toNat + 512 * l.count.toNat ≤ config.dmaBase.toNat + config.dmaSize.toNat := by
    rw [hsize, Option.bind_some, hstop, Option.any_some, Bool.and_eq_true, decide_eq_true_iff,
      decide_eq_true_iff, UInt64.le_iff_toNat_le, UInt64.le_iff_toNat_le, hend, hstopNat, hsizeNat,
      UInt32.toNat_toUInt64, Nat.mul_comm]
  rw [hblocks, haligned, hrange, ← hcountPos]
  constructor
  · intro h
    exact ⟨h.count_pos, h.blocks, h.aligned, h.base, h.stop⟩
  · intro ⟨h₁, h₂, h₃, h₄, h₅⟩
    exact ⟨h₁, h₂, h₃, h₄, h₅⟩

lemma validate_eq_ok (haccepted : config.Accepted) {value lba addr count : UInt32}
    {op : Operation} :
    config.validate value lba addr count = .ok op ↔
      value = op.code.toUInt32 ∧ config.Covers { op, lba, addr, count } := by
  rw [checks_iff haccepted]
  unfold validate
  dsimp only
  by_cases hread : value = 1
  · subst hread
    rw [if_pos rfl]
    cases op <;> split_ifs <;> simp_all [Operation.code]
  · rw [if_neg hread]
    by_cases hwrite : value = 2
    · subst hwrite
      rw [if_pos rfl]
      cases op <;> split_ifs <;> simp_all [Operation.code]
    · rw [if_neg hwrite]
      cases op with
      | read =>
        have hcode : value ≠ Operation.read.code.toUInt32 := hread
        simp [hcode]
      | write =>
        have hcode : value ≠ Operation.write.code.toUInt32 := hwrite
        simp [hcode]

lemma error_le {value lba addr count : UInt32} {code : UInt8}
    (h : config.validate value lba addr count = .error code) :
    code ≤ DmaBlockController.mediaError := by
  unfold validate at h
  dsimp only at h
  split_ifs at h <;> obtain rfl := Except.error.inj h <;> decide

end DmaBlockControllerConfig

namespace DmaBlockController

variable {config : DmaBlockControllerConfig} {c : DmaBlockController config}

/-! ## The invariant -/

/-- The registers, the lifecycle and the engine agree. -/
structure Consistent (c : DmaBlockController config) : Prop where
  irqEnable : c.irqEnable &&& ~~~1 = 0
  notBoth : ¬(c.busy ∧ c.done)
  error : if c.done then c.error ≤ mediaError else c.error = 0
  latched : c.latched.isSome = c.busy
  covers : ∀ l, c.latched = some l → config.Covers l
  position : PositionOk c.latched c.engine c.block c.beat c.buffer c.dmaTxn c.blkTxn

/-- What a restore accepts, and every run keeps. -/
structure Sound (c : DmaBlockController config) : Prop extends c.Consistent where
  level : c.irqLevel = c.level

/-- The controller after its interrupt line is brought up to date. -/
def leveled (c : DmaBlockController config) : DmaBlockController config :=
  { c with irqLevel := c.level }

lemma Consistent.leveled (h : c.Consistent) : c.leveled.Sound where
  irqEnable := h.irqEnable
  notBoth := h.notBoth
  error := h.error
  latched := h.latched
  covers := h.covers
  position := h.position
  level := rfl

lemma Consistent.idle (h : c.Consistent) (hbusy : c.busy = false) :
    c.latched = none ∧ c.engine = .idle ∧ c.block = 0 ∧ c.beat = 0 ∧ c.buffer = [] := by
  have hlatched := h.latched
  have hposition := h.position
  rw [hbusy, Option.isSome_eq_false_iff, Option.isNone_iff_eq_none] at hlatched
  rw [hlatched] at hposition
  exact ⟨hlatched, hposition⟩

lemma Consistent.busy (h : c.Consistent) {l : Latched} (hlatched : c.latched = some l) :
    c.busy = true := by
  rw [← h.latched, hlatched]
  rfl

/-- A command is latched while the engine works. -/
lemma Consistent.exists_latched (h : c.Consistent) (hengine : c.engine ≠ .idle) :
    ∃ l, c.latched = some l := by
  cases hlatched : c.latched with
  | some l => exact ⟨l, rfl⟩
  | none =>
    have hposition := h.position
    rw [hlatched] at hposition
    exact absurd hposition.1 hengine

lemma Consistent.read (h : c.Consistent) {l : Latched} (hlatched : c.latched = some l)
    (hop : l.op = .read) : c.block < l.count ∧ c.beat < beatsPerBlock ∧
      ReadPositionOk c.engine c.beat c.buffer c.dmaTxn c.blkTxn := by
  have hposition := h.position
  obtain ⟨op, lba, addr, count⟩ := l
  obtain rfl := hop
  rw [hlatched] at hposition
  exact hposition

lemma Consistent.write (h : c.Consistent) {l : Latched} (hlatched : c.latched = some l)
    (hop : l.op = .write) : c.block < l.count ∧ c.beat ≤ beatsPerBlock ∧
      WritePositionOk c.engine c.beat c.buffer c.dmaTxn c.blkTxn := by
  have hposition := h.position
  obtain ⟨op, lba, addr, count⟩ := l
  obtain rfl := hop
  rw [hlatched] at hposition
  exact hposition

/-- The lifecycle table of `dma.rs`. -/
structure Lifecycle (c : DmaBlockController config) : Prop where
  notBoth : ¬(c.busy ∧ c.done)
  latched : c.latched.isSome ↔ c.busy
  engine : c.engine ≠ .idle ↔ c.busy
  error : c.error ≠ 0 → c.done
  level : c.irqLevel = (c.done && c.irqEnable &&& 1 ≠ 0)

lemma Sound.engine_ne_idle_iff (h : c.Sound) : c.engine ≠ .idle ↔ c.busy := by
  constructor
  · intro hengine
    obtain ⟨l, hlatched⟩ := h.exists_latched hengine
    exact h.busy hlatched
  · intro hbusy hengine
    have hlatched := h.latched
    rw [hbusy, Option.isSome_iff_exists] at hlatched
    obtain ⟨l, hlatched⟩ := hlatched
    cases hop : l.op with
    | read =>
      have hposition := (h.read hlatched hop).2.2
      rw [hengine] at hposition
      exact hposition
    | write =>
      have hposition := (h.write hlatched hop).2.2
      rw [hengine] at hposition
      exact hposition

lemma Sound.lifecycle (h : c.Sound) : c.Lifecycle where
  notBoth := h.notBoth
  latched := by rw [h.latched]
  engine := h.engine_ne_idle_iff
  error := by
    intro hne
    by_contra hdone
    have herror := h.error
    rw [if_neg hdone] at herror
    exact hne herror
  level := h.level

/-- The engine moves within its command. -/
lemma Sound.move (h : c.Sound) {l : Latched} (hlatched : c.latched = some l)
    {engine : Engine} {block : UInt32} {beat : UInt8} {buffer : Bytes} {dmaTxn blkTxn : TxnId}
    (hposition : PositionOk (some l) engine block beat buffer dmaTxn blkTxn) :
    ({ c with engine, block, beat, buffer, dmaTxn, blkTxn } : DmaBlockController config).Sound where
  irqEnable := h.irqEnable
  notBoth := h.notBoth
  error := h.error
  latched := h.latched
  covers := h.covers
  position := by
    show PositionOk c.latched engine block beat buffer dmaTxn blkTxn
    rw [hlatched]
    exact hposition
  level := h.level

/-- A controller as it is new. -/
def fresh (config : DmaBlockControllerConfig) : DmaBlockController config where
  lba := 0
  memAddr := 0
  blockCount := 0
  irqEnable := 0
  busy := false
  done := false
  rejected := false
  error := 0
  latched := none
  engine := .idle
  block := 0
  beat := 0
  buffer := []
  dmaTxn := 0
  blkTxn := 0
  irqLevel := false

lemma fresh_sound : (fresh config).Sound where
  irqEnable := UInt32.zero_and
  notBoth := by simp [fresh]
  error := rfl
  latched := rfl
  covers := by simp [fresh]
  position := ⟨rfl, rfl, rfl, rfl⟩
  level := rfl

lemma new_eq_ok {c : DmaBlockController config} (h : new config = .ok c) :
    config.Accepted ∧ c = fresh config := by
  unfold new at h
  split_ifs at h with hcapacity hsize hrange
  rw [not_or, UInt64.not_lt, UInt64.le_iff_toNat_le] at hcapacity
  rw [checkedAdd_all_lt, not_lt] at hrange
  exact ⟨⟨hcapacity.2, hrange⟩, (Except.ok.inj h).symm⟩

end DmaBlockController

end SystemScope.Platform
