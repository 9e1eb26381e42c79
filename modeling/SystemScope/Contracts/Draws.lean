import SystemScope.Contracts.Embedding

/-!
# Handlers that draw

The random numbers of a component come from `SimRng`, whose provided methods `below` and `chance`
are in the contracts crate.  How often `below` draws and what it makes of the draws is a parameter
(`SimRng`); the algorithm of `docs/m0-design.md` §5.2, given up after so many draws, is one instance
(`Canonical.boundedRng`).

`h.Completes place calls result c` says that `h` can make these calls, each of them succeeding, and
so end with this result and leave this component behind.  It follows a handler as `Handler.perform`
does, but leaves open what is drawn: every draw takes what it asks for off some stream.
-/

namespace SystemScope

/-- A word that is not zero. -/
abbrev NonZeroU64 := { n : UInt64 // n ≠ 0 }

/-- `NonZeroU64::new`. -/
def NonZeroU64.new (n : UInt64) : Option NonZeroU64 := if h : n ≠ 0 then some ⟨n, h⟩ else none

/-- `SimRng::below`. -/
class SimRng where
  /-- How many values are drawn, given the stream ahead. -/
  draws : NonZeroU64 → (ℕ → UInt64) → ℕ
  /-- The result, given the values drawn. -/
  pick : NonZeroU64 → List UInt64 → UInt64
  pick_lt : ∀ n values, pick n values < n.val

namespace Canonical

/-- The values below this one are drawn again: `n.wrapping_neg() % n`. -/
def rejected (n : NonZeroU64) : UInt64 := (0 - n.val) % n.val

/-- Draws until a value is accepted, so many times at most; the source draws on. -/
@[reducible] def boundedRng (bound : ℕ) : SimRng where
  draws n stream :=
    ((List.range bound).find? fun k => rejected n ≤ stream k).elim 0 (· + 1)
  pick n values := values.getLastD 0 % n.val
  pick_lt n _ := UInt64.mod_lt _ (UInt64.pos_iff_ne_zero.mpr n.property)

end Canonical

namespace Handler

variable {C D : Type}

/-! ## Drawing -/

/-- `rng().below(n)`. -/
def rngBelow [SimRng] (n : NonZeroU64) (k : UInt64 → Handler C) : Handler C :=
  .rng (SimRng.draws n) fun values => k (SimRng.pick n values)

/-- `rng().chance(num, den)`. -/
def rngChance [SimRng] (num : UInt64) (den : NonZeroU64) (k : Bool → Handler C) : Handler C :=
  rngBelow den fun x => k (x < num)

/-- So many calls of `rng().next_u64()`. -/
def rngNextU64s (count : ℕ) (k : List UInt64 → Handler C) : Handler C := .rng (fun _ => count) k

/-! ## Calls that succeed -/

/-- Where a handler is called. -/
structure Place where
  component : ComponentId
  now : Tick
  phase : Phase

/-- The handler can make these calls, all of them succeeding, and end so. -/
def Completes (place : Place) :
    Handler C → List Call → Except SimError Unit → C → Prop
  | .done r c, calls, result, c' => calls = [] ∧ result = r ∧ c' = c
  | .send port msg when_ at_ k, calls, result, c' =>
    ∃ rest, calls = .sent port msg when_ at_ :: rest ∧ Completes place (k (.ok ())) rest result c'
  | .wakeSelf when_ at_ token k, calls, result, c' =>
    ∃ rest, calls = .woke when_ at_ token :: rest ∧ Completes place (k (.ok ())) rest result c'
  | .rng draws k, calls, result, c' =>
    ∃ stream : ℕ → UInt64,
      Completes place (k ((List.range (draws stream)).map stream)) calls result c'
  | .trace kind fields k, calls, result, c' =>
    ∃ rest, calls = .traced kind fields :: rest ∧ Completes place k rest result c'
  | .component k, calls, result, c' => Completes place (k place.component) calls result c'
  | .now k, calls, result, c' => Completes place (k place.now) calls result c'
  | .phase k, calls, result, c' => Completes place (k place.phase) calls result c'

variable {place : Place} {calls : List Call} {result : Except SimError Unit} {c : C}

section

variable {r : Except SimError Unit} {c' : C} {port : PortId} {msg : Message} {when_ : ScheduleWhen}
  {at_ : Phase} {token : UInt64} {kind : String} {fields : List (String × Value)}
  {k : Except SimError Unit → Handler C} {h : Handler C}

lemma completes_phase {k : Phase → Handler C} : (Handler.phase k).Completes place calls result c ↔
    (k place.phase).Completes place calls result c := Iff.rfl

end

/-- What is drawn is below the bound. -/
lemma completes_rngBelow [SimRng] {n : NonZeroU64} {k : UInt64 → Handler C}
    (h : (rngBelow n k).Completes place calls result c) :
    ∃ x < n.val, (k x).Completes place calls result c := by
  obtain ⟨stream, hk⟩ := h
  exact ⟨_, SimRng.pick_lt n _, hk⟩

lemma completes_rngChance [SimRng] {num : UInt64} {den : NonZeroU64} {k : Bool → Handler C}
    (h : (rngChance num den k).Completes place calls result c) :
    ∃ b, (k b).Completes place calls result c := by
  obtain ⟨x, -, hk⟩ := completes_rngBelow h
  exact ⟨_, hk⟩

lemma completes_rngNextU64s {count : ℕ} {k : List UInt64 → Handler C}
    (h : (rngNextU64s count k).Completes place calls result c) :
    ∃ values : List UInt64, values.length = count ∧ (k values).Completes place calls result c := by
  obtain ⟨stream, hk⟩ := h
  exact ⟨_, by simp, hk⟩

/-- The image of a component does the same. -/
lemma completes_map {f : D → C} {h : Handler D} :
    (h.map f).Completes place calls result c ↔ ∃ d, h.Completes place calls result d ∧ c = f d := by
  induction h generalizing calls with
  | done r d =>
    constructor
    · rintro ⟨rfl, rfl, rfl⟩
      exact ⟨d, ⟨rfl, rfl, rfl⟩, rfl⟩
    · rintro ⟨d', ⟨rfl, rfl, rfl⟩, rfl⟩
      exact ⟨rfl, rfl, rfl⟩
  | send port msg when_ at_ k ih | wakeSelf when_ at_ token k ih =>
    simp only [Handler.map, Completes, ih]
    grind
  | trace kind fields k ih =>
    simp only [Handler.map, Completes, ih]
    grind
  | rng draws k ih =>
    simp only [Handler.map, Completes, ih]
    exact exists_comm.trans (by simp only [exists_and_right])
  | component k ih | now k ih | phase k ih => exact ih _

end Handler

end SystemScope
