import SystemScope.Components.Exchange
import SystemScope.Contracts.Draws
import SystemScope.Contracts.SnapshotData

/-!
# A ticker

The component that the runtime's own tests observe (`runtime/tests/observe.rs`): it has two events
per tick and draws a random number at each.  It restores the count of its events and what it drew
from its snapshot (`Ticker.restores`).
-/

namespace SystemScope

open SnapshotFields

structure Ticker where
  handled : UInt64
  drawn : UInt64
  deriving DecidableEq, Repr

namespace Ticker

/-- The number of ticks with events. -/
def ticks : UInt64 := 3

/-- 1000 ps. -/
def period : ScheduleWhen := .after ⟨10 ^ 6⟩

def init (c : Ticker) : Handler Ticker :=
  .trace "ticker.init" [] <| .wakeSelf period .request 0 fun result => .done result c

def handleEvent (c : Ticker) (ev : Delivered) : Handler Ticker :=
  .rngNextU64s 1 fun values =>
    let c := { handled := c.handled + 1, drawn := c.drawn ^^^ values.headD 0 }
    .trace "ticker.handled" [("n", .u64 c.handled)] <|
      if ev = .wake 0 then .wakeSelf .now .commit 1 fun result => .done result c
      else if ev = .wake 1 ∧ c.handled < 2 * ticks then
        .wakeSelf period .request 0 fun result => .done result c
      else .done (.ok ()) c

section

variable [SnapshotFields]

def snapshot (c : Ticker) : Bytes := u64.write c.handled ++ u64.write c.drawn

def restore (c : Ticker) (bs : Bytes) (_ : UInt32) : Ticker × Except RestoreError Bytes :=
  match Restoring.field u64 bs with
  | .error e => (c, .error e)
  | .ok (handled, bs) =>
    match Restoring.field u64 bs with
    | .error e => ({ c with handled }, .error e)
    | .ok (drawn, rest) => ({ handled, drawn }, .ok rest)

instance : Component Ticker where
  typeName _ := "test.ticker"
  ports _ := []
  init
  handleEvent
  snapshotSchemaVersion _ := 1
  snapshot
  restore
  inspect c := ⟨[("handled", .u64 c.handled)]⟩

lemma restores (hstrict : Strict) (c₀ : Ticker) : Component.Restores c₀ := by
  intro c _
  have hread (x : UInt64) (rest : Bytes) :
      Restoring.field u64 (u64.write x ++ rest) = .ok (x, rest) :=
    (hstrict.u64.mapError _ _ _ _).mpr ⟨trivial, rfl⟩
  have hlast := hread c.drawn []
  rw [List.append_nil] at hlast
  refine ⟨rfl, ?_⟩
  show restore c₀ c.snapshot 1 = (c, .ok [])
  unfold restore snapshot
  rw [hread]
  dsimp only
  rw [hlast]

end

open Exchange Canonical

def topology : TopologyBuilder Ticker where
  clock
  domains := []
  components := [⟨"ticker", ⟨0, 0⟩⟩]
  links := []
  ids_fit := by decide

def config : SessionConfig := ⟨3, ⟨1000000⟩⟩

def session : Runtime Ticker :=
  .fromElaboration clock [] [⟨"ticker", [], ⟨0, 0⟩⟩] [[]] [] config

lemma elaborate_topology : topology.elaborate config = .ok session := rfl

/-- The traced session in the middle of a tick. -/
def ticking : Runtime Ticker :=
  (Machine.exec Runtime.call session [.startTrace, .init, .step, .step, .step]).2

lemma isSome_encodeRngState (s : XoshiroState) : (encodeRngState s).isSome := by
  have hword (x : UInt64) : (Contracts.u64.encode x).isSome :=
    Option.isSome_iff_exists.mpr ⟨_, if_pos x.toNat_lt⟩
  refine Coder.concat_isSome ?_
  simp only [List.forall_mem_cons, hword, true_and]
  simp

-- The generators' states come out of the hash, and whether they can be written does not depend on
-- it.
lemma ticking_snapshotBytes : ticking.snapshotBytes.isSome := by
  have hrngs : (Coder.concat (ticking.rngs.map fun rng => encodeRngState rng.state)).isSome := by
    refine Coder.concat_isSome fun part hpart => ?_
    obtain ⟨rng, -, rfl⟩ := List.mem_map.mp hpart
    exact isSome_encodeRngState rng.state
  unfold Runtime.snapshotBytes
  refine Coder.concat_isSome ?_
  simp only [List.forall_mem_cons, hrngs, true_and]
  repeat' apply And.intro
  all_goals decide +kernel

lemma ticking_snapshot : ∃ bs, ticking.snapshot = .ok bs :=
  Runtime.exists_snapshot (by decide +kernel) ticking_snapshotBytes

lemma ticking_observers : ticking.observers = [] := by
  rw [← List.isEmpty_iff]
  decide +kernel

lemma ticking_trace : ∃ before, ticking.takeTrace.1 = some before := by
  rw [← Option.isSome_iff_exists]
  decide +kernel

lemma ticking_handled : ticking.components.map handled = [3] := by
  decide +kernel

end Ticker

end SystemScope
