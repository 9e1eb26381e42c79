import SystemScope.Contracts.Types
import SystemScope.Framework.Codec

/-!
# What the runtime is built on

The runtime of this repository uses a contracts crate that is not part of it: clock arithmetic,
the canonical codec, the hash, and the traits that components and observers implement.  They are
parameters here.

* `Contracts` collects the functions the runtime calls.  `Contracts.Lawful` states what §4.5 and
  §8.1 of `docs/m0-design.md` promise of the codec, and `Contracts.MonotoneClock` what §3 promises
  of the clock; results that rely on either say so.
* `Component` is the component trait.  A handler is a tree of the context calls it makes, each
  node waiting for the answer: `Handler C` ranges over every behaviour a component can have that
  ends.
* `Observer` is an observer as a function of everything it was shown.
-/

namespace SystemScope

/-- A codec for canonical bytes. -/
abbrev CanonicalCoder (α : Type) := Coder UInt8 DecodeError α

/-- The functions of the contracts crate and of the hash that the runtime calls. -/
class Contracts where
  contractsVersion : String
  /-- `SimulationClock::after`. -/
  after : SimulationClock → Tick → Duration → Except SimError Tick
  /-- `ClockDomain::cycles_after`. -/
  cyclesAfter : ClockDomain → Tick → UInt64 → Except SimError Tick
  u8 : CanonicalCoder UInt8
  u32 : CanonicalCoder UInt32
  u64 : CanonicalCoder UInt64
  str : CanonicalCoder String
  /-- Element counts: a `u32`, so larger ones have no encoding. -/
  len : CanonicalCoder ℕ
  bytes : CanonicalCoder Bytes
  /-- Arrays of a fixed length, without a count. -/
  raw (n : ℕ) : CanonicalCoder (Vector UInt8 n)
  eventKey : CanonicalCoder EventKey
  event : CanonicalCoder CanonicalEvent
  /-- `Decoder::finish`: refuses trailing bytes. -/
  finish : Bytes → Except DecodeError Unit
  /-- `CanonicalEvent::to_bytes`. -/
  toBytes : CanonicalEvent → Bytes
  encodeClockDomains : List ClockDomain → Option Bytes
  encodeTopology : List ComponentDecl → List LinkDecl → Bytes
  /-- `blake3::hash`. -/
  hash : Bytes → Digest
  /-- `blake3::derive_key`. -/
  deriveKey : String → Bytes → Digest

/-- The byte a clock domain's rounding is encoded as. -/
def Rounding.tag : Rounding → UInt8
  | .floor => 0
  | .ceil => 1

namespace Contracts

/-- A clock domain as its encoded fields. -/
abbrev DomainFields := UInt32 × UInt64 × UInt64 × UInt64 × UInt8

end Contracts

/-- The fields of a clock domain, in the order of its encoding. -/
def ClockDomain.fields (d : ClockDomain) : Contracts.DomainFields :=
  (d.id, d.freqNum, d.freqDen, d.offset, d.rounding.tag)

namespace Contracts

variable [Contracts]

/-- The encoding of a clock domain: its fields, one after the other. -/
def encodeDomainFields : DomainFields → Option Bytes
  | (id, num, den, offset, rounding) =>
    Coder.concat [u32.encode id, u64.encode num, u64.encode den, u64.encode offset,
      u8.encode rounding]

/-- The codec reads back what it wrote, stops at the end, and writes clock domains as a counted
sequence of their fields. -/
structure Lawful : Prop where
  u8 : u8.RoundTrips
  u32 : u32.RoundTrips
  u64 : u64.RoundTrips
  str : str.RoundTrips
  len : len.RoundTrips
  bytes : bytes.RoundTrips
  raw : ∀ n, (raw n).RoundTrips
  eventKey : eventKey.RoundTrips
  event : event.RoundTrips
  finish : finish [] = .ok ()
  clockDomains : ∀ domains : List ClockDomain, encodeClockDomains domains =
    Coder.concat (Contracts.len.encode domains.length ::
      domains.map fun d => encodeDomainFields d.fields)

/-- Clock arithmetic never goes back, and keeps the order of its starting points. -/
structure MonotoneClock : Prop where
  le_after : ∀ clock now d tick, after clock now d = .ok tick → now ≤ tick
  after_mono : ∀ clock now now' d tick tick', now ≤ now' → after clock now d = .ok tick →
    after clock now' d = .ok tick' → tick ≤ tick'
  le_cyclesAfter : ∀ domain now k tick, cyclesAfter domain now k = .ok tick → now ≤ tick
  cyclesAfter_mono : ∀ domain now now' k tick tick', now ≤ now' →
    cyclesAfter domain now k = .ok tick → cyclesAfter domain now' k = .ok tick' → tick ≤ tick'

end Contracts

/-! ## Components -/

/-- What a component does when it is called: the context calls it makes, each waiting for its
answer, and in the end its result and its next state.  `rng` draws as often as a function of the
stream ahead says, since `SimRng::below` draws until a value is accepted. -/
inductive Handler (C : Type)
  | done (result : Except SimError Unit) (component : C)
  | send (port : PortId) (msg : Message) (when_ : ScheduleWhen) (phase : Phase)
      (k : Except SimError Unit → Handler C)
  | wakeSelf (when_ : ScheduleWhen) (phase : Phase) (token : UInt64)
      (k : Except SimError Unit → Handler C)
  | rng (draws : (ℕ → UInt64) → ℕ) (k : List UInt64 → Handler C)
  | trace (kind : String) (fields : List (String × Value)) (k : Handler C)
  | component (k : ComponentId → Handler C)
  | now (k : Tick → Handler C)
  | phase (k : Phase → Handler C)

/-- The component states a handler can end in, whatever it is answered. -/
inductive Handler.Ends {C : Type} : Handler C → C → Prop
  | done (result : Except SimError Unit) (c : C) : Ends (.done result c) c
  | send {port msg when_ phase k} (r : Except SimError Unit) {c : C} (h : Ends (k r) c) :
      Ends (.send port msg when_ phase k) c
  | wakeSelf {when_ phase token k} (r : Except SimError Unit) {c : C} (h : Ends (k r) c) :
      Ends (.wakeSelf when_ phase token k) c
  | rng {draws k} (values : List UInt64) {c : C} (h : Ends (k values) c) : Ends (.rng draws k) c
  | trace {kind fields k} {c : C} (h : Ends k c) : Ends (.trace kind fields k) c
  | component {k} (id : ComponentId) {c : C} (h : Ends (k id) c) : Ends (.component k) c
  | now {k} (tick : Tick) {c : C} (h : Ends (k tick) c) : Ends (.now k) c
  | phase {k} (p : Phase) {c : C} (h : Ends (k p) c) : Ends (.phase k) c

/-- The component trait.  `C` stands for all components of a topology together. -/
class Component (C : Type) where
  typeName : C → String
  ports : C → List PortSpec
  init : C → Handler C
  handleEvent : C → Delivered → Handler C
  snapshotSchemaVersion : C → UInt32
  snapshot : C → Bytes
  /-- The component left behind, and the bytes left over or an error. -/
  restore : C → Bytes → UInt32 → C × Except RestoreError Bytes
  inspect : C → StateView

/-- The states a component reaches from `c₀` by handling calls. -/
inductive Component.Evolves {C : Type} [Component C] (c₀ : C) : C → Prop
  | refl : Evolves c₀ c₀
  | init {c c' : C} (h : Evolves c₀ c) (hc : (Component.init c).Ends c') : Evolves c₀ c'
  | event {c c' : C} (h : Evolves c₀ c) (delivery : Delivered)
      (hc : (Component.handleEvent c delivery).Ends c') : Evolves c₀ c'

/-- A component restores its own snapshots: from any state reached, the bytes are accepted by
the component as it was declared, consumed to the end, and give the state back. -/
def Component.Restores {C : Type} [Component C] (c₀ : C) : Prop :=
  ∀ c, Component.Evolves c₀ c →
    snapshotSchemaVersion c = snapshotSchemaVersion c₀ ∧
      restore c₀ (snapshot c) (snapshotSchemaVersion c) = (c, .ok [])

/-! ## Observers -/

/-- An observer's answer. -/
inductive Control
  | continue_
  | pause
  deriving DecidableEq, Repr

/-- What observers may see of the components: type names and inspected values. -/
structure WorldView where
  now : Tick
  components : List (String × StateView)

/-- A call made to an observer. -/
inductive Callback
  | trace (record : TraceRecord)
  | afterDispatch (ev : CanonicalEvent) (world : WorldView)
  | observe (now : Tick) (world : WorldView)

/-- An observer: what it was shown so far, and its answer as a function of that. -/
structure Observer where
  seen : List Callback
  answer : List Callback → Control

namespace Observer

/-- Shows an observer one more thing. -/
def call (o : Observer) (callback : Callback) : Observer :=
  { o with seen := o.seen ++ [callback] }

/-- The answer to what was shown last. -/
def control (o : Observer) : Control := o.answer o.seen

/-- Shows a list of observers one thing; any of them may ask for a pause. -/
def callAll (observers : List Observer) (callback : Callback) : Control × List Observer :=
  let called := observers.map fun o => o.call callback
  (if called.any fun o => o.control = .pause then .pause else .continue_, called)

end Observer

end SystemScope
