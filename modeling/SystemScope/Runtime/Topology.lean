import SystemScope.Runtime.Run
import SystemScope.Runtime.Snapshot

/-!
# Topology construction and elaboration

`runtime/src/topology.rs`: a `TopologyBuilder` records clock domains, components and links in
declaration order, and `elaborate` validates the whole graph once and produces a runtime.

The builder's own assertion, that component ids stay below the id of the runtime, is a field of
the structure.  `add_clock` is left out: a session takes its clock domains as a list.
-/

namespace SystemScope

/-- Why a topology could not be elaborated. -/
inductive ElaborationError
  | duplicatePath (path : String)
  | duplicatePortName (port : String)
  | tooManyPorts (path : String)
  | unknownComponent (id : ComponentId)
  | unknownPort (port : String)
  | roleMismatch (a b : String)
  | protocolMismatch (a b : String)
  | portAlreadyLinked (port : String)
  | unconnectedPort (port : String)
  | unknownClockDomain (id : ClockDomainId)
  deriving DecidableEq, Repr

/-- A declared component. -/
structure Declared (C : Type) where
  path : String
  component : C

/-- A declared link, its ports named by component and port name. -/
structure DeclaredLink where
  a : ComponentId × String
  b : ComponentId × String
  latency : Option LinkLatency
  deriving DecidableEq, Repr

/-- Declares a topology in a fixed order. -/
structure TopologyBuilder (C : Type) where
  clock : SimulationClock
  domains : List ClockDomain
  components : List (Declared C)
  links : List DeclaredLink
  /-- Every component id is below `ComponentId::RUNTIME`. -/
  ids_fit : components.length ≤ ComponentId.runtime.toNat

/-- A component owned by the runtime, with its elaborated ports. -/
structure Slot (C : Type) where
  path : String
  ports : List PortSpec
  component : C

/-- A port of a component, by index. -/
abbrev PortRef := ComponentId × PortId

/-- The peers table while links are added. -/
abbrev PeerTable := List (List (Option Peer))

namespace TopologyBuilder

variable {C : Type}

/-- Starts a topology for a session with the given tick resolution. -/
def new (clock : SimulationClock) (domains : List ClockDomain) : TopologyBuilder C where
  clock := clock
  domains := domains
  components := []
  links := []
  ids_fit := Nat.zero_le _

/-- Declares a component; there is none if the ids are used up, where the source panics. -/
def addComponent (b : TopologyBuilder C) (path : String) (component : C) :
    Option (ComponentId × TopologyBuilder C) :=
  if h : b.components.length < ComponentId.runtime.toNat then
    some (UInt32.ofNat b.components.length,
      { b with
        components := b.components ++ [{ path, component }]
        ids_fit := by rw [List.length_append, List.length_singleton]; exact h })
  else none

/-- Links two ports; validated at elaboration. -/
def connect (b : TopologyBuilder C) (a a' : ComponentId × String)
    (latency : Option LinkLatency) : TopologyBuilder C :=
  { b with links := b.links ++ [{ a := a, b := a', latency }] }

end TopologyBuilder

/-- The first name that occurs again. -/
def duplicateName (seen : List String) : List String → Option String
  | [] => none
  | name :: names => if name ∈ seen then some name else duplicateName (seen ++ [name]) names

section

variable {C : Type} [Component C]

/-- Validates one declared component and appends its slot. -/
def addSlot (slots : List (Slot C)) (declared : Declared C) :
    Except ElaborationError (List (Slot C)) :=
  let ports := Component.ports declared.component
  if declared.path ∈ slots.map Slot.path then .error (.duplicatePath declared.path)
  else if 2 ^ 16 ≤ ports.length then .error (.tooManyPorts declared.path)
  else match duplicateName [] (ports.map PortSpec.name) with
    | some name => .error (.duplicatePortName (declared.path ++ "." ++ name))
    | none => .ok (slots ++ [{ path := declared.path, ports, component := declared.component }])

/-- Finds a port by name: its ids, its spec, and a `path.port` label. -/
def resolvePort (slots : List (Slot C)) (port : ComponentId × String) :
    Except ElaborationError (PortRef × PortSpec × String) :=
  match slots[port.1.toNat]? with
  | none => .error (.unknownComponent port.1)
  | some slot =>
    let label := slot.path ++ "." ++ port.2
    let index := slot.ports.findIdx fun p => p.name = port.2
    match slot.ports[index]? with
    | none => .error (.unknownPort label)
    | some spec => .ok ((port.1, UInt16.ofNat index), spec, label)

/-- The entry of a port in the peers table. -/
def PeerTable.get (peers : PeerTable) (port : PortRef) : Option Peer :=
  ((peers[port.1.toNat]?.bind fun row => row[port.2.toNat]?)).join

/-- Sets the entry of a port. -/
def PeerTable.set (peers : PeerTable) (port : PortRef) (peer : Peer) : PeerTable :=
  peers.modify port.1.toNat fun row => row.set port.2.toNat (some peer)

/-- Enters a link at both of its ends. -/
def enterLink (peers : PeerTable) (a b : PortRef) (latency : Option LinkLatency) : PeerTable :=
  (peers.set a { component := b.1, port := b.2, latency }).set b
    { component := a.1, port := a.2, latency }

/-- Whether a latency names a clock domain that was not declared. -/
def unknownDomain (domains : List ClockDomain) : Option LinkLatency → Option ClockDomainId
  | some (.cycles domain _) => if domains.length ≤ domain.toNat then some domain else none
  | _ => none

/-- Validates one declared link and enters it at both ends. -/
def addLink (domains : List ClockDomain) (slots : List (Slot C))
    (state : PeerTable × List LinkDecl) (link : DeclaredLink) :
    Except ElaborationError (PeerTable × List LinkDecl) :=
  match unknownDomain domains link.latency with
  | some domain => .error (.unknownClockDomain domain)
  | none => do
    let (a, aSpec, aName) ← resolvePort slots link.a
    let (b, bSpec, bName) ← resolvePort slots link.b
    if aSpec.role = bSpec.role then .error (.roleMismatch aName bName)
    else if aSpec.protocol ≠ bSpec.protocol then .error (.protocolMismatch aName bName)
    else if (state.1.get a).isSome then .error (.portAlreadyLinked aName)
    else if (state.1.get b).isSome then .error (.portAlreadyLinked bName)
    else return (enterLink state.1 a b link.latency, state.2 ++ [{ a, b, latency := link.latency }])

/-- The first declared port without a link, by label. -/
def unconnected (slots : List (Slot C)) (peers : PeerTable) : Option String :=
  (slots.zip peers).findSome? fun (slot, row) =>
    (slot.ports.zip row).findSome? fun (spec, peer) =>
      if peer.isNone then some (slot.path ++ "." ++ spec.name) else none

variable [Contracts]

/-- The runtime of an elaborated topology. -/
def Runtime.fromElaboration (clock : SimulationClock) (domains : List ClockDomain)
    (slots : List (Slot C)) (peers : List (List Peer)) (links : List LinkDecl)
    (config : SessionConfig) : Runtime C :=
  let infos := slots.map fun s =>
    { path := s.path, typeName := Component.typeName s.component, ports := s.ports : SlotInfo }
  { clock
    domains
    components := slots.map Slot.component
    rngs := slots.map fun s => Xoshiro256StarStar.forComponent config.seed s.path
    slots := infos
    peers
    links
    topologyHash := Contracts.hash (Contracts.encodeTopology (componentDecls infos) links)
    config
    scheduler := Scheduler.new config.scheduler
    executionDigest := .zero
    lifecycle := .elaborated
    fault := none
    freshlyRestored := false
    trace := none
    emitted := []
    observers := []
    observePoints := SortedSet.empty
    journal := [] }

/-- Validates the topology and builds a runtime in the `elaborated` state. -/
def TopologyBuilder.elaborate (b : TopologyBuilder C) (config : SessionConfig) :
    Except ElaborationError (Runtime C) := do
  let slots ← b.components.foldlM addSlot []
  let unlinked : PeerTable := slots.map fun s => List.replicate s.ports.length none
  let (peers, links) ← b.links.foldlM (addLink b.domains slots) (unlinked, [])
  match unconnected slots peers with
  | some port => .error (.unconnectedPort port)
  | none =>
    -- Every entry is there: `reduceOption` drops none.
    .ok (.fromElaboration b.clock b.domains slots (peers.map List.reduceOption) links config)

/-- What elaboration has checked when it succeeds, and what it returns. -/
lemma TopologyBuilder.elaborate_eq_ok {b : TopologyBuilder C} {config : SessionConfig}
    {rt : Runtime C} (h : b.elaborate config = .ok rt) :
    ∃ slots peers links, b.components.foldlM addSlot [] = .ok slots ∧
      b.links.foldlM (addLink b.domains slots)
        (slots.map fun s => List.replicate s.ports.length none, []) = .ok (peers, links) ∧
      unconnected slots peers = none ∧
      rt = .fromElaboration b.clock b.domains slots (peers.map List.reduceOption) links config := by
  unfold elaborate at h
  cases hslots : b.components.foldlM addSlot [] with
  | error e =>
    rw [hslots] at h
    cases h
  | ok slots =>
    rw [hslots] at h
    change (b.links.foldlM (addLink b.domains slots)
      (slots.map fun s => List.replicate s.ports.length none, []) >>= _) = _ at h
    rcases hlinks : b.links.foldlM (addLink b.domains slots)
      (slots.map fun s => List.replicate s.ports.length none, []) with e | ⟨peers, links⟩
    · rw [hlinks] at h
      cases h
    · rw [hlinks] at h
      change (match unconnected slots peers with
        | some port => Except.error (ElaborationError.unconnectedPort port)
        | none => Except.ok (Runtime.fromElaboration b.clock b.domains slots
          (peers.map List.reduceOption) links config)) = _ at h
      cases hunconnected : unconnected slots peers with
      | some port =>
        rw [hunconnected] at h
        cases h
      | none =>
        rw [hunconnected] at h
        exact ⟨slots, peers, links, rfl, hlinks, hunconnected, (Except.ok.inj h).symm⟩

end

/-!
## Driving a session

Everything a driver can call on a session, as one type of calls and one of replies, so that a
run is a list of calls (`Machine.exec Runtime.call`).  `take_trace` is among them; reading the
session's public facts is not, since it changes nothing.
-/

namespace Runtime

/-- A call on a session. -/
inductive Call
  | init
  | step
  | run (until_ : Tick)
  | runUntil (until_ : Tick)
  | snapshot
  | restore (bytes : Bytes)
  | startTrace
  | resumeTrace (before : Trace)
  | takeTrace
  | observeAt (tick : Tick)
  | addObserver (observer : Observer)

/-- What a call returned. -/
inductive Reply
  | done (result : Except RuntimeError Unit)
  | stepped (result : Except RuntimeError (Option CanonicalEvent))
  | ran (result : Except RuntimeError RunOutcome)
  | ranUntil (result : Except RuntimeError ℕ)
  | snapshot (result : Except RuntimeError Bytes)
  | resumed (result : Except ResumeError Unit)
  | trace (result : Option Trace)
  | noted

/-- Performs one call. -/
def call {C : Type} [Contracts] [Component C] (rt : Runtime C) : Call → Reply × Runtime C
  | .init => rt.init.map .done id
  | .step => rt.step.map .stepped id
  | .run until_ => (rt.run until_).map .ran id
  | .runUntil until_ => (rt.runUntil until_).map .ranUntil id
  | .snapshot => (.snapshot rt.snapshot, rt)
  | .restore bytes => (rt.restore bytes).map .done id
  | .startTrace => rt.startTrace.map .done id
  | .resumeTrace before => (rt.resumeTrace before).map .resumed id
  | .takeTrace => rt.takeTrace.map .trace id
  | .observeAt tick => (.noted, rt.observeAt tick)
  | .addObserver observer => (.noted, rt.addObserver observer)

/-- The events dispatched so far, in order. -/
def history {C : Type} (rt : Runtime C) : List CanonicalEvent :=
  rt.journal.filterMap fun
    | .dispatched ev => some ev
    | _ => none

end Runtime

end SystemScope
