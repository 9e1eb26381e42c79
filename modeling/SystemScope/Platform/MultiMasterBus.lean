import SystemScope.Framework.RoundRobin
import SystemScope.Framework.Tables
import SystemScope.Platform.Access

/-!
# The multi-master bus

`components/platform/src/mmbus.rs`: the bus that arbitrates `mem.v1` requests from several masters
onto memory-mapped regions.

The source keeps one vector of region states, one FIFO per master in each, and indices that `new`
has checked.  Here a bus belongs to a configuration, and its tables and indices have the sizes that
the configuration gives them, so that no index can be out of bounds.  An `expect` of the source is
a fault of the session here; that none is ever reached is part of what is proved.
-/

namespace SystemScope.Platform

open MemV1

/-! ## Configuration -/

/-- The configuration of a bus.  Its order is its identity: the masters fix the master indices
and, with the regions, the port numbering. -/
structure MultiMasterBusConfig where
  /-- The master port names. -/
  masters : List String
  /-- The regions, in decoding and arbitration order. -/
  regions : List Region
  /-- The bus clock, which paces grants after a completion. -/
  clock : ClockDomainId
  deriving DecidableEq, Repr

/-- Why a configuration cannot form a bus. -/
inductive MultiMasterBusConfigError
  | noMasters
  | zeroSize (region : String)
  | wraps (region : String)
  | overlap (earlier region : String)
  | duplicateName (name : String)
  | tooManyPorts
  deriving DecidableEq, Repr

namespace MultiMasterBusConfig

variable (config : MultiMasterBusConfig)

/-- The index of a master. -/
abbrev Master := Fin config.masters.length

/-- The index of a region. -/
abbrev RegionIndex := Fin config.regions.length

/-- The target port of a master. -/
def masterPort (master : config.Master) : PortId := UInt16.ofNat master

/-- The initiator port of a region: region ports follow the master ports. -/
def regionPort (region : config.RegionIndex) : PortId :=
  UInt16.ofNat (config.masters.length + region)

/-- Checks the regions in order, each against the ones before it. -/
def checkRegions (earlier : List Region) : List Region → Except MultiMasterBusConfigError Unit
  | [] => .ok ()
  | region :: rest =>
    if region.size = 0 then .error (.zeroSize region.name)
    else if 2 ^ 64 ≤ region.base.toNat + (region.size - 1).toNat then .error (.wraps region.name)
    else
      let last := region.base + (region.size - 1)
      match earlier.find? fun e => e.base ≤ last && region.base ≤ e.base + (e.size - 1) with
      | some e => .error (.overlap e.name region.name)
      | none => checkRegions (earlier ++ [region]) rest

/-- The index of the one region holding every byte of `first..=last`. -/
def route (first last : UInt64) : Option config.RegionIndex :=
  match config.regions.findFinIdx? fun r => r.base ≤ first && first - r.base < r.size with
  | none => none
  | some index =>
    let region := config.regions.get index
    if last - region.base < region.size then some index else none

end MultiMasterBusConfig

/-! ## State -/

/-- The one downstream transaction of a region: enough to match its response and relay it. -/
structure ActiveTxn (masters : ℕ) where
  master : Fin masters
  originalTxn : TxnId
  downstreamTxn : TxnId
  write : Bool
  deriving DecidableEq, Repr

/-- One region's arbitration state.  A queued request has the region offset as its address and
the master's original `txn`. -/
structure RegionState (masters : ℕ) where
  active : Option (ActiveTxn masters)
  /-- One FIFO per master. -/
  queues : Vector (List MemV1.MemMsg) masters
  /-- The next master to consider. -/
  rrCursor : Fin masters
  deriving DecidableEq

namespace RegionState

variable {masters : ℕ}

/-- A region without requests. -/
def idle (h : 0 < masters) : RegionState masters where
  active := none
  queues := Vector.replicate masters []
  rrCursor := ⟨0, h⟩

/-- The FIFO of a master. -/
def queue (s : RegionState masters) (master : Fin masters) : List MemV1.MemMsg :=
  s.queues.get master

/-- The master to grant: the first with a non-empty FIFO, scanning circularly from the cursor. -/
def select (s : RegionState masters) : Option (Fin masters) :=
  ((List.finRange masters).map fun k => s.rrCursor + k).find? fun m => !(s.queue m).isEmpty

def hasQueued (s : RegionState masters) : Bool := s.queues.toList.any fun q => !q.isEmpty

/-- A FIFO replaced. -/
def setQueue (s : RegionState masters) (master : Fin masters) (q : List MemV1.MemMsg) :
    RegionState masters :=
  { s with queues := s.queues.set master q master.isLt }

/-- The cursor after a grant to `master`. -/
def cursorAfter (master : Fin masters) : Fin masters :=
  ⟨(master + 1) % masters, RoundRobin.succ_mod_lt master⟩

@[simp] lemma queue_idle (h : 0 < masters) (m : Fin masters) : (idle h).queue m = [] :=
  Vector.getElem_replicate _

@[simp] lemma queue_setQueue (s : RegionState masters) (master m : Fin masters)
    (q : List MemV1.MemMsg) :
    (s.setQueue master q).queue m = if m = master then q else s.queue m :=
  Vector.get_set _ _ _ _

@[simp] lemma active_setQueue (s : RegionState masters) (master : Fin masters)
    (q : List MemV1.MemMsg) : (s.setQueue master q).active = s.active := rfl

@[simp] lemma rrCursor_setQueue (s : RegionState masters) (master : Fin masters)
    (q : List MemV1.MemMsg) : (s.setQueue master q).rrCursor = s.rrCursor := rfl

@[simp] lemma queue_mk (active : Option (ActiveTxn masters))
    (queues : Vector (List MemV1.MemMsg) masters) (cursor m : Fin masters) :
    (RegionState.mk active queues cursor).queue m = queues.get m := rfl

/-- Region states with the same FIFOs, cursor and active transaction are the same. -/
lemma ext_queue {s t : RegionState masters} (hactive : s.active = t.active)
    (hqueue : ∀ m, s.queue m = t.queue m) (hcursor : s.rrCursor = t.rrCursor) : s = t := by
  obtain ⟨active, queues, cursor⟩ := s
  obtain ⟨active', queues', cursor'⟩ := t
  have hqueues : queues = queues' := Vector.ext_get hqueue
  dsimp only at hactive hcursor
  rw [hactive, hqueues, hcursor]

lemma hasQueued_iff {s : RegionState masters} : s.hasQueued ↔ ∃ m, s.queue m ≠ [] := by
  simp only [hasQueued, List.any_eq_true, Vector.mem_toList_iff_get]
  constructor
  · rintro ⟨q, ⟨m, rfl⟩, hq⟩
    exact ⟨m, by simpa [queue] using hq⟩
  · rintro ⟨m, hm⟩
    exact ⟨_, ⟨m, rfl⟩, by simpa [queue] using hm⟩

lemma select_eq (s : RegionState masters) :
    s.select = RoundRobin.select s.rrCursor fun m => !(s.queue m).isEmpty := rfl

lemma select_eq_none {s : RegionState masters} : s.select = none ↔ ∀ m, s.queue m = [] := by
  simp only [select, List.find?_eq_none]
  constructor
  · intro h m
    simpa using h m (RoundRobin.mem_scan _ m)
  · intro h m _
    simpa using h m

lemma queue_ne_nil_of_select {s : RegionState masters} {m : Fin masters}
    (h : s.select = some m) : s.queue m ≠ [] := by
  simpa using List.find?_some h

end RegionState

/-- A multi-initiator `mem.v1` interconnect with per-region round-robin arbitration. -/
structure MultiMasterBus (config : MultiMasterBusConfig) where
  regions : Vector (RegionState config.masters.length) config.regions.length
  /-- The next downstream `TxnId` to allocate. -/
  nextDownstream : UInt64
  deriving DecidableEq

namespace MultiMasterBus

/-- The trace record of a forwarded request. -/
def grantKind : String := "platform.bus.grant"

/-- The trace record of a refused request. -/
def faultKind : String := "platform.bus.fault"

/-- The token of the arbitration wake, the only wake the bus schedules. -/
def arbitrateToken : UInt64 := 0

variable {config : MultiMasterBusConfig}

/-- Creates an idle bus. -/
def new (config : MultiMasterBusConfig) :
    Except MultiMasterBusConfigError (MultiMasterBus config) :=
  if h : config.masters.length = 0 then .error .noMasters
  else if 65535 ≤ config.masters.length + config.regions.length then .error .tooManyPorts
  else
    match List.firstRepeated [] (config.masters ++ config.regions.map Region.name) with
    | some name => .error (.duplicateName name)
    | none =>
      match MultiMasterBusConfig.checkRegions [] config.regions with
      | .error e => .error e
      | .ok () =>
        .ok
          { regions := Vector.replicate _ (.idle (Nat.pos_of_ne_zero h))
            nextDownstream := 0 }

variable (bus : MultiMasterBus config)

/-- The state of a region. -/
def region (r : config.RegionIndex) : RegionState config.masters.length := bus.regions.get r

def setRegion (r : config.RegionIndex) (s : RegionState config.masters.length) :
    MultiMasterBus config :=
  { bus with regions := bus.regions.set r s }

@[simp] lemma region_setRegion (r r' : config.RegionIndex)
    (s : RegionState config.masters.length) :
    (bus.setRegion r s).region r' = if r' = r then s else bus.region r' :=
  Vector.get_set _ _ _ _

@[simp] lemma nextDownstream_setRegion (r : config.RegionIndex)
    (s : RegionState config.masters.length) :
    (bus.setRegion r s).nextDownstream = bus.nextDownstream := rfl

variable {bus} in
/-- Buses with the same region states and counter are the same. -/
lemma ext_region {bus' : MultiMasterBus config} (hregion : ∀ r, bus.region r = bus'.region r)
    (hnext : bus.nextDownstream = bus'.nextDownstream) : bus = bus' := by
  obtain ⟨regions, next⟩ := bus
  obtain ⟨regions', next'⟩ := bus'
  have hregions : regions = regions' := Vector.ext_get hregion
  dsimp only at hnext
  rw [hregions, hnext]

/-- Whether `master` has a request with `txn` queued or active anywhere. -/
def isLive (master : config.Master) (txn : TxnId) : Bool :=
  bus.regions.toList.any fun r =>
    r.active.any (fun a => a.master = master && a.originalTxn = txn) ||
      (r.queue master).any fun q => (requestTxn q).any fun (t, _) => t = txn

/-! ## Requests -/

/-- Faults the session. -/
def reject (what : String) : Handler (MultiMasterBus config) :=
  .done (.error (.componentFault what)) bus

/-- Sends the answer of the bus itself. -/
def answerFault (master : config.Master) (txn : TxnId) (addr len : UInt64)
    (resp : MemV1.MemMsg) : Handler (MultiMasterBus config) :=
  .send (config.masterPort master) (.memV1 resp) .now .complete fun
    | .error e => .done (.error e) bus
    | .ok () =>
      .trace faultKind
        [("txn", .u64 txn), ("addr", .u64 addr), ("len", .u64 len),
          ("master", .u64 (UInt64.ofNat master))] <|
        .done (.ok ()) bus

/-- Answers a request that no region contains with an access fault. -/
def fault (master : config.Master) : MemV1.MemMsg → Handler (MultiMasterBus config)
  | .readReq txn addr len =>
    bus.answerFault master txn addr len.toUInt64 (.readResp txn (.fault .accessFault))
  | .writeReq txn addr data =>
    bus.answerFault master txn addr (UInt64.ofNat data.length)
      (.writeResp txn (.fault .accessFault))
  | .readResp .. | .writeResp .. => bus.reject "multi-master bus: response on a master port"

/-- A request at the end of its FIFO. -/
def enqueue (r : config.RegionIndex) (master : config.Master) (msg : MemV1.MemMsg) :
    MultiMasterBus config :=
  bus.setRegion r ((bus.region r).setQueue master ((bus.region r).queue master ++ [msg]))

lemma queue_enqueue (r r' : config.RegionIndex) (master m : config.Master)
    (msg : MemV1.MemMsg) :
    ((bus.enqueue r master msg).region r').queue m =
      if r' = r ∧ m = master then (bus.region r').queue m ++ [msg]
      else (bus.region r').queue m := by
  unfold enqueue
  rw [region_setRegion]
  by_cases hr : r' = r
  · subst hr
    by_cases hm : m = master
    · simp [hm]
    · simp [hm]
  · simp [hr]

@[simp] lemma active_enqueue (r r' : config.RegionIndex) (master : config.Master)
    (msg : MemV1.MemMsg) :
    ((bus.enqueue r master msg).region r').active = (bus.region r').active := by
  unfold enqueue
  rw [region_setRegion]
  split_ifs with hr
  · rw [hr, RegionState.active_setQueue]
  · rfl

@[simp] lemma rrCursor_enqueue (r r' : config.RegionIndex) (master : config.Master)
    (msg : MemV1.MemMsg) :
    ((bus.enqueue r master msg).region r').rrCursor = (bus.region r').rrCursor := by
  unfold enqueue
  rw [region_setRegion]
  split_ifs with hr
  · rw [hr, RegionState.rrCursor_setQueue]
  · rfl

@[simp] lemma nextDownstream_enqueue (r : config.RegionIndex) (master : config.Master)
    (msg : MemV1.MemMsg) : (bus.enqueue r master msg).nextDownstream = bus.nextDownstream := rfl

def request (master : config.Master) (msg : MemV1.MemMsg) : Handler (MultiMasterBus config) :=
  match requestTxn msg, msg.access with
  | some (txn, _), some access =>
    .phase fun phase =>
      if phase ≠ .request then bus.reject "multi-master bus: request arrived outside REQUEST"
      else if bus.isLive master txn then
        bus.reject "multi-master bus: master reuses a queued or active txn"
      else
        match access with
        | .empty => bus.reject "multi-master bus: zero-length request"
        | .outOfRange => bus.fault master msg
        | .bytes first last =>
          match config.route first last with
          | none => bus.fault master msg
          | some r =>
            let offset := first - (config.regions.get r).base
            -- The request is queued before the wake, and stays if the wake is refused.
            .wakeSelf .now .transfer arbitrateToken fun result =>
              .done result (bus.enqueue r master (atOffset offset msg))
  | _, _ => bus.reject "multi-master bus: response on a master port"

/-! ## Arbitration -/

/-- A request that is forwarded. -/
structure Grant (config : MultiMasterBusConfig) where
  region : config.RegionIndex
  master : config.Master
  /-- As it was queued. -/
  request : MemV1.MemMsg
  originalTxn : TxnId
  write : Bool
  downstreamTxn : TxnId
  deriving DecidableEq

/-- What a grant leaves in its region. -/
def Grant.active (g : Grant config) : ActiveTxn config.masters.length where
  master := g.master
  originalTxn := g.originalTxn
  downstreamTxn := g.downstreamTxn
  write := g.write

/-- The bus after a grant. -/
def grant (g : Grant config) : MultiMasterBus config :=
  { bus.setRegion g.region
      { active := some g.active
        queues := (bus.region g.region).queues.set g.master
          ((bus.region g.region).queue g.master).tail
        rrCursor := RegionState.cursorAfter g.master } with
    nextDownstream := bus.nextDownstream + 1 }

@[simp] lemma region_grant (bus : MultiMasterBus config) (g : Grant config)
    (r : config.RegionIndex) :
    (bus.grant g).region r =
      if r = g.region then
        { active := some g.active
          queues := (bus.region g.region).queues.set g.master
            ((bus.region g.region).queue g.master).tail
          rrCursor := RegionState.cursorAfter g.master }
      else bus.region r :=
  Vector.get_set _ _ _ _

/-- Arbitrates the regions of a list, in order. -/
def arbitrateFrom : List config.RegionIndex → MultiMasterBus config →
    Handler (MultiMasterBus config)
  | [], bus => .done (.ok ()) bus
  | r :: rest, bus =>
    let state := bus.region r
    if state.active.isSome then arbitrateFrom rest bus
    else
      match state.select with
      | none => arbitrateFrom rest bus
      | some master =>
        if bus.nextDownstream.toNat + 1 = 2 ^ 64 then
          bus.reject "multi-master bus: downstream TxnId space exhausted"
        else
          match state.queue master with
          | [] => bus.reject "select returns a master with a queued request"
          | request :: _ =>
            match requestTxn request with
            | none => bus.reject "only requests are queued"
            | some (originalTxn, write) =>
              let g : Grant config :=
                { region := r, master, request, originalTxn, write
                  downstreamTxn := bus.nextDownstream }
              .send (config.regionPort r) (.memV1 (withTxn g.downstreamTxn request)) .now
                .transfer fun
                | .error e => .done (.error e) bus
                | .ok () =>
                  .trace grantKind
                    [("region", .u64 (UInt64.ofNat r)), ("master", .u64 (UInt64.ofNat master)),
                      ("txn", .u64 originalTxn), ("downstream_txn", .u64 g.downstreamTxn)] <|
                    arbitrateFrom rest (bus.grant g)

/-- One arbitration pass: at most one grant per idle region, in region order. -/
def arbitrate : Handler (MultiMasterBus config) :=
  .phase fun phase =>
    if phase ≠ .transfer then bus.reject "multi-master bus: arbitration outside TRANSFER"
    else arbitrateFrom (List.finRange config.regions.length) bus

/-! ## Responses -/

/-- The bus with a region freed. -/
def release (r : config.RegionIndex) : MultiMasterBus config :=
  bus.setRegion r { bus.region r with active := none }

@[simp] lemma queue_release (r r' : config.RegionIndex) (m : config.Master) :
    ((bus.release r).region r').queue m = (bus.region r').queue m := by
  unfold release
  rw [region_setRegion]
  split_ifs with hr
  · rw [hr]
    rfl
  · rfl

lemma active_release (r r' : config.RegionIndex) :
    ((bus.release r).region r').active = if r' = r then none else (bus.region r').active := by
  unfold release
  rw [region_setRegion]
  split_ifs <;> rfl

@[simp] lemma rrCursor_release (r r' : config.RegionIndex) :
    ((bus.release r).region r').rrCursor = (bus.region r').rrCursor := by
  unfold release
  rw [region_setRegion]
  split_ifs with hr
  · rw [hr]
  · rfl

@[simp] lemma nextDownstream_release (r : config.RegionIndex) :
    (bus.release r).nextDownstream = bus.nextDownstream := rfl

/-- Relays a response of the given transaction and kind. -/
def relay (r : config.RegionIndex) (txn : TxnId) (write : Bool) (msg : MemV1.MemMsg) :
    Handler (MultiMasterBus config) :=
  .phase fun phase =>
    if phase ≠ .complete then bus.reject "multi-master bus: response arrived outside COMPLETE"
    else
      match (bus.region r).active.filter fun a => a.downstreamTxn = txn with
      | none => bus.reject "multi-master bus: response does not match the region's active txn"
      | some active =>
        if active.write ≠ write then bus.reject "multi-master bus: response kind mismatch"
        else
          let again := (bus.region r).hasQueued
          .send (config.masterPort active.master) (.memV1 (withTxn active.originalTxn msg)) .now
            .complete fun
            | .error e => .done (.error e) bus
            | .ok () =>
              if again then
                .wakeSelf (.cycles config.clock 1) .transfer arbitrateToken fun result =>
                  .done result (bus.release r)
              else .done (.ok ()) (bus.release r)

def response (r : config.RegionIndex) (msg : MemV1.MemMsg) : Handler (MultiMasterBus config) :=
  match msg with
  | .readResp txn _ => bus.relay r txn false msg
  | .writeResp txn _ => bus.relay r txn true msg
  | .readReq .. | .writeReq .. => bus.reject "multi-master bus: request on a region port"

/-! ## The component -/

/-- Masters first, then regions, in the order of the configuration. -/
def ports (_ : MultiMasterBus config) : List PortSpec :=
  (config.masters.map fun name => { name, protocol := memV1Protocol, role := .target }) ++
    config.regions.map fun r => { name := r.name, protocol := memV1Protocol, role := .initiator }

def init : Handler (MultiMasterBus config) := .done (.ok ()) bus

def handleEvent : Delivered → Handler (MultiMasterBus config)
  | .message port (.memV1 msg) =>
    if hm : port.toNat < config.masters.length then bus.request ⟨port.toNat, hm⟩ msg
    else if hr : port.toNat - config.masters.length < config.regions.length then
      bus.response ⟨port.toNat - config.masters.length, hr⟩ msg
    else bus.reject "multi-master bus: unknown port"
  | .message _ (.mem _) => bus.reject "multi-master bus: mem.v0 message"
  | .message _ (.irq _) | .message _ (.block _) =>
    bus.reject "multi-master bus: non-mem message"
  | .wake token =>
    if token = arbitrateToken then bus.arbitrate
    else bus.reject "multi-master bus: unexpected wake"

/-- What is shown of a region. -/
def inspectRegion (state : RegionState config.masters.length) : String :=
  let active := match state.active with
    | none => "none"
    | some a => toString a.master.val
  let queued := state.queues.toList.map fun q => toString q.length
  "active=" ++ active ++ " rr_cursor=" ++ toString state.rrCursor.val ++ " queued=" ++
    ",".intercalate queued

def inspect : StateView where
  fields :=
    [("masters", .u64 (UInt64.ofNat config.masters.length)),
      ("regions", .u64 (UInt64.ofNat config.regions.length)),
      ("next_downstream_txn", .u64 bus.nextDownstream)] ++
    (config.regions.zip bus.regions.toList).map fun (r, state) =>
      (r.name, .str (inspectRegion state))

end MultiMasterBus

end SystemScope.Platform
