import SystemScope.Contracts.Draws
import SystemScope.Framework.Tables
import Std.Data.ExtTreeMap

/-!
# The toy bus

`components/toy/src/bus.rs`: an interconnect that merges two initiators onto one memory port.
Requests queue per upstream port, a wake grants one of them in each bus cycle, and the two ports
take turns when both have requests.  Forwarded requests carry transactions of the bus, which lead
their responses back.

A queue holds requests only, which is part of its type; the source says so where it takes them
out. -/

namespace SystemScope

/-- Timing of a bus. -/
structure ToyBusConfig where
  /-- The clock the bus arbitrates on. -/
  clock : ClockDomainId
  deriving DecidableEq, Repr

namespace ToyBus

/-- Number of upstream ports, which come first. -/
abbrev upstream : ℕ := 2

scoped instance : NeZero upstream := ⟨by decide⟩

/-- An upstream port. -/
abbrev Upstream := Fin upstream

/-- Initiator port facing the memory. -/
def memPort : PortId := 2

/-- Wake token that runs one arbitration. -/
def arbitrateToken : UInt64 := 0

/-- The port of an upstream side. -/
def upstreamPort (side : Upstream) : PortId := UInt16.ofNat side

/-- The upstream side of a port, if it is one. -/
def side? (port : PortId) : Option Upstream :=
  if h : port.toNat < upstream then some ⟨port.toNat, h⟩ else none

/-- The transaction of a request and whether it is a write, or nothing for a response. -/
def requestTxn : MemMsg → Option (TxnId × Bool)
  | .readReq txn _ _ => some (txn, false)
  | .writeReq txn _ _ => some (txn, true)
  | .readResp .. | .writeResp .. => none

/-- A message with its transaction replaced. -/
def withTxn (txn : TxnId) : MemMsg → MemMsg
  | .readReq _ addr len => .readReq txn addr len
  | .writeReq _ addr data => .writeReq txn addr data
  | .readResp _ data => .readResp txn data
  | .writeResp _ => .writeResp txn

/-- A message that is a request. -/
abbrev Request := { msg : MemMsg // (requestTxn msg).isSome }

namespace Request

/-- The transaction of a request, and whether it is a write. -/
def kind (r : Request) : TxnId × Bool := (requestTxn r.val).get r.property

/-- The request in a message, if it is one. -/
def of? (msg : MemMsg) : Option Request :=
  if h : (requestTxn msg).isSome then some ⟨msg, h⟩ else none

end Request

/-- Where the response to a forwarded request goes. -/
structure Route where
  port : Upstream
  /-- The initiator's own transaction. -/
  txn : TxnId
  write : Bool
  deriving DecidableEq, Repr

end ToyBus

open ToyBus in
/-- A two-initiator, round-robin interconnect. -/
@[ext]
structure ToyBus (config : ToyBusConfig) where
  /-- Requests waiting for a grant, in arrival order. -/
  queues : Vector (List Request) upstream
  /-- The side that wins when both have requests. -/
  priority : Upstream
  arbitrationScheduled : Bool
  nextDownstream : TxnId
  /-- Forwarded requests awaiting a response, by the transaction of the bus. -/
  routes : Std.ExtTreeMap TxnId Route

namespace ToyBus

/-- An idle bus. -/
def new (config : ToyBusConfig) : ToyBus config where
  queues := Vector.replicate _ []
  priority := 0
  arbitrationScheduled := false
  nextDownstream := 0
  routes := ∅

variable {config : ToyBusConfig} (bus : ToyBus config)

/-- Faults the session. -/
def reject (what : String) : Handler (ToyBus config) :=
  .done (.error (.componentFault what)) bus

/-! ## Arbitration -/

/-- Schedules an arbitration `cycles` edges from now. -/
def scheduleArbitration (cycles : UInt64) : Handler (ToyBus config) :=
  .wakeSelf (.cycles config.clock cycles) .transfer arbitrateToken fun
    | .error e => .done (.error e) bus
    | .ok () => .done (.ok ()) { bus with arbitrationScheduled := true }

/-- Whether a side has requests. -/
def waiting (side : Upstream) : Bool := !(bus.queues.get side).isEmpty

/-- The side that is granted, if any has requests. -/
def winner : Option Upstream :=
  match bus.waiting 0, bus.waiting 1 with
  | true, true => some bus.priority
  | true, false => some 0
  | false, true => some 1
  | false, false => none

/-- The trace record of a grant. -/
def grantKind : String := "toy.bus.grant"

/-- The bus with the head of a queue taken off and routed. -/
def granted (side : Upstream) (request : Request) (rest : List Request) : ToyBus config :=
  { bus with
    priority := 1 - side
    queues := bus.queues.set side rest side.isLt
    nextDownstream := bus.nextDownstream + 1
    routes := bus.routes.insert bus.nextDownstream
      { port := side, txn := request.kind.1, write := request.kind.2 } }

/-- Grants one request and goes on. -/
def arbitrate (k : ToyBus config → Handler (ToyBus config)) : Handler (ToyBus config) :=
  match bus.winner with
  | none => k bus
  | some side =>
    match bus.queues.get side with
    -- The source expects a request here: the winner has one.
    | [] => k bus
    | request :: rest =>
      let next := bus.granted side request rest
      .send memPort (.mem (withTxn bus.nextDownstream request.val)) .now .transfer fun
        | .error e => .done (.error e) next
        | .ok () =>
          .trace grantKind
            [("port", .u64 (UInt64.ofNat side)), ("txn", .u64 request.kind.1),
              ("downstream", .u64 bus.nextDownstream),
              ("contended", .bool (bus.waiting 0 && bus.waiting 1))] <|
            k next

/-! ## Responses -/

/-- The trace record of a response on its way back. -/
def routeKind : String := "toy.bus.route"

/-- Leads a response of the given kind back, in the phase it arrived in. -/
def routeBack (downstream : TxnId) (write : Bool) (msg : MemMsg) : Handler (ToyBus config) :=
  match bus.routes[downstream]? with
  | none => bus.reject "toy bus: response for unknown txn"
  | some route =>
    let next := { bus with routes := bus.routes.erase downstream }
    if route.write ≠ write then next.reject "toy bus: response kind mismatch"
    else
      .phase fun phase =>
        .send (upstreamPort route.port) (.mem (withTxn route.txn msg)) .now phase fun
          | .error e => .done (.error e) next
          | .ok () =>
            .trace routeKind
              [("downstream", .u64 downstream), ("port", .u64 (UInt64.ofNat route.port)),
                ("txn", .u64 route.txn)] <|
              .done (.ok ()) next

def route (msg : MemMsg) : Handler (ToyBus config) :=
  match msg with
  | .readResp txn _ => bus.routeBack txn false msg
  | .writeResp txn => bus.routeBack txn true msg
  | .readReq .. | .writeReq .. => bus.reject "toy bus: request on the memory port"

/-! ## Requests -/

/-- Queues a request of a side, and arbitrates at the next edge unless that is scheduled. -/
def queue (side : Upstream) (request : Request) : Handler (ToyBus config) :=
  let next :=
    { bus with queues := bus.queues.set side (bus.queues.get side ++ [request]) side.isLt }
  if next.arbitrationScheduled then .done (.ok ()) next else next.scheduleArbitration 0

def request (port : PortId) (msg : MemMsg) : Handler (ToyBus config) :=
  match Request.of? msg with
  | none => bus.reject "toy bus: response on an upstream port"
  | some request =>
    .phase fun phase =>
      if phase ≠ .request then bus.reject "toy bus: request arrived after REQUEST"
      else
        match side? port with
        | none => bus.reject "toy bus: unknown port"
        | some side => bus.queue side request

/-! ## The component -/

/-- After an arbitration: the next one, if requests are left. -/
def arbitrateAgain : Handler (ToyBus config) :=
  if bus.waiting 0 || bus.waiting 1 then bus.scheduleArbitration 1 else .done (.ok ()) bus

def handleEvent : Delivered → Handler (ToyBus config)
  | .wake token =>
    if token = arbitrateToken then
      arbitrate { bus with arbitrationScheduled := false } arbitrateAgain
    else bus.reject "toy bus: unknown wake token"
  | .message port (.mem msg) => if port = memPort then bus.route msg else bus.request port msg
  | .message _ (.memV1 _) => bus.reject "toy bus: mem.v1 message"
  | .message _ (.irq _) | .message _ (.block _) => bus.reject "toy bus: non-mem message"

def init : Handler (ToyBus config) := .done (.ok ()) bus

def ports (_ : ToyBus config) : List PortSpec :=
  [{ name := "cpu", protocol := memV0Protocol, role := .target },
    { name := "dma", protocol := memV0Protocol, role := .target },
    { name := "mem", protocol := memV0Protocol, role := .initiator }]

def inspect : StateView where
  fields :=
    [("queued_cpu", .u64 (UInt64.ofNat (bus.queues.get 0).length)),
      ("queued_dma", .u64 (UInt64.ofNat (bus.queues.get 1).length)),
      ("priority", .u64 (UInt64.ofNat bus.priority)), ("next_downstream", .u64 bus.nextDownstream),
      ("routes", .u64 (UInt64.ofNat bus.routes.size))]

end ToyBus

end SystemScope
