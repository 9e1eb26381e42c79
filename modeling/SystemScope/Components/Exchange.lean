import SystemScope.Contracts.CanonicalLaws
import SystemScope.Framework.Runs
import SystemScope.Runtime.Topology

/-!
# A requester and a responder

The topology that the runtime's own tests trace (`runtime/tests/trace.rs`): a requester sends one
read when it is initialized, over a link with a latency, and a responder answers it.  Neither has
a state.
-/

namespace SystemScope

/-- The two components. -/
inductive Exchange
  | requester
  | responder
  deriving DecidableEq, Repr

namespace Exchange

def ports : Exchange → List PortSpec
  | requester => [⟨"mem", memV0Protocol, .initiator⟩]
  | responder => [⟨"mem", memV0Protocol, .target⟩]

def init : Exchange → Handler Exchange
  | requester =>
    .trace "req.init" [("n", .u64 1)] <|
      .send 0 (.mem (.readReq 9 0x40 2)) .now .request fun result => .done result requester
  | responder => .done (.ok ()) responder

def handleEvent : Exchange → Delivered → Handler Exchange
  | requester, .wake _ => .done (.ok ()) requester
  | requester, .message .. =>
    .trace "req.done" [] <| .wakeSelf .now .commit 5 fun result => .done result requester
  | responder, .wake _ => .trace "resp.got" [("first", .bool true)] <| .done (.ok ()) responder
  | responder, .message port _ =>
    .trace "resp.got" [("first", .bool true)] <|
      .send port (.mem (.readResp 9 [0xDE, 0xAD])) (.after ⟨10 * 10 ^ 6⟩) .complete
        fun result => .done result responder

instance : Component Exchange where
  typeName
    | requester => "test.requester"
    | responder => "test.responder"
  ports
  init
  handleEvent
  snapshotSchemaVersion _ := 0
  snapshot _ := []
  restore c bs _ := (c, .ok bs)
  inspect _ := ⟨[]⟩

/-- The default resolution: one tick is a picosecond. -/
def clock : SimulationClock := ⟨1000000000000⟩

scoped instance : Contracts := Canonical.contracts clock.ticksPerSecond.toNat

/-- A link latency in nanoseconds. -/
def latency (ns : ℕ) : Option LinkLatency := some (.after ⟨ns * 10 ^ 6⟩)

/-- The two components, linked with a latency in nanoseconds. -/
def topology (ns : ℕ) : TopologyBuilder Exchange where
  clock
  domains := []
  components := [⟨"req", requester⟩, ⟨"resp", responder⟩]
  links := [⟨(0, "mem"), (1, "mem"), latency ns⟩]
  ids_fit := by decide

/-- The session settings of the tests. -/
def config : SessionConfig := ⟨77, ⟨1000000⟩⟩

/-- The session this topology elaborates to: each port's peer is the other component's. -/
def session (ns : ℕ) : Runtime Exchange :=
  .fromElaboration clock []
    [⟨"req", requester.ports, requester⟩, ⟨"resp", responder.ports, responder⟩]
    [[⟨1, 0, latency ns⟩], [⟨0, 0, latency ns⟩]] [⟨(0, 0), (1, 0), latency ns⟩] config

lemma elaborate_topology (ns : ℕ) : (topology ns).elaborate config = .ok (session ns) := rfl

/-- The session run to its end, with an observe point between the request and the answer. -/
def observed : Runtime Exchange :=
  (Machine.exec Runtime.call (session 1) [.init, .observeAt 5000, .run 20000]).2

def request : Sent :=
  ⟨0, 0, .mem (.readReq 9 0x40 2), .now, .request, ⟨1000, .request, 0⟩⟩

def answer : Sent :=
  ⟨1, 0, .mem (.readResp 9 [0xDE, 0xAD]), .after ⟨10 * 10 ^ 6⟩, .complete, ⟨12000, .complete, 1⟩⟩

/-- What happens, at the ticks the tests expect. -/
lemma observed_journal :
    observed.journal =
      [.sent request, .registered 5000 0, .dispatched ⟨request.key, 0, 1, .message 0 request.msg⟩,
        .sent answer, .fired 5000, .dispatched ⟨answer.key, 1, 0, .message 0 answer.msg⟩,
        .dispatched ⟨⟨12000, .commit, 2⟩, 0, 0, .wake 5⟩] := by
  decide +kernel

end Exchange

end SystemScope
