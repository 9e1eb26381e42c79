import SystemScope.Platform.AddressDecoding
import SystemScope.Platform.BusSteps

/-!
# The address bus between an initiator and its targets

The bus and the requests that its targets have not answered yet, as one machine (`Net`).  An action
is a new request of the initiator or an answer of a target, in whichever phase; the schedule is a
list of actions, so that every order and every delay is one of its runs.

`Accounts` is what a run must look like from outside: every request that was received has a
`Ticket`, and what was forwarded, answered and responded is what the tickets say, each of it
once. -/

namespace SystemScope.Platform

open MemV1

namespace AddressBus

open MultiMasterBus (accessFault surroundings)

variable {regions : List Region}

/-! ## The machine -/

/-- The bus in its surroundings, and everything that happened so far. -/
structure Net (regions : List Region) where
  bus : AddressBus regions
  /-- The forwarded requests that are not answered yet. -/
  atTargets : List (Fin regions.length × MemV1.MemMsg)
  /-- The transactions that have no response yet. -/
  awaiting : List TxnId
  received : List MemV1.MemMsg
  forwarded : List (Fin regions.length × MemV1.MemMsg)
  answered : List (Fin regions.length × MemV1.MemMsg)
  responded : List MemV1.MemMsg
  /-- Whatever else the bus asked for. -/
  stray : List Call

/-- What can happen next. -/
inductive Action (regions : List Region)
  | request (msg : MemV1.MemMsg)
  | answer (phase : Phase) (r : Fin regions.length) (request answer : MemV1.MemMsg)

/-- The answer to a request: of its transaction and its kind. -/
def Answers : MemV1.MemMsg → MemV1.MemMsg → Prop
  | .readResp txn _, .readReq txn' _ _ => txn = txn'
  | .writeResp txn _, .writeReq txn' _ _ => txn = txn'
  | _, _ => False

namespace Net

/-- Before anything was received. -/
def start (bus : AddressBus regions) : Net regions where
  bus
  atTargets := []
  awaiting := []
  received := []
  forwarded := []
  answered := []
  responded := []
  stray := []

/-- Carries out what the bus asks for. -/
def post (net : Net regions) : Call → Net regions
  | .sent port (.memV1 msg) when_ phase =>
    if port = cpuPort ∧ when_ = .now then
      { net with
        responded := net.responded ++ [msg]
        awaiting := net.awaiting.erase msg.txn }
    else if h : port.toNat - 1 < regions.length ∧ when_ = .now ∧ phase = .transfer then
      { net with
        forwarded := net.forwarded ++ [(⟨port.toNat - 1, h.1⟩, msg)]
        atTargets := net.atTargets ++ [(⟨port.toNat - 1, h.1⟩, msg)] }
    else { net with stray := net.stray ++ [.sent port (.memV1 msg) when_ phase] }
  | .traced .. => net
  | call => { net with stray := net.stray ++ [call] }

/-- Delivers an event to the bus and carries out what it asks for. -/
def deliver (net : Net regions) (phase : Phase) (delivery : Delivered) :
    Except SimError Unit × Net regions :=
  match (net.bus.handleEvent delivery).perform (surroundings phase) with
  | (calls, result, bus) => (result, calls.foldl post { net with bus })

/-- What the initiator and the targets may do: it sends well-formed requests without reusing a
transaction that has no response yet, and they answer what was forwarded to them. -/
def Allowed (net : Net regions) : Action regions → Prop
  | .request msg => msg.WellFormed ∧ msg.txn ∉ net.awaiting
  | .answer _ r request answer => (r, request) ∈ net.atTargets ∧ Answers answer request

/-- One step: requests arrive in `Request`, answers in any phase. -/
def step (net : Net regions) : Action regions → Except SimError Unit × Net regions
  | .request msg =>
    { net with received := net.received ++ [msg], awaiting := net.awaiting ++ [msg.txn] }
      |>.deliver .request (.message cpuPort (.memV1 msg))
  | .answer phase r request answer =>
    { net with
      atTargets := net.atTargets.erase (r, request)
      answered := net.answered ++ [(r, answer)] }
      |>.deliver phase (.message (regionPort r) (.memV1 answer))

/-- Runs in which the initiator and the targets do what they may. -/
inductive Reaches (bus : AddressBus regions) : Net regions → Prop
  | start : Reaches bus (start bus)
  | step {net net' : Net regions} {action : Action regions} (h : Reaches bus net)
      (hallowed : net.Allowed action) (hstep : net.step action = (.ok (), net')) :
      Reaches bus net'

end Net

/-! ## Accounts -/

/-- What has become of a request. -/
inductive Fate (regions : List Region)
  | refused
  | forwarded (r : Fin regions.length)
  | done (r : Fin regions.length) (answer : MemV1.MemMsg)

/-- A request and what has become of it. -/
structure Ticket (regions : List Region) where
  request : MemV1.MemMsg
  fate : Fate regions

/-- The request at its address in a region. -/
def toRegion (r : Fin regions.length) : MemV1.MemMsg → MemV1.MemMsg
  | .readReq txn addr len => .readReq txn (addr - (regions.get r).base) len
  | .writeReq txn addr data => .writeReq txn (addr - (regions.get r).base) data
  | msg => msg

namespace Ticket

variable (t : Ticket regions)

/-- Requests are in the region that contains them, and refused if there is none; and the answer of a
target is to what was forwarded to it. -/
def Placed : Prop :=
  match t.fate with
  | .refused => ∀ r, ¬(regions.get r).Contains t.request
  | .forwarded r => (regions.get r).Contains t.request
  | .done r answer => (regions.get r).Contains t.request ∧ Answers answer (toRegion r t.request)

/-- What was forwarded of the request. -/
def forwarded : Option (Fin regions.length × MemV1.MemMsg) :=
  match t.fate with
  | .forwarded r | .done r _ => some (r, toRegion r t.request)
  | .refused => none

/-- What is at the target of the request. -/
def atTarget : Option (Fin regions.length × MemV1.MemMsg) :=
  match t.fate with
  | .forwarded r => some (r, toRegion r t.request)
  | .refused | .done .. => none

/-- What the target has answered. -/
def answered : Option (Fin regions.length × MemV1.MemMsg) :=
  match t.fate with
  | .done r answer => some (r, answer)
  | .refused | .forwarded _ => none

/-- The response to the request: the answer of the target as it came, or an access fault. -/
def responded : Option MemV1.MemMsg :=
  match t.fate with
  | .refused => some (accessFault t.request)
  | .done _ answer => some answer
  | .forwarded _ => none

/-- The transaction of a request without a response. -/
def awaiting : Option TxnId :=
  match t.fate with
  | .forwarded _ => some t.request.txn
  | .refused | .done .. => none

/-- The request has its response. -/
def Finished : Prop :=
  match t.fate with
  | .refused | .done .. => True
  | .forwarded _ => False

end Ticket

/-- The tickets account for everything that happened: each request received has one, and what was
forwarded, answered and responded is what the tickets say, each of it once. -/
structure Accounts (net : Net regions) (tickets : List (Ticket regions)) : Prop where
  received : net.received = tickets.map Ticket.request
  placed : ∀ t ∈ tickets, t.Placed
  forwarded : net.forwarded.Perm (tickets.filterMap Ticket.forwarded)
  answered : net.answered.Perm (tickets.filterMap Ticket.answered)
  responded : net.responded.Perm (tickets.filterMap Ticket.responded)
  stray : net.stray = []

/-! ## Ports and routes -/

lemma toNat_regionPort (h : Accepted regions) (r : Fin regions.length) :
    (regionPort r).toNat = r.val + 1 := by
  have hcount := h.count
  have hr := r.isLt
  exact UInt16.toNat_ofNat_of_lt' (show _ < 2 ^ 16 by omega)

lemma regionPort_ne_cpuPort (h : Accepted regions) (r : Fin regions.length) :
    regionPort r ≠ cpuPort := by
  intro heq
  have hport := toNat_regionPort h r
  rw [heq] at hport
  exact absurd hport (Nat.succ_ne_zero r.val).symm

namespace Net

lemma post_response (net : Net regions) (msg : MemV1.MemMsg) (phase : Phase) :
    net.post (.sent cpuPort (.memV1 msg) .now phase) =
      { net with responded := net.responded ++ [msg], awaiting := net.awaiting.erase msg.txn } := by
  unfold post
  dsimp only
  exact if_pos ⟨rfl, rfl⟩

lemma post_forward (h : Accepted regions) (net : Net regions) (r : Fin regions.length)
    (msg : MemV1.MemMsg) :
    net.post (.sent (regionPort r) (.memV1 msg) .now .transfer) =
      { net with forwarded := net.forwarded ++ [(r, msg)],
                 atTargets := net.atTargets ++ [(r, msg)] } := by
  have hport := toNat_regionPort h r
  have hlt : (regionPort r).toNat - 1 < regions.length ∧
      (ScheduleWhen.now = .now ∧ Phase.transfer = .transfer) := ⟨by have := r.isLt; omega, rfl, rfl⟩
  have hr : (⟨(regionPort r).toNat - 1, hlt.1⟩ : Fin regions.length) = r := Fin.ext (by
    show (regionPort r).toNat - 1 = r.val
    omega)
  unfold post
  dsimp only
  rw [if_neg fun hcpu => regionPort_ne_cpuPort h r hcpu.1, dif_pos hlt, hr]

end Net

/-- Where a request goes: its region and its offset there. -/
def routed (regions : List Region) (msg : MemV1.MemMsg) : Option (Fin regions.length) :=
  match msg.access with
  | some (.bytes first last) => route regions first last
  | _ => none

lemma routed_eq_some (h : Accepted regions) {msg : MemV1.MemMsg} {r : Fin regions.length} :
    routed regions msg = some r ↔ (regions.get r).Contains msg := by
  unfold routed
  constructor
  · intro hrouted
    cases haccess : msg.access with
    | none =>
      rw [haccess] at hrouted
      cases hrouted
    | some access =>
      rw [haccess] at hrouted
      cases access with
      | empty => cases hrouted
      | outOfRange => cases hrouted
      | bytes first last =>
        obtain ⟨size, hspans, hpos, hlast⟩ := access_eq_bytes.mp haccess
        have hle : first ≤ last := UInt64.le_iff_toNat_le.mpr (by omega)
        obtain ⟨hbase, hend⟩ := (Region.holdsAll_iff hle).mp ((route_eq_some h hle).mp hrouted)
        exact ⟨first.toNat, size, hspans, hpos, hbase, by omega⟩
  · rintro ⟨first, size, hspans, hpos, hbase, hend⟩
    have hfits := (h.region_fits r).2
    have hfirst : (UInt64.ofNat first).toNat = first :=
      UInt64.toNat_ofNat_of_lt' (show first < 2 ^ 64 by omega)
    have hlast : (UInt64.ofNat (first + size - 1)).toNat = first + size - 1 :=
      UInt64.toNat_ofNat_of_lt' (show first + size - 1 < 2 ^ 64 by omega)
    have haccess :
      msg.access = some (.bytes (UInt64.ofNat first) (UInt64.ofNat (first + size - 1))) :=
      access_eq_bytes.mpr ⟨size, hfirst.symm ▸ hspans, hpos, by omega⟩
    have hle : UInt64.ofNat first ≤ UInt64.ofNat (first + size - 1) :=
      UInt64.le_iff_toNat_le.mpr (by omega)
    rw [haccess]
    exact (route_eq_some h hle).mpr ((Region.holdsAll_iff hle).mpr ⟨by omega, by omega⟩)

lemma routed_eq_none (h : Accepted regions) {msg : MemV1.MemMsg} :
    routed regions msg = none ↔ ∀ r, ¬(regions.get r).Contains msg := by
  rw [Option.eq_none_iff_forall_ne_some]
  exact forall_congr' fun r => not_congr (routed_eq_some h)

end AddressBus

end SystemScope.Platform
