import SystemScope.Platform.BusSteps

/-!
# The bus between masters and targets

On an accepted configuration a request is routed to the region that contains it, and a request that
is routed nowhere is in no region.  The bus, the wakes the runtime owes it and the requests its
targets have not answered yet are one machine (`Net`).  An action delivers one of them, or a new
request of a master; the schedule is a list of actions, so that every interleaving and every delay
is one of its runs.

`Accounts` is what a run must look like from outside: every request that was received has a
`Ticket`, which says where it is, and what was forwarded, answered and responded is what the tickets
say, each of it once.
-/

namespace SystemScope.Platform

open MemV1

namespace MultiMasterBus

variable {config : MultiMasterBusConfig}

lemma requestTxn_atOffset (offset : UInt64) (msg : MemV1.MemMsg) :
    requestTxn (atOffset offset msg) = requestTxn msg := by
  cases msg <;> rfl

lemma requestTxn_of_wellFormed {msg : MemV1.MemMsg} (h : msg.WellFormed) :
    ∃ write, requestTxn msg = some (msg.txn, write) := by
  obtain ⟨access, haccess, -⟩ := wellFormed_iff_access.mp h
  rcases requestTxn_cases msg with ⟨write, _, htxn, -⟩ | ⟨-, hnone⟩
  · exact ⟨write, htxn⟩
  · rw [hnone] at haccess
    cases haccess

lemma spans_unique {msg : MemV1.MemMsg} {first first' size size' : ℕ} (h : msg.Spans first size)
    (h' : msg.Spans first' size') : first = first' ∧ size = size' := by
  cases msg with
  | readReq => exact ⟨h.1.symm.trans h'.1, h.2.symm.trans h'.2⟩
  | writeReq => exact ⟨h.1.symm.trans h'.1, h.2.symm.trans h'.2⟩
  | readResp => cases h
  | writeResp => cases h

lemma routed_eq_some (hconfig : config.Accepted) {msg : MemV1.MemMsg} {r : config.RegionIndex}
    {offset : UInt64} :
    routed config msg = some (r, offset) ↔
      (config.regions.get r).Contains msg ∧
        ∃ first : UInt64, (∃ size, msg.Spans first.toNat size) ∧
          offset = first - (config.regions.get r).base := by
  unfold routed
  constructor
  · intro h
    split at h
    next first last haccess =>
      obtain ⟨r', hroute, heq⟩ := Option.map_eq_some_iff.mp h
      obtain ⟨size, hspans, hpos, hlast⟩ := access_eq_bytes.mp haccess
      obtain ⟨rfl, rfl⟩ := Prod.mk.inj heq
      have hle : first ≤ last := UInt64.le_iff_toNat_le.mpr (by omega)
      obtain ⟨hbase, hend⟩ := (hconfig.route_eq_some hle).mp hroute
      exact ⟨⟨first.toNat, size, hspans, hpos, hbase, by omega⟩, first, ⟨size, hspans⟩, rfl⟩
    next => cases h
  · rintro ⟨⟨first', size, hspans', hpos, hbase, hend⟩, first, ⟨size', hspans⟩, rfl⟩
    obtain ⟨rfl, rfl⟩ := spans_unique hspans hspans'
    have hfits := (hconfig.region_fits r).2
    have hlast : (UInt64.ofNat (first.toNat + size' - 1)).toNat = first.toNat + size' - 1 :=
      UInt64.toNat_ofNat_of_lt' (by
        show first.toNat + size' - 1 < 2 ^ 64
        omega)
    have haccess : msg.access = some (.bytes first (UInt64.ofNat (first.toNat + size' - 1))) :=
      access_eq_bytes.mpr ⟨size', hspans, hpos, by omega⟩
    have hle : first ≤ UInt64.ofNat (first.toNat + size' - 1) :=
      UInt64.le_iff_toNat_le.mpr (by omega)
    have hroute : config.route first (UInt64.ofNat (first.toNat + size' - 1)) = some r :=
      (hconfig.route_eq_some hle).mpr ⟨hbase, by omega⟩
    simp [haccess, hroute]

lemma routed_eq_none (hconfig : config.Accepted) {msg : MemV1.MemMsg} :
    routed config msg = none ↔ ∀ r, ¬(config.regions.get r).Contains msg := by
  constructor
  · rintro hnone r ⟨first, size, hspans, hpos, hbase, hend⟩
    have hfits := (hconfig.region_fits r).2
    have hfirst : (UInt64.ofNat first).toNat = first := UInt64.toNat_ofNat_of_lt' (by
      show first < 2 ^ 64
      omega)
    have hsome := (routed_eq_some hconfig).mpr
      ⟨⟨first, size, hspans, hpos, hbase, hend⟩, UInt64.ofNat first, ⟨size, by rwa [hfirst]⟩, rfl⟩
    rw [hnone] at hsome
    cases hsome
  · intro hno
    cases hrouted : routed config msg with
    | none => rfl
    | some p =>
      obtain ⟨r, offset⟩ := p
      exact absurd ((routed_eq_some hconfig).mp hrouted).1 (hno r)

/-- A routed request is inside its region, its address being the offset. -/
lemma spans_atOffset (hconfig : config.Accepted) {msg : MemV1.MemMsg} {r : config.RegionIndex}
    {offset : UInt64} (h : routed config msg = some (r, offset)) :
    ∃ size, (atOffset offset msg).Spans offset.toNat size ∧ 0 < size ∧
      offset.toNat + size ≤ (config.regions.get r).size.toNat := by
  obtain ⟨⟨first', size', hspans', hpos, hbase, hend⟩, first, ⟨size, hspans⟩, rfl⟩ :=
    (routed_eq_some hconfig).mp h
  obtain ⟨rfl, rfl⟩ := spans_unique hspans hspans'
  have hoffset : (first - (config.regions.get r).base).toNat =
      first.toNat - (config.regions.get r).base.toNat :=
    UInt64.toNat_sub_of_le _ _ (UInt64.le_iff_toNat_le.mpr hbase)
  refine ⟨size, ?_, hpos, by omega⟩
  cases msg with
  | readReq => exact ⟨rfl, hspans.2⟩
  | writeReq => exact ⟨rfl, hspans.2⟩
  | readResp => cases hspans
  | writeResp => cases hspans

/-! ## The machine -/

/-- The bus in its surroundings, and everything that happened so far. -/
structure Net (config : MultiMasterBusConfig) where
  bus : MultiMasterBus config
  /-- The arbitration wakes that are pending. -/
  wakes : ℕ
  /-- The forwarded requests that are not answered yet. -/
  atTargets : List (config.RegionIndex × MemV1.MemMsg)
  /-- The transactions of masters that have no response yet. -/
  awaiting : List (config.Master × TxnId)
  received : List (config.Master × MemV1.MemMsg)
  forwarded : List (config.RegionIndex × MemV1.MemMsg)
  answered : List (config.RegionIndex × MemV1.MemMsg)
  responded : List (config.Master × MemV1.MemMsg)
  /-- Whatever else the bus asked for. -/
  stray : List Call

/-- What can happen next. -/
inductive Action (config : MultiMasterBusConfig)
  | request (master : config.Master) (msg : MemV1.MemMsg)
  | wake
  | answer (r : config.RegionIndex) (request answer : MemV1.MemMsg)

/-- The answer to a request: of its transaction and its kind. -/
def Answers : MemV1.MemMsg → MemV1.MemMsg → Prop
  | .readResp txn _, .readReq txn' _ _ => txn = txn'
  | .writeResp txn _, .writeReq txn' _ _ => txn = txn'
  | _, _ => False

namespace Net

/-- Before anything was received. -/
def start (bus : MultiMasterBus config) : Net config where
  bus
  wakes := 0
  atTargets := []
  awaiting := []
  received := []
  forwarded := []
  answered := []
  responded := []
  stray := []

/-- Carries out what the bus asks for. -/
def post (net : Net config) : Call → Net config
  | .sent port (.memV1 msg) .now .complete =>
    if h : port.toNat < config.masters.length then
      let master : config.Master := ⟨port.toNat, h⟩
      { net with
        responded := net.responded ++ [(master, msg)]
        awaiting := net.awaiting.erase (master, msg.txn) }
    else { net with stray := net.stray ++ [.sent port (.memV1 msg) .now .complete] }
  | .sent port (.memV1 msg) .now .transfer =>
    if h : config.masters.length ≤ port.toNat ∧
        port.toNat - config.masters.length < config.regions.length then
      let r : config.RegionIndex := ⟨port.toNat - config.masters.length, h.2⟩
      { net with
        forwarded := net.forwarded ++ [(r, msg)]
        atTargets := net.atTargets ++ [(r, msg)] }
    else { net with stray := net.stray ++ [.sent port (.memV1 msg) .now .transfer] }
  | .woke when_ .transfer token =>
    if token = arbitrateToken then { net with wakes := net.wakes + 1 }
    else { net with stray := net.stray ++ [.woke when_ .transfer token] }
  | .traced .. => net
  | call => { net with stray := net.stray ++ [call] }

/-- Delivers an event to the bus and carries out what it asks for. -/
def deliver (net : Net config) (phase : Phase) (delivery : Delivered) :
    Except SimError Unit × Net config :=
  match (net.bus.handleEvent delivery).perform (surroundings phase) with
  | (calls, result, bus) => (result, calls.foldl post { net with bus })

/-- What masters and targets may do: masters send well-formed requests without reusing a
transaction that has no response yet, and targets answer what was forwarded to them. -/
def Allowed (net : Net config) : Action config → Prop
  | .request master msg => msg.WellFormed ∧ (master, msg.txn) ∉ net.awaiting
  | .wake => 0 < net.wakes
  | .answer r request answer => (r, request) ∈ net.atTargets ∧ Answers answer request

/-- One step: requests arrive in `Request`, wakes in `Transfer` and answers in `Complete`. -/
def step (net : Net config) : Action config → Except SimError Unit × Net config
  | .request master msg =>
    { net with
      received := net.received ++ [(master, msg)]
      awaiting := net.awaiting ++ [(master, msg.txn)] }
      |>.deliver .request (.message (config.masterPort master) (.memV1 msg))
  | .wake => { net with wakes := net.wakes - 1 }.deliver .transfer (.wake arbitrateToken)
  | .answer r request answer =>
    { net with
      atTargets := net.atTargets.erase (r, request)
      answered := net.answered ++ [(r, answer)] }
      |>.deliver .complete (.message (config.regionPort r) (.memV1 answer))

/-- What is left to do without further requests. -/
def work (net : Net config) : ℕ :=
  net.wakes + 2 * net.awaiting.length + (net.awaiting.length - net.atTargets.length)

/-- Runs in which masters and targets do what they may, and the bus does not fault. -/
inductive Reaches (bus : MultiMasterBus config) : Net config → Prop
  | start : Reaches bus (start bus)
  | step {net net' : Net config} {action : Action config} (h : Reaches bus net)
      (hallowed : net.Allowed action) (hstep : net.step action = (.ok (), net')) :
      Reaches bus net'

end Net

/-! ## Accounts -/

/-- What has become of a request. -/
inductive Fate (config : MultiMasterBusConfig)
  | refused
  | waiting (r : config.RegionIndex)
  | active (r : config.RegionIndex) (downstream : TxnId)
  | done (r : config.RegionIndex) (downstream : TxnId) (answer : MemV1.MemMsg)

/-- A request and what has become of it. -/
structure Ticket (config : MultiMasterBusConfig) where
  master : config.Master
  request : MemV1.MemMsg
  fate : Fate config

/-- The request at its address in a region, under a transaction of the region's. -/
def toRegion (r : config.RegionIndex) (txn : TxnId) : MemV1.MemMsg → MemV1.MemMsg
  | .readReq _ addr len => .readReq txn (addr - (config.regions.get r).base) len
  | .writeReq _ addr data => .writeReq txn (addr - (config.regions.get r).base) data
  | msg => msg

/-- The outcome of an answer, as the response to a request. -/
def toMaster (request : MemV1.MemMsg) : MemV1.MemMsg → MemV1.MemMsg
  | .readResp _ outcome => .readResp request.txn outcome
  | .writeResp _ outcome => .writeResp request.txn outcome
  | msg => msg

namespace Ticket

/-- Requests are in the region that contains them, and refused if there is none; and the answer
of a target is to what was forwarded to it. -/
def Placed (t : Ticket config) : Prop :=
  match t.fate with
  | .refused => ∀ r, ¬(config.regions.get r).Contains t.request
  | .waiting r | .active r _ => (config.regions.get r).Contains t.request
  | .done r downstream answer =>
    (config.regions.get r).Contains t.request ∧ Answers answer (toRegion r downstream t.request)

/-- What was forwarded of the request. -/
def forwarded (t : Ticket config) : Option (config.RegionIndex × MemV1.MemMsg) :=
  match t.fate with
  | .active r downstream | .done r downstream _ => some (r, toRegion r downstream t.request)
  | .refused | .waiting _ => none

/-- What is at the target of the request. -/
def atTarget (t : Ticket config) : Option (config.RegionIndex × MemV1.MemMsg) :=
  match t.fate with
  | .active r downstream => some (r, toRegion r downstream t.request)
  | .refused | .waiting _ | .done .. => none

/-- What the target has answered. -/
def answered (t : Ticket config) : Option (config.RegionIndex × MemV1.MemMsg) :=
  match t.fate with
  | .done r _ answer => some (r, answer)
  | .refused | .waiting _ | .active .. => none

/-- The response to the request. -/
def responded (t : Ticket config) : Option (config.Master × MemV1.MemMsg) :=
  match t.fate with
  | .refused => some (t.master, accessFault t.request)
  | .done _ _ answer => some (t.master, toMaster t.request answer)
  | .waiting _ | .active .. => none

/-- The transaction of a request without a response. -/
def awaiting (t : Ticket config) : Option (config.Master × TxnId) :=
  match t.fate with
  | .waiting _ | .active .. => some (t.master, t.request.txn)
  | .refused | .done .. => none

/-- The request has its response. -/
def Finished (t : Ticket config) : Prop :=
  match t.fate with
  | .refused | .done .. => True
  | .waiting _ | .active .. => False

end Ticket

/-- The tickets account for everything that happened: each request received has one, and what was
forwarded, answered and responded is what the tickets say, each of it once. -/
structure Accounts (net : Net config) (tickets : List (Ticket config)) : Prop where
  received : net.received = tickets.map fun t => (t.master, t.request)
  placed : ∀ t ∈ tickets, t.Placed
  forwarded : net.forwarded.Perm (tickets.filterMap Ticket.forwarded)
  answered : net.answered.Perm (tickets.filterMap Ticket.answered)
  responded : net.responded.Perm (tickets.filterMap Ticket.responded)
  /-- Downstream transactions are counted from 0, and none is used twice. -/
  fresh : net.forwarded.map (fun p => p.2.txn.toNat) = List.range net.forwarded.length
  stray : net.stray = []

/-! ## What the bus asks for -/

namespace Net

lemma post_response (hconfig : config.Accepted) (net : Net config) (m : config.Master)
    (msg : MemV1.MemMsg) :
    net.post (.sent (config.masterPort m) (.memV1 msg) .now .complete) =
      { net with
        responded := net.responded ++ [(m, msg)]
        awaiting := net.awaiting.erase (m, msg.txn) } := by
  have hport := hconfig.toNat_masterPort m
  have hlt : (config.masterPort m).toNat < config.masters.length := hport ▸ m.isLt
  have hm : (⟨(config.masterPort m).toNat, hlt⟩ : config.Master) = m := Fin.ext hport
  simp only [post, dif_pos hlt, hm]

lemma post_forward (hconfig : config.Accepted) (net : Net config) (r : config.RegionIndex)
    (msg : MemV1.MemMsg) :
    net.post (.sent (config.regionPort r) (.memV1 msg) .now .transfer) =
      { net with
        forwarded := net.forwarded ++ [(r, msg)]
        atTargets := net.atTargets ++ [(r, msg)] } := by
  have hport := hconfig.toNat_regionPort r
  have hlt : config.masters.length ≤ (config.regionPort r).toNat ∧
      (config.regionPort r).toNat - config.masters.length < config.regions.length := by
    have := r.isLt
    omega
  have hr : (⟨(config.regionPort r).toNat - config.masters.length, hlt.2⟩ :
      config.RegionIndex) = r := Fin.ext (by
    show (config.regionPort r).toNat - config.masters.length = r
    omega)
  simp only [post, dif_pos hlt, hr]

@[simp] lemma post_woke (net : Net config) (when_ : ScheduleWhen) :
    net.post (.woke when_ .transfer arbitrateToken) = { net with wakes := net.wakes + 1 } := rfl

@[simp] lemma post_traced (net : Net config) (kind : String) (fields : List (String × Value)) :
    net.post (.traced kind fields) = net := rfl

lemma post_grant (hconfig : config.Accepted) (net : Net config) (g : Grant config) :
    g.calls.foldl post net =
      { net with
        forwarded := net.forwarded ++ [(g.region, withTxn g.downstreamTxn g.request)]
        atTargets := net.atTargets ++ [(g.region, withTxn g.downstreamTxn g.request)] } := by
  simp [Grant.calls, post_forward hconfig]

lemma post_wakeAgain (net : Net config) (bus : MultiMasterBus config) (r : config.RegionIndex) :
    (bus.wakeAgain r).foldl post net =
      { net with wakes := net.wakes + if (bus.region r).hasQueued then 1 else 0 } := by
  unfold wakeAgain
  split_ifs <;> rfl

end Net

/-! ## Routing -/

/-- The address of a routed request is its address in the region. -/
lemma atOffset_eq_toRegion (hconfig : config.Accepted) {msg : MemV1.MemMsg}
    {r : config.RegionIndex} {offset : UInt64} (h : routed config msg = some (r, offset)) :
    atOffset offset msg = toRegion r msg.txn msg := by
  obtain ⟨-, first, ⟨size, hspans⟩, rfl⟩ := (routed_eq_some hconfig).mp h
  cases msg with
  | readReq txn addr len =>
    obtain rfl := UInt64.toNat_inj.mp hspans.1
    rfl
  | writeReq txn addr data =>
    obtain rfl := UInt64.toNat_inj.mp hspans.1
    rfl
  | readResp => cases hspans
  | writeResp => cases hspans

end MultiMasterBus

end SystemScope.Platform
