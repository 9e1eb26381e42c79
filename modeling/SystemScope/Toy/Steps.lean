import SystemScope.Properties.Network
import SystemScope.Toy.Bus
import SystemScope.Toy.Dma
import SystemScope.Toy.Memory

/-!
# What the toy components do with a delivery

One lemma for each handler: the component it leaves behind and what it sends off, as long as the
component is in order and every call of it succeeds.  None of them fails by itself then.
-/

namespace SystemScope

open Handler (Place)

variable {wiring : Wiring} {place : Place} {calls : List Call} {result : Except SimError Unit}

/-- A wake under way, if it is scheduled. -/
def wakes (scheduled : Bool) (me : ComponentId) (phase : Phase) (token : UInt64) :
    Multiset Flight :=
  if scheduled then {⟨me, phase, .wake token⟩} else 0

@[simp] lemma wakes_true {me : ComponentId} {phase : Phase} {token : UInt64} :
    wakes true me phase token = {⟨me, phase, .wake token⟩} := rfl

@[simp] lemma wakes_false {me : ComponentId} {phase : Phase} {token : UInt64} :
    wakes false me phase token = 0 := rfl

/-! ## The memory -/

namespace ToyMemory

variable {config : ToyMemoryConfig} {mem mem' : ToyMemory config}

lemma respond_spec {far : PortRef} (hwired : wiring (place.component, port) = some far)
    {resp : MemMsg} {latency : Duration}
    (h : (mem.respond resp latency).Completes place calls result mem') :
    result = .ok () ∧ mem' = mem ∧
      flights wiring place.component calls = {⟨far.1, .complete, .message far.2 (.mem resp)⟩} := by
  obtain ⟨rest, rfl, rfl, rfl, rfl⟩ := h
  refine ⟨rfl, rfl, ?_⟩
  rw [flights_sent hwired, flights_nil]
  rfl

lemma read_spec {far : PortRef} (hwired : wiring (place.component, port) = some far) {at_ : PortId}
    {txn : TxnId} {addr : UInt64} {len : UInt32} (hrange : inRange config addr len.toNat)
    (h : (mem.handleEvent (.message at_ (.mem (.readReq txn addr len)))).Completes place calls
      result mem') :
    result = .ok () ∧ mem' = mem ∧ flights wiring place.component calls =
      {⟨far.1, .complete, .message far.2 (.mem (.readResp txn (mem.load addr len.toNat)))⟩} := by
  rw [handleEvent, if_pos hrange] at h
  exact respond_spec hwired h

lemma write_spec {far : PortRef} (hwired : wiring (place.component, port) = some far) {at_ : PortId}
    {txn : TxnId} {addr : UInt64} {data : Bytes} (hrange : inRange config addr data.length)
    (h : (mem.handleEvent (.message at_ (.mem (.writeReq txn addr data)))).Completes place calls
      result mem') :
    result = .ok () ∧ mem' = mem.store addr data ∧ flights wiring place.component calls =
      {⟨far.1, .complete, .message far.2 (.mem (.writeResp txn))⟩} := by
  rw [handleEvent, if_pos hrange] at h
  exact respond_spec hwired h

end ToyMemory

/-! ## The bus -/

namespace ToyBus

variable {config : ToyBusConfig} {bus bus' : ToyBus config}

/-- The wake of a scheduled arbitration. -/
def wake (bus : ToyBus config) (me : ComponentId) : Multiset Flight :=
  wakes bus.arbitrationScheduled me .transfer arbitrateToken

lemma scheduleArbitration_spec (wiring : Wiring) {cycles : UInt64}
    (h : (bus.scheduleArbitration cycles).Completes place calls result bus') :
    result = .ok () ∧ bus' = { bus with arbitrationScheduled := true } ∧
      flights wiring place.component calls = bus'.wake place.component := by
  obtain ⟨rest, rfl, rfl, rfl, rfl⟩ := h
  refine ⟨rfl, rfl, ?_⟩
  rw [flights_woke, flights_nil]
  rfl

/-- The bus with a request queued. -/
def withQueued (bus : ToyBus config) (side : Upstream) (request : Request) : ToyBus config :=
  { bus with
    queues := bus.queues.set side (bus.queues.get side ++ [request]) side.isLt
    arbitrationScheduled := true }

lemma side?_upstreamPort : ∀ side, side? (upstreamPort side) = some side := by
  decide

lemma upstreamPort_ne_memPort : ∀ side, upstreamPort side ≠ memPort := by
  decide

lemma request_spec (wiring : Wiring) {side : Upstream} {request : Request}
    (hphase : place.phase = .request)
    (h : (bus.handleEvent (.message (upstreamPort side) (.mem request.val))).Completes place calls
      result bus') :
    result = .ok () ∧ bus' = bus.withQueued side request ∧
      flights wiring place.component calls =
        wakes (!bus.arbitrationScheduled) place.component .transfer arbitrateToken := by
  have hof : Request.of? request.val = some request := dif_pos request.property
  rw [handleEvent, if_neg (upstreamPort_ne_memPort side), ToyBus.request, hof] at h
  simp only [Handler.completes_phase, hphase, side?_upstreamPort] at h
  rw [if_neg (not_not.mpr rfl), queue] at h
  cases hscheduled : bus.arbitrationScheduled with
  | true =>
    rw [if_pos hscheduled] at h
    obtain ⟨rfl, rfl, rfl⟩ := h
    refine ⟨rfl, ?_, rfl⟩
    simp [withQueued, hscheduled]
  | false =>
    rw [if_neg (by simp [hscheduled])] at h
    obtain ⟨rfl, rfl, hflights⟩ := scheduleArbitration_spec wiring h
    exact ⟨rfl, rfl, hflights⟩

/-- Whether there are requests. -/
def pending (bus : ToyBus config) : Bool := bus.waiting 0 || bus.waiting 1

lemma pending_iff : bus.pending ↔ ∃ side, bus.queues.get side ≠ [] := by
  simp [pending, waiting, Fin.exists_fin_two]

lemma exists_winner (hpending : bus.pending) :
    ∃ side request rest, bus.winner = some side ∧ bus.queues.get side = request :: rest := by
  have hcons : ∀ side, bus.waiting side → ∃ request rest,
    bus.queues.get side = request :: rest := by
    intro side hwaiting
    apply List.exists_cons_of_ne_nil
    simpa [waiting] using hwaiting
  unfold winner
  cases h0 : bus.waiting 0 with
  | true =>
    cases h1 : bus.waiting 1 with
    | true =>
      have hpriority : bus.waiting bus.priority := by
        rcases Fin.exists_fin_two.mp ⟨bus.priority, rfl⟩ with h | h
        · rw [h, h0]
        · rw [h, h1]
      obtain ⟨request, rest, hqueue⟩ := hcons _ hpriority
      exact ⟨_, request, rest, rfl, hqueue⟩
    | false =>
      obtain ⟨request, rest, hqueue⟩ := hcons 0 h0
      exact ⟨0, request, rest, rfl, hqueue⟩
  | false =>
    have h1 : bus.waiting 1 := by simpa [pending, h0] using hpending
    rw [h1]
    obtain ⟨request, rest, hqueue⟩ := hcons 1 h1
    exact ⟨1, request, rest, rfl, hqueue⟩

lemma arbitrateAgain_spec (wiring : Wiring) (hscheduled : bus.arbitrationScheduled = false)
    (h : bus.arbitrateAgain.Completes place calls result bus') :
    result = .ok () ∧ bus' = { bus with arbitrationScheduled := bus.pending } ∧
      flights wiring place.component calls = bus'.wake place.component := by
  unfold arbitrateAgain at h
  change Handler.Completes place (if bus.pending then _ else _) _ _ _ at h
  cases hpending : bus.pending with
  | true =>
    rw [if_pos hpending] at h
    exact scheduleArbitration_spec wiring h
  | false =>
    rw [if_neg (by simp [hpending])] at h
    obtain ⟨rfl, rfl, rfl⟩ := h
    refine ⟨rfl, ?_, ?_⟩
    · rw [← hscheduled]
    · rw [flights_nil, wake, hscheduled, wakes_false]

/-- The bus after granting the head of a queue. -/
def afterGrant (bus : ToyBus config) (side : Upstream) (request : Request) (rest : List Request) :
    ToyBus config :=
  { bus.granted side request rest with
    arbitrationScheduled := (bus.granted side request rest).pending }

lemma arbitrate_spec {far : PortRef} (hwired : wiring (place.component, memPort) = some far)
    (hpending : bus.pending)
    (h : (bus.handleEvent (.wake arbitrateToken)).Completes place calls result bus') :
    result = .ok () ∧ ∃ side request rest, bus.winner = some side ∧
      bus.queues.get side = request :: rest ∧ bus' = bus.afterGrant side request rest ∧
      flights wiring place.component calls =
        ⟨far.1, .transfer, .message far.2 (.mem (withTxn bus.nextDownstream request.val))⟩ ::ₘ
          bus'.wake place.component := by
  obtain ⟨side, request, rest, hwinner, hqueue⟩ := exists_winner hpending
  rw [handleEvent, if_pos rfl] at h
  unfold arbitrate at h
  have hwinner' : ({ bus with arbitrationScheduled := false } : ToyBus config).winner = some side :=
    hwinner
  rw [hwinner'] at h
  dsimp only at h
  rw [hqueue] at h
  obtain ⟨_, rfl, _, rfl, h⟩ := h
  obtain ⟨rfl, rfl, hflights⟩ := arbitrateAgain_spec wiring rfl h
  refine ⟨rfl, side, request, rest, hwinner, hqueue, rfl, ?_⟩
  rw [flights_sent hwired, flights_traced, hflights]

/-- The response of a kind to a transaction. -/
def response (txn : TxnId) : Option Bytes → MemMsg
  | some data => .readResp txn data
  | none => .writeResp txn

/-- The bus without a route. -/
def without (bus : ToyBus config) (downstream : TxnId) : ToyBus config :=
  { bus with routes := bus.routes.erase downstream }

/-- A response is led back to its initiator. -/
lemma route_spec {downstream : TxnId} {data : Option Bytes} {route : Route} {far : PortRef}
    (hwired : wiring (place.component, upstreamPort route.port) = some far)
    (hroute : bus.routes[downstream]? = some route) (hkind : route.write = data.isNone)
    (h : (bus.handleEvent (.message memPort (.mem (response downstream data)))).Completes place
      calls result bus') :
    result = .ok () ∧ bus' = bus.without downstream ∧
      flights wiring place.component calls =
        {⟨far.1, place.phase, .message far.2 (.mem (response route.txn data))⟩} := by
  have hback : bus.handleEvent (.message memPort (.mem (response downstream data))) =
      bus.routeBack downstream route.write (response downstream data) := by
    rw [handleEvent, if_pos rfl, hkind]
    cases data <;> rfl
  rw [hback, routeBack, hroute] at h
  dsimp only at h
  rw [if_neg (not_not.mpr rfl)] at h
  obtain ⟨_, rfl, _, rfl, rfl, rfl, rfl⟩ := h
  refine ⟨rfl, rfl, ?_⟩
  rw [flights_sent hwired, flights_traced, flights_nil]
  cases data <;> rfl

end ToyBus

/-! ## The CPU -/

namespace ToyCpu

variable {config : ToyCpuConfig} {cpu cpu' : ToyCpu config}

/-- The wake of a scheduled issue. -/
def issueWake (cpu : ToyCpu config) (me : ComponentId) : Multiset Flight :=
  wakes cpu.issueScheduled me .request issueToken

/-- The wake of a scheduled commit. -/
def commitWake (cpu : ToyCpu config) (me : ComponentId) : Multiset Flight :=
  wakes cpu.commitScheduled me .commit commitToken

/-- An operation on a slot of the configuration. -/
structure Op.Sized (config : ToyCpuConfig) (op : Op) : Prop where
  slot : ∃ i < config.slots.toNat, op.addr.toNat = i * config.accessLen.toNat
  data : ∀ addr data, op = .write addr data → data.length = config.accessLen.toNat

/-- Enough is drawn for the data of an access. -/
lemma length_draws {values : List UInt64} {len : ℕ} (h : values.length = drawsFor len) :
    ((values.flatMap fun x => leBytes 8 x.toNat).take len).length = len := by
  have hbytes : (values.flatMap fun x => leBytes 8 x.toNat).length = 8 * values.length := by
    simp [List.length_flatMap, length_leBytes, Nat.mul_comm]
  rw [List.length_take, hbytes, h, drawsFor]
  omega

/-! ### Probing -/

section

variable (config) (start : UInt64)

/-- The slot of a probe, without overflow. -/
lemma toNat_probe (hslots : config.slots ≠ 0) (i : ℕ) :
    ((start + UInt64.ofNat i) % config.slots.toUInt64 * config.accessLen.toUInt64).toNat =
      ((start + UInt64.ofNat i).toNat % config.slots.toNat) * config.accessLen.toNat := by
  have hpos : 0 < config.slots.toNat := UInt32.pos_iff_ne_zero.mpr hslots
  have hslots' := config.slots.toNat_lt
  have haccess := config.accessLen.toNat_lt
  have hmod := Nat.mod_lt (start + UInt64.ofNat i).toNat hpos
  rw [UInt64.toNat_mul, UInt64.toNat_mod, UInt32.toNat_toUInt64, UInt32.toNat_toUInt64]
  refine Nat.mod_eq_of_lt ?_
  calc _ ≤ (2 ^ 32 - 1) * (2 ^ 32 - 1) := Nat.mul_le_mul (by omega) (by omega)
    _ < 2 ^ 64 := by norm_num

lemma mem_probes (hslots : config.slots ≠ 0) {addr : UInt64} (h : addr ∈ probes config start) :
    ∃ i < config.slots.toNat, addr.toNat = i * config.accessLen.toNat := by
  obtain ⟨i, -, rfl⟩ := List.mem_map.mp h
  exact ⟨_, Nat.mod_lt _ (UInt32.pos_iff_ne_zero.mpr hslots), toNat_probe config start hslots i⟩

/-- The probes go through all slots, each once, as long as the sum of slots does not overflow. -/
lemma nodup_probes (hslots : config.slots ≠ 0) (haccess : config.accessLen ≠ 0)
    (hstart : start < config.slots.toUInt64) : (probes config start).Nodup := by
  refine List.Nodup.map_on ?_ List.nodup_range
  intro i hi j hj heq
  rw [List.mem_range] at hi hj
  rw [← UInt64.toNat_inj, toNat_probe config start hslots, toNat_probe config start hslots] at heq
  have hmod := Nat.eq_of_mul_eq_mul_right (UInt32.pos_iff_ne_zero.mpr haccess) heq
  rw [UInt64.lt_iff_toNat_lt, UInt32.toNat_toUInt64] at hstart
  have hbound := config.slots.toNat_lt
  have hsum : ∀ k < config.slots.toNat, (start + UInt64.ofNat k).toNat = start.toNat + k := by
    intro k hk
    rw [UInt64.toNat_add, UInt64.toNat_ofNat_of_lt' (show k < 2 ^ 64 by omega)]
    omega
  rw [hsum i hi, hsum j hj] at hmod
  have hmod' := Nat.ModEq.add_left_cancel' start.toNat hmod
  rwa [Nat.ModEq, Nat.mod_eq_of_lt hi, Nat.mod_eq_of_lt hj] at hmod'

end

/-- With fewer operations in flight than slots, some slot is free. -/
lemma exists_free (haccess : config.accessLen ≠ 0)
    (hroom : cpu.outstanding.size < config.slots.toNat) {start : UInt64}
    (hstart : start < config.slots.toUInt64) :
    ∃ addr, (probes config start).find? (fun addr => !cpu.busy addr) = some addr := by
  have hslots : config.slots ≠ 0 := UInt32.pos_iff_ne_zero.mp
    (UInt32.lt_iff_toNat_lt.mpr (Nat.zero_lt_of_lt hroom))
  by_contra hnone
  rw [← Option.isSome_iff_exists, Option.not_isSome_iff_eq_none, List.find?_eq_none] at hnone
  have hsubset : probes config start ⊆ cpu.outstanding.toList.map fun e => e.2.addr := by
    intro addr haddr
    have hbusy : cpu.busy addr := by simpa using hnone addr haddr
    obtain ⟨e, he, heq⟩ := List.any_eq_true.mp hbusy
    exact List.mem_map.mpr ⟨e, he, of_decide_eq_true heq⟩
  have hlength := (nodup_probes config start hslots haccess hstart).length_le_of_subset hsubset
  rw [List.length_map, Std.ExtTreeMap.length_toList, probes, List.length_map, List.length_range]
    at hlength
  omega

lemma busy_iff {addr : UInt64} :
    cpu.busy addr ↔ ∃ (txn : TxnId) (op : Op), cpu.outstanding[txn]? = some op ∧
      op.addr = addr := by
  rw [busy, List.any_eq_true]
  simp [Std.ExtTreeMap.mem_toList_iff_getElem?_eq_some]

/-! ### Issuing -/

section

variable [SimRng]

lemma scheduleIssue_spec (wiring : Wiring)
    (h : cpu.scheduleIssue.Completes place calls result cpu') :
    result = .ok () ∧ cpu' = { cpu with issueScheduled := true } ∧
      flights wiring place.component calls = cpu'.issueWake place.component := by
  obtain ⟨think, -, rest, rfl, rfl, rfl, rfl⟩ := Handler.completes_rngBelow h
  refine ⟨rfl, rfl, ?_⟩
  rw [flights_woke, flights_nil]
  rfl

lemma issueAgain_spec (wiring : Wiring) (hscheduled : cpu.issueScheduled = false)
    (h : cpu.issueAgain.Completes place calls result cpu') :
    result = .ok () ∧ cpu' = { cpu with issueScheduled := cpu.canIssue } ∧
      flights wiring place.component calls = cpu'.issueWake place.component := by
  unfold issueAgain at h
  cases hissue : cpu.canIssue with
  | true =>
    rw [if_pos hissue] at h
    exact scheduleIssue_spec wiring h
  | false =>
    rw [if_neg (by simp [hissue])] at h
    obtain ⟨rfl, rfl, rfl⟩ := h
    refine ⟨rfl, ?_, ?_⟩
    · rw [← hscheduled]
    · rw [flights_nil, issueWake, hscheduled, wakes_false]

/-- The operation that is drawn is on the given address. -/
lemma drawOp_spec {addr : UInt64} (haddr : ∃ i < config.slots.toNat,
      addr.toNat = i * config.accessLen.toNat) {k : Op → Handler (ToyCpu config)}
    (h : (drawOp addr k).Completes place calls result cpu') :
    ∃ op, op.addr = addr ∧ op.Sized config ∧ (k op).Completes place calls result cpu' := by
  obtain ⟨write, h⟩ := Handler.completes_rngChance h
  cases write with
  | false => exact ⟨.read addr, rfl, ⟨haddr, fun _ _ heq => by cases heq⟩, h⟩
  | true =>
    obtain ⟨values, hlength, h⟩ := Handler.completes_rngNextU64s h
    refine ⟨.write addr _, rfl, ⟨haddr, ?_⟩, h⟩
    rintro _ _ ⟨⟩
    exact length_draws hlength

/-- An issue sends the request for an operation on a free slot. -/
lemma issue_spec (wiring : Wiring) (haccess : config.accessLen ≠ 0)
    (hroom : config.maxOutstanding < config.slots) (hissue : cpu.canIssue)
    {k : ToyCpu config → Handler (ToyCpu config)}
    (h : (cpu.issue k).Completes place calls result cpu') :
    ∃ op rest, op.Sized config ∧ cpu.busy op.addr = false ∧
      (∀ far, wiring (place.component, port) = some far → flights wiring place.component calls =
        ⟨far.1, .request, .message far.2 (.mem (requestOf config cpu.nextTxn op))⟩ ::ₘ
          flights wiring place.component rest) ∧
      (k (cpu.withIssued op)).Completes place rest result cpu' := by
  have hsize : cpu.outstanding.size < config.slots.toNat := by
    rw [canIssue, Bool.and_eq_true, decide_eq_true_eq, decide_eq_true_eq] at hissue
    rw [UInt32.lt_iff_toNat_lt] at hroom
    omega
  have hslots : config.slots ≠ 0 := UInt32.pos_iff_ne_zero.mp
    (UInt32.lt_iff_toNat_lt.mpr (Nat.zero_lt_of_lt hsize))
  have hslots' : config.slots.toUInt64 ≠ 0 := by
    intro hzero
    apply hslots
    rw [← UInt32.toNat_inj, ← UInt32.toNat_toUInt64, hzero]
    rfl
  rw [issue, NonZeroU64.new, dif_pos hslots'] at h
  obtain ⟨start, hstart, h⟩ := Handler.completes_rngBelow h
  obtain ⟨addr, hfree⟩ := exists_free haccess hsize hstart
  rw [hfree] at h
  obtain ⟨op, rfl, hsized, _, rfl, rest, rfl, hk⟩ :=
    drawOp_spec (mem_probes config start hslots (List.mem_of_find?_eq_some hfree)) h
  refine ⟨op, rest, hsized, ?_, fun far hwired => ?_, hk⟩
  · simpa using List.find?_some hfree
  · rw [flights_sent hwired, flights_traced]

/-- The CPU after issuing an operation. -/
def afterIssue (cpu : ToyCpu config) (op : Op) : ToyCpu config :=
  { cpu.withIssued op with
    issueScheduled := (cpu.withIssued op).canIssue }

/-- Where an issue runs, a request is sent, and the next issue is scheduled if there may be one. -/
lemma wakeIssue_spec {far : PortRef} (hwired : wiring (place.component, port) = some far)
    (haccess : config.accessLen ≠ 0) (hroom : config.maxOutstanding < config.slots)
    (hissue : cpu.canIssue)
    (h : (cpu.handleEvent (.wake issueToken)).Completes place calls result cpu') :
    result = .ok () ∧ ∃ op, op.Sized config ∧ cpu.busy op.addr = false ∧ cpu' = cpu.afterIssue op ∧
      flights wiring place.component calls =
        ⟨far.1, .request, .message far.2 (.mem (requestOf config cpu.nextTxn op))⟩ ::ₘ
          cpu'.issueWake place.component := by
  rw [handleEvent, if_pos rfl, wakeIssue] at h
  have hissue' : ({ cpu with issueScheduled := false } : ToyCpu config).canIssue := hissue
  rw [if_pos hissue'] at h
  obtain ⟨op, rest, hsized, hfree, hsent, h⟩ := issue_spec wiring haccess hroom hissue' h
  obtain ⟨rfl, rfl, hflights⟩ := issueAgain_spec wiring rfl h
  refine ⟨rfl, op, hsized, hfree, rfl, ?_⟩
  rw [hsent far hwired, hflights]

end

/-! ### Committing -/

/-- The CPU after committing the response to an operation. -/
def retired (cpu : ToyCpu config) (arrival : Arrival) (op : Op) : ToyCpu config :=
  { cpu with
    outstanding := cpu.outstanding.erase arrival.1
    committed := cpu.committed + 1
    shadow := match op with
      | .read _ => cpu.shadow
      | .write addr data => cpu.shadow.insert addr data
    checksum := match op with
      | .read addr => cpu.folded 0 arrival.1 addr (arrival.2.getD [])
      | .write addr data => cpu.folded 1 arrival.1 addr data }

/-- The response is one to the operation: the data of a read are what the CPU expects. -/
def Answers (cpu : ToyCpu config) (op : Op) (data : Option Bytes) : Prop :=
  data = if op.isWrite then none else some (cpu.expected op.addr)

lemma commitOne_spec (wiring : Wiring) {arrival : Arrival} {op : Op}
    (hop : cpu.outstanding[arrival.1]? = some op) (hanswers : cpu.Answers op arrival.2)
    {k : ToyCpu config → Handler (ToyCpu config)}
    (h : (cpu.commitOne arrival k).Completes place calls result cpu') :
    ∃ rest, flights wiring place.component calls = flights wiring place.component rest ∧
      (k (cpu.retired arrival op)).Completes place rest result cpu' := by
  obtain ⟨txn, data⟩ := arrival
  rw [commitOne, hop] at h
  cases op with
  | read addr =>
    obtain rfl : data = some (cpu.expected addr) := hanswers
    dsimp only at h
    rw [if_neg (not_not.mpr rfl)] at h
    obtain ⟨rest, rfl, h⟩ := h
    exact ⟨rest, flights_traced, h⟩
  | write addr bytes =>
    obtain rfl : data = none := hanswers
    obtain ⟨rest, rfl, h⟩ := h
    exact ⟨rest, flights_traced, h⟩

section

variable [SimRng]

/-- The CPU about to commit what has arrived. -/
def committing (cpu : ToyCpu config) : ToyCpu config :=
  { cpu with commitScheduled := false, arrived := [] }

/-- The CPU that schedules an issue if there may be one. -/
def issuing (cpu : ToyCpu config) : ToyCpu config :=
  { cpu with issueScheduled := cpu.issueScheduled || cpu.canIssue }

lemma issueIfIdle_spec (wiring : Wiring) (h : cpu.issueIfIdle.Completes place calls result cpu') :
    result = .ok () ∧ cpu' = cpu.issuing ∧ flights wiring place.component calls =
      wakes (!cpu.issueScheduled && cpu.canIssue) place.component .request issueToken := by
  unfold issueIfIdle at h
  cases hidle : !cpu.issueScheduled && cpu.canIssue with
  | true =>
    rw [if_pos hidle] at h
    obtain ⟨rfl, rfl, hflights⟩ := scheduleIssue_spec wiring h
    obtain ⟨-, hissue⟩ := Bool.and_eq_true_iff.mp hidle
    refine ⟨rfl, ?_, hflights⟩
    rw [issuing, hissue, Bool.or_true]
  | false =>
    rw [if_neg (by simp [hidle])] at h
    obtain ⟨rfl, rfl, rfl⟩ := h
    refine ⟨rfl, ?_, rfl⟩
    rw [issuing]
    have hflag : (cpu'.issueScheduled || cpu'.canIssue) = cpu'.issueScheduled := by
      revert hidle
      cases cpu'.issueScheduled <;> simp
    rw [hflag]

/-- The CPU with a response received. -/
def withArrived (cpu : ToyCpu config) (arrival : Arrival) : ToyCpu config :=
  { cpu with arrived := cpu.arrived ++ [arrival], commitScheduled := true }

lemma receive_spec (wiring : Wiring) {arrival : Arrival} {at_ : PortId}
    (h : (cpu.handleEvent (.message at_ (.mem (ToyBus.response arrival.1 arrival.2)))).Completes
      place calls result cpu') :
    result = .ok () ∧
      cpu' = cpu.withArrived arrival ∧
      flights wiring place.component calls =
        wakes (!cpu.commitScheduled) place.component .commit commitToken := by
  obtain ⟨txn, data⟩ := arrival
  have hreceive : cpu.handleEvent (.message at_ (.mem (ToyBus.response txn data))) =
      cpu.receive (txn, data) := by
    cases data <;> rfl
  rw [hreceive, receive] at h
  cases hscheduled : cpu.commitScheduled with
  | true =>
    rw [if_pos hscheduled] at h
    obtain ⟨rfl, rfl, rfl⟩ := h
    exact ⟨rfl, by rw [withArrived, ← hscheduled], rfl⟩
  | false =>
    rw [if_neg (by simp [hscheduled])] at h
    obtain ⟨_, rfl, rfl, rfl, rfl⟩ := h
    refine ⟨rfl, rfl, ?_⟩
    rw [flights_woke, flights_nil]
    rfl

lemma init_spec (wiring : Wiring) (hmax : config.maxOutstanding ≠ 0)
    (hroom : config.maxOutstanding < config.slots)
    (h : cpu.init.Completes place calls result cpu') :
    result = .ok () ∧ cpu' = { cpu with issueScheduled := cpu.issueScheduled || 0 < config.ops } ∧
      flights wiring place.component calls =
        wakes (0 < config.ops) place.component .request issueToken := by
  rw [init, if_neg (by simp [hmax, hroom])] at h
  by_cases hops : 0 < config.ops
  · rw [if_pos hops] at h
    obtain ⟨rfl, rfl, hflights⟩ := scheduleIssue_spec wiring h
    refine ⟨rfl, by simp [hops], ?_⟩
    rw [hflights, decide_eq_true hops]
    rfl
  · rw [if_neg hops] at h
    obtain ⟨rfl, rfl, rfl⟩ := h
    refine ⟨rfl, by simp [hops], ?_⟩
    rw [decide_eq_false hops]
    rfl

end

end ToyCpu

/-! ## The DMA -/

namespace ToyDma

variable {config : ToyDmaConfig} {dma dma' : ToyDma config}

/-- The wake of a scheduled issue. -/
def wake (dma : ToyDma config) (me : ComponentId) : Multiset Flight :=
  wakes dma.wakeScheduled me .request issueToken

/-- Whether there may be an issue. -/
def canIssue (dma : ToyDma config) : Bool := dma.issued < config.ops && !dma.full

/-- A write that a burst may issue. -/
structure Sized (config : ToyDmaConfig) (addr : UInt64) (data : Bytes) : Prop where
  slot : ∃ slot < config.slots, addr = slotAddr config slot
  data : data.length = config.accessLen.toNat

lemma wakeIn_spec (wiring : Wiring) {cycles : UInt64}
    (h : (dma.wakeIn cycles).Completes place calls result dma') :
    result = .ok () ∧ dma' = { dma with wakeScheduled := true } ∧
      flights wiring place.component calls = dma'.wake place.component := by
  obtain ⟨rest, rfl, rfl, rfl, rfl⟩ := h
  refine ⟨rfl, rfl, ?_⟩
  rw [flights_woke, flights_nil]
  rfl

variable [SimRng]

lemma scheduleNext_spec (wiring : Wiring) (h : dma.scheduleNext.Completes place calls result dma') :
    result = .ok () ∧ dma' = { dma with wakeScheduled := true } ∧
      flights wiring place.component calls = dma'.wake place.component := by
  unfold scheduleNext at h
  split_ifs at h
  · exact wakeIn_spec wiring h
  · obtain ⟨gap, -, hgap⟩ := Handler.completes_rngBelow h
    exact wakeIn_spec wiring hgap

lemma issueAgain_spec (wiring : Wiring) (hscheduled : dma.wakeScheduled = false)
    (h : dma.issueAgain.Completes place calls result dma') :
    result = .ok () ∧ dma' = { dma with wakeScheduled := dma.canIssue } ∧
      flights wiring place.component calls = dma'.wake place.component := by
  unfold issueAgain at h
  change Handler.Completes place (if dma.canIssue then _ else _) _ _ _ at h
  cases hissue : dma.canIssue with
  | true =>
    rw [if_pos hissue] at h
    exact scheduleNext_spec wiring h
  | false =>
    rw [if_neg (by simp [hissue])] at h
    obtain ⟨rfl, rfl, rfl⟩ := h
    refine ⟨rfl, ?_, ?_⟩
    · rw [← hscheduled]
    · rw [flights_nil, wake, hscheduled, wakes_false]

/-- A burst that starts is in the region; one that is under way goes on. -/
lemma burst_spec {slots : NonZeroU64} (hslots : slots.val = config.slots.toUInt64)
    (hslot : dma.burstSlot < config.slots) {k : ToyDma config → Handler (ToyDma config)}
    (h : (dma.burst slots k).Completes place calls result dma') :
    ∃ burstLeft burstSlot, burstSlot < config.slots ∧
      (k { dma with burstLeft, burstSlot }).Completes place calls result dma' := by
  unfold burst at h
  split_ifs at h
  · obtain ⟨len, -, hlen⟩ := Handler.completes_rngBelow h
    obtain ⟨slot, hlt, hk⟩ := Handler.completes_rngBelow hlen
    refine ⟨_, slot.toUInt32, ?_, hk⟩
    rw [hslots, UInt64.lt_iff_toNat_lt, UInt32.toNat_toUInt64] at hlt
    rw [UInt32.lt_iff_toNat_lt, UInt64.toNat_toUInt32]
    exact lt_of_le_of_lt (Nat.mod_le _ _) hlt
  · exact ⟨_, _, hslot, h⟩

lemma issue_spec (wiring : Wiring) (hslot : dma.burstSlot < config.slots)
    {k : ToyDma config → Handler (ToyDma config)}
    (h : (dma.issue k).Completes place calls result dma') :
    ∃ burstLeft burstSlot data rest, burstSlot < config.slots ∧
      data.length = config.accessLen.toNat ∧
      (∀ far, wiring (place.component, port) = some far → flights wiring place.component calls =
        ⟨far.1, .request,
          .message far.2 (.mem (.writeReq dma.nextTxn (slotAddr config burstSlot) data))⟩ ::ₘ
          flights wiring place.component rest) ∧
      (k { dma with burstLeft, burstSlot }.withIssued).Completes place rest result dma' := by
  have hslots : config.slots.toUInt64 ≠ 0 := by
    intro hzero
    have hslots : config.slots.toNat = 0 := by
      rw [← UInt32.toNat_toUInt64, hzero]
      rfl
    rw [UInt32.lt_iff_toNat_lt, hslots] at hslot
    exact Nat.not_lt_zero _ hslot
  rw [issue, NonZeroU64.new, dif_pos hslots] at h
  have hstart : (dma.burst ⟨config.slots.toUInt64, hslots⟩ fun next => next.issueWrite k).Completes
    place calls result dma' := h
  obtain ⟨burstLeft, burstSlot, hlt, hburst⟩ := burst_spec rfl hslot hstart
  obtain ⟨values, hlength, _, rfl, rest, rfl, hk⟩ := Handler.completes_rngNextU64s hburst
  refine ⟨burstLeft, burstSlot,
    (values.flatMap fun x => leBytes 8 x.toNat).take config.accessLen.toNat, rest, hlt, ?_,
    fun far hwired => ?_, hk⟩
  · exact ToyCpu.length_draws hlength
  · rw [flights_sent hwired, flights_traced]

/-- The DMA after issuing a write of a burst. -/
def afterIssue (dma : ToyDma config) (burstLeft : UInt64) (burstSlot : UInt32) : ToyDma config :=
  let next := ({ dma with burstLeft, burstSlot } : ToyDma config).withIssued
  { next with wakeScheduled := next.canIssue }

/-- Where an issue runs, a write is sent, and the next issue is scheduled if there may be one. -/
lemma wakeIssue_spec {far : PortRef} (hwired : wiring (place.component, port) = some far)
    (hslot : dma.burstSlot < config.slots) (hissue : dma.canIssue)
    (h : (dma.handleEvent (.wake issueToken)).Completes place calls result dma') :
    result = .ok () ∧ ∃ burstLeft burstSlot data, burstSlot < config.slots ∧
      data.length = config.accessLen.toNat ∧ dma' = dma.afterIssue burstLeft burstSlot ∧
      flights wiring place.component calls =
        ⟨far.1, .request,
          .message far.2 (.mem (.writeReq dma.nextTxn (slotAddr config burstSlot) data))⟩ ::ₘ
          dma'.wake place.component := by
  rw [handleEvent, if_pos rfl, wakeIssue] at h
  dsimp only at h
  change Handler.Completes place (if dma.canIssue then _ else _) _ _ _ at h
  rw [if_pos hissue] at h
  have hslot' : ({ dma with wakeScheduled := false } : ToyDma config).burstSlot < config.slots :=
    hslot
  obtain ⟨burstLeft, burstSlot, data, rest, hlt, hlength, hsent, hnext⟩ :=
    issue_spec wiring hslot' h
  obtain ⟨rfl, rfl, hflights⟩ := issueAgain_spec wiring rfl hnext
  refine ⟨rfl, burstLeft, burstSlot, data, hlt, hlength, rfl, ?_⟩
  rw [hsent far hwired, hflights]

/-- The DMA after retiring a write. -/
def afterDone (dma : ToyDma config) (txn : TxnId) (addr : UInt64) : ToyDma config :=
  { dma with
    outstanding := dma.outstanding.erase txn
    completed := dma.completed + 1
    checksum := ToyCpu.fold (ToyCpu.fold dma.checksum txn) addr
    wakeScheduled := dma.wakeScheduled || dma.issued < config.ops }

/-- A response retires its write, and an issue is scheduled if none is and writes are left. -/
lemma complete_spec (wiring : Wiring) {txn : TxnId} {addr : UInt64}
    (haddr : dma.outstanding[txn]? = some addr) {at_ : PortId}
    (h : (dma.handleEvent (.message at_ (.mem (.writeResp txn)))).Completes place calls result
      dma') :
    result = .ok () ∧ dma' = dma.afterDone txn addr ∧ flights wiring place.component calls =
      wakes (!dma.wakeScheduled && dma.issued < config.ops) place.component .request
        issueToken := by
  rw [handleEvent, complete, haddr] at h
  obtain ⟨rest, rfl, h⟩ := h
  unfold resume at h
  rw [flights_traced]
  dsimp only at h
  cases hidle : !dma.wakeScheduled && decide (dma.issued < config.ops) with
  | true =>
    rw [if_pos hidle] at h
    obtain ⟨rfl, rfl, hflights⟩ := scheduleNext_spec wiring h
    obtain ⟨-, hops⟩ := Bool.and_eq_true_iff.mp hidle
    refine ⟨rfl, ?_, hflights⟩
    rw [afterDone, hops, Bool.or_true]
  | false =>
    rw [if_neg (by simp [hidle])] at h
    obtain ⟨rfl, rfl, rfl⟩ := h
    have hflag : (dma.wakeScheduled || decide (dma.issued < config.ops)) = dma.wakeScheduled := by
      revert hidle
      cases dma.wakeScheduled <;> simp
    refine ⟨rfl, ?_, rfl⟩
    rw [afterDone, hflag]

lemma init_spec (wiring : Wiring) (hmax : config.maxOutstanding ≠ 0) (hslots : config.slots ≠ 0)
    (h : dma.init.Completes place calls result dma') :
    result = .ok () ∧ dma' = { dma with wakeScheduled := dma.wakeScheduled || 0 < config.ops } ∧
      flights wiring place.component calls =
        wakes (0 < config.ops) place.component .request issueToken := by
  rw [init, if_neg (by simp [hmax, hslots])] at h
  by_cases hops : 0 < config.ops
  · rw [if_pos hops] at h
    obtain ⟨gap, -, hgap⟩ := Handler.completes_rngBelow h
    obtain ⟨rfl, rfl, hflights⟩ := wakeIn_spec wiring hgap
    refine ⟨rfl, by simp [hops], ?_⟩
    rw [hflights, decide_eq_true hops]
    rfl
  · rw [if_neg hops] at h
    obtain ⟨rfl, rfl, rfl⟩ := h
    refine ⟨rfl, by simp [hops], ?_⟩
    rw [decide_eq_false hops]
    rfl

end ToyDma

end SystemScope
