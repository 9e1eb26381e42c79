import SystemScope.Contracts.Calls
import SystemScope.Platform.BusConfig

/-!
# What the bus does with a delivery

`Accepts` lists everything a delivery to the bus can lead to when it does not fault the session:
a request is queued or refused, a wake grants what can be granted, a response is relayed.  The
handler does exactly that (`perform_handleEvent_iff`), and when some of its own calls fail it stops
half way through it (`Moves`).
-/

namespace SystemScope.Platform

open MemV1

namespace MultiMasterBus

variable {config : MultiMasterBusConfig}

/-! ## Live transactions -/

lemma isLive_iff {bus : MultiMasterBus config} {master : config.Master} {txn : TxnId} :
    bus.isLive master txn ↔ ∃ r,
      (∃ a, (bus.region r).active = some a ∧ a.master = master ∧ a.originalTxn = txn) ∨
        ∃ q ∈ (bus.region r).queue master, ∃ write, requestTxn q = some (txn, write) := by
  simp only [isLive, List.any_eq_true, Vector.mem_toList_iff_get, exists_exists_eq_and]
  refine exists_congr fun r => ?_
  change _ ↔ (∃ a, (bus.regions.get r).active = some a ∧ _) ∨
    ∃ q ∈ (bus.regions.get r).queue master, _
  simp [Option.any_eq_true]

/-! ## Grants -/

/-- What the bus asks for when it grants a request. -/
def Grant.calls (g : Grant config) : List Call :=
  [.sent (config.regionPort g.region) (.memV1 (withTxn g.downstreamTxn g.request)) .now .transfer,
    .traced grantKind
      [("region", .u64 (UInt64.ofNat g.region)), ("master", .u64 (UInt64.ofNat g.master)),
        ("txn", .u64 g.originalTxn), ("downstream_txn", .u64 g.downstreamTxn)]]

/-- The grant is the next one of its region. -/
structure Grants (bus : MultiMasterBus config) (g : Grant config) : Prop where
  idle : (bus.region g.region).active = none
  selected : (bus.region g.region).select = some g.master
  front : ∃ rest, (bus.region g.region).queue g.master = g.request :: rest
  request : requestTxn g.request = some (g.originalTxn, g.write)
  fresh : g.downstreamTxn = bus.nextDownstream
  room : bus.nextDownstream.toNat + 1 < 2 ^ 64

/-- Grants made one after the other. -/
inductive Chain : MultiMasterBus config → List (Grant config) → MultiMasterBus config → Prop
  | nil {bus : MultiMasterBus config} : Chain bus [] bus
  | cons {bus bus' : MultiMasterBus config} {g : Grant config} {gs : List (Grant config)}
      (h : bus.Grants g) (rest : Chain (bus.grant g) gs bus') : Chain bus (g :: gs) bus'

/-- The grants of a pass over some regions: regions that are busy or have nothing queued are
left alone, and every other region has one request granted. -/
inductive Pass : List config.RegionIndex → MultiMasterBus config → List (Grant config) →
    MultiMasterBus config → Prop
  | nil {bus : MultiMasterBus config} : Pass [] bus [] bus
  | skip {r : config.RegionIndex} {rs : List config.RegionIndex} {bus bus' : MultiMasterBus config}
      {gs : List (Grant config)}
      (h : (bus.region r).active ≠ none ∨ (bus.region r).select = none)
      (rest : Pass rs bus gs bus') : Pass (r :: rs) bus gs bus'
  | grant {rs : List config.RegionIndex} {bus bus' : MultiMasterBus config} {g : Grant config}
      {gs : List (Grant config)} (h : bus.Grants g) (rest : Pass rs (bus.grant g) gs bus') :
      Pass (g.region :: rs) bus (g :: gs) bus'

lemma Pass.chain {rs : List config.RegionIndex} {bus bus' : MultiMasterBus config}
    {gs : List (Grant config)} (h : Pass rs bus gs bus') : Chain bus gs bus' := by
  induction h with
  | nil => exact .nil
  | skip _ _ ih => exact ih
  | grant h _ ih => exact .cons h ih

@[simp] lemma nextDownstream_grant (bus : MultiMasterBus config) (g : Grant config) :
    (bus.grant g).nextDownstream = bus.nextDownstream + 1 := rfl

lemma Grants.toNat_next {bus : MultiMasterBus config} {g : Grant config} (h : bus.Grants g) :
    (bus.grant g).nextDownstream.toNat = bus.nextDownstream.toNat + 1 := by
  rw [nextDownstream_grant, UInt64.toNat_add]
  exact Nat.mod_eq_of_lt h.room

/-- The FIFOs after a grant: its own has lost its first request. -/
lemma queue_grant (bus : MultiMasterBus config) (g : Grant config) (r : config.RegionIndex)
    (m : config.Master) :
    ((bus.grant g).region r).queue m =
      if r = g.region ∧ m = g.master then ((bus.region r).queue m).tail
      else (bus.region r).queue m := by
  rw [region_grant]
  split_ifs with hr hm hm
  · obtain ⟨rfl, rfl⟩ := hm
    simp
  · subst hr
    have hne : m ≠ g.master := fun h => hm ⟨rfl, h⟩
    simp only [RegionState.queue_mk, Vector.get_set, if_neg hne]
    rfl
  · exact absurd hm.1 hr
  · rfl

lemma Grants.queue_eq {bus : MultiMasterBus config} {g : Grant config} (h : bus.Grants g) :
    (bus.region g.region).queue g.master =
      g.request :: ((bus.grant g).region g.region).queue g.master := by
  obtain ⟨rest, hrest⟩ := h.front
  rw [queue_grant, if_pos ⟨rfl, rfl⟩, hrest, List.tail_cons]

lemma Chain.region_eq {bus bus' : MultiMasterBus config} {gs : List (Grant config)}
    (h : Chain bus gs bus') {r : config.RegionIndex} (hr : ∀ g ∈ gs, g.region ≠ r) :
    bus'.region r = bus.region r := by
  induction h with
  | nil => rfl
  | cons _ _ ih =>
    obtain ⟨hg, hgs⟩ := List.forall_mem_cons.mp hr
    rw [ih hgs, region_grant, if_neg hg.symm]

lemma Grants.eq {bus : MultiMasterBus config} {g g' : Grant config} (h : bus.Grants g)
    (h' : bus.Grants g') (hregion : g.region = g'.region) : g = g' := by
  obtain ⟨region, master, request, originalTxn, write, downstreamTxn⟩ := g
  obtain ⟨region', master', request', originalTxn', write', downstreamTxn'⟩ := g'
  obtain ⟨-, hselect, ⟨rest, hfront⟩, htxn, hfresh, -⟩ := h
  obtain ⟨-, hselect', ⟨rest', hfront'⟩, htxn', hfresh', -⟩ := h'
  dsimp only at *
  subst hregion
  rw [hselect] at hselect'
  cases hselect'
  rw [hfront] at hfront'
  cases hfront'
  rw [htxn] at htxn'
  cases htxn'
  rw [hfresh, hfresh']

/-- A pass goes past a region that is busy or has nothing queued. -/
lemma pass_cons_of_skip {r : config.RegionIndex} {rs : List config.RegionIndex}
    {bus bus' : MultiMasterBus config} {gs : List (Grant config)}
    (hskip : (bus.region r).active ≠ none ∨ (bus.region r).select = none) :
    Pass (r :: rs) bus gs bus' ↔ Pass rs bus gs bus' := by
  refine ⟨fun h => ?_, .skip hskip⟩
  cases h with
  | skip _ rest => exact rest
  | grant h =>
    rcases hskip with hactive | hselect
    · exact absurd h.idle hactive
    · rw [h.selected] at hselect
      cases hselect

/-- A pass grants a request of a region that is idle and has one queued. -/
lemma Pass.of_cons {r : config.RegionIndex} {rs : List config.RegionIndex}
    {bus bus' : MultiMasterBus config} {gs : List (Grant config)} (h : Pass (r :: rs) bus gs bus')
    (hactive : (bus.region r).active = none) {m : config.Master}
    (hselect : (bus.region r).select = some m) :
    ∃ g gs', gs = g :: gs' ∧ g.region = r ∧ g.master = m ∧ bus.Grants g ∧
      Pass rs (bus.grant g) gs' bus' := by
  cases h with
  | skip hskip =>
    rcases hskip with hskip | hskip
    · exact absurd hactive hskip
    · rw [hselect] at hskip
      cases hskip
  | grant h rest =>
    exact ⟨_, _, rfl, rfl, Option.some.inj (h.selected.symm.trans hselect), h, rest⟩

lemma Pass.region_mem {rs : List config.RegionIndex} {bus bus' : MultiMasterBus config}
    {gs : List (Grant config)} (h : Pass rs bus gs bus') : ∀ g ∈ gs, g.region ∈ rs := by
  induction h with
  | nil => simp
  | skip _ _ ih => exact fun g hg => List.mem_cons_of_mem _ (ih g hg)
  | grant _ _ ih =>
    intro g' hg'
    rcases List.mem_cons.mp hg' with rfl | hg'
    · exact List.mem_cons_self
    · exact List.mem_cons_of_mem _ (ih g' hg')

lemma Pass.region_eq {rs : List config.RegionIndex} {bus bus' : MultiMasterBus config}
    {gs : List (Grant config)} (h : Pass rs bus gs bus') {r : config.RegionIndex} (hr : r ∉ rs) :
    bus'.region r = bus.region r := by
  refine h.chain.region_eq fun g hg heq => hr ?_
  rw [← heq]
  exact h.region_mem g hg

lemma Pass.done {rs : List config.RegionIndex} (hrs : rs.Nodup) {bus bus' : MultiMasterBus config}
    {gs : List (Grant config)} (h : Pass rs bus gs bus') :
    ∀ r ∈ rs, (bus'.region r).active ≠ none ∨ (bus'.region r).select = none := by
  induction h with
  | nil => simp
  | skip hskip hrest ih =>
    rw [List.nodup_cons] at hrs
    refine List.forall_mem_cons.mpr ⟨?_, ih hrs.2⟩
    rwa [hrest.region_eq hrs.1]
  | grant h hrest ih =>
    rw [List.nodup_cons] at hrs
    refine List.forall_mem_cons.mpr ⟨?_, ih hrs.2⟩
    left
    rw [hrest.region_eq hrs.1, region_grant, if_pos rfl]
    simp

/-! ## Everything a delivery can lead to -/

/-- The access fault that answers a request. -/
def accessFault : MemV1.MemMsg → MemV1.MemMsg
  | .readReq txn _ _ => .readResp txn (.fault .accessFault)
  | .writeReq txn _ _ => .writeResp txn (.fault .accessFault)
  | msg => msg

/-- What is recorded of a refused request. -/
def refusalFields (master : config.Master) : MemV1.MemMsg → List (String × Value)
  | .readReq txn addr len =>
    [("txn", .u64 txn), ("addr", .u64 addr), ("len", .u64 len.toUInt64),
      ("master", .u64 (UInt64.ofNat master))]
  | .writeReq txn addr data =>
    [("txn", .u64 txn), ("addr", .u64 addr), ("len", .u64 (UInt64.ofNat data.length)),
      ("master", .u64 (UInt64.ofNat master))]
  | _ => []

/-- What the bus asks for when it refuses a request. -/
def refusal (master : config.Master) (msg : MemV1.MemMsg) : List Call :=
  [.sent (config.masterPort master) (.memV1 (accessFault msg)) .now .complete,
    .traced faultKind (refusalFields master msg)]

/-- Where a request goes, with its offset in the region. -/
def routed (config : MultiMasterBusConfig) (msg : MemV1.MemMsg) :
    Option (config.RegionIndex × UInt64) :=
  match msg.access with
  | some (.bytes first last) =>
    (config.route first last).map fun r => (r, first - (config.regions.get r).base)
  | _ => none

/-- Whether a response is one to a write. -/
def responseKind : MemV1.MemMsg → Option Bool
  | .readResp .. => some false
  | .writeResp .. => some true
  | .readReq .. | .writeReq .. => none

/-- The wake a response leaves for the requests behind it. -/
def wakeAgain (bus : MultiMasterBus config) (r : config.RegionIndex) : List Call :=
  if (bus.region r).hasQueued then [.woke (.cycles config.clock 1) .transfer arbitrateToken]
  else []

/-- Everything the bus does with a delivery that does not fault the session. -/
inductive Accepts (bus : MultiMasterBus config) :
    Phase → Delivered → List Call → MultiMasterBus config → Prop
  | enqueue {port : PortId} {master : config.Master} {msg : MemV1.MemMsg}
      {r : config.RegionIndex} {offset : UInt64} (hport : port.toNat = master)
      (hlive : bus.isLive master msg.txn = false) (hwell : msg.WellFormed)
      (hrouted : routed config msg = some (r, offset)) :
      Accepts bus .request (.message port (.memV1 msg))
        [.woke .now .transfer arbitrateToken] (bus.enqueue r master (atOffset offset msg))
  | refuse {port : PortId} {master : config.Master} {msg : MemV1.MemMsg}
      (hport : port.toNat = master) (hlive : bus.isLive master msg.txn = false)
      (hwell : msg.WellFormed) (hrouted : routed config msg = none) :
      Accepts bus .request (.message port (.memV1 msg)) (refusal master msg) bus
  | arbitrate {gs : List (Grant config)} {bus' : MultiMasterBus config}
      (hpass : Pass (List.finRange config.regions.length) bus gs bus') :
      Accepts bus .transfer (.wake arbitrateToken) (gs.flatMap Grant.calls) bus'
  | relay {port : PortId} {r : config.RegionIndex} {msg : MemV1.MemMsg}
      {active : ActiveTxn config.masters.length} (hport : port.toNat = config.masters.length + r)
      (hactive : (bus.region r).active = some active) (htxn : active.downstreamTxn = msg.txn)
      (hkind : responseKind msg = some active.write) :
      Accepts bus .complete (.message port (.memV1 msg))
        (.sent (config.masterPort active.master) (.memV1 (withTxn active.originalTxn msg)) .now
          .complete :: bus.wakeAgain r)
        (bus.release r)

/-- What the bus may have done when it stops. -/
inductive Moves (bus : MultiMasterBus config) : MultiMasterBus config → Prop
  | stay : Moves bus bus
  | enqueue {master : config.Master} {msg : MemV1.MemMsg} {r : config.RegionIndex}
      {offset : UInt64} (hlive : bus.isLive master msg.txn = false) (hwell : msg.WellFormed)
      (hrouted : routed config msg = some (r, offset)) :
      Moves bus (bus.enqueue r master (atOffset offset msg))
  | grants {gs : List (Grant config)} {bus' : MultiMasterBus config} (h : Chain bus gs bus') :
      Moves bus bus'
  | release {r : config.RegionIndex} {active : ActiveTxn config.masters.length}
      (hactive : (bus.region r).active = some active) : Moves bus (bus.release r)

/-! ## The handler -/

lemma requestTxn_cases (msg : MemV1.MemMsg) :
    (∃ write access, requestTxn msg = some (msg.txn, write) ∧ msg.access = some access) ∨
      requestTxn msg = none ∧ msg.access = none := by
  cases msg with
  | readReq => exact .inl ⟨false, _, rfl, rfl⟩
  | writeReq => exact .inl ⟨true, _, rfl, rfl⟩
  | readResp => exact .inr ⟨rfl, rfl⟩
  | writeResp => exact .inr ⟨rfl, rfl⟩

@[simp] lemma perform_reject (bus : MultiMasterBus config) (env : Surroundings) (what : String) :
    (bus.reject what).perform env = ([], .error (.componentFault what), bus) := rfl

lemma perform_fault {bus : MultiMasterBus config} {env : Surroundings} {master : config.Master}
    {msg : MemV1.MemMsg} {access : Access} (h : msg.access = some access) :
    (bus.fault master msg).perform env = (refusal master msg, .ok (), bus) := by
  cases msg with
  | readReq => rfl
  | writeReq => rfl
  | readResp => cases h
  | writeResp => cases h

lemma perform_request_iff {bus bus' : MultiMasterBus config} {env : Surroundings}
    {master : config.Master} {msg : MemV1.MemMsg} {calls : List Call} :
    (bus.request master msg).perform env = (calls, .ok (), bus') ↔
      env.phase = .request ∧ bus.isLive master msg.txn = false ∧ msg.WellFormed ∧
        ((∃ r offset, routed config msg = some (r, offset) ∧
            calls = [.woke .now .transfer arbitrateToken] ∧
            bus' = bus.enqueue r master (atOffset offset msg)) ∨
          routed config msg = none ∧ calls = refusal master msg ∧ bus' = bus) := by
  rcases requestTxn_cases msg with ⟨write, access, htxn, haccess⟩ | ⟨htxn, haccess⟩
  · have hwell : msg.WellFormed ↔ access ≠ .empty := by
      rw [wellFormed_iff_access, haccess]
      simp
    simp only [request, htxn, haccess, Handler.perform, hwell]
    by_cases hphase : env.phase = .request
    · by_cases hlive : bus.isLive master msg.txn
      · simp [hphase, hlive]
      · cases access with
        | empty => simp [hphase, hlive]
        | outOfRange =>
          have hfault : (bus.fault master msg).perform env = (refusal master msg, .ok (), bus) :=
            perform_fault haccess
          simp [hphase, hlive, routed, haccess, hfault, eq_comm]
        | bytes first last =>
          have hfault : (bus.fault master msg).perform env = (refusal master msg, .ok (), bus) :=
            perform_fault haccess
          cases hroute : config.route first last with
          | none => simp [hphase, hlive, routed, haccess, hroute, hfault, eq_comm]
          | some r => simp [hphase, hlive, routed, haccess, hroute, Handler.perform, eq_comm]
    · simp [hphase]
  · have hwell : ¬msg.WellFormed := by
      rw [wellFormed_iff_access, haccess]
      simp
    simp [request, htxn, haccess, hwell]

lemma perform_arbitrateFrom_iff {rs : List config.RegionIndex} {bus bus' : MultiMasterBus config}
    {env : Surroundings} {calls : List Call} :
    (arbitrateFrom rs bus).perform env = (calls, .ok (), bus') ↔
      ∃ gs, Pass rs bus gs bus' ∧ calls = gs.flatMap Grant.calls := by
  induction rs generalizing bus calls with
  | nil =>
    simp only [arbitrateFrom, Handler.perform, Prod.mk.injEq, true_and]
    constructor
    · rintro ⟨rfl, rfl⟩
      exact ⟨[], .nil, rfl⟩
    · rintro ⟨gs, hpass, rfl⟩
      cases hpass
      exact ⟨rfl, rfl⟩
  | cons r rs ih =>
    unfold arbitrateFrom
    by_cases hactive : (bus.region r).active = none
    · cases hselect : (bus.region r).select with
      | none =>
        simp only [hactive, hselect, Option.isSome_none, Bool.false_eq_true, if_false,
          pass_cons_of_skip (.inr hselect)]
        exact ih
      | some m =>
        simp only [hactive, hselect, Option.isSome_none, Bool.false_eq_true, if_false]
        split_ifs with hroom
        · simp only [perform_reject, Prod.mk.injEq, reduceCtorEq, false_and, and_false, false_iff,
            not_exists, not_and]
          intro gs hpass
          obtain ⟨g, -, -, -, -, hg, -⟩ := hpass.of_cons hactive hselect
          exact absurd hg.room (by omega)
        · cases hqueue : (bus.region r).queue m with
          | nil => exact absurd hqueue (RegionState.queue_ne_nil_of_select hselect)
          | cons request queue =>
            dsimp only
            cases htxn : requestTxn request with
            | none =>
              simp only [perform_reject, Prod.mk.injEq, reduceCtorEq, false_and, and_false,
                false_iff, not_exists, not_and]
              intro gs hpass
              obtain ⟨g, -, -, rfl, rfl, hg, -⟩ := hpass.of_cons hactive hselect
              have hrequest := hg.queue_eq
              rw [hqueue] at hrequest
              rw [(List.cons.inj hrequest).1, hg.request] at htxn
              cases htxn
            | some t =>
              obtain ⟨originalTxn, write⟩ := t
              dsimp only
              set g : Grant config :=
                { region := r, master := m, request, originalTxn, write
                  downstreamTxn := bus.nextDownstream } with hg
              have hgrants : bus.Grants g := by
                have hlt := bus.nextDownstream.toNat_lt
                exact ⟨hactive, hselect, ⟨queue, hqueue⟩, htxn, rfl, by omega⟩
              obtain ⟨rest, result, c, hrest⟩ : ∃ rest result c,
                  (arbitrateFrom rs (bus.grant g)).perform env = (rest, result, c) :=
                ⟨_, _, _, rfl⟩
              simp only [Handler.perform, hrest, Prod.mk.injEq]
              constructor
              · rintro ⟨rfl, rfl, rfl⟩
                obtain ⟨gs, hpass, rfl⟩ := ih.mp hrest
                exact ⟨_, .grant hgrants hpass, rfl⟩
              · rintro ⟨gs, hpass, rfl⟩
                obtain ⟨g', gs', rfl, hr, -, hg', hpass'⟩ := hpass.of_cons hactive hselect
                rw [hg'.eq hgrants hr] at hpass' ⊢
                rw [ih.mpr ⟨gs', hpass', rfl⟩] at hrest
                cases hrest
                exact ⟨rfl, rfl, rfl⟩
    · have hsome : (bus.region r).active.isSome := Option.isSome_iff_ne_none.mpr hactive
      simp only [hsome, if_true, pass_cons_of_skip (.inl hactive)]
      exact ih

/-- A pass over FIFOs of requests gets to its end, or it runs out of downstream transactions. -/
lemma pass_or_exhausted (env : Surroundings) (rs : List config.RegionIndex)
    {bus : MultiMasterBus config}
    (hrequests : ∀ r m, ∀ q ∈ (bus.region r).queue m, (requestTxn q).isSome) :
    (∃ gs bus', Pass rs bus gs bus') ∨
      ∃ gs bus', (arbitrateFrom rs bus).perform env = (gs.flatMap Grant.calls,
          .error (.componentFault "multi-master bus: downstream TxnId space exhausted"), bus') ∧
        Chain bus gs bus' ∧ bus'.nextDownstream.toNat + 1 = 2 ^ 64 := by
  induction rs generalizing bus with
  | nil => exact .inl ⟨[], bus, .nil⟩
  | cons r rs ih =>
    by_cases hskip : (bus.region r).active ≠ none ∨ (bus.region r).select = none
    · have hgo : arbitrateFrom (r :: rs) bus = arbitrateFrom rs bus := by
        rw [arbitrateFrom]
        rcases hskip with hactive | hselect
        · rw [if_pos (Option.isSome_iff_ne_none.mpr hactive)]
        · rw [hselect, ite_self]
      simp only [pass_cons_of_skip hskip, hgo]
      exact ih hrequests
    · rw [not_or, not_not] at hskip
      obtain ⟨hactive, hselect⟩ := hskip
      obtain ⟨m, hselect⟩ := Option.ne_none_iff_exists'.mp hselect
      obtain ⟨q, queue, hqueue⟩ :=
        List.exists_cons_of_ne_nil (RegionState.queue_ne_nil_of_select hselect)
      obtain ⟨⟨originalTxn, write⟩, htxn⟩ := Option.isSome_iff_exists.mp
        (hrequests r m q (by rw [hqueue]; exact List.mem_cons_self))
      by_cases hroom : bus.nextDownstream.toNat + 1 = 2 ^ 64
      · refine .inr ⟨[], bus, ?_, .nil, hroom⟩
        simp only [arbitrateFrom, hactive, hselect, Option.isSome_none, Bool.false_eq_true,
          if_false, if_pos hroom]
        rfl
      · obtain ⟨g, hg⟩ : ∃ g : Grant config, g =
            { region := r, master := m, request := q, originalTxn, write
              downstreamTxn := bus.nextDownstream } := ⟨_, rfl⟩
        have hgrants : bus.Grants g := by
          have hlt := bus.nextDownstream.toNat_lt
          rw [hg]
          exact ⟨hactive, hselect, ⟨queue, hqueue⟩, htxn, rfl, by omega⟩
        have hrequests' : ∀ r m, ∀ q ∈ ((bus.grant g).region r).queue m,
            (requestTxn q).isSome := by
          intro r' m' q' hq'
          rw [queue_grant] at hq'
          split_ifs at hq'
          · exact hrequests r' m' q' (List.mem_of_mem_tail hq')
          · exact hrequests r' m' q' hq'
        have hr : g.region = r := by rw [hg]
        rcases ih hrequests' with ⟨gs, bus', hpass⟩ | ⟨gs, bus', hperform, hchain, hlast⟩
        · exact .inl ⟨g :: gs, bus', hr ▸ .grant hgrants hpass⟩
        · refine .inr ⟨g :: gs, bus', ?_, .cons hgrants hchain, hlast⟩
          rw [hg] at hperform ⊢
          simp only [arbitrateFrom, hactive, hselect, hqueue, htxn, Option.isSome_none,
            Bool.false_eq_true, if_false, if_neg hroom, Handler.perform, hperform]
          rfl

lemma perform_relay_iff {bus bus' : MultiMasterBus config} {env : Surroundings}
    {r : config.RegionIndex} {txn : TxnId} {write : Bool} {msg : MemV1.MemMsg}
    {calls : List Call} :
    (bus.relay r txn write msg).perform env = (calls, .ok (), bus') ↔
      env.phase = .complete ∧ ∃ active, (bus.region r).active = some active ∧
        active.downstreamTxn = txn ∧ active.write = write ∧
        calls = .sent (config.masterPort active.master) (.memV1 (withTxn active.originalTxn msg))
          .now .complete :: bus.wakeAgain r ∧ bus' = bus.release r := by
  unfold relay
  simp only [Handler.perform]
  by_cases hphase : env.phase = .complete
  · rw [if_neg (not_not.mpr hphase)]
    simp only [hphase, true_and]
    cases hactive : (bus.region r).active with
    | none => simp
    | some active =>
      simp only [Option.filter_some, decide_eq_true_eq]
      by_cases htxn : active.downstreamTxn = txn
      · by_cases hwrite : active.write = write
        · simp only [htxn, hwrite, if_true, ne_eq, not_true_eq_false, if_false, Handler.perform]
          by_cases hagain : (bus.region r).hasQueued
          · simp [hagain, wakeAgain, Handler.perform, htxn, hwrite, eq_comm]
          · simp [hagain, wakeAgain, Handler.perform, htxn, hwrite, eq_comm]
        · simp [htxn, hwrite]
      · simp [htxn]
  · simp [hphase]

lemma perform_response_iff {bus bus' : MultiMasterBus config} {env : Surroundings}
    {r : config.RegionIndex} {msg : MemV1.MemMsg} {calls : List Call} :
    (bus.response r msg).perform env = (calls, .ok (), bus') ↔
      env.phase = .complete ∧ ∃ active, (bus.region r).active = some active ∧
        active.downstreamTxn = msg.txn ∧ responseKind msg = some active.write ∧
        calls = .sent (config.masterPort active.master) (.memV1 (withTxn active.originalTxn msg))
          .now .complete :: bus.wakeAgain r ∧ bus' = bus.release r := by
  cases msg with
  | readReq => simp [response, responseKind]
  | writeReq => simp [response, responseKind]
  | readResp txn outcome =>
    simp only [response, perform_relay_iff, responseKind, Option.some.injEq, MemMsg.txn,
      eq_comm (a := false)]
  | writeResp txn outcome =>
    simp only [response, perform_relay_iff, responseKind, Option.some.injEq, MemMsg.txn,
      eq_comm (a := true)]

/-- The handler does what `Accepts` says, or it faults the session. -/
lemma perform_handleEvent_iff {bus bus' : MultiMasterBus config} {env : Surroundings}
    {delivery : Delivered} {calls : List Call} :
    (bus.handleEvent delivery).perform env = (calls, .ok (), bus') ↔
      bus.Accepts env.phase delivery calls bus' := by
  constructor
  · intro h
    generalize hphase : env.phase = phase
    cases delivery with
    | wake token =>
      simp only [handleEvent] at h
      split_ifs at h with htoken
      · simp only [arbitrate, Handler.perform] at h
        split_ifs at h with htransfer
        · simp at h
        · obtain ⟨gs, hpass, rfl⟩ := perform_arbitrateFrom_iff.mp h
          rw [← hphase, not_not.mp htransfer, htoken]
          exact .arbitrate hpass
      · simp at h
    | message port msg =>
      cases msg with
      | mem => simp [handleEvent] at h
      | irq => simp [handleEvent] at h
      | block => simp [handleEvent] at h
      | memV1 msg =>
        simp only [handleEvent] at h
        split_ifs at h with hm hr
        · obtain ⟨hrequest, hlive, hwell, hgo | hgo⟩ := perform_request_iff.mp h
          · obtain ⟨r, offset, hrouted, rfl, rfl⟩ := hgo
            rw [← hphase, hrequest]
            exact .enqueue rfl hlive hwell hrouted
          · obtain ⟨hrouted, rfl, rfl⟩ := hgo
            rw [← hphase, hrequest]
            exact .refuse rfl hlive hwell hrouted
        · obtain ⟨hcomplete, active, hactive, htxn, hkind, rfl, rfl⟩ := perform_response_iff.mp h
          rw [← hphase, hcomplete]
          refine .relay ?_ hactive htxn hkind
          show port.toNat = config.masters.length + (port.toNat - config.masters.length)
          omega
        · simp at h
  · intro h
    generalize hphase : env.phase = phase at h
    cases h with
    | @enqueue port master msg r offset hport hlive hwell hrouted =>
      have hm : port.toNat < config.masters.length := hport ▸ master.isLt
      obtain rfl : (⟨port.toNat, hm⟩ : config.Master) = master := Fin.ext hport
      simp only [handleEvent, dif_pos hm]
      exact perform_request_iff.mpr ⟨hphase, hlive, hwell, .inl ⟨r, offset, hrouted, rfl, rfl⟩⟩
    | @refuse port master msg hport hlive hwell hrouted =>
      have hm : port.toNat < config.masters.length := hport ▸ master.isLt
      obtain rfl : (⟨port.toNat, hm⟩ : config.Master) = master := Fin.ext hport
      simp only [handleEvent, dif_pos hm]
      exact perform_request_iff.mpr ⟨hphase, hlive, hwell, .inr ⟨hrouted, rfl, rfl⟩⟩
    | arbitrate hpass =>
      simp only [handleEvent, if_true, arbitrate, Handler.perform, hphase, ne_eq,
        not_true_eq_false, if_false]
      exact perform_arbitrateFrom_iff.mpr ⟨_, hpass, rfl⟩
    | @relay port r msg active hport hactive htxn hkind =>
      have hm : ¬port.toNat < config.masters.length := by omega
      have hr : port.toNat - config.masters.length < config.regions.length := by
        have := r.isLt
        omega
      obtain rfl : (⟨port.toNat - config.masters.length, hr⟩ : config.RegionIndex) = r :=
        Fin.ext (by
          show port.toNat - config.masters.length = r
          omega)
      simp only [handleEvent, dif_neg hm, dif_pos hr]
      exact perform_response_iff.mpr ⟨hphase, active, hactive, htxn, hkind, rfl, rfl⟩

/-! ## Stopping half way -/

lemma arbitrateFrom_ends {rs : List config.RegionIndex} {bus c : MultiMasterBus config}
    (h : (arbitrateFrom rs bus).Ends c) : ∃ gs, Chain bus gs c := by
  induction rs generalizing bus with
  | nil =>
    cases h
    exact ⟨[], .nil⟩
  | cons r rs ih =>
    unfold arbitrateFrom at h
    by_cases hactive : (bus.region r).active = none
    · cases hselect : (bus.region r).select with
      | none =>
        simp only [hactive, hselect, Option.isSome_none, Bool.false_eq_true, if_false] at h
        exact ih h
      | some m =>
        simp only [hactive, hselect, Option.isSome_none, Bool.false_eq_true, if_false] at h
        split_ifs at h with hroom
        · cases h
          exact ⟨[], .nil⟩
        · cases hqueue : (bus.region r).queue m with
          | nil =>
            rw [hqueue] at h
            cases h
            exact ⟨[], .nil⟩
          | cons request queue =>
            rw [hqueue] at h
            dsimp only at h
            cases htxn : requestTxn request with
            | none =>
              rw [htxn] at h
              cases h
              exact ⟨[], .nil⟩
            | some t =>
              obtain ⟨originalTxn, write⟩ := t
              rw [htxn] at h
              dsimp only at h
              cases h with
              | send result h =>
                cases result with
                | error e =>
                  cases h
                  exact ⟨[], .nil⟩
                | ok =>
                  cases h with
                  | trace h =>
                    obtain ⟨gs, hchain⟩ := ih h
                    have hlt := bus.nextDownstream.toNat_lt
                    exact ⟨_, .cons ⟨hactive, hselect, ⟨queue, hqueue⟩, htxn, rfl, by
                      show bus.nextDownstream.toNat + 1 < 2 ^ 64
                      omega⟩ hchain⟩
    · have hsome : (bus.region r).active.isSome := Option.isSome_iff_ne_none.mpr hactive
      simp only [hsome, if_true] at h
      exact ih h

lemma fault_ends {bus c : MultiMasterBus config} {master : config.Master} {msg : MemV1.MemMsg}
    (h : (bus.fault master msg).Ends c) : c = bus := by
  have hanswer {txn : TxnId} {addr len : UInt64} {resp : MemV1.MemMsg}
      (h : (bus.answerFault master txn addr len resp).Ends c) : c = bus := by
    cases h with
    | send result h =>
      cases result with
      | error e =>
        cases h
        rfl
      | ok =>
        cases h with
        | trace h =>
          cases h
          rfl
  cases msg with
  | readReq => exact hanswer h
  | writeReq => exact hanswer h
  | readResp =>
    cases h
    rfl
  | writeResp =>
    cases h
    rfl

lemma request_ends {bus c : MultiMasterBus config} {master : config.Master} {msg : MemV1.MemMsg}
    (h : (bus.request master msg).Ends c) : bus.Moves c := by
  unfold request at h
  rcases requestTxn_cases msg with ⟨write, access, htxn, haccess⟩ | ⟨htxn, haccess⟩
  · rw [htxn, haccess] at h
    cases h with
    | phase p h =>
      beta_reduce at h
      split_ifs at h with hphase hlive
      · cases h
        exact .stay
      · cases h
        exact .stay
      · have hlive' : bus.isLive master msg.txn = false := by simpa using hlive
        cases access with
        | empty =>
          cases h
          exact .stay
        | outOfRange =>
          obtain rfl := fault_ends h
          exact .stay
        | bytes first last =>
          dsimp only at h
          cases hroute : config.route first last with
          | none =>
            rw [hroute] at h
            obtain rfl := fault_ends h
            exact .stay
          | some r =>
            rw [hroute] at h
            cases h with
            | wakeSelf result h =>
              cases h
              refine .enqueue hlive' (wellFormed_iff_access.mpr ⟨_, haccess, by simp⟩) ?_
              rw [routed, haccess]
              simp [hroute]
  · rw [htxn, haccess] at h
    cases h
    exact .stay

lemma relay_ends {bus c : MultiMasterBus config} {r : config.RegionIndex} {txn : TxnId}
    {write : Bool} {msg : MemV1.MemMsg} (h : (bus.relay r txn write msg).Ends c) :
    bus.Moves c := by
  cases h with
  | phase p h =>
    beta_reduce at h
    split_ifs at h with hphase
    · cases h
      exact .stay
    · cases hactive : (bus.region r).active with
      | none =>
        rw [hactive] at h
        cases h
        exact .stay
      | some active =>
        rw [hactive, Option.filter_some] at h
        split_ifs at h with htxn
        · dsimp only at h
          split_ifs at h with hwrite hagain
          · cases h
            exact .stay
          · cases h with
            | send result h =>
              cases result with
              | error e =>
                cases h
                exact .stay
              | ok =>
                cases h with
                | wakeSelf result h =>
                  cases h
                  exact .release hactive
          · cases h with
            | send result h =>
              cases result with
              | error e =>
                cases h
                exact .stay
              | ok =>
                cases h
                exact .release hactive
        · cases h
          exact .stay

/-- However its calls are answered, a handler stops at one of the `Moves`. -/
lemma handleEvent_ends {bus c : MultiMasterBus config} {delivery : Delivered}
    (h : (bus.handleEvent delivery).Ends c) : bus.Moves c := by
  cases delivery with
  | wake token =>
    simp only [handleEvent] at h
    split_ifs at h with htoken
    · cases h with
      | phase p h =>
        beta_reduce at h
        split_ifs at h with hphase
        · cases h
          exact .stay
        · obtain ⟨gs, hchain⟩ := arbitrateFrom_ends h
          exact .grants hchain
    · cases h
      exact .stay
  | message port msg =>
    cases msg with
    | memV1 msg =>
      simp only [handleEvent] at h
      split_ifs at h with hm hr
      · exact request_ends h
      · cases msg with
        | readResp => exact relay_ends h
        | writeResp => exact relay_ends h
        | readReq =>
          cases h
          exact .stay
        | writeReq =>
          cases h
          exact .stay
      · cases h
        exact .stay
    | mem =>
      cases h
      exact .stay
    | irq =>
      cases h
      exact .stay
    | block =>
      cases h
      exact .stay

/-- What a component of the platform sees of the runtime: it reads nothing but the phase. -/
def surroundings (phase : Phase) : Surroundings where
  component := 0
  now := 0
  phase
  rng _ := 0

/-! ## Two masters and a region -/

/-- A CPU and a DMA engine that share a RAM. -/
def sharedConfig : MultiMasterBusConfig where
  masters := ["cpu", "dma"]
  regions := [{ name := "ram", base := 0x1000, size := 0x1000 }]
  clock := 0

def cpu : sharedConfig.Master := ⟨0, by decide⟩

def dma : sharedConfig.Master := ⟨1, by decide⟩

def ram : sharedConfig.RegionIndex := ⟨0, by decide⟩

def sharedBus : MultiMasterBus sharedConfig where
  regions := #v[.idle (by decide)]
  nextDownstream := 0

lemma new_sharedConfig : new sharedConfig = .ok sharedBus := by decide +kernel

/-- Both masters have a request queued, under one transaction id. -/
def contended : MultiMasterBus sharedConfig :=
  (sharedBus.enqueue ram cpu (.readReq 7 0 4)).enqueue ram dma (.readReq 7 8 4)

/-- The grant of the CPU's request. -/
def firstGrant : Grant sharedConfig where
  region := ram
  master := cpu
  request := .readReq 7 0 4
  originalTxn := 7
  write := false
  downstreamTxn := 0

lemma perform_contended :
    (contended.handleEvent (.wake arbitrateToken)).perform (surroundings .transfer) =
      (firstGrant.calls, .ok (), contended.grant firstGrant) := rfl

end MultiMasterBus

end SystemScope.Platform
