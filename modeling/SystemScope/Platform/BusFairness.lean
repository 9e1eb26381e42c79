import SystemScope.Platform.BusSteps

/-!
# Fairness of the bus

A run of the bus is a sequence of deliveries that it accepts, in any order and at any time, with
everything it asked for (`Run`).  A forwarded request is read off what the bus asked for: a send on
the port of a region, with the record of the grant behind it (`forwards`).

Requests of one master to one region are forwarded in the order they arrive, and while one of them
waits at the head of its FIFO every other master is granted the region at most once: the passes
over a region take turns in a circle (`RoundRobin.Bypasses`), whatever else is queued
meanwhile. -/

namespace SystemScope.Platform

open MemV1

namespace MultiMasterBus

variable {config : MultiMasterBusConfig}

/-! ## Runs -/

/-- A delivery, and what the bus asked for. -/
structure Served where
  delivery : Delivered
  calls : List Call

/-- Deliveries to the bus that do not fault the session. -/
inductive Run : MultiMasterBus config → List Served → MultiMasterBus config → Prop
  | nil {bus : MultiMasterBus config} : Run bus [] bus
  | cons {bus bus' bus'' : MultiMasterBus config} {env : Surroundings} {delivery : Delivered}
      {calls : List Call} {served : List Served}
      (h : (bus.handleEvent delivery).perform env = (calls, .ok (), bus'))
      (rest : Run bus' served bus'') : Run bus (⟨delivery, calls⟩ :: served) bus''

/-- A forwarded request, with the transaction its master gave it. -/
structure Forward where
  region : ℕ
  master : ℕ
  request : MemV1.MemMsg
  deriving DecidableEq

/-- What the record of a grant says of the message sent before it. -/
def Forward.ofRecord (msg : MemV1.MemMsg) (kind : String) : List (String × Value) → Option Forward
  | [(_, .u64 region), (_, .u64 master), (_, .u64 txn), _] =>
    if kind = grantKind then
      some { region := region.toNat, master := master.toNat, request := withTxn txn msg }
    else none
  | _ => none

/-- The requests that were forwarded. -/
def forwards : List Call → List Forward
  | .sent _ (.memV1 msg) _ _ :: .traced kind fields :: rest =>
    (Forward.ofRecord msg kind fields).toList ++ forwards rest
  | _ :: rest => forwards rest
  | [] => []

/-- The requests that were forwarded to a region in a run. -/
def forwardsTo (r : config.RegionIndex) (served : List Served) : List Forward :=
  (served.flatMap fun s => forwards s.calls).filter fun f => f.region = r.val

/-- The requests of a master that were forwarded to a region in a run. -/
def forwardsOf (r : config.RegionIndex) (m : config.Master) (served : List Served) :
    List MemV1.MemMsg :=
  ((forwardsTo r served).filter fun f => f.master = m.val).map Forward.request

/-- A request of a master to a region, as it is queued. -/
def arrival (r : config.RegionIndex) (m : config.Master) : Delivered → List MemV1.MemMsg
  | .message port (.memV1 msg) =>
    match routed config msg with
    | some (r', offset) => if r' = r ∧ port.toNat = m.val then [atOffset offset msg] else []
    | none => []
  | _ => []

/-- The requests of a master to a region that arrive in a run. -/
def arrivals (r : config.RegionIndex) (m : config.Master) (served : List Served) :
    List MemV1.MemMsg :=
  served.flatMap fun s => arrival r m s.delivery

/-! ## What is forwarded in one step -/

lemma withTxn_withTxn {txn txn' : TxnId} {msg : MemV1.MemMsg} {write : Bool}
    (h : requestTxn msg = some (txn, write)) : withTxn txn (withTxn txn' msg) = msg := by
  cases msg with
  | readReq =>
    cases h
    rfl
  | writeReq =>
    cases h
    rfl
  | readResp => cases h
  | writeResp => cases h

/-- A grant as a forwarded request. -/
def Grant.forward (g : Grant config) : Forward where
  region := g.region
  master := g.master
  request := g.request

lemma forwards_grant (hconfig : config.Accepted) {g : Grant config}
    (hrequest : requestTxn g.request = some (g.originalTxn, g.write)) (rest : List Call) :
    forwards (g.calls ++ rest) = g.forward :: forwards rest := by
  have hports := hconfig.ports
  have hregion : (UInt64.ofNat g.region).toNat = g.region := by
    refine UInt64.toNat_ofNat_of_lt' (lt_trans g.region.isLt ?_)
    show config.regions.length < 2 ^ 64
    omega
  have hmaster : (UInt64.ofNat g.master).toNat = g.master := by
    refine UInt64.toNat_ofNat_of_lt' (lt_trans g.master.isLt ?_)
    show config.masters.length < 2 ^ 64
    omega
  simp [Grant.calls, forwards, Forward.ofRecord, Grant.forward, hregion, hmaster,
    withTxn_withTxn hrequest]

lemma Chain.forwards_eq (hconfig : config.Accepted) {bus bus' : MultiMasterBus config}
    {gs : List (Grant config)} (h : Chain bus gs bus') :
    forwards (gs.flatMap Grant.calls) = gs.map Grant.forward := by
  induction h with
  | nil => rfl
  | cons h _ ih => rw [List.flatMap_cons, forwards_grant hconfig h.request, ih, List.map_cons]

lemma forwards_refusal (master : config.Master) (msg : MemV1.MemMsg) :
    forwards (refusal master msg) = [] := by
  have hkind : faultKind ≠ grantKind := by decide
  cases msg <;> simp [refusal, refusalFields, forwards, Forward.ofRecord, hkind]

lemma forwards_relay (bus : MultiMasterBus config) (r : config.RegionIndex) (port : PortId)
    (msg : MemV1.MemMsg) :
    forwards (.sent port (.memV1 msg) .now .complete :: bus.wakeAgain r) = [] := by
  unfold wakeAgain
  split_ifs <;> rfl

lemma Accepts.grants (hconfig : config.Accepted) {bus bus' : MultiMasterBus config} {phase : Phase}
    {delivery : Delivered} {calls : List Call} (h : bus.Accepts phase delivery calls bus') :
    (∃ gs, Chain bus gs bus' ∧ forwards calls = gs.map Grant.forward ∧
      ∀ (r : config.RegionIndex) (m : config.Master), arrival r m delivery = []) ∨
    forwards calls = [] ∧ (∀ r : config.RegionIndex,
      (bus'.region r).rrCursor = (bus.region r).rrCursor) ∧
      ∀ (r : config.RegionIndex) (m : config.Master),
        (bus'.region r).queue m = (bus.region r).queue m ++ arrival r m delivery := by
  cases h with
  | @enqueue port master msg r offset hport hlive hwell hrouted =>
    refine .inr ⟨rfl, fun r' => rrCursor_enqueue .., fun r' m => ?_⟩
    rw [queue_enqueue]
    have hvals : (r = r' ∧ port.toNat = m.val) ↔ r' = r ∧ m = master := by
      rw [hport, Fin.ext_iff (b := master), eq_comm (a := r), eq_comm (a := master.val)]
    simp only [arrival, hrouted, hvals]
    split_ifs
    · rfl
    · rw [List.append_nil]
  | refuse hport hlive hwell hrouted =>
    exact .inr ⟨forwards_refusal _ _, fun _ => rfl, fun r m => by simp [arrival, hrouted]⟩
  | arbitrate hpass =>
    exact .inl ⟨_, hpass.chain, hpass.chain.forwards_eq hconfig, fun _ _ => rfl⟩
  | @relay port r msg active hport hactive htxn hkind =>
    refine .inr ⟨forwards_relay _ _ _ _, fun r' => rrCursor_release .., fun r' m => ?_⟩
    have hm : ¬port.toNat = m.val := by
      have := m.isLt
      omega
    have harrival : arrival r' m (.message port (.memV1 msg)) = [] := by
      simp only [arrival]
      split
      · rw [if_neg fun h => hm h.2]
      · rfl
    rw [harrival, List.append_nil, queue_release]

/-! ## First in, first out -/

/-- Grants take requests off their FIFOs from the front. -/
lemma Chain.queue_eq {bus bus' : MultiMasterBus config} {gs : List (Grant config)}
    (h : Chain bus gs bus') (r : config.RegionIndex) (m : config.Master) :
    (bus.region r).queue m =
      (gs.filter fun g => g.region = r ∧ g.master = m).map Grant.request ++
        (bus'.region r).queue m := by
  induction h with
  | nil => rfl
  | @cons bus bus' g gs h _ ih =>
    by_cases hg : g.region = r ∧ g.master = m
    · obtain ⟨rfl, rfl⟩ := hg
      rw [h.queue_eq, ih]
      simp
    · have hne : ¬(r = g.region ∧ m = g.master) := fun h => hg ⟨h.1.symm, h.2.symm⟩
      rw [queue_grant, if_neg hne] at ih
      rw [ih]
      simp [hg]

lemma Run.accepts {bus bus'' : MultiMasterBus config} {s : Served} {served : List Served}
    (h : Run bus (s :: served) bus'') :
    ∃ phase bus', bus.Accepts phase s.delivery s.calls bus' ∧ Run bus' served bus'' := by
  cases h with
  | cons h rest => exact ⟨_, _, perform_handleEvent_iff.mp h, rest⟩

lemma forwardsTo_cons (r : config.RegionIndex) (s : Served) (served : List Served) :
    forwardsTo r (s :: served) =
      ((forwards s.calls).filter fun f => f.region = r.val) ++ forwardsTo r served := by
  simp [forwardsTo]

/-- What a delivery puts on a FIFO and takes off it. -/
lemma Accepts.queue_eq (hconfig : config.Accepted) {bus bus' : MultiMasterBus config}
    {phase : Phase} {s : Served} (h : bus.Accepts phase s.delivery s.calls bus')
    (r : config.RegionIndex) (m : config.Master) :
    (bus.region r).queue m ++ arrival r m s.delivery =
      forwardsOf r m [s] ++ (bus'.region r).queue m := by
  rcases h.grants hconfig with ⟨gs, hchain, hforwards, harrival⟩ | ⟨hforwards, -, hqueue⟩
  · have hof : forwardsOf r m [s] =
        (gs.filter fun g => g.region = r ∧ g.master = m).map Grant.request := by
      simp only [forwardsOf, forwardsTo, List.flatMap_singleton, hforwards, List.filter_map,
        List.filter_filter, List.map_map]
      congr 1
      refine List.filter_congr fun g _ => ?_
      have hregion : g.forward.region = r.val ↔ g.region = r := Fin.ext_iff.symm
      have hmaster : g.forward.master = m.val ↔ g.master = m := Fin.ext_iff.symm
      simp [hregion, hmaster, Bool.and_comm]
    rw [harrival, List.append_nil, hof, ← hchain.queue_eq]
  · rw [hqueue, forwardsOf, forwardsTo, List.flatMap_singleton, hforwards]
    rfl

/-- FIFOs are first in, first out. -/
lemma Run.queue_eq (hconfig : config.Accepted) {bus bus' : MultiMasterBus config}
    {served : List Served} (h : Run bus served bus') (r : config.RegionIndex) (m : config.Master) :
    (bus.region r).queue m ++ arrivals r m served =
      forwardsOf r m served ++ (bus'.region r).queue m := by
  induction served generalizing bus with
  | nil =>
    cases h
    simp [arrivals, forwardsOf, forwardsTo]
  | cons s served ih =>
    obtain ⟨phase, next, haccepts, hrest⟩ := h.accepts
    have hstep := haccepts.queue_eq hconfig r m
    have hof : forwardsOf r m (s :: served) = forwardsOf r m [s] ++ forwardsOf r m served := by
      simp [forwardsOf, forwardsTo]
    calc (bus.region r).queue m ++ arrivals r m (s :: served)
        = ((bus.region r).queue m ++ arrival r m s.delivery) ++ arrivals r m served := by
          simp [arrivals]
      _ = forwardsOf r m [s] ++ ((next.region r).queue m ++ arrivals r m served) := by
          rw [hstep, List.append_assoc]
      _ = forwardsOf r m (s :: served) ++ (bus'.region r).queue m := by
          rw [ih hrest, hof, List.append_assoc]

/-! ## Bounded bypass -/

lemma Chain.bypasses {bus bus' : MultiMasterBus config} {gs : List (Grant config)}
    (h : Chain bus gs bus') {r : config.RegionIndex} {m : config.Master}
    (hwaits : (bus.region r).queue m ≠ []) (hothers : ∀ g ∈ gs, g.region = r → g.master ≠ m) :
    RoundRobin.Bypasses m (bus.region r).rrCursor
        ((gs.filter fun g => g.region = r).map Grant.master) (bus'.region r).rrCursor ∧
      (bus'.region r).queue m ≠ [] := by
  induction h with
  | nil => exact ⟨.nil, hwaits⟩
  | @cons bus bus' g gs h _ ih =>
    obtain ⟨hg, hgs⟩ := List.forall_mem_cons.mp hothers
    have hstill : ((bus.grant g).region r).queue m ≠ [] := by
      rw [queue_grant]
      split_ifs with hgm
      · exact absurd hgm.2.symm (hg hgm.1.symm)
      · exact hwaits
    obtain ⟨hturns, hend⟩ := ih hstill hgs
    refine ⟨?_, hend⟩
    by_cases hr : g.region = r
    · subst hr
      rw [region_grant, if_pos rfl] at hturns
      simp only [decide_true, List.filter_cons_of_pos, List.map_cons]
      refine .cons _ ?_ (RegionState.select_eq _ ▸ h.selected) (hg rfl) hturns
      simpa using hwaits
    · rw [region_grant, if_neg (Ne.symm hr)] at hturns
      simpa [hr] using hturns

lemma forwardsTo_of_chain {r : config.RegionIndex} {s : Served} {gs : List (Grant config)}
    (h : forwards s.calls = gs.map Grant.forward) :
    (forwards s.calls).filter (fun f => f.region = r.val) =
      (gs.filter fun g => g.region = r).map Grant.forward := by
  rw [h, List.filter_map]
  congr 1
  refine List.filter_congr fun g _ => ?_
  have hregion : g.forward.region = r.val ↔ g.region = r := Fin.ext_iff.symm
  simp [hregion]

/-- While requests of a master wait for a region and none is forwarded, the other masters take
turns. -/
lemma Run.bypasses (hconfig : config.Accepted) {bus bus' : MultiMasterBus config}
    {served : List Served} (h : Run bus served bus') {r : config.RegionIndex} {m : config.Master}
    (hwaits : (bus.region r).queue m ≠ [])
    (hothers : ∀ f ∈ forwardsTo r served, f.master ≠ m.val) :
    ∃ turns : List config.Master, (forwardsTo r served).map Forward.master = turns.map Fin.val ∧
      RoundRobin.Bypasses m (bus.region r).rrCursor turns (bus'.region r).rrCursor := by
  induction served generalizing bus with
  | nil =>
    cases h
    exact ⟨[], rfl, .nil⟩
  | cons s served ih =>
    obtain ⟨phase, next, haccepts, hrest⟩ := h.accepts
    rw [forwardsTo_cons] at hothers ⊢
    have hothers' : ∀ f ∈ forwardsTo r served, f.master ≠ m.val := fun f hf =>
      hothers f (List.mem_append_right _ hf)
    rcases haccepts.grants hconfig with ⟨gs, hchain, hforwards, -⟩ | ⟨hforwards, hcursor, hqueue⟩
    · have hto := forwardsTo_of_chain (r := r) hforwards
      rw [hto] at hothers ⊢
      have hgs : ∀ g ∈ gs, g.region = r → g.master ≠ m := by
        intro g hg hr hm
        refine hothers g.forward (List.mem_append_left _ (List.mem_map.mpr ⟨g, ?_, rfl⟩)) ?_
        · simp [hg, hr]
        · rw [← hm]
          rfl
      obtain ⟨hfirst, hstill⟩ := hchain.bypasses hwaits hgs
      obtain ⟨turns, hturns, hlater⟩ := ih hrest hstill hothers'
      refine ⟨(gs.filter fun g => g.region = r).map Grant.master ++ turns, ?_,
        hfirst.append hlater⟩
      rw [List.map_append, List.map_append, hturns, List.map_map, List.map_map]
      rfl
    · have hstill : (next.region r).queue m ≠ [] := by
        rw [hqueue]
        exact fun h => hwaits (List.append_eq_nil_iff.mp h).1
      obtain ⟨turns, hturns, hlater⟩ := ih hrest hstill hothers'
      rw [hcursor] at hlater
      exact ⟨turns, by rw [hforwards]; exact hturns, hlater⟩

/-- Round-robin fairness and FIFO: requests of a master to a region are forwarded in the order
they arrive, and while the head of its FIFO waits, every other master is granted the region at
most once. -/
theorem run_fair {start : MultiMasterBus config} (hnew : new config = .ok start)
    {bus bus' : MultiMasterBus config} {served : List Served} (hrun : Run bus served bus')
    (r : config.RegionIndex) (m : config.Master) :
    (bus.region r).queue m ++ arrivals r m served =
        forwardsOf r m served ++ (bus'.region r).queue m ∧
      ((bus.region r).queue m ≠ [] → (∀ f ∈ forwardsTo r served, f.master ≠ m.val) →
        ((forwardsTo r served).map Forward.master).Nodup ∧
          (forwardsTo r served).length ≤ config.masters.length - 1) := by
  obtain ⟨hconfig, -⟩ := new_eq_ok.mp hnew
  refine ⟨hrun.queue_eq hconfig r m, fun hwaits hothers => ?_⟩
  obtain ⟨turns, hturns, hbypasses⟩ := hrun.bypasses hconfig hwaits hothers
  have hlength : (forwardsTo r served).length = turns.length := by
    simpa using congrArg List.length hturns
  have hrank := RoundRobin.rank_lt (bus.region r).rrCursor m
  refine ⟨?_, ?_⟩
  · rw [hturns]
    exact hbypasses.nodup.map Fin.val_injective
  · have hle := hbypasses.length_le
    omega

/-- The DMA engine waits for one grant of the CPU at most. -/
theorem run_fair_contended :
    ((forwardsTo ram [⟨.wake arbitrateToken, firstGrant.calls⟩]).map Forward.master).Nodup ∧
      (forwardsTo ram [⟨.wake arbitrateToken, firstGrant.calls⟩]).length ≤ 1 :=
  (run_fair new_sharedConfig (.cons perform_contended .nil) ram dma).2 (by decide +kernel)
    (by decide +kernel)

end MultiMasterBus

end SystemScope.Platform
