import SystemScope.Platform.BusNet

/-!
# The bus delivers exactly once

`Tracks` relates the tickets of a run to the state of the bus: the waiting requests are its FIFOs,
in order, and the active ones are the active transactions of the regions.  Its step lemmas follow
the four things that can happen to a request: it is queued, refused, granted or answered.  A pass
is a chain of grants, and a run is a sequence of all of these (`Reaches.tracks`).
-/

namespace SystemScope.Platform

open MemV1

namespace MultiMasterBus

variable {config : MultiMasterBusConfig}

/-! ## Tickets and the state of the bus -/

/-- Whether a request is a write. -/
def isWrite (msg : MemV1.MemMsg) : Bool := (requestTxn msg).any Prod.snd

namespace Ticket

/-- What the FIFO of a master at a region holds of the request. -/
def queued (r : config.RegionIndex) (m : config.Master) (t : Ticket config) :
    Option MemV1.MemMsg :=
  match t.fate with
  | .waiting r' =>
    if r' = r ∧ t.master = m then some (toRegion r t.request.txn t.request) else none
  | .refused | .active .. | .done .. => none

/-- What a region holds of the request while it is active. -/
def activeIn (r : config.RegionIndex) (t : Ticket config) :
    Option (ActiveTxn config.masters.length) :=
  match t.fate with
  | .active r' downstream =>
    if r' = r then
      some
        { master := t.master
          originalTxn := t.request.txn
          downstreamTxn := downstream
          write := isWrite t.request }
    else none
  | .refused | .waiting _ | .done .. => none

lemma queued_eq_some {r : config.RegionIndex} {m : config.Master} {t : Ticket config}
    {q : MemV1.MemMsg} :
    t.queued r m = some q ↔
      t.fate = .waiting r ∧ t.master = m ∧ toRegion r t.request.txn t.request = q := by
  unfold queued
  cases hfate : t.fate with
  | waiting r' =>
    dsimp only
    by_cases hr : r' = r
    · by_cases hm : t.master = m
      · simp [hr, hm]
      · simp [hm]
    · simp [hr]
  | refused => simp
  | active => simp
  | done => simp

lemma activeIn_eq_some {r : config.RegionIndex} {t : Ticket config}
    {a : ActiveTxn config.masters.length} :
    t.activeIn r = some a ↔ t.fate = .active r a.downstreamTxn ∧ t.master = a.master ∧
      t.request.txn = a.originalTxn ∧ isWrite t.request = a.write := by
  obtain ⟨master, originalTxn, downstreamTxn, write⟩ := a
  unfold activeIn
  cases hfate : t.fate with
  | active r' downstream =>
    dsimp only
    by_cases hr : r' = r
    · simp only [hr, if_true, Option.some.injEq, ActiveTxn.mk.injEq, Fate.active.injEq, true_and]
      grind
    · simp [hr]
  | refused => simp
  | waiting => simp
  | done => simp

end Ticket

lemma requestTxn_toRegion (r : config.RegionIndex) (txn : TxnId) (msg : MemV1.MemMsg) :
    requestTxn (toRegion r txn msg) = (requestTxn msg).map fun p => (txn, p.2) := by
  cases msg <;> rfl

lemma withTxn_toRegion (r : config.RegionIndex) {txn txn' : TxnId} {msg : MemV1.MemMsg}
    (h : (config.regions.get r).Contains msg) :
    withTxn txn (toRegion r txn' msg) = toRegion r txn msg := by
  obtain ⟨first, size, hspans, -⟩ := h
  cases msg with
  | readReq => rfl
  | writeReq => rfl
  | readResp => cases hspans
  | writeResp => cases hspans

lemma requestTxn_of_contains {region : Region} {msg : MemV1.MemMsg} (h : region.Contains msg) :
    requestTxn msg = some (msg.txn, isWrite msg) := by
  obtain ⟨first, size, hspans, -⟩ := h
  cases msg with
  | readReq => rfl
  | writeReq => rfl
  | readResp => cases hspans
  | writeResp => cases hspans

/-- The tickets of a run and the state of the bus say the same. -/
structure Tracks (net : Net config) (tickets : List (Ticket config)) : Prop
    extends Accounts net tickets where
  queues : ∀ r m, (net.bus.region r).queue m = tickets.filterMap (Ticket.queued r m)
  actives : ∀ r, (net.bus.region r).active.toList = tickets.filterMap (Ticket.activeIn r)
  atTargets : net.atTargets.Perm (tickets.filterMap Ticket.atTarget)
  awaiting : net.awaiting.Perm (tickets.filterMap Ticket.awaiting)
  counter : net.forwarded.length = net.bus.nextDownstream.toNat

namespace Tracks

variable {net : Net config} {tickets : List (Ticket config)}

/-! ## Requests -/

/-- A request is queued. -/
lemma enqueue (hconfig : config.Accepted) (h : Tracks net tickets) {m : config.Master}
    {msg : MemV1.MemMsg} {r : config.RegionIndex} {offset : UInt64}
    (hrouted : routed config msg = some (r, offset)) :
    Tracks
      { net with
        received := net.received ++ [(m, msg)]
        awaiting := net.awaiting ++ [(m, msg.txn)]
        bus := net.bus.enqueue r m (atOffset offset msg)
        wakes := net.wakes + 1 }
      (tickets ++ [{ master := m, request := msg, fate := .waiting r }]) where
  received := by simp [h.received]
  placed t ht := by
    rcases List.mem_append.mp ht with ht | ht
    · exact h.placed t ht
    · rw [List.mem_singleton.mp ht]
      exact ((routed_eq_some hconfig).mp hrouted).1
  forwarded := by
    rw [List.filterMap_append_none rfl]
    exact h.forwarded
  answered := by
    rw [List.filterMap_append_none rfl]
    exact h.answered
  responded := by
    rw [List.filterMap_append_none rfl]
    exact h.responded
  fresh := h.fresh
  stray := h.stray
  queues r' m' := by
    rw [queue_enqueue, h.queues, atOffset_eq_toRegion hconfig hrouted]
    by_cases hcond : r' = r ∧ m' = m
    · obtain ⟨rfl, rfl⟩ := hcond
      rw [if_pos ⟨rfl, rfl⟩, List.filterMap_append_some]
      exact Ticket.queued_eq_some.mpr ⟨rfl, rfl, rfl⟩
    · rw [if_neg hcond, List.filterMap_append_none]
      have hcond' : ¬(r = r' ∧ m = m') := fun hc => hcond ⟨hc.1.symm, hc.2.symm⟩
      simp [Ticket.queued, hcond']
  actives r' := by
    rw [active_enqueue, h.actives, List.filterMap_append_none rfl]
  atTargets := by
    rw [List.filterMap_append_none rfl]
    exact h.atTargets
  awaiting := by
    rw [List.filterMap_append_some (f := Ticket.awaiting) rfl]
    exact h.awaiting.append_right _
  counter := h.counter

lemma refuse (hconfig : config.Accepted) (h : Tracks net tickets) {m : config.Master}
    {msg : MemV1.MemMsg} (hrouted : routed config msg = none) :
    Tracks
      { net with
        received := net.received ++ [(m, msg)]
        responded := net.responded ++ [(m, accessFault msg)] }
      (tickets ++ [{ master := m, request := msg, fate := .refused }]) where
  received := by simp [h.received]
  placed t ht := by
    rcases List.mem_append.mp ht with ht | ht
    · exact h.placed t ht
    · rw [List.mem_singleton.mp ht]
      exact (routed_eq_none hconfig).mp hrouted
  forwarded := by
    rw [List.filterMap_append_none rfl]
    exact h.forwarded
  answered := by
    rw [List.filterMap_append_none rfl]
    exact h.answered
  responded := by
    rw [List.filterMap_append_some (f := Ticket.responded) rfl]
    exact h.responded.append_right _
  fresh := h.fresh
  stray := h.stray
  queues r m' := by rw [h.queues, List.filterMap_append_none rfl]
  actives r := by rw [h.actives, List.filterMap_append_none rfl]
  atTargets := by
    rw [List.filterMap_append_none rfl]
    exact h.atTargets
  awaiting := by
    rw [List.filterMap_append_none rfl]
    exact h.awaiting
  counter := h.counter

/-! ## Grants -/

/-- A waiting request is forwarded: its ticket becomes active. -/
lemma grant (h : Tracks net tickets) {g : Grant config} (hg : net.bus.Grants g) :
    ∃ tickets', Tracks
      { net with
        bus := net.bus.grant g
        forwarded := net.forwarded ++ [(g.region, withTxn g.downstreamTxn g.request)]
        atTargets := net.atTargets ++ [(g.region, withTxn g.downstreamTxn g.request)] }
      tickets' := by
  have hqueue := h.queues g.region g.master
  rw [hg.queue_eq] at hqueue
  obtain ⟨before, t, after, rfl, hbefore, ht, hafter⟩ :=
    List.filterMap_eq_cons_iff.mp hqueue.symm
  obtain ⟨hfate, hmaster, hrequest⟩ := Ticket.queued_eq_some.mp ht
  have hmem : t ∈ before ++ t :: after := by simp
  have hplaced : (config.regions.get g.region).Contains t.request := by
    have := h.placed t hmem
    rwa [Ticket.Placed, hfate] at this
  have hmsg : withTxn g.downstreamTxn g.request =
      toRegion g.region g.downstreamTxn t.request := by
    rw [← hrequest, withTxn_toRegion _ hplaced]
  have htxn : t.request.txn = g.originalTxn ∧ isWrite t.request = g.write := by
    have hgrant := hg.request
    rw [← hrequest, requestTxn_toRegion, requestTxn_of_contains hplaced] at hgrant
    simpa using hgrant
  -- The ticket of the request, before and after.
  obtain ⟨t', ht'⟩ : ∃ t' : Ticket config,
      t' = { t with fate := .active g.region g.downstreamTxn } := ⟨_, rfl⟩
  have hdownstream : (withTxn g.downstreamTxn g.request).txn = g.downstreamTxn := by
    cases g.request <;> rfl
  refine ⟨before ++ t' :: after, ?_⟩
  constructor
  · constructor
    · simp [h.received, ht']
    · refine List.forall_mem_replace h.placed ?_
      rw [ht']
      exact hplaced
    · refine h.forwarded.replace_some ?_ ?_
      · simp [Ticket.forwarded, hfate]
      · simp [Ticket.forwarded, ht', hmsg]
    · rw [List.filterMap_replace_same (t := t)]
      · exact h.answered
      · simp [Ticket.answered, ht', hfate]
    · rw [List.filterMap_replace_same (t := t)]
      · exact h.responded
      · simp [Ticket.responded, ht', hfate]
    · rw [List.map_append, h.fresh, List.length_append, List.length_singleton, List.range_succ,
        h.counter, ← hg.fresh]
      simp [hdownstream]
    · exact h.stray
  · intro r m
    by_cases hcond : r = g.region ∧ m = g.master
    · obtain ⟨rfl, rfl⟩ := hcond
      have hnone : t'.queued g.region g.master = none := by simp [Ticket.queued, ht']
      rw [List.filterMap_append, List.filterMap_cons_none hnone, hafter,
        List.filterMap_eq_nil_iff.mpr hbefore, List.nil_append]
    · rw [queue_grant, if_neg hcond, h.queues]
      refine (List.filterMap_replace_same ?_).symm
      have hne : ¬(g.region = r ∧ t.master = m) := fun hc =>
        hcond ⟨hc.1.symm, hc.2.symm.trans hmaster⟩
      simp [Ticket.queued, ht', hfate, hne]
  · intro r
    rw [region_grant]
    by_cases hr : r = g.region
    · subst hr
      have hidle := h.actives g.region
      rw [hg.idle, Option.toList_none] at hidle
      have hperm := (List.filterMap_middle_perm (Ticket.activeIn g.region) before after t')
      have hrest : (before ++ after).filterMap (Ticket.activeIn g.region) = [] := by
        rw [List.filterMap_eq_nil_iff]
        intro x hx
        refine List.filterMap_eq_nil_iff.mp hidle.symm x ?_
        grind
      have ht'' : t'.activeIn g.region = some g.active := by
        rw [Ticket.activeIn_eq_some, ht']
        exact ⟨rfl, hmaster, htxn.1, htxn.2⟩
      rw [hrest, ht''] at hperm
      rw [if_pos rfl]
      exact (List.perm_singleton.mp hperm).symm
    · rw [if_neg hr, h.actives]
      refine (List.filterMap_replace_same ?_).symm
      simp [Ticket.activeIn, ht', hfate, Ne.symm hr]
  · refine h.atTargets.replace_some ?_ ?_
    · simp [Ticket.atTarget, hfate]
    · simp [Ticket.atTarget, ht', hmsg]
  · rw [List.filterMap_replace_same (t := t)]
    · exact h.awaiting
    · simp [Ticket.awaiting, ht', hfate]
  · rw [List.length_append, List.length_singleton, h.counter]
    exact hg.toNat_next.symm

/-- What a pass asks for is carried out. -/
lemma chain (hconfig : config.Accepted) {bus' : MultiMasterBus config} {gs : List (Grant config)}
    (h : Tracks net tickets) (hchain : Chain net.bus gs bus') :
    (∃ tickets', Tracks ((gs.flatMap Grant.calls).foldl Net.post { net with bus := bus' })
      tickets') ∧
    ((gs.flatMap Grant.calls).foldl Net.post { net with bus := bus' }).bus = bus' ∧
    ((gs.flatMap Grant.calls).foldl Net.post { net with bus := bus' }).wakes = net.wakes ∧
    ((gs.flatMap Grant.calls).foldl Net.post { net with bus := bus' }).awaiting = net.awaiting ∧
    net.atTargets.length ≤
      ((gs.flatMap Grant.calls).foldl Net.post { net with bus := bus' }).atTargets.length := by
  obtain ⟨bus, hbus⟩ : ∃ bus, bus = net.bus := ⟨_, rfl⟩
  rw [← hbus] at hchain
  induction hchain generalizing net tickets with
  | nil =>
    subst hbus
    exact ⟨⟨tickets, h⟩, rfl, rfl, rfl, le_rfl⟩
  | @cons bus bus' g gs hg _ ih =>
    subst hbus
    obtain ⟨tickets', h'⟩ := h.grant hg
    obtain ⟨htracks, hbus', hwakes, hawaiting, hlength⟩ := ih h' rfl
    rw [List.flatMap_cons, List.foldl_append, Net.post_grant hconfig]
    refine ⟨htracks, hbus', hwakes, hawaiting, le_trans ?_ hlength⟩
    simp

/-! ## Answers -/

lemma exists_active (h : Tracks net tickets) {r : config.RegionIndex} {request : MemV1.MemMsg}
    (hmem : (r, request) ∈ net.atTargets) :
    ∃ t ∈ tickets, ∃ active : ActiveTxn config.masters.length,
      t.fate = .active r active.downstreamTxn ∧
      (net.bus.region r).active = some active ∧ t.activeIn r = some active ∧
      request = toRegion r active.downstreamTxn t.request := by
  obtain ⟨t, ht, hat⟩ := List.mem_filterMap.mp (h.atTargets.mem_iff.mp hmem)
  unfold Ticket.atTarget at hat
  split at hat
  next r' downstream hfate =>
    obtain ⟨rfl, rfl⟩ := Prod.mk.inj (Option.some.inj hat)
    obtain ⟨a, ha⟩ : ∃ a : ActiveTxn config.masters.length,
        a = ⟨t.master, t.request.txn, downstream, isWrite t.request⟩ := ⟨_, rfl⟩
    have hin : t.activeIn r' = some a := by
      rw [Ticket.activeIn_eq_some, ha]
      exact ⟨hfate, rfl, rfl, rfl⟩
    have hactive : a ∈ (net.bus.region r').active.toList := by
      rw [h.actives]
      exact List.mem_filterMap.mpr ⟨t, ht, hin⟩
    refine ⟨t, ht, a, ?_, Option.mem_toList.mp hactive, hin, ?_⟩
    · rw [ha]
      exact hfate
    · rw [ha]
  next => cases hat
  next => cases hat
  next => cases hat

lemma answers_toRegion {r : config.RegionIndex} {txn : TxnId} {request answer : MemV1.MemMsg}
    (h : Answers answer (toRegion r txn request)) :
    answer.txn = txn ∧ responseKind answer = some (isWrite request) ∧
      withTxn request.txn answer = toMaster request answer := by
  cases answer with
  | readResp txn' outcome =>
    cases request with
    | readReq =>
      obtain rfl := h
      exact ⟨rfl, rfl, rfl⟩
    | writeReq => cases h
    | readResp => cases h
    | writeResp => cases h
  | writeResp txn' outcome =>
    cases request with
    | writeReq =>
      obtain rfl := h
      exact ⟨rfl, rfl, rfl⟩
    | readReq => cases h
    | readResp => cases h
    | writeResp => cases h
  | readReq => cases h
  | writeReq => cases h

lemma answer (h : Tracks net tickets) {r : config.RegionIndex} {request answer : MemV1.MemMsg}
    (hmem : (r, request) ∈ net.atTargets) (hanswers : Answers answer request) :
    ∃ active, (net.bus.region r).active = some active ∧ active.downstreamTxn = answer.txn ∧
      responseKind answer = some active.write ∧
      (active.master, active.originalTxn) ∈ net.awaiting ∧
      ∃ tickets', Tracks
        { net with
          bus := net.bus.release r
          atTargets := net.atTargets.erase (r, request)
          awaiting := net.awaiting.erase (active.master, active.originalTxn)
          answered := net.answered ++ [(r, answer)]
          responded := net.responded ++ [(active.master, withTxn active.originalTxn answer)] }
        tickets' := by
  obtain ⟨t, ht, active, hfate, hactive, hin, rfl⟩ := h.exists_active hmem
  obtain ⟨-, hmaster, horiginal, hwrite⟩ := Ticket.activeIn_eq_some.mp hin
  obtain ⟨htxn, hkind, hresponse⟩ := answers_toRegion hanswers
  have hpending : t.awaiting = some (active.master, active.originalTxn) := by
    simp [Ticket.awaiting, hfate, hmaster, horiginal]
  refine ⟨active, hactive, htxn.symm, by rw [hkind, hwrite], ?_, ?_⟩
  · exact h.awaiting.mem_iff.mpr (List.mem_filterMap.mpr ⟨t, ht, hpending⟩)
  obtain ⟨before, after, rfl⟩ := List.append_of_mem ht
  -- The ticket of the request, before and after.
  obtain ⟨t', ht'⟩ : ∃ t' : Ticket config,
      t' = { t with fate := .done r active.downstreamTxn answer } := ⟨_, rfl⟩
  refine ⟨before ++ t' :: after, ?_⟩
  constructor
  · constructor
    · simp [h.received, ht']
    · refine List.forall_mem_replace h.placed ?_
      have hplaced := h.placed t ht
      rw [Ticket.Placed, hfate] at hplaced
      rw [ht']
      exact ⟨hplaced, hanswers⟩
    · rw [List.filterMap_replace_same (t := t)]
      · exact h.forwarded
      · simp [Ticket.forwarded, ht', hfate]
    · refine h.answered.replace_some ?_ ?_
      · simp [Ticket.answered, hfate]
      · simp [Ticket.answered, ht']
    · refine h.responded.replace_some ?_ ?_
      · simp [Ticket.responded, hfate]
      · simp [Ticket.responded, ht', hmaster, ← horiginal, hresponse]
    · exact h.fresh
    · exact h.stray
  · intro r' m
    rw [queue_release, h.queues]
    refine (List.filterMap_replace_same ?_).symm
    simp [Ticket.queued, ht', hfate]
  · intro r'
    rw [active_release]
    by_cases hr : r' = r
    · subst hr
      have hold := h.actives r'
      have hperm := List.filterMap_middle_perm (Ticket.activeIn r') before after t
      have hperm' := List.filterMap_middle_perm (Ticket.activeIn r') before after t'
      have hnone : t'.activeIn r' = none := by simp [Ticket.activeIn, ht']
      rw [← hold, hactive, hin] at hperm
      have hrest : (before ++ after).filterMap (Ticket.activeIn r') = [] := by
        have hlength := hperm.length_eq
        simp only [Option.toList_some, List.length_append, List.length_singleton] at hlength
        exact List.length_eq_zero_iff.mp (by omega)
      rw [hrest, hnone] at hperm'
      rw [if_pos rfl]
      exact (List.perm_nil.mp hperm').symm
    · rw [if_neg hr, h.actives]
      refine (List.filterMap_replace_same ?_).symm
      simp [Ticket.activeIn, ht', hfate, Ne.symm hr]
  · refine h.atTargets.replace_none ?_ ?_
    · simp [Ticket.atTarget, hfate]
    · simp [Ticket.atTarget, ht']
  · refine h.awaiting.replace_none hpending ?_
    simp [Ticket.awaiting, ht']
  · exact h.counter

/-! ## Transactions in use -/

/-- What the bus takes for live has no response yet. -/
lemma mem_awaiting_of_isLive (h : Tracks net tickets) {m : config.Master} {txn : TxnId}
    (hlive : net.bus.isLive m txn) : (m, txn) ∈ net.awaiting := by
  rw [h.awaiting.mem_iff, List.mem_filterMap]
  obtain ⟨r, ⟨a, hactive, rfl, rfl⟩ | ⟨q, hq, write, htxn⟩⟩ := isLive_iff.mp hlive
  · have hmem : a ∈ tickets.filterMap (Ticket.activeIn r) := by
      rw [← h.actives, hactive]
      simp
    obtain ⟨t, ht, hin⟩ := List.mem_filterMap.mp hmem
    obtain ⟨hfate, hmaster, horiginal, -⟩ := Ticket.activeIn_eq_some.mp hin
    exact ⟨t, ht, by simp [Ticket.awaiting, hfate, hmaster, horiginal]⟩
  · rw [h.queues] at hq
    obtain ⟨t, ht, hin⟩ := List.mem_filterMap.mp hq
    obtain ⟨hfate, hmaster, rfl⟩ := Ticket.queued_eq_some.mp hin
    have hplaced := h.placed t ht
    rw [Ticket.Placed, hfate] at hplaced
    rw [requestTxn_toRegion, requestTxn_of_contains hplaced] at htxn
    have heq : t.request.txn = txn := by simpa using congrArg (Option.map Prod.fst) htxn
    exact ⟨t, ht, by simp [Ticket.awaiting, hfate, hmaster, heq]⟩

lemma requestTxn_queue (h : Tracks net tickets) {r : config.RegionIndex} {m : config.Master}
    {q : MemV1.MemMsg} (hq : q ∈ (net.bus.region r).queue m) : (requestTxn q).isSome := by
  rw [h.queues] at hq
  obtain ⟨t, ht, hin⟩ := List.mem_filterMap.mp hq
  obtain ⟨hfate, -, rfl⟩ := Ticket.queued_eq_some.mp hin
  have hplaced := h.placed t ht
  rw [Ticket.Placed, hfate] at hplaced
  rw [requestTxn_toRegion, requestTxn_of_contains hplaced]
  rfl

/-! ## Steps -/

/-- Where a request could be granted, a wake is pending. -/
def Woken (net : Net config) : Prop :=
  ∀ r m, (net.bus.region r).active = none → (net.bus.region r).queue m ≠ [] → 0 < net.wakes

/-- What a step must show: the tickets go on accounting for everything, and wakes and answers leave
less to do. -/
structure Advances (net : Net config) (action : Action config) (net' : Net config) : Prop where
  tracks : ∃ tickets', Tracks net' tickets'
  woken : Woken net'
  work : (∀ m msg, action ≠ .request m msg) → net'.work < net.work

lemma deliver_eq {net : Net config} {phase : Phase} {delivery : Delivered} {calls : List Call}
    {bus : MultiMasterBus config} (h : net.bus.Accepts phase delivery calls bus) :
    net.deliver phase delivery = (.ok (), calls.foldl Net.post { net with bus }) := by
  have hperform : (net.bus.handleEvent delivery).perform (surroundings phase) =
      (calls, .ok (), bus) := perform_handleEvent_iff.mpr h
  rw [Net.deliver, hperform]

lemma step_request (hconfig : config.Accepted) (h : Tracks net tickets) (hwoken : Woken net)
    {m : config.Master} {msg : MemV1.MemMsg} (hallowed : net.Allowed (.request m msg)) :
    ∃ net', net.step (.request m msg) = (.ok (), net') ∧
      Advances net (.request m msg) net' := by
  obtain ⟨hwell, hawait⟩ := hallowed
  have hlive : net.bus.isLive m msg.txn = false := by
    by_contra hlive
    exact hawait (h.mem_awaiting_of_isLive (by simpa using hlive))
  have hport := hconfig.toNat_masterPort m
  have hwork : ∀ net' : Net config,
      (∀ m' msg', Action.request m msg ≠ .request m' msg') → net'.work < net.work :=
    fun _ hne => absurd rfl (hne m msg)
  unfold Net.step
  cases hrouted : routed config msg with
  | some p =>
    obtain ⟨r, offset⟩ := p
    refine ⟨_, deliver_eq (.enqueue hport hlive hwell hrouted), ?_, ?_, hwork _⟩
    · exact ⟨_, h.enqueue hconfig hrouted⟩
    · intro r' m' _ _
      exact Nat.succ_pos _
  | none =>
    refine ⟨_, deliver_eq (.refuse hport hlive hwell hrouted), ?_⟩
    have htxn : (accessFault msg).txn = msg.txn := by
      obtain ⟨first, size, hspans, -⟩ := hwell
      cases msg with
      | readReq => rfl
      | writeReq => rfl
      | readResp => cases hspans
      | writeResp => cases hspans
    have herase : (net.awaiting ++ [(m, msg.txn)]).erase (m, msg.txn) = net.awaiting := by
      rw [List.erase_append_right _ hawait, List.erase_cons_head, List.append_nil]
    simp only [refusal, List.foldl_cons, List.foldl_nil, Net.post_traced,
      Net.post_response hconfig, htxn, herase]
    exact ⟨⟨_, h.refuse hconfig hrouted⟩, hwoken, hwork _⟩

lemma step_wake (hconfig : config.Accepted) (h : Tracks net tickets)
    (hallowed : net.Allowed .wake) :
    (∃ net', net.step .wake = (.ok (), net') ∧ Advances net .wake net') ∨
      ∃ net', net.step .wake = (.error (.componentFault
        "multi-master bus: downstream TxnId space exhausted"), net') ∧
        net'.forwarded.length = 2 ^ 64 - 1 := by
  have hpending : 0 < net.wakes := hallowed
  have htaken : Tracks { net with wakes := net.wakes - 1 } tickets := { h with }
  rcases pass_or_exhausted (surroundings .transfer) (List.finRange config.regions.length)
      fun r m q hq => h.requestTxn_queue hq with
    ⟨gs, bus', hpass⟩ | ⟨gs, bus', hperform, hchain, hlast⟩
  · obtain ⟨htracks, hbus, hwakes, hawaiting, hlength⟩ := htaken.chain hconfig hpass.chain
    refine .inl ⟨_, deliver_eq (.arbitrate hpass), htracks, ?_, fun _ => ?_⟩
    · intro r m hidle hqueue
      rw [hbus] at hidle hqueue
      rcases hpass.done (List.nodup_finRange _) r (List.mem_finRange r) with hbusy | hnone
      · exact absurd hidle hbusy
      · exact absurd (RegionState.select_eq_none.mp hnone m) hqueue
    · unfold Net.work
      rw [hwakes, hawaiting]
      dsimp only at hlength ⊢
      omega
  · obtain ⟨⟨tickets', htracks⟩, hbus, -⟩ := htaken.chain hconfig hchain
    refine .inr ⟨(gs.flatMap Grant.calls).foldl Net.post
      { net with wakes := net.wakes - 1, bus := bus' }, ?_, ?_⟩
    · have hhandle : (net.bus.handleEvent (.wake arbitrateToken)).perform
          (surroundings .transfer) = (gs.flatMap Grant.calls, .error (.componentFault
            "multi-master bus: downstream TxnId space exhausted"), bus') := hperform
      unfold Net.step Net.deliver
      rw [hhandle]
    · rw [htracks.counter, hbus]
      omega

lemma step_answer (hconfig : config.Accepted) (h : Tracks net tickets) (hwoken : Woken net)
    {r : config.RegionIndex} {request answer : MemV1.MemMsg}
    (hallowed : net.Allowed (.answer r request answer)) :
    ∃ net', net.step (.answer r request answer) = (.ok (), net') ∧
      Advances net (.answer r request answer) net' := by
  obtain ⟨hmem, hanswers⟩ := hallowed
  obtain ⟨active, hactive, htxn, hkind, hawait, tickets', htracks⟩ := h.answer hmem hanswers
  have hport := hconfig.toNat_regionPort r
  refine ⟨_, deliver_eq (.relay hport hactive htxn hkind), ?_⟩
  have hresponse : (withTxn active.originalTxn answer).txn = active.originalTxn := by
    cases answer <;> rfl
  simp only [List.foldl_cons, Net.post_response hconfig, Net.post_wakeAgain, hresponse]
  refine ⟨⟨tickets', { htracks with }⟩, ?_, fun _ => ?_⟩
  · intro r' m hidle hqueue
    dsimp only at hidle hqueue ⊢
    rw [queue_release] at hqueue
    rw [active_release] at hidle
    by_cases hr : r' = r
    · subst hr
      have hagain : (net.bus.region r').hasQueued :=
        RegionState.hasQueued_iff.mpr ⟨m, hqueue⟩
      rw [if_pos hagain]
      exact Nat.succ_pos _
    · rw [if_neg hr] at hidle
      exact Nat.add_pos_left (hwoken r' m hidle hqueue) _
  · have herase := List.length_erase_of_mem hmem
    have herase' := List.length_erase_of_mem hawait
    have hpos := List.length_pos_of_mem hmem
    have hpos' := List.length_pos_of_mem hawait
    unfold Net.work
    dsimp only
    rw [herase, herase']
    split_ifs <;> omega

end Tracks

lemma Tracks.start {bus : MultiMasterBus config} (hnew : new config = .ok bus) :
    Tracks (Net.start bus) [] ∧ Tracks.Woken (Net.start bus) := by
  have hqueue : ∀ r m, ((Net.start bus).bus.region r).queue m = [] := by
    intro r m
    obtain ⟨hmasters, hidle⟩ := region_new hnew r
    show (bus.region r).queue m = []
    rw [hidle, RegionState.queue_idle]
  refine ⟨?_, fun r m _ hne => absurd (hqueue r m) hne⟩
  constructor
  · exact ⟨rfl, by simp, .nil, .nil, .nil, rfl, rfl⟩
  · exact hqueue
  · intro r
    obtain ⟨hmasters, hidle⟩ := region_new hnew r
    show (bus.region r).active.toList = []
    rw [hidle]
    rfl
  · exact .nil
  · exact .nil
  · obtain ⟨hconfig, rfl⟩ := new_eq_ok.mp hnew
    rfl

/-- Every state of a run is accounted for. -/
lemma Net.Reaches.tracks {start : MultiMasterBus config} (hnew : new config = .ok start)
    {net : Net config} (h : Net.Reaches start net) :
    ∃ tickets, Tracks net tickets ∧ Tracks.Woken net := by
  obtain ⟨hconfig, -⟩ := new_eq_ok.mp hnew
  induction h with
  | start => exact ⟨[], Tracks.start hnew⟩
  | @step net net' action _ hallowed hstep ih =>
    obtain ⟨tickets, htracks, hwoken⟩ := ih
    have hadvances : Tracks.Advances net action net' := by
      cases action with
      | request m msg =>
        obtain ⟨next, hnext, hadvances⟩ := htracks.step_request hconfig hwoken hallowed
        rw [hnext] at hstep
        cases hstep
        exact hadvances
      | wake =>
        rcases htracks.step_wake hconfig hallowed with ⟨next, hnext, hadvances⟩ | ⟨_, hnext, -⟩
        · rw [hnext] at hstep
          cases hstep
          exact hadvances
        · rw [hnext] at hstep
          cases hstep
      | answer r request answer =>
        obtain ⟨next, hnext, hadvances⟩ := htracks.step_answer hconfig hwoken hallowed
        rw [hnext] at hstep
        cases hstep
        exact hadvances
    obtain ⟨tickets', htracks'⟩ := hadvances.tracks
    exact ⟨tickets', htracks', hadvances.woken⟩

/-! ## Exactly once -/

lemma Tracks.length_atTarget {net : Net config} {tickets : List (Ticket config)}
    (h : Tracks net tickets) (r : config.RegionIndex) :
    (net.atTargets.filter fun p => p.1 = r).length ≤ 1 := by
  have hlength : ∀ ts : List (Ticket config),
      ((ts.filterMap Ticket.atTarget).filter fun p => p.1 = r).length =
        (ts.filterMap (Ticket.activeIn r)).length := by
    intro ts
    induction ts with
    | nil => rfl
    | cons t ts ih =>
      unfold Ticket.atTarget Ticket.activeIn at *
      cases hfate : t.fate with
      | active r' downstream =>
        by_cases hr : r' = r
        · simp [hfate, hr, ih]
        · simp [hfate, hr, ih]
      | refused => simp [hfate, ih]
      | waiting => simp [hfate, ih]
      | done => simp [hfate, ih]
  rw [(h.atTargets.filter _).length_eq, hlength, ← h.actives]
  cases (net.bus.region r).active <;> simp

/-- With no wake pending and nothing at a target, every request has its response. -/
lemma Tracks.finished {net : Net config} {tickets : List (Ticket config)} (h : Tracks net tickets)
    (hwoken : Tracks.Woken net) (hwakes : net.wakes = 0) (htargets : net.atTargets = []) :
    ∀ t ∈ tickets, t.Finished := by
  have hactive : ∀ t ∈ tickets, t.atTarget = none := by
    have hnil := h.atTargets
    rw [htargets] at hnil
    exact List.filterMap_eq_nil_iff.mp (List.nil_perm.mp hnil)
  intro t ht
  unfold Ticket.Finished
  cases hfate : t.fate with
  | refused => trivial
  | done => trivial
  | active r downstream =>
    have hnone := hactive t ht
    simp [Ticket.atTarget, hfate] at hnone
  | waiting r =>
    have hidle : (net.bus.region r).active = none := by
      have hnil : (net.bus.region r).active.toList = [] := by
        rw [h.actives, List.filterMap_eq_nil_iff]
        intro u hu
        have hnone := hactive u hu
        unfold Ticket.activeIn
        cases hu' : u.fate with
        | active r' downstream => simp [Ticket.atTarget, hu'] at hnone
        | refused => rfl
        | waiting => rfl
        | done => rfl
      simpa using hnil
    have hqueue : (net.bus.region r).queue t.master ≠ [] := by
      have hqueued : t.queued r t.master = some (toRegion r t.request.txn t.request) :=
        Ticket.queued_eq_some.mpr ⟨hfate, rfl, rfl⟩
      rw [h.queues]
      exact List.ne_nil_of_mem (List.mem_filterMap.mpr ⟨t, ht, hqueued⟩)
    have hpos := hwoken r t.master hidle hqueue
    omega

/-- The bus delivers exactly once.  In every run, the tickets account for everything: each request
in a region is forwarded at most once, to that region, at its offset and under a fresh transaction,
and gets at most one response, on its master under its own transaction and with the target's
outcome; each request in no region is refused once and never forwarded.  What is missing comes:
wakes and answers leave less and less to do, and when there are none left every request is finished.
A region has one request at its target at most, and the bus never faults before its downstream
transactions are used up. -/
theorem delivers_exactly_once {start : MultiMasterBus config} (hnew : new config = .ok start)
    {net : Net config} (hrun : Net.Reaches start net) :
    (∃ tickets, Accounts net tickets ∧
      (net.wakes = 0 → net.atTargets = [] → ∀ t ∈ tickets, t.Finished)) ∧
    (∀ r, (net.atTargets.filter fun p => p.1 = r).length ≤ 1) ∧
    ∀ action, net.Allowed action →
      (∃ net', net.step action = (.ok (), net') ∧
        ((∀ m msg, action ≠ .request m msg) → net'.work < net.work)) ∨
      ∃ net', net.step action = (.error (.componentFault
          "multi-master bus: downstream TxnId space exhausted"), net') ∧
        net'.forwarded.length = 2 ^ 64 - 1 := by
  obtain ⟨hconfig, -⟩ := new_eq_ok.mp hnew
  obtain ⟨tickets, htracks, hwoken⟩ := hrun.tracks hnew
  refine ⟨⟨tickets, htracks.toAccounts, htracks.finished hwoken⟩, htracks.length_atTarget, ?_⟩
  intro action hallowed
  cases action with
  | request m msg =>
    obtain ⟨net', hstep, hadvances⟩ := htracks.step_request hconfig hwoken hallowed
    exact .inl ⟨net', hstep, hadvances.work⟩
  | wake =>
    rcases htracks.step_wake hconfig hallowed with ⟨net', hstep, hadvances⟩ | hexhausted
    · exact .inl ⟨net', hstep, hadvances.work⟩
    · exact .inr hexhausted
  | answer r request answer =>
    obtain ⟨net', hstep, hadvances⟩ := htracks.step_answer hconfig hwoken hallowed
    exact .inl ⟨net', hstep, hadvances.work⟩

/-- One more action, which does not fault. -/
lemma Net.Reaches.next {start : MultiMasterBus config} {net : Net config}
    (h : Net.Reaches start net) (action : Action config) (hallowed : net.Allowed action)
    (hok : (net.step action).1 = .ok ()) : Net.Reaches start (net.step action).2 :=
  .step h hallowed (Prod.ext hok rfl)

/-- Both masters read under the same transaction; the DMA engine waits until the CPU has its
response. -/
theorem delivers_exactly_once_contended : ∃ net, Net.Reaches sharedBus net ∧
    net.responded =
      [(cpu, .readResp 7 (.data [1, 2, 3, 4])), (dma, .readResp 7 (.data [5, 6, 7, 8]))] ∧
    ∃ tickets, Accounts net tickets ∧ ∀ t ∈ tickets, t.Finished := by
  have h : Net.Reaches sharedBus (.start sharedBus) := .start
  have h := h.next (.request cpu (.readReq 7 0x1000 4))
    ⟨⟨0x1000, 4, by decide, by decide⟩, by decide⟩ rfl
  have h := h.next (.request dma (.readReq 7 0x1008 4))
    ⟨⟨0x1008, 4, by decide, by decide⟩, by decide +kernel⟩ rfl
  have h := h.next .wake (Nat.succ_pos _) rfl
  have h := h.next (.answer ram (.readReq 0 0 4) (.readResp 0 (.data [1, 2, 3, 4])))
    ⟨by decide +kernel, rfl⟩ rfl
  have h := h.next .wake (Nat.succ_pos _) rfl
  have h := h.next .wake (Nat.succ_pos _) rfl
  have h := h.next (.answer ram (.readReq 1 8 4) (.readResp 1 (.data [5, 6, 7, 8])))
    ⟨by decide +kernel, rfl⟩ rfl
  obtain ⟨⟨tickets, haccounts, hfinished⟩, -⟩ := delivers_exactly_once new_sharedConfig h
  exact ⟨_, h, rfl, tickets, haccounts, hfinished rfl rfl⟩

end MultiMasterBus

end SystemScope.Platform
