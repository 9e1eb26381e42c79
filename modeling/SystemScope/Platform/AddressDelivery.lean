import SystemScope.Platform.AddressNet

/-!
# The address bus delivers exactly once

The state of the bus mirrors the tickets of a run: what is outstanding are the requests that were
forwarded and not answered (`Tracks`).  From what the bus does with a request and with an answer
(`performs_request`, `performs_answer`) follows that each step keeps this, and from it that a
response that answers nothing faults the session.
-/

namespace SystemScope.Platform

open MemV1

namespace AddressBus

open MultiMasterBus (accessFault surroundings)

variable {regions : List Region} {bus : AddressBus regions}

/-! ## What the bus does -/

/-- Whether a request is a write. -/
def isWrite (msg : MemV1.MemMsg) : Bool := (requestTxn msg).any Prod.snd

lemma requestTxn_of_access {msg : MemV1.MemMsg} {access : MemV1.Access}
    (h : msg.access = some access) :
    requestTxn msg = some (msg.txn, isWrite msg) := by
  cases msg with
  | readReq => rfl
  | writeReq => rfl
  | readResp => cases h
  | writeResp => cases h

/-- The address of a request in its region. -/
lemma atOffset_eq_toRegion {msg : MemV1.MemMsg} {first last : UInt64}
    (h : msg.access = some (.bytes first last)) (r : Fin regions.length) :
    atOffset (first - (regions.get r).base) msg = toRegion r msg := by
  obtain ⟨size, hspans, -, -⟩ := access_eq_bytes.mp h
  cases msg with
  | readReq txn addr len =>
    obtain rfl := UInt64.toNat_inj.mp hspans.1
    rfl
  | writeReq txn addr data =>
    obtain rfl := UInt64.toNat_inj.mp hspans.1
    rfl
  | readResp => cases hspans
  | writeResp => cases hspans

lemma performs_request {msg : MemV1.MemMsg} (hmsg : msg.WellFormed)
    (hfree : msg.txn ∉ bus.outstanding) :
    (∃ r, routed regions msg = some r ∧
      (bus.handleEvent (.message cpuPort (.memV1 msg))).perform (surroundings .request) =
        ([.sent (regionPort r) (.memV1 (toRegion r msg)) .now .transfer], .ok (),
          bus.insert msg.txn r (isWrite msg))) ∨
      routed regions msg = none ∧ ∃ fields,
        (bus.handleEvent (.message cpuPort (.memV1 msg))).perform (surroundings .request) =
          ([.sent cpuPort (.memV1 (accessFault msg)) .now .complete, .traced faultKind fields],
            .ok (),
            bus) := by
  obtain ⟨access, haccess, hnonempty⟩ := wellFormed_iff_access.mp hmsg
  have htxn := requestTxn_of_access haccess
  have hfault : ∃ fields, (bus.fault msg).perform (surroundings .request) =
      ([.sent cpuPort (.memV1 (accessFault msg)) .now .complete, .traced faultKind fields], .ok (),
        bus) := by
    cases msg with
    | readReq => exact ⟨_, rfl⟩
    | writeReq => exact ⟨_, rfl⟩
    | readResp => cases haccess
    | writeResp => cases haccess
  have hhandler : (bus.handleEvent (.message cpuPort (.memV1 msg))).perform
    (surroundings .request) =
      (bus.request msg).perform (surroundings .request) := by
    unfold handleEvent
    dsimp only
    rw [if_pos rfl]
  rw [hhandler]
  unfold request routed
  rw [htxn, haccess]
  dsimp only [Handler.perform, surroundings]
  rw [if_neg (not_not.mpr rfl), if_neg hfree]
  cases access with
  | empty => exact absurd rfl hnonempty
  | outOfRange => exact .inr ⟨rfl, hfault⟩
  | bytes first last =>
    dsimp only
    cases hroute : route regions first last with
    | none => exact .inr ⟨rfl, hfault⟩
    | some r =>
      refine .inl ⟨r, rfl, ?_⟩
      dsimp only [Handler.perform]
      rw [atOffset_eq_toRegion haccess]

/-- The transaction of a response and whether it is to a write. -/
def responseTxn : MemV1.MemMsg → Option (TxnId × Bool)
  | .readResp txn _ => some (txn, false)
  | .writeResp txn _ => some (txn, true)
  | .readReq .. | .writeReq .. => none

/-- The answer to an outstanding request is relayed in its phase. -/
lemma performs_answer (h : Accepted regions) {answer : MemV1.MemMsg} {txn : TxnId} {write : Bool}
    (hanswer : responseTxn answer = some (txn, write)) {r : Fin regions.length}
    (hexpected : bus.outstanding[txn]? = some { region := r, write }) (phase : Phase) :
    (bus.handleEvent (.message (regionPort r) (.memV1 answer))).perform (surroundings phase) =
      ([.sent cpuPort (.memV1 answer) .now phase], .ok (), bus.remove txn) := by
  have hport := toNat_regionPort h r
  have hrelay : (bus.relay (regionPort r) txn write answer).perform (surroundings phase) =
      ([.sent cpuPort (.memV1 answer) .now phase], .ok (), bus.remove txn) := by
    have hknown : ¬(regionPort r = 0 ∨ regions.length < (regionPort r).toNat) := by
      rintro (hzero | hlt)
      · exact regionPort_ne_cpuPort h r hzero
      · have hr := r.isLt
        omega
    have hregion : ¬r.val ≠ (regionPort r).toNat - 1 := by omega
    unfold relay
    rw [if_neg hknown, hexpected]
    dsimp only
    rw [if_neg hregion, if_neg (not_not.mpr rfl)]
    rfl
  unfold handleEvent
  dsimp only
  rw [if_neg (regionPort_ne_cpuPort h r)]
  cases answer with
  | readResp =>
    cases hanswer
    exact hrelay
  | writeResp =>
    cases hanswer
    exact hrelay
  | readReq => cases hanswer
  | writeReq => cases hanswer

/-- A response to nothing that is outstanding at its port faults the session and changes nothing. -/
lemma performs_wrong (h : Accepted regions) {answer : MemV1.MemMsg} {txn : TxnId} {write : Bool}
    (hanswer : responseTxn answer = some (txn, write)) {port : PortId} (hport : port ≠ cpuPort)
    (hwrong : ∀ r : Fin regions.length, port = regionPort r →
      bus.outstanding[txn]? ≠ some { region := r, write })
    (phase : Phase) :
    ∃ what, (bus.handleEvent (.message port (.memV1 answer))).perform (surroundings phase) =
      ([], .error (.componentFault what), bus) := by
  have hrelay : ∃ what, (bus.relay port txn write answer).perform (surroundings phase) =
      ([], .error (.componentFault what), bus) := by
    unfold relay
    split
    · exact ⟨_, rfl⟩
    next hknown =>
    cases hexpected : bus.outstanding[txn]? with
    | none => exact ⟨_, rfl⟩
    | some expected =>
      dsimp only
      split
      · exact ⟨_, rfl⟩
      next hregion =>
      split
      · exact ⟨_, rfl⟩
      next hkind =>
      rw [not_or] at hknown
      have hzero : port.toNat ≠ 0 := fun hzero => hport (UInt16.toNat_inj.mp hzero)
      have hsame : port = regionPort expected.region := by
        rw [← UInt16.toNat_inj, toNat_regionPort h]
        omega
      refine absurd ?_ (hwrong expected.region hsame)
      rw [hexpected, ← not_not.mp hkind]
  unfold handleEvent
  dsimp only
  rw [if_neg hport]
  cases answer with
  | readResp =>
    cases hanswer
    exact hrelay
  | writeResp =>
    cases hanswer
    exact hrelay
  | readReq => cases hanswer
  | writeReq => cases hanswer

/-! ## Tickets and the state of the bus -/

/-- The tickets of a run and the state of the bus say the same. -/
structure Tracks (net : Net regions) (tickets : List (Ticket regions)) : Prop
    extends Accounts net tickets where
  atTargets : net.atTargets.Perm (tickets.filterMap Ticket.atTarget)
  awaiting : net.awaiting.Perm (tickets.filterMap Ticket.awaiting)
  nodup : net.awaiting.Nodup
  outstanding : ∀ txn e, net.bus.outstanding[txn]? = some e ↔
    ∃ t ∈ tickets, t.fate = .forwarded e.region ∧ t.request.txn = txn ∧ isWrite t.request = e.write

namespace Tracks

variable {net : Net regions} {tickets : List (Ticket regions)}

lemma mem_awaiting_iff (h : Tracks net tickets) {txn : TxnId} :
    txn ∈ net.awaiting ↔ ∃ t ∈ tickets, (∃ r, t.fate = .forwarded r) ∧ t.request.txn = txn := by
  rw [h.awaiting.mem_iff, List.mem_filterMap]
  refine exists_congr fun t => and_congr_right fun _ => ?_
  unfold Ticket.awaiting
  cases t.fate <;> simp

lemma mem_awaiting (h : Tracks net tickets) {txn : TxnId} (htxn : txn ∈ net.bus.outstanding) :
    txn ∈ net.awaiting := by
  obtain ⟨e, he⟩ := Option.isSome_iff_exists.mp
    ((Std.ExtTreeMap.isSome_getElem?_iff_mem (a := txn)).mpr htxn)
  obtain ⟨t, ht, hfate, hrequest, -⟩ := (h.outstanding txn e).mp he
  exact h.mem_awaiting_iff.mpr ⟨t, ht, ⟨_, hfate⟩, hrequest⟩

/-- Before anything was received. -/
lemma start : Tracks (Net.start ({ outstanding := ∅ } : AddressBus regions)) [] where
  received := rfl
  placed := nofun
  forwarded := .nil
  answered := .nil
  responded := .nil
  stray := rfl
  atTargets := .nil
  awaiting := .nil
  nodup := List.nodup_nil
  outstanding txn e := by simp [Net.start]

lemma forward (hconfig : Accepted regions) (h : Tracks net tickets) {msg : MemV1.MemMsg}
    (hfree : msg.txn ∉ net.awaiting) {r : Fin regions.length}
    (hrouted : routed regions msg = some r) :
    Tracks
      { net with
        received := net.received ++ [msg]
        awaiting := net.awaiting ++ [msg.txn]
        bus := net.bus.insert msg.txn r (isWrite msg)
        forwarded := net.forwarded ++ [(r, toRegion r msg)]
        atTargets := net.atTargets ++ [(r, toRegion r msg)] }
      (tickets ++ [{ request := msg, fate := .forwarded r }]) where
  received := by simp [h.received]
  placed t ht := by
    rcases List.mem_append.mp ht with ht | ht
    · exact h.placed t ht
    · rw [List.mem_singleton.mp ht]
      exact (routed_eq_some hconfig).mp hrouted
  forwarded := by
    rw [List.filterMap_append_some (f := Ticket.forwarded) rfl]
    exact h.forwarded.append_right _
  answered := by
    rw [List.filterMap_append_none rfl]
    exact h.answered
  responded := by
    rw [List.filterMap_append_none rfl]
    exact h.responded
  stray := h.stray
  atTargets := by
    rw [List.filterMap_append_some (f := Ticket.atTarget) rfl]
    exact h.atTargets.append_right _
  awaiting := by
    rw [List.filterMap_append_some (f := Ticket.awaiting) rfl]
    exact h.awaiting.append_right _
  nodup := (List.perm_append_singleton msg.txn net.awaiting).nodup_iff.mpr
    (List.nodup_cons.mpr ⟨hfree, h.nodup⟩)
  outstanding txn e := by
    dsimp only [insert]
    rw [Std.ExtTreeMap.getElem?_insert]
    simp only [List.mem_append, List.mem_singleton]
    by_cases htxn : msg.txn = txn
    · rw [if_pos (Std.compare_eq_iff_eq.mpr htxn)]
      constructor
      · rintro ⟨⟩
        exact ⟨_, .inr rfl, rfl, htxn, rfl⟩
      · rintro ⟨t, ht | rfl, hfate, hrequest, hwrite⟩
        · exact absurd (h.mem_awaiting_iff.mpr ⟨t, ht, ⟨_, hfate⟩, hrequest⟩) (htxn ▸ hfree)
        · cases hfate
          rw [hwrite]
    · rw [if_neg (mt Std.compare_eq_iff_eq.mp htxn), h.outstanding]
      constructor
      · rintro ⟨t, ht, hall⟩
        exact ⟨t, .inl ht, hall⟩
      · rintro ⟨t, ht | rfl, hfate, hrequest, hwrite⟩
        · exact ⟨t, ht, hfate, hrequest, hwrite⟩
        · exact absurd hrequest htxn

lemma refuse (hconfig : Accepted regions) (h : Tracks net tickets) {msg : MemV1.MemMsg}
    (hrouted : routed regions msg = none) :
    Tracks
      { net with received := net.received ++ [msg],
                 responded := net.responded ++ [accessFault msg] }
      (tickets ++ [{ request := msg, fate := .refused }]) where
  received := by simp [h.received]
  placed t ht := by
    rcases List.mem_append.mp ht with ht | ht
    · exact h.placed t ht
    · rw [List.mem_singleton.mp ht]
      exact (routed_eq_none hconfig).mp hrouted
  forwarded := by
    rw [List.filterMap_append_none rfl]
    exact h.forwarded
  answered := by
    rw [List.filterMap_append_none rfl]
    exact h.answered
  responded := by
    rw [List.filterMap_append_some (f := Ticket.responded) rfl]
    exact h.responded.append_right _
  stray := h.stray
  atTargets := by
    rw [List.filterMap_append_none rfl]
    exact h.atTargets
  awaiting := by
    rw [List.filterMap_append_none rfl]
    exact h.awaiting
  nodup := h.nodup
  outstanding txn e := by
    rw [h.outstanding]
    simp only [List.mem_append, List.mem_singleton]
    constructor
    · rintro ⟨t, ht, hall⟩
      exact ⟨t, .inl ht, hall⟩
    · rintro ⟨t, ht | rfl, hfate, hall⟩
      · exact ⟨t, ht, hfate, hall⟩
      · cases hfate

/-! ## Answers -/

lemma exists_forwarded (h : Tracks net tickets) {r : Fin regions.length} {request : MemV1.MemMsg}
    (hmem : (r, request) ∈ net.atTargets) :
    ∃ t ∈ tickets, t.fate = .forwarded r ∧ request = toRegion r t.request := by
  obtain ⟨t, ht, hat⟩ := List.mem_filterMap.mp (h.atTargets.mem_iff.mp hmem)
  unfold Ticket.atTarget at hat
  cases hfate : t.fate with
  | forwarded r' =>
    rw [hfate] at hat
    obtain ⟨rfl, rfl⟩ := Prod.mk.inj (Option.some.inj hat)
    exact ⟨t, ht, hfate, rfl⟩
  | refused =>
    rw [hfate] at hat
    cases hat
  | done =>
    rw [hfate] at hat
    cases hat

lemma txn_ne {before after : List (Ticket regions)} {t : Ticket regions} {r : Fin regions.length}
    (h : Tracks net (before ++ t :: after)) (hfate : t.fate = .forwarded r) {u : Ticket regions}
    (hu : u ∈ before ++ after) {r' : Fin regions.length} (hfate' : u.fate = .forwarded r') :
    u.request.txn ≠ t.request.txn := by
  have hperm := h.awaiting.trans (List.filterMap_middle_perm Ticket.awaiting before after t)
  have hpending : t.awaiting = some t.request.txn := by simp [Ticket.awaiting, hfate]
  have hnodup := hperm.nodup_iff.mp h.nodup
  rw [hpending, Option.toList_some, List.singleton_append, List.nodup_cons] at hnodup
  intro htxn
  refine hnodup.1 (List.mem_filterMap.mpr ⟨u, hu, ?_⟩)
  simp [Ticket.awaiting, hfate', htxn]

lemma answers_toRegion {r : Fin regions.length} {request answer : MemV1.MemMsg}
    (h : Answers answer (toRegion r request)) :
    answer.txn = request.txn ∧ responseTxn answer = some (request.txn, isWrite request) := by
  cases answer with
  | readResp =>
    cases request with
    | readReq =>
      obtain rfl := h
      exact ⟨rfl, rfl⟩
    | writeReq => cases h
    | readResp => cases h
    | writeResp => cases h
  | writeResp =>
    cases request with
    | writeReq =>
      obtain rfl := h
      exact ⟨rfl, rfl⟩
    | readReq => cases h
    | readResp => cases h
    | writeResp => cases h
  | readReq => cases h
  | writeReq => cases h

lemma answer (h : Tracks net tickets) {r : Fin regions.length} {request answer : MemV1.MemMsg}
    (hmem : (r, request) ∈ net.atTargets) (hanswers : Answers answer request) :
    ∃ write, responseTxn answer = some (answer.txn, write) ∧
      net.bus.outstanding[answer.txn]? = some { region := r, write } ∧
      ∃ tickets', Tracks
        { net with
          bus := net.bus.remove answer.txn
          atTargets := net.atTargets.erase (r, request)
          awaiting := net.awaiting.erase answer.txn
          answered := net.answered ++ [(r, answer)]
          responded := net.responded ++ [answer] }
        tickets' := by
  obtain ⟨t, ht, hfate, rfl⟩ := h.exists_forwarded hmem
  obtain ⟨htxn, hresponse⟩ := answers_toRegion hanswers
  have hpending : t.awaiting = some answer.txn := by simp [Ticket.awaiting, hfate, htxn]
  refine ⟨isWrite t.request, htxn ▸ hresponse,
    (h.outstanding _ _).mpr ⟨t, ht, hfate, htxn.symm, rfl⟩, ?_⟩
  obtain ⟨before, after, rfl⟩ := List.append_of_mem ht
  -- The ticket of the request, before and after.
  obtain ⟨t', ht'⟩ : ∃ t' : Ticket regions, t' = { t with fate := .done r answer } := ⟨_, rfl⟩
  refine ⟨before ++ t' :: after, ?_⟩
  constructor
  · constructor
    · simp [h.received, ht']
    · refine List.forall_mem_replace h.placed ?_
      have hplaced := h.placed t ht
      rw [Ticket.Placed, hfate] at hplaced
      rw [ht']
      exact ⟨hplaced, hanswers⟩
    · rw [List.filterMap_replace_same (t := t)]
      · exact h.forwarded
      · simp [Ticket.forwarded, ht', hfate]
    · refine h.answered.replace_some ?_ ?_
      · simp [Ticket.answered, hfate]
      · simp [Ticket.answered, ht']
    · refine h.responded.replace_some ?_ ?_
      · simp [Ticket.responded, hfate]
      · simp [Ticket.responded, ht']
    · exact h.stray
  · refine h.atTargets.replace_none ?_ ?_
    · simp [Ticket.atTarget, hfate]
    · simp [Ticket.atTarget, ht']
  · refine h.awaiting.replace_none hpending ?_
    simp [Ticket.awaiting, ht']
  · exact h.nodup.erase _
  · intro txn e
    dsimp only [remove]
    rw [Std.ExtTreeMap.getElem?_erase]
    by_cases hsame : answer.txn = txn
    · rw [if_pos (Std.compare_eq_iff_eq.mpr hsame)]
      constructor
      · rintro ⟨⟩
      · rintro ⟨u, hu, hufate, hurequest, -⟩
        rcases List.mem_append.mp hu with hb | ha
        · exact absurd (hurequest.trans (hsame.symm.trans htxn))
            (h.txn_ne hfate (List.mem_append_left _ hb) hufate)
        · rcases List.mem_cons.mp ha with rfl | ha
          · rw [ht'] at hufate
            cases hufate
          · exact absurd (hurequest.trans (hsame.symm.trans htxn))
              (h.txn_ne hfate (List.mem_append_right _ ha) hufate)
    · rw [if_neg (mt Std.compare_eq_iff_eq.mp hsame), h.outstanding]
      constructor
      · rintro ⟨u, hu, hufate, hurequest, hwrite⟩
        rcases List.mem_append.mp hu with hb | ha
        · exact ⟨u, List.mem_append_left _ hb, hufate, hurequest, hwrite⟩
        · rcases List.mem_cons.mp ha with rfl | ha
          · exact absurd (htxn.trans hurequest) hsame
          · exact ⟨u, List.mem_append_right _ (List.mem_cons_of_mem _ ha), hufate,
              hurequest, hwrite⟩
      · rintro ⟨u, hu, hufate, hurequest, hwrite⟩
        rcases List.mem_append.mp hu with hb | ha
        · exact ⟨u, List.mem_append_left _ hb, hufate, hurequest, hwrite⟩
        · rcases List.mem_cons.mp ha with rfl | ha
          · rw [ht'] at hufate
            cases hufate
          · exact ⟨u, List.mem_append_right _ (List.mem_cons_of_mem _ ha), hufate,
              hurequest, hwrite⟩

/-! ## Steps -/

lemma exists_atTarget (h : Tracks net tickets) {answer : MemV1.MemMsg} {txn : TxnId} {write : Bool}
    (hanswer : responseTxn answer = some (txn, write)) {r : Fin regions.length}
    (hexpected : net.bus.outstanding[txn]? = some { region := r, write }) :
    ∃ request, (r, request) ∈ net.atTargets ∧ Answers answer request := by
  obtain ⟨t, ht, hfate, rfl, hwrite⟩ := (h.outstanding _ _).mp hexpected
  dsimp only at hfate hwrite
  have hplaced := h.placed t ht
  rw [Ticket.Placed, hfate] at hplaced
  obtain ⟨first, size, hspans, -⟩ := hplaced
  refine ⟨toRegion r t.request, ?_, ?_⟩
  · exact h.atTargets.mem_iff.mpr (List.mem_filterMap.mpr ⟨t, ht, by simp [Ticket.atTarget, hfate]⟩)
  · generalize t.request = request at hanswer hwrite hspans
    subst hwrite
    cases request with
    | readReq =>
      cases answer <;> cases hanswer
      rfl
    | writeReq =>
      cases answer <;> cases hanswer
      rfl
    | readResp => cases hspans
    | writeResp => cases hspans

lemma step_request (hconfig : Accepted regions) (h : Tracks net tickets) {msg : MemV1.MemMsg}
    (hallowed : net.Allowed (.request msg)) :
    ∃ net' tickets', net.step (.request msg) = (.ok (), net') ∧ Tracks net' tickets' := by
  obtain ⟨hwell, hawait⟩ := hallowed
  have hfree : msg.txn ∉ net.bus.outstanding := fun htxn => hawait (h.mem_awaiting htxn)
  unfold Net.step Net.deliver
  dsimp only
  rcases performs_request hwell hfree with ⟨r, hrouted, hperform⟩ | ⟨hrouted, fields, hperform⟩
  · rw [hperform]
    dsimp only [List.foldl_cons, List.foldl_nil]
    rw [Net.post_forward hconfig]
    exact ⟨_, _, rfl, h.forward hconfig hawait hrouted⟩
  · rw [hperform]
    dsimp only [List.foldl_cons, List.foldl_nil]
    rw [Net.post_response]
    have htxn : (accessFault msg).txn = msg.txn := by
      obtain ⟨first, size, hspans, -⟩ := hwell
      cases msg with
      | readReq => rfl
      | writeReq => rfl
      | readResp => cases hspans
      | writeResp => cases hspans
    have herase : (net.awaiting ++ [msg.txn]).erase (accessFault msg).txn = net.awaiting := by
      rw [htxn, List.erase_append_right _ hawait, List.erase_cons_head, List.append_nil]
    refine ⟨_, tickets ++ [{ request := msg, fate := .refused }], rfl, ?_⟩
    dsimp only [Net.post]
    rw [herase]
    exact h.refuse hconfig hrouted

lemma step_answer (hconfig : Accepted regions) (h : Tracks net tickets) {phase : Phase}
    {r : Fin regions.length} {request answer : MemV1.MemMsg}
    (hallowed : net.Allowed (.answer phase r request answer)) :
    ∃ net' tickets', net.step (.answer phase r request answer) = (.ok (), net') ∧
      Tracks net' tickets' := by
  obtain ⟨hmem, hanswers⟩ := hallowed
  obtain ⟨write, hresponse, hexpected, tickets', htracks⟩ := h.answer hmem hanswers
  unfold Net.step Net.deliver
  dsimp only
  rw [performs_answer hconfig hresponse hexpected]
  dsimp only [List.foldl_cons, List.foldl_nil]
  rw [Net.post_response]
  exact ⟨_, tickets', rfl, htracks⟩

lemma step (hconfig : Accepted regions) (h : Tracks net tickets) {action : Action regions}
    (hallowed : net.Allowed action) :
    ∃ net' tickets', net.step action = (.ok (), net') ∧ Tracks net' tickets' := by
  cases action with
  | request => exact h.step_request hconfig hallowed
  | answer => exact h.step_answer hconfig hallowed

lemma deliver_wrong (hconfig : Accepted regions) (h : Tracks net tickets) {answer : MemV1.MemMsg}
    (hanswer : (responseTxn answer).isSome) {port : PortId} (hport : port ≠ cpuPort)
    (hwrong : ∀ r request, (r, request) ∈ net.atTargets → port = regionPort r →
      ¬Answers answer request) (phase : Phase) :
    ∃ what, net.deliver phase (.message port (.memV1 answer)) =
      (.error (.componentFault what), net) := by
  obtain ⟨⟨txn, write⟩, htxn⟩ := Option.isSome_iff_exists.mp hanswer
  have hnone : ∀ r : Fin regions.length, port = regionPort r →
      net.bus.outstanding[txn]? ≠ some { region := r, write } := by
    intro r heq hexpected
    obtain ⟨request, hmem, hanswers⟩ := h.exists_atTarget htxn hexpected
    exact hwrong r request hmem heq hanswers
  obtain ⟨what, hperform⟩ := performs_wrong hconfig htxn hport hnone phase
  refine ⟨what, ?_⟩
  unfold Net.deliver
  rw [hperform]
  rfl

/-- With nothing at a target, every request has its response. -/
lemma finished (h : Tracks net tickets) (htargets : net.atTargets = []) :
    ∀ t ∈ tickets, t.Finished := by
  have hnil := h.atTargets
  rw [htargets] at hnil
  intro t ht
  have hnone := List.filterMap_eq_nil_iff.mp (List.nil_perm.mp hnil) t ht
  unfold Ticket.Finished
  cases hfate : t.fate with
  | refused => trivial
  | done => trivial
  | forwarded r => simp [Ticket.atTarget, hfate] at hnone

end Tracks

/-- Every state of a run is accounted for. -/
lemma Net.Reaches.tracks {start : AddressBus regions} (hnew : new regions = .ok start)
    {net : Net regions} (h : Net.Reaches start net) : ∃ tickets, Tracks net tickets := by
  obtain ⟨hconfig, rfl⟩ := new_eq_ok.mp hnew
  induction h with
  | start => exact ⟨[], .start⟩
  | @step net net' action _ hallowed hstep ih =>
    obtain ⟨tickets, htracks⟩ := ih
    obtain ⟨next, tickets', hnext, htracks'⟩ := htracks.step hconfig hallowed
    rw [hnext] at hstep
    cases hstep
    exact ⟨tickets', htracks'⟩

end AddressBus

end SystemScope.Platform
