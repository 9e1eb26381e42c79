import Mathlib.Data.List.Pairwise
import SystemScope.Contracts.Histories
import SystemScope.Platform.BusNet
import SystemScope.Platform.BusRestore

/-!
# Snapshots of a running bus

A bus that has been built, given requests, wakes and responses, and given snapshots is `Valid`:
nothing that is live is held twice, in any region.  So every snapshot of it restores on every bus
of its configuration (`restore_exact`).
-/

namespace SystemScope.Platform

open MemV1

namespace MultiMasterBus

variable {config : MultiMasterBusConfig} {bus bus' : MultiMasterBus config}

/-! ## What a bus holds -/

lemma holdings_eq (bus : MultiMasterBus config) :
    bus.holdings = (List.finRange config.regions.length).flatMap fun r =>
      (bus.region r).holdings := by
  rw [holdings, Vector.toList_eq_map_get, List.flatMap_map]
  rfl

/-- What a bus holds changes by what one region holds. -/
lemma holdings_setRegion_perm {r : config.RegionIndex} {s : RegionState config.masters.length}
    {a b : List (Holding config.masters.length)}
    (h : (a ++ s.holdings).Perm (b ++ (bus.region r).holdings)) :
    (a ++ (bus.setRegion r s).holdings).Perm (b ++ bus.holdings) := by
  rw [holdings_eq, holdings_eq]
  refine List.flatMap_perm_of_update (List.nodup_finRange _) (List.mem_finRange r) ?_ ?_
  · intro r' _ hne
    rw [region_setRegion, if_neg hne]
  · rwa [region_setRegion, if_pos rfl]

/-- What is queued in a region changes by what one FIFO holds. -/
lemma queueHoldings_perm {masters : ℕ} {s t : RegionState masters} {m : Fin masters}
    {a b : List (Holding masters)} (hoff : ∀ m', m' ≠ m → t.queue m' = s.queue m')
    (hat : (a ++ t.queueHoldings m).Perm (b ++ s.queueHoldings m)) :
    (a ++ (List.finRange masters).flatMap t.queueHoldings).Perm
      (b ++ (List.finRange masters).flatMap s.queueHoldings) := by
  refine List.flatMap_perm_of_update (List.nodup_finRange _) (List.mem_finRange m) ?_ hat
  intro m' _ hne
  rw [RegionState.queueHoldings, RegionState.queueHoldings, hoff m' hne]

lemma live_mem_holdings {master : config.Master} {txn : TxnId} :
    .live master txn ∈ bus.holdings ↔ bus.isLive master txn := by
  rw [isLive_iff, holdings_eq]
  simp only [List.mem_flatMap, List.mem_finRange, true_and, RegionState.holdings, List.mem_append]
  refine exists_congr fun r => or_congr ?_ ?_
  · unfold RegionState.activeHoldings
    cases (bus.region r).active with
    | none => simp
    | some a => simp [eq_comm]
  · simp only [RegionState.queueHoldings, List.mem_filterMap, Option.map_eq_some_iff]
    constructor
    · rintro ⟨m, q, hq, ⟨txn', write⟩, htxn, heq⟩
      cases heq
      exact ⟨q, hq, write, htxn⟩
    · rintro ⟨q, hq, write, htxn⟩
      exact ⟨master, q, hq, (txn, write), htxn, rfl⟩

lemma downstream_mem_holdings {txn : TxnId} :
    .downstream txn ∈ bus.holdings ↔
      ∃ r a, (bus.region r).active = some a ∧ a.downstreamTxn = txn := by
  rw [holdings_eq]
  simp only [List.mem_flatMap, List.mem_finRange, true_and, RegionState.holdings, List.mem_append]
  refine exists_congr fun r => ?_
  have hqueued : ¬∃ m, Holding.downstream txn ∈ (bus.region r).queueHoldings m := by
    simp [RegionState.queueHoldings]
  rw [or_iff_left hqueued, RegionState.activeHoldings]
  cases (bus.region r).active with
  | none => simp
  | some a => simp [eq_comm]

/-! ## What the moves of the bus do to it -/

lemma holdings_enqueue {r : config.RegionIndex} {master : config.Master} {msg : MemV1.MemMsg}
    {txn : TxnId} {write : Bool} (hmsg : requestTxn msg = some (txn, write)) :
    (bus.enqueue r master msg).holdings.Perm (.live master txn :: bus.holdings) := by
  refine holdings_setRegion_perm (a := []) (b := [.live master txn]) ?_
  have hqueued := queueHoldings_perm (s := bus.region r)
    (t := (bus.region r).setQueue master ((bus.region r).queue master ++ [msg])) (m := master)
    (a := []) (b := [.live master txn]) (fun m' hne => by simp [hne]) (by
      simp [RegionState.queueHoldings, hmsg])
  exact (hqueued.append_left (bus.region r).activeHoldings).trans
    (List.perm_append_comm_assoc _ _ _)

lemma holdings_grant {g : Grant config} (h : bus.Grants g) :
    (bus.grant g).holdings.Perm (.downstream g.downstreamTxn :: bus.holdings) := by
  refine holdings_setRegion_perm (a := []) (b := [.downstream g.downstreamTxn]) ?_
  obtain ⟨rest, hrest⟩ := h.front
  have hqueued := queueHoldings_perm (s := bus.region g.region)
    (t := (bus.grant g).region g.region) (m := g.master)
    (a := [.live g.master g.originalTxn]) (b := []) (fun m' hne => by
      rw [queue_grant, if_neg (fun h => hne h.2)]) (by
      simp [RegionState.queueHoldings, hrest, h.request])
  have hidle : (bus.region g.region).holdings =
      (List.finRange _).flatMap (bus.region g.region).queueHoldings := by
    simp [RegionState.holdings, RegionState.activeHoldings, h.idle]
  rw [region_grant, if_pos rfl] at hqueued
  rw [hidle]
  have hswap : ([.live g.master g.originalTxn] ++ [.downstream g.downstreamTxn] :
      List (Holding config.masters.length)).Perm
        ([.downstream g.downstreamTxn] ++ [.live g.master g.originalTxn]) := List.perm_append_comm
  exact (hswap.append_right _).trans (hqueued.cons _)

lemma holdings_release (r : config.RegionIndex) :
    ((bus.region r).activeHoldings ++ (bus.release r).holdings).Perm bus.holdings :=
  holdings_setRegion_perm (b := []) (List.Perm.refl _)

/-! ## Validity is kept -/

lemma Valid.enqueue (h : bus.Valid) (hconfig : config.Accepted) {master : config.Master}
    {msg : MemV1.MemMsg} {r : config.RegionIndex} {offset : UInt64}
    (hlive : bus.isLive master msg.txn = false) (hwell : msg.WellFormed)
    (hrouted : routed config msg = some (r, offset)) :
    (bus.enqueue r master (atOffset offset msg)).Valid := by
  obtain ⟨write, htxn⟩ := requestTxn_of_wellFormed hwell
  refine ⟨?_, ?_, ?_⟩
  · intro r' m q hq
    rw [queue_enqueue] at hq
    split_ifs at hq with hat
    · rcases List.mem_append.mp hq with hq | hq
      · exact h.inside r' m q hq
      · rw [List.mem_singleton.mp hq, hat.1]
        obtain ⟨size, hspans, hpos, hend⟩ := spans_atOffset hconfig hrouted
        exact inside_iff.mpr ⟨offset.toNat, size, hspans, hpos, hend⟩
    · exact h.inside r' m q hq
  · intro r' a ha
    rw [active_enqueue] at ha
    exact h.allocated r' a ha
  · rw [(holdings_enqueue ((requestTxn_atOffset offset msg).trans htxn)).nodup_iff,
      List.nodup_cons, live_mem_holdings, hlive]
    exact ⟨Bool.false_ne_true, h.held⟩

lemma Valid.grant (h : bus.Valid) {g : Grant config} (hg : bus.Grants g) :
    (bus.grant g).Valid := by
  refine ⟨?_, ?_, ?_⟩
  · intro r m q hq
    rw [queue_grant] at hq
    split_ifs at hq
    · exact h.inside r m q (List.mem_of_mem_tail hq)
    · exact h.inside r m q hq
  · intro r a ha
    rw [UInt64.lt_iff_toNat_lt, hg.toNat_next]
    rw [region_grant] at ha
    split_ifs at ha
    · obtain rfl := Option.some.inj ha
      show g.downstreamTxn.toNat < _
      rw [hg.fresh]
      omega
    · have hlt := UInt64.lt_iff_toNat_lt.mp (h.allocated r a ha)
      omega
  · rw [(holdings_grant hg).nodup_iff, List.nodup_cons, downstream_mem_holdings]
    refine ⟨?_, h.held⟩
    intro ⟨r, a, ha, htxn⟩
    have hlt := h.allocated r a ha
    rw [htxn, hg.fresh] at hlt
    exact absurd hlt (UInt64.lt_irrefl _)

lemma Valid.chain (h : bus.Valid) {gs : List (Grant config)} (hchain : Chain bus gs bus') :
    bus'.Valid := by
  induction hchain with
  | nil => exact h
  | cons hg _ ih => exact ih (h.grant hg)

lemma Valid.release (h : bus.Valid) (r : config.RegionIndex) : (bus.release r).Valid := by
  refine ⟨?_, ?_, ?_⟩
  · intro r' m q hq
    rw [queue_release] at hq
    exact h.inside r' m q hq
  · intro r' a ha
    rw [active_release] at ha
    split_ifs at ha
    exact h.allocated r' a ha
  · exact ((holdings_release r).nodup_iff.mpr h.held).of_append_right

lemma Valid.moves (h : bus.Valid) (hconfig : config.Accepted) (hmoves : bus.Moves bus') :
    bus'.Valid := by
  cases hmoves with
  | stay => exact h
  | enqueue hlive hwell hrouted => exact h.enqueue hconfig hlive hwell hrouted
  | grants hchain => exact h.chain hchain
  | release => exact h.release _

lemma valid_new (hnew : new config = .ok bus) : bus.Valid := by
  refine ⟨?_, ?_, ?_⟩
  · intro r m q hq
    obtain ⟨hmasters, hidle⟩ := region_new hnew r
    rw [hidle, RegionState.queue_idle] at hq
    cases hq
  · intro r a ha
    obtain ⟨hmasters, hidle⟩ := region_new hnew r
    rw [hidle] at ha
    cases ha
  · have hnone : bus.holdings = [] := by
      rw [holdings_eq, List.flatMap_eq_nil_iff]
      intro r _
      obtain ⟨hmasters, hidle⟩ := region_new hnew r
      rw [hidle]
      refine List.flatMap_eq_nil_iff.mpr fun m _ => ?_
      rw [RegionState.queueHoldings, RegionState.queue_idle, List.filterMap_nil]
    rw [hnone]
    exact List.nodup_nil

lemma valid_of_reaches [SnapshotData] (hstrict : SnapshotData.Strict) {c₀ : MultiMasterBus config}
    (hnew : new config = .ok c₀) (h : Component.Reaches c₀ bus) : bus.Valid := by
  obtain ⟨hconfig, -⟩ := new_eq_ok.mp hnew
  refine h.invariant (valid_new hnew) ?_ ?_ ?_
  · intro c c' hc hends
    cases hends
    exact hc
  · intro c c' delivery hc hends
    exact hc.moves hconfig (handleEvent_ends hends)
  · intro c bs schema hc
    obtain ⟨c', result, hrestore⟩ : ∃ c' result, c.restore bs schema = (c', result) := ⟨_, _, rfl⟩
    show (c.restore bs schema).1.Valid
    rw [hrestore]
    cases result with
    | error e => rwa [eq_of_restore_error hrestore]
    | ok rest => exact ((restore_eq_ok_iff hstrict hconfig).mp hrestore).1

/-- A bus that restores what another one wrote is that other one. -/
lemma Valid.eq_of_restore [SnapshotData] (hstrict : SnapshotData.Strict) (hconfig : config.Accepted)
    (h : bus.Valid) {c₁ c₂ : MultiMasterBus config} {schema : UInt32} {rest : Bytes}
    (hrestore : c₁.restore (bus.snapshot.getD []) schema = (c₂, .ok rest)) : c₂ = bus := by
  cases hsnapshot : bus.snapshot with
  | some bs =>
    have hown : c₁.restore bs schema = (bus, .ok []) :=
      (restore_eq_ok_iff hstrict hconfig).mpr ⟨h, writes_to_end.mpr hsnapshot⟩
    rw [hsnapshot, Option.getD_some, hown] at hrestore
    cases hrestore
    rfl
  | none =>
    -- There is no such snapshot, and no bus restores from nothing.
    rw [hsnapshot, Option.getD_none] at hrestore
    obtain ⟨-, hwrites⟩ := (restore_eq_ok_iff hstrict hconfig).mp hrestore
    obtain ⟨r, hparts, hrest⟩ := writes_append.mp hwrites
    rw [hparts.eq_nil] at hrest
    obtain ⟨r', hnil, -⟩ := writes_some_cons.mp hrest
    have hempty := (List.append_eq_nil_iff.mp hnil.symm).1
    have hother : c₂.nextDownstream ≠ c₂.nextDownstream + 1 := by
      intro heq
      have h64 := congrArg UInt64.toNat heq
      rw [UInt64.toNat_add, show (1 : UInt64).toNat = 1 from rfl] at h64
      have hlt := c₂.nextDownstream.toNat_lt
      omega
    exact absurd hempty (hstrict.fields.u64.write_ne_nil hother)

/-! ## The round trip -/

/-- Every live transaction of every master, as often as it is live. -/
def liveTxns (bus : MultiMasterBus config) : List (config.Master × TxnId) :=
  (List.finRange config.regions.length).flatMap fun r =>
    ((bus.region r).active.toList.map fun a => (a.master, a.originalTxn)) ++
      (List.finRange config.masters.length).flatMap fun m =>
        ((bus.region r).queue m).map fun q => (m, q.txn)

/-- What a holding is of `liveTxns`. -/
def liveTxn? {masters : ℕ} : Holding masters → Option (Fin masters × TxnId)
  | .live master txn => some (master, txn)
  | .downstream _ => none

lemma Valid.liveTxns_eq (h : bus.Valid) : bus.liveTxns = bus.holdings.filterMap liveTxn? := by
  rw [holdings_eq, List.filterMap_flatMap, liveTxns]
  refine List.flatMap_congr fun r _ => ?_
  rw [RegionState.holdings, List.filterMap_append, List.filterMap_flatMap]
  congr 1
  · unfold RegionState.activeHoldings
    cases (bus.region r).active <;> rfl
  · refine List.flatMap_congr fun m _ => ?_
    rw [RegionState.queueHoldings, List.filterMap_filterMap, ← List.filterMap_eq_map]
    refine List.filterMap_congr fun q hq => ?_
    obtain ⟨txn, write, htxn⟩ := requestTxn_of_inside (h.inside r m q hq)
    cases q with
    | readReq => rfl
    | writeReq => rfl
    | readResp => cases htxn
    | writeResp => cases htxn

lemma Valid.nodup_liveTxns (h : bus.Valid) : bus.liveTxns.Nodup := by
  rw [h.liveTxns_eq]
  refine h.held.filterMap fun a a' b ha ha' => ?_
  cases a with
  | downstream => cases ha
  | live master txn =>
    cases a' with
    | downstream => cases ha'
    | live master' txn' =>
      cases ha
      cases ha'
      rfl

/-- Active requests of two regions have two downstream transactions. -/
lemma Valid.distinct (h : bus.Valid) {r r' : config.RegionIndex}
    {a a' : ActiveTxn config.masters.length} (ha : (bus.region r).active = some a)
    (ha' : (bus.region r').active = some a') (htxn : a.downstreamTxn = a'.downstreamTxn) :
    r = r' := by
  by_contra hne
  have hheld := h.held
  rw [holdings_eq] at hheld
  have hsymm : Std.Symm (Function.onFun List.Disjoint fun r => (bus.region r).holdings) :=
    ⟨fun _ _ hxy => List.Disjoint.symm hxy⟩
  have hapart := (List.nodup_flatMap.mp hheld).2.forall (List.mem_finRange r)
    (List.mem_finRange r') hne
  have hmem : ∀ {r a}, (bus.region r).active = some a →
      Holding.downstream a.downstreamTxn ∈ (bus.region r).holdings := by
    intro r a ha
    rw [RegionState.holdings, RegionState.activeHoldings, ha]
    simp
  exact hapart (hmem ha) (htxn ▸ hmem ha')

/-- A bus restores every snapshot of every state it can reach, and gives that state back; what it
restores to the last byte is the snapshot of what it then is, with its bookkeeping in order; and
what it refuses changes nothing. -/
theorem restore_exact [SnapshotData] (hstrict : SnapshotData.Strict) {c₀ : MultiMasterBus config}
    (hnew : new config = .ok c₀) :
    (∀ bus bs, Component.Reaches c₀ bus → bus.snapshot = some bs →
      ∀ (other : MultiMasterBus config) schema, other.restore bs schema = (bus, .ok [])) ∧
    (∀ (bus bus' : MultiMasterBus config) bs schema, bus.restore bs schema = (bus', .ok []) →
      bus'.snapshot = some bs ∧ bus'.liveTxns.Nodup ∧
        (∀ r r' a a', (bus'.region r).active = some a → (bus'.region r').active = some a' →
          a.downstreamTxn = a'.downstreamTxn → r = r') ∧
        (∀ r a, (bus'.region r).active = some a → a.downstreamTxn < bus'.nextDownstream) ∧
        (∀ r, (bus'.region r).rrCursor.val < config.masters.length) ∧
        ∀ r m, ∀ q ∈ (bus'.region r).queue m, ∃ first size, q.Spans first size ∧ 0 < size ∧
          first + size ≤ (config.regions.get r).size.toNat) ∧
    ∀ (bus bus' : MultiMasterBus config) bs schema e,
      bus.restore bs schema = (bus', .error e) → bus' = bus := by
  obtain ⟨hconfig, -⟩ := new_eq_ok.mp hnew
  refine ⟨?_, ?_, ?_⟩
  · intro bus bs hreaches hsnapshot other schema
    exact (restore_eq_ok_iff hstrict hconfig).mpr
      ⟨valid_of_reaches hstrict hnew hreaches, writes_to_end.mpr hsnapshot⟩
  · intro bus bus' bs schema hrestore
    obtain ⟨hvalid, hwrites⟩ := (restore_eq_ok_iff hstrict hconfig).mp hrestore
    exact ⟨writes_to_end.mp hwrites, hvalid.nodup_liveTxns,
      fun r r' a a' ha ha' htxn => hvalid.distinct ha ha' htxn, hvalid.allocated,
      fun r => (bus'.region r).rrCursor.isLt, fun r m q hq =>
        inside_iff.mp (hvalid.inside r m q hq)⟩
  · intro bus bus' bs schema e hrestore
    exact eq_of_restore_error hrestore

open Canonical in
theorem restore_exact_contended :
    ∃ bs, contended.snapshot = some bs ∧ sharedBus.restore bs 1 = (contended, .ok []) := by
  obtain ⟨bs, hbs⟩ := Option.isSome_iff_exists.mp
    (show (contended.snapshot).isSome by decide +kernel)
  have hcpu : (sharedBus.handleEvent (.message 0 (.memV1 (.readReq 7 0x1000 4)))).perform
      (surroundings .request) = ([.woke .now .transfer arbitrateToken], .ok (),
        sharedBus.enqueue ram cpu (.readReq 7 0 4)) := by decide +kernel
  have hdma : ((sharedBus.enqueue ram cpu (.readReq 7 0 4)).handleEvent
      (.message 1 (.memV1 (.readReq 7 0x1008 4)))).perform (surroundings .request) =
        ([.woke .now .transfer arbitrateToken], .ok (), contended) := by decide +kernel
  have hends := Handler.ends_of_perform (surroundings .request)
    (sharedBus.handleEvent (.message 0 (.memV1 (.readReq 7 0x1000 4))))
  rw [hcpu] at hends
  have hends' := Handler.ends_of_perform (surroundings .request)
    ((sharedBus.enqueue ram cpu (.readReq 7 0 4)).handleEvent
      (.message 1 (.memV1 (.readReq 7 0x1008 4))))
  rw [hdma] at hends'
  have hreaches : Component.Reaches sharedBus contended := .event (.event .refl _ hends) _ hends'
  exact ⟨bs, hbs,
    (restore_exact snapshotData_strict new_sharedConfig).1 contended bs hreaches hbs sharedBus 1⟩

end MultiMasterBus

end SystemScope.Platform
