import Mathlib.Tactic.Abel
import SystemScope.Toy.Tickets

/-!
# What a delivery does to the toy system

Every delivery moves one operation on, or issues one, and keeps the system in order (`Holds`); and
it leaves fewer deliveries to go.
-/

namespace SystemScope

/-! ## The memory -/

namespace ToyMemory

variable {config : ToyMemoryConfig} {mem : ToyMemory config} {addr : UInt64}

lemma inRange_iff {len : ℕ} : inRange config addr len ↔ addr.toNat + len ≤ config.size.toNat := by
  simp [inRange]

lemma contents_of_lt {a : ℕ} (h : a < config.size.toNat) :
    mem.contents a = mem.bytes.get ⟨a, h⟩ := by
  rw [contents, List.getD_eq_getElem _ _ (by simpa using h)]
  rfl

lemma contents_of_le {a : ℕ} (h : config.size.toNat ≤ a) : mem.contents a = 0 :=
  List.getD_eq_default _ _ (by simpa using h)

/-- A load inside the memory reads its contents. -/
lemma load_eq_read {len : ℕ} (h : inRange config addr len) :
    mem.load addr len = mem.contents.read addr.toNat len := by
  rw [inRange_iff] at h
  refine List.ext_getElem ?_ fun i hi hi' => ?_
  · simp [load]
    omega
  · rw [ByteMap.length_read] at hi'
    simp only [load, ByteMap.read, List.getElem_take, List.getElem_drop, List.getElem_map,
      List.getElem_range]
    rw [contents_of_lt (by omega)]
    rfl

lemma contents_store {data : Bytes} (h : inRange config addr data.length) :
    (mem.store addr data).contents = mem.contents.write addr.toNat data := by
  rw [inRange_iff] at h
  funext a
  unfold ByteMap.write
  by_cases ha : a < config.size.toNat
  · rw [contents_of_lt ha, contents_of_lt ha]
    exact Platform.Cell.get_overlay _ _ _ _
  · rw [contents_of_le (Nat.not_lt.mp ha), contents_of_le (Nat.not_lt.mp ha), if_neg (by omega)]

end ToyMemory

/-! ## The counters of the CPU -/

lemma UInt64.toNat_succ {n m : UInt64} (h : n < m) : (n + 1).toNat = n.toNat + 1 := by
  have hlt := m.toNat_lt
  rw [UInt64.lt_iff_toNat_lt] at h
  rw [UInt64.toNat_add, UInt64.toNat_one]
  omega

namespace ToyCpu

variable {config : ToyCpuConfig} {cpu : ToyCpu config}

lemma canIssue_iff : cpu.canIssue ↔
    cpu.issued < config.ops ∧ cpu.outstanding.size < config.maxOutstanding.toNat := by
  simp [canIssue]

/-- The next transaction is not in use. -/
lemma Counted.fresh (h : cpu.Counted) : cpu.outstanding[cpu.nextTxn]? = none := by
  cases hop : cpu.outstanding[cpu.nextTxn]? with
  | none => rfl
  | some op => exact absurd (h.allocated _ _ hop) (UInt64.lt_irrefl _)

lemma InOrder.afterIssue (h : cpu.InOrder) (hissue : cpu.canIssue) (op : Op) :
    (cpu.afterIssue op).InOrder := by
  obtain ⟨hops, hroom⟩ := canIssue_iff.mp hissue
  have hsize := SparseMap.size_insert (v := op) h.fresh
  have hissued := UInt64.toNat_succ hops
  have hnext : (cpu.nextTxn + 1).toNat = cpu.nextTxn.toNat + 1 := by rw [h.nextTxn, hissued]
  refine ⟨⟨?_, ?_, ?_, ?_, ?_⟩, rfl, h.commitScheduled⟩
  · exact congrArg (· + 1) h.nextTxn
  · intro txn op' hop
    change (cpu.outstanding.insert cpu.nextTxn op)[txn]? = some op' at hop
    change txn < cpu.nextTxn + 1
    rw [UInt64.lt_iff_toNat_lt, hnext]
    rw [Std.ExtTreeMap.getElem?_insert] at hop
    split_ifs at hop with heq
    · rw [Std.compare_eq_iff_eq.mp heq]
      exact Nat.lt_succ_self _
    · exact Nat.lt_succ_of_lt (UInt64.lt_iff_toNat_lt.mp (h.allocated _ _ hop))
  · change cpu.issued + 1 ≤ config.ops
    rw [UInt64.le_iff_toNat_le, hissued]
    exact UInt64.lt_iff_toNat_lt.mp hops
  · change cpu.committed.toNat + (cpu.outstanding.insert cpu.nextTxn op).size =
      (cpu.issued + 1).toNat
    rw [hsize, hissued, ← h.committed]
    rfl
  · change (cpu.outstanding.insert cpu.nextTxn op).size ≤ config.maxOutstanding.toNat
    rw [hsize]
    exact hroom

lemma InOrder.withArrived (h : cpu.InOrder) (arrival : Arrival) :
    (cpu.withArrived arrival).InOrder :=
  ⟨⟨h.nextTxn, h.allocated, h.issued, h.committed, h.outstanding⟩, h.issueScheduled,
    by simp [ToyCpu.withArrived]⟩

lemma Counted.retired (h : cpu.Counted) {arrival : Arrival} {op : Op}
    (hop : cpu.outstanding[arrival.1]? = some op) : (cpu.retired arrival op).Counted := by
  have hsize := SparseMap.size_erase hop
  have hcommitted : cpu.committed < cpu.issued := by
    rw [UInt64.lt_iff_toNat_lt, ← h.committed]
    omega
  refine ⟨h.nextTxn, ?_, h.issued, ?_, ?_⟩
  · intro txn op' hop'
    change (cpu.outstanding.erase arrival.1)[txn]? = some op' at hop'
    rw [Std.ExtTreeMap.getElem?_erase] at hop'
    split_ifs at hop'
    exact h.allocated _ _ hop'
  · change (cpu.committed + 1).toNat + (cpu.outstanding.erase arrival.1).size = cpu.issued.toNat
    rw [UInt64.toNat_succ hcommitted, ← h.committed]
    omega
  · change (cpu.outstanding.erase arrival.1).size ≤ config.maxOutstanding.toNat
    have := h.outstanding
    omega

lemma InOrder.issuing {cpu' : ToyCpu config} (h : cpu.InOrder) (hcounted : cpu'.Counted)
    (hissued : cpu'.issued = cpu.issued) (hsize : cpu'.outstanding.size ≤ cpu.outstanding.size)
    (hissue : cpu'.issueScheduled = cpu.issueScheduled)
    (hcommit : cpu'.commitScheduled = !cpu'.arrived.isEmpty) : cpu'.issuing.InOrder := by
  refine ⟨⟨hcounted.nextTxn, hcounted.allocated, hcounted.issued, hcounted.committed,
    hcounted.outstanding⟩, ?_, hcommit⟩
  change (cpu'.issueScheduled || cpu'.canIssue) = cpu'.canIssue
  rw [hissue, h.issueScheduled, Bool.eq_iff_iff, Bool.or_eq_true, canIssue_iff,
    canIssue_iff, hissued]
  constructor
  · rintro (⟨hops, hroom⟩ | hissue)
    · exact ⟨hops, by omega⟩
    · exact hissue
  · exact .inr

/-- A CPU with nothing in flight and nothing to issue has committed everything. -/
lemma InOrder.committed_eq (h : cpu.InOrder) (hmax : config.maxOutstanding ≠ 0)
    (hissue : cpu.issueScheduled = false) (hnone : cpu.outstanding.size = 0) :
    cpu.issued = config.ops ∧ cpu.committed = config.ops := by
  have hroom : 0 < config.maxOutstanding.toNat :=
    UInt32.lt_iff_toNat_lt.mp (UInt32.pos_iff_ne_zero.mpr hmax)
  have hops : ¬cpu.issued < config.ops := by
    intro hops
    have hcanIssue : cpu.canIssue := canIssue_iff.mpr ⟨hops, hnone ▸ hroom⟩
    rw [← h.issueScheduled, hissue] at hcanIssue
    cases hcanIssue
  have hissued : cpu.issued = config.ops := UInt64.le_antisymm h.issued (UInt64.not_lt.mp hops)
  have hcommitted := h.committed
  rw [hnone, Nat.add_zero, UInt64.toNat_inj] at hcommitted
  exact ⟨hissued, hcommitted.trans hissued⟩

end ToyCpu

/-! ## The counters of the DMA -/

namespace ToyDma

variable {config : ToyDmaConfig} {dma : ToyDma config}

lemma canIssue_iff : dma.canIssue ↔
    dma.issued < config.ops ∧ dma.outstanding.size < config.maxOutstanding.toNat := by
  simp [canIssue, full]

namespace InOrder

/-- The next transaction is not in use. -/
lemma fresh (h : dma.InOrder) : dma.outstanding[dma.nextTxn]? = none := by
  cases haddr : dma.outstanding[dma.nextTxn]? with
  | none => rfl
  | some addr => exact absurd (h.valid.allocated _ _ haddr) (UInt64.lt_irrefl _)

lemma afterIssue (h : dma.InOrder) (hissue : dma.canIssue) {burstLeft : UInt64} {burstSlot : UInt32}
    (hslot : burstSlot < config.slots) : (dma.afterIssue burstLeft burstSlot).InOrder := by
  obtain ⟨hops, hroom⟩ := canIssue_iff.mp hissue
  have hsize := SparseMap.size_insert (v := slotAddr config burstSlot) h.fresh
  have hissued := UInt64.toNat_succ hops
  have hnext : (dma.nextTxn + 1).toNat = dma.nextTxn.toNat + 1 := by rw [h.nextTxn, hissued]
  refine ⟨⟨?_, ?_⟩, ?_, ?_, ?_, ?_, rfl⟩
  · apply UInt32.mod_lt
    exact UInt32.lt_of_le_of_lt UInt32.zero_le hslot
  · intro txn addr haddr
    change (dma.outstanding.insert dma.nextTxn _)[txn]? = some addr at haddr
    change txn < dma.nextTxn + 1
    rw [UInt64.lt_iff_toNat_lt, hnext]
    rw [Std.ExtTreeMap.getElem?_insert] at haddr
    split_ifs at haddr with heq
    · rw [Std.compare_eq_iff_eq.mp heq]
      exact Nat.lt_succ_self _
    · exact Nat.lt_succ_of_lt (UInt64.lt_iff_toNat_lt.mp (h.valid.allocated _ _ haddr))
  · exact congrArg (· + 1) h.nextTxn
  · change dma.issued + 1 ≤ config.ops
    rw [UInt64.le_iff_toNat_le, hissued]
    exact UInt64.lt_iff_toNat_lt.mp hops
  · change dma.completed.toNat + (dma.outstanding.insert dma.nextTxn _).size =
      (dma.issued + 1).toNat
    rw [hsize, hissued, ← h.completed]
    rfl
  · change (dma.outstanding.insert dma.nextTxn _).size ≤ config.maxOutstanding.toNat
    rw [hsize]
    exact hroom

lemma afterDone (h : dma.InOrder) {txn : TxnId} {addr : UInt64}
    (haddr : dma.outstanding[txn]? = some addr) : (dma.afterDone txn addr).InOrder := by
  have hsize := SparseMap.size_erase haddr
  have houtstanding := h.outstanding
  have hcompleted : dma.completed < dma.issued := by
    rw [UInt64.lt_iff_toNat_lt, ← h.completed]
    omega
  refine ⟨⟨h.valid.slot, ?_⟩, h.nextTxn, h.issued, ?_, ?_, ?_⟩
  · intro txn' addr' haddr'
    change (dma.outstanding.erase txn)[txn']? = some addr' at haddr'
    rw [Std.ExtTreeMap.getElem?_erase] at haddr'
    split_ifs at haddr'
    exact h.valid.allocated _ _ haddr'
  · change (dma.completed + 1).toNat + (dma.outstanding.erase txn).size = dma.issued.toNat
    rw [UInt64.toNat_succ hcompleted, ← h.completed]
    omega
  · change (dma.outstanding.erase txn).size ≤ config.maxOutstanding.toNat
    omega
  · rw [Bool.eq_iff_iff, canIssue_iff]
    change (dma.wakeScheduled || decide (dma.issued < config.ops)) = true ↔
      dma.issued < config.ops ∧
      (dma.outstanding.erase txn).size < config.maxOutstanding.toNat
    rw [h.wakeScheduled, Bool.or_eq_true, canIssue_iff, decide_eq_true_eq]
    constructor
    · rintro (⟨hops, -⟩ | hops)
      · exact ⟨hops, by omega⟩
      · exact ⟨hops, by omega⟩
    · rintro ⟨hops, -⟩
      exact .inr hops

/-- A DMA with nothing in flight and nothing to issue has completed everything. -/
lemma completed_eq (h : dma.InOrder) (hmax : config.maxOutstanding ≠ 0)
    (hissue : dma.wakeScheduled = false) (hnone : dma.outstanding.size = 0) :
    dma.issued = config.ops ∧ dma.completed = config.ops := by
  have hroom : 0 < config.maxOutstanding.toNat :=
    UInt32.lt_iff_toNat_lt.mp (UInt32.pos_iff_ne_zero.mpr hmax)
  have hops : ¬dma.issued < config.ops := by
    intro hops
    have hcanIssue : dma.canIssue := canIssue_iff.mpr ⟨hops, hnone ▸ hroom⟩
    rw [← h.wakeScheduled, hissue] at hcanIssue
    cases hcanIssue
  have hissued : dma.issued = config.ops := UInt64.le_antisymm h.issued (UInt64.not_lt.mp hops)
  have hcompleted := h.completed
  rw [hnone, Nat.add_zero, UInt64.toNat_inj] at hcompleted
  exact ⟨hissued, hcompleted.trans hissued⟩

end InOrder

end ToyDma

/-! ## The flag of the bus -/

namespace ToyBus

variable {config : ToyBusConfig} {bus : ToyBus config}

/-- The next transaction is not in use. -/
lemma InOrder.fresh (h : bus.InOrder) : bus.routes[bus.nextDownstream]? = none := by
  cases hroute : bus.routes[bus.nextDownstream]? with
  | none => rfl
  | some route => exact absurd (h.valid _ _ hroute) (UInt64.lt_irrefl _)

lemma InOrder.withQueued (h : bus.InOrder) (side : Upstream) (request : Request) :
    (bus.withQueued side request).InOrder := by
  refine ⟨h.valid, ?_⟩
  symm
  rw [ToyBus.withQueued, pending_iff]
  exact ⟨side, by simp⟩

/-- A grant takes a transaction that was not in use, as long as the counter does not run out. -/
lemma InOrder.afterGrant (h : bus.InOrder)
    (hnext : (bus.nextDownstream + 1).toNat = bus.nextDownstream.toNat + 1) (side : Upstream)
    (request : Request) (rest : List Request) : (bus.afterGrant side request rest).InOrder := by
  refine ⟨?_, rfl⟩
  intro downstream route hroute
  change (bus.routes.insert bus.nextDownstream _)[downstream]? = some route at hroute
  change downstream < bus.nextDownstream + 1
  rw [UInt64.lt_iff_toNat_lt, hnext]
  rw [Std.ExtTreeMap.getElem?_insert] at hroute
  split_ifs at hroute with heq
  · rw [Std.compare_eq_iff_eq.mp heq]
    exact Nat.lt_succ_self _
  · exact Nat.lt_succ_of_lt (UInt64.lt_iff_toNat_lt.mp (h.valid _ _ hroute))

lemma InOrder.without (h : bus.InOrder) (downstream : TxnId) :
    (bus.without downstream).InOrder := by
  refine ⟨?_, h.arbitrationScheduled⟩
  intro downstream' route hroute
  change (bus.routes.erase downstream)[downstream']? = some route at hroute
  rw [Std.ExtTreeMap.getElem?_erase] at hroute
  split_ifs at hroute
  exact h.valid _ _ hroute

end ToyBus

/-! ## Moving tickets -/

namespace ToySoc

open ToyBus (Upstream Request)
open scoped ToyBus

variable {soc : ToySoc} {tickets rest : Multiset Ticket} {parts : Parts soc} {side : Upstream}
  {txn downstream : TxnId} {op : ToyCpu.Op} {data : Option Bytes} {packets : Multiset Flight}

/-- The message of a ticket is under way. -/
lemma Tells.packets_of_flight {t : Ticket} {f : Flight} (hf : t.flight soc = some f)
    (h : Tells (t ::ₘ rest) parts (f ::ₘ packets)) :
    packets = rest.filterMap (Ticket.flight soc) + parts.wakes := by
  have hpackets := h.packets
  rwa [Multiset.filterMap_cons_some _ _ _ hf, Multiset.cons_add,
    Multiset.cons_inj_right] at hpackets

/-- A wake is under way, apart from other wakes. -/
lemma Tells.packets_of_wake {f : Flight} (h : Tells tickets parts (f ::ₘ packets))
    (others : Multiset Flight) (hwakes : parts.wakes = {f} + others) :
    packets = tickets.filterMap (Ticket.flight soc) + others := by
  have hpackets := h.packets
  rwa [hwakes, Multiset.singleton_add, Multiset.add_cons, Multiset.cons_inj_right] at hpackets

lemma Coherent.congr {cpu cpu' : ToyCpu soc.cpu} {mem : ToyMemory soc.mem}
    (h : Coherent tickets cpu mem) (hshadow : cpu'.shadow = cpu.shadow) :
    Coherent tickets cpu' mem := by
  have hexpected : cpu'.expected = cpu.expected := by
    funext addr
    rw [ToyCpu.expected, hshadow]
    rfl
  refine ⟨h.fits, h.distinct, ?_, h.taken, ?_⟩
  · intro t ht hside data hdata
    rw [ToyCpu.Answers, hexpected]
    exact h.answers t ht hside data hdata
  · rw [hexpected]
    exact h.believed

/-- A ticket of the same operation keeps the operations apart. -/
lemma Coherent.distinct_replace {t t' : Ticket} {cpu : ToyCpu soc.cpu} {mem : ToyMemory soc.mem}
    (h : Coherent (t ::ₘ rest) cpu mem) (hshown : t'.cpuAddr = t.cpuAddr) :
    ((t' ::ₘ rest).filterMap Ticket.cpuAddr).Nodup := by
  have hview : (t ::ₘ rest).filterMap Ticket.cpuAddr = (t' ::ₘ rest).filterMap Ticket.cpuAddr :=
    Multiset.filterMap_replace rfl hshown
  exact hview ▸ h.distinct

/-- An operation moves on without a change of its response. -/
lemma Coherent.move {t t' : Ticket} {cpu : ToyCpu soc.cpu} {mem : ToyMemory soc.mem}
    (h : Coherent (t ::ₘ rest) cpu mem) (hside : t'.side = t.side) (hop : t'.op = t.op)
    (hdata : t'.data? = t.data?) (harrived : ∀ data, t'.stage = .arrived data → t'.side = 0) :
    Coherent (t' ::ₘ rest) cpu mem := by
  have htaken : t'.Taken ↔ t.Taken := by rw [Ticket.Taken, Ticket.Taken, hside, hop, hdata]
  have hfits := h.fits
  have hanswers := h.answers
  have htakens := h.taken
  have hbelieved := h.believed
  simp only [Multiset.forall_mem_cons] at hfits hanswers htakens hbelieved
  have hshown : t'.cpuAddr = t.cpuAddr := by rw [Ticket.cpuAddr, Ticket.cpuAddr, hside, hop]
  refine ⟨?_, h.distinct_replace hshown, ?_, ?_, ?_⟩
  · refine Multiset.forall_mem_cons.mpr ⟨⟨?_, ?_, ?_, harrived⟩, hfits.2⟩
    · rw [hside, hop]
      exact hfits.1.cpu
    · rw [hside, hop]
      exact hfits.1.dma
    · rw [hop, hdata]
      exact hfits.1.kind
  · refine Multiset.forall_mem_cons.mpr ⟨?_, hanswers.2⟩
    rw [hside, hop, hdata]
    exact hanswers.1
  · refine Multiset.forall_mem_cons.mpr ⟨?_, htakens.2⟩
    rw [htaken, hop]
    exact htakens.1
  · intro addr hslot hnot
    rw [Multiset.forall_mem_cons, htaken, hop] at hnot
    exact hbelieved addr hslot hnot

/-- A wake that is scheduled unless it is already. -/
lemma wakes_add_not (scheduled : Bool) (me : ComponentId) (phase : Phase) (token : UInt64) :
    wakes scheduled me phase token + wakes (!scheduled) me phase token =
      wakes true me phase token := by
  cases scheduled with
  | true => exact Multiset.add_zero _
  | false => exact Multiset.zero_add _

lemma Holds.queue (h : Holds (⟨side, txn, op, .asked⟩ ::ₘ rest) parts
      (⟨busId, .request,
        .message (ToyBus.upstreamPort side) (.mem (ToyCpu.requestOf soc.cpu txn op))⟩ ::ₘ
          packets)) :
    Holds (⟨side, txn, op, .queued⟩ ::ₘ rest)
      { parts with bus := parts.bus.withQueued side (Ticket.request soc ⟨side, txn, op, .queued⟩) }
      (packets + wakes (!parts.bus.arbitrationScheduled) busId .transfer ToyBus.arbitrateToken)
        where
  cpu := h.cpu
  dma := h.dma
  bus := h.bus.withQueued _ _
  coherent := h.coherent.move rfl rfl rfl fun _ hstage => by cases hstage
  tells := by
    have htells := h.tells
    have hgranted := htells.granted
    refine ⟨?_, ?_, Multiset.filterMap_replace htells.routes rfl,
      Multiset.filterMap_replace htells.cpu rfl, Multiset.filterMap_replace htells.dma rfl,
      Multiset.filterMap_replace htells.arrived rfl, ?_⟩
    · rw [htells.packets_of_flight rfl, Multiset.filterMap_cons_none _ _ rfl, add_assoc]
      congr 1
      change _ + wakes _ busId _ _ + _ = _ + wakes true busId _ _
      rw [add_assoc, wakes_add_not]
    · intro side'
      have hqueue := htells.queues side'
      rw [Multiset.filterMap_cons_none _ _ rfl] at hqueue
      change (((parts.bus.queues.set side _).get side' : List Request) : Multiset Request) = _
      rw [Vector.get_set]
      by_cases hside : side' = side
      · subst hside
        rw [if_pos rfl, Multiset.filterMap_cons_some _ _ _ (Ticket.queuedAt_self _), ← hqueue,
          ← Multiset.coe_add, add_comm]
        rfl
      · rw [if_neg hside,
          Multiset.filterMap_cons_none _ _ (Ticket.queuedAt_of_ne _ (Ne.symm hside)), ← hqueue]
    · rw [Multiset.map_cons, Multiset.sum_cons] at hgranted ⊢
      exact hgranted

/-! ### The bus -/

@[simp] lemma Ticket.kind_request (t : Ticket) : (t.request soc).kind = (t.txn, t.op.isWrite) := by
  obtain ⟨side, txn, op, stage⟩ := t
  cases op <;> rfl

@[simp] lemma Ticket.withTxn_request (t : Ticket) (downstream : TxnId) :
    ToyBus.withTxn downstream (t.request soc).val = ToyCpu.requestOf soc.cpu downstream t.op := by
  obtain ⟨side, txn, op, stage⟩ := t
  cases op <;> rfl

/-- The transactions of the bus do not run out. -/
lemma Holds.toNat_nextDownstream (hfits : soc.Fits) (h : Holds tickets parts packets)
    (hungranted : 0 < (tickets.map Ticket.ungranted).sum) :
    (parts.bus.nextDownstream + 1).toNat = parts.bus.nextDownstream.toNat + 1 := by
  have hgranted := h.tells.granted
  have hcpu := UInt64.le_iff_toNat_le.mp h.cpu.issued
  have hdma := UInt64.le_iff_toNat_le.mp h.dma.issued
  have hops := hfits.ops
  rw [UInt64.toNat_add, UInt64.toNat_one]
  omega

lemma Holds.grant (hfits : soc.Fits) {requests : List Request}
    (hscheduled : parts.bus.arbitrationScheduled = true)
    (hqueue : parts.bus.queues.get side = Ticket.request soc ⟨side, txn, op, .queued⟩ :: requests)
    (h : Holds (⟨side, txn, op, .queued⟩ ::ₘ rest) parts
      (⟨busId, .transfer, .wake ToyBus.arbitrateToken⟩ ::ₘ packets)) :
    let bus := parts.bus.afterGrant side (Ticket.request soc ⟨side, txn, op, .queued⟩) requests
    Holds (⟨side, txn, op, .granted parts.bus.nextDownstream⟩ ::ₘ rest) { parts with bus }
      (packets + ⟨memId, .transfer, .message ToyMemory.port
        (.mem (ToyCpu.requestOf soc.cpu parts.bus.nextDownstream op))⟩ ::ₘ bus.wake busId) := by
  intro bus
  have htells := h.tells
  have hgranted := htells.granted
  rw [Multiset.map_cons, Multiset.sum_cons] at hgranted
  change _ + (1 + _) = _ at hgranted
  have hnext : (parts.bus.nextDownstream + 1).toNat = parts.bus.nextDownstream.toNat + 1 := by
    apply h.toNat_nextDownstream hfits
    rw [Multiset.map_cons, Multiset.sum_cons]
    exact Nat.add_pos_left Nat.one_pos _
  refine ⟨h.cpu, h.dma, h.bus.afterGrant hnext _ _ _, ?_,
    h.coherent.move rfl rfl rfl fun _ hstage => by cases hstage⟩
  refine ⟨?_, ?_, ?_, Multiset.filterMap_replace htells.cpu rfl,
    Multiset.filterMap_replace htells.dma rfl, Multiset.filterMap_replace htells.arrived rfl, ?_⟩
  · have hpackets := htells.packets_of_wake
      (parts.cpu.issueWake cpuId + parts.cpu.commitWake cpuId + parts.dma.wake dmaId)
      (by rw [Parts.wakes, ToyBus.wake, hscheduled, wakes_true, add_comm])
    rw [hpackets, Multiset.filterMap_cons_none _ _ rfl,
      Multiset.filterMap_cons_some (Ticket.flight soc) _ _ rfl, Parts.wakes, Multiset.add_cons,
      Multiset.cons_add]
    simp only [add_assoc, bus]
  · intro side'
    have hview := htells.queues side'
    change (((parts.bus.queues.set side requests).get side' : List Request) : Multiset Request) = _
    rw [Vector.get_set, Multiset.filterMap_cons_none _ _ rfl]
    by_cases hside : side' = side
    · subst hside
      rw [hqueue, Multiset.filterMap_cons_some _ _ _ (Ticket.queuedAt_self _), ← Multiset.cons_coe,
        Multiset.cons_inj_right] at hview
      rw [if_pos rfl, hview]
    · rw [Multiset.filterMap_cons_none _ _ (Ticket.queuedAt_of_ne _ (Ne.symm hside))] at hview
      rw [if_neg hside, hview]
  · have hroutes := htells.routes
    rw [Multiset.filterMap_cons_none _ _ rfl] at hroutes
    change SparseMap.entries (parts.bus.routes.insert parts.bus.nextDownstream _) = _
    rw [SparseMap.entries_insert h.bus.fresh, Multiset.filterMap_cons_some Ticket.route _ _ rfl,
      hroutes, Ticket.kind_request]
  · rw [Multiset.map_cons, Multiset.sum_cons]
    change (parts.bus.nextDownstream + 1).toNat + (0 + _) = _
    rw [hnext, ← hgranted]
    omega

/-- A response is led back. -/
lemma Holds.return_ (h : Holds (⟨side, txn, op, .served downstream data⟩ ::ₘ rest) parts
      (⟨busId, .complete, .message ToyBus.memPort (.mem (ToyBus.response downstream data))⟩ ::ₘ
        packets)) :
    Holds (⟨side, txn, op, .returned data⟩ ::ₘ rest)
      { parts with bus := parts.bus.without downstream }
      (packets + {⟨Ticket.initiator side, .complete,
        .message ToyCpu.port (.mem (ToyBus.response txn data))⟩}) := by
  have htells := h.tells
  refine ⟨h.cpu, h.dma, h.bus.without downstream, ?_,
    h.coherent.move rfl rfl rfl fun _ hstage => by cases hstage⟩
  refine ⟨?_, ?_, ?_, Multiset.filterMap_replace htells.cpu rfl,
    Multiset.filterMap_replace htells.dma rfl, Multiset.filterMap_replace htells.arrived rfl, ?_⟩
  · rw [htells.packets_of_flight rfl, Multiset.filterMap_cons_some (Ticket.flight soc) _ _ rfl,
      add_comm _ {_}, Multiset.singleton_add, Multiset.cons_add]
    rfl
  · exact fun side' => Multiset.filterMap_replace (htells.queues side') rfl
  · have hroutes := htells.routes
    rw [Multiset.filterMap_cons_some Ticket.route _ _ rfl] at hroutes
    have hroute : parts.bus.routes[downstream]? = some _ :=
      SparseMap.mem_entries.mp (hroutes ▸ Multiset.mem_cons_self _ _)
    rw [← SparseMap.entries_erase hroute, Multiset.cons_inj_right] at hroutes
    rw [Multiset.filterMap_cons_none _ _ rfl]
    exact hroutes
  · have hgranted := htells.granted
    rw [Multiset.map_cons, Multiset.sum_cons] at hgranted ⊢
    exact hgranted

/-! ### The memory -/

lemma Fits.slot_le (hfits : soc.Fits) {i : ℕ} (hi : i < soc.cpu.slots.toNat) :
    i * soc.cpu.accessLen.toNat + soc.cpu.accessLen.toNat ≤ soc.dma.base.toNat := by
  calc _ = (i + 1) * soc.cpu.accessLen.toNat := (Nat.succ_mul _ _).symm
    _ ≤ soc.cpu.slots.toNat * soc.cpu.accessLen.toNat := Nat.mul_le_mul_right _ hi
    _ ≤ _ := hfits.cpuRegion

lemma Fits.inRange_cpu (hfits : soc.Fits) {addr : UInt64}
    (hslot : ∃ i < soc.cpu.slots.toNat, addr.toNat = i * soc.cpu.accessLen.toNat) :
    ToyMemory.inRange soc.mem addr soc.cpu.accessLen.toNat := by
  obtain ⟨i, hi, haddr⟩ := hslot
  have hle := hfits.slot_le hi
  have hregion := hfits.dmaRegion
  rw [ToyMemory.inRange_iff]
  omega

lemma Fits.toNat_slotAddr (hfits : soc.Fits) {slot : UInt32} (hslot : slot < soc.dma.slots) :
    (ToyDma.slotAddr soc.dma slot).toNat =
        soc.dma.base.toNat + slot.toNat * soc.dma.accessLen.toNat ∧
      soc.dma.base.toNat + slot.toNat * soc.dma.accessLen.toNat + soc.dma.accessLen.toNat ≤
        soc.mem.size.toNat := by
  have hregion := hfits.dmaRegion
  have hsize := soc.mem.size.toNat_lt
  have hle : slot.toNat * soc.dma.accessLen.toNat + soc.dma.accessLen.toNat ≤
      soc.dma.slots.toNat * soc.dma.accessLen.toNat := by
    rw [← Nat.succ_mul]
    exact Nat.mul_le_mul_right _ (UInt32.lt_iff_toNat_lt.mp hslot)
  refine ⟨?_, by omega⟩
  rw [ToyDma.slotAddr, UInt64.toNat_add, UInt64.toNat_mul, UInt32.toNat_toUInt64,
    UInt32.toNat_toUInt64]
  rw [Nat.mod_eq_of_lt (show slot.toNat * soc.dma.accessLen.toNat < 2 ^ 64 by omega)]
  omega

/-- Different slots of the CPU are apart. -/
lemma slots_away {i j len : ℕ} (h : i ≠ j) {data : Bytes} (hdata : data.length = len) :
    ByteMap.Away (i * len, data) (j * len) len := by
  unfold ByteMap.Away
  rw [hdata]
  rcases Nat.lt_or_gt_of_ne h with hlt | hlt
  · left
    calc i * len + len = (i + 1) * len := (Nat.succ_mul _ _).symm
      _ ≤ j * len := Nat.mul_le_mul_right _ hlt
  · right
    calc j * len + len = (j + 1) * len := (Nat.succ_mul _ _).symm
      _ ≤ i * len := Nat.mul_le_mul_right _ hlt

namespace Coherent

variable {cpu : ToyCpu soc.cpu} {mem : ToyMemory soc.mem} {addr : UInt64} {bytes : Bytes}

/-- No two operations of the CPU are on one slot. -/
lemma ne_of_mem {t t' : Ticket} (h : Coherent (t ::ₘ rest) cpu mem) (hside : t.side = 0)
    (ht' : t' ∈ rest) (hside' : t'.side = 0) : t'.op.addr ≠ t.op.addr := by
  intro heq
  have hdistinct := h.distinct
  rw [Multiset.filterMap_cons_some Ticket.cpuAddr _ _ (if_pos hside)] at hdistinct
  refine (Multiset.nodup_cons.mp hdistinct).1 ?_
  rw [← heq]
  exact (Multiset.mem_filterMap _ _).mpr ⟨t', ht', if_pos hside'⟩

/-- What the memory has of a slot with an operation that is not taken. -/
lemma read_eq_expected {t : Ticket} (h : Coherent (t ::ₘ rest) cpu mem) (hside : t.side = 0)
    (htaken : ¬t.Taken) :
    mem.contents.read t.op.addr.toNat soc.cpu.accessLen.toNat = cpu.expected t.op.addr := by
  apply h.believed
  · exact ((h.fits _ (Multiset.mem_cons_self _ _)).cpu hside).slot
  · rw [Multiset.forall_mem_cons]
    exact ⟨fun _ => htaken, fun t' ht' heq htaken' => h.ne_of_mem hside ht' htaken'.1 heq⟩

/-- An operation that is served with a response of its kind still fits. -/
lemma fits_served (h : Coherent (⟨side, txn, op, .granted downstream⟩ ::ₘ rest) cpu mem)
    (hkind : data.isNone = op.isWrite) :
    ∀ t ∈ ⟨side, txn, op, .served downstream data⟩ ::ₘ rest, t.Fits soc := by
  obtain ⟨hfits, hrest⟩ := Multiset.forall_mem_cons.mp h.fits
  refine Multiset.forall_mem_cons.mpr ⟨⟨hfits.cpu, hfits.dma, ?_, ?_⟩, hrest⟩
  · intro data' hdata
    cases hdata
    exact hkind
  · intro data' hstage
    cases hstage

lemma serve_read (hfits : soc.Fits)
    (h : Coherent (⟨0, txn, .read addr, .granted downstream⟩ ::ₘ rest) cpu mem) :
    Coherent (⟨0, txn, .read addr,
      .served downstream (some (mem.load addr soc.cpu.accessLen.toNat))⟩ ::ₘ rest) cpu mem := by
  have hsized : ToyCpu.Op.Sized soc.cpu (.read addr) :=
    (h.fits _ (Multiset.mem_cons_self _ _)).cpu rfl
  have hread := h.read_eq_expected rfl fun htaken => by cases htaken.2.1
  refine ⟨h.fits_served rfl, h.distinct_replace rfl, ?_, ?_, ?_⟩
  · refine Multiset.forall_mem_cons.mpr ⟨?_, fun t ht => h.answers t (Multiset.mem_cons_of_mem ht)⟩
    intro _ data hdata
    cases hdata
    have hload : mem.load addr soc.cpu.accessLen.toNat = _ :=
      ToyMemory.load_eq_read (hfits.inRange_cpu hsized.slot)
    exact congrArg some (hload.trans hread)
  · refine Multiset.forall_mem_cons.mpr ⟨?_, fun t ht => h.taken t (Multiset.mem_cons_of_mem ht)⟩
    intro _ addr' data' hop
    cases hop
  · intro addr' hslot hnot
    refine h.believed addr' hslot (Multiset.forall_mem_cons.mpr ⟨?_, ?_⟩)
    · intro _ htaken
      cases htaken.2.1
    · exact (Multiset.forall_mem_cons.mp hnot).2

lemma serve_write (hfits : soc.Fits)
    (h : Coherent (⟨0, txn, .write addr bytes, .granted downstream⟩ ::ₘ rest) cpu mem) :
    Coherent (⟨0, txn, .write addr bytes, .served downstream none⟩ ::ₘ rest) cpu
      (mem.store addr bytes) := by
  have hsized : ToyCpu.Op.Sized soc.cpu (.write addr bytes) :=
    (h.fits _ (Multiset.mem_cons_self _ _)).cpu rfl
  obtain ⟨i, hi, haddr⟩ := hsized.slot
  have hlength := hsized.data addr bytes rfl
  have hcontents : (mem.store addr bytes).contents = mem.contents.write addr.toNat bytes :=
    ToyMemory.contents_store (hlength ▸ hfits.inRange_cpu hsized.slot)
  have haway : ∀ addr' : UInt64, addr' ≠ addr →
      (∃ i < soc.cpu.slots.toNat, addr'.toNat = i * soc.cpu.accessLen.toNat) →
      (mem.store addr bytes).contents.read addr'.toNat soc.cpu.accessLen.toNat =
        mem.contents.read addr'.toNat soc.cpu.accessLen.toNat := by
    rintro addr' hne ⟨j, -, haddr'⟩
    rw [hcontents, haddr']
    refine ByteMap.read_write_away (w := (addr.toNat, bytes)) ?_
    rw [show addr.toNat = i * soc.cpu.accessLen.toNat from haddr]
    refine slots_away ?_ hlength
    rintro rfl
    exact hne (UInt64.toNat_inj.mp (haddr'.trans haddr.symm))
  refine ⟨h.fits_served rfl, h.distinct_replace rfl, ?_, ?_, ?_⟩
  · refine Multiset.forall_mem_cons.mpr ⟨?_, fun t ht => h.answers t (Multiset.mem_cons_of_mem ht)⟩
    intro _ data hdata
    cases hdata
    rfl
  · refine Multiset.forall_mem_cons.mpr ⟨?_, ?_⟩
    · rintro - _ _ ⟨⟩
      rw [hcontents, ← hlength, ByteMap.read_write_covers (ByteMap.covers_self (addr.toNat, bytes)),
        ByteMap.slice_self]
    · intro t ht htaken addr' data' hop
      have hne := h.ne_of_mem rfl ht htaken.1
      have hslot := ((h.fits t (Multiset.mem_cons_of_mem ht)).cpu htaken.1).slot
      rw [hop] at hne hslot
      rw [haway addr' hne hslot]
      exact h.taken t (Multiset.mem_cons_of_mem ht) htaken addr' data' hop
  · intro addr' hslot hnot
    obtain ⟨hself, hrest⟩ := Multiset.forall_mem_cons.mp hnot
    have hne : addr' ≠ addr := fun heq => hself heq.symm ⟨rfl, rfl, rfl⟩
    rw [haway addr' hne hslot]
    refine h.believed addr' hslot (Multiset.forall_mem_cons.mpr ⟨fun heq => ?_, hrest⟩)
    exact absurd heq.symm hne

/-- The memory takes a write of the DMA, away from all slots of the CPU. -/
lemma serve_dma (hfits : soc.Fits)
    (h : Coherent (⟨1, txn, .write addr bytes, .granted downstream⟩ ::ₘ rest) cpu mem) :
    ToyMemory.inRange soc.mem addr bytes.length ∧
      Coherent (⟨1, txn, .write addr bytes, .served downstream none⟩ ::ₘ rest) cpu
        (mem.store addr bytes) := by
  obtain ⟨hold, hrest⟩ := Multiset.forall_mem_cons.mp h.fits
  obtain ⟨slot, hslot, _, heq, hlength⟩ := hold.dma rfl
  cases heq
  obtain ⟨haddr, hend⟩ := hfits.toNat_slotAddr hslot
  have hrange : ToyMemory.inRange soc.mem (ToyDma.slotAddr soc.dma slot) bytes.length := by
    rw [ToyMemory.inRange_iff, haddr, hlength]
    exact hend
  have haway : ∀ addr' : UInt64,
      (∃ i < soc.cpu.slots.toNat, addr'.toNat = i * soc.cpu.accessLen.toNat) →
      (mem.store (ToyDma.slotAddr soc.dma slot) bytes).contents.read addr'.toNat
          soc.cpu.accessLen.toNat =
        mem.contents.read addr'.toNat soc.cpu.accessLen.toNat := by
    rintro addr' ⟨j, hj, haddr'⟩
    rw [ToyMemory.contents_store hrange, haddr']
    refine ByteMap.read_write_away (w := (_, bytes)) (.inr ?_)
    have hle := hfits.slot_le hj
    change _ ≤ (ToyDma.slotAddr soc.dma slot).toNat
    omega
  refine ⟨hrange, h.fits_served rfl, h.distinct_replace rfl, ?_, ?_, ?_⟩
  · refine Multiset.forall_mem_cons.mpr ⟨?_, fun t ht => h.answers t (Multiset.mem_cons_of_mem ht)⟩
    intro hside
    cases hside
  · refine Multiset.forall_mem_cons.mpr ⟨?_, ?_⟩
    · intro htaken
      cases htaken.1
    · intro t ht htaken addr' data' hop
      have hslot' := ((hrest t ht).cpu htaken.1).slot
      rw [hop] at hslot'
      rw [haway addr' hslot']
      exact h.taken t (Multiset.mem_cons_of_mem ht) htaken addr' data' hop
  · intro addr' hslot' hnot
    rw [haway addr' hslot']
    refine h.believed addr' hslot' (Multiset.forall_mem_cons.mpr ⟨?_, ?_⟩)
    · intro _ htaken
      cases htaken.1
    · exact (Multiset.forall_mem_cons.mp hnot).2

/-- An operation that is asked for is nothing to the memory yet. -/
lemma ask (h : Coherent tickets cpu mem) (hcpu : side = 0 → op.Sized soc.cpu)
    (hdma : side = 1 → ∃ slot < soc.dma.slots, ∃ data,
      op = .write (ToyDma.slotAddr soc.dma slot) data ∧ data.length = soc.dma.accessLen.toNat)
    (hdistinct : ((⟨side, txn, op, .asked⟩ ::ₘ tickets).filterMap Ticket.cpuAddr).Nodup) :
    Coherent (⟨side, txn, op, .asked⟩ ::ₘ tickets) cpu mem := by
  refine ⟨?_, hdistinct, ?_, ?_, ?_⟩
  · refine Multiset.forall_mem_cons.mpr ⟨⟨hcpu, hdma, ?_, ?_⟩, h.fits⟩
    · intro data hdata
      cases hdata
    · intro data hstage
      cases hstage
  · refine Multiset.forall_mem_cons.mpr ⟨?_, h.answers⟩
    intro _ data hdata
    cases hdata
  · refine Multiset.forall_mem_cons.mpr ⟨?_, h.taken⟩
    intro htaken
    cases htaken.2.2
  · intro addr' hslot hnot
    exact h.believed addr' hslot (Multiset.forall_mem_cons.mp hnot).2

/-- An operation of the CPU is issued on a free slot. -/
lemma issue (h : Coherent tickets cpu mem) (hsized : op.Sized soc.cpu)
    (hfree : op.addr ∉ tickets.filterMap Ticket.cpuAddr) :
    Coherent (⟨0, txn, op, .asked⟩ ::ₘ tickets) cpu mem := by
  refine h.ask (fun _ => hsized) (fun hside => ?_) ?_
  · cases hside
  · rw [Multiset.filterMap_cons_some Ticket.cpuAddr _ _ rfl]
    exact Multiset.nodup_cons.mpr ⟨hfree, h.distinct⟩

lemma issue_dma (h : Coherent tickets cpu mem) {slot : UInt32} (hslot : slot < soc.dma.slots)
    (hlength : bytes.length = soc.dma.accessLen.toNat) :
    Coherent
      (⟨1, txn, .write (ToyDma.slotAddr soc.dma slot) bytes, .asked⟩ ::ₘ tickets) cpu mem := by
  refine h.ask (fun hside => ?_) (fun _ => ⟨slot, hslot, bytes, rfl, hlength⟩) ?_
  · cases hside
  · rw [Multiset.filterMap_cons_none _ _ rfl]
    exact h.distinct

/-- An operation that the CPU does not wait for is gone. -/
lemma done {t : Ticket} (h : Coherent (t ::ₘ rest) cpu mem) (hside : t.side = 1) :
    Coherent rest cpu mem := by
  have hnone : t.cpuAddr = none := by
    rw [Ticket.cpuAddr, hside]
    rfl
  have hdistinct := h.distinct
  rw [Multiset.filterMap_cons_none _ _ hnone] at hdistinct
  refine ⟨fun t ht => h.fits t (Multiset.mem_cons_of_mem ht), hdistinct,
    fun t ht => h.answers t (Multiset.mem_cons_of_mem ht),
    fun t ht => h.taken t (Multiset.mem_cons_of_mem ht), fun addr' hslot hnot => ?_⟩
  refine h.believed addr' hslot (Multiset.forall_mem_cons.mpr ⟨fun _ htaken => ?_, hnot⟩)
  rw [htaken.1] at hside
  cases hside

/-- What the commit of a write changes of what the CPU believes. -/
lemma expected_retired (arrival : ToyCpu.Arrival) (addr' : UInt64) (data : Bytes) (addr : UInt64) :
    (cpu.retired arrival (.write addr' data)).expected addr =
      if addr = addr' then data else cpu.expected addr := by
  change (((cpu.shadow.insert addr' data)[addr]? : Option Bytes).getD _) = _
  rw [Std.ExtTreeMap.getElem?_insert]
  by_cases heq : addr = addr'
  · rw [if_pos heq, if_pos (Std.compare_eq_iff_eq.mpr heq.symm), Option.getD_some]
  · rw [if_neg heq, if_neg fun hcompare => heq (Std.compare_eq_iff_eq.mp hcompare).symm]
    rfl

/-- The CPU commits an operation: it believes what it wrote. -/
lemma commit (h : Coherent (⟨0, txn, op, .arrived data⟩ ::ₘ rest) cpu mem) :
    Coherent rest (cpu.retired (txn, data) op) mem := by
  have hne : ∀ t ∈ rest, t.side = 0 → t.op.addr ≠ op.addr := fun t ht hside =>
    h.ne_of_mem rfl ht hside
  have hexpected : ∀ addr, addr ≠ op.addr →
      (cpu.retired (txn, data) op).expected addr = cpu.expected addr := by
    intro addr hne
    cases op with
    | read => rfl
    | write addr' bytes => exact (expected_retired ..).trans (if_neg hne)
  have hdistinct := h.distinct
  rw [Multiset.filterMap_cons_some Ticket.cpuAddr _ _ rfl] at hdistinct
  refine ⟨fun t ht => h.fits t (Multiset.mem_cons_of_mem ht), (Multiset.nodup_cons.mp hdistinct).2,
    ?_, fun t ht => h.taken t (Multiset.mem_cons_of_mem ht), ?_⟩
  · intro t ht hside bytes hbytes
    rw [ToyCpu.Answers, hexpected _ (hne t ht hside)]
    exact h.answers t (Multiset.mem_cons_of_mem ht) hside bytes hbytes
  · intro addr hslot hnot
    cases op with
    | read addr' =>
      refine h.believed addr hslot (Multiset.forall_mem_cons.mpr ⟨fun _ htaken => ?_, hnot⟩)
      cases htaken.2.1
    | write addr' bytes =>
      rw [expected_retired]
      by_cases heq : addr = addr'
      · subst heq
        rw [if_pos rfl]
        exact h.taken _ (Multiset.mem_cons_self _ _) ⟨rfl, rfl, rfl⟩ addr bytes rfl
      · rw [if_neg heq]
        refine h.believed addr hslot (Multiset.forall_mem_cons.mpr ⟨fun heq' => ?_, hnot⟩)
        exact absurd heq'.symm heq

end Coherent

lemma Holds.serve {mem : ToyMemory soc.mem}
    (hcoherent : Coherent (⟨side, txn, op, .served downstream data⟩ ::ₘ rest) parts.cpu mem)
    (h : Holds (⟨side, txn, op, .granted downstream⟩ ::ₘ rest) parts
      (⟨memId, .transfer,
        .message ToyMemory.port (.mem (ToyCpu.requestOf soc.cpu downstream op))⟩ ::ₘ packets)) :
    Holds (⟨side, txn, op, .served downstream data⟩ ::ₘ rest) { parts with mem }
      (packets + {⟨busId, .complete,
        .message ToyBus.memPort (.mem (ToyBus.response downstream data))⟩}) := by
  have htells := h.tells
  refine ⟨h.cpu, h.dma, h.bus,
    ⟨?_, fun side' => Multiset.filterMap_replace (htells.queues side') rfl,
    Multiset.filterMap_replace htells.routes rfl, Multiset.filterMap_replace htells.cpu rfl,
    Multiset.filterMap_replace htells.dma rfl, Multiset.filterMap_replace htells.arrived rfl, ?_⟩,
    hcoherent⟩
  · rw [htells.packets_of_flight rfl, Multiset.filterMap_cons_some (Ticket.flight soc) _ _ rfl,
      add_comm _ {_}, Multiset.singleton_add, Multiset.cons_add]
    rfl
  · have hgranted := htells.granted
    rw [Multiset.map_cons, Multiset.sum_cons] at hgranted ⊢
    exact hgranted

/-! ### The initiators -/

lemma Holds.arrive (h : Holds (⟨0, txn, op, .returned data⟩ ::ₘ rest) parts
      (⟨cpuId, .complete, .message ToyCpu.port (.mem (ToyBus.response txn data))⟩ ::ₘ packets)) :
    Holds (⟨0, txn, op, .arrived data⟩ ::ₘ rest)
      { parts with cpu := parts.cpu.withArrived (txn, data) }
      (packets + wakes (!parts.cpu.commitScheduled) cpuId .commit ToyCpu.commitToken) := by
  have htells := h.tells
  refine ⟨h.cpu.withArrived _, h.dma, h.bus, ⟨?_,
    fun side' => Multiset.filterMap_replace (htells.queues side') rfl,
    Multiset.filterMap_replace htells.routes rfl, Multiset.filterMap_replace htells.cpu rfl,
    Multiset.filterMap_replace htells.dma rfl, ?_, ?_⟩, ?_⟩
  · rw [htells.packets_of_flight rfl, Multiset.filterMap_cons_none _ _ rfl, Parts.wakes,
      Parts.wakes]
    change _ = _ + (parts.cpu.issueWake cpuId + wakes true cpuId .commit ToyCpu.commitToken +
      parts.dma.wake dmaId + parts.bus.wake busId)
    rw [← wakes_add_not parts.cpu.commitScheduled, ToyCpu.commitWake]
    abel
  · have harrived := htells.arrived
    rw [Multiset.filterMap_cons_none _ _ rfl] at harrived
    rw [Multiset.filterMap_cons_some Ticket.arrival _ _ rfl, ← harrived]
    change ((parts.cpu.arrived ++ [(txn, data)] : List _) : Multiset ToyCpu.Arrival) = _
    rw [← Multiset.coe_add, add_comm]
    rfl
  · have hgranted := htells.granted
    rw [Multiset.map_cons, Multiset.sum_cons] at hgranted ⊢
    exact hgranted
  · have hmoved : Coherent (⟨0, txn, op, .arrived data⟩ ::ₘ rest) parts.cpu parts.mem :=
      h.coherent.move rfl rfl rfl fun _ _ => rfl
    exact hmoved.congr rfl

lemma wakes_add_or (scheduled wanted : Bool) (me : ComponentId) (phase : Phase) (token : UInt64) :
    wakes scheduled me phase token + wakes (!scheduled && wanted) me phase token =
      wakes (scheduled || wanted) me phase token := by
  cases scheduled with
  | true => exact Multiset.add_zero _
  | false => exact Multiset.zero_add _

/-- What the DMA has in flight it knows. -/
lemma Holds.dma_outstanding {t : Ticket} (h : Holds (t ::ₘ rest) parts packets)
    (hside : t.side = 1) :
    parts.dma.outstanding[t.txn]? = some t.op.addr := by
  have hview := h.tells.dma
  rw [Multiset.filterMap_cons_some Ticket.dmaOp _ _ (if_pos hside)] at hview
  exact SparseMap.mem_entries.mp (hview ▸ Multiset.mem_cons_self _ _)

/-- The DMA retires a write. -/
lemma Holds.done (h : Holds (⟨1, txn, op, .returned data⟩ ::ₘ rest) parts
      (⟨dmaId, .complete, .message ToyDma.port (.mem (ToyBus.response txn data))⟩ ::ₘ packets)) :
    Holds rest { parts with dma := parts.dma.afterDone txn op.addr }
      (packets + wakes (!parts.dma.wakeScheduled && parts.dma.issued < soc.dma.ops) dmaId .request
        ToyDma.issueToken) := by
  have htells := h.tells
  have haddr : parts.dma.outstanding[txn]? = some op.addr := h.dma_outstanding rfl
  refine ⟨h.cpu, h.dma.afterDone haddr, h.bus, ⟨?_, fun side' => ?_, ?_, ?_, ?_, ?_, ?_⟩,
    h.coherent.done rfl⟩
  · rw [htells.packets_of_flight rfl, Parts.wakes, Parts.wakes]
    change _ = _ + (parts.cpu.issueWake cpuId + parts.cpu.commitWake cpuId +
      wakes (_ || _) dmaId .request ToyDma.issueToken + parts.bus.wake busId)
    rw [← wakes_add_or, ToyDma.wake]
    abel
  · exact (htells.queues side').trans (Multiset.filterMap_cons_none _ _ rfl)
  · exact htells.routes.trans (Multiset.filterMap_cons_none _ _ rfl)
  · exact htells.cpu.trans (Multiset.filterMap_cons_none _ _ rfl)
  · have hview := htells.dma
    rw [Multiset.filterMap_cons_some Ticket.dmaOp _ _ rfl] at hview
    rw [← SparseMap.entries_erase haddr, Multiset.cons_inj_right] at hview
    exact hview
  · exact htells.arrived.trans (Multiset.filterMap_cons_none _ _ rfl)
  · have hgranted := htells.granted
    rw [Multiset.map_cons, Multiset.sum_cons] at hgranted
    exact (congrArg (parts.bus.nextDownstream.toNat + ·) (Nat.zero_add _).symm).trans hgranted

lemma Holds.issue (hscheduled : parts.cpu.issueScheduled = true) (hsized : op.Sized soc.cpu)
    (hfree : parts.cpu.busy op.addr = false)
    (h : Holds tickets parts (⟨cpuId, .request, .wake ToyCpu.issueToken⟩ ::ₘ packets)) :
    let cpu := parts.cpu.afterIssue op
    Holds (⟨0, parts.cpu.nextTxn, op, .asked⟩ ::ₘ tickets) { parts with cpu }
      (packets + ⟨busId, .request, .message (ToyBus.upstreamPort 0)
        (.mem (ToyCpu.requestOf soc.cpu parts.cpu.nextTxn op))⟩ ::ₘ cpu.issueWake cpuId) := by
  intro cpu
  have htells := h.tells
  have hissue : parts.cpu.canIssue := by rw [← h.cpu.issueScheduled, hscheduled]
  have hinOrder := h.cpu.afterIssue hissue op
  refine ⟨hinOrder, h.dma, h.bus, ⟨?_, fun side' => ?_, ?_, ?_, ?_, ?_, ?_⟩, ?_⟩
  · have hpackets := htells.packets_of_wake
      (parts.cpu.commitWake cpuId + parts.dma.wake dmaId + parts.bus.wake busId)
      (by rw [Parts.wakes, ToyCpu.issueWake, hscheduled, wakes_true]; abel)
    rw [hpackets, Multiset.filterMap_cons_some (Ticket.flight soc) _ _ rfl, Multiset.add_cons,
      Multiset.cons_add, Parts.wakes]
    congr 1
    change _ = _ + (cpu.issueWake cpuId + parts.cpu.commitWake cpuId + parts.dma.wake dmaId +
      parts.bus.wake busId)
    abel
  · exact (htells.queues side').trans (Multiset.filterMap_cons_none _ _ rfl).symm
  · exact htells.routes.trans (Multiset.filterMap_cons_none _ _ rfl).symm
  · rw [Multiset.filterMap_cons_some Ticket.cpuOp _ _ rfl, ← htells.cpu]
    exact SparseMap.entries_insert h.cpu.fresh
  · exact htells.dma.trans (Multiset.filterMap_cons_none _ _ rfl).symm
  · exact htells.arrived.trans (Multiset.filterMap_cons_none _ _ rfl).symm
  · have hgranted := htells.granted
    have hissued := UInt64.toNat_succ (ToyCpu.canIssue_iff.mp hissue).1
    rw [Multiset.map_cons, Multiset.sum_cons]
    change parts.bus.nextDownstream.toNat + (1 + _) =
      (parts.cpu.issued + 1).toNat + parts.dma.issued.toNat
    rw [hissued]
    omega
  · refine Coherent.congr (h.coherent.issue hsized fun hmem => ?_) rfl
    obtain ⟨t, ht, haddr⟩ := (Multiset.mem_filterMap _ _).mp hmem
    rw [Ticket.cpuAddr] at haddr
    split_ifs at haddr with hside
    have hentry : (t.txn, t.op) ∈ SparseMap.entries parts.cpu.outstanding := by
      rw [htells.cpu]
      exact (Multiset.mem_filterMap _ _).mpr ⟨t, ht, if_pos hside⟩
    have hbusy := ToyCpu.busy_iff.mpr
      ⟨t.txn, t.op, SparseMap.mem_entries.mp hentry, Option.some.inj haddr⟩
    rw [hfree] at hbusy
    cases hbusy

lemma Holds.issue_dma (hscheduled : parts.dma.wakeScheduled = true) {burstLeft : UInt64}
    {burstSlot : UInt32} {bytes : Bytes} (hslot : burstSlot < soc.dma.slots)
    (hlength : bytes.length = soc.dma.accessLen.toNat)
    (h : Holds tickets parts (⟨dmaId, .request, .wake ToyDma.issueToken⟩ ::ₘ packets)) :
    let dma := parts.dma.afterIssue burstLeft burstSlot
    let op := ToyCpu.Op.write (ToyDma.slotAddr soc.dma burstSlot) bytes
    Holds (⟨1, parts.dma.nextTxn, op, .asked⟩ ::ₘ tickets) { parts with dma }
      (packets + ⟨busId, .request, .message (ToyBus.upstreamPort 1)
        (.mem (ToyCpu.requestOf soc.cpu parts.dma.nextTxn op))⟩ ::ₘ dma.wake dmaId) := by
  intro dma op
  have htells := h.tells
  have hissue : parts.dma.canIssue := by rw [← h.dma.wakeScheduled, hscheduled]
  refine ⟨h.cpu, h.dma.afterIssue hissue hslot, h.bus, ⟨?_, fun side' => ?_, ?_, ?_, ?_, ?_, ?_⟩,
    h.coherent.issue_dma hslot hlength⟩
  · have hpackets := htells.packets_of_wake
      (parts.cpu.issueWake cpuId + parts.cpu.commitWake cpuId + parts.bus.wake busId)
      (by rw [Parts.wakes, ToyDma.wake, hscheduled, wakes_true]; abel)
    rw [hpackets, Multiset.filterMap_cons_some (Ticket.flight soc) _ _ rfl, Multiset.add_cons,
      Multiset.cons_add, Parts.wakes]
    congr 1
    change _ = _ + (parts.cpu.issueWake cpuId + parts.cpu.commitWake cpuId + dma.wake dmaId +
      parts.bus.wake busId)
    abel
  · exact (htells.queues side').trans (Multiset.filterMap_cons_none _ _ rfl).symm
  · exact htells.routes.trans (Multiset.filterMap_cons_none _ _ rfl).symm
  · exact htells.cpu.trans (Multiset.filterMap_cons_none _ _ rfl).symm
  · rw [Multiset.filterMap_cons_some Ticket.dmaOp _ _ rfl, ← htells.dma]
    exact SparseMap.entries_insert h.dma.fresh
  · exact htells.arrived.trans (Multiset.filterMap_cons_none _ _ rfl).symm
  · have hgranted := htells.granted
    have hissued := UInt64.toNat_succ (ToyDma.canIssue_iff.mp hissue).1
    rw [Multiset.map_cons, Multiset.sum_cons]
    change parts.bus.nextDownstream.toNat + (1 + _) =
      parts.cpu.issued.toNat + (parts.dma.issued + 1).toNat
    rw [hissued]
    omega

/-- What a CPU has once it has committed the operations of some tickets. -/
structure Committed (tickets gone : Multiset Ticket) (cpu cpu' : ToyCpu soc.cpu)
    (mem : ToyMemory soc.mem) : Prop where
  arrived : ∀ t ∈ gone, t.side = 0 ∧ ∃ data, t.stage = .arrived data
  counted : cpu'.Counted
  coherent : Coherent tickets cpu' mem
  outstanding : SparseMap.entries cpu'.outstanding = tickets.filterMap Ticket.cpuOp
  none_left : tickets.filterMap Ticket.arrival = 0
  size : cpu'.outstanding.size ≤ cpu.outstanding.size
  issued : cpu'.issued = cpu.issued
  issueScheduled : cpu'.issueScheduled = cpu.issueScheduled
  commitScheduled : cpu'.commitScheduled = cpu.commitScheduled
  pending : cpu'.arrived = cpu.arrived

/-- A CPU commits everything that has arrived: each response is one to its operation. -/
lemma commitAll_spec (wiring : Wiring) {place : Handler.Place} {calls : List Call}
    {result : Except SimError Unit} {mem : ToyMemory soc.mem}
    {k : ToyCpu soc.cpu → Handler (ToyCpu soc.cpu)} (arrivals : List ToyCpu.Arrival)
    {cpu cpu' : ToyCpu soc.cpu} (hcounted : cpu.Counted) (hcoherent : Coherent tickets cpu mem)
    (houtstanding : SparseMap.entries cpu.outstanding = tickets.filterMap Ticket.cpuOp)
    (harrivals : (arrivals : Multiset ToyCpu.Arrival) = tickets.filterMap Ticket.arrival)
    (h : (ToyCpu.commitAll k arrivals cpu).Completes place calls result cpu') :
    ∃ left gone cpu'' rest, tickets = left + gone ∧ Multiset.card gone = arrivals.length ∧
      Committed left gone cpu cpu'' mem ∧
      flights wiring place.component calls = flights wiring place.component rest ∧
      (k cpu'').Completes place rest result cpu' := by
  induction arrivals generalizing tickets cpu calls with
  | nil =>
    refine ⟨tickets, 0, cpu, calls, (add_zero _).symm, rfl, ?_, rfl, h⟩
    refine ⟨?_, hcounted, hcoherent, houtstanding, harrivals.symm, le_rfl, rfl, rfl, rfl, rfl⟩
    exact fun t ht => absurd ht (Multiset.notMem_zero t)
  | cons arrival arrivals ih =>
    have hmem : arrival ∈ tickets.filterMap Ticket.arrival := by
      rw [← harrivals]
      exact Multiset.mem_coe.mpr List.mem_cons_self
    obtain ⟨⟨side, txn, op, stage⟩, tickets, rfl, ht⟩ := Multiset.exists_cons_of_mem_filterMap hmem
    cases stage with
    | arrived data =>
      cases ht
      obtain rfl : side = 0 := (hcoherent.fits _ (Multiset.mem_cons_self _ _)).arrived data rfl
      rw [Multiset.filterMap_cons_some Ticket.cpuOp _ _ rfl] at houtstanding
      rw [Multiset.filterMap_cons_some Ticket.arrival _ _ rfl, ← Multiset.cons_coe,
        Multiset.cons_inj_right] at harrivals
      have hop : cpu.outstanding[txn]? = some op :=
        SparseMap.mem_entries.mp (houtstanding ▸ Multiset.mem_cons_self _ _)
      have hanswers : cpu.Answers op data :=
        hcoherent.answers _ (Multiset.mem_cons_self _ _) rfl data rfl
      rw [ToyCpu.commitAll] at h
      obtain ⟨rest, hrest, hnext⟩ := ToyCpu.commitOne_spec wiring hop hanswers h
      have hretired : SparseMap.entries (cpu.retired (txn, data) op).outstanding =
          tickets.filterMap Ticket.cpuOp := by
        rw [← SparseMap.entries_erase hop, Multiset.cons_inj_right] at houtstanding
        exact houtstanding
      obtain ⟨left, gone, cpu'', rest', rfl, hcard, hcommitted, hrest', hk⟩ :=
        ih (hcounted.retired hop) hcoherent.commit hretired harrivals hnext
      refine ⟨left, ⟨0, txn, op, .arrived data⟩ ::ₘ gone, cpu'', rest', ?_, ?_, ?_,
        hrest.trans hrest', hk⟩
      · rw [Multiset.add_cons]
      · rw [Multiset.card_cons, hcard, List.length_cons]
      · have hsize : (cpu.retired (txn, data) op).outstanding.size + 1 = cpu.outstanding.size :=
          SparseMap.size_erase hop
        refine ⟨Multiset.forall_mem_cons.mpr ⟨⟨rfl, data, rfl⟩, hcommitted.arrived⟩,
          hcommitted.counted, hcommitted.coherent, hcommitted.outstanding, hcommitted.none_left, ?_,
          hcommitted.issued, hcommitted.issueScheduled, hcommitted.commitScheduled,
          hcommitted.pending⟩
        exact hcommitted.size.trans (Nat.le_of_lt_succ (by omega))
    | asked | queued | granted | served | returned => cases ht

lemma Holds.commit [SimRng] (wiring : Wiring) {now : Tick} {calls : List Call}
    {result : Except SimError Unit} {cpu : ToyCpu soc.cpu}
    (hscheduled : parts.cpu.commitScheduled = true)
    (h : Holds tickets parts (⟨cpuId, .commit, .wake ToyCpu.commitToken⟩ ::ₘ packets))
    (hrun : (parts.cpu.handleEvent (.wake ToyCpu.commitToken)).Completes ⟨cpuId, now, .commit⟩ calls
      result cpu) :
    result = .ok () ∧ ∃ left gone, tickets = left + gone ∧ gone ≠ 0 ∧
      (∀ t ∈ gone, t.side = 0 ∧ ∃ data, t.stage = .arrived data) ∧
      cpu.issued = parts.cpu.issued ∧
      Holds left { parts with cpu } (packets + flights wiring cpuId calls) := by
  have htells := h.tells
  have hcpu := h.cpu
  have hcounted : parts.cpu.committing.Counted :=
    ⟨hcpu.nextTxn, hcpu.allocated, hcpu.issued, hcpu.committed, hcpu.outstanding⟩
  have hall : (ToyCpu.commitAll (fun c => c.issueIfIdle) parts.cpu.arrived
    parts.cpu.committing).Completes ⟨cpuId, now, .commit⟩ calls result cpu := hrun
  obtain ⟨left, gone, cpu', rest, rfl, hcard, hcommitted, hrest, hk⟩ :=
    commitAll_spec wiring parts.cpu.arrived hcounted
      (h.coherent.congr rfl) htells.cpu htells.arrived
      hall
  obtain ⟨rfl, rfl, hflights⟩ := ToyCpu.issueIfIdle_spec wiring hk
  have harrived := hcommitted.arrived
  have hnone : ∀ t ∈ gone, t.flight soc = none ∧ t.route = none ∧ t.dmaOp = none ∧
      t.ungranted = 0 ∧ ∀ side, t.queuedAt soc side = none := by
    rintro ⟨side, txn, op, stage⟩ ht
    obtain ⟨hside, data, hstage⟩ := harrived _ ht
    cases hside
    cases hstage
    exact ⟨rfl, rfl, rfl, rfl, fun _ => rfl⟩
  have hne : gone ≠ 0 := by
    have hlength : parts.cpu.arrived ≠ [] := by
      intro hnil
      rw [hcpu.commitScheduled, hnil] at hscheduled
      cases hscheduled
    rw [← Multiset.card_pos, hcard]
    exact List.length_pos_iff.mpr hlength
  have hissued : cpu'.issued = parts.cpu.issued := hcommitted.issued
  have hpending : cpu'.arrived = [] := hcommitted.pending
  have hidle : cpu'.commitScheduled = false := hcommitted.commitScheduled
  refine ⟨rfl, left, gone, rfl, hne, harrived, hissued, ?_, h.dma, h.bus, ?_, ?_⟩
  · apply hcpu.issuing hcommitted.counted hissued hcommitted.size hcommitted.issueScheduled
    rw [hidle, hpending]
    rfl
  · refine ⟨?_, fun side => ?_, ?_, hcommitted.outstanding, ?_, ?_, ?_⟩
    · have hpackets := htells.packets_of_wake
        (parts.cpu.issueWake cpuId + parts.dma.wake dmaId + parts.bus.wake busId)
        (by rw [Parts.wakes, ToyCpu.commitWake, hscheduled, wakes_true]; abel)
      have hissue : cpu'.issueScheduled = parts.cpu.issueScheduled := hcommitted.issueScheduled
      rw [hpackets, hrest, hflights,
        Multiset.filterMap_add_of_none fun t ht => (hnone t ht).1, Parts.wakes]
      change _ = _ + (wakes (cpu'.issueScheduled || cpu'.canIssue) cpuId _ _ +
        wakes cpu'.commitScheduled cpuId _ _ + parts.dma.wake dmaId + parts.bus.wake busId)
      rw [hidle, wakes_false, ← wakes_add_or, ToyCpu.issueWake, hissue]
      abel
    · rw [htells.queues side, Multiset.filterMap_add_of_none fun t ht => (hnone t ht).2.2.2.2 side]
    · rw [htells.routes, Multiset.filterMap_add_of_none fun t ht => (hnone t ht).2.1]
    · rw [htells.dma, Multiset.filterMap_add_of_none fun t ht => (hnone t ht).2.2.1]
    · rw [hcommitted.none_left]
      exact congrArg _ hcommitted.pending
    · have hgranted := htells.granted
      have hzero : (gone.map Ticket.ungranted).sum = 0 := by
        refine Multiset.sum_eq_zero fun n hn => ?_
        obtain ⟨t, ht, rfl⟩ := Multiset.mem_map.mp hn
        exact (hnone t ht).2.2.2.1
      rw [Multiset.map_add, Multiset.sum_add, hzero, ← hissued] at hgranted
      exact hgranted
  · exact hcommitted.coherent.congr rfl

end ToySoc

end SystemScope
