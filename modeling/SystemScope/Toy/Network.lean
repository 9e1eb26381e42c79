import SystemScope.Toy.Deliveries

/-!
# The network of the toy system

Whatever the order of deliveries, the toy system stays in order (`holds_of_runs`): no component ever
fails, every delivery is one of a number that the operation counts bound, and once nothing is under
way every operation has been retired and the memory holds what the CPU believes.
-/

namespace SystemScope

namespace ToySoc

open ToyBus (Upstream)
open scoped ToyBus

variable {soc : ToySoc} {wiring : Wiring}
  {tickets rest : Multiset Ticket} {parts : Parts soc} {packets : Multiset Flight} {side : Upstream}
  {txn downstream : TxnId} {op : ToyCpu.Op} {data : Option Bytes} {f : Flight} {now : Tick}
  {calls : List Call} {result : Except SimError Unit} {part part' : ToyPart soc}

/-- A delivery has gone well, and has left the system in order with less to do. -/
def Progress (wiring : Wiring) (tickets : Multiset Ticket) (parts : Parts soc)
    (packets : Multiset Flight) (f : Flight) (calls : List Call) (result : Except SimError Unit)
    (part' : ToyPart soc) : Prop :=
  result = .ok () ∧ ∃ tickets' parts', parts.toList.set f.target.toNat part' = parts'.toList ∧
    Holds tickets' parts' (packets + flights wiring f.target calls) ∧
    rank tickets' parts' < rank tickets parts

lemma Progress.of {tickets' : Multiset Ticket} {parts' : Parts soc} {posts : Multiset Flight}
    (hholds : Holds tickets' parts' (packets + posts))
    (hflights : flights wiring f.target calls = posts)
    (hset : parts.toList.set f.target.toNat part' = parts'.toList)
    (hrank : rank tickets' parts' < rank tickets parts) :
    Progress wiring tickets parts packets f calls (.ok ()) part' :=
  ⟨rfl, tickets', parts', hset, hflights ▸ hholds, hrank⟩

lemma rank_cons (t : Ticket) (rest : Multiset Ticket) (parts : Parts soc) :
    rank (t ::ₘ rest) parts = t.weight + rank rest parts := by
  rw [rank, rank, Multiset.map_cons, Multiset.sum_cons]
  omega

/-- An operation that moves on. -/
lemma rank_move {t t' : Ticket} {parts' : Parts soc} (hweight : t'.stage.weight < t.stage.weight)
    (hside : t'.side = t.side) (hcpu : parts'.cpu.issued = parts.cpu.issued)
    (hdma : parts'.dma.issued = parts.dma.issued) :
    rank (t' ::ₘ rest) parts' < rank (t ::ₘ rest) parts := by
  rw [rank_cons, rank_cons, rank, rank, hcpu, hdma, Ticket.weight, Ticket.weight, hside]
  omega

/-! ## The start -/

/-- The components once the first `k` of them have been initialized. -/
def started (soc : ToySoc) (k : ℕ) : Parts soc where
  cpu := { ToyCpu.new soc.cpu with issueScheduled := 0 < k && 0 < soc.cpu.ops }
  dma := { ToyDma.new soc.dma with wakeScheduled := 1 < k && 0 < soc.dma.ops }
  bus := .new soc.bus
  mem := .new soc.mem

lemma inOrder_cpu_started (hfits : soc.Fits) : (started soc 4).cpu.InOrder := by
  have hroom : 0 < soc.cpu.maxOutstanding.toNat :=
    UInt32.lt_iff_toNat_lt.mp (UInt32.pos_iff_ne_zero.mpr hfits.cpuOutstanding)
  have hcanIssue : (started soc 4).cpu.canIssue =
      (decide (0 < soc.cpu.ops) && decide (0 < soc.cpu.maxOutstanding.toNat)) := rfl
  refine ⟨⟨rfl, fun txn op hop => ?_, UInt64.zero_le, rfl, Nat.zero_le _⟩, ?_, rfl⟩
  · change (∅ : Std.ExtTreeMap TxnId ToyCpu.Op)[txn]? = some op at hop
    simp at hop
  · rw [hcanIssue, decide_eq_true hroom, Bool.and_true]
    rfl

lemma inOrder_dma_started (hfits : soc.Fits) : (started soc 4).dma.InOrder := by
  have hroom : 0 < soc.dma.maxOutstanding.toNat :=
    UInt32.lt_iff_toNat_lt.mp (UInt32.pos_iff_ne_zero.mpr hfits.dmaOutstanding)
  have hslots := UInt32.pos_iff_ne_zero.mpr hfits.dmaSlots
  refine ⟨⟨hslots, fun txn addr haddr => ?_⟩, rfl, UInt64.zero_le, rfl, Nat.zero_le _, ?_⟩
  · change (∅ : Std.ExtTreeMap TxnId UInt64)[txn]? = some addr at haddr
    simp at haddr
  · rw [Bool.eq_iff_iff, ToyDma.canIssue_iff]
    change decide (0 < soc.dma.ops) = true ↔ 0 < soc.dma.ops ∧ 0 < soc.dma.maxOutstanding.toNat
    rw [decide_eq_true_eq]
    exact (and_iff_left hroom).symm

/-- A memory of zeros is what a CPU believes that has written nothing. -/
lemma coherent_started : Coherent 0 (started soc 4).cpu (started soc 4).mem := by
  refine ⟨?_, Multiset.nodup_zero, ?_, ?_, ?_⟩
  · exact fun t ht => absurd ht (Multiset.notMem_zero t)
  · exact fun t ht => absurd ht (Multiset.notMem_zero t)
  · exact fun t ht => absurd ht (Multiset.notMem_zero t)
  · intro addr hslot _
    have hexpected : (started soc 4).cpu.expected addr =
        List.replicate soc.cpu.accessLen.toNat 0 := by
      change ((∅ : Std.ExtTreeMap UInt64 Bytes)[addr]?).getD _ = _
      rw [Std.ExtTreeMap.getElem?_empty]
      rfl
    have hzero : ∀ a, (started soc 4).mem.contents a = 0 := by
      intro a
      by_cases ha : a < soc.mem.size.toNat
      · rw [ToyMemory.contents_of_lt ha]
        exact Platform.Cell.get_zero _
      · exact ToyMemory.contents_of_le (Nat.not_lt.mp ha)
    rw [hexpected, List.eq_replicate_iff]
    refine ⟨ByteMap.length_read _ _ _, fun b hb => ?_⟩
    obtain ⟨i, -, rfl⟩ := List.mem_map.mp hb
    exact hzero _

/-- The system starts in order. -/
lemma holds_started (hfits : soc.Fits) : Holds 0 (started soc 4) (started soc 4).wakes := by
  refine ⟨inOrder_cpu_started hfits, inOrder_dma_started hfits, ⟨?_, rfl⟩,
    ⟨?_, ?_, SparseMap.entries_empty, SparseMap.entries_empty, SparseMap.entries_empty, rfl, rfl⟩,
    coherent_started⟩
  · intro downstream route hroute
    change (∅ : Std.ExtTreeMap TxnId ToyBus.Route)[downstream]? = some route at hroute
    simp at hroute
  · exact (Multiset.zero_add _).symm
  · intro side
    change (((Vector.replicate 2 []).get side : List ToyBus.Request) : Multiset ToyBus.Request) = 0
    rw [show (Vector.replicate 2 ([] : List ToyBus.Request)).get side = [] from
      Vector.getElem_replicate _]
    rfl

/-! ## The end -/

lemma mem_wakes {scheduled : Bool} {me : ComponentId} {phase : Phase} {token : UInt64} :
    f ∈ wakes scheduled me phase token ↔ scheduled = true ∧ f = ⟨me, phase, .wake token⟩ := by
  unfold wakes
  split_ifs with h
  · simp [h]
  · simp [h]

/-- Everything has been issued and retired, nothing is left of it, and the memory holds what the CPU
believes. -/
structure Parts.Retired (parts : Parts soc) : Prop where
  committed : parts.cpu.committed = soc.cpu.ops
  completed : parts.dma.completed = soc.dma.ops
  granted : parts.bus.nextDownstream.toNat = soc.cpu.ops.toNat + soc.dma.ops.toNat
  cpu : parts.cpu.outstanding = ∅
  dma : parts.dma.outstanding = ∅
  routes : parts.bus.routes = ∅
  queues : ∀ side, parts.bus.queues.get side = []
  believed : ∀ addr : UInt64,
    (∃ i < soc.cpu.slots.toNat, addr.toNat = i * soc.cpu.accessLen.toNat) →
    parts.mem.contents.read addr.toNat soc.cpu.accessLen.toNat = parts.cpu.expected addr

/-- Once nothing is under way, nothing is scheduled. -/
lemma Holds.idle (h : Holds tickets parts 0) :
    (∀ t ∈ tickets, t.flight soc = none) ∧ parts.cpu.issueScheduled = false ∧
      parts.cpu.commitScheduled = false ∧ parts.dma.wakeScheduled = false ∧
      parts.bus.arbitrationScheduled = false := by
  have hnone : ∀ f, f ∉ tickets.filterMap (Ticket.flight soc) + parts.wakes := by
    rw [← h.tells.packets]
    exact Multiset.notMem_zero
  simp only [Parts.wakes, ToyCpu.issueWake, ToyCpu.commitWake, ToyDma.wake, ToyBus.wake,
    Multiset.mem_add, mem_wakes, not_or, not_and] at hnone
  refine ⟨fun t ht => ?_, ?_, ?_, ?_, ?_⟩
  · by_contra hsome
    obtain ⟨f, hf⟩ := Option.ne_none_iff_exists'.mp hsome
    exact (hnone f).1 ((Multiset.mem_filterMap _ _).mpr ⟨t, ht, hf⟩)
  · exact Bool.eq_false_iff.mpr fun hscheduled => (hnone _).2.1.1.1 hscheduled rfl
  · exact Bool.eq_false_iff.mpr fun hscheduled => (hnone _).2.1.1.2 hscheduled rfl
  · exact Bool.eq_false_iff.mpr fun hscheduled => (hnone _).2.1.2 hscheduled rfl
  · exact Bool.eq_false_iff.mpr fun hscheduled => (hnone _).2.2 hscheduled rfl

/-- Once nothing is under way, no operation is anywhere. -/
lemma Holds.tickets_eq_zero (h : Holds tickets parts 0) : tickets = 0 := by
  obtain ⟨hflights, -, hcommit, -, harbitrate⟩ := h.idle
  have hqueues : ∀ side, parts.bus.queues.get side = [] := by
    have hpending : ¬parts.bus.pending := by
      rw [← h.bus.arbitrationScheduled, harbitrate]
      exact Bool.false_ne_true
    rw [ToyBus.pending_iff, not_exists] at hpending
    exact fun side => not_not.mp (hpending side)
  have harrived : parts.cpu.arrived = [] := by
    have hidle := h.cpu.commitScheduled
    rw [hcommit] at hidle
    simpa using hidle
  refine Multiset.eq_zero_of_forall_notMem ?_
  rintro ⟨side, txn, op, stage⟩ ht
  cases stage with
  | asked | granted | served | returned => cases hflights _ ht
  | queued =>
    have hmem : Ticket.request soc ⟨side, txn, op, .queued⟩ ∈
        (parts.bus.queues.get side : Multiset ToyBus.Request) := by
      rw [h.tells.queues side]
      exact (Multiset.mem_filterMap _ _).mpr ⟨_, ht, Ticket.queuedAt_self soc⟩
    rw [hqueues side] at hmem
    exact Multiset.notMem_zero _ hmem
  | arrived data =>
    have hmem : (txn, data) ∈ (parts.cpu.arrived : Multiset ToyCpu.Arrival) := by
      rw [h.tells.arrived]
      exact (Multiset.mem_filterMap _ _).mpr ⟨_, ht, rfl⟩
    rw [harrived] at hmem
    exact Multiset.notMem_zero _ hmem

/-- Once nothing is under way, everything has been retired. -/
lemma Holds.retired (hfits : soc.Fits) (h : Holds tickets parts 0) : parts.Retired := by
  obtain ⟨-, hissue, -, hburst, -⟩ := h.idle
  obtain rfl := h.tickets_eq_zero
  have hcpu : parts.cpu.outstanding.size = 0 := by
    rw [← SparseMap.card_entries, h.tells.cpu]
    rfl
  have hdma : parts.dma.outstanding.size = 0 := by
    rw [← SparseMap.card_entries, h.tells.dma]
    rfl
  have hroutes : parts.bus.routes.size = 0 := by
    rw [← SparseMap.card_entries, h.tells.routes]
    rfl
  obtain ⟨hcpuIssued, hcommitted⟩ := h.cpu.committed_eq hfits.cpuOutstanding hissue hcpu
  obtain ⟨hdmaIssued, hcompleted⟩ := h.dma.completed_eq hfits.dmaOutstanding hburst hdma
  have hgranted := h.tells.granted
  rw [hcpuIssued, hdmaIssued] at hgranted
  refine ⟨hcommitted, hcompleted, hgranted, ?_, ?_, ?_, ?_, ?_⟩
  · exact Std.ExtTreeMap.eq_empty_iff_size_eq_zero.mpr hcpu
  · exact Std.ExtTreeMap.eq_empty_iff_size_eq_zero.mpr hdma
  · exact Std.ExtTreeMap.eq_empty_iff_size_eq_zero.mpr hroutes
  · exact fun side => Multiset.coe_eq_zero _ |>.mp (h.tells.queues side)
  · exact fun addr hslot => h.coherent.believed addr hslot fun t ht =>
      absurd ht (Multiset.notMem_zero t)

/-! ## Wakes -/

lemma Holds.react_arbitrate (hfits : soc.Fits) (hwired : Wired wiring)
    (hscheduled : parts.bus.arbitrationScheduled = true) {bus : ToyBus soc.bus}
    (h : Holds tickets parts (⟨busId, .transfer, .wake ToyBus.arbitrateToken⟩ ::ₘ packets))
    (hrun : (parts.bus.handleEvent (.wake ToyBus.arbitrateToken)).Completes ⟨busId, now, .transfer⟩
      calls result bus) :
    Progress wiring tickets parts packets ⟨busId, .transfer, .wake ToyBus.arbitrateToken⟩ calls
      result (.bus bus) := by
  have hpending : parts.bus.pending := by rw [← h.bus.arbitrationScheduled, hscheduled]
  obtain ⟨rfl, side, request, requests, -, hqueue, rfl, hflights⟩ :=
    ToyBus.arbitrate_spec hwired.bus hpending hrun
  have hqueued : request ∈ tickets.filterMap (Ticket.queuedAt soc side) := by
    rw [← h.tells.queues side, hqueue]
    exact Multiset.mem_coe.mpr List.mem_cons_self
  obtain ⟨⟨side', txn, op, stage⟩, rest, rfl, hview⟩ :=
    Multiset.exists_cons_of_mem_filterMap hqueued
  obtain ⟨hticket, rfl⟩ := Ticket.of_queuedAt soc hview
  cases hticket
  rw [Ticket.withTxn_request] at hflights
  exact .of (h.grant hfits hscheduled hqueue) hflights rfl
    (rank_move (Nat.lt_succ_self _) rfl rfl rfl)

variable [SimRng]

lemma Holds.react_issue (hfits : soc.Fits) (hwired : Wired wiring)
    (hscheduled : parts.cpu.issueScheduled = true) {cpu : ToyCpu soc.cpu}
    (h : Holds tickets parts (⟨cpuId, .request, .wake ToyCpu.issueToken⟩ ::ₘ packets))
    (hrun : (parts.cpu.handleEvent (.wake ToyCpu.issueToken)).Completes ⟨cpuId, now, .request⟩ calls
      result cpu) :
    Progress wiring tickets parts packets ⟨cpuId, .request, .wake ToyCpu.issueToken⟩ calls result
      (.cpu cpu) := by
  have hissue : parts.cpu.canIssue := by rw [← h.cpu.issueScheduled, hscheduled]
  have hops := (ToyCpu.canIssue_iff.mp hissue).1
  obtain ⟨rfl, op, hsized, hfree, rfl, hflights⟩ :=
    ToyCpu.wakeIssue_spec hwired.cpu hfits.cpuAccess hfits.cpuSlots hissue hrun
  refine .of (h.issue hscheduled hsized hfree) hflights rfl ?_
  have hissued := UInt64.toNat_succ hops
  have hlt := UInt64.lt_iff_toNat_lt.mp hops
  rw [rank_cons, rank, rank]
  change 6 + (7 * (soc.cpu.ops.toNat - (parts.cpu.issued + 1).toNat) +
    6 * (soc.dma.ops.toNat - parts.dma.issued.toNat) + _) < _
  rw [hissued]
  omega

lemma Holds.react_commit (hscheduled : parts.cpu.commitScheduled = true) {cpu : ToyCpu soc.cpu}
    (h : Holds tickets parts (⟨cpuId, .commit, .wake ToyCpu.commitToken⟩ ::ₘ packets))
    (hrun : (parts.cpu.handleEvent (.wake ToyCpu.commitToken)).Completes ⟨cpuId, now, .commit⟩ calls
      result cpu) :
    Progress wiring tickets parts packets ⟨cpuId, .commit, .wake ToyCpu.commitToken⟩ calls result
      (.cpu cpu) := by
  obtain ⟨rfl, left, gone, rfl, hne, harrived, hissued, hholds⟩ := h.commit wiring hscheduled hrun
  refine .of hholds rfl rfl ?_
  obtain ⟨t, ht⟩ := Multiset.exists_mem_of_ne_zero hne
  obtain ⟨gone, rfl⟩ := Multiset.exists_cons_of_mem ht
  obtain ⟨hside, data, hstage⟩ := harrived t (Multiset.mem_cons_self _ _)
  have hweight : t.weight = 1 := by
    rw [Ticket.weight, hside, hstage]
    rfl
  rw [rank, rank, hissued, Multiset.map_add, Multiset.sum_add, Multiset.map_cons,
    Multiset.sum_cons, hweight]
  dsimp only
  omega

lemma Holds.react_burst (hwired : Wired wiring) (hscheduled : parts.dma.wakeScheduled = true)
    {dma : ToyDma soc.dma}
    (h : Holds tickets parts (⟨dmaId, .request, .wake ToyDma.issueToken⟩ ::ₘ packets))
    (hrun : (parts.dma.handleEvent (.wake ToyDma.issueToken)).Completes ⟨dmaId, now, .request⟩ calls
      result dma) :
    Progress wiring tickets parts packets ⟨dmaId, .request, .wake ToyDma.issueToken⟩ calls result
      (.dma dma) := by
  have hissue : parts.dma.canIssue := by rw [← h.dma.wakeScheduled, hscheduled]
  have hops := (ToyDma.canIssue_iff.mp hissue).1
  obtain ⟨rfl, burstLeft, burstSlot, bytes, hlt, hlength, rfl, hflights⟩ :=
    ToyDma.wakeIssue_spec hwired.dma h.dma.valid.slot hissue hrun
  refine .of (h.issue_dma hscheduled hlt hlength) hflights rfl ?_
  have hissued := UInt64.toNat_succ hops
  have hlt := UInt64.lt_iff_toNat_lt.mp hops
  rw [rank_cons, rank, rank]
  change 5 + (7 * (soc.cpu.ops.toNat - parts.cpu.issued.toNat) +
    6 * (soc.dma.ops.toNat - (parts.dma.issued + 1).toNat) + _) < _
  rw [hissued]
  omega

/-! ## Messages -/

section

variable [ToySnapshotData] (hpart : parts.toList[f.target.toNat]? = some part)
  (hrun : (Component.handleEvent part f.delivery).Completes ⟨f.target, now, f.phase⟩ calls result
    part')

include hpart hrun

/-- A request reaches the bus. -/
lemma Holds.react_asked (htarget : Ticket.flight soc ⟨side, txn, op, .asked⟩ = some f)
    (h : Holds (⟨side, txn, op, .asked⟩ ::ₘ rest) parts (f ::ₘ packets)) :
    Progress wiring (⟨side, txn, op, .asked⟩ ::ₘ rest) parts packets f calls result part' := by
  cases htarget
  cases hpart
  obtain ⟨bus, hbus, rfl⟩ := Handler.completes_map.mp hrun
  have hrequest : (parts.bus.handleEvent (.message (ToyBus.upstreamPort side)
    (.mem (Ticket.request soc ⟨side, txn, op, .queued⟩).val))).Completes _ calls result bus := hbus
  obtain ⟨rfl, rfl, hflights⟩ := ToyBus.request_spec wiring rfl hrequest
  exact .of h.queue hflights rfl (rank_move (Nat.lt_succ_self _) rfl rfl rfl)

/-- A request reaches the memory. -/
lemma Holds.react_granted (hfits : soc.Fits) (hwired : Wired wiring)
    (htarget : Ticket.flight soc ⟨side, txn, op, .granted downstream⟩ = some f)
    (h : Holds (⟨side, txn, op, .granted downstream⟩ ::ₘ rest) parts (f ::ₘ packets)) :
    Progress wiring (⟨side, txn, op, .granted downstream⟩ ::ₘ rest) parts packets f calls result
      part' := by
  cases htarget
  cases hpart
  obtain ⟨mem, hmem, rfl⟩ := Handler.completes_map.mp hrun
  have hweight : ∀ data,
    (Stage.served downstream data).weight < (Stage.granted downstream).weight :=
    fun _ => Nat.lt_succ_self _
  have hticket := h.coherent.fits _ (Multiset.mem_cons_self _ _)
  cases op with
  | read addr =>
    rcases Fin.exists_fin_two.mp ⟨side, rfl⟩ with rfl | rfl
    · have hsized : ToyCpu.Op.Sized soc.cpu (.read addr) := hticket.cpu rfl
      obtain ⟨rfl, rfl, hflights⟩ :=
        ToyMemory.read_spec hwired.toBus (hfits.inRange_cpu hsized.slot) hmem
      exact .of (h.serve (h.coherent.serve_read hfits)) hflights rfl
        (rank_move (hweight _) rfl rfl rfl)
    · obtain ⟨slot, -, bytes, heq, -⟩ := hticket.dma rfl
      cases heq
  | write addr bytes =>
    rcases Fin.exists_fin_two.mp ⟨side, rfl⟩ with rfl | rfl
    · have hsized : ToyCpu.Op.Sized soc.cpu (.write addr bytes) := hticket.cpu rfl
      have hrange : ToyMemory.inRange soc.mem addr bytes.length := by
        rw [hsized.data addr bytes rfl]
        exact hfits.inRange_cpu hsized.slot
      obtain ⟨rfl, rfl, hflights⟩ := ToyMemory.write_spec hwired.toBus hrange hmem
      exact .of (h.serve (h.coherent.serve_write hfits)) hflights rfl
        (rank_move (hweight _) rfl rfl rfl)
    · obtain ⟨hrange, hcoherent⟩ := h.coherent.serve_dma hfits
      obtain ⟨rfl, rfl, hflights⟩ := ToyMemory.write_spec hwired.toBus hrange hmem
      exact .of (h.serve hcoherent) hflights rfl (rank_move (hweight _) rfl rfl rfl)

/-- A response reaches the bus. -/
lemma Holds.react_served (hwired : Wired wiring)
    (htarget : Ticket.flight soc ⟨side, txn, op, .served downstream data⟩ = some f)
    (h : Holds (⟨side, txn, op, .served downstream data⟩ ::ₘ rest) parts (f ::ₘ packets)) :
    Progress wiring (⟨side, txn, op, .served downstream data⟩ ::ₘ rest) parts packets f calls result
      part' := by
  cases htarget
  cases hpart
  obtain ⟨bus, hbus, rfl⟩ := Handler.completes_map.mp hrun
  have hroute : parts.bus.routes[downstream]? =
      some { port := side, txn, write := op.isWrite } := by
    have hroutes := h.tells.routes
    rw [Multiset.filterMap_cons_some Ticket.route _ _ rfl] at hroutes
    exact SparseMap.mem_entries.mp (hroutes ▸ Multiset.mem_cons_self _ _)
  have hkind : op.isWrite = data.isNone :=
    ((h.coherent.fits _ (Multiset.mem_cons_self _ _)).kind data rfl).symm
  have hfar :
    wiring (busId, ToyBus.upstreamPort side) = some (Ticket.initiator side, ToyCpu.port) := by
    rcases Fin.exists_fin_two.mp ⟨side, rfl⟩ with rfl | rfl
    · exact hwired.toCpu
    · exact hwired.toDma
  obtain ⟨rfl, rfl, hflights⟩ := ToyBus.route_spec hfar hroute hkind hbus
  exact .of h.return_ hflights rfl (rank_move (Nat.lt_succ_self _) rfl rfl rfl)

/-- A response reaches its initiator. -/
lemma Holds.react_returned (htarget : Ticket.flight soc ⟨side, txn, op, .returned data⟩ = some f)
    (h : Holds (⟨side, txn, op, .returned data⟩ ::ₘ rest) parts (f ::ₘ packets)) :
    Progress wiring (⟨side, txn, op, .returned data⟩ ::ₘ rest) parts packets f calls result
      part' := by
  cases htarget
  rcases Fin.exists_fin_two.mp ⟨side, rfl⟩ with rfl | rfl
  · cases hpart
    obtain ⟨cpu, hcpu, rfl⟩ := Handler.completes_map.mp hrun
    have harrived : (parts.cpu.handleEvent (.message ToyCpu.port
      (.mem (ToyBus.response (txn, data).1 (txn, data).2)))).Completes _ calls result cpu := hcpu
    obtain ⟨rfl, rfl, hflights⟩ := ToyCpu.receive_spec wiring harrived
    exact .of h.arrive hflights rfl (rank_move (Nat.lt_succ_self _) rfl rfl rfl)
  · cases hpart
    obtain ⟨dma, hdma, rfl⟩ := Handler.completes_map.mp hrun
    have hticket := h.coherent.fits _ (Multiset.mem_cons_self _ _)
    obtain ⟨slot, -, bytes, rfl, -⟩ := hticket.dma rfl
    have hnone : data.isNone := hticket.kind data rfl
    obtain rfl : data = none := Option.isNone_iff_eq_none.mp hnone
    obtain ⟨rfl, rfl, hflights⟩ := ToyDma.complete_spec wiring (h.dma_outstanding rfl) hdma
    refine .of h.done hflights rfl ?_
    rw [rank_cons]
    exact Nat.lt_add_of_pos_left Nat.one_pos

/-! ## Runs -/

/-- Whatever is delivered, the system makes progress. -/
lemma Holds.react (hfits : soc.Fits) (hwired : Wired wiring)
    (h : Holds tickets parts (f ::ₘ packets)) :
    Progress wiring tickets parts packets f calls result part' := by
  have hmem : f ∈ tickets.filterMap (Ticket.flight soc) + parts.wakes := by
    rw [← h.tells.packets]
    exact Multiset.mem_cons_self _ _
  rcases Multiset.mem_add.mp hmem with hflight | hwake
  · obtain ⟨⟨side, txn, op, stage⟩, rest, rfl, hticket⟩ :=
      Multiset.exists_cons_of_mem_filterMap hflight
    cases stage with
    | asked => exact h.react_asked hpart hrun hticket
    | granted => exact h.react_granted hpart hrun hfits hwired hticket
    | served => exact h.react_served hpart hrun hwired hticket
    | returned => exact h.react_returned hpart hrun hticket
    | queued | arrived => cases hticket
  · simp only [Parts.wakes, ToyCpu.issueWake, ToyCpu.commitWake, ToyDma.wake, ToyBus.wake,
      Multiset.mem_add, mem_wakes] at hwake
    rcases hwake with ((⟨hscheduled, rfl⟩ | ⟨hscheduled, rfl⟩) | ⟨hscheduled, rfl⟩)
      | ⟨hscheduled, rfl⟩
    · cases hpart
      obtain ⟨cpu, hcpu, rfl⟩ := Handler.completes_map.mp hrun
      exact h.react_issue hfits hwired hscheduled hcpu
    · cases hpart
      obtain ⟨cpu, hcpu, rfl⟩ := Handler.completes_map.mp hrun
      exact h.react_commit hscheduled hcpu
    · cases hpart
      obtain ⟨dma, hdma, rfl⟩ := Handler.completes_map.mp hrun
      exact h.react_burst hwired hscheduled hdma
    · cases hpart
      obtain ⟨bus, hbus, rfl⟩ := Handler.completes_map.mp hrun
      exact h.react_arbitrate hfits hwired hscheduled hbus

end

variable [ToySnapshotData]

/-- Initializing a component goes well, and schedules its first wake. -/
lemma init_started (wiring : Wiring) (hfits : soc.Fits) {k : ℕ} {phase : Phase}
    (hpart : (started soc k).toList[k]? = some part)
    (hrun : (Component.init part).Completes ⟨UInt32.ofNat k, now, phase⟩ calls result part') :
    result = .ok () ∧ (started soc k).toList.set k part' = (started soc (k + 1)).toList ∧
      (started soc k).wakes + flights wiring
        (UInt32.ofNat k) calls = (started soc (k + 1)).wakes := by
  match k with
  | 0 =>
    cases hpart
    obtain ⟨cpu, hcpu, rfl⟩ := Handler.completes_map.mp hrun
    obtain ⟨rfl, rfl, hflights⟩ :=
      ToyCpu.init_spec wiring hfits.cpuOutstanding hfits.cpuSlots hcpu
    refine ⟨rfl, rfl, ?_⟩
    rw [hflights]
    change 0 + 0 + 0 + 0 + wakes _ _ _ _ = wakes _ _ _ _ + 0 + 0 + 0
    simp
    rfl
  | 1 =>
    cases hpart
    obtain ⟨dma, hdma, rfl⟩ := Handler.completes_map.mp hrun
    obtain ⟨rfl, rfl, hflights⟩ :=
      ToyDma.init_spec wiring hfits.dmaOutstanding hfits.dmaSlots hdma
    refine ⟨rfl, rfl, ?_⟩
    rw [hflights]
    change wakes _ _ _ _ + 0 + 0 + 0 + wakes _ _ _ _ = wakes _ _ _ _ + 0 + wakes _ _ _ _ + 0
    simp
    rfl
  | 2 =>
    cases hpart
    obtain ⟨bus, ⟨rfl, rfl, rfl⟩, rfl⟩ := Handler.completes_map.mp hrun
    exact ⟨rfl, rfl, Multiset.add_zero _⟩
  | 3 =>
    cases hpart
    obtain ⟨mem, ⟨rfl, rfl, rfl⟩, rfl⟩ := Handler.completes_map.mp hrun
    exact ⟨rfl, rfl, Multiset.add_zero _⟩
  | k + 4 => cases hpart

/-- What initializing the first components makes of the system. -/
lemma boots_started (hfits : soc.Fits) {k : ℕ} {net : Network (ToyPart soc)}
    (h : Network.Boots wiring soc.components k net) :
    net = ⟨(started soc k).toList, (started soc k).wakes⟩ := by
  induction h with
  | start => rfl
  | next _ hpart hinit ih =>
    subst ih
    obtain ⟨-, hset, hwakes⟩ := init_started wiring hfits hpart hinit
    rw [hset, hwakes]

/-- No component fails when it is initialized. -/
lemma not_bootBreaks (hfits : soc.Fits) {e : SimError} :
    ¬Network.BootBreaks wiring soc.components e := by
  rintro ⟨k, net, hboots, part, hpart, now, phase, calls, part', hinit⟩
  obtain rfl := boots_started hfits hboots
  obtain ⟨hresult, -⟩ := init_started wiring hfits hpart hinit
  cases hresult

/-- Every run keeps the system in order, and has used up part of what the operation counts
allow. -/
lemma holds_of_runs (hfits : soc.Fits) (hwired : Wired wiring) {n : ℕ} {net : Network (ToyPart soc)}
    (h : Network.Runs wiring soc.components n net) :
    ∃ tickets parts, net.state = parts.toList ∧ Holds tickets parts net.packets ∧
      rank tickets parts + n ≤ 7 * soc.cpu.ops.toNat + 6 * soc.dma.ops.toNat := by
  obtain ⟨net₀, hboots, hrun⟩ := h
  obtain rfl := boots_started hfits hboots
  let I : Network (ToyPart soc) → ℕ → Prop := fun net r =>
    ∃ tickets parts, net.state = parts.toList ∧ Holds tickets parts net.packets ∧
      rank tickets parts = r
  have hstart : I ⟨(started soc 4).toList, (started soc 4).wakes⟩
      (7 * soc.cpu.ops.toNat + 6 * soc.dma.ops.toNat) :=
    ⟨0, started soc 4, rfl, holds_started hfits, rfl⟩
  have hstep : ∀ net net' r, Soup.Step (Network.Reacts wiring) net net' → I net r →
      ∃ r', I net' r' ∧ r' < r := by
    rintro _ _ _ ⟨hpart, hreacts⟩ ⟨tickets, parts, hstate, hholds, rfl⟩
    obtain rfl := hstate
    obtain ⟨-, tickets', parts', hset, hholds', hlt⟩ := hholds.react hpart hreacts hfits hwired
    exact ⟨_, ⟨tickets', parts', hset, hholds', rfl⟩, hlt⟩
  obtain ⟨r, ⟨tickets, parts, hstate, hholds, rfl⟩, hle⟩ := Soup.Run.rank_le hstep hstart hrun
  exact ⟨tickets, parts, hstate, hholds, hle⟩

/-- No component fails on anything under way. -/
lemma not_breaks (hfits : soc.Fits) (hwired : Wired wiring) {n : ℕ} {net : Network (ToyPart soc)}
    (h : Network.Runs wiring soc.components n net) {e : SimError} : ¬net.Breaks e := by
  rintro ⟨f, hf, part, hpart, now, calls, part', hrun⟩
  obtain ⟨tickets, parts, hstate, hholds, -⟩ := holds_of_runs hfits hwired h
  obtain ⟨packets, hpackets⟩ := Multiset.exists_cons_of_mem hf
  rw [hstate] at hpart
  rw [hpackets] at hholds
  obtain ⟨hresult, -⟩ := hholds.react hpart hrun hfits hwired
  cases hresult

/-! ## Sessions -/

section

variable [Contracts] {clock : SimulationClock} {domains : List ClockDomain} {config : SessionConfig}
  {rt₀ rt : Runtime (ToyPart soc)} {calls : List Runtime.Call}

/-- A session is a run of the network of the system. -/
lemma refines_exec (hclock : Contracts.ClockErrors)
    (h : (soc.topology clock domains).elaborate config = .ok rt₀)
    (hcalls : ∀ c ∈ calls, c.advances) :
    rt₀.components = soc.components ∧ Wired rt₀.wiring ∧
      Runtime.Refines rt₀ (Machine.exec Runtime.call rt₀ calls).2 := by
  obtain ⟨-, hrefines⟩ := Runtime.routed_refines_exec hclock h hcalls
  refine ⟨?_, ?_, hrefines⟩
  · rw [eq_session h]
    rfl
  · rw [eq_session h]
    exact wired_session

/-- **No component of the toy system ever fails.**  No response is unknown to whom it reaches, none
is of the wrong kind, no access is outside the memory, every read returns what the CPU wrote, and a
slot is always free: whatever the seed, the counts and the clocks, a session does not fault but with
an error of the clocks or of the runtime. -/
theorem components_never_fail (hclock : Contracts.ClockErrors) (hfits : soc.Fits)
    (h : (soc.topology clock domains).elaborate config = .ok rt₀)
    (hcalls : ∀ c ∈ calls, c.advances) :
    ¬(Machine.exec Runtime.call rt₀ calls).2.FaultRaised := by
  obtain ⟨hcomponents, hwired, hrefines⟩ := refines_exec hclock h hcalls
  rintro ⟨e, hfault, hraised⟩
  cases hrefines with
  | elaborated _ hnone | ready _ hnone =>
    rw [hfault] at hnone
    cases hnone
  | boot _ hsome _ hbreaks =>
    rw [hfault, Option.some.injEq] at hsome
    subst hsome
    have hbreaks := hbreaks hraised
    rw [hcomponents] at hbreaks
    exact not_bootBreaks hfits hbreaks
  | faulted _ hsome hruns _ hbreaks =>
    rw [hfault, Option.some.injEq] at hsome
    subst hsome
    rw [hcomponents] at hruns
    exact not_breaks hfits hwired hruns (hbreaks hraised)

/-- A session that is ready is in order. -/
lemma holds_of_ready (hclock : Contracts.ClockErrors) (hfits : soc.Fits)
    (h : (soc.topology clock domains).elaborate config = .ok rt₀)
    (hcalls : ∀ c ∈ calls, c.advances) (hrt : (Machine.exec Runtime.call rt₀ calls).2 = rt)
    (hready : rt.lifecycle = .ready) :
    ∃ tickets parts, rt.components = parts.toList ∧ Holds tickets parts rt.scheduler.flights ∧
      rank tickets parts + rt.history.length ≤ 7 * soc.cpu.ops.toNat + 6 * soc.dma.ops.toNat := by
  obtain ⟨hcomponents, hwired, hrefines⟩ := refines_exec hclock h hcalls
  rw [hrt] at hrefines
  obtain ⟨-, hruns⟩ := hrefines.runs_of_ready hready
  rw [hcomponents] at hruns
  exact holds_of_runs hfits hwired hruns

/-- **No operation is lost, and none is there twice.**  In a session of a configuration that fits
together, driven short of a restore, that is ready, what every component holds of the operations and
what is queued between them are views of one collection of tickets, one for each operation issued
and not retired, and the memory holds what the CPU believes up to the writes it has taken and the
CPU has not committed. -/
theorem operations_are_accounted_for (hclock : Contracts.ClockErrors) (hfits : soc.Fits)
    (h : (soc.topology clock domains).elaborate config = .ok rt₀)
    (hcalls : ∀ c ∈ calls, c.advances) (hrt : (Machine.exec Runtime.call rt₀ calls).2 = rt)
    (hready : rt.lifecycle = .ready) :
    ∃ tickets parts, rt.components = parts.toList ∧ Holds tickets parts rt.scheduler.flights := by
  obtain ⟨tickets, parts, hcomponents, hholds, -⟩ :=
    holds_of_ready hclock hfits h hcalls hrt hready
  exact ⟨tickets, parts, hcomponents, hholds⟩

/-- **Every session ends.**  An operation of the CPU takes seven events at most, a write of the DMA
six; so a session of a configuration that fits together, driven short of a restore, that is ready
has dispatched no more than its operation counts allow. -/
theorem dispatches_le (hclock : Contracts.ClockErrors) (hfits : soc.Fits)
    (h : (soc.topology clock domains).elaborate config = .ok rt₀)
    (hcalls : ∀ c ∈ calls, c.advances) (hrt : (Machine.exec Runtime.call rt₀ calls).2 = rt)
    (hready : rt.lifecycle = .ready) :
    rt.history.length ≤ 7 * soc.cpu.ops.toNat + 6 * soc.dma.ops.toNat := by
  obtain ⟨tickets, parts, -, -, hle⟩ := holds_of_ready hclock hfits h hcalls hrt hready
  omega

/-- **A session that has run dry has done everything.**  Once no event is queued in a session of a
configuration that fits together, driven short of a restore, all operations have been issued,
granted and retired, nothing is left of them in any component, and every slot of the memory holds
what the CPU last wrote there. -/
theorem drained_sessions_have_retired (hclock : Contracts.ClockErrors) (hfits : soc.Fits)
    (h : (soc.topology clock domains).elaborate config = .ok rt₀)
    (hcalls : ∀ c ∈ calls, c.advances) (hrt : (Machine.exec Runtime.call rt₀ calls).2 = rt)
    (hready : rt.lifecycle = .ready) (hdrained : rt.scheduler.heap.toList = []) :
    ∃ parts : Parts soc, rt.components = parts.toList ∧ parts.Retired := by
  obtain ⟨tickets, parts, hcomponents, hholds, -⟩ :=
    holds_of_ready hclock hfits h hcalls hrt hready
  have hflights : rt.scheduler.flights = 0 := by
    rw [Scheduler.flights, hdrained]
    rfl
  rw [hflights] at hholds
  exact ⟨parts, hcomponents, hholds.retired hfits⟩

end

end ToySoc

/-! ## The reference scenario -/

namespace ToySoc

/-- The scenario fits together as long as the operation counts do not overflow. -/
lemma reference_fits {config : ReferenceConfig}
    (h : config.cpuOps.toNat + config.dmaOps.toNat < 2 ^ 64) : (reference config).Fits where
  cpuOutstanding := show (4 : UInt32) ≠ 0 by decide
  cpuSlots := show 4 < cpuSlots by decide
  cpuAccess := show cpuAccess ≠ 0 by decide
  cpuRegion := show cpuSlots.toNat * cpuAccess.toNat ≤ dmaBase.toNat by decide
  dmaOutstanding := show (8 : UInt32) ≠ 0 by decide
  dmaSlots := show dmaSlots ≠ 0 by decide
  dmaRegion := show dmaBase.toNat + dmaSlots.toNat * dmaAccess.toNat ≤ memorySize.toNat by decide
  ops := h

namespace Sample

/-- One operation of each initiator. -/
def config : ReferenceConfig := ⟨1, 1, 1⟩

scoped instance : Contracts := Canonical.contracts clock.ticksPerSecond.toNat

scoped instance : ToySnapshotData := Canonical.toySnapshotData

/-- Of the few values drawn, one is accepted. -/
scoped instance : SimRng := Canonical.boundedRng 8

/-- The session before it is driven. -/
def start : Runtime (ToyPart (reference config)) :=
  (reference config).session clock domains config.session

def calls : List Runtime.Call := [.init, .run 1000000]

lemma clockErrors : Contracts.ClockErrors := Canonical.canonical_clockErrors _

lemma fits : (reference config).Fits := reference_fits (by decide)

lemma elaborate_start :
    ((reference config).topology clock domains).elaborate config.session = .ok start :=
  elaborate_topology (by decide)

lemma advances : ∀ c ∈ calls, c.advances := by decide

lemma drained :
    (Machine.exec Runtime.call start calls).2.lifecycle = .ready ∧
      (Machine.exec Runtime.call start calls).2.scheduler.heap.toList = [] := by
  decide +kernel

end Sample

open Sample

theorem components_never_fail_sample :
    ¬(Machine.exec Runtime.call start calls).2.FaultRaised :=
  components_never_fail clockErrors fits elaborate_start advances

theorem operations_are_accounted_for_sample :
    ∃ tickets parts, (Machine.exec Runtime.call start calls).2.components = parts.toList ∧
      Holds tickets parts (Machine.exec Runtime.call start calls).2.scheduler.flights :=
  operations_are_accounted_for clockErrors fits elaborate_start advances rfl drained.1

theorem dispatches_le_sample :
    (Machine.exec Runtime.call start calls).2.history.length ≤ 7 * 1 + 6 * 1 :=
  dispatches_le clockErrors fits elaborate_start advances rfl drained.1

theorem drained_sessions_have_retired_sample :
    ∃ parts : Parts (reference config),
      (Machine.exec Runtime.call start calls).2.components = parts.toList ∧ parts.Retired :=
  drained_sessions_have_retired clockErrors fits elaborate_start advances rfl drained.1 drained.2

end ToySoc

end SystemScope
