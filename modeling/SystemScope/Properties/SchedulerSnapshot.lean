import SystemScope.Properties.SchedulerRefinement

/-!
# Scheduler snapshots

Two facts about `Scheduler.snapshot` and `Scheduler.restore` carry everything here.

*What restore accepts.*  `Accepts config snap` spells out the checks of the source on the queue
as a multiset: sequence numbers distinct and assigned, no event in `observe`, every event after
the cursor, and the S5 count in range.  `restore_eq_ok_iff` says that restore succeeds on
exactly these snapshots, whatever the order of the queue.

*What the future depends on.*  `Same s r` holds of two schedulers that one reference state of
`SchedulerModel` describes: they agree on every field and hold the same pending events, in heaps
of possibly different layout.  Such schedulers answer every call alike, for ever.

`snapshot_transparent` puts them together.
-/

namespace SystemScope

open scoped List

namespace Scheduler

variable {T : Type*}

/-! ## Sorted queues -/

lemma sortByKey_perm (queue : List (Event T)) : sortByKey queue ~ queue :=
  List.perm_insertionSort _ _

lemma sortBySequence_perm (queue : List (Event T)) : sortBySequence queue ~ queue :=
  List.perm_insertionSort _ _

lemma sortByKey_pairwise (queue : List (Event T)) :
    (sortByKey queue).Pairwise fun a b => a.key ≤ b.key :=
  haveI : Std.Total fun a b : Event T => a.key ≤ b.key := ⟨fun a b => le_total a.key b.key⟩
  haveI : IsTrans (Event T) fun a b => a.key ≤ b.key := ⟨fun _ _ _ => le_trans⟩
  List.pairwise_insertionSort _ _

lemma sortBySequence_pairwise (queue : List (Event T)) :
    (sortBySequence queue).Pairwise fun a b => a.key.sequence ≤ b.key.sequence :=
  haveI : Std.Total fun a b : Event T => a.key.sequence ≤ b.key.sequence :=
    ⟨fun a b => le_total a.key.sequence b.key.sequence⟩
  haveI : IsTrans (Event T) fun a b => a.key.sequence ≤ b.key.sequence :=
    ⟨fun _ _ _ => le_trans⟩
  List.pairwise_insertionSort _ _

/-- With distinct keys, the sorted queue depends on the multiset of events alone. -/
lemma sortByKey_eq_of_perm {q q' : List (Event T)} (hperm : q ~ q')
    (hnodup : (q.map Event.key).Nodup) : sortByKey q = sortByKey q' := by
  have hq := sortByKey_perm q
  have hq' := (sortByKey_perm q').trans hperm.symm
  refine List.Perm.eq_of_pairwise ?_ (sortByKey_pairwise q) (sortByKey_pairwise q')
    (hq.trans hq'.symm)
  intro a b ha hb hab hba
  exact List.inj_on_of_nodup_map hnodup (hq.mem_iff.mp ha) (hq'.mem_iff.mp hb)
    (le_antisymm hab hba)

/-- In a sorted queue, neighbours with equal sequence numbers are the only duplicates. -/
lemma duplicate_eq_none {queue : List (Event T)}
    (hsorted : queue.Pairwise fun a b => a.key.sequence ≤ b.key.sequence) :
    duplicate queue = none ↔ (queue.map fun e => e.key.sequence).Nodup := by
  induction queue with
  | nil => simp [duplicate]
  | cons a rest ih =>
    cases rest with
    | nil => simp [duplicate]
    | cons b rest =>
      obtain ⟨ha, hrest⟩ := List.pairwise_cons.mp hsorted
      rw [duplicate, List.map_cons, List.nodup_cons]
      split
      next heq => simp [heq]
      next hne =>
        rw [ih hrest]
        refine ⟨fun h => ⟨fun hmem => ?_, h⟩, And.right⟩
        -- `b` is the least of the rest, so a later duplicate of `a` would be one of `b` too.
        obtain ⟨e, he, heq⟩ := List.mem_map.mp hmem
        have hab := ha b List.mem_cons_self
        have hbe : b.key.sequence ≤ e.key.sequence := by
          rcases List.mem_cons.mp he with rfl | he
          · exact le_rfl
          · exact (List.pairwise_cons.mp hrest).1 e he
        exact hne (le_antisymm hab (heq ▸ hbe))

/-! ## What restore accepts -/

lemma checkPending_eq_none {last : Option EventKey} {next : UInt64} {key : EventKey} :
    checkPending last next key = none ↔
      key.sequence < next ∧ key.phase ≠ .observe ∧ ∀ l, last = some l → l < key := by
  unfold checkPending
  cases last with
  | none => split_ifs <;> simp_all
  | some l => split_ifs <;> simp_all

lemma countOk_iff {config : SchedulerConfig} {snap : SchedulerSnapshot T} :
    countOk config snap ↔
      (snap.lastDispatched = none → snap.dispatchedInPhase = 0) ∧
      ∀ last, snap.lastDispatched = some last →
        1 ≤ snap.dispatchedInPhase ∧ snap.dispatchedInPhase ≤ config.maxEventsPerPhase := by
  unfold countOk
  cases hl : snap.lastDispatched <;> simp

/-- The snapshots restore accepts, independently of the order of the queue. -/
structure Accepts (config : SchedulerConfig) (snap : SchedulerSnapshot T) : Prop where
  count : countOk config snap
  nodup : (snap.queue.map fun e => e.key.sequence).Nodup
  assigned : ∀ e ∈ snap.queue, e.key.sequence < snap.nextSequence
  not_observe : ∀ e ∈ snap.queue, e.key.phase ≠ .observe
  after_cursor : ∀ last, snap.lastDispatched = some last → ∀ e ∈ snap.queue, last < e.key

/-- The scheduler an accepted snapshot is rebuilt into. -/
def rebuilt (config : SchedulerConfig) (snap : SchedulerSnapshot T) : Scheduler T where
  config := config
  lastDispatched := snap.lastDispatched
  dispatchedInPhase := snap.dispatchedInPhase
  nextSequence := snap.nextSequence
  heap := BinaryHeap.ofList (sortBySequence snap.queue)

lemma rebuilt_heap_toList (config : SchedulerConfig) (snap : SchedulerSnapshot T) :
    (rebuilt config snap).heap.toList ~ snap.queue :=
  (BinaryHeap.ofList_toList _).trans (sortBySequence_perm _)

lemma restore_eq_ok_iff {config : SchedulerConfig} {snap : SchedulerSnapshot T}
    {s : Scheduler T} :
    restore config snap = .ok s ↔ Accepts config snap ∧ s = rebuilt config snap := by
  have hmem : ∀ e, e ∈ sortBySequence snap.queue ↔ e ∈ snap.queue :=
    fun e => (sortBySequence_perm _).mem_iff
  have hdup : duplicate (sortBySequence snap.queue) = none ↔
      (snap.queue.map fun e => e.key.sequence).Nodup := by
    rw [duplicate_eq_none (sortBySequence_pairwise _)]
    exact ((sortBySequence_perm _).map _).nodup_iff
  have hpending : (sortBySequence snap.queue).findSome?
      (fun e => checkPending snap.lastDispatched snap.nextSequence e.key) = none ↔
      ∀ e ∈ snap.queue, e.key.sequence < snap.nextSequence ∧ e.key.phase ≠ .observe ∧
        ∀ l, snap.lastDispatched = some l → l < e.key := by
    simp only [List.findSome?_eq_none_iff, hmem, checkPending_eq_none]
  unfold restore
  constructor
  · intro h
    split_ifs at h with hcount
    dsimp only at h
    split at h
    next => cases h
    next hd =>
      split at h
      next => cases h
      next hp =>
        obtain rfl := Except.ok.inj h
        have hall := hpending.mp hp
        refine ⟨⟨by simpa using hcount, hdup.mp hd, fun e he => (hall e he).1,
          fun e he => (hall e he).2.1, fun last hlast e he => (hall e he).2.2 last hlast⟩, rfl⟩
  · rintro ⟨h, rfl⟩
    have hp := hpending.mpr fun e he =>
      ⟨h.assigned e he, h.not_observe e he, fun l hl => h.after_cursor l hl e he⟩
    simp only [h.count, Bool.not_true, Bool.false_eq_true, if_false, hdup.mpr h.nodup, hp, rebuilt]

lemma Accepts.perm {config : SchedulerConfig} {snap : SchedulerSnapshot T}
    (h : Accepts config snap) {queue : List (Event T)} (hperm : queue ~ snap.queue) :
    Accepts config { snap with queue } where
  count := h.count
  nodup := (hperm.map _).nodup_iff.mpr h.nodup
  assigned e he := h.assigned e (hperm.mem_iff.mp he)
  not_observe e he := h.not_observe e (hperm.mem_iff.mp he)
  after_cursor last hlast e he := h.after_cursor last hlast e (hperm.mem_iff.mp he)

lemma Valid.accepts_snapshot {s : Scheduler T} (h : s.Valid) : Accepts s.config s.snapshot where
  count := countOk_iff.mpr
    ⟨h.count_zero, fun last hlast => ⟨h.count_pos last hlast, h.count_le last hlast⟩⟩
  nodup := ((sortByKey_perm _).map _).nodup_iff.mpr h.nodup
  assigned e he := h.assigned e ((sortByKey_perm _).mem_iff.mp he)
  not_observe e he := h.not_observe e ((sortByKey_perm _).mem_iff.mp he)
  after_cursor last hlast e he := h.after_cursor last hlast e ((sortByKey_perm _).mem_iff.mp he)

/-! ## Schedulers with the same future -/

/-- Two schedulers that differ in the layout of their heaps at most. -/
def Same (s r : Scheduler T) : Prop :=
  ∃ m, SchedulerModel.Refines s m ∧ SchedulerModel.Refines r m

lemma Valid.refines {s : Scheduler T} (h : s.Valid) :
    SchedulerModel.Refines s
      { limit := s.config.maxEventsPerPhase
        last := s.lastDispatched
        count := s.dispatchedInPhase.toNat
        nextSequence := s.nextSequence
        pending := s.heap.toList } :=
  ⟨h, rfl, rfl, rfl, rfl, .rfl⟩

lemma Valid.of_perm {s r : Scheduler T} (h : s.Valid) (hconfig : r.config = s.config)
    (hlast : r.lastDispatched = s.lastDispatched)
    (hcount : r.dispatchedInPhase = s.dispatchedInPhase) (hnext : r.nextSequence = s.nextSequence)
    (hperm : r.heap.toList ~ s.heap.toList) : r.Valid where
  nodup := (hperm.map _).nodup_iff.mpr h.nodup
  assigned e he := hnext ▸ h.assigned e (hperm.mem_iff.mp he)
  not_observe e he := h.not_observe e (hperm.mem_iff.mp he)
  after_cursor last hl e he := h.after_cursor last (hlast ▸ hl) e (hperm.mem_iff.mp he)
  cursor_assigned last hl := hnext ▸ h.cursor_assigned last (hlast ▸ hl)
  count_zero hl := hcount ▸ h.count_zero (hlast ▸ hl)
  count_pos last hl := hcount ▸ h.count_pos last (hlast ▸ hl)
  count_le last hl := by
    rw [hcount, hconfig]
    exact h.count_le last (hlast ▸ hl)
  counted := by
    have hpend : r.pendingInPhase = s.pendingInPhase := by
      simp only [pendingInPhase, samePhase, hlast]
      exact hperm.countP_eq _
    rw [hpend, hcount, hnext]
    exact h.counted

namespace Same

variable {s r : Scheduler T}

lemma of_perm (h : s.Valid) (hconfig : r.config = s.config)
    (hlast : r.lastDispatched = s.lastDispatched)
    (hcount : r.dispatchedInPhase = s.dispatchedInPhase) (hnext : r.nextSequence = s.nextSequence)
    (hperm : r.heap.toList ~ s.heap.toList) : Same s r :=
  ⟨_, h.refines, h.of_perm hconfig hlast hcount hnext hperm, by rw [hconfig], hlast.symm,
    by rw [hcount], hnext.symm, hperm.symm⟩

lemma valid (h : Same s r) : s.Valid := h.choose_spec.1.valid

lemma symm (h : Same s r) : Same r s :=
  let ⟨m, hs, hr⟩ := h
  ⟨m, hr, hs⟩

lemma lastDispatched_eq (h : Same s r) : r.lastDispatched = s.lastDispatched :=
  let ⟨_, hs, hr⟩ := h
  hr.last.symm.trans hs.last

lemma dispatchedInPhase_eq (h : Same s r) : r.dispatchedInPhase = s.dispatchedInPhase :=
  let ⟨_, hs, hr⟩ := h
  UInt64.toNat_inj.mp (hr.count.symm.trans hs.count)

lemma nextSequence_eq (h : Same s r) : r.nextSequence = s.nextSequence :=
  let ⟨_, hs, hr⟩ := h
  hr.next.symm.trans hs.next

lemma heap_perm (h : Same s r) : r.heap.toList ~ s.heap.toList :=
  let ⟨_, hs, hr⟩ := h
  hr.pending.symm.trans hs.pending

lemma snapshot_eq (h : Same s r) : r.snapshot = s.snapshot := by
  have hsort := sortByKey_eq_of_perm h.heap_perm h.symm.valid.nodup_keys
  simp only [snapshot, h.lastDispatched_eq, h.dispatchedInPhase_eq, h.nextSequence_eq, hsort]

lemma peekKey_eq (h : Same s r) : r.peekKey = s.peekKey := by
  rw [peekKey, peekKey, BinaryHeap.peek_eq_of_perm h.heap_perm h.symm.valid.nodup_keys]

/-- Schedulers that are the same answer a call alike and stay the same. -/
lemma apply (h : Same s r) (c : Call T) :
    (s.apply c).1 = (r.apply c).1 ∧ Same (s.apply c).2 (r.apply c).2 := by
  obtain ⟨m, hs, hr⟩ := h
  obtain ⟨hout, hnext⟩ := SchedulerModel.refines_apply hs c
  obtain ⟨hout', hnext'⟩ := SchedulerModel.refines_apply hr c
  exact ⟨hout.trans hout'.symm, _, hnext, hnext'⟩

end Same

/-- Restoring a permuted snapshot gives the same scheduler, up to the layout of its heap. -/
lemma Valid.restore_snapshot {s : Scheduler T} (h : s.Valid) {queue : List (Event T)}
    (hperm : queue ~ s.snapshot.queue) :
    ∃ r, restore s.config { s.snapshot with queue } = .ok r ∧ Same s r := by
  refine ⟨_, restore_eq_ok_iff.mpr ⟨h.accepts_snapshot.perm hperm, rfl⟩, ?_⟩
  refine Same.of_perm h rfl rfl rfl rfl ?_
  exact (rebuilt_heap_toList _ _).trans (hperm.trans (sortByKey_perm _))

lemma exec_config (s : Scheduler T) (calls : List (Call T)) :
    (Machine.exec apply s calls).2.config = s.config := by
  refine Machine.exec_invariant (I := fun r : Scheduler T => r.config = s.config)
    (fun r c hr => ?_) rfl calls
  rcases r.apply_cases c with ⟨hsame, -, -⟩ | ⟨_, _, _, -, -, heq⟩ | ⟨_, _, -, -, -, heq⟩
  · rwa [hsame]
  · rwa [heq]
  · rwa [heq]

end Scheduler

/-! ## Transparency -/

/-- **A scheduler snapshot is transparent.**  In every state a scheduler reaches from empty,
restore accepts its snapshot with the queue in any order, under the same configuration; the
restored scheduler has the same snapshot, and answers every later sequence of calls as the
original does. -/
theorem scheduler_snapshot_transparent {T : Type*} (config : SchedulerConfig)
    (calls : List (Scheduler.Call T)) (queue : List (Event T))
    (hperm : queue ~ (Machine.exec Scheduler.apply (Scheduler.new config) calls).2.snapshot.queue) :
    let s := (Machine.exec Scheduler.apply (Scheduler.new config) calls).2
    ∃ r, Scheduler.restore config { s.snapshot with queue } = .ok r ∧
      r.snapshot = s.snapshot ∧
      ∀ later, (Machine.exec Scheduler.apply r later).1 =
        (Machine.exec Scheduler.apply s later).1 := by
  intro s
  have hvalid : s.Valid := Scheduler.exec_valid config calls
  obtain ⟨r, hr, hsame⟩ := hvalid.restore_snapshot hperm
  have hconfig : s.config = config := Scheduler.exec_config _ calls
  refine ⟨r, hconfig ▸ hr, hsame.snapshot_eq, fun later => ?_⟩
  exact (Machine.exec_simulation (R := Scheduler.Same) (fun _ _ c _ h => h.apply c)
    hsame.symm).1

/-- Two events left after a dispatch, captured and put back in the opposite order. -/
theorem scheduler_snapshot_transparent_swapped :
    let s := (Machine.exec Scheduler.apply (Scheduler.new ⟨10⟩)
      [.schedule 3 .request 7, .schedule 1 .request 8, .schedule 1 .complete 9, .pop]).2
    let queue : List (Event ℕ) := [⟨⟨3, .request, 0⟩, 7⟩, ⟨⟨1, .complete, 2⟩, 9⟩]
    s.snapshot.queue = queue.reverse ∧
    ∃ r, Scheduler.restore ⟨10⟩ { s.snapshot with queue } = .ok r ∧
      r.snapshot = s.snapshot ∧
      ∀ later, (Machine.exec Scheduler.apply r later).1 =
        (Machine.exec Scheduler.apply s later).1 := by
  intro s queue
  have hqueue : s.snapshot.queue = queue.reverse := by decide +kernel
  have hperm : queue ~ s.snapshot.queue := hqueue ▸ (List.reverse_perm queue).symm
  exact ⟨hqueue, scheduler_snapshot_transparent ⟨10⟩ _ queue hperm⟩

end SystemScope
