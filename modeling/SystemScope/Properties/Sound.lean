import SystemScope.Properties.Routing

/-!
# Dispatch records and events determine each other

`dispatchedEvent` is the exact inverse of `dispatchRecord` on event records.  Reading back what
was written goes protocol by protocol (`dispatchedMessage_dispatchRecord`); that nothing else
parses is the comparison at the end of `dispatchedEvent`
(`dispatchRecord_of_dispatchedEvent`). -/

namespace SystemScope

lemma u32TryFrom_toUInt64 (v : UInt32) : u32TryFrom v.toUInt64 = some v := by
  have hv := v.toNat_lt
  simp [u32TryFrom, hv]

lemma u16TryFrom_toUInt64 (v : UInt16) : u16TryFrom v.toUInt64 = some v := by
  have hv := v.toNat_lt
  simp [u16TryFrom, hv]

/-! ## Reading back what was written -/

section

variable (at_ : TraceAt) (source target : ComponentId) (port : PortId)

lemma dispatchedMessage_mem (msg : MemMsg) :
    dispatchedMessage (dispatchRecord at_ source target (.message port (.mem msg))) =
      some (.mem msg) := by
  cases msg with
  | readReq txn addr len =>
    -- The length is the one field whose type is narrower than its record value.
    change ((u32TryFrom len.toUInt64).bind fun len => some (MemMsg.readReq txn addr len)).bind
      (fun msg => some (Message.mem msg)) = _
    rw [u32TryFrom_toUInt64]
    rfl
  | readResp txn data => rfl
  | writeReq txn addr data => rfl
  | writeResp txn => rfl

lemma dispatchedMessage_memV1 (msg : MemV1.MemMsg) :
    dispatchedMessage (dispatchRecord at_ source target (.message port (.memV1 msg))) =
      some (.memV1 msg) := by
  cases msg with
  | readReq txn addr len =>
    change ((u32TryFrom len.toUInt64).bind
      fun len => some (MemV1.MemMsg.readReq txn addr len)).bind
        (fun msg => some (Message.memV1 msg)) = _
    rw [u32TryFrom_toUInt64]
    rfl
  | readResp txn outcome => rcases outcome with data | ⟨⟨⟩⟩ <;> rfl
  | writeReq txn addr data => rfl
  | writeResp txn outcome => rcases outcome with _ | ⟨⟨⟩⟩ <;> rfl

lemma dispatchedMessage_irq (msg : IrqMsg) :
    dispatchedMessage (dispatchRecord at_ source target (.message port (.irq msg))) =
      some (.irq msg) := by
  cases msg with
  | level asserted => rfl

lemma dispatchedMessage_block (msg : BlockMsg) :
    dispatchedMessage (dispatchRecord at_ source target (.message port (.block msg))) =
      some (.block msg) := by
  cases msg with
  | readBlock txn lba => rfl
  | writeBlock txn lba data => rfl
  | readResult txn outcome => rcases outcome with data | ⟨⟨⟩ | ⟨⟩⟩ <;> rfl
  | writeResult txn outcome => rcases outcome with _ | ⟨⟨⟩ | ⟨⟩⟩ <;> rfl

lemma dispatchedMessage_dispatchRecord (msg : Message) :
    dispatchedMessage (dispatchRecord at_ source target (.message port msg)) = some msg := by
  cases msg with
  | mem msg => exact dispatchedMessage_mem at_ source target port msg
  | memV1 msg => exact dispatchedMessage_memV1 at_ source target port msg
  | irq msg => exact dispatchedMessage_irq at_ source target port msg
  | block msg => exact dispatchedMessage_block at_ source target port msg

lemma dispatchedDelivery_dispatchRecord (delivery : Delivered) :
    dispatchedDelivery (dispatchRecord at_ source target delivery) = some delivery := by
  cases delivery with
  | wake token => rfl
  | message port msg =>
    have hport : (dispatchRecord at_ source target (.message port msg)).int 1 "port" =
        some port.toUInt64 := rfl
    have htoken : (dispatchRecord at_ source target (.message port msg)).get 1 "token" = none :=
      rfl
    simp [dispatchedDelivery, hport, htoken, u16TryFrom_toUInt64,
      dispatchedMessage_dispatchRecord]

end

lemma dispatchedEvent_dispatchRecord (ev : CanonicalEvent) :
    dispatchedEvent (dispatchRecord (.event ev.key) ev.source ev.target ev.delivery) =
      some ev := by
  have hsource : (dispatchRecord (.event ev.key) ev.source ev.target ev.delivery).int 0 "source" =
      some ev.source.toUInt64 := rfl
  have hdelivery := dispatchedDelivery_dispatchRecord (.event ev.key) ev.source ev.target
    ev.delivery
  unfold dispatchedEvent
  rw [hsource, hdelivery]
  simp [dispatchRecord, u32TryFrom_toUInt64]

/-! ## Only that is read -/

lemma dispatchRecord_of_dispatchedEvent {r : TraceRecord} {ev : CanonicalEvent}
    (h : dispatchedEvent r = some ev) :
    r = dispatchRecord (.event ev.key) ev.source ev.target ev.delivery := by
  unfold dispatchedEvent at h
  cases hat : r.at_ with
  | init =>
    rw [hat] at h
    cases h
  | event key =>
    simp only [hat] at h
    split_ifs at h
    obtain ⟨v, -, h⟩ := Option.bind_eq_some_iff.mp h
    obtain ⟨source, -, h⟩ := Option.bind_eq_some_iff.mp h
    obtain ⟨delivery, -, h⟩ := Option.bind_eq_some_iff.mp h
    split_ifs at h with hrebuilt
    obtain rfl := Option.some.inj h
    exact hrebuilt.symm

/-- **Dispatch records and events are in exact correspondence.**  Every event is read back from
its record; a record that parses is the record of what it parses to; hence no two records parse
to the same event. -/
theorem dispatchRecord_dispatchedEvent_inverse :
    (∀ (key : EventKey) (source target : ComponentId) (delivery : Delivered),
      dispatchedEvent (dispatchRecord (.event key) source target delivery) =
        some { key, source, target, delivery }) ∧
    (∀ r ev, dispatchedEvent r = some ev →
      r = dispatchRecord (.event ev.key) ev.source ev.target ev.delivery) ∧
    ∀ r r' ev, dispatchedEvent r = some ev → dispatchedEvent r' = some ev → r = r' := by
  refine ⟨fun key source target delivery => ?_, fun r ev => dispatchRecord_of_dispatchedEvent, ?_⟩
  · exact dispatchedEvent_dispatchRecord { key, source, target, delivery }
  · intro r r' ev hr hr'
    rw [dispatchRecord_of_dispatchedEvent hr, dispatchRecord_of_dispatchedEvent hr']

end SystemScope

/-!
## Sessions that can be restored

What `restore` and `resume_trace` check is true of every session that started by elaboration and
restored nothing itself: `Sound`.  The scheduler is valid, the queued events are ones the topology
could have scheduled, an execution digest comes with a dispatched event, the components are states
their declared ones can reach, and a trace replays to the digest and the last dispatched event.

A component's call is looked at from several sides: `Handler.run_valid` follows the scheduler
through it, `Handler.run_ends` the component, and `Handler.run_trace` says which records it
adds. -/

namespace SystemScope

section

variable {C : Type} [Contracts]

/-! ## What a component's call does -/

/-- A call ends in a state that its handler can end in. -/
lemma Handler.run_ends (h : Handler C) (ctx : Ctx) : h.Ends (h.run ctx).2.1 := by
  induction h generalizing ctx with
  | done result c => exact .done result c
  | send port msg when_ phase k ih => exact .send _ (ih _ _)
  | wakeSelf when_ phase token k ih => exact .wakeSelf _ (ih _ _)
  | rng draws k ih => exact .rng _ (ih _ _)
  | trace kind fields k ih => exact .trace (ih _)
  | component k ih => exact .component _ (ih _ _)
  | now k ih => exact .now _ (ih _ _)
  | phase k ih => exact .phase _ (ih _ _)

lemma Handler.run_valid (h : Handler C) {ctx : Ctx} (hvalid : ctx.scheduler.Valid) :
    (h.run ctx).2.2.scheduler.Valid ∧
      (h.run ctx).2.2.scheduler.config = ctx.scheduler.config := by
  refine h.run_induction (P := fun c => c.scheduler.Valid ∧
    c.scheduler.config = ctx.scheduler.config) ?_ ?_ ?_ ⟨hvalid, rfl⟩
  · intro c result c' hc hposted
    cases hposted with
    | refused => exact hc
    | failed => exact hc
    | sent _ _ _ _ _ _ _ _ ha => exact ⟨hc.1.enqueue ha _, hc.2⟩
    | woken _ _ _ _ _ _ ha => exact ⟨hc.1.enqueue ha _, hc.2⟩
  · exact fun _ _ hc => hc
  · exact fun _ _ _ hc => hc

/-- A call adds records of its own component, at its own place. -/
lemma Handler.run_trace (h : Handler C) (ctx : Ctx) :
    (h.run ctx).2.2.me = ctx.me ∧ (h.run ctx).2.2.at_ = ctx.at_ ∧
      ∃ records, (h.run ctx).2.2.trace = ctx.trace.map (· ++ records) ∧
        ∀ r ∈ records, r.at_ = ctx.at_ ∧ r.origin = .component ∧ r.component = ctx.me := by
  refine h.run_induction (P := fun c => c.me = ctx.me ∧ c.at_ = ctx.at_ ∧
    ∃ records, c.trace = ctx.trace.map (· ++ records) ∧
      ∀ r ∈ records, r.at_ = ctx.at_ ∧ r.origin = .component ∧ r.component = ctx.me) ?_ ?_ ?_ ?_
  · intro c result c' hc hposted
    cases hposted <;> exact hc
  · exact fun _ _ hc => hc
  · rintro c kind fields ⟨hme, hat, records, htrace, hrecords⟩
    refine ⟨hme, hat, records ++ [{ at_ := c.at_, origin := .component, component := c.me
                                    kind, fields }], ?_, ?_⟩
    · simp only [Ctx.emit, htrace, Option.map_map]
      congr 1
      funext l
      simp
    · exact List.forall_mem_append.mpr
        ⟨hrecords, List.forall_mem_singleton.mpr ⟨hat, rfl, hme⟩⟩
  · exact ⟨rfl, rfl, [], by simp, by simp⟩

end

section

variable {C : Type} [Contracts] [Component C]

/-! ## Traces that replay -/

lemma checkRecords_append (components : ℕ) (index : ℕ) (replayed : Digest)
    (current : Option EventKey) (records records' : List TraceRecord) :
    checkRecords components index replayed current (records ++ records') =
      match checkRecords components index replayed current records with
      | .error e => .error e
      | .ok (replayed, current) =>
        checkRecords components (index + records.length) replayed current records' := by
  induction records generalizing index replayed current with
  | nil => simp [checkRecords]
  | cons r records ih =>
    rw [List.cons_append, checkRecords, checkRecords]
    cases checkRecord components replayed current r with
    | none => rfl
    | some next =>
      dsimp only
      rw [ih, List.length_cons, Nat.add_right_comm]
      simp only [Nat.add_assoc]

lemma checkRecords_component {components : ℕ} {me : ComponentId} (hme : me.toNat < components)
    {at_ : TraceAt} {current : Option EventKey} (hplace : ∀ r : TraceRecord, r.at_ = at_ →
      r.inPlace current) {records : List TraceRecord}
    (hrecords : ∀ r ∈ records, r.at_ = at_ ∧ r.origin = .component ∧ r.component = me)
    (index : ℕ) (replayed : Digest) :
    checkRecords components index replayed current records = .ok (replayed, current) := by
  induction records generalizing index with
  | nil => rfl
  | cons r records ih =>
    obtain ⟨hat, horigin, hcomponent⟩ := hrecords r List.mem_cons_self
    have hcheck : checkRecord components replayed current r = some (replayed, current) := by
      simp only [checkRecord, hcomponent, not_le.mpr hme, if_false, horigin, hplace r hat, if_true]
    rw [checkRecords, hcheck]
    exact ih (fun r hr => hrecords r (List.mem_cons_of_mem _ hr)) _

lemma checkRecord_dispatch {components : ℕ} (ev : CanonicalEvent)
    (htarget : ev.target.toNat < components) {current : Option EventKey}
    (hafter : ∀ last, current = some last → last < ev.key) (replayed : Digest) :
    checkRecord components replayed current
        (dispatchRecord (.event ev.key) ev.source ev.target ev.delivery) =
      some (chain replayed ev, some ev.key) := by
  have hcomponent : (dispatchRecord (.event ev.key) ev.source ev.target ev.delivery).component =
      ev.target := rfl
  have horigin : (dispatchRecord (.event ev.key) ev.source ev.target ev.delivery).origin =
      .runtime := rfl
  have hfresh : (current.any fun k => decide (ev.key ≤ k)) = false := by
    cases current with
    | none => rfl
    | some last => simpa using hafter last rfl
  simp only [checkRecord, hcomponent, not_le.mpr htarget, if_false, horigin,
    dispatchedEvent_dispatchRecord, Option.bind_eq_bind, Option.bind_some, hfresh,
    Bool.false_eq_true]

/-! ## The invariant -/

namespace Runtime

/-- The invariant of a session elaborated as `rt₀` that has restored nothing. -/
structure Sound (rt₀ rt : Runtime C) : Prop extends Routed rt₀ rt where
  valid : rt.scheduler.Valid
  config : rt.scheduler.config = rt₀.config.scheduler
  evolves : List.Forall₂ Component.Evolves rt₀.components rt.components
  fresh : rt.lifecycle = .elaborated → rt.scheduler.lastDispatched = none
  digest : rt.scheduler.lastDispatched = none → rt.executionDigest = .zero
  fault : rt.lifecycle ≠ .faulted → rt.fault = none
  trace : ∀ records, rt.trace = some records →
    checkRecords rt₀.slots.length 0 .zero none (records ++ rt.emitted) =
      .ok (rt.executionDigest, rt.scheduler.lastDispatched)

omit [Contracts] [Component C] in
/-- Replacing one entry of related lists. -/
lemma forall₂_set {R : C → C → Prop} {l₀ l : List C} (h : List.Forall₂ R l₀ l) {i : ℕ} {c c' : C}
    (hc : l[i]? = some c) (hstep : ∀ c₀, R c₀ c → R c₀ c') : List.Forall₂ R l₀ (l.set i c') := by
  induction h generalizing i with
  | nil => cases hc
  | cons hx hrest ih =>
    cases i with
    | zero =>
      cases hc
      exact .cons (hstep _ hx) hrest
    | succ i => exact .cons hx (ih hc)

namespace Sound

variable {b : TopologyBuilder C} {rt₀ rt : Runtime C}

/-- A component's call, at a place where its records may stand. -/
lemma resume (hwired : rt₀.Wired b) (h : Sound rt₀ rt) {me : ComponentId} {at_ : TraceAt} {c : C}
    {ctx : Ctx} (henter : rt.enter me at_ = some (c, ctx))
    (hplace : ∀ r : TraceRecord, r.at_ = at_ → r.inPlace rt.scheduler.lastDispatched)
    {handler : Handler C}
    (hends : ∀ c₀ c', Component.Evolves c₀ c → handler.Ends c' → Component.Evolves c₀ c') :
    Sound rt₀ (rt.resume (handler.run ctx)) := by
  obtain ⟨hlast, -⟩ := handler.run_queue ctx
  obtain ⟨hme, -, records, hrun, hrecords⟩ := handler.run_trace ctx
  obtain ⟨slot, peers, rng, hc, hslot, -, -, hctx⟩ := enter_eq_some.mp henter
  have hrange : me.toNat < rt₀.slots.length := by
    rw [← h.fixed.slots]
    exact (List.getElem?_eq_some_iff.mp hslot).1
  have hctxme : ctx.me = me := by rw [hctx]
  have hscheduler : ctx.scheduler = rt.scheduler := by rw [hctx]
  have htrace : ctx.trace = if rt.capturing then some rt.emitted else none := by rw [hctx]
  have hat : ctx.at_ = at_ := by rw [hctx]
  rw [hctxme] at hme
  rw [hscheduler] at hlast
  obtain ⟨hvalid, hconfig⟩ := handler.run_valid (hscheduler ▸ h.valid)
  rw [hscheduler] at hconfig
  refine ⟨h.toRouted.resume hwired henter handler, hvalid, hconfig.trans h.config, ?_, ?_, ?_,
    h.fault, ?_⟩
  · change List.Forall₂ _ _ (rt.components.set (handler.run ctx).2.2.me.toNat _)
    rw [hme]
    exact forall₂_set h.evolves hc fun c₀ hc₀ => hends c₀ _ hc₀ (handler.run_ends ctx)
  · exact fun hfresh => hlast.trans (h.fresh hfresh)
  · exact fun hnone => h.digest (hlast.symm.trans hnone)
  · intro flushed hflushed
    change rt.trace.map (· ++ (handler.run ctx).2.2.trace.getD rt.emitted) = some flushed
      at hflushed
    obtain ⟨old, hold, rfl⟩ := Option.map_eq_some_iff.mp hflushed
    have hcapturing : rt.capturing = true := by simp [capturing, hold]
    rw [hrun, htrace, if_pos hcapturing, Option.map_some, Option.getD_some]
    change checkRecords _ _ _ _ ((old ++ (rt.emitted ++ records)) ++ []) =
      .ok (rt.executionDigest, (handler.run ctx).2.2.scheduler.lastDispatched)
    rw [List.append_nil, ← List.append_assoc, checkRecords_append, h.trace old hold, hlast]
    rw [hctxme, hat] at hrecords
    exact checkRecords_component hrange hplace hrecords _ _

/-- The next event is taken off the queue. -/
lemma take (h : Sound rt₀ rt) (hready : rt.lifecycle = .ready) {e : Event Pending}
    {heap : BinaryHeap (Event.key : Event Pending → EventKey)}
    (hpop : rt.scheduler.heap.pop = some (e, heap))
    (hlimit : rt.scheduler.countFor e.key ≤ rt.scheduler.config.maxEventsPerPhase) :
    Sound rt₀ (rt.take e heap) := by
  have hmem : e ∈ rt.scheduler.heap.toList :=
    (BinaryHeap.pop_eq_some hpop).2.mem_iff.mpr List.mem_cons_self
  have htarget := target_of_checkEvent (h.events e hmem)
  refine ⟨h.toRouted.take hpop, h.valid.advance hpop hlimit, h.config, h.evolves, ?_, ?_, h.fault,
    ?_⟩
  · intro hfresh
    rw [show (rt.take e heap).lifecycle = .ready from hready] at hfresh
    cases hfresh
  · intro hnone
    cases hnone
  · intro records hrecords
    have hold : rt.trace = some records := hrecords
    have hcapturing : ({ rt with scheduler := rt.scheduler.advance e heap } : Runtime C).capturing =
        true := by simp [capturing, hold]
    have hemitted : (rt.take e heap).emitted = rt.emitted ++ [dispatchRecord
        (.event e.canonical.key) e.canonical.source e.canonical.target e.canonical.delivery] := by
      simp only [Runtime.take, absorb, hcapturing, if_true]
    have hcheck := checkRecord_dispatch e.canonical htarget
      (fun last hlast => h.valid.after_cursor last hlast e hmem) rt.executionDigest
    rw [hemitted, ← List.append_assoc, checkRecords_append, h.trace records hold]
    simp only [checkRecords, hcheck]
    rfl

/-- What only drivers see is no part of it. -/
lemma congr {rt' : Runtime C} (h : Sound rt₀ rt) (hfixed : Fixed rt rt') (hsized : rt'.Sized)
    (hscheduler : rt'.scheduler = rt.scheduler) (hcomponents : rt'.components = rt.components)
    (hdigest : rt'.executionDigest = rt.executionDigest)
    (hfresh : rt'.lifecycle = .elaborated → rt.lifecycle = .elaborated)
    (hfault : rt'.lifecycle ≠ .faulted → rt.lifecycle ≠ .faulted ∧ rt'.fault = rt.fault)
    (htrace : ∀ records, rt'.trace = some records → rt.trace = some records)
    (hemitted : rt'.emitted = rt.emitted) : Sound rt₀ rt' where
  fixed := h.fixed.trans hfixed
  sized := hsized
  valid := hscheduler ▸ h.valid
  config := hscheduler ▸ h.config
  events := hscheduler ▸ h.events
  evolves := hcomponents ▸ h.evolves
  fresh hlife := hscheduler ▸ h.fresh (hfresh hlife)
  digest := hscheduler ▸ hdigest ▸ h.digest
  fault hlife := (hfault hlife).2.trans (h.fault (hfault hlife).1)
  trace records hrecords := by
    rw [hemitted, hdigest, hscheduler]
    exact h.trace records (htrace records hrecords)

lemma enterFault (h : Sound rt₀ rt) (e : SimError) : Sound rt₀ (rt.enterFault e).2 :=
  h.congr ⟨rfl, rfl, rfl, rfl, rfl, rfl, rfl⟩ { h.sized with } rfl rfl rfl
    (by simp [Runtime.enterFault]) (by simp [Runtime.enterFault]) (fun _ => id) rfl

lemma handle (hwired : rt₀.Wired b) {e : Event Pending}
    {heap : BinaryHeap (Event.key : Event Pending → EventKey)} (h : Sound rt₀ (rt.take e heap))
    {c : C} {ctx : Ctx}
    (henter : (rt.take e heap).enter e.payload.target (.event e.key) = some (c, ctx)) :
    Sound rt₀ ((rt.take e heap).resume (Runtime.handle e c ctx)) := by
  refine h.resume hwired henter ?_ fun c₀ c' hc₀ hends => hc₀.event e.canonical.delivery hends
  intro r hr
  have hlast : (rt.take e heap).scheduler.lastDispatched = some e.key := rfl
  simp [TraceRecord.inPlace, hr, hlast]

lemma dispatch (hwired : rt₀.Wired b) (h : Sound rt₀ rt) (hready : rt.lifecycle = .ready)
    (hemitted : rt.emitted = []) : Sound rt₀ rt.dispatch.2 ∧ rt.dispatch.2.emitted = [] := by
  have hspec := rt.dispatch_spec
  generalize rt.dispatch = out at hspec
  cases hspec with
  | drained => exact ⟨h, hemitted⟩
  | livelock e heap _ _ error => exact ⟨h.enterFault error, hemitted⟩
  | unknown e heap hpop hlimit hnone => exact absurd hnone (h.toRouted.enter_ne_none hpop)
  | failed e heap hpop hlimit c ctx henter error =>
    have hhandled := (h.take hready hpop hlimit).handle hwired henter
    exact ⟨hhandled.enterFault error, rfl⟩
  | handled e heap hpop hlimit c ctx henter =>
    have hhandled := (h.take hready hpop hlimit).handle hwired henter
    exact ⟨hhandled.congr ⟨rfl, rfl, rfl, rfl, rfl, rfl, rfl⟩ { hhandled.sized with } rfl rfl rfl id
      (fun hlife => ⟨hlife, rfl⟩) (fun _ => id) rfl, rfl⟩

lemma init (hwired : rt₀.Wired b) (h : Sound rt₀ rt) (helaborated : rt.lifecycle = .elaborated)
    (hemitted : rt.emitted = []) (k n : ℕ) :
    Sound rt₀ (rt.initFrom k n).2 ∧ (rt.initFrom k n).2.emitted = [] := by
  refine initFrom_induction
    (P := fun r : Runtime C => Sound rt₀ r ∧ r.emitted = [] ∧ r.lifecycle = .elaborated)
    (Q := fun r : Runtime C => Sound rt₀ r ∧ r.emitted = []) n k ?_ ?_ ?_ ?_
    ⟨h, hemitted, helaborated⟩
  · rintro r j c ctx ⟨hr, -, hfresh⟩ henter
    refine ⟨hr.resume hwired henter ?_ fun c₀ c' hc₀ hends => hc₀.init hends, rfl, hfresh⟩
    intro record hrecord
    simp [TraceRecord.inPlace, hrecord, hr.fresh hfresh]
  · rintro r ⟨hr, hnil, hfresh⟩
    have hlife : r.lifecycle ≠ .faulted := by simp [hfresh]
    exact ⟨hr.congr ⟨rfl, rfl, rfl, rfl, rfl, rfl, rfl⟩ { hr.sized with } rfl rfl rfl (by simp)
      (fun _ => ⟨hlife, rfl⟩) (fun _ => id) rfl, hnil⟩
  · rintro r e ⟨hr, hnil, -⟩
    exact ⟨hr.enterFault e, hnil⟩
  · exact fun r _ _ hr _ => ⟨hr.1, hr.2.1⟩

/-- Every step keeps it. -/
lemma advance (hwired : rt₀.Wired b) {rt' : Runtime C} (hadvance : Advance rt rt')
    (h : Sound rt₀ rt ∧ rt.emitted = []) : Sound rt₀ rt' ∧ rt'.emitted = [] := by
  obtain ⟨h, hemitted⟩ := h
  have hfixed : Fixed rt rt' := (Step.advance hadvance).fixed
  have hsized : rt'.Sized := (Step.advance hadvance).sized h.sized
  cases hadvance with
  | fire | observeAt | addObserver =>
    exact ⟨h.congr hfixed hsized rfl rfl rfl id (fun hl => ⟨hl, rfl⟩) (fun _ => id) rfl, hemitted⟩
  | dispatch hready => exact h.dispatch hwired hready hemitted
  | init helaborated => exact h.init hwired helaborated hemitted 0 _
  | startTrace helaborated =>
    refine ⟨⟨⟨h.fixed.trans hfixed, hsized, h.events⟩, h.valid, h.config, h.evolves, h.fresh,
      h.digest, h.fault, ?_⟩, hemitted⟩
    intro records hrecords
    obtain rfl := Option.some.inj hrecords
    have hlast := h.fresh helaborated
    rw [hemitted, h.digest hlast, hlast]
    rfl
  | takeTrace =>
    exact ⟨h.congr hfixed hsized rfl rfl rfl id (fun hl => ⟨hl, rfl⟩) (by simp) rfl, hemitted⟩

end Sound

lemma sound_of_elaborate {config : SessionConfig} {b : TopologyBuilder C} {rt : Runtime C}
    (h : b.elaborate config = .ok rt) : Sound rt rt ∧ rt.emitted = [] := by
  have hrouted := routed_of_elaborate h
  obtain ⟨slots, peers, links, -, -, -, rfl⟩ := TopologyBuilder.elaborate_eq_ok h
  refine ⟨⟨hrouted, Scheduler.new_valid _, rfl, ?_, fun _ => rfl, fun _ => rfl, fun _ => rfl, ?_⟩,
    rfl⟩
  · exact List.forall₂_same.mpr fun c _ => .refl
  · intro records hrecords
    cases hrecords

lemma exec_sound {config : SessionConfig} {b : TopologyBuilder C} {rt₀ : Runtime C}
    (h : b.elaborate config = .ok rt₀) {calls : List Call} (hcalls : ∀ c ∈ calls, c.advances) :
    Sound rt₀ (Machine.exec call rt₀ calls).2 ∧ (Machine.exec call rt₀ calls).2.emitted = [] :=
  exec_advance_invariant (fun _ _ hadvance hr => Sound.advance (wired_of_elaborate h) hadvance hr)
    (sound_of_elaborate h) hcalls

end Runtime

end

end SystemScope
