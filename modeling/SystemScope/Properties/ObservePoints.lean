import SystemScope.Components.Exchange
import SystemScope.Properties.Steps

/-!
# Where observe points fire

The journal of a session records when points were registered and fired and when events were
dispatched.  A point is *outstanding* if it was registered and has not fired since; those are the
pending points.  Along every run,

* only outstanding points fire, so a point fires at most once per registration;
* a point `T` fires with every event that is still queued later than `T`, hence before every event
  after `T` that is ever dispatched;
* an event is dispatched only when no outstanding point is before it, so a point that was
  registered in time fires after every event up to its tick.
-/

namespace SystemScope

/-! ## Journals -/

namespace Entry

/-- `T` was registered when the current tick was `n`, and has not fired since. -/
def Outstanding (T n : Tick) (journal : List Entry) : Prop :=
  ∃ before after, journal = before ++ .registered T n :: after ∧ .fired T ∉ after

/-- Every firing recorded was of an outstanding point, before every later event, and after every
event up to the point if it was registered in time. -/
def FiredInPlace (journal : List Entry) : Prop :=
  ∀ before T after, journal = before ++ .fired T :: after →
    (∃ n, Outstanding T n before) ∧
    (∀ n, Outstanding T n before → n ≤ T → ∀ ev, .dispatched ev ∈ before → ev.key.tick ≤ T) ∧
    ∀ ev, .dispatched ev ∈ after → T < ev.key.tick

lemma concat_eq_append_cons {journal before after : List Entry} {x y : Entry}
    (h : journal ++ [x] = before ++ y :: after) :
    (after = [] ∧ before = journal ∧ y = x) ∨
      ∃ rest, after = rest ++ [x] ∧ journal = before ++ y :: rest := by
  rcases List.eq_nil_or_concat after with rfl | ⟨rest, z, rfl⟩
  · obtain ⟨hl, hr⟩ := List.append_inj' h rfl
    exact .inl ⟨rfl, hl.symm, (List.singleton_inj.mp hr).symm⟩
  · rw [List.concat_eq_append, ← List.cons_append, ← List.append_assoc] at h
    obtain ⟨hl, hr⟩ := List.append_inj' h rfl
    rw [List.singleton_inj] at hr
    exact .inr ⟨rest, by rw [List.concat_eq_append, hr], hl⟩

lemma outstanding_concat {journal : List Entry} {x : Entry} {T n : Tick} :
    Outstanding T n (journal ++ [x]) ↔
      x = .registered T n ∨ (Outstanding T n journal ∧ x ≠ .fired T) := by
  constructor
  · rintro ⟨before, after, heq, hafter⟩
    rcases concat_eq_append_cons heq with ⟨rfl, rfl, rfl⟩ | ⟨rest, rfl, rfl⟩
    · exact .inl rfl
    · rw [List.mem_append, List.mem_singleton, not_or] at hafter
      exact .inr ⟨⟨before, rest, rfl, hafter.1⟩, Ne.symm hafter.2⟩
  · rintro (rfl | ⟨⟨before, after, rfl, hafter⟩, hx⟩)
    · exact ⟨journal, [], rfl, by simp⟩
    · refine ⟨before, after ++ [x], by simp, ?_⟩
      rw [List.mem_append, List.mem_singleton, not_or]
      exact ⟨hafter, Ne.symm hx⟩

/-- A journal of well-placed firings stays one if a new firing is well placed and a new dispatch
is after every point that fired. -/
lemma FiredInPlace.concat {journal : List Entry} (h : FiredInPlace journal) {x : Entry}
    (hfired : ∀ T, x = .fired T → (∃ n, Outstanding T n journal) ∧
      ∀ n, Outstanding T n journal → n ≤ T → ∀ ev, .dispatched ev ∈ journal → ev.key.tick ≤ T)
    (hdispatched : ∀ ev, x = .dispatched ev → ∀ T, .fired T ∈ journal → T < ev.key.tick) :
    FiredInPlace (journal ++ [x]) := by
  intro before T after heq
  rcases concat_eq_append_cons heq with ⟨rfl, rfl, hx⟩ | ⟨rest, rfl, rfl⟩
  · obtain ⟨hout, hplace⟩ := hfired T hx.symm
    exact ⟨hout, hplace, by simp⟩
  · obtain ⟨hout, hplace, hafter⟩ := h before T rest rfl
    refine ⟨hout, hplace, fun ev hev => ?_⟩
    rcases List.mem_append.mp hev with hev | hev
    · exact hafter ev hev
    · exact hdispatched ev (List.mem_singleton.mp hev).symm T (by simp)

end Entry

/-! ## The invariant -/

namespace Runtime

open Entry

variable {C : Type}

/-- The invariant of every session: queued events are at or after the current tick and after
every point that fired, dispatched events are before, the pending points are the outstanding
ones, and everything recorded is in place. -/
structure Placed (rt : Runtime C) : Prop where
  now_le : ∀ e ∈ rt.scheduler.heap.toList, rt.scheduler.now ≤ e.key.tick
  not_fired : rt.lifecycle = .elaborated → ∀ T, .fired T ∉ rt.journal
  not_dispatched : rt.lifecycle = .elaborated → ∀ ev, .dispatched ev ∉ rt.journal
  dispatched_le : ∀ ev, .dispatched ev ∈ rt.journal → ev.key.tick ≤ rt.scheduler.now
  fired_lt : ∀ T, .fired T ∈ rt.journal → ∀ e ∈ rt.scheduler.heap.toList, T < e.key.tick
  pending : ∀ T, T ∈ rt.observePoints.toList ↔ ∃ n, Outstanding T n rt.journal
  in_time : ∀ T n, Outstanding T n rt.journal → n ≤ T →
    ∀ ev, .dispatched ev ∈ rt.journal → ev.key.tick ≤ T
  firedInPlace : FiredInPlace rt.journal

namespace Placed

variable {rt : Runtime C}

/-- The invariant reads the queue, the points, the journal and the lifecycle alone. -/
lemma congr {rt' : Runtime C} (h : rt.Placed) (hscheduler : rt'.scheduler = rt.scheduler)
    (hpoints : rt'.observePoints = rt.observePoints) (hjournal : rt'.journal = rt.journal)
    (hlifecycle : rt'.lifecycle = .elaborated → rt.lifecycle = .elaborated) : rt'.Placed where
  now_le := hscheduler ▸ h.now_le
  not_fired helab := hjournal ▸ h.not_fired (hlifecycle helab)
  not_dispatched helab := hjournal ▸ h.not_dispatched (hlifecycle helab)
  dispatched_le := hscheduler ▸ hjournal ▸ h.dispatched_le
  fired_lt := hscheduler ▸ hjournal ▸ h.fired_lt
  pending := hpoints ▸ hjournal ▸ h.pending
  in_time := hjournal ▸ h.in_time
  firedInPlace := hjournal ▸ h.firedInPlace

/-- Nothing in the invariant is about sends. -/
lemma note_sent (h : rt.Placed) (s : Sent) :
    Placed { rt with journal := rt.journal ++ [.sent s] } where
  now_le := h.now_le
  not_fired helab T := by simpa using h.not_fired helab T
  not_dispatched helab ev := by simpa using h.not_dispatched helab ev
  dispatched_le ev hev := h.dispatched_le ev (by simpa using hev)
  fired_lt T hT := h.fired_lt T (by simpa using hT)
  pending T := by simp only [outstanding_concat, h.pending, reduceCtorEq, false_or, ne_eq,
    not_false_eq_true, and_true]
  in_time T n hout hn ev hev := by
    simp only [outstanding_concat, reduceCtorEq, false_or, ne_eq, not_false_eq_true,
      and_true] at hout
    exact h.in_time T n hout hn ev (by simpa using hev)
  firedInPlace := h.firedInPlace.concat (by simp) (by simp)

lemma note_all_sent (h : rt.Placed) (sent : List Sent) :
    Placed { rt with journal := rt.journal ++ sent.map .sent } := by
  induction sent generalizing rt with
  | nil => exact h.congr rfl rfl (by simp) id
  | cons s sent ih => exact (ih (h.note_sent s)).congr rfl rfl (by simp) id

end Placed

/-! ## What is due -/

lemma lt_of_duePoint {rt : Runtime C} {horizon : Option Tick} {T : Tick}
    (hdue : rt.duePoint horizon = some T) : ∀ e ∈ rt.scheduler.heap.toList, T < e.key.tick := by
  intro e he
  obtain ⟨-, hlast⟩ := Option.filter_eq_some_iff.mp hdue
  obtain ⟨last, hlast, hle⟩ := Option.any_eq_true _ _ |>.mp hlast
  unfold lastFinished at hlast
  cases hpeek : rt.scheduler.peekKey with
  | none =>
    rw [Scheduler.peekKey, Option.map_eq_none_iff, BinaryHeap.peek_eq_none] at hpeek
    rw [hpeek] at he
    cases he
  | some next =>
    obtain ⟨first, heap, -, hfirst, rfl⟩ := Scheduler.peekKey_eq_some hpeek
    rw [hpeek] at hlast
    have hlt : T < first.key.tick :=
      UInt64.exists_checkedPred_ge_iff.mp ⟨last, hlast, of_decide_eq_true hle⟩
    have hmin := (BinaryHeap.peek_eq_some hfirst).2 e he
    rcases hmin.lt_or_eq with hmin | hmin
    · exact hlt.trans_le (EventKey.tick_le_of_lt hmin)
    · rwa [← hmin]

lemma le_of_duePoint_none {rt : Runtime C} {horizon : Option Tick}
    (hdue : rt.duePoint horizon = none) {next : EventKey} (hpeek : rt.scheduler.peekKey = some next)
    {T : Tick} (hT : T ∈ rt.observePoints.toList) : next.tick ≤ T := by
  cases hfirst : rt.observePoints.first with
  | none =>
    rw [SortedSet.first_eq_none.mp hfirst] at hT
    cases hT
  | some first =>
    have hle := SortedSet.first_le hfirst hT
    refine le_trans (not_lt.mp fun hlt => ?_) hle
    obtain ⟨last, hlast, hge⟩ := UInt64.exists_checkedPred_ge_iff.mpr hlt
    have hfinished : rt.lastFinished horizon = some last := by
      rw [lastFinished, hpeek]
      exact hlast
    rw [duePoint, hfirst, hfinished, Option.filter_some] at hdue
    simp [hge] at hdue

namespace Placed

variable {rt : Runtime C}

lemma observeAt (h : rt.Placed) (T : Tick) : (rt.observeAt T).Placed where
  now_le := h.now_le
  not_fired helab T' := by simpa [Runtime.observeAt] using h.not_fired helab T'
  not_dispatched helab ev := by simpa [Runtime.observeAt] using h.not_dispatched helab ev
  dispatched_le ev hev := h.dispatched_le ev (by simpa [Runtime.observeAt] using hev)
  fired_lt T' hT' := h.fired_lt T' (by simpa [Runtime.observeAt] using hT')
  pending T' := by
    simp only [Runtime.observeAt, SortedSet.mem_insert, outstanding_concat, h.pending,
      Entry.registered.injEq, ne_eq, reduceCtorEq, not_false_eq_true, and_true]
    constructor
    · rintro (rfl | ⟨n, hn⟩)
      · exact ⟨_, .inl ⟨rfl, rfl⟩⟩
      · exact ⟨n, .inr hn⟩
    · rintro ⟨n, ⟨rfl, -⟩ | hn⟩
      · exact .inl rfl
      · exact .inr ⟨n, hn⟩
  in_time T' n hout hn ev hev := by
    have hold : .dispatched ev ∈ rt.journal := by simpa [Runtime.observeAt] using hev
    rcases outstanding_concat.mp hout with heq | ⟨hout, -⟩
    · -- Just registered: what was dispatched is at or before the current tick.
      cases heq
      exact (h.dispatched_le ev hold).trans hn
    · exact h.in_time T' n hout hn ev hold
  firedInPlace := h.firedInPlace.concat (by simp) (by simp)

variable [Component C]

lemma firePoint (h : rt.Placed) (hready : rt.lifecycle = .ready) {horizon : Option Tick}
    {T : Tick} (hdue : rt.duePoint horizon = some T) : (rt.firePoint T).2.Placed := by
  have hfirst := first_of_duePoint hdue
  have hpoints := SortedSet.toList_of_first hfirst
  have hmem : T ∈ rt.observePoints.toList := by rw [hpoints]; exact List.mem_cons_self
  have hready' : (rt.firePoint T).2.lifecycle ≠ .elaborated := by
    rw [show (rt.firePoint T).2.lifecycle = .ready from hready]
    decide
  exact
    { now_le := h.now_le
      not_fired := fun helab => absurd helab hready'
      not_dispatched := fun helab => absurd helab hready'
      dispatched_le := fun ev hev => h.dispatched_le ev (by simpa [Runtime.firePoint] using hev)
      fired_lt := by
        intro T' hT'
        rcases List.mem_append.mp hT' with hT' | hT'
        · exact h.fired_lt T' hT'
        · cases List.mem_singleton.mp hT'
          exact fun e he => lt_of_duePoint hdue e he
      pending := by
        intro T'
        simp only [Runtime.firePoint, outstanding_concat, reduceCtorEq, false_or, ne_eq,
          Entry.fired.injEq, exists_and_right, ← h.pending]
        constructor
        · intro hT'
          refine ⟨?_, (SortedSet.lt_of_mem_popFirst hfirst hT').ne⟩
          rw [hpoints]
          exact List.mem_cons_of_mem _ hT'
        · rintro ⟨hT', hne⟩
          rw [hpoints] at hT'
          exact (List.mem_cons.mp hT').resolve_left (Ne.symm hne)
      in_time := by
        intro T' n hout hn ev hev
        rcases outstanding_concat.mp hout with heq | ⟨hout, -⟩
        · cases heq
        · exact h.in_time T' n hout hn ev (by simpa [Runtime.firePoint] using hev)
      firedInPlace := by
        refine h.firedInPlace.concat (fun T' heq => ?_) (by simp)
        cases heq
        exact ⟨(h.pending T).mp hmem, fun n hout hn => h.in_time T n hout hn⟩ }

variable [Contracts]

omit [Component C] in
/-- A component's call keeps points in place, if all that fired are before the current tick. -/
lemma resume (h : rt.Placed) (hfired : ∀ T, .fired T ∈ rt.journal → T < rt.scheduler.now)
    {me : ComponentId} {at_ : TraceAt} {c : C} {ctx : Ctx}
    (henter : rt.enter me at_ = some (c, ctx)) (handler : Handler C) :
    (rt.resume (handler.run ctx)).Placed := by
  obtain ⟨hlast, hqueue⟩ := handler.run_queue ctx
  have hctx : ctx.scheduler = rt.scheduler := by
    obtain ⟨_, _, _, _, _, _, _, rfl⟩ := enter_eq_some.mp henter
    rfl
  rw [hctx] at hlast hqueue
  have hnow : (handler.run ctx).2.2.scheduler.now = rt.scheduler.now := by
    rw [Scheduler.now, Scheduler.now, hlast]
  have hscheduled : Placed { rt with scheduler := (handler.run ctx).2.2.scheduler } :=
    { h with
      now_le := by
        intro e he
        rw [hnow]
        exact (hqueue e he).elim (h.now_le e) id
      dispatched_le := fun ev hev => hnow ▸ h.dispatched_le ev hev
      fired_lt := by
        intro T hT e he
        rcases hqueue e he with hold | hnew
        · exact h.fired_lt T hT e hold
        · exact (hfired T hT).trans_le hnew }
  exact (hscheduled.note_all_sent (handler.run ctx).2.2.sent).congr rfl rfl rfl id

omit [Component C] in
/-- Taking the next event off the queue, when nothing is due. -/
lemma take (h : rt.Placed) (hready : rt.lifecycle = .ready) {horizon : Option Tick}
    (hdue : rt.duePoint horizon = none) {e : Event Pending}
    {heap : BinaryHeap (Event.key : Event Pending → EventKey)}
    (hpop : rt.scheduler.heap.pop = some (e, heap)) :
    (rt.take e heap).Placed ∧
      ∀ T, .fired T ∈ (rt.take e heap).journal → T < (rt.take e heap).scheduler.now := by
  obtain ⟨hpeek, hperm⟩ := BinaryHeap.pop_eq_some hpop
  obtain ⟨hmem, hmin⟩ := BinaryHeap.peek_eq_some hpeek
  have hnext : rt.scheduler.peekKey = some e.key := by
    rw [Scheduler.peekKey, hpeek, Option.map_some]
  have hnow : (rt.take e heap).scheduler.now = e.key.tick := rfl
  have hjournal : (rt.take e heap).journal = rt.journal ++ [.dispatched e.canonical] := rfl
  have hold : ∀ e' ∈ heap.toList, e' ∈ rt.scheduler.heap.toList :=
    fun e' he' => hperm.mem_iff.mpr (List.mem_cons_of_mem _ he')
  have hready' : (rt.take e heap).lifecycle ≠ .elaborated := by
    rw [show (rt.take e heap).lifecycle = .ready from hready]
    decide
  refine ⟨?_, ?_⟩
  · exact
      { now_le := by
          intro e' he'
          rcases (hmin e' (hold e' he')).lt_or_eq with hlt | heq
          · exact EventKey.tick_le_of_lt hlt
          · exact (congrArg EventKey.tick heq).le
        not_fired := fun helab => absurd helab hready'
        not_dispatched := fun helab => absurd helab hready'
        dispatched_le := by
          intro ev hev
          rw [hjournal, List.mem_append, List.mem_singleton] at hev
          rcases hev with hev | hev
          · exact (h.dispatched_le ev hev).trans (h.now_le e hmem)
          · cases hev
            exact le_rfl
        fired_lt := by
          intro T hT e' he'
          rw [hjournal, List.mem_append, List.mem_singleton] at hT
          rcases hT with hT | hT
          · exact h.fired_lt T hT e' (hold e' he')
          · cases hT
        pending := by
          intro T
          simp only [hjournal, outstanding_concat, reduceCtorEq, false_or, ne_eq,
            not_false_eq_true, and_true, ← h.pending]
          rfl
        in_time := by
          intro T n hout hn ev hev
          rw [hjournal] at hout hev
          rcases outstanding_concat.mp hout with heq | ⟨hout, -⟩
          · cases heq
          · rw [List.mem_append, List.mem_singleton] at hev
            rcases hev with hev | hev
            · exact h.in_time T n hout hn ev hev
            · -- A pending point before this event would be due.
              cases hev
              exact le_of_duePoint_none hdue hnext ((h.pending T).mpr ⟨n, hout⟩)
        firedInPlace := by
          rw [hjournal]
          refine h.firedInPlace.concat (by simp) fun ev heq T hT => ?_
          cases heq
          exact h.fired_lt T hT e hmem }
  · intro T hT
    rw [hjournal, List.mem_append, List.mem_singleton] at hT
    rcases hT with hT | hT
    · exact h.fired_lt T hT e hmem
    · cases hT

lemma dispatch (h : rt.Placed) (hready : rt.lifecycle = .ready) {horizon : Option Tick}
    (hdue : rt.duePoint horizon = none) : rt.dispatch.2.Placed := by
  have hspec := rt.dispatch_spec
  generalize rt.dispatch = out at hspec
  cases hspec with
  | drained => exact h
  | livelock => exact h.congr rfl rfl rfl (by simp [enterFault])
  | unknown e heap hpop => exact (h.take hready hdue hpop).1
  | failed e heap hpop _ c ctx henter error =>
    obtain ⟨htaken, hfired⟩ := h.take hready hdue hpop
    exact (htaken.resume hfired henter _).congr rfl rfl rfl (by simp [enterFault])
  | handled e heap hpop _ c ctx henter =>
    obtain ⟨htaken, hfired⟩ := h.take hready hdue hpop
    exact (htaken.resume hfired henter _).congr rfl rfl rfl id

lemma init (h : rt.Placed) (helaborated : rt.lifecycle = .elaborated) (k n : ℕ) :
    (rt.initFrom k n).2.Placed := by
  refine initFrom_induction
    (P := fun r : Runtime C => r.Placed ∧ r.lifecycle = .elaborated) n k ?_ ?_ ?_ ?_
    ⟨h, helaborated⟩
  · rintro r k c ctx ⟨hr, helab⟩ henter
    exact ⟨hr.resume (fun T hT => absurd hT (hr.not_fired helab T)) henter _, helab⟩
  · rintro r ⟨hr, -⟩
    exact hr.congr rfl rfl rfl (by simp)
  · rintro r e ⟨hr, -⟩
    exact hr.congr rfl rfl rfl (by simp [enterFault])
  · exact fun r _ _ hr _ => hr.1

/-- A restored queue is at or after the restored tick; nothing fired or ran before. -/
lemma restored (h : rt.Placed) {bs : Bytes} {out : Except RuntimeError Unit × Runtime C}
    (hrestored : Restored rt bs out) : out.2.Placed := by
  cases hrestored with
  | refused => exact h
  | failed => exact h.congr rfl rfl rfl (by simp)
  | done helaborated snap scheduler rngs components _ hvalidate _ =>
    obtain ⟨_, _, _, _, _, _, _, _, _, hrestore⟩ := validate_eq_ok_iff.mp hvalidate
    obtain ⟨haccepts, rfl⟩ := Scheduler.restore_eq_ok_iff.mp hrestore
    have hmem := fun e => (Scheduler.rebuilt_heap_toList rt.config.scheduler
      snap.scheduler).mem_iff (a := e)
    exact
      { now_le := by
          intro e he
          have hafter := fun last hlast => haccepts.after_cursor last hlast e ((hmem e).mp he)
          unfold Scheduler.now
          cases hlast : snap.lastDispatched with
          | none => simp [Scheduler.rebuilt, Decoded.scheduler, hlast]
          | some last =>
            simp only [Scheduler.rebuilt, Decoded.scheduler, hlast, Option.elim_some]
            exact EventKey.tick_le_of_lt (hafter last hlast)
        not_fired := by simp
        not_dispatched := by simp
        dispatched_le := fun ev hev => absurd hev (h.not_dispatched helaborated ev)
        fired_lt := fun T hT => absurd hT (h.not_fired helaborated T)
        pending := h.pending
        in_time := h.in_time
        firedInPlace := h.firedInPlace }

lemma step {rt' : Runtime C} (hstep : Step rt rt') (h : rt.Placed) : rt'.Placed := by
  cases hstep with
  | advance hadvance =>
    cases hadvance with
    | fire hready hdue => exact h.firePoint hready hdue
    | dispatch hready hdue => exact h.dispatch hready hdue
    | init helaborated => exact h.init helaborated 0 _
    | observeAt tick => exact h.observeAt tick
    | addObserver => exact h.congr rfl rfl rfl id
    | startTrace => exact h.congr rfl rfl rfl id
    | takeTrace => exact h.congr rfl rfl rfl id
  | restore hrestored => exact h.restored hrestored
  | resumeTrace => exact h.congr rfl rfl rfl id

end Placed

section

variable [Contracts] [Component C]

lemma placed_of_elaborate {b : TopologyBuilder C} {config : SessionConfig} {rt : Runtime C}
    (h : b.elaborate config = .ok rt) : rt.Placed := by
  obtain ⟨slots, peers, links, -, -, -, rfl⟩ := TopologyBuilder.elaborate_eq_ok h
  exact
    { now_le := by simp [fromElaboration, Scheduler.new]
      not_fired := by simp [fromElaboration]
      not_dispatched := by simp [fromElaboration]
      dispatched_le := by simp [fromElaboration]
      fired_lt := by simp [fromElaboration]
      pending := by simp [fromElaboration, SortedSet.empty, Outstanding]
      in_time := by simp [fromElaboration]
      firedInPlace := by simp [fromElaboration, FiredInPlace] }

end

end Runtime

end SystemScope
