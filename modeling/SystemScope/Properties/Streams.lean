import SystemScope.Properties.Restoration

/-!
# Random streams over a session

The generator of a component is, after every run, its seeded one some draws later; a run that
restored a snapshot has generators of other streams, and none of them is all zero either.  So
what a session snapshots, the check for all-zero states passes.
-/

namespace SystemScope

open Xoshiro256StarStar

/-- A component's call draws from its generator and does nothing else to it. -/
lemma Handler.run_draws [Contracts] {C : Type} (h : Handler C) (ctx : Ctx) :
    ∃ n, (h.run ctx).2.2.rng = (ctx.rng.draw n).2 := by
  have hposted : ∀ {ctx ctx' : Ctx} {result}, ctx.Posted result ctx' → ctx'.rng = ctx.rng := by
    intro ctx ctx' result h
    cases h <;> rfl
  induction h generalizing ctx with
  | done result c => exact ⟨0, rfl⟩
  | send port msg when_ phase k ih =>
    obtain ⟨n, hn⟩ := ih _ (ctx.send port msg when_ phase).2
    exact ⟨n, hn.trans (by rw [hposted (ctx.send_posted port msg when_ phase)])⟩
  | wakeSelf when_ phase token k ih =>
    obtain ⟨n, hn⟩ := ih _ (ctx.wakeSelf when_ phase token).2
    exact ⟨n, hn.trans (by rw [hposted (ctx.wakeSelf_posted when_ phase token)])⟩
  | rng draws k ih =>
    obtain ⟨n, hn⟩ := ih _ { ctx with rng := (ctx.rng.draw (draws ctx.rng.stream)).2 }
    exact ⟨draws ctx.rng.stream + n, hn.trans (by rw [draw_add])⟩
  | trace kind fields k ih => exact ih _
  | component k ih => exact ih _ ctx
  | now k ih => exact ih _ ctx
  | phase k ih => exact ih _ ctx

namespace Runtime

variable {C : Type} [Contracts] [Component C]

/-- Every generator belongs to its component's stream. -/
def Streams (rt : Runtime C) : Prop :=
  ∀ (i : ℕ) (slot : SlotInfo) (rng : Xoshiro256StarStar), rt.slots[i]? = some slot →
    rt.rngs[i]? = some rng → ∃ n, rng = ((forComponent rt.config.seed slot.path).draw n).2

namespace Streams

variable {rt rt' : Runtime C}

omit [Component C] in
lemma resume (h : rt.Streams) {me : ComponentId} {at_ : TraceAt} {c : C} {ctx : Ctx}
    (henter : rt.enter me at_ = some (c, ctx)) (handler : Handler C) :
    (rt.resume (handler.run ctx)).Streams := by
  obtain ⟨hme, -⟩ := handler.run_trace ctx
  obtain ⟨n, hdraws⟩ := handler.run_draws ctx
  obtain ⟨slot, peers, drawn, -, hslot, -, hdrawn, hctx⟩ := enter_eq_some.mp henter
  have hctxme : ctx.me = me := by rw [hctx]
  have hctxrng : ctx.rng = drawn := by rw [hctx]
  intro i slot' rng hslot' hrng
  change (rt.rngs.set (handler.run ctx).2.2.me.toNat (handler.run ctx).2.2.rng)[i]? = some rng
    at hrng
  rw [hme, hctxme, List.getElem?_set, hdraws, hctxrng] at hrng
  by_cases hi : me.toNat = i
  · subst hi
    obtain rfl := Option.some.inj (hslot.symm.trans hslot')
    obtain ⟨m, rfl⟩ := h _ slot drawn hslot hdrawn
    rw [if_pos rfl, if_pos (List.getElem?_eq_some_iff.mp hdrawn).1] at hrng
    exact ⟨m + n, by rw [draw_add, ← Option.some.inj hrng]; rfl⟩
  · rw [if_neg hi] at hrng
    exact h i slot' rng hslot' hrng

lemma dispatch (h : rt.Streams) : rt.dispatch.2.Streams := by
  have hspec := rt.dispatch_spec
  generalize rt.dispatch = out at hspec
  cases hspec with
  | drained => exact h
  | livelock => exact h
  | unknown => exact h
  | failed e heap hpop hlimit c ctx henter =>
    have htaken : (rt.take e heap).Streams := h
    exact htaken.resume henter (Component.handleEvent c e.canonical.delivery)
  | handled e heap hpop hlimit c ctx henter =>
    have htaken : (rt.take e heap).Streams := h
    exact htaken.resume henter (Component.handleEvent c e.canonical.delivery)

lemma initFrom (h : rt.Streams) (k n : ℕ) : (rt.initFrom k n).2.Streams :=
  initFrom_induction (P := Streams) n k (fun _ _ _ _ h henter => h.resume henter _)
    (fun _ h => h) (fun _ _ h => h) (fun _ _ _ h _ => h) h

lemma advance (hstep : Advance rt rt') (h : rt.Streams) : rt'.Streams := by
  cases hstep with
  | dispatch => exact h.dispatch
  | init => exact h.initFrom 0 _
  | _ => exact h

end Streams

lemma streams_of_elaborate {b : TopologyBuilder C} {config : SessionConfig} {rt : Runtime C}
    (h : b.elaborate config = .ok rt) : rt.Streams := by
  obtain ⟨slots, peers, links, -, -, -, rfl⟩ := TopologyBuilder.elaborate_eq_ok h
  intro i info rng hinfo hrng
  have hinfo : (slots.map fun s => (⟨s.path, Component.typeName s.component, s.ports⟩ :
      SlotInfo))[i]? = some info := hinfo
  have hrng : (slots.map fun s => forComponent config.seed s.path)[i]? = some rng := hrng
  rw [List.getElem?_map, Option.map_eq_some_iff] at hinfo hrng
  obtain ⟨slot, hslot, rfl⟩ := hinfo
  obtain ⟨slot', hslot', rfl⟩ := hrng
  obtain rfl := Option.some.inj (hslot.symm.trans hslot')
  exact ⟨0, rfl⟩

omit [Contracts] [Component C] in
lemma exists_of_forM_eq_error {α ε : Type} {f : α → Except ε Unit} {xs : List α} {e : ε}
    (h : xs.forM f = .error e) : ∃ x ∈ xs, f x = .error e := by
  induction xs with
  | nil => cases h
  | cons x xs ih =>
    change (f x >>= fun _ => xs.forM f) = _ at h
    cases hx : f x with
    | error e' =>
      rw [hx] at h
      cases h
      exact ⟨x, List.mem_cons_self, hx⟩
    | ok u =>
      rw [hx] at h
      obtain ⟨y, hy, hfy⟩ := ih h
      exact ⟨y, List.mem_cons_of_mem _ hy, hfy⟩

/-- What `from_state` refuses. -/
def allZero : RestoreError := .invalidState "all-zero RNG state"

omit [Contracts] [Component C] in
lemma checkEvent_ne_allZero (rt : Runtime C) (ev : CanonicalEvent) :
    rt.checkEvent ev ≠ .error allZero := by
  unfold checkEvent allZero
  repeat' split
  all_goals simp

omit [Contracts] in
lemma schemaMismatch_ne_allZero (id : ℕ) (cs : List C) (entries : List ComponentEntry) :
    schemaMismatch id cs entries ≠ some allZero := by
  induction cs generalizing id entries with
  | nil => simp [schemaMismatch]
  | cons c cs ih =>
    cases entries with
    | nil => simp [schemaMismatch]
    | cons entry entries =>
      obtain ⟨_, found, _⟩ := entry
      rw [schemaMismatch]
      split_ifs
      · simp [allZero]
      · exact ih (id + 1) entries

omit [Contracts] [Component C] in
lemma schedulerError_ne_allZero (e : SchedulerRestoreError) : schedulerError e ≠ allZero := by
  cases e <;> simp [schedulerError, allZero]

/-- The check for all-zero states refuses nothing that consists of generators' states. -/
lemma validate_ne_allZero {rt : Runtime C} {snap : Decoded} {rngs : List Xoshiro256StarStar}
    (h : snap.rngStates.mapM fromState = some rngs) : rt.validate snap ≠ .error allZero := by
  intro hrefused
  unfold validate at hrefused
  simp only [h] at hrefused
  -- One case for each check, in the order of the source.
  split at hrefused
  next => simp [allZero] at hrefused
  next =>
    by_cases hhash : snap.topologyHash ≠ rt.topologyHash
    · simp [if_pos hhash, allZero] at hrefused
    · rw [if_neg hhash] at hrefused
      split at hrefused
      next e hschema =>
        rw [Except.error.inj hrefused] at hschema
        exact schemaMismatch_ne_allZero _ _ _ hschema
      next =>
        split at hrefused
        next => simp [allZero] at hrefused
        next =>
          split at hrefused
          next => simp [allZero] at hrefused
          next =>
            split at hrefused
            next => simp [allZero] at hrefused
            next =>
              split at hrefused
              next e hqueue =>
                obtain ⟨ev, -, hev⟩ := exists_of_forM_eq_error hqueue
                exact rt.checkEvent_ne_allZero ev
                  (hev.trans (congrArg _ (Except.error.inj hrefused)))
              next =>
                split at hrefused
                next e _ => exact schedulerError_ne_allZero e (Except.error.inj hrefused)
                next => cases hrefused

/-- **Generators are never all zero.**  The update of a draw is a bijection that maps only the
all-zero state to it.  So whatever the seed and however many draws, the state is not all zero, and
a generator restored from it draws what the original would have.  The runtime's check for all-zero
states therefore refuses no snapshot that a session takes, whatever was called before, and without
a restore each generator is its component's seeded one, some draws later. -/
theorem rng_never_zero (hlawful : Contracts.Lawful) (b : TopologyBuilder C)
    (config : SessionConfig) (rt₀ : Runtime C) (helaborate : b.elaborate config = .ok rt₀)
    (calls : List Call) :
    (Function.Bijective XoshiroState.next ∧ ∀ s : XoshiroState, s.next = .zero ↔ s = .zero) ∧
    (∀ (seed : Digest) (n : ℕ),
      let rng := fromSeedBytes seed
      let later := (rng.draw n).2
      later.state = XoshiroState.next^[n] rng.state ∧ later.state ≠ .zero ∧
      ∃ restored, fromState later.state = some restored ∧ restored.stream = later.stream ∧
        ∀ m, rng.draw (n + m) =
          ((rng.draw n).1 ++ (restored.draw m).1, (restored.draw m).2)) ∧
    let rt := (Machine.exec call rt₀ calls).2
    ((∀ c ∈ calls, c.advances) → rt.Streams) ∧
    ∀ bs, rt.snapshot = .ok bs → ∃ snap, decode bs = .ok snap ∧
      snap.rngStates = rt.rngs.map state ∧ snap.rngStates.mapM fromState = some rt.rngs ∧
      ∀ other : Runtime C, other.validate snap ≠ .error allZero := by
  refine ⟨⟨XoshiroState.next_bijective, fun s => XoshiroState.next_eq_zero_iff⟩, ?_, ?_, ?_⟩
  · intro seed n rng later
    refine ⟨rng.state_draw n, later.nonzero, later, fromState_state later, rfl, fun m => ?_⟩
    exact draw_add rng n m
  · intro hcalls
    exact exec_advance_invariant (fun _ _ hstep h => h.advance hstep)
      (streams_of_elaborate helaborate) hcalls
  · intro bs hbs
    obtain ⟨-, hbytes⟩ := snapshotBytes_of_snapshot hbs
    have hmap := mapM_fromState (Machine.exec call rt₀ calls).2.rngs
    exact ⟨_, decode_snapshotBytes hlawful hbytes, rfl, hmap,
      fun other => validate_ne_allZero hmap⟩

end Runtime

open Exchange Canonical Ticker in
/-- The ticker after three draws. -/
theorem Runtime.rng_never_zero_ticker :
    ∃ bs snap, ticking.snapshot = .ok bs ∧ decode bs = .ok snap ∧ ticking.Streams ∧
      snap.rngStates.mapM fromState = some ticking.rngs := by
  obtain ⟨bs, hbs⟩ := ticking_snapshot
  obtain ⟨-, -, hstreams, hsnapshot⟩ := Runtime.rng_never_zero (canonical_lawful _) topology
    Ticker.config session elaborate_topology [.startTrace, .init, .step, .step, .step]
  obtain ⟨snap, hdecode, -, hmap, -⟩ := hsnapshot bs hbs
  exact ⟨bs, snap, hbs, hdecode, hstreams (by decide), hmap⟩

end SystemScope
