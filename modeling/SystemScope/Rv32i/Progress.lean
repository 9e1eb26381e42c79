import SystemScope.Rv32i.Simulation

/-!
# Every schedule that dispatches goes on

The event a running CPU waits for can always be dispatched, unless the CPU wants a transaction and
has used all numbers (`step_enabled`); and it takes the CPU nearer to its next commit (`rank`).  So
whatever the delays, a schedule that dispatches often enough commits (`run_progress`).
-/

namespace SystemScope.Rv32i

/-! ## The next event can be dispatched -/

namespace System

variable {μ : Type} [ByteMemory μ] {s s' : System μ} {e : Execution μ}

omit [ByteMemory μ] in
lemma advanceTxn_eq_none {c : Rv32iCpu} (h : c.advanceTxn = none) :
    c.config.profile ≠ .m1 ∧ c.nextTxn = UInt64.ofNat (2 ^ 64 - 1) := by
  unfold Rv32iCpu.advanceTxn at h
  split at h
  · cases h
  all_goals
    rename_i hprofile
    split_ifs at h with hmax
    exact ⟨by rw [hprofile]; decide, hmax⟩

/-- Every response of a byte memory is taken. -/
lemma exists_answers {msg : MemV1.MemMsg} (h : s.Expects e) (hp : s.pending = [.response msg]) :
    ∃ state, s.cpu.Answers msg state := by
  cases h with
  | fetchIssue hs hp' | memIssue hs hp' | walkIssue hs hp' | commitPending hs hp' =>
    cases hp.symm.trans hp'
  | fetchWait hs hu =>
    obtain ⟨-, ⟨data, w, -, hdata, rfl⟩ | ⟨-, rfl⟩⟩ := hu.word hp
    · cases hstep : Rv32i.step s.cpu.isa w s.cpu.pc s.cpu.regs with
      | done outcome => exact ⟨_, .done hs hdata hstep⟩
      | memory plan => exact ⟨_, .access hs hdata hstep⟩
    · exact ⟨_, .fetchRefused hs⟩
  | walkWait hs hu =>
    rename_i walk _ _
    obtain ⟨-, ⟨data, w, -, hdata, rfl⟩ | ⟨-, rfl⟩⟩ := hu.word hp
    · cases hstep : Sv32.step (s.cpu.walkContext walk) (s.cpu.walkVa walk) walk.level w with
      | next table => exact ⟨_, .next hs hdata hstep⟩
      | leaf pa => exact ⟨_, .leaf hs hdata hstep⟩
      | pageFault => exact ⟨_, .pageFault hs hdata hstep⟩
    · exact ⟨_, .walkRefused hs⟩
  | memWait hs hu =>
    rename_i txn insn plan pa addr m
    have hserve := hu.response hp
    cases plan with
    | load plan =>
      rcases ByteMemory.serve_load (m := m) txn addr plan with ⟨data, value, -, hvalue, h⟩ | ⟨-, h⟩
      · cases h.symm.trans hserve
        exact ⟨_, .loaded hs (by simp only [completeLoad, hvalue]; rfl)⟩
      · cases h.symm.trans hserve
        exact ⟨_, .loaded hs rfl⟩
    | store plan =>
      rcases ByteMemory.serve_store (m := m) txn addr plan.data with ⟨m', -, h⟩ | ⟨-, h⟩
      · cases h.symm.trans hserve
        exact ⟨_, .stored hs⟩
      · cases h.symm.trans hserve
        exact ⟨_, .stored hs⟩

/-- Whatever the CPU waits for can be dispatched, unless a number is wanted and there is none. -/
lemma step_enabled (hc : s.cpu.Valid) (hm : s.Matched) (h : s.Expects e) :
    (∃ s', s.step (.dispatch 0) = .ok s' ∧ s.Advances s') ∨
      s.cpu.config.profile ≠ .m1 ∧ s.cpu.nextTxn = UInt64.ofNat (2 ^ 64 - 1) := by
  obtain ⟨e', hp, hawaits⟩ : ∃ e, s.pending = [e] ∧ s.cpu.state.Awaits e := by
    rcases hm with hone | ⟨hhalt, -⟩
    · exact hone
    · rw [h.halt] at hhalt
      cases hhalt
  have hdispatch (hstep : ∃ s', s.step (.dispatch 0) = .ok s') :
      ∃ s', s.step (.dispatch 0) = .ok s' ∧ s.Advances s' := by
    obtain ⟨s', hs'⟩ := hstep
    exact ⟨s', hs', dispatch_advances hp hawaits hs'⟩
  have hissue {token : UInt64} {msg : TxnId → MemV1.MemMsg} {waiting : TxnId → State}
      (hp : s.pending = [.wake .request token]) (hi : s.cpu.Issues token msg waiting) :
      (∃ s', s.step (.dispatch 0) = .ok s' ∧ s.Advances s') ∨
        s.cpu.config.profile ≠ .m1 ∧ s.cpu.nextTxn = UInt64.ofNat (2 ^ 64 - 1) := by
    cases hn : s.cpu.advanceTxn with
    | none => exact .inr (advanceTxn_eq_none hn)
    | some next =>
      refine .inl (hdispatch ?_)
      unfold step
      rw [hp]
      exact ⟨_, handle_eq_ok.mpr ⟨_, _, .issue hi hn, rfl⟩⟩
  have hwait {m : μ} {req : MemV1.MemMsg} (hu : s.Underway m req) :
      ∃ s', s.step (.dispatch 0) = .ok s' ∧ s.Advances s' := by
    refine hdispatch ?_
    unfold step
    rcases hu with ⟨hp', -⟩ | ⟨hp', -⟩
    · rw [hp']
      exact ⟨_, rfl⟩
    · obtain ⟨state, ha⟩ := exists_answers h hp'
      rw [hp']
      exact ⟨_, handle_eq_ok.mpr ⟨_, _, .answer (.inr rfl) ha, rfl⟩⟩
  cases h with
  | fetchIssue hs hp => exact hissue hp (.fetch hs)
  | memIssue hs hp => exact hissue hp (.memory hs)
  | walkIssue hs hp => exact hissue hp (.walk hs)
  | fetchWait hs hu | memWait hs hu | walkWait hs hu => exact .inl (hwait hu)
  | commitPending hs hp =>
    obtain ⟨calls, c', hcommits⟩ := Rv32iCpu.exists_commits hc hs
    refine .inl (hdispatch ?_)
    unfold step
    rw [hp]
    exact ⟨_, handle_eq_ok.mpr ⟨_, _, .commit hcommits, rfl⟩⟩

end System

/-! ## It leads to a commit -/

/-- The dispatches a walk is from its access, with the response to its entry pending. -/
def Walk.rank (walk : Walk) : ℕ :=
  (match walk.purpose with
    | .fetch => 14
    | .data _ _ => 5) + if walk.level = 0 then 0 else 3

/-- The most dispatches a state is from its commit, with its wake or its response pending. -/
def State.rank : State → ℕ
  | .halted _ => 0
  | .commitPending _ _ _ => 1
  | .memWait _ _ _ _ => 2
  | .memIssue _ _ _ => 4
  | .walkWait _ walk => walk.rank
  | .walkIssue walk => walk.rank + 2
  | .fetchWait _ _ => 11
  | .fetchIssue _ => 13

namespace System

variable {μ : Type}

/-- The most dispatches a system is from its next commit. -/
def rank (s : System μ) : ℕ :=
  s.cpu.state.rank +
    match s.pending with
    | [.request _] => 1
    | _ => 0

lemma Walk.rank_le (walk : Walk) : 5 ≤ walk.rank ∧ walk.rank ≤ 17 := by
  unfold Walk.rank
  cases walk.purpose <;> split_ifs <;> simp

/-- No commit is further away than this. -/
lemma rank_le (s : System μ) : s.rank ≤ 20 := by
  have hrank : s.cpu.state.rank ≤ 19 := by
    cases s.cpu.state with
    | walkIssue walk | walkWait txn walk =>
      have hwalk := Walk.rank_le walk
      simp only [State.rank]
      omega
    | _ => simp [State.rank]
  unfold rank
  split <;> omega

/-- A response takes the CPU nearer to its commit. -/
lemma rank_answers {c : Rv32iCpu} {msg : MemV1.MemMsg} {state : State} (hc : c.Valid)
    (ha : c.Answers msg state) : state.rank < c.state.rank := by
  cases ha with
  | done hs | fetchRefused hs | loaded hs | stored hs =>
    rw [hs]
    simp [State.rank]
  | pageFault hs =>
    rw [hs]
    exact lt_of_lt_of_le (show 1 < 5 by decide) (Walk.rank_le _).1
  | walkRefused hs =>
    rw [hs]
    exact lt_of_lt_of_le (show 1 < 5 by decide) (Walk.rank_le _).1
  | access hs hw hstep =>
    rw [hs]
    unfold Rv32iCpu.accessState
    split_ifs <;> simp [State.rank, Walk.rank]
  | leaf hs hw hstep =>
    rename_i walk _ _ _
    rw [hs]
    cases hpurpose :
      walk.purpose <;> simp only [State.rank, Walk.rank, Purpose.issue, hpurpose] <;> omega
  | next hs hw hstep =>
    rename_i walk _ _ _
    have hfits := hc.state
    rw [hs] at hfits ⊢
    have hone : walk.level = 1 := hfits.level.resolve_left (Sv32.step_next hstep).1
    simp [State.rank, Walk.rank, hone]

variable [ByteMemory μ] {s s' : System μ} {e : Execution μ}

lemma Expects.rank_pos (h : s.Expects e) : 0 < s.rank := by
  refine Nat.add_pos_left ?_ _
  cases h with
  | walkIssue hs =>
    rw [hs]
    exact Nat.succ_pos _
  | walkWait hs =>
    rw [hs]
    exact lt_of_lt_of_le (by decide) (Walk.rank_le _).1
  | _ hs =>
    rw [hs]
    simp [State.rank]

/-- The line changes only where the schedule says so. -/
lemma dispatch_log {i : ℕ} (h : s.step (.dispatch i) = .ok s') (asserted : Bool) :
    s'.log ≠ s.log ++ [.level asserted] := by
  have hlevel {calls : List Call} {ev : Delivered} {c' : Rv32iCpu}
      (hev : ∀ p level, ev ≠ .message p (.irq (.level level))) :
      calls.filterMap Call.entry ++ entryOf ev c' ≠ [.level asserted] := by
    intro heq
    have hmem : Entry.level asserted ∈ calls.filterMap Call.entry ++ entryOf ev c' := by
      rw [heq]
      exact List.mem_singleton_self _
    rcases List.mem_append.mp hmem with hmem | hmem
    · obtain ⟨call, -, hcall⟩ := List.mem_filterMap.mp hmem
      unfold Call.entry at hcall
      split at hcall <;> cases hcall
    · unfold entryOf at hmem
      split at hmem
      · split_ifs at hmem <;> cases List.mem_singleton.mp hmem
      · exact hev _ _ rfl
      · cases hmem
  intro hlog
  unfold step at h
  dsimp only at h
  split at h
  · cases h
    simp at hlog
  · obtain ⟨calls, c', -, rfl⟩ := handle_eq_ok.mp h
    exact hlevel (by simp) (List.append_cancel_left hlog)
  · obtain ⟨calls, c', -, rfl⟩ := handle_eq_ok.mp h
    exact hlevel (by simp) (List.append_cancel_left hlog)
  · cases h
    simp at hlog

/-- A dispatch commits, or takes the CPU nearer to its commit. -/
lemma dispatch_rank (hc : s.cpu.Valid) (h : s.Expects e) (hstep : s.step (.dispatch 0) = .ok s')
    (ha : s.Advances s') :
    (observe s'.log).seen.length = (observe s.log).seen.length + 1 ∨
      (observe s'.log).seen = (observe s.log).seen ∧ s'.rank < s.rank ∧ ∃ e', s'.Expects e' := by
  cases ha with
  | irq => exact absurd rfl (dispatch_log hstep _)
  | commit hp hcommits =>
    left
    rw [observe_commit hcommits]
    simp [Observation.record]
  | serve hp =>
    refine .inr ⟨rfl, ?_, e, h.serve hp⟩
    unfold rank
    rw [hp]
    exact Nat.lt_succ_self _
  | issue hp hi hn =>
    rename_i token next msg waiting
    obtain ⟨req, e', -, -, hexpects⟩ := h.issue hc hi next _
    refine .inr ⟨?_, ?_, e', hexpects⟩
    · rw [observe_sent]
      rfl
    · unfold rank
      rw [hp]
      cases hi with
      | fetch hs | memory hs | walk hs =>
        rw [hs]
        simp [State.rank]
  | answer hp ha =>
    refine .inr ⟨rfl, ?_, e, h.answer hp ha⟩
    rename_i state
    have hrank := rank_answers hc ha
    unfold rank
    rw [hp]
    cases state <;> exact hrank

/-- A schedule that dispatches often enough commits, unless the numbers run out first. -/
theorem run_progress {actions : List Action} (hc : s.cpu.Sound) (hm : s.Matched) (h : s.Expects e)
    (hm1 : s.cpu.config.profile = .m1 → ∀ asserted, Action.irq asserted ∉ actions)
    (hcount : s.rank ≤ actions.count (.dispatch 0)) :
    ∃ pre s', pre <+: actions ∧ s.run pre = .ok s' ∧
      ((observe s'.log).seen.length = (observe s.log).seen.length + 1 ∨
        s.cpu.config.profile ≠ .m1 ∧ s'.cpu.nextTxn = UInt64.ofNat (2 ^ 64 - 1)) := by
  induction actions generalizing s e with
  | nil =>
    rw [List.count_nil] at hcount
    have hpos := h.rank_pos
    omega
  | cons a actions ih =>
    -- What is left to show once the first action has been taken, without a commit.
    have hgo {s₁ : System μ} {e₁ : Execution μ} (hstep : s.step a = .ok s₁) (hsound : s₁.cpu.Sound)
        (hm₁ : s₁.Matched) (h₁ : s₁.Expects e₁) (hconfig : s₁.cpu.config = s.cpu.config)
        (hseen : (observe s₁.log).seen = (observe s.log).seen)
        (hcount₁ : s₁.rank ≤ actions.count (.dispatch 0)) :
        ∃ pre s', pre <+: a :: actions ∧ s.run pre = .ok s' ∧
          ((observe s'.log).seen.length = (observe s.log).seen.length + 1 ∨
            s.cpu.config.profile ≠ .m1 ∧ s'.cpu.nextTxn = UInt64.ofNat (2 ^ 64 - 1)) := by
      obtain ⟨pre, s', hpre, hrun, hend⟩ := ih hsound hm₁ h₁
        (fun hprofile asserted hmem =>
          hm1 (hconfig ▸ hprofile) asserted (List.mem_cons_of_mem _ hmem))
        hcount₁
      rw [hseen, hconfig] at hend
      refine ⟨a :: pre, s', List.cons_prefix_cons.mpr ⟨rfl, hpre⟩, ?_, hend⟩
      unfold run
      rw [List.foldlM_cons, hstep]
      exact hrun
    cases a with
    | irq asserted =>
      have hprofile : s.cpu.config.profile ≠ .m1 := fun hprofile =>
        hm1 hprofile asserted List.mem_cons_self
      have hadvances := @Advances.irq μ _ s asserted hprofile
      have hstep : s.step (.irq asserted) = .ok
          { s with
            cpu := { s.cpu with csrs := { s.cpu.csrs with irqLevel := asserted } }
            log := s.log ++ [.level asserted] } :=
        handle_eq_ok.mpr ⟨_, _, .irq hprofile, by simp [entryOf]⟩
      refine hgo hstep (sound_advances hc hadvances) (hm.advances hadvances) h.irq rfl ?_ ?_
      · rw [observe_append]
        rfl
      · rwa [List.count_cons_of_ne (by simp)] at hcount
    | dispatch i =>
      cases i with
      | succ i =>
        have hstep : s.step (.dispatch (i + 1)) = .ok s := by
          rcases hm with ⟨e', hp, -⟩ | ⟨-, hp⟩ <;> simp [step, hp]
        refine hgo hstep hc hm h rfl rfl ?_
        rwa [List.count_cons_of_ne (by simp)] at hcount
      | zero =>
        rcases step_enabled hc.valid hm h with ⟨s₁, hstep, hadvances⟩ | hexhausted
        · rcases dispatch_rank hc.valid h hstep hadvances with hcommitted | ⟨hseen, hrank, e₁, h₁⟩
          · refine ⟨[.dispatch 0], s₁, ?_, ?_, .inl hcommitted⟩
            · simp
            · simp [run, hstep]
          · refine hgo hstep (sound_advances hc hadvances) (hm.advances hadvances) h₁
              (advances_config hadvances) hseen ?_
            rw [List.count_cons_self] at hcount
            omega
        · exact ⟨[], s, List.nil_prefix, rfl, .inr hexhausted⟩

end System

end SystemScope.Rv32i
