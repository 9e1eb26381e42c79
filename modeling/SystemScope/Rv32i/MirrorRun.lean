import SystemScope.Rv32i.Mirror
import SystemScope.Rv32i.Protocol

/-!
# Runs of the same CPU in two profiles

`step_agree` is the step of the simulation and `run_agree` its run: a system whose CPU has the `M1`
profile and the same system in another profile do the same as long as the words that are fetched are
RV32I instructions, whatever the interrupt line of the second does.  The two part only where the
first sends a request under the last number and the second has none left.
-/

namespace SystemScope.Rv32i

open Rv32iCpu (Mirrors)

/-! ## What is compared -/

/-- What can be seen of a run: the requests, and the architectural state right after each commit. -/
inductive Observed
  | request (msg : MemV1.MemMsg)
  | commit (pc : UInt32) (regs : RegisterFile) (instret : UInt64) (halt : Option Halt)
  deriving DecidableEq

def Entry.observed : Entry → Option Observed
  | .sent msg => some (.request msg)
  | .committed cpu => some (.commit cpu.pc cpu.regs cpu.instret cpu.halt)
  | _ => none

def observations (log : List Entry) : List Observed := log.filterMap Entry.observed

/-- A schedule without its changes of the interrupt line, which the `M1` profile does not have. -/
def dispatches (actions : List Action) : List Action :=
  actions.filter fun
    | .irq _ => false
    | .dispatch _ => true

lemma observations_append (l l' : List Entry) :
    observations (l ++ l') = observations l ++ observations l' :=
  List.filterMap_append

lemma sentTxns_eq (log : List Entry) : System.sentTxns log = (observations log).filterMap fun
    | .request msg => requestTxn msg
    | _ => none := by
  unfold System.sentTxns observations
  rw [List.filterMap_filterMap]
  congr 1
  funext entry
  cases entry <;> rfl

/-- Calls that ask for the same things leave the same events pending, and show the same. -/
lemma filter_asks (calls : List Call) :
    (calls.filter Call.asks).filterMap Call.pending = calls.filterMap Call.pending ∧
      observations ((calls.filter Call.asks).filterMap Call.entry) = observations
        (calls.filterMap Call.entry) := by
  induction calls with
  | nil => exact ⟨rfl, rfl⟩
  | cons call rest ih =>
    obtain ⟨hpending, hobserved⟩ := ih
    cases call with
    | traced kind fields => exact ⟨hpending, hobserved⟩
    | woke => exact ⟨congrArg (List.cons _) hpending, hobserved⟩
    | sent p msg =>
      cases msg with
      | memV1 msg => exact ⟨congrArg (List.cons _) hpending, congrArg (List.cons _) hobserved⟩
      | _ => exact ⟨hpending, hobserved⟩

namespace System

variable {μ : Type} {p : Rv32iProfile} {s t s' t' : System μ}

/-- The second system is the first one, with its CPU in the profile `p`. -/
structure Mirrored (p : Rv32iProfile) (s t : System μ) : Prop where
  cpu : Mirrors p s.cpu t.cpu
  memory : t.memory = s.memory
  pending : t.pending = s.pending
  observed : observations t.log = observations s.log

/-- Both go on, alike, or neither does. -/
def Agree (p : Rv32iProfile) : Except SimError (System μ) → Except SimError (System μ) → Prop
  | .ok s, .ok t => s.Mirrored p t
  | .error _, .error _ => True
  | _, _ => False

/-- The word of the fetch that is being answered, if one is, is an RV32I instruction. -/
def Decodes (s : System μ) : Prop := ∀ msg, .response msg ∈ s.pending → s.cpu.FetchesDecode msg

lemma observed_entryOf {c d : Rv32iCpu} (h : Mirrors p c d) (ev : Delivered) :
    observations (entryOf ev d) = observations (entryOf ev c) := by
  obtain ⟨irqLevel, rfl⟩ := h.eq
  unfold entryOf
  split
  · split_ifs <;> rfl
  · rfl
  · rfl

lemma handle_agree (h : s.Mirrored p t) {pending : List Pending} {phase : Phase} {ev : Delivered}
    (hev : Handler.Alike (Mirrors p) (s.cpu.handleEvent ev) (t.cpu.handleEvent ev)) :
    Agree p (s.handle pending phase ev) (t.handle pending phase ev) := by
  obtain ⟨hcalls, hresult, hcpu⟩ := hev.perform (surroundings phase)
  unfold handle
  generalize (s.cpu.handleEvent ev).perform (surroundings phase) = out at hcalls hresult hcpu
  generalize (t.cpu.handleEvent ev).perform (surroundings phase) = out' at hcalls hresult hcpu
  obtain ⟨calls, result, c⟩ := out
  obtain ⟨calls', result', d⟩ := out'
  dsimp only at hcalls hresult hcpu
  subst hresult
  cases result' with
  | error e => trivial
  | ok =>
    obtain ⟨hpending, hobserved⟩ := filter_asks calls
    obtain ⟨hpending', hobserved'⟩ := filter_asks calls'
    rw [hcalls] at hpending' hobserved'
    refine ⟨hcpu, h.memory, ?_, ?_⟩
    · change _ ++ _ = _ ++ _
      rw [← hpending, hpending']
    · change observations (_ ++ (_ ++ _)) = observations (_ ++ (_ ++ _))
      rw [observations_append, observations_append, observations_append, observations_append,
        h.observed,
        observed_entryOf hcpu, ← hobserved, hobserved']

/-- A failed handler ends the run, and one that sends says so. -/
lemma handle_send {pending : List Pending} {phase : Phase} {ev : Delivered}
    {msg : TxnId → MemV1.MemMsg}
    {waiting : TxnId → State} (hmsg : ∀ txn, requestTxn (msg txn) = some txn)
    (h : s.cpu.handleEvent ev = s.cpu.send msg waiting) (hs : s.handle pending phase ev = .ok s') :
    (sentTxns s.log).length < (sentTxns s'.log).length := by
  unfold handle at hs
  rw [h] at hs
  unfold Rv32iCpu.send at hs
  cases hadvance : s.cpu.advanceTxn with
  | none =>
    rw [hadvance] at hs
    cases hs
  | some next =>
    rw [hadvance] at hs
    cases hs
    rw [sentTxns_append, sentTxns_append, List.length_append, List.length_append]
    have hsent : (sentTxns [Entry.sent (msg s.cpu.nextTxn)]).length = 1 := by
      simp [sentTxns, hmsg]
    change _ < _ + ((sentTxns [Entry.sent (msg s.cpu.nextTxn)]).length + _)
    omega

lemma handle_fault {pending : List Pending} {phase : Phase} {ev : Delivered} {what : String}
    (h : s.cpu.handleEvent ev = s.cpu.fault what) :
    s.handle pending phase ev = .error (.componentFault what) := by
  unfold handle
  rw [h]
  rfl

/-- Two runs show the same: the requests and the commits, and how it stands at the end. -/
structure Shows (s t : System μ) : Prop where
  observed : observations t.log = observations s.log
  memory : t.memory = s.memory
  pc : t.cpu.pc = s.cpu.pc
  regs : t.cpu.regs = s.cpu.regs
  instret : t.cpu.instret = s.cpu.instret
  halt : t.cpu.halt = s.cpu.halt

lemma Mirrored.shows (h : s.Mirrored p t) : s.Shows t := by
  obtain ⟨irqLevel, heq⟩ := h.cpu.eq
  refine ⟨h.observed, h.memory, ?_, ?_, ?_, ?_⟩
  all_goals
    rw [heq]
    rfl

lemma mirrored_boot {config : Rv32iConfig} (hconfig : config.profile = .m1) (m : μ) :
    Mirrored p (boot (.reset config) m) (boot (.reset { config with profile := p }) m) :=
  ⟨⟨hconfig, trivial, false, rfl⟩, rfl, rfl, rfl⟩

lemma counts_boot (config : Rv32iConfig) (m : μ) : Counts 0 (boot (.reset config) m) where
  next := rfl
  sent := rfl
  bound _ := Nat.two_pow_pos 64

variable [MemTarget μ]

lemma sentTxns_le_of_step {a : Action} (h : s.step a = .ok s') :
    (sentTxns s.log).length ≤ (sentTxns s'.log).length := by
  have hhandle {pending : List Pending} {phase : Phase} {ev : Delivered}
      (h : s.handle pending phase ev = .ok s') :
        (sentTxns s.log).length ≤ (sentTxns s'.log).length := by
    obtain ⟨calls, c', -, rfl⟩ := handle_eq_ok.mp h
    rw [sentTxns_append, List.length_append]
    omega
  cases a with
  | irq asserted => exact hhandle h
  | dispatch i =>
    unfold step at h
    dsimp only at h
    split at h
    · cases h
      exact le_rfl
    · exact hhandle h
    · exact hhandle h
    · cases h
      exact le_rfl

lemma sentTxns_le_of_run {actions : List Action} (h : s.run actions = .ok s') :
    (sentTxns s.log).length ≤ (sentTxns s'.log).length := by
  refine Machine.foldlM_invariant
    (I := fun s' => (sentTxns s.log).length ≤ (sentTxns s'.log).length) ?_ le_rfl h
  intro s₁ a s₂ _ hstep hle
  exact hle.trans (sentTxns_le_of_step hstep)

/-! ## A step, and a run -/

/-- The two go on alike, unless the second has run out of numbers and the first sends another
request. -/
lemma step_agree (h : s.Mirrored p t) (hdecodes : s.Decodes) (i : ℕ) :
    Agree p (s.step (.dispatch i)) (t.step (.dispatch i)) ∨
      (∃ e, t.step (.dispatch i) = .error e) ∧ t.cpu.nextTxn = UInt64.ofNat (2 ^ 64 - 1) ∧
        ∀ s', s.step (.dispatch i) = .ok s' →
          (sentTxns s.log).length < (sentTxns s'.log).length := by
  obtain ⟨irqLevel, heq⟩ := h.cpu.eq
  unfold step
  dsimp only
  rw [h.pending]
  cases hpending : s.pending[i]? with
  | none => exact .inl h
  | some e =>
    cases e with
    | wake phase token =>
      dsimp only
      rcases Rv32iCpu.alike_wake (p := p) h.cpu.m1 irqLevel h.cpu.plain token with
        halike | ⟨hmax, ⟨msg, waiting, hmsg, hsend⟩, hfault⟩
      · refine .inl (handle_agree h ?_)
        rw [heq]
        exact halike
      · have hsend' : s.cpu.handleEvent (.wake token) = s.cpu.send msg waiting := hsend
        rw [← heq] at hfault
        refine .inr ⟨⟨_, handle_fault hfault⟩, ?_, fun s' hs => handle_send hmsg hsend' hs⟩
        rw [heq]
        exact hmax
    | response msg =>
      refine .inl (handle_agree h ?_)
      have hdecode := hdecodes msg (List.mem_of_getElem? hpending)
      have halike := Rv32iCpu.alike_response (p := p) h.cpu.m1 irqLevel h.cpu.plain msg hdecode
      have hevent (c : Rv32iCpu) : c.handleEvent (.message port (.memV1 msg)) = c.response msg := by
        unfold Rv32iCpu.handleEvent
        cases c.config.profile <;> rfl
      rw [hevent, hevent, heq]
      exact halike
    | request msg =>
      refine .inl ⟨h.cpu, ?_, ?_, h.observed⟩
      · change (MemTarget.serve t.memory msg).2 = (MemTarget.serve s.memory msg).2
        rw [h.memory]
      · change _ ++ [Pending.response (MemTarget.serve t.memory msg).1] =
          _ ++ [Pending.response (MemTarget.serve s.memory msg).1]
        rw [h.memory]

/-- The line changes nothing that is compared. -/
lemma irq_mirrored (hp : p ≠ .m1) (h : s.Mirrored p t) (asserted : Bool) :
    ∃ t', t.step (.irq asserted) = .ok t' ∧ s.Mirrored p t' := by
  obtain ⟨irqLevel, heq⟩ := h.cpu.eq
  have hprofile : t.cpu.config.profile ≠ .m1 := by
    rw [heq]
    exact hp
  have hmoves : t.cpu.Moves .complete (.message irqPort (.irq (.level asserted))) [] _ :=
    .irq hprofile
  refine ⟨_, handle_eq_ok.mpr ⟨_, _, hmoves, rfl⟩, ⟨h.cpu.m1, h.cpu.plain, asserted, ?_⟩,
    h.memory, ?_, ?_⟩
  · rw [heq]
    rfl
  · exact (List.append_nil _).trans h.pending
  · rw [observations_append, h.observed]
    exact List.append_nil _

/-- Whatever the schedule, the two runs agree, unless the second has run out of numbers. -/
lemma run_agree (hp : p ≠ .m1) {actions : List Action} (h : s.Mirrored p t) (hm : t.Matched)
    (hc : t.Counts 0)
    (hdecodes : ∀ before s', before <+: dispatches actions → s.run before = .ok s' → s'.Decodes) :
    Agree p (s.run (dispatches actions)) (t.run actions) ∨
      (∃ e, t.run actions = .error e) ∧
        ∀ s', s.run (dispatches actions) = .ok s' → 2 ^ 64 ≤ (sentTxns s'.log).length := by
  induction actions generalizing s t with
  | nil => exact .inl h
  | cons a rest ih =>
    have hkeep {t' : System μ} (hstep : t.step a = .ok t') : t'.Matched ∧ t'.Counts 0 := by
      rcases step_cases hm hstep with rfl | hadvances
      · exact ⟨hm, hc⟩
      · exact ⟨hm.advances hadvances, hc.advances hadvances⟩
    have hrun : t.run (a :: rest) = t.step a >>= fun t' => t'.run rest := List.foldlM_cons
    rw [hrun]
    cases a with
    | irq asserted =>
      obtain ⟨t', ht', h'⟩ := irq_mirrored hp h asserted
      obtain ⟨hm', hc'⟩ := hkeep ht'
      rw [ht']
      exact ih h' hm' hc' hdecodes
    | dispatch i =>
      have hrun' : s.run (dispatches (.dispatch i :: rest)) =
          s.step (.dispatch i) >>= fun s' => s'.run (dispatches rest) := List.foldlM_cons
      have hprefix : s.Decodes := hdecodes [] s List.nil_prefix rfl
      rw [hrun']
      rcases step_agree h hprefix i with hagree | ⟨⟨e, he⟩, hmax, hsent⟩
      · cases hs : s.step (.dispatch i) with
        | error e =>
          cases ht : t.step (.dispatch i) with
          | error e' => exact .inl trivial
          | ok t' =>
            rw [hs, ht] at hagree
            exact hagree.elim
        | ok s' =>
          cases ht : t.step (.dispatch i) with
          | error e' =>
            rw [hs, ht] at hagree
            exact hagree.elim
          | ok t' =>
            rw [hs, ht] at hagree
            obtain ⟨hm', hc'⟩ := hkeep ht
            refine ih hagree hm' hc' fun before s'' hbefore hrun'' => ?_
            refine hdecodes (.dispatch i :: before) s''
              (List.cons_prefix_cons.mpr ⟨rfl, hbefore⟩) ?_
            have hcons : s.run (.dispatch i :: before) = s.step (.dispatch i) >>= fun s' =>
              s'.run before :=
              List.foldlM_cons
            rw [hcons, hs]
            exact hrun''
      · refine .inr ⟨⟨e, ?_⟩, fun s' hs' => ?_⟩
        · rw [he]
          rfl
        · cases hs : s.step (.dispatch i) with
          | error e =>
            rw [hs] at hs'
            cases hs'
          | ok s₁ =>
            rw [hs] at hs'
            have hfirst := hsent s₁ hs
            have hlater := sentTxns_le_of_run hs'
            have hcount : (sentTxns t.log).length = (sentTxns s.log).length := by
              rw [sentTxns_eq, sentTxns_eq, h.observed]
            have hbound := hc.bound (by
              obtain ⟨irqLevel, heq⟩ := h.cpu.eq
              rw [heq]
              exact hp)
            have hnext := hc.next
            have hmaximal : (UInt64.ofNat (2 ^ 64 - 1)).toNat = 2 ^ 64 - 1 :=
              UInt64.toNat_ofNat_of_lt' (show 2 ^ 64 - 1 < 2 ^ 64 by omega)
            have hzero : (0 : UInt64).toNat = 0 := rfl
            rw [hmax, ← UInt64.toNat_inj, UInt64.toNat_add, hmaximal, hzero,
              UInt64.toNat_ofNat'] at hnext
            rw [hzero] at hbound
            omega

end System

end SystemScope.Rv32i
