import SystemScope.Rv32i.MirrorRun

/-!
# The profiles extend `M1` conservatively

Whatever the delays and whatever the interrupt line does, a CPU of the `M2` or `M3` profile does
from reset what a CPU of the `M1` profile does, as long as the words it fetches are RV32I
instructions (`conservative_extension`): no decoder of the other profiles accepts such a word,
`ECALL` has the same cause in M-mode, no interrupt is enabled, no trap is delegated and nothing is
translated.

The one difference is the counter of requests, which wraps in the `M1` profile only.  In a memory
full of loads a CPU sends two requests a turn; `turns` runs `k` turns of the `M1` profile, and the
run that sends request number `2 ^ 64 - 1` goes on where the other profiles do not
(`conservative_extension_exhausted`).
-/

namespace SystemScope.Rv32i

open Rv32iCpu
  (spinConfig spinWord spinPlan spinPending spun spinning step_spinWord commits_spinning reset)

/-- A memory that is full of `spinWord`. -/
inductive SpinMemory
  | mk

instance : ByteMemory SpinMemory where
  read _ _ len := some (if len = 4 then u32Bytes spinWord else List.replicate len.toNat 0)
  write _ _ _ := none
  length_read m addr len data h := by
    cases h
    split_ifs with hlen
    · rw [hlen]
      rfl
    · exact List.length_replicate

namespace System

section

variable {μ : Type} [MemTarget μ] {s s₁ s' : System μ} {c : Rv32iCpu} {n k : ℕ}

lemma length_sentTxns_entryOf (l : List Entry) (ev : Delivered) (c : Rv32iCpu) :
    (sentTxns (l ++ entryOf ev c)).length = (sentTxns l).length := by
  have hnone : sentTxns (entryOf ev c) = [] := by
    unfold entryOf
    split
    · split_ifs <;> rfl
    · rfl
    · rfl
  rw [sentTxns_append, hnone, List.append_nil]

/-! ## One dispatch -/

lemma step_wake {phase : Phase} {token : UInt64} (hp : s.pending = [.wake phase token]) :
    s.step (.dispatch 0) = s.handle [] phase (.wake token) := by
  unfold step
  rw [hp]
  rfl

lemma step_response {msg : MemV1.MemMsg} (hp : s.pending = [.response msg]) :
    s.step (.dispatch 0) = s.handle [] .complete (.message port (.memV1 msg)) := by
  unfold step
  rw [hp]
  rfl

/-- The CPU, what is pending, and how many requests were sent. -/
structure Stands (s : System μ) (c : Rv32iCpu) (pending : List Pending) (n : ℕ) : Prop where
  cpu : s.cpu = c
  pending : s.pending = pending
  sent : (sentTxns s.log).length = n

lemma step_of_issue {token next : UInt64} {msg : TxnId → MemV1.MemMsg} {waiting : TxnId → State}
    (h : s.Stands c [.wake .request token] n) (hi : c.Issues token msg waiting)
    (hn : c.advanceTxn = some next) : ∃ s', s.step (.dispatch 0) = .ok s' ∧
      s'.Stands { c with nextTxn := next, state := waiting c.nextTxn }
      [.request (msg c.nextTxn)] (n + 1) := by
  obtain ⟨rfl, hp, rfl⟩ := h
  have hmoves : s.cpu.Moves .request (.wake token) _ _ := .issue hi hn
  refine ⟨_, (step_wake hp).trans (handle_eq_ok.mpr ⟨_, _, hmoves, rfl⟩), rfl, rfl, ?_⟩
  rw [← List.append_assoc, length_sentTxns_entryOf, sentTxns_append, List.length_append]
  simp [sentTxns, Call.entry, requestTxn_of_issues hi]

lemma step_of_request {req : MemV1.MemMsg} (h : s.Stands c [.request req] n) : ∃ s',
    s.step (.dispatch 0) = .ok s' ∧ s'.Stands c [.response (MemTarget.serve s.memory req).1] n := by
  refine ⟨{ s with
    memory := (MemTarget.serve s.memory req).2
    pending := [.response (MemTarget.serve s.memory req).1] }, ?_, h.cpu, rfl, h.sent⟩
  unfold step
  rw [h.pending]
  rfl

lemma step_of_response {msg : MemV1.MemMsg} {state : State} (h : s.Stands c [.response msg] n)
    (ha : c.Answers msg state) : ∃ s', s.step (.dispatch 0) = .ok s' ∧
      s'.Stands (c.enter state) (wakesOf state c.config.clock) n := by
  obtain ⟨rfl, hp, rfl⟩ := h
  have hmoves : s.cpu.Moves .complete (.message port (.memV1 msg)) _ _ := .answer (.inr rfl) ha
  refine ⟨_, (step_response hp).trans (handle_eq_ok.mpr ⟨_, _, hmoves, rfl⟩), rfl, rfl, ?_⟩
  rw [← List.append_assoc, length_sentTxns_entryOf, entries_wakes, List.append_nil]

lemma step_of_commit {calls : List Call} {c' : Rv32iCpu}
    (h : s.Stands c [.wake .commit Token.commit] n)
    (hc : c.Commits calls c') : ∃ s', s.step (.dispatch 0) = .ok s' ∧
      s'.Stands c' (calls.filterMap Call.pending) n := by
  obtain ⟨rfl, hp, rfl⟩ := h
  have hmoves : s.cpu.Moves .commit (.wake Token.commit) _ _ := .commit hc
  refine ⟨_, (step_wake hp).trans (handle_eq_ok.mpr ⟨_, _, hmoves, rfl⟩), rfl, rfl, ?_⟩
  have hsent := sentTxns_commits hc
  rw [sentTxns_append]
  change (_ ++ sentTxns (_ ++ [Entry.committed c'])).length = _
  rw [hsent, List.append_nil]

/-! ## Dispatches in a row -/

lemma run_dispatch (hstep : s.step (.dispatch 0) = .ok s₁)
    (h : s₁.run (List.replicate n (.dispatch 0)) = .ok s') :
    s.run (List.replicate (n + 1) (.dispatch 0)) = .ok s' := by
  unfold run
  rw [List.replicate_succ, List.foldlM_cons, hstep]
  exact h

lemma run_dispatches (h₁ : s.run (List.replicate k (.dispatch 0)) = .ok s₁)
    (h : s₁.run (List.replicate n (.dispatch 0)) = .ok s') :
    s.run (List.replicate (k + n) (.dispatch 0)) = .ok s' := by
  unfold run at h₁ ⊢
  rw [List.replicate_add, List.foldlM_append, h₁]
  exact h

end

/-! ## Turns -/

section

variable {s : System SpinMemory} {k n : ℕ}

lemma serve_spin (m : SpinMemory) (txn : TxnId) (addr : UInt64) :
    (MemTarget.serve m (.readReq txn addr 4)).1 = .readResp txn (.data (u32Bytes spinWord)) := by
  cases m
  rfl

/-- A turn up to its load, which has been sent. -/
lemma spin_load (h : s.Stands (spun k) [.wake .request Token.fetch] n) :
    ∃ s', s.run (List.replicate 4 (.dispatch 0)) = .ok s' ∧
      s'.Stands (spinning k) [.request (.readReq (UInt64.ofNat (2 * k) + 1) 0 4)] (n + 2) := by
  let fetching : Rv32iCpu :=
    { spun k with nextTxn := UInt64.ofNat (2 * k) + 1,
                  state := .fetchWait (UInt64.ofNat (2 * k)) none }
  have hanswer : fetching.Answers (.readResp (UInt64.ofNat (2 * k)) (.data (u32Bytes spinWord)))
      (.memIssue spinWord (.load (spinPlan (spun k).pc)) none) := .access rfl rfl (step_spinWord _)
  obtain ⟨s₁, h₁, hs₁⟩ := step_of_issue h (.fetch rfl) rfl
  obtain ⟨s₂, h₂, hs₂⟩ := step_of_request hs₁
  rw [serve_spin] at hs₂
  obtain ⟨s₃, h₃, hs₃⟩ := step_of_response hs₂ hanswer
  obtain ⟨s₄, h₄, hs₄⟩ := step_of_issue hs₃ (.memory rfl) rfl
  exact ⟨s₄, run_dispatch h₁ (run_dispatch h₂ (run_dispatch h₃ (run_dispatch h₄ rfl))), hs₄⟩

/-- The rest of the turn. -/
lemma spin_commit (hk : k + 1 < 2 ^ 64 - 1)
    (h : s.Stands (spinning k) [.request (.readReq (UInt64.ofNat (2 * k) + 1) 0 4)] n) :
    ∃ s', s.run (List.replicate 3 (.dispatch 0)) = .ok s' ∧
      s'.Stands (spun (k + 1)) [.wake .request Token.fetch] n := by
  have hanswer :
    (spinning k).Answers (.readResp (UInt64.ofNat (2 * k) + 1) (.data (u32Bytes spinWord)))
      (spinPending k spinWord) := .loaded rfl rfl
  obtain ⟨fields, hcommits⟩ := commits_spinning hk spinWord
  obtain ⟨s₁, h₁, hs₁⟩ := step_of_request h
  rw [serve_spin] at hs₁
  obtain ⟨s₂, h₂, hs₂⟩ := step_of_response hs₁ hanswer
  obtain ⟨s₃, h₃, hs₃⟩ := step_of_commit hs₂ hcommits
  exact ⟨s₃, run_dispatch h₁ (run_dispatch h₂ (run_dispatch h₃ rfl)), hs₃⟩

/-- The whole run, turn after turn. -/
lemma turns (hk : k < 2 ^ 64 - 1) : ∃ s,
    (boot (reset spinConfig) SpinMemory.mk).run (List.replicate (7 * k) (.dispatch 0)) = .ok s ∧
      s.Stands (spun k) [.wake .request Token.fetch] (2 * k) := by
  induction k with
  | zero => exact ⟨_, rfl, rfl, rfl, rfl⟩
  | succ k ih =>
    obtain ⟨s, hrun, hs⟩ := ih (by omega)
    obtain ⟨s₁, h₁, hs₁⟩ := spin_load hs
    obtain ⟨s₂, h₂, hs₂⟩ := spin_commit hk hs₁
    exact ⟨s₂, run_dispatches hrun (run_dispatches h₁ h₂), hs₂⟩

/-! ## What the memory answers -/

/-- The responses under way are those of the memory. -/
def Served (s : System SpinMemory) : Prop :=
  ∀ msg, .response msg ∈ s.pending →
    ∃ req txn, requestTxn req = some txn ∧ msg = (MemTarget.serve SpinMemory.mk req).1

lemma response_notMem (calls : List Call) (msg : MemV1.MemMsg) :
    Pending.response msg ∉ calls.filterMap Call.pending := by
  rw [List.mem_filterMap]
  rintro ⟨call, -, hcall⟩
  unfold Call.pending at hcall
  split at hcall <;> cases hcall

lemma Matched.request {req : MemV1.MemMsg} (hm : s.Matched) (hp : s.pending = [.request req]) :
    ∃ txn, requestTxn req = some txn := by
  rcases hm with ⟨e, hp', hawaits⟩ | ⟨-, hp'⟩
  · obtain rfl : e = .request req := by simpa [hp] using hp'.symm
    unfold State.Awaits at hawaits
    split at hawaits
    all_goals
      first
      | cases hawaits
      | exact ⟨_, hawaits⟩
  · rw [hp] at hp'
    cases hp'

lemma Served.advances {s' : System SpinMemory} (hm : s.Matched) (h : s.Served)
    (ha : s.Advances s') :
    s'.Served := by
  cases ha with
  | serve hp =>
    rename_i req
    obtain ⟨txn, htxn⟩ := hm.request hp
    intro msg hmsg
    cases List.mem_singleton.mp hmsg
    exact ⟨req, txn, htxn, rfl⟩
  | irq => exact h
  | issue =>
    intro msg hmsg
    cases List.mem_singleton.mp hmsg
  | answer =>
    intro msg hmsg
    exact absurd hmsg (response_notMem _ msg)
  | commit =>
    intro msg hmsg
    exact absurd hmsg (response_notMem _ msg)

lemma length_of_wordOfBytes {data : Bytes} {word : UInt32} (h : wordOfBytes data = some word) :
    data.length = 4 := by
  unfold wordOfBytes at h
  split at h
  · rfl
  · cases h

/-- Every word that is fetched from the memory is `spinWord`. -/
lemma Served.decodes (h : s.Served) : s.Decodes := by
  rintro msg hmem expected pa txn data word - hmsg hword
  obtain ⟨req, txn', hreq, rfl⟩ := h msg hmem
  refine ⟨.load .w .zero .zero 0, ?_⟩
  cases req with
  | readReq txn' addr len =>
    cases hmsg
    split_ifs at hword with hlen
    · cases hword
      rfl
    · have hlength : (List.replicate len.toNat (0 : UInt8)).length = 4 :=
        length_of_wordOfBytes hword
      rw [List.length_replicate] at hlength
      exact absurd (UInt32.toNat_inj.mp hlength) hlen
  | writeReq => cases hmsg
  | _ => cases hreq

/-- The run that sends the request with the last number. -/
lemma exhausts : ∃ s,
    (boot (reset spinConfig) SpinMemory.mk).run
      (List.replicate (7 * (2 ^ 63 - 1) + 4) (.dispatch 0)) = .ok s ∧
      (sentTxns s.log).length = 2 ^ 64 := by
  obtain ⟨s, hrun, hs⟩ := turns (show 2 ^ 63 - 1 < 2 ^ 64 - 1 by omega)
  obtain ⟨s', hrun', hs'⟩ := spin_load hs
  exact ⟨s', run_dispatches hrun hrun', hs'.sent.trans (by omega)⟩

lemma spin_decodes (before : List Action) (s : System SpinMemory)
    (hrun : (boot (reset spinConfig) SpinMemory.mk).run before = .ok s) : s.Decodes := by
  have hboot : (boot (reset spinConfig) SpinMemory.mk).Served := fun msg hmsg =>
    absurd hmsg (response_notMem _ msg)
  have hserved := run_induction (fun _ _ => Served.advances) (matched_boot _ rfl _) hboot hrun
  exact hserved.2.decodes

end

/-- The decoders accept disjoint sets of words, and the words that RV32I has mean the same in every
profile.  From reset, under the same schedule, an `M2` or `M3` CPU sends the requests of the `M1`
CPU and stands as it does after every commit, however the interrupt line toggles, as long as the
words that are fetched are RV32I instructions: where it goes on, the `M1` CPU does, and it goes on
where the `M1` CPU does with fewer than `2 ^ 64` requests. -/
theorem conservative_extension {μ : Type} [MemTarget μ] {config : Rv32iConfig}
    (hm1 : config.profile = .m1)
    {p : Rv32iProfile} (hp : p ≠ .m1) {c d : Rv32iCpu} (hc : Rv32iCpu.new config = .ok c)
    (hd : Rv32iCpu.new { config with profile := p } = .ok d) (m : μ) (actions : List Action)
    (hdecodes : ∀ before s, before <+: dispatches actions → (boot c m).run before = .ok s →
      s.Decodes) :
    (∀ word instr, decode word = .ok instr →
      decodePrivileged word = none ∧ decodeSupervisor word = none ∧ ∀ pc regs,
        Rv32i.step .m2 word pc regs = Rv32i.step .m1 word pc regs ∧
          Rv32i.step (.m3 .machine) word pc regs = Rv32i.step .m1 word pc regs) ∧
    (∀ word instr, decodePrivileged word = some instr → decodeSupervisor word = none) ∧
    (∀ t, (boot d m).run actions = .ok t → ∃ s, (boot c m).run (dispatches actions) = .ok s ∧
      s.Shows t) ∧
    ∀ s, (boot c m).run (dispatches actions) = .ok s → (sentTxns s.log).length < 2 ^ 64 →
      ∃ t, (boot d m).run actions = .ok t ∧ s.Shows t := by
  have hreset {config : Rv32iConfig} {c : Rv32iCpu} (h : Rv32iCpu.new config = .ok c) :
    c = .reset config := by
    unfold Rv32iCpu.new at h
    split_ifs at h
    cases h
    rfl
  obtain rfl := hreset hc
  obtain rfl := hreset hd
  have hagree :=
    run_agree hp (mirrored_boot hm1 m) (matched_boot _ rfl m) (counts_boot _ m) hdecodes
  refine ⟨fun word instr h =>
    ⟨decodePrivileged_of_decode h, decodeSupervisor_of_decode h, step_of_decode h⟩,
    fun word instr h => decodeSupervisor_of_decodePrivileged h, fun t ht => ?_,
      fun s hs hcount => ?_⟩
  · rcases hagree with hagree | ⟨⟨e, he⟩, -⟩
    · rw [ht] at hagree
      cases hs : (boot (.reset config) m).run (dispatches actions) with
      | error e =>
        rw [hs] at hagree
        exact hagree.elim
      | ok s =>
        rw [hs] at hagree
        exact ⟨s, rfl, hagree.shows⟩
    · rw [ht] at he
      cases he
  · rcases hagree with hagree | ⟨-, hsent⟩
    · rw [hs] at hagree
      cases ht : (boot (.reset { config with profile := p }) m).run actions with
      | error e =>
        rw [ht] at hagree
        exact hagree.elim
      | ok t =>
        rw [ht] at hagree
        exact ⟨t, rfl, hagree.shows⟩
    · exact absurd (hsent s hs) (not_le.mpr hcount)

section

open Canonical

/-- A turn of the `M3` CPU, with the interrupt line up. -/
theorem conservative_extension_spin : ∃ t,
    (boot (.reset { spinConfig with profile := .m3 }) SpinMemory.mk).run
      (.irq true :: List.replicate 7 (.dispatch 0)) = .ok t ∧
    observations t.log = [.request (.readReq 0 0 4), .request (.readReq 1 0 4),
      .commit 4 .new 1 none] := by
  obtain ⟨s, hrun, hsent, hobserved⟩ : ∃ s,
      (boot (.reset spinConfig) SpinMemory.mk).run (List.replicate 7 (.dispatch 0)) = .ok s ∧
      (sentTxns s.log).length < 2 ^ 64 ∧
      observations s.log =
        [.request (.readReq 0 0 4), .request (.readReq 1 0 4), .commit 4 .new 1 none] :=
    ⟨_, rfl, by decide, rfl⟩
  have hextension := conservative_extension (show spinConfig.profile = .m1 from rfl)
    (p := .m3) nofun rfl rfl SpinMemory.mk
    (.irq true :: List.replicate 7 (.dispatch 0)) fun before s _ => spin_decodes before s
  obtain ⟨t, ht, hshows⟩ := hextension.2.2.2 s hrun hsent
  exact ⟨t, ht, hshows.observed.trans hobserved⟩

/-- The `M1` CPU sends `2 ^ 64` requests, and fetches nothing but an RV32I instruction; a CPU of
another profile with the same configuration never sends that many. -/
theorem conservative_extension_exhausted :
    Rv32iCpu.new spinConfig = .ok (.reset spinConfig) ∧
    (∀ before s, (boot (.reset spinConfig) SpinMemory.mk).run before = .ok s → s.Decodes) ∧
    (∃ s, (boot (.reset spinConfig) SpinMemory.mk).run
      (List.replicate (7 * (2 ^ 63 - 1) + 4) (.dispatch 0)) = .ok s ∧
      (sentTxns s.log).length = 2 ^ 64) ∧
    ∀ p ≠ Rv32iProfile.m1, ∀ actions t,
      (boot (.reset { spinConfig with profile := p }) SpinMemory.mk).run actions = .ok t →
        (sentTxns t.log).length < 2 ^ 64 := by
  refine ⟨rfl, spin_decodes, exhausts, fun p hp actions t hrun => ?_⟩
  have hcounts := run_induction (I := fun t => t.Counts 0 ∧ t.cpu.config.profile = p)
    (fun s s' _ h ha => ⟨h.1.advances ha, by rw [advances_config ha]; exact h.2⟩)
      (matched_boot _ rfl _)
    ⟨counts_boot _ _, rfl⟩ hrun
  obtain ⟨-, hcounts, hprofile⟩ := hcounts
  have hbound := hcounts.bound (by rwa [hprofile])
  exact (Nat.zero_add _).symm.trans_lt hbound

end

end System

end SystemScope.Rv32i
