import SystemScope.Framework.Checks
import SystemScope.Os.ProcOp

/-!
# The working data of an operation

At every step of a stage, the working data has the length that the stage says
(`ProcOp.complete_spec`), whatever the accesses are answered.
-/

namespace SystemScope.Os

open Checks

/-! ## Pieces -/

lemma sum_chunksTo (stop addr : ℕ) : ((chunksTo stop addr).map Prod.snd).sum = stop - addr := by
  induction addr using chunksTo.induct stop with
  | case1 addr hlt hnext ih =>
    have hle : nextChunk stop addr ≤ stop := by
      unfold nextChunk
      omega
    unfold chunksTo
    rw [dif_pos hlt, List.map_cons, List.sum_cons, ih]
    omega
  | case2 addr hge =>
    unfold chunksTo
    rw [dif_neg hge, List.map_nil, List.sum_nil]
    omega

/-- The pieces of a range are as long as the range. -/
lemma sum_chunks (base len : ℕ) : ((chunks base len).map Prod.snd).sum = len := by
  unfold chunks
  rw [sum_chunksTo]
  omega

/-- A piece is not empty, has at most 16 bytes and crosses no page. -/
structure IsPiece (c : ℕ × ℕ) : Prop where
  pos : 0 < c.2
  short : c.2 ≤ maxAccess
  inPage : c.1 % pageBytes + c.2 ≤ pageBytes

/-- A piece of a range lies in it. -/
lemma mem_chunksTo {stop addr : ℕ} {c : ℕ × ℕ} (h : c ∈ chunksTo stop addr) :
    IsPiece c ∧ addr ≤ c.1 ∧ c.1 + c.2 ≤ stop := by
  induction addr using chunksTo.induct stop with
  | case1 addr hlt hnext ih =>
    unfold chunksTo at h
    rw [dif_pos hlt] at h
    rcases List.mem_cons.mp h with rfl | h
    · refine ⟨⟨?_, ?_, ?_⟩, ?_, ?_⟩ <;> dsimp only <;> unfold nextChunk pageBytes maxAccess at *
        <;> omega
    · obtain ⟨hpiece, hle, hstop⟩ := ih h
      exact ⟨hpiece, by omega, hstop⟩
  | case2 addr hge =>
    unfold chunksTo at h
    rw [dif_neg hge] at h
    cases h

lemma mem_chunks {base len : ℕ} {c : ℕ × ℕ} (h : c ∈ chunks base len) :
    IsPiece c ∧ base ≤ c.1 ∧ c.1 + c.2 ≤ base + len := mem_chunksTo h

/-- The pieces cover the range. -/
lemma exists_chunksTo {stop addr a : ℕ} (hle : addr ≤ a) (hlt : a < stop) :
    ∃ c ∈ chunksTo stop addr, c.1 ≤ a ∧ a < c.1 + c.2 := by
  induction addr using chunksTo.induct stop with
  | case1 addr h hnext ih =>
    unfold chunksTo
    rw [dif_pos h]
    by_cases hfirst : a < nextChunk stop addr
    · exact ⟨_, List.mem_cons_self, hle, by dsimp only; omega⟩
    · obtain ⟨c, hc, hmem⟩ := ih (by omega)
      exact ⟨c, List.mem_cons_of_mem _ hc, hmem⟩
  | case2 addr hge => omega

lemma exists_chunk (base len : ℕ) {a : ℕ} (hle : base ≤ a) (hlt : a < base + len) :
    ∃ c ∈ chunks base len, c.1 ≤ a ∧ a < c.1 + c.2 := exists_chunksTo hle hlt

lemma readLen_succ {chunks : List (ℕ × ℕ)} {step : ℕ} {c : ℕ × ℕ} (h : chunks[step]? = some c) :
    readLen chunks (step + 1) = readLen chunks step + c.2 := by
  unfold readLen
  rw [List.take_add_one, h, List.map_append, List.sum_append]
  simp

lemma readLen_length (chunks : List (ℕ × ℕ)) :
    readLen chunks chunks.length = (chunks.map Prod.snd).sum := by
  unfold readLen
  rw [List.take_length]

lemma readLen_cons (c : ℕ × ℕ) (chunks : List (ℕ × ℕ)) (step : ℕ) :
    readLen (c :: chunks) (step + 1) = c.2 + readLen chunks step := by
  unfold readLen
  rw [List.take_succ_cons, List.map_cons, List.sum_cons]

/-- A piece starts where those before it end. -/
lemma chunksTo_start {stop addr step : ℕ} {c : ℕ × ℕ} (h : (chunksTo stop addr)[step]? = some c) :
    c.1 = addr + readLen (chunksTo stop addr) step := by
  induction addr using chunksTo.induct stop generalizing step with
  | case1 addr hlt hnext ih =>
    unfold chunksTo at h ⊢
    rw [dif_pos hlt] at h ⊢
    cases step with
    | zero =>
      cases h
      rfl
    | succ step =>
      rw [ih h, readLen_cons]
      omega
  | case2 addr hge =>
    unfold chunksTo at h
    rw [dif_neg hge] at h
    cases h

lemma chunk_start {base len step : ℕ} {c : ℕ × ℕ} (h : (chunks base len)[step]? = some c) :
    c.1 = base + readLen (chunks base len) step := chunksTo_start h

/-! ## Steps -/

/-- The number of bytes that an access returns. -/
def Access.returned : Access → ℕ
  | read _ len => len
  | write .. => 0

namespace ProcOp

variable {config : KernelConfig} {o o' : ProcOp} {access : Access} {completion : Completion}
  {data held : Bytes}

lemma length_answered (h : answered access completion held = .ok data) :
    data.length = held.length + access.returned := by
  unfold answered at h
  split at h
  · next addr len d held =>
    obtain ⟨hlen, hdata⟩ := guard_eq_ok.mp h
    cases hdata
    rw [List.length_append, not_not.mp hlen]
    rfl
  · cases h
    rfl
  · cases h

/-- Before the write of a copy, its bytes are there; at other steps of a creation there are
none. -/
lemma length_creation {s : Space} {k : ℕ} (ha : s.access k held = some access)
    (hheld : held.length = s.dataLen k) (hdata : answered access completion held = .ok data) :
    data.length = s.dataLen (k + 1) ∨ s.dataLen (k + 1) = 0 := by
  have hlength := length_answered hdata
  by_cases hzero : s.dataLen (k + 1) = 0
  · exact .inr hzero
  · left
    unfold Space.dataLen at hzero hheld ⊢
    by_cases hstart : k + 1 < s.zeroSteps
    · rw [if_pos hstart] at hzero
      exact absurd rfl hzero
    · rw [if_neg hstart] at hzero ⊢
      cases hc : s.copies[(k + 1 - s.zeroSteps) / 2]? with
      | none =>
        rw [hc] at hzero
        exact absurd rfl hzero
      | some c =>
        rw [hc] at hzero
        dsimp only at hzero ⊢
        by_cases hodd : (k + 1 - s.zeroSteps) % 2 = 1
        · rw [if_pos hodd]
          have hk : ¬k < s.zeroSteps := by omega
          have hdiv : (k - s.zeroSteps) / 2 = (k + 1 - s.zeroSteps) / 2 := by omega
          have heven : (k - s.zeroSteps) % 2 = 0 := by omega
          unfold Space.access at ha
          rw [if_neg hk] at ha hheld
          dsimp only at ha
          rw [hdiv, hc] at ha hheld
          dsimp only at ha hheld
          rw [if_pos heven] at ha
          rw [if_neg (by omega)] at hheld
          cases ha
          rw [hlength, hheld]
          exact Nat.zero_add _
        · rw [if_neg hodd] at hzero
          exact absurd rfl hzero

lemma length_reads {chunks : List (ℕ × ℕ)} {k : ℕ} (ha : chunks[k]?.map readChunk = some access)
    (hheld : held.length = readLen chunks k) (hdata : answered access completion held = .ok data) :
    data.length = readLen chunks (k + 1) := by
  obtain ⟨c, hc, rfl⟩ := Option.map_eq_some_iff.mp ha
  rw [readLen_succ hc, length_answered hdata, hheld]
  rfl

lemma length_next (ha : o.access config = .ok (some access))
    (hheld : o.data.length = o.dataLen config o.step)
    (hdata : answered access completion o.data = .ok data) :
    data.length = o.dataLen config (o.step + 1) ∨ o.dataLen config (o.step + 1) = 0 := by
  obtain ⟨stage, step, held⟩ := o
  have hlength := length_answered hdata
  cases stage with
  | create pid space => exact length_creation (Except.ok.inj ha) hheld hdata
  | load cursor headers image space => exact length_creation (Except.ok.inj ha) hheld hdata
  | readFrame => exact .inl (length_reads (Except.ok.inj ha) hheld hdata)
  | staged cursor len => exact .inl (length_reads (Except.ok.inj ha) hheld hdata)
  | output buffer pages done =>
    left
    unfold ProcOp.access at ha
    dsimp only at ha hheld ⊢
    unfold dataLen at hheld ⊢
    dsimp only at hheld ⊢
    rw [if_pos (Nat.succ_pos step)]
    by_cases hzero : step = 0
    · rw [if_pos hzero] at ha
      rw [if_neg (by omega)] at hheld
      obtain ⟨addr, -, ha⟩ := bind_eq_ok.mp ha
      cases ha
      rw [hlength, hheld]
      exact Nat.zero_add _
    · rw [if_neg hzero] at ha
      rw [if_pos (by omega)] at hheld
      by_cases hle : step ≤ (buffer.chunk done).2
      · rw [if_pos hle] at ha
        split at ha
        · cases ha
        · cases ha
          rw [hlength]
          exact hheld
      · rw [if_neg hle] at ha
        cases ha
  | _ => exact .inr rfl

/-- A completion answers the access that is due; what the next step does not work on is dropped. -/
lemma complete_eq_ok (h : o.complete config completion = .ok (.ok o')) :
    ∃ access data n, o.access config = .ok (some access) ∧
      answered access completion o.data = .ok data ∧ o.steps config = .ok n ∧
      o' = { o with
        step := o.step + 1
        data :=
          if o.step + 1 < n ∧ data.length ≠ o.dataLen config (o.step + 1) then [] else data } := by
  unfold complete at h
  obtain ⟨due, ha, h⟩ := bind_eq_ok.mp h
  cases due with
  | none => cases h
  | some access =>
    dsimp only at h
    split at h
    · cases h
    · next data hdata =>
      obtain ⟨o'', hnext, h⟩ := bind_eq_ok.mp h
      cases h
      obtain ⟨n, hn, hnext⟩ := bind_eq_ok.mp hnext
      refine ⟨access, data, n, ha, hdata, hn, (Except.ok.inj hnext).symm.trans ?_⟩
      show (if o.step + 1 < n ∧ data.length ≠ o.dataLen config (o.step + 1) then _ else _) = _
      split <;> rfl

lemma complete_reads {chunks : List (ℕ × ℕ)} {step : ℕ} {data : Bytes}
    (hdata : data.length = readLen chunks step) (n : ℕ) :
    (if step < n ∧ data.length ≠ readLen chunks step then [] else data) = data :=
  if_neg fun h => h.2 hdata

/-- What one completion does to an operation. -/
theorem complete_spec (hheld : o.data.length = o.dataLen config o.step)
    (h : o.complete config completion = .ok (.ok o')) :
    o'.stage = o.stage ∧ o'.step = o.step + 1 ∧
      (∀ n, o.steps config = .ok n → o'.step < n →
        o'.data.length = o'.dataLen config o'.step) ∧
      ∀ cursor len, o.stage = .staged cursor len →
        o'.data.length = readLen (stagedChunks config len) o'.step := by
  obtain ⟨access, data, n, ha, hdata, hn, rfl⟩ := complete_eq_ok h
  have hlength := length_next ha hheld hdata
  refine ⟨rfl, rfl, ?_, ?_⟩
  · intro n' hn' hlt
    obtain rfl : n' = n := Except.ok.inj (hn'.symm.trans hn)
    show (if _ then [] else data).length = o.dataLen config (o.step + 1)
    split
    · next hdrop => exact (hlength.resolve_left hdrop.2).symm
    · next hkeep =>
      by_contra hne
      exact hkeep ⟨hlt, hne⟩
  · obtain ⟨stage, step, held⟩ := o
    rintro cursor len rfl
    have hreads := length_reads (Except.ok.inj ha) hheld hdata
    exact (congrArg List.length (complete_reads hreads n)).trans hreads

/-! ## The accesses of a syscall -/

lemma access_walk {buffer : Buffer} {pages : List UInt32} {table : UInt32} {level : UInt8}
    {step : ℕ}
    (ha : ({ stage := .walk buffer pages table level, step, data := held } : ProcOp).access config =
      .ok (some access)) :
    step = 0 ∧ ∃ va, buffer.pageVa pages.length = .ok va ∧
      access = .read (pteAddress table va level) 4 := by
  unfold ProcOp.access at ha
  dsimp only at ha
  by_cases hzero : step = 0
  · rw [if_pos hzero] at ha
    obtain ⟨va, hva, ha⟩ := bind_eq_ok.mp ha
    cases ha
    exact ⟨hzero, va, hva, rfl⟩
  · rw [if_neg hzero] at ha
    cases ha

lemma access_output {buffer : Buffer} {pages : List UInt32} {done step : ℕ}
    (ha : ({ stage := .output buffer pages done, step, data := held } : ProcOp).access config =
      .ok (some access)) :
    (step = 0 ∧ ∃ addr, physical buffer pages (buffer.chunk done).1 = .ok addr ∧
        access = .read addr (buffer.chunk done).2) ∨
      0 < step ∧ step ≤ (buffer.chunk done).2 ∧
        ∃ b, held[step - 1]? = some b ∧ access = .write config.uartTx.toNat [b] := by
  unfold ProcOp.access at ha
  dsimp only at ha
  by_cases hzero : step = 0
  · rw [if_pos hzero] at ha
    obtain ⟨addr, haddr, ha⟩ := bind_eq_ok.mp ha
    cases ha
    exact .inl ⟨hzero, addr, haddr, rfl⟩
  · rw [if_neg hzero] at ha
    by_cases hle : step ≤ (buffer.chunk done).2
    · rw [if_pos hle] at ha
      split at ha
      · cases ha
      · next b hb =>
        cases ha
        exact .inr ⟨Nat.pos_of_ne_zero hzero, hle, b, hb, rfl⟩
    · rw [if_neg hle] at ha
      cases ha

lemma access_return {sepc value : UInt32} {step : ℕ}
    (ha : ({ stage := .return_ sepc value, step, data := held } : ProcOp).access config =
      .ok (some access)) :
    (step = 0 ∧ access = .write (config.trapFrame.toNat + frameA0) (wordBytes value)) ∨
      step = 1 ∧ access = .write (config.trapFrame.toNat + frameSepc) (wordBytes (sepc + 4)) := by
  unfold ProcOp.access at ha
  match step with
  | 0 =>
    cases ha
    exact .inl ⟨rfl, rfl⟩
  | 1 =>
    cases ha
    exact .inr ⟨rfl, rfl⟩
  | _ + 2 => cases ha

/-- An access is due only before the end. -/
lemma lt_of_access {cursor : Cursor} {len : UInt32} (hstage : o.stage = .staged cursor len)
    (ha : o.access config = .ok (some access)) : o.step < (stagedChunks config len).length := by
  unfold ProcOp.access at ha
  rw [hstage] at ha
  obtain ⟨c, hc, -⟩ := Option.map_eq_some_iff.mp (Except.ok.inj ha)
  exact (List.getElem?_eq_some_iff.mp hc).1

/-- A read of staging that has finished has returned all its bytes. -/
lemma length_staged (hheld : o.data.length = o.dataLen config o.step)
    (h : o.complete config completion = .ok (.ok o')) (hfinished : o'.isFinished config = .ok true)
    {cursor : Cursor} {len : UInt32} (hstage : o'.stage = .staged cursor len) :
    o'.data.length = len.toNat := by
  obtain ⟨hstage', hstep, -, hstaged⟩ := complete_spec hheld h
  rw [hstage'] at hstage
  obtain ⟨due, ha, -⟩ := bind_eq_ok.mp h
  have hlt : o.step < (stagedChunks config len).length := by
    cases due with
    | none =>
      unfold complete at h
      rw [ha] at h
      cases h
    | some access => exact lt_of_access hstage ha
  have hend : o'.step = (stagedChunks config len).length := by
    unfold isFinished steps at hfinished
    rw [hstage', hstage] at hfinished
    have hle : (stagedChunks config len).length ≤ o'.step := by simpa using Except.ok.inj hfinished
    omega
  rw [hstaged cursor len hstage, hend, readLen_length]
  exact sum_chunks _ _

end ProcOp

end SystemScope.Os
