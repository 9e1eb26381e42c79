import SystemScope.Framework.ByteMap
import SystemScope.Os.ProcOp

/-!
# The accesses of a creation

The creation of an address space as a sequence of steps.  A step zeroes 16 bytes of a frame, reads
or writes a piece of a copy, or writes an entry (`Space.step_cases`); from that comes its access,
what it writes (`Space.effect`), and what an operation does that is answered from a memory
(`ProcOp.exchanges_creation`).
-/

namespace SystemScope.Os

open Elf

/-! ## The pieces of a copy -/

/-- A piece is a part of the copy, of at most 16 bytes, and crosses no page on either side. -/
lemma mem_splitCopy {src dst len : ℕ} {c : ℕ × ℕ × ℕ} (h : c ∈ splitCopy src dst len) :
    ∃ o, c.1 = src + o ∧ c.2.1 = dst + o ∧ 0 < c.2.2 ∧ o + c.2.2 ≤ len ∧ c.2.2 ≤ maxAccess ∧
      c.1 % pageBytes + c.2.2 ≤ pageBytes ∧ c.2.1 % pageBytes + c.2.2 ≤ pageBytes := by
  induction src, dst, len using splitCopy.induct with
  | case1 src dst =>
    unfold splitCopy at h
    simp at h
  | case2 src dst len hlen hpos ih =>
    rw [splitCopy, dif_neg hlen] at h
    rcases List.mem_cons.mp h with rfl | h
    · refine ⟨0, rfl, rfl, hpos, ?_⟩
      unfold pieceLen maxAccess pageBytes
      dsimp only
      omega
    · obtain ⟨o, hsrc, hdst, hpos', hle, hrest⟩ := ih h
      have hpiece : pieceLen src dst len ≤ len := by
        unfold pieceLen
        omega
      exact ⟨pieceLen src dst len + o, by omega, by omega, hpos', by omega, hrest⟩

lemma exists_piece {src dst len i : ℕ} (hi : i < len) :
    ∃ o l, (src + o, dst + o, l) ∈ splitCopy src dst len ∧ o ≤ i ∧ i < o + l := by
  induction src, dst, len using splitCopy.induct generalizing i with
  | case1 src dst => omega
  | case2 src dst len hlen hpos ih =>
    rw [splitCopy, dif_neg hlen]
    by_cases hfirst : i < pieceLen src dst len
    · exact ⟨0, _, List.mem_cons_self, Nat.zero_le i, by omega⟩
    · have hrest : i - pieceLen src dst len < len - pieceLen src dst len := by omega
      obtain ⟨o, l, hmem, hle, hlt⟩ := ih hrest
      refine ⟨pieceLen src dst len + o, l, List.mem_cons_of_mem _ ?_, by omega, by omega⟩
      rwa [← Nat.add_assoc, ← Nat.add_assoc]

/-- How many page boundaries a range of some length crosses. -/
def crossings (start len : ℕ) : ℕ := (start % pageBytes + (len - 1)) / pageBytes

/-- A piece that stays in its page does not add a crossing to the rest, and one that ends the page
takes one away. -/
lemma crossings_rest {start len p : ℕ} (hpos : 0 < p) (hp : p < len)
    (hpage : p ≤ pageBytes - start % pageBytes) :
    crossings (start + p) (len - p) + (if p = pageBytes - start % pageBytes then 1 else 0) ≤
      crossings start len := by
  unfold crossings pageBytes at *
  by_cases hend : p = 4096 - start % 4096
  · have hmod : (start + p) % 4096 = 0 := by omega
    rw [if_pos hend, hmod]
    omega
  · have hmod : (start + p) % 4096 = start % 4096 + p := by omega
    rw [if_neg hend, hmod]
    omega

/-- The number of pieces: each is full, ends a page, or ends the copy. -/
lemma length_splitCopy (src dst len : ℕ) :
    (splitCopy src dst len).length ≤ (len + 15) / maxAccess + crossings src len +
      crossings dst len := by
  induction src, dst, len using splitCopy.induct with
  | case1 src dst =>
    unfold splitCopy
    simp
  | case2 src dst len hlen hpos ih =>
    rw [splitCopy, dif_neg hlen, List.length_cons]
    refine (Nat.succ_le_succ ih).trans ?_
    have hpiece : pieceLen src dst len =
        min (min (min len maxAccess) (pageBytes - src % pageBytes))
          (pageBytes - dst % pageBytes) := rfl
    generalize pieceLen src dst len = p at *
    unfold maxAccess at *
    by_cases hlast : p = len
    · subst hlast
      have hnone : (0 + 15) / 16 + 0 + 0 + 1 ≤ (p + 15) / 16 + 0 + 0 := by omega
      rw [Nat.sub_self]
      have h0 (q : ℕ) : crossings q 0 = 0 := by
        unfold crossings pageBytes
        omega
      rw [h0, h0]
      omega
    · have hlt : p < len := by omega
      have hsrc := crossings_rest hpos hlt (show p ≤ pageBytes - src % pageBytes by omega)
      have hdst := crossings_rest hpos hlt (show p ≤ pageBytes - dst % pageBytes by omega)
      by_cases hs : p = pageBytes - src % pageBytes
      · rw [if_pos hs] at hsrc
        omega
      · by_cases hd : p = pageBytes - dst % pageBytes
        · rw [if_pos hd] at hdst
          omega
        · omega

namespace Space

variable (s : Space)

/-- The step at which the entries begin. -/
def entryStart : ℕ := s.zeroSteps + 2 * s.copies.length

/-- Every step zeroes a part of a frame, reads or writes a piece of a copy, or writes an entry. -/
lemma step_cases {k : ℕ} (hk : k < s.accesses) :
    (∃ f i frame, s.frames[f]? = some frame ∧ i < perFrame ∧ k = f * perFrame + i) ∨
      (∃ j c, s.copies[j]? = some c ∧ k = s.zeroSteps + 2 * j) ∨
      (∃ j c, s.copies[j]? = some c ∧ k = s.zeroSteps + (2 * j + 1)) ∨
      ∃ i e, s.ptes[i]? = some e ∧ k = s.entryStart + i := by
  by_cases hzero : k < s.zeroSteps
  · unfold zeroSteps perFrame pageBytes maxAccess at hzero
    have hf : k / 256 < s.frames.length := by omega
    refine .inl ⟨k / 256, k % 256, _, List.getElem?_eq_getElem hf, ?_⟩
    unfold perFrame pageBytes maxAccess
    omega
  · by_cases hcopy : (k - s.zeroSteps) / 2 < s.copies.length
    · have hget := List.getElem?_eq_getElem hcopy
      by_cases heven : (k - s.zeroSteps) % 2 = 0
      · exact .inr (.inl ⟨_, _, hget, by omega⟩)
      · exact .inr (.inr (.inl ⟨_, _, hget, by omega⟩))
    · unfold accesses at hk
      have hentry : k - s.entryStart < s.ptes.length := by
        unfold entryStart
        omega
      refine .inr (.inr (.inr ⟨_, _, List.getElem?_eq_getElem hentry, ?_⟩))
      unfold entryStart
      omega

section Access

variable {s} {f i j : ℕ} {frame : UInt32} {c : ℕ × ℕ × ℕ} {e : ℕ × UInt32}

lemma zero_lt (hf : s.frames[f]? = some frame) (hi : i < perFrame) :
    f * perFrame + i < s.zeroSteps := by
  obtain ⟨hlt, -⟩ := List.getElem?_eq_some_iff.mp hf
  unfold zeroSteps perFrame pageBytes maxAccess at *
  omega

lemma access_zero (hf : s.frames[f]? = some frame) (hi : i < perFrame) (data : Bytes) :
    s.access (f * perFrame + i) data =
      some (.write (frame.toNat * pageBytes + i * maxAccess) (List.replicate maxAccess 0)) := by
  have hlt := zero_lt hf hi
  have hdiv : (f * perFrame + i) / perFrame = f := by
    unfold perFrame pageBytes maxAccess at *
    omega
  have hmod : (f * perFrame + i) % perFrame = i := by
    unfold perFrame pageBytes maxAccess at *
    omega
  rw [access, if_pos hlt, hdiv, hmod, hf]
  rfl

lemma access_read (hc : s.copies[j]? = some c) (data : Bytes) :
    s.access (s.zeroSteps + 2 * j) data = some (.read c.1 c.2.2) := by
  have hdiv : (s.zeroSteps + 2 * j - s.zeroSteps) / 2 = j := by omega
  unfold access
  rw [if_neg (by omega)]
  dsimp only
  rw [hdiv, hc]
  simp

lemma access_write (hc : s.copies[j]? = some c) (data : Bytes) :
    s.access (s.zeroSteps + (2 * j + 1)) data = some (.write c.2.1 data) := by
  have hdiv : (s.zeroSteps + (2 * j + 1) - s.zeroSteps) / 2 = j := by omega
  unfold access
  rw [if_neg (by omega)]
  dsimp only
  rw [hdiv, hc]
  dsimp only
  rw [if_neg (by omega)]

lemma access_entry (he : s.ptes[i]? = some e) (data : Bytes) :
    s.access (s.entryStart + i) data = some (.write e.1 (wordBytes e.2)) := by
  have hnone : s.copies[(s.entryStart + i - s.zeroSteps) / 2]? = none := by
    rw [List.getElem?_eq_none_iff]
    unfold entryStart
    omega
  have hsub : s.entryStart + i - s.zeroSteps - 2 * s.copies.length = i := by
    unfold entryStart
    omega
  unfold access
  rw [if_neg (by unfold entryStart; omega)]
  dsimp only
  rw [hnone, hsub, he]
  rfl

end Access

/-- The bytes that an operation works on at a step: those of a copy between its read and its
write. -/
def held (m : ByteMap) (k : ℕ) : Bytes :=
  if k < s.zeroSteps then []
  else
    match s.copies[(k - s.zeroSteps) / 2]? with
    | some c => if (k - s.zeroSteps) % 2 = 1 then m.read c.1 c.2.2 else []
    | none => []

/-- What a step writes. -/
def effect : ByteMap.Schedule := fun m k =>
  match s.access k (s.held m k) with
  | some (.write addr data) => some (addr, data)
  | _ => none

section Held

variable {s} {m : ByteMap} {f i j k : ℕ} {frame : UInt32} {c : ℕ × ℕ × ℕ} {e : ℕ × UInt32}

lemma length_held (m : ByteMap) (k : ℕ) : (s.held m k).length = s.dataLen k := by
  unfold held dataLen
  by_cases hzero : k < s.zeroSteps
  · rw [if_pos hzero, if_pos hzero]
    rfl
  · rw [if_neg hzero, if_neg hzero]
    cases s.copies[(k - s.zeroSteps) / 2]? with
    | none => rfl
    | some c =>
      by_cases hodd : (k - s.zeroSteps) % 2 = 1
      · simp [hodd]
      · simp [hodd]

lemma held_zero (h : k ≤ s.zeroSteps) : s.held m k = [] := by
  unfold held
  by_cases hlt : k < s.zeroSteps
  · rw [if_pos hlt]
  · rw [if_neg hlt, Nat.le_antisymm h (Nat.not_lt.mp hlt), Nat.sub_self]
    cases s.copies[0 / 2]? with
    | none => rfl
    | some c => rfl

lemma held_even (j : ℕ) : s.held m (s.zeroSteps + 2 * j) = [] := by
  unfold held
  rw [if_neg (by omega), show s.zeroSteps + 2 * j - s.zeroSteps = 2 * j by omega]
  cases s.copies[2 * j / 2]? with
  | none => rfl
  | some c =>
    dsimp only
    rw [if_neg (by omega)]

lemma held_odd (hc : s.copies[j]? = some c) :
    s.held m (s.zeroSteps + (2 * j + 1)) = m.read c.1 c.2.2 := by
  unfold held
  rw [if_neg (by omega), show s.zeroSteps + (2 * j + 1) - s.zeroSteps = 2 * j + 1 by omega,
    show (2 * j + 1) / 2 = j by omega, hc]
  dsimp only
  rw [if_pos (by omega)]

lemma held_entry (i : ℕ) : s.held m (s.entryStart + i) = [] := by
  unfold held
  rw [if_neg (by unfold entryStart; omega)]
  have hnone : s.copies[(s.entryStart + i - s.zeroSteps) / 2]? = none := by
    rw [List.getElem?_eq_none_iff]
    unfold entryStart
    omega
  rw [hnone]

lemma effect_zero (hf : s.frames[f]? = some frame) (hi : i < perFrame) :
    s.effect m (f * perFrame + i) =
      some (frame.toNat * pageBytes + i * maxAccess, List.replicate maxAccess 0) := by
  unfold effect
  rw [access_zero hf hi]

lemma effect_read (hc : s.copies[j]? = some c) : s.effect m (s.zeroSteps + 2 * j) = none := by
  unfold effect
  rw [access_read hc]

lemma effect_write (hc : s.copies[j]? = some c) :
    s.effect m (s.zeroSteps + (2 * j + 1)) = some (c.2.1, m.read c.1 c.2.2) := by
  unfold effect
  rw [access_write hc, held_odd hc]

lemma effect_entry (he : s.ptes[i]? = some e) :
    s.effect m (s.entryStart + i) = some (e.1, wordBytes e.2) := by
  unfold effect
  rw [access_entry he]

end Held

end Space

/-! ## Answers from a memory -/

/-- The answer of a memory to an access, and the memory after it. -/
def answer (m : ByteMap) : Access → Completion × ByteMap
  | .read addr len => (.data (m.read addr len), m)
  | .write addr data => (.written, m.write addr data)

namespace ProcOp

variable (config : KernelConfig)

/-- Sends the access that is due and takes its answer from a memory; nothing if no access is due. -/
def exchange (x : ProcOp × ByteMap) : Except Panic (Option (ProcOp × ByteMap)) := do
  match ← x.1.access config with
  | none => return none
  | some a =>
    match ← x.1.complete config (answer x.2 a).1 with
    | .error _ => return none
    | .ok o => return some (o, (answer x.2 a).2)

/-- Exchanges a number of accesses. -/
def exchanges : ℕ → ProcOp × ByteMap → Except Panic (Option (ProcOp × ByteMap))
  | 0, x => .ok (some x)
  | n + 1, x => do
    match ← exchange config x with
    | none => return none
    | some y => exchanges n y

end ProcOp

/-- The address space that a stage builds. -/
def Stage.space : Stage → Option Space
  | create _ space | load _ _ _ space => some space
  | _ => none

namespace ProcOp

variable {config : KernelConfig} {stage : Stage} {s : Space} {m : ByteMap} {k n : ℕ}

/-- An operation that builds an address space, at a step that a memory has taken it to. -/
def building (stage : Stage) (s : Space) (m : ByteMap) (k : ℕ) : ProcOp :=
  { stage, step := k, data := s.held m k }

section Building

variable (hstage : stage.space = some s)

include hstage

lemma access_building (data : Bytes) :
    access config { stage, step := k, data } = .ok (s.access k data) := by
  unfold Stage.space at hstage
  split at hstage
  · cases hstage
    rfl
  · cases hstage
    rfl
  · cases hstage

lemma steps_building (hsteps : s.accesses < 2 ^ 32) (data : Bytes) :
    steps config { stage, step := k, data } = .ok s.accesses := by
  have hspace : s.steps = .ok s.accesses := if_pos hsteps
  unfold Stage.space at hstage
  split at hstage
  · cases hstage
    exact hspace
  · cases hstage
    exact hspace
  · cases hstage

lemma isFinished_building (hsteps : s.accesses < 2 ^ 32) :
    isFinished config (building stage s m s.accesses) = .ok true := by
  unfold isFinished building
  rw [steps_building hstage hsteps]
  simp [bind, Except.bind, pure, Except.pure]

lemma dataLen_building (data : Bytes) (step : ℕ) :
    dataLen config { stage, step := k, data } step = s.dataLen step := by
  unfold Stage.space at hstage
  split at hstage
  · cases hstage
    rfl
  · cases hstage
    rfl
  · cases hstage

lemma next_building (hsteps : s.accesses < 2 ^ 32) (held data : Bytes) :
    next config { stage, step := k, data := held } data =
      .ok { stage, step := k + 1,
            data :=
              if k + 1 < s.accesses ∧ data.length ≠ s.dataLen (k + 1) then [] else data } := by
  unfold next
  dsimp only
  rw [steps_building hstage hsteps, dataLen_building hstage]
  by_cases hdrop : k + 1 < s.accesses ∧ data.length ≠ s.dataLen (k + 1)
  · rw [if_pos hdrop]
    simp only [bind, Except.bind, pure, Except.pure, if_pos hdrop]
  · rw [if_neg hdrop]
    simp only [bind, Except.bind, pure, Except.pure, if_neg hdrop]

/-- One exchange of a creation: the memory takes the effect of the step. -/
lemma exchange_building (hsteps : s.accesses < 2 ^ 32) (hptes : s.ptes ≠ []) (hk : k < s.accesses) :
    exchange config (building stage s m k, m) =
      .ok (some (building stage s (m.put (s.effect m k)) (k + 1), m.put (s.effect m k))) := by
  have hlast : 0 < s.ptes.length := List.length_pos_iff.mpr hptes
  unfold exchange building
  simp only [complete, access_building hstage, bind, Except.bind]
  rcases s.step_cases hk with
    ⟨f, i, frame, hf, hi, rfl⟩ | ⟨j, c, hc, rfl⟩ | ⟨j, c, hc, rfl⟩ | ⟨i, e, he, rfl⟩
  · have hlt := Space.zero_lt hf hi
    rw [Space.held_zero (Nat.le_of_lt hlt), Space.held_zero hlt, Space.access_zero hf hi,
      Space.effect_zero hf hi]
    simp only [answer, answered, next_building hstage hsteps, ite_self, ByteMap.put_some, pure,
      Except.pure]
  · have hodd := Space.held_odd (m := m) hc
    have hlength := Space.length_held (s := s) m (s.zeroSteps + (2 * j + 1))
    rw [hodd, ByteMap.length_read] at hlength
    rw [Space.held_even, Nat.add_assoc, Space.access_read hc, Space.effect_read hc,
      ByteMap.put_none, hodd]
    simp only [answer, answered, ByteMap.length_read, ne_eq, not_true_eq_false, if_false,
      List.nil_append, next_building hstage hsteps, Nat.add_assoc]
    rw [if_neg fun h => h.2 hlength]
    rfl
  · have hnext : s.zeroSteps + (2 * j + 1) + 1 < s.accesses := by
      obtain ⟨hlt, -⟩ := List.getElem?_eq_some_iff.mp hc
      unfold Space.accesses
      omega
    have heven (m : ByteMap) : s.held m (s.zeroSteps + (2 * j + 1) + 1) = [] := by
      rw [show s.zeroSteps + (2 * j + 1) + 1 = s.zeroSteps + 2 * (j + 1) by omega]
      exact Space.held_even (j + 1)
    have hzero := Space.length_held (s := s) m (s.zeroSteps + (2 * j + 1) + 1)
    rw [heven] at hzero
    rw [Space.held_odd hc, heven, Space.access_write hc, Space.effect_write hc]
    simp only [answer, answered, next_building hstage hsteps, ByteMap.put_some]
    have hdropped : (if s.zeroSteps + (2 * j + 1) + 1 < s.accesses ∧ (m.read c.1 c.2.2).length ≠
        s.dataLen (s.zeroSteps + (2 * j + 1) + 1) then [] else m.read c.1 c.2.2) = [] := by
      rw [← hzero]
      by_cases hlen : (m.read c.1 c.2.2).length = 0
      · rw [List.length_eq_zero_iff.mp hlen, ite_self]
      · rw [if_pos ⟨hnext, hlen⟩]
    rw [hdropped]
    simp only [pure, Except.pure]
  · rw [Space.held_entry, Nat.add_assoc, Space.held_entry, Space.access_entry he,
      Space.effect_entry he]
    simp only [answer, answered, next_building hstage hsteps, ite_self, ByteMap.put_some,
      Nat.add_assoc, pure, Except.pure]

lemma exchanges_building (hsteps : s.accesses < 2 ^ 32) (hptes : s.ptes ≠ [])
    (hk : k + n ≤ s.accesses) :
    exchanges config n (building stage s (m.after s.effect k) k, m.after s.effect k) =
      .ok (some (building stage s (m.after s.effect (k + n)) (k + n),
        m.after s.effect (k + n))) := by
  induction n generalizing k with
  | zero => rfl
  | succ n ih =>
    rw [exchanges, exchange_building hstage hsteps hptes (by omega)]
    have hrest := ih (k := k + 1) (by omega)
    rw [show k + 1 + n = k + (n + 1) by omega] at hrest
    exact hrest

/-- The first accesses of a creation, answered from a memory, leave what its steps write. -/
theorem exchanges_creation (hsteps : s.accesses < 2 ^ 32) (hptes : s.ptes ≠ [])
    (hn : n ≤ s.accesses) :
    exchanges config n (.new stage, m) =
      .ok (some (building stage s (m.after s.effect n) n, m.after s.effect n)) := by
  have hstart : .new stage = building stage s m 0 := by
    unfold building new
    rw [Space.held_zero (Nat.zero_le _)]
  have hrun :
    exchanges config n (building stage s (m.after s.effect 0) 0, m.after s.effect 0) = _ :=
    exchanges_building hstage hsteps hptes (by omega)
  rw [Nat.zero_add] at hrun
  rw [hstart]
  exact hrun

end Building

end ProcOp

end SystemScope.Os
