import Mathlib.Data.List.GetD
import Mathlib.Data.Nat.Init
import Mathlib.Tactic.Common

/-!
# Byte maps

A memory as a function from addresses to bytes, and what a schedule of writes leaves in a range of
it.  The data of a write may depend on the memory at that moment, as that of a copy does.  A write
is away from a range, or it covers the range and decides what is read there; once a covering write
has put something in a range, and every later write is away from it or agrees, it stays
(`ByteMap.read_after`).
-/

/-- A memory: a byte at each address. -/
abbrev ByteMap := ℕ → UInt8

namespace ByteMap

/-- A write: an address and the bytes to put there. -/
abbrev Write := ℕ × List UInt8

/-- What each step of a schedule writes, if anything. -/
abbrev Schedule := ByteMap → ℕ → Option Write

variable (m : ByteMap)

/-- The bytes of a range. -/
def read (addr len : ℕ) : List UInt8 := (List.range len).map fun i => m (addr + i)

/-- The memory after a write. -/
def write (addr : ℕ) (data : List UInt8) : ByteMap := fun a =>
  if addr ≤ a ∧ a < addr + data.length then data.getD (a - addr) 0 else m a

/-- The memory after a write, if there is one. -/
def put : Option Write → ByteMap
  | none => m
  | some w => m.write w.1 w.2

/-- The memory after the first steps of a schedule. -/
def after (f : Schedule) : ℕ → ByteMap
  | 0 => m
  | n + 1 => (after f n).put (f (after f n) n)

/-- The write does not touch the range. -/
def Away (w : Write) (addr len : ℕ) : Prop := w.1 + w.2.length ≤ addr ∨ addr + len ≤ w.1

/-- The write decides all of the range. -/
def Covers (w : Write) (addr len : ℕ) : Prop := w.1 ≤ addr ∧ addr + len ≤ w.1 + w.2.length

/-- What a write that covers a range puts there. -/
def slice (w : Write) (addr len : ℕ) : List UInt8 := (w.2.drop (addr - w.1)).take len

variable {m} {f : Schedule} {w : Write} {addr len n k : ℕ}

@[simp] lemma length_read (m : ByteMap) (addr len : ℕ) : (m.read addr len).length = len := by
  simp [read]

lemma read_congr {m' : ByteMap} (h : ∀ i < len, m (addr + i) = m' (addr + i)) :
    m.read addr len = m'.read addr len := by
  unfold read
  exact List.map_congr_left fun i hi => h i (List.mem_range.mp hi)

lemma Away.part {a l : ℕ} (h : Away w addr len) (ha : addr ≤ a) (hl : a + l ≤ addr + len) :
    Away w a l := by
  unfold Away at *
  omega

lemma away_or_covers (w : Write) (addr : ℕ) : Away w addr 1 ∨ Covers w addr 1 := by
  unfold Away Covers
  omega

lemma Covers.not_away (h : Covers w addr 1) : ¬Away w addr 1 := by
  unfold Away Covers at *
  omega

lemma covers_self (w : Write) : Covers w w.1 w.2.length := ⟨Nat.le_refl _, Nat.le_refl _⟩

lemma slice_self (w : Write) : slice w w.1 w.2.length = w.2 := by
  unfold slice
  rw [Nat.sub_self, List.drop_zero, List.take_length]

/-- A write of one byte over and over puts it in every range that it covers. -/
lemma slice_replicate {n a : ℕ} {b : UInt8} (h : Covers (a, List.replicate n b) addr len) :
    slice (a, List.replicate n b) addr len = List.replicate len b := by
  obtain ⟨h1, h2⟩ := h
  unfold slice
  rw [List.drop_replicate, List.take_replicate]
  congr 1
  simp only [List.length_replicate] at h1 h2
  omega

/-- A byte of a copy is the byte that was copied there. -/
lemma slice_read {dst src a : ℕ} (h : Covers (dst, m.read src len) a 1) :
    slice (dst, m.read src len) a 1 = [m (src + (a - dst))] := by
  obtain ⟨h1, h2⟩ := h
  simp only [read, List.length_map, List.length_range] at h1 h2
  unfold slice read
  rw [List.take_one]
  have hlt : a - dst < len := by omega
  simp [List.head?_drop, hlt]

lemma read_write_away (h : Away w addr len) :
    (m.write w.1 w.2).read addr len = m.read addr len := by
  refine read_congr fun i hi => ?_
  unfold write
  rw [if_neg]
  unfold Away at h
  omega

lemma read_write_covers (h : Covers w addr len) :
    (m.write w.1 w.2).read addr len = slice w addr len := by
  obtain ⟨h1, h2⟩ := h
  refine List.ext_getElem ?_ ?_
  · simp [slice]
    omega
  · intro i hi hi'
    rw [length_read] at hi
    simp only [read, slice, List.getElem_map, List.getElem_range, List.getElem_take,
      List.getElem_drop]
    unfold write
    rw [if_pos (by omega), List.getD_eq_getElem _ _ (by omega)]
    congr 1
    omega

/-- Bytes with some of them overwritten. -/
def overwrite (bs : List UInt8) (offset : ℕ) (data : List UInt8) : List UInt8 :=
  bs.take offset ++ data ++ bs.drop (offset + data.length)

lemma read_append (m : ByteMap) (addr a b : ℕ) :
    m.read addr (a + b) = m.read addr a ++ m.read (addr + a) b := by
  unfold read
  rw [List.range_add, List.map_append, List.map_map]
  simp only [Function.comp_def, Nat.add_assoc]

lemma read_drop_take {i l : ℕ} (h : i + l ≤ len) :
    ((m.read addr len).drop i).take l = m.read (addr + i) l := by
  obtain ⟨k, rfl⟩ := Nat.exists_eq_add_of_le h
  rw [Nat.add_assoc, read_append, List.drop_left' (length_read _ _ _), read_append,
    List.take_left' (length_read _ _ _)]

lemma getD_read {i : ℕ} (h : i < len) (d : UInt8) : (m.read addr len).getD i d = m (addr + i) := by
  rw [List.getD_eq_getElem _ _ (by rwa [length_read])]
  simp [read]

/-- A write into a range overwrites part of what is read there. -/
lemma read_write_within {offset : ℕ} {data : List UInt8} (h : offset + data.length ≤ len) :
    (m.write (addr + offset) data).read addr len = overwrite (m.read addr len) offset data := by
  obtain ⟨k, rfl⟩ := Nat.exists_eq_add_of_le h
  have hbefore : (m.write (addr + offset) data).read addr offset = m.read addr offset :=
    read_write_away (w := (addr + offset, data)) (.inr (Nat.le_refl _))
  have hat : (m.write (addr + offset) data).read (addr + offset) data.length = data :=
    (read_write_covers (covers_self (addr + offset, data))).trans (slice_self (addr + offset, data))
  have hafter : (m.write (addr + offset) data).read (addr + (offset + data.length)) k =
      m.read (addr + (offset + data.length)) k :=
    read_write_away (w := (addr + offset, data)) (.inl (by dsimp only; omega))
  rw [read_append, read_append, hbefore, hat, hafter]
  unfold overwrite
  have hall := m.read_append addr (offset + data.length) k
  rw [hall, List.drop_left' (length_read _ _ _), read_append, List.append_assoc _ (m.read _ _),
    List.take_left' (length_read _ _ _)]

@[simp] lemma put_none (m : ByteMap) : m.put none = m := rfl

@[simp] lemma put_some (m : ByteMap) (w : Write) : m.put (some w) = m.write w.1 w.2 := rfl

lemma after_of_none (h : f (m.after f n) n = none) : m.after f (n + 1) = m.after f n := by
  rw [after, h, put_none]

lemma after_of_some (h : f (m.after f n) n = some w) :
    m.after f (n + 1) = (m.after f n).write w.1 w.2 := by
  rw [after, h, put_some]

/-- Steps that are away from a range leave it as it is. -/
lemma read_after_away (hk : k ≤ n)
    (h : ∀ j, k ≤ j → j < n → ∀ w ∈ f (m.after f j) j, Away w addr len) :
    (m.after f n).read addr len = (m.after f k).read addr len := by
  induction n, hk using Nat.le_induction with
  | base => rfl
  | succ n hn ih =>
    rw [← ih fun j hj hlt => h j hj (Nat.lt_succ_of_lt hlt)]
    cases hw : f (m.after f n) n with
    | none => rw [after_of_none hw]
    | some w =>
      rw [after_of_some hw]
      exact read_write_away (h n hn (Nat.lt_succ_self n) w hw)

/-- A range holds what a step has put there, if the later steps are away from it or agree. -/
lemma read_after {P : List UInt8 → Prop} (hk : k < n)
    (hw : w ∈ f (m.after f k) k) (hcovers : Covers w addr len) (hP : P (slice w addr len))
    (h : ∀ j, k < j → j < n → ∀ w ∈ f (m.after f j) j,
      Away w addr len ∨ Covers w addr len ∧ P (slice w addr len)) :
    P ((m.after f n).read addr len) := by
  induction n, Nat.succ_le_of_lt hk using Nat.le_induction with
  | base =>
    rw [after_of_some hw, read_write_covers hcovers]
    exact hP
  | succ n hn ih =>
    have hbefore := ih (Nat.lt_of_succ_le hn) fun j hj hlt => h j hj (Nat.lt_succ_of_lt hlt)
    cases hw : f (m.after f n) n with
    | none => rwa [after_of_none hw]
    | some w =>
      rw [after_of_some hw]
      rcases h n (Nat.lt_of_succ_le hn) (Nat.lt_succ_self n) w hw with haway | ⟨hcovers, hP⟩
      · rwa [read_write_away haway]
      · rw [read_write_covers hcovers]
        exact hP

/-- A single byte, as a range. -/
lemma read_one (m : ByteMap) (addr : ℕ) : m.read addr 1 = [m addr] := rfl

/-- Part of a range that two memories agree on. -/
lemma read_sub {m' : ByteMap} {a l : ℕ} (h : m.read addr len = m'.read addr len) (ha : addr ≤ a)
    (hl : a + l ≤ addr + len) : m.read a l = m'.read a l := by
  refine read_congr fun i hi => ?_
  have hbyte := congrArg (fun bs => bs[a - addr + i]?) h
  simp only [read, List.getElem?_map] at hbyte
  rw [List.getElem?_range (by omega)] at hbyte
  simpa [show addr + (a - addr + i) = a + i by omega] using hbyte

end ByteMap
