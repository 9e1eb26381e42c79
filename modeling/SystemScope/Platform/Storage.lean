import SystemScope.Contracts.SnapshotData
import SystemScope.Framework.SparseMap

/-!
# Sparse storage

What `components/platform/src/ram.rs` and `components/platform/src/media.rs` share: a map of
fixed-size cells (pages or blocks) that stores no cell of zeros.

Both write their cells by ascending index, length-prefixed.  `readCells_reads` says what a restore
of cells accepts: every map of nonzero cells within bounds, and nothing else.
-/

namespace SystemScope.Platform

open Std (ExtTreeMap)

/-! ## Cells -/

/-- A cell of a storage. -/
abbrev Cell (n : ℕ) := Vector UInt8 n

namespace Cell

variable {n : ℕ}

/-- A cell of zeros. -/
def zero (n : ℕ) : Cell n := Vector.replicate n 0

/-- Every byte is zero. -/
def isZero (cell : Cell n) : Bool := cell.toList.all (· = 0)

/-- `copy_from_slice` into the middle of a cell. -/
def overlay (cell : Cell n) (start : ℕ) (bytes : Bytes) : Cell n :=
  Vector.ofFn fun i =>
    if start ≤ i ∧ i < start + bytes.length then bytes.getD (i - start) 0 else cell.get i

/-- A cell of bytes of the right length. -/
def ofBytes? (n : ℕ) (bytes : Bytes) : Option (Cell n) :=
  if h : bytes.length = n then some ⟨bytes.toArray, by simpa using h⟩ else none

@[simp] lemma get_zero (i : Fin n) : (zero n).get i = 0 := Vector.getElem_replicate _

@[simp] lemma get_overlay (cell : Cell n) (start : ℕ) (bytes : Bytes) (i : Fin n) :
    (cell.overlay start bytes).get i =
      if start ≤ i ∧ i < start + bytes.length then bytes.getD (i - start) 0 else cell.get i := by
  simp [overlay, Vector.get_eq]

lemma isZero_iff {cell : Cell n} : cell.isZero ↔ cell = zero n := by
  rw [isZero, List.all_eq_true]
  simp only [Vector.mem_toList_iff_get, decide_eq_true_eq]
  constructor
  · intro h
    exact Vector.ext_get fun i => by rw [h _ ⟨i, rfl⟩, get_zero]
  · rintro rfl _ ⟨i, rfl⟩
    exact get_zero i

/-- Zeros over zeros. -/
lemma overlay_zero {start : ℕ} {bytes : Bytes} (h : ∀ b ∈ bytes, b = 0) :
    (zero n).overlay start bytes = zero n := by
  refine Vector.ext_get fun i => ?_
  rw [get_overlay, get_zero]
  by_cases hi : start ≤ i ∧ i < start + bytes.length
  · rw [if_pos hi, List.getD_eq_getElem?_getD,
      List.getElem?_eq_getElem (show i - start < bytes.length by omega), Option.getD_some]
    exact h _ (List.getElem_mem _)
  · rw [if_neg hi]

lemma ofBytes?_eq_some {bytes : Bytes} {cell : Cell n} :
    ofBytes? n bytes = some cell ↔ bytes = cell.toList := by
  unfold ofBytes?
  constructor
  · intro h
    split_ifs at h with hlength
    rw [← Option.some.inj h]
    rfl
  · rintro rfl
    rw [dif_pos (by simp)]
    rfl

end Cell

/-! ## Snapshots of cells -/

/-- What a restore of cells calls the cells it refuses. -/
structure CellErrors where
  order : String
  pastEnd : String
  length : String
  zero : String

section

variable {κ : Type} [Ord κ] [Std.TransOrd κ] [LE κ] [DecidableLE κ] {n : ℕ} [SnapshotData]

open SnapshotData SnapshotField Restoring

def cellParts (key : SnapshotField κ) (e : κ × Cell n) : List (Option Bytes) :=
  [key.part e.1, bytes.encode e.2.toList]

/-- The cells, by ascending index. -/
def cellsParts (key : SnapshotField κ) (cells : ExtTreeMap κ (Cell n)) : List (Option Bytes) :=
  len.encode cells.size :: cells.toList.flatMap (cellParts key)

/-- Reads a cell that comes after the previous one.  `check` is what else the storage refuses. -/
def readCell (key : SnapshotField κ) (errors : CellErrors) (inRange : κ → Bool)
    (check : κ → Cell n → Option String) (previous : Option κ) : Restoring (κ × Cell n) := do
  let index ← field key
  if previous.any fun p => index ≤ p then invalid errors.order
  else if !inRange index then invalid errors.pastEnd
  else
    match Cell.ofBytes? n (← data bytes) with
    | none => invalid errors.length
    | some cell =>
      if cell.isZero then invalid errors.zero
      else
        match check index cell with
        | some what => invalid what
        | none => return (index, cell)

def readCells (key : SnapshotField κ) (errors : CellErrors) (inRange : κ → Bool)
    (check : κ → Cell n → Option String) : Restoring (ExtTreeMap κ (Cell n)) := do
  let count ← data len
  let cells ← Parser.entries (readCell key errors inRange check) count none
  return ExtTreeMap.ofList cells

/-- A cell that a restore accepts. -/
structure Acceptable (inRange : κ → Bool) (check : κ → Cell n → Option String)
    (e : κ × Cell n) : Prop where
  inRange : inRange e.1
  ne_zero : e.2 ≠ Cell.zero n
  check : check e.1 e.2 = none

variable [LT κ] [Std.LawfulOrderOrd κ] [Std.LawfulOrderLT κ] {key : SnapshotField κ}
  {errors : CellErrors} {inRange : κ → Bool} {check : κ → Cell n → Option String}

open SparseMap in
omit [Std.TransOrd κ] in
lemma readCell_reads (hstrict : SnapshotData.Strict)
    (hkey : Reads key.read (fun _ => True) key.write) (previous : Option κ) :
    ReadsParts (readCell key errors inRange check previous)
      (fun e => After previous e.1 ∧ Acceptable inRange check e) (cellParts key) := by
  intro bs e rest
  unfold readCell cellParts
  simp only [writes_cons_cons, (field_reads hkey).bind_eq_ok, true_and]
  constructor
  · intro ⟨index, r, hw, h⟩
    split_ifs at h with horder hrange
    · exact absurd h (by simp)
    · exact absurd h (by simp)
    · rw [(data_reads hstrict.bytes).bind_eq_ok] at h
      obtain ⟨found, r', -, hw', h⟩ := h
      cases hcell : Cell.ofBytes? n found with
      | none => simp [hcell] at h
      | some cell =>
        simp only [hcell] at h
        split_ifs at h with hzero
        · exact absurd h (by simp)
        · cases hcheck : check index cell with
          | some what => simp [hcheck] at h
          | none =>
            rw [hcheck] at h
            obtain ⟨rfl, rfl⟩ := Parser.pure_eq_ok.mp h
            obtain rfl := Cell.ofBytes?_eq_some.mp hcell
            refine ⟨⟨any_le_eq_false_iff.mp (by simpa using horder), by simpa using hrange,
              fun heq => hzero (Cell.isZero_iff.mpr heq), hcheck⟩, r, hw, hw'⟩
  · intro ⟨⟨hprevious, haccept⟩, r, hw, hw'⟩
    have hcell : Cell.ofBytes? n e.2.toList = some e.2 := Cell.ofBytes?_eq_some.mpr rfl
    refine ⟨e.1, r, hw, ?_⟩
    rw [if_neg (by simp [any_le_eq_false_iff.mpr hprevious]), if_neg (by simp [haccept.inRange]),
      (data_reads hstrict.bytes).bind_eq_ok]
    refine ⟨e.2.toList, rest, trivial, hw', ?_⟩
    simp only [hcell]
    rw [if_neg fun hzero => haccept.ne_zero (Cell.isZero_iff.mp hzero), haccept.check]
    exact Parser.pure_eq_ok.mpr ⟨rfl, rfl⟩

lemma readCells_reads [Std.LawfulEqOrd κ] (hstrict : SnapshotData.Strict)
    (hkey : Reads key.read (fun _ => True) key.write) :
    ReadsParts (readCells key errors inRange check)
      (fun cells => ∀ (index : κ) (cell : Cell n), cells[index]? = some cell →
        Acceptable inRange check (index, cell)) (cellsParts key) :=
  have hcell : ∀ previous, ReadsParts (readCell key errors inRange check previous) _ _ :=
    readCell_reads hstrict hkey
  ReadsParts.map (data_reads hstrict.len) hcell

end

end SystemScope.Platform
