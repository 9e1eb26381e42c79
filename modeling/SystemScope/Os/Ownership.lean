import Mathlib.Data.List.Nodup
import Mathlib.Data.List.Sort
import SystemScope.Os.Process

/-!
# Who owns which frame

The frame allocator of `Os/Process.lean` as a map from frames to owners (`Frames.owner`): what a
reservation and a release do to it, and when a list of frames is what a PID owns
(`Frames.Owns`). -/

namespace SystemScope.Os

namespace Frames

variable {f f' : Frames} {pid n i : ℕ} {ppn : UInt32} {ppns : List UInt32}

/-- The frames of the pool have 32-bit numbers. -/
def Numbered (f : Frames) : Prop := f.base.toNat + f.owners.length ≤ 2 ^ 32

lemma toNat_ppn (h : f.Numbered) (hi : i < f.owners.length) :
    (f.ppn i).toNat = f.base.toNat + i := by
  unfold Numbered at h
  unfold ppn
  rw [UInt32.toNat_add, UInt32.toNat_ofNat_of_lt' (show i < 2 ^ 32 by omega),
    Nat.mod_eq_of_lt (by omega)]

lemma index_eq_some : f.index ppn = some i ↔
    f.base.toNat ≤ ppn.toNat ∧ i = ppn.toNat - f.base.toNat ∧ i < f.owners.length := by
  unfold index
  constructor
  · intro h
    obtain ⟨⟨hle, hlt⟩, hi⟩ := Option.ite_none_right_eq_some.mp h
    cases hi
    exact ⟨UInt32.le_iff_toNat_le.mp hle, rfl, hlt⟩
  · rintro ⟨hle, rfl, hlt⟩
    rw [if_pos ⟨UInt32.le_iff_toNat_le.mpr hle, hlt⟩]

lemma index_ppn (h : f.Numbered) (hi : i < f.owners.length) : f.index (f.ppn i) = some i := by
  rw [index_eq_some, toNat_ppn h hi]
  omega

/-- A frame of the pool is the one with its index. -/
lemma ppn_index (h : f.Numbered) (hi : f.index ppn = some i) : f.ppn i = ppn := by
  obtain ⟨hle, hsub, hlt⟩ := index_eq_some.mp hi
  rw [← UInt32.toNat_inj, toNat_ppn h hlt]
  omega

/-- The owner of a frame, by its index. -/
lemma owner_eq_some (h : f.Numbered) {o : ℕ} :
    f.owner ppn = some o ↔ ∃ i, f.ppn i = ppn ∧ f.owners[i]? = some o := by
  unfold owner
  rw [Option.bind_eq_some_iff]
  constructor
  · rintro ⟨i, hi, howner⟩
    exact ⟨i, ppn_index h hi, howner⟩
  · rintro ⟨i, rfl, howner⟩
    obtain ⟨hlt, -⟩ := List.getElem?_eq_some_iff.mp howner
    exact ⟨i, index_ppn h hlt, howner⟩

lemma owner_ppn (h : f.Numbered) (hi : i < f.owners.length) : f.owner (f.ppn i) = f.owners[i]? := by
  unfold owner
  rw [index_ppn h hi]
  rfl

/-! ## Assigning -/

lemma getElem?_assign (indices : List ℕ) :
    (f.assign pid indices).owners[i]? =
      if i ∈ indices ∧ i < f.owners.length then some pid else f.owners[i]? := by
  unfold assign
  dsimp only
  generalize f.owners = owners
  induction indices generalizing owners with
  | nil => simp
  | cons j rest ih =>
    rw [List.foldl_cons, ih, List.length_set, List.getElem?_set]
    by_cases hrest : i ∈ rest ∧ i < owners.length
    · rw [if_pos hrest, if_pos ⟨List.mem_cons_of_mem _ hrest.1, hrest.2⟩]
    · rw [if_neg hrest]
      by_cases hj : j = i
      · subst hj
        by_cases hlt : j < owners.length
        · simp [hlt]
        · simp [hlt]
      · rw [if_neg hj, if_neg]
        rintro ⟨hmem, hlt⟩
        rcases List.mem_cons.mp hmem with heq | hmem
        · exact hj heq.symm
        · exact hrest ⟨hmem, hlt⟩

lemma length_assign (indices : List ℕ) :
    (f.assign pid indices).owners.length = f.owners.length := by
  unfold assign
  dsimp only
  generalize f.owners = owners
  induction indices generalizing owners with
  | nil => rfl
  | cons j rest ih => rw [List.foldl_cons, ih, List.length_set]

/-- Another pool with the same frames. -/
def SameFrames (f f' : Frames) : Prop := f'.base = f.base ∧ f'.owners.length = f.owners.length

lemma sameFrames_assign (indices : List ℕ) : f.SameFrames (f.assign pid indices) :=
  ⟨rfl, length_assign indices⟩

namespace SameFrames

variable (h : f.SameFrames f')

include h

lemma numbered (hf : f.Numbered) : f'.Numbered := by
  unfold Numbered
  rwa [h.1, h.2]

lemma ppn_eq (i : ℕ) : f'.ppn i = f.ppn i := by
  unfold Frames.ppn
  rw [h.1]

end SameFrames

/-- Assigning changes the owners of the frames with the given indices. -/
lemma owner_assign (h : f.Numbered) {indices : List ℕ} (hin : ∀ i ∈ indices, i < f.owners.length) :
    (f.assign pid indices).owner ppn =
      if ppn ∈ indices.map f.ppn then some pid else f.owner ppn := by
  have hsame : f.SameFrames (f.assign pid indices) := sameFrames_assign indices
  cases hindex : f.index ppn with
  | none =>
    have hnone : (f.assign pid indices).index ppn = none := by
      unfold index at hindex ⊢
      rw [hsame.1, hsame.2]
      exact hindex
    have hnot : ppn ∉ indices.map f.ppn := by
      intro hmem
      obtain ⟨i, hi, rfl⟩ := List.mem_map.mp hmem
      rw [index_ppn h (hin i hi)] at hindex
      cases hindex
    rw [if_neg hnot]
    unfold owner
    rw [hindex, hnone]
    rfl
  | some i =>
    obtain ⟨-, -, hlt⟩ := index_eq_some.mp hindex
    have hppn := ppn_index h hindex
    have hmem : ppn ∈ indices.map f.ppn ↔ i ∈ indices := by
      rw [List.mem_map]
      constructor
      · rintro ⟨j, hj, heq⟩
        have hj' := index_ppn h (hin j hj)
        rw [heq, hindex] at hj'
        rwa [Option.some.inj hj']
      · intro hi
        exact ⟨i, hi, hppn⟩
    rw [← hppn, ← hsame.ppn_eq i, owner_ppn (hsame.numbered h) (by rw [hsame.2]; exact hlt),
      getElem?_assign, hsame.ppn_eq i, owner_ppn h hlt, hppn]
    by_cases hi : i ∈ indices
    · rw [if_pos ⟨hi, hlt⟩, if_pos (hmem.mpr hi)]
    · rw [if_neg fun hall => hi hall.1, if_neg fun hin => hi (hmem.mp hin)]

/-! ## The frames of an owner -/

lemma mem_indicesOf : i ∈ f.indicesOf pid ↔ f.owners[i]? = some pid := by
  unfold indicesOf
  rw [List.mem_filter, List.mem_range]
  constructor
  · rintro ⟨-, h⟩
    simpa using h
  · intro h
    exact ⟨(List.getElem?_eq_some_iff.mp h).1, by simpa using h⟩

lemma mem_ownedBy (h : f.Numbered) : ppn ∈ f.ownedBy pid ↔ f.owner ppn = some pid := by
  unfold ownedBy
  rw [List.mem_map, owner_eq_some h]
  simp only [mem_indicesOf, and_comm]

lemma indicesOf_pairwise : (f.indicesOf pid).Pairwise (· < ·) :=
  List.pairwise_lt_range.filter _

/-- Frames are ascending with their indices. -/
lemma ppn_pairwise (h : f.Numbered) {indices : List ℕ} (hin : ∀ i ∈ indices, i < f.owners.length)
    (hindices : indices.Pairwise (· < ·)) : (indices.map f.ppn).Pairwise (· < ·) := by
  rw [List.pairwise_map]
  refine hindices.imp_of_mem ?_
  intro i j hi hj hij
  rw [UInt32.lt_iff_toNat_lt, toNat_ppn h (hin i hi), toNat_ppn h (hin j hj)]
  omega

lemma indicesOf_lt : ∀ i ∈ f.indicesOf pid, i < f.owners.length := by
  intro i hi
  exact (List.getElem?_eq_some_iff.mp (mem_indicesOf.mp hi)).1

lemma ownedBy_pairwise (h : f.Numbered) : (f.ownedBy pid).Pairwise (· < ·) :=
  ppn_pairwise h indicesOf_lt indicesOf_pairwise

/-- The frames are those of a PID, each once. -/
structure Owns (f : Frames) (pid : ℕ) (ppns : List UInt32) : Prop where
  nodup : ppns.Nodup
  mem_iff : ∀ ppn, ppn ∈ ppns ↔ f.owner ppn = some pid

lemma owns_ownedBy (h : f.Numbered) : f.Owns pid (f.ownedBy pid) where
  nodup := (ownedBy_pairwise h).imp UInt32.ne_of_lt
  mem_iff _ := mem_ownedBy h

lemma Owns.perm {ppns' : List UInt32} (h : f.Owns pid ppns) (h' : f.Owns pid ppns') :
    ppns.Perm ppns' :=
  (List.perm_ext_iff_of_nodup h.nodup h'.nodup).mpr fun ppn =>
    (h.mem_iff ppn).trans (h'.mem_iff ppn).symm

lemma Owns.of_perm {ppns' : List UInt32} (h : f.Owns pid ppns) (hperm : ppns.Perm ppns') :
    f.Owns pid ppns' where
  nodup := hperm.nodup_iff.mp h.nodup
  mem_iff ppn := hperm.mem_iff.symm.trans (h.mem_iff ppn)

/-! ## Reserving and releasing -/

/-- A reservation takes free frames, in ascending order, and changes the owner of these only. -/
structure Reserved (f : Frames) (pid n : ℕ) (ppns : List UInt32) (f' : Frames) : Prop where
  same : f.SameFrames f'
  length : ppns.length = n
  ascending : ppns.Pairwise (· < ·)
  free : ∀ ppn ∈ ppns, f.owner ppn = some 0
  owner : ∀ ppn, f'.owner ppn = if ppn ∈ ppns then some pid else f.owner ppn

lemma reserved_of_reserve (h : f.Numbered) (hreserve : f.reserve pid n = some (ppns, f')) :
    f.Reserved pid n ppns f' := by
  unfold reserve at hreserve
  dsimp only at hreserve
  obtain ⟨hlength, hsome⟩ := Option.ite_none_left_eq_some.mp hreserve
  cases hsome
  have hsub : (f.indicesOf 0).take n ⊆ f.indicesOf 0 := List.take_subset _ _
  have hin : ∀ i ∈ (f.indicesOf 0).take n, i < f.owners.length :=
    fun i hi => indicesOf_lt i (hsub hi)
  exact
    { same := sameFrames_assign _
      length := by
        rw [List.length_map]
        rw [List.length_take] at hlength ⊢
        omega
      ascending := ppn_pairwise h hin (indicesOf_pairwise.sublist (List.take_sublist _ _))
      free := by
        intro ppn hmem
        obtain ⟨i, hi, rfl⟩ := List.mem_map.mp hmem
        rw [owner_ppn h (hin i hi)]
        exact mem_indicesOf.mp (hsub hi)
      owner := fun ppn => owner_assign h hin }

lemma release_isOk (h : f.Numbered) (hpid : pid ≠ 0)
    (howned : ∀ ppn ∈ ppns, f.owner ppn = some pid) :
    ∃ f', f.release pid ppns = .ok f' ∧ f.SameFrames f' ∧
      ∀ ppn, f'.owner ppn = if ppn ∈ ppns then some 0 else f.owner ppn := by
  have hnone : ppns.findSome? (f.releaseError pid) = none := by
    rw [List.findSome?_eq_none_iff]
    intro ppn hppn
    unfold releaseError
    rw [howned ppn hppn]
    dsimp only
    rw [if_neg]
    rintro (hne | hzero)
    · exact hne rfl
    · exact hpid hzero
  refine ⟨f.assign 0 (ppns.filterMap f.index), ?_, sameFrames_assign _, ?_⟩
  · unfold release
    rw [hnone]
  · intro ppn
    have hin : ∀ i ∈ ppns.filterMap f.index, i < f.owners.length := by
      intro i hi
      obtain ⟨p, -, hindex⟩ := List.mem_filterMap.mp hi
      exact (index_eq_some.mp hindex).2.2
    have hmem : ppn ∈ (ppns.filterMap f.index).map f.ppn ↔ ppn ∈ ppns := by
      rw [List.mem_map]
      constructor
      · rintro ⟨i, hi, rfl⟩
        obtain ⟨p, hp, hindex⟩ := List.mem_filterMap.mp hi
        rwa [ppn_index h hindex]
      · intro hp
        obtain ⟨i, rfl, howner⟩ := (owner_eq_some h).mp (howned ppn hp)
        obtain ⟨hlt, -⟩ := List.getElem?_eq_some_iff.mp howner
        exact ⟨i, List.mem_filterMap.mpr ⟨_, hp, index_ppn h hlt⟩, rfl⟩
    rw [owner_assign h hin]
    by_cases hp : ppn ∈ ppns
    · rw [if_pos (hmem.mpr hp), if_pos hp]
    · rw [if_neg fun hin => hp (hmem.mp hin), if_neg hp]

/-! ## Packed pools -/

/-- The frames in use are the first ones of the pool. -/
def Packed (f : Frames) : Prop :=
  ∃ k ≤ f.owners.length, ∀ i < f.owners.length, f.owners[i]? = some 0 ↔ k ≤ i

/-- From a packed pool, consecutive frames are reserved, and it stays packed. -/
lemma Packed.reserved (h : f.Packed) (hpid : pid ≠ 0)
    (hreserve : f.reserve pid n = some (ppns, f')) :
    (∃ k, ppns = (List.range' k n).map f.ppn ∧ k + n ≤ f.owners.length) ∧ f'.Packed := by
  obtain ⟨k, hk, howners⟩ := h
  have hfree : f.indicesOf 0 = List.range' k (f.owners.length - k) := by
    have hsplit : List.range f.owners.length =
        List.range' 0 k ++ List.range' k (f.owners.length - k) := by
      have happend := List.range'_append_1 (s := 0) (m := k) (n := f.owners.length - k)
      rw [Nat.zero_add, Nat.add_sub_cancel' hk] at happend
      rw [List.range_eq_range', happend]
    unfold indicesOf
    rw [hsplit, List.filter_append, List.filter_eq_nil_iff.mpr, List.filter_eq_self.mpr,
      List.nil_append]
    · intro i hi
      obtain ⟨hle, hlt⟩ := List.mem_range'_1.mp hi
      exact decide_eq_true ((howners i (by omega)).mpr hle)
    · intro i hi
      obtain ⟨-, hlt⟩ := List.mem_range'_1.mp hi
      have hused := (howners i (by omega)).not.mpr (by omega)
      simpa using hused
  unfold reserve at hreserve
  dsimp only at hreserve
  obtain ⟨hlength, hsome⟩ := Option.ite_none_left_eq_some.mp hreserve
  rw [hfree, List.length_take, List.length_range'] at hlength
  have htake : (f.indicesOf 0).take n = List.range' k n := by
    rw [hfree, List.take_range'_of_length_ge (by omega)]
  rw [htake] at hsome
  cases hsome
  refine ⟨⟨k, rfl, by omega⟩, k + n, ?_, ?_⟩
  · rw [length_assign]
    omega
  · intro i hi
    rw [length_assign] at hi
    rw [getElem?_assign]
    by_cases hin : i ∈ List.range' k n
    · rw [if_pos ⟨hin, hi⟩, Option.some_inj]
      rw [List.mem_range'_1] at hin
      omega
    · rw [if_neg fun hboth => hin hboth.1, howners i hi]
      rw [List.mem_range'_1] at hin
      omega

end Frames

end SystemScope.Os
