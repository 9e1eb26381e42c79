import SystemScope.Contracts.Histories
import SystemScope.Platform.Ram

/-!
# The contents of the RAM

Pages are read and written as the bytes of one flat array.  Byte `position index k` of the array is
byte `k` of page `index`; `get_value_storeFrom` and `loadFrom_eq` say what `store` and `load` do in
these terms, across page boundaries.

A RAM is `Sound` if it stores no page of zeros and nothing past its end.  The pages of a sound RAM
are determined by its contents (`Sound.pages_eq`).
-/

namespace SystemScope

namespace Platform

open MemV1
open Std (ExtTreeMap)
open SparseMap (value Canonical put)

/-- Where a byte of a page lies in the RAM. -/
def position (index : UInt32) (k : Fin pageSize) : ℕ := index.toNat * pageSize + k

/-- Where an offset lies in its page. -/
def pageOffset (offset : ℕ) : Fin pageSize := ⟨offset % pageSize, Nat.mod_lt _ (by decide)⟩

lemma toNat_pageIndex {offset : ℕ} (h : offset < 2 ^ 32) :
    (pageIndex offset).toNat = offset / pageSize := by
  refine UInt32.toNat_ofNat_of_lt' ?_
  exact (Nat.div_le_self _ _).trans_lt h

lemma position_pageIndex {offset : ℕ} (h : offset < 2 ^ 32) :
    position (pageIndex offset) (pageOffset offset) = offset := by
  rw [position, toNat_pageIndex h]
  exact Nat.div_add_mod' offset pageSize

lemma pageIndex_position {index : UInt32} {k : Fin pageSize} :
    pageIndex (position index k) = index ∧ pageOffset (position index k) = k := by
  have hk := k.isLt
  unfold pageIndex pageOffset position
  constructor
  · rw [Nat.add_comm, Nat.add_mul_div_right _ _ (by decide), Nat.div_eq_of_lt hk, Nat.zero_add]
    exact UInt32.ofNat_toNat
  · refine Fin.ext ?_
    rw [Nat.add_comm]
    exact (Nat.add_mul_mod_self_right _ _ _).trans (Nat.mod_eq_of_lt hk)

namespace Ram

variable {pages : ExtTreeMap UInt32 Page}

/-! ## Storing -/

/-- A chunk inside a page changes the page in the table, whichever branch does it. -/
lemma storeChunk_eq {index : UInt32} {start : ℕ} {chunk : Bytes}
    (hfits : start + chunk.length ≤ pageSize) :
    storeChunk pages index start chunk = put (Cell.zero pageSize) pages index
      ((value (Cell.zero pageSize) pages index).overlay start chunk) := by
  unfold storeChunk put
  cases hpage : pages[index]? with
  | some page =>
    rw [SparseMap.value_of_getElem? hpage]
    simp only [Cell.isZero_iff]
  | none =>
    rw [SparseMap.value_of_getElem?_none hpage]
    by_cases hzero : ∀ b ∈ chunk, b = 0
    · -- The vacant page stays away, and erasing what is not there changes nothing.
      rw [if_neg (by simpa using hzero), Cell.overlay_zero hzero, if_pos rfl]
      refine ExtTreeMap.ext_getElem? fun j => ?_
      rw [ExtTreeMap.getElem?_erase]
      by_cases hj : compare index j = .eq
      · rw [if_pos hj, ← Std.compare_eq_iff_eq.mp hj, hpage]
      · rw [if_neg hj]
    · push Not at hzero
      obtain ⟨b, hb, hne⟩ := hzero
      rw [if_pos (by simpa using ⟨b, hb, hne⟩), if_neg]
      intro heq
      obtain ⟨j, hj, rfl⟩ := List.getElem_of_mem hb
      have hget := congrArg (fun page : Page => page.get ⟨start + j, by omega⟩) heq
      have hinside : start ≤ start + j ∧ start + j < start + chunk.length := by omega
      simp only [Cell.get_overlay, Cell.get_zero, if_pos hinside, Nat.add_sub_cancel_left,
        List.getD_eq_getElem?_getD, List.getElem?_eq_getElem hj, Option.getD_some] at hget
      exact hne hget

lemma storeFrom_spec {offset : ℕ} {data : Bytes} (h : Canonical (Cell.zero pageSize) pages)
    (hend : offset + data.length ≤ 2 ^ 32) :
    Canonical (Cell.zero pageSize) (storeFrom pages offset data) ∧ ∀ index k,
      (value (Cell.zero pageSize) (storeFrom pages offset data) index).get k =
        if offset ≤ position index k ∧ position index k < offset + data.length then
          data.getD (position index k - offset) 0
        else (value (Cell.zero pageSize) pages index).get k := by
  fun_induction storeFrom pages offset data with
  | case1 pages offset =>
    refine ⟨h, fun index k => ?_⟩
    rw [if_neg]
    simp
  | case2 pages offset data hne n ih =>
    have hpos : 0 < data.length := List.length_pos_iff.mpr hne
    have hn : n = min (pageSize - offset % pageSize) data.length := rfl
    have hmod : offset % pageSize < pageSize := Nat.mod_lt _ (by decide)
    have hchunk : (data.take n).length = n := by
      rw [List.length_take]
      omega
    rw [storeChunk_eq (by omega)] at ih ⊢
    obtain ⟨hcanonical, hvalue⟩ := ih (h.put _ _) (by rw [List.length_drop]; omega)
    refine ⟨hcanonical, fun index k => ?_⟩
    rw [hvalue, List.length_drop, SparseMap.value_put]
    have hk := k.isLt
    have hindex : (pageIndex offset).toNat = offset / pageSize := toNat_pageIndex (by omega)
    by_cases hpage : index = pageIndex offset
    · -- The first page: the chunk, and what was there around it.
      subst hpage
      have hposition : position (pageIndex offset) k + offset % pageSize = offset + k := by
        rw [position, hindex]
        have := Nat.div_add_mod' offset pageSize
        omega
      rw [if_neg (by omega), if_pos rfl, Cell.get_overlay, hchunk]
      by_cases hinside : offset % pageSize ≤ k ∧ k < offset % pageSize + n
      · have heq : (k : ℕ) - offset % pageSize = position (pageIndex offset) k - offset := by omega
        rw [if_pos hinside, if_pos (by omega), heq]
        simp only [List.getD_eq_getElem?_getD]
        rw [List.getElem?_take, if_pos (by omega)]
      · rw [if_neg hinside, if_neg (by omega)]
    · -- Later pages are left to the rest of the data.
      have hoff : ¬(offset ≤ position index k ∧ position index k < offset + n) := by
        intro ⟨hle, hlt⟩
        refine hpage (UInt32.toNat_inj.mp ?_)
        rw [hindex]
        have hk4096 : (k : ℕ) < 4096 := hk
        simp only [position, pageSize] at hle hlt hn ⊢
        omega
      rw [if_neg hpage]
      by_cases hinside : offset + n ≤ position index k ∧
          position index k < offset + n + (data.length - n)
      · have heq : n + (position index k - (offset + n)) = position index k - offset := by omega
        rw [if_pos hinside, if_pos (by omega)]
        simp only [List.getD_eq_getElem?_getD]
        rw [List.getElem?_drop, heq]
      · rw [if_neg hinside, if_neg (by omega)]

/-! ## Loading -/

/-- A byte of the RAM, stored or not. -/
def byte (pages : ExtTreeMap UInt32 Page) (offset : ℕ) : UInt8 :=
  (value (Cell.zero pageSize) pages (pageIndex offset)).get (pageOffset offset)

lemma byte_position {index : UInt32} {k : Fin pageSize} :
    byte pages (position index k) = (value (Cell.zero pageSize) pages index).get k := by
  unfold byte
  rw [pageIndex_position.1, pageIndex_position.2]

lemma loadChunk_eq {index : UInt32} {start n : ℕ} (hfits : start + n ≤ pageSize) :
    loadChunk pages index start n =
      (List.range n).map fun k => byte pages (index.toNat * pageSize + (start + k)) := by
  have hbyte : ∀ (k : ℕ) (hk : start + k < pageSize),
      byte pages (index.toNat * pageSize + (start + k)) =
        (value (Cell.zero pageSize) pages index).get ⟨start + k, hk⟩ :=
    fun k hk => @byte_position pages index ⟨start + k, hk⟩
  unfold loadChunk
  cases hpage : pages[index]? with
  | some page =>
    refine List.ext_getElem (by simp; omega) fun k hk hk' => ?_
    have hkn : k < n := by simpa using hk'
    rw [List.getElem_map, List.getElem_range, hbyte k (by omega), SparseMap.value_of_getElem? hpage]
    simp [Vector.get_eq]
  | none =>
    refine List.ext_getElem (by simp) fun k hk hk' => ?_
    have hkn : k < n := by simpa using hk'
    rw [List.getElem_map, List.getElem_range, hbyte k (by omega),
      SparseMap.value_of_getElem?_none hpage, Cell.get_zero, List.getElem_replicate]

lemma loadFrom_eq {offset len : ℕ} (hend : offset + len ≤ 2 ^ 32) :
    loadFrom pages offset len = (List.range len).map fun k => byte pages (offset + k) := by
  fun_induction loadFrom pages offset len with
  | case1 offset => rfl
  | case2 offset len hne n ih =>
    have hn : n = min (pageSize - offset % pageSize) len := rfl
    have hmod : offset % pageSize < pageSize := Nat.mod_lt _ (by decide)
    have hstart : (pageIndex offset).toNat * pageSize + offset % pageSize = offset := by
      rw [toNat_pageIndex (by omega)]
      exact Nat.div_add_mod' offset pageSize
    have hchunk : loadChunk pages (pageIndex offset) (offset % pageSize) n =
        (List.range n).map fun k => byte pages (offset + k) := by
      rw [loadChunk_eq (by omega)]
      simp only [← Nat.add_assoc, hstart]
    rw [ih (by omega), hchunk, ← Nat.add_sub_cancel' (show n ≤ len from chunkLength_le),
      List.range_add]
    simp [Nat.add_assoc]

end Ram

end Platform

/-!
## The RAM is a plain array

A sparse RAM answers every request as an array of its size would (`handleEvent_of_respond`).  It
keeps its pages in the one way in which its contents can be kept (`Sound`), through every request,
failed call and restore.
-/

namespace Platform

open MemV1
open Std (ExtTreeMap)
open SparseMap (value Canonical)

namespace Ram

variable {config : RamConfig} {ram ram' : Ram config}

/-- The bytes of a RAM. -/
def contents (ram : Ram config) : FlatMemory config.size.toNat := fun i => byte ram.pages i

/-- No stored page is all zero, and nothing is stored past the end. -/
structure Sound (ram : Ram config) : Prop where
  canonical : Canonical (Cell.zero pageSize) ram.pages
  pastEnd : ∀ index k, config.size.toNat ≤ position index k →
    (value (Cell.zero pageSize) ram.pages index).get k = 0

/-- There is one way to keep contents. -/
lemma Sound.pages_eq (h : ram.Sound) (h' : ram'.Sound) (heq : ram.contents = ram'.contents) :
    ram.pages = ram'.pages := by
  refine h.canonical.ext h'.canonical fun index => Vector.ext_get fun k => ?_
  by_cases hlt : position index k < config.size.toNat
  · have hbyte := congrFun heq ⟨position index k, hlt⟩
    simp only [contents, byte_position] at hbyte
    exact hbyte
  · rw [h.pastEnd index k (not_lt.mp hlt), h'.pastEnd index k (not_lt.mp hlt)]

lemma sound_empty {imageHash : Digest} :
    (Ram.mk imageHash ∅ : Ram config).Sound where
  canonical := SparseMap.canonical_empty
  pastEnd index k _ := by
    rw [SparseMap.value_empty, Cell.get_zero]

lemma contents_empty {imageHash : Digest} :
    (Ram.mk imageHash ∅ : Ram config).contents = fun _ => 0 := by
  funext i
  simp [contents, byte]

section

variable (hsize : config.size.toNat ≤ 2 ^ 32)

include hsize

lemma Sound.store (h : ram.Sound) {offset : ℕ} {data : Bytes}
    (hend : offset + data.length ≤ config.size.toNat) : (ram.store offset data).Sound := by
  obtain ⟨hcanonical, hvalue⟩ := storeFrom_spec h.canonical (hend.trans hsize)
  refine ⟨hcanonical, fun index k hpast => ?_⟩
  show (value _ (storeFrom ram.pages offset data) index).get k = 0
  rw [hvalue, if_neg (by omega)]
  exact h.pastEnd index k hpast

lemma Sound.contents_store (h : ram.Sound) {offset : ℕ} {data : Bytes}
    (hend : offset + data.length ≤ config.size.toNat) :
    (ram.store offset data).contents = ram.contents.write offset data := by
  obtain ⟨-, hvalue⟩ := storeFrom_spec h.canonical (hend.trans hsize)
  funext i
  have hi := hvalue (pageIndex i) (pageOffset i)
  rw [position_pageIndex (i.isLt.trans_le hsize)] at hi
  exact hi

lemma load_eq {offset len : ℕ} (hend : offset + len ≤ config.size.toNat) :
    ram.load offset len = ram.contents.read offset len hend := by
  rw [load, loadFrom_eq (hend.trans hsize)]
  refine List.ext_getElem (by simp [FlatMemory.read]) fun k hk hk' => ?_
  simp [FlatMemory.read, contents]

end

/-! ## One request -/

lemma handleEvent_of_spans {port : PortId} {msg : MemV1.MemMsg} {first size : ℕ}
    (hspans : msg.Spans first size) : ram.handleEvent (.message port (.memV1 msg)) =
      if size = 0 then ram.reject "ram: zero-length request"
      else ram.accept (first + size ≤ config.size.toNat) msg := by
  have hbound := config.size.toNat_lt
  have hofRange : ∀ addr : UInt64, addr.toNat = first → msg.access = some (.ofRange addr size) →
      ram.handleEvent (.message port (.memV1 msg)) =
        if size = 0 then ram.reject "ram: zero-length request"
        else ram.accept (first + size ≤ config.size.toNat) msg := by
    intro addr haddr haccess
    unfold handleEvent
    simp only [haccess]
    cases hrange : Access.ofRange addr size with
    | empty => rw [if_pos (Access.ofRange_eq_empty.mp hrange)]
    | outOfRange =>
      have hout := Access.ofRange_eq_outOfRange.mp hrange
      rw [if_neg (by have := addr.toNat_lt; omega), decide_eq_false (by omega)]
    | bytes a last =>
      obtain ⟨-, hpos, hlast⟩ := Access.ofRange_eq_bytes.mp hrange
      rw [if_neg (by omega)]
      simp only [UInt64.lt_iff_toNat_lt]
      congr 2
      rw [eq_iff_iff]
      omega
  cases msg with
  | readReq txn addr len =>
    obtain ⟨haddr, rfl⟩ := hspans
    exact hofRange addr haddr rfl
  | writeReq txn addr data =>
    obtain ⟨haddr, rfl⟩ := hspans
    exact hofRange addr haddr rfl
  | readResp => exact hspans.elim
  | writeResp => exact hspans.elim

/-- What an array would answer is what the RAM answers, and it becomes that array. -/
lemma handleEvent_of_respond (hsize : config.size.toNat ≤ 2 ^ 32) (h : ram.Sound) {port : PortId}
    {msg resp : MemV1.MemMsg} {m : FlatMemory config.size.toNat}
    (hrespond : ram.contents.respond msg = some (resp, m)) :
    ∃ ram' : Ram config, ram'.Sound ∧ ram'.imageHash = ram.imageHash ∧ ram'.contents = m ∧
      ram.handleEvent (.message port (.memV1 msg)) = ram'.respond resp := by
  cases msg with
  | readReq txn addr len =>
    have hspans : (MemV1.MemMsg.readReq txn addr len).Spans addr.toNat len.toNat := ⟨rfl, rfl⟩
    rw [handleEvent_of_spans hspans]
    rw [FlatMemory.respond] at hrespond
    by_cases hzero : len.toNat = 0
    · simp [hzero] at hrespond
    · rw [if_neg hzero] at hrespond ⊢
      by_cases hend : addr.toNat + len.toNat ≤ config.size.toNat
      · rw [dif_pos hend] at hrespond
        cases hrespond
        refine ⟨ram, h, rfl, rfl, ?_⟩
        rw [accept, decide_eq_true hend, if_pos rfl, load_eq hsize hend]
      · rw [dif_neg hend] at hrespond
        cases hrespond
        refine ⟨ram, h, rfl, rfl, ?_⟩
        rw [accept, decide_eq_false hend, if_neg (by decide)]
  | writeReq txn addr data =>
    have hspans : (MemV1.MemMsg.writeReq txn addr data).Spans addr.toNat data.length := ⟨rfl, rfl⟩
    rw [handleEvent_of_spans hspans]
    rw [FlatMemory.respond] at hrespond
    by_cases hzero : data.length = 0
    · simp [hzero] at hrespond
    · rw [if_neg hzero] at hrespond ⊢
      by_cases hend : addr.toNat + data.length ≤ config.size.toNat
      · rw [if_pos hend] at hrespond
        cases hrespond
        refine ⟨ram.store addr.toNat data, h.store hsize hend, rfl, h.contents_store hsize hend, ?_⟩
        rw [accept, decide_eq_true hend, if_pos rfl]
      · rw [if_neg hend] at hrespond
        cases hrespond
        refine ⟨ram, h, rfl, rfl, ?_⟩
        rw [accept, decide_eq_false hend, if_neg (by decide)]
  | readResp => cases hrespond
  | writeResp => cases hrespond

/-- What is not an access is refused. -/
lemma handleEvent_of_respond_none {port : PortId} {msg : MemV1.MemMsg}
    (hrespond : ram.contents.respond msg = none) :
    ∃ what, ram.handleEvent (.message port (.memV1 msg)) = ram.reject what := by
  cases msg with
  | readReq txn addr len =>
    have hspans : (MemV1.MemMsg.readReq txn addr len).Spans addr.toNat len.toNat := ⟨rfl, rfl⟩
    rw [handleEvent_of_spans hspans]
    have hzero : len.toNat = 0 := by
      by_contra hne
      rw [FlatMemory.respond] at hrespond
      rw [if_neg hne] at hrespond
      split at hrespond <;> cases hrespond
    exact ⟨_, if_pos hzero⟩
  | writeReq txn addr data =>
    have hspans : (MemV1.MemMsg.writeReq txn addr data).Spans addr.toNat data.length := ⟨rfl, rfl⟩
    rw [handleEvent_of_spans hspans]
    have hzero : data.length = 0 := by
      by_contra hne
      rw [FlatMemory.respond] at hrespond
      rw [if_neg hne] at hrespond
      split at hrespond <;> cases hrespond
    exact ⟨_, if_pos hzero⟩
  | readResp => exact ⟨_, rfl⟩
  | writeResp => exact ⟨_, rfl⟩

end Ram

end Platform

end SystemScope
