import SystemScope.Framework.Runs
import SystemScope.Os.Ownership

/-!
# The allocator over a history of calls

The frame allocator against a ledger (`Ledger`) that is kept from outside: it notes what each call
asked for and what was answered, and never looks at the allocator.  Over any history the owners are
those of the ledger, and a reservation takes the lowest frames that the ledger shows as
free. -/

namespace SystemScope.Os

namespace Frames

variable {f f' g : Frames} {pid n i : ℕ} {ppn : UInt32} {ppns : List UInt32}

/-! ## What a call can do -/

/-- The `n` lowest of the frames that nobody owns, ascending. -/
structure Lowest (f : Frames) (n : ℕ) (ppns : List UInt32) : Prop where
  length : ppns.length = n
  ascending : ppns.Pairwise (· < ·)
  free : ∀ ppn ∈ ppns, f.owner ppn = some 0
  below : ∀ ppn ∈ ppns, ∀ q, f.owner q = some 0 → q ∉ ppns → ppn < q

lemma length_indicesOf (f : Frames) (pid : ℕ) :
    (f.indicesOf pid).length = f.owners.count pid := by
  have hrange : (List.range f.owners.length).map (fun i => f.owners[i]?) =
      f.owners.map some := by
    refine List.ext_getElem (by simp) fun i hi hi' => ?_
    rw [List.length_map] at hi'
    simp [hi']
  have hcount : f.owners.count pid = (f.owners.map some).countP (· == some pid) := by
    rw [List.countP_map, List.count]
    exact List.countP_congr fun o _ => by simp
  rw [hcount, ← hrange, List.countP_map, indicesOf, ← List.countP_eq_length_filter]
  exact List.countP_congr fun i _ => by simp

lemma length_ownedBy (f : Frames) (pid : ℕ) : (f.ownedBy pid).length = f.owners.count pid := by
  rw [ownedBy, List.length_map, length_indicesOf]

lemma indicesOf_zero_lt {j : ℕ} (hi : i ∈ (f.indicesOf 0).take n)
    (hj : j ∈ f.indicesOf 0) (hnot : j ∉ (f.indicesOf 0).take n) : i < j := by
  have hsorted : ((f.indicesOf 0).take n ++ (f.indicesOf 0).drop n).Pairwise (· < ·) := by
    rw [List.take_append_drop]
    exact indicesOf_pairwise
  rw [← List.take_append_drop n (f.indicesOf 0)] at hj
  exact (List.pairwise_append.mp hsorted).2.2 i hi j ((List.mem_append.mp hj).resolve_left hnot)

/-- A reservation gets the lowest frames, or nothing if there are not enough. -/
lemma reserve_spec (h : f.Numbered) (pid n : ℕ) :
    (n ≤ f.freeCount ∧ ∃ ppns f', f.reserve pid n = some (ppns, f') ∧ f.Lowest n ppns ∧
      f.SameFrames f' ∧ ∀ ppn, f'.owner ppn = if ppn ∈ ppns then some pid else f.owner ppn) ∨
    f.freeCount < n ∧ f.reserve pid n = none := by
  have hcount : (f.indicesOf 0).length = f.freeCount := f.length_indicesOf 0
  by_cases hn : n ≤ f.freeCount
  · left
    have hlength : ((f.indicesOf 0).take n).length = n := by
      rw [List.length_take]
      omega
    have hreserve : f.reserve pid n = some (((f.indicesOf 0).take n).map f.ppn,
        f.assign pid ((f.indicesOf 0).take n)) := by
      unfold reserve
      dsimp only
      rw [if_neg (by omega)]
    have hreserved := reserved_of_reserve h hreserve
    refine ⟨hn, _, _, hreserve, ⟨hreserved.length, hreserved.ascending, hreserved.free, ?_⟩,
      hreserved.same, hreserved.owner⟩
    intro p hp q hq hnot
    obtain ⟨i, hi, rfl⟩ := List.mem_map.mp hp
    obtain ⟨j, rfl, howner⟩ := (owner_eq_some h).mp hq
    have hj := mem_indicesOf.mpr howner
    have hij := indicesOf_zero_lt hi hj fun hmem => hnot (List.mem_map_of_mem hmem)
    have hilt := indicesOf_lt i (List.mem_of_mem_take hi)
    rw [UInt32.lt_iff_toNat_lt, toNat_ppn h hilt, toNat_ppn h (indicesOf_lt j hj)]
    omega
  · right
    refine ⟨not_le.mp hn, ?_⟩
    unfold reserve
    refine if_pos ?_
    rw [List.length_take]
    omega

/-- Which frames are lowest depends on the free ones only. -/
lemma Lowest.unique {g : Frames} {ppns' : List UInt32} (h : f.Lowest n ppns)
    (h' : g.Lowest n ppns') (hfree : ∀ ppn, f.owner ppn = some 0 ↔ g.owner ppn = some 0) :
    ppns = ppns' := by
  have hsub : ppns ⊆ ppns' := by
    intro p hp
    by_contra hnot
    -- Then everything in the other list is below `p`, and in this one.
    have hin : ppns' ⊆ ppns := by
      intro q hq
      by_contra hq'
      have hqp := h'.below q hq p ((hfree p).mp (h.free p hp)) hnot
      have hpq := h.below p hp q ((hfree q).mpr (h'.free q hq)) hq'
      exact UInt32.lt_irrefl _ (UInt32.lt_trans hqp hpq)
    have hsubperm := List.subperm_of_subset (h'.ascending.imp UInt32.ne_of_lt) hin
    have hperm := hsubperm.perm_of_length_le (h.length.trans h'.length.symm).le
    exact hnot (hperm.mem_iff.mpr hp)
  have hsubperm := List.subperm_of_subset (h.ascending.imp UInt32.ne_of_lt) hsub
  have hperm := hsubperm.perm_of_length_le (h'.length.trans h.length.symm).le
  exact hperm.eq_of_pairwise (fun _ _ _ _ hpq hqp => absurd hqp (UInt32.lt_asymm hpq))
    h.ascending h'.ascending

/-- A release frees exactly the frames, if the PID owns all of them. -/
lemma release_spec (h : f.Numbered) (pid : ℕ) (ppns : List UInt32) :
    ((∀ ppn ∈ ppns, pid ≠ 0 ∧ f.owner ppn = some pid) ∧
      ∃ f', f.release pid ppns = .ok f' ∧ f.SameFrames f' ∧
        ∀ ppn, f'.owner ppn = if ppn ∈ ppns then some 0 else f.owner ppn) ∨
    (∃ ppn ∈ ppns, pid = 0 ∨ f.owner ppn ≠ some pid) ∧ ∃ e, f.release pid ppns = .error e := by
  by_cases howned : ∀ ppn ∈ ppns, pid ≠ 0 ∧ f.owner ppn = some pid
  · refine .inl ⟨howned, ?_⟩
    cases ppns with
    | nil => exact ⟨f, rfl, ⟨rfl, rfl⟩, by simp⟩
    | cons p rest =>
      exact release_isOk h (howned p List.mem_cons_self).1 fun q hq => (howned q hq).2
  · right
    push Not at howned
    obtain ⟨p, hp, hrefused⟩ := howned
    refine ⟨⟨p, hp, ?_⟩, ?_⟩
    · by_cases hpid : pid = 0
      · exact .inl hpid
      · exact .inr (hrefused hpid)
    · have herror : (f.releaseError pid p).isSome := by
        unfold releaseError
        cases howner : f.owner p with
        | none => rfl
        | some o =>
          have hcond : o ≠ pid ∨ pid = 0 := by
            by_contra hnot
            rw [not_or, not_not] at hnot
            exact hrefused hnot.2 (howner.trans (congrArg some hnot.1))
          dsimp only
          rw [if_pos hcond]
          rfl
      unfold release
      cases hfirst : ppns.findSome? (f.releaseError pid) with
      | some e => exact ⟨e, rfl⟩
      | none =>
        rw [List.findSome?_eq_none_iff] at hfirst
        rw [hfirst p hp] at herror
        cases herror

/-! ## The bitmap -/

lemma shiftRight_bit : ∀ k < 8, ∀ m < 8,
    ((1 : UInt8) <<< UInt8.ofNat k >>> UInt8.ofNat m) &&& 1 = if k = m then 1 else 0 := by
  decide

/-- The bits of a byte that is put together bit by bit. -/
lemma bits_foldl {p : ℕ → Prop} [∀ k, Decidable (p k)] {m : ℕ} (hm : m < 8) (n : ℕ) (hn : n ≤ 8) :
    ((List.range n).foldl (fun (bits : UInt8) k =>
        if p k then bits ||| (1 <<< UInt8.ofNat k) else bits) 0 >>> UInt8.ofNat m) &&& 1 =
      if m < n ∧ p m then 1 else 0 := by
  induction n with
  | zero => simp
  | succ n ih =>
    have ih := ih (by omega)
    rw [List.range_succ, List.foldl_append, List.foldl_cons, List.foldl_nil]
    generalize (List.range n).foldl _ (0 : UInt8) = bits at ih ⊢
    by_cases hp : p n
    · have hor : (bits ||| (1 : UInt8) <<< UInt8.ofNat n) >>> UInt8.ofNat m &&& 1 =
          (bits >>> UInt8.ofNat m &&& 1) |||
            ((1 : UInt8) <<< UInt8.ofNat n >>> UInt8.ofNat m &&& 1) := by
        rw [UInt8.shiftRight_or, ← UInt8.toNat_inj]
        simp only [UInt8.toNat_and, UInt8.toNat_or, Nat.and_or_distrib_right]
      rw [if_pos hp, hor, ih, shiftRight_bit n (by omega) m hm]
      by_cases hmn : n = m
      · subst hmn
        simp [hp]
      · rw [if_neg hmn, UInt8.or_zero]
        congr 1
        exact propext (and_congr_left fun _ => by omega)
    · rw [if_neg hp, ih]
      congr 1
      refine propext ⟨fun h => ⟨by omega, h.2⟩, fun h => ⟨?_, h.2⟩⟩
      have hne : m ≠ n := fun heq => hp (heq ▸ h.2)
      omega

lemma bit_bitmap (f : Frames) (i : ℕ) :
    bit f.bitmap i = true ↔ ∃ o ∈ f.owners[i]?, o ≠ 0 := by
  unfold bit bitmap
  by_cases hbyte : i / 8 < (f.owners.length + 7) / 8
  · have hlt : i % 8 < 8 := Nat.mod_lt i (by decide)
    rw [List.getElem?_map, List.getElem?_range hbyte, Option.map_some]
    dsimp only
    rw [decide_eq_true_iff, bits_foldl hlt 8 le_rfl]
    simp only [hlt, true_and, Nat.div_add_mod]
    split_ifs with howned
    · exact iff_of_true rfl howned
    · exact iff_of_false (by decide) howned
  · have hnone : f.owners[i]? = none := List.getElem?_eq_none (by omega)
    have hrange : (List.range ((f.owners.length + 7) / 8))[i / 8]? = none :=
      List.getElem?_eq_none (by rw [List.length_range]; omega)
    simp [hnone, hrange]

end Frames

/-! ## Histories -/

/-- A call to the allocator. -/
inductive FrameCall
  | reserve (pid n : ℕ)
  | release (pid : ℕ) (ppns : List UInt32)
  deriving DecidableEq, Repr

/-- What it is answered. -/
inductive FrameReply
  | reserved (ppns : Option (List UInt32))
  | released (result : Except FrameError Unit)
  /-- A reservation for PID 0, which marks free frames. -/
  | panicked

namespace Frames

/-- The allocator as a machine. -/
def call (f : Frames) : FrameCall → FrameReply × Frames
  | .reserve pid n =>
    if pid = 0 then (.panicked, f)
    else match f.reserve pid n with
      | some (ppns, f') => (.reserved (some ppns), f')
      | none => (.reserved none, f)
  | .release pid ppns =>
    match f.release pid ppns with
    | .ok f' => (.released (.ok ()), f')
    | .error e => (.released (.error e), f)

end Frames

/-- Who holds a frame, as far as the calls and their answers tell. -/
def Ledger : Type := UInt32 → Option ℕ

namespace Ledger

/-- Nobody holds anything. -/
def empty : Ledger := fun _ => none

/-- A reservation that was granted gives its frames, a release that was accepted takes them. -/
def note (l : Ledger) : FrameCall × FrameReply → Ledger
  | (.reserve pid _, .reserved (some ppns)) => fun p => if p ∈ ppns then some pid else l p
  | (.release _ ppns, .released (.ok ())) => fun p => if p ∈ ppns then none else l p
  | _ => l

variable (l : Ledger) (pid n : ℕ) (ppns : List UInt32) (p : UInt32)

lemma note_reserved : l.note (.reserve pid n, .reserved (some ppns)) p =
    if p ∈ ppns then some pid else l p := rfl

lemma note_released : l.note (.release pid ppns, .released (.ok ())) p =
    if p ∈ ppns then none else l p := rfl

/-- The ledger after a history. -/
def after (calls : List FrameCall) (replies : List FrameReply) : Ledger :=
  (calls.zip replies).foldl note empty

end Ledger

namespace Frames

variable {f f' : Frames} {pid n i : ℕ} {ppn : UInt32} {ppns : List UInt32} {l : Ledger}

/-- The owners are those of a ledger. -/
def Agrees (f : Frames) (l : Ledger) : Prop := ∀ ppn, l ppn = (f.owner ppn).filter (· ≠ 0)

lemma Agrees.free (h : f.Agrees l) (howner : f.owner ppn = some 0) : l ppn = none := by
  rw [h, howner]
  rfl

/-- One call keeps the ledger. -/
lemma Agrees.called (h : f.Agrees l) (hf : f.Numbered) (c : FrameCall) :
    f.SameFrames (f.call c).2 ∧ (f.call c).2.Agrees (l.note (c, (f.call c).1)) := by
  cases c with
  | reserve pid n =>
    by_cases hpid : pid = 0
    · simp only [Frames.call, if_pos hpid]
      exact ⟨⟨rfl, rfl⟩, h⟩
    · simp only [Frames.call, if_neg hpid]
      obtain ⟨-, ppns, f', hreserve, -, hsame, howner⟩ | ⟨-, hnone⟩ := reserve_spec hf pid n
      · rw [hreserve]
        refine ⟨hsame, fun ppn => ?_⟩
        rw [Ledger.note_reserved, howner]
        by_cases hmem : ppn ∈ ppns
        · rw [if_pos hmem, if_pos hmem, Option.filter_some, if_pos (decide_eq_true hpid)]
        · rw [if_neg hmem, if_neg hmem]
          exact h ppn
      · rw [hnone]
        exact ⟨⟨rfl, rfl⟩, h⟩
  | release pid ppns =>
    simp only [Frames.call]
    obtain ⟨-, f', hrelease, hsame, howner⟩ | ⟨-, e, herror⟩ := release_spec hf pid ppns
    · rw [hrelease]
      refine ⟨hsame, fun ppn => ?_⟩
      rw [Ledger.note_released, howner]
      by_cases hmem : ppn ∈ ppns
      · rw [if_pos hmem, if_pos hmem]
        rfl
      · rw [if_neg hmem, if_neg hmem]
        exact h ppn
    · rw [herror]
      exact ⟨⟨rfl, rfl⟩, h⟩

/-- A history keeps the ledger. -/
lemma Agrees.after (h : f.Agrees l) (hf : f.Numbered) (calls : List FrameCall) :
    f.SameFrames (Machine.exec call f calls).2 ∧
      (Machine.exec call f calls).2.Agrees
        ((calls.zip (Machine.exec call f calls).1).foldl Ledger.note l) := by
  induction calls generalizing f l with
  | nil => exact ⟨⟨rfl, rfl⟩, h⟩
  | cons c calls ih =>
    obtain ⟨hsame, hcall⟩ := h.called hf c
    obtain ⟨hsame', hcalls⟩ := ih hcall (hsame.numbered hf)
    exact ⟨⟨hsame'.1.trans hsame.1, hsame'.2.trans hsame.2⟩, hcalls⟩

lemma agrees_new (base size : UInt64) : (new base size).Agrees .empty := by
  intro ppn
  unfold owner
  cases hindex : (new base size).index ppn with
  | none => rfl
  | some i =>
    obtain ⟨-, -, hlt⟩ := index_eq_some.mp hindex
    have hzero : (new base size).owners[i]? = some 0 := by
      simp only [new, List.length_replicate] at hlt ⊢
      exact List.getElem?_replicate_of_lt hlt
    rw [Option.bind_some, hzero]
    rfl

lemma owner_isSome : (f.owner ppn).isSome ↔
    f.base.toNat ≤ ppn.toNat ∧ ppn.toNat < f.base.toNat + f.count := by
  unfold owner count
  cases hindex : f.index ppn with
  | none =>
    refine iff_of_false (by simp) ?_
    rintro ⟨hle, hlt⟩
    have hsome := index_eq_some.mpr ⟨hle, rfl, (by omega : ppn.toNat - f.base.toNat < _)⟩
    rw [hindex] at hsome
    cases hsome
  | some i =>
    obtain ⟨hle, rfl, hlt⟩ := index_eq_some.mp hindex
    refine iff_of_true ?_ ⟨hle, by omega⟩
    rw [Option.bind_some, List.getElem?_eq_getElem hlt]
    rfl

/-- Pools in which the same frames are free answer a reservation alike, whoever owns the rest. -/
lemma reserve_congr {g : Frames} (hf : f.Numbered) (hg : g.Numbered)
    (hfree : ∀ ppn, f.owner ppn = some 0 ↔ g.owner ppn = some 0) {pid pid' : ℕ} (hpid : pid ≠ 0)
    (hpid' : pid' ≠ 0) (n : ℕ) :
    (f.call (.reserve pid n)).1 = (g.call (.reserve pid' n)).1 := by
  have hcount : f.freeCount = g.freeCount := by
    have hperm := (@owns_ownedBy f 0 hf).perm
      ⟨(ownedBy_pairwise hg).imp UInt32.ne_of_lt, fun ppn =>
        (mem_ownedBy hg).trans (hfree ppn).symm⟩
    have hlength := hperm.length_eq
    rwa [length_ownedBy, length_ownedBy] at hlength
  simp only [call, if_neg hpid, if_neg hpid']
  obtain ⟨hn, ppns, f', hreserve, hlowest, -⟩ | ⟨hn, hnone⟩ := reserve_spec hf pid n
  · obtain ⟨-, ppns', g', hreserve', hlowest', -⟩ | ⟨hn', -⟩ := reserve_spec hg pid' n
    · rw [hreserve, hreserve', hlowest.unique hlowest' hfree]
    · omega
  · obtain ⟨hn', -⟩ | ⟨-, hnone'⟩ := reserve_spec hg pid' n
    · omega
    · rw [hnone, hnone']

/-- **Frames have one owner.**  Over every history of reservations and releases, on every pool
whose frames have 32-bit numbers, the owners are those that the calls and their answers tell.  A
reservation is granted exactly if enough frames are free: then it gets the lowest ones, none of
which anybody holds, and marks only these; otherwise nothing changes.  A release frees its frames
exactly if the PID owns all of them; otherwise nothing changes.  The lists of owned frames, the
number of free ones and the bitmap say the same as the owners, and what a process gets depends only
on which frames are free. -/
theorem frames_exclusive (base size : UInt64) (hnumbered : (new base size).Numbered)
    (calls : List FrameCall) :
    let run := Machine.exec call (new base size) calls
    let f := run.2
    let held := Ledger.after calls run.1
    ((∀ ppn, held ppn = (f.owner ppn).filter (· ≠ 0)) ∧
      f.base = (new base size).base ∧ f.count = size.toNat / pageBytes ∧
      ∀ ppn, (f.owner ppn).isSome ↔
        f.base.toNat ≤ ppn.toNat ∧ ppn.toNat < f.base.toNat + f.count) ∧
    (∀ pid n, pid ≠ 0 →
      (n ≤ f.freeCount ∧ ∃ ppns f', f.call (.reserve pid n) = (.reserved (some ppns), f') ∧
        f.Lowest n ppns ∧ (∀ ppn ∈ ppns, held ppn = none) ∧
        ∀ ppn, f'.owner ppn = if ppn ∈ ppns then some pid else f.owner ppn) ∨
      f.freeCount < n ∧ f.call (.reserve pid n) = (.reserved none, f)) ∧
    (∀ pid ppns,
      ((∀ ppn ∈ ppns, pid ≠ 0 ∧ f.owner ppn = some pid) ∧
        ∃ f', f.call (.release pid ppns) = (.released (.ok ()), f') ∧
          ∀ ppn, f'.owner ppn = if ppn ∈ ppns then some 0 else f.owner ppn) ∨
      (∃ ppn ∈ ppns, pid = 0 ∨ f.owner ppn ≠ some pid) ∧
        ∃ e, f.call (.release pid ppns) = (.released (.error e), f)) ∧
    ((∀ pid, (f.ownedBy pid).Pairwise (· < ·) ∧
        ∀ ppn, ppn ∈ f.ownedBy pid ↔ f.owner ppn = some pid) ∧
      f.freeCount = (f.ownedBy 0).length ∧ f.bitmap.length = (f.count + 7) / 8 ∧
      ∀ i, bit f.bitmap i ↔ i < f.count ∧ f.owner (f.ppn i) ≠ some 0) ∧
    ∀ (base' size' : UInt64) (calls' : List FrameCall), (new base' size').Numbered →
      let g := (Machine.exec call (new base' size') calls').2
      (∀ ppn, f.owner ppn = some 0 ↔ g.owner ppn = some 0) →
      ∀ pid pid' n, pid ≠ 0 → pid' ≠ 0 →
        (f.call (.reserve pid n)).1 = (g.call (.reserve pid' n)).1 := by
  intro run f held
  obtain ⟨hsame, hagrees⟩ := (agrees_new base size).after hnumbered calls
  have hf : f.Numbered := hsame.numbered hnumbered
  refine ⟨⟨hagrees, hsame.1, hsame.2.trans List.length_replicate, fun ppn => owner_isSome⟩, ?_, ?_,
    ⟨fun pid => ⟨ownedBy_pairwise hf, fun ppn => mem_ownedBy hf⟩, (length_ownedBy f 0).symm, ?_,
      fun i => ?_⟩, ?_⟩
  · intro pid n hpid
    obtain ⟨hn, ppns, f', hreserve, hlowest, -, howner⟩ | ⟨hn, hnone⟩ := reserve_spec hf pid n
    · refine .inl ⟨hn, ppns, f', ?_, hlowest, fun ppn hp => hagrees.free (hlowest.free ppn hp),
        howner⟩
      simp only [call, if_neg hpid, hreserve]
    · exact .inr ⟨hn, by simp only [call, if_neg hpid, hnone]⟩
  · intro pid ppns
    obtain ⟨howned, f', hrelease, -, howner⟩ | ⟨hrefused, e, herror⟩ := release_spec hf pid ppns
    · exact .inl ⟨howned, f', by simp only [call, hrelease], howner⟩
    · exact .inr ⟨hrefused, e, by simp only [call, herror]⟩
  · simp [bitmap, count]
  · rw [bit_bitmap]
    by_cases hi : i < f.count
    · rw [owner_ppn hf hi, List.getElem?_eq_getElem hi]
      simp [hi]
    · have hnone : f.owners[i]? = none := List.getElem?_eq_none (not_lt.mp hi)
      simp [hi, hnone]
  · intro base' size' calls' hnumbered' g hfree pid pid' n hpid hpid'
    obtain ⟨hsame', -⟩ := (agrees_new base' size').after hnumbered' calls'
    exact reserve_congr hf (hsame'.numbered hnumbered') hfree hpid hpid' n

/-- A pool of three frames after two reservations and a release. -/
theorem frames_exclusive_small :
    (new 0x4000 0x3000).Numbered ∧
      let run := Machine.exec call (new 0x4000 0x3000)
        [.reserve 1 1, .reserve 2 2, .release 1 [4], .release 2 [4]]
      run.1 = [.reserved (some [4]), .reserved (some [5, 6]), .released (.ok ()),
        .released (.error (.notOwned 4))] ∧
      ∀ ppn, (Ledger.after [.reserve 1 1, .reserve 2 2, .release 1 [4], .release 2 [4]] run.1) ppn =
        (run.2.owner ppn).filter (· ≠ 0) := by
  have hnumbered : (new 0x4000 0x3000).Numbered := by
    unfold Numbered
    decide
  exact ⟨hnumbered, rfl, (frames_exclusive 0x4000 0x3000 hnumbered _).1.1⟩

end Frames

end SystemScope.Os
