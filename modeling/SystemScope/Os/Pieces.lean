import SystemScope.Os.Creation
import SystemScope.Os.Steps

/-!
# Ranges in pieces

The loops that split the accesses of the kernel: `chunks` of `core.rs`, `split_copy` of `space.rs`,
and the chunks of a user buffer.  Each takes a range apart into pieces of at most 16 bytes that
cross no page, in order and without a gap (`pieces_exact`).
-/

namespace SystemScope.Os

/-- The loop over the chunks of a buffer, after some bytes. -/
def Buffer.chunksFrom (b : Buffer) (done : ℕ) : List (ℕ × ℕ) :=
  if h : done < b.n.toNat then
    have := b.chunk_pos h
    b.chunk done :: b.chunksFrom (done + (b.chunk done).2)
  else []
termination_by b.n.toNat - done

lemma chunksTo_of_lt {stop addr : ℕ} (h : addr < stop) : chunksTo stop addr =
    (addr, nextChunk stop addr - addr) :: chunksTo stop (nextChunk stop addr) := by
  rw [chunksTo, dif_pos h]

/-- Joined in order, the pieces of a range are the range. -/
lemma join_chunksTo (stop addr : ℕ) :
    (chunksTo stop addr).flatMap (fun c => List.range' c.1 c.2) = List.range' addr
      (stop - addr) := by
  induction addr using chunksTo.induct stop with
  | case1 addr hlt hnext ih =>
    have hle : nextChunk stop addr ≤ stop := by
      unfold nextChunk
      omega
    have hsplit : stop - addr =
        (nextChunk stop addr - addr) + (stop - nextChunk stop addr) := by omega
    have hstart : addr + (nextChunk stop addr - addr) = nextChunk stop addr := by omega
    rw [chunksTo_of_lt hlt, List.flatMap_cons, ih, hsplit, ← List.range'_append_1, hstart]
  | case2 addr hge =>
    rw [chunksTo, dif_neg hge, Nat.sub_eq_zero_of_le (Nat.not_lt.mp hge)]
    rfl

/-- Joined in order, the pieces of a copy are its source and its destination. -/
lemma join_splitCopy (src dst len : ℕ) :
    (splitCopy src dst len).flatMap (fun c => List.range' c.1 c.2.2) = List.range' src len ∧
      (splitCopy src dst len).flatMap (fun c => List.range' c.2.1 c.2.2) = List.range' dst len := by
  induction src, dst, len using splitCopy.induct with
  | case1 src dst =>
    unfold splitCopy
    exact ⟨rfl, rfl⟩
  | case2 src dst len hlen hpos ih =>
    obtain ⟨hsrc, hdst⟩ := ih
    have hle : pieceLen src dst len ≤ len := by
      unfold pieceLen
      omega
    have hsplit : len = pieceLen src dst len + (len - pieceLen src dst len) := by omega
    rw [splitCopy, dif_neg hlen]
    constructor
    · rw [List.flatMap_cons, hsrc, List.range'_append_1, ← hsplit]
    · rw [List.flatMap_cons, hdst, List.range'_append_1, ← hsplit]

namespace Buffer

variable (b : Buffer)

lemma chunksFrom_of_lt {done : ℕ} (h : done < b.n.toNat) :
    b.chunksFrom done = b.chunk done :: b.chunksFrom (done + (b.chunk done).2) := by
  rw [chunksFrom, dif_pos h]

/-- A chunk of the buffer is the next piece of its range. -/
lemma chunk_eq {done : ℕ} (h : done < b.n.toNat) : b.chunk done =
    (b.buf.toNat + done,
      nextChunk (b.buf.toNat + b.n.toNat) (b.buf.toNat + done) - (b.buf.toNat + done)) := by
  unfold chunk nextChunk pageBytes maxAccess
  dsimp only
  congr 1
  omega

lemma chunksFrom_eq (done : ℕ) :
    b.chunksFrom done = chunksTo (b.buf.toNat + b.n.toNat) (b.buf.toNat + done) := by
  induction done using chunksFrom.induct b with
  | case1 done hlt hpos ih =>
    have hrange : b.buf.toNat + done < b.buf.toNat + b.n.toNat := by omega
    have hnext := lt_nextChunk hrange
    have hchunk := b.chunk_eq hlt
    have hstart : b.buf.toNat + (done + (b.chunk done).2) =
        nextChunk (b.buf.toNat + b.n.toNat) (b.buf.toNat + done) := by
      rw [hchunk]
      dsimp only
      omega
    rw [b.chunksFrom_of_lt hlt, chunksTo_of_lt hrange, ih, hstart, hchunk]
  | case2 done hge =>
    rw [chunksFrom, dif_neg hge, chunksTo, dif_neg (by omega)]

/-- What the loop looks for: a chunk at an offset. -/
lemma chunkStartFrom_eq (done at_ : ℕ) :
    b.chunkStartFrom done at_ = true ↔ ∃ c ∈ b.chunksFrom at_, c.1 = b.buf.toNat + done := by
  induction at_ using chunksFrom.induct b with
  | case1 at_ hlt hpos ih =>
    have hfirst : (b.chunk at_).1 = b.buf.toNat + at_ := rfl
    rw [chunkStartFrom, dif_pos hlt, b.chunksFrom_of_lt hlt]
    by_cases hat : at_ = done
    · rw [if_pos hat]
      exact ⟨fun _ => ⟨_, List.mem_cons_self, by rw [hfirst, hat]⟩, fun _ => rfl⟩
    · rw [if_neg hat, ih]
      constructor
      · rintro ⟨c, hc, hstart⟩
        exact ⟨c, List.mem_cons_of_mem _ hc, hstart⟩
      · rintro ⟨c, hc, hstart⟩
        rcases List.mem_cons.mp hc with rfl | hc
        · omega
        · exact ⟨c, hc, hstart⟩
  | case2 at_ hge =>
    rw [chunkStartFrom, dif_neg hge, chunksFrom, dif_neg hge]
    simp

end Buffer

/-- **The loops that split the accesses are exact.**  Joined in order, the pieces of a range are the
range, and those of a copy are its source and its destination; each is 1 to 16 bytes in one page, on
both sides of a copy.  The chunks of a buffer are the pieces of its range and end at its end, and a
chunk starts exactly where `is_chunk_start` says.  The sums that `chunks` makes fit in 64 bits
unless the range reaches the last page. -/
theorem pieces_exact :
    (∀ base len, (chunks base len).flatMap (fun c => List.range' c.1 c.2) = List.range' base len ∧
      (∀ c ∈ chunks base len, IsPiece c) ∧
      (base + len ≤ 2 ^ 64 - pageBytes → ∀ c ∈ chunks base len,
        (c.1 / pageBytes + 1) * pageBytes < 2 ^ 64 ∧ c.1 + maxAccess < 2 ^ 64)) ∧
    (∀ src dst len,
      (splitCopy src dst len).flatMap (fun c => List.range' c.1 c.2.2) = List.range' src len ∧
      (splitCopy src dst len).flatMap (fun c => List.range' c.2.1 c.2.2) = List.range' dst len ∧
      ∀ c ∈ splitCopy src dst len, IsPiece (c.1, c.2.2) ∧ IsPiece (c.2.1, c.2.2)) ∧
    ∀ b : Buffer, b.chunksFrom 0 = chunks b.buf.toNat b.n.toNat ∧
      ((b.chunksFrom 0).map Prod.snd).sum = b.n.toNat ∧
      ∀ done, b.isChunkStart done = true ↔
        ∃ c ∈ chunks b.buf.toNat b.n.toNat, c.1 = b.buf.toNat + done := by
  refine ⟨fun base len => ?_, fun src dst len => ?_, fun b => ?_⟩
  · have hjoin := join_chunksTo (base + len) base
    rw [Nat.add_sub_cancel_left] at hjoin
    refine ⟨hjoin, fun c hc => (mem_chunks hc).1, fun hfits c hc => ?_⟩
    obtain ⟨hpiece, -, hend⟩ := mem_chunks hc
    have hpos := hpiece.pos
    unfold pageBytes maxAccess at *
    omega
  · obtain ⟨hsrc, hdst⟩ := join_splitCopy src dst len
    refine ⟨hsrc, hdst, fun c hc => ?_⟩
    obtain ⟨o, -, -, hpos, -, hshort, hsrcPage, hdstPage⟩ := mem_splitCopy hc
    exact ⟨⟨hpos, hshort, hsrcPage⟩, ⟨hpos, hshort, hdstPage⟩⟩
  · have hchunks : b.chunksFrom 0 = chunks b.buf.toNat b.n.toNat := b.chunksFrom_eq 0
    refine ⟨hchunks, ?_, fun done => ?_⟩
    · rw [hchunks]
      exact sum_chunks _ _
    · rw [← hchunks]
      exact b.chunkStartFrom_eq done 0

end SystemScope.Os
