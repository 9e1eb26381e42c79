import Mathlib.Tactic.Common

/-!
# BLAKE3

The hash function BLAKE3 and its key derivation mode, on byte lists, with an output of 32 bytes.

Input is cut into chunks of 1024 bytes and chunks into blocks of 64.  A chunk is compressed block
by block, and the chunks are the leaves of a binary tree whose left subtrees are complete.  What
is left at the root is compressed once more, with the flag that marks it as the root.
-/

namespace Blake3

/-- Eight words: a key, a chaining value or a digest. -/
abbrev Words := Vector UInt32 8

/-- The sixteen words of a block, or of the state of a compression. -/
abbrev State := Vector UInt32 16

def iv : Words :=
  #v[0x6A09E667, 0xBB67AE85, 0x3C6EF372, 0xA54FF53A, 0x510E527F, 0x9B05688C, 0x1F83D9AB,
    0x5BE0CD19]

def messagePermutation : Vector (Fin 16) 16 :=
  #v[2, 6, 3, 10, 7, 0, 4, 13, 1, 11, 12, 5, 9, 14, 15, 8]

/-! ## Flags -/

def chunkStart : UInt32 := 1

def chunkEnd : UInt32 := 2

def parent : UInt32 := 4

def root : UInt32 := 8

def deriveKeyContext : UInt32 := 32

def deriveKeyMaterial : UInt32 := 64

/-! ## Compression -/

def rotateRight (x : UInt32) (n : UInt32) : UInt32 := (x >>> n) ||| (x <<< (32 - n))

/-- Mixes two words of the message into four of the state. -/
def mix (s : State) (a b c d : Fin 16) (mx my : UInt32) : State :=
  let s := s.set a (s[a] + s[b] + mx)
  let s := s.set d (rotateRight (s[d] ^^^ s[a]) 16)
  let s := s.set c (s[c] + s[d])
  let s := s.set b (rotateRight (s[b] ^^^ s[c]) 12)
  let s := s.set a (s[a] + s[b] + my)
  let s := s.set d (rotateRight (s[d] ^^^ s[a]) 8)
  let s := s.set c (s[c] + s[d])
  s.set b (rotateRight (s[b] ^^^ s[c]) 7)

/-- Mixes the columns, then the diagonals. -/
def round (s m : State) : State :=
  let s := mix s 0 4 8 12 m[0] m[1]
  let s := mix s 1 5 9 13 m[2] m[3]
  let s := mix s 2 6 10 14 m[4] m[5]
  let s := mix s 3 7 11 15 m[6] m[7]
  let s := mix s 0 5 10 15 m[8] m[9]
  let s := mix s 1 6 11 12 m[10] m[11]
  let s := mix s 2 7 8 13 m[12] m[13]
  mix s 3 4 9 14 m[14] m[15]

def permute (m : State) : State := messagePermutation.map fun i => m[i]

/-- Rounds, with the message permuted between them. -/
def rounds : ℕ → State → State → State
  | 0, s, _ => s
  | n + 1, s, m => rounds n (round s m) (permute m)

/-- What is compressed next: a block and the chaining value before it. -/
structure Output where
  cv : Words
  block : State
  counter : UInt64
  blockLen : UInt32
  flags : UInt32

/-- The first half of a compression's result. -/
def Output.compress (o : Output) : Words :=
  let s : State :=
    #v[o.cv[0], o.cv[1], o.cv[2], o.cv[3], o.cv[4], o.cv[5], o.cv[6], o.cv[7],
      iv[0], iv[1], iv[2], iv[3], o.counter.toUInt32, (o.counter >>> 32).toUInt32, o.blockLen,
      o.flags]
  let s := rounds 7 s o.block
  Vector.ofFn fun i : Fin 8 => s[i.castAdd 8] ^^^ s[i.natAdd 8]

/-! ## Chunks -/

/-- Cuts a list into pieces of a given size, the last of which may be shorter; there is at least
one. -/
def pieces (size : ℕ) (bs : List UInt8) : List (List UInt8) :=
  (List.range (max 1 ((bs.length + size - 1) / size))).map fun i => (bs.drop (i * size)).take size

/-- The little-endian word at a position; bytes past the end are zero. -/
def wordAt (bs : List UInt8) (i : ℕ) : UInt32 :=
  ((bs.drop (4 * i)).take 4).foldr (fun b acc => b.toUInt32 + 256 * acc) 0

def blockWords (bs : List UInt8) : State := Vector.ofFn fun i => wordAt bs i

/-- The output of a chunk whose first blocks are compressed to `cv`. -/
def chunkBlocks (counter : UInt64) (flags start : UInt32) (cv : Words) :
    List (List UInt8) → Output
  | [] => ⟨cv, blockWords [], counter, 0, flags ||| start ||| chunkEnd⟩
  | [last] => ⟨cv, blockWords last, counter, last.length.toUInt32, flags ||| start ||| chunkEnd⟩
  | block :: blocks =>
    let o : Output := ⟨cv, blockWords block, counter, 64, flags ||| start⟩
    chunkBlocks counter flags 0 o.compress blocks

def chunkOutput (key : Words) (flags : UInt32) (counter : ℕ) (chunk : List UInt8) : Output :=
  chunkBlocks counter.toUInt64 flags chunkStart key (pieces 64 chunk)

/-! ## The tree -/

def parentOutput (key : Words) (flags : UInt32) (left right : Words) : Output :=
  ⟨key, left ++ right, 0, 64, flags ||| parent⟩

/-- The output of the chunks from the `first` on.  The left subtree is the largest complete one
that leaves something to the right. -/
def treeOutput (key : Words) (flags : UInt32) : ℕ → ℕ → List (List UInt8) → Output
  | 0, first, chunks => chunkOutput key flags first (chunks.headD [])
  | fuel + 1, first, chunks =>
    if chunks.length ≤ 1 then chunkOutput key flags first (chunks.headD [])
    else
      let n := 2 ^ Nat.log2 (chunks.length - 1)
      parentOutput key flags (treeOutput key flags fuel first (chunks.take n)).compress
        (treeOutput key flags fuel (first + n) (chunks.drop n)).compress

/-- The words of a hash with a given key. -/
def hashWith (key : Words) (flags : UInt32) (input : List UInt8) : Words :=
  let chunks := pieces 1024 input
  let o := treeOutput key flags chunks.length 0 chunks
  Output.compress { o with counter := 0, flags := o.flags ||| root }

/-- The bytes of a digest. -/
def digestBytes (ws : Words) : Vector UInt8 32 :=
  Vector.ofFn fun i : Fin 32 =>
    (ws[(⟨i / 4, by omega⟩ : Fin 8)] >>> UInt32.ofNat (8 * (i % 4))).toUInt8

/-- `blake3::hash`. -/
def hash (input : List UInt8) : Vector UInt8 32 := digestBytes (hashWith iv 0 input)

/-- `blake3::derive_key`. -/
def deriveKey (context : String) (material : List UInt8) : Vector UInt8 32 :=
  let key := hashWith iv deriveKeyContext context.toUTF8.toList
  digestBytes (hashWith key deriveKeyMaterial material)

end Blake3
