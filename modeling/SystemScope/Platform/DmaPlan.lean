import SystemScope.Platform.Dma

/-!
# What a DMA command is for

A command moves blocks between a disk and a memory, in exchanges with either: a block is read, then
written to memory in beats; or its beats are read, then the block is written to the disk.
`Contents.serve` is what the peers do with a request.  `Transfer` is a command together with what
the peers hold at its start; its exchanges, and what the peers hold after any number of them
(`Transfer.after`), are functions of the transfer alone.

The exchanges of block `i` are numbered from 0 to 32: the block request is the first of a READ, and
the last of a WRITE.
-/

namespace SystemScope.Platform

/-- What a memory and a disk hold. -/
@[ext]
structure Contents where
  memory : ℕ → UInt8
  /-- The blocks of the disk. -/
  disk : ℕ → Block

namespace Contents

/-- The bytes of memory from `addr` on. -/
def bytes (held : Contents) (addr len : ℕ) : Bytes :=
  (List.range len).map fun k => held.memory (addr + k)

/-- The block that memory holds from `addr` on. -/
def blockAt (held : Contents) (addr : ℕ) : Block := Vector.ofFn fun k => held.memory (addr + k)

/-- Writes bytes to memory. -/
def write (held : Contents) (addr : ℕ) (data : Bytes) : Contents :=
  { held with
    memory := fun a =>
      if addr ≤ a ∧ a < addr + data.length then data.getD (a - addr) 0 else held.memory a }

/-- Writes a block to the disk. -/
def store (held : Contents) (lba : ℕ) (block : Block) : Contents :=
  { held with disk := fun b => if b = lba then block else held.disk b }

/-- Serves a request: the answer, and what is held afterwards. -/
def serve (held : Contents) : Message → Option (Message × Contents)
  | .memV1 (.readReq txn addr len) =>
    some (.memV1 (.readResp txn (.data (held.bytes addr.toNat len.toNat))), held)
  | .memV1 (.writeReq txn addr data) =>
    some (.memV1 (.writeResp txn .done), held.write addr.toNat data)
  | .block (.readBlock txn lba) =>
    some (.block (.readResult txn (.data (held.disk lba.toNat).toList)), held)
  | .block (.writeBlock txn lba data) =>
    (Cell.ofBytes? blockSize data).map fun block =>
      (.block (.writeResult txn .done), held.store lba.toNat block)
  | _ => none

end Contents

/-- The answer to a request that is refused: a fault, or an error of the media. -/
def refusal (fault : MemV1.MemFault) (error : MediaError) : Message → Option Message
  | .memV1 (.readReq txn _ _) => some (.memV1 (.readResp txn (.fault fault)))
  | .memV1 (.writeReq txn _ _) => some (.memV1 (.writeResp txn (.fault fault)))
  | .block (.readBlock txn _) => some (.block (.readResult txn (.error error)))
  | .block (.writeBlock txn _ _) => some (.block (.writeResult txn (.error error)))
  | _ => none

/-- A command, and what the peers of the engine hold when it is accepted. -/
structure Transfer where
  command : Latched
  source : Contents
  /-- The next transaction on `dma`. -/
  dmaTxn : ℕ
  /-- The next transaction on `blk`. -/
  blkTxn : ℕ

/-- One exchange of the engine. -/
structure Exchange where
  port : PortId
  request : Message
  answer : Message
  deriving DecidableEq

namespace Transfer

variable (x : Transfer)

/-- The number of blocks. -/
def count : ℕ := x.command.count.toNat

/-- The first block. -/
def lba : ℕ := x.command.lba.toNat

/-- The first byte in memory. -/
def addr : ℕ := x.command.addr.toNat

/-- The data of a READ's block: block `i` of the command. -/
def sourceBlock (i : ℕ) : Block := x.source.disk (x.lba + i)

/-- The byte that a READ brings to an address. -/
def image (a : ℕ) : UInt8 :=
  (x.sourceBlock ((a - x.addr) / blockSize)).get
    ⟨(a - x.addr) % blockSize, Nat.mod_lt _ (by decide)⟩

/-- The data of a WRITE's block: block `i` of the command. -/
def targetBlock (i : ℕ) : Block := x.source.blockAt (x.addr + blockSize * i)

/-- The exchange with the media for block `i`. -/
def blockExchange (i : ℕ) : Exchange :=
  let txn := UInt64.ofNat (x.blkTxn + i)
  let lba := UInt64.ofNat (x.lba + i)
  match x.command.op with
  | .read =>
    { port := DmaBlockController.blkPort
      request := .block (.readBlock txn lba)
      answer := .block (.readResult txn (.data (x.sourceBlock i).toList)) }
  | .write =>
    { port := DmaBlockController.blkPort
      request := .block (.writeBlock txn lba (x.targetBlock i).toList)
      answer := .block (.writeResult txn .done) }

/-- The exchange with memory for the bytes from `16 * k` on. -/
def beatExchange (k : ℕ) : Exchange :=
  let txn := UInt64.ofNat (x.dmaTxn + k)
  let addr := x.addr + beatSize * k
  match x.command.op with
  | .read =>
    { port := DmaBlockController.dmaPort
      request := .memV1 (.writeReq txn (UInt64.ofNat addr)
        ((List.range beatSize).map fun j => x.image (addr + j)))
      answer := .memV1 (.writeResp txn .done) }
  | .write =>
    { port := DmaBlockController.dmaPort
      request := .memV1 (.readReq txn (UInt64.ofNat addr) 16)
      answer := .memV1 (.readResp txn (.data (x.source.bytes addr beatSize))) }

/-- Exchange `t` of block `i`. -/
def exchange (i t : ℕ) : Exchange :=
  match x.command.op with
  | .read => if t = 0 then x.blockExchange i else x.beatExchange (32 * i + (t - 1))
  | .write => if t = 32 then x.blockExchange i else x.beatExchange (32 * i + t)

/-- The exchanges before exchange `t` of block `i`. -/
def before (i t : ℕ) : List Exchange :=
  ((List.range i).flatMap fun i => (List.range 33).map (x.exchange i)) ++
    (List.range t).map (x.exchange i)

/-- All exchanges of the command. -/
def exchanges : List Exchange := x.before x.count 0

/-- How many beats there are before exchange `t` of block `i`. -/
def beatsBefore (i t : ℕ) : ℕ :=
  match x.command.op with
  | .read => 32 * i + (t - 1)
  | .write => 32 * i + min t 32

/-- How many block requests there are before exchange `t` of block `i`. -/
def blocksBefore (i t : ℕ) : ℕ :=
  match x.command.op with
  | .read => i + min t 1
  | .write => i + (t - 32)

/-- What is held after the exchanges before exchange `t` of block `i`. -/
def after (i t : ℕ) : Contents :=
  match x.command.op with
  | .read =>
    { x.source with
      memory := fun a =>
        if x.addr ≤ a ∧ a < x.addr + beatSize * x.beatsBefore i t then x.image a
        else x.source.memory a }
  | .write =>
    { x.source with
      disk := fun b =>
        if x.lba ≤ b ∧ b < x.lba + x.blocksBefore i t then x.targetBlock (b - x.lba)
        else x.source.disk b }

/-- The error that ends the command if exchange `t` of a block fails. -/
def errorOf (t : ℕ) : UInt8 :=
  match x.command.op with
  | .read => if t = 0 then DmaBlockController.mediaError else DmaBlockController.dmaFault
  | .write => if t = 32 then DmaBlockController.mediaError else DmaBlockController.dmaFault

/-! ## Counting -/

variable {x : Transfer} {i t : ℕ}

lemma before_succ : x.before i (t + 1) = x.before i t ++ [x.exchange i t] := by
  have hmap : (List.range (t + 1)).map (x.exchange i) =
      (List.range t).map (x.exchange i) ++ [x.exchange i t] := by
    rw [List.range_succ, List.map_append]
    rfl
  rw [before, before, hmap, List.append_assoc]

/-- The end of a block is the start of the next one. -/
lemma before_end : x.before i 33 = x.before (i + 1) 0 := by
  simp [before, List.range_succ, List.flatMap_append]

lemma beatsBefore_end : x.beatsBefore i 33 = x.beatsBefore (i + 1) 0 := by
  unfold beatsBefore
  cases x.command.op with
  | read =>
    dsimp only
    omega
  | write =>
    dsimp only
    omega

lemma blocksBefore_end : x.blocksBefore i 33 = x.blocksBefore (i + 1) 0 := by
  unfold blocksBefore
  cases x.command.op <;> rfl

lemma after_end : x.after i 33 = x.after (i + 1) 0 := by
  unfold after
  rw [beatsBefore_end, blocksBefore_end]

/-- What is held at the start is held before the first exchange. -/
lemma after_start : x.after 0 0 = x.source := by
  unfold after beatsBefore blocksBefore
  cases x.command.op with
  | read =>
    ext a
    · dsimp only
      rw [if_neg (by omega)]
    · rfl
  | write =>
    ext a
    · rfl
    · dsimp only
      rw [if_neg (by omega)]

/-! ## Others -/

end Transfer

/-- The addresses and blocks that others may write. -/
structure Others where
  addresses : Set ℕ
  blocks : Set ℕ

/-- The same is held, but for what others may write. -/
structure Contents.Agrees (others : Others) (held held' : Contents) : Prop where
  memory : ∀ a, a ∉ others.addresses → held.memory a = held'.memory a
  disk : ∀ b, b ∉ others.blocks → held.disk b = held'.disk b

/-- No one else writes the memory and the blocks of a command. -/
structure Others.Avoid (others : Others) (x : Transfer) : Prop where
  memory : ∀ a, x.addr ≤ a → a < x.addr + blockSize * x.count → a ∉ others.addresses
  disk : ∀ b, x.lba ≤ b → b < x.lba + x.count → b ∉ others.blocks

lemma Others.Avoid.none (x : Transfer) : Others.Avoid ⟨∅, ∅⟩ x :=
  ⟨fun _ _ _ => id, fun _ _ _ => id⟩

namespace Contents.Agrees

variable {others : Others} {held held₁ held₂ : Contents}

lemma refl (held : Contents) : held.Agrees others held := ⟨fun _ _ => rfl, fun _ _ => rfl⟩

lemma trans (h : held.Agrees others held₁) (h' : held₁.Agrees others held₂) :
    held.Agrees others held₂ :=
  ⟨fun a ha => (h.memory a ha).trans (h'.memory a ha),
    fun b hb => (h.disk b hb).trans (h'.disk b hb)⟩

end Contents.Agrees

namespace Transfer

variable {x : Transfer} {others : Others} {held : Contents} {i t : ℕ}

/-! ## One exchange -/

lemma toNat_lba (hi : i < x.count) : (UInt64.ofNat (x.lba + i)).toNat = x.lba + i := by
  have hlba := x.command.lba.toNat_lt
  have hcount := x.command.count.toNat_lt
  unfold lba
  unfold count at hi
  exact UInt64.toNat_ofNat_of_lt' (show _ < 2 ^ 64 by omega)

lemma toNat_addr {k : ℕ} (hk : k < 32 * x.count) :
    (UInt64.ofNat (x.addr + beatSize * k)).toNat = x.addr + beatSize * k := by
  have haddr := x.command.addr.toNat_lt
  have hcount := x.command.count.toNat_lt
  unfold addr beatSize
  unfold count at hk
  exact UInt64.toNat_ofNat_of_lt' (show _ < 2 ^ 64 by omega)

lemma serve_readBlock (hothers : others.Avoid x) (hop : x.command.op = .read) (hi : i < x.count)
    (hheld : held.Agrees others (x.after i 0)) :
    held.serve (x.blockExchange i).request = some ((x.blockExchange i).answer, held) := by
  have hdisk : held.disk (x.lba + i) = x.sourceBlock i := by
    rw [hheld.disk _ (hothers.disk _ (Nat.le_add_right _ _) (by omega)), after, hop]
    rfl
  simp only [blockExchange, hop, Contents.serve, toNat_lba hi, hdisk]

lemma serve_writeBeat (hop : x.command.op = .read) {k : ℕ} (hk : k < 32 * x.count) :
    held.serve (x.beatExchange k).request = some ((x.beatExchange k).answer,
      held.write (x.addr + beatSize * k)
        ((List.range beatSize).map fun j => x.image (x.addr + beatSize * k + j))) := by
  simp only [beatExchange, hop, Contents.serve, toNat_addr hk]

lemma serve_readBeat (hothers : others.Avoid x) (hop : x.command.op = .write) (hi : i < x.count)
    (ht : t < 32) (hheld : held.Agrees others (x.after i t)) :
    held.serve (x.beatExchange (32 * i + t)).request =
      some ((x.beatExchange (32 * i + t)).answer, held) := by
  have hk : 32 * i + t < 32 * x.count := by omega
  have hlen : (16 : UInt32).toNat = beatSize := rfl
  have hbytes : held.bytes (x.addr + beatSize * (32 * i + t)) beatSize =
      x.source.bytes (x.addr + beatSize * (32 * i + t)) beatSize := by
    refine List.map_congr_left fun j hj => ?_
    have hlt : j < beatSize := List.mem_range.mp hj
    rw [hheld.memory _ (hothers.memory _ (by omega) ?_), after, hop]
    unfold beatSize at hlt ⊢
    unfold blockSize
    omega
  simp only [beatExchange, hop, Contents.serve, toNat_addr hk, hlen, hbytes]

lemma serve_writeBlock (hop : x.command.op = .write) (hi : i < x.count) :
    held.serve (x.blockExchange i).request =
      some ((x.blockExchange i).answer, held.store (x.lba + i) (x.targetBlock i)) := by
  have hcell : Cell.ofBytes? blockSize (x.targetBlock i).toList = some (x.targetBlock i) :=
    Cell.ofBytes?_eq_some.mpr rfl
  simp only [blockExchange, hop, Contents.serve, toNat_lba hi, hcell, Option.map_some]

lemma agrees_write (hop : x.command.op = .read) {j : ℕ}
    (hheld : held.Agrees others (x.after i (j + 1))) :
    (held.write (x.addr + beatSize * (32 * i + j))
      ((List.range beatSize).map fun k => x.image (x.addr + beatSize * (32 * i + j) + k))).Agrees
        others (x.after i (j + 2)) := by
  have hbefore (t : ℕ) : x.beatsBefore i (t + 1) = 32 * i + t := by
    simp only [beatsBefore, hop, Nat.add_sub_cancel]
  refine ⟨fun a ha => ?_, fun b hb => ?_⟩
  · have hmemory := hheld.memory a ha
    simp only [after, hop, hbefore] at hmemory ⊢
    simp only [Contents.write, List.length_map, List.length_range]
    by_cases hbeat : x.addr + beatSize * (32 * i + j) ≤ a ∧
        a < x.addr + beatSize * (32 * i + j) + beatSize
    · have hlt : a - (x.addr + beatSize * (32 * i + j)) < beatSize := by omega
      rw [if_pos hbeat, if_pos (by unfold beatSize at hbeat ⊢; omega),
        List.getD_eq_getElem?_getD, List.getElem?_map, List.getElem?_range hlt, Option.map_some,
        Option.getD_some]
      congr 1
      omega
    · rw [if_neg hbeat, hmemory]
      congr 1
      rw [eq_iff_iff]
      unfold beatSize at hbeat ⊢
      omega
  · have hdisk := hheld.disk b hb
    simp only [after, hop] at hdisk ⊢
    exact hdisk

lemma agrees_store (hop : x.command.op = .write) (hheld : held.Agrees others (x.after i 32)) :
    (held.store (x.lba + i) (x.targetBlock i)).Agrees others (x.after i 33) := by
  refine ⟨fun a ha => ?_, fun b hb => ?_⟩
  · have hmemory := hheld.memory a ha
    simp only [after, hop] at hmemory ⊢
    exact hmemory
  · have hdisk := hheld.disk b hb
    simp only [after, hop, blocksBefore] at hdisk ⊢
    simp only [Contents.store]
    by_cases hb : b = x.lba + i
    · rw [if_pos hb, if_pos (by omega), hb, Nat.add_sub_cancel_left]
    · rw [if_neg hb, hdisk]
      congr 1
      rw [eq_iff_iff]
      omega

/-- The peers serve the requests of a command with its answers, and hold what they should
afterwards. -/
lemma serve_exchange (hothers : others.Avoid x) (hi : i < x.count) (ht : t < 33)
    (hheld : held.Agrees others (x.after i t)) :
    ∃ held', held.serve (x.exchange i t).request = some ((x.exchange i t).answer, held') ∧
      held'.Agrees others (x.after i (t + 1)) := by
  cases hop : x.command.op with
  | read =>
    cases t with
    | zero =>
      refine ⟨held, ?_, ?_⟩
      · simp only [exchange, hop, if_true]
        exact serve_readBlock hothers hop hi hheld
      · have hsame : x.after i 1 = x.after i 0 := by simp [after, beatsBefore, hop]
        rw [Nat.zero_add, hsame]
        exact hheld
    | succ j =>
      have hk : 32 * i + j < 32 * x.count := by omega
      refine ⟨_, ?_, agrees_write hop hheld⟩
      simp only [exchange, hop, Nat.add_sub_cancel, if_neg (Nat.succ_ne_zero j)]
      exact serve_writeBeat hop hk
  | write =>
    by_cases hlast : t = 32
    · subst hlast
      refine ⟨_, ?_, agrees_store hop hheld⟩
      simp only [exchange, hop, if_true]
      exact serve_writeBlock hop hi
    · refine ⟨held, ?_, ?_⟩
      · simp only [exchange, hop, if_neg hlast]
        exact serve_readBeat hothers hop hi (by omega) hheld
      · have hsame : x.after i (t + 1) = x.after i t := by
          have hcount : i + (t + 1 - 32) = i + (t - 32) := by omega
          simp only [after, blocksBefore, hop, hcount]
        rw [hsame]
        exact hheld

/-! ## The data -/

lemma length_sourceBlock : (x.sourceBlock i).toList.length = blockSize := Vector.length_toList

lemma map_image {j : ℕ} (hj : j < 32) :
    (List.range beatSize).map (fun k => x.image (x.addr + beatSize * (32 * i + j) + k)) =
      ((x.sourceBlock i).toList.drop (j * beatSize)).take beatSize := by
  have hlength :
    (((x.sourceBlock i).toList.drop (j * beatSize)).take beatSize).length = beatSize := by
    rw [List.length_take, List.length_drop, length_sourceBlock]
    unfold blockSize beatSize
    omega
  refine List.ext_getElem (by simp [hlength]) fun k hk _ => ?_
  simp only [List.length_map, List.length_range] at hk
  have hdiv : (x.addr + beatSize * (32 * i + j) + k - x.addr) / blockSize = i := by
    unfold beatSize blockSize at *
    omega
  have hmod : (x.addr + beatSize * (32 * i + j) + k - x.addr) % blockSize = j * beatSize + k := by
    unfold beatSize blockSize at *
    omega
  simp [image, hdiv, hmod, Vector.get_eq]

/-- The bytes that a WRITE has read in the end are its block. -/
lemma bytes_targetBlock :
    x.source.bytes (x.addr + blockSize * i) blockSize = (x.targetBlock i).toList := by
  refine List.ext_getElem (by simp [Contents.bytes]) fun k hk _ => ?_
  simp [Contents.bytes, targetBlock, Contents.blockAt]

lemma bytes_append (held : Contents) (a m n : ℕ) :
    held.bytes a m ++ held.bytes (a + m) n = held.bytes a (m + n) := by
  simp [Contents.bytes, List.range_add, Nat.add_assoc, Function.comp_def]

lemma length_bytes (held : Contents) (a n : ℕ) : (held.bytes a n).length = n := by
  simp [Contents.bytes]

/-! ## Kinds of exchanges -/

/-- Exchange `t` of a block is the one with the media. -/
def AsksBlock (x : Transfer) (t : ℕ) : Prop :=
  match x.command.op with
  | .read => t = 0
  | .write => t = 32

instance (x : Transfer) (t : ℕ) : Decidable (x.AsksBlock t) := by
  unfold AsksBlock
  cases x.command.op <;> exact inferInstance

lemma exchange_block (h : x.AsksBlock t) : x.exchange i t = x.blockExchange i := by
  unfold AsksBlock at h
  unfold exchange
  cases hop : x.command.op with
  | read =>
    rw [hop] at h
    exact if_pos h
  | write =>
    rw [hop] at h
    exact if_pos h

lemma exchange_beat (h : ¬x.AsksBlock t) (ht : t < 33) :
    x.exchange i t = x.beatExchange (x.beatsBefore i t) := by
  unfold AsksBlock at h
  unfold exchange beatsBefore
  cases hop : x.command.op with
  | read =>
    rw [hop] at h
    exact if_neg h
  | write =>
    rw [hop] at h
    dsimp only at h ⊢
    rw [if_neg h, Nat.min_eq_left (by omega)]

lemma before_succ_block (h : x.AsksBlock t) :
    x.blocksBefore i t = i ∧ x.blocksBefore i (t + 1) = i + 1 ∧
      x.beatsBefore i (t + 1) = x.beatsBefore i t := by
  unfold AsksBlock at h
  unfold blocksBefore beatsBefore
  cases hop : x.command.op with
  | read =>
    rw [hop] at h
    dsimp only at h ⊢
    omega
  | write =>
    rw [hop] at h
    dsimp only at h ⊢
    omega

lemma before_succ_beat (h : ¬x.AsksBlock t) (ht : t < 33) :
    x.beatsBefore i (t + 1) = x.beatsBefore i t + 1 ∧
      x.blocksBefore i (t + 1) = x.blocksBefore i t := by
  unfold AsksBlock at h
  unfold blocksBefore beatsBefore
  cases hop : x.command.op with
  | read =>
    rw [hop] at h
    dsimp only at h ⊢
    omega
  | write =>
    rw [hop] at h
    dsimp only at h ⊢
    omega

lemma beatsBefore_lt (h : ¬x.AsksBlock t) (hi : i < x.count) (ht : t < 33) :
    x.beatsBefore i t < 32 * x.count := by
  unfold AsksBlock at h
  unfold beatsBefore
  cases hop : x.command.op with
  | read =>
    rw [hop] at h
    dsimp only at h ⊢
    omega
  | write =>
    rw [hop] at h
    dsimp only at h ⊢
    omega

lemma errorOf_eq : x.errorOf t =
    if x.AsksBlock t then DmaBlockController.mediaError else DmaBlockController.dmaFault := by
  unfold errorOf
  by_cases h : x.AsksBlock t
  · rw [if_pos h]
    unfold AsksBlock at h
    cases hop : x.command.op <;> rw [hop] at h <;> exact if_pos h
  · rw [if_neg h]
    unfold AsksBlock at h
    cases hop : x.command.op <;> rw [hop] at h <;> exact if_neg h

lemma blockExchange_port : (x.blockExchange i).port = DmaBlockController.blkPort := by
  unfold blockExchange
  cases x.command.op <;> rfl

lemma beatExchange_port : (x.beatExchange i).port = DmaBlockController.dmaPort := by
  unfold beatExchange
  cases x.command.op <;> rfl

end Transfer

end SystemScope.Platform
