import Mathlib.Data.List.GetD
import SystemScope.Framework.SortedSet
import SystemScope.Platform.Ram

/-!
# The block media

`components/platform/src/media.rs`: a `block.v0` disk that keeps a map of the 512-byte blocks with a
nonzero byte.  A request is traced, then its result is sent; a block has changed before
either. -/

namespace SystemScope

namespace Platform

open Std (ExtTreeMap)

/-- Bytes per block. -/
def blockSize : ℕ := 512

abbrev Block := Cell blockSize

/-- Capacity, timing, and failing blocks of a media. -/
structure BlockMediaConfig where
  capacityBlocks : UInt64
  /-- From accepting a request to sending its result. -/
  latency : LinkLatency
  badBlocks : SortedSet UInt64

/-- The raw disk image of a new session: block 0 onwards; blocks past its end are zero. -/
structure MediaImage where
  imageHash : Digest
  bytes : Bytes
  deriving DecidableEq

/-- Why a media cannot be built. -/
inductive BlockMediaConfigError
  | zeroCapacity
  | partialBlock (len : ℕ)
  | imageTooLarge (blocks : ℕ)
  deriving DecidableEq, Repr

/-- A sparse block device. -/
@[ext]
structure SimpleBlockMedia (config : BlockMediaConfig) where
  imageHash : Digest
  /-- Blocks holding at least one nonzero byte, by LBA. -/
  blocks : ExtTreeMap UInt64 Block

/-- `as_chunks` of whole blocks. -/
def blockChunks (bytes : Bytes) : List Block :=
  (List.range (bytes.length / blockSize)).map fun i =>
    Vector.ofFn fun j => bytes.getD (i * blockSize + j) 0

namespace SimpleBlockMedia

/-- The trace record of an accepted read. -/
def readKind : String := "platform.disk.read"

/-- The trace record of an accepted write. -/
def writeKind : String := "platform.disk.write"

/-- The trace value of a result's outcome. -/
def outcomeName : Option MediaError → String
  | none => "ok"
  | some .outOfRange => "out_of_range"
  | some .badBlock => "bad_block"

variable {config : BlockMediaConfig} (media : SimpleBlockMedia config)

/-- Why an LBA cannot be accessed, if it cannot. -/
def check (config : BlockMediaConfig) (lba : UInt64) : Option MediaError :=
  if config.capacityBlocks ≤ lba then some .outOfRange
  else if lba ∈ config.badBlocks.toList then some .badBlock
  else none

/-- The block at an LBA: the map's entry, or zeros. -/
def load (lba : UInt64) : Bytes :=
  match media.blocks[lba]? with
  | some block => block.toList
  | none => List.replicate blockSize 0

/-- Replaces a block, keeping the map free of blocks of zeros. -/
def store (lba : UInt64) (data : Block) : SimpleBlockMedia config :=
  { media with
    blocks := if data.isZero then media.blocks.erase lba else media.blocks.insert lba data }

/-- Stores the blocks from `lba` on. -/
def storeAll : SimpleBlockMedia config → ℕ → List Block → SimpleBlockMedia config
  | media, _, [] => media
  | media, lba, data :: rest => storeAll (media.store (UInt64.ofNat lba) data) (lba + 1) rest

/-- Creates a media holding `image`. -/
def new (config : BlockMediaConfig) (image : MediaImage) :
    Except BlockMediaConfigError (SimpleBlockMedia config) :=
  if config.capacityBlocks = 0 then .error .zeroCapacity
  else if image.bytes.length % blockSize ≠ 0 then .error (.partialBlock image.bytes.length)
  else if config.capacityBlocks.toNat < image.bytes.length / blockSize then
    .error (.imageTooLarge (image.bytes.length / blockSize))
  else
    .ok <| storeAll { imageHash := image.imageHash, blocks := ∅ } 0 (blockChunks image.bytes)

/-! ## The component -/

/-- Faults the session. -/
def reject (what : String) : Handler (SimpleBlockMedia config) :=
  .done (.error (.componentFault what)) media

/-- Traces an access and sends its result after the configured latency. -/
def answer (kind : String) (lba : UInt64) (error : Option MediaError) (result : BlockMsg) :
    Handler (SimpleBlockMedia config) :=
  .trace kind [("lba", .u64 lba), ("outcome", .str (outcomeName error))] <|
    .send 0 (.block result) (scheduleWhen config.latency) .complete fun r => .done r media

def readBlock (txn : TxnId) (lba : UInt64) : Handler (SimpleBlockMedia config) :=
  match check config lba with
  | none => media.answer readKind lba none (.readResult txn (.data (media.load lba)))
  | some e => media.answer readKind lba (some e) (.readResult txn (.error e))

def writeBlock (txn : TxnId) (lba : UInt64) (data : Bytes) : Handler (SimpleBlockMedia config) :=
  match Cell.ofBytes? blockSize data with
  | none => media.reject "disk: write data is not 512 bytes"
  | some block =>
    match check config lba with
    | none => (media.store lba block).answer writeKind lba none (.writeResult txn .done)
    | some e => media.answer writeKind lba (some e) (.writeResult txn (.error e))

/-- Accepts a request in its phase. -/
def inRequest (k : Handler (SimpleBlockMedia config)) : Handler (SimpleBlockMedia config) :=
  .phase fun phase =>
    if phase ≠ .request then media.reject "disk: request outside the Request phase" else k

def handleEvent : Delivered → Handler (SimpleBlockMedia config)
  | .message port (.block msg) =>
    if port ≠ 0 then media.reject "disk: unexpected delivery"
    else
      match msg with
      | .readResult .. | .writeResult .. => media.reject "disk: result on the target port"
      | .readBlock txn lba => media.inRequest (media.readBlock txn lba)
      | .writeBlock txn lba data => media.inRequest (media.writeBlock txn lba data)
  | .message _ (.mem _) | .message _ (.memV1 _) | .message _ (.irq _) | .wake _ =>
    media.reject "disk: unexpected delivery"

def inspect : StateView where
  fields :=
    [("capacity_blocks", .u64 config.capacityBlocks), ("image_hash", .bytes media.imageHash.toList),
      ("stored_blocks", .u64 (UInt64.ofNat media.blocks.size))]

section

variable [SnapshotData]

open SnapshotData SnapshotField

def badBlockParts (config : BlockMediaConfig) : List (Option Bytes) :=
  len.encode config.badBlocks.size ::
    config.badBlocks.toList.flatMap fun lba => [SnapshotFields.u64.part lba]

def parts : List (Option Bytes) :=
  [SnapshotFields.u64.part config.capacityBlocks] ++ latencyParts config.latency ++
    badBlockParts config ++ [digest.encode media.imageHash] ++
    cellsParts SnapshotFields.u64 media.blocks

/-- The snapshot of the media: its configuration, and its blocks by ascending LBA. -/
def snapshot : Option Bytes := Coder.concat media.parts

/-- The block errors of `restore`. -/
def blockErrors : CellErrors where
  order := "disk: blocks out of order or duplicated"
  pastEnd := "disk: block past the end"
  length := "disk: block is not 512 bytes"
  zero := "disk: all-zero block"

open Restoring

/-- Reads the bad blocks of the configuration, and at most one more. -/
def readBadBlocks (config : BlockMediaConfig) : Restoring Unit := do
  let count ← data len
  let found ← Decodes.replicateM (field SnapshotFields.u64) (min count (config.badBlocks.size + 1))
  if count ≠ config.badBlocks.size ∨ found ≠ config.badBlocks.toList then
    invalid "disk: snapshot has different bad blocks"
  else return ()

/-- Reads the blocks of a media with the given configuration and image hash. -/
def restoreBlocks (config : BlockMediaConfig) (imageHash : Digest) :
    Restoring (ExtTreeMap UInt64 Block) := do
  expect (field SnapshotFields.u64) config.capacityBlocks "disk: snapshot has a different capacity"
  expectRaw (latencyParts config.latency) "disk: snapshot has a different latency"
  readBadBlocks config
  expect (data digest) imageHash "disk: snapshot has a different image hash"
  readCells SnapshotFields.u64 blockErrors (fun lba => lba < config.capacityBlocks)
    fun _ _ => none

/-- Replaces the whole block map with the snapshot's, or leaves it as it is. -/
def restore (bs : Bytes) (_ : UInt32) : SimpleBlockMedia config × Except RestoreError Bytes :=
  (restoreBlocks config media.imageHash).into (fun blocks => { media with blocks }) media bs

instance : Component (SimpleBlockMedia config) where
  typeName _ := "platform.disk"
  ports _ := [{ name := "blk", protocol := blockV0Protocol, role := .target }]
  init media := .done (.ok ()) media
  handleEvent := handleEvent
  snapshotSchemaVersion _ := 1
  snapshot media := media.snapshot.getD []
  restore media := media.restore
  inspect := inspect

end

end SimpleBlockMedia

end Platform

/-!
## The contents of the media

The blocks of a media are the bytes of one disk image.  A media is `Sound` if it stores no block of
zeros and none past its end; its blocks are then determined by its contents, and a new media holds
its image (`contents_of_new`).
-/

namespace Platform

open Std (ExtTreeMap)
open SparseMap (value Canonical put)

namespace SimpleBlockMedia

variable {config : BlockMediaConfig} {media media' : SimpleBlockMedia config}

/-- The block at an LBA, stored or not. -/
def block (media : SimpleBlockMedia config) (lba : UInt64) : Block :=
  value (Cell.zero blockSize) media.blocks lba

/-- The bytes of a media. -/
def contents (media : SimpleBlockMedia config) :
    FlatMemory (config.capacityBlocks.toNat * blockSize) := fun i =>
  (media.block (UInt64.ofNat (i / blockSize))).get ⟨i % blockSize, Nat.mod_lt _ (by decide)⟩

/-- No stored block is all zero, and none is past the end. -/
structure Sound (media : SimpleBlockMedia config) : Prop where
  canonical : Canonical (Cell.zero blockSize) media.blocks
  pastEnd : ∀ lba, config.capacityBlocks ≤ lba → media.block lba = Cell.zero blockSize

lemma blocks_store {lba : UInt64} {data : Block} :
    (media.store lba data).blocks = put (Cell.zero blockSize) media.blocks lba data := by
  unfold store put
  simp only [Cell.isZero_iff]

@[simp] lemma block_store {lba lba' : UInt64} {data : Block} :
    (media.store lba data).block lba' = if lba' = lba then data else media.block lba' := by
  unfold block
  rw [blocks_store, SparseMap.value_put]

lemma Sound.store (h : media.Sound) {lba : UInt64} (hlba : lba < config.capacityBlocks)
    (data : Block) : (media.store lba data).Sound where
  canonical := by
    rw [blocks_store]
    exact h.canonical.put _ _
  pastEnd lba' hpast := by
    rw [block_store, if_neg, h.pastEnd lba' hpast]
    rintro rfl
    exact absurd hlba (UInt64.not_lt.mpr hpast)

/-- Where a byte of a block lies in the image. -/
lemma contents_at {lba : UInt64} (k : Fin blockSize)
    (hlt : lba.toNat * blockSize + k < config.capacityBlocks.toNat * blockSize) :
    media.contents ⟨lba.toNat * blockSize + k, hlt⟩ = (media.block lba).get k := by
  have hk : k.val < blockSize := k.isLt
  have hdiv : (lba.toNat * blockSize + k) / blockSize = lba.toNat := by
    rw [Nat.add_comm, Nat.add_mul_div_right _ _ (by decide), Nat.div_eq_of_lt hk, Nat.zero_add]
  have hmod : (lba.toNat * blockSize + k) % blockSize = k := by
    rw [Nat.add_comm, Nat.add_mul_mod_self_right, Nat.mod_eq_of_lt hk]
  simp only [contents, hdiv, hmod, UInt64.ofNat_toNat]

/-- There is one way to keep contents. -/
lemma Sound.blocks_eq (h : media.Sound) (h' : media'.Sound)
    (heq : media.contents = media'.contents) : media.blocks = media'.blocks := by
  refine h.canonical.ext h'.canonical fun lba => ?_
  show media.block lba = media'.block lba
  by_cases hlba : lba < config.capacityBlocks
  · refine Vector.ext_get fun k => ?_
    have hk : k.val < blockSize := k.isLt
    have hlt : lba.toNat * blockSize + k < config.capacityBlocks.toNat * blockSize := by
      rw [UInt64.lt_iff_toNat_lt] at hlba
      unfold blockSize at hk ⊢
      omega
    rw [← contents_at k hlt, heq, contents_at k hlt]
  · rw [h.pastEnd lba (UInt64.not_lt.mp hlba), h'.pastEnd lba (UInt64.not_lt.mp hlba)]

/-! ## New media -/

lemma storeAll_spec {start : ℕ} {data : List Block}
    (hend : start + data.length ≤ config.capacityBlocks.toNat) (h : media.Sound) :
    (media.storeAll start data).Sound ∧
      (media.storeAll start data).imageHash = media.imageHash ∧
      ∀ lba, (media.storeAll start data).block lba =
        if start ≤ lba.toNat then data.getD (lba.toNat - start) (media.block lba)
        else media.block lba := by
  have hbound := config.capacityBlocks.toNat_lt
  induction data generalizing media start with
  | nil =>
    refine ⟨h, rfl, fun lba => ?_⟩
    simp [storeAll]
  | cons first rest ih =>
    rw [List.length_cons] at hend
    have hstart : (UInt64.ofNat start).toNat = start :=
      UInt64.toNat_ofNat_of_lt' (show start < 2 ^ 64 by omega)
    have hlt : UInt64.ofNat start < config.capacityBlocks := by
      rw [UInt64.lt_iff_toNat_lt, hstart]
      omega
    obtain ⟨hsound, hhash, hblock⟩ :=
      ih (show start + 1 + rest.length ≤ _ by omega) (h.store hlt first)
    refine ⟨hsound, hhash, fun lba => ?_⟩
    have hkey : lba = UInt64.ofNat start ↔ lba.toNat = start := by
      rw [← UInt64.toNat_inj, hstart]
    rw [storeAll, hblock lba, block_store]
    by_cases hfirst : lba.toNat = start
    · rw [if_neg (by omega), if_pos (hkey.mpr hfirst), if_pos (by omega), hfirst, Nat.sub_self]
      rfl
    · rw [if_neg (mt hkey.mp hfirst)]
      by_cases hafter : start ≤ lba.toNat
      · rw [if_pos (by omega), if_pos hafter,
          show lba.toNat - start = lba.toNat - (start + 1) + 1 by omega]
        rfl
      · rw [if_neg (by omega), if_neg hafter]

lemma sound_empty {imageHash : Digest} :
    (SimpleBlockMedia.mk imageHash ∅ : SimpleBlockMedia config).Sound where
  canonical := SparseMap.canonical_empty
  pastEnd _ _ := SparseMap.value_empty

variable {image : MediaImage}

lemma new_eq_ok : new config image = .ok media ↔
    0 < config.capacityBlocks.toNat ∧ image.bytes.length % blockSize = 0 ∧
      image.bytes.length / blockSize ≤ config.capacityBlocks.toNat ∧
      storeAll { imageHash := image.imageHash, blocks := ∅ } 0
        (blockChunks image.bytes) = media := by
  have hzero : config.capacityBlocks = 0 ↔ config.capacityBlocks.toNat = 0 := by
    rw [← UInt64.toNat_inj]
    rfl
  unfold new
  constructor
  · intro h
    split_ifs at h with hcapacity hpartial hlarge
    exact ⟨Nat.pos_of_ne_zero (mt hzero.mpr hcapacity), not_not.mp hpartial, not_lt.mp hlarge,
      Except.ok.inj h⟩
  · intro ⟨hcapacity, hpartial, hlarge, heq⟩
    rw [if_neg (mt hzero.mp (by omega)), if_neg (by omega), if_neg (by omega), heq]

lemma contents_of_new (h : new config image = .ok media) :
    media.Sound ∧ media.imageHash = image.imageHash ∧
      ∀ i, media.contents i = image.bytes.getD i 0 := by
  obtain ⟨-, hpartial, hlarge, rfl⟩ := new_eq_ok.mp h
  have hbound := config.capacityBlocks.toNat_lt
  have hlength : (blockChunks image.bytes).length = image.bytes.length / blockSize := by
    simp [blockChunks]
  have hempty : (SimpleBlockMedia.mk image.imageHash ∅ : SimpleBlockMedia config).Sound :=
    sound_empty
  have hend : 0 + (blockChunks image.bytes).length ≤ config.capacityBlocks.toNat := by omega
  obtain ⟨hsound, hhash, hblock⟩ := storeAll_spec hend hempty
  refine ⟨hsound, hhash, fun i => ?_⟩
  have hi := i.isLt
  have hlt : i / blockSize < config.capacityBlocks.toNat := by
    unfold blockSize at hi ⊢
    omega
  have hlba : (UInt64.ofNat (i / blockSize)).toNat = i / blockSize :=
    UInt64.toNat_ofNat_of_lt' (hlt.trans hbound)
  unfold contents
  rw [hblock, if_pos (Nat.zero_le _), hlba, Nat.sub_zero]
  by_cases hin : i / blockSize < image.bytes.length / blockSize
  · have hget : (blockChunks image.bytes)[i.val / blockSize]? = some (Vector.ofFn fun j =>
        image.bytes.getD (i / blockSize * blockSize + j) 0) := by
      simp [blockChunks, hin]
    rw [List.getD_eq_getElem?_getD, hget]
    simp [Vector.get_eq, Nat.div_add_mod']
  · rw [List.getD_eq_default _ _ (by omega)]
    have hend : image.bytes.length ≤ i := by
      unfold blockSize at hin hpartial
      omega
    rw [List.getD_eq_default _ _ hend]
    simp [block]

end SimpleBlockMedia

end Platform

end SystemScope
