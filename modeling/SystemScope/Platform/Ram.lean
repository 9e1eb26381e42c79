import SystemScope.Platform.Access
import SystemScope.Platform.Storage

/-!
# The sparse RAM

`components/platform/src/ram.rs`: a `mem.v1` memory that keeps a map of the 4096-byte pages with a
nonzero byte.

A RAM belongs to a configuration here.  Offsets are natural numbers inside `load` and `store`: the
source adds in `u64`, and every offset there is below the size of the RAM.
-/

namespace SystemScope

namespace Platform

open MemV1
open Std (ExtTreeMap)

/-- Bytes per page. -/
def pageSize : ℕ := 4096

/-- The largest RAM: the 32-bit address space. -/
def maxSize : UInt64 := 4294967296

abbrev Page := Cell pageSize

/-- Size and timing of a RAM. -/
structure RamConfig where
  /-- Capacity in bytes; offsets outside fault. -/
  size : UInt64
  /-- From accepting a request to sending its response. -/
  latency : LinkLatency
  deriving DecidableEq, Repr

/-- Bytes placed at an offset of the initial image. -/
structure Segment where
  offset : UInt64
  bytes : Bytes
  deriving DecidableEq, Repr

/-- What the RAM of a new session holds.  Unlisted bytes are zero. -/
structure RamImage where
  imageHash : Digest
  segments : List Segment
  deriving DecidableEq

/-- Why a RAM cannot be built. -/
inductive RamConfigError
  | zeroSize
  | tooLarge (size : UInt64)
  | segmentOutOfRange (segment : ℕ)
  | segmentsOverlap (a b : ℕ)
  deriving DecidableEq, Repr

/-- A sparse RAM. -/
@[ext]
structure Ram (config : RamConfig) where
  imageHash : Digest
  /-- Pages holding at least one nonzero byte, by page index. -/
  pages : ExtTreeMap UInt32 Page

/-! ## Building a RAM -/

/-- The half-open span of a segment that is not empty, and which segment it is. -/
structure Span where
  start : ℕ
  stop : ℕ
  segment : ℕ
  deriving DecidableEq, Repr

/-- Spans are sorted as tuples. -/
def Span.key (span : Span) : ℕ ×ₗ ℕ ×ₗ ℕ := toLex (span.start, toLex (span.stop, span.segment))

namespace RamConfig

variable (config : RamConfig)

/-- The spans of the segments from number `i` on, in bounds. -/
def spans : ℕ → List Segment → Except RamConfigError (List Span)
  | _, [] => .ok []
  | i, segment :: rest =>
    let stop := segment.offset.toNat + segment.bytes.length
    if config.size.toNat < stop then .error (.segmentOutOfRange i)
    else
      match spans (i + 1) rest with
      | .error e => .error e
      | .ok later =>
        if segment.offset.toNat < stop then
          .ok ({ start := segment.offset.toNat, stop, segment := i } :: later)
        else .ok later

end RamConfig

/-- The first two neighbours that share a byte. -/
def firstOverlap : List Span → Option (ℕ × ℕ)
  | a :: b :: rest =>
    if b.start < a.stop then some (min a.segment b.segment, max a.segment b.segment)
    else firstOverlap (b :: rest)
  | _ => none

/-- The index of the page holding an offset, which is below `maxSize`. -/
def pageIndex (offset : ℕ) : UInt32 := UInt32.ofNat (offset / pageSize)

namespace Ram

/-- Writes part of one page, keeping the map free of pages of zeros. -/
def storeChunk (pages : ExtTreeMap UInt32 Page) (index : UInt32) (start : ℕ) (chunk : Bytes) :
    ExtTreeMap UInt32 Page :=
  match pages[index]? with
  | some page =>
    let page' := page.overlay start chunk
    if page'.isZero then pages.erase index else pages.insert index page'
  | none =>
    if chunk.any (· ≠ 0) then pages.insert index ((Cell.zero pageSize).overlay start chunk)
    else pages

/-- How much of `len` bytes from `offset` on lies in the first page. -/
def chunkLength (offset len : ℕ) : ℕ := min (pageSize - offset % pageSize) len

lemma chunkLength_le {offset len : ℕ} : chunkLength offset len ≤ len := min_le_right _ _

lemma chunkLength_pos {offset len : ℕ} (h : 0 < len) : 0 < chunkLength offset len := by
  have hlt : offset % pageSize < pageSize := Nat.mod_lt _ (by decide)
  unfold chunkLength
  omega

/-- Writes bytes page by page. -/
def storeFrom (pages : ExtTreeMap UInt32 Page) (offset : ℕ) (data : Bytes) :
    ExtTreeMap UInt32 Page :=
  if _h : data = [] then pages
  else
    let n := chunkLength offset data.length
    storeFrom (storeChunk pages (pageIndex offset) (offset % pageSize) (data.take n)) (offset + n)
      (data.drop n)
termination_by data.length
decreasing_by
  have hlength := List.length_pos_iff.mpr _h
  have hpos : 0 < chunkLength offset data.length := chunkLength_pos hlength
  rw [List.length_drop]
  omega

/-- Reads part of one page; a page that is not there reads as zero. -/
def loadChunk (pages : ExtTreeMap UInt32 Page) (index : UInt32) (start n : ℕ) : Bytes :=
  match pages[index]? with
  | some page => (page.toList.drop start).take n
  | none => List.replicate n 0

/-- Reads bytes page by page. -/
def loadFrom (pages : ExtTreeMap UInt32 Page) (offset len : ℕ) : Bytes :=
  if _h : len = 0 then []
  else
    let n := chunkLength offset len
    loadChunk pages (pageIndex offset) (offset % pageSize) n ++ loadFrom pages (offset + n)
      (len - n)
termination_by len
decreasing_by
  have hpos : 0 < chunkLength offset len := chunkLength_pos (Nat.pos_of_ne_zero _h)
  omega

variable {config : RamConfig} (ram : Ram config)

/-- The bytes `offset..offset + len`, which the caller has checked are in range. -/
def load (offset len : ℕ) : Bytes := loadFrom ram.pages offset len

/-- Writes `data` at `offset`, which the caller has checked is in range. -/
def store (offset : ℕ) (data : Bytes) : Ram config :=
  { ram with pages := storeFrom ram.pages offset data }

/-- Creates a RAM holding `image`. -/
def new (config : RamConfig) (image : RamImage) : Except RamConfigError (Ram config) :=
  if config.size = 0 then .error .zeroSize
  else if maxSize < config.size then .error (.tooLarge config.size)
  else
    match config.spans 0 image.segments with
    | .error e => .error e
    | .ok spans =>
      match firstOverlap (spans.insertionSort fun a b => a.key ≤ b.key) with
      | some (a, b) => .error (.segmentsOverlap a b)
      | none =>
        .ok <| image.segments.foldl
          (fun ram segment => ram.store segment.offset.toNat segment.bytes)
          { imageHash := image.imageHash, pages := ∅ }

/-! ## The component -/

/-- Faults the session. -/
def reject (what : String) : Handler (Ram config) := .done (.error (.componentFault what)) ram

/-- Sends a response after the configured latency; the memory has changed by then. -/
def respond (resp : MemV1.MemMsg) : Handler (Ram config) :=
  .send 0 (.memV1 resp) (scheduleWhen config.latency) .complete fun result => .done result ram

/-- Samples a read or applies a write. -/
def accept (inRange : Bool) : MemV1.MemMsg → Handler (Ram config)
  | .readReq txn addr len =>
    ram.respond <| .readResp txn <|
      if inRange then .data (ram.load addr.toNat len.toNat) else .fault .accessFault
  | .writeReq txn addr data =>
    if inRange then (ram.store addr.toNat data).respond (.writeResp txn .done)
    else ram.respond (.writeResp txn (.fault .accessFault))
  | .readResp .. | .writeResp .. => ram.reject "ram: response on the target port"

def handleEvent : Delivered → Handler (Ram config)
  | .message _ (.memV1 msg) =>
    match msg.access with
    | none => ram.reject "ram: response on the target port"
    | some .empty => ram.reject "ram: zero-length request"
    | some .outOfRange => ram.accept false msg
    | some (.bytes _ last) => ram.accept (last < config.size) msg
  | .message _ (.mem _) | .message _ (.irq _) | .message _ (.block _) | .wake _ =>
    ram.reject "ram: unexpected delivery"

def inspect : StateView where
  fields :=
    [("size", .u64 config.size), ("image_hash", .bytes ram.imageHash.toList),
      ("non_zero_pages", .u64 (UInt64.ofNat ram.pages.size))]

section

variable [SnapshotData]

open SnapshotData SnapshotField

def parts : List (Option Bytes) :=
  [SnapshotFields.u64.part config.size, digest.encode ram.imageHash] ++
    latencyParts config.latency ++ cellsParts SnapshotFields.u32 ram.pages

/-- The snapshot of the RAM: its configuration, and its pages by ascending index. -/
def snapshot : Option Bytes := Coder.concat ram.parts

/-- The page errors of `restore`. -/
def pageErrors : CellErrors where
  order := "ram: pages out of order or duplicated"
  pastEnd := "ram: page past the end"
  length := "ram: page is not 4096 bytes"
  zero := "ram: all-zero page"

/-- Refuses nonzero bytes past `size` in the last page. -/
def checkTail (config : RamConfig) (index : UInt32) (page : Page) : Option String :=
  let valid := min (config.size.toNat - index.toNat * pageSize) pageSize
  if (page.toList.drop valid).any (· ≠ 0) then some "ram: non-zero bytes past the end" else none

open Restoring in
/-- Reads the pages of a RAM with the given configuration and image hash. -/
def restorePages (config : RamConfig) (imageHash : Digest) :
    Restoring (ExtTreeMap UInt32 Page) := do
  expect (field SnapshotFields.u64) config.size "ram: snapshot has a different size"
  expect (data digest) imageHash "ram: snapshot has a different image hash"
  expectRaw (latencyParts config.latency) "ram: snapshot has a different latency"
  readCells SnapshotFields.u32 pageErrors (fun index => index.toNat * pageSize < config.size.toNat)
    (checkTail config)

/-- Replaces the whole memory with the snapshot's, or leaves it as it is. -/
def restore (bs : Bytes) (_ : UInt32) : Ram config × Except RestoreError Bytes :=
  (restorePages config ram.imageHash).into (fun pages => { ram with pages }) ram bs

instance : Component (Ram config) where
  typeName _ := "platform.ram"
  ports _ := [{ name := "mem", protocol := memV1Protocol, role := .target }]
  init ram := .done (.ok ()) ram
  handleEvent := handleEvent
  snapshotSchemaVersion _ := 1
  snapshot ram := ram.snapshot.getD []
  restore ram := ram.restore
  inspect := inspect

end

end Ram

end Platform

/-!
## A plain array of bytes

What a RAM is for: `mem.v1` requests answered from an array.  A request that reaches past the end is
answered with a fault; what is not a memory access has no answer.
-/

namespace Platform

open MemV1

/-- An array of `n` bytes. -/
abbrev FlatMemory (n : ℕ) := Fin n → UInt8

namespace FlatMemory

variable {n : ℕ} (m : FlatMemory n)

/-- The bytes from `offset` on. -/
def read (offset len : ℕ) (h : offset + len ≤ n) : Bytes :=
  List.ofFn fun k : Fin len => m ⟨offset + k, by omega⟩

/-- The bytes from `offset` on replaced. -/
def write (offset : ℕ) (data : Bytes) : FlatMemory n := fun i =>
  if offset ≤ i ∧ i < offset + data.length then data.getD (i - offset) 0 else m i

/-- The response to a request, and the array after it. -/
def respond : MemV1.MemMsg → Option (MemV1.MemMsg × FlatMemory n)
  | .readReq txn addr len =>
    if len.toNat = 0 then none
    else if h : addr.toNat + len.toNat ≤ n then
      some (.readResp txn (.data (m.read addr.toNat len.toNat h)), m)
    else some (.readResp txn (.fault .accessFault), m)
  | .writeReq txn addr data =>
    if data.length = 0 then none
    else if addr.toNat + data.length ≤ n then
      some (.writeResp txn .done, m.write addr.toNat data)
    else some (.writeResp txn (.fault .accessFault), m)
  | .readResp .. | .writeResp .. => none

/-- The responses to a sequence of messages, and the array after them. -/
def respondAll (m : FlatMemory n) :
    List MemV1.MemMsg → List (Option MemV1.MemMsg) × FlatMemory n
  | [] => ([], m)
  | msg :: rest =>
    match m.respond msg with
    | none =>
      let (responses, m') := respondAll m rest
      (none :: responses, m')
    | some (resp, m₁) =>
      let (responses, m') := respondAll m₁ rest
      (some resp :: responses, m')

end FlatMemory

/-- The segment places a byte at an offset. -/
def Segment.Covers (segment : Segment) (offset : ℕ) : Prop :=
  segment.offset.toNat ≤ offset ∧ offset < segment.offset.toNat + segment.bytes.length

instance (segment : Segment) (offset : ℕ) : Decidable (segment.Covers offset) :=
  inferInstanceAs (Decidable (_ ∧ _))

/-- The byte that an image places at an offset. -/
def RamImage.byteAt (image : RamImage) (offset : ℕ) : UInt8 :=
  match image.segments.find? fun segment => segment.Covers offset with
  | some segment => segment.bytes.getD (offset - segment.offset.toNat) 0
  | none => 0

/-- The array that an image describes. -/
def RamImage.contents (image : RamImage) (n : ℕ) : FlatMemory n := fun i => image.byteAt i

end Platform

end SystemScope
