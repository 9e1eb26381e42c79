import SystemScope.Platform.BusConfig

/-!
# Snapshots of the multi-master bus

Schema 1 of `components/platform/src/mmbus.rs`: the configuration, the downstream counter, and of
each region its active transaction, its cursor and its FIFOs.  A FIFO or a name whose length does
not fit the format has no encoding; the writer stops the simulator there.
-/

namespace SystemScope

namespace Platform

open MemV1 SnapshotData SnapshotField

variable [SnapshotData]

namespace MultiMasterBusConfig

open SnapshotFields

variable (config : MultiMasterBusConfig)

def regionParts (region : Region) : List (Option Bytes) :=
  [str.encode region.name, u64.part region.base, u64.part region.size]

/-- `write_config`. -/
def parts : List (Option Bytes) :=
  len.encode config.regions.length :: config.regions.flatMap regionParts ++
    (len.encode config.masters.length :: config.masters.flatMap fun name => [str.encode name]) ++
    [u32.part config.clock]

/-- The error of `read_config`. -/
def different : String :=
  "multi-master bus: snapshot was taken with a different configuration"

open Restoring in
/-- Reads the configuration of the bus, and nothing else. -/
def readConfig : Restoring Unit := do
  expect (data len) config.regions.length different
  config.regions.forM fun region => do
    expect (data str) region.name different
    expect (field u64) region.base different
    expect (field u64) region.size different
  expect (data len) config.masters.length different
  config.masters.forM fun name => expect (data str) name different
  expect (field u32) config.clock different

end MultiMasterBusConfig

/-! ## Regions -/

section

variable {masters : ℕ}

open SnapshotFields

def ActiveTxn.parts (active : ActiveTxn masters) : List (Option Bytes) :=
  [u16.part (UInt16.ofNat active.master), u64.part active.originalTxn,
    u64.part active.downstreamTxn, bool.part active.write]

/-- An active transaction behind its tag. -/
def activeParts : Option (ActiveTxn masters) → List (Option Bytes)
  | none => [u8.part 0]
  | some active => u8.part 1 :: active.parts

def queueParts (queue : List MemV1.MemMsg) : List (Option Bytes) :=
  len.encode queue.length :: queue.flatMap fun request => [memV1Msg.encode request]

def RegionState.parts (state : RegionState masters) : List (Option Bytes) :=
  activeParts state.active ++ u16.part (UInt16.ofNat state.rrCursor) ::
    state.queues.toList.flatMap queueParts

open Restoring

/-- Reads the active transaction of a region. -/
def readActiveTxn (masters : ℕ) (nextDownstream : UInt64) : Restoring (ActiveTxn masters) := do
  let master ← field u16
  let originalTxn ← field u64
  let downstreamTxn ← field u64
  let write ← field bool
  if h : master.toNat < masters then
    if nextDownstream ≤ downstreamTxn then
      invalid "multi-master bus: active downstream txn not yet allocated"
    else return { master := ⟨master.toNat, h⟩, originalTxn, downstreamTxn, write }
  else invalid "multi-master bus: active txn of an unknown master"

def readActive (masters : ℕ) (nextDownstream : UInt64) :
    Restoring (Option (ActiveTxn masters)) := do
  match ← field u8 with
  | 0 => return none
  | 1 => return some (← readActiveTxn masters nextDownstream)
  | tag => throw (.decode (.invalidTag "multi-master bus active txn" tag))

def readCursor (masters : ℕ) : Restoring (Fin masters) := do
  let cursor ← field u16
  if h : cursor.toNat < masters then return ⟨cursor.toNat, h⟩
  else invalid "multi-master bus: cursor past the last master"

/-- Reads a queued request: its address is an offset in its region. -/
def readRequest (region : Region) : Restoring MemV1.MemMsg := do
  let msg ← data memV1Msg
  match msg.access with
  | none => invalid "multi-master bus: queued message is a response"
  | some .empty => invalid "multi-master bus: queued request is zero-length"
  | some (.bytes _ last) =>
    if last < region.size then return msg
    else invalid "multi-master bus: queued request outside its region"
  | some .outOfRange => invalid "multi-master bus: queued request outside its region"

def readQueue (region : Region) : Restoring (List MemV1.MemMsg) := do
  let count ← data len
  Decodes.replicateM (readRequest region) count

/-- Reads one region's state, checking what can be checked within the region. -/
def readRegion (region : Region) (nextDownstream : UInt64) (masters : ℕ) :
    Restoring (RegionState masters) := do
  let active ← readActive masters nextDownstream
  let rrCursor ← readCursor masters
  let queues ← Parser.table fun _ : Fin masters => readQueue region
  return { active, queues, rrCursor }

end

/-! ## What no two requests may share -/

/-- What a live request has to itself: its transaction of its master, and the downstream
transaction of an active one. -/
inductive Holding (masters : ℕ)
  | live (master : Fin masters) (txn : TxnId)
  | downstream (txn : TxnId)
  deriving DecidableEq

/-- The error when something is held twice. -/
def Holding.held {masters : ℕ} : Holding masters → String
  | .live .. => "multi-master bus: a (master, txn) is live twice"
  | .downstream _ => "multi-master bus: two regions share a downstream txn"

namespace RegionState

variable {masters : ℕ} (state : RegionState masters)

def activeHoldings : List (Holding masters) :=
  match state.active with
  | none => []
  | some active =>
    [.live active.master active.originalTxn, .downstream active.downstreamTxn]

/-- What the requests in a FIFO hold; only requests are queued. -/
def queueHoldings (master : Fin masters) : List (Holding masters) :=
  (state.queue master).filterMap fun request =>
    (requestTxn request).map fun (txn, _) => .live master txn

/-- Everything held in a region, in the order of its snapshot. -/
def holdings : List (Holding masters) :=
  state.activeHoldings ++ (List.finRange masters).flatMap state.queueHoldings

end RegionState

/-! ## The bus -/

namespace MultiMasterBus

variable {config : MultiMasterBusConfig} (bus : MultiMasterBus config)

open SnapshotFields

def parts : List (Option Bytes) :=
  config.parts ++ u64.part bus.nextDownstream :: bus.regions.toList.flatMap RegionState.parts

/-- The snapshot of the bus, unless a length in it does not fit. -/
def snapshot : Option Bytes := Coder.concat bus.parts

def snapshotSchemaVersion (_ : MultiMasterBus config) : UInt32 := 1

/-- Everything held in the bus. -/
def holdings : List (Holding config.masters.length) :=
  bus.regions.toList.flatMap RegionState.holdings

open Restoring in
/-- Reads the state of a bus. -/
def restoreState (config : MultiMasterBusConfig) : Restoring (MultiMasterBus config) := do
  config.readConfig
  let nextDownstream ← field u64
  let regions ← Parser.table fun r : config.RegionIndex =>
    readRegion (config.regions.get r) nextDownstream config.masters.length
  let restored : MultiMasterBus config := { regions, nextDownstream }
  match List.firstRepeated [] restored.holdings with
  | some holding => invalid holding.held
  | none => return restored

/-- Restores the bus, or leaves it as it is: the bytes left over, or an error. -/
def restore (bs : Bytes) (_ : UInt32) : MultiMasterBus config × Except RestoreError Bytes :=
  match restoreState config bs with
  | .ok (restored, rest) => (restored, .ok rest)
  | .error e => (bus, .error e)

end MultiMasterBus

instance {config : MultiMasterBusConfig} : Component (MultiMasterBus config) where
  typeName _ := "platform.multi_master_bus"
  ports := MultiMasterBus.ports
  init := MultiMasterBus.init
  handleEvent := MultiMasterBus.handleEvent
  snapshotSchemaVersion := MultiMasterBus.snapshotSchemaVersion
  snapshot bus := bus.snapshot.getD []
  restore := MultiMasterBus.restore
  inspect := MultiMasterBus.inspect

end Platform

/-!
## What the bus restores

A restore accepts exactly the snapshots of `Valid` buses of its configuration
(`restoreState_reads`): every queued message is a request inside its region, every active
downstream transaction has been allocated, and nothing is held twice.
-/

namespace Platform

open MemV1 SnapshotData SnapshotField Restoring

/-- The request stays inside a region, its address being an offset. -/
def Inside (region : Region) (msg : MemV1.MemMsg) : Prop :=
  ∃ first last, msg.access = some (.bytes first last) ∧ last < region.size

lemma inside_iff {region : Region} {msg : MemV1.MemMsg} :
    Inside region msg ↔
      ∃ first size, msg.Spans first size ∧ 0 < size ∧ first + size ≤ region.size.toNat := by
  constructor
  · rintro ⟨first, last, haccess, hlast⟩
    obtain ⟨size, hspans, hpos, hend⟩ := access_eq_bytes.mp haccess
    rw [UInt64.lt_iff_toNat_lt] at hlast
    exact ⟨first.toNat, size, hspans, hpos, by omega⟩
  · rintro ⟨first, size, hspans, hpos, hend⟩
    have hsize := region.size.toNat_lt
    have hfirst : (UInt64.ofNat first).toNat = first :=
      UInt64.toNat_ofNat_of_lt' (show first < 2 ^ 64 by omega)
    have hlast : (UInt64.ofNat (first + size - 1)).toNat = first + size - 1 :=
      UInt64.toNat_ofNat_of_lt' (show first + size - 1 < 2 ^ 64 by omega)
    refine ⟨UInt64.ofNat first, UInt64.ofNat (first + size - 1), ?_, ?_⟩
    · exact access_eq_bytes.mpr ⟨size, by rwa [hfirst], hpos, by omega⟩
    · rw [UInt64.lt_iff_toNat_lt]
      omega

lemma requestTxn_of_inside {region : Region} {msg : MemV1.MemMsg} (h : Inside region msg) :
    ∃ txn write, requestTxn msg = some (txn, write) := by
  obtain ⟨first, last, haccess, -⟩ := h
  cases msg with
  | readReq => exact ⟨_, _, rfl⟩
  | writeReq => exact ⟨_, _, rfl⟩
  | readResp => cases haccess
  | writeResp => cases haccess

namespace MultiMasterBus

/-- A bus whose bookkeeping is in order. -/
structure Valid {config : MultiMasterBusConfig} (bus : MultiMasterBus config) : Prop where
  inside : ∀ r m, ∀ q ∈ (bus.region r).queue m, Inside (config.regions.get r) q
  allocated : ∀ r a, (bus.region r).active = some a → a.downstreamTxn < bus.nextDownstream
  held : bus.holdings.Nodup

end MultiMasterBus

/-! ## Reading a snapshot back -/

section

variable [SnapshotData] (hstrict : SnapshotData.Strict)

include hstrict

lemma MultiMasterBusConfig.readConfig_reads (config : MultiMasterBusConfig) :
    ReadsParts config.readConfig (fun _ => True) fun _ => config.parts := by
  have hregion (region : Region) :
      ReadsParts _ (fun _ => True) fun _ => regionParts region :=
    expectRegion_reads hstrict region.name region.base region.size different
  have hmaster : ∀ name : String, ReadsParts (expect (data str) name different)
      (fun _ => True) fun _ => [str.encode name] :=
    fun name => expect_reads (data_reads hstrict.str) trivial
  intro bs x rest
  unfold readConfig parts
  simp only [writes_append, writes_cons_flatMap,
    (expect_reads (data_reads hstrict.len) trivial).bind_eq_ok, (forM_reads hregion _).bind_eq_ok,
    (forM_reads hmaster _).bind_eq_ok,
    expect_reads (field_reads hstrict.fields.u32) trivial _ _ _, true_and, exists_const]
  grind

variable {masters : ℕ} {next : UInt64}

lemma readActiveTxn_reads (hmasters : masters < 2 ^ 16) :
    ReadsParts (readActiveTxn masters next) (fun a => a.downstreamTxn < next)
      ActiveTxn.parts := by
  have hindex : ∀ (m : UInt16) (h : m.toNat < masters),
      UInt16.ofNat (⟨m.toNat, h⟩ : Fin masters).val = m := fun m _ => UInt16.ofNat_toNat
  have hback : ∀ m : Fin masters, (UInt16.ofNat m.val).toNat = m.val := fun m =>
    UInt16.toNat_ofNat_of_lt' (m.isLt.trans hmasters)
  intro bs a rest
  unfold readActiveTxn ActiveTxn.parts
  simp only [writes_cons_cons, (field_reads hstrict.fields.u16).bind_eq_ok,
    (field_reads hstrict.fields.u64).bind_eq_ok, (field_reads hstrict.fields.bool).bind_eq_ok,
    true_and]
  constructor
  · intro ⟨m, r₁, hm, original, r₂, horiginal, downstream, r₃, hdownstream, write, r₄, hwrite, h⟩
    split_ifs at h with hlt hle
    · exact absurd h (by simp)
    · obtain ⟨rfl, rfl⟩ := Parser.pure_eq_ok.mp h
      refine ⟨UInt64.not_le.mp hle, r₁, ?_, r₂, horiginal, r₃, hdownstream, hwrite⟩
      rwa [hindex]
    · exact absurd h (by simp)
  · intro ⟨hlt, r₁, hm, r₂, horiginal, r₃, hdownstream, hwrite⟩
    refine ⟨_, r₁, hm, _, r₂, horiginal, _, r₃, hdownstream, _, rest, hwrite, ?_⟩
    rw [dif_pos (by rw [hback]; exact a.master.isLt), if_neg (UInt64.not_le.mpr hlt),
      Parser.pure_eq_ok]
    refine ⟨?_, rfl⟩
    congr 1
    exact Fin.ext (hback a.master)

lemma readActive_reads (hmasters : masters < 2 ^ 16) :
    ReadsParts (readActive masters next)
      (fun active => ∀ a, active = some a → a.downstreamTxn < next)
      activeParts := by
  intro bs active rest
  unfold readActive
  rw [(field_reads hstrict.fields.u8).bind_eq_ok]
  constructor
  · intro ⟨tag, r, _, htag, h⟩
    split at h
    · obtain ⟨rfl, rfl⟩ := Parser.pure_eq_ok.mp h
      exact ⟨by simp, htag⟩
    · rw [(readActiveTxn_reads hstrict hmasters).bind_eq_ok] at h
      obtain ⟨a, r', ha, hw, h⟩ := h
      obtain ⟨rfl, rfl⟩ := Parser.pure_eq_ok.mp h
      refine ⟨fun b hb => ?_, writes_cons_iff.mpr ⟨r, htag, hw⟩⟩
      rwa [← Option.some.inj hb]
    · exact absurd h Parser.throw_eq_ok.mp
  · intro ⟨hactive, hw⟩
    cases active with
    | none => exact ⟨0, rest, trivial, hw, Parser.pure_eq_ok.mpr ⟨rfl, rfl⟩⟩
    | some a =>
      obtain ⟨r, htag, hparts⟩ := writes_cons_iff.mp hw
      refine ⟨1, r, trivial, htag, ?_⟩
      exact (readActiveTxn_reads hstrict hmasters).bind_eq_ok.mpr
        ⟨a, rest, hactive a rfl, hparts, Parser.pure_eq_ok.mpr ⟨rfl, rfl⟩⟩

lemma readCursor_reads (hmasters : masters < 2 ^ 16) :
    ReadsParts (readCursor masters) (fun _ => True)
      fun cursor => [SnapshotFields.u16.part (UInt16.ofNat cursor)] := by
  intro bs cursor rest
  unfold readCursor
  simp only [(field_reads hstrict.fields.u16).bind_eq_ok, true_and]
  constructor
  · intro ⟨n, r, hn, h⟩
    split_ifs at h with hlt
    · obtain ⟨rfl, rfl⟩ := Parser.pure_eq_ok.mp h
      rwa [UInt16.ofNat_toNat]
    · exact absurd h (by simp)
  · intro hw
    have hback : (UInt16.ofNat cursor.val).toNat = cursor.val :=
      UInt16.toNat_ofNat_of_lt' (cursor.isLt.trans hmasters)
    refine ⟨_, rest, hw, ?_⟩
    rw [dif_pos (by rw [hback]; exact cursor.isLt), Parser.pure_eq_ok]
    exact ⟨Fin.ext hback, rfl⟩

lemma readRequest_reads (region : Region) :
    ReadsParts (readRequest region) (Inside region) fun msg => [memV1Msg.encode msg] := by
  intro bs msg rest
  unfold readRequest
  simp only [(data_reads hstrict.memV1Msg).bind_eq_ok, true_and]
  constructor
  · intro ⟨found, r, hw, h⟩
    cases haccess : found.access with
    | none => simp [haccess] at h
    | some access =>
      rw [haccess] at h
      cases access with
      | empty => exact absurd h (by simp)
      | outOfRange => exact absurd h (by simp)
      | bytes first last =>
        dsimp only at h
        split_ifs at h with hlast
        · obtain ⟨rfl, rfl⟩ := Parser.pure_eq_ok.mp h
          exact ⟨⟨first, last, haccess, hlast⟩, hw⟩
        · exact absurd h (by simp)
  · intro ⟨⟨first, last, haccess, hlast⟩, hw⟩
    refine ⟨msg, rest, hw, ?_⟩
    rw [haccess]
    dsimp only
    rw [if_pos hlast, Parser.pure_eq_ok]
    exact ⟨rfl, rfl⟩

lemma readQueue_reads (region : Region) :
    ReadsParts (readQueue region) (fun queue => ∀ q ∈ queue, Inside region q) queueParts :=
  ReadsParts.counted (data_reads hstrict.len) (readRequest_reads hstrict region)

lemma readRegion_reads (region : Region) (hmasters : masters < 2 ^ 16) :
    ReadsParts (readRegion region next masters)
      (fun state => (∀ a, state.active = some a → a.downstreamTxn < next) ∧
        ∀ m, ∀ q ∈ state.queue m, Inside region q) RegionState.parts := by
  intro bs state rest
  unfold readRegion RegionState.parts
  have hqueues : ReadsParts (Parser.table fun _ : Fin masters => readQueue region)
      (fun queues => ∀ m, ∀ q ∈ queues.get m, Inside region q)
      fun queues => queues.toList.flatMap queueParts :=
    ReadsParts.table fun _ => readQueue_reads hstrict region
  simp only [writes_append, writes_cons_flatMap,
    (readActive_reads hstrict hmasters).bind_eq_ok, (readCursor_reads hstrict hmasters).bind_eq_ok,
    hqueues.bind_eq_ok, Parser.pure_eq_ok, true_and]
  constructor
  · rintro ⟨active, r, hactive, hw, cursor, r', hcursor, queues, r'', hq, hwq, rfl, rfl⟩
    exact ⟨⟨hactive, hq⟩, r, hw, r', hcursor, hwq⟩
  · rintro ⟨⟨hactive, hq⟩, r, hw, r', hcursor, hwq⟩
    exact ⟨state.active, r, hactive, hw, state.rrCursor, r', hcursor, state.queues, rest, hq, hwq,
      rfl, rfl⟩

namespace MultiMasterBus

variable {config : MultiMasterBusConfig} {bus bus' : MultiMasterBus config}

lemma restoreState_reads (haccepted : config.Accepted) :
    ReadsParts (restoreState config) Valid parts := by
  have hmasters : config.masters.length < 2 ^ 16 := by
    have := haccepted.ports
    omega
  have hregions : ∀ next, ReadsParts (Parser.table fun r : config.RegionIndex =>
      readRegion (config.regions.get r) next config.masters.length) _ _ := fun next =>
    ReadsParts.table fun r => readRegion_reads hstrict (config.regions.get r) hmasters
  intro bs bus rest
  unfold restoreState parts
  simp only [writes_append, writes_cons_flatMap,
    (config.readConfig_reads hstrict).bind_eq_ok, (field_reads hstrict.fields.u64).bind_eq_ok,
    (hregions _).bind_eq_ok, true_and]
  constructor
  · intro ⟨_, r, hconfig, next, r', hnext, regions, r'', hvalid, hw, h⟩
    cases hheld : List.firstRepeated [] (holdings ⟨regions, next⟩) with
    | some holding => simp [hheld] at h
    | none =>
      rw [hheld] at h
      obtain ⟨rfl, rfl⟩ := Parser.pure_eq_ok.mp h
      exact ⟨⟨fun i => (hvalid i).2, fun i => (hvalid i).1,
        (List.firstRepeated_eq_none.mp hheld).1⟩,
        r, hconfig, r', hnext, hw⟩
  · intro ⟨hvalid, r, hconfig, r', hnext, hw⟩
    refine ⟨(), r, hconfig, bus.nextDownstream, r', hnext, bus.regions, rest,
      fun i => ⟨hvalid.allocated i, hvalid.inside i⟩, hw, ?_⟩
    rw [show List.firstRepeated [] (holdings ⟨bus.regions, bus.nextDownstream⟩) = none from
      List.firstRepeated_eq_none.mpr ⟨hvalid.held, by simp⟩]
    exact Parser.pure_eq_ok.mpr ⟨rfl, rfl⟩

lemma restore_eq_ok_iff (haccepted : config.Accepted) {bs rest : Bytes} {schema : UInt32} :
    bus.restore bs schema = (bus', .ok rest) ↔ bus'.Valid ∧ Writes bus'.parts bs rest := by
  rw [← restoreState_reads hstrict haccepted bs bus' rest]
  unfold restore
  split
  next h => simp [h]
  next h => simp [h]

end MultiMasterBus

end

/-- A restore that is refused changes nothing. -/
lemma MultiMasterBus.eq_of_restore_error [SnapshotData] {config : MultiMasterBusConfig}
    {bus bus' : MultiMasterBus config} {bs : Bytes} {schema : UInt32} {e : RestoreError}
    (h : bus.restore bs schema = (bus', .error e)) : bus' = bus := by
  unfold restore at h
  split at h
  · cases h
  · cases h
    rfl

end Platform

end SystemScope
