import SystemScope.Contracts.Interface

/-!
# Traces

The `runtime.dispatch` records of `runtime/src/trace.rs`.  `dispatchRecord` flattens an event
into named fields, an outcome becoming its variant name followed by that variant's field;
`dispatchedEvent` reads the fields back by position and name.

The reader follows the source: `irq.v0` and `block.v0` are recognised by name and version, the
memory protocols by version alone, and nothing checks the number of fields on the way.  Its last
step rebuilds the record from what it read and compares, which settles every remaining field.
The one function of the source is split here by protocol.

`checkPrefix` is what `resume_trace` asks of a prefix: every record in its place, and the
dispatch records replaying to the execution digest.
-/

namespace SystemScope

/-- A complete recorded trace: the session facts, and the records in emission order. -/
structure Trace where
  header : TraceHeader
  records : List TraceRecord
  deriving DecidableEq

/-- Why a trace prefix was not accepted by `resume_trace` (§8.1). -/
inductive ResumeError
  | notFreshlyRestored
  | headerMismatch
  | malformedRecord (index : ℕ)
  | historyMismatch
  deriving DecidableEq, Repr

/-! ## Writing -/

/-- The fields of a record, in order. -/
abbrev Fields := List (String × Value)

def memFields : MemMsg → Fields
  | .readReq txn addr len =>
    [("msg", .str "ReadReq"), ("txn", .u64 txn), ("addr", .u64 addr),
      ("len", .u64 len.toUInt64)]
  | .readResp txn data => [("msg", .str "ReadResp"), ("txn", .u64 txn), ("data", .bytes data)]
  | .writeReq txn addr data =>
    [("msg", .str "WriteReq"), ("txn", .u64 txn), ("addr", .u64 addr), ("data", .bytes data)]
  | .writeResp txn => [("msg", .str "WriteResp"), ("txn", .u64 txn)]

def faultField : MemV1.MemFault → String × Value
  | .accessFault => ("fault", .str "AccessFault")

def memV1Fields : MemV1.MemMsg → Fields
  | .readReq txn addr len =>
    [("msg", .str "ReadReq"), ("txn", .u64 txn), ("addr", .u64 addr),
      ("len", .u64 len.toUInt64)]
  | .readResp txn outcome =>
    [("msg", .str "ReadResp"), ("txn", .u64 txn)] ++
      match outcome with
      | .data data => [("outcome", .str "Data"), ("data", .bytes data)]
      | .fault f => [("outcome", .str "Fault"), faultField f]
  | .writeReq txn addr data =>
    [("msg", .str "WriteReq"), ("txn", .u64 txn), ("addr", .u64 addr), ("data", .bytes data)]
  | .writeResp txn outcome =>
    [("msg", .str "WriteResp"), ("txn", .u64 txn)] ++
      match outcome with
      | .done => [("outcome", .str "Done")]
      | .fault f => [("outcome", .str "Fault"), faultField f]

def irqV0Fields : IrqMsg → Fields
  | .level asserted => [("msg", .str "Level"), ("asserted", .bool asserted)]

def errorField : MediaError → String × Value
  | .outOfRange => ("error", .str "OutOfRange")
  | .badBlock => ("error", .str "BadBlock")

def blockV0Fields : BlockMsg → Fields
  | .readBlock txn lba => [("msg", .str "ReadBlock"), ("txn", .u64 txn), ("lba", .u64 lba)]
  | .writeBlock txn lba data =>
    [("msg", .str "WriteBlock"), ("txn", .u64 txn), ("lba", .u64 lba), ("data", .bytes data)]
  | .readResult txn outcome =>
    [("msg", .str "ReadResult"), ("txn", .u64 txn)] ++
      match outcome with
      | .data data => [("outcome", .str "Data"), ("data", .bytes data)]
      | .error e => [("outcome", .str "Error"), errorField e]
  | .writeResult txn outcome =>
    [("msg", .str "WriteResult"), ("txn", .u64 txn)] ++
      match outcome with
      | .done => [("outcome", .str "Done")]
      | .error e => [("outcome", .str "Error"), errorField e]

/-- The variant name as `msg`, then the message's fields in declaration order. -/
def messageFields : Message → Fields
  | .mem msg => memFields msg
  | .memV1 msg => memV1Fields msg
  | .irq msg => irqV0Fields msg
  | .block msg => blockV0Fields msg

/-- The record of an event, emitted before its handler's records. -/
def dispatchRecord (at_ : TraceAt) (source target : ComponentId) (delivery : Delivered) :
    TraceRecord where
  at_ := at_
  origin := .runtime
  component := target
  kind := dispatchKind
  fields :=
    ("source", .u64 source.toUInt64) ::
      match delivery with
      | .message port msg =>
        [("port", .u64 port.toUInt64), ("protocol", .str msg.protocol.name),
          ("version", .u64 msg.protocol.version.toUInt64)] ++ messageFields msg
      | .wake token => [("token", .u64 token)]

/-! ## Reading -/

/-- `u32::try_from`. -/
def u32TryFrom (v : UInt64) : Option UInt32 :=
  if v.toNat < 2 ^ 32 then some v.toUInt32 else none

/-- `u16::try_from`. -/
def u16TryFrom (v : UInt64) : Option UInt16 :=
  if v.toNat < 2 ^ 16 then some v.toUInt16 else none

namespace TraceRecord

/-- The value of the `i`-th field, if it has this name. -/
def get (r : TraceRecord) (i : ℕ) (name : String) : Option Value :=
  match r.fields[i]? with
  | some (n, v) => if n = name then some v else none
  | none => none

def int (r : TraceRecord) (i : ℕ) (name : String) : Option UInt64 :=
  match r.get i name with
  | some (.u64 v) => some v
  | _ => none

def bytes (r : TraceRecord) (i : ℕ) (name : String) : Option Bytes :=
  match r.get i name with
  | some (.bytes v) => some v
  | _ => none

def strAt (r : TraceRecord) (i : ℕ) (name : String) : Option String :=
  match r.get i name with
  | some (.str v) => some v
  | _ => none

end TraceRecord

def dispatchedIrq (r : TraceRecord) (msg : String) : Option IrqMsg := do
  let asserted ← r.get 5 "asserted"
  match msg, asserted with
  | "Level", .bool asserted => some (.level asserted)
  | _, _ => none

def dispatchedError (r : TraceRecord) : Option MediaError := do
  match ← r.strAt 7 "error" with
  | "OutOfRange" => some .outOfRange
  | "BadBlock" => some .badBlock
  | _ => none

def dispatchedBlock (r : TraceRecord) (msg : String) : Option BlockMsg := do
  let txn ← r.int 5 "txn"
  match msg with
  | "ReadBlock" => return .readBlock txn (← r.int 6 "lba")
  | "WriteBlock" => return .writeBlock txn (← r.int 6 "lba") (← r.bytes 7 "data")
  | "ReadResult" =>
    match ← r.strAt 6 "outcome" with
    | "Data" => return .readResult txn (.data (← r.bytes 7 "data"))
    | "Error" => return .readResult txn (.error (← dispatchedError r))
    | _ => none
  | "WriteResult" =>
    match ← r.strAt 6 "outcome" with
    | "Done" => return .writeResult txn .done
    | "Error" => return .writeResult txn (.error (← dispatchedError r))
    | _ => none
  | _ => none

def dispatchedMem (r : TraceRecord) (msg : String) (txn : TxnId) : Option MemMsg := do
  match msg with
  | "ReadReq" => return .readReq txn (← r.int 6 "addr") (← u32TryFrom (← r.int 7 "len"))
  | "ReadResp" => return .readResp txn (← r.bytes 6 "data")
  | "WriteReq" => return .writeReq txn (← r.int 6 "addr") (← r.bytes 7 "data")
  | "WriteResp" => return .writeResp txn
  | _ => none

def dispatchedFault (r : TraceRecord) : Option MemV1.MemFault := do
  match ← r.strAt 7 "fault" with
  | "AccessFault" => some .accessFault
  | _ => none

def dispatchedMemV1 (r : TraceRecord) (msg : String) (txn : TxnId) : Option MemV1.MemMsg := do
  match msg with
  | "ReadReq" => return .readReq txn (← r.int 6 "addr") (← u32TryFrom (← r.int 7 "len"))
  | "ReadResp" =>
    match ← r.strAt 6 "outcome" with
    | "Data" => return .readResp txn (.data (← r.bytes 7 "data"))
    | "Fault" => return .readResp txn (.fault (← dispatchedFault r))
    | _ => none
  | "WriteReq" => return .writeReq txn (← r.int 6 "addr") (← r.bytes 7 "data")
  | "WriteResp" =>
    match ← r.strAt 6 "outcome" with
    | "Done" => return .writeResp txn .done
    | "Fault" => return .writeResp txn (.fault (← dispatchedFault r))
    | _ => none
  | _ => none

def dispatchedMessage (r : TraceRecord) : Option Message := do
  let msg ← r.strAt 4 "msg"
  let name ← r.strAt 2 "protocol"
  let version ← r.int 3 "version"
  let is (p : ProtocolId) : Bool := name = p.name ∧ version = p.version.toUInt64
  if is irqV0Protocol then return .irq (← dispatchedIrq r msg)
  else if is blockV0Protocol then return .block (← dispatchedBlock r msg)
  else
    let txn ← r.int 5 "txn"
    -- The protocol name is not looked at here: only the rebuilt record pins it down.
    if version = 0 then return .mem (← dispatchedMem r msg txn)
    else if version = 1 then return .memV1 (← dispatchedMemV1 r msg txn)
    else none

def dispatchedDelivery (r : TraceRecord) : Option Delivered := do
  if r.fields.length = 2 ∧ (r.get 1 "token").isSome then return .wake (← r.int 1 "token")
  else
    let port ← u16TryFrom (← r.int 1 "port")
    return .message port (← dispatchedMessage r)

/-- The event a `runtime.dispatch` record describes, if it is exactly what `dispatchRecord`
writes for that event. -/
def dispatchedEvent (r : TraceRecord) : Option CanonicalEvent :=
  match r.at_ with
  | .init => none
  | .event key =>
    if r.origin ≠ .runtime ∨ r.kind ≠ dispatchKind then none
    else do
      let source ← u32TryFrom (← r.int 0 "source")
      let delivery ← dispatchedDelivery r
      if dispatchRecord r.at_ source r.component delivery = r then
        some { key, source, target := r.component, delivery }
      else none

/-! ## Checking a prefix -/

section

variable [Contracts]

/-- Absorbs one event into an execution digest: `H(digest ‖ canonical(ev))`. -/
def chain (digest : Digest) (ev : CanonicalEvent) : Digest :=
  Contracts.hash (digest.toList ++ Contracts.toBytes ev)

/-- Whether a component record may stand where it does, after the dispatch of `current`. -/
def TraceRecord.inPlace (r : TraceRecord) (current : Option EventKey) : Bool :=
  match r.at_, current with
  | .init, none => true
  | .event k, some c => k = c
  | _, _ => false

/-- Checks one record and replays it; `none` if it is out of place. -/
def checkRecord (components : ℕ) (replayed : Digest) (current : Option EventKey)
    (r : TraceRecord) : Option (Digest × Option EventKey) :=
  if components ≤ r.component.toNat then none
  else match r.origin with
    | .runtime => do
      let ev ← dispatchedEvent r
      if current.any fun k => ev.key ≤ k then none else some (chain replayed ev, some ev.key)
    | .component => if r.inPlace current then some (replayed, current) else none

/-- Checks and replays records, the first of which has this index. -/
def checkRecords (components : ℕ) (index : ℕ) (replayed : Digest) (current : Option EventKey) :
    List TraceRecord → Except ResumeError (Digest × Option EventKey)
  | [] => .ok (replayed, current)
  | r :: records =>
    match checkRecord components replayed current r with
    | none => .error (.malformedRecord index)
    | some (replayed, current) => checkRecords components (index + 1) replayed current records

/-- Checks that `records` is a well-formed trace prefix whose dispatch history ends at `last`
with execution digest `digest`. -/
def checkPrefix (records : List TraceRecord) (components : ℕ) (last : Option EventKey)
    (digest : Digest) : Except ResumeError Unit :=
  match checkRecords components 0 .zero none records with
  | .error e => .error e
  | .ok (replayed, current) =>
    if current ≠ last ∨ replayed ≠ digest then .error .historyMismatch else .ok ()

end

end SystemScope
