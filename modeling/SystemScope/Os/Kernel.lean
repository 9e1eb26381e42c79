import SystemScope.Os.Model
import SystemScope.Platform.Access

/-!
# The modeled kernel

`components/os/src/kernel.rs` without its snapshots: the gate that holds an `ENTER` until its
operation has finished, and the engine that sends the accesses of the operation one at a
time. -/

namespace SystemScope.Os

open MemV1

/-- The offset of `ENTER` in the gate. -/
def enterReg : UInt64 := 0x0

/-- The gate, a `mem.v1` target. -/
def gatePort : PortId := 0

/-- The bus master, a `mem.v1` initiator. -/
def memPort : PortId := 1

/-- The wake that sends the next access. -/
def issueToken : UInt64 := 0

def enterKind : String := "os.gate.enter"

def releaseKind : String := "os.gate.release"

/-- An operation of a kernel without or with processes. -/
inductive Work
  | proto (o : Operation)
  | proc (o : ProcOp)
  deriving DecidableEq

namespace Work

/-- The access that is due. -/
def access (config : KernelConfig) : Work → Except Panic (Option Access)
  | proto o => .ok (o.access config)
  | proc o => o.access config

def name : Work → String
  | proto o => o.op.name
  | proc o => o.stage.name

def step : Work → ℕ
  | proto o => o.step
  | proc o => o.step

end Work

/-- The position of the engine. -/
inductive State
  /-- No operation, and nothing held. -/
  | idle
  /-- The next access is due at the wake. -/
  | issue (work : Work)
  /-- The current access is outstanding. -/
  | wait (work : Work) (txn : TxnId)
  deriving DecidableEq

/-- The modeled kernel. -/
@[ext]
structure ModeledKernel (config : KernelConfig) where
  state : State
  /-- The held `ENTER`, present exactly when the state is not idle. -/
  held : Option TxnId
  /-- The next transaction on the memory port. -/
  nextTxn : TxnId
  /-- The process model, of a kernel with processes. -/
  model : Option Model
  deriving DecidableEq

namespace ModeledKernel

/-- A kernel without processes. -/
def new (config : KernelConfig) : Except KernelConfigError (ModeledKernel config) := do
  config.validate
  return { state := .idle, held := none, nextTxn := 0, model := none }

/-- A kernel that awaits boot from a source. -/
def withSource (config : KernelConfig) (source : Source) : ModeledKernel config :=
  { state := .idle, held := none, nextTxn := 0
    model := some
      (.new source (.new (.new config.framePool.base config.framePool.size))) }

/-- A kernel with the processes of a plan. -/
def withProcesses (config : KernelConfig) (plan : ProcessPlan) :
    Except PlanError (ModeledKernel config) := do
  plan.validate config
  return withSource config (.plan plan)

/-- A kernel that boots from disk. -/
def withDisk (config : KernelConfig) (disk : DiskBoot) :
    Except PlanError (ModeledKernel config) := do
  disk.validate config
  return withSource config (.disk disk)

variable {config : KernelConfig} (c : ModeledKernel config)

/-- The operation that runs. -/
def work : Option Work :=
  match c.state with
  | .idle => none
  | .issue w | .wait w _ => some w

/-- Faults the session. -/
def reject (what : String) : Handler (ModeledKernel config) :=
  .done (.error (.componentFault what)) c

/-- The text with which the session stops.  A panic has no text of its own. -/
def failureText : Failure → String
  | .panic _ => "panic"
  | .violation v => v.why

/-- Asks for a wake in the next cycle. -/
def wakeNextCycle : Handler (ModeledKernel config) :=
  .wakeSelf (.cycles config.clock 1) .request issueToken fun result => .done result c

/-- Emits records. -/
def emit (notes : List Note) (k : Handler (ModeledKernel config)) :
    Handler (ModeledKernel config) :=
  notes.foldr (fun n k => .trace n.kind n.fields k) k

/-- Answers a request that the kernel does not serve. -/
def refuse (resp : MemV1.MemMsg) : Handler (ModeledKernel config) :=
  .send gatePort (.memV1 resp) (Platform.scheduleWhen config.latency) .complete fun result =>
    .done result c

/-- The record of an accepted `ENTER`. -/
def enterNote (txn : TxnId) (value : UInt32) (op : String) : Note :=
  { kind := enterKind
    fields := [("txn", .u64 txn), ("value", wordValue value), ("op", .str op)] }

/-- Holds an `ENTER` and starts its operation. -/
def enter (txn : TxnId) (value : UInt32) : Handler (ModeledKernel config) :=
  if c.held.isSome then c.reject "modeled kernel: second ENTER while one is held"
  else
    match c.model with
    | some model =>
      match model.start config value with
      | .error f => c.reject (failureText f)
      | .ok d =>
        emit (enterNote txn value (model.opName config value) :: d.notes)
          (wakeNextCycle
            { c with held := some txn, state := .issue (.proc d.next), model := some d.model })
    | none =>
      let o := Operation.start config value
      let notes :=
        if o.op = .shutdown then [shutdownNote 1 "ENTER value is not the trap frame"] else []
      emit (enterNote txn value o.op.name :: notes)
        (wakeNextCycle { c with held := some txn, state := .issue (.proto o) })

/-- The request is to `ENTER`, as a whole word. -/
def IsEnter : MemV1.Access → Prop
  | .bytes first last => first = enterReg ∧ last = enterReg + 3
  | _ => False

instance (a : MemV1.Access) : Decidable (IsEnter a) := by
  cases a <;> unfold IsEnter <;> infer_instance

/-- A request on the gate. -/
def gateRequest (msg : MemV1.MemMsg) : Handler (ModeledKernel config) :=
  match msg.access with
  | none => c.reject "modeled kernel: response on the gate port"
  | some .empty => c.reject "modeled kernel: zero-length gate request"
  | some a =>
    match msg with
    | .writeReq txn _ data =>
      if IsEnter a then c.enter txn (word data 0)
      else c.refuse (.writeResp txn (.fault .accessFault))
    | .readReq txn _ _ => c.refuse (.readResp txn (.fault .accessFault))
    | .readResp .. | .writeResp .. => c.reject "modeled kernel: response on the gate port"

/-- An access as a message. -/
def request (txn : TxnId) : Access → MemV1.MemMsg
  | .read addr len => .readReq txn (UInt64.ofNat addr) (UInt32.ofNat len)
  | .write addr data => .writeReq txn (UInt64.ofNat addr) data

/-- Sends the access that is due, if the whitelist permits it. -/
def issue : Handler (ModeledKernel config) :=
  match c.state with
  | .issue work =>
    match work.access config with
    | .error p => c.reject (failureText (.panic p))
    | .ok none => c.reject "modeled kernel: ISSUE wake after the last access"
    | .ok (some access) =>
      if ¬config.Permits access.addr access.len then
        c.reject "modeled kernel: access outside the whitelist"
      else if c.nextTxn.toNat + 1 = 2 ^ 64 then
        c.reject "modeled kernel: TxnId space exhausted"
      else
        .send memPort (.memV1 (request c.nextTxn access)) .now .request fun
          | .error e => .done (.error e) c
          | .ok () =>
            .done (.ok ()) { c with nextTxn := c.nextTxn + 1, state := .wait work c.nextTxn }
  | _ => c.reject "modeled kernel: ISSUE wake with nothing to issue"

/-- Answers the held `ENTER`: the operation has finished. -/
def release : Handler (ModeledKernel config) :=
  match c.held with
  | none => c.reject "modeled kernel: an operation without a held ENTER"
  | some txn =>
    .send gatePort (.memV1 (.writeResp txn .done)) .now .complete fun
      | .error e => .done (.error e) c
      | .ok () =>
        .trace releaseKind [("txn", .u64 txn)]
          (.done (.ok ()) { c with held := none, state := .idle })

/-- Goes on with an operation. -/
def goOn (work : Work) : Handler (ModeledKernel config) :=
  wakeNextCycle { c with state := .issue work }

/-- An access of a process operation has completed. -/
def completedProc (o : ProcOp) : Handler (ModeledKernel config) :=
  match o.isFinished config with
  | .error p => c.reject (failureText (.panic p))
  | .ok false => c.goOn (.proc o)
  | .ok true =>
    match c.model with
    | none => c.reject (failureText (.panic .expect))
    | some model =>
      match model.advance config o with
      | .error f => c.reject (failureText f)
      | .ok d =>
        emit d.notes
          (match d.next with
          | none => release { c with model := some d.model }
          | some o => goOn { c with model := some d.model } (.proc o))

/-- Takes the completion of the outstanding access. -/
def complete (work : Work) (completion : Completion) : Handler (ModeledKernel config) :=
  let wrongLength := "modeled kernel: read data of the wrong length"
  match work with
  | .proto o =>
    match o.complete config completion with
    | .error _ => c.reject wrongLength
    | .ok o => if o.IsFinished config then c.release else c.goOn (.proto o)
  | .proc o =>
    match o.complete config completion with
    | .error p => c.reject (failureText (.panic p))
    | .ok (.error _) => c.reject wrongLength
    | .ok (.ok o) => c.completedProc o

/-- The transaction and the completion of a response; no completion for a fault. -/
def response : MemV1.MemMsg → Option (TxnId × Option Completion)
  | .readResp txn (.data data) => some (txn, some (.data data))
  | .readResp txn (.fault _) => some (txn, none)
  | .writeResp txn .done => some (txn, some .written)
  | .writeResp txn (.fault _) => some (txn, none)
  | .readReq .. | .writeReq .. => none

/-- The response is to a write. -/
def IsWriteResp : MemV1.MemMsg → Prop
  | .writeResp .. => True
  | _ => False

instance : (msg : MemV1.MemMsg) → Decidable (IsWriteResp msg)
  | .writeResp .. => isTrue trivial
  | .readReq .. | .readResp .. | .writeReq .. => isFalse id

/-- The access is a write. -/
def IsWrite : Option Access → Prop
  | some (.write ..) => True
  | _ => False

instance (a : Option Access) : Decidable (IsWrite a) := by
  cases a with
  | none => unfold IsWrite; infer_instance
  | some a => cases a <;> unfold IsWrite <;> infer_instance

/-- The response to the outstanding access. -/
def memResponse (msg : MemV1.MemMsg) : Handler (ModeledKernel config) :=
  match c.state with
  | .wait work expected =>
    match response msg with
    | none => c.reject "modeled kernel: request on the mem port"
    | some (txn, completion) =>
      if txn ≠ expected then
        c.reject "modeled kernel: response for a txn that is not outstanding"
      else
        .phase fun phase =>
          if phase ≠ .complete then
            c.reject "modeled kernel: response arrived outside COMPLETE"
          else
            match work.access config with
            | .error p => c.reject (failureText (.panic p))
            | .ok access =>
              if ¬(IsWrite access ↔ IsWriteResp msg) then
                c.reject "modeled kernel: response kind mismatch"
              else
                match completion with
                | none => c.reject "modeled kernel: its own access faulted"
                | some completion => c.complete work completion
  | _ => c.reject "modeled kernel: mem.v1 message with no access outstanding"

def ports (_ : ModeledKernel config) : List PortSpec :=
  [{ name := "gate", protocol := memV1Protocol, role := .target },
    { name := "mem", protocol := memV1Protocol, role := .initiator }]

def init : Handler (ModeledKernel config) := .done (.ok ()) c

def handleEvent : Delivered → Handler (ModeledKernel config)
  | .message port msg =>
    match msg with
    | .memV1 msg =>
      if port = gatePort then c.gateRequest msg
      else if port = memPort then c.memResponse msg
      else c.reject "modeled kernel: unexpected delivery"
    | _ => c.reject "modeled kernel: unexpected delivery"
  | .wake token =>
    if token = issueToken then c.issue else c.reject "modeled kernel: unexpected delivery"

end ModeledKernel

end SystemScope.Os
