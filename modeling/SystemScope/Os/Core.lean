import SystemScope.Framework.Codec
import SystemScope.Os.Config

/-!
# Operations of the kernel

`components/os/src/core.rs`: what an operation sends next and how a completion advances it, over an
abstract memory interface.  `Operation` is an operation of a kernel without processes: the scripted
one, and the shutdown that a wrong `ENTER` value starts.

Where the source would panic, the model says so: `Panic` is what a function returns instead of a
value.
-/

namespace SystemScope.Os

/-- Why the source would panic. -/
inductive Panic
  /-- An `expect` of nothing. -/
  | expect
  /-- An index past the end. -/
  | index
  /-- An integer that leaves its type. -/
  | overflow
  deriving DecidableEq, Repr

/-- The largest access of the kernel. -/
def maxAccess : ℕ := 16

/-- The page that an access may not cross. -/
def pageBytes : ℕ := 4096

/-- The byte that the scripted operation transmits. -/
def scriptByte : UInt8 := 0x6B

/-- The reason that a shutdown without processes writes. -/
def shutdownReason : UInt32 := 1

/-- The little-endian bytes of a word. -/
def wordBytes (w : UInt32) : Bytes := leBytes 4 w.toNat

/-- The word at an offset of a byte string. -/
def word (bs : Bytes) (offset : ℕ) : UInt32 := UInt32.ofNat (leNat ((bs.drop offset).take 4))

/-- An access of the kernel to the bus. -/
inductive Access
  | read (addr len : ℕ)
  | write (addr : ℕ) (data : Bytes)
  deriving DecidableEq, Repr

namespace Access

def addr : Access → ℕ
  | read addr _ => addr
  | write addr _ => addr

def len : Access → ℕ
  | read _ len => len
  | write _ data => data.length

/-- The bytes of an access lie in a range. -/
def Within (a : Access) (base size : ℕ) : Prop := base ≤ a.addr ∧ a.addr + a.len ≤ base + size

end Access

/-- The successful response to an access. -/
inductive Completion
  | data (data : Bytes)
  | written
  deriving DecidableEq, Repr

/-- A completion that does not answer the access that is due. -/
inductive CoreError
  | finished
  | wrongKind
  | dataLength
  deriving DecidableEq, Repr

/-- The first piece of what is left of a range: at most 16 bytes, inside one page. -/
def nextChunk (stop addr : ℕ) : ℕ :=
  min (min stop ((addr / pageBytes + 1) * pageBytes)) (addr + maxAccess)

lemma lt_nextChunk {stop addr : ℕ} (h : addr < stop) : addr < nextChunk stop addr := by
  have hpage : addr < (addr / pageBytes + 1) * pageBytes := by
    unfold pageBytes
    omega
  unfold nextChunk maxAccess
  omega

/-- A range in pieces of at most 16 bytes that cross no page, as addresses and lengths. -/
def chunksTo (stop addr : ℕ) : List (ℕ × ℕ) :=
  if h : addr < stop then
    have := lt_nextChunk h
    (addr, nextChunk stop addr - addr) :: chunksTo stop (nextChunk stop addr)
  else []
termination_by stop - addr

/-- `base..base + len` in pieces. -/
def chunks (base len : ℕ) : List (ℕ × ℕ) := chunksTo (base + len) base

/-- A piece of a byte string as a write. -/
def writeChunk (base : ℕ) (bs : Bytes) (chunk : ℕ × ℕ) : Access :=
  .write chunk.1 ((bs.drop (chunk.1 - base)).take chunk.2)

/-- What a kernel without processes does on an `ENTER`. -/
inductive Op
  /-- Reads the trap frame, writes it back with `sepc + 4`, and transmits a byte. -/
  | script
  /-- Writes `action` and `reason` for a wrong value. -/
  | shutdown
  deriving DecidableEq, Repr

/-- The name that inspection and the trace use. -/
def Op.name : Op → String
  | script => "script"
  | shutdown => "shutdown"

/-- A running operation: how many accesses have completed, and the bytes it works on. -/
structure Operation where
  op : Op
  step : ℕ
  data : Bytes
  deriving DecidableEq, Repr

namespace Operation

variable (config : KernelConfig) (o : Operation)

/-- The operation that an `ENTER` of a value starts. -/
def start (value : UInt32) : Operation :=
  { op := if value = config.trapFrame then .script else .shutdown, step := 0, data := [] }

def frameChunks : List (ℕ × ℕ) := chunks config.trapFrame.toNat frameBytes

def shutdownChunks : List (ℕ × ℕ) := chunks (config.trapFrame.toNat + frameAction) 8

/-- The number of accesses of the operation. -/
def steps : ℕ :=
  match o.op with
  | .script => 2 * (frameChunks config).length + 1
  | .shutdown => (shutdownChunks config).length

/-- The length of the working data at the current step. -/
def dataLen : ℕ :=
  match o.op with
  | .script =>
    if o.step < (frameChunks config).length then
      (((frameChunks config).take o.step).map Prod.snd).sum
    else if o.step < 2 * (frameChunks config).length then frameBytes
    else 0
  | .shutdown => 0

/-- An operation at a step, unless no run reaches it. -/
def fromParts (op : Op) (step : ℕ) (data : Bytes) : Option Operation :=
  let o : Operation := { op, step, data }
  if step < o.steps config ∧ o.data.length = o.dataLen config then some o else none

/-- The frame as it is written back. -/
def advanced (frame : Bytes) : Bytes :=
  frame.take frameSepc ++ wordBytes (word frame frameSepc + 4) ++ frame.drop (frameSepc + 4)

/-- The access that is due, or nothing once the operation has finished. -/
def access : Option Access :=
  match o.op with
  | .script =>
    let n := (frameChunks config).length
    if o.step < n then (frameChunks config)[o.step]?.map fun c => .read c.1 c.2
    else if o.step < 2 * n then
      (frameChunks config)[o.step - n]?.map (writeChunk config.trapFrame.toNat (advanced o.data))
    else if o.step = 2 * n then some (.write config.uartTx.toNat [scriptByte])
    else none
  | .shutdown =>
    (shutdownChunks config)[o.step]?.map
      (writeChunk (config.trapFrame.toNat + frameAction) (wordBytes 1 ++ wordBytes shutdownReason))

/-- Goes to the next step with the given working data, of which only the last write of the frame
leaves nothing. -/
def next (data : Bytes) : Operation :=
  let o := { o with step := o.step + 1, data }
  if o.data.length = o.dataLen config then o else { o with data := [] }

/-- Advances past the access that is due. -/
def complete (completion : Completion) : Except CoreError Operation :=
  match o.access config, completion with
  | none, _ => .error .finished
  | some (.read _ len), .data data =>
    if data.length ≠ len then .error .dataLength else .ok (o.next config (o.data ++ data))
  | some (.write _ _), .written => .ok (o.next config o.data)
  | some _, _ => .error .wrongKind

/-- Every access has completed. -/
def IsFinished : Prop := o.steps config ≤ o.step

instance : Decidable (o.IsFinished config) := inferInstanceAs (Decidable (_ ≤ _))

end Operation

end SystemScope.Os
