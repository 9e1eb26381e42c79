import SystemScope.Os.Creation
import SystemScope.Os.Scheduling

/-!
# The kernel and its memory

A kernel together with the memory that its accesses reach (`Machine`): an access takes effect when
it is answered, and others may change the memory at any time, as far as a relation allows.  The
registers of the UART and of the block controller are no memory (`BusMap`): what they answer is not
known.
-/

namespace SystemScope.Os

open MemV1

/-- Where the bus maps devices: not in the RAM, and at the registers that the configuration
names. -/
structure BusMap (config : KernelConfig) where
  devices : ℕ → Bool
  ram : ∀ addr, config.ram.base.toNat ≤ addr →
    addr < config.ram.base.toNat + config.ram.size.toNat →
    devices addr = false
  uart : devices config.uartTx.toNat = true
  blk : ∀ addr, config.blk.base.toNat ≤ addr →
    addr < config.blk.base.toNat + config.blk.size.toNat →
    devices addr = true

/-- The bytes that an access writes. -/
def Access.written : Access → Bytes
  | .read .. => []
  | .write _ data => data

variable {config : KernelConfig}

namespace BusMap

variable (bus : BusMap config) (memory : ByteMap) (access : Access)

/-- The completion is one that the access may get: memory answers with what it holds. -/
def Answers (completion : Completion) : Prop :=
  bus.devices access.addr = false → completion = (answer memory access).1

/-- The memory after an access. -/
def effect : ByteMap := if bus.devices access.addr then memory else (answer memory access).2

end BusMap

/-- A bus with devices below the RAM. -/
def smallBus : BusMap (smallConfig 0x80000000) where
  devices addr := addr < 0x80000000
  ram addr hle _ := by
    have hbase : (smallConfig 0x80000000).ram.base.toNat = 0x80000000 := by decide
    simp only [hbase] at hle
    simpa using hle
  uart := by decide
  blk addr _ hlt := by
    have htop : (smallConfig 0x80000000).blk.base.toNat + (smallConfig 0x80000000).blk.size.toNat ≤
        0x80000000 := by decide
    exact decide_eq_true (by omega)

/-- A kernel and what is around it. -/
structure Machine (config : KernelConfig) where
  kernel : ModeledKernel config
  memory : ByteMap
  /-- The bytes that the kernel has written to the UART. -/
  uart : Bytes
  /-- The trap frame when the last operation started. -/
  trapped : Bytes

namespace Machine

/-- The bytes of the trap frame. -/
def frame (x : Machine config) : Bytes := x.memory.read config.trapFrame.toNat frameBytes

/-- The bytes that an access sends to the UART. -/
def transmitted (config : KernelConfig) (access : Access) : Bytes :=
  if access.addr = config.uartTx.toNat then access.written else []

/-- What others may do to the memory. -/
abbrev Others (config : KernelConfig) := ModeledKernel config → ByteMap → ByteMap → Prop

/-- What can happen. -/
inductive Step (bus : BusMap config) (others : Others config) (x : Machine config) :
    Machine config → Prop
  /-- The kernel takes a delivery that answers no access. -/
  | takes {delivery : Delivered} {env : Surroundings} {calls : List Call} {c : ModeledKernel config}
      (hdelivery : ∀ msg, delivery ≠ .message memPort msg)
      (hc : (x.kernel.handleEvent delivery).Performs env calls c) :
      Step bus others x
        { x with kernel := c, trapped := if x.kernel.held.isSome then x.trapped else x.frame }
  /-- The outstanding access takes effect and is answered. -/
  | answered {work : Work} {txn : TxnId} {access : Access} {completion : Completion}
      {msg : MemV1.MemMsg} {env : Surroundings} {calls : List Call} {c : ModeledKernel config}
      (hstate : x.kernel.state = .wait work txn) (haccess : work.access config = .ok (some access))
      (hmsg : ModeledKernel.response msg = some (txn, some completion))
      (hanswers : bus.Answers x.memory access completion)
      (hc : (x.kernel.handleEvent (.message memPort (.memV1 msg))).Performs env calls c) :
      Step bus others x
        { x with kernel := c, memory := bus.effect x.memory access
                 uart := x.uart ++ transmitted config access }
  /-- Others change the memory. -/
  | others {memory : ByteMap} (h : others x.kernel x.memory memory) :
      Step bus others x { x with memory }

/-- A run, with the stages that begin in it. -/
inductive Runs (bus : BusMap config) (others : Others config) (x₀ : Machine config) :
    List Stage → Machine config → Prop
  | start : Runs bus others x₀ [] x₀
  | step {stages : List Stage} {x x' : Machine config} (h : Runs bus others x₀ stages x)
      (hstep : Step bus others x x') :
      Runs bus others x₀ (stages ++ (x.kernel.begun x'.kernel).toList) x'

variable {bus : BusMap config} {others : Others config} {x x' x₀ : Machine config}
  {stages stages' : List Stage}

/-- A step of a machine is one of its kernel, or leaves it as it is. -/
lemma Step.kernel (h : Step bus others x x') : x'.kernel = x.kernel ∨
    ∃ delivery env calls, (x.kernel.handleEvent delivery).Performs env calls x'.kernel := by
  cases h with
  | takes hdelivery hc => exact .inr ⟨_, _, _, hc⟩
  | answered hstate haccess hmsg hanswers hc => exact .inr ⟨_, _, _, hc⟩
  | others h => exact .inl rfl

lemma Runs.passes (h : Runs bus others x₀ stages x) :
    ModeledKernel.Passes x₀.kernel stages x.kernel := by
  induction h with
  | start => exact .start
  | @step stages x x' _ hstep ih =>
    rcases hstep.kernel with hsame | ⟨delivery, env, calls, hc⟩
    · rw [hsame, ModeledKernel.begun_self, Option.toList_none, List.append_nil]
      exact ih
    · exact .event ih hc

/-- What a step does to a machine whose kernel has processes. -/
inductive Acts (bus : BusMap config) (others : Others config) (x : Machine config) (m : Model)
    (x' : Machine config) (m' : Model) : Prop
  /-- The kernel stays as it is. -/
  | others (hkernel : x'.kernel = x.kernel) (hmodel : m' = m)
      (hmemory : others x.kernel x.memory x'.memory) (huart : x'.uart = x.uart)
      (htrapped : x'.trapped = x.trapped)
  /-- The operation stays as it is. -/
  | waits (hwork : x'.kernel.work = x.kernel.work) (hheld : x'.kernel.held = x.kernel.held)
      (hmodel : m' = m) (hbegun : x.kernel.begun x'.kernel = none) (hmemory : x'.memory = x.memory)
      (huart : x'.uart = x.uart) (htrapped : x.kernel.held.isSome → x'.trapped = x.trapped)
  /-- An operation starts. -/
  | starts {stage : Stage} {events : List ProcessEvent} (hheld : x.kernel.held = none)
      (hheld' : x'.kernel.held.isSome) (hwork : x'.kernel.work = some (.proc (.new stage)))
      (hbegun : x.kernel.begun x'.kernel = some stage)
      (hstage : stage = .readFrame ∨ stage.OfBoot ∨ stage.Switches)
      (hfollows : Follows (fun e => ¬m.Operating ∧ BootEvent none e) m events m' stage)
      (hop : m.Operating → m'.Operating) (hmemory : x'.memory = x.memory) (huart : x'.uart = x.uart)
      (htrapped : x'.trapped = x.frame)
  /-- An access takes effect and is answered. -/
  | completes {o o' : ProcOp} {access : Access} {completion : Completion}
      (hwork : x.kernel.work = some (.proc o)) (haccess : o.access config = .ok (some access))
      (hanswers : bus.Answers x.memory access completion)
      (hcomplete : o.complete config completion = .ok (.ok o'))
      (hgoes : ModeledKernel.Goes x.kernel m o' x'.kernel m')
      (hmemory : x'.memory = bus.effect x.memory access)
      (huart : x'.uart = x.uart ++ transmitted config access) (htrapped : x'.trapped = x.trapped)

/-- What a step does to a machine whose kernel has processes. -/
lemma Step.acts (h : Step bus others x x') (hsound : x.kernel.Sound) {m : Model}
    (hm : x.kernel.model = some m) :
      ∃ m', x'.kernel.model = some m' ∧ Acts bus others x m x' m' := by
  cases h with
  | others h => exact ⟨m, hm, .others rfl rfl h rfl rfl⟩
  | takes hdelivery hc =>
    obtain ⟨m', hm', hacts⟩ := (ModeledKernel.step_of_performs hc).acts hsound hm
    refine ⟨m', hm', ?_⟩
    cases hacts with
    | waits _ hwork hheld hmodel hbegun =>
      exact .waits hwork hheld hmodel hbegun rfl rfl fun hheld => if_pos hheld
    | starts _ hheld hheld' hwork hbegun hstage hfollows hop =>
      refine .starts hheld hheld' hwork hbegun hstage hfollows hop rfl rfl (if_neg ?_)
      rw [hheld]
      exact Bool.false_ne_true
    | completes hmem => exact absurd hmem (hdelivery _)
  | @answered work txn access completion msg env calls c hstate haccess hmsg hanswers hc =>
    obtain ⟨m', hm', hacts⟩ := (ModeledKernel.step_of_performs hc).acts hsound hm
    refine ⟨m', hm', ?_⟩
    cases hacts with
    | waits hdelivery => exact absurd rfl (hdelivery _)
    | starts hdelivery => exact absurd rfl (hdelivery _)
    | @completes _ txn' o o' completion' hdelivery hstate' hmsg' hcomplete hgoes =>
      cases hdelivery
      rw [hstate] at hstate'
      cases hstate'
      rw [hmsg] at hmsg'
      cases hmsg'
      exact .completes
        (ModeledKernel.work_of_wait hstate) haccess hanswers hcomplete hgoes rfl rfl rfl

end Machine

end SystemScope.Os
