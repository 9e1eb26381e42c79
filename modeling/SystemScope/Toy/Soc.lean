import SystemScope.Properties.Network
import SystemScope.Toy.Snapshots

/-!
# The toy system on a chip

`reference/src/lib.rs`: a CPU and a DMA share a memory over a bus.  A `ToySoc` has a configuration
for each of the four, and `reference` is the scenario of the source, of which only the seed and the
operation counts vary.
-/

namespace SystemScope

/-- The configurations of the four components. -/
structure ToySoc where
  cpu : ToyCpuConfig
  dma : ToyDmaConfig
  bus : ToyBusConfig
  mem : ToyMemoryConfig

/-- A component of the system. -/
inductive ToyPart (soc : ToySoc)
  | cpu (cpu : ToyCpu soc.cpu)
  | dma (dma : ToyDma soc.dma)
  | bus (bus : ToyBus soc.bus)
  | mem (mem : ToyMemory soc.mem)

namespace ToyPart

variable {soc : ToySoc}

section

variable [SimRng]

def init : ToyPart soc → Handler (ToyPart soc)
  | cpu c => c.init.map cpu
  | dma c => c.init.map dma
  | bus c => c.init.map bus
  | mem c => c.init.map mem

def handleEvent (part : ToyPart soc) (delivery : Delivered) : Handler (ToyPart soc) :=
  match part with
  | cpu c => (c.handleEvent delivery).map cpu
  | dma c => (c.handleEvent delivery).map dma
  | bus c => (c.handleEvent delivery).map bus
  | mem c => (c.handleEvent delivery).map mem

end

def typeName [SimRng] [ToySnapshotData] : ToyPart soc → String
  | cpu c => Component.typeName c
  | dma c => Component.typeName c
  | bus c => Component.typeName c
  | mem c => Component.typeName c

def ports : ToyPart soc → List PortSpec
  | cpu c => c.ports
  | dma c => c.ports
  | bus c => c.ports
  | mem c => c.ports

def snapshot [SimRng] [ToySnapshotData] : ToyPart soc → Bytes
  | cpu c => Component.snapshot c
  | dma c => Component.snapshot c
  | bus c => Component.snapshot c
  | mem c => Component.snapshot c

def restore [SimRng] [ToySnapshotData] (part : ToyPart soc) (bs : Bytes) (schema : UInt32) :
    ToyPart soc × Except RestoreError Bytes :=
  match part with
  | cpu c => (Component.restore c bs schema).map cpu id
  | dma c => (Component.restore c bs schema).map dma id
  | bus c => (Component.restore c bs schema).map bus id
  | mem c => (Component.restore c bs schema).map mem id

def inspect : ToyPart soc → StateView
  | cpu c => c.inspect
  | dma c => c.inspect
  | bus c => c.inspect
  | mem c => c.inspect

end ToyPart

instance [SimRng] [ToySnapshotData] {soc : ToySoc} : Component (ToyPart soc) where
  typeName := ToyPart.typeName
  ports := ToyPart.ports
  init := ToyPart.init
  handleEvent := ToyPart.handleEvent
  snapshotSchemaVersion _ := 1
  snapshot := ToyPart.snapshot
  restore := ToyPart.restore
  inspect := ToyPart.inspect

namespace ToySoc

/-- `soc.cpu0`. -/
def cpuId : ComponentId := 0

/-- `soc.dma0`. -/
def dmaId : ComponentId := 1

/-- `soc.bus`. -/
def busId : ComponentId := 2

/-- `soc.mem`. -/
def memId : ComponentId := 3

variable (soc : ToySoc)

/-- The components as they are declared. -/
def components : List (ToyPart soc) :=
  [.cpu (.new soc.cpu), .dma (.new soc.dma), .bus (.new soc.bus), .mem (.new soc.mem)]

/-- Every hop takes a bus cycle. -/
def link : Option LinkLatency := some (.cycles soc.bus.clock 1)

def topology (clock : SimulationClock) (domains : List ClockDomain) :
    TopologyBuilder (ToyPart soc) where
  clock
  domains
  components :=
    [⟨"soc.cpu0", .cpu (.new soc.cpu)⟩, ⟨"soc.dma0", .dma (.new soc.dma)⟩,
      ⟨"soc.bus", .bus (.new soc.bus)⟩, ⟨"soc.mem", .mem (.new soc.mem)⟩]
  links :=
    [⟨(cpuId, "mem"), (busId, "cpu"), soc.link⟩, ⟨(dmaId, "mem"), (busId, "dma"), soc.link⟩,
      ⟨(busId, "mem"), (memId, "mem"), soc.link⟩]
  ids_fit := show 4 ≤ ComponentId.runtime.toNat by decide

/-- What the links join. -/
structure Wired (wiring : Wiring) : Prop where
  cpu : wiring (cpuId, ToyCpu.port) = some (busId, ToyBus.upstreamPort 0)
  dma : wiring (dmaId, ToyDma.port) = some (busId, ToyBus.upstreamPort 1)
  bus : wiring (busId, ToyBus.memPort) = some (memId, ToyMemory.port)
  toCpu : wiring (busId, ToyBus.upstreamPort 0) = some (cpuId, ToyCpu.port)
  toDma : wiring (busId, ToyBus.upstreamPort 1) = some (dmaId, ToyDma.port)
  toBus : wiring (memId, ToyMemory.port) = some (busId, ToyBus.memPort)

section

variable [Contracts] [SimRng] [ToySnapshotData]

/-- The session the topology elaborates to. -/
def session (clock : SimulationClock) (domains : List ClockDomain) (config : SessionConfig) :
    Runtime (ToyPart soc) :=
  .fromElaboration clock domains
    [⟨"soc.cpu0", (ToyCpu.new soc.cpu).ports, .cpu (.new soc.cpu)⟩,
      ⟨"soc.dma0", (ToyDma.new soc.dma).ports, .dma (.new soc.dma)⟩,
      ⟨"soc.bus", (ToyBus.new soc.bus).ports, .bus (.new soc.bus)⟩,
      ⟨"soc.mem", (ToyMemory.new soc.mem).ports, .mem (.new soc.mem)⟩]
    [[⟨busId, 0, soc.link⟩], [⟨busId, 1, soc.link⟩],
      [⟨cpuId, 0, soc.link⟩, ⟨dmaId, 0, soc.link⟩, ⟨memId, 0, soc.link⟩], [⟨busId, 2, soc.link⟩]]
    [⟨(cpuId, 0), (busId, 0), soc.link⟩, ⟨(dmaId, 0), (busId, 1), soc.link⟩,
      ⟨(busId, 2), (memId, 0), soc.link⟩] config

variable {soc} {clock : SimulationClock} {domains : List ClockDomain} {config : SessionConfig}

lemma elaborate_topology (h : soc.bus.clock.toNat < domains.length) :
    (soc.topology clock domains).elaborate config = .ok (soc.session clock domains config) := by
  have hlink : unknownDomain domains soc.link = none := if_neg (Nat.not_le.mpr h)
  unfold TopologyBuilder.elaborate topology
  simp only [List.foldlM_cons, List.foldlM_nil, addLink, hlink]
  rfl

lemma eq_session {rt : Runtime (ToyPart soc)}
    (h : (soc.topology clock domains).elaborate config = .ok rt) :
    rt = soc.session clock domains config := by
  by_cases hclock : soc.bus.clock.toNat < domains.length
  · rw [elaborate_topology hclock] at h
    exact (Except.ok.inj h).symm
  · have hlink : unknownDomain domains soc.link = some soc.bus.clock :=
      if_pos (Nat.not_lt.mp hclock)
    unfold TopologyBuilder.elaborate topology at h
    simp only [List.foldlM_cons, List.foldlM_nil, addLink, hlink] at h
    cases h

lemma wired_session : Wired (soc.session clock domains config).wiring :=
  ⟨rfl, rfl, rfl, rfl, rfl, rfl⟩

end

/-! ## The reference scenario -/

/-- What varies between runs of the scenario. -/
structure ReferenceConfig where
  seed : UInt64
  /-- Operations the CPU issues. -/
  cpuOps : UInt64
  /-- Writes the DMA issues. -/
  dmaOps : UInt64

/-- The CPU region: slots of `cpuAccess` bytes from address 0. -/
def cpuSlots : UInt32 := 64

/-- Bytes per CPU access. -/
def cpuAccess : UInt32 := 8

/-- The DMA region: slots of `dmaAccess` bytes from `dmaBase`. -/
def dmaSlots : UInt32 := 64

/-- Bytes per DMA write. -/
def dmaAccess : UInt32 := 16

/-- First address of the DMA region, right after the CPU region. -/
def dmaBase : UInt64 := cpuSlots.toUInt64 * cpuAccess.toUInt64

/-- Both regions and nothing else. -/
def memorySize : UInt32 := cpuSlots * cpuAccess + dmaSlots * dmaAccess

/-- The default resolution: one tick is a picosecond. -/
def clock : SimulationClock := ⟨1000000000000⟩

/-- The clocks of the CPU, of the DMA and of the bus. -/
def domains : List ClockDomain :=
  [⟨0, 3000000000, 1, 0, .floor⟩, ⟨1, 3000000000, 2, 0, .floor⟩, ⟨2, 1000000000, 1, 0, .floor⟩]

/-- The settings of a session of the scenario. -/
def ReferenceConfig.session (config : ReferenceConfig) : SessionConfig := ⟨config.seed, ⟨1000000⟩⟩

/-- The components of the scenario. -/
def reference (config : ReferenceConfig) : ToySoc where
  cpu :=
    { clock := 0
      ops := config.cpuOps
      maxOutstanding := 4
      maxThinkCycles := ⟨8, by decide⟩
      accessLen := cpuAccess
      slots := cpuSlots
      writePercent := 40 }
  dma :=
    { clock := 1
      ops := config.dmaOps
      maxOutstanding := 8
      maxBurst := ⟨8, by decide⟩
      maxGapCycles := ⟨128, by decide⟩
      base := dmaBase
      accessLen := dmaAccess
      slots := dmaSlots }
  bus := { clock := 2 }
  mem :=
    { size := memorySize
      readLatency := ⟨50 * 10 ^ 6⟩
      writeLatency := ⟨30 * 10 ^ 6⟩ }

end ToySoc

end SystemScope
