import SystemScope.Contracts.CanonicalLaws
import SystemScope.Platform.BusRoundTrip
import SystemScope.Properties.PendingWakes

/-!
# The bus loses no wakeup

A request that is queued leaves an arbitration wake behind, and so does a response with requests
behind it.  A pass takes one wake and leaves no region that could be granted.  So a region that is
idle and has requests queued relies on a wake that is pending in the queue of the runtime, in every
session that contains the bus.
-/

namespace SystemScope.Platform

open MemV1

namespace MultiMasterBus

variable {config : MultiMasterBusConfig} {bus bus' : MultiMasterBus config}

/-! ## The bus draws no random numbers -/

lemma drawless_arbitrateFrom (rs : List config.RegionIndex) (bus : MultiMasterBus config) :
    (arbitrateFrom rs bus).Drawless := by
  induction rs generalizing bus with
  | nil => trivial
  | cons r rs ih =>
    unfold arbitrateFrom
    dsimp only
    split
    · exact ih bus
    · split
      · exact ih bus
      · split
        · trivial
        · split
          · trivial
          · split
            · trivial
            · intro result
              cases result with
              | error e => trivial
              | ok u => exact ih _

lemma drawless_fault (master : config.Master) (msg : MemV1.MemMsg) :
    (bus.fault master msg).Drawless := by
  have hanswer : ∀ txn addr len resp, (bus.answerFault master txn addr len resp).Drawless := by
    intro txn addr len resp result
    cases result with
    | error e => trivial
    | ok u => trivial
  cases msg with
  | readReq => exact hanswer _ _ _ _
  | writeReq => exact hanswer _ _ _ _
  | readResp => trivial
  | writeResp => trivial

lemma drawless_request (master : config.Master) (msg : MemV1.MemMsg) :
    (bus.request master msg).Drawless := by
  unfold request
  split
  · intro p
    dsimp only
    split_ifs
    · trivial
    · trivial
    · split
      · trivial
      · exact drawless_fault master msg
      · split
        · exact drawless_fault master msg
        · exact fun _ => trivial
  · trivial

lemma drawless_relay (r : config.RegionIndex) (txn : TxnId) (write : Bool) (msg : MemV1.MemMsg) :
    (bus.relay r txn write msg).Drawless := by
  intro p
  dsimp only
  split
  · trivial
  · split
    · trivial
    · split
      · trivial
      · intro result
        cases result with
        | error e => trivial
        | ok u =>
          dsimp only
          split
          · exact fun _ => trivial
          · trivial

lemma drawless_handleEvent (delivery : Delivered) : (bus.handleEvent delivery).Drawless := by
  cases delivery with
  | wake token =>
    simp only [handleEvent]
    split
    · intro p
      dsimp only
      split
      · trivial
      · exact drawless_arbitrateFrom _ bus
    · trivial
  | message port msg =>
    cases msg with
    | memV1 msg =>
      simp only [handleEvent]
      split
      · exact drawless_request _ msg
      · split
        · cases msg with
          | readResp => exact drawless_relay _ _ _ _
          | writeResp => exact drawless_relay _ _ _ _
          | readReq => trivial
          | writeReq => trivial
        · trivial
    | mem => trivial
    | irq => trivial
    | block => trivial

/-! ## What the bus relies on -/

/-- A region waits for arbitration. -/
def Waits (bus : MultiMasterBus config) : Prop :=
  ∃ r m, (bus.region r).active = none ∧ (bus.region r).queue m ≠ []

/-- The bus relies on an arbitration wake. -/
def Relies (bus : MultiMasterBus config) (phase : Phase) (token : UInt64) : Prop :=
  bus.Waits ∧ phase = .transfer ∧ token = arbitrateToken

/-- Whenever a region waits, it waited before and the wake was not this one, or a wake is
scheduled. -/
lemma Accepts.wakes {phase : Phase} {delivery : Delivered} {calls : List Call}
    (h : bus.Accepts phase delivery calls bus') (hwaits : bus'.Waits) :
    bus.Waits ∧ delivery ≠ .wake arbitrateToken ∨
      ∃ when_, Call.woke when_ .transfer arbitrateToken ∈ calls := by
  cases h with
  | enqueue => exact .inr ⟨.now, List.mem_singleton.mpr rfl⟩
  | refuse => exact .inl ⟨hwaits, by simp⟩
  | arbitrate hpass =>
    obtain ⟨r, m, hidle, hqueued⟩ := hwaits
    rcases hpass.done (List.nodup_finRange _) r (List.mem_finRange r) with hactive | hselect
    · exact absurd hidle hactive
    · exact absurd (RegionState.select_eq_none.mp hselect m) hqueued
  | @relay port r msg active hport hactive =>
    obtain ⟨r', m, hidle, hqueued⟩ := hwaits
    rw [queue_release] at hqueued
    by_cases hr : r' = r
    · subst hr
      have hagain : (bus.region r').hasQueued := RegionState.hasQueued_iff.mpr ⟨m, hqueued⟩
      refine .inr ⟨.cycles config.clock 1, List.mem_cons_of_mem _ ?_⟩
      rw [wakeAgain, if_pos hagain]
      exact List.mem_singleton.mpr rfl
    · rw [active_release, if_neg hr] at hidle
      exact .inl ⟨⟨r', m, hidle, hqueued⟩, by simp⟩

lemma keeps [SnapshotData] (hstrict : SnapshotData.Strict) (hconfig : config.Accepted) :
    Component.Keeps (fun bus : MultiMasterBus config => bus.Valid) Relies where
  drawless bus delivery := drawless_handleEvent delivery
  init bus bus' h hends := by
    cases hends
    exact ⟨h, fun _ _ => id⟩
  event bus bus' delivery h hends := h.moves hconfig (handleEvent_ends hends)
  wakes bus bus' delivery env calls _ hperform phase token hrelies := by
    obtain ⟨hwaits, rfl, rfl⟩ := hrelies
    rcases (perform_handleEvent_iff.mp hperform).wakes hwaits with ⟨hbefore, hother⟩ | hwoke
    · exact .inl ⟨⟨hbefore, rfl, rfl⟩, hother⟩
    · exact .inr hwoke
  restores bus c₁ c₂ schema rest h hrestore := h.eq_of_restore hstrict hconfig hrestore

/-! ## No wakeup is lost -/

/-- In every session that contains a bus, whatever is delivered in whatever order and however often
snapshots are restored: while a region of the bus waits for arbitration, an arbitration wake is
pending.  Without one, every queued request is behind an active transaction of its region.  (A
session that is faulted delivers nothing any more.) -/
theorem no_wakeup_lost [Contracts] [SnapshotData] (hlawful : Contracts.Lawful)
    (hstrict : SnapshotData.Strict) {C : Type} [Component C] {f : MultiMasterBus config → C}
    (hembeds : Component.Embeds f) {b : TopologyBuilder C} {settings : SessionConfig}
    {rt₀ rt : Runtime C} (helaborate : b.elaborate settings = .ok rt₀) {me : ComponentId}
    {bus₀ : MultiMasterBus config} (hnew : new config = .ok bus₀)
    (hhere : rt₀.components[me.toNat]? = some (f bus₀)) (h : Runtime.Reached rt₀ rt)
    (hlive : rt.lifecycle ≠ .faulted) :
    ∃ bus, rt.components[me.toNat]? = some (f bus) ∧
      ((∃ r m, (bus.region r).active = none ∧ (bus.region r).queue m ≠ []) →
        rt.scheduler.Wakes me .transfer arbitrateToken) ∧
      (¬rt.scheduler.Wakes me .transfer arbitrateToken →
        ∀ r m, (bus.region r).queue m ≠ [] → (bus.region r).active ≠ none) := by
  obtain ⟨hconfig, -⟩ := new_eq_ok.mp hnew
  have hidle : ¬bus₀.Waits := by
    intro ⟨r, m, _, hqueued⟩
    obtain ⟨hmasters, hidle⟩ := region_new hnew r
    rw [hidle, RegionState.queue_idle] at hqueued
    exact hqueued rfl
  have hstart : rt₀.Relies f Valid Relies me bus₀ :=
    ⟨hhere, valid_new hnew, fun _ _ _ hrelies => absurd hrelies.1 hidle⟩
  obtain ⟨⟨bus, hrelies⟩, -⟩ := Runtime.Reached.relying hembeds (keeps hstrict hconfig) hlawful
    (Runtime.sized_of_elaborate helaborate) hstart h
  have hpending : bus.Waits → rt.scheduler.Wakes me .transfer arbitrateToken :=
    fun hwaits => hrelies.pending hlive _ _ ⟨hwaits, rfl, rfl⟩
  refine ⟨bus, hrelies.here, hpending, ?_⟩
  intro hnone r m hqueued hidle
  exact hnone (hpending ⟨r, m, hidle, hqueued⟩)

/-! ## A request that waits -/

/-- What a bus is between: masters that read once when they start, and a target. -/
inductive Endpoint
  | master
  | target
  deriving DecidableEq, Repr

instance : Component Endpoint where
  typeName
    | .master => "test.master"
    | .target => "test.target"
  ports
    | .master => [⟨"bus", memV1Protocol, .initiator⟩]
    | .target => [⟨"mem", memV1Protocol, .target⟩]
  init
    | .master => .send 0 (.memV1 (.readReq 7 0x1000 4)) .now .request fun result =>
        .done result .master
    | .target => .done (.ok ()) .target
  handleEvent c _ := .done (.ok ()) c
  snapshotSchemaVersion _ := 0
  snapshot _ := []
  restore c bs _ := (c, .ok bs)
  inspect _ := ⟨[]⟩

section

open Canonical

/-- Two masters and a target around the bus of `sharedConfig`. -/
def sharedTopology : TopologyBuilder (MultiMasterBus sharedConfig ⊕ Endpoint) where
  clock := ⟨1000000000000⟩
  domains := []
  components := [⟨"bus", .inl sharedBus⟩, ⟨"cpu", .inr .master⟩, ⟨"dma", .inr .master⟩,
    ⟨"ram", .inr .target⟩]
  links := [⟨(1, "bus"), (0, "cpu"), none⟩, ⟨(2, "bus"), (0, "dma"), none⟩,
    ⟨(0, "ram"), (3, "mem"), none⟩]
  ids_fit := by decide

local instance : Contracts := Canonical.contracts 1000000000000

theorem no_wakeup_lost_shared :
    ∃ rt₀, sharedTopology.elaborate ⟨77, ⟨1000000⟩⟩ = .ok rt₀ ∧
      (Machine.exec Runtime.call rt₀ [.init, .step]).2.scheduler.Wakes 0 .transfer
        arbitrateToken := by
  have hok : (sharedTopology.elaborate ⟨77, ⟨1000000⟩⟩).toOption.any fun rt =>
      rt.components[0]? = some (.inl sharedBus) ∧
      (Machine.exec Runtime.call rt [.init, .step]).2.lifecycle ≠ .faulted ∧
      (Machine.exec Runtime.call rt [.init, .step]).2.components[0]? =
        some (.inl (sharedBus.enqueue ram cpu (.readReq 7 0 4))) := by decide +kernel
  cases helaborate : sharedTopology.elaborate ⟨77, ⟨1000000⟩⟩ with
  | error e =>
    rw [helaborate] at hok
    cases hok
  | ok rt₀ =>
    rw [helaborate] at hok
    obtain ⟨hhere, hlive, hqueued⟩ := of_decide_eq_true (show decide _ = true from hok)
    have hat : rt₀.components[(0 : ComponentId).toNat]? = some (.inl sharedBus) := hhere
    have hcalls : ∀ c ∈ [Runtime.Call.init, .step], c.advances := by decide
    obtain ⟨bus, hbus, hpending, -⟩ := no_wakeup_lost (Canonical.canonical_lawful _)
      snapshotData_strict Component.embeds_inl helaborate new_sharedConfig hat
      (Runtime.Reached.exec hcalls) hlive
    refine ⟨rt₀, rfl, hpending ⟨ram, cpu, ?_⟩⟩
    obtain rfl : bus = sharedBus.enqueue ram cpu (.readReq 7 0 4) := by
      have heq := hbus.symm.trans hqueued
      exact Sum.inl.inj (Option.some.inj heq)
    exact ⟨by decide +kernel, by decide +kernel⟩

end

end MultiMasterBus

end SystemScope.Platform
