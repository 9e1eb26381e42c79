import SystemScope.Contracts.Calls

/-!
# Components inside a larger type, and renamed

A session has one type for all of its components.  `Component.Embeds f` says that a type of
components contains another: the images of `f` do what the originals do.  The sum of two types of
components contains both.

A handler whose messages and components are renamed makes the same calls, in the same order, with
other messages in them.  Two components that differ in names only have handlers of this
kind. -/

namespace SystemScope

variable {C D : Type}

namespace Handler

/-- The same calls, made by the image of a component. -/
def map (f : D → C) : Handler D → Handler C
  | .done result d => .done result (f d)
  | .send port msg when_ at_ k => .send port msg when_ at_ fun r => map f (k r)
  | .wakeSelf when_ at_ token k => .wakeSelf when_ at_ token fun r => map f (k r)
  | .rng draws k => .rng draws fun values => map f (k values)
  | .trace kind fields k => .trace kind fields (map f k)
  | .component k => .component fun id => map f (k id)
  | .now k => .now fun tick => map f (k tick)
  | .phase k => .phase fun p => map f (k p)

/-- A handler that draws no random numbers, whatever it is answered. -/
def Drawless : Handler D → Prop
  | .done .. => True
  | .send _ _ _ _ k => ∀ r, Drawless (k r)
  | .wakeSelf _ _ _ k => ∀ r, Drawless (k r)
  | .rng .. => False
  | .trace _ _ k => Drawless k
  | .component k => ∀ id, Drawless (k id)
  | .now k => ∀ tick, Drawless (k tick)
  | .phase k => ∀ p, Drawless (k p)

end Handler

namespace Component

/-- The components of `C` include those of `D`. -/
structure Embeds [Component C] [Component D] (f : D → C) : Prop where
  typeName : ∀ d, Component.typeName (f d) = Component.typeName d
  ports : ∀ d, Component.ports (f d) = Component.ports d
  init : ∀ d, Component.init (f d) = (Component.init d).map f
  handleEvent : ∀ d delivery,
    Component.handleEvent (f d) delivery = (Component.handleEvent d delivery).map f
  snapshotSchemaVersion : ∀ d,
    Component.snapshotSchemaVersion (f d) = Component.snapshotSchemaVersion d
  snapshot : ∀ d, Component.snapshot (f d) = Component.snapshot d
  restore : ∀ d bs schema,
    Component.restore (f d) bs schema = (Component.restore d bs schema).map f id
  inspect : ∀ d, Component.inspect (f d) = Component.inspect d

/-- Either of two types of components. -/
instance [Component C] [Component D] : Component (C ⊕ D) where
  typeName := Sum.elim typeName typeName
  ports := Sum.elim ports ports
  init := Sum.elim (fun c => (init c).map Sum.inl) fun d => (init d).map Sum.inr
  handleEvent := Sum.elim (fun c delivery => (handleEvent c delivery).map Sum.inl)
    fun d delivery => (handleEvent d delivery).map Sum.inr
  snapshotSchemaVersion := Sum.elim snapshotSchemaVersion snapshotSchemaVersion
  snapshot := Sum.elim snapshot snapshot
  restore := Sum.elim (fun c bs schema => (restore c bs schema).map Sum.inl id)
    fun d bs schema => (restore d bs schema).map Sum.inr id
  inspect := Sum.elim inspect inspect

lemma embeds_inl [Component C] [Component D] : Embeds (Sum.inl : C → C ⊕ D) :=
  ⟨fun _ => rfl, fun _ => rfl, fun _ => rfl, fun _ _ => rfl, fun _ => rfl, fun _ => rfl,
    fun _ _ _ => rfl, fun _ => rfl⟩

end Component

/-! ## Renaming -/

/-- The call with its message renamed. -/
def Call.rename (msgs : PortId → Message → Message) : Call → Call
  | .sent port msg when_ at_ => .sent port (msgs port msg) when_ at_
  | .woke when_ at_ token => .woke when_ at_ token
  | .traced kind fields => .traced kind fields

namespace Handler

/-- The same handler, with its messages and its components renamed. -/
def rename (msgs : PortId → Message → Message) (f : C → D) : Handler C → Handler D
  | .done result c => .done result (f c)
  | .send port msg when_ at_ k => .send port (msgs port msg) when_ at_ fun r => rename msgs f (k r)
  | .wakeSelf when_ at_ token k => .wakeSelf when_ at_ token fun r => rename msgs f (k r)
  | .rng draws k => .rng draws fun values => rename msgs f (k values)
  | .trace kind fields k => .trace kind fields (rename msgs f k)
  | .component k => .component fun id => rename msgs f (k id)
  | .now k => .now fun tick => rename msgs f (k tick)
  | .phase k => .phase fun p => rename msgs f (k p)

variable {msgs : PortId → Message → Message} {f : C → D}

lemma perform_rename (env : Surroundings) (h : Handler C) :
    (h.rename msgs f).perform env =
      ((h.perform env).1.map (Call.rename msgs), (h.perform env).2.1, f (h.perform env).2.2) := by
  induction h with
  | done result c => rfl
  | send port msg when_ at_ k ih => simp only [rename, perform, ih, List.map_cons, Call.rename]
  | wakeSelf when_ at_ token k ih => simp only [rename, perform, ih, List.map_cons, Call.rename]
  | rng draws k ih => exact ih _
  | trace kind fields k ih => simp only [rename, perform, ih, List.map_cons, Call.rename]
  | component k ih => exact ih _
  | now k ih => exact ih _
  | phase k ih => exact ih _

lemma Performs.rename {h : Handler C} {env : Surroundings} {calls : List Call} {c : C}
    (hperforms : h.Performs env calls c) :
    (h.rename msgs f).Performs env (calls.map (Call.rename msgs)) (f c) := by
  rw [Performs, perform_rename, hperforms]

end Handler

end SystemScope
