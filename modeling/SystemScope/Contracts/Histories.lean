import SystemScope.Contracts.Calls

/-!
# Component states over whole histories

`Component.Evolves` follows a component through the calls it handles.  A component may also be
given snapshots, its own or any other bytes; `Component.Reaches` allows for both, in any order.
`Component.Ran` remembers what was delivered and what it asked for, as long as nothing
fails. -/

namespace SystemScope.Component

variable {C : Type} [Component C]

/-- The states a component reaches from `c₀` by handling calls and being given snapshots. -/
inductive Reaches (c₀ : C) : C → Prop
  | refl : Reaches c₀ c₀
  | init {c c' : C} (h : Reaches c₀ c) (hc : (Component.init c).Ends c') : Reaches c₀ c'
  | event {c c' : C} (h : Reaches c₀ c) (delivery : Delivered)
      (hc : (Component.handleEvent c delivery).Ends c') : Reaches c₀ c'
  | restore {c : C} (h : Reaches c₀ c) (bs : Bytes) (schema : UInt32) :
      Reaches c₀ (Component.restore c bs schema).1

variable {c₀ c : C}

/-- What every call and every restore keeps holds of every state reached. -/
lemma Reaches.invariant {P : C → Prop} (h₀ : P c₀)
    (hinit : ∀ c c' : C, P c → (Component.init c).Ends c' → P c')
    (hevent : ∀ (c c' : C) delivery, P c → (Component.handleEvent c delivery).Ends c' → P c')
    (hrestore : ∀ (c : C) bs schema, P c → P (Component.restore c bs schema).1)
    (h : Reaches c₀ c) : P c := by
  induction h with
  | refl => exact h₀
  | init _ hc ih => exact hinit _ _ ih hc
  | event _ delivery hc ih => exact hevent _ _ delivery ih hc
  | restore _ bs schema ih => exact hrestore _ bs schema ih

/-- What was delivered to a component, and the calls that each delivery led to. -/
abbrev History := List (Delivered × List Call)

/-- The deliveries of a history. -/
def History.deliveries (history : History) : List Delivered := history.map Prod.fst

/-- The calls of a history. -/
def History.calls (history : History) : List Call := history.flatMap Prod.snd

@[simp] lemma History.deliveries_append (history : History) (delivery : Delivered)
    (calls : List Call) :
    History.deliveries (history ++ [(delivery, calls)]) = history.deliveries ++ [delivery] := by
  simp [deliveries]

@[simp] lemma History.calls_append (history : History) (delivery : Delivered) (calls : List Call) :
    History.calls (history ++ [(delivery, calls)]) = history.calls ++ calls := by
  simp [History.calls]

/-- The component went through a history in which no call and no delivery failed. -/
inductive Ran (c₀ : C) : History → C → Prop
  | start : Ran c₀ [] c₀
  | event {history : History} {c c' : C} (h : Ran c₀ history c) {delivery : Delivered}
      {env : Surroundings} {calls : List Call}
      (hc : (Component.handleEvent c delivery).Performs env calls c') :
      Ran c₀ (history ++ [(delivery, calls)]) c'

end SystemScope.Component
