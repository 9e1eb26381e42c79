import SystemScope.Framework.SparseMap

/-!
# Reading into a state

A reader that fills a state in place takes over what it reads as it goes: where it refuses its
input, the state keeps what was taken over before.  `Refill` is the monad of such readers; a loop
adds the items of a collection to the state, one by one (`forEach`, `forEntries`).
-/

universe u v

/-- Reads into a state of type `σ`. -/
def Refill (σ β : Type u) (ε : Type v) (α : Type u) :=
  σ → List β → σ × Except ε (α × List β)

namespace Refill

variable {σ β α γ κ : Type u} {ε : Type v}

/-- Goes on with what was read. -/
def next (p : Refill σ β ε α) (f : α → Refill σ β ε γ) : Refill σ β ε γ := fun s bs =>
  match p s bs with
  | (s', .ok (x, rest)) => f x s' rest
  | (s', .error e) => (s', .error e)

instance : Monad (Refill σ β ε) where
  pure x s bs := (s, .ok (x, bs))
  bind := next

/-- Reads a value. -/
def read (d : Parser β ε α) : Refill σ β ε α := fun s bs => (s, d bs)

/-- Takes over what was read. -/
def change (f : σ → σ) : Refill σ β ε PUnit := fun s bs => (f s, .ok (⟨⟩, bs))

/-- Refuses the input. -/
def refuse (e : ε) : Refill σ β ε α := fun s _ => (s, .error e)

/-- Reads so many items, and takes over each. -/
def forEach (d : Parser β ε α) (put : α → σ → σ) : ℕ → Refill σ β ε PUnit
  | 0 => pure ⟨⟩
  | n + 1 => do
    let x ← read d
    change (put x)
    forEach d put n

end Refill

namespace Refill

variable {σ κ β : Type} {ε : Type v}

/-- Reads so many entries, each knowing the key before it, and takes over each. -/
def forEntries (entry : Option κ → Parser UInt8 ε (κ × β)) (put : κ × β → σ → σ) :
    ℕ → Option κ → Refill σ UInt8 ε Unit
  | 0, _ => pure ()
  | n + 1, previous => do
    let e ← read (entry previous)
    change (put e)
    forEntries entry put n e.1

end Refill
