import Mathlib.Data.List.Forall2

/-!
# Chains of checks

Computations in `Except` that check one thing after the other: what it means that all of them pass.
Each way of putting checks together has one equivalence, so that a chain is taken apart by
rewriting.
-/

namespace Checks

variable {ε ε' α γ : Type}

/-- `ok_or`. -/
def okOr (e : ε) : Option α → Except ε α
  | some x => .ok x
  | none => .error e

lemma okOr_eq_ok {e : ε} {o : Option α} {x : α} : okOr e o = .ok x ↔ o = some x := by
  cases o <;> simp [okOr]

lemma bind_eq_ok {d : Except ε α} {f : α → Except ε γ} {y : γ} :
    (d >>= f) = .ok y ↔ ∃ x, d = .ok x ∧ f x = .ok y := by
  cases d with
  | error e => simp [bind, Except.bind]
  | ok x => simp [bind, Except.bind]

/-- A check in front of a computation. -/
lemma check_eq_ok {d : Except ε Unit} {f : Unit → Except ε γ} {y : γ} :
    (d >>= f) = .ok y ↔ d = .ok () ∧ f () = .ok y := by
  cases d with
  | error e => simp [bind, Except.bind]
  | ok x => simp [bind, Except.bind]

lemma pure_eq_ok {x y : α} : (pure x : Except ε α) = .ok y ↔ x = y := by
  change Except.ok x = _ ↔ _
  rw [Except.ok.injEq]

/-- A guard in front of a computation. -/
lemma guard_eq_ok {p : Prop} [Decidable p] {e : ε} {d : Except ε α} {y : α} :
    (if p then .error e else d) = .ok y ↔ ¬p ∧ d = .ok y := by
  by_cases hp : p <;> simp [hp]

lemma mapError_eq_ok {f : ε → ε'} {d : Except ε α} {y : α} :
    d.mapError f = .ok y ↔ d = .ok y := by
  cases d <;> simp [Except.mapError]

/-- A computation for each element of a list. -/
lemma mapM_eq_ok {f : α → Except ε γ} {xs : List α} {ys : List γ} :
    xs.mapM f = .ok ys ↔ List.Forall₂ (fun x y => f x = .ok y) xs ys := by
  induction xs generalizing ys with
  | nil =>
    rw [List.mapM_nil, pure_eq_ok, List.forall₂_nil_left_iff, eq_comm]
  | cons x xs ih =>
    simp only [List.mapM_cons, bind_eq_ok, pure_eq_ok, ih]
    constructor
    · rintro ⟨y, hy, zs, hzs, rfl⟩
      exact .cons hy hzs
    · intro h
      cases h with
      | cons hy hzs => exact ⟨_, hy, _, hzs, rfl⟩

/-- A computation for each element of a list, which says no for a reason of that element. -/
lemma mapM_eq_ok_map {f : α → Except ε γ} {P : α → Prop} {g : α → γ} {xs : List α} {ys : List γ}
    (h : ∀ x ∈ xs, ∀ y, f x = .ok y ↔ P x ∧ y = g x) :
    xs.mapM f = .ok ys ↔ (∀ x ∈ xs, P x) ∧ ys = xs.map g := by
  induction xs generalizing ys with
  | nil =>
    rw [List.mapM_nil, pure_eq_ok, List.map_nil, eq_comm]
    simp
  | cons x xs ih =>
    rw [List.forall_mem_cons] at h ⊢
    simp only [List.mapM_cons, bind_eq_ok, pure_eq_ok, ih h.2, h.1]
    constructor
    · rintro ⟨_, ⟨hx, rfl⟩, _, ⟨hxs, rfl⟩, rfl⟩
      exact ⟨⟨hx, hxs⟩, rfl⟩
    · rintro ⟨⟨hx, hxs⟩, rfl⟩
      exact ⟨_, ⟨hx, rfl⟩, _, ⟨hxs, rfl⟩, rfl⟩

lemma mapM_congr {f g : α → Except ε γ} {xs : List α} (h : ∀ x ∈ xs, f x = g x) :
    xs.mapM f = xs.mapM g := by
  induction xs with
  | nil => rfl
  | cons x xs ih =>
    rw [List.mapM_cons, List.mapM_cons, h x List.mem_cons_self,
      ih fun y hy => h y (List.mem_cons_of_mem _ hy)]

/-! ## Partial correctness -/

/-- A computation ends in a value or an error of the given kinds. -/
def Yields (E : ε → Prop) (P : α → Prop) : Except ε α → Prop
  | .ok x => P x
  | .error e => E e

section Yields

variable {E : ε → Prop} {P P' : α → Prop} {Q : γ → Prop} {d : Except ε α}

lemma Yields.bind (h : Yields E P d) {f : α → Except ε γ} (hf : ∀ x, P x → Yields E Q (f x)) :
    Yields E Q (d >>= f) := by
  cases d with
  | error e => exact h
  | ok x => exact hf x h

lemma Yields.mono (h : Yields E P d) (hP : ∀ x, P x → P' x) : Yields E P' d := by
  cases d with
  | error e => exact h
  | ok x => exact hP x h

lemma Yields.of_ok (h : Yields E P d) {x : α} (hd : d = .ok x) : P x := by
  rwa [hd] at h

lemma Yields.of_error (h : Yields E P d) {e : ε} (hd : d = .error e) : E e := by
  rwa [hd] at h

/-- A guard in front of a computation. -/
lemma Yields.guard {p : Prop} [Decidable p] {e : ε} (he : p → E e) (h : ¬p → Yields E P d) :
    Yields E P (if p then .error e else d) := by
  by_cases hp : p
  · rw [if_pos hp]
    exact he hp
  · rw [if_neg hp]
    exact h hp

/-- A computation for each element of a list. -/
lemma Yields.mapM {f : α → Except ε γ} {xs : List α}
    (h : ∀ x ∈ xs, Yields E (fun _ => True) (f x)) : Yields E (fun _ => True) (xs.mapM f) := by
  induction xs with
  | nil => trivial
  | cons x xs ih =>
    rw [List.mapM_cons]
    refine (h x List.mem_cons_self).bind fun y _ => ?_
    exact (ih fun z hz => h z (List.mem_cons_of_mem _ hz)).bind fun ys _ => trivial

end Yields

/-! ## Elements against those before them -/

section InOrder

variable {check : List α → α → Except ε Unit} {P : α → Prop} {Q : α → α → Prop}

/-- Checks the elements of a list in order, each with those before it. -/
def checkedFrom (check : List α → α → Except ε Unit) (earlier : List α) : List α → Except ε Unit
  | [] => .ok ()
  | x :: rest => do
    check earlier x
    checkedFrom check (earlier ++ [x]) rest

/-- Checks the elements of a list in order, each with those before it. -/
abbrev checkedInOrder (check : List α → α → Except ε Unit) (xs : List α) : Except ε Unit :=
  checkedFrom check [] xs

lemma checkedFrom_eq_ok
    (hcheck : ∀ earlier x, (∀ y ∈ earlier, P y) →
      (check earlier x = .ok () ↔ P x ∧ ∀ y ∈ earlier, Q y x))
    {earlier xs : List α} (hearlier : ∀ y ∈ earlier, P y) :
    checkedFrom check earlier xs = .ok () ↔
      (∀ x ∈ xs, P x) ∧ (∀ y ∈ earlier, ∀ x ∈ xs, Q y x) ∧ xs.Pairwise Q := by
  induction xs generalizing earlier with
  | nil => simp [checkedFrom]
  | cons x rest ih =>
    unfold checkedFrom
    rw [check_eq_ok, hcheck earlier x hearlier, List.pairwise_cons, List.forall_mem_cons]
    by_cases hx : P x
    · have hall : ∀ y ∈ earlier ++ [x], P y := by
        intro y hy
        rcases List.mem_append.mp hy with hy | hy
        · exact hearlier y hy
        · rwa [List.mem_singleton.mp hy]
      rw [ih hall]
      simp only [List.mem_append, List.mem_cons]
      grind
    · simp [hx]

/-- Every element passes its own checks, and each pair passes in the order of the list. -/
lemma checkedInOrder_eq_ok
    (hcheck : ∀ earlier x, (∀ y ∈ earlier, P y) →
      (check earlier x = .ok () ↔ P x ∧ ∀ y ∈ earlier, Q y x)) {xs : List α} :
    checkedInOrder check xs = .ok () ↔ (∀ x ∈ xs, P x) ∧ xs.Pairwise Q := by
  rw [checkedFrom_eq_ok hcheck (by simp)]
  simp

end InOrder

end Checks
