import Mathlib.Tactic.Common

/-!
# Runs of a deterministic machine with inputs and outputs

A machine is a function `step : σ → ι → ο × σ`: it consumes an input, answers with an output and
moves on.  `Machine.exec` feeds it a list of inputs and collects the outputs.  Two rules carry
every whole-run result:

* `exec_invariant`: what holds at the start and survives each step holds at the end;
* `exec_simulation`: two machines whose states are related, and whose related states answer
  every input alike and stay related, answer every list of inputs alike.

`foldlM_invariant` is the first of them for a machine that may stop with an error, and
`foldlM_total` says when it does not stop.
-/

namespace Machine

variable {σ τ ι ο : Type*}

/-- Feeds a list of inputs to a machine: the outputs in order, and the state reached. -/
def exec (step : σ → ι → ο × σ) : σ → List ι → List ο × σ
  | s, [] => ([], s)
  | s, i :: is =>
    let (o, s') := step s i
    let (os, s'') := exec step s' is
    (o :: os, s'')

variable {step : σ → ι → ο × σ}

@[simp] lemma exec_nil (s : σ) : exec step s [] = ([], s) := rfl

@[simp] lemma exec_cons (s : σ) (i : ι) (is : List ι) :
    exec step s (i :: is) =
      ((step s i).1 :: (exec step (step s i).2 is).1, (exec step (step s i).2 is).2) := rfl

lemma exec_append (s : σ) (is js : List ι) :
    exec step s (is ++ js) =
      ((exec step s is).1 ++ (exec step (exec step s is).2 js).1,
        (exec step (exec step s is).2 js).2) := by
  induction is generalizing s with
  | nil => rfl
  | cons i is ih => simp [ih]

lemma exec_invariant {I : σ → Prop} (hstep : ∀ s i, I s → I (step s i).2) {s : σ} (hs : I s)
    (is : List ι) : I (exec step s is).2 := by
  induction is generalizing s with
  | nil => exact hs
  | cons i is ih => exact ih (hstep s i hs)

/-- Related machines answer every list of inputs alike, and stay related. -/
lemma exec_simulation {step' : τ → ι → ο × τ} {R : σ → τ → Prop} {is : List ι}
    (hstep : ∀ s t, ∀ i ∈ is, R s t →
      (step s i).1 = (step' t i).1 ∧ R (step s i).2 (step' t i).2)
    {s : σ} {t : τ} (h : R s t) :
    (exec step s is).1 = (exec step' t is).1 ∧ R (exec step s is).2 (exec step' t is).2 := by
  induction is generalizing s t with
  | nil => exact ⟨rfl, h⟩
  | cons i is ih =>
    obtain ⟨hout, hnext⟩ := hstep s t i List.mem_cons_self h
    obtain ⟨houts, hend⟩ := ih (fun s t j hj => hstep s t j (List.mem_cons_of_mem _ hj)) hnext
    exact ⟨by simp [hout, houts], hend⟩

/-- An invariant of every fallible step holds at the end of a fold that succeeds. -/
lemma foldlM_invariant {ε : Type*} {f : σ → ι → Except ε σ} {I : σ → Prop} {is : List ι}
    (hstep : ∀ s i s', i ∈ is → f s i = .ok s' → I s → I s') {s s' : σ} (hs : I s)
    (h : is.foldlM f s = .ok s') : I s' := by
  induction is generalizing s with
  | nil =>
    cases h
    exact hs
  | cons i is ih =>
    rw [List.foldlM_cons] at h
    cases hi : f s i with
    | error e =>
      rw [hi] at h
      cases h
    | ok t =>
      rw [hi] at h
      have ht := hstep s i t List.mem_cons_self hi hs
      exact ih (fun s i s' hmem => hstep s i s' (List.mem_cons_of_mem _ hmem)) ht h

/-- The same, for an invariant that speaks of the inputs consumed so far. -/
lemma foldlM_prefix_invariant {ε : Type*} {f : σ → ι → Except ε σ} {I : List ι → σ → Prop}
    {is : List ι}
    (hstep : ∀ done i rest s s', is = done ++ i :: rest → f s i = .ok s' → I done s →
      I (done ++ [i]) s')
    {s s' : σ} (hs : I [] s) (h : is.foldlM f s = .ok s') : I is s' := by
  suffices hgen : ∀ rest done s, is = done ++ rest → I done s →
    rest.foldlM f s = .ok s' → I is s' by
    exact hgen is [] s rfl hs h
  intro rest
  induction rest with
  | nil =>
    intro done s hsplit hdone hfold
    cases hfold
    rwa [hsplit, List.append_nil]
  | cons i rest ih =>
    intro done s hsplit hdone hfold
    rw [List.foldlM_cons] at hfold
    cases hi : f s i with
    | error e =>
      rw [hi] at hfold
      cases hfold
    | ok t =>
      rw [hi] at hfold
      have ht := hstep done i rest s t hsplit hi hdone
      exact ih (done ++ [i]) t (by simp [hsplit]) ht hfold

/-- A fold succeeds if every step does, as long as the invariant holds. -/
lemma foldlM_total {ε : Type*} {f : σ → ι → Except ε σ} {I : List ι → σ → Prop} {is : List ι}
    (hstep : ∀ done i rest s, is = done ++ i :: rest → I done s →
      ∃ s', f s i = .ok s' ∧ I (done ++ [i]) s')
    {s : σ} (hs : I [] s) : ∃ s', is.foldlM f s = .ok s' ∧ I is s' := by
  suffices hgen : ∀ rest done s, is = done ++ rest → I done s →
      ∃ s', rest.foldlM f s = .ok s' ∧ I is s' by
    exact hgen is [] s rfl hs
  intro rest
  induction rest with
  | nil =>
    intro done s hsplit hdone
    refine ⟨s, rfl, ?_⟩
    rwa [hsplit, List.append_nil]
  | cons i rest ih =>
    intro done s hsplit hdone
    obtain ⟨t, hi, ht⟩ := hstep done i rest s hsplit hdone
    obtain ⟨s', hfold, hend⟩ := ih (done ++ [i]) t (by simp [hsplit]) ht
    refine ⟨s', ?_, hend⟩
    rw [List.foldlM_cons, hi]
    exact hfold

end Machine
