import SystemScope.Contracts.Interface

/-!
# Handlers whose calls succeed

A handler is a tree of the context calls it makes.  `Handler.perform` follows it with every call
answered by success and collects what the handler asked for.  `Handler.Ends` allows for every
answer; `Handler.ends_of_perform` places the first among the second.

`Meets h c P` is the specification of a handler called on `c`: if its calls succeed and so does it,
`P` says what it asked for and left behind; and however its calls are answered, it leaves behind
`c` or something that `P` allows.  A failed call loses nothing and changes nothing by half.
-/

namespace SystemScope

/-- What a handler asks of its context. -/
inductive Call
  | sent (port : PortId) (msg : Message) (when_ : ScheduleWhen) (phase : Phase)
  | woke (when_ : ScheduleWhen) (phase : Phase) (token : UInt64)
  | traced (kind : String) (fields : List (String × Value))
  deriving DecidableEq

/-- What a handler can read of its context. -/
structure Surroundings where
  component : ComponentId
  now : Tick
  phase : Phase
  /-- The random stream ahead. -/
  rng : ℕ → UInt64

namespace Handler

variable {C : Type}

/-- Follows a handler, every call of it succeeding: what it asked for, its result, and the
component it leaves behind. -/
def perform (env : Surroundings) : Handler C → List Call × Except SimError Unit × C
  | .done result c => ([], result, c)
  | .send port msg when_ at_ k =>
    let (calls, rest) := perform env (k (.ok ()))
    (.sent port msg when_ at_ :: calls, rest)
  | .wakeSelf when_ at_ token k =>
    let (calls, rest) := perform env (k (.ok ()))
    (.woke when_ at_ token :: calls, rest)
  | .rng draws k => perform env (k ((List.range (draws env.rng)).map env.rng))
  | .trace kind fields k =>
    let (calls, rest) := perform env k
    (.traced kind fields :: calls, rest)
  | .component k => perform env (k env.component)
  | .now k => perform env (k env.now)
  | .phase k => perform env (k env.phase)

lemma ends_of_perform (env : Surroundings) (h : Handler C) : h.Ends (h.perform env).2.2 := by
  induction h with
  | done result c => exact .done result c
  | send port msg when_ at_ k ih => exact .send (.ok ()) (ih _)
  | wakeSelf when_ at_ token k ih => exact .wakeSelf (.ok ()) (ih _)
  | rng draws k ih => exact .rng _ (ih _)
  | trace kind fields k ih => exact .trace ih
  | component k ih => exact .component _ (ih _)
  | now k ih => exact .now _ (ih _)
  | phase k ih => exact .phase _ (ih _)

/-- The handler makes these calls, all of them succeed, and so does it. -/
def Performs (h : Handler C) (env : Surroundings) (calls : List Call) (c : C) : Prop :=
  h.perform env = (calls, .ok (), c)

lemma performs_of_ok {env : Surroundings} {h : Handler C} (hok : (h.perform env).2.1 = .ok ()) :
    h.Performs env (h.perform env).1 (h.perform env).2.2 :=
  Prod.ext rfl (Prod.ext hok rfl)

lemma performs_error {env : Surroundings} {e : SimError} {c c' : C} {calls : List Call} :
    (Handler.done (.error e) c).Performs env calls c' ↔ False := by
  simp [Performs, perform]

lemma performs_ok {env : Surroundings} {c c' : C} {calls : List Call} :
    (Handler.done (.ok ()) c).Performs env calls c' ↔ calls = [] ∧ c' = c := by
  simp [Performs, perform, eq_comm]

lemma performs_send {env : Surroundings} {port : PortId} {msg : Message} {when_ : ScheduleWhen}
    {at_ : Phase} {k : Except SimError Unit → Handler C} {calls : List Call} {c : C} :
    (Handler.send port msg when_ at_ k).Performs env calls c ↔
      ∃ rest, calls = .sent port msg when_ at_ :: rest ∧ (k (.ok ())).Performs env rest c := by
  simp only [Performs, perform, Prod.mk.injEq]
  constructor
  · intro ⟨hcalls, hend⟩
    exact ⟨_, hcalls.symm, Prod.ext rfl hend⟩
  · rintro ⟨rest, rfl, hk⟩
    rw [hk]
    exact ⟨rfl, rfl⟩

lemma performs_wakeSelf {env : Surroundings} {when_ : ScheduleWhen} {at_ : Phase} {token : UInt64}
    {k : Except SimError Unit → Handler C} {calls : List Call} {c : C} :
    (Handler.wakeSelf when_ at_ token k).Performs env calls c ↔
      ∃ rest, calls = .woke when_ at_ token :: rest ∧ (k (.ok ())).Performs env rest c := by
  simp only [Performs, perform, Prod.mk.injEq]
  constructor
  · intro ⟨hcalls, hend⟩
    exact ⟨_, hcalls.symm, Prod.ext rfl hend⟩
  · rintro ⟨rest, rfl, hk⟩
    rw [hk]
    exact ⟨rfl, rfl⟩

lemma performs_trace {env : Surroundings} {kind : String} {fields : List (String × Value)}
    {k : Handler C} {calls : List Call} {c : C} :
    (Handler.trace kind fields k).Performs env calls c ↔
      ∃ rest, calls = .traced kind fields :: rest ∧ k.Performs env rest c := by
  simp only [Performs, perform, Prod.mk.injEq]
  constructor
  · intro ⟨hcalls, hend⟩
    exact ⟨_, hcalls.symm, Prod.ext rfl hend⟩
  · rintro ⟨rest, rfl, hk⟩
    rw [hk]
    exact ⟨rfl, rfl⟩

lemma performs_phase {env : Surroundings} {k : Phase → Handler C} {calls : List Call} {c : C} :
    (Handler.phase k).Performs env calls c ↔ (k env.phase).Performs env calls c := Iff.rfl

/-- Delivers one thing after the other, every call succeeding: what each was answered with, and the
component in the end.  A delivery that fails does not stop the ones after it. -/
def performAll [Component C] (env : Surroundings) :
    C → List Delivered → List (List Call × Except SimError Unit) × C
  | c, [] => ([], c)
  | c, delivery :: rest =>
    let (calls, result, c₁) := (Component.handleEvent c delivery).perform env
    let (outcomes, c₂) := performAll env c₁ rest
    ((calls, result) :: outcomes, c₂)

/-- The specification of a handler called on `c`. -/
structure Meets (h : Handler C) (c : C) (P : Phase → List Call → C → Prop) : Prop where
  performs : ∀ env calls c', h.perform env = (calls, .ok (), c') → P env.phase calls c'
  ends : ∀ c', h.Ends c' → c' = c ∨ ∃ phase calls, P phase calls c'

namespace Meets

variable {h : Handler C} {c c' : C} {P Q : Phase → List Call → C → Prop}

lemma mono (hm : h.Meets c P) (hPQ : ∀ phase calls c', P phase calls c' → Q phase calls c') :
    h.Meets c Q where
  performs env calls c' hperform := hPQ _ _ _ (hm.performs env calls c' hperform)
  ends c' hends := by
    rcases hm.ends c' hends with heq | ⟨phase, calls, hP⟩
    · exact .inl heq
    · exact .inr ⟨phase, calls, hPQ _ _ _ hP⟩

/-- A handler that only fails leaves the component alone. -/
lemma error (e : SimError) : (Handler.done (.error e) c).Meets c P where
  performs env calls c' hperform := by
    simp [perform] at hperform
  ends c' hends := by
    cases hends
    exact .inl rfl

lemma ok (hP : ∀ phase, P phase [] c') : (Handler.done (.ok ()) c').Meets c P where
  performs env calls d hperform := by
    simp only [perform, Prod.mk.injEq, true_and] at hperform
    obtain ⟨rfl, rfl⟩ := hperform
    exact hP _
  ends d hends := by
    cases hends
    exact .inr ⟨.observe, [], hP _⟩

/-- A last wake: the component is left behind as it is, whether or not the wake is accepted. -/
lemma wake {when_ : ScheduleWhen} {at_ : Phase} {token : UInt64}
    (hP : ∀ phase, P phase [.woke when_ at_ token] c') :
    (Handler.wakeSelf when_ at_ token fun result => .done result c').Meets c P where
  performs env calls d hperform := by
    simp only [perform, Prod.mk.injEq, true_and] at hperform
    obtain ⟨rfl, rfl⟩ := hperform
    exact hP _
  ends d hends := by
    cases hends with
    | wakeSelf r hends =>
      cases hends
      exact .inr ⟨.observe, _, hP _⟩

/-- A last request: without it the component is as it was. -/
lemma send {port : PortId} {msg : Message} {when_ : ScheduleWhen} {at_ : Phase}
    {k : Except SimError Unit → Handler C} (hok : k (.ok ()) = .done (.ok ()) c')
    (herror : ∀ e, k (.error e) = .done (.error e) c)
    (hP : ∀ phase, P phase [.sent port msg when_ at_] c') :
    (Handler.send port msg when_ at_ k).Meets c P where
  performs env calls d hperform := by
    simp only [perform, hok, Prod.mk.injEq, true_and] at hperform
    obtain ⟨rfl, rfl⟩ := hperform
    exact hP _
  ends d hends := by
    cases hends with
    | send r hends =>
      cases r with
      | error e =>
        rw [herror] at hends
        cases hends
        exact .inl rfl
      | ok =>
        rw [hok] at hends
        cases hends
        exact .inr ⟨.observe, _, hP _⟩

lemma trace {kind : String} {fields : List (String × Value)}
    (hm : h.Meets c fun phase calls c' => P phase (.traced kind fields :: calls) c') :
    (Handler.trace kind fields h).Meets c P where
  performs env calls c' hperform := by
    obtain ⟨rest, result, d, hrest⟩ : ∃ rest result d, h.perform env = (rest, result, d) :=
      ⟨_, _, _, rfl⟩
    simp only [perform, hrest, Prod.mk.injEq] at hperform
    obtain ⟨rfl, rfl, rfl⟩ := hperform
    exact hm.performs env rest d hrest
  ends c' hends := by
    cases hends with
    | trace hends =>
      rcases hm.ends c' hends with heq | ⟨phase, calls, hP⟩
      · exact .inl heq
      · exact .inr ⟨phase, _, hP⟩

lemma guardPhase {expected : Phase} {e : SimError}
    (hm : h.Meets c fun _ calls c' => P expected calls c') :
    (Handler.phase fun phase => if phase ≠ expected then .done (.error e) c else h).Meets c P where
  performs env calls c' hperform := by
    simp only [perform] at hperform
    split_ifs at hperform with hphase
    · simp [perform] at hperform
    · rw [not_not.mp hphase]
      exact hm.performs env calls c' hperform
  ends c' hends := by
    cases hends with
    | phase p hends =>
      beta_reduce at hends
      split_ifs at hends with hphase
      · cases hends
        exact .inl rfl
      · rcases hm.ends c' hends with heq | ⟨_, calls, hP⟩
        · exact .inl heq
        · exact .inr ⟨expected, calls, hP⟩

end Meets

end Handler

/-!
## Rules for handlers

`h.Always E A Q` is the specification of a handler over every run of it in a context whose errors
are among `E`: each call it makes is one that `A` allows, and wherever it ends, `Q` holds of its
result and of the component it leaves behind.  It is defined by recursion on the handler, so each
constructor has its rule by unfolding, and a handler that is put together from parts is checked part
by part.

With every error allowed it speaks of everything the component can come to (`Always.ends`,
`Always.of_asks`); with none, of what it does when its calls succeed (`Always.perform`).
-/

namespace Handler

variable {C : Type}

/-- The calls a handler may make, whatever it is answered. -/
inductive Asks : Handler C → Call → Prop
  | send {port msg when_ phase k} : Asks (.send port msg when_ phase k) (.sent port msg when_ phase)
  | sendNext {port msg when_ phase k call} (r : Except SimError Unit) (h : Asks (k r) call) :
      Asks (.send port msg when_ phase k) call
  | wakeSelf {when_ phase token k} : Asks (.wakeSelf when_ phase token k) (.woke when_ phase token)
  | wakeSelfNext {when_ phase token k call} (r : Except SimError Unit) (h : Asks (k r) call) :
      Asks (.wakeSelf when_ phase token k) call
  | rngNext {draws k call} (values : List UInt64) (h : Asks (k values) call) :
      Asks (.rng draws k) call
  | trace {kind fields k} : Asks (.trace kind fields k) (.traced kind fields)
  | traceNext {kind fields k call} (h : Asks k call) : Asks (.trace kind fields k) call
  | componentNext {k call} (id : ComponentId) (h : Asks (k id) call) : Asks (.component k) call
  | nowNext {k call} (tick : Tick) (h : Asks (k tick) call) : Asks (.now k) call
  | phaseNext {k call} (p : Phase) (h : Asks (k p) call) : Asks (.phase k) call

/-- Every run makes allowed calls only, and ends as it should. -/
def Always (E : SimError → Prop) (A : Call → Prop) (Q : Except SimError Unit → C → Prop) :
    Handler C → Prop
  | .done r c => Q r c
  | .send port msg when_ at_ k =>
    A (.sent port msg when_ at_) ∧ Always E A Q (k (.ok ())) ∧
      ∀ e, E e → Always E A Q (k (.error e))
  | .wakeSelf when_ at_ token k =>
    A (.woke when_ at_ token) ∧ Always E A Q (k (.ok ())) ∧
      ∀ e, E e → Always E A Q (k (.error e))
  | .rng _ k => ∀ values, Always E A Q (k values)
  | .trace kind fields k => A (.traced kind fields) ∧ Always E A Q k
  | .component k => ∀ id, Always E A Q (k id)
  | .now k => ∀ tick, Always E A Q (k tick)
  | .phase k => ∀ p, Always E A Q (k p)

variable {E : SimError → Prop} {A : Call → Prop} {Q : Except SimError Unit → C → Prop}
  {h : Handler C}

lemma Always.mono {Q' : Except SimError Unit → C → Prop} (ha : h.Always E A Q)
    (hQ : ∀ r c, Q r c → Q' r c) : h.Always E A Q' := by
  induction h with
  | done r c => exact hQ r c ha
  | send port msg when_ at_ k ih => exact ⟨ha.1, ih _ ha.2.1, fun e he => ih _ (ha.2.2 e he)⟩
  | wakeSelf when_ at_ token k ih => exact ⟨ha.1, ih _ ha.2.1, fun e he => ih _ (ha.2.2 e he)⟩
  | rng draws k ih => exact fun values => ih _ (ha values)
  | trace kind fields k ih => exact ⟨ha.1, ih ha.2⟩
  | component k ih => exact fun id => ih _ (ha id)
  | now k ih => exact fun tick => ih _ (ha tick)
  | phase k ih => exact fun p => ih _ (ha p)

/-- What a handler can end in, if its context may fail in any way. -/
lemma Always.ends (ha : h.Always (fun _ => True) A Q) {c : C} (hends : h.Ends c) :
    ∃ r, Q r c := by
  induction hends with
  | done r c => exact ⟨r, ha⟩
  | send r _ ih =>
    cases r with
    | ok => exact ih ha.2.1
    | error e => exact ih (ha.2.2 e trivial)
  | wakeSelf r _ ih =>
    cases r with
    | ok => exact ih ha.2.1
    | error e => exact ih (ha.2.2 e trivial)
  | rng values _ ih => exact ih (ha values)
  | trace _ ih => exact ih ha.2
  | component id _ ih => exact ih (ha id)
  | now tick _ ih => exact ih (ha tick)
  | phase p _ ih => exact ih (ha p)

/-- What a handler can ask for, if its context may fail in any way. -/
lemma Always.of_asks (ha : h.Always (fun _ => True) A Q) {call : Call} (hasks : h.Asks call) :
    A call := by
  induction hasks with
  | send => exact ha.1
  | wakeSelf => exact ha.1
  | trace => exact ha.1
  | sendNext r _ ih =>
    cases r with
    | ok => exact ih ha.2.1
    | error e => exact ih (ha.2.2 e trivial)
  | wakeSelfNext r _ ih =>
    cases r with
    | ok => exact ih ha.2.1
    | error e => exact ih (ha.2.2 e trivial)
  | rngNext values _ ih => exact ih (ha values)
  | traceNext _ ih => exact ih ha.2
  | componentNext id _ ih => exact ih (ha id)
  | nowNext tick _ ih => exact ih (ha tick)
  | phaseNext p _ ih => exact ih (ha p)

/-- What a handler does when its calls succeed. -/
lemma Always.perform (ha : h.Always E A Q) (env : Surroundings) :
    (∀ call ∈ (h.perform env).1, A call) ∧ Q (h.perform env).2.1 (h.perform env).2.2 := by
  induction h with
  | done r c => exact ⟨by simp [Handler.perform], ha⟩
  | send port msg when_ at_ k ih =>
    obtain ⟨hcalls, hend⟩ := ih _ ha.2.1
    exact ⟨List.forall_mem_cons.mpr ⟨ha.1, hcalls⟩, hend⟩
  | wakeSelf when_ at_ token k ih =>
    obtain ⟨hcalls, hend⟩ := ih _ ha.2.1
    exact ⟨List.forall_mem_cons.mpr ⟨ha.1, hcalls⟩, hend⟩
  | rng draws k ih => exact ih _ (ha _)
  | trace kind fields k ih =>
    obtain ⟨hcalls, hend⟩ := ih ha.2
    exact ⟨List.forall_mem_cons.mpr ⟨ha.1, hcalls⟩, hend⟩
  | component k ih => exact ih _ (ha _)
  | now k ih => exact ih _ (ha _)
  | phase k ih => exact ih _ (ha _)

end Handler

/-!
## Handlers that ask alike

Two handlers that make the same calls, up to what they trace, and leave related components behind.
Performed in the same surroundings they ask for the same things and end with the same result
(`Alike.perform`).
-/

variable {C D : Type}

/-- A call that asks for something: a trace does not. -/
def Call.asks : Call → Bool
  | .traced .. => false
  | _ => true

namespace Handler

/-- The same calls but for the fields of traces, the same result, and related components. -/
inductive Alike (R : C → D → Prop) : Handler C → Handler D → Prop
  | done {result : Except SimError Unit} {c : C} {d : D} (h : R c d) :
    Alike R (.done result c) (.done result d)
  | send {port : PortId} {msg : Message} {when_ : ScheduleWhen} {at_ : Phase}
      {k : Except SimError Unit → Handler C} {l : Except SimError Unit → Handler D}
      (h : ∀ r, Alike R (k r) (l r)) :
        Alike R (.send port msg when_ at_ k) (.send port msg when_ at_ l)
  | wakeSelf {when_ : ScheduleWhen} {at_ : Phase} {token : UInt64}
      {k : Except SimError Unit → Handler C} {l : Except SimError Unit → Handler D}
      (h : ∀ r, Alike R (k r) (l r)) :
        Alike R (.wakeSelf when_ at_ token k) (.wakeSelf when_ at_ token l)
  | rng {draws : (ℕ → UInt64) → ℕ} {k : List UInt64 → Handler C} {l : List UInt64 → Handler D}
      (h : ∀ values, Alike R (k values) (l values)) : Alike R (.rng draws k) (.rng draws l)
  | trace {kind : String} {fields fields' : List (String × Value)} {k : Handler C} {l : Handler D}
      (h : Alike R k l) : Alike R (.trace kind fields k) (.trace kind fields' l)
  | component {k : ComponentId → Handler C} {l : ComponentId → Handler D}
    (h : ∀ id, Alike R (k id) (l id)) :
      Alike R (.component k) (.component l)
  | now {k : Tick → Handler C} {l : Tick → Handler D} (h : ∀ tick, Alike R (k tick) (l tick)) :
      Alike R (.now k) (.now l)
  | phase {k : Phase → Handler C} {l : Phase → Handler D} (h : ∀ p, Alike R (k p) (l p)) :
      Alike R (.phase k) (.phase l)

/-- What is asked for is the same, and so is the result. -/
lemma Alike.perform {R : C → D → Prop} {h : Handler C} {h' : Handler D} (ha : Alike R h h')
    (env : Surroundings) :
      (h'.perform env).1.filter Call.asks = (h.perform env).1.filter Call.asks ∧
      (h'.perform env).2.1 = (h.perform env).2.1 ∧ R (h.perform env).2.2 (h'.perform env).2.2 := by
  induction ha with
  | done h => exact ⟨rfl, rfl, h⟩
  | send _ ih | wakeSelf _ ih =>
    obtain ⟨hcalls, hrest⟩ := ih (.ok ())
    exact ⟨congrArg (List.cons _) hcalls, hrest⟩
  | trace _ ih => exact ih
  | rng _ ih | component _ ih | now _ ih | phase _ ih => exact ih _

end Handler

end SystemScope
