import SystemScope.Platform.DmaEngine
import SystemScope.Platform.DmaPlan

/-!
# A DMA controller among its peers

A controller, the wakes it asked for, its requests and their answers on their way, and what its
peers hold.  The engine makes progress by steps of three kinds (`Engine`): a wake is delivered, a
request is served, an answer is delivered.  A peer may refuse a request instead (`Refuses`).
Between any two of them the window may be accessed, and others may write (`Meanwhile`).  Nothing
says when a step is taken, so any delay is covered.

In every state that is reached, what is on its way is what the engine waits for (`Matched`).
-/

namespace SystemScope.Platform

/-- What the engine and its peers say to each other. -/
inductive Traffic
  | asked (port : PortId) (msg : Message)
  | answered (port : PortId) (msg : Message)
  deriving DecidableEq

/-- A controller among its peers. -/
structure DmaSystem (config : DmaBlockControllerConfig) where
  dma : DmaBlockController config
  /-- The tokens of the wakes that are due. -/
  wakes : List UInt64
  /-- Requests that no peer has served. -/
  requests : List (PortId × Message)
  /-- Answers that have not been delivered. -/
  answers : List (PortId × Message)
  held : Contents
  log : List Traffic

namespace DmaSystem

open DmaBlockController Handler

variable {config : DmaBlockControllerConfig}

/-- A call that sends a request to a peer. -/
def request? : Call → Option (PortId × Message)
  | .sent port msg _ _ => if port = dmaPort ∨ port = blkPort then some (port, msg) else none
  | .woke .. | .traced .. => none

/-- A call that asks for a wake. -/
def wake? : Call → Option UInt64
  | .woke _ _ token => some token
  | .sent .. | .traced .. => none

/-- What a handler asked for is on its way. -/
def take (s : DmaSystem config) (calls : List Call) (dma : DmaBlockController config) :
    DmaSystem config :=
  { s with
    dma
    wakes := s.wakes ++ calls.filterMap wake?
    requests := s.requests ++ calls.filterMap request?
    log := s.log ++ (calls.filterMap request?).map fun request => .asked request.1 request.2 }

/-- Delivers to the controller; a fault stops the session. -/
def handle (s : DmaSystem config) (env : Surroundings) (delivery : Delivered) :
    Option (DmaSystem config) :=
  match (s.dma.handleEvent delivery).perform env with
  | (calls, .ok (), dma) => some (s.take calls dma)
  | (_, .error _, _) => none

/-- The engine and its peers make progress. -/
inductive Engine : DmaSystem config → DmaSystem config → Prop
  | wake {s s' : DmaSystem config} {env : Surroundings} {token : UInt64} {pre post : List UInt64}
      (hwakes : s.wakes = pre ++ token :: post)
      (h : ({ s with wakes := pre ++ post } : DmaSystem config).handle env (.wake token) =
        some s') : Engine s s'
  | serve {s : DmaSystem config} {port : PortId} {msg answer : Message} {held : Contents}
      {pre post : List (PortId × Message)} (hrequests : s.requests = pre ++ (port, msg) :: post)
      (h : s.held.serve msg = some (answer, held)) :
      Engine s { s with requests := pre ++ post, answers := s.answers ++ [(port, answer)], held }
  | answer {s s' : DmaSystem config} {env : Surroundings} {port : PortId} {msg : Message}
      {pre post : List (PortId × Message)} (hanswers : s.answers = pre ++ (port, msg) :: post)
      (h : ({ s with answers := pre ++ post, log := s.log ++ [.answered port msg] } :
        DmaSystem config).handle env (.message port msg) = some s') : Engine s s'

/-- A peer refuses a request, and changes nothing. -/
inductive Refuses : DmaSystem config → DmaSystem config → Prop
  | refuse {s : DmaSystem config} {port : PortId} {msg answer : Message} {fault : MemV1.MemFault}
      {error : MediaError} {pre post : List (PortId × Message)}
      (hrequests : s.requests = pre ++ (port, msg) :: post)
      (h : refusal fault error msg = some answer) :
      Refuses s { s with requests := pre ++ post, answers := s.answers ++ [(port, answer)] }

/-- The window is accessed, or someone else writes. -/
inductive Meanwhile (others : Others) : DmaSystem config → DmaSystem config → Prop
  | access {s s' : DmaSystem config} {env : Surroundings} {msg : MemV1.MemMsg}
      (h : s.handle env (.message memPort (.memV1 msg)) = some s') : Meanwhile others s s'
  | write {s : DmaSystem config} {held : Contents} (h : held.Agrees others s.held) :
      Meanwhile others s { s with held }

/-- A controller to which nothing is on its way. -/
def quiet (c : DmaBlockController config) (held : Contents) : DmaSystem config where
  dma := c
  wakes := []
  requests := []
  answers := []
  held
  log := []

/-- Nothing is on its way. -/
structure Quiet (s : DmaSystem config) : Prop where
  wakes : s.wakes = []
  requests : s.requests = []
  answers : s.answers = []

/-- The states of a system that starts around a controller which has no command: a new one, or one
with any history. -/
inductive Reached [SnapshotData] (c₀ : DmaBlockController config) : DmaSystem config → Prop
  | start {c : DmaBlockController config} (h : Component.Reaches c₀ c) (hbusy : c.busy = false)
      (held : Contents) : Reached c₀ (quiet c held)
  | engine {s s' : DmaSystem config} (h : Reached c₀ s) (hstep : s.Engine s') : Reached c₀ s'
  | refuses {s s' : DmaSystem config} (h : Reached c₀ s) (hstep : s.Refuses s') : Reached c₀ s'
  | meanwhile {s s' : DmaSystem config} {others : Others} (h : Reached c₀ s)
      (hstep : s.Meanwhile others s') : Reached c₀ s'

variable {s s' : DmaSystem config} {env : Surroundings} {delivery : Delivered}
  {calls : List Call} {c : DmaBlockController config}

/-! ## Deliveries -/

lemma handle_eq_some : s.handle env delivery = some s' ↔
    ∃ calls c, (s.dma.handleEvent delivery).Performs env calls c ∧ s' = s.take calls c := by
  unfold handle Performs
  split
  next calls dma hperform =>
    rw [hperform]
    constructor
    · intro h
      exact ⟨calls, dma, rfl, (Option.some.inj h).symm⟩
    · intro ⟨calls', c, heq, h⟩
      cases heq
      rw [h]
  next calls e dma hperform =>
    rw [hperform]
    simp

lemma take_quiet (h : ∀ call ∈ calls, DmaBlockController.Quiet call) :
    s.take calls c = { s with dma := c } := by
  have hwakes : calls.filterMap wake? = [] := by
    rw [List.filterMap_eq_nil_iff]
    intro call hcall
    have hquiet := h call hcall
    cases call with
    | sent => rfl
    | woke => exact hquiet.elim
    | traced => rfl
  have hrequests : calls.filterMap request? = [] := by
    rw [List.filterMap_eq_nil_iff]
    intro call hcall
    have hquiet := h call hcall
    cases call with
    | sent port msg when_ at_ =>
      simp only [request?, ite_eq_right_iff, reduceCtorEq, imp_false, not_or]
      exact hquiet
    | woke => rfl
    | traced => rfl
  simp [take, hwakes, hrequests]

lemma take_wakeCall : s.take [wakeCall config] c =
    { s with dma := c, wakes := s.wakes ++ [issueToken] } := by
  simp [take, wakeCall, wake?, request?]

lemma take_sent {port : PortId} {msg : Message} (hport : port = dmaPort ∨ port = blkPort) :
    s.take [.sent port msg .now .request] c =
      { s with dma := c, requests := s.requests ++ [(port, msg)],
               log := s.log ++ [.asked port msg] } := by
  simp [take, wake?, request?, hport]

lemma take_started {kind : String} {fields : List (String × Value)} {msg : Message}
    {when_ : ScheduleWhen} {at_ : Phase} :
    s.take [.traced kind fields, wakeCall config, .sent memPort msg when_ at_] c =
      { s with dma := c, wakes := s.wakes ++ [issueToken] } := by
  have hwakes : [Call.traced kind fields, wakeCall config, .sent memPort msg when_ at_].filterMap
    wake? = [issueToken] := rfl
  have hrequests : [Call.traced kind fields, wakeCall config,
    .sent memPort msg when_ at_].filterMap request? = [] := rfl
  simp [take, hwakes, hrequests]

lemma handle_sound (haccepted : config.Accepted) (hsound : s.dma.Sound)
    (h : s.handle env delivery = some s') : s'.dma.Sound := by
  obtain ⟨calls, c, hperforms, rfl⟩ := handle_eq_some.mp h
  have halways : (s.dma.handleEvent delivery).Always (fun _ => True) (SafeCall config)
      (Keeps fun _ => True) := handleEvent_always haccepted hsound fun _ => .inr trivial
  have hend := (halways.perform env).2
  rw [hperforms] at hend
  exact hend.1

lemma wake_performs {token : UInt64}
    (h : (s.dma.handleEvent (.wake token)).Performs env calls c) :
    ∃ port msg, (port = dmaPort ∨ port = blkPort) ∧ calls = [.sent port msg .now .request] ∧
      c.engine ≠ .idle ∧ c.engine ≠ .issue := by
  rw [handleEvent] at h
  split at h
  · obtain ⟨l, -, -, h⟩ := issue_performs.mp h
    unfold Issues at h
    split at h
    · split at h
      · obtain ⟨lba, next, -, -, hcalls, rfl⟩ := issueReadBlock_performs.mp h
        exact ⟨_, _, .inr rfl, hcalls, by simp, by simp⟩
      · obtain ⟨addr, next, -, -, -, hcalls, rfl⟩ := issueWriteBeat_performs.mp h
        exact ⟨_, _, .inl rfl, hcalls, by simp, by simp⟩
    · split at h
      · obtain ⟨lba, next, -, -, hcalls, rfl⟩ := issueWriteBlock_performs.mp h
        exact ⟨_, _, .inr rfl, hcalls, by simp, by simp⟩
      · obtain ⟨addr, next, -, -, hcalls, rfl⟩ := issueReadBeat_performs.mp h
        exact ⟨_, _, .inl rfl, hcalls, by simp, by simp⟩
  · exact (reject_performs.mp h).elim

/-- After an answer the engine is woken again, or done. -/
def Answered (calls : List Call) (c : DmaBlockController config) : Prop :=
  calls = [wakeCall config] ∧ c.engine = .issue ∨
    (∀ call ∈ calls, DmaBlockController.Quiet call) ∧ c.engine = .idle

lemma answered_completed {c : DmaBlockController config} {code : UInt8} :
    Answered (c.endCalls code) (c.completed code) := .inr ⟨quiet_endCalls, rfl⟩

lemma answered_nextBlock {l : Latched} {c' : DmaBlockController config}
    (h : (c.nextBlock l).Performs env calls c') : Answered calls c' := by
  obtain ⟨-, h⟩ := nextBlock_performs.mp h
  split at h
  · obtain ⟨rfl, rfl⟩ := h
    exact answered_completed
  · exact .inl ⟨h.1, h.2 ▸ rfl⟩

lemma answer_performs {port : PortId} {msg : Message} (hport : port = dmaPort ∨ port = blkPort)
    (h : (s.dma.handleEvent (.message port msg)).Performs env calls c) : Answered calls c := by
  have hmem : port ≠ memPort := by
    rcases hport with rfl | rfl <;> decide
  cases msg with
  | memV1 msg =>
    rw [handleEvent, if_neg hmem] at h
    split at h
    · obtain ⟨txn, l, -, -, -, h⟩ := beatResult_performs.mp h
      unfold BeatAnswers at h
      split at h
      · rcases h with ⟨-, h⟩ | ⟨f, -, rfl, rfl⟩
        · split at h
          · exact answered_nextBlock h
          · exact .inl ⟨h.1, h.2 ▸ rfl⟩
        · exact answered_completed
      · rcases h with ⟨data, -, -, rfl, rfl⟩ | ⟨f, -, rfl, rfl⟩
        · exact .inl ⟨rfl, rfl⟩
        · exact answered_completed
    · exact (reject_performs.mp h).elim
  | block msg =>
    rw [handleEvent] at h
    split at h
    · obtain ⟨txn, l, -, -, -, h⟩ := mediaResult_performs.mp h
      unfold MediaAnswers at h
      split at h
      · rcases h with ⟨data, -, -, rfl, rfl⟩ | ⟨e, -, rfl, rfl⟩
        · exact .inl ⟨rfl, rfl⟩
        · exact answered_completed
      · rcases h with ⟨-, h⟩ | ⟨e, -, rfl, rfl⟩
        · exact answered_nextBlock h
        · exact answered_completed
    · exact (reject_performs.mp h).elim
  | mem msg => exact (reject_performs.mp h).elim
  | irq msg => exact (reject_performs.mp h).elim

/-- An access keeps the engine and asks nothing of its peers, unless it starts a command. -/
lemma access_cases (hsound : s.dma.Sound) {msg : MemV1.MemMsg}
    (h : s.handle env (.message memPort (.memV1 msg)) = some s') :
    (∃ c, s.dma.SameEngine c ∧ s' = { s with dma := c }) ∨
      s.dma.busy = false ∧ ∃ op, s' = { s with dma := s.dma.started op,
                                               wakes := s.wakes ++ [issueToken] } := by
  obtain ⟨calls, c, hperforms, rfl⟩ := handle_eq_some.mp h
  have hrequest : (s.dma.request msg).Performs env calls c := hperforms
  by_cases hstarts : s.dma.Starts msg
  · obtain ⟨hbusy, hdone, txn, data, value, op, rfl, hvalue, hvalid⟩ := hstarts
    obtain ⟨rfl, rfl⟩ := (request_starts hbusy hdone hvalue hvalid).mp hrequest
    exact .inr ⟨hbusy, op, take_started⟩
  · have halways : (s.dma.request msg).Always (fun _ => True) DmaBlockController.Quiet
        fun _ c' => s.dma.SameEngine c' := request_quiet hsound hstarts
    obtain ⟨hquiet, hsame⟩ := halways.perform env
    rw [hrequest] at hquiet hsame
    exact .inl ⟨c, hsame, take_quiet hquiet⟩

/-! ## What is on its way -/

/-- What is on its way is what the engine waits for. -/
structure Matched (s : DmaSystem config) : Prop where
  sound : s.dma.Sound
  ports : ∀ message ∈ s.requests ++ s.answers, message.1 = dmaPort ∨ message.1 = blkPort
  wakes : s.wakes = if s.dma.engine = .issue then [issueToken] else []
  messages : s.requests.length + s.answers.length =
    if s.dma.engine = .idle ∨ s.dma.engine = .issue then 0 else 1

namespace Matched

/-- Nothing is on its way to a controller without a command. -/
lemma quiet (h : s.Matched) (hbusy : s.dma.busy = false) : s.Quiet := by
  have hengine := (h.sound.idle hbusy).2.1
  have hwakes := h.wakes
  have hmessages := h.messages
  simp only [hengine, reduceCtorEq, if_false, true_or, if_true, Nat.add_eq_zero_iff,
    List.length_eq_zero_iff] at hwakes hmessages
  exact ⟨hwakes, hmessages.1, hmessages.2⟩

/-- A message between two lists. -/
lemma serve (h : s.Matched) {port : PortId} {msg answer : Message}
    {pre post : List (PortId × Message)} (hrequests : s.requests = pre ++ (port, msg) :: post)
    (held : Contents) :
    ({ s with requests := pre ++ post, answers := s.answers ++ [(port, answer)], held } :
      DmaSystem config).Matched where
  sound := h.sound
  ports := by
    intro message hmessage
    have hport := h.ports
    rw [hrequests] at hport
    simp only [List.mem_append, List.mem_cons, List.not_mem_nil, or_false] at hmessage hport
    rcases hmessage with (hpre | hpost) | hanswers | rfl
    · exact hport _ (.inl (.inl hpre))
    · exact hport _ (.inl (.inr (.inr hpost)))
    · exact hport _ (.inr hanswers)
    · exact hport (port, msg) (.inl (.inr (.inl rfl)))
  wakes := h.wakes
  messages := by
    rw [← h.messages, hrequests]
    simp only [List.length_append, List.length_cons, List.length_nil]
    omega

/-- A message on its way belongs to an engine that waits. -/
lemma waits (h : s.Matched) (hmessages : s.requests ++ s.answers ≠ []) :
    s.dma.engine ≠ .idle ∧ s.dma.engine ≠ .issue ∧ s.wakes = [] ∧
      s.requests.length + s.answers.length = 1 := by
  have hlength := h.messages
  have hwakes := h.wakes
  by_cases hengine : s.dma.engine = .idle ∨ s.dma.engine = .issue
  · rw [if_pos hengine, ← List.length_append, List.length_eq_zero_iff] at hlength
    exact absurd hlength hmessages
  · rw [if_neg hengine] at hlength
    rw [not_or] at hengine
    rw [if_neg hengine.2] at hwakes
    exact ⟨hengine.1, hengine.2, hwakes, hlength⟩

lemma wake (haccepted : config.Accepted) (h : s.Matched) {token : UInt64} {pre post : List UInt64}
    (hwakes : s.wakes = pre ++ token :: post)
    (hstep : ({ s with wakes := pre ++ post } : DmaSystem config).handle env (.wake token) =
      some s') : s'.Matched := by
  have hsound : s'.dma.Sound := by
    refine handle_sound haccepted ?_ hstep
    exact h.sound
  obtain ⟨calls, c, hperforms, rfl⟩ := handle_eq_some.mp hstep
  obtain ⟨port, msg, hport, rfl, hidle, hissue⟩ := wake_performs hperforms
  have hdue := h.wakes
  have hmessages := h.messages
  by_cases hengine : s.dma.engine = .issue
  · rw [if_pos hengine, hwakes, List.append_eq_singleton_iff] at hdue
    rw [if_pos (.inr hengine), ← List.length_append, List.length_eq_zero_iff,
      List.append_eq_nil_iff] at hmessages
    have hempty : pre = [] ∧ post = [] := by
      rcases hdue with ⟨rfl, hpost⟩ | ⟨-, hnil⟩
      · exact ⟨rfl, (List.cons.inj hpost).2⟩
      · cases hnil
    rw [take_sent hport]
    exact
      { sound := hsound
        ports := by simp [hmessages.1, hmessages.2, hport]
        wakes := by simp [hempty.1, hempty.2, hissue]
        messages := by simp [hmessages.1, hmessages.2, hidle, hissue] }
  · rw [if_neg hengine, hwakes] at hdue
    simp at hdue

lemma answer (haccepted : config.Accepted) (h : s.Matched) {port : PortId} {msg : Message}
    {pre post : List (PortId × Message)} (hanswers : s.answers = pre ++ (port, msg) :: post)
    (hstep : ({ s with answers := pre ++ post, log := s.log ++ [.answered port msg] } :
      DmaSystem config).handle env (.message port msg) = some s') : s'.Matched := by
  have hsound : s'.dma.Sound := by
    refine handle_sound haccepted ?_ hstep
    exact h.sound
  obtain ⟨calls, c, hperforms, rfl⟩ := handle_eq_some.mp hstep
  have hport : port = dmaPort ∨ port = blkPort :=
    h.ports (port, msg) (by rw [hanswers]; simp)
  obtain ⟨-, -, hwakes, hlength⟩ := h.waits (by rw [hanswers]; simp)
  rw [hanswers] at hlength
  simp only [List.length_append, List.length_cons] at hlength
  have hrequests : s.requests = [] := List.length_eq_zero_iff.mp (by omega)
  have hrest : pre ++ post = [] := List.length_eq_zero_iff.mp (by
    rw [List.length_append]
    omega)
  rcases answer_performs hport hperforms with ⟨rfl, hissue⟩ | ⟨hquiet, hidle⟩
  · rw [take_wakeCall] at hsound ⊢
    exact
      { sound := hsound
        ports := by simp [hrequests, hrest]
        wakes := by simp [hwakes, hissue]
        messages := by simp [hrequests, hrest, hissue] }
  · rw [take_quiet hquiet] at hsound ⊢
    exact
      { sound := hsound
        ports := by simp [hrequests, hrest]
        wakes := by simp [hwakes, hidle]
        messages := by simp [hrequests, hrest, hidle] }

lemma engine (haccepted : config.Accepted) (h : s.Matched) (hstep : s.Engine s') : s'.Matched := by
  cases hstep with
  | wake hwakes hstep => exact h.wake haccepted hwakes hstep
  | serve hrequests _ => exact h.serve hrequests _
  | answer hanswers hstep => exact h.answer haccepted hanswers hstep

lemma refuses (h : s.Matched) (hstep : s.Refuses s') : s'.Matched := by
  cases hstep with
  | refuse hrequests _ => exact h.serve hrequests s.held

lemma meanwhile (haccepted : config.Accepted) (h : s.Matched) {others : Others}
    (hstep : s.Meanwhile others s') : s'.Matched := by
  cases hstep with
  | access hstep =>
    have hsound := handle_sound haccepted h.sound hstep
    rcases access_cases h.sound hstep with ⟨c, hsame, rfl⟩ | ⟨hbusy, op, rfl⟩
    · exact
        { sound := hsound
          ports := h.ports
          wakes := by
            rw [hsame.engine]
            exact h.wakes
          messages := by
            rw [hsame.engine]
            exact h.messages }
    · obtain ⟨hwakes, hrequests, hanswers⟩ := h.quiet hbusy
      exact
        { sound := hsound
          ports := by simp [hrequests, hanswers]
          wakes := by simp [hwakes, started]
          messages := by simp [hrequests, hanswers, started] }
  | write _ => exact { h with }

end Matched

/-- What is on its way is always what the engine waits for. -/
lemma Reached.matched [SnapshotData] {c₀ : DmaBlockController config} (hnew : new config = .ok c₀)
    (h : Reached c₀ s) : s.Matched := by
  have haccepted := (new_eq_ok hnew).1
  induction h with
  | start hreaches hbusy held =>
    have hsound := Sound.of_reaches hnew hreaches
    have hengine := (hsound.idle hbusy).2.1
    exact
      { sound := hsound
        ports := by simp [DmaSystem.quiet]
        wakes := by simp [DmaSystem.quiet, hengine]
        messages := by simp [DmaSystem.quiet, hengine] }
  | engine _ hstep ih => exact ih.engine haccepted hstep
  | refuses _ hstep ih => exact ih.refuses hstep
  | meanwhile _ hstep ih => exact ih.meanwhile haccepted hstep

end DmaSystem

end SystemScope.Platform
