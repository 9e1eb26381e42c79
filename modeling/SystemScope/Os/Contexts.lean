import SystemScope.Os.Scheduling

/-!
# Contexts

The context of a process that is not running stays in its PCB until the process is dispatched with
it (`Processes.Undergoes.kept`), and contexts get into the table and into dispatches from nowhere
else (`Processes.Undergoes.origin`).
-/

namespace SystemScope.Os

open Checks

namespace Processes

/-! ## What one change does to the table -/

/-- PIDs are ascending, and the running process is in the table. -/
structure Tidy (ps : Processes) : Prop where
  ascending : ps.pcbs.Pairwise fun p q => p.pid < q.pid
  running : ∀ pid, ps.current = some pid → ∃ p ∈ ps.pcbs, p.pid = pid ∧ p.state = .running

lemma Ok.tidy {ps : Processes} {images : ℕ} {creating : Option (ℕ × List UInt32)}
    (h : ps.Ok images creating) : ps.Tidy :=
  ⟨h.ascending, fun pid hcurrent => (h.running pid).mp hcurrent⟩

/-- The table after one process of it has changed. -/
def Changed (ps ps' : Processes) (p p' : Pcb) : Prop :=
  ∀ q, q ∈ ps'.pcbs ↔ (q ∈ ps.pcbs ∧ q.pid ≠ p.pid) ∨ q = p'

/-- What one change does to the table. -/
inductive Touches (ps ps' : Processes) : ProcessEvent → Prop
  | reserved {pid n : ℕ} (hpcbs : ps'.pcbs = ps.pcbs) : Touches ps ps' (.reserved pid n)
  | admitted {pcb : Pcb} (hfresh : ∀ q ∈ ps.pcbs, q.pid < pcb.pid)
      (hpcbs : ps'.pcbs = ps.pcbs ++ [pcb]) : Touches ps ps' (.admitted pcb)
  | yielded {p : Pcb} {context : Context} (hp : p ∈ ps.pcbs) (hrunning : p.state = .running)
      (hpcbs : Changed ps ps' p { p with state := .ready, context := some context }) :
      Touches ps ps' (.yielded p.pid context)
  | ended {p : Pcb} {state : ProcState} (hp : p ∈ ps.pcbs) (hrunning : p.state = .running)
      (hpcbs : Changed ps ps' p (ended state p)) (hterminal : state.IsTerminal) :
      Touches ps ps' (.ended p.pid state)
  | dispatched {p : Pcb} {context : Context} (hp : p ∈ ps.pcbs)
    (hcontext : p.context = some context)
      (hpcbs : Changed ps ps' p (dispatched p)) (hready : p.state = .ready) :
      Touches ps ps' (.dispatched p.pid context)

variable {ps ps' ps'' : Processes} {events : List ProcessEvent} {pid : ℕ} {context : Context}

lemma exists_last {pcbs : List Pcb} (hpcbs : pcbs.Pairwise fun p q => p.pid < q.pid) {q : Pcb}
    (hq : q ∈ pcbs) : ∃ r ∈ pcbs.getLast?, q.pid ≤ r.pid := by
  rcases List.eq_nil_or_concat pcbs with rfl | ⟨l, r, rfl⟩
  · cases hq
  · rw [List.concat_eq_append] at *
    refine ⟨r, List.getLast?_concat, ?_⟩
    rcases List.mem_append.mp hq with hq | hq
    · exact Nat.le_of_lt ((List.pairwise_append.mp hpcbs).2.2 q hq r (List.mem_singleton_self r))
    · rw [List.mem_singleton.mp hq]

section Tidy

variable (h : ps.Tidy)

include h

lemma Tidy.admit_ {pcb : Pcb} (hevent : ps.admit_ pcb = .ok ps') :
    ps'.Tidy ∧ Touches ps ps' (.admitted pcb) := by
  obtain rfl := admit_eq_ok hevent
  unfold Processes.admit_ at hevent
  obtain ⟨hlast, -⟩ := guard_eq_ok.mp hevent
  have hfresh : ∀ q ∈ ps.pcbs, q.pid < pcb.pid := by
    intro q hq
    obtain ⟨r, hr, hle⟩ := exists_last h.ascending hq
    have hlt : ¬pcb.pid ≤ r.pid := fun hle => hlast ⟨r, hr, hle⟩
    omega
  refine ⟨⟨?_, ?_⟩, .admitted hfresh rfl⟩
  · refine List.pairwise_append.mpr ⟨h.ascending, List.pairwise_singleton _ _, ?_⟩
    intro q hq r hr
    rw [List.mem_singleton.mp hr]
    exact hfresh q hq
  · intro pid hcurrent
    obtain ⟨p, hp, hrunning⟩ := h.running pid hcurrent
    exact ⟨p, List.mem_append_left _ hp, hrunning⟩

/-- The running process is the one that is looked up. -/
lemma Tidy.current (hcurrent : ps.current = some pid) :
    ∃ p ∈ ps.pcbs, p.pid = pid ∧ p.state = .running ∧ ps.pcb pid = some p := by
  obtain ⟨p, hp, hpid, hstate⟩ := h.running pid hcurrent
  exact ⟨p, hp, hpid, hstate, (find_pid h.ascending).mpr ⟨hp, hpid⟩⟩

lemma Tidy.yieldCurrent (hevent : ps.yieldCurrent context = .ok (ps', pid)) :
    ps'.Tidy ∧ Touches ps ps' (.yielded pid context) := by
  obtain ⟨hcurrent, p', hpcb', rfl⟩ := yieldCurrent_eq_ok hevent
  obtain ⟨p, hp, rfl, hrunning, -⟩ := h.current hcurrent
  refine ⟨⟨pairwise_update h.ascending (by exact fun _ => rfl) _, nofun⟩, .yielded hp hrunning ?_⟩
  exact fun q => mem_update h.ascending hp

lemma Tidy.endCurrent {state : ProcState} (hevent : ps.endCurrent state = .ok (ps', pid)) :
    ps'.Tidy ∧ Touches ps ps' (.ended pid state) := by
  obtain ⟨hterminal, hcurrent, p', frames, -, -, rfl⟩ := endCurrent_eq_ok hevent
  obtain ⟨p, hp, rfl, hrunning, -⟩ := h.current hcurrent
  refine ⟨⟨pairwise_update h.ascending (by exact fun _ => rfl) _, nofun⟩,
    .ended hp hrunning ?_ hterminal⟩
  exact fun q => mem_update h.ascending hp

lemma Tidy.scheduleNext (hevent : ps.scheduleNext = .ok (ps', some (pid, context))) :
    ps'.Tidy ∧ Touches ps ps' (.dispatched pid context) := by
  obtain ⟨-, rest, p, -, hpcb, hcontext, hready, rfl⟩ := scheduleNext_eq_ok hevent
  obtain ⟨hp, rfl⟩ := (find_pid h.ascending).mp hpcb
  have hmem (q : Pcb) := mem_update (f := Processes.dispatched) (q := q) h.ascending hp
  refine ⟨⟨pairwise_update h.ascending (by exact fun _ => rfl) _, ?_⟩,
    .dispatched hp hcontext hmem hready⟩
  rintro _ ⟨⟩
  exact ⟨dispatched p, (hmem _).mpr (.inr rfl), rfl, rfl⟩

end Tidy

/-- What the first change of a table establishes and every other one keeps. -/
lemma Undergoes.invariant {P : List ProcessEvent → Processes → Prop} (h : ps.Undergoes events ps')
    (htidy : ps.Tidy) (h₀ : P [] ps)
    (hstep : ∀ events e ps' ps'', ps'.Tidy → P events ps' → Touches ps' ps'' e →
      P (events ++ [e]) ps'') : ps'.Tidy ∧ P events ps' := by
  induction h with
  | refl => exact ⟨htidy, h₀⟩
  | reserved _ hevent ih =>
    obtain ⟨htidy', hP⟩ := ih
    exact ⟨⟨htidy'.ascending, htidy'.running⟩, hstep _ _ _ _ htidy' hP (.reserved rfl)⟩
  | admitted _ hevent ih =>
    obtain ⟨htidy', hP⟩ := ih
    obtain ⟨htidy'', htouches⟩ := htidy'.admit_ hevent
    exact ⟨htidy'', hstep _ _ _ _ htidy' hP htouches⟩
  | yielded _ hevent ih =>
    obtain ⟨htidy', hP⟩ := ih
    obtain ⟨htidy'', htouches⟩ := htidy'.yieldCurrent hevent
    exact ⟨htidy'', hstep _ _ _ _ htidy' hP htouches⟩
  | ended _ hevent ih =>
    obtain ⟨htidy', hP⟩ := ih
    obtain ⟨htidy'', htouches⟩ := htidy'.endCurrent hevent
    exact ⟨htidy'', hstep _ _ _ _ htidy' hP htouches⟩
  | dispatched _ hevent ih =>
    obtain ⟨htidy', hP⟩ := ih
    obtain ⟨htidy'', htouches⟩ := htidy'.scheduleNext hevent
    exact ⟨htidy'', hstep _ _ _ _ htidy' hP htouches⟩

/-- The changes of a table happen one after the other. -/
lemma Undergoes.split {before after : List ProcessEvent} (h : ps.Undergoes (before ++ after) ps') :
    ∃ ps₁, ps.Undergoes before ps₁ ∧ ps₁.Undergoes after ps' := by
  induction after using List.reverseRecOn generalizing ps' with
  | nil => exact ⟨ps', by rwa [List.append_nil] at h, .refl⟩
  | append_singleton after e ih =>
    rw [← List.append_assoc] at h
    generalize hevents : before ++ after ++ [e] = events at h
    cases h with
    | refl => exact absurd hevents (by simp)
    | reserved h hevent =>
      obtain ⟨rfl, ⟨⟩⟩ := List.append_inj' hevents rfl
      obtain ⟨ps₁, hbefore, hafter⟩ := ih h
      exact ⟨ps₁, hbefore, .reserved hafter hevent⟩
    | admitted h hevent =>
      obtain ⟨rfl, ⟨⟩⟩ := List.append_inj' hevents rfl
      obtain ⟨ps₁, hbefore, hafter⟩ := ih h
      exact ⟨ps₁, hbefore, .admitted hafter hevent⟩
    | yielded h hevent =>
      obtain ⟨rfl, ⟨⟩⟩ := List.append_inj' hevents rfl
      obtain ⟨ps₁, hbefore, hafter⟩ := ih h
      exact ⟨ps₁, hbefore, .yielded hafter hevent⟩
    | ended h hevent =>
      obtain ⟨rfl, ⟨⟩⟩ := List.append_inj' hevents rfl
      obtain ⟨ps₁, hbefore, hafter⟩ := ih h
      exact ⟨ps₁, hbefore, .ended hafter hevent⟩
    | dispatched h hevent =>
      obtain ⟨rfl, ⟨⟩⟩ := List.append_inj' hevents rfl
      obtain ⟨ps₁, hbefore, hafter⟩ := ih h
      exact ⟨ps₁, hbefore, .dispatched hafter hevent⟩

/-- A single change. -/
lemma Undergoes.touches {e : ProcessEvent} (h : ps.Undergoes [e] ps') (htidy : ps.Tidy) :
    ps'.Tidy ∧ Touches ps ps' e := by
  have hlast := (h.invariant (P := fun events ps' =>
    (events = [] → ps' = ps) ∧ ∀ e, events = [e] → Touches ps ps' e) htidy ⟨fun _ => rfl, nofun⟩ ?_)
  · exact ⟨hlast.1, hlast.2.2 e rfl⟩
  · rintro events e ps' ps'' - ⟨hnil, -⟩ htouches
    refine ⟨fun h => absurd h (by simp), ?_⟩
    intro e' heq
    obtain ⟨hevents, ⟨⟩⟩ := List.append_inj' (heq.trans (List.nil_append [e']).symm) rfl
    rwa [hnil hevents] at htouches

/-! ## A process that does not run -/

/-- The process keeps what was saved of it until it is dispatched with that. -/
def Keeps (p : Pcb) (dispatches : List (ℕ × Context)) (ps : Processes) : Prop :=
  match dispatches.find? fun d => d.1 = p.pid with
  | none => p ∈ ps.pcbs
  | some d => p.context = some d.2

lemma Keeps.append {p : Pcb} {ds ds' : List (ℕ × Context)} (h : Keeps p ds ps)
    (h' : p ∈ ps.pcbs → Keeps p ds' ps') : Keeps p (ds ++ ds') ps' := by
  unfold Keeps at h ⊢
  rw [List.find?_append]
  cases hfind : ds.find? fun d => d.1 = p.pid with
  | none =>
    rw [hfind] at h
    exact h' h
  | some d =>
    rw [hfind] at h
    exact h

lemma Keeps.cases {p : Pcb} {ds : List (ℕ × Context)} (h : Keeps p ds ps) :
    p ∈ ps.pcbs ∨ ∃ context, (p.pid, context) ∈ ds ∧ p.context = some context := by
  unfold Keeps at h
  split at h
  · exact .inl h
  · next d hfind =>
    have hpid : d.1 = p.pid := by simpa using List.find?_some hfind
    exact .inr ⟨d.2, hpid ▸ List.mem_of_find?_eq_some hfind, h⟩

lemma Touches.keeps {e : ProcessEvent} (h : Touches ps ps' e) (htidy : ps.Tidy) {p : Pcb}
    (hready : p.state = .ready) (hp : p ∈ ps.pcbs) : Keeps p e.dispatch.toList ps' := by
  have hother {q q' : Pcb} (hpcbs : Changed ps ps' q q') (hne : p.pid ≠ q.pid) : p ∈ ps'.pcbs :=
    (hpcbs p).mpr (.inl ⟨hp, hne⟩)
  have hne {q : Pcb} (hq : q ∈ ps.pcbs) (hrunning : q.state = .running) : p.pid ≠ q.pid := by
    intro hpid
    rw [pid_inj htidy.ascending hp hq hpid, hrunning] at hready
    cases hready
  cases h with
  | reserved hpcbs =>
    show p ∈ ps'.pcbs
    rwa [hpcbs]
  | admitted hfresh hpcbs =>
    show p ∈ ps'.pcbs
    rw [hpcbs]
    exact List.mem_append_left _ hp
  | yielded hq hrunning hpcbs => exact hother hpcbs (hne hq hrunning)
  | ended hq hrunning hpcbs => exact hother hpcbs (hne hq hrunning)
  | @dispatched q context hq hcontext hpcbs =>
    show Keeps p [(q.pid, context)] ps'
    unfold Keeps
    by_cases hpid : q.pid = p.pid
    · obtain rfl := pid_inj htidy.ascending hp hq hpid.symm
      rw [List.find?_cons_of_pos (by simp)]
      exact hcontext
    · rw [List.find?_cons_of_neg (by simpa using hpid)]
      exact hother hpcbs fun h => hpid h.symm

lemma Undergoes.kept (h : ps.Undergoes events ps') (htidy : ps.Tidy) {p : Pcb}
    (hready : p.state = .ready) {ds : List (ℕ × Context)} (hp : Keeps p ds ps) :
    Keeps p (ds ++ events.filterMap ProcessEvent.dispatch) ps' := by
  refine (h.invariant (P := fun events ps' =>
    Keeps p (ds ++ events.filterMap ProcessEvent.dispatch) ps') htidy ?_ ?_).2
  · rwa [List.filterMap_nil, List.append_nil]
  · intro events e ps' ps'' htidy hkeeps htouches
    have hone : [e].filterMap ProcessEvent.dispatch = e.dispatch.toList := by
      rw [List.filterMap_cons]
      cases e.dispatch <;> rfl
    rw [List.filterMap_append, ← List.append_assoc, hone]
    exact Keeps.append hkeeps fun hp => htouches.keeps htidy hready hp

/-- The root table of a process stays its root table. -/
lemma Undergoes.root (h : ps.Undergoes events ps') (htidy : ps.Tidy) {p : Pcb} (hp : p ∈ ps.pcbs) :
    ∃ p' ∈ ps'.pcbs, p'.pid = p.pid ∧ p'.root = p.root := by
  refine (h.invariant (P := fun _ ps' => ∃ p' ∈ ps'.pcbs, p'.pid = p.pid ∧ p'.root = p.root) htidy
    ⟨p, hp, rfl, rfl⟩ ?_).2
  rintro events e ps' ps'' htidy ⟨p', hp', hpid, hroot⟩ htouches
  have hchanged {q q' : Pcb} (hq : q ∈ ps'.pcbs) (hpcbs : Changed ps' ps'' q q')
      (hpid' : q'.pid = q.pid) (hroot' : q'.root = q.root) :
      ∃ p' ∈ ps''.pcbs, p'.pid = p.pid ∧ p'.root = p.root := by
    by_cases hne : p'.pid = q.pid
    · obtain rfl := pid_inj htidy.ascending hp' hq hne
      exact ⟨q', (hpcbs q').mpr (.inr rfl), hpid'.trans hpid, hroot'.trans hroot⟩
    · exact ⟨p', (hpcbs p').mpr (.inl ⟨hp', hne⟩), hpid, hroot⟩
  cases htouches with
  | reserved hpcbs => exact ⟨p', hpcbs ▸ hp', hpid, hroot⟩
  | admitted hfresh hpcbs =>
    refine ⟨p', ?_, hpid, hroot⟩
    rw [hpcbs]
    exact List.mem_append_left _ hp'
  | yielded hq hrunning hpcbs => exact hchanged hq hpcbs rfl rfl
  | ended hq hrunning hpcbs => exact hchanged hq hpcbs rfl rfl
  | dispatched hq hcontext hpcbs => exact hchanged hq hpcbs rfl rfl

/-! ## Where contexts come from -/

/-- A context of a process that the changes save. -/
def Saved (events : List ProcessEvent) (pid : ℕ) (context : Context) : Prop :=
  .yielded pid context ∈ events ∨
    ∃ pcb, .admitted pcb ∈ events ∧ pcb.pid = pid ∧ pcb.context = some context

lemma Saved.append {e : ProcessEvent} (h : Saved events pid context) :
    Saved (events ++ [e]) pid context := by
  rcases h with h | ⟨pcb, h, hpcb⟩
  · exact .inl (List.mem_append_left _ h)
  · exact .inr ⟨pcb, List.mem_append_left _ h, hpcb⟩

lemma Undergoes.origin (h : ps.Undergoes events ps') (htidy : ps.Tidy) :
    (∀ q ∈ ps'.pcbs, ∀ context, q.context = some context →
      q ∈ ps.pcbs ∨ Saved events q.pid context) ∧
    ∀ pid context, .dispatched pid context ∈ events →
      (∃ p ∈ ps.pcbs, p.pid = pid ∧ p.context = some context) ∨ Saved events pid context := by
  refine (h.invariant (P := fun events ps' =>
    (∀ q ∈ ps'.pcbs, ∀ context, q.context = some context →
      q ∈ ps.pcbs ∨ Saved events q.pid context) ∧
    ∀ pid context, .dispatched pid context ∈ events →
      (∃ p ∈ ps.pcbs, p.pid = pid ∧ p.context = some context) ∨ Saved events pid context) htidy
    ⟨fun q hq _ _ => .inl hq, nofun⟩ ?_).2
  rintro events e ps' ps'' - ⟨htable, hdispatches⟩ htouches
  have hold {q : Pcb} (hq : q ∈ ps'.pcbs) {context : Context}
    (hcontext : q.context = some context) :
      q ∈ ps.pcbs ∨ Saved (events ++ [e]) q.pid context :=
    (htable q hq context hcontext).imp_right Saved.append
  have hother {q r r' : Pcb} {context : Context} (hpcbs : Changed ps' ps'' r r')
    (hq : q ∈ ps''.pcbs)
      (hcontext : q.context = some context) :
      (q ∈ ps.pcbs ∨ Saved (events ++ [e]) q.pid context) ∨ q = r' :=
    ((hpcbs q).mp hq).imp_left fun hq => hold hq.1 hcontext
  constructor
  · intro q hq context hcontext
    cases htouches with
    | reserved hpcbs => exact hold (hpcbs ▸ hq) hcontext
    | @admitted pcb hfresh hpcbs =>
      rw [hpcbs] at hq
      rcases List.mem_append.mp hq with hq | hq
      · exact hold hq hcontext
      · rw [List.mem_singleton] at hq
        cases hq
        exact .inr (.inr ⟨q, by simp, rfl, hcontext⟩)
    | yielded hp hrunning hpcbs =>
      rcases hother hpcbs hq hcontext with h | rfl
      · exact h
      · cases hcontext
        exact .inr (.inl (by simp))
    | ended hp hrunning hpcbs =>
      rcases hother hpcbs hq hcontext with h | rfl
      · exact h
      · cases hcontext
    | dispatched hp hcontext' hpcbs =>
      rcases hother hpcbs hq hcontext with h | rfl
      · exact h
      · cases hcontext
  · intro pid context hmem
    rcases List.mem_append.mp hmem with hmem | hmem
    · exact (hdispatches pid context hmem).imp_right Saved.append
    · rw [List.mem_singleton] at hmem
      cases hmem
      cases htouches with
      | @dispatched p _ hp hcontext hpcbs =>
        exact (hold hp hcontext).imp_left fun hp => ⟨p, hp, rfl, hcontext⟩

end Processes

end SystemScope.Os
