import SystemScope.Os.Table

/-!
# Operations on the process table

Each operation of the kernel on the process table, where the kernel uses it: it is not refused, and
it keeps the invariants.
-/

namespace SystemScope.Os

open Elf Checks

namespace Processes

variable {ps : Processes} {images : ℕ} {creating : Option (ℕ × List UInt32)} {pid : ℕ}

/-- A table without processes, over a free pool. -/
lemma ok_new {frames : Frames} (hnumbered : frames.Numbered)
    (hfree : ∀ ppn pid, frames.owner ppn = some pid → pid = 0) (images : ℕ) :
    (Processes.new frames).Ok images none where
  numbered := hnumbered
  ascending := .nil
  range := by simp [Processes.new]
  pcb := by simp [Processes.new]
  running := by simp [Processes.new]
  queue_nodup := .nil
  queue := by simp [Processes.new]
  creation := by simp
  owns := by simp [Processes.new, owners]
  owned ppn pid h := .inl (hfree ppn pid h)

/-- More images may be expected than before. -/
lemma Ok.mono {images' : ℕ} (h : ps.Ok images creating) (hle : images ≤ images') :
    ps.Ok images' creating :=
  { h with
    range := fun p hp => ⟨(h.range p hp).1, (h.range p hp).2.trans hle⟩
    creation := fun c hc =>
      ⟨(h.creation c hc).1, (h.creation c hc).2.1.trans hle, (h.creation c hc).2.2⟩ }

/-! ## Creating -/

lemma Ok.reserve (h : ps.Ok images none) (hpos : 0 < pid) (hle : pid ≤ images)
    (hnew : ∀ p ∈ ps.pcbs, p.pid < pid) {n : ℕ} {fs : List UInt32} {frames : Frames}
    (hreserved : ps.frames.Reserved pid n fs frames) :
    ({ ps with frames } : Processes).Ok images (some (pid, fs)) := by
  have hold : ps.owners none = ps.pcbs.map fun p => (p.pid, p.frames) := List.append_nil _
  have hother : ∀ o ∈ ps.owners none, o.1 ≠ 0 ∧ o.1 ≠ pid := by
    intro o ho
    rw [hold] at ho
    obtain ⟨p, hp, rfl⟩ := List.mem_map.mp ho
    have hpos := (h.range p hp).1
    have hlt := hnew p hp
    constructor <;> dsimp only <;> omega
  refine
    { numbered := hreserved.same.numbered h.numbered
      ascending := h.ascending, range := h.range, pcb := h.pcb, running := h.running
      queue_nodup := h.queue_nodup, queue := h.queue
      creation := ?_, owns := ?_, owned := ?_ }
  · intro c hc
    obtain rfl := Option.some.inj hc
    exact ⟨hpos, hle, hnew⟩
  · intro o ho
    rcases List.mem_append.mp ho with ho | ho
    · have ho : o ∈ ps.owners none := by rwa [hold]
      refine ⟨(h.owns o ho).nodup, ?_⟩
      intro ppn
      rw [(h.owns o ho).mem_iff, hreserved.owner]
      by_cases hmem : ppn ∈ fs
      · rw [if_pos hmem, hreserved.free ppn hmem, Option.some_inj, Option.some_inj]
        have hne := hother o ho
        omega
      · rw [if_neg hmem]
    · obtain rfl : o = (pid, fs) := by simpa using ho
      refine ⟨hreserved.ascending.imp UInt32.ne_of_lt, ?_⟩
      intro ppn
      rw [hreserved.owner]
      by_cases hmem : ppn ∈ fs
      · simp [hmem]
      · rw [if_neg hmem]
        refine ⟨fun h => absurd h hmem, ?_⟩
        intro howner
        rcases h.owned ppn pid howner with hzero | ⟨o, ho, heq⟩
        · omega
        · exact absurd heq (hother o ho).2
  · intro ppn owner howner
    dsimp only at howner
    rw [hreserved.owner] at howner
    by_cases hmem : ppn ∈ fs
    · rw [if_pos hmem] at howner
      exact .inr ⟨(pid, fs), by simp [owners], Option.some.inj howner⟩
    · rw [if_neg hmem] at howner
      rcases h.owned ppn owner howner with hzero | ⟨o, ho, heq⟩
      · exact .inl hzero
      · rw [hold] at ho
        exact .inr ⟨o, List.mem_append_left _ ho, heq⟩

/-- The sorted frames of an owner are those that the pool lists. -/
lemma sortFrames_eq {f : Frames} (hf : f.Numbered) {fs : List UInt32} (h : f.Owns pid fs) :
    sortFrames fs = f.ownedBy pid := by
  unfold sortFrames
  refine List.Perm.eq_of_pairwise ?_ (List.pairwise_mergeSort ?_ ?_ fs)
    ((Frames.ownedBy_pairwise hf).imp ?_) ?_
  · intro a b _ _ hab hba
    exact UInt32.le_antisymm (by simpa using hab) (by simpa using hba)
  · intro a b c hab hbc
    simp only [decide_eq_true_eq] at *
    exact UInt32.le_trans hab hbc
  · intro a b
    simp only [Bool.or_eq_true, decide_eq_true_eq]
    exact UInt32.le_total a b
  · intro a b hab
    simpa using UInt32.le_of_lt hab
  · exact (List.mergeSort_perm _ _).trans (h.perm (Frames.owns_ownedBy hf))

/-- The process of a creation is admitted. -/
lemma Ok.admit_ {pcb : Pcb} {fs : List UInt32} (h : ps.Ok images (some (pcb.pid, fs)))
    (hperm : fs.Perm pcb.frames) (hok : pcb.Ok) (hready : pcb.state = .ready) :
    ps.admit_ pcb = .ok { ps with queue := ps.queue ++ [pcb.pid], pcbs := ps.pcbs ++ [pcb] } ∧
      ({ ps with queue := ps.queue ++ [pcb.pid], pcbs := ps.pcbs ++ [pcb] } : Processes).Ok images
        none := by
  obtain ⟨hpos, hle, hnew⟩ := h.creation _ rfl
  have howns : ps.frames.Owns pcb.pid pcb.frames :=
    (h.owns (pcb.pid, fs) (by simp [owners])).of_perm hperm
  constructor
  · unfold Processes.admit_
    rw [if_neg, if_neg, if_neg]
    · rw [not_not]
      exact sortFrames_eq h.numbered howns
    · have hcontext := hok.context.mp hready
      rintro (hbad | hbad)
      · exact hbad hready
      · rw [hbad] at hcontext
        cases hcontext
    · rintro ⟨p, hp, hle⟩
      have hlt := hnew p (List.mem_of_getLast? hp)
      dsimp only at hlt
      omega
  · have hmem {P : Pcb → Prop} :
        (∃ p ∈ ps.pcbs ++ [pcb], P p) ↔ (∃ p ∈ ps.pcbs, P p) ∨ P pcb := by
      simp only [List.mem_append, List.mem_singleton]
      constructor
      · rintro ⟨p, hp | rfl, hP⟩
        · exact .inl ⟨p, hp, hP⟩
        · exact .inr hP
      · rintro (⟨p, hp, hP⟩ | hP)
        · exact ⟨p, .inl hp, hP⟩
        · exact ⟨pcb, .inr rfl, hP⟩
    have hfresh : pcb.pid ∉ ps.queue := by
      intro hqueued
      obtain ⟨p, hp, heq, -⟩ := (h.queue pcb.pid).mp hqueued
      have hlt := hnew p hp
      dsimp only at hlt
      omega
    refine
      { numbered := h.numbered
        ascending := ?_, range := ?_, pcb := ?_, running := ?_, queue_nodup := ?_, queue := ?_
        creation := by simp, owns := ?_, owned := ?_ }
    · refine List.pairwise_append.mpr ⟨h.ascending, List.pairwise_singleton _ _, ?_⟩
      intro p hp q hq
      rw [List.mem_singleton.mp hq]
      exact hnew p hp
    · exact List.forall_mem_append.mpr ⟨h.range, by simpa using ⟨hpos, hle⟩⟩
    · exact List.forall_mem_append.mpr ⟨h.pcb, by simpa using hok⟩
    · intro pid
      rw [h.running, hmem]
      simp [hready]
    · refine List.nodup_append.mpr ⟨h.queue_nodup, List.nodup_singleton _, ?_⟩
      intro a ha b hb heq
      rw [heq, List.mem_singleton.mp hb] at ha
      exact hfresh ha
    · intro pid
      rw [hmem, List.mem_append, List.mem_singleton, h.queue]
      simp [hready, eq_comm]
    · intro o ho
      simp only [owners, List.map_append, List.mem_append, List.map_cons, List.map_nil,
        List.mem_singleton, Option.toList_none, List.not_mem_nil, or_false] at ho
      rcases ho with ho | rfl
      · exact h.owns o (List.mem_append_left _ ho)
      · exact howns
    · intro ppn pid howner
      rcases h.owned ppn pid howner with hzero | ⟨o, ho, heq⟩
      · exact .inl hzero
      · refine .inr ?_
        rcases List.mem_append.mp ho with ho | ho
        · exact ⟨o,
            by simp only [owners, List.map_append, List.mem_append]; exact .inl (.inl ho), heq⟩
        · obtain rfl : o = (pcb.pid, fs) := by simpa using ho
          exact ⟨(pcb.pid, pcb.frames), by simp [owners], heq⟩

/-! ## Switching -/

/-- The processes after one of them has changed. -/
lemma mem_update {pcbs : List Pcb} (hpcbs : pcbs.Pairwise fun p q => p.pid < q.pid) {f : Pcb → Pcb}
    {p q : Pcb} (hp : p ∈ pcbs) :
    q ∈ update p.pid f pcbs ↔ (q ∈ pcbs ∧ q.pid ≠ p.pid) ∨ q = f p := by
  rw [update_eq_map hpcbs, List.mem_map]
  constructor
  · rintro ⟨r, hr, rfl⟩
    by_cases hpid : r.pid = p.pid
    · rw [if_pos hpid, pid_inj hpcbs hr hp hpid]
      exact .inr rfl
    · rw [if_neg hpid]
      exact .inl ⟨hr, hpid⟩
  · rintro (⟨hq, hpid⟩ | rfl)
    · exact ⟨q, hq, if_neg hpid⟩
    · exact ⟨p, hp, if_pos rfl⟩

/-- A change that keeps something of every process keeps it of the table. -/
lemma map_update {α : Type} {f : Pcb → Pcb} {g : Pcb → α} (hf : ∀ p, g (f p) = g p) (pid : ℕ)
    (pcbs : List Pcb) : (update pid f pcbs).map g = pcbs.map g := by
  induction pcbs with
  | nil => rfl
  | cons p rest ih =>
    rw [update]
    by_cases hpid : p.pid = pid
    · rw [if_pos hpid, List.map_cons, List.map_cons, hf]
    · rw [if_neg hpid, List.map_cons, List.map_cons, ih]

section Switching

variable {f : Pcb → Pcb} {p : Pcb}

/-- PIDs stay ascending. -/
lemma pairwise_update {pcbs : List Pcb} (hpcbs : pcbs.Pairwise fun p q => p.pid < q.pid)
    (hf : ∀ p, (f p).pid = p.pid) (pid : ℕ) :
    (update pid f pcbs).Pairwise fun p q => p.pid < q.pid := by
  rw [← List.pairwise_map] at hpcbs ⊢
  rwa [map_update hf]

/-- A change that keeps the frames of every process keeps who owns what. -/
lemma owners_update (hf : ∀ p, (f p).pid = p.pid) (hframes : ∀ p, (f p).frames = p.frames)
    (pid : ℕ) {queue : List ℕ} {current : Option ℕ} :
    ({ ps with pcbs := update pid f ps.pcbs, queue, current } : Processes).owners none =
      ps.owners none := by
  have hboth : ∀ p, ((f p).pid, (f p).frames) = (p.pid, p.frames) := by
    intro p
    rw [hf, hframes]
  unfold owners
  rw [map_update (g := fun p => (p.pid, p.frames)) hboth]

variable (h : ps.Ok images none) (hp : p ∈ ps.pcbs)

include h hp

/-- Every process of a changed table is what the invariants ask of it. -/
lemma Ok.update_forall {P : Pcb → Prop} (hall : ∀ q ∈ ps.pcbs, P q) (hchanged : P (f p)) :
    ∀ q ∈ update p.pid f ps.pcbs, P q := by
  intro q hq
  rcases (mem_update h.ascending hp).mp hq with ⟨hq, -⟩ | rfl
  · exact hall q hq
  · exact hchanged

lemma Ok.update_exists {P : Pcb → Prop} :
    (∃ q ∈ update p.pid f ps.pcbs, P q) ↔ (∃ q ∈ ps.pcbs, q.pid ≠ p.pid ∧ P q) ∨ P (f p) := by
  simp only [mem_update h.ascending hp]
  constructor
  · rintro ⟨q, ⟨hq, hne⟩ | rfl, hP⟩
    · exact .inl ⟨q, hq, hne, hP⟩
    · exact .inr hP
  · rintro (⟨q, hq, hne, hP⟩ | hP)
    · exact ⟨q, .inl ⟨hq, hne⟩, hP⟩
    · exact ⟨f p, .inr rfl, hP⟩

end Switching

/-- The running process goes to the tail of the queue. -/
lemma Ok.yieldCurrent (h : ps.Ok images none) (hcurrent : ps.current = some pid)
    (context : Context) :
    ∃ ps', ps.yieldCurrent context = .ok (ps', pid) ∧ ps'.Ok images none ∧ ps'.current = none := by
  obtain ⟨p, hp, rfl, hstate, hpcb⟩ := h.running_pcb hcurrent
  have hqueued : p.pid ∉ ps.queue := by
    intro hqueued
    obtain ⟨q, hq, hpid, hready⟩ := (h.queue _).mp hqueued
    rw [pid_inj h.ascending hq hp hpid, hstate] at hready
    cases hready
  let f : Pcb → Pcb := fun p => { p with state := .ready, context := some context }
  have hpid : ∀ p, (f p).pid = p.pid := fun _ => rfl
  have howners : ({ pcbs := update p.pid f ps.pcbs, queue := ps.queue ++ [p.pid], current := none
                    frames := ps.frames } : Processes).owners none = ps.owners none :=
    owners_update hpid (fun _ => rfl) _
  refine ⟨{ ps with pcbs := update p.pid f ps.pcbs, queue := ps.queue ++ [p.pid], current := none },
    ?_, ?_, rfl⟩
  · unfold Processes.yieldCurrent
    rw [hcurrent]
    dsimp only
    rw [hpcb]
  · have hlive := (h.pcb p hp).live
    rw [hstate] at hlive
    refine
      { numbered := h.numbered
        ascending := pairwise_update h.ascending hpid _
        range := h.update_forall hp h.range (h.range p hp)
        pcb := h.update_forall hp h.pcb ?_
        running := ?_, queue_nodup := ?_, queue := ?_
        creation := by simp, owns := ?_, owned := ?_ }
    · exact ⟨by simp [f], fun hterminal => hterminal.elim, fun _ => hlive id⟩
    · intro pid
      rw [h.update_exists hp]
      simp only [reduceCtorEq, false_iff, not_or]
      refine ⟨?_, by simp [f]⟩
      rintro ⟨q, hq, hne, rfl, hrunning⟩
      have hother := (h.running q.pid).mpr ⟨q, hq, rfl, hrunning⟩
      rw [hcurrent] at hother
      exact hne (Option.some.inj hother).symm
    · exact List.nodup_append.mpr ⟨h.queue_nodup, List.nodup_singleton _, by
        rintro a ha b hb rfl
        rw [List.mem_singleton.mp hb] at ha
        exact hqueued ha⟩
    · intro pid
      rw [h.update_exists hp, List.mem_append, List.mem_singleton, h.queue]
      have hready : (f p).state = .ready := rfl
      constructor
      · rintro (⟨q, hq, rfl, hqready⟩ | rfl)
        · refine .inl ⟨q, hq, ?_, rfl, hqready⟩
          intro heq
          exact hqueued ((h.queue _).mpr ⟨q, hq, heq, hqready⟩)
        · exact .inr ⟨rfl, rfl⟩
      · rintro (⟨q, hq, -, rfl, hqready⟩ | ⟨rfl, -⟩)
        · exact .inl ⟨q, hq, rfl, hqready⟩
        · exact .inr rfl
    · intro o ho
      rw [howners] at ho
      exact h.owns o ho
    · intro ppn pid howner
      rw [howners]
      exact h.owned ppn pid howner

/-- The running process ends, and its frames are free. -/
lemma Ok.endCurrent (h : ps.Ok images none) (hcurrent : ps.current = some pid) {state : ProcState}
    (hterminal : state.IsTerminal) :
    ∃ ps', ps.endCurrent state = .ok (ps', pid) ∧ ps'.Ok images none ∧ ps'.current = none := by
  obtain ⟨p, hp, rfl, hstate, hpcb⟩ := h.running_pcb hcurrent
  have hpos := (h.range p hp).1
  have howns := h.owns_pcb hp
  obtain ⟨frames, hrelease, hsame, howner⟩ := Frames.release_isOk h.numbered (Nat.ne_of_gt hpos)
    (fun ppn hppn => (howns.mem_iff ppn).mp hppn)
  have hne : state ≠ .ready ∧ state ≠ .running := by
    constructor <;> rintro rfl <;> exact hterminal
  have hpid : ∀ p, (ended state p).pid = p.pid := fun _ => rfl
  -- The frames of the others are not the ones that were released.
  have hkept : ∀ ppn pid, pid ≠ p.pid → pid ≠ 0 →
      (frames.owner ppn = some pid ↔ ps.frames.owner ppn = some pid) := by
    intro ppn pid hne hpos
    rw [howner]
    by_cases hmem : ppn ∈ p.frames
    · rw [if_pos hmem, (howns.mem_iff ppn).mp hmem]
      simp only [Option.some_inj]
      exact ⟨fun h => absurd h.symm hpos, fun h => absurd h.symm hne⟩
    · rw [if_neg hmem]
  refine ⟨{ ps with pcbs := update p.pid (ended state) ps.pcbs, current := none, frames },
    ?_, ?_, rfl⟩
  · unfold Processes.endCurrent
    rw [if_neg (not_not.mpr hterminal), hcurrent]
    dsimp only
    rw [hpcb]
    dsimp only
    rw [hrelease]
  · refine
      { numbered := hsame.numbered h.numbered
        ascending := pairwise_update h.ascending hpid _
        range := h.update_forall hp h.range (h.range p hp)
        pcb := h.update_forall hp h.pcb ?_
        running := ?_, queue_nodup := h.queue_nodup, queue := ?_
        creation := by simp, owns := ?_, owned := ?_ }
    · exact ⟨by simp [ended, hne.1], fun _ => ⟨rfl, rfl⟩, fun hlive => absurd hterminal hlive⟩
    · intro pid
      rw [h.update_exists hp]
      simp only [reduceCtorEq, false_iff, not_or]
      refine ⟨?_, fun hrunning => hne.2 hrunning.2⟩
      rintro ⟨q, hq, hother, rfl, hrunning⟩
      have hcurrent' := (h.running q.pid).mpr ⟨q, hq, rfl, hrunning⟩
      rw [hcurrent] at hcurrent'
      exact hother (Option.some.inj hcurrent').symm
    · intro pid
      rw [h.update_exists hp, h.queue]
      constructor
      · rintro ⟨q, hq, rfl, hready⟩
        refine .inl ⟨q, hq, ?_, rfl, hready⟩
        intro heq
        rw [pid_inj h.ascending hq hp heq, hstate] at hready
        cases hready
      · rintro (⟨q, hq, -, rfl, hready⟩ | ⟨-, hready⟩)
        · exact ⟨q, hq, rfl, hready⟩
        · exact absurd hready hne.1
    · intro o ho
      simp only [owners, Option.toList_none, List.append_nil, List.mem_map] at ho
      obtain ⟨q, hq, rfl⟩ := ho
      rcases (mem_update h.ascending hp).mp hq with ⟨hq, hother⟩ | rfl
      · have hq' := h.owns_pcb hq
        have hqpos := (h.range q hq).1
        exact ⟨hq'.nodup, fun ppn =>
          (hq'.mem_iff ppn).trans (hkept ppn q.pid hother (Nat.ne_of_gt hqpos)).symm⟩
      · refine ⟨.nil, fun ppn => ?_⟩
        show ppn ∈ [] ↔ frames.owner ppn = some p.pid
        rw [howner]
        by_cases hmem : ppn ∈ p.frames
        · rw [if_pos hmem]
          simp [Nat.ne_of_lt hpos]
        · rw [if_neg hmem, ← howns.mem_iff]
          simp [hmem]
    · intro ppn pid howner'
      by_cases hzero : pid = 0
      · exact .inl hzero
      · by_cases hself : pid = p.pid
        · refine .inr ⟨(p.pid, (ended state p).frames), ?_, hself.symm⟩
          simp only [owners, Option.toList_none, List.append_nil, List.mem_map]
          exact ⟨ended state p, (mem_update h.ascending hp).mpr (.inr rfl), rfl⟩
        · rcases h.owned ppn pid ((hkept ppn pid hself hzero).mp howner') with hzero | ⟨o, ho, rfl⟩
          · exact .inl hzero
          · simp only [owners, Option.toList_none, List.append_nil, List.mem_map] at ho
            obtain ⟨q, hq, rfl⟩ := ho
            refine .inr ⟨(q.pid, q.frames), ?_, rfl⟩
            simp only [owners, Option.toList_none, List.append_nil, List.mem_map]
            exact ⟨q, (mem_update h.ascending hp).mpr (.inl ⟨hq, hself⟩), rfl⟩

/-- The head of the queue is dispatched, if there is one. -/
lemma Ok.scheduleNext (h : ps.Ok images none) (hcurrent : ps.current = none) :
    (ps.queue = [] ∧ ps.scheduleNext = .ok (ps, none)) ∨
      ∃ ps' pid context, ps.scheduleNext = .ok (ps', some (pid, context)) ∧ ps'.Ok images none ∧
        ps'.current = some pid := by
  cases hqueue : ps.queue with
  | nil =>
    refine .inl ⟨rfl, ?_⟩
    unfold Processes.scheduleNext
    rw [hcurrent, hqueue]
    rfl
  | cons pid rest =>
    have hnodup := h.queue_nodup
    rw [hqueue, List.nodup_cons] at hnodup
    obtain ⟨p, hp, rfl, hstate⟩ := (h.queue pid).mp (hqueue ▸ List.mem_cons_self)
    obtain ⟨context, hcontext⟩ := Option.isSome_iff_exists.mp ((h.pcb p hp).context.mp hstate)
    have hpcb := h.pcb_eq_some.mpr ⟨hp, rfl⟩
    have hpid : ∀ p, (dispatched p).pid = p.pid := fun _ => rfl
    have howners : ({ pcbs := update p.pid dispatched ps.pcbs, queue := rest
                      current := some p.pid, frames := ps.frames } : Processes).owners none =
        ps.owners none := owners_update hpid (fun _ => rfl) _
    have hidle : ∀ q ∈ ps.pcbs, q.state ≠ .running := by
      intro q hq hrunning
      have hother := (h.running q.pid).mpr ⟨q, hq, rfl, hrunning⟩
      rw [hcurrent] at hother
      cases hother
    refine .inr ⟨{ ps with pcbs := update p.pid dispatched ps.pcbs, queue := rest
                           current := some p.pid }, p.pid, context, ?_, ?_, rfl⟩
    · unfold Processes.scheduleNext
      rw [hcurrent, hqueue]
      dsimp only [Option.isSome_none]
      rw [if_neg (by simp), hpcb]
      dsimp only
      rw [hcontext]
      dsimp only
      rw [if_neg (not_not.mpr hstate)]
    · have hlive := (h.pcb p hp).live
      rw [hstate] at hlive
      refine
        { numbered := h.numbered
          ascending := pairwise_update h.ascending hpid _
          range := h.update_forall hp h.range (h.range p hp)
          pcb := h.update_forall hp h.pcb ?_
          running := ?_, queue_nodup := hnodup.2, queue := ?_
          creation := by simp, owns := ?_, owned := ?_ }
      · exact ⟨by simp [dispatched], fun hterminal => hterminal.elim, fun _ => hlive id⟩
      · intro pid
        rw [h.update_exists hp]
        constructor
        · rintro ⟨⟩
          exact .inr ⟨rfl, rfl⟩
        · rintro (⟨q, hq, -, -, hrunning⟩ | ⟨rfl, -⟩)
          · exact absurd hrunning (hidle q hq)
          · rfl
      · intro pid
        have hmem := h.queue pid
        rw [hqueue, List.mem_cons] at hmem
        rw [h.update_exists hp]
        constructor
        · intro hpid
          obtain ⟨q, hq, rfl, hready⟩ := hmem.mp (.inr hpid)
          refine .inl ⟨q, hq, ?_, rfl, hready⟩
          rintro heq
          rw [heq] at hpid
          exact hnodup.1 hpid
        · rintro (⟨q, hq, hne, rfl, hready⟩ | ⟨-, hready⟩)
          · exact (hmem.mpr ⟨q, hq, rfl, hready⟩).resolve_left hne
          · cases hready
      · intro o ho
        rw [howners] at ho
        exact h.owns o ho
      · intro ppn pid howner
        rw [howners]
        exact h.owned ppn pid howner

end Processes

end SystemScope.Os
