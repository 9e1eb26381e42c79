import SystemScope.Os.Ownership
import SystemScope.Os.Process

/-!
# The process table

The invariants of the process table as facts about it (`Processes.Ok`), with the creation in flight.
They are what `Processes.check` checks (`Processes.check_of_ok`); each operation of
`Os/Process.lean` keeps them, and none of them is refused where the kernel uses it.
-/

namespace SystemScope.Os

open Elf Checks

/-- A process control block holds what belongs to its state. -/
structure Pcb.Ok (p : Pcb) : Prop where
  context : p.state = .ready ↔ p.context.isSome
  dead : p.state.IsTerminal → p.tables = [] ∧ p.regions = []
  live : ¬p.state.IsTerminal → p.tables.head? = some p.root ∧ p.regions ≠ []

namespace Processes

/-- The invariants, with the PID and the frames of the creation in flight. -/
structure Ok (ps : Processes) (images : ℕ) (creating : Option (ℕ × List UInt32)) : Prop where
  numbered : ps.frames.Numbered
  ascending : ps.pcbs.Pairwise fun p q => p.pid < q.pid
  range : ∀ p ∈ ps.pcbs, 0 < p.pid ∧ p.pid ≤ images
  pcb : ∀ p ∈ ps.pcbs, p.Ok
  running : ∀ pid, ps.current = some pid ↔ ∃ p ∈ ps.pcbs, p.pid = pid ∧ p.state = .running
  queue_nodup : ps.queue.Nodup
  queue : ∀ pid, pid ∈ ps.queue ↔ ∃ p ∈ ps.pcbs, p.pid = pid ∧ p.state = .ready
  /-- The creation in flight is of a PID after all others. -/
  creation : ∀ c ∈ creating, 0 < c.1 ∧ c.1 ≤ images ∧ ∀ p ∈ ps.pcbs, p.pid < c.1
  /-- Everyone owns the frames it should, and no others. -/
  owns : ∀ o ∈ ps.owners creating, ps.frames.Owns o.1 o.2
  /-- Every owner is a process or the creation in flight. -/
  owned : ∀ ppn pid, ps.frames.owner ppn = some pid →
    pid = 0 ∨ ∃ o ∈ ps.owners creating, o.1 = pid

variable {ps : Processes} {images : ℕ} {creating : Option (ℕ × List UInt32)} {pid : ℕ}

/-! ## Looking up -/

section Lookup

variable {pcbs : List Pcb} (hpcbs : pcbs.Pairwise fun p q => p.pid < q.pid)

include hpcbs

/-- PIDs are unique. -/
lemma pid_inj {p q : Pcb} (hp : p ∈ pcbs) (hq : q ∈ pcbs) (h : p.pid = q.pid) : p = q := by
  have hnodup : (pcbs.map Pcb.pid).Nodup := by
    rw [List.Nodup, List.pairwise_map]
    exact hpcbs.imp Nat.ne_of_lt
  exact List.inj_on_of_nodup_map hnodup hp hq h

lemma find_pid {p : Pcb} :
    (pcbs.find? fun q => q.pid = pid) = some p ↔ p ∈ pcbs ∧ p.pid = pid := by
  constructor
  · intro h
    exact ⟨List.mem_of_find?_eq_some h, by simpa using List.find?_some h⟩
  · rintro ⟨hp, rfl⟩
    cases hfind : pcbs.find? fun q => q.pid = p.pid with
    | none =>
      rw [List.find?_eq_none] at hfind
      exact absurd (hfind p hp) (by simp)
    | some q =>
      have hpid : q.pid = p.pid := by simpa using List.find?_some hfind
      rw [pid_inj hpcbs (List.mem_of_find?_eq_some hfind) hp hpid]

/-- An update changes one process and leaves the others. -/
lemma update_eq_map (f : Pcb → Pcb) :
    update pid f pcbs = pcbs.map fun p => if p.pid = pid then f p else p := by
  induction pcbs with
  | nil => rfl
  | cons p rest ih =>
    obtain ⟨hhead, hrest⟩ := List.pairwise_cons.mp hpcbs
    rw [update, List.map_cons]
    by_cases hpid : p.pid = pid
    · rw [if_pos hpid, if_pos hpid]
      congr 1
      symm
      rw [List.map_congr_left (g := id), List.map_id]
      intro q hq
      have hlt := hhead q hq
      rw [if_neg (by omega)]
      rfl
    · rw [if_neg hpid, if_neg hpid, ih hrest]

end Lookup

namespace Ok

variable (h : ps.Ok images creating)

include h

lemma pcb_eq_some {p : Pcb} : ps.pcb pid = some p ↔ p ∈ ps.pcbs ∧ p.pid = pid :=
  find_pid h.ascending

lemma running_pcb (hcurrent : ps.current = some pid) :
    ∃ p ∈ ps.pcbs, p.pid = pid ∧ p.state = .running ∧ ps.pcb pid = some p := by
  obtain ⟨p, hp, hpid, hstate⟩ := (h.running pid).mp hcurrent
  exact ⟨p, hp, hpid, hstate, h.pcb_eq_some.mpr ⟨hp, hpid⟩⟩

lemma owns_pcb {p : Pcb} (hp : p ∈ ps.pcbs) : ps.frames.Owns p.pid p.frames :=
  h.owns _ (List.mem_append_left _ (List.mem_map_of_mem hp))

/-! ## The check -/

lemma checkPcbs_ok {last : ℕ} {pcbs : List Pcb} (hsub : ∀ p ∈ pcbs, p ∈ ps.pcbs)
    (hlast : ∀ p ∈ pcbs, last < p.pid) (hpairs : pcbs.Pairwise fun p q => p.pid < q.pid) :
    checkPcbs images last pcbs = .ok () := by
  induction pcbs generalizing last with
  | nil => rfl
  | cons p rest ih =>
    rw [List.forall_mem_cons] at hsub hlast
    obtain ⟨hhead, hrest⟩ := List.pairwise_cons.mp hpairs
    obtain ⟨-, himages⟩ := h.range p hsub.1
    obtain ⟨hcontext, hdead, hlive⟩ := h.pcb p hsub.1
    have htables : p.state.IsTerminal ↔ p.tables = [] := by
      constructor
      · exact fun hterminal => (hdead hterminal).1
      · intro hnil
        by_contra hterminal
        have hhead := (hlive hterminal).1
        rw [hnil] at hhead
        cases hhead
    have hregions : p.state.IsTerminal ↔ p.regions = [] := by
      constructor
      · exact fun hterminal => (hdead hterminal).2
      · intro hnil
        by_contra hterminal
        exact (hlive hterminal).2 hnil
    rw [checkPcbs, if_neg (by omega), if_neg (not_not.mpr hcontext),
      if_neg (by rw [not_or, not_not, not_not]; exact ⟨htables, hregions⟩), if_neg]
    · exact ih hsub.2 hhead hrest
    · rintro ⟨hterminal, hne⟩
      exact hne (hlive hterminal).1

lemma runningPids_eq : ps.runningPids = ps.current.toList := by
  have hnodup : ps.runningPids.Nodup := by
    unfold runningPids
    rw [List.Nodup, List.pairwise_map]
    exact (h.ascending.filter _).imp Nat.ne_of_lt
  have hmem : ∀ pid, pid ∈ ps.runningPids ↔ pid ∈ ps.current.toList := by
    intro pid
    unfold runningPids
    rw [Option.mem_toList, h.running]
    simp only [List.mem_map, List.mem_filter, decide_eq_true_eq]
    constructor
    · rintro ⟨p, ⟨hp, hstate⟩, hpid⟩
      exact ⟨p, hp, hpid, hstate⟩
    · rintro ⟨p, hp, hpid, hstate⟩
      exact ⟨p, ⟨hp, hstate⟩, hpid⟩
  cases hcurrent : ps.current with
  | none =>
    rw [hcurrent] at hmem
    exact List.eq_nil_iff_forall_not_mem.mpr fun pid hpid => by simpa using (hmem pid).mp hpid
  | some pid =>
    have hperm : ps.runningPids.Perm [pid] := by
      rw [List.perm_ext_iff_of_nodup hnodup (List.nodup_singleton pid)]
      intro x
      rw [hmem, hcurrent]
      simp
    exact List.perm_singleton.mp hperm

lemma checkQueue_ok {seen queue : List ℕ} (hsub : ∀ pid ∈ queue, pid ∈ ps.queue)
    (hnodup : (seen ++ queue).Nodup) : ps.checkQueue seen queue = .ok () := by
  induction queue generalizing seen with
  | nil => rfl
  | cons pid rest ih =>
    rw [List.forall_mem_cons] at hsub
    obtain ⟨p, hp, hpid, hstate⟩ := (h.queue pid).mp hsub.1
    have hseen : pid ∉ seen := by
      intro hmem
      exact (List.nodup_append.mp hnodup).2.2 pid hmem pid List.mem_cons_self rfl
    have hpcb := h.pcb_eq_some.mpr ⟨hp, hpid⟩
    rw [checkQueue, if_neg hseen, if_neg (by rw [hpcb, Option.map_some, hstate]; simp)]
    refine ih hsub.2 ?_
    rwa [List.append_assoc, List.singleton_append]

/-- The owners have distinct PIDs. -/
lemma owners_pairwise : (ps.owners creating).Pairwise fun o o' => o.1 ≠ o'.1 := by
  unfold owners
  rw [List.pairwise_append, List.pairwise_map]
  refine ⟨h.ascending.imp Nat.ne_of_lt, ?_, ?_⟩
  · cases creating with
    | none => exact .nil
    | some c => exact List.pairwise_singleton _ _
  · intro o ho c hc
    obtain ⟨p, hp, rfl⟩ := List.mem_map.mp ho
    exact Nat.ne_of_lt ((h.creation c (Option.mem_toList.mp hc)).2.2 p hp)

/-- The owners share no frame. -/
lemma owners_nodup : ((ps.owners creating).flatMap Prod.snd).Nodup := by
  rw [List.nodup_flatMap]
  refine ⟨fun o ho => (h.owns o ho).nodup, ?_⟩
  refine h.owners_pairwise.imp_of_mem ?_
  intro o o' ho ho' hne ppn hppn hppn'
  have howner := ((h.owns o ho).mem_iff ppn).mp hppn
  rw [((h.owns o' ho').mem_iff ppn).mp hppn'] at howner
  exact hne (Option.some.inj howner).symm

end Ok

/-- The marks of the frames that were claimed. -/
structure Marked (f : Frames) (claimed : List UInt32) (expected : List ℕ) : Prop where
  length : expected.length = f.owners.length
  mark : ∀ i < f.owners.length,
    expected[i]? = if f.ppn i ∈ claimed then f.owners[i]? else some 0

lemma Marked.claim {f : Frames} (hf : f.Numbered) {claimed : List UInt32} {expected : List ℕ}
    (h : Marked f claimed expected) {ppn : UInt32} (hnew : ppn ∉ claimed)
    (howner : f.owner ppn = some pid) :
    ∃ expected', claimFrame f.base pid expected ppn = .ok expected' ∧
      Marked f (claimed ++ [ppn]) expected' := by
  obtain ⟨i, rfl, hi⟩ := (Frames.owner_eq_some hf).mp howner
  obtain ⟨hlt, -⟩ := List.getElem?_eq_some_iff.mp hi
  have hppn := Frames.toNat_ppn hf hlt
  have hsub : (f.ppn i).toNat - f.base.toNat = i := by omega
  have hbase : ¬f.ppn i < f.base := by
    rw [UInt32.lt_iff_toNat_lt]
    omega
  refine ⟨expected.set i pid, ?_, ?_, ?_⟩
  · unfold claimFrame
    rw [if_neg hbase, hsub, h.mark i hlt, if_neg hnew]
    rfl
  · rw [List.length_set, h.length]
  · intro j hj
    rw [List.getElem?_set, h.length]
    by_cases hij : i = j
    · subst hij
      rw [if_pos rfl, if_pos hlt, if_pos (List.mem_append_right _ (List.mem_singleton_self _)), hi]
    · have hne : f.ppn j ≠ f.ppn i := by
        intro heq
        have hj' := Frames.toNat_ppn hf hj
        rw [heq] at hj'
        omega
      rw [if_neg hij, h.mark j hj]
      simp [hne]

lemma Marked.claimAll {f : Frames} (hf : f.Numbered) {claimed ppns : List UInt32}
    {expected : List ℕ} (h : Marked f claimed expected) (hnew : (claimed ++ ppns).Nodup)
    (howner : ∀ ppn ∈ ppns, f.owner ppn = some pid) :
    ∃ expected', ppns.foldlM (claimFrame f.base pid) expected = .ok expected' ∧
      Marked f (claimed ++ ppns) expected' := by
  induction ppns generalizing claimed expected with
  | nil => exact ⟨expected, rfl, by rwa [List.append_nil]⟩
  | cons ppn rest ih =>
    rw [List.forall_mem_cons] at howner
    have hfresh : ppn ∉ claimed := by
      intro hmem
      exact (List.nodup_append.mp hnew).2.2 ppn hmem ppn List.mem_cons_self rfl
    obtain ⟨next, hnext, hmarked⟩ := h.claim hf hfresh howner.1
    rw [← List.singleton_append, ← List.append_assoc] at hnew ⊢
    obtain ⟨last, hlast, hmarked⟩ := ih hmarked hnew howner.2
    exact ⟨last, by rw [List.singleton_append, List.foldlM_cons, hnext]; exact hlast, hmarked⟩

lemma Marked.claimFrames {f : Frames} (hf : f.Numbered) {owners : List (ℕ × List UInt32)}
    {claimed : List UInt32} {expected : List ℕ} (h : Marked f claimed expected)
    (hnew : (claimed ++ owners.flatMap Prod.snd).Nodup)
    (howner : ∀ o ∈ owners, ∀ ppn ∈ o.2, f.owner ppn = some o.1) :
    ∃ expected', Processes.claimFrames f.base owners expected = .ok expected' ∧
      Marked f (claimed ++ owners.flatMap Prod.snd) expected' := by
  induction owners generalizing claimed expected with
  | nil => exact ⟨expected, rfl, by rwa [List.flatMap_nil, List.append_nil]⟩
  | cons o rest ih =>
    rw [List.forall_mem_cons] at howner
    rw [List.flatMap_cons, ← List.append_assoc] at hnew ⊢
    obtain ⟨next, hnext, hmarked⟩ := h.claimAll hf (List.nodup_append.mp hnew).1 howner.1
    obtain ⟨last, hlast, hmarked⟩ := ih hmarked hnew howner.2
    refine ⟨last, ?_, hmarked⟩
    unfold Processes.claimFrames at hlast ⊢
    rw [List.foldlM_cons, hnext]
    exact hlast

/-- The invariants are what the check of the process table asks for. -/
theorem check_of_ok (h : ps.Ok images creating) : ps.check images creating = .ok () := by
  have hpcbs : checkPcbs images 0 ps.pcbs = .ok () :=
    h.checkPcbs_ok (fun _ hp => hp) (fun p hp => (h.range p hp).1) h.ascending
  have hqueue : ps.checkQueue [] ps.queue = .ok () :=
    h.checkQueue_ok (fun _ hp => hp) (by simpa using h.queue_nodup)
  have hstart : Marked ps.frames [] (List.replicate ps.frames.count 0) := by
    constructor
    · exact List.length_replicate
    · intro i hi
      rw [if_neg (List.not_mem_nil), List.getElem?_replicate]
      exact if_pos hi
  have hclaimed := h.owners_nodup
  rw [← List.nil_append ((ps.owners creating).flatMap Prod.snd)] at hclaimed
  obtain ⟨expected, hexpected, hmarked⟩ := hstart.claimFrames h.numbered hclaimed
    (fun o ho ppn hppn => ((h.owns o ho).mem_iff ppn).mp hppn)
  rw [List.nil_append] at hmarked
  have hrunning := h.runningPids_eq
  unfold check
  rw [hpcbs, hqueue, hexpected]
  simp only [bind, Except.bind]
  rw [if_neg, if_neg, if_neg, if_neg, if_neg]
  · rfl
  · rintro ⟨i, hi, hne⟩
    rw [hmarked.length] at hi
    rw [Frames.owner_ppn h.numbered hi, hmarked.mark i hi] at hne
    by_cases hclaimed : ps.frames.ppn i ∈ (ps.owners creating).flatMap Prod.snd
    · rw [if_pos hclaimed] at hne
      exact hne rfl
    · rw [if_neg hclaimed, List.getElem?_eq_getElem hi] at hne
      have howner : ps.frames.owner (ps.frames.ppn i) = some ps.frames.owners[i] := by
        rw [Frames.owner_ppn h.numbered hi, List.getElem?_eq_getElem hi]
      rcases h.owned _ _ howner with hzero | ⟨o, ho, hpid⟩
      · rw [hzero] at hne
        exact hne rfl
      · rw [← hpid] at howner
        exact hclaimed (List.mem_flatMap.mpr ⟨o, ho, ((h.owns o ho).mem_iff _).mpr howner⟩)
  · rintro ⟨c, hc, hbad⟩
    obtain ⟨hpos, himages, hnew⟩ := h.creation c hc
    rcases hbad with hzero | hused | hlarge
    · omega
    · obtain ⟨p, hp⟩ := Option.isSome_iff_exists.mp hused
      obtain ⟨hp, hpid⟩ := h.pcb_eq_some.mp hp
      have hlt := hnew p hp
      omega
    · omega
  · rintro ⟨p, hp, hstate, hnot⟩
    exact hnot ((h.queue p.pid).mpr ⟨p, hp, rfl, hstate⟩)
  · rw [hrunning]
    cases ps.current <;> simp
  · rw [hrunning]
    cases ps.current <;> simp

end Processes

end SystemScope.Os
