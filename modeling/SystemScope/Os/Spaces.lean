import SystemScope.Os.Contexts
import SystemScope.Os.CreationBounds

/-!
# The spaces of the processes

Every process that has not ended has the space that was built for it (`Processes.Housed`), in every
state that a kernel reaches.
-/

namespace SystemScope.Os

open Elf Checks

variable {config : KernelConfig}

lemma Created.laid {layout : UserLayout} {boot : BootImage} {s : Space}
    (h : Created config layout boot s) (hvalid : ValidLayout config layout)
    (hfits : boot.Fits config layout) : ∃ mapped, s.Laid config layout boot s.frames mapped := by
  obtain ⟨mapped, hbuilt⟩ := Space.built_of_build h.built
  exact ⟨mapped,
    { built := hbuilt
      nodup := (h.ascending hvalid).imp UInt32.ne_of_lt
      pool := fun f hf => h.inPool hvalid hf
      valid := hvalid
      fit := hfits.pages
      perms := hfits.perms
      noConflict := h.noConflict }⟩

/-- The space of a creation whose copies stay in their pages is sound. -/
lemma Created.sound {layout : UserLayout} {boot : BootImage} {s : Space}
    (h : Created config layout boot s) (hvalid : ValidLayout config layout)
    (hfits : boot.Fits config layout) (hin : CopiesInPage boot.image) :
    ∃ mapped, s.Sound config layout boot s.frames mapped := by
  obtain ⟨mapped, hlaid⟩ := h.laid hvalid hfits
  exact ⟨mapped, { hlaid with first := Space.first_of_build h.built, inPage := hin }⟩

/-- The process has the page table and the regions of a space that was built for an image. -/
structure Pcb.Has (config : KernelConfig) (p : Pcb) (s : Space) : Prop where
  laid : ∃ layout boot mapped, s.Laid config layout boot s.frames mapped
  root : p.root = s.root
  tables : p.tables = s.tables
  regions : p.regions = s.regions

/-- Every process that has not ended has its space. -/
def Processes.Housed (config : KernelConfig) (ps : Processes) : Prop :=
  ∀ p ∈ ps.pcbs, ¬p.state.IsTerminal → ∃ s, p.Has config s

namespace Processes

variable {ps ps' : Processes} {events : List ProcessEvent} {e : ProcessEvent}

lemma Touches.housed (h : Touches ps ps' e) (hhoused : ps.Housed config)
    (hadmitted : ∀ pcb, e = .admitted pcb → ∃ s, pcb.Has config s) : ps'.Housed config := by
  have hchanged {q q' : Pcb} (hpcbs : Changed ps ps' q q')
      (hq' : ¬q'.state.IsTerminal → ∃ s, q'.Has config s) : ps'.Housed config := by
    intro p hp hlive
    rcases (hpcbs p).mp hp with ⟨hp, -⟩ | rfl
    · exact hhoused p hp hlive
    · exact hq' hlive
  have hsame {q q' : Pcb} (hq : q ∈ ps.pcbs) (hpcbs : Changed ps ps' q q')
      (hlive : ¬q.state.IsTerminal) (hroot : q'.root = q.root) (htables : q'.tables = q.tables)
      (hregions : q'.regions = q.regions) : ps'.Housed config := by
    obtain ⟨s, hs⟩ := hhoused q hq hlive
    exact hchanged hpcbs fun _ =>
      ⟨s, hs.laid, hroot.trans hs.root, htables.trans hs.tables, hregions.trans hs.regions⟩
  cases h with
  | reserved hpcbs =>
    unfold Housed
    rwa [hpcbs]
  | admitted hfresh hpcbs =>
    unfold Housed
    rw [hpcbs]
    refine List.forall_mem_append.mpr ⟨hhoused, List.forall_mem_singleton.mpr ?_⟩
    exact fun _ => hadmitted _ rfl
  | yielded hp hrunning hpcbs => exact hsame hp hpcbs (by rw [hrunning]; exact id) rfl rfl rfl
  | ended hp hrunning hpcbs hterminal => exact hchanged hpcbs fun hlive => absurd hterminal hlive
  | dispatched hp hcontext hpcbs hready =>
    exact hsame hp hpcbs (by rw [hready]; exact id) rfl rfl rfl

/-- Processes that are admitted with their spaces keep them. -/
lemma Undergoes.housed (h : ps.Undergoes events ps') (htidy : ps.Tidy) (hhoused : ps.Housed config)
    (hadmitted : ∀ pcb, .admitted pcb ∈ events → ∃ s, pcb.Has config s) : ps'.Housed config := by
  have hall := (h.invariant (P := fun before ps' =>
    (∀ pcb, .admitted pcb ∈ before → ∃ s, pcb.Has config s) → ps'.Housed config) htidy
    (fun _ => hhoused) ?_).2
  · exact hall hadmitted
  · intro before e ps' ps'' _ ih htouches hall
    refine htouches.housed (ih fun pcb hmem => hall pcb (List.mem_append_left _ hmem)) ?_
    rintro pcb rfl
    exact hall pcb (List.mem_append_right _ (List.mem_singleton_self _))

end Processes

/-- A process that a stage admits has the space that the stage built. -/
lemma Stage.Fits.created {m : Model} {stage : Stage} (h : stage.Fits config m)
    (hvalid : m.source.Valid config) {pcb : Pcb} (hpcb : m.created stage = some pcb) :
    ∃ s, stage.space = some s ∧ pcb.Has config s := by
  cases stage with
  | create pid space =>
    obtain ⟨plan, boot, hsource, -, -, hboot, hcreated, -⟩ := h
    unfold Model.created at hpcb
    rw [hsource] at hpcb hvalid
    have hplan : plan.Valid config := hvalid
    obtain ⟨boot', -, rfl⟩ := Option.map_eq_some_iff.mp hpcb
    have hfits := hplan.images boot (List.mem_of_getElem? hboot)
    exact ⟨space, rfl, ⟨_, _, hcreated.laid hplan.layout hfits⟩, rfl, rfl, rfl⟩
  | load cursor headers image space =>
    obtain ⟨disk, entry, hsource, hcursor, hentry, hparse, hcreated, -⟩ := h
    rw [hsource] at hvalid
    have hdisk : disk.Valid config := hvalid
    cases hpcb
    obtain ⟨hfits, -⟩ := fits_stagedImage hdisk (hcursor.entry_fits hsource hentry) hparse
    exact ⟨space, rfl, ⟨_, _, hcreated.laid hdisk.layout hfits⟩, rfl, rfl, rfl⟩
  | _ => cases hpcb

namespace ModeledKernel

variable {c c' c₀ : ModeledKernel config} {m m' : Model}

/-- A step keeps the spaces of the processes. -/
lemma Sound.housed (h : c.Sound) (hm : c.model = some m) {events : List ProcessEvent}
    (hturn : Turn c m c' m' events) (hhoused : m.procs.Housed config) : m'.procs.Housed config := by
  refine hturn.undergoes.housed (h.ok hm).tidy hhoused ?_
  intro pcb hmem
  rcases hturn.kind _ hmem with ⟨-, hboot⟩ | ⟨o, -, hfits, ⟨-, hboot⟩ | ⟨-, htrap⟩⟩
  · cases hboot
  · obtain ⟨s, -, hs⟩ := hfits.created (h.valid m hm) hboot
    exact ⟨s, hs⟩
  · exact htrap.elim

/-- In every state that a kernel reaches, the processes have their spaces. -/
theorem Validated.housed (h₀ : c₀.Validated) {stages : List Stage} (h : Passes c₀ stages c)
    (hm : c.model = some m) : m.procs.Housed config := by
  induction h generalizing m with
  | start =>
    obtain ⟨-, -, hnone⟩ := h₀.empty hm
    unfold Processes.Housed
    rw [hnone]
    exact nofun
  | @event stages c c' hpasses delivery env calls hc ih =>
    have hsound := h₀.sound.passes hpasses
    obtain ⟨m', events, hm', hturn⟩ := hsound.turn_into hm hc
    exact hsound.housed hm' hturn (ih hm')

end ModeledKernel

end SystemScope.Os
