import SystemScope.Os.Write

/-!
# The two walks agree

The walk with which the kernel reads a buffer of a process is that of the CPU for a load in user
mode: they ask for the same entries in the same order and give the same address (`translate_eq`),
and the `walk` stages of a `write` are this walk for one page of the buffer after the other
(`user_copy_walk`).
-/

namespace SystemScope.Os

open Elf Rv32i Sv32 Checks

variable {σ : Type}

/-- A reader of entries that never refuses, as the CPU asks it. -/
def cpuReader (readPte : ℕ → σ → UInt32 × σ) (addr : UInt64) (s : σ) : Option UInt32 × σ :=
  (some (readPte addr.toNat s).1, (readPte addr.toNat s).2)

/-- Both walks find the entry of an address at the same place. -/
lemma toNat_pteAddress_eq (table va : UInt32) {level : UInt8} (hlevel : level = 0 ∨ level = 1) :
    (Sv32.pteAddress table va level).toNat = Os.pteAddress table va level := by
  rcases hlevel with rfl | rfl
  · exact (toNat_pteAddress (vpn0_lt _) (toNat_vpn_zero va)).trans (pteAddress_zero table va).symm
  · exact (toNat_pteAddress (vpn1_lt _) (toNat_vpn_one va)).trans (pteAddress_one table va).symm

/-- The two walks agree from a table on. -/
lemma translateFrom_eq (va : UInt32) (readPte : ℕ → σ → UInt32 × σ) {level : ℕ} (hlevel : level ≤ 1)
    (table : UInt32) (s : σ) :
    Os.translateFrom va readPte level table s =
      ((Sv32.translateFrom userLoad va (cpuReader readPte) level table s).1.toOption.map
        UInt64.toNat,
        (Sv32.translateFrom userLoad va (cpuReader readPte) level table s).2) := by
  induction level using Nat.strong_induction_on generalizing table s with
  | _ level ih =>
    have hbits : UInt8.ofNat level = 0 ∨ UInt8.ofNat level = 1 := by
      rcases Nat.le_one_iff_eq_zero_or_eq_one.mp hlevel with rfl | rfl
      · exact .inl rfl
      · exact .inr rfl
    unfold Os.translateFrom Sv32.translateFrom
    simp only [cpuReader, toNat_pteAddress_eq table va hbits]
    obtain ⟨pte, s⟩ := readPte (Os.pteAddress table va (UInt8.ofNat level)) s
    have hdecided := walkStep_eq pte va hbits
    dsimp only
    cases hstep : step userLoad va (UInt8.ofNat level) pte with
    | leaf pa =>
      rw [hstep] at hdecided
      obtain ⟨ppn, hpage, hpa⟩ := hdecided
      rw [hpage]
      dsimp only
      rw [← hpa]
      rfl
    | pageFault =>
      rw [hstep] at hdecided
      rw [show walkStep pte (UInt8.ofNat level) va = .fault from hdecided]
      rfl
    | next table =>
      rw [hstep] at hdecided
      rw [show walkStep pte (UInt8.ofNat level) va = .next table from hdecided]
      cases level with
      | zero => rfl
      | succ level => exact ih level (Nat.lt_succ_self level) (by omega) table s

/-- The walk of the kernel is that of the CPU for a load in user mode.  The reader may keep a record
of what it is asked for. -/
lemma translate_eq {root : UInt32} (hroot : root.toNat < 2 ^ 22) (va : UInt32)
    (readPte : ℕ → σ → UInt32 × σ) (s : σ) :
    Os.translate root va readPte s =
      ((sv32Translate (Pte.satp root) .user false false .load va
        (cpuReader readPte) s).1.toOption.map
          UInt64.toNat,
        (sv32Translate (Pte.satp root) .user false false .load va (cpuReader readPte) s).2) := by
  obtain ⟨hmode, hppn⟩ := satp_fields hroot
  unfold sv32Translate
  rw [if_neg (by simp [hmode]), hppn]
  exact translateFrom_eq va readPte (Nat.le_refl 1) root s

/-! ## The stages of a `write` -/

/-- A bus that answers the read of an entry with four bytes. -/
def AnswersEntries (respond : Responder σ) : Prop :=
  ∀ w addr, ∃ bs, (respond w (.read addr 4)).1 = .data bs ∧ bs.length = 4

/-- The reader of entries that a bus is. -/
def entryReader (respond : Responder σ) (addr : ℕ) (w : σ) : UInt32 × σ :=
  (match (respond w (.read addr 4)).1 with
    | .data bs => word bs 0
    | .written => 0,
    (respond w (.read addr 4)).2)

namespace Buffer

variable (b : Buffer)

/-- The addresses of the pages of a buffer from one on. -/
def pageVas (i : ℕ) : List UInt32 :=
  (List.range' i (b.pages - i)).map fun j => UInt32.ofNat (b.pageOf j * pageBytes)

/-- Pages are translated in order, up to one that faults. -/
def translatePages (root : UInt32) (readPte : ℕ → σ → UInt32 × σ) :
    List UInt32 → σ → Option (List ℕ) × σ
  | [], s => (some [], s)
  | va :: rest, s =>
    match Os.translate root va readPte s with
    | (none, s) => (none, s)
    | (some pa, s) =>
      match translatePages root readPte rest s with
      | (none, s) => (none, s)
      | (some pas, s) => (some (pa :: pas), s)

/-- What comes after the walks: the buffer is read at the physical pages, or the call fails. -/
def copyStage (pages : List UInt32) : Option (List ℕ) → Stage
  | none => .return_ b.sepc (neg efault)
  | some pas => .output b (pages ++ pas.map fun pa => UInt32.ofNat (pa / pageBytes)) 0

end Buffer

namespace Buffer

variable {b : Buffer}

lemma pageVas_of_lt {i : ℕ} (hi : i < b.pages) :
    b.pageVas i = UInt32.ofNat (b.pageOf i * pageBytes) :: b.pageVas (i + 1) := by
  obtain ⟨left, hleft⟩ := Nat.exists_eq_add_of_lt hi
  unfold pageVas
  rw [show b.pages - i = left + 1 by omega, show b.pages - (i + 1) = left by omega,
    List.range'_succ, List.map_cons]

lemma pageVas_of_le {i : ℕ} (hi : b.pages ≤ i) : b.pageVas i = [] := by
  unfold pageVas
  rw [Nat.sub_eq_zero_of_le hi]
  rfl

/-- The page that was walked first comes first. -/
lemma copyStage_append (b : Buffer) (pages : List UInt32) (pa : ℕ) (rest : Option (List ℕ)) :
    b.copyStage (pages ++ [UInt32.ofNat (pa / pageBytes)]) rest =
      b.copyStage pages (rest.map (pa :: ·)) := by
  cases rest with
  | none => rfl
  | some pas =>
    show Stage.output b (pages ++ [UInt32.ofNat (pa / pageBytes)] ++ _) 0 = _
    rw [List.append_assoc]
    rfl

end Buffer

/-- What a translation means for the page it was made for. -/
def pageStep : Option ℕ → WalkStep
  | none => .fault
  | some pa => .page (UInt32.ofNat (pa / pageBytes))

/-- An entry at level 0 is never a pointer. -/
lemma walkStep_zero_ne_next (pte va table : UInt32) : walkStep pte 0 va ≠ .next table := by
  unfold walkStep
  dsimp only
  split_ifs <;> simp_all

namespace Execution

variable {config : KernelConfig} {respond : Responder σ} (hrespond : AnswersEntries respond)
  {m : Model} {root : UInt32} (hroot : m.runningRoot = .ok root) {b : Buffer} {pages : List UInt32}
  {va : UInt32}

include hrespond hroot

/-- One entry is read, which decides what comes next. -/
lemma Reaches.entryRead (hva : b.pageVa pages.length = .ok va) (table : UInt32) (level : UInt8)
    (w : σ) :
    Reaches config respond { model := m, op := some (.new (.walk b pages table level)), world := w }
      { model := m
        op := some (.new (walkNext root b pages
          (walkStep (entryReader respond (Os.pteAddress table va level) w).1 level va)))
        world := (entryReader respond (Os.pteAddress table va level) w).2 } := by
  obtain ⟨bs, hbs, hlength⟩ := hrespond w (Os.pteAddress table va level)
  have haccess : (ProcOp.new (.walk b pages table level)).access config =
      .ok (some (.read (Os.pteAddress table va level) 4)) := bind_eq_ok.mpr ⟨va, hva, rfl⟩
  have hdata : ProcOp.answered (.read (Os.pteAddress table va level) 4)
      (respond w (.read (Os.pteAddress table va level) 4)).1 [] = .ok bs := by
    rw [hbs]
    exact if_neg (not_not.mpr hlength)
  have hstep : Exchanged config respond (.new (.walk b pages table level)) w
      { stage := .walk b pages table level, step := 1, data := bs }
      (respond w (.read (Os.pteAddress table va level) 4)).2 :=
    Exchanged.of_answered haccess hdata rfl fun hlt => absurd hlt (Nat.lt_irrefl 1)
  obtain ⟨notes, hadvance⟩ := advance_walk config hroot hva table level 1 bs
  unfold entryReader
  rw [hbs]
  exact .single (hstep.next_of_finished rfl hadvance)

lemma Reaches.pageFrom (hva : b.pageVa pages.length = .ok va) (haligned : va.toNat % pageBytes = 0)
    {level : ℕ} (hlevel : level ≤ 1) (table : UInt32) (w : σ) :
    Reaches config respond
      { model := m, op := some (.new (.walk b pages table (UInt8.ofNat level))), world := w }
      { model := m
        op := some (.new (walkNext root b pages
          (pageStep (Os.translateFrom va (entryReader respond) level table w).1)))
        world := (Os.translateFrom va (entryReader respond) level table w).2 } := by
  induction level using Nat.strong_induction_on generalizing table w with
  | _ level ih =>
    have hread : Reaches config respond _ _ :=
      Reaches.entryRead hrespond hroot hva table (UInt8.ofNat level) w
    unfold Os.translateFrom
    generalize entryReader respond (Os.pteAddress table va (UInt8.ofNat level)) w = entry at hread ⊢
    obtain ⟨pte, w'⟩ := entry
    dsimp only at hread ⊢
    cases hstep : walkStep pte (UInt8.ofNat level) va with
    | fault =>
      rw [hstep] at hread
      exact hread
    | page ppn =>
      rw [hstep] at hread
      have hppn : pageStep (some (ppn.toNat * pageBytes + va.toNat % pageBytes)) = .page ppn := by
        show WalkStep.page
          (UInt32.ofNat ((ppn.toNat * pageBytes + va.toNat % pageBytes) / pageBytes)) = _
        rw [haligned, Nat.add_zero, Nat.mul_div_cancel _ (by decide), UInt32.ofNat_toNat]
      dsimp only
      rw [hppn]
      exact hread
    | next table' =>
      rw [hstep] at hread
      cases level with
      | zero => exact absurd hstep (walkStep_zero_ne_next pte va table')
      | succ level =>
        obtain rfl : level = 0 := by omega
        exact hread.trans (ih 0 Nat.one_pos (Nat.zero_le 1) table' w')

/-- A page of a buffer is walked. -/
lemma Reaches.page (hb : b.Valid) (hlt : pages.length < b.pages) (w : σ) :
    let va := UInt32.ofNat (b.pageOf pages.length * pageBytes)
    Reaches config respond { model := m, op := some (.new (.walk b pages root 1)), world := w }
      { model := m
        op := some (.new (walkNext root b pages
          (pageStep (Os.translate root va (entryReader respond) w).1)))
        world := (Os.translate root va (entryReader respond) w).2 } := by
  obtain ⟨va, hva, hpage⟩ := hb.pageVa hlt
  rw [← hpage, UInt32.ofNat_toNat]
  exact Reaches.pageFrom hrespond hroot hva (hpage ▸ Nat.mul_mod_left _ _) (Nat.le_refl 1) root w

/-- The pages of a buffer from one on are walked, up to one that faults. -/
lemma Reaches.pagesFrom (hb : b.Valid) {k : ℕ} (hk : pages.length + k + 1 = b.pages) (w : σ) :
    Reaches config respond { model := m, op := some (.new (.walk b pages root 1)), world := w }
      { model := m
        op := some (.new (b.copyStage pages
          (Buffer.translatePages root (entryReader respond) (b.pageVas pages.length) w).1))
        world :=
          (Buffer.translatePages root (entryReader respond) (b.pageVas pages.length) w).2 } := by
  induction k using Nat.strong_induction_on generalizing pages w with
  | _ k ih =>
    have hread : Reaches config respond _ _ := Reaches.page hrespond hroot hb
      (show pages.length < b.pages by omega) w
    rw [Buffer.pageVas_of_lt (by omega)]
    unfold Buffer.translatePages
    generalize Os.translate root (UInt32.ofNat (b.pageOf pages.length * pageBytes))
      (entryReader respond) w = result at hread ⊢
    obtain ⟨pa, w'⟩ := result
    cases pa with
    | none => exact hread
    | some pa =>
      unfold pageStep walkNext at hread
      dsimp only at hread ⊢
      cases k with
      | zero =>
        rw [if_pos (by omega)] at hread
        rw [Buffer.pageVas_of_le (by omega)]
        exact hread
      | succ k =>
        rw [if_neg (by omega)] at hread
        have hlength : (pages ++ [UInt32.ofNat (pa / pageBytes)]).length = pages.length + 1 :=
          List.length_append
        have hrest := hread.trans (ih k k.lt_succ_self (by omega) w')
        rw [hlength, Buffer.copyStage_append] at hrest
        generalize Buffer.translatePages root (entryReader respond)
          (b.pageVas (pages.length + 1)) w' =
          results at hrest ⊢
        obtain ⟨pas, w''⟩ := results
        cases pas with
        | none => exact hrest
        | some pas => exact hrest

end Execution

/-- The user copy of the kernel walks as the CPU does for a load in user mode: the same result and
the same entries in the same order, whatever the reader records; and the `walk` stages of a `write`
are this walk of the pages of the buffer in order, up to one that faults, and ask the bus for
nothing else. -/
theorem user_copy_walk {σ : Type} {root : UInt32} (hroot : root.toNat < 2 ^ 22) :
    (∀ (va : UInt32) (readPte : ℕ → σ → UInt32 × σ) (s : σ),
      Os.translate root va readPte s =
        ((sv32Translate (Pte.satp root) .user false false .load va
          (cpuReader readPte) s).1.toOption.map
            UInt64.toNat,
          (sv32Translate (Pte.satp root) .user false false .load va (cpuReader readPte) s).2)) ∧
    ∀ (config : KernelConfig) (respond : Responder σ), AnswersEntries respond →
      ∀ (m : Model) (sepc buf n : UInt32) (b : Buffer), m.runningRoot = .ok root →
        Buffer.new sepc buf n = some b → ∀ w : σ,
          let result := Buffer.translatePages root (entryReader respond) (b.pageVas 0) w
          Execution.Reaches config respond
            { model := m, op := some (.new (.walk b [] root 1)), world := w }
            { model := m, op := some (.new (b.copyStage [] result.1)), world := result.2 } := by
  refine ⟨translate_eq hroot, ?_⟩
  intro config respond hrespond m sepc buf n b hrunning hnew w
  obtain ⟨hb, -⟩ := Buffer.new_eq_some hnew
  have hpages : ([] : List UInt32).length + (b.pages - 1) + 1 = b.pages := by
    unfold Buffer.pages
    exact Nat.add_right_cancel_iff.mpr (Nat.zero_add _)
  exact Execution.Reaches.pagesFrom hrespond hrunning hb hpages w

/-- A pointer and a leaf. -/
def copyEntries : List (ℕ × UInt32) := [(0x80400000, 0x20100401), (0x80401040, 0x20100853)]

/-- A memory that records what it is asked for. -/
def recordingMemory : Responder (List Access) := fun asked access =>
  (.data (wordBytes ((copyEntries.lookup access.addr).getD 0)), asked ++ [access])

/-- A process at the root of these entries. -/
def copyingModel : Model :=
  { source := .plan { layout := smallLayout, images := [] }
    entries := 1
    procs :=
      { pcbs :=
          [{ pid := 1, state := .running, context := none, root := 0x80400, tables := [],
             regions := [] }]
        queue := [], current := some 1, frames := framePool (smallConfig 0x80000000) }
    life := .up }

theorem user_copy_walk_small :
    let b : Buffer := { sepc := 0, buf := 0x10000, n := 4 }
    Execution.Reaches (smallConfig 0x80000000) recordingMemory
      { model := copyingModel, op := some (.new (.walk b [] 0x80400 1)), world := [] }
      { model := copyingModel, op := some (.new (.output b [0x80402] 0))
        world := [.read 0x80400000 4, .read 0x80401040 4] } := by
  have hresult : Buffer.translatePages 0x80400 (entryReader recordingMemory)
      (Buffer.pageVas { sepc := 0, buf := 0x10000, n := 4 } 0) [] =
      (some [0x80402000], [.read 0x80400000 4, .read 0x80401040 4]) := by decide +kernel
  have hwalk := (@user_copy_walk _ 0x80400 (by decide)).2 (smallConfig 0x80000000) recordingMemory
    (fun _ _ => ⟨_, rfl, length_wordBytes _⟩) copyingModel 0 0x10000 4 _ rfl rfl []
  rw [hresult] at hwalk
  exact hwalk

end SystemScope.Os
