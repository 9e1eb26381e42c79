import SystemScope.Rv32i.Reachable

/-!
# The format of a CPU snapshot

Every part of the three schemas is read back exactly as it is written (`Reads`), whatever follows
it: tables of codes, tagged unions, optional fields, the registers and the CSR blocks.  Nothing is
checked here beyond tags; schema 3 is decoded to records (`StateRecord`, `M3Record`) first.
-/

namespace SystemScope.Rv32i

open SnapshotFields Restore

/-! ## Tables -/

lemma lookup_eq_some {β : Type} {variants : List (UInt8 × β)}
    (hnodup : (variants.map Prod.fst).Nodup)
    {tag : UInt8} {x : β} : variants.lookup tag = some x ↔ (tag, x) ∈ variants := by
  induction variants with
  | nil => simp
  | cons v variants ih =>
    obtain ⟨t, y⟩ := v
    rw [List.map_cons, List.nodup_cons] at hnodup
    rw [List.lookup_cons, List.mem_cons]
    by_cases htag : tag = t
    · subst htag
      have hnot : (tag, x) ∉ variants := fun hmem =>
        hnodup.1 (List.mem_map.mpr ⟨_, hmem, rfl⟩)
      simp [hnot, eq_comm]
    · have hb : (tag == t) = false := beq_eq_false_iff_ne.mpr htag
      rw [hb]
      simp [htag, ih hnodup.2]

/-- A table without repetitions is read back by position. -/
lemma getElem?_eq_some_iff_idxOf {α : Type} [DecidableEq α] {table : List α} (hnodup : table.Nodup)
    {i : ℕ} {x : α} : table[i]? = some x ↔ x ∈ table ∧ i = table.idxOf x := by
  constructor
  · intro h
    obtain ⟨hlt, rfl⟩ := List.getElem?_eq_some_iff.mp h
    exact ⟨List.getElem_mem hlt, (hnodup.idxOf_getElem i hlt).symm⟩
  · rintro ⟨hmem, rfl⟩
    rw [List.getElem?_eq_getElem (List.idxOf_lt_length_of_mem hmem), List.getElem_idxOf]

/-! ## Fields -/

lemma get_reads {α : Type} {field : SnapshotField α}
    (h : Reads field.read (fun _ => True) field.write) :
    Reads (get field) (fun _ => True) field.write := h.mapError _

variable [SnapshotFields]

lemma flag_reads (h : Strict) : Reads flag (fun _ => True) bool.write := h.bool.mapError _

lemma tagged_reads (h : Strict) {α : Type} {what : String} {variants : List (UInt8 × Restore α)}
    {P : α → Prop} {tag : α → UInt8} {body : α → Bytes}
    (hnodup : (variants.map Prod.fst).Nodup)
    (hv : ∀ v ∈ variants, Reads v.2 (fun x => P x ∧ tag x = v.1) body)
    (htag : ∀ x, P x → tag x ∈ variants.map Prod.fst) :
    Reads (tagged what variants) P (fun x => u8.write (tag x) ++ body x) := by
  intro bs x rest
  unfold tagged
  rw [(get_reads h.u8).bind_eq_ok]
  constructor
  · rintro ⟨t, r, -, rfl, hread⟩
    cases hlookup : variants.lookup t with
    | none =>
      rw [hlookup] at hread
      cases hread
    | some d =>
      rw [hlookup] at hread
      have hmem := (lookup_eq_some hnodup).mp hlookup
      obtain ⟨⟨hx, rfl⟩, rfl⟩ := (hv _ hmem _ _ _).mp hread
      exact ⟨hx, (List.append_assoc ..).symm⟩
  · rintro ⟨hx, rfl⟩
    obtain ⟨⟨t, d⟩, hmem, ht⟩ := List.mem_map.mp (htag x hx)
    dsimp only at ht
    subst ht
    refine ⟨tag x, body x ++ rest, trivial, List.append_assoc .., ?_⟩
    rw [(lookup_eq_some hnodup).mpr hmem]
    exact (hv _ hmem _ _ _).mpr ⟨⟨hx, rfl⟩, rfl⟩

/-! ## Registers, causes and outcomes -/

/-- An optional value, after a flag. -/
def optionTag {α : Type} : Option α → UInt8
  | none => 0
  | some _ => 1

lemma option_reads (h : Strict) (what : String) {α : Type} {d : Restore α} {P : α → Prop}
    {w : α → Bytes} (hd : Reads d P w) :
    Reads (tagged what [(0, pure none), (1, d >>= fun x => pure (some x))])
      (fun x => ∀ y, x = some y → P y)
      (fun x => u8.write (optionTag x) ++ x.elim [] w) := by
  refine tagged_reads h (by simp) ?_ ?_
  · intro v hv
    simp only [List.mem_cons, List.not_mem_nil, or_false] at hv
    rcases hv with rfl | rfl
    · refine Reads.variant none (by simp) rfl rfl ?_
      rintro (_ | y) - ht
      · rfl
      · cases ht
    · refine Reads.variantMap hd some (fun y hy => ⟨by simp [hy], rfl⟩) (fun _ => rfl) ?_
      rintro (_ | y) hy ht
      · cases ht
      · exact ⟨y, hy y rfl, rfl⟩
  · rintro (_ | y) - <;> simp [optionTag]

lemma readPa_reads (h : Strict) : Reads readPa (fun _ => True) writePa := by
  refine (option_reads h _ (get_reads h.u64)).congr (by simp) ?_
  rintro (_ | pa) -
  · exact List.append_nil _
  · rfl

lemma readInsn_reads (h : Strict) : Reads readInsn (fun _ => True)
    (fun insn => u8.write (optionTag insn) ++ insn.elim [] u32.write) :=
  (option_reads h _ (get_reads h.u32)).congr (by simp) fun _ _ => rfl

lemma readRegister_reads (h : Strict) :
    Reads readRegister (fun _ => True) (fun reg => u8.write reg.index) := by
  intro bs reg rest
  unfold readRegister
  rw [(get_reads h.u8).bind_eq_ok]
  constructor
  · rintro ⟨index, r, -, rfl, hread⟩
    cases hreg : Reg.new index with
    | none =>
      rw [hreg] at hread
      cases hread
    | some reg' =>
      rw [hreg] at hread
      obtain ⟨rfl, rfl⟩ := Parser.pure_eq_ok.mp hread
      exact ⟨trivial, by rw [Reg.new_eq_some.mp hreg]⟩
  · rintro ⟨-, rfl⟩
    refine ⟨reg.index, rest, trivial, rfl, ?_⟩
    rw [Reg.new_index]
    exact Parser.pure_eq_ok.mpr ⟨rfl, rfl⟩

/-- A table is read by the position of its entries. -/
lemma coded_reads (h : Strict) {α : Type} [DecidableEq α] {table : List α} (hnodup : table.Nodup)
    (hlength : table.length ≤ 256) {what : String} :
    Reads (coded what table) (· ∈ table) (fun x => u8.write (UInt8.ofNat (table.idxOf x))) := by
  have hcode {code : UInt8} {x : α} : table[code.toNat]? = some x ↔
      x ∈ table ∧ code = UInt8.ofNat (table.idxOf x) := by
    rw [getElem?_eq_some_iff_idxOf hnodup]
    refine and_congr_right fun hmem => ?_
    have hlt : table.idxOf x < 256 := (List.idxOf_lt_length_of_mem hmem).trans_le hlength
    rw [← UInt8.toNat_inj, UInt8.toNat_ofNat_of_lt' hlt]
  intro bs x rest
  unfold coded
  rw [(get_reads h.u8).bind_eq_ok]
  constructor
  · rintro ⟨code, r, -, rfl, hread⟩
    cases hentry : table[code.toNat]? with
    | none =>
      rw [hentry] at hread
      cases hread
    | some y =>
      rw [hentry] at hread
      obtain ⟨rfl, rfl⟩ := Parser.pure_eq_ok.mp hread
      obtain ⟨hmem, rfl⟩ := hcode.mp hentry
      exact ⟨hmem, rfl⟩
  · rintro ⟨hmem, rfl⟩
    refine ⟨_, rest, trivial, rfl, ?_⟩
    rw [hcode.mpr ⟨hmem, rfl⟩]
    exact Parser.pure_eq_ok.mpr ⟨rfl, rfl⟩

lemma readCause_reads (h : Strict) (profile : Rv32iProfile) :
    Reads (readCause profile) (· ∈ causes profile) writeCause := by
  have hnodup : (causes profile).Nodup := by cases profile <;> decide
  have hlength : (causes profile).length ≤ 256 := by cases profile <;> decide
  refine (coded_reads h hnodup hlength).congr (fun _ => Iff.rfl) fun cause hmem => ?_
  -- The codes of schemas 1 and 2 are a prefix of those of schema 3.
  have hindex : (causes profile).idxOf cause = causeTableM3.idxOf cause := by
    revert hmem
    cases profile <;> cases cause <;> decide
  rw [hindex]
  rfl

lemma readCsrOp_reads (h : Strict) :
    Reads readCsrOp (fun _ => True) (fun op => u8.write (UInt8.ofNat (csrOps.idxOf op))) :=
  (coded_reads h (by decide) (by decide)).congr (fun op => by cases op <;> decide)
    fun _ _ => rfl

lemma readRegWrite_reads (h : Strict) :
    Reads readRegWrite (fun _ => True) fun w =>
      u8.write (optionTag w) ++ w.elim [] fun w => u8.write w.rd.index ++ u32.write w.value := by
  have hwrite : Reads
      (do
        let rd ← readRegister
        let value ← get u32
        return { rd, value } : Restore RegWrite)
      (fun _ => True) (fun w => u8.write w.rd.index ++ u32.write w.value) := by
    intro bs w rest
    simp only [(readRegister_reads h).bind_eq_ok, (get_reads h.u32).bind_eq_ok, Parser.pure_eq_ok]
    constructor
    · rintro ⟨rd, r, -, rfl, value, r', -, rfl, rfl, rfl⟩
      exact ⟨trivial, (List.append_assoc ..).symm⟩
    · rintro ⟨-, rfl⟩
      exact ⟨w.rd, _, trivial, List.append_assoc .., w.value, _, trivial, rfl, rfl, rfl⟩
  refine Reads.congr (P := fun _ => True) ?_ (fun _ => Iff.rfl) (fun _ _ => rfl)
  have hoption := option_reads h "rv32 register write" hwrite
  simp only [bind_assoc, pure_bind] at hoption
  exact hoption.congr (by simp) fun _ _ => rfl

lemma readPendingCsr_reads (h : Strict) :
    Reads readPendingCsr (fun _ => True) fun op =>
      u16.write op.csr ++ u8.write (UInt8.ofNat (csrOps.idxOf op.op)) ++ bool.write op.write ++
        u32.write op.operand ++ u8.write op.rd.index ++ u32.write op.nextPc := by
  intro bs op rest
  unfold readPendingCsr
  simp only [(get_reads h.u16).bind_eq_ok, (readCsrOp_reads h).bind_eq_ok,
    (get_reads h.bool).bind_eq_ok, (get_reads h.u32).bind_eq_ok, (readRegister_reads h).bind_eq_ok,
    Parser.pure_eq_ok, List.append_assoc]
  constructor
  · rintro ⟨csr, _, -, rfl, o, _, -, rfl, write, _, -, rfl, operand, _, -, rfl, rd, _, -,
      rfl, nextPc,
      _, -, rfl, rfl, rfl⟩
    exact ⟨trivial, rfl⟩
  · rintro ⟨-, rfl⟩
    exact ⟨op.csr, _, trivial, rfl, op.op, _, trivial, rfl, op.write, _, trivial, rfl,
      op.operand, _,
      trivial, rfl, op.rd, _, trivial, rfl, op.nextPc, _, trivial, rfl, rfl, rfl⟩

/-- The outcomes a profile's schema has. -/
def Outcome.InSchema (profile : Rv32iProfile) : Outcome → Prop
  | .exec (.effect _) => True
  | .exec (.trap t) => t.cause ∈ causes profile
  | .csr _ => profile ≠ .m1
  | .mret => profile ≠ .m1
  | .sret => profile = .m3

def Outcome.tag : Outcome → UInt8
  | .exec (.effect _) => 0
  | .exec (.trap _) => 1
  | .csr _ => 2
  | .mret => 3
  | .sret => 4

/-- What follows the tag of an outcome. -/
def Outcome.body : Outcome → Bytes
  | .exec (.effect e) =>
    (u8.write (optionTag e.regWrite) ++
      e.regWrite.elim [] fun w => u8.write w.rd.index ++ u32.write w.value) ++ u32.write e.nextPc
  | .exec (.trap t) => writeCause t.cause ++ u32.write t.tval
  | .csr op =>
    u16.write op.csr ++ u8.write (UInt8.ofNat (csrOps.idxOf op.op)) ++ bool.write op.write ++
      u32.write op.operand ++ u8.write op.rd.index ++ u32.write op.nextPc
  | .mret => []
  | .sret => []

lemma writeOutcome_eq (outcome : Outcome) :
    writeOutcome outcome = u8.write outcome.tag ++ outcome.body := by
  cases outcome with
  | exec outcome =>
    cases outcome with
    | effect e =>
      obtain ⟨_ | w, nextPc⟩ := e <;> simp [writeOutcome, Outcome.tag, Outcome.body, optionTag]
    | trap t => simp [writeOutcome, Outcome.tag, Outcome.body]
  | csr op => simp [writeOutcome, Outcome.tag, Outcome.body]
  | mret => exact (List.append_nil _).symm
  | sret => exact (List.append_nil _).symm

lemma readOutcome_reads (h : Strict) (profile : Rv32iProfile) :
    Reads (readOutcome profile) (Outcome.InSchema profile) writeOutcome := by
  refine Reads.congr (P := Outcome.InSchema profile) ?_ (fun _ => Iff.rfl)
    fun outcome _ => (writeOutcome_eq outcome).symm
  refine tagged_reads h ?_ ?_ ?_
  · cases profile <;> simp
  · intro v hv
    simp only [List.mem_append, List.mem_cons, List.not_mem_nil, or_false, List.mem_ite_nil_right]
      at hv
    rcases hv with ((rfl | rfl) | ⟨hm1, rfl | rfl⟩) | ⟨hm3, rfl⟩
    · refine Reads.variantMap₂ (readRegWrite_reads h) (get_reads h.u32)
        (fun regWrite nextPc => Outcome.exec (.effect { regWrite, nextPc }))
        (fun _ _ _ _ => ⟨trivial, rfl⟩) (fun _ _ => rfl) ?_
      rintro ((e | _) | _ | _ | _) - ht
      case exec.effect => exact ⟨e.regWrite, e.nextPc, trivial, trivial, rfl⟩
      all_goals cases ht
    · refine Reads.variantMap₂ (readCause_reads h profile) (get_reads h.u32)
        (fun cause tval => Outcome.exec (.trap { cause, tval }))
        (fun _ _ hcause _ => ⟨hcause, rfl⟩) (fun _ _ => rfl) ?_
      rintro ((_ | t) | _ | _ | _) hcause ht
      case exec.trap => exact ⟨t.cause, t.tval, hcause, trivial, rfl⟩
      all_goals cases ht
    · refine Reads.variantMap (readPendingCsr_reads h) Outcome.csr (fun _ _ => ⟨hm1, rfl⟩)
        (fun _ => rfl) ?_
      rintro ((_ | _) | op | _ | _) - ht
      case csr => exact ⟨op, trivial, rfl⟩
      all_goals cases ht
    · refine Reads.variant Outcome.mret hm1 rfl rfl ?_
      rintro ((_ | _) | _ | _ | _) - ht
      case mret => rfl
      all_goals cases ht
    · refine Reads.variant Outcome.sret hm3 rfl rfl ?_
      rintro ((_ | _) | _ | _ | _) - ht
      case sret => rfl
      all_goals cases ht
  · rintro ((_ | _) | _ | _ | _) hschema
    · simp [Outcome.tag]
    · simp [Outcome.tag]
    · simp [Outcome.tag, show profile ≠ .m1 from hschema]
    · simp [Outcome.tag, show profile ≠ .m1 from hschema]
    · simp [Outcome.tag, show profile = .m3 from hschema]

lemma readTrap_reads (h : Strict) (profile : Rv32iProfile) :
    Reads (readTrap profile) (fun t => t.cause ∈ causes profile)
      (fun t => writeCause t.cause ++ u32.write t.pc ++ u32.write t.tval) := by
  intro bs t rest
  unfold readTrap
  simp only [(readCause_reads h profile).bind_eq_ok, (get_reads h.u32).bind_eq_ok,
    Parser.pure_eq_ok, List.append_assoc]
  constructor
  · rintro ⟨cause, _, hcause, rfl, pc, _, -, rfl, tval, _, -, rfl, rfl, rfl⟩
    exact ⟨hcause, rfl⟩
  · rintro ⟨hcause, rfl⟩
    exact ⟨t.cause, _, hcause, rfl, t.pc, _, trivial, rfl, t.tval, _, trivial, rfl, rfl, rfl⟩

/-! ## Registers and CSRs -/

lemma foldlM_write_eq_ok (h : Strict) {l : List Reg} (hnodup : l.Nodup) (hzero : .zero ∉ l)
    (init regs : RegisterFile) (bs rest : Bytes) :
    (l.foldlM (fun regs reg => do
        let value ← get u32
        return regs.write reg value) init : Restore RegisterFile) bs = .ok (regs, rest) ↔
      (∀ reg ∉ l, regs.read reg = init.read reg) ∧
        bs = l.flatMap (fun reg => u32.write (regs.read reg)) ++ rest := by
  induction l generalizing init bs with
  | nil =>
    rw [List.foldlM_nil, Parser.pure_eq_ok]
    constructor
    · rintro ⟨rfl, rfl⟩
      exact ⟨fun _ _ => rfl, rfl⟩
    · rintro ⟨hread, rfl⟩
      exact ⟨RegisterFile.ext_read fun reg => (hread reg List.not_mem_nil).symm, rfl⟩
  | cons reg l ih =>
    rw [List.nodup_cons] at hnodup
    rw [List.mem_cons, not_or] at hzero
    have hne : reg ≠ .zero := fun heq => hzero.1 heq.symm
    simp only [List.foldlM_cons, bind_assoc, pure_bind, (get_reads h.u32).bind_eq_ok,
      ih hnodup.2 hzero.2, List.flatMap_cons, List.append_assoc]
    constructor
    · rintro ⟨value, r, -, rfl, hread, rfl⟩
      have hvalue : regs.read reg = value := by
        rw [hread reg hnodup.1, RegisterFile.read_write_self _ _ hne]
      refine ⟨fun other hother => ?_, by rw [hvalue]⟩
      rw [List.mem_cons, not_or] at hother
      rw [hread other hother.2, RegisterFile.read_write_of_ne _ _ hother.1]
    · rintro ⟨hread, rfl⟩
      refine ⟨regs.read reg, _, trivial, rfl, fun other hother => ?_, rfl⟩
      by_cases heq : other = reg
      · rw [heq, RegisterFile.read_write_self _ _ hne]
      · rw [RegisterFile.read_write_of_ne _ _ heq]
        exact hread other (by simp [heq, hother])

lemma readRegisters_reads (h : Strict) :
    Reads readRegisters (fun _ => True)
      (fun regs => storedRegisters.flatMap fun reg => u32.write (regs.read reg)) := by
  have hzero : Reg.zero ∉ storedRegisters := fun hmem => mem_storedRegisters.mp hmem rfl
  intro bs regs rest
  unfold readRegisters
  rw [foldlM_write_eq_ok h storedRegisters_nodup hzero]
  refine and_congr_left fun _ => iff_of_true (fun reg hreg => ?_) trivial
  obtain rfl : reg = .zero := not_not.mp fun hne => hreg (mem_storedRegisters.mpr hne)
  rfl

lemma decodeCsrs_reads (h : Strict) : Reads decodeCsrs (fun _ => True) writeCsrs := by
  intro bs csrs rest
  unfold decodeCsrs writeCsrs
  simp only [(flag_reads h).bind_eq_ok, (get_reads h.u32).bind_eq_ok, Parser.pure_eq_ok,
    List.append_assoc]
  constructor
  · rintro ⟨mie, _, -, rfl, mpie, _, -, rfl, meie, _, -, rfl, mtvec, _, -, rfl, mscratch, _, -, rfl,
      mepc, _, -, rfl, mcause, _, -, rfl, mtval, _, -, rfl, irqLevel, _, -, rfl, rfl, rfl⟩
    exact ⟨trivial, rfl⟩
  · rintro ⟨-, rfl⟩
    exact ⟨csrs.mie, _, trivial, rfl, csrs.mpie, _, trivial, rfl, csrs.meie, _, trivial, rfl,
      csrs.mtvec, _, trivial, rfl, csrs.mscratch, _, trivial, rfl, csrs.mepc, _, trivial, rfl,
      csrs.mcause, _, trivial, rfl, csrs.mtval, _, trivial, rfl, csrs.irqLevel, _, trivial, rfl,
      rfl, rfl⟩

/-- The `M3` block as it is stored. -/
def M3State.record (s : M3State) : M3Record where
  mode := s.privilege.bits
  sie := s.sie
  spie := s.spie
  spp := s.spp.bits
  mpp := s.mpp.bits
  sum := s.sum
  mxr := s.mxr
  medeleg := s.medeleg
  stvec := s.stvec
  sscratch := s.sscratch
  sepc := s.sepc
  scause := s.scause
  stval := s.stval
  satp := s.satp

def writeM3Record (r : M3Record) : Bytes :=
  u8.write r.mode ++ bool.write r.sie ++ bool.write r.spie ++ u8.write r.spp ++ u8.write r.mpp ++
    bool.write r.sum ++ bool.write r.mxr ++ u32.write r.medeleg ++ u32.write r.stvec ++
    u32.write r.sscratch ++ u32.write r.sepc ++ u32.write r.scause ++ u32.write r.stval ++
    u32.write r.satp

lemma writeM3_eq (s : M3State) : writeM3 s = writeM3Record s.record := rfl

lemma readM3Record_reads (h : Strict) : Reads readM3Record (fun _ => True) writeM3Record := by
  intro bs r rest
  unfold readM3Record writeM3Record
  simp only [(flag_reads h).bind_eq_ok, (get_reads h.u8).bind_eq_ok, (get_reads h.u32).bind_eq_ok,
    Parser.pure_eq_ok, List.append_assoc]
  constructor
  · rintro ⟨mode, _, -, rfl, sie, _, -, rfl, spie, _, -, rfl, spp, _, -, rfl, mpp, _, -, rfl,
      sum, _, -,
      rfl, mxr, _, -, rfl, medeleg, _, -, rfl, stvec, _, -, rfl, sscratch, _, -, rfl, sepc,
        _, -, rfl,
      scause, _, -, rfl, stval, _, -, rfl, satp, _, -, rfl, rfl, rfl⟩
    exact ⟨trivial, rfl⟩
  · rintro ⟨-, rfl⟩
    exact ⟨r.mode, _, trivial, rfl, r.sie, _, trivial, rfl, r.spie, _, trivial, rfl, r.spp,
      _, trivial,
      rfl, r.mpp, _, trivial, rfl, r.sum, _, trivial, rfl, r.mxr, _, trivial, rfl, r.medeleg, _,
      trivial, rfl, r.stvec, _, trivial, rfl, r.sscratch, _, trivial, rfl, r.sepc, _, trivial, rfl,
      r.scause, _, trivial, rfl, r.stval, _, trivial, rfl, r.satp, _, trivial, rfl, rfl, rfl⟩

/-! ## Schema 3 -/

/-- A walk as it is stored. -/
def Walk.record (walk : Walk) : WalkRecord where
  data := walk.purpose.insn
  level := walk.level
  table := walk.table

def writeWalkRecord (r : WalkRecord) : Bytes :=
  (u8.write (optionTag r.data) ++ r.data.elim [] u32.write) ++ u8.write r.level ++ u32.write r.table

lemma writeWalk_eq (walk : Walk) : writeWalk walk = writeWalkRecord walk.record := by
  obtain ⟨_ | _, _, _⟩ := walk <;>
    simp [writeWalk, writeWalkRecord, Walk.record, Purpose.insn, optionTag]

lemma readWalk_reads (h : Strict) : Reads readWalk (fun _ => True) writeWalkRecord := by
  have hdata := (option_reads h "rv32 cpu walk purpose" (get_reads h.u32)).congr
    (Q := fun _ => True) (by simp) fun _ _ => rfl
  intro bs r rest
  unfold readWalk writeWalkRecord
  simp only [hdata.bind_eq_ok, (get_reads h.u8).bind_eq_ok, (get_reads h.u32).bind_eq_ok,
    Parser.pure_eq_ok, List.append_assoc]
  constructor
  · rintro ⟨data, _, -, rfl, level, _, -, rfl, table, _, -, rfl, rfl, rfl⟩
    exact ⟨trivial, rfl⟩
  · rintro ⟨-, rfl⟩
    exact ⟨r.data, _, trivial, rfl, r.level, _, trivial, rfl, r.table, _, trivial, rfl, rfl, rfl⟩

/-- A state as it is stored. -/
def State.record : State → StateRecord
  | .fetchIssue pa => .fetchIssue pa
  | .fetchWait txn pa => .fetchWait txn pa
  | .memIssue insn _ pa => .memIssue insn pa
  | .memWait txn insn _ pa => .memWait txn insn pa
  | .walkIssue walk => .walkIssue walk.record
  | .walkWait txn walk => .walkWait txn walk.record
  | .commitPending insn outcome pa => .commitPending insn outcome pa
  | .halted (.trap t) => .trap t
  | .halted .instructionLimit => .instructionLimit

namespace StateRecord

def tag : StateRecord → UInt8
  | .fetchIssue _ => 0
  | .fetchWait .. => 1
  | .memIssue .. => 2
  | .memWait .. => 3
  | .commitPending .. => 4
  | .trap _ => 5
  | .instructionLimit => 5
  | .walkIssue _ => 6
  | .walkWait .. => 7

def haltTag : StateRecord → UInt8
  | .trap _ => 0
  | _ => 1

def haltBody : StateRecord → Bytes
  | .trap t => writeCause t.cause ++ u32.write t.pc ++ u32.write t.tval
  | _ => []

def body : StateRecord → Bytes
  | .fetchIssue pa => writePa pa
  | .fetchWait txn pa => u64.write txn ++ writePa pa
  | .memIssue insn pa => u32.write insn ++ writePa pa
  | .memWait txn insn pa => u64.write txn ++ (u32.write insn ++ writePa pa)
  | .commitPending insn outcome pa =>
    (u8.write (optionTag insn) ++ insn.elim [] u32.write) ++ (writeOutcome outcome ++ writePa pa)
  | .trap t => u8.write (StateRecord.trap t).haltTag ++ (StateRecord.trap t).haltBody
  | .instructionLimit =>
    u8.write StateRecord.instructionLimit.haltTag ++ StateRecord.instructionLimit.haltBody
  | .walkIssue walk => writeWalkRecord walk
  | .walkWait txn walk => u64.write txn ++ writeWalkRecord walk

end StateRecord

lemma writeState_m3 (s : State) :
    writeState .m3 s = u8.write s.record.tag ++ s.record.body := by
  unfold writeState
  rcases s with _ | _ | _ | _ | _ | _ | ⟨_ | _, _, _⟩ | (_ | _) <;>
    simp [State.record, StateRecord.tag, StateRecord.body, optionTag, StateRecord.haltTag,
      StateRecord.haltBody, writeWalk_eq]

omit [SnapshotFields] in
lemma inSchema_m3 (outcome : Outcome) : outcome.InSchema .m3 := by
  rcases outcome with (_ | t) | _ | _ | _
  · trivial
  · exact Rv32iCpu.mem_causes_m3 _
  · exact (by decide : Rv32iProfile.m3 ≠ .m1)
  · exact (by decide : Rv32iProfile.m3 ≠ .m1)
  · rfl

lemma haltRecord_reads (h : Strict) :
    Reads
      (tagged "rv32 cpu halt" [(0, return .trap (← readTrap .m3)), (1, return .instructionLimit)])
      (fun r => True ∧ StateRecord.tag r = 5) StateRecord.body := by
  refine Reads.congr (P := fun r => True ∧ r.tag = 5)
    (w := fun r => u8.write r.haltTag ++ r.haltBody) ?_ (fun _ => Iff.rfl) ?_
  · refine tagged_reads h (by simp) ?_ ?_
    · intro v hv
      simp only [List.mem_cons, List.not_mem_nil, or_false] at hv
      rcases hv with rfl | rfl
      · refine Reads.variantMap (readTrap_reads h .m3) StateRecord.trap
          (fun _ _ => ⟨⟨trivial, rfl⟩, rfl⟩) (fun _ => rfl) ?_
        rintro r ⟨-, ht⟩ ht'
        cases r <;> cases ht <;> cases ht'
        exact ⟨_, Rv32iCpu.mem_causes_m3 _, rfl⟩
      · refine Reads.variant StateRecord.instructionLimit ⟨trivial, rfl⟩ rfl rfl ?_
        rintro r ⟨-, ht⟩ ht'
        cases r <;> cases ht <;> cases ht'
        rfl
    · rintro r ⟨-, ht⟩
      cases r <;> cases ht <;> simp [StateRecord.haltTag]
  · rintro r ⟨-, ht⟩
    cases r <;> cases ht <;> rfl

lemma decodeStateM3_reads (h : Strict) :
    Reads decodeStateM3 (fun _ => True) (fun r => u8.write r.tag ++ r.body) := by
  refine tagged_reads h (by simp) ?_ ?_
  · intro v hv
    simp only [List.mem_cons, List.not_mem_nil, or_false] at hv
    rcases hv with rfl | rfl | rfl | rfl | rfl | rfl | rfl | rfl
    · refine Reads.variantMap (readPa_reads h) StateRecord.fetchIssue
        (fun _ _ => ⟨trivial, rfl⟩) (fun _ => rfl) fun r _ ht => ?_
      cases r <;> cases ht
      exact ⟨_, trivial, rfl⟩
    · refine Reads.variantMap₂ (get_reads h.u64) (readPa_reads h) StateRecord.fetchWait
        (fun _ _ _ _ => ⟨trivial, rfl⟩) (fun _ _ => rfl) fun r _ ht => ?_
      cases r <;> cases ht
      exact ⟨_, _, trivial, trivial, rfl⟩
    · refine Reads.variantMap₂ (get_reads h.u32) (readPa_reads h) StateRecord.memIssue
        (fun _ _ _ _ => ⟨trivial, rfl⟩) (fun _ _ => rfl) fun r _ ht => ?_
      cases r <;> cases ht
      exact ⟨_, _, trivial, trivial, rfl⟩
    · intro bs r rest
      simp only [(get_reads h.u64).bind_eq_ok, (get_reads h.u32).bind_eq_ok,
        (readPa_reads h).bind_eq_ok, Parser.pure_eq_ok]
      constructor
      · rintro ⟨txn, _, -, rfl, insn, _, -, rfl, pa, _, -, rfl, rfl, rfl⟩
        exact ⟨⟨trivial, rfl⟩, by simp [StateRecord.body]⟩
      · rintro ⟨⟨-, ht⟩, rfl⟩
        cases r <;> cases ht
        exact ⟨_, _, trivial, List.append_assoc .., _, _, trivial, List.append_assoc .., _, _,
          trivial, rfl, rfl, rfl⟩
    · intro bs r rest
      simp only [(readInsn_reads h).bind_eq_ok, (readOutcome_reads h _).bind_eq_ok,
        (readPa_reads h).bind_eq_ok, Parser.pure_eq_ok]
      constructor
      · rintro ⟨insn, _, -, rfl, outcome, _, -, rfl, pa, _, -, rfl, rfl, rfl⟩
        exact ⟨⟨trivial, rfl⟩, by simp [StateRecord.body]⟩
      · rintro ⟨⟨-, ht⟩, rfl⟩
        cases r <;> cases ht
        exact ⟨_, _, trivial, List.append_assoc .., _, _, inSchema_m3 _, List.append_assoc .., _, _,
          trivial, rfl, rfl, rfl⟩
    · exact haltRecord_reads h
    · refine Reads.variantMap (readWalk_reads h) StateRecord.walkIssue
        (fun _ _ => ⟨trivial, rfl⟩) (fun _ => rfl) fun r _ ht => ?_
      cases r <;> cases ht
      exact ⟨_, trivial, rfl⟩
    · refine Reads.variantMap₂ (get_reads h.u64) (readWalk_reads h) StateRecord.walkWait
        (fun _ _ _ _ => ⟨trivial, rfl⟩) (fun _ _ => rfl) fun r _ ht => ?_
      cases r <;> cases ht
      exact ⟨_, _, trivial, trivial, rfl⟩
  · rintro r -
    cases r <;> simp [StateRecord.tag]

end SystemScope.Rv32i
