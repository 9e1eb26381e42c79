import SystemScope.Rv32i.Atomic
import SystemScope.Rv32i.Precise

/-!
# The CPU against the atomic interpreter

`Expects s e` says what an instruction that is under way still comes to: the outcome it will commit,
what it has yet to ask of memory and the memory it will leave.  At the start of an instruction that
is the execution of the atomic interpreter; every step but a commit takes from it exactly what it
sends (`Expects.advances`); and a commit applies its outcome as the interpreter does
(`Commits.hart`).
-/

namespace SystemScope.Rv32i

variable {μ : Type}

/-! ## Executions and memories -/

namespace Execution

@[simp] lemma after_after (xs ys : List Request) (e : Execution μ) :
    (e.after ys).after xs = e.after (xs ++ ys) := by
  simp [after]

@[simp] lemma after_requests (xs : List Request) (e : Execution μ) :
    (e.after xs).requests = xs ++ e.requests := rfl

@[simp] lemma after_outcome (xs : List Request) (e : Execution μ) :
    (e.after xs).outcome = e.outcome := rfl

@[simp] lemma after_memory (xs : List Request) (e : Execution μ) :
    (e.after xs).memory = e.memory := rfl

end Execution

lemma isSome_wordOfBytes {data : Bytes} (h : data.length = 4) :
    (wordOfBytes data).isSome = true := by
  obtain ⟨b0, b1, b2, b3, rfl⟩ := List.length_eq_four.mp h
  rfl

lemma isSome_loadValue {width : MemWidth} {extension : LoadExtension} {data : Bytes}
    (h : data.length = width.bytes.toNat) : (loadValue width extension data).isSome = true := by
  cases width with
  | byte =>
    obtain ⟨b, rfl⟩ := List.length_eq_one_iff.mp h
    cases extension <;> rfl
  | half =>
    obtain ⟨b0, b1, rfl⟩ := List.length_eq_two.mp h
    cases extension <;> rfl
  | word =>
    obtain ⟨b0, b1, b2, b3, rfl⟩ := List.length_eq_four.mp h
    rfl

namespace ByteMemory

variable [ByteMemory μ] {m : μ}

lemma serve_word (txn : TxnId) (addr : UInt64) :
    (∃ data w, word m addr = some w ∧ wordOfBytes data = some w ∧
        MemTarget.serve m (.readReq txn addr 4) = (.readResp txn (.data data), m)) ∨
      word m addr = none ∧
        MemTarget.serve m (.readReq txn addr 4) = (.readResp txn (.fault .accessFault), m) := by
  unfold word
  simp only [MemTarget.serve]
  cases hread : read m addr 4 with
  | none => exact .inr ⟨rfl, rfl⟩
  | some data =>
    obtain ⟨w, hw⟩ :=
      Option.isSome_iff_exists.mp (isSome_wordOfBytes (length_read m addr 4 data hread))
    exact .inl ⟨data, w, hw, hw, rfl⟩

/-- How a load is answered. -/
lemma serve_load (txn : TxnId) (addr : UInt64) (plan : LoadPlan) :
    (∃ data value, load m addr plan = some value ∧
        loadValue plan.width plan.extension data = some value ∧
        MemTarget.serve m (.readReq txn addr plan.width.bytes) = (.readResp txn (.data data), m)) ∨
      load m addr plan = none ∧
        MemTarget.serve m (.readReq txn addr plan.width.bytes) =
          (.readResp txn (.fault .accessFault), m) := by
  unfold load
  simp only [MemTarget.serve]
  cases hread : read m addr plan.width.bytes with
  | none => exact .inr ⟨rfl, rfl⟩
  | some data =>
    have hsome : (loadValue plan.width plan.extension data).isSome = true :=
      isSome_loadValue (length_read m addr _ data hread)
    obtain ⟨value, hvalue⟩ := Option.isSome_iff_exists.mp hsome
    exact .inl ⟨data, value, hvalue, hvalue, rfl⟩

/-- How a store is answered. -/
lemma serve_store (txn : TxnId) (addr : UInt64) (data : Bytes) :
    (∃ m', write m addr data = some m' ∧
        MemTarget.serve m (.writeReq txn addr data) = (.writeResp txn .done, m')) ∨
      write m addr data = none ∧
        MemTarget.serve m
          (.writeReq txn addr data) = (.writeResp txn (.fault .accessFault), m) := by
  simp only [MemTarget.serve]
  cases write m addr data with
  | none => exact .inr ⟨rfl, rfl⟩
  | some m' => exact .inl ⟨m', rfl, rfl⟩

end ByteMemory

/-! ## Walks -/

section

variable [ByteMemory μ]

/-- A reader that records what it is asked goes on where it is. -/
lemma Sv32.translateFrom_recording (ctx : Context) (va : UInt32) (m : μ) (level : ℕ)
    (table : UInt32)
    (asked : List UInt64) :
    translateFrom ctx va (ByteMemory.recording m) level table asked =
      ((translateFrom ctx va (ByteMemory.recording m) level table []).1,
        asked ++ (translateFrom ctx va (ByteMemory.recording m) level table []).2) := by
  induction level generalizing table asked with
  | zero =>
    unfold translateFrom
    simp only [ByteMemory.recording]
    cases ByteMemory.word m (pteAddress table va (UInt8.ofNat 0)) with
    | none => rfl
    | some pte =>
      dsimp only
      cases step ctx va (UInt8.ofNat 0) pte <;> rfl
  | succ level ih =>
    unfold translateFrom
    simp only [ByteMemory.recording]
    cases ByteMemory.word m (pteAddress table va (UInt8.ofNat (level + 1))) with
    | none => rfl
    | some pte =>
      dsimp only
      cases step ctx va (UInt8.ofNat (level + 1)) pte with
      | next table =>
        dsimp only
        rw [ih table (asked ++ _), ih table ([] ++ _), List.append_assoc]
        rfl
      | leaf | pageFault => rfl

omit [ByteMemory μ] in
/-- What has been read before is read first. -/
lemma Hart.translated_append (access : Access) (va : UInt32) (m : μ) (k : UInt64 → Execution μ)
    (result : Except Sv32.Fault UInt64) (asked more : List UInt64) :
    Hart.translated access va m k (result, asked ++ more) =
      (Hart.translated access va m k (result, more)).after (pteReads asked) := by
  cases result with
  | error fault => simp [Hart.translated, Execution.after, pteReads]
  | ok pa => simp [Hart.translated, pteReads]

lemma Hart.decoded_done {h : Hart} {w : UInt32} {outcome : Outcome} {m : μ}
    (hstep : step h.isa w h.pc h.regs = .done outcome) :
    h.decoded (some w) m = { outcome, requests := [], memory := m } := by
  unfold Hart.decoded
  dsimp only
  rw [hstep]

lemma Hart.decoded_memory {h : Hart} {w : UInt32} {plan : MemoryPlan} {m : μ}
    (hstep : step h.isa w h.pc h.regs = .memory plan) :
    h.decoded (some w) m = h.access plan m := by
  unfold Hart.decoded
  dsimp only
  rw [hstep]

namespace Rv32iCpu

variable (c : Rv32iCpu)

/-- The access a walk is for, at the address it has found. -/
def arrived (purpose : Purpose) (pa : UInt64) (m : μ) : Execution μ :=
  match purpose with
  | .fetch => c.hart.fetchAt pa m
  | .data _ plan => Hart.perform plan pa m

/-- A walk from where it is, and the access it is for. -/
def walkFrom (walk : Walk) (m : μ) : Execution μ :=
  Hart.translated walk.purpose.access (c.walkVa walk) m (fun pa => c.arrived walk.purpose pa m)
    (Sv32.translateFrom (c.walkContext walk) (c.walkVa walk) (ByteMemory.recording m)
      walk.level.toNat walk.table [])

/-- The same with the entry read, or nothing when its read was refused. -/
def afterPte (walk : Walk) (pte : Option UInt32) (m : μ) : Execution μ :=
  let raise (fault : Sv32.Fault) : Execution μ :=
    { outcome := .trap (fault.cause walk.purpose.access) (c.walkVa walk), requests := [],
      memory := m }
  match pte.map (Sv32.step (c.walkContext walk) (c.walkVa walk) walk.level) with
  | none => raise .access
  | some .pageFault => raise .page
  | some (.leaf pa) => c.arrived walk.purpose pa m
  | some (.next table) => c.walkFrom { walk with level := walk.level - 1, table } m

variable {c}

lemma walkFrom_eq {walk : Walk} (hlevel : walk.level = 0 ∨ walk.level = 1) (m : μ) :
    c.walkFrom walk m =
      (c.afterPte walk (ByteMemory.word m (Sv32.pteAddress walk.table (c.walkVa walk) walk.level))
        m).after [.read (Sv32.pteAddress walk.table (c.walkVa walk) walk.level) 4] := by
  unfold walkFrom afterPte
  have hofNat : UInt8.ofNat walk.level.toNat = walk.level := UInt8.ofNat_toNat
  unfold Sv32.translateFrom
  simp only [ByteMemory.recording, hofNat]
  cases ByteMemory.word m (Sv32.pteAddress walk.table (c.walkVa walk) walk.level) with
  | none => rfl
  | some pte =>
    cases hstep : Sv32.step (c.walkContext walk) (c.walkVa walk) walk.level pte with
    | leaf pa =>
      simp only [Option.map_some, hstep]
      rfl
    | pageFault =>
      simp only [Option.map_some, hstep]
      rfl
    | next table =>
      have hone : walk.level = 1 := hlevel.resolve_left (Sv32.step_next hstep).1
      have htoNat : walk.level.toNat = 1 := by rw [hone]; rfl
      have hzero : (walk.level - 1).toNat = 0 := by rw [hone]; rfl
      simp only [Option.map_some, hstep, htoNat]
      rw [Sv32.translateFrom_recording, Hart.translated_append]
      unfold walkFrom
      rw [hzero]
      rfl

/-- While translating, an access is translated by a walk from the root. -/
lemma translate_of_translating (htranslating : c.translating = true) (access : Access) (va : UInt32)
    (m : μ) :
    c.hart.translate access va m =
      Sv32.translateFrom
        { privilege := c.m3.privilege, sum := c.m3.sum, mxr := c.m3.mxr, access } va
        (ByteMemory.recording m) 1 c.m3.root [] := by
  unfold translating M3State.translates at htranslating
  simp only [Bool.and_eq_true, decide_eq_true_eq] at htranslating
  obtain ⟨hprofile, hmode, hsatp⟩ := htranslating
  have hnot : ¬(c.hart.m3.privilege = .machine ∨ c.hart.m3.satp &&& satpMode = 0) :=
    not_or.mpr ⟨hmode, hsatp⟩
  unfold Hart.translate Sv32.sv32Translate
  rw [if_pos (show c.hart.config.profile = .m3 from hprofile), if_neg hnot]
  rfl

lemma translate_of_not_translating (htranslating : c.translating = false) (access : Access)
    (va : UInt32) (m : μ) : c.hart.translate access va m = (.ok va.toUInt64, []) := by
  unfold Hart.translate
  split_ifs with hprofile
  · unfold Sv32.sv32Translate
    have hoff : c.hart.m3.privilege = .machine ∨ c.hart.m3.satp &&& satpMode = 0 := by
      have hm3 : c.config.profile = .m3 := hprofile
      change c.m3.privilege = .machine ∨ c.m3.satp &&& satpMode = 0
      simpa [translating, M3State.translates, hm3, or_iff_not_imp_left] using htranslating
    rw [if_pos hoff]
  · rfl

/-- An instruction starts with its fetch. -/
lemma execute_eq (c : Rv32iCpu) (m : μ) :
    c.hart.execute m =
      if c.translating then c.walkFrom { purpose := .fetch, level := 1, table := c.m3.root } m
      else c.hart.fetchAt c.pc.toUInt64 m := by
  unfold Hart.execute
  split_ifs with htranslating
  · rw [translate_of_translating htranslating]
    rfl
  · rw [translate_of_not_translating (Bool.of_not_eq_true htranslating)]
    rfl

/-- A load or store starts with its walk, or is made at its own address. -/
lemma access_eq (c : Rv32iCpu) (insn : UInt32) (plan : MemoryPlan) (m : μ) :
    c.hart.access plan m =
      if c.translating then
        c.walkFrom { purpose := .data insn plan, level := 1, table := c.m3.root } m
      else Hart.perform plan (planAddr plan).toUInt64 m := by
  unfold Hart.access
  split_ifs with htranslating
  · rw [translate_of_translating htranslating]
    cases plan <;> rfl
  · rw [translate_of_not_translating (Bool.of_not_eq_true htranslating)]
    rfl

end Rv32iCpu

end

/-! ## Instructions under way -/

namespace System

variable [ByteMemory μ]

/-- A request that the memory `m` answers is on its way, or its response is. -/
def Underway (s : System μ) (m : μ) (req : MemV1.MemMsg) : Prop :=
  s.pending = [.request req] ∧ s.memory = m ∨
    s.pending = [.response (MemTarget.serve m req).1] ∧ s.memory = (MemTarget.serve m req).2

/-- What the instruction under way still comes to. -/
inductive Expects (s : System μ) : Execution μ → Prop
  | fetchIssue {pa : Option UInt64} (hs : s.cpu.state = .fetchIssue pa)
      (hp : s.pending = [.wake .request Token.fetch]) :
      Expects s (s.cpu.hart.fetchAt (pa.getD s.cpu.pc.toUInt64) s.memory)
  | fetchWait {txn : TxnId} {pa : Option UInt64} {addr : UInt64} {m : μ}
      (hs : s.cpu.state = .fetchWait txn pa) (hu : s.Underway m (.readReq txn addr 4)) :
      Expects s (s.cpu.hart.decoded (ByteMemory.word m addr) m)
  | memIssue {insn : UInt32} {plan : MemoryPlan} {pa : Option UInt64}
      (hs : s.cpu.state = .memIssue insn plan pa) (hp : s.pending = [.wake .request Token.memory]) :
      Expects s (Hart.perform plan (pa.getD (planAddr plan).toUInt64) s.memory)
  | memWait {txn : TxnId} {insn : UInt32} {plan : MemoryPlan} {pa : Option UInt64} {addr : UInt64}
      {m : μ} (hs : s.cpu.state = .memWait txn insn plan pa)
      (hu : s.Underway m (Rv32iCpu.planRequest plan addr txn)) :
      Expects s { Hart.perform plan addr m with requests := [] }
  | walkIssue {walk : Walk} (hs : s.cpu.state = .walkIssue walk)
      (hp : s.pending = [.wake .request Token.walk]) : Expects s (s.cpu.walkFrom walk s.memory)
  | walkWait {txn : TxnId} {walk : Walk} {addr : UInt64} {m : μ}
      (hs : s.cpu.state = .walkWait txn walk) (hu : s.Underway m (.readReq txn addr 4)) :
      Expects s (s.cpu.afterPte walk (ByteMemory.word m addr) m)
  | commitPending {insn : Option UInt32} {outcome : Outcome} {pa : Option UInt64}
      (hs : s.cpu.state = .commitPending insn outcome pa)
      (hp : s.pending = [.wake .commit Token.commit]) :
      Expects s { outcome, requests := [], memory := s.memory }

variable {s : System μ} {e : Execution μ}

/-- A CPU that waits for something is not halted. -/
lemma Expects.halt (h : s.Expects e) : s.cpu.halt = none := by
  cases h with
  | _ hs => simp [Rv32iCpu.halt, hs]

/-- At the start of an instruction, all of it is expected. -/
lemma expects_fetchState (hs : s.cpu.state = s.cpu.fetchState)
    (hp : s.pending = wakesOf s.cpu.fetchState s.cpu.config.clock) :
    s.Expects (s.cpu.hart.execute s.memory) := by
  rw [Rv32iCpu.execute_eq]
  unfold Rv32iCpu.fetchState at hs hp
  split_ifs at hs hp ⊢
  · exact .walkIssue hs hp
  · exact .fetchIssue hs hp

lemma expects_accessState {insn : UInt32} {plan : MemoryPlan}
    (hs : s.cpu.state = s.cpu.accessState insn plan)
    (hp : s.pending = wakesOf (s.cpu.accessState insn plan) s.cpu.config.clock) :
    s.Expects (s.cpu.hart.access plan s.memory) := by
  rw [Rv32iCpu.access_eq _ insn]
  unfold Rv32iCpu.accessState at hs hp
  split_ifs at hs hp ⊢
  · exact .walkIssue hs hp
  · exact .memIssue hs hp

/-- When memory answers, nothing changes. -/
lemma Expects.serve {req : MemV1.MemMsg} (h : s.Expects e) (hp : s.pending = [.request req]) :
    Expects
      { s with
        memory := (MemTarget.serve s.memory req).2
        pending := [.response (MemTarget.serve s.memory req).1] } e := by
  have hunderway {m : μ} {req' : MemV1.MemMsg} (hu : s.Underway m req') :
      Underway
        { s with
          memory := (MemTarget.serve s.memory req).2
          pending := [.response (MemTarget.serve s.memory req).1] } m req' := by
    rcases hu with ⟨hp', rfl⟩ | ⟨hp', -⟩
    · cases hp.symm.trans hp'
      exact .inr ⟨rfl, rfl⟩
    · cases hp.symm.trans hp'
  cases h with
  | fetchIssue hs hp' | memIssue hs hp' | walkIssue hs hp' | commitPending hs hp' =>
    cases hp.symm.trans hp'
  | fetchWait hs hu => exact .fetchWait hs (hunderway hu)
  | memWait hs hu => exact .memWait hs (hunderway hu)
  | walkWait hs hu => exact .walkWait hs (hunderway hu)

/-- A level on the interrupt line is not looked at before the commit. -/
lemma Expects.irq {asserted : Bool} {log : List Entry} (h : s.Expects e) :
    Expects
      { s with cpu := { s.cpu with csrs := { s.cpu.csrs with irqLevel := asserted } }, log := log }
      e := by
  cases h with
  | fetchIssue hs hp => exact .fetchIssue hs hp
  | fetchWait hs hu => exact .fetchWait hs hu
  | memIssue hs hp => exact .memIssue hs hp
  | memWait hs hu => exact .memWait hs hu
  | walkIssue hs hp => exact .walkIssue hs hp
  | walkWait hs hu => exact .walkWait hs hu
  | commitPending hs hp => exact .commitPending hs hp

/-- A wake sends the first request that is expected. -/
lemma Expects.issue {token : UInt64} {msg : TxnId → MemV1.MemMsg} {waiting : TxnId → State}
    (hc : s.cpu.Valid) (h : s.Expects e) (hi : s.cpu.Issues token msg waiting) (next : UInt64)
    (log : List Entry) :
    ∃ req e', Request.ofMsg (msg s.cpu.nextTxn) = some req ∧ e = e'.after [req] ∧
      Expects
        { s with
          cpu := { s.cpu with nextTxn := next, state := waiting s.cpu.nextTxn }
          pending := [.request (msg s.cpu.nextTxn)]
          log := log } e' := by
  cases hi with
  | fetch hs =>
    cases h with
    | fetchIssue hs' =>
      cases hs.symm.trans hs'
      exact ⟨_, _, rfl, rfl, .fetchWait rfl (.inl ⟨rfl, rfl⟩)⟩
    | _ hs' => cases hs.symm.trans hs'
  | memory hs =>
    cases h with
    | memIssue hs' =>
      cases hs.symm.trans hs'
      rename_i plan _ _
      cases plan <;> exact ⟨_, _, rfl, rfl, .memWait rfl (.inl ⟨rfl, rfl⟩)⟩
    | _ hs' => cases hs.symm.trans hs'
  | walk hs =>
    cases h with
    | walkIssue hs' =>
      cases hs.symm.trans hs'
      have hfits := hc.state
      rw [hs] at hfits
      refine ⟨_, _, rfl, Rv32iCpu.walkFrom_eq hfits.level _, .walkWait rfl (.inl ⟨rfl, rfl⟩)⟩
    | _ hs' => cases hs.symm.trans hs'

lemma Underway.response {m : μ} {req msg : MemV1.MemMsg} (hu : s.Underway m req)
    (hp : s.pending = [.response msg]) : MemTarget.serve m req = (msg, s.memory) := by
  rcases hu with ⟨hp', -⟩ | ⟨hp', hm⟩
  · cases hp.symm.trans hp'
  · cases hp.symm.trans hp'
    rw [hm]

lemma Underway.word {m : μ} {txn : TxnId} {addr : UInt64} {msg : MemV1.MemMsg}
    (hu : s.Underway m (.readReq txn addr 4)) (hp : s.pending = [.response msg]) :
    s.memory = m ∧
      ((∃ data w, ByteMemory.word m addr = some w ∧ wordOfBytes data = some w ∧
          msg = .readResp txn (.data data)) ∨
        ByteMemory.word m addr = none ∧ msg = .readResp txn (.fault .accessFault)) := by
  have hserve := hu.response hp
  rcases ByteMemory.serve_word (m := m) txn addr with ⟨data, w, hword, hdata, h⟩ | ⟨hword, h⟩
  · cases h.symm.trans hserve
    exact ⟨rfl, .inl ⟨data, w, hword, hdata, rfl⟩⟩
  · cases h.symm.trans hserve
    exact ⟨rfl, .inr ⟨hword, rfl⟩⟩

/-- The word of a fetch leads where it is executed. -/
lemma expects_fetched {txn : TxnId} {pa : Option UInt64} {addr : UInt64} {m : μ}
    {msg : MemV1.MemMsg} {state : State} (hs : s.cpu.state = .fetchWait txn pa)
    (hu : s.Underway m (.readReq txn addr 4)) (hp : s.pending = [.response msg])
    (ha : s.cpu.Answers msg state) :
    Expects
      { s with cpu := s.cpu.enter state, pending := wakesOf state s.cpu.config.clock }
      (s.cpu.hart.decoded (ByteMemory.word m addr) m) := by
  obtain ⟨rfl, hmsg⟩ := hu.word hp
  rcases hmsg with ⟨data, w, hword, hdata, rfl⟩ | ⟨hword, rfl⟩
  · rw [hword]
    cases ha with
    | done hs' hw hstep =>
      cases hdata.symm.trans hw
      rw [Hart.decoded_done (h := s.cpu.hart) hstep]
      exact .commitPending rfl rfl
    | access hs' hw hstep =>
      cases hdata.symm.trans hw
      rw [Hart.decoded_memory (h := s.cpu.hart) hstep]
      exact expects_accessState rfl rfl
    | _ hs' => cases hs.symm.trans hs'
  · rw [hword]
    cases ha with
    | fetchRefused hs' => exact .commitPending rfl rfl
    | _ hs' => cases hs.symm.trans hs'

/-- The response to a load or store leads to its outcome. -/
lemma expects_accessed {txn : TxnId} {insn : UInt32} {plan : MemoryPlan} {pa : Option UInt64}
    {addr : UInt64} {m : μ} {msg : MemV1.MemMsg} {state : State}
    (hs : s.cpu.state = .memWait txn insn plan pa)
    (hu : s.Underway m (Rv32iCpu.planRequest plan addr txn)) (hp : s.pending = [.response msg])
    (ha : s.cpu.Answers msg state) :
    Expects
      { s with cpu := s.cpu.enter state, pending := wakesOf state s.cpu.config.clock }
      { Hart.perform plan addr m with requests := [] } := by
  have hserve := hu.response hp
  cases plan with
  | load plan =>
    rcases ByteMemory.serve_load (m := m) txn addr plan with ⟨data, value, hload, hvalue, h⟩
      | ⟨hload, h⟩
    · cases h.symm.trans hserve
      cases ha with
      | loaded hs' hm =>
        cases hs.symm.trans hs'
        simp only [completeLoad, hvalue, Except.ok.injEq] at hm
        subst hm
        simp only [Hart.perform, hload]
        exact .commitPending rfl rfl
      | _ hs' => cases hs.symm.trans hs'
    · cases h.symm.trans hserve
      cases ha with
      | loaded hs' hm =>
        cases hs.symm.trans hs'
        simp only [completeLoad, Except.ok.injEq] at hm
        subst hm
        simp only [Hart.perform, hload]
        exact .commitPending rfl rfl
      | _ hs' => cases hs.symm.trans hs'
  | store plan =>
    rcases ByteMemory.serve_store (m := m) txn addr plan.data with ⟨m', hwrite, h⟩ | ⟨hwrite, h⟩
    · cases h.symm.trans hserve
      cases ha with
      | stored hs' =>
        cases hs.symm.trans hs'
        simp only [Hart.perform, hwrite]
        exact .commitPending rfl rfl
    · cases h.symm.trans hserve
      cases ha with
      | stored hs' =>
        cases hs.symm.trans hs'
        simp only [Hart.perform, hwrite]
        exact .commitPending rfl rfl

/-- An entry leads to the next one, to the access or to a fault. -/
lemma expects_walked {txn : TxnId} {walk : Walk} {addr : UInt64} {m : μ} {msg : MemV1.MemMsg}
    {state : State} (hs : s.cpu.state = .walkWait txn walk)
    (hu : s.Underway m (.readReq txn addr 4)) (hp : s.pending = [.response msg])
    (ha : s.cpu.Answers msg state) :
    Expects
      { s with cpu := s.cpu.enter state, pending := wakesOf state s.cpu.config.clock }
      (s.cpu.afterPte walk (ByteMemory.word m addr) m) := by
  obtain ⟨rfl, hmsg⟩ := hu.word hp
  rcases hmsg with ⟨data, w, hword, hdata, rfl⟩ | ⟨hword, rfl⟩
  · rw [hword]
    unfold Rv32iCpu.afterPte
    cases ha with
    | next hs' hw hstep =>
      cases hs.symm.trans hs'
      cases hdata.symm.trans hw
      simp only [Option.map_some, hstep]
      exact .walkIssue rfl rfl
    | leaf hs' hw hstep =>
      cases hs.symm.trans hs'
      cases hdata.symm.trans hw
      simp only [Option.map_some, hstep]
      rename_i found
      cases walk.purpose with
      | fetch =>
        change Expects _ (s.cpu.hart.fetchAt ((some found).getD s.cpu.pc.toUInt64) s.memory)
        exact .fetchIssue rfl rfl
      | data insn plan =>
        change Expects _ (Hart.perform plan ((some found).getD (planAddr plan).toUInt64) s.memory)
        exact .memIssue rfl rfl
    | pageFault hs' hw hstep =>
      cases hs.symm.trans hs'
      cases hdata.symm.trans hw
      simp only [Option.map_some, hstep]
      exact .commitPending rfl rfl
    | _ hs' => cases hs.symm.trans hs'
  · rw [hword]
    cases ha with
    | walkRefused hs' =>
      cases hs.symm.trans hs'
      exact .commitPending rfl rfl
    | _ hs' => cases hs.symm.trans hs'

/-- A response takes the instruction on without a request. -/
lemma Expects.answer {msg : MemV1.MemMsg} {state : State} (h : s.Expects e)
    (hp : s.pending = [.response msg]) (ha : s.cpu.Answers msg state) :
    Expects
      { s with cpu := s.cpu.enter state, pending := wakesOf state s.cpu.config.clock } e := by
  cases h with
  | fetchIssue hs hp' | memIssue hs hp' | walkIssue hs hp' | commitPending hs hp' =>
    cases hp.symm.trans hp'
  | fetchWait hs hu => exact expects_fetched hs hu hp ha
  | memWait hs hu => exact expects_accessed hs hu hp ha
  | walkWait hs hu => exact expects_walked hs hu hp ha

end System

/-! ## Commits -/

namespace Rv32iCpu

variable {c c' d : Rv32iCpu}

lemma hart_writeCsr (csr : UInt16) (value : UInt32) :
    c.hart.writeCsr csr value = (c.writeCsr csr value).map hart := by
  unfold Hart.writeCsr writeCsr
  cases hprofile : c.config.profile <;>
    simp only [show c.hart.config.profile = _ from hprofile, Option.map_map] <;> rfl

lemma hart_mret : c.mret.hart = c.hart.retire .mret := by
  unfold mret Hart.retire
  cases hprofile : c.config.profile <;>
    simp only [show c.hart.config.profile = _ from hprofile] <;> rfl

/-- The effects of an instruction are those of its outcome. -/
lemma hart_retire {insn : UInt32} {outcome : Outcome} {pa : Option UInt64}
    {fields : List (String × Value)} (hr : c.retire insn outcome pa = (d, .ok fields)) :
    d.hart = c.hart.retire outcome := by
  unfold retire at hr
  split at hr
  · cases hr
    rfl
  · rename_i op
    rcases c.commitCsr_cases insn op with ⟨e, hcsr⟩ | ⟨old, d', more, hread, hwrite, hcsr⟩
    · rw [hcsr] at hr
      cases hr
    · rw [hcsr] at hr
      cases hr
      unfold Hart.retire
      have hold : c.hart.readCsr op.csr = some old := hread
      simp only [hold, Option.getD_some, hart_writeCsr]
      split_ifs at hwrite with hw
      · rw [if_pos hw, hwrite]
        rfl
      · cases hwrite
        rw [if_neg hw]
        rfl
  · cases hr
    exact hart_mret
  · cases hr
    rfl
  · cases hr

lemma hart_sampled (c : Rv32iCpu) : c.sampled.hart = c.hart.sample := by
  unfold sampled sampleMei Hart.sample
  cases hprofile : c.config.profile <;> simp only [show c.hart.config.profile = _ from hprofile]
  · rfl
  · by_cases helig : c.csrs.meiEligible = true
    · rw [if_pos helig, if_pos (show c.hart.csrs.meiEligible = true from helig)]
      rfl
    · rw [if_neg helig, if_neg (show ¬c.hart.csrs.meiEligible = true from helig)]
      rfl
  · by_cases helig : c.m3.meiEligible c.csrs = true
    · rw [if_pos helig, if_pos (show c.hart.m3.meiEligible c.hart.csrs = true from helig)]
      rfl
    · rw [if_neg helig, if_neg (show ¬c.hart.m3.meiEligible c.hart.csrs = true from helig)]
      rfl

lemma halt_resume (c : Rv32iCpu) : c.resume.halt = none := by
  unfold resume enter fetchState
  split_ifs <;> rfl

lemma commit_trap (c : Rv32iCpu) (t : PendingTrap) :
    c.hart.commit (.exec (.trap t)) =
      match c.delivery t with
      | some (handler, m3) => ({ c.hart with pc := handler, m3 }, none)
      | none => (c.hart, some (.trap { cause := t.cause, pc := c.pc, tval := t.tval })) := rfl

lemma commit_retire {insn : UInt32} {outcome : Outcome} {pa : Option UInt64}
    {fields : List (String × Value)} (hr : c.retire insn outcome pa = (d, .ok fields)) :
    c.hart.commit outcome =
      if d.config.maxInstructions ≤ d.counted.instret then (d.counted.hart, some .instructionLimit)
      else (d.counted.hart.sample, none) := by
  have hframe := retire_frame_of_eq hr
  have hhart : { c.hart.retire outcome with instret := c.hart.instret + 1 } = d.counted.hart := by
    rw [← hart_retire hr, show c.hart.instret = d.instret from hframe.instret.symm]
    rfl
  have hfinish (retired : Hart) (h : retired = d.counted.hart) :
      (if c.hart.config.maxInstructions ≤ retired.instret then
        (retired, some Halt.instructionLimit) else (retired.sample, none)) =
      if d.config.maxInstructions ≤ d.counted.instret then (d.counted.hart, some .instructionLimit)
      else (d.counted.hart.sample, none) := by
    rw [h, show c.hart.config = d.config from hframe.config.symm]
    rfl
  unfold Hart.commit
  split
  · exact absurd rfl (not_trap_of_retire hr _)
  · exact hfinish _ hhart

lemma Commits.hart {calls : List Call} {insn : Option UInt32} {outcome : Outcome}
    {pa : Option UInt64} (hs : c.state = .commitPending insn outcome pa) (h : c.Commits calls c') :
    c.hart.commit outcome = (c'.hart, c'.halt) := by
  cases h with
  | halt hs' hd =>
    cases hs.symm.trans hs'
    rw [commit_trap, hd]
    rfl
  | exception hs' hd =>
    cases hs.symm.trans hs'
    rw [commit_trap, hd, halt_resume]
    rfl
  | limit hs' hr hl =>
    cases hs.symm.trans hs'
    rw [commit_retire hr, if_pos hl]
    rfl
  | retire hs' hr hl =>
    cases hs.symm.trans hs'
    rw [commit_retire hr, if_neg hl, halt_resume, ← hart_sampled]
    rfl

end Rv32iCpu

end SystemScope.Rv32i
