import SystemScope.Os.Board
import SystemScope.Os.ContextPreservation
import SystemScope.Os.Stepping
import SystemScope.Os.World

/-!
# Executions are runs of the kernel

An execution answers the accesses of an operation one after the other.  The kernel does the same
with two deliveries for each access, the wake that sends it and its response, as long as the
whitelist permits the access and transactions are left (`Machine.Executes.access`).  So whatever an
execution comes through, a machine with that kernel comes through as well, and the same stages begin
(`Machine.Executes.runs`).
-/

namespace SystemScope.Os

open MemV1 Checks Handler

/-- The whitelist permits the accesses of a stage. -/
def Stage.Permitted (config : KernelConfig) (stage : Stage) : Prop :=
  ∀ (o : ProcOp) (access : Access), o.stage = stage → o.data.length = o.dataLen config o.step →
    o.access config = .ok (some access) → config.Permits access.addr access.len

/-- The response with which memory completes an access. -/
def reply (txn : TxnId) : Completion → MemV1.MemMsg
  | .data bytes => .readResp txn (.data bytes)
  | .written => .writeResp txn .done

variable {config : KernelConfig} {σ : Type}

/-- A world with a memory and a UART answers as the bus does. -/
structure BusMap.Serves (bus : BusMap config) (respond : Responder σ) (view : σ → World) :
    Prop where
  answers : ∀ w access, bus.Answers (view w).memory access (respond w access).1
  world : ∀ w access, view (respond w access).2 =
    { memory := bus.effect (view w).memory access
      uart := (view w).uart ++ Machine.transmitted config access }

/-! ## The deliveries of one access -/

namespace ModeledKernel

variable {c c' : ModeledKernel config} {env : Surroundings} {calls : List Call}

lemma performs_issue {work : Work} {access : Access} (hstate : c.state = .issue work)
    (haccess : work.access config = .ok (some access))
    (hpermits : config.Permits access.addr access.len) (hroom : c.nextTxn.toNat + 1 < 2 ^ 64) :
    (c.handleEvent (.wake issueToken)).Performs env
      [.sent memPort (.memV1 (request c.nextTxn access)) .now .request]
      { c with nextTxn := c.nextTxn + 1, state := .wait work c.nextTxn } := by
  show c.issue.Performs _ _ _
  unfold issue
  rw [hstate]
  dsimp only
  rw [haccess]
  dsimp only
  rw [if_neg (not_not.mpr hpermits), if_neg (Nat.ne_of_lt hroom), performs_send]
  exact ⟨[], rfl, performs_ok.mpr ⟨rfl, rfl⟩⟩

lemma response_reply (txn : TxnId) (completion : Completion) :
    response (reply txn completion) = some (txn, some completion) := by
  cases completion <;> rfl

/-- What advances an operation is an answer to the access that is due. -/
lemma answers_reply {o o' : ProcOp} {access : Access} {completion : Completion} (txn : TxnId)
    (haccess : o.access config = .ok (some access))
    (hcomplete : o.complete config completion = .ok (.ok o')) :
    Answers config (.proc o) txn (reply txn completion) completion := by
  refine ⟨response_reply txn completion, some access, haccess, ?_⟩
  obtain ⟨access', data, n, haccess', hdata, -, -⟩ := ProcOp.complete_eq_ok hcomplete
  rw [haccess] at haccess'
  cases haccess'
  cases access with
  | read addr len =>
    cases completion with
    | data bytes => exact Iff.rfl
    | written => cases hdata
  | write addr bytes =>
    cases completion with
    | data bytes => cases hdata
    | written => exact Iff.rfl

lemma performs_memResponse {work : Work} {txn : TxnId} {msg : MemV1.MemMsg}
    {completion : Completion} (hstate : c.state = .wait work txn)
    (hmsg : Answers config work txn msg completion) (hphase : env.phase = .complete)
    (hc : (c.complete work completion).Performs env calls c') :
    (c.handleEvent (.message memPort (.memV1 msg))).Performs env calls c' := by
  obtain ⟨access, haccess, hkind⟩ := hmsg.kind
  show (c.memResponse msg).Performs _ _ _
  unfold memResponse
  rw [hstate]
  dsimp only
  rw [hmsg.response]
  dsimp only
  rw [if_neg (not_not.mpr rfl), performs_phase, if_neg (not_not.mpr hphase), haccess]
  dsimp only
  rwa [if_neg (not_not.mpr hkind)]

/-- An access that does not end its stage. -/
lemma performs_unfinished {o o' : ProcOp} {completion : Completion}
    (hcomplete : o.complete config completion = .ok (.ok o'))
    (hfinished : o'.isFinished config = .ok false) :
    (c.complete (.proc o) completion).Performs env [wakeCall config]
      { c with state := .issue (.proc o') } := by
  unfold complete
  dsimp only
  rw [hcomplete]
  dsimp only
  unfold completedProc
  rw [hfinished]
  exact performs_wakeNextCycle.mpr ⟨rfl, rfl⟩

/-- The last access of a stage: the next stage begins, or the held `ENTER` is answered. -/
lemma performs_finished {o o' : ProcOp} {completion : Completion} {m : Model}
    {d : Decision (Option ProcOp)} (hcomplete : o.complete config completion = .ok (.ok o'))
    (hfinished : o'.isFinished config = .ok true) (hm : c.model = some m)
    (hadvance : m.advance config o' = .ok d) (hheld : c.held.isSome) :
    ∃ calls c', (c.complete (.proc o) completion).Performs env calls c' ∧
      c'.model = some d.model ∧ c'.nextTxn = c.nextTxn ∧
      c'.state = d.next.elim .idle fun o => .issue (.proc o) := by
  obtain ⟨held, hheld⟩ := Option.isSome_iff_exists.mp hheld
  unfold complete
  dsimp only
  rw [hcomplete]
  dsimp only
  unfold completedProc
  rw [hfinished]
  dsimp only
  rw [hm]
  dsimp only
  rw [hadvance]
  dsimp only
  cases hnext : d.next with
  | none =>
    exact ⟨_, { c with held := none, state := .idle, model := some d.model }, performs_emit.mpr
      ⟨_, rfl, performs_release.mpr ⟨held, hheld, rfl, rfl⟩⟩, rfl, rfl, rfl⟩
  | some o'' =>
    exact ⟨_, { c with state := .issue (.proc o''), model := some d.model }, performs_emit.mpr
      ⟨_, rfl, performs_wakeNextCycle.mpr ⟨rfl, rfl⟩⟩, rfl, rfl, rfl⟩

end ModeledKernel

/-- What leads to the next state: the access that is due is answered, and what is left of the
operation afterwards. -/
lemma Execution.next_eq_ok {respond : Responder σ} {m : Model} {o : ProcOp} {w : σ}
    {y : Execution σ} (h : next config respond { model := m, op := some o, world := w } = .ok y) :
    ∃ access o', o.access config = .ok (some access) ∧ (respond w access).2 = y.world ∧
      o.complete config (respond w access).1 = .ok (.ok o') ∧
      ((o'.isFinished config = .ok false ∧ y.model = m ∧ y.op = some o') ∨
        o'.isFinished config = .ok true ∧ ∃ d, m.advance config o' = .ok d ∧
          y.model = d.model ∧ y.op = d.next) := by
  obtain ⟨due, hdue, h⟩ := bind_eq_ok.mp h
  cases due with
  | none => cases h
  | some access =>
    obtain ⟨r, hcomplete, h⟩ := bind_eq_ok.mp h
    cases r with
    | error e => cases h
    | ok o' =>
      obtain ⟨finished, hfinished, h⟩ := bind_eq_ok.mp h
      refine ⟨access, o', mapError_eq_ok.mp hdue, ?_, mapError_eq_ok.mp hcomplete, ?_⟩
      · cases finished with
        | false =>
          cases h
          rfl
        | true =>
          obtain ⟨d, -, h⟩ := bind_eq_ok.mp h
          cases h
          rfl
      · cases finished with
        | false =>
          cases h
          exact .inl ⟨mapError_eq_ok.mp hfinished, rfl, rfl⟩
        | true =>
          obtain ⟨d, hd, h⟩ := bind_eq_ok.mp h
          cases h
          exact .inr ⟨mapError_eq_ok.mp hfinished, d, hd, rfl, rfl⟩

namespace Machine

variable {bus : BusMap config} {others : Others config} {x x' x'' : Machine config}
  {stages stages' : List Stage} {respond : Responder σ} {view : σ → World} {e e' : Execution σ}

lemma Runs.trans (h : Runs bus others x stages x') (h' : Runs bus others x' stages' x'') :
    Runs bus others x (stages ++ stages') x'' := by
  induction h' with
  | start => rwa [List.append_nil]
  | step _ hstep ih =>
    rw [← List.append_assoc]
    exact .step ih hstep

/-- The machine has come to where an execution is: the access that is due has still to be sent. -/
structure Executes (x : Machine config) (view : σ → World) (e : Execution σ) : Prop where
  sound : x.kernel.Sound
  model : x.kernel.model = some e.model
  state : x.kernel.state = e.op.elim .idle fun o => .issue (.proc o)
  world : view e.world = { memory := x.memory, uart := x.uart }

/-- The stage that begins when an access has been answered. -/
lemma begun_of_wait {c c' : ModeledKernel config} {work : Work} {txn : TxnId}
    (hstate : c.state = .wait work txn)
    (hstate' : c'.state = e.op.elim .idle fun o => .issue (.proc o)) : c.begun c' = e.begun := by
  unfold ModeledKernel.begun Execution.begun
  rw [hstate, hstate']
  cases e.op <;> rfl

lemma Executes.work (hx : x.Executes view e) {o : ProcOp} (hop : e.op = some o) :
    x.kernel.work = some (.proc o) := by
  unfold ModeledKernel.work
  rw [hx.state, hop]
  rfl

/-- The access that is due is sent and answered. -/
lemma Executes.access (others : Others config) (hx : x.Executes view e)
    (hserves : bus.Serves respond view)
    (hnext : Execution.next config respond e = .ok e')
    (hpermitted : ∀ o ∈ e.op, o.stage.Permitted config)
    (hroom : x.kernel.nextTxn.toNat + 1 < 2 ^ 64) :
    ∃ x', Runs bus others x e'.begun.toList x' ∧ x'.Executes view e' ∧
      x'.kernel.nextTxn.toNat ≤ x.kernel.nextTxn.toNat + 1 ∧ x'.trapped = x.trapped := by
  obtain ⟨m, op, w⟩ := e
  cases op with
  | none =>
    cases hnext
    exact ⟨x, .start, hx, Nat.le_succ _, rfl⟩
  | some o =>
    obtain ⟨access, o', haccess, hworld, hcomplete, hcases⟩ := Execution.next_eq_ok hnext
    have hwork := hx.work rfl
    have hheld : x.kernel.held.isSome := hx.sound.held.mpr (by rw [hwork]; rfl)
    have hpermits := hpermitted o rfl o access rfl (hx.sound.fits hx.model hwork).data haccess
    -- the wake sends the access
    let env : Surroundings := { component := 0, now := 0, phase := .complete, rng := fun _ => 0 }
    let c₁ : ModeledKernel config :=
      { x.kernel with nextTxn := x.kernel.nextTxn + 1, state := .wait (.proc o) x.kernel.nextTxn }
    have hissue : (x.kernel.handleEvent (.wake issueToken)).Performs env _ c₁ :=
      ModeledKernel.performs_issue hx.state haccess hpermits hroom
    have hsent : Runs bus others x [] { x with kernel := c₁ } := by
      have hstep : Step bus others x _ := .takes (by rintro msg ⟨⟩) hissue
      have hruns := Runs.step .start hstep
      rw [if_pos hheld] at hruns
      have hnone : x.kernel.begun c₁ = none := by
        unfold ModeledKernel.begun
        rw [hx.state]
        rfl
      rwa [hnone] at hruns
    -- the response completes it
    obtain ⟨calls, c', hc, hmodel, htxn, hstate⟩ : ∃ calls c',
        (c₁.complete (.proc o) (respond w access).1).Performs env calls c' ∧
          c'.model = some e'.model ∧ c'.nextTxn = c₁.nextTxn ∧
          c'.state = e'.op.elim .idle fun o => .issue (.proc o) := by
      rcases hcases with ⟨hfinished, hm, hop⟩ | ⟨hfinished, d, hadvance, hm, hop⟩
      · rw [hm, hop]
        exact ⟨_, _, ModeledKernel.performs_unfinished hcomplete hfinished, hx.model, rfl, rfl⟩
      · rw [hm, hop]
        exact ModeledKernel.performs_finished hcomplete hfinished hx.model hadvance hheld
    have hmsg := ModeledKernel.answers_reply x.kernel.nextTxn haccess hcomplete
    have hanswer := ModeledKernel.performs_memResponse (c := c₁) rfl hmsg
      (show env.phase = .complete from rfl) hc
    have hworld₀ := hx.world
    have hanswers := hserves.answers w access
    have hworld' := hserves.world w access
    dsimp only at hworld₀
    rw [hworld, hworld₀] at hworld'
    rw [hworld₀] at hanswers
    have hanswered : Step bus others { x with kernel := c₁ } _ :=
      .answered rfl haccess hmsg.response hanswers hanswer
    have hruns := hsent.trans (.step .start hanswered)
    rw [begun_of_wait rfl hstate] at hruns
    refine ⟨_, hruns, ⟨?_, hmodel, hstate, hworld'⟩, ?_, rfl⟩
    · exact (hx.sound.performs hissue).performs hanswer
    · show c'.nextTxn.toNat ≤ _
      rw [htxn]
      exact (UInt64.toNat_add _ _).trans_le (Nat.mod_le _ _)

/-- After an access the operation is at the same stage, or another one begins. -/
lemma Executes.stage (hx : x.Executes view e) (hnext : Execution.next config respond e = .ok e')
    {o' : ProcOp} (ho' : e'.op = some o') :
    (∃ o, e.op = some o ∧ o.stage = o'.stage) ∨ e'.begun = some o'.stage := by
  obtain ⟨m, op, w⟩ := e
  cases op with
  | none =>
    cases hnext
    cases ho'
  | some o =>
    obtain ⟨access, o₁, -, -, hcomplete, hcases⟩ := Execution.next_eq_ok hnext
    have hwork := hx.work rfl
    rcases hcases with ⟨-, -, hop⟩ | ⟨hfinished, d, hadvance, -, hop⟩
    · rw [ho'] at hop
      cases hop
      exact .inl
        ⟨o, rfl, (ProcOp.complete_spec (hx.sound.fits hx.model hwork).data hcomplete).1.symm⟩
    · have hsettles := (hx.sound.advanced hx.model hwork hcomplete hfinished).2 d hadvance
      unfold Decision.Settles at hsettles
      rw [← hop, ho'] at hsettles
      obtain ⟨-, stage, rfl, -⟩ := hsettles
      right
      unfold Execution.begun
      rw [ho']
      rfl

/-- What an execution comes through, a machine with its kernel comes through, and the same stages
begin: as long as the whitelist permits them and transactions are left. -/
theorem Executes.runs (others : Others config) (hx : x.Executes view e)
    (hserves : bus.Serves respond view) {n : ℕ}
    (h : Execution.Through config respond e n stages e')
    (hfirst : ∀ o ∈ e.op, o.stage.Permitted config)
    (hpermitted : ∀ stage ∈ stages, stage.Permitted config)
    (hroom : x.kernel.nextTxn.toNat + n < 2 ^ 64) :
    ∃ x', Runs bus others x stages x' ∧ x'.Executes view e' ∧
      x'.kernel.nextTxn.toNat ≤ x.kernel.nextTxn.toNat + n ∧ x'.trapped = x.trapped := by
  induction h generalizing x with
  | refl => exact ⟨x, .start, hx, Nat.le_refl _, rfl⟩
  | @access e e₁ e' n stages hnext hthrough ih =>
    obtain ⟨x₁, hruns, hx₁, htxn, htrapped⟩ :=
      hx.access others hserves hnext hfirst (by omega)
    have hfirst₁ : ∀ o ∈ e₁.op, o.stage.Permitted config := by
      intro o ho
      rcases hx.stage hnext ho with ⟨o₀, ho₀, hsame⟩ | hbegun
      · exact hsame ▸ hfirst o₀ ho₀
      · exact hpermitted _ (List.mem_append_left _ (Option.mem_toList.mpr hbegun))
    obtain ⟨x', hruns', hx', htxn', htrapped'⟩ := ih hx₁ hfirst₁
      (fun stage hstage => hpermitted stage (List.mem_append_right _ hstage)) (by omega)
    exact ⟨x', hruns.trans hruns', hx', by omega, htrapped'.trans htrapped⟩

/-- Nothing is held between operations. -/
lemma Executes.held (hx : x.Executes view e) (hidle : e.op = none) : x.kernel.held = none := by
  have hstate := hx.state
  rw [hidle] at hstate
  rw [← Option.not_isSome_iff_eq_none, hx.sound.held]
  unfold ModeledKernel.work
  rw [hstate]
  exact Bool.false_ne_true

/-- The kernel takes an `ENTER`, and its first stage begins. -/
lemma Executes.enter (bus : BusMap config) (others : Others config) (hx : x.Executes view e)
    (hidle : e.op = none) {value : UInt32}
    {d : Decision ProcOp} (hstart : e.model.start config value = .ok d) :
    ∃ x', Runs bus others x [d.next.stage] x' ∧
      x'.Executes view { model := d.model, op := some d.next, world := e.world } ∧
      x'.kernel.nextTxn = x.kernel.nextTxn ∧ x'.trapped = x.frame := by
  have hstate := hx.state
  rw [hidle] at hstate
  have hheld := hx.held hidle
  obtain ⟨-, stage, hnext, -⟩ := hx.sound.started hx.model hheld hstart
  let msg : MemV1.MemMsg := .writeReq 0 enterReg (wordBytes value)
  let c : ModeledKernel config :=
    { x.kernel with held := some 0, state := .issue (.proc d.next), model := some d.model }
  let env : Surroundings := { component := 0, now := 0, phase := .request, rng := fun _ => 0 }
  have haccess : msg.access = some (.bytes 0 3) := by
    show some (Access.ofRange _ _) = _
    rw [length_wordBytes]
    rfl
  obtain ⟨calls, hc⟩ : ∃ calls,
      (x.kernel.handleEvent (.message gatePort (.memV1 msg))).Performs env calls c := by
    refine ⟨traces (ModeledKernel.enterNote 0 value (e.model.opName config value) :: d.notes) ++
      [wakeCall config], ?_⟩
    show (x.kernel.gateRequest msg).Performs _ _ _
    unfold ModeledKernel.gateRequest
    rw [haccess]
    dsimp only [msg]
    rw [if_pos ⟨rfl, rfl⟩, word_wordBytes]
    unfold ModeledKernel.enter
    rw [if_neg (by rw [hheld]; exact Bool.false_ne_true), hx.model]
    dsimp only
    rw [hstart]
    exact ModeledKernel.performs_emit.mpr
      ⟨_, rfl, ModeledKernel.performs_wakeNextCycle.mpr ⟨rfl, rfl⟩⟩
  have hstep : Step bus others x _ := .takes (by rintro msg ⟨⟩) hc
  have hruns := Runs.step .start hstep
  have hbegun : x.kernel.begun c = some d.next.stage := by
    unfold ModeledKernel.begun
    rw [hstate]
    show (if d.next.step = 0 then some d.next.stage else none) = _
    rw [hnext]
    rfl
  rw [hbegun, if_neg (by rw [hheld]; exact Bool.false_ne_true)] at hruns
  exact ⟨_, hruns, ⟨hx.sound.performs hc, rfl, rfl, hx.world⟩, rfl, rfl⟩

end Machine

/-! ## Stages that the whitelist permits -/

/-- The gate is apart from the RAM. -/
def KernelConfig.GateApart (config : KernelConfig) : Prop :=
  ¬config.gate.Overlaps config.ram.base.toNat config.ram.size.toNat

lemma permits_of_within (hgate : config.GateApart) {g : Window} (hg : g ∈ config.grants)
    (hram : config.ram.Contains g.base.toNat g.size.toNat) {base size : ℕ}
    (h : g.Contains base size)
    {a : Access} (hpos : 0 < a.len) (ha : a.Within base size) : config.Permits a.addr a.len := by
  unfold Access.Within at ha
  obtain ⟨-, hbase, hlt, hstop⟩ := h
  obtain ⟨hne, hbase', hlt', hstop'⟩ := hram
  refine ⟨fun hoverlap => hgate ?_, g, hg, by omega, by omega, by omega, by omega⟩
  unfold Window.Overlaps Window.saturatingAdd at hoverlap ⊢
  obtain ⟨-, hsize, hbelow, habove⟩ := hoverlap
  exact ⟨by omega, hsize, by omega, by omega⟩

namespace Stage

/-- A stage of a boot from a plan, or one that reads the frame or writes it for a dispatch. -/
def Plain : Stage → Prop
  | create .. | dispatch .. | readFrame => True
  | _ => False

instance : (stage : Stage) → Decidable stage.Plain
  | create .. | dispatch .. | readFrame => isTrue trivial
  | load .. | command _ | poll _ | ack .. | staged .. | walk .. | output .. | return_ ..
  | shutdown _ => isFalse id

variable {m : Model} {stage : Stage}

lemma permitted_of_frame (hvalid : config.Valid) (hgate : config.GateApart)
    (h : ∀ (o : ProcOp) (a : Access), o.stage = stage → o.access config = .ok (some a) →
      0 < a.len ∧ a.Within config.trapFrame.toNat frameBytes) : stage.Permitted config := by
  intro o a ho _ ha
  obtain ⟨hpos, hin⟩ := h o a ho ha
  have hbase : config.frame.base.toNat = config.trapFrame.toNat := UInt32.toNat_toUInt64 _
  have hsize : config.frame.size.toNat = frameBytes :=
    (by decide : (UInt64.ofNat frameBytes).toNat = frameBytes)
  have hram := hvalid.frame_in_ram
  refine permits_of_within hgate List.mem_cons_self hram ?_ hpos hin
  rw [hbase, hsize] at hram
  obtain ⟨hne, -, hlt, -⟩ := hram
  exact ⟨hne, hbase.le, hlt, by omega⟩

/-- The whitelist permits a plain stage, if no copy of the plan wraps. -/
lemma Fits.permitted (hfits : stage.Fits config m) (hvalid : m.source.Valid config)
    (hplain : stage.Plain) (hgate : config.GateApart)
    (hwrap : ∀ plan, m.source = .plan plan → ∀ boot ∈ plan.images, CopiesWrapNot boot.image) :
    stage.Permitted config := by
  cases stage with
  | create pid s =>
    obtain ⟨plan, boot, hsource, -, -, hboot, hcreated, -⟩ := hfits
    have hplan : plan.Valid config := by
      rw [hsource] at hvalid
      exact hvalid
    have hmem := List.mem_of_getElem? hboot
    have hfit := hplan.images boot hmem
    obtain ⟨mapped, hbuilt⟩ := Space.built_of_build hcreated.built
    have hconfines := (hcreated.confines_iff hplan.layout hfit).mpr (hwrap plan hsource boot hmem)
    rintro ⟨stage, step, data⟩ a ⟨⟩ hdata ha
    have hmakes : s.Makes a := ⟨step, data, hdata, Except.ok.inj ha⟩
    obtain ⟨hpos, -⟩ := hbuilt.len_makes hmakes
    have hconfined := hconfines a hmakes
    cases a with
    | read addr len =>
      exact permits_of_within hgate
        (.tail _ (.head _)) hplan.layout.valid.staging_in_ram hfit.staged
        hpos hconfined
    | write addr bytes =>
      obtain ⟨f, hf, hin⟩ := hconfined
      exact permits_of_within hgate (.tail _ (.tail _ (.head _))) hplan.layout.valid.pool_in_ram
        (hcreated.inPool hplan.layout hf) hpos hin
  | dispatch pid context satp =>
    refine permitted_of_frame hvalid.layout.valid hgate ?_
    rintro ⟨stage, step, data⟩ a ⟨⟩ ha
    obtain ⟨c, hc, rfl⟩ := Option.map_eq_some_iff.mp (Except.ok.inj ha)
    obtain ⟨hpiece, hle, hlt⟩ := mem_dispatchChunks (List.mem_of_getElem? hc)
    have hpos := hpiece.pos
    have hlen : (writeChunk config.trapFrame.toNat (dispatchBytes context satp) c).len = c.2 := by
      show ((List.drop _ _).take c.2).length = c.2
      rw [List.length_take, List.length_drop, length_dispatchBytes]
      omega
    exact ⟨hlen ▸ hpiece.pos, hle, (congrArg (c.1 + ·) hlen).trans_le hlt⟩
  | readFrame =>
    refine permitted_of_frame hvalid.layout.valid hgate ?_
    rintro ⟨stage, step, data⟩ a ⟨⟩ ha
    obtain ⟨c, hc, rfl⟩ := Option.map_eq_some_iff.mp (Except.ok.inj ha)
    obtain ⟨hpiece, hle, hlt⟩ := mem_chunks (List.mem_of_getElem? hc)
    exact ⟨hpiece.pos, hle, hlt⟩
  | _ => exact hplain.elim

end Stage

/-! ## Whole stages -/

namespace BusMap

variable (bus : BusMap config)

lemma serves_respond (registers : Access → Bytes) : bus.Serves (bus.respond registers) id where
  answers w access hdevices := if_neg (by rw [hdevices]; exact Bool.false_ne_true)
  world _ _ := rfl

/-- Devices that keep what the UART is sent. -/
def console : Responder (Board Bytes) := fun w access =>
  ((bus.respond (fun _ => []) { memory := w.memory, uart := w.devices } access).1,
    { memory := bus.effect w.memory access
      devices := w.devices ++ Machine.transmitted config access })

lemma serves_console :
    bus.Serves (bus.serve bus.console) fun w => { memory := w.memory, uart := w.devices } where
  answers w access hdevices := by
    rw [bus.serve_memory _ access hdevices]
  world w access := by
    by_cases hdevices : bus.devices access.addr = true
    · rw [bus.serve_device _ access hdevices]
      rfl
    · rw [bus.serve_memory _ access (by simpa using hdevices)]
      have haddr : access.addr ≠ config.uartTx.toNat := by
        intro haddr
        rw [haddr] at hdevices
        exact hdevices bus.uart
      unfold BusMap.effect Machine.transmitted
      rw [if_neg hdevices, if_neg haddr, List.append_nil]

end BusMap

namespace Machine

variable {bus : BusMap config} {others : Others config} {x : Machine config} {m : Model}

/-- The machine is where an operation is, with its own memory. -/
def At (x : Machine config) (m : Model) (op : Option ProcOp) : Prop :=
  x.Executes id { model := m, op, world := { memory := x.memory, uart := x.uart } }

lemma through_plain (bus : BusMap config) {stage : Stage} {d : Decision (Option ProcOp)} (w : World)
    (hfits : stage.Fits config m) (hvalid : m.source.Valid config) (hplain : stage.Plain)
    (hwrap : ∀ plan, m.source = .plan plan → ∀ boot ∈ plan.images, CopiesWrapNot boot.image)
    (hadvance : m.advance config
      { stage, step := 0, data := w.memory.read config.trapFrame.toNat frameBytes } = .ok d) :
    ∃ (σ : Type) (respond : Responder σ) (view : σ → World) (w₀ w₁ : σ) (n : ℕ),
      bus.Serves respond view ∧ view w₀ = w ∧ n ≤ 2 ^ 32 ∧
        let last : Execution σ := { model := d.model, op := d.next, world := w₁ }
        Execution.Through config respond { model := m, op := some (.new stage), world := w₀ } n
          last.begun.toList last := by
  have hlength (base len : ℕ) (hlen : len ≤ 2 ^ 16) : (chunks base len).length ≤ 2 ^ 16 :=
    (ProcOp.length_chunks_le base len).trans hlen
  cases stage with
  | create pid s =>
    obtain ⟨plan, boot, hsource, -, -, hboot, hcreated, -⟩ := hfits
    have hplan : plan.Valid config := by
      rw [hsource] at hvalid
      exact hvalid
    have hmem := List.mem_of_getElem? hboot
    have hfit := hplan.images boot hmem
    obtain ⟨mapped, hsound⟩ := hcreated.sound hplan.layout hfit
      ((copiesInPage_iff hfit.copies).mpr (hwrap plan hsource boot hmem))
    exact ⟨_, _, _, { memory := w.memory, devices := w.uart }, _, _, bus.serves_console, rfl,
      hsound.accesses_lt.le, .creation bus bus.console rfl hsound hfit hadvance⟩
  | dispatch pid context satp =>
    cases hadvance
    refine ⟨_, _, _, { memory := w.memory, devices := w.uart }, _, _, bus.serves_console, rfl, ?_,
      .dispatch bus bus.console hvalid.layout.valid pid context satp⟩
    unfold dispatchChunks
    rw [List.length_append]
    have hcontext := hlength config.trapFrame.toNat contextBytes (by decide)
    have hsatp := hlength (config.trapFrame.toNat + frameSatp) 8 (by decide)
    omega
  | readFrame =>
    exact ⟨_, _, _, w, _, _, bus.serves_respond fun _ => [], rfl,
      (hlength _ _ (by decide)).trans (by decide),
      .readFrame bus (fun _ => []) hvalid.layout.valid hadvance⟩
  | _ => exact hplain.elim

/-- A plain stage runs to its end, and the next one begins, if it is plain as well. -/
theorem At.finishes (bus : BusMap config) (others : Others config) {stage : Stage}
    {d : Decision (Option ProcOp)} (hx : x.At m (some (.new stage)))
    (hplain : stage.Plain) (hnext : ∀ o ∈ d.next, o.stage.Plain) (hgate : config.GateApart)
    (hwrap : ∀ plan, m.source = .plan plan → ∀ boot ∈ plan.images, CopiesWrapNot boot.image)
    (hadvance : m.advance config { stage, step := 0, data := x.frame } = .ok d)
    (hroom : x.kernel.nextTxn.toNat + 2 ^ 32 < 2 ^ 64) :
    ∃ x', Runs bus others x (d.next.map ProcOp.stage).toList x' ∧
      x'.At d.model ((d.next.map ProcOp.stage).map .new) ∧ d.model.source = m.source ∧
      x'.kernel.nextTxn.toNat ≤ x.kernel.nextTxn.toNat + 2 ^ 32 := by
  have hfits : stage.Fits config m := (hx.sound.fits hx.model (hx.work rfl)).stage
  have hvalid := hx.sound.valid m hx.model
  have hsettles : d.Settles config m := by
    refine (Model.advance_yields (o := { stage, step := 0, data := x.frame }) hfits ?_).of_ok
      hadvance
    rintro cursor len rfl
    exact hplain.elim
  obtain ⟨σ, respond, view, w₀, w₁, n, hserves, hw₀, hn, hthrough⟩ :=
    through_plain bus { memory := x.memory, uart := x.uart } hfits hvalid hplain hwrap hadvance
  obtain ⟨hbegun, hnew, hsource, hpermitted⟩ :
      ({ model := d.model, op := d.next, world := w₁ } : Execution σ).begun =
        d.next.map ProcOp.stage ∧
        d.next = (d.next.map ProcOp.stage).map .new ∧ d.model.source = m.source ∧
        ∀ stage' ∈ d.next.map ProcOp.stage, stage'.Permitted config := by
    unfold Decision.Settles at hsettles
    cases hd : d.next with
    | none =>
      rw [hd] at hsettles
      exact ⟨rfl, rfl, congrArg Model.source hsettles.1, nofun⟩
    | some o =>
      rw [hd] at hsettles
      obtain ⟨hsource, stage', rfl, hfits'⟩ := hsettles
      refine ⟨rfl, rfl, hsource, ?_⟩
      rintro _ ⟨⟩
      exact hfits'.permitted (hsource ▸ hvalid) (hnext _ hd) hgate (hsource ▸ hwrap)
  dsimp only at hthrough
  rw [hbegun] at hthrough
  have hfirst : ∀ o ∈ some (ProcOp.new stage), o.stage.Permitted config := by
    rintro _ ⟨⟩
    exact hfits.permitted hvalid hplain hgate hwrap
  have hx₀ : x.Executes view { model := m, op := some (.new stage), world := w₀ } :=
    ⟨hx.sound, hx.model, hx.state, hw₀⟩
  obtain ⟨x', hruns, hx', htxn, -⟩ := hx₀.runs others hserves hthrough hfirst
    (fun stage' hstage' => hpermitted stage' (Option.mem_toList.mp hstage')) (by omega)
  rw [← hnew]
  exact ⟨x', hruns, ⟨hx'.sound, hx'.model, hx'.state, rfl⟩, hsource, by omega⟩

end Machine

/-! ## Turns -/

namespace Model

variable (config : KernelConfig) (m : Model)

/-- What is decided after a stage, without the check that a process that was created is new. -/
def proceed (o : ProcOp) : Outcome (Decision (Option ProcOp)) :=
  match o.stage, m.source with
  | .create pid space, .plan plan => do
    let boot ← planImage plan pid
    let pcb := Pcb.new pid space (.initial boot.image.entry plan.layout.stackTop)
    let notes := boot.image.segments.map (segmentNote pid) ++
      [createNote pid boot.image.entry space.root ""]
    return continue_ (after notes (← nextCreation config
      { m with
        procs :=
          { m.procs with queue := m.procs.queue ++ [pid], pcbs := m.procs.pcbs ++ [pcb] } }
      pid))
  | _, _ => m.advance config o

/-- The check never fails. -/
lemma advance_eq_proceed {m : Model} {o : ProcOp} (h : o.stage.Fits config m) :
    m.advance config o = m.proceed config o := by
  obtain ⟨stage, step, data⟩ := o
  unfold proceed
  cases stage with
  | create pid s =>
    obtain ⟨plan, boot, hsource, -, hpid, hboot, hcreated, hbooting⟩ := h
    obtain ⟨hok, hperm⟩ := pcb_of_built hcreated.built pid
      (Context.initial boot.image.entry plan.layout.stackTop)
    obtain ⟨hadmitted, -⟩ := Processes.Ok.admit_ hbooting.procs hperm hok rfl
    have himage : planImage plan pid = .ok boot := by
      unfold planImage
      rw [if_neg (Nat.ne_of_gt hpid), hboot]
    unfold advance admit_
    dsimp only
    rw [hsource]
    dsimp only
    rw [himage]
    show Except.bind (Except.bind (Except.mapError _ (Processes.admit_ m.procs _)) _) _ = _
    rw [show Source.layout (.plan plan) = plan.layout from rfl, hadmitted]
    rfl
  | _ => rfl

/-- The stages that come one after the other, with an `ENTER` after the end of each operation and a
trap frame that is always the same; nothing if one of them is not plain. -/
def course (frame : Bytes) : ℕ → Model → Option Stage → Option (List Stage × Model × Option Stage)
  | 0, m, stage => some ([], m, stage)
  | n + 1, m, stage =>
    let decision := match stage with
      | none => do return continue_ (← m.start config config.trapFrame)
      | some stage => m.proceed config { stage, step := 0, data := frame }
    match decision with
    | .error _ => none
    | .ok d =>
      let next := d.next.map ProcOp.stage
      if (∀ s ∈ next, s.Plain) ∧ (stage ≠ none → next ≠ some .readFrame) then
        (course frame n d.model next).map fun r => (next.toList ++ r.1, r.2)
      else none

end Model

namespace Machine

variable {bus : BusMap config} {x : Machine config} {m m' : Model} {frame : Bytes}
  {stage stage' : Option Stage} {stages : List Stage}

/-- Others may change the memory while no `ENTER` is held. -/
def free : Others config := fun c _ _ => c.held = none

/-- At the start of a trap the frame is the one that is always the same. -/
def Trapped (x : Machine config) (frame : Bytes) (stage : Option Stage) : Prop :=
  stage = some .readFrame → x.frame = frame ∧ x.trapped = frame

/-- The frame is put into the memory, and an `ENTER` is taken. -/
lemma At.traps (bus : BusMap config) (hx : x.At m none) (hframe : frame.length = frameBytes)
    {d : Decision ProcOp}
    (hstart : m.start config config.trapFrame = .ok d) :
    ∃ x', Runs bus free x [d.next.stage] x' ∧ x'.At d.model (some (.new d.next.stage)) ∧
      d.model.source = m.source ∧ x'.kernel.nextTxn = x.kernel.nextTxn ∧
      x'.Trapped frame (some d.next.stage) := by
  have hheld := Executes.held hx rfl
  let x₁ : Machine config := { x with memory := x.memory.write config.trapFrame.toNat frame }
  have hx₁ : x₁.At m none := ⟨hx.sound, hx.model, hx.state, rfl⟩
  have hset : Runs bus free x [] x₁ := by
    have hstep : Step bus free x x₁ := .others hheld
    have hruns := Runs.step .start hstep
    rwa [ModeledKernel.begun_self] at hruns
  obtain ⟨x', hruns, hx', htxn, htrapped⟩ := hx₁.enter bus free rfl hstart
  obtain ⟨hsource, stage, hnext, -⟩ := hx.sound.started hx.model hheld hstart
  have hworld := hx'.world
  have hmemory : x'.memory = x₁.memory := (World.mk.inj hworld).1.symm
  have hwritten : x₁.frame = frame := by
    show (x.memory.write config.trapFrame.toNat frame).read _ _ = frame
    rw [← hframe, ByteMap.read_write_covers (ByteMap.covers_self (config.trapFrame.toNat, frame))]
    exact ByteMap.slice_self (config.trapFrame.toNat, frame)
  have hsame : x'.frame = frame := by
    unfold Machine.frame
    rw [hmemory]
    exact hwritten
  refine ⟨x', hset.trans hruns, ⟨hx'.sound, hx'.model, ?_, rfl⟩, hsource, htxn, fun _ =>
    ⟨hsame, htrapped.trans hwritten⟩⟩
  rw [hx'.state, hnext]
  rfl

/-- A machine goes through the stages that come one after the other. -/
theorem At.goes {n : ℕ} (hx : x.At m (stage.map .new)) (hframe : frame.length = frameBytes)
    (hplain : ∀ s ∈ stage, s.Plain) (htrapped : x.Trapped frame stage) (hgate : config.GateApart)
    (hwrap : ∀ plan, m.source = .plan plan → ∀ boot ∈ plan.images, CopiesWrapNot boot.image)
    (hcourse : m.course config frame n stage = some (stages, m', stage'))
    (hroom : x.kernel.nextTxn.toNat + n * 2 ^ 32 < 2 ^ 64) :
    ∃ x', Runs bus free x stages x' ∧ x'.At m' (stage'.map .new) ∧ x'.Trapped frame stage' ∧
      m'.source = m.source ∧ x'.kernel.nextTxn.toNat ≤ x.kernel.nextTxn.toNat + n * 2 ^ 32 := by
  induction n generalizing x m stage stages with
  | zero =>
    cases hcourse
    exact ⟨x, .start, hx, htrapped, rfl, Nat.le_add_right _ _⟩
  | succ n ih =>
    unfold Model.course at hcourse
    dsimp only at hcourse
    split at hcourse
    · cases hcourse
    · next d hd =>
      obtain ⟨⟨hplain', hno⟩, hcourse⟩ := Option.ite_none_right_eq_some.mp hcourse
      obtain ⟨⟨stages', m'', stage''⟩, hrest, hlast⟩ := Option.map_eq_some_iff.mp hcourse
      cases hlast
      -- one stage
      obtain ⟨x₁, hruns, hx₁, hsource, htxn, htrapped₁⟩ : ∃ x₁,
          Runs bus free x (d.next.map ProcOp.stage).toList x₁ ∧
            x₁.At d.model ((d.next.map ProcOp.stage).map .new) ∧ d.model.source = m.source ∧
            x₁.kernel.nextTxn.toNat ≤ x.kernel.nextTxn.toNat + 2 ^ 32 ∧
            x₁.Trapped frame (d.next.map ProcOp.stage) := by
        cases stage with
        | none =>
          obtain ⟨d', hstart, hd⟩ := bind_eq_ok.mp hd
          cases hd
          obtain ⟨x₁, hruns, hx₁, hsource, htxn, htrapped₁⟩ := hx.traps bus hframe hstart
          exact ⟨x₁, hruns, hx₁, hsource, htxn ▸ Nat.le_add_right _ _, htrapped₁⟩
        | some s =>
          have hfits : s.Fits config m := (hx.sound.fits hx.model (hx.work rfl)).stage
          dsimp only at hd
          rw [← Model.advance_eq_proceed config hfits] at hd
          have hadvance : m.advance config { stage := s, step := 0, data := x.frame } = .ok d := by
            cases s with
            | readFrame => rwa [(htrapped rfl).1]
            | create | dispatch => exact hd
            | _ => exact (hplain _ rfl).elim
          obtain ⟨x₁, hruns, hx₁, hsource, htxn⟩ := hx.finishes bus free
            (hplain s rfl) (fun o ho => hplain' _ (Option.mem_map_of_mem _ ho)) hgate hwrap hadvance
            (by omega)
          exact ⟨x₁, hruns, hx₁, hsource, htxn, fun hread => absurd hread (hno nofun)⟩
      obtain ⟨x', hruns', hx', htrapped', hsource', htxn'⟩ :=
        ih hx₁ hplain' htrapped₁ (hsource ▸ hwrap) hrest (by omega)
      exact ⟨x', hruns.trans hruns', hx', htrapped', hsource'.trans hsource, by omega⟩

end Machine

/-! ## Two processes that yield -/

/-- Two processes of the small executable. -/
def pairPlan : ProcessPlan := { layout := smallLayout, images := [smallElfBoot, smallElfBoot] }

def pairKernel : ModeledKernel (smallConfig 0x80000000) := .withSource _ (.plan pairPlan)

/-- The trap frame of a process that yields. -/
def yieldFrame : Bytes :=
  putWord (putWord (List.replicate frameBytes 0) frameA7 sysSchedYield) frameScause ecallFromU

lemma pairKernel_validated : pairKernel.Validated := by
  refine .processes pairPlan ?_
  have hvalid : pairPlan.validate (smallConfig 0x80000000) = .ok () := by decide +kernel
  unfold ModeledKernel.withProcesses
  rw [hvalid]
  rfl

def pairMachine : Machine (smallConfig 0x80000000) :=
  { kernel := pairKernel, memory := fun _ => 0, uart := [], trapped := [] }

/-- What the two processes come through, as far as their model says. -/
def pairCourse (n : ℕ) : Option (List Stage × Model × Option Stage) :=
  pairKernel.model.bind fun m => m.course (smallConfig 0x80000000) yieldFrame n none

/-- A machine with the two processes comes through what their model says. -/
lemma pair_goes {x : Machine (smallConfig 0x80000000)} {m m' : Model} {stage stage' : Option Stage}
    {n : ℕ} {stages : List Stage} (hx : x.At m (stage.map .new)) (hplain : ∀ s ∈ stage, s.Plain)
    (htrapped : x.Trapped yieldFrame stage) (hsource : m.source = .plan pairPlan)
    (hcourse : m.course (smallConfig 0x80000000) yieldFrame n stage = some (stages, m', stage'))
    (hroom : x.kernel.nextTxn.toNat + n * 2 ^ 32 < 2 ^ 64) :
    ∃ x', Machine.Runs smallBus Machine.free x stages x' ∧ x'.At m' (stage'.map .new) ∧
      x'.Trapped yieldFrame stage' ∧ m'.source = m.source ∧
        x'.kernel.nextTxn.toNat ≤ x.kernel.nextTxn.toNat + n * 2 ^ 32 := by
  refine hx.goes (by decide +kernel) hplain htrapped (show ¬Window.Overlaps _ _ _ by decide) ?_
    hcourse hroom
  rw [hsource]
  rintro _ ⟨⟩
  decide +kernel

/-- The machine comes through it from the start. -/
lemma pairMachine_goes {n : ℕ} {stages : List Stage} {m : Model} {stage : Option Stage}
    (h : pairCourse n = some (stages, m, stage)) (hn : n ≤ 2 ^ 16) :
    ∃ x, Machine.Runs smallBus Machine.free pairMachine stages x ∧ x.At m (stage.map .new) ∧
      x.Trapped yieldFrame stage ∧ m.source = .plan pairPlan ∧
        x.kernel.nextTxn.toNat ≤ n * 2 ^ 32 := by
  obtain ⟨m₀, hm₀, hcourse⟩ := Option.bind_eq_some_iff.mp h
  cases hm₀
  have hx : pairMachine.At (.new (.plan pairPlan) _) (Option.map .new none) :=
    ⟨pairKernel_validated.sound, rfl, rfl, rfl⟩
  have hstart : pairMachine.kernel.nextTxn.toNat = 0 := rfl
  obtain ⟨x, hruns, hx, htrapped, hsource, htxn⟩ :=
    pair_goes hx nofun nofun rfl hcourse (by omega)
  exact ⟨x, hruns, hx, htrapped, hsource, by omega⟩

/-- A run up to a stage, the step with which it begins, and the rest. -/
lemma ModeledKernel.Passes.split {c₀ c : ModeledKernel config} {before after : List Stage}
    {stage : Stage} (h : Passes c₀ (before ++ stage :: after) c) :
    ∃ c₁ c₂ delivery env calls, Passes c₀ before c₁ ∧
      (c₁.handleEvent delivery).Performs env calls c₂ ∧ begun c₁ c₂ = some stage ∧
      Passes c₂ after c := by
  generalize hstages : before ++ stage :: after = stages at h
  induction h generalizing after with
  | start => simp at hstages
  | @event stages c₁ c₂ hpasses delivery env calls hc ih =>
    have hrest {after : List Stage} (hsame : before ++ stage :: after = stages) :
        ∃ c c' delivery env calls, Passes c₀ before c ∧
          (c.handleEvent delivery).Performs env calls c' ∧
          begun c c' = some stage ∧ Passes c' (after ++ (begun c₁ c₂).toList) c₂ := by
      obtain ⟨c, c', delivery, env, calls, hbefore, hstep, hbegun, hafter⟩ := ih hsame
      exact ⟨c, c', delivery, env, calls, hbefore, hstep, hbegun, .event hafter hc⟩
    cases hlast : begun c₁ c₂ with
    | none =>
      rw [hlast, Option.toList_none, List.append_nil] at hstages
      have h := hrest hstages
      rwa [hlast, Option.toList_none, List.append_nil] at h
    | some last =>
      rw [hlast, Option.toList_some] at hstages
      rcases List.eq_nil_or_concat after with rfl | ⟨after', b, rfl⟩
      · obtain ⟨rfl, hsame⟩ := List.append_inj' hstages rfl
        cases hsame
        exact ⟨c₁, c₂, delivery, env, calls, hpasses, hc, hlast, .start⟩
      · rw [List.concat_eq_append, ← List.cons_append, ← List.append_assoc] at hstages
        obtain ⟨hsame, hb⟩ := List.append_inj' hstages rfl
        cases hb
        have h := hrest hsame
        rwa [hlast, Option.toList_some, ← List.concat_eq_append] at h

open ModeledKernel in
/-- Both processes are dispatched, and the first one again: between its dispatches comes the other
one, which was queued. -/
theorem round_robin_pair : ∃ stages c m c' m' stages' c'', Passes pairKernel stages c ∧
    c.model = some m ∧ (begun c c').bind Stage.dispatchedPid = some 1 ∧ c'.model = some m' ∧
      Passes c' stages' c'' ∧ stages'.filterMap Stage.dispatchedPid = [2, 1] ∧
        m'.procs.queue = [2] := by
  have hcourse : (pairCourse 9).map (fun r => r.1.filterMap Stage.dispatchedPid) =
    some [1, 2, 1] := by
    decide +kernel
  obtain ⟨⟨stages, m₉, stage⟩, hcourse, hpids⟩ := Option.map_eq_some_iff.mp hcourse
  obtain ⟨x, hruns, -⟩ := pairMachine_goes hcourse (by decide)
  obtain ⟨before, first, after, rfl, -, hfirst, hafter⟩ := List.filterMap_eq_cons_iff.mp hpids
  obtain ⟨c, c', delivery, env, calls, hbefore, hc, hbegun, hpasses⟩ := hruns.passes.split
  obtain ⟨o, hstate, -⟩ := begun_eq_some hbegun
  have hsound := pairKernel_validated.sound.passes hbefore
  obtain ⟨m', hm', -⟩ : Work.Fits (smallConfig 0x80000000) c'.model (some (.proc o)) := by
    have hwork := (hsound.performs hc).work
    unfold ModeledKernel.work at hwork
    rwa [hstate] at hwork
  obtain ⟨m, -, hm, -⟩ := hsound.turn_into hm' hc
  have hpid : (begun c c').bind Stage.dispatchedPid = some 1 := by
    rw [hbegun]
    exact hfirst
  obtain ⟨hturns, -⟩ := round_robin pairKernel_validated hbefore hm
  obtain ⟨-, -, hbetween⟩ := hturns delivery env calls c' m' 1 hc hm' hpid
  exact ⟨before, c, m, c', m', after, x.kernel, hbefore, hm, hpid, hm', hpasses, hafter,
    (hbetween after x.kernel [2] hpasses hafter (by decide)).symm⟩

/-- The first process yields, and after the other one had its turn it is dispatched with the context
that it trapped with. -/
theorem context_preserved_pair : ∃ x m pcb between context satp x',
    (∃ stages, Machine.Runs smallBus Machine.free pairMachine stages x) ∧ x.Saves m pcb ∧
      x.trapped = yieldFrame ∧
      Machine.Runs smallBus Machine.free x (between ++ [.dispatch pcb.pid context satp]) x' ∧
      between.filterMap Stage.dispatchedPid = [2] ∧
      context = Model.yieldContext yieldFrame ∧ satp = Pte.satp pcb.root := by
  have hcourses : ((pairCourse 5).bind fun r =>
      (r.2.1.procs.current.bind r.2.1.procs.pcb).bind fun p =>
        (r.2.1.course (smallConfig 0x80000000) yieldFrame 4 r.2.2).map fun s =>
          (r.2.2, p.pid, s.1.map Stage.dispatchedPid)) =
      some (some .readFrame, 1, [some 2, none, some 1]) := by decide +kernel
  obtain ⟨⟨stages, m, stage⟩, hfirst, hcourses⟩ := Option.bind_eq_some_iff.mp hcourses
  obtain ⟨p, hrunning, hcourses⟩ := Option.bind_eq_some_iff.mp hcourses
  obtain ⟨pid, hcurrent, hp⟩ := Option.bind_eq_some_iff.mp hrunning
  obtain ⟨⟨stages', m', stage'⟩, hthen, hcourses⟩ := Option.map_eq_some_iff.mp hcourses
  dsimp only at hcurrent hp hthen hcourses
  obtain ⟨rfl, hpid, hpids⟩ : stage = some .readFrame ∧ p.pid = 1 ∧ _ := by
    simpa only [Prod.mk.injEq] using hcourses
  obtain ⟨a, _, rfl, ha, hpids⟩ := List.map_eq_cons_iff.mp hpids
  obtain ⟨b, _, rfl, hb, hpids⟩ := List.map_eq_cons_iff.mp hpids
  obtain ⟨c, _, rfl, hc, hpids⟩ := List.map_eq_cons_iff.mp hpids
  obtain rfl := List.map_eq_nil_iff.mp hpids
  obtain ⟨⟨_, context⟩, hdispatch, rfl⟩ := Option.map_eq_some_iff.mp hc
  obtain ⟨satp, rfl⟩ := dispatch_mem hdispatch
  -- the run up to the yield, and on to the next dispatch
  obtain ⟨x, hruns, hx, htrapped, hsource, htxn⟩ := pairMachine_goes hfirst (by decide)
  obtain ⟨x', hruns', -⟩ := pair_goes hx (by simp [Stage.Plain]) htrapped hsource hthen (by omega)
  obtain ⟨hmem, rfl⟩ := (hx.sound.ok hx.model).pcb_eq_some.mp hp
  let pcb : Pcb := { p with state := .ready, context := some (Model.yieldContext yieldFrame) }
  have hsaves : x.Saves m pcb := by
    refine ⟨_, hx.work rfl, .inr ⟨rfl, ?_, p, hmem, hcurrent, ?_⟩⟩
    · rw [(htrapped rfl).2]
      unfold AsksToYield
      decide +kernel
    · rw [(htrapped rfl).2]
  have hbetween : [a, b].filterMap Stage.dispatchedPid = [2] := by simp [ha, hb]
  obtain ⟨hdispatched, -⟩ := Machine.context_preserved pairKernel_validated
    (fun _ _ _ hfree hheld => by rw [hfree] at hheld; cases hheld) hruns hx.model
  obtain ⟨hcontext, hsatp, -⟩ := hdispatched pcb hsaves [a, b] context satp x'
    (hpid ▸ hruns') (by rw [hbetween, show pcb.pid = 1 from hpid]; decide)
  exact ⟨x, m, pcb, [a, b], context, satp, x', ⟨_, hruns⟩, hsaves, (htrapped rfl).2, hpid ▸ hruns',
    hbetween, (Option.some.inj hcontext).symm, hsatp⟩

end SystemScope.Os
