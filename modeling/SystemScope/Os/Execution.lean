import SystemScope.Framework.ByteMap
import SystemScope.Os.Lives
import SystemScope.Os.Steps

/-!
# The execution of an operation

An operation with a world that answers its accesses (`Execution`): the access that is due is
answered, the completion advances the stage, and the end of a stage is decided by the model.  A
stage runs from its start to its end in as many accesses as it has (`Through.stage`).
-/

namespace SystemScope.Os

open Checks

/-- What a world answers to an access, and the world after it. -/
abbrev Responder (σ : Type) := σ → Access → Completion × σ

/-- An operation of a kernel with processes, until it is over, in a world. -/
structure Execution (σ : Type) where
  model : Model
  op : Option ProcOp
  world : σ

/-- The answer to the access that is due leads to the next step, whose working data it leaves. -/
lemma ProcOp.complete_of_answered {o : ProcOp} {access : Access} {completion : Completion}
    {data : Bytes} {n : ℕ} (ha : o.access config = .ok (some access))
    (hdata : answered access completion o.data = .ok data) (hn : o.steps config = .ok n)
    (hkeep : o.step + 1 < n → data.length = o.dataLen config (o.step + 1)) :
    o.complete config completion = .ok (.ok { o with step := o.step + 1, data }) := by
  refine bind_eq_ok.mpr ⟨_, ha, ?_⟩
  dsimp only
  rw [hdata]
  refine bind_eq_ok.mpr ⟨_, bind_eq_ok.mpr ⟨n, hn, ?_⟩, rfl⟩
  exact congrArg Except.ok (if_neg fun hdrop => hdrop.2 (hkeep hdrop.1))

namespace Execution

variable {σ : Type} (config : KernelConfig) (respond : Responder σ)

/-- The access that is due is answered, and the kernel goes on; nothing happens once the operation
is over. -/
def next (x : Execution σ) : Outcome (Execution σ) :=
  match x.op with
  | none => .ok x
  | some o => do
    match ← (o.access config).mapError .panic with
    | none => violate "no access is due"
    | some access =>
      match ← (o.complete config (respond x.world access).1).mapError .panic with
      | .error _ => violate "the completion does not answer the access"
      | .ok o =>
        if ← (o.isFinished config).mapError .panic then do
          let d ← x.model.advance config o
          return { model := d.model, op := d.next, world := (respond x.world access).2 }
        else return { x with op := some o, world := (respond x.world access).2 }

/-- A number of accesses. -/
def run : ℕ → Execution σ → Outcome (Execution σ)
  | 0, x => .ok x
  | n + 1, x => do run n (← next config respond x)

/-- Some number of accesses leads there. -/
def Reaches (x y : Execution σ) : Prop := ∃ n, run config respond n x = .ok y

/-- The stage at whose start the operation is. -/
def begun (x : Execution σ) : Option Stage :=
  x.op.bind fun o => if o.step = 0 then some o.stage else none

/-- A number of accesses leads there, and these stages begin meanwhile. -/
inductive Through : Execution σ → ℕ → List Stage → Execution σ → Prop
  | refl (x : Execution σ) : Through x 0 [] x
  | access {x y z : Execution σ} {n : ℕ} {stages : List Stage}
      (hnext : next config respond x = .ok y) (h : Through y n stages z) :
      Through x (n + 1) (y.begun.toList ++ stages) z

/-- The access that is due is answered in a world, which leads to the next step. -/
def Exchanged (o : ProcOp) (w : σ) (o' : ProcOp) (w' : σ) : Prop :=
  ∃ access, o.access config = .ok (some access) ∧ (respond w access).2 = w' ∧
    o.complete config (respond w access).1 = .ok (.ok o')

variable {config : KernelConfig} {respond : Responder σ} {x y z : Execution σ} {m : Model}
  {o o' : ProcOp} {w w' : σ}

lemma Reaches.refl (x : Execution σ) : Reaches config respond x x := ⟨0, rfl⟩

lemma run_add {n k : ℕ} (h : run config respond n x = .ok y) :
    run config respond (n + k) x = run config respond k y := by
  induction n generalizing x with
  | zero =>
    cases h
    rw [Nat.zero_add]
  | succ n ih =>
    obtain ⟨x', hx', h⟩ := bind_eq_ok.mp h
    rw [Nat.succ_add]
    show Except.bind (next config respond x) (run config respond (n + k)) = _
    rw [hx']
    exact ih h

lemma Reaches.trans (h : Reaches config respond x y) (h' : Reaches config respond y z) :
    Reaches config respond x z := by
  obtain ⟨n, hn⟩ := h
  obtain ⟨k, hk⟩ := h'
  exact ⟨n + k, (run_add hn).trans hk⟩

lemma Reaches.single (h : next config respond x = .ok y) : Reaches config respond x y := by
  refine ⟨1, ?_⟩
  unfold run
  rw [h]
  rfl

lemma Through.single (h : next config respond x = .ok y) :
    Through config respond x 1 y.begun.toList y := by
  simpa using Through.access h (.refl y)

lemma Through.trans {n k : ℕ} {stages stages' : List Stage}
    (h : Through config respond x n stages y)
    (h' : Through config respond y k stages' z) :
    Through config respond x (n + k) (stages ++ stages') z := by
  induction h with
  | refl => rwa [Nat.zero_add]
  | access hnext _ ih =>
    rw [Nat.succ_add, List.append_assoc]
    exact .access hnext (ih h')

lemma Through.run {n : ℕ} {stages : List Stage} (h : Through config respond x n stages y) :
    run config respond n x = .ok y := by
  induction h with
  | refl => rfl
  | access hnext _ ih => exact bind_eq_ok.mpr ⟨_, hnext, ih⟩

lemma Through.reaches {n : ℕ} {stages : List Stage} (h : Through config respond x n stages y) :
    Reaches config respond x y := ⟨n, h.run⟩

/-- An access that does not end its stage. -/
lemma Exchanged.next_of_unfinished (h : Exchanged config respond o w o' w')
    (hfinished : o'.isFinished config = .ok false) :
    next config respond { model := m, op := some o, world := w } =
      .ok { model := m, op := some o', world := w' } := by
  obtain ⟨access, ha, rfl, hcomplete⟩ := h
  refine bind_eq_ok.mpr ⟨_, mapError_eq_ok.mpr ha, ?_⟩
  refine bind_eq_ok.mpr ⟨_, mapError_eq_ok.mpr hcomplete, ?_⟩
  exact bind_eq_ok.mpr ⟨_, mapError_eq_ok.mpr hfinished, rfl⟩

/-- The last access of a stage. -/
lemma Exchanged.next_of_finished (h : Exchanged config respond o w o' w')
    (hfinished : o'.isFinished config = .ok true) {d : Decision (Option ProcOp)}
    (hadvance : m.advance config o' = .ok d) :
    next config respond { model := m, op := some o, world := w } =
      .ok { model := d.model, op := d.next, world := w' } := by
  obtain ⟨access, ha, rfl, hcomplete⟩ := h
  refine bind_eq_ok.mpr ⟨_, mapError_eq_ok.mpr ha, ?_⟩
  refine bind_eq_ok.mpr ⟨_, mapError_eq_ok.mpr hcomplete, ?_⟩
  refine bind_eq_ok.mpr ⟨_, mapError_eq_ok.mpr hfinished, ?_⟩
  exact bind_eq_ok.mpr ⟨_, hadvance, rfl⟩

lemma Exchanged.of_answered {access : Access} {data : Bytes} {n : ℕ}
    (ha : o.access config = .ok (some access))
    (hdata : ProcOp.answered access (respond w access).1 o.data = .ok data)
    (hn : o.steps config = .ok n)
    (hkeep : o.step + 1 < n → data.length = o.dataLen config (o.step + 1)) :
    Exchanged config respond o w { o with step := o.step + 1, data } (respond w access).2 :=
  ⟨_, ha, rfl, ProcOp.complete_of_answered ha hdata hn hkeep⟩

/-- A read that leaves the world as it is. -/
lemma Exchanged.of_read {memory : ByteMap} {addr len n : ℕ}
    (ha : o.access config = .ok (some (.read addr len)))
    (hread : respond w (.read addr len) = (.data (memory.read addr len), w))
    (hn : o.steps config = .ok n)
    (hkeep : o.step + 1 < n → o.data.length + len = o.dataLen config (o.step + 1)) :
    Exchanged config respond o w
      { o with step := o.step + 1, data := o.data ++ memory.read addr len } w := by
  have hdata : ProcOp.answered (.read addr len) (respond w (.read addr len)).1 o.data =
      .ok (o.data ++ memory.read addr len) := by
    rw [hread]
    exact if_neg (not_not.mpr (ByteMap.length_read _ _ _))
  have hstep := Exchanged.of_answered ha hdata hn ?_
  · rwa [hread] at hstep
  · intro hlt
    rw [List.length_append, ByteMap.length_read]
    exact hkeep hlt

/-- A write that leads to a world. -/
lemma Exchanged.of_write {addr n : ℕ} {data : Bytes}
    (ha : o.access config = .ok (some (.write addr data)))
    (hwrite : respond w (.write addr data) = (.written, w')) (hn : o.steps config = .ok n)
    (hkeep : o.step + 1 < n → o.data.length = o.dataLen config (o.step + 1)) :
    Exchanged config respond o w { o with step := o.step + 1 } w' := by
  have hdata : ProcOp.answered (.write addr data) (respond w (.write addr data)).1 o.data =
      .ok o.data := by
    rw [hwrite]
    rfl
  have hstep := Exchanged.of_answered ha hdata hn hkeep
  rwa [hwrite] at hstep

/-- The step after an access is not the start of a stage. -/
lemma Exchanged.step_ne_zero (h : Exchanged config respond o w o' w') : o'.step ≠ 0 := by
  obtain ⟨access, -, -, hcomplete⟩ := h
  obtain ⟨-, -, -, -, -, -, rfl⟩ := ProcOp.complete_eq_ok hcomplete
  exact Nat.succ_ne_zero o.step

/-- A stage runs from its start to its end. -/
lemma Through.stage {n : ℕ} (hn : 0 < n) (ops : ℕ → ProcOp) (worlds : ℕ → σ)
    (hsteps : ∀ k < n, Exchanged config respond (ops k) (worlds k) (ops (k + 1)) (worlds (k + 1)))
    (hfinished : ∀ k ≤ n, (ops k).isFinished config = .ok (decide (n ≤ k)))
    {d : Decision (Option ProcOp)} (hadvance : m.advance config (ops n) = .ok d) :
    let last : Execution σ := { model := d.model, op := d.next, world := worlds n }
    Through config respond { model := m, op := some (ops 0), world := worlds 0 } n
      last.begun.toList last := by
  have hbefore : ∀ k < n,
    Through config respond { model := m, op := some (ops 0), world := worlds 0 }
      k [] { model := m, op := some (ops k), world := worlds k } := by
    intro k hk
    induction k with
    | zero => exact .refl _
    | succ k ih =>
      have hnext := (hsteps k (by omega)).next_of_unfinished (m := m)
        (by rw [hfinished (k + 1) (by omega), decide_eq_false (by omega)])
      have hbegun :
        begun { model := m, op := some (ops (k + 1)), world := worlds (k + 1) } = none :=
        if_neg (hsteps k (by omega)).step_ne_zero
      have hsingle := Through.single hnext
      rw [hbegun] at hsingle
      exact (ih (by omega)).trans hsingle
  obtain ⟨k, rfl⟩ := Nat.exists_eq_add_of_le' hn
  have hlast := (hsteps k (Nat.lt_succ_self k)).next_of_finished
    (by rw [hfinished (k + 1) (Nat.le_refl _), decide_eq_true (Nat.le_refl _)]) hadvance
  exact (hbefore k (Nat.lt_succ_self k)).trans (.single hlast)

/-- A decision is made in a world, and leads on. -/
def Leads (config : KernelConfig) (respond : Responder σ) (d : Outcome (Decision ProcOp)) (w : σ)
    (y : Execution σ) : Prop :=
  ∃ d', d = .ok d' ∧
    Reaches config respond { model := d'.model, op := some d'.next, world := w } y

/-- Records change nothing. -/
lemma Leads.after {d : Outcome (Decision ProcOp)} (h : Leads config respond d w y)
    (notes : List Note) : Leads config respond (do return Model.after notes (← d)) w y := by
  obtain ⟨d', rfl, hreaches⟩ := h
  exact ⟨_, rfl, hreaches⟩

/-- The stage reads a range of memory, piece by piece. -/
structure ReadsRange (config : KernelConfig) (stage : Stage) (base len : ℕ) : Prop where
  access : ∀ step data, ({ stage, step, data } : ProcOp).access config =
    .ok ((chunks base len)[step]?.map readChunk)
  steps : ∀ step data, ({ stage, step, data } : ProcOp).steps config = .ok (chunks base len).length
  dataLen : ∀ step data k, ({ stage, step, data } : ProcOp).dataLen config k =
    readLen (chunks base len) k

/-- The stage writes pieces of a byte string. -/
structure WritesPieces (config : KernelConfig) (stage : Stage) (base : ℕ) (bs : Bytes)
    (pieces : List (ℕ × ℕ)) : Prop where
  access : ∀ step data, ({ stage, step, data } : ProcOp).access config =
    .ok (pieces[step]?.map (writeChunk base bs))
  steps : ∀ step data, ({ stage, step, data } : ProcOp).steps config = .ok pieces.length
  dataLen : ∀ step data k, ({ stage, step, data } : ProcOp).dataLen config k = 0

lemma Through.pieces_read {memory : ByteMap} {stage : Stage} {base len : ℕ} (hpos : 0 < len)
    (hstage : ReadsRange config stage base len)
    (hread : ∀ c ∈ chunks base len, respond w (.read c.1 c.2) = (.data (memory.read c.1 c.2), w))
    {d : Decision (Option ProcOp)}
    (hadvance : m.advance config
      { stage, step := (chunks base len).length, data := memory.read base len } = .ok d) :
    let last : Execution σ := { model := d.model, op := d.next, world := w }
    Through config respond { model := m, op := some (.new stage), world := w }
      (chunks base len).length last.begun.toList last := by
  let ops (k : ℕ) : ProcOp :=
    { stage, step := k, data := memory.read base (readLen (chunks base len) k) }
  have hall : readLen (chunks base len) (chunks base len).length = len :=
    (readLen_length _).trans (sum_chunks _ _)
  have hchunks : 0 < (chunks base len).length := by
    rw [List.length_pos_iff]
    intro hnil
    rw [hnil] at hall
    exact Nat.ne_of_gt hpos hall.symm
  have hlast : ops (chunks base len).length =
      { stage, step := (chunks base len).length, data := memory.read base len } := by
    show ProcOp.mk _ _ _ = _
    rw [hall]
  refine Through.stage hchunks ops (fun _ => w) ?_ ?_ (hlast ▸ hadvance)
  · intro k hk
    obtain ⟨c, hc⟩ : ∃ c, (chunks base len)[k]? = some c := ⟨_, List.getElem?_eq_getElem hk⟩
    have happend : memory.read base (readLen (chunks base len) k) ++ memory.read c.1 c.2 =
        memory.read base (readLen (chunks base len) (k + 1)) := by
      rw [readLen_succ hc, ByteMap.read_append, ← chunk_start hc]
    have hdue : (ops k).access config = .ok (some (.read c.1 c.2)) := by
      rw [hstage.access, hc]
      rfl
    have hstep := Exchanged.of_read (o := ops k) hdue (hread c (List.mem_of_getElem? hc))
      (hstage.steps _ _) fun _ => ?_
    · rwa [show (ops k).data ++ memory.read c.1 c.2 = _ from happend] at hstep
    · rw [hstage.dataLen, readLen_succ hc]
      exact congrArg (· + c.2) (ByteMap.length_read _ _ _)
  · intro k _
    exact bind_eq_ok.mpr ⟨_, hstage.steps _ _, rfl⟩

lemma Through.pieces_written {stage : Stage} {pieces : List (ℕ × ℕ)} {base : ℕ} {bs : Bytes}
    (hpos : 0 < pieces.length)
    (hstage : WritesPieces config stage base bs pieces)
    (worlds : ℕ → σ)
    (hwrite : ∀ k c, pieces[k]? = some c →
      respond (worlds k) (writeChunk base bs c) = (.written, worlds (k + 1)))
    {d : Decision (Option ProcOp)}
    (hadvance : m.advance config { stage, step := pieces.length, data := [] } = .ok d) :
    let last : Execution σ := { model := d.model, op := d.next, world := worlds pieces.length }
    Through config respond { model := m, op := some (.new stage), world := worlds 0 } pieces.length
      last.begun.toList last := by
  refine Through.stage hpos (fun k => { stage, step := k, data := [] }) worlds ?_ ?_ hadvance
  · intro k hk
    obtain ⟨c, hc⟩ : ∃ c, pieces[k]? = some c := ⟨_, List.getElem?_eq_getElem hk⟩
    have hdue : ({ stage, step := k, data := [] } : ProcOp).access config =
        .ok (some (writeChunk base bs c)) := by
      rw [hstage.access, hc]
      rfl
    exact .of_write hdue (hwrite k c hc) (hstage.steps _ _) fun _ => (hstage.dataLen _ _ _).symm
  · intro k _
    exact bind_eq_ok.mpr ⟨_, hstage.steps _ _, rfl⟩

end Execution

end SystemScope.Os
