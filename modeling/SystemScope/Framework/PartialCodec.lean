import SystemScope.Framework.Tables

/-!
# Formats that not every value has

A length that does not fit its field has no encoding, so a writer of variable-length data is a
list of parts, each of which may be missing.  `Writes parts bs rest` says that all parts are there
and that `bs` is their concatenation followed by `rest`; `ReadsParts d P w` that the parser `d`
accepts exactly the encodings of the values `x` with `P x` that have one.  Both compose along `>>=`,
along repetition and along tables by rewriting, as `Reads` does for formats that every value
has. -/

universe u v

section

variable {β : Type u} {p : Option (List β)} {ps qs : List (Option (List β))} {bs rest : List β}

/-- The parts are all there, and make up `bs` up to `rest`. -/
def Writes (parts : List (Option (List β))) (bs rest : List β) : Prop :=
  ∃ b, Coder.concat parts = some b ∧ bs = b ++ rest

@[simp] lemma writes_nil : Writes [] bs rest ↔ bs = rest := by
  simp [Writes, Coder.concat]

lemma writes_cons : Writes (p :: ps) bs rest ↔ ∃ b r, p = some b ∧ bs = b ++ r ∧
    Writes ps r rest := by
  simp only [Writes, Coder.concat_cons_eq_some]
  constructor
  · rintro ⟨_, ⟨b, b', hp, hps, rfl⟩, rfl⟩
    exact ⟨b, b' ++ rest, hp, List.append_assoc .., b', hps, rfl⟩
  · rintro ⟨b, _, hp, rfl, b', hps, rfl⟩
    exact ⟨b ++ b', ⟨b, b', hp, hps, rfl⟩, (List.append_assoc ..).symm⟩

lemma writes_append : Writes (ps ++ qs) bs rest ↔ ∃ r, Writes ps bs r ∧ Writes qs r rest := by
  induction ps generalizing bs with
  | nil => simp
  | cons p ps ih =>
    simp only [List.cons_append, writes_cons, ih]
    constructor
    · rintro ⟨b, r, hp, rfl, r', hps, hqs⟩
      exact ⟨r', ⟨b, r, hp, rfl, hps⟩, hqs⟩
    · rintro ⟨r', ⟨b, r, hp, rfl, hps⟩, hqs⟩
      exact ⟨b, r, hp, rfl, r', hps, hqs⟩

lemma writes_cons_iff : Writes (p :: ps) bs rest ↔ ∃ r, Writes [p] bs r ∧ Writes ps r rest := by
  show Writes ([p] ++ ps) bs rest ↔ _
  exact writes_append

lemma writes_cons_cons {q : Option (List β)} :
    Writes (p :: q :: ps) bs rest ↔ ∃ r, Writes [p] bs r ∧ Writes (q :: ps) r rest :=
  writes_cons_iff

lemma writes_cons_flatMap {α : Type u} {f : α → List (Option (List β))} {xs : List α} :
    Writes (p :: xs.flatMap f) bs rest ↔ ∃ r, Writes [p] bs r ∧ Writes (xs.flatMap f) r rest :=
  writes_cons_iff

/-- A part is a prefix of what is written. -/
lemma writes_some_cons {b : List β} : Writes (some b :: ps) bs rest ↔
    ∃ r, bs = b ++ r ∧ Writes ps r rest := by
  simp [writes_cons]

/-- What is written at the end of the input is nothing. -/
lemma Writes.eq_nil (h : Writes ps [] rest) : rest = [] := by
  obtain ⟨b, -, hb⟩ := h
  exact (List.append_eq_nil_iff.mp hb.symm).2

/-- The parts of a part. -/
lemma writes_concat : Writes [Coder.concat ps] bs rest ↔ Writes ps bs rest := by
  rw [writes_cons]
  simp only [writes_nil]
  constructor
  · rintro ⟨b, r, hb, rfl, rfl⟩
    exact ⟨b, hb, rfl⟩
  · rintro ⟨b, hb, rfl⟩
    exact ⟨b, rest, hb, rfl, rfl⟩

lemma writes_to_end : Writes ps bs [] ↔ Coder.concat ps = some bs := by
  simp [Writes]

end

namespace Parser

variable {β α : Type u} {ε : Type v}

/-- Reads the entries of a table, in order. -/
def table : {n : ℕ} → (Fin n → Parser β ε α) → Parser β ε (Vector α n)
  | 0, _ => pure #v[]
  | n + 1, d => do
    let xs ← table fun i => d i.castSucc
    let x ← d (Fin.last n)
    return xs.push x

end Parser

/-- The parser `d` accepts exactly what `w` writes of the values that satisfy `P`. -/
def ReadsParts {β α : Type u} {ε : Type v} (d : Parser β ε α) (P : α → Prop)
    (w : α → List (Option (List β))) : Prop :=
  ∀ bs x rest, d bs = .ok (x, rest) ↔ P x ∧ Writes (w x) bs rest

/-- A strict codec: reading accepts exactly what writing produces. -/
def Coder.Exact {ε : Type v} {α : Type} (c : Coder UInt8 ε α) : Prop :=
  ReadsParts (c.decode : Parser UInt8 ε α) (fun _ => True) fun x => [c.encode x]

lemma Reads.parts {β α : Type u} {ε : Type v} {d : Parser β ε α} {P : α → Prop} {w : α → List β}
    (h : Reads d P w) : ReadsParts d P fun x => [some (w x)] := by
  intro bs x rest
  simp [h bs x rest, writes_some_cons]

namespace ReadsParts

variable {β α γ : Type u} {ε ε' : Type v} {d : Parser β ε α} {P : α → Prop}
  {w : α → List (Option (List β))}

lemma mapError (h : ReadsParts d P w) (f : ε → ε') : ReadsParts (Parser.mapError f d) P w :=
  fun bs x rest => Parser.mapError_eq_ok.trans (h bs x rest)

/-- What a parser does that starts by reading a value. -/
lemma bind_eq_ok (h : ReadsParts d P w) {f : α → Parser β ε γ} {bs rest : List β} {y : γ} :
    (d >>= f) bs = .ok (y, rest) ↔ ∃ x r, P x ∧ Writes (w x) bs r ∧ f x r = .ok (y, rest) := by
  simp only [Parser.bind_eq_ok, h _ _ _, and_assoc]

/-- A sequence is read item by item. -/
lemma replicateM (h : ReadsParts d P w) (n : ℕ) :
    ReadsParts (Decodes.replicateM d n) (fun xs => xs.length = n ∧ ∀ x ∈ xs, P x)
      fun xs => xs.flatMap w := by
  induction n with
  | zero =>
    intro bs xs rest
    change (pure [] : Parser β ε (List α)) bs = _ ↔ _
    rw [Parser.pure_eq_ok]
    constructor
    · rintro ⟨rfl, rfl⟩
      simp
    · rintro ⟨⟨hlength, -⟩, hw⟩
      obtain rfl := List.length_eq_zero_iff.mp hlength
      exact ⟨rfl, by simpa using hw⟩
  | succ n ih =>
    intro bs xs rest
    change (d >>= fun x => Decodes.replicateM d n >>= fun xs => pure (x :: xs)) bs = _ ↔ _
    simp only [h.bind_eq_ok, ih.bind_eq_ok, Parser.pure_eq_ok]
    constructor
    · rintro ⟨x, r, hx, hw, xs', r', ⟨rfl, hxs⟩, hws, rfl, rfl⟩
      refine ⟨⟨rfl, List.forall_mem_cons.mpr ⟨hx, hxs⟩⟩, ?_⟩
      rw [List.flatMap_cons]
      exact writes_append.mpr ⟨r, hw, hws⟩
    · rintro ⟨⟨hlength, hxs⟩, hw⟩
      obtain ⟨x, xs', rfl⟩ := List.exists_cons_of_length_eq_add_one hlength
      rw [List.flatMap_cons] at hw
      obtain ⟨r, hx, hrest⟩ := writes_append.mp hw
      obtain ⟨hP, hPs⟩ := List.forall_mem_cons.mp hxs
      exact ⟨x, r, hP, hx, xs', rest, ⟨Nat.succ.inj hlength, hPs⟩, hrest, rfl, rfl⟩

lemma counted {β α : Type} {d : Parser β ε α} {P : α → Prop} {w : α → List (Option (List β))}
    {dlen : Parser β ε ℕ} {wlen : ℕ → List (Option (List β))}
    (hlen : ReadsParts dlen (fun _ => True) wlen) (h : ReadsParts d P w) :
    ReadsParts (dlen >>= fun n => Decodes.replicateM d n) (fun xs => ∀ x ∈ xs, P x)
      fun xs => wlen xs.length ++ xs.flatMap w := by
  intro bs xs rest
  simp only [hlen.bind_eq_ok, h.replicateM _ _ _ _, true_and, writes_append]
  constructor
  · rintro ⟨n, r, hw, ⟨rfl, hxs⟩, hws⟩
    exact ⟨hxs, r, hw, hws⟩
  · rintro ⟨hxs, r, hw, hws⟩
    exact ⟨xs.length, r, hw, ⟨rfl, hxs⟩, hws⟩

/-- A table is read entry by entry. -/
lemma table {n : ℕ} {d : Fin n → Parser β ε α} {P : Fin n → α → Prop}
    (h : ∀ i, ReadsParts (d i) (P i) w) :
    ReadsParts (Parser.table d) (fun v => ∀ i, P i (v.get i)) fun v => v.toList.flatMap w := by
  induction n with
  | zero =>
    intro bs v rest
    change (pure #v[] : Parser β ε (Vector α 0)) bs = _ ↔ _
    have hv : v = #v[] := Vector.ext_get fun i => i.elim0
    rw [Parser.pure_eq_ok, hv]
    simp
  | succ n ih =>
    intro bs v rest
    change (Parser.table (fun i => d i.castSucc) >>= fun xs => d (Fin.last n) >>= fun x =>
      pure (xs.push x)) bs = _ ↔ _
    simp only [(ih fun i => h i.castSucc).bind_eq_ok, (h (Fin.last n)).bind_eq_ok,
      Parser.pure_eq_ok]
    constructor
    · rintro ⟨xs, r, hxs, hw, x, r', hx, hwx, rfl, rfl⟩
      refine ⟨?_, ?_⟩
      · intro i
        refine Fin.lastCases ?_ (fun j => ?_) i
        · simpa [Vector.get_eq] using hx
        · have hj := hxs j
          simpa [Vector.get_eq, Vector.getElem_push] using hj
      · rw [Vector.toList_push, List.flatMap_append, List.flatMap_singleton]
        exact writes_append.mpr ⟨r, hw, hwx⟩
    · rintro ⟨hv, hw⟩
      obtain ⟨xs, x, rfl⟩ : ∃ (xs : Vector α n) (x : α), v = xs.push x :=
        ⟨v.pop, v.back, (Vector.push_pop_back v).symm⟩
      rw [Vector.toList_push, List.flatMap_append, List.flatMap_singleton] at hw
      obtain ⟨r, hxs, hx⟩ := writes_append.mp hw
      refine ⟨xs, r, fun i => ?_, hxs, x, rest, ?_, hx, rfl, rfl⟩
      · have hi := hv i.castSucc
        simpa [Vector.get_eq, Vector.getElem_push] using hi
      · have hlast := hv (Fin.last n)
        simpa [Vector.get_eq] using hlast

end ReadsParts

/-! ## Strict codecs out of strict codecs -/

namespace Coder

variable {ε α γ : Type} {truncated : ε}

lemma word_exact (width : ℕ) : (word truncated width).Exact := by
  intro bs n rest
  refine (word_reads width bs n rest).trans ?_
  rw [true_and, writes_cons]
  change _ ↔ ∃ b r, (if n < 256 ^ width then some (leBytes width n) else none) = some b ∧ _
  constructor
  · rintro ⟨hn, rfl⟩
    exact ⟨_, _, if_pos hn, rfl, writes_nil.mpr rfl⟩
  · rintro ⟨b, r, hb, rfl, hr⟩
    obtain ⟨hn, hb⟩ := Option.ite_none_right_eq_some.mp hb
    obtain rfl := Option.some.inj hb
    exact ⟨hn, by rw [writes_nil.mp hr]⟩

/-- Reading may refuse what writing never produces, and nothing else. -/
lemma Exact.refine {c : Coder UInt8 ε α} (hc : c.Exact) {f : γ → α} {g : α → Except ε γ}
    (hg : ∀ y x, (c.encode y).isSome → (g y = .ok x ↔ f x = y)) : (c.refine f g).Exact := by
  intro bs x rest
  change (c.read >>= fun y => MonadExcept.ofExcept (g y)) bs = _ ↔ _ ∧ Writes [c.encode (f x)] _ _
  have hof : ∀ y r, (MonadExcept.ofExcept (g y) : Parser UInt8 ε γ) r = .ok (x, rest) ↔
      g y = .ok x ∧ r = rest := by
    intro y r
    cases hy : g y with
    | error e =>
      change (throw e : Parser UInt8 ε γ) r = _ ↔ _
      rw [Parser.throw_eq_ok]
      simp
    | ok z =>
      change (Pure.pure z : Parser UInt8 ε γ) r = _ ↔ _
      rw [Parser.pure_eq_ok]
      simp
  have hread : ReadsParts c.read (fun _ => True) fun x => [c.encode x] := hc
  simp only [hread.bind_eq_ok, hof, true_and]
  constructor
  · rintro ⟨y, r, hw, hy, rfl⟩
    obtain ⟨b, _, hb, -, -⟩ := writes_cons.mp hw
    rwa [(hg y x (by rw [hb]; rfl)).mp hy]
  · intro hw
    obtain ⟨b, _, hb, -, -⟩ := writes_cons.mp hw
    exact ⟨f x, rest, hw, (hg (f x) x (by rw [hb]; rfl)).mpr rfl, rfl⟩

lemma counted_exact {len : Coder UInt8 ε ℕ} (hlen : len.Exact) :
    (counted truncated len).Exact := by
  have hread : ReadsParts len.read (fun _ => True) fun n => [len.encode n] := hlen
  intro bs data rest
  change (len.read >>= fun n => takeBytes truncated n) bs = _ ↔
    _ ∧ Writes [concat [len.encode data.length, some data]] _ _
  simp only [hread.bind_eq_ok, true_and, takeBytes_reads _ _ _ _]
  rw [writes_concat, writes_cons_iff]
  constructor
  · rintro ⟨n, r, hw, rfl, rfl⟩
    exact ⟨_, hw, writes_some_cons.mpr ⟨rest, rfl, writes_nil.mpr rfl⟩⟩
  · rintro ⟨r, hw, hr⟩
    obtain ⟨r', rfl, hr'⟩ := writes_some_cons.mp hr
    rw [writes_nil] at hr'
    subst hr'
    exact ⟨data.length, _, hw, rfl, rfl⟩

lemma array_exact (n : ℕ) : (array truncated n).Exact := by
  intro bs v rest
  change (takeBytes truncated n >>= fun b => if h : b.length = n then
      Pure.pure (⟨b.toArray, by simpa using h⟩ : Vector UInt8 n) else throw truncated) bs = _ ↔
    _ ∧ Writes [some v.toList] _ _
  simp only [(takeBytes_reads n).bind_eq_ok, true_and, writes_some_cons, writes_nil]
  constructor
  · rintro ⟨b, r, hb, rfl, h⟩
    rw [dif_pos hb] at h
    obtain ⟨rfl, rfl⟩ := Parser.pure_eq_ok.mp h
    exact ⟨r, by simp, rfl⟩
  · rintro ⟨r, rfl, rfl⟩
    have hv : v.toList.length = n := by simp
    refine ⟨v.toList, r, hv, rfl, ?_⟩
    rw [dif_pos hv]
    refine Parser.pure_eq_ok.mpr ⟨?_, rfl⟩
    cases v
    rfl

lemma tagged_exact {τ : Type} {tag : Coder UInt8 ε τ} (htag : tag.Exact) {variant : γ → τ}
    {fields : γ → List (Option (List UInt8))} {branch : τ → Parser UInt8 ε γ}
    (h : ∀ t, ReadsParts (branch t) (fun x => variant x = t) fields) :
    (tagged tag variant fields branch).Exact := by
  have hread : ReadsParts tag.read (fun _ => True) fun t => [tag.encode t] := htag
  intro bs x rest
  change (tag.read >>= fun t => branch t) bs = _ ↔
    _ ∧ Writes [concat (tag.encode (variant x) :: fields x)] _ _
  rw [writes_concat, writes_cons_iff, hread.bind_eq_ok]
  simp only [h _ _ _ _, true_and]
  constructor
  · rintro ⟨t, r, hw, rfl, hrest⟩
    exact ⟨r, hw, hrest⟩
  · rintro ⟨r, hw, hrest⟩
    exact ⟨variant x, r, hw, rfl, hrest⟩

end Coder
