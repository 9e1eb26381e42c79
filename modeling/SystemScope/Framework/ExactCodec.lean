import SystemScope.Framework.Codec

/-!
# Exact codecs

The other half of the laws of a prefix codec: a strict parser accepts nothing but what a writer
produces.  `Reads d P w` says that the parser `d` accepts exactly the encodings `w x` of the values
`x` with `P x`, whatever follows; it gives reading back (`Reads.decodes`) and canonical form in one
equivalence, and it composes along `>>=` and along guards by rewriting.
-/

universe u v

namespace Parser

variable {β α γ : Type u} {ε ε' : Type v}

lemma bind_eq_ok {d : Parser β ε α} {f : α → Parser β ε γ} {bs rest : List β} {y : γ} :
    (d >>= f) bs = .ok (y, rest) ↔ ∃ x r, d bs = .ok (x, r) ∧ f x r = .ok (y, rest) := by
  change (d bs >>= fun p => f p.1 p.2) = _ ↔ _
  cases hd : d bs with
  | error e =>
    constructor
    · intro h
      cases h
    · rintro ⟨x, r, h, -⟩
      cases h
  | ok p =>
    constructor
    · intro h
      exact ⟨p.1, p.2, rfl, h⟩
    · rintro ⟨x, r, h, hf⟩
      cases h
      exact hf

lemma pure_eq_ok {x y : α} {bs rest : List β} :
    (pure x : Parser β ε α) bs = .ok (y, rest) ↔ x = y ∧ bs = rest := by
  change (Except.ok (x, bs) : Except ε _) = _ ↔ _
  rw [Except.ok.injEq, Prod.mk.injEq]

lemma throw_eq_ok {e : ε} {y : α} {bs rest : List β} :
    (throw e : Parser β ε α) bs = .ok (y, rest) ↔ False := by
  change (Except.error e : Except ε _) = _ ↔ _
  simp

lemma guard_eq_ok {p : Prop} [Decidable p] {e : ε} {d : Parser β ε α} {y : α} {bs rest : List β} :
    (if p then throw e else d : Parser β ε α) bs = .ok (y, rest) ↔
      ¬p ∧ d bs = .ok (y, rest) := by
  by_cases hp : p
  · rw [if_pos hp, throw_eq_ok]
    simp [hp]
  · rw [if_neg hp]
    simp [hp]

/-- The same parser, with its errors renamed. -/
def mapError (f : ε → ε') (d : Parser β ε α) : Parser β ε' α := fun bs => (d bs).mapError f

lemma mapError_eq_ok {f : ε → ε'} {d : Parser β ε α} {y : α} {bs rest : List β} :
    (mapError f d) bs = .ok (y, rest) ↔ d bs = .ok (y, rest) := by
  unfold mapError
  cases d bs <;> simp [Except.mapError]

/-- Whatever the parser accepts, it returns a value that satisfies `P`. -/
def Gives (d : Parser β ε α) (P : α → Prop) : Prop :=
  ∀ bs x rest, d bs = .ok (x, rest) → P x

namespace Gives

variable {d : Parser β ε α} {P Q : α → Prop} {R : γ → Prop}

lemma bind (hd : Gives d P) {f : α → Parser β ε γ} (hf : ∀ x, P x → Gives (f x) R) :
    Gives (d >>= f) R := by
  intro bs y rest h
  obtain ⟨x, r, hx, hy⟩ := bind_eq_ok.mp h
  exact hf x (hd bs x r hx) r y rest hy

/-- The parser goes on with whatever was read first. -/
lemma next {f : α → Parser β ε γ} (hf : ∀ x, Gives (f x) R) : Gives (d >>= f) R :=
  bind (P := fun _ => True) (fun _ _ _ _ => trivial) fun x _ => hf x

lemma pure {x : α} (hx : P x) : Gives (Pure.pure x : Parser β ε α) P := by
  intro bs y rest h
  obtain ⟨rfl, -⟩ := pure_eq_ok.mp h
  exact hx

lemma throw {e : ε} : Gives (MonadExcept.throw e : Parser β ε α) P :=
  fun _ _ _ h => (throw_eq_ok.mp h).elim

lemma guard {p : Prop} [Decidable p] {e : ε} (hd : ¬p → Gives d P) :
    Gives (if p then MonadExcept.throw e else d : Parser β ε α) P := by
  intro bs x rest h
  obtain ⟨hp, hx⟩ := guard_eq_ok.mp h
  exact hd hp bs x rest hx

end Gives

end Parser

/-- The parser `d` accepts exactly what `w` writes of the values that satisfy `P`. -/
def Reads {β α : Type u} {ε : Type v} (d : Parser β ε α) (P : α → Prop) (w : α → List β) : Prop :=
  ∀ bs x rest, d bs = .ok (x, rest) ↔ P x ∧ bs = w x ++ rest

namespace Reads

variable {β α γ : Type u} {ε ε' : Type v} {d : Parser β ε α} {P : α → Prop} {w : α → List β}

lemma mapError (h : Reads d P w) (f : ε → ε') : Reads (Parser.mapError f d) P w :=
  fun bs x rest => Parser.mapError_eq_ok.trans (h bs x rest)

/-- What a parser does that starts by reading a value. -/
lemma bind_eq_ok (h : Reads d P w) {f : α → Parser β ε γ} {bs rest : List β} {y : γ} :
    (d >>= f) bs = .ok (y, rest) ↔ ∃ x r, P x ∧ bs = w x ++ r ∧ f x r = .ok (y, rest) := by
  simp only [Parser.bind_eq_ok, h _ _ _, and_assoc]

/-- Nothing but a single value is written as nothing. -/
lemma write_ne_nil (h : Reads d (fun _ => True) w) {x y : α} (hne : x ≠ y) : w x ≠ [] := by
  intro hnil
  have hx : d (w y ++ []) = .ok (x, w y ++ []) :=
    (h _ _ _).mpr ⟨trivial, by rw [hnil, List.nil_append]⟩
  have hy : d (w y ++ []) = .ok (y, []) := (h _ _ _).mpr ⟨trivial, rfl⟩
  rw [hx] at hy
  exact hne (Prod.mk.inj (Except.ok.inj hy)).1

lemma pure {x : α} (hx : P x) (hP : ∀ y, P y → y = x) (hw : w x = []) :
    Reads (Pure.pure x : Parser β ε α) P w := by
  intro bs y rest
  rw [Parser.pure_eq_ok]
  constructor
  · rintro ⟨rfl, rfl⟩
    exact ⟨hx, by rw [hw, List.nil_append]⟩
  · rintro ⟨hy, rfl⟩
    obtain rfl := hP y hy
    exact ⟨rfl, by rw [hw, List.nil_append]⟩

lemma congr {Q : α → Prop} {v : α → List β} (h : Reads d P w) (hPQ : ∀ x, P x ↔ Q x)
    (hw : ∀ x, Q x → w x = v x) : Reads d Q v := by
  intro bs x rest
  rw [h bs x rest, hPQ]
  constructor
  · rintro ⟨hx, rfl⟩
    exact ⟨hx, by rw [hw x hx]⟩
  · rintro ⟨hx, rfl⟩
    exact ⟨hx, by rw [hw x hx]⟩

/-- A variant of a tagged union without fields. -/
lemma variant {τ : Type*} {tag : α → τ} {t : τ} (x : α) (hx : P x) (ht : tag x = t)
    (hw : w x = []) (honly : ∀ y, P y → tag y = t → y = x) :
    Reads (Pure.pure x : Parser β ε α) (fun y => P y ∧ tag y = t) w :=
  pure ⟨hx, ht⟩ (fun y hy => honly y hy.1 hy.2) hw

/-- A variant of a tagged union that is made of what one parser reads. -/
lemma variantMap {τ : Type*} {tag : γ → τ} {t : τ} {Q : γ → Prop} {body : γ → List β}
    (h : Reads d P w) (f : α → γ) (hf : ∀ x, P x → Q (f x) ∧ tag (f x) = t)
    (hbody : ∀ x, body (f x) = w x) (honly : ∀ y, Q y → tag y = t → ∃ x, P x ∧ y = f x) :
    Reads (d >>= fun x => Pure.pure (f x)) (fun y => Q y ∧ tag y = t) body := by
  intro bs y rest
  simp only [h.bind_eq_ok, Parser.pure_eq_ok]
  constructor
  · rintro ⟨x, r, hx, rfl, rfl, rfl⟩
    exact ⟨hf x hx, by rw [hbody]⟩
  · rintro ⟨⟨hy, ht⟩, rfl⟩
    obtain ⟨x, hx, rfl⟩ := honly y hy ht
    exact ⟨x, rest, hx, by rw [hbody], rfl, rfl⟩

/-- A variant of a tagged union that is made of what two parsers read. -/
lemma variantMap₂ {τ : Type*} {δ : Type u} {e : Parser β ε δ} {Q : δ → Prop} {v : δ → List β}
    {tag : γ → τ} {t : τ} {R : γ → Prop} {body : γ → List β} (h : Reads d P w) (he : Reads e Q v)
    (f : α → δ → γ) (hf : ∀ x y, P x → Q y → R (f x y) ∧ tag (f x y) = t)
    (hbody : ∀ x y, body (f x y) = w x ++ v y)
    (honly : ∀ z, R z → tag z = t → ∃ x y, P x ∧ Q y ∧ z = f x y) :
    Reads (d >>= fun x => e >>= fun y => Pure.pure (f x y)) (fun z => R z ∧ tag z = t) body := by
  intro bs z rest
  simp only [h.bind_eq_ok, he.bind_eq_ok, Parser.pure_eq_ok]
  constructor
  · rintro ⟨x, _, hx, rfl, y, _, hy, rfl, rfl, rfl⟩
    exact ⟨hf x y hx hy, by rw [hbody, List.append_assoc]⟩
  · rintro ⟨⟨hz, ht⟩, rfl⟩
    obtain ⟨x, y, hx, hy, rfl⟩ := honly z hz ht
    exact ⟨x, _, hx, by rw [hbody, List.append_assoc], y, _, hy, rfl, rfl, rfl⟩

end Reads

/-! ## Bytes -/

lemma leBytes_leNat (bs : List UInt8) : leBytes bs.length (leNat bs) = bs := by
  induction bs with
  | nil => rfl
  | cons b bs ih =>
    have hb := b.toNat_lt
    have hdiv : (b.toNat + 256 * leNat bs) / 256 = leNat bs := by omega
    have hmod : UInt8.ofNat (b.toNat + 256 * leNat bs) = b := by
      rw [← UInt8.toNat_inj, UInt8.toNat_ofNat']
      omega
    change leBytes (bs.length + 1) (b.toNat + 256 * leNat bs) = b :: bs
    rw [leBytes_succ, hdiv, hmod, ih]

lemma leNat_lt (bs : List UInt8) : leNat bs < 256 ^ bs.length := by
  induction bs with
  | nil => exact Nat.one_pos
  | cons b bs ih =>
    have hb := b.toNat_lt
    change b.toNat + 256 * leNat bs < 256 ^ (bs.length + 1)
    rw [Nat.pow_succ]
    omega

namespace Coder

variable {ε : Type} {truncated : ε}

lemma takeBytes_reads (n : ℕ) :
    Reads (takeBytes truncated n) (fun bs => bs.length = n) id := by
  intro bs x rest
  unfold takeBytes
  constructor
  · intro h
    split_ifs at h with hn
    cases h
    exact ⟨by simp [hn], (List.take_append_drop n bs).symm⟩
  · rintro ⟨rfl, rfl⟩
    simp

lemma word_reads (width : ℕ) :
    Reads (word truncated width).read (fun n => n < 256 ^ width)
      (leBytes width) := by
  intro bs n rest
  change (takeBytes truncated width >>= fun b => pure (leNat b)) bs = _ ↔ _
  rw [(takeBytes_reads width).bind_eq_ok]
  constructor
  · rintro ⟨b, r, rfl, rfl, h⟩
    obtain ⟨rfl, rfl⟩ := Parser.pure_eq_ok.mp h
    exact ⟨leNat_lt b, by rw [leBytes_leNat]; rfl⟩
  · rintro ⟨hn, rfl⟩
    exact ⟨leBytes width n, rest, length_leBytes width n, rfl,
      Parser.pure_eq_ok.mpr ⟨leNat_leBytes hn, rfl⟩⟩

end Coder
