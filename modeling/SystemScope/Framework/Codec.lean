import Mathlib.Algebra.Order.Ring.Nat
import Mathlib.Tactic.Common

/-!
# Prefix codecs

A `Coder` writes values as byte strings and reads them back from the front of a longer string.
Writing may fail: a length that does not fit its field has no encoding.  `RoundTrips` is the law
of a codec, and the only one used.

A format is written as a concatenation of parts and read by a parser in `StateT` over the input.
`Decodes d bs x` says that the parser `d` reads `x` off `bs`, whatever follows; it composes along
`>>=` (`Decodes.bind`) and along repetition (`Decodes.replicateM`), so that a parser is checked
against a writer part by part.
-/

/-- Writes values, and reads them off the front of a byte string. -/
structure Coder (β ε α : Type*) where
  encode : α → Option (List β)
  decode : List β → Except ε (α × List β)

namespace Coder

variable {β ε α : Type*}

/-- What was written is read back, and nothing else is consumed. -/
def RoundTrips (c : Coder β ε α) : Prop :=
  ∀ x bs rest, c.encode x = some bs → c.decode (bs ++ rest) = .ok (x, rest)

/-- Concatenates the parts of a format, if each of them has an encoding. -/
def concat : List (Option (List β)) → Option (List β)
  | [] => some []
  | part :: parts => part.bind fun b => (concat parts).map (b ++ ·)

lemma concat_cons_eq_some {part : Option (List β)} {parts : List (Option (List β))}
    {bs : List β} :
    concat (part :: parts) = some bs ↔
      ∃ b rest, part = some b ∧ concat parts = some rest ∧ bs = b ++ rest := by
  simp only [concat, Option.bind_eq_some_iff, Option.map_eq_some_iff]
  grind

lemma concat_nil_eq_some {bs : List β} : concat ([] : List (Option (List β))) = some bs ↔
    bs = [] := by
  rw [concat, Option.some.injEq, eq_comm]

/-- Every part of a format that has an encoding has one. -/
lemma exists_of_mem_concat {part : Option (List β)} {parts : List (Option (List β))}
    {bs : List β} (h : concat parts = some bs) (hmem : part ∈ parts) : ∃ b, part = some b := by
  induction parts generalizing bs with
  | nil => cases hmem
  | cons p parts ih =>
    obtain ⟨b, rest, hp, hparts, -⟩ := concat_cons_eq_some.mp h
    rcases List.mem_cons.mp hmem with rfl | hmem
    · exact ⟨b, hp⟩
    · exact ih hparts hmem

/-- A format can be written if each of its parts can. -/
lemma concat_isSome {parts : List (Option (List β))} (h : ∀ part ∈ parts, part.isSome) :
    (concat parts).isSome := by
  induction parts with
  | nil => rfl
  | cons p parts ih =>
    rw [List.forall_mem_cons] at h
    obtain ⟨b, hb⟩ := Option.isSome_iff_exists.mp h.1
    obtain ⟨bs, hbs⟩ := Option.isSome_iff_exists.mp (ih h.2)
    rw [concat, hb, hbs]
    rfl

/-- Two parts may be taken as one. -/
lemma concat_cons_cons (p q : Option (List β)) (parts : List (Option (List β))) :
    concat (p :: q :: parts) = concat (concat [p, q] :: parts) := by
  cases p with
  | none => rfl
  | some b =>
    cases q with
    | none => rfl
    | some b' => simp [concat, Function.comp_def]

end Coder

universe u v

/-- A parser that consumes its input from the front. -/
abbrev Parser (β : Type u) (ε : Type v) (α : Type u) := StateT (List β) (Except ε) α

/-- The parser `d` reads `x` off `bs`, whatever follows. -/
def Decodes {β α : Type u} {ε : Type v} (d : Parser β ε α) (bs : List β) (x : α) : Prop :=
  ∀ rest, d (bs ++ rest) = .ok (x, rest)

namespace Decodes

variable {β α γ : Type u} {ε : Type v} {bs bs' : List β} {x : α} {y : γ}

lemma pure (x : α) : Decodes (Pure.pure x : Parser β ε α) [] x := fun _ => rfl

lemma bind {d : Parser β ε α} {f : α → Parser β ε γ} (hd : Decodes d bs x)
    (hf : Decodes (f x) bs' y) : Decodes (d >>= f) (bs ++ bs') y := by
  intro rest
  change (d ((bs ++ bs') ++ rest) >>= fun p => f p.1 p.2) = _
  rw [List.append_assoc, hd]
  exact hf rest

lemma bind_concat {d : Parser β ε α} {f : α → Parser β ε γ} {part : Option (List β)}
    {parts : List (Option (List β))} (h : Coder.concat (part :: parts) = some bs)
    (hd : ∀ b, part = some b → Decodes d b x)
    (hf : ∀ rest, Coder.concat parts = some rest → Decodes (f x) rest y) :
    Decodes (d >>= f) bs y := by
  obtain ⟨b, rest, hpart, hparts, rfl⟩ := Coder.concat_cons_eq_some.mp h
  exact (hd b hpart).bind (hf rest hparts)

/-- A parser that ends by putting together what it read. -/
lemma bind_pure {d : Parser β ε α} (hd : Decodes d bs x) (f : α → γ) :
    Decodes (d >>= fun a => (Pure.pure (f a) : Parser β ε γ)) bs (f x) := by
  rw [← List.append_nil bs]
  exact hd.bind (pure _)

lemma bind_pure_concat {d : Parser β ε α} {part : Option (List β)} {f : α → γ}
    (h : Coder.concat [part] = some bs) (hd : ∀ b, part = some b → Decodes d b x) :
    Decodes (d >>= fun a => (Pure.pure (f a) : Parser β ε γ)) bs (f x) := by
  obtain ⟨b, rest, hpart, hnil, rfl⟩ := Coder.concat_cons_eq_some.mp h
  rw [Coder.concat_nil_eq_some.mp hnil, List.append_nil]
  exact (hd b hpart).bind_pure f

/-- Reads `n` items, one after the other. -/
def replicateM (d : Parser β ε α) : ℕ → Parser β ε (List α)
  | 0 => Pure.pure []
  | n + 1 => do
    let x ← d
    let xs ← replicateM d n
    return x :: xs

/-- A sequence is read item by item. -/
lemma replicateM_of_forall {d : Parser β ε α} {encode : α → Option (List β)} {xs : List α}
    (hd : ∀ x ∈ xs, ∀ b, encode x = some b → Decodes d b x) {bs : List β}
    (hbs : Coder.concat (xs.map encode) = some bs) : Decodes (replicateM d xs.length) bs xs := by
  induction xs generalizing bs with
  | nil =>
    rw [List.map_nil, Coder.concat_nil_eq_some] at hbs
    subst hbs
    exact pure []
  | cons x xs ih =>
    rw [List.map_cons, Coder.concat_cons_eq_some] at hbs
    obtain ⟨b, rest, hx, hxs, rfl⟩ := hbs
    refine (hd x List.mem_cons_self b hx).bind ?_
    exact (ih (fun y hy => hd y (List.mem_cons_of_mem _ hy)) hxs).bind_pure _

end Decodes

/-!
## Codecs for bytes

Fixed-width little-endian words, counted byte strings and fixed-size arrays, and the two ways of
making a codec out of others: pairing (`Coder.pair`) and changing the type (`Coder.refine`), where
reading may refuse what writing never produces.
-/

/-! ## Little-endian words -/

/-- The little-endian bytes of a machine word. -/
def leBytes (width : ℕ) (n : ℕ) : List UInt8 :=
  (List.range width).map fun i => UInt8.ofNat (n / 256 ^ i)

/-- The number little-endian bytes stand for. -/
def leNat (bs : List UInt8) : ℕ := bs.foldr (fun b acc => b.toNat + 256 * acc) 0

@[simp] lemma length_leBytes (width n : ℕ) : (leBytes width n).length = width := by
  simp [leBytes]

lemma leBytes_succ (width n : ℕ) :
    leBytes (width + 1) n = UInt8.ofNat n :: leBytes width (n / 256) := by
  simp [leBytes, List.range_succ_eq_map, Function.comp_def, Nat.pow_succ', Nat.div_div_eq_div_mul]

lemma leNat_leBytes {width n : ℕ} (h : n < 256 ^ width) : leNat (leBytes width n) = n := by
  induction width generalizing n with
  | zero =>
    rw [Nat.pow_zero] at h
    simp [leBytes, leNat]
    omega
  | succ width ih =>
    have hrest := ih (n := n / 256) (by rw [Nat.pow_succ'] at h; omega)
    rw [leBytes_succ]
    change (UInt8.ofNat n).toNat + 256 * leNat (leBytes width (n / 256)) = n
    rw [hrest, UInt8.toNat_ofNat']
    omega

namespace Coder

variable {ε α γ : Type} {truncated : ε}

/-! ## Reading and writing bytes -/

/-- Reads a number of bytes. -/
def takeBytes (truncated : ε) (n : ℕ) : Parser UInt8 ε (List UInt8) := fun bs =>
  if n ≤ bs.length then .ok (bs.take n, bs.drop n) else .error truncated

lemma decodes_takeBytes (truncated : ε) (b : List UInt8) :
    Decodes (takeBytes truncated b.length) b b := by
  intro rest
  simp [takeBytes]

/-- A codec as a parser. -/
def read (c : Coder UInt8 ε α) : Parser UInt8 ε α := c.decode

/-- The law of codecs, in terms of their parsers. -/
lemma roundTrips_iff {c : Coder UInt8 ε α} :
    c.RoundTrips ↔ ∀ x bs, c.encode x = some bs → Decodes c.read bs x :=
  ⟨fun h x bs hbs rest => h x bs rest hbs, fun h x bs rest hbs => h x bs hbs rest⟩

/-- Words of a fixed width, little-endian. -/
def word (truncated : ε) (width : ℕ) : Coder UInt8 ε ℕ where
  encode n := if n < 256 ^ width then some (leBytes width n) else none
  decode := show Parser UInt8 ε ℕ from do
    let bs ← takeBytes truncated width
    return leNat bs

lemma word_roundTrips (width : ℕ) : (word truncated width).RoundTrips := by
  refine roundTrips_iff.mpr fun n bs hbs => ?_
  obtain ⟨hlt, hsome⟩ := Option.ite_none_right_eq_some.mp hbs
  obtain rfl := Option.some.inj hsome
  have hdecodes := decodes_takeBytes truncated (leBytes width n)
  rw [length_leBytes] at hdecodes
  have hword := hdecodes.bind_pure leNat
  rwa [leNat_leBytes hlt] at hword

/-- Arrays of a fixed size, without a count. -/
def array (truncated : ε) (n : ℕ) : Coder UInt8 ε (Vector UInt8 n) where
  encode v := some v.toList
  decode := show Parser UInt8 ε (Vector UInt8 n) from do
    let bs ← takeBytes truncated n
    if h : bs.length = n then return ⟨bs.toArray, by simpa using h⟩ else throw truncated

lemma array_roundTrips (n : ℕ) : (array truncated n).RoundTrips := by
  refine roundTrips_iff.mpr fun v bs hbs => ?_
  obtain rfl := Option.some.inj hbs
  have hlength : v.toList.length = n := by simp
  have htake := decodes_takeBytes truncated v.toList
  rw [hlength] at htake
  rw [← List.append_nil v.toList]
  refine htake.bind ?_
  rw [dif_pos hlength]
  exact .pure _

/-- Byte strings after their length. -/
def counted (truncated : ε) (len : Coder UInt8 ε ℕ) : Coder UInt8 ε (List UInt8) where
  encode bs := concat [len.encode bs.length, some bs]
  decode := show Parser UInt8 ε (List UInt8) from do
    let n ← len.read
    takeBytes truncated n

lemma counted_roundTrips {len : Coder UInt8 ε ℕ} (hlen : len.RoundTrips) :
    (counted truncated len).RoundTrips := by
  refine roundTrips_iff.mpr fun b bs hbs => ?_
  refine .bind_concat hbs (fun _ => roundTrips_iff.mp hlen _ _) fun rest hrest => ?_
  obtain ⟨b', empty, hb', hnil, rfl⟩ := concat_cons_eq_some.mp hrest
  obtain rfl := Option.some.inj hb'
  rw [concat_nil_eq_some.mp hnil, List.append_nil]
  exact decodes_takeBytes _ _

/-! ## Codecs out of codecs -/

/-- Writes a value as another one; reading may refuse. -/
def refine (c : Coder UInt8 ε α) (f : γ → α) (g : α → Except ε γ) : Coder UInt8 ε γ where
  encode x := c.encode (f x)
  decode := show Parser UInt8 ε γ from do
    let y ← c.read
    MonadExcept.ofExcept (g y)

lemma refine_roundTrips {c : Coder UInt8 ε α} (hc : c.RoundTrips) {f : γ → α} {g : α → Except ε γ}
    (hg : ∀ x, g (f x) = .ok x) : (c.refine f g).RoundTrips := by
  refine roundTrips_iff.mpr fun x bs hbs => ?_
  rw [← List.append_nil bs]
  refine (roundTrips_iff.mp hc _ _ hbs).bind ?_
  rw [hg]
  exact .pure x

/-- One value after another. -/
def pair (c : Coder UInt8 ε α) (d : Coder UInt8 ε γ) : Coder UInt8 ε (α × γ) where
  encode x := concat [c.encode x.1, d.encode x.2]
  decode := show Parser UInt8 ε (α × γ) from do
    let x ← c.read
    let y ← d.read
    return (x, y)

lemma pair_roundTrips {c : Coder UInt8 ε α} {d : Coder UInt8 ε γ} (hc : c.RoundTrips)
    (hd : d.RoundTrips) : (c.pair d).RoundTrips := by
  refine roundTrips_iff.mpr fun x bs hbs => ?_
  refine .bind_concat hbs (fun _ => roundTrips_iff.mp hc _ _) fun rest hrest => ?_
  exact .bind_pure_concat hrest fun _ => roundTrips_iff.mp hd _ _

/-- A tag that says which variant follows, and the variant's fields. -/
def tagged {τ : Type} (tag : Coder UInt8 ε τ) (variant : γ → τ)
    (fields : γ → List (Option (List UInt8))) (branch : τ → Parser UInt8 ε γ) :
    Coder UInt8 ε γ where
  encode x := concat (tag.encode (variant x) :: fields x)
  decode := show Parser UInt8 ε γ from do
    let t ← tag.read
    branch t

lemma tagged_roundTrips {τ : Type} {tag : Coder UInt8 ε τ} (htag : tag.RoundTrips)
    {variant : γ → τ} {fields : γ → List (Option (List UInt8))} {branch : τ → Parser UInt8 ε γ}
    (h : ∀ x bs, concat (fields x) = some bs → Decodes (branch (variant x)) bs x) :
    (tagged tag variant fields branch).RoundTrips :=
  roundTrips_iff.mpr fun x _ hbs =>
    .bind_concat hbs (fun _ => roundTrips_iff.mp htag _ _) (h x)

end Coder
