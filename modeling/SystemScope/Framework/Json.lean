import Mathlib.Data.Int.Notation
import Mathlib.Data.List.Basic

/-!
# JSON texts

JSON values whose numbers are integers, as trees (`Json`) and as compact texts, with the grammar of
the texts (`Json.IsValue`).  `Json.render` writes a value on one line.  Its texts are in the grammar
(`Json.isValue_render`), no text of the grammar has a control character (`Json.IsValue.printable`),
and a value is determined by its text, whatever follows it (`Json.reads_render`).
-/

namespace SystemScope

/-- A JSON value. -/
inductive Json
  | null
  | bool (b : Bool)
  | num (n : ℤ)
  | str (s : String)
  | arr (items : List Json)
  | obj (members : List (String × Json))

namespace Json

/-- The double quote. -/
abbrev quote : Char := '\x22'

abbrev backslash : Char := '\x5c'

abbrev openBrace : Char := '\x7b'

abbrev closeBrace : Char := '\x7d'

/-- Texts with commas between them. -/
def separated {α : Type} (f : α → List Char) : List α → List Char
  | [] => []
  | x :: xs => f x ++ xs.flatMap fun y => ',' :: f y

@[simp] lemma separated_nil {α : Type} (f : α → List Char) : separated f [] = [] := rfl

@[simp] lemma separated_cons {α : Type} (f : α → List Char) (x : α) (xs : List α) :
    separated f (x :: xs) = f x ++ xs.flatMap fun y => ',' :: f y := rfl

/-! ## The grammar -/

/-- A hexadecimal digit. -/
def IsHexDigit (c : Char) : Prop := ∃ n < 16, c = Nat.digitChar n

/-- A character of a string, as it is written. -/
inductive IsChar : List Char → Prop
  | raw {c : Char} (hcontrol : 0x20 ≤ c.toNat) (hquote : c ≠ quote) (hback : c ≠ backslash) :
      IsChar [c]
  | short {c : Char} (h : c ∈ [quote, backslash, '/', 'b', 'f', 'n', 'r', 't']) :
      IsChar [backslash, c]
  | unicode {digits : List Char} (hlength : digits.length = 4) (h : ∀ c ∈ digits, IsHexDigit c) :
      IsChar (backslash :: 'u' :: digits)

/-- A string: characters between quotes. -/
inductive IsString : List Char → Prop
  | mk {chars : List (List Char)} (h : ∀ c ∈ chars, IsChar c) :
      IsString (quote :: (chars.flatten ++ [quote]))

/-- Decimal digits without a leading zero. -/
inductive IsNatural : List Char → Prop
  | zero : IsNatural ['0']
  | digits {c : Char} {cs : List Char} (hlead : c ≠ '0') (h : ∀ d ∈ c :: cs, d.isDigit) :
      IsNatural (c :: cs)

/-- A number without a fraction and an exponent. -/
inductive IsInteger : List Char → Prop
  | natural {t : List Char} (h : IsNatural t) : IsInteger t
  | negative {t : List Char} (h : IsNatural t) : IsInteger ('-' :: t)

/-- A member of an object: its name and its value. -/
def member (m : List Char × List Char) : List Char := m.1 ++ ':' :: m.2

/-- An array or an object, from the texts of what is in it. -/
def array (items : List (List Char)) : List Char := '[' :: (separated id items ++ [']'])

def object (members : List (List Char × List Char)) : List Char :=
  openBrace :: (separated member members ++ [closeBrace])

/-- A text of a value, without blanks. -/
inductive IsValue : List Char → Prop
  | null : IsValue ['n', 'u', 'l', 'l']
  | false_ : IsValue ['f', 'a', 'l', 's', 'e']
  | true_ : IsValue ['t', 'r', 'u', 'e']
  | number {t : List Char} (h : IsInteger t) : IsValue t
  | string {t : List Char} (h : IsString t) : IsValue t
  | array {items : List (List Char)} (h : ∀ t ∈ items, IsValue t) : IsValue (array items)
  | object {members : List (List Char × List Char)} (hnames : ∀ m ∈ members, IsString m.1)
      (hvalues : ∀ m ∈ members, IsValue m.2) : IsValue (object members)

/-- A text of an object. -/
def IsObject (t : List Char) : Prop :=
  ∃ members : List (List Char × List Char),
    (∀ m ∈ members, IsString m.1) ∧ (∀ m ∈ members, IsValue m.2) ∧ t = object members

/-- No character of the text is a control character. -/
def Printable (t : List Char) : Prop := ∀ c ∈ t, 0x20 ≤ c.toNat

section Printable

lemma printable_append {s t : List Char} : Printable (s ++ t) ↔ Printable s ∧ Printable t :=
  List.forall_mem_append

lemma printable_cons {c : Char} {t : List Char} :
    Printable (c :: t) ↔ 0x20 ≤ c.toNat ∧ Printable t :=
  List.forall_mem_cons

lemma printable_nil : Printable [] := List.forall_mem_nil _

lemma printable_of_all {t : List Char} (h : t.all fun c => 0x20 ≤ c.toNat) : Printable t :=
  fun c hc => of_decide_eq_true (List.all_eq_true.mp h c hc)

lemma printable_separated {α : Type} {f : α → List Char} {xs : List α}
    (h : ∀ x ∈ xs, Printable (f x)) : Printable (separated f xs) := by
  cases xs with
  | nil => exact printable_nil
  | cons x xs =>
    obtain ⟨hx, hxs⟩ := List.forall_mem_cons.mp h
    refine printable_append.mpr ⟨hx, fun c hc => ?_⟩
    obtain ⟨y, hy, hc⟩ := List.mem_flatMap.mp hc
    exact printable_cons.mpr ⟨by decide, hxs y hy⟩ c hc

lemma IsChar.printable {t : List Char} (h : IsChar t) : Printable t := by
  cases h with
  | raw hcontrol _ _ => exact printable_cons.mpr ⟨hcontrol, printable_nil⟩
  | short h =>
    refine printable_cons.mpr ⟨by decide, printable_cons.mpr ⟨?_, printable_nil⟩⟩
    simp only [List.mem_cons, List.not_mem_nil, or_false] at h
    rcases h with rfl | rfl | rfl | rfl | rfl | rfl | rfl | rfl <;> decide
  | unicode _ h =>
    refine printable_cons.mpr ⟨by decide, printable_cons.mpr ⟨by decide, fun c hc => ?_⟩⟩
    obtain ⟨n, hn, rfl⟩ := h c hc
    exact (by decide : ∀ n < 16, 0x20 ≤ (Nat.digitChar n).toNat) n hn

lemma IsString.printable {t : List Char} (h : IsString t) : Printable t := by
  obtain ⟨h⟩ := h
  refine printable_cons.mpr ⟨by decide, printable_append.mpr ⟨fun c hc => ?_, ?_⟩⟩
  · obtain ⟨s, hs, hc⟩ := List.mem_flatten.mp hc
    exact (h s hs).printable c hc
  · exact printable_cons.mpr ⟨by decide, printable_nil⟩

lemma IsNatural.printable {t : List Char} (h : IsNatural t) : Printable t := by
  cases h with
  | zero => exact printable_cons.mpr ⟨by decide, printable_nil⟩
  | digits _ h =>
    intro c hc
    exact Nat.le_trans (by decide) (Char.isDigit_iff_toNat.mp (h c hc)).1

/-- No text of a value has a control character. -/
theorem IsValue.printable {t : List Char} (h : IsValue t) : Printable t := by
  induction h with
  | null => exact printable_of_all rfl
  | false_ => exact printable_of_all rfl
  | true_ => exact printable_of_all rfl
  | number h =>
    cases h with
    | natural h => exact h.printable
    | negative h => exact printable_cons.mpr ⟨by decide, h.printable⟩
  | string h => exact h.printable
  | array _ ih =>
    exact printable_cons.mpr ⟨by decide, printable_append.mpr
      ⟨printable_separated ih, printable_cons.mpr ⟨by decide, printable_nil⟩⟩⟩
  | object hnames _ ih =>
    refine printable_cons.mpr ⟨by decide, printable_append.mpr
      ⟨printable_separated fun m hm => ?_, printable_cons.mpr ⟨by decide, printable_nil⟩⟩⟩
    exact printable_append.mpr ⟨(hnames m hm).printable, printable_cons.mpr ⟨by decide, ih m hm⟩⟩

end Printable

/-! ## Rendering -/

/-- The characters with a short escape. -/
def shortEscapes : List (Char × Char) :=
  [(quote, quote), (backslash, backslash), ('\n', 'n'), ('\r', 'r'), ('\t', 't')]

/-- The four hexadecimal digits of a number. -/
def hex4 (n : ℕ) : List Char :=
  [n / 4096 % 16, n / 256 % 16, n / 16 % 16, n % 16].map Nat.digitChar

/-- A character of a string, as it is written. -/
def escape (c : Char) : List Char :=
  match shortEscapes.lookup c with
  | some e => [backslash, e]
  | none => if c.toNat < 0x20 then backslash :: 'u' :: hex4 c.toNat else [c]

def quoted (cs : List Char) : List Char := quote :: (cs.flatMap escape ++ [quote])

/-- The digits of an integer. -/
def decimal : ℤ → List Char
  | .ofNat n => Nat.toDigits 10 n
  | .negSucc n => '-' :: Nat.toDigits 10 (n + 1)

/-- The value of a member is smaller than the object. -/
lemma sizeOf_member_lt {members : List (String × Json)} {m : String × Json} (h : m ∈ members) :
    sizeOf m.2 < sizeOf (obj members) := by
  have hmem := List.sizeOf_lt_of_mem h
  have hpair : sizeOf m = 1 + sizeOf m.1 + sizeOf m.2 := rfl
  rw [obj.sizeOf_spec]
  omega

/-- The text of a value, without blanks. -/
def render : Json → List Char
  | null => ['n', 'u', 'l', 'l']
  | bool b => if b then ['t', 'r', 'u', 'e'] else ['f', 'a', 'l', 's', 'e']
  | num n => decimal n
  | str s => quoted s.toList
  | arr items => array (items.map render)
  | obj members => object (members.map fun m => (quoted m.1.toList, render m.2))
decreasing_by
  · decreasing_tactic
  · exact sizeOf_member_lt ‹_›

@[simp] lemma render_str (s : String) : render (.str s) = quoted s.toList := by
  rw [render]

@[simp] lemma render_arr (items : List Json) : render (.arr items) = array (items.map render) := by
  rw [render]

@[simp] lemma render_obj (members : List (String × Json)) :
    render (.obj members) = object (members.map fun m => (quoted m.1.toList, render m.2)) := by
  rw [render]

/-- What holds of a value if it holds of its parts holds of every value. -/
@[elab_as_elim]
theorem induction {P : Json → Prop} (null : P .null) (bool : ∀ b, P (.bool b))
    (num : ∀ n, P (.num n))
    (str : ∀ s, P (.str s)) (arr : ∀ items, (∀ x ∈ items, P x) → P (.arr items))
    (obj : ∀ members : List (String × Json), (∀ m ∈ members, P m.2) → P (.obj members)) :
    ∀ j, P j
  | .null => null
  | .bool b => bool b
  | .num n => num n
  | .str s => str s
  | .arr items => arr items fun x _ => induction null bool num str arr obj x
  | .obj members => obj members fun m _ => induction null bool num str arr obj m.2
decreasing_by
  · decreasing_tactic
  · exact sizeOf_member_lt ‹_›

/-- A character that a string has as it is. -/
def plain (c : Char) : Bool := c != quote && c != backslash && decide (0x20 ≤ c.toNat)

/-! ## Texts of values -/

lemma isHexDigit_of_mem_hex4 {n : ℕ} {c : Char} (h : c ∈ hex4 n) : IsHexDigit c := by
  obtain ⟨d, hd, rfl⟩ := List.mem_map.mp h
  simp only [List.mem_cons, List.not_mem_nil, or_false] at hd
  exact ⟨d, by omega, rfl⟩

lemma mem_shortEscapes {c e : Char} (h : shortEscapes.lookup c = some e) :
    (c, e) ∈ shortEscapes := by
  obtain ⟨l, r, hl, -⟩ := List.lookup_eq_some_iff.mp h
  rw [hl]
  exact List.mem_append_right _ List.mem_cons_self

lemma isChar_escape (c : Char) : IsChar (escape c) := by
  unfold escape
  cases h : shortEscapes.lookup c with
  | some e =>
    exact .short ((by decide : ∀ p ∈ shortEscapes,
      p.2 ∈ [quote, backslash, '/', 'b', 'f', 'n', 'r', 't']) _ (mem_shortEscapes h))
  | none =>
    dsimp only
    by_cases hcontrol : c.toNat < 0x20
    · rw [if_pos hcontrol]
      exact .unicode rfl fun d hd => isHexDigit_of_mem_hex4 hd
    · rw [if_neg hcontrol]
      refine .raw (Nat.not_lt.mp hcontrol) ?_ ?_
      · rintro rfl
        exact absurd h (by decide)
      · rintro rfl
        exact absurd h (by decide)

lemma isString_quoted (cs : List Char) : IsString (quoted cs) := by
  have h : ∀ t ∈ cs.map escape, IsChar t := by
    intro t ht
    obtain ⟨c, -, rfl⟩ := List.mem_map.mp ht
    exact isChar_escape c
  exact .mk h

/-- Every number but zero starts with another digit than zero. -/
lemma head_toDigits {n : ℕ} (h : 0 < n) : ∃ c cs, Nat.toDigits 10 n = c :: cs ∧ c ≠ '0' := by
  induction n using Nat.strongRecOn with
  | ind n ih =>
    by_cases hlt : n < 10
    · exact ⟨_, [], Nat.toDigits_of_lt_base hlt,
        (by decide : ∀ n < 10, 0 < n → Nat.digitChar n ≠ '0') n hlt h⟩
    · obtain ⟨c, cs, heq, hne⟩ := ih (n / 10) (by omega) (by omega)
      rw [Nat.toDigits_of_base_le (by decide) (Nat.not_lt.mp hlt), heq]
      exact ⟨c, _, rfl, hne⟩

lemma isDigit_toDigits {n : ℕ} : ∀ d ∈ Nat.toDigits 10 n, d.isDigit :=
  fun _ hd => Nat.isDigit_of_mem_toDigits (by decide) (by decide) hd

lemma isNatural_toDigits (n : ℕ) : IsNatural (Nat.toDigits 10 n) := by
  have hall := @isDigit_toDigits n
  by_cases hzero : n = 0
  · subst hzero
    exact .zero
  · obtain ⟨c, cs, heq, hne⟩ := head_toDigits (Nat.pos_of_ne_zero hzero)
    rw [heq] at hall ⊢
    exact .digits hne hall

lemma isInteger_decimal (n : ℤ) : IsInteger (decimal n) := by
  cases n with
  | ofNat n => exact .natural (isNatural_toDigits n)
  | negSucc n => exact .negative (isNatural_toDigits (n + 1))

lemma isObject_render_of {members : List (String × Json)}
    (h : ∀ m ∈ members, IsValue (render m.2)) :
    IsObject (render (.obj members)) := by
  rw [render]
  refine ⟨_, ?_, ?_, rfl⟩
  · intro m hm
    obtain ⟨m, -, rfl⟩ := List.mem_map.mp hm
    exact isString_quoted _
  · intro m hm
    obtain ⟨m', hm', rfl⟩ := List.mem_map.mp hm
    exact h m' hm'

lemma IsObject.isValue {t : List Char} (h : IsObject t) : IsValue t := by
  obtain ⟨members, hnames, hvalues, rfl⟩ := h
  exact .object hnames hvalues

/-- What is rendered is in the grammar. -/
theorem isValue_render (j : Json) : IsValue (render j) := by
  induction j using Json.induction with
  | null =>
    rw [render]
    exact .null
  | bool b =>
    rw [render]
    cases b with
    | false => exact .false_
    | true => exact .true_
  | num n =>
    rw [render]
    exact .number (isInteger_decimal n)
  | str s =>
    rw [render]
    exact .string (isString_quoted _)
  | arr items ih =>
    rw [render]
    refine .array fun t ht => ?_
    obtain ⟨x, hx, rfl⟩ := List.mem_map.mp ht
    exact ih x hx
  | obj members ih => exact (isObject_render_of ih).isValue

theorem isObject_render (members : List (String × Json)) : IsObject (render (.obj members)) :=
  isObject_render_of fun m _ => isValue_render m.2

/-! ## Values of texts -/

/-- No digit follows. -/
def Delimits (r : List Char) : Prop := ∀ c ∈ r.head?, ¬c.isDigit

/-- A text, with whatever follows it, determines what it was written for. -/
def Reads {α : Type} (f : α → List Char) (x : α) : Prop :=
  ∀ y r r', Delimits r → Delimits r' → f x ++ r = f y ++ r' → x = y ∧ r = r'

lemma delimits_cons {c : Char} {r : List Char} (h : ¬c.isDigit) : Delimits (c :: r) := by
  rintro _ ⟨⟩
  exact h

lemma digitChar_inj : ∀ m < 16, ∀ n < 16, Nat.digitChar m = Nat.digitChar n → m = n := by
  decide

lemma char_inj {c c' : Char} (h : c.toNat = c'.toNat) : c = c' := Char.toNat_inj.mp h

lemma hex4_inj {m n : ℕ} (hm : m < 0x20) (hn : n < 0x20) {r r' : List Char}
    (h : hex4 m ++ r = hex4 n ++ r') : m = n ∧ r = r' := by
  unfold hex4 at h
  simp only [List.map_cons, List.map_nil, List.cons_append, List.nil_append, List.cons.injEq] at h
  obtain ⟨-, -, h1, h0, hr⟩ := h
  have h1 := digitChar_inj _ (Nat.mod_lt _ (by decide)) _ (Nat.mod_lt _ (by decide)) h1
  have h0 := digitChar_inj _ (Nat.mod_lt _ (by decide)) _ (Nat.mod_lt _ (by decide)) h0
  exact ⟨by omega, hr⟩

/-- A character that is written as it is starts no escape. -/
lemma ne_backslash {c : Char} (h : shortEscapes.lookup c = none) : c ≠ backslash := by
  rintro rfl
  exact absurd h (by decide)

lemma ne_quote {c : Char} (h : shortEscapes.lookup c = none) : c ≠ quote := by
  rintro rfl
  exact absurd h (by decide)

/-- What is written of a character. -/
lemma escape_cases (c : Char) :
    (∃ e, (c, e) ∈ shortEscapes ∧ escape c = [backslash, e]) ∨
      (c.toNat < 0x20 ∧ escape c = backslash :: 'u' :: hex4 c.toNat) ∨
      (c ≠ quote ∧ c ≠ backslash ∧ 0x20 ≤ c.toNat ∧ escape c = [c]) := by
  unfold escape
  cases h : shortEscapes.lookup c with
  | some e => exact .inl ⟨e, mem_shortEscapes h, rfl⟩
  | none =>
    dsimp only
    by_cases hcontrol : c.toNat < 0x20
    · rw [if_pos hcontrol]
      exact .inr (.inl ⟨hcontrol, rfl⟩)
    · rw [if_neg hcontrol]
      exact .inr (.inr ⟨ne_quote h, ne_backslash h, Nat.not_lt.mp hcontrol, rfl⟩)

lemma shortEscapes_inj : ∀ p ∈ shortEscapes, ∀ q ∈ shortEscapes, p.2 = q.2 → p.1 = q.1 := by
  decide

lemma shortEscapes_ne_u : ∀ p ∈ shortEscapes, p.2 ≠ 'u' := by
  decide

lemma shortEscapes_control {c e : Char} (h : (c, e) ∈ shortEscapes) :
    c = quote ∨ c = backslash ∨ c.toNat < 0x20 := by
  have hall : ∀ p ∈ shortEscapes, p.1 = quote ∨ p.1 = backslash ∨ p.1.toNat < 0x20 := by decide
  exact hall _ h

lemma escape_plain {c : Char} (h : plain c) : escape c = [c] := by
  unfold plain at h
  simp only [Bool.and_eq_true, bne_iff_ne, decide_eq_true_eq] at h
  obtain ⟨⟨hquote, hback⟩, hcontrol⟩ := h
  rcases escape_cases c with ⟨e, he, -⟩ | ⟨hlt, -⟩ | ⟨-, -, -, hc⟩
  · rcases shortEscapes_control he with rfl | rfl | hlt
    · exact absurd rfl hquote
    · exact absurd rfl hback
    · exact absurd hcontrol (Nat.not_le.mpr hlt)
  · exact absurd hcontrol (Nat.not_le.mpr hlt)
  · exact hc

/-- A string of plain characters is written as it is. -/
lemma quoted_plain {cs : List Char} (h : cs.all plain) : quoted cs = quote :: (cs ++ [quote]) := by
  have hall : cs.flatMap escape = cs := by
    induction cs with
    | nil => rfl
    | cons c cs ih =>
      rw [List.all_cons, Bool.and_eq_true] at h
      rw [List.flatMap_cons, escape_plain h.1, ih h.2]
      rfl
  unfold quoted
  rw [hall]

/-- What is written of a character determines it, whatever follows. -/
lemma escape_inj {c c' : Char} {r r' : List Char} (h : escape c ++ r = escape c' ++ r') :
    c = c' ∧ r = r' := by
  rcases escape_cases c with ⟨e, he, hc⟩ | ⟨hlt, hc⟩ | ⟨-, hback, -, hc⟩
  · rcases escape_cases c' with ⟨e', he', hc'⟩ | ⟨-, hc'⟩ | ⟨-, hback', -, hc'⟩
    · rw [hc, hc'] at h
      simp only [List.cons_append, List.nil_append, List.cons.injEq, true_and] at h
      exact ⟨shortEscapes_inj _ he _ he' h.1, h.2⟩
    · rw [hc, hc'] at h
      simp only [List.cons_append, List.nil_append, List.cons.injEq, true_and] at h
      exact absurd h.1 (shortEscapes_ne_u _ he)
    · rw [hc, hc'] at h
      simp only [List.cons_append, List.nil_append, List.cons.injEq] at h
      exact absurd h.1.symm hback'
  · rcases escape_cases c' with ⟨e', he', hc'⟩ | ⟨hlt', hc'⟩ | ⟨-, hback', -, hc'⟩
    · rw [hc, hc'] at h
      simp only [List.cons_append, List.nil_append, List.cons.injEq, true_and] at h
      exact absurd h.1.symm (shortEscapes_ne_u _ he')
    · rw [hc, hc'] at h
      simp only [List.cons_append, List.cons.injEq, true_and] at h
      obtain ⟨hnat, hr⟩ := hex4_inj hlt hlt' h
      exact ⟨char_inj hnat, hr⟩
    · rw [hc, hc'] at h
      simp only [List.cons_append, List.nil_append, List.cons.injEq] at h
      exact absurd h.1.symm hback'
  · rcases escape_cases c' with ⟨e', -, hc'⟩ | ⟨-, hc'⟩ | ⟨-, -, -, hc'⟩
    · rw [hc, hc'] at h
      simp only [List.cons_append, List.nil_append, List.cons.injEq] at h
      exact absurd h.1 hback
    · rw [hc, hc'] at h
      simp only [List.cons_append, List.nil_append, List.cons.injEq] at h
      exact absurd h.1 hback
    · rw [hc, hc'] at h
      simpa only [List.cons_append, List.nil_append, List.cons.injEq] using h

/-- What is written of a character does not start with a quote. -/
lemma escape_ne_quote (c : Char) (r r' : List Char) : escape c ++ r ≠ quote :: r' := by
  intro h
  rcases escape_cases c with ⟨e, -, hc⟩ | ⟨-, hc⟩ | ⟨hquote, -, -, hc⟩
  · rw [hc] at h
    exact absurd (List.cons.inj h).1 (by decide)
  · rw [hc] at h
    exact absurd (List.cons.inj h).1 (by decide)
  · rw [hc] at h
    exact hquote (List.cons.inj h).1

/-- A string ends at its closing quote. -/
lemma quoted_inj {cs cs' r r' : List Char} (h : quoted cs ++ r = quoted cs' ++ r') :
    cs = cs' ∧ r = r' := by
  have hclose {cs cs' : List Char}
      (h : cs.flatMap escape ++ quote :: r = cs'.flatMap escape ++ quote :: r') :
        cs = cs' ∧ r = r' := by
    induction cs generalizing cs' with
    | nil =>
      cases cs' with
      | nil => exact ⟨rfl, (List.cons.inj h).2⟩
      | cons c cs' =>
        rw [List.flatMap_cons, List.append_assoc] at h
        exact absurd h.symm (escape_ne_quote c _ _)
    | cons c cs ih =>
      rw [List.flatMap_cons, List.append_assoc] at h
      cases cs' with
      | nil => exact absurd h (escape_ne_quote c _ _)
      | cons c' cs' =>
        rw [List.flatMap_cons, List.append_assoc] at h
        obtain ⟨rfl, hrest⟩ := escape_inj h
        obtain ⟨rfl, hr⟩ := ih hrest
        exact ⟨rfl, hr⟩
  unfold quoted at h
  simp only [List.cons_append, List.append_assoc, List.nil_append, List.cons.injEq, true_and] at h
  exact hclose h

lemma toDigits_inj {m n : ℕ} {r r' : List Char} (hr : Delimits r) (hr' : Delimits r')
    (h : Nat.toDigits 10 m ++ r = Nat.toDigits 10 n ++ r') : m = n ∧ r = r' := by
  have hsplit {n : ℕ} {r : List Char} (hr : Delimits r) :
      (Nat.toDigits 10 n ++ r).takeWhile Char.isDigit = Nat.toDigits 10 n := by
    rw [List.takeWhile_append_of_pos isDigit_toDigits]
    cases r with
    | nil => rw [List.takeWhile_nil, List.append_nil]
    | cons c r => rw [List.takeWhile_cons_of_neg (hr c rfl), List.append_nil]
  have hdigits : Nat.toDigits 10 m = Nat.toDigits 10 n := by
    rw [← hsplit hr, h, hsplit hr']
  have heq : m = n := by
    have hread := congrArg (Nat.ofDigitChars 10 · 0) hdigits
    simpa only [Nat.ofDigitChars_ten_toDigits] using hread
  rw [hdigits] at h
  exact ⟨heq, List.append_cancel_left h⟩

lemma toDigits_ne_minus (n : ℕ) (r r' : List Char) : Nat.toDigits 10 n ++ r ≠ '-' :: r' := by
  intro h
  cases hdigits : Nat.toDigits 10 n with
  | nil => exact Nat.toDigits_ne_nil hdigits
  | cons c cs =>
    rw [hdigits] at h
    have hc := isDigit_toDigits c (by rw [hdigits]; exact List.mem_cons_self)
    rw [(List.cons.inj h).1] at hc
    exact absurd hc (by decide)

lemma decimal_inj {m n : ℤ} {r r' : List Char} (hr : Delimits r) (hr' : Delimits r')
    (h : decimal m ++ r = decimal n ++ r') : m = n ∧ r = r' := by
  cases m with
  | ofNat m =>
    cases n with
    | ofNat n =>
      obtain ⟨rfl, hr⟩ := toDigits_inj hr hr' h
      exact ⟨rfl, hr⟩
    | negSucc n => exact absurd h (toDigits_ne_minus _ _ _)
  | negSucc m =>
    cases n with
    | ofNat n => exact absurd h.symm (toDigits_ne_minus _ _ _)
    | negSucc n =>
      obtain ⟨hsucc, hr⟩ := toDigits_inj hr hr' (List.cons.inj h).2
      exact ⟨by rw [Nat.succ.inj hsucc], hr⟩

/-! ### Lists -/

section Separated

variable {α : Type} {f : α → List Char} {close : Char}

lemma delimits_rest {xs : List α} (hdigit : ¬close.isDigit) (r : List Char) :
    Delimits ((xs.flatMap fun y => ',' :: f y) ++ close :: r) := by
  cases xs with
  | nil => exact delimits_cons hdigit
  | cons x xs => exact delimits_cons (by decide)

/-- What comes after the first of a list ends before the closing character. -/
lemma rest_inj (hcomma : close ≠ ',') (hdigit : ¬close.isDigit) {xs ys : List α}
    (hreads : ∀ x ∈ xs, Reads f x) {r r' : List Char}
    (h : (xs.flatMap fun y => ',' :: f y) ++ close :: r = (ys.flatMap fun y => ',' :: f y) ++
      close :: r') :
    xs = ys ∧ r = r' := by
  induction xs generalizing ys with
  | nil =>
    cases ys with
    | nil => exact ⟨rfl, (List.cons.inj h).2⟩
    | cons y ys => exact absurd (List.cons.inj h).1 hcomma
  | cons x xs ih =>
    cases ys with
    | nil => exact absurd (List.cons.inj h).1.symm hcomma
    | cons y ys =>
      obtain ⟨hx, hxs⟩ := List.forall_mem_cons.mp hreads
      simp only [List.flatMap_cons, List.cons_append, List.append_assoc, List.cons.injEq,
        true_and] at h
      obtain ⟨rfl, hrest⟩ := hx y _ _ (delimits_rest hdigit r) (delimits_rest hdigit r') h
      obtain ⟨rfl, hr⟩ := ih hxs hrest
      exact ⟨rfl, hr⟩

/-- A list ends before the closing character, if none of its elements starts with it. -/
lemma separated_inj (hcomma : close ≠ ',') (hdigit : ¬close.isDigit)
    (hclose : ∀ x (r r' : List Char), f x ++ r ≠ close :: r') {xs ys : List α}
    (hreads : ∀ x ∈ xs, Reads f x) {r r' : List Char}
    (h : separated f xs ++ close :: r = separated f ys ++ close :: r') : xs = ys ∧ r = r' := by
  cases xs with
  | nil =>
    cases ys with
    | nil => exact ⟨rfl, (List.cons.inj h).2⟩
    | cons y ys =>
      simp only [separated_nil, separated_cons, List.append_assoc, List.nil_append] at h
      exact absurd h.symm (hclose y _ _)
  | cons x xs =>
    cases ys with
    | nil =>
      simp only [separated_nil, separated_cons, List.append_assoc, List.nil_append] at h
      exact absurd h (hclose x _ _)
    | cons y ys =>
      obtain ⟨hx, hxs⟩ := List.forall_mem_cons.mp hreads
      simp only [separated_cons, List.append_assoc] at h
      obtain ⟨rfl, hrest⟩ := hx y _ _ (delimits_rest hdigit r) (delimits_rest hdigit r') h
      obtain ⟨rfl, hr⟩ := rest_inj hcomma hdigit hxs hrest
      exact ⟨rfl, hr⟩

end Separated

/-! ### Values -/

/-- What kind of value a text starts. -/
inductive Kind
  | null
  | bool
  | num
  | str
  | arr
  | obj
  deriving DecidableEq

def kind : Json → Kind
  | null => .null
  | bool _ => .bool
  | num _ => .num
  | str _ => .str
  | arr _ => .arr
  | obj _ => .obj

/-- The kind of a value, from the first character of its text. -/
def kindOf (c : Char) : Option Kind :=
  if c = 'n' then some .null
  else if c = 't' ∨ c = 'f' then some .bool
  else if c = '-' ∨ c.isDigit then some .num
  else if c = quote then some .str
  else if c = '[' then some .arr
  else if c = openBrace then some .obj
  else none

lemma kindOf_digit {c : Char} (h : c.isDigit) : kindOf c = some .num := by
  have hne {d : Char} (hd : ¬d.isDigit) : c ≠ d := by
    rintro rfl
    exact hd h
  unfold kindOf
  rw [if_neg (hne (by decide)), if_neg (by simp [hne]), if_pos (.inr h)]

/-- A text starts with a character of its kind. -/
lemma kindOf_render (j : Json) : ∃ c cs, render j = c :: cs ∧ kindOf c = some j.kind := by
  cases j with
  | null => exact ⟨_, _, by rw [render], rfl⟩
  | bool b =>
    cases b with
    | false => exact ⟨_, _, by rw [render]; rfl, rfl⟩
    | true => exact ⟨_, _, by rw [render]; rfl, rfl⟩
  | num n =>
    rw [render]
    cases n with
    | ofNat n =>
      cases hdigits : Nat.toDigits 10 n with
      | nil => exact absurd hdigits Nat.toDigits_ne_nil
      | cons c cs =>
        have hmem : c ∈ Nat.toDigits 10 n := by
          rw [hdigits]
          exact List.mem_cons_self
        exact ⟨c, cs, hdigits, kindOf_digit (isDigit_toDigits c hmem)⟩
    | negSucc n => exact ⟨_, _, rfl, rfl⟩
  | str s => exact ⟨_, _, by rw [render]; rfl, rfl⟩
  | arr items => exact ⟨_, _, by rw [render]; rfl, rfl⟩
  | obj members => exact ⟨_, _, by rw [render]; rfl, rfl⟩

lemma kind_eq {j j' : Json} {r r' : List Char} (h : render j ++ r = render j' ++ r') :
    j.kind = j'.kind := by
  obtain ⟨c, cs, hj, hkind⟩ := kindOf_render j
  obtain ⟨c', cs', hj', hkind'⟩ := kindOf_render j'
  rw [hj, hj'] at h
  rw [(List.cons.inj h).1, hkind'] at hkind
  exact (Option.some.inj hkind).symm

/-- No value starts with a character that is of no kind. -/
lemma render_ne {c : Char} (h : kindOf c = none) (j : Json) (r r' : List Char) :
    render j ++ r ≠ c :: r' := by
  intro heq
  obtain ⟨c', cs, hj, hkind⟩ := kindOf_render j
  rw [hj] at heq
  rw [(List.cons.inj heq).1, h] at hkind
  cases hkind

lemma reads_member {m : String × Json} (h : Reads render m.2) :
    Reads (fun m : String × Json => member (quoted m.1.toList, render m.2)) m := by
  intro m' r r' hr hr' heq
  unfold member at heq
  simp only [List.append_assoc, List.cons_append] at heq
  obtain ⟨hname, heq⟩ := quoted_inj heq
  obtain ⟨hvalue, hr⟩ := h _ _ _ hr hr' (List.cons.inj heq).2
  exact ⟨Prod.ext (String.toList_inj.mp hname) hvalue, hr⟩

lemma separated_map {α β : Type} (f : β → List Char) (g : α → β) (xs : List α) :
    separated f (xs.map g) = separated (fun x => f (g x)) xs := by
  cases xs with
  | nil => rfl
  | cons x xs =>
    rw [List.map_cons, separated_cons, separated_cons, List.flatMap_map]

/-- A value is determined by its text, whatever follows it. -/
theorem reads_render (j : Json) : Reads render j := by
  induction j using Json.induction with
  | null =>
    intro j' r r' hr hr' h
    have hkind := kind_eq h
    cases j' <;> cases hkind
    exact ⟨rfl, List.append_cancel_left h⟩
  | bool b =>
    intro j' r r' hr hr' h
    have hkind := kind_eq h
    cases j' with
    | bool b' =>
      rw [render, render] at h
      cases b with
      | false =>
        cases b' with
        | false => exact ⟨rfl, List.append_cancel_left h⟩
        | true => exact absurd (List.cons.inj h).1 (by decide)
      | true =>
        cases b' with
        | false => exact absurd (List.cons.inj h).1 (by decide)
        | true => exact ⟨rfl, List.append_cancel_left h⟩
    | _ => cases hkind
  | num n =>
    intro j' r r' hr hr' h
    have hkind := kind_eq h
    cases j' with
    | num n' =>
      rw [render, render] at h
      obtain ⟨rfl, hrest⟩ := decimal_inj hr hr' h
      exact ⟨rfl, hrest⟩
    | _ => cases hkind
  | str s =>
    intro j' r r' hr hr' h
    have hkind := kind_eq h
    cases j' with
    | str s' =>
      rw [render, render] at h
      obtain ⟨hs, hrest⟩ := quoted_inj h
      exact ⟨congrArg _ (String.toList_inj.mp hs), hrest⟩
    | _ => cases hkind
  | arr items ih =>
    intro j' r r' hr hr' h
    have hkind := kind_eq h
    cases j' with
    | arr items' =>
      rw [render, render] at h
      unfold array at h
      simp only [List.cons_append, List.append_assoc, List.nil_append, List.cons.injEq, true_and,
        separated_map] at h
      obtain ⟨rfl, hrest⟩ := separated_inj (by decide) (by decide)
        (fun x => render_ne (by decide) x) ih h
      exact ⟨rfl, hrest⟩
    | _ => cases hkind
  | obj members ih =>
    intro j' r r' hr hr' h
    have hkind := kind_eq h
    cases j' with
    | obj members' =>
      rw [render, render] at h
      unfold object at h
      simp only [List.cons_append, List.append_assoc, List.nil_append, List.cons.injEq, true_and,
        separated_map] at h
      obtain ⟨rfl, hrest⟩ := separated_inj (by decide) (by decide)
        (fun m r r' hm => absurd (List.cons.inj hm).1 (by decide))
          (fun m hm => reads_member (ih m hm)) h
      exact ⟨rfl, hrest⟩
    | _ => cases hkind

theorem render_injective : Function.Injective render := by
  intro j j' h
  refine (reads_render j j' [] [] nofun nofun ?_).1
  rw [List.append_nil, List.append_nil, h]

/-- A line ends at its newline. -/
lemma line_inj {l l' r r' : List Char} (hl : Printable l) (hl' : Printable l')
    (h : l ++ '\n' :: r = l' ++ '\n' :: r') : l = l' ∧ r = r' := by
  have hnewline : ¬0x20 ≤ '\n'.toNat := by decide
  induction l generalizing l' with
  | nil =>
    cases l' with
    | nil => exact ⟨rfl, (List.cons.inj h).2⟩
    | cons c l' =>
      rw [← (List.cons.inj h).1] at hl'
      exact absurd (printable_cons.mp hl').1 hnewline
  | cons c l ih =>
    cases l' with
    | nil =>
      rw [(List.cons.inj h).1] at hl
      exact absurd (printable_cons.mp hl).1 hnewline
    | cons c' l' =>
      obtain ⟨rfl, hrest⟩ := List.cons.inj h
      obtain ⟨rfl, hr⟩ := ih (printable_cons.mp hl).2 (printable_cons.mp hl').2 hrest
      exact ⟨rfl, hr⟩

/-- Texts without control characters are determined by what they are as lines. -/
lemma lines_inj {ls ls' : List (List Char)} (hls : ∀ l ∈ ls, Printable l)
    (hls' : ∀ l ∈ ls', Printable l)
    (h : ls.flatMap (· ++ ['\n']) = ls'.flatMap (· ++ ['\n'])) : ls = ls' := by
  induction ls generalizing ls' with
  | nil =>
    cases ls' with
    | nil => rfl
    | cons l' ls' => exact absurd h (by simp)
  | cons l ls ih =>
    cases ls' with
    | nil => exact absurd h (by simp)
    | cons l' ls' =>
      obtain ⟨hl, hall⟩ := List.forall_mem_cons.mp hls
      obtain ⟨hl', hall'⟩ := List.forall_mem_cons.mp hls'
      simp only [List.flatMap_cons, List.append_assoc, List.cons_append, List.nil_append] at h
      obtain ⟨rfl, hrest⟩ := line_inj hl hl' h
      rw [ih hall hall' hrest]

end Json

end SystemScope
