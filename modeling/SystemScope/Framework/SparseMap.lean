import Mathlib.Data.List.Sort
import SystemScope.Framework.PartialCodec

/-!
# Sparse tables

A table in which most entries are a default, kept as an ordered map of the other ones (a
`BTreeMap`).  `value` is the table, `put` changes an entry of it, and a map is `Canonical` if it
stores no default.  Canonical maps of the same table are the same map, whatever was put into them
on the way (`Canonical.ext`).

A map is written entry by entry, in ascending order of the keys.  Reading checks the order, and then
accepts exactly what is written of maps (`ReadsParts.map`).
-/

universe u v

namespace SparseMap

open Std (ExtTreeMap TransOrd LawfulEqOrd)

variable {κ : Type u} {β : Type v} [Ord κ] [TransOrd κ] {d : β} {m m' : ExtTreeMap κ β} {k : κ}

/-- The entry of a key, stored or not. -/
def value (d : β) (m : ExtTreeMap κ β) (k : κ) : β := (m[k]? : Option β).getD d

/-- The default is not stored. -/
def Canonical (d : β) (m : ExtTreeMap κ β) : Prop := ∀ k : κ, m[k]? ≠ some d

/-- Changes an entry, without storing the default. -/
def put [DecidableEq β] (d : β) (m : ExtTreeMap κ β) (k : κ) (v : β) : ExtTreeMap κ β :=
  if v = d then m.erase k else m.insert k v

@[simp] lemma value_empty : value d (∅ : ExtTreeMap κ β) k = d := by
  simp [value]

lemma canonical_empty : Canonical d (∅ : ExtTreeMap κ β) := by
  simp [Canonical]

lemma value_of_getElem? {v : β} (h : m[k]? = some v) : value d m k = v := by
  rw [value, h, Option.getD_some]

lemma value_of_getElem?_none (h : m[k]? = none) : value d m k = d := by
  rw [value, h, Option.getD_none]

/-- What is stored in a canonical map is the rest of its table. -/
lemma Canonical.getElem?_eq_some (h : Canonical d m) {v : β} :
    m[k]? = some v ↔ value d m k = v ∧ v ≠ d := by
  constructor
  · intro hv
    refine ⟨value_of_getElem? hv, fun heq => h k ?_⟩
    rw [hv, heq]
  · intro ⟨hv, hne⟩
    cases hk : m[k]? with
    | none =>
      rw [value_of_getElem?_none hk] at hv
      exact absurd hv.symm hne
    | some w =>
      rw [value_of_getElem? hk] at hv
      rw [hv]

section

variable [LawfulEqOrd κ]

/-- A canonical map is determined by its table. -/
lemma Canonical.ext (h : Canonical d m) (h' : Canonical d m')
    (heq : ∀ k, value d m k = value d m' k) : m = m' := by
  refine ExtTreeMap.ext_getElem? fun k => Option.ext fun v => ?_
  rw [h.getElem?_eq_some, h'.getElem?_eq_some, heq]

variable [DecidableEq κ] [DecidableEq β]

lemma getElem?_put {v : β} {j : κ} : (put d m k v)[j]? =
    if j = k then (if v = d then none else some v) else m[j]? := by
  have hkey : compare k j = .eq ↔ j = k := by
    rw [Std.compare_eq_iff_eq]
    exact eq_comm
  unfold put
  by_cases hv : v = d
  · simp only [if_pos hv, ExtTreeMap.getElem?_erase, hkey]
  · simp only [if_neg hv, ExtTreeMap.getElem?_insert, hkey]

@[simp] lemma value_put {v : β} {j : κ} :
    value d (put d m k v) j = if j = k then v else value d m j := by
  unfold value
  rw [getElem?_put]
  by_cases hj : j = k
  · by_cases hv : v = d
    · simp [hj, hv]
    · simp [hj, hv]
  · simp [hj]

lemma Canonical.put (h : Canonical d m) (k : κ) (v : β) : Canonical d (put d m k v) := by
  intro j
  rw [getElem?_put]
  by_cases hj : j = k
  · by_cases hv : v = d
    · simp [hj, hv]
    · simp [hj, hv]
  · rw [if_neg hj]
    exact h j

end

/-! ## Maps as lists of entries -/

section

variable {l : List (κ × β)}

/-- The keys ascend. -/
def Ascending (l : List (κ × β)) : Prop := l.Pairwise fun a b => compare a.1 b.1 = .lt

lemma ascending_toList : Ascending m.toList := ExtTreeMap.ordered_keys_toList

lemma Ascending.nodup (h : Ascending l) : l.Nodup := by
  refine h.imp fun {a b} hab heq => ?_
  have hself : compare b.1 b.1 = .eq := Std.ReflCmp.compare_self
  rw [heq, hself] at hab
  cases hab

variable [LawfulEqOrd κ]

lemma Ascending.getElem?_ofList (h : Ascending l) {v : β} :
    (ExtTreeMap.ofList l)[k]? = some v ↔ (k, v) ∈ l := by
  have hdistinct : l.Pairwise fun a b => ¬compare a.1 b.1 = .eq := h.imp fun hlt heq => by
    rw [hlt] at heq
    cases heq
  have hmem : ∀ {w}, (k, w) ∈ l → (ExtTreeMap.ofList l)[k]? = some w := fun hw =>
    ExtTreeMap.getElem?_ofList_of_mem (Std.compare_eq_iff_eq.mpr rfl) hdistinct hw
  refine ⟨fun hv => ?_, hmem⟩
  by_cases hkey : ∃ w, (k, w) ∈ l
  · obtain ⟨w, hw⟩ := hkey
    rw [hmem hw] at hv
    rwa [← Option.some.inj hv]
  · exfalso
    classical
    rw [ExtTreeMap.getElem?_ofList_of_contains_eq_false (by simpa using hkey)] at hv
    cases hv

/-- A map lists the entries it was made of. -/
lemma toList_ofList (h : Ascending l) : (ExtTreeMap.ofList l).toList = l := by
  refine List.Perm.eq_of_pairwise (fun a b _ _ hab hba => ?_) ascending_toList h ?_
  · rw [Std.OrientedOrd.eq_swap, hab] at hba
    cases hba
  · refine (List.perm_ext_iff_of_nodup ascending_toList.nodup h.nodup).mpr fun ⟨k, v⟩ => ?_
    rw [ExtTreeMap.mem_toList_iff_getElem?_eq_some, h.getElem?_ofList]

lemma ofList_toList : ExtTreeMap.ofList m.toList = m := by
  apply ExtTreeMap.ext_toList
  rw [toList_ofList ascending_toList]

end

end SparseMap

/-! ## Reading a map -/

section

open Std (ExtTreeMap TransOrd LawfulEqOrd)

variable {κ β : Type} {ε : Type v}

/-- Reads entries one after the other; an entry is read knowing the key before it. -/
def Parser.entries (entry : Option κ → Parser UInt8 ε (κ × β)) :
    ℕ → Option κ → Parser UInt8 ε (List (κ × β))
  | 0, _ => pure []
  | n + 1, previous => do
    let e ← entry previous
    let rest ← entries entry n e.1
    return e :: rest

variable [Ord κ] {entry : Option κ → Parser UInt8 ε (κ × β)} {P : κ × β → Prop}
  {w : κ × β → List (Option (List UInt8))}

/-- A key comes after the one before it, if there is one. -/
def SparseMap.After (previous : Option κ) (k : κ) : Prop :=
  ∀ p, previous = some p → compare p k = .lt

/-- What a reader checks of the key before an entry. -/
lemma SparseMap.any_le_eq_false_iff [LE κ] [DecidableLE κ] [LT κ] [Std.LawfulOrderOrd κ]
    [Std.LawfulOrderLT κ] {previous : Option κ} {k : κ} :
    previous.any (fun p => k ≤ p) = false ↔ After previous k := by
  cases previous with
  | none => simp [After]
  | some p => simp [After, Std.compare_eq_lt, Std.not_le]

variable [TransOrd κ]

open SparseMap

lemma ReadsParts.entries (h : ∀ previous, ReadsParts (entry previous)
      (fun e => After previous e.1 ∧ P e) w) (n : ℕ) (previous : Option κ) :
    ReadsParts (Parser.entries entry n previous)
      (fun l => l.length = n ∧ Ascending l ∧ (∀ e ∈ l, After previous e.1) ∧ ∀ e ∈ l, P e)
      fun l => l.flatMap w := by
  induction n generalizing previous with
  | zero =>
    intro bs l rest
    change (pure [] : Parser UInt8 ε (List (κ × β))) bs = _ ↔ _
    rw [Parser.pure_eq_ok]
    constructor
    · rintro ⟨rfl, rfl⟩
      simp [Ascending]
    · rintro ⟨⟨hlength, -⟩, hw⟩
      obtain rfl := List.length_eq_zero_iff.mp hlength
      exact ⟨rfl, by simpa using hw⟩
  | succ n ih =>
    intro bs l rest
    change (entry previous >>= fun e => Parser.entries entry n e.1 >>= fun l => pure (e :: l)) bs =
      _ ↔ _
    simp only [(h previous).bind_eq_ok, (ih _).bind_eq_ok, Parser.pure_eq_ok]
    constructor
    · rintro ⟨e, r, ⟨hafter, hP⟩, hw, l', r', ⟨rfl, hascending, hall, hPs⟩, hws, rfl, rfl⟩
      have hlt : ∀ e' ∈ l', compare e.1 e'.1 = .lt := fun e' he' => hall e' he' e.1 rfl
      refine ⟨⟨rfl, List.pairwise_cons.mpr ⟨hlt, hascending⟩, ?_, ?_⟩, ?_⟩
      · refine List.forall_mem_cons.mpr ⟨hafter, fun e' he' p hp => ?_⟩
        exact Std.TransCmp.lt_trans (hafter p hp) (hlt e' he')
      · exact List.forall_mem_cons.mpr ⟨hP, hPs⟩
      · rw [List.flatMap_cons]
        exact writes_append.mpr ⟨r, hw, hws⟩
    · rintro ⟨⟨hlength, hascending, hall, hPs⟩, hw⟩
      obtain ⟨e, l', rfl⟩ := List.exists_cons_of_length_eq_add_one hlength
      rw [List.flatMap_cons] at hw
      obtain ⟨r, he, hrest⟩ := writes_append.mp hw
      obtain ⟨hlt, hascending'⟩ := List.pairwise_cons.mp hascending
      obtain ⟨hafter, -⟩ := List.forall_mem_cons.mp hall
      obtain ⟨hP, hPs'⟩ := List.forall_mem_cons.mp hPs
      refine ⟨e, r, ⟨hafter, hP⟩, he, l', rest, ⟨Nat.succ.inj hlength, hascending', ?_, hPs'⟩,
        hrest, rfl, rfl⟩
      intro e' he' p hp
      rw [← Option.some.inj hp]
      exact hlt e' he'

variable [LawfulEqOrd κ]

/-- A counted map: reading in order accepts every map, in the one way it is written. -/
lemma ReadsParts.map {dlen : Parser UInt8 ε ℕ} {wlen : ℕ → List (Option (List UInt8))}
    (hlen : ReadsParts dlen (fun _ => True) wlen)
    (h : ∀ previous, ReadsParts (entry previous) (fun e => After previous e.1 ∧ P e) w) :
    ReadsParts (dlen >>= fun n => Parser.entries entry n none >>= fun l =>
        pure (ExtTreeMap.ofList l))
      (fun m => ∀ (k : κ) (v : β), m[k]? = some v → P (k, v))
      fun m : ExtTreeMap κ β => wlen m.size ++ m.toList.flatMap w := by
  intro bs m rest
  simp only [hlen.bind_eq_ok, (ReadsParts.entries h _ none).bind_eq_ok, Parser.pure_eq_ok,
    writes_append, true_and]
  constructor
  · rintro ⟨n, r, hn, l, r', ⟨rfl, hascending, -, hP⟩, hw, rfl, rfl⟩
    have hlist := toList_ofList hascending
    refine ⟨fun k v hv => hP _ (hascending.getElem?_ofList.mp hv), r, ?_, ?_⟩
    · rwa [← ExtTreeMap.length_toList, hlist]
    · rwa [hlist]
  · rintro ⟨hP, r, hn, hw⟩
    refine ⟨m.size, r, hn, m.toList, rest, ⟨ExtTreeMap.length_toList, ascending_toList, ?_, ?_⟩, hw,
      ofList_toList, rfl⟩
    · intro e _ p hp
      cases hp
    · intro e he
      exact hP e.1 e.2 (ExtTreeMap.mem_toList_iff_getElem?_eq_some.mp he)

end
