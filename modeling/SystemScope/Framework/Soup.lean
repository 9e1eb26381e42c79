import Mathlib.Algebra.Order.Group.Multiset
import Mathlib.Data.Multiset.Filter
import Std.Data.ExtTreeMap
import SystemScope.Framework.SparseMap

/-!
# Packets in no order

Parties that exchange packets over a medium without any order: a `Soup` is the joint state of the
parties with the packets under way, and a step takes in one of them, whichever it is
(`Soup.Step`).  A rank that every step lowers bounds the length of a run, and what the steps keep
meanwhile holds after it (`Run.rank_le`).

What is where in such a system is best told by tickets, one for each thing on its way: what a party
holds is then a *view* of the tickets, `tickets.filterMap view`, and so are the packets.  A step
replaces one ticket, and the views follow (`Multiset.filterMap_cons_eq`).  The entries of an ordered
map are such a multiset (`entries`).
-/

/-- The joint state of the parties, and the packets under way. -/
@[ext]
structure Soup (σ π : Type*) where
  state : σ
  packets : Multiset π

namespace Soup

variable {σ π : Type*}

/-- What taking in a packet may do: the joint state after it, and the packets sent off. -/
abbrev Reaction (σ π : Type*) := σ → π → σ → Multiset π → Prop

/-- Some packet is taken in. -/
inductive Step (R : Reaction σ π) : Soup σ π → Soup σ π → Prop
  | mk {state state' : σ} {p : π} {rest posts : Multiset π} (h : R state p state' posts) :
      Step R ⟨state, p ::ₘ rest⟩ ⟨state', rest + posts⟩

/-- A number of packets is taken in, one after the other. -/
inductive Run (R : Reaction σ π) (s : Soup σ π) : ℕ → Soup σ π → Prop
  | refl : Run R s 0 s
  | step {n : ℕ} {s' s'' : Soup σ π} (h : Run R s n s') (hstep : Step R s' s'') :
      Run R s (n + 1) s''

variable {R : Reaction σ π} {s s' s'' : Soup σ π} {n m : ℕ}

lemma Run.rank_le {I : Soup σ π → ℕ → Prop}
    (hstep : ∀ s s' r, Step R s s' → I s r → ∃ r', I s' r' ∧ r' < r) {r : ℕ} (hs : I s r)
    (h : Run R s n s') : ∃ r', I s' r' ∧ r' + n ≤ r := by
  induction h with
  | refl => exact ⟨r, hs, le_rfl⟩
  | step _ hlast ih =>
    obtain ⟨r₁, hinv, hrank⟩ := ih
    obtain ⟨r₂, hinv', hlt⟩ := hstep _ _ _ hlast hinv
    exact ⟨r₂, hinv', by omega⟩

end Soup

/-! ## Views of tickets -/

namespace Multiset

variable {α β : Type*} {f : α → Option β} {s : Multiset α} {a : α} {b : β}

/-- What one item adds to a view. -/
def shown (f : α → Option β) (a : α) : Multiset β := (f a).elim 0 ({·})

lemma filterMap_cons_eq (f : α → Option β) (a : α) (s : Multiset α) :
    (a ::ₘ s).filterMap f = shown f a + s.filterMap f := by
  unfold shown
  cases h : f a with
  | none => rw [filterMap_cons_none _ _ h, Option.elim_none, zero_add]
  | some b => rw [filterMap_cons_some _ _ _ h, Option.elim_some, singleton_add]

/-- An item that looks like another takes its place in a view. -/
lemma filterMap_replace {t : Multiset β} {a' : α} (ht : t = (a ::ₘ s).filterMap f)
    (h : f a' = f a) : t = (a' ::ₘ s).filterMap f := by
  rw [ht, filterMap_cons_eq, filterMap_cons_eq, shown, shown, h]

/-- Whatever is in a view is there for an item. -/
lemma exists_cons_of_mem_filterMap (h : b ∈ s.filterMap f) : ∃ a t, s = a ::ₘ t ∧ f a = some b := by
  obtain ⟨a, ha, hab⟩ := (mem_filterMap f s).mp h
  obtain ⟨t, rfl⟩ := exists_cons_of_mem ha
  exact ⟨a, t, rfl, hab⟩

lemma filterMap_eq_zero (h : ∀ a ∈ s, f a = none) : s.filterMap f = 0 := by
  induction s using Multiset.induction_on with
  | empty => rfl
  | cons a s ih =>
    rw [filterMap_cons_none _ _ (h a (mem_cons_self a s))]
    exact ih fun a' ha' => h a' (mem_cons_of_mem ha')

/-- Items that are not shown can go. -/
lemma filterMap_add_of_none {t : Multiset α} (h : ∀ a ∈ t, f a = none) :
    (s + t).filterMap f = s.filterMap f := by
  rw [filterMap_add, filterMap_eq_zero h, add_zero]

end Multiset

/-! ## The entries of a map -/

namespace SparseMap

open Std (ExtTreeMap TransOrd LawfulEqOrd)

universe u v

variable {κ : Type u} {β : Type v} [Ord κ] [TransOrd κ] {m : ExtTreeMap κ β} {k : κ} {v : β}

/-- The entries of a map, in no order. -/
def entries (m : ExtTreeMap κ β) : Multiset (κ × β) := m.toList

lemma card_entries : (entries m).card = m.size := by
  rw [entries, Multiset.coe_card, ExtTreeMap.length_toList]

lemma nodup_entries : (entries m).Nodup := Multiset.coe_nodup.mpr ascending_toList.nodup

variable [LawfulEqOrd κ]

@[simp] lemma mem_entries : (k, v) ∈ entries m ↔ m[k]? = some v := by
  rw [entries, Multiset.mem_coe, ExtTreeMap.mem_toList_iff_getElem?_eq_some]

@[simp] lemma entries_empty : entries (∅ : ExtTreeMap κ β) = 0 := by
  refine Multiset.eq_zero_of_forall_notMem fun ⟨k, v⟩ h => ?_
  simp at h

/-- A new key adds an entry. -/
lemma entries_insert (h : m[k]? = none) : entries (m.insert k v) = (k, v) ::ₘ entries m := by
  have hfresh : (k, v) ∉ entries m := by
    rw [mem_entries, h]
    simp
  refine (Multiset.Nodup.ext nodup_entries (Multiset.nodup_cons.mpr ⟨hfresh, nodup_entries⟩)).mpr ?_
  rintro ⟨j, w⟩
  rw [Multiset.mem_cons, mem_entries, mem_entries, ExtTreeMap.getElem?_insert]
  by_cases hj : k = j
  · subst hj
    simp [h, eq_comm]
  · have hne : ¬compare k j = .eq := fun heq => hj (Std.compare_eq_iff_eq.mp heq)
    simp [hne, Ne.symm hj]

/-- A key that is erased takes its entry away. -/
lemma entries_erase (h : m[k]? = some v) : (k, v) ::ₘ entries (m.erase k) = entries m := by
  have hgone : (k, v) ∉ entries (m.erase k) := by
    rw [mem_entries, ExtTreeMap.getElem?_erase]
    simp
  refine (Multiset.Nodup.ext (Multiset.nodup_cons.mpr ⟨hgone, nodup_entries⟩) nodup_entries).mpr ?_
  rintro ⟨j, w⟩
  rw [Multiset.mem_cons, mem_entries, mem_entries, ExtTreeMap.getElem?_erase]
  by_cases hj : k = j
  · subst hj
    simp [h, eq_comm]
  · have hne : ¬compare k j = .eq := fun heq => hj (Std.compare_eq_iff_eq.mp heq)
    simp [hne, Ne.symm hj]

lemma size_insert (h : m[k]? = none) : (m.insert k v).size = m.size + 1 := by
  rw [← card_entries, entries_insert h, Multiset.card_cons, card_entries]

lemma size_erase (h : m[k]? = some v) : (m.erase k).size + 1 = m.size := by
  rw [← card_entries, ← Multiset.card_cons, entries_erase h, card_entries]

end SparseMap
