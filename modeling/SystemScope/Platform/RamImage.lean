import Mathlib.Data.List.Pairwise
import SystemScope.Platform.RamRefinement

/-!
# The initial contents of the RAM

`Ram::new` sorts the spans of the segments and compares neighbours; that is enough for no two
segments to share a byte (`new_eq_ok`), and so every byte of an accepted image is placed where the
image says, whatever the order of its segments (`contents_of_new`).  It refuses nothing else
(`new_isOk_iff`).
-/

namespace SystemScope.Platform

/-- The segments share no byte. -/
def Segment.Apart (a b : Segment) : Prop := ∀ offset, ¬(a.Covers offset ∧ b.Covers offset)

lemma Segment.Apart.symm {a b : Segment} (h : a.Apart b) : b.Apart a :=
  fun offset hboth => h offset hboth.symm

/-- The byte lies in a span. -/
def Span.Covers (span : Span) (offset : ℕ) : Prop := span.start ≤ offset ∧ offset < span.stop

/-- The spans share no byte. -/
def Span.Apart (a b : Span) : Prop := ∀ offset, ¬(a.Covers offset ∧ b.Covers offset)

/-- Spans that end before their right neighbours begin end before all that follow. -/
lemma pairwise_of_firstOverlap {spans : List Span} (hpos : ∀ span ∈ spans, span.start < span.stop)
    (h : firstOverlap spans = none) : spans.Pairwise fun a b => a.stop ≤ b.start := by
  fun_induction firstOverlap spans with
  | case1 => cases h
  | case2 a b rest hle ih =>
    obtain ⟨-, hrest⟩ := List.forall_mem_cons.mp hpos
    have hpairwise := ih hrest h
    refine List.pairwise_cons.mpr ⟨fun c hc => ?_, hpairwise⟩
    rcases List.mem_cons.mp hc with rfl | hc
    · exact not_lt.mp hle
    · have hb := hrest b List.mem_cons_self
      have hbc := (List.pairwise_cons.mp hpairwise).1 c hc
      omega
  | case3 spans hshort =>
    match spans, hshort with
    | [], _ => exact .nil
    | [_], _ => exact List.pairwise_singleton _ _
    | a :: b :: rest, hshort => exact (hshort a b rest rfl).elim

/-- No two of the spans share a byte, in whichever order. -/
lemma apart_of_firstOverlap {spans : List Span} (hpos : ∀ span ∈ spans, span.start < span.stop)
    (h : firstOverlap (spans.insertionSort fun a b => a.key ≤ b.key) = none) :
    spans.Pairwise Span.Apart := by
  have hperm := List.perm_insertionSort (fun a b : Span => a.key ≤ b.key) spans
  have hsorted := pairwise_of_firstOverlap (fun span hspan => hpos span (hperm.mem_iff.mp hspan)) h
  refine (hperm.pairwise_iff fun hab offset hboth => hab offset hboth.symm).mp
    (hsorted.imp fun {a b} hab offset ⟨⟨_, ha⟩, hb, _⟩ => ?_)
  omega

/-- Segments with spans are in bounds, their spans are not empty, and cover the same bytes. -/
lemma RamConfig.spans_eq_ok {config : RamConfig} {i : ℕ} {segments : List Segment}
    {spans : List Span} (h : config.spans i segments = .ok spans) :
    (∀ segment ∈ segments,
        segment.offset.toNat + segment.bytes.length ≤ config.size.toNat) ∧
      (∀ span ∈ spans, span.start < span.stop) ∧
      (∀ segment ∈ segments, ∀ offset, segment.Covers offset →
        ∃ span ∈ spans, span.Covers offset) ∧
      (spans.Pairwise Span.Apart → segments.Pairwise Segment.Apart) := by
  induction segments generalizing i spans with
  | nil =>
    cases h
    simp
  | cons segment rest ih =>
    have hout : ¬config.size.toNat < segment.offset.toNat + segment.bytes.length := by
      intro hout
      rw [RamConfig.spans, if_pos hout] at h
      cases h
    rw [RamConfig.spans, if_neg hout] at h
    cases hrest : config.spans (i + 1) rest with
    | error e => simp [hrest] at h
    | ok later =>
      obtain ⟨hbounds, hpos, hcovers, hapart⟩ := ih hrest
      rw [hrest] at h
      dsimp only at h
      refine ⟨List.forall_mem_cons.mpr ⟨not_lt.mp hout, hbounds⟩, ?_⟩
      by_cases hlt : segment.offset.toNat < segment.offset.toNat + segment.bytes.length
      · rw [if_pos hlt] at h
        cases h
        refine ⟨List.forall_mem_cons.mpr ⟨hlt, hpos⟩, ?_, fun hpairwise => ?_⟩
        · intro s hs offset hoffset
          rcases List.mem_cons.mp hs with rfl | hs
          · exact ⟨_, List.mem_cons_self, hoffset⟩
          · obtain ⟨span, hspan, hin⟩ := hcovers s hs offset hoffset
            exact ⟨span, List.mem_cons_of_mem _ hspan, hin⟩
        · obtain ⟨hfirst, hlater⟩ := List.pairwise_cons.mp hpairwise
          refine List.pairwise_cons.mpr ⟨fun s hs offset ⟨hin, hin'⟩ => ?_, hapart hlater⟩
          obtain ⟨span, hspan, hsin⟩ := hcovers s hs offset hin'
          exact hfirst span hspan offset ⟨hin, hsin⟩
      · -- An empty segment covers nothing.
        rw [if_neg hlt] at h
        cases h
        have hempty : ∀ offset, ¬segment.Covers offset := by
          intro offset ⟨hle, hlt'⟩
          omega
        refine ⟨hpos, ?_, fun hpairwise => ?_⟩
        · intro s hs offset hoffset
          rcases List.mem_cons.mp hs with rfl | hs
          · exact absurd hoffset (hempty offset)
          · exact hcovers s hs offset hoffset
        · exact List.pairwise_cons.mpr ⟨fun s _ offset hboth => hempty offset hboth.1,
            hapart hpairwise⟩

/-- A configuration that a RAM can have. -/
structure RamConfig.Accepted (config : RamConfig) : Prop where
  pos : 0 < config.size.toNat
  le : config.size.toNat ≤ 2 ^ 32

namespace Ram

variable {config : RamConfig} {image : RamImage} {ram : Ram config}

lemma new_eq_ok (h : new config image = .ok ram) :
    config.Accepted ∧
      (∀ segment ∈ image.segments,
        segment.offset.toNat + segment.bytes.length ≤ config.size.toNat) ∧
      image.segments.Pairwise Segment.Apart ∧
      ram = image.segments.foldl (fun ram segment => ram.store segment.offset.toNat segment.bytes)
        { imageHash := image.imageHash, pages := ∅ } := by
  unfold new at h
  split_ifs at h with hzero hlarge
  cases hspans : config.spans 0 image.segments with
  | error e => simp [hspans] at h
  | ok spans =>
    obtain ⟨hbounds, hpos, -, hapart⟩ := RamConfig.spans_eq_ok hspans
    simp only [hspans] at h
    cases hoverlap : firstOverlap (spans.insertionSort fun a b => a.key ≤ b.key) with
    | some pair => simp [hoverlap] at h
    | none =>
      rw [hoverlap] at h
      refine ⟨⟨?_, ?_⟩, hbounds, hapart (apart_of_firstOverlap hpos hoverlap),
        (Except.ok.inj h).symm⟩
      · rw [← UInt64.toNat_inj] at hzero
        exact Nat.pos_of_ne_zero hzero
      · rw [UInt64.lt_iff_toNat_lt] at hlarge
        exact not_lt.mp hlarge

/-- Storing segments that share no byte: each byte is placed once. -/
lemma contents_foldl_store (hsize : config.size.toNat ≤ 2 ^ 32) {segments : List Segment}
    (hbounds : ∀ segment ∈ segments,
      segment.offset.toNat + segment.bytes.length ≤ config.size.toNat)
    (hapart : segments.Pairwise Segment.Apart) (h : ram.Sound) :
    let ram' := segments.foldl
      (fun ram segment => ram.store segment.offset.toNat segment.bytes) ram
    ram'.Sound ∧ ram'.imageHash = ram.imageHash ∧ ∀ i, ram'.contents i =
      match segments.find? fun segment => segment.Covers i with
      | some segment => segment.bytes.getD (i - segment.offset.toNat) 0
      | none => ram.contents i := by
  induction segments generalizing ram with
  | nil => exact ⟨h, rfl, fun i => rfl⟩
  | cons segment rest ih =>
    obtain ⟨hbound, hrest⟩ := List.forall_mem_cons.mp hbounds
    obtain ⟨hfirst, hpairwise⟩ := List.pairwise_cons.mp hapart
    obtain ⟨hsound, hhash, hcontents⟩ := ih hrest hpairwise (h.store hsize hbound)
    refine ⟨hsound, hhash, fun i => ?_⟩
    rw [List.foldl_cons, hcontents i, h.contents_store hsize hbound, List.find?_cons]
    by_cases hcovers : segment.Covers i
    · -- No later segment covers the byte.
      have hnone : rest.find? (fun segment => segment.Covers i) = none := by
        rw [List.find?_eq_none]
        intro s hs hin
        exact hfirst s hs i ⟨hcovers, by simpa using hin⟩
      rw [hnone, decide_eq_true hcovers]
      exact if_pos hcovers
    · rw [decide_eq_false hcovers]
      cases rest.find? fun segment => segment.Covers i with
      | some s => rfl
      | none => exact if_neg hcovers

lemma contents_of_new (h : new config image = .ok ram) :
    ram.Sound ∧ ram.imageHash = image.imageHash ∧
      ram.contents = image.contents config.size.toNat := by
  obtain ⟨haccepted, hbounds, hapart, rfl⟩ := new_eq_ok h
  obtain ⟨hsound, hhash, hcontents⟩ := contents_foldl_store haccepted.le hbounds hapart
    (sound_empty : (Ram.mk image.imageHash ∅ : Ram config).Sound)
  refine ⟨hsound, hhash, funext fun i => ?_⟩
  rw [hcontents i, contents_empty]
  rfl

end Ram

/-! ## Which images are accepted -/

/-- The span of a segment, if it is not empty. -/
def Segment.span (segment : Segment) (i : ℕ) : Option Span :=
  let stop := segment.offset.toNat + segment.bytes.length
  if segment.offset.toNat < stop then some { start := segment.offset.toNat, stop, segment := i }
  else none

lemma Segment.span_eq_some {segment : Segment} {i : ℕ} {span : Span}
    (h : segment.span i = some span) :
    span.segment = i ∧ span.start < span.stop ∧ ∀ offset, span.Covers offset ↔
      segment.Covers offset := by
  obtain ⟨hlt, hspan⟩ := Option.ite_none_right_eq_some.mp h
  cases hspan
  exact ⟨rfl, hlt, fun offset => Iff.rfl⟩

lemma RamConfig.spans_of_bounds {config : RamConfig} {i : ℕ} {segments : List Segment}
    (h : ∀ segment ∈ segments,
      segment.offset.toNat + segment.bytes.length ≤ config.size.toNat) :
    config.spans i segments =
      .ok ((segments.zipIdx i).filterMap fun entry => entry.1.span entry.2) := by
  induction segments generalizing i with
  | nil => rfl
  | cons segment rest ih =>
    obtain ⟨hbound, hrest⟩ := List.forall_mem_cons.mp h
    rw [RamConfig.spans, if_neg (not_lt.mpr hbound), ih hrest, List.zipIdx_cons,
      List.filterMap_cons]
    dsimp only [Segment.span]
    split_ifs <;> rfl

/-- Neighbours that overlap in a sorted list share the byte at which the second begins. -/
lemma overlap_of_firstOverlap {spans : List Span} {pair : ℕ × ℕ}
    (hpos : ∀ span ∈ spans, span.start < span.stop)
    (hsorted : spans.Pairwise fun a b => a.start ≤ b.start)
    (h : firstOverlap spans = some pair) :
    ∃ a b rest, List.Sublist (a :: b :: rest) spans ∧ ¬a.Apart b ∧
      pair = (min a.segment b.segment, max a.segment b.segment) := by
  fun_induction firstOverlap spans with
  | case1 a b rest hlt =>
    cases h
    obtain ⟨hfirst, -⟩ := List.pairwise_cons.mp hsorted
    have hle := hfirst b List.mem_cons_self
    have hb := hpos b (by simp)
    exact ⟨a, b, rest, List.Sublist.refl _, fun hapart =>
      hapart b.start ⟨⟨hle, hlt⟩, le_rfl, hb⟩, rfl⟩
  | case2 a b rest hle ih =>
    obtain ⟨c, d, later, hsub, hshare, heq⟩ :=
      ih (List.forall_mem_cons.mp hpos).2 (List.pairwise_cons.mp hsorted).2 h
    exact ⟨c, d, later, hsub.cons a, hshare, heq⟩
  | case3 => cases h

/-- The spans of the segments in bounds, in the order of the segments. -/
def RamImage.spans (image : RamImage) : List Span :=
  (image.segments.zipIdx).filterMap fun entry => entry.1.span entry.2

namespace RamImage

variable {image : RamImage}

lemma segment_of_span {span : Span} (h : span ∈ image.spans) :
    ∃ segment, image.segments[span.segment]? = some segment ∧ span.start < span.stop ∧
      ∀ offset, span.Covers offset ↔ segment.Covers offset := by
  obtain ⟨⟨segment, i⟩, hentry, hspan⟩ := List.mem_filterMap.mp h
  obtain ⟨rfl, hlt, hcovers⟩ := Segment.span_eq_some hspan
  exact ⟨segment, List.mem_zipIdx_iff_getElem?.mp hentry, hlt, hcovers⟩

lemma spans_pairwise : image.spans.Pairwise fun a b => a.segment ≠ b.segment := by
  have hindices : (image.segments.zipIdx).Pairwise fun a b => a.2 ≠ b.2 := by
    have hnodup : ((image.segments.zipIdx).map Prod.snd).Nodup := by
      rw [List.zipIdx_map_snd]
      exact List.nodup_range'
    exact List.pairwise_map.mp hnodup
  rw [spans, List.pairwise_filterMap]
  refine hindices.imp fun {a b} hne span hspan span' hspan' => ?_
  rw [(Segment.span_eq_some hspan).1, (Segment.span_eq_some hspan').1]
  exact hne

/-- The spans in the order in which neighbours are compared. -/
lemma sorted_spans : ((image.spans.insertionSort fun a b => a.key ≤ b.key)).Pairwise
    fun a b => a.start ≤ b.start := by
  have hsorted := List.pairwise_insertionSort (fun a b : Span => a.key ≤ b.key) image.spans
  refine hsorted.imp fun {a b} hle => ?_
  rcases Prod.Lex.le_iff.mp hle with hlt | ⟨heq, -⟩
  · exact hlt.le
  · exact heq.le

/-- What the check of neighbours reports shares a byte. -/
lemma share_of_firstOverlap {a b : ℕ}
    (h : firstOverlap (image.spans.insertionSort fun a b => a.key ≤ b.key) = some (a, b)) :
    a < b ∧ ∃ s t, image.segments[a]? = some s ∧ image.segments[b]? = some t ∧ ¬s.Apart t := by
  have hperm := List.perm_insertionSort (fun a b : Span => a.key ≤ b.key) image.spans
  have hpos : ∀ span ∈ image.spans.insertionSort fun a b => a.key ≤ b.key,
      span.start < span.stop := by
    intro span hspan
    obtain ⟨-, -, hlt, -⟩ := segment_of_span (hperm.mem_iff.mp hspan)
    exact hlt
  obtain ⟨x, y, rest, hsub, hshare, heq⟩ := overlap_of_firstOverlap hpos sorted_spans h
  have hne : x.segment ≠ y.segment := by
    have hpairwise := (hperm.pairwise_iff fun {a b} (hab : a.segment ≠ b.segment) => hab.symm).mpr
      spans_pairwise
    exact (List.pairwise_cons.mp (hpairwise.sublist hsub)).1 y List.mem_cons_self
  obtain ⟨s, hs, -, hscovers⟩ := segment_of_span (hperm.mem_iff.mp (hsub.subset (by simp)) : x ∈ _)
  obtain ⟨t, ht, -, htcovers⟩ := segment_of_span (hperm.mem_iff.mp (hsub.subset (by simp)) : y ∈ _)
  have hst : ¬s.Apart t := fun hapart => hshare fun offset ⟨hx, hy⟩ =>
    hapart offset ⟨(hscovers offset).mp hx, (htcovers offset).mp hy⟩
  have hts : ¬t.Apart s := fun hapart => hst hapart.symm
  obtain ⟨ha, hb⟩ := Prod.mk.inj heq
  subst ha hb
  rcases lt_or_gt_of_ne hne with hlt | hlt
  · rw [min_eq_left hlt.le, max_eq_right hlt.le]
    exact ⟨hlt, s, t, hs, ht, hst⟩
  · rw [min_eq_right hlt.le, max_eq_left hlt.le]
    exact ⟨hlt, t, s, ht, hs, hts⟩

end RamImage

namespace Ram

variable {config : RamConfig} {image : RamImage} {ram : Ram config}

/-- An image in bounds is accepted, or two of its segments share a byte. -/
lemma new_of_bounds (haccepted : config.Accepted)
    (hbounds : ∀ segment ∈ image.segments,
      segment.offset.toNat + segment.bytes.length ≤ config.size.toNat) :
    (∃ ram, new config image = .ok ram) ∨
      ∃ a b, new config image = .error (.segmentsOverlap a b) ∧ a < b ∧
        ∃ s t, image.segments[a]? = some s ∧ image.segments[b]? = some t ∧ ¬s.Apart t := by
  have hzero : config.size ≠ 0 := by
    intro hzero
    have hpos := haccepted.pos
    rw [hzero] at hpos
    exact absurd hpos (by decide)
  have hlarge : ¬maxSize < config.size := by
    rw [UInt64.not_lt, UInt64.le_iff_toNat_le]
    exact haccepted.le
  have hspans : config.spans 0 image.segments = .ok image.spans := RamConfig.spans_of_bounds hbounds
  unfold new
  rw [if_neg hzero, if_neg hlarge, hspans]
  dsimp only
  cases hoverlap : firstOverlap (image.spans.insertionSort fun a b => a.key ≤ b.key) with
  | none => exact .inl ⟨_, rfl⟩
  | some pair => exact .inr ⟨pair.1, pair.2, rfl, RamImage.share_of_firstOverlap hoverlap⟩

/-- The segments that are not empty share no byte exactly if no two segments do. -/
lemma pairwise_nonempty {segments : List Segment} :
    (segments.filter fun segment => segment.bytes ≠ []).Pairwise Segment.Apart ↔
      segments.Pairwise Segment.Apart := by
  rw [List.pairwise_filter]
  refine ⟨fun h => h.imp fun {a b} hab offset ⟨ha, hb⟩ => ?_, fun h => h.imp fun hab _ _ => hab⟩
  have hne : ∀ segment : Segment, segment.Covers offset → segment.bytes ≠ [] := by
    intro segment ⟨hle, hlt⟩ hnil
    rw [hnil, List.length_nil] at hlt
    omega
  exact hab (decide_eq_true (hne a ha)) (decide_eq_true (hne b hb)) offset ⟨ha, hb⟩

/-- What `Ram::new` accepts. -/
lemma new_isOk_iff : (∃ ram, new config image = .ok ram) ↔ config.Accepted ∧
    (∀ segment ∈ image.segments,
      segment.offset.toNat + segment.bytes.length ≤ config.size.toNat) ∧
    image.segments.Pairwise Segment.Apart := by
  constructor
  · rintro ⟨ram, h⟩
    obtain ⟨haccepted, hbounds, hapart, -⟩ := new_eq_ok h
    exact ⟨haccepted, hbounds, hapart⟩
  · rintro ⟨haccepted, hbounds, hapart⟩
    obtain hok | ⟨a, b, -, hab, s, t, hs, ht, hshare⟩ := new_of_bounds haccepted hbounds
    · exact hok
    · obtain ⟨ha, rfl⟩ := List.getElem?_eq_some_iff.mp hs
      obtain ⟨hb, rfl⟩ := List.getElem?_eq_some_iff.mp ht
      exact absurd (List.pairwise_iff_getElem.mp hapart a b ha hb hab) hshare

lemma byteAt_of_covers (hapart : image.segments.Pairwise Segment.Apart) {segment : Segment}
    (hmem : segment ∈ image.segments) {i : ℕ} (hcovers : segment.Covers i) :
    image.byteAt i = segment.bytes.getD (i - segment.offset.toNat) 0 := by
  unfold RamImage.byteAt
  cases hfind : image.segments.find? fun segment => segment.Covers i with
  | none => exact absurd (by simpa using hcovers) (List.find?_eq_none.mp hfind segment hmem)
  | some found =>
    have hfound : found.Covers i := by simpa using List.find?_some hfind
    by_cases heq : found = segment
    · rw [heq]
    · have : Std.Symm Segment.Apart := ⟨fun _ _ => .symm⟩
      have hapart' := hapart.forall (List.mem_of_find?_eq_some hfind) hmem heq
      exact absurd ⟨hfound, hcovers⟩ (hapart' i)

lemma byteAt_of_not_covers {i : ℕ} (h : ∀ segment ∈ image.segments, ¬segment.Covers i) :
    image.byteAt i = 0 := by
  have hnone : image.segments.find? (fun segment => segment.Covers i) = none :=
    List.find?_eq_none.mpr fun segment hmem => by simpa using h segment hmem
  rw [RamImage.byteAt, hnone]

/-- The order of the segments does not matter. -/
lemma new_of_perm {segments : List Segment} (hperm : image.segments.Perm segments)
    (h : new config image = .ok ram) : new config { image with segments } = .ok ram := by
  obtain ⟨haccepted, hbounds, hapart, -⟩ := new_eq_ok h
  have hapart' : segments.Pairwise Segment.Apart :=
    (hperm.pairwise_iff Segment.Apart.symm).mp hapart
  obtain ⟨ram', h'⟩ := (@new_isOk_iff config { image with segments }).mpr ⟨haccepted,
    fun segment hmem => hbounds segment (hperm.mem_iff.mpr hmem), hapart'⟩
  obtain ⟨hsound, hhash, hcontents⟩ := contents_of_new h
  obtain ⟨hsound', hhash', hcontents'⟩ := contents_of_new h'
  have hbytes : ∀ i, image.byteAt i = RamImage.byteAt { image with segments } i := by
    intro i
    by_cases hcovered : ∃ segment ∈ image.segments, segment.Covers i
    · obtain ⟨segment, hmem, hcovers⟩ := hcovered
      have hmem' : segment ∈ ({ image with segments } : RamImage).segments := hperm.mem_iff.mp hmem
      rw [byteAt_of_covers hapart hmem hcovers, byteAt_of_covers hapart' hmem' hcovers]
    · push Not at hcovered
      rw [byteAt_of_not_covers hcovered, byteAt_of_not_covers fun segment hmem =>
        hcovered segment (hperm.mem_iff.mpr hmem)]
  rw [h']
  refine congrArg _ (Ram.ext (hhash'.trans hhash.symm) (hsound'.pages_eq hsound ?_))
  rw [hcontents, hcontents']
  exact funext fun i => (hbytes i).symm

/-- **What a RAM can be built from, and what it then holds.**  A configuration and an image are
accepted exactly if the size is right, no segment reaches past the end of the RAM, and no two
segments that are not empty share a byte.  Segments in bounds that share a byte are always found,
and what is reported shares one.  Each byte of the RAM is the one of the segment that covers it,
or 0 if none does, through every load and whatever the order of the segments. -/
theorem new_places_image (config : RamConfig) (image : RamImage) :
    ((∃ ram, new config image = .ok ram) ↔
      (1 ≤ config.size.toNat ∧ config.size.toNat ≤ 2 ^ 32) ∧
      (∀ segment ∈ image.segments,
        segment.offset.toNat + segment.bytes.length ≤ config.size.toNat) ∧
      (image.segments.filter fun segment => segment.bytes ≠ []).Pairwise Segment.Apart) ∧
    (1 ≤ config.size.toNat → config.size.toNat ≤ 2 ^ 32 →
      (∀ segment ∈ image.segments,
        segment.offset.toNat + segment.bytes.length ≤ config.size.toNat) →
      ¬image.segments.Pairwise Segment.Apart →
      ∃ a b, new config image = .error (.segmentsOverlap a b) ∧ a < b ∧
        ∃ s t, image.segments[a]? = some s ∧ image.segments[b]? = some t ∧ ¬s.Apart t) ∧
    ∀ ram, new config image = .ok ram →
      (∀ offset len (hend : offset + len ≤ config.size.toNat),
        ram.load offset len = ram.contents.read offset len hend) ∧
      (∀ segment ∈ image.segments, ∀ i, segment.Covers i.val →
        ram.contents i = segment.bytes.getD (i.val - segment.offset.toNat) 0) ∧
      (∀ i, (∀ segment ∈ image.segments, ¬segment.Covers i.val) → ram.contents i = 0) ∧
      ∀ segments, image.segments.Perm segments →
        new config { image with segments } = .ok ram := by
  refine ⟨?_, fun hpos hle hbounds hshare => ?_, fun ram h => ?_⟩
  · rw [new_isOk_iff, pairwise_nonempty]
    exact and_congr_left fun _ => ⟨fun h => ⟨h.pos, h.le⟩, fun h => ⟨h.1, h.2⟩⟩
  · obtain ⟨ram, hok⟩ | herror := new_of_bounds ⟨hpos, hle⟩ hbounds
    · exact absurd (new_isOk_iff.mp ⟨ram, hok⟩).2.2 hshare
    · exact herror
  · obtain ⟨haccepted, -, hapart, -⟩ := new_eq_ok h
    obtain ⟨hsound, -, hcontents⟩ := contents_of_new h
    refine ⟨fun offset len hend => ram.load_eq haccepted.le hend, ?_, ?_,
      fun segments hperm => new_of_perm hperm h⟩
    · intro segment hmem i hcovers
      rw [hcontents]
      exact byteAt_of_covers hapart hmem hcovers
    · intro i hnone
      rw [hcontents]
      exact byteAt_of_not_covers hnone

end Ram

end SystemScope.Platform
