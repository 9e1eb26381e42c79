import SystemScope.Elf.UserImage

/-!
# A file and its prefix

The parser reads the headers of a file only.  So a prefix of the file either is too short, and then
the parser says how much of the file it needs, or it is as good as the file
(`parse_prefix`). -/

namespace SystemScope.Elf

open Checks

section Prefix

variable {elf : Bytes} {at_ : ℕ} (rest : Bytes)

lemma Fields.bytes_of_le {n : ℕ} (h : at_ + n ≤ elf.length) :
    Fields.bytes (elf ++ rest) at_ n = Fields.bytes elf at_ n := by
  have hsome : Fields.bytes elf at_ n = some ((elf.drop at_).take n) := if_pos h
  rw [Fields.bytes_append hsome, hsome]

lemma Fields.u8_of_lt (h : at_ < elf.length) : Fields.u8 (elf ++ rest) at_ = Fields.u8 elf at_ :=
  List.getElem?_append_left h

lemma Fields.u16_of_le (h : at_ + 2 ≤ elf.length) :
    Fields.u16 (elf ++ rest) at_ = Fields.u16 elf at_ := by
  unfold Fields.u16
  rw [Fields.bytes_of_le rest h]

lemma Fields.u32_of_le (h : at_ + 4 ≤ elf.length) :
    Fields.u32 (elf ++ rest) at_ = Fields.u32 elf at_ := by
  unfold Fields.u32
  rw [Fields.bytes_of_le rest h]

/-- The table of program headers goes past the end of the prefix. -/
structure TablePast (elf : Bytes) (h : Header) : Prop where
  phoff : Fields.u32 elf 28 = some h.phoff
  phentsize : ∃ size, Fields.u16 elf 42 = some size ∧ (h.phnum ≠ 0 → size = phdrSize)
  phnum : Fields.u16 elf 44 = some h.phnum
  xnum : h.phnum ≠ pnXnum
  past : elf.length < h.tableEnd

/-- What the header check finds in a file, against what it finds in the prefix. -/
inductive Extends (elf rest : Bytes) : Except ElfError Header → Except ElfError Header → Prop
  | same (r : Except ElfError Header) : Extends elf rest r r
  | past {h : Header} (hpast : TablePast elf h) :
    Extends elf rest (.error .malformedProgramHeaders)
      (if (elf ++ rest).length < h.tableEnd then .error .malformedProgramHeaders else .ok h)

/-- The same field is read first. -/
lemma Extends.bind {α : Type} {d : Except ElfError α} {f g : α → Except ElfError Header}
    (h : ∀ x, d = .ok x → Extends elf rest (f x) (g x)) : Extends elf rest (d >>= f) (d >>= g) := by
  cases d with
  | error e => exact .same (.error e)
  | ok x => exact h x rfl

/-- The same check is made first. -/
lemma Extends.guard {p : Prop} [Decidable p] {e : ElfError} {d d' : Except ElfError Header}
    (h : ¬p → Extends elf rest d d') :
    Extends elf rest (if p then .error e else d) (if p then .error e else d') := by
  by_cases hp : p
  · rw [if_pos hp, if_pos hp]
    exact .same _
  · rw [if_neg hp, if_neg hp]
    exact h hp

/-- The header of a prefix that holds the file header is that of the file, unless the table goes
past the prefix. -/
lemma header_extends (hlen : ehdrSize ≤ elf.length) :
    Extends elf rest (header elf) (header (elf ++ rest)) := by
  have hshort : ¬(elf ++ rest).length < ehdrSize := by
    rw [List.length_append]
    omega
  unfold header
  rw [if_neg hshort, if_neg (Nat.not_lt.mpr hlen)]
  unfold ehdrSize at hlen
  rw [Fields.bytes_of_le rest (by omega), Fields.u8_of_lt rest (by omega),
    Fields.u8_of_lt rest (by omega), Fields.u8_of_lt rest (by omega),
    Fields.u16_of_le rest (by omega), Fields.u16_of_le rest (by omega),
    Fields.u32_of_le rest (by omega), Fields.u32_of_le rest (by omega),
    Fields.u32_of_le rest (by omega), Fields.u16_of_le rest (by omega),
    Fields.u16_of_le rest (by omega), Fields.u16_of_le rest (by omega)]
  refine .guard rest fun _ => .bind rest fun cls _ => .guard rest fun _ => ?_
  refine .bind rest fun data _ => .guard rest fun _ => .bind rest fun version _ => ?_
  refine .guard rest fun _ => .bind rest fun type _ => .guard rest fun _ => ?_
  refine .bind rest fun machine _ => .guard rest fun _ => .bind rest fun version _ => ?_
  refine .guard rest fun _ => .bind rest fun entry _ => .bind rest fun phoff hphoff => ?_
  refine .bind rest fun ehsize _ => .guard rest fun _ => .bind rest fun phentsize hphentsize => ?_
  refine .bind rest fun phnum hphnum => .guard rest fun hsize => ?_
  obtain ⟨hxnum, hsize⟩ := not_or.mp hsize
  have hfound : TablePast elf { entry, phoff, phnum } ∨
      ¬elf.length < (Header.tableEnd { entry, phoff, phnum }) := by
    by_cases hpast : elf.length < (Header.tableEnd { entry, phoff, phnum })
    · refine .inl ⟨okOr_eq_ok.mp hphoff, ⟨phentsize, okOr_eq_ok.mp hphentsize, ?_⟩,
        okOr_eq_ok.mp hphnum, hxnum, hpast⟩
      intro hne
      by_contra hother
      exact hsize ⟨hne, hother⟩
    · exact .inr hpast
  rcases hfound with hpast | hwhole
  · rw [if_pos hpast.past]
    exact .past hpast
  · rw [if_neg hwhole, if_neg (by rw [List.length_append]; omega)]
    exact .same _

/-- Where the header check finds no table, the file has none or it goes past the end. -/
lemma header_malformed (hlen : ehdrSize ≤ elf.length)
    (h : header elf = .error .malformedProgramHeaders) :
    (rawU16 elf 44 = pnXnum ∨ rawU16 elf 44 ≠ 0 ∧ rawU16 elf 42 ≠ phdrSize) ∨
      ∃ found, TablePast elf found := by
  have hyields : Yields (fun e => e = ElfError.malformedProgramHeaders →
      (rawU16 elf 44 = pnXnum ∨ rawU16 elf 44 ≠ 0 ∧ rawU16 elf 42 ≠ phdrSize) ∨
        ∃ found, TablePast elf found) (fun _ => True) (header elf) := by
    have hfield {α : Type} (o : Option α) : Yields (fun e => e = ElfError.malformedProgramHeaders →
        (rawU16 elf 44 = pnXnum ∨ rawU16 elf 44 ≠ 0 ∧ rawU16 elf 42 ≠ phdrSize) ∨
          ∃ found, TablePast elf found) (fun x => o = some x) (okOr .malformedHeader o) := by
      cases o with
      | none => exact nofun
      | some x => rfl
    unfold header
    rw [if_neg (Nat.not_lt.mpr hlen)]
    refine .guard nofun fun _ => (hfield _).bind fun cls _ => .guard nofun fun _ => ?_
    refine (hfield _).bind fun data _ => .guard nofun fun _ => (hfield _).bind fun version _ => ?_
    refine .guard nofun fun _ => (hfield _).bind fun type _ => .guard nofun fun _ => ?_
    refine (hfield _).bind fun machine _ => .guard nofun fun _ => (hfield _).bind
      fun version _ => ?_
    refine .guard nofun fun _ => (hfield _).bind fun entry _ => (hfield _).bind
      fun phoff hphoff => ?_
    refine (hfield _).bind fun ehsize _ => .guard nofun fun _ => ?_
    refine (hfield _).bind fun phentsize hphentsize => (hfield _).bind fun phnum hphnum => ?_
    refine .guard (fun hbad _ => .inl ?_) fun hsize => .guard (fun hpast _ => .inr ?_)
      fun _ => trivial
    · unfold rawU16
      rwa [hphentsize, hphnum]
    · obtain ⟨hxnum, hsize⟩ := not_or.mp hsize
      refine ⟨_, hphoff, ⟨phentsize, hphentsize, ?_⟩, hphnum, hxnum, hpast⟩
      intro hne
      by_contra hother
      exact hsize ⟨hne, hother⟩
  exact hyields.of_error h rfl

lemma TablePast.raw {h : Header} (hpast : TablePast elf h) :
    rawU16 elf 44 = h.phnum ∧ (Fields.u32 elf 28).getD 0 = h.phoff ∧
      ¬(rawU16 elf 44 = pnXnum ∨ rawU16 elf 44 ≠ 0 ∧ rawU16 elf 42 ≠ phdrSize) := by
  obtain ⟨size, hsize, hphdr⟩ := hpast.phentsize
  unfold rawU16
  rw [hpast.phnum, hpast.phoff, hsize]
  refine ⟨rfl, rfl, ?_⟩
  rintro (hxnum | ⟨hne, hother⟩)
  · exact hpast.xnum hxnum
  · exact hother (hphdr hne)

/-- The raw fields that say where the table ends. -/
lemma raw_append (hlen : ehdrSize ≤ elf.length) :
    Fields.u32 (elf ++ rest) 28 = Fields.u32 elf 28 ∧ rawU16 (elf ++ rest) 44 = rawU16 elf 44 := by
  unfold rawU16 ehdrSize at *
  exact ⟨Fields.u32_of_le rest (by omega), by rw [Fields.u16_of_le rest (by omega)]⟩

/-- The parser asks for more of the file than it was given, and for no more than there is. -/
lemma checkedHeader_tooShort {fileLen needed : UInt32}
    (h : checkedHeader elf fileLen = .error (.prefixTooShort needed)) :
    elf.length < needed.toNat ∧ needed.toNat ≤ fileLen.toNat := by
  have hlt := fileLen.toNat_lt
  unfold checkedHeader at h
  split at h
  · cases h
  · split at h
    · next hshort =>
      split at h
      · cases h
      · cases h
        unfold ehdrSize at *
        rw [UInt32.toNat_ofNat_of_lt' (show _ < 2 ^ 32 by omega)]
        omega
    · next hlong =>
      split at h
      · split at h <;> cases h
      · next hmalformed =>
        dsimp only at h
        split at h
        · cases h
        · next hnot =>
          split at h
          · cases h
          · split at h
            · next hend =>
              cases h
              rcases header_malformed (Nat.not_lt.mp hlong) hmalformed with hbad | ⟨found, hpast⟩
              · exact absurd hbad hnot
              · obtain ⟨hphnum, hphoff, -⟩ := hpast.raw
                have htable := hpast.past
                unfold Header.tableEnd Header.phdrAt at htable
                rw [hphnum, hphoff] at hend ⊢
                rw [toNat_narrow (by omega)]
                exact ⟨htable, hend⟩
            · cases h
      · cases h

/-- What the parser asks for: the end of the table. -/
lemma checkedHeader_needed {fileLen needed : UInt32} (hlen : ehdrSize ≤ elf.length)
    (h : checkedHeader elf fileLen = .error (.prefixTooShort needed)) :
    needed.toNat = ((Fields.u32 elf 28).getD 0).toNat + (rawU16 elf 44).toNat * phdrSize.toNat := by
  have hlt := fileLen.toNat_lt
  unfold checkedHeader at h
  rw [if_neg (Nat.not_lt.mpr hlen)] at h
  split at h
  · cases h
  · split at h
    · split at h <;> cases h
    · dsimp only at h
      split at h
      · cases h
      · split at h
        · cases h
        · split at h
          · next hend =>
            cases h
            exact toNat_narrow (by omega)
          · cases h
    · cases h

/-- The header of a prefix is that of a longer one, unless the parser asks for more. -/
lemma checkedHeader_prefix {fileLen : UInt32} (hfile : (elf ++ rest).length ≤ fileLen.toNat) :
    (∃ needed, checkedHeader elf fileLen = .error (.prefixTooShort needed)) ∨
      checkedHeader elf fileLen = checkedHeader (elf ++ rest) fileLen := by
  have hmore : elf.length ≤ (elf ++ rest).length := by
    rw [List.length_append]
    omega
  have hle : elf.length ≤ fileLen.toNat := hmore.trans hfile
  unfold checkedHeader
  rw [if_neg (Nat.not_lt.mpr hle), if_neg (Nat.not_lt.mpr hfile)]
  by_cases hshort : elf.length < ehdrSize
  · rw [if_pos hshort]
    by_cases hfileShort : fileLen.toNat < ehdrSize
    · have hlonger : (elf ++ rest).length < ehdrSize := by omega
      rw [if_pos hlonger]
      exact .inr rfl
    · rw [if_neg hfileShort]
      exact .inl ⟨_, rfl⟩
  · have hlen : ehdrSize ≤ elf.length := Nat.not_lt.mp hshort
    rw [if_neg hshort, if_neg (Nat.not_lt.mpr (hlen.trans hmore))]
    have hphentsize : rawU16 (elf ++ rest) 42 = rawU16 elf 42 := by
      unfold rawU16 ehdrSize at *
      rw [Fields.u16_of_le rest (by omega)]
    obtain ⟨hphoff, hphnum⟩ := raw_append rest hlen
    rw [hphentsize, hphnum, hphoff]
    have hextends := header_extends rest hlen
    generalize header elf = r at hextends
    generalize header (elf ++ rest) = r' at hextends
    cases hextends with
    | same => exact .inr rfl
    | @past h hpast =>
      obtain ⟨hn, hoff, hgood⟩ := hpast.raw
      dsimp only
      rw [if_neg hgood, hn, hoff]
      by_cases hmany : maxPhdrs < h.phnum
      · right
        rw [if_pos hmany]
        by_cases hend : (elf ++ rest).length < h.tableEnd
        · rw [if_pos hend]
        · rw [if_neg hend]
          exact (if_pos hmany).symm
      · rw [if_neg hmany]
        by_cases hend : fileLen.toNat < h.tableEnd
        · have htable : ¬h.phoff.toNat + h.phnum.toNat * phdrSize.toNat ≤ fileLen.toNat :=
            Nat.not_le.mpr hend
          have hpast : (elf ++ rest).length < h.tableEnd := by omega
          rw [if_neg htable, if_pos hpast]
          exact .inr rfl
        · have htable : h.phoff.toNat + h.phnum.toNat * phdrSize.toNat ≤ fileLen.toNat :=
            Nat.not_lt.mp hend
          rw [if_pos htable]
          exact .inl ⟨_, rfl⟩

/-! ## The program headers -/

lemma programHeader_extend {h : Header} {i : ℕ} (hle : h.tableEnd ≤ elf.length)
    (hi : i < h.phnum.toNat) : programHeader (elf ++ rest) h i = programHeader elf h i := by
  have hin := Header.phdr_inFile hle hi
  unfold programHeader
  dsimp only
  rw [Fields.u32_of_le rest (by omega), Fields.u32_of_le rest (by omega),
    Fields.u32_of_le rest (by omega), Fields.u32_of_le rest (by omega),
    Fields.u32_of_le rest (by omega), Fields.u32_of_le rest (by omega)]

lemma checkSegment_prefix {fileLen : UInt32} {range : UserRange} {h : Header} {i : ℕ}
    (hle : h.tableEnd ≤ elf.length) (hi : i < h.phnum.toNat) :
    checkSegment (elf ++ rest) fileLen range h i = checkSegment elf fileLen range h i := by
  have hin := Header.phdr_inFile hle hi
  have hflags : pFlags (elf ++ rest) h i = pFlags elf h i := by
    unfold pFlags pFlagsOffset
    rw [Fields.u32_of_le rest (by omega)]
  unfold checkSegment
  rw [programHeader_extend rest hle hi, hflags]

end Prefix

lemma tableEnd_of_header {elf : Bytes} {h : Header} (hh : header elf = .ok h) :
    h.tableEnd ≤ elf.length :=
  (header_eq_ok.mp hh).table

/-! ## The parser -/

section Parser

variable {elf : Bytes} {fileLen : UInt32} (range : UserRange)

lemma checkSegment_yields {h : Header} {i : ℕ} : Yields (fun e => ∀ n, e ≠ .prefixTooShort n)
    (fun _ => True) (checkSegment elf fileLen range h i) := by
  unfold checkSegment
  refine Yields.bind (P := fun _ => True) ?_ fun ph _ => ?_
  · cases programHeader elf h i with
    | error e => exact fun n => nofun
    | ok ph => trivial
  · dsimp only
    split
    · trivial
    · refine .guard (fun _ _ => nofun) fun _ => .guard (fun _ _ => nofun) fun _ => ?_
      split
      · trivial
      · refine Yields.bind (P := fun _ => True) ?_ fun flags _ => ?_
        · unfold pFlags
          cases Fields.u32 elf (h.phdrAt i + pFlagsOffset) with
          | none => exact fun n => nofun
          | some flags => trivial
        · exact .guard (fun _ _ => nofun) fun _ => .guard (fun _ _ => nofun) fun _ =>
            .guard (fun _ _ => nofun) fun _ => trivial

lemma checkPairs_yields (segments : List Checked) : Yields (fun e => ∀ n, e ≠ .prefixTooShort n)
    (fun _ => True) (checkPairs segments) := by
  induction segments using checkPairs.induct with
  | case1 a b rest ih =>
    unfold checkPairs
    refine Yields.bind (P := fun _ => True) ?_ fun _ _ => ih
    exact .guard (fun _ _ => nofun) fun _ => .guard (fun _ _ => nofun) fun _ => trivial
  | case2 segments hshort =>
    unfold checkPairs
    split
    · next a b rest => exact absurd rfl (hshort a b rest)
    · trivial

lemma header_tooShort {needed : UInt32}
    (h : parseUserElf32 elf fileLen range = .error (.prefixTooShort needed)) :
    checkedHeader elf fileLen = .error (.prefixTooShort needed) := by
  unfold parseUserElf32 at h
  split at h
  · cases h
  · cases hheader : checkedHeader elf fileLen with
    | error e =>
      rw [hheader] at h
      cases h
      rfl
    | ok found =>
      rw [hheader] at h
      have hyields : Yields (fun e : UserElfError => ∀ n, e ≠ .prefixTooShort n) (fun _ => True)
          (do
            let loaded ← (List.range found.phnum.toNat).mapM (checkSegment elf fileLen range found)
            let checked := (loaded.filterMap id).mergeSort fun a b => a.vaddr ≤ b.vaddr
            checkPairs checked
            if found.entry.toNat % 4 ≠ 0 then .error (.misalignedEntry found.entry) else
            if ∀ s ∈ checked, ¬s.RunsEntry found.entry then
              .error (.entryNotExecutable found.entry) else
            return { entry := found.entry,
                     segments := checked.map Checked.toSegment : UserImage }) := by
        refine Yields.bind (P := fun _ => True) (.mapM fun i _ => checkSegment_yields range)
          fun loaded _ => ?_
        refine Yields.bind (P := fun _ => True) (checkPairs_yields _) fun _ _ => ?_
        exact .guard (fun _ _ => nofun) fun _ => .guard (fun _ _ => nofun) fun _ => trivial
      exact absurd rfl (hyields.of_error h needed)

/-- The parser asks for more of the file than it was given, and for no more than there is. -/
lemma parse_tooShort {needed : UInt32}
    (h : parseUserElf32 elf fileLen range = .error (.prefixTooShort needed)) :
    elf.length < needed.toNat ∧ needed.toNat ≤ fileLen.toNat :=
  checkedHeader_tooShort (header_tooShort range h)

/-- A prefix is as good as a longer one, unless the parser asks for more. -/
lemma parse_longer (rest : Bytes) (hfile : (elf ++ rest).length ≤ fileLen.toNat) :
    (∃ needed, parseUserElf32 elf fileLen range = .error (.prefixTooShort needed)) ∨
      parseUserElf32 elf fileLen range = parseUserElf32 (elf ++ rest) fileLen range := by
  unfold parseUserElf32
  by_cases hrange : range.stop ≤ range.start ∨ range.start.toNat % pageSize ≠ 0 ∨
      range.stop.toNat % pageSize ≠ 0
  · rw [if_pos hrange, if_pos hrange]
    exact .inr rfl
  · rw [if_neg hrange, if_neg hrange]
    rcases checkedHeader_prefix rest hfile with ⟨needed, hshort⟩ | hsame
    · rw [hshort]
      exact .inl ⟨needed, rfl⟩
    · right
      rw [← hsame]
      cases hheader : checkedHeader elf fileLen with
      | error e => rfl
      | ok h =>
        have hend := tableEnd_of_header (header_of_checked hheader)
        have hsegments :
          (List.range h.phnum.toNat).mapM (checkSegment (elf ++ rest) fileLen range h) =
            (List.range h.phnum.toNat).mapM (checkSegment elf fileLen range h) :=
          mapM_congr fun i hi => checkSegment_prefix rest hend (List.mem_range.mp hi)
        show Except.bind (.ok h) _ = Except.bind (.ok h) _
        unfold Except.bind
        dsimp only
        rw [hsegments]

/-- A prefix is as good as the file, unless the parser asks for more. -/
theorem parse_prefix (rest : Bytes) (hfile : (elf ++ rest).length = fileLen.toNat) :
    (∃ needed, parseUserElf32 elf fileLen range = .error (.prefixTooShort needed)) ∨
      parseUserElf32 elf fileLen range = parseUserElf32 (elf ++ rest) fileLen range :=
  parse_longer range rest (Nat.le_of_eq hfile)

/-- What the parser asks for is enough, if it has seen the file header. -/
lemma parse_enough {needed : UInt32} (hlen : ehdrSize ≤ elf.length)
    (h : parseUserElf32 elf fileLen range = .error (.prefixTooShort needed)) (rest : Bytes)
    (hneeded : (elf ++ rest).length = needed.toNat) (again : UInt32) :
    parseUserElf32 (elf ++ rest) fileLen range ≠ .error (.prefixTooShort again) := by
  intro hagain
  have hlonger : ehdrSize ≤ (elf ++ rest).length := by
    rw [List.length_append]
    omega
  obtain ⟨hmore, -⟩ := checkedHeader_tooShort (header_tooShort range hagain)
  have hfirst := checkedHeader_needed hlen (header_tooShort range h)
  have hsecond := checkedHeader_needed hlonger (header_tooShort range hagain)
  obtain ⟨hphoff, hphnum⟩ := raw_append rest hlen
  rw [hphoff, hphnum] at hsecond
  omega

end Parser

end SystemScope.Elf
