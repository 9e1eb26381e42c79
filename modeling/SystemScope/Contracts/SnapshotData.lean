import SystemScope.Contracts.Canonical
import SystemScope.Framework.PartialCodec

/-!
# The fields of a snapshot

Components write their snapshots with the `SnapshotWriter` of the contracts crate, and read them
with its `SnapshotReader`.  They are a parameter (`SnapshotFields`); `SnapshotFields.Strict` states
what `docs/m0-design.md` §4.5 promises of them: a reader accepts exactly the bytes a writer can
produce.  The fixed-width fields of that section are one instance
(`Canonical.snapshotFields`). -/

namespace SystemScope

/-- A fixed-format field of a snapshot. -/
structure SnapshotField (α : Type) where
  write : α → Bytes
  read : Parser UInt8 DecodeError α

/-- The fields of `SnapshotWriter` and `SnapshotReader`. -/
class SnapshotFields where
  u8 : SnapshotField UInt8
  u16 : SnapshotField UInt16
  u32 : SnapshotField UInt32
  u64 : SnapshotField UInt64
  bool : SnapshotField Bool
  /-- `SnapshotReader::raw`. -/
  raw : ℕ → Parser UInt8 DecodeError Bytes

namespace SnapshotFields

variable [SnapshotFields]

/-- Decoding is strict: a reader accepts exactly the bytes a writer can produce. -/
structure Strict : Prop where
  u8 : Reads u8.read (fun _ => True) u8.write
  u16 : Reads u16.read (fun _ => True) u16.write
  u32 : Reads u32.read (fun _ => True) u32.write
  u64 : Reads u64.read (fun _ => True) u64.write
  bool : Reads bool.read (fun _ => True) bool.write
  raw : ∀ n, Reads (raw n) (fun bs => bs.length = n) id

end SnapshotFields

/-! ## The documented fields -/

namespace Canonical

/-- A codec as a field: every value of a fixed-width type has an encoding. -/
def field {α : Type} (c : CanonicalCoder α) : SnapshotField α where
  write x := (c.encode x).getD []
  read := c.read

scoped instance snapshotFields : SnapshotFields where
  u8 := field u8
  u16 := field u16
  u32 := field u32
  u64 := field u64
  bool := field bool
  raw := Coder.takeBytes .truncated

/-- A machine word is a number below its bound. -/
lemma word_refine_reads {α : Type} {width : ℕ} {f : α → ℕ} {g : ℕ → α}
    (hlt : ∀ x, f x < 256 ^ width) (hgf : ∀ x, g (f x) = x) (hfg : ∀ n < 256 ^ width, f (g n) = n) :
    Reads (field ((Coder.word .truncated width).refine f fun n => .ok (g n))).read (fun _ => True)
      (field ((Coder.word .truncated width).refine f fun n => .ok (g n))).write := by
  intro bs x rest
  have hwrite :
    (field ((Coder.word DecodeError.truncated width).refine f fun n => .ok (g n))).write x =
      leBytes width (f x) := by
    simp [field, Coder.refine, Coder.word, hlt]
  rw [hwrite]
  change ((Coder.word DecodeError.truncated width).read >>= fun n => pure (g n)) bs = _ ↔ _
  rw [(Coder.word_reads width).bind_eq_ok]
  constructor
  · rintro ⟨n, r, hn, rfl, h⟩
    obtain ⟨rfl, rfl⟩ := Parser.pure_eq_ok.mp h
    exact ⟨trivial, by rw [hfg n hn]⟩
  · rintro ⟨-, rfl⟩
    exact ⟨f x, rest, hlt x, rfl, Parser.pure_eq_ok.mpr ⟨hgf x, rfl⟩⟩

lemma bool_reads : Reads (field bool).read (fun _ => True) (field bool).write := by
  have hu8 : Reads (field u8).read (fun _ => True) (field u8).write :=
    word_refine_reads (fun x => x.toNat_lt) (fun _ => UInt8.ofNat_toNat)
      fun _ hn => UInt8.toNat_ofNat_of_lt' hn
  intro bs b rest
  change ((field u8).read >>= fun tag => MonadExcept.ofExcept _) bs = _ ↔ _
  rw [hu8.bind_eq_ok]
  constructor
  · rintro ⟨tag, r, -, rfl, h⟩
    split at h
    · obtain ⟨rfl, rfl⟩ := Parser.pure_eq_ok.mp h
      exact ⟨trivial, rfl⟩
    · obtain ⟨rfl, rfl⟩ := Parser.pure_eq_ok.mp h
      exact ⟨trivial, rfl⟩
    · cases h
  · rintro ⟨-, rfl⟩
    cases b
    · exact ⟨0, rest, trivial, rfl, rfl⟩
    · exact ⟨1, rest, trivial, rfl, rfl⟩

lemma snapshotFields_strict : SnapshotFields.Strict where
  u8 := word_refine_reads (fun x => x.toNat_lt) (fun _ => UInt8.ofNat_toNat)
    fun _ hn => UInt8.toNat_ofNat_of_lt' hn
  u16 := word_refine_reads (fun x => x.toNat_lt) (fun _ => UInt16.ofNat_toNat)
    fun _ hn => UInt16.toNat_ofNat_of_lt' hn
  u32 := word_refine_reads (fun x => x.toNat_lt) (fun _ => UInt32.ofNat_toNat)
    fun _ hn => UInt32.toNat_ofNat_of_lt' hn
  u64 := word_refine_reads (fun x => x.toNat_lt) (fun _ => UInt64.ofNat_toNat)
    fun _ hn => UInt64.toNat_ofNat_of_lt' hn
  bool := bool_reads
  raw := Coder.takeBytes_reads

end Canonical

/-!
## Snapshots of variable length

Components whose snapshots hold names, byte strings and queued messages write lengths, and a length
that does not fit its field has no encoding: the writer of the contracts crate panics.  Writers are
lists of parts here, some of which may be missing.

The readers and writers are a parameter (`SnapshotData`), as those of `SnapshotFields` are;
`SnapshotData.Strict` states what `docs/m0-design.md` §4.5 and `docs/m1-design.md` §4.3 promise of
them, and `Canonical.snapshotData` is the instance they describe.
-/

/-- The part of a snapshot that holds a fixed-format field. -/
def SnapshotField.part {α : Type} (field : SnapshotField α) (x : α) : Option Bytes :=
  some (field.write x)

/-- The fields of `SnapshotWriter` and `SnapshotReader`, those of variable length included. -/
class SnapshotData extends SnapshotFields where
  len : CanonicalCoder ℕ
  str : CanonicalCoder String
  bytes : CanonicalCoder Bytes
  u128 : CanonicalCoder ℕ
  /-- `SnapshotReader::array::<32>`, and `SnapshotWriter::raw` of 32 bytes. -/
  digest : CanonicalCoder Digest
  /-- `mem_v1::MemMsg::encode` and `decode`. -/
  memV1Msg : CanonicalCoder MemV1.MemMsg

namespace SnapshotData

variable [SnapshotData]

/-- Decoding is strict: a reader accepts exactly the bytes a writer can produce. -/
structure Strict : Prop where
  fields : SnapshotFields.Strict
  len : len.Exact
  str : str.Exact
  bytes : bytes.Exact
  u128 : u128.Exact
  digest : digest.Exact
  memV1Msg : memV1Msg.Exact

end SnapshotData

/-! ## Restoring -/

/-- A step of a restore: it reads bytes, or refuses the snapshot. -/
abbrev Restoring (α : Type) := Parser UInt8 RestoreError α

namespace Restoring

/-- Reads a fixed-format field; `?` turns what the reader refuses into a refusal of the
snapshot. -/
def field {α : Type} (f : SnapshotField α) : Restoring α := Parser.mapError .decode f.read

/-- Reads a field of variable length. -/
def data {α : Type} (c : CanonicalCoder α) : Restoring α :=
  Parser.mapError .decode (c.decode : Parser UInt8 DecodeError α)

/-- Refuses what was read. -/
def invalid {α : Type} (what : String) : Restoring α := throw (.invalidState what)

lemma field_reads {α : Type} {f : SnapshotField α} (h : Reads f.read (fun _ => True) f.write) :
    ReadsParts (field f) (fun _ => True) fun x => [f.part x] := h.parts.mapError _

lemma data_reads {α : Type} {c : CanonicalCoder α} (h : c.Exact) :
    ReadsParts (data c) (fun _ => True) fun x => [c.encode x] := ReadsParts.mapError h _

@[simp] lemma invalid_eq_ok {α : Type} {what : String} {bs rest : Bytes} {y : α} :
    (invalid what : Restoring α) bs = .ok (y, rest) ↔ False := Parser.throw_eq_ok

/-- Reads what must have a certain value. -/
def expect {α : Type} [DecidableEq α] (d : Restoring α) (x : α) (what : String) :
    Restoring Unit := do
  let found ← d
  if found ≠ x then invalid what else return ()

lemma expect_reads {α : Type} [DecidableEq α] {d : Restoring α} {P : α → Prop}
    {w : α → List (Option Bytes)} (h : ReadsParts d P w) {x : α} (hx : P x) {what : String} :
    ReadsParts (expect d x what) (fun _ => True) fun _ => w x := by
  intro bs y rest
  unfold expect
  simp only [h.bind_eq_ok]
  constructor
  · rintro ⟨found, r, -, hw, hnext⟩
    split_ifs at hnext with hfound
    · exact absurd hnext (by simp)
    · obtain ⟨-, rfl⟩ := Parser.pure_eq_ok.mp hnext
      rw [← not_not.mp hfound]
      exact ⟨trivial, hw⟩
  · rintro ⟨-, hw⟩
    refine ⟨x, rest, hx, hw, ?_⟩
    rw [if_neg (not_not.mpr rfl)]
    exact Parser.pure_eq_ok.mpr ⟨rfl, rfl⟩

/-- Reads the name and the range that a region must have. -/
lemma expectRegion_reads [SnapshotData] (hstrict : SnapshotData.Strict) (name : String)
    (base size : UInt64) (what : String) :
    ReadsParts (show Restoring Unit from do
      expect (data SnapshotData.str) name what
      expect (field SnapshotFields.u64) base what
      expect (field SnapshotFields.u64) size what) (fun _ => True) fun _ =>
        [SnapshotData.str.encode name, SnapshotFields.u64.part base,
          SnapshotFields.u64.part size] := by
  intro bs x rest
  simp only [writes_cons_cons, (expect_reads (data_reads hstrict.str) trivial).bind_eq_ok,
    (expect_reads (field_reads hstrict.fields.u64) trivial).bind_eq_ok,
    expect_reads (field_reads hstrict.fields.u64) trivial _ _ _, true_and, exists_const]

/-- Reads what must be in front of each item of a list, in order. -/
lemma forM_reads {α : Type} {d : α → Restoring Unit} {w : α → List (Option Bytes)}
    (h : ∀ x, ReadsParts (d x) (fun _ => True) fun _ => w x) (l : List α) :
    ReadsParts (l.forM d) (fun _ => True) fun _ => l.flatMap w := by
  induction l with
  | nil =>
    intro bs y rest
    change (pure () : Restoring Unit) bs = _ ↔ _
    rw [Parser.pure_eq_ok]
    simp
  | cons x l ih =>
    intro bs y rest
    change (d x >>= fun _ => l.forM d) bs = _ ↔ _
    rw [List.flatMap_cons, (h x).bind_eq_ok, writes_append]
    simp only [ih _ _ _, true_and, exists_const]

/-- Reads bytes that must be those of the given parts.  Parts without an encoding stop the writer,
and are never read. -/
def expectRaw [SnapshotData] (parts : List (Option Bytes)) (what : String) : Restoring Unit :=
  match Coder.concat parts with
  | none => invalid what
  | some bs => expect (Parser.mapError .decode (SnapshotFields.raw bs.length)) bs what

lemma expectRaw_reads [SnapshotData] (hstrict : SnapshotData.Strict) (parts : List (Option Bytes))
    (what : String) : ReadsParts (expectRaw parts what) (fun _ => True) fun _ => parts := by
  intro bs x rest
  unfold expectRaw
  cases hparts : Coder.concat parts with
  | none => simp [Writes, hparts]
  | some encoded =>
    have hraw := (hstrict.fields.raw encoded.length).parts.mapError RestoreError.decode
    have hconcat : Writes [Coder.concat parts] bs rest ↔ Writes parts bs rest := writes_concat
    rw [expect_reads hraw rfl bs x rest, ← hconcat, hparts]
    rfl

/-- Takes over what was read, or leaves the component as it is. -/
def into {C α : Type} (d : Restoring α) (set : α → C) (c : C) (bs : Bytes) :
    C × Except RestoreError Bytes :=
  match d bs with
  | .ok (x, rest) => (set x, .ok rest)
  | .error e => (c, .error e)

lemma into_eq_ok {C α : Type} {d : Restoring α} {set : α → C} {c c' : C} {bs rest : Bytes} :
    d.into set c bs = (c', .ok rest) ↔ ∃ x, d bs = .ok (x, rest) ∧ set x = c' := by
  unfold into
  cases d bs with
  | error e => simp
  | ok found => simp [Prod.ext_iff]; grind

/-- What is refused changes nothing. -/
lemma eq_of_into_error {C α : Type} {d : Restoring α} {set : α → C} {c c' : C} {bs : Bytes}
    {e : RestoreError} (h : d.into set c bs = (c', .error e)) : c' = c := by
  unfold into at h
  split at h
  · cases h
  · cases h
    rfl

end Restoring

/-! ## The documented fields -/

namespace Canonical

open Coder

scoped instance snapshotData : SnapshotData where
  len
  str
  bytes
  u128
  digest := array .truncated 32
  memV1Msg

lemma u8_exact : u8.Exact := (word_exact 1).refine fun n x hn => by
  obtain ⟨b, hb⟩ := Option.isSome_iff_exists.mp hn
  obtain ⟨hlt, -⟩ := Option.ite_none_right_eq_some.mp hb
  rw [Except.ok.injEq]
  constructor
  · rintro rfl
    exact UInt8.toNat_ofNat_of_lt' hlt
  · rintro rfl
    exact UInt8.ofNat_toNat

lemma u32_exact : u32.Exact := (word_exact 4).refine fun n x hn => by
  obtain ⟨b, hb⟩ := Option.isSome_iff_exists.mp hn
  obtain ⟨hlt, -⟩ := Option.ite_none_right_eq_some.mp hb
  rw [Except.ok.injEq]
  constructor
  · rintro rfl
    exact UInt32.toNat_ofNat_of_lt' hlt
  · rintro rfl
    exact UInt32.ofNat_toNat

lemma u64_exact : u64.Exact := (word_exact 8).refine fun n x hn => by
  obtain ⟨b, hb⟩ := Option.isSome_iff_exists.mp hn
  obtain ⟨hlt, -⟩ := Option.ite_none_right_eq_some.mp hb
  rw [Except.ok.injEq]
  constructor
  · rintro rfl
    exact UInt64.toNat_ofNat_of_lt' hlt
  · rintro rfl
    exact UInt64.ofNat_toNat

lemma bytes_exact : bytes.Exact := counted_exact (word_exact 4)

lemma str_exact : str.Exact := bytes_exact.refine fun bs s _ => by
  unfold String.fromUTF8?
  by_cases hvalid : (⟨bs.toArray⟩ : ByteArray).IsValidUTF8
  · rw [dif_pos hvalid]
    constructor
    · intro h
      cases h
      rfl
    · rintro rfl
      rfl
  · rw [dif_neg hvalid]
    constructor
    · intro h
      cases h
    · rintro rfl
      exact absurd s.isValidUTF8 hvalid

lemma memFault_exact : memFault.Exact := u8_exact.refine fun tag f _ => by
  cases f
  split
  · simp
  next h =>
    constructor
    · intro hok
      cases hok
    · intro htag
      exact absurd htag.symm h

lemma read_parts {α : Type} {c : CanonicalCoder α} (h : c.Exact) :
    ReadsParts c.read (fun _ => True) fun x => [c.encode x] := h

lemma exists_memFault {P : MemV1.MemFault → Prop} : (∃ f, P f) ↔ P .accessFault := by
  constructor
  · rintro ⟨f, h⟩
    cases f
    exact h
  · exact fun h => ⟨_, h⟩

lemma readOutcome_exact : readOutcome.Exact := by
  refine tagged_exact u8_exact fun t bs x rest => ?_
  dsimp only
  split
  · simp only [(read_parts bytes_exact).bind_eq_ok, Parser.pure_eq_ok]
    cases x with
    | data => simp
    | fault => simp
  · simp only [(read_parts memFault_exact).bind_eq_ok, Parser.pure_eq_ok]
    cases x with
    | data => simp
    | fault f =>
      cases f
      simp [exists_memFault]
  next h0 h1 =>
    rw [Parser.throw_eq_ok]
    cases x with
    | data => simp [Ne.symm h0]
    | fault => simp [Ne.symm h1]

lemma writeOutcome_exact : writeOutcome.Exact := by
  refine tagged_exact u8_exact fun t bs x rest => ?_
  dsimp only
  split
  · rw [Parser.pure_eq_ok]
    cases x with
    | done => simp
    | fault => simp
  · simp only [(read_parts memFault_exact).bind_eq_ok, Parser.pure_eq_ok]
    cases x with
    | done => simp
    | fault f =>
      cases f
      simp [exists_memFault]
  next h0 h1 =>
    rw [Parser.throw_eq_ok]
    cases x with
    | done => simp [Ne.symm h0]
    | fault => simp [Ne.symm h1]

lemma memV1Msg_exact : memV1Msg.Exact := by
  refine tagged_exact u8_exact fun t bs x rest => ?_
  dsimp only
  split
  · simp only [(read_parts u64_exact).bind_eq_ok, (read_parts u32_exact).bind_eq_ok,
      Parser.pure_eq_ok]
    cases x with
    | readReq =>
      simp [writes_cons_cons]
    | readResp => simp
    | writeReq => simp
    | writeResp => simp
  · simp only [(read_parts u64_exact).bind_eq_ok, (read_parts readOutcome_exact).bind_eq_ok,
      Parser.pure_eq_ok]
    cases x with
    | readResp =>
      simp [writes_cons_cons]
    | readReq => simp
    | writeReq => simp
    | writeResp => simp
  · simp only [(read_parts u64_exact).bind_eq_ok, (read_parts bytes_exact).bind_eq_ok,
      Parser.pure_eq_ok]
    cases x with
    | writeReq =>
      simp [writes_cons_cons]
    | readReq => simp
    | readResp => simp
    | writeResp => simp
  · simp only [(read_parts u64_exact).bind_eq_ok, (read_parts writeOutcome_exact).bind_eq_ok,
      Parser.pure_eq_ok]
    cases x with
    | writeResp =>
      simp [writes_cons_cons]
    | readReq => simp
    | writeReq => simp
    | readResp => simp
  next h0 h1 h2 h3 =>
    rw [Parser.throw_eq_ok]
    cases x with
    | readReq => simp [Ne.symm h0]
    | readResp => simp [Ne.symm h1]
    | writeReq => simp [Ne.symm h2]
    | writeResp => simp [Ne.symm h3]

lemma snapshotData_strict : SnapshotData.Strict where
  fields := snapshotFields_strict
  len := word_exact 4
  str := str_exact
  bytes := bytes_exact
  u128 := word_exact 16
  digest := array_exact 32
  memV1Msg := memV1Msg_exact

end Canonical

end SystemScope
