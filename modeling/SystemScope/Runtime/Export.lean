import SystemScope.Framework.Json
import SystemScope.Runtime.Trace

/-!
# The JSONL view of a trace

`to_jsonl` of `runtime/src/export.rs`: a line for the header and one for each record, written by
hand as texts.  Each line is the text of a JSON object (`Export.headerJson`, `Export.recordJson`),
so that the laws of JSON texts apply: the lines are well formed, and the trace is determined by
them.

The version of the format and the names of the phases come from the contracts crate.
-/

namespace SystemScope.Export

/-! ## Texts -/

/-- A character of a string literal. -/
def escaped (c : Char) : String :=
  if c = Json.quote then "\\\""
  else if c = Json.backslash then "\\\\"
  else if c = '\n' then "\\n"
  else if c = '\r' then "\\r"
  else if c = '\t' then "\\t"
  else if c.toNat < 0x20 then "\\u" ++ String.ofList (Json.hex4 c.toNat)
  else String.singleton c

/-- A JSON string literal. -/
def jsonStr (s : String) : String := "\"" ++ String.join (s.toList.map escaped) ++ "\""

/-- A byte as two digits. -/
def hexByte (b : UInt8) : String :=
  String.ofList [Nat.digitChar (b.toNat / 16), Nat.digitChar (b.toNat % 16)]

def hex (bytes : Bytes) : String := String.join (bytes.map hexByte)

/-- The elements of a list, with commas between them. -/
def commas : List String → String
  | [] => ""
  | s :: rest => s ++ String.join (rest.map fun s => "," ++ s)

/-- A typed value. -/
def jsonValue : Value → String
  | .u64 x => "\x7b\"u64\":" ++ toString x.toNat ++ "\x7d"
  | .i64 x => "\x7b\"i64\":" ++ toString x.toInt ++ "\x7d"
  | .bool x => "\x7b\"bool\":" ++ (if x then "true" else "false") ++ "\x7d"
  | .str x => "\x7b\"str\":" ++ jsonStr x ++ "\x7d"
  | .bytes x => "\x7b\"bytes\":\"" ++ hex x ++ "\"\x7d"

/-- A field as a pair, so that order and duplicates survive. -/
def jsonField (field : String × Value) : String :=
  "[" ++ jsonStr field.1 ++ "," ++ jsonValue field.2 ++ "]"

def jsonFields (fields : Fields) : String := "[" ++ commas (fields.map jsonField) ++ "]"

def originName : TraceOrigin → String
  | .component => "component"
  | .runtime => "runtime"

def roundingName : Rounding → String
  | .floor => "floor"
  | .ceil => "ceil"

def roleName : Role → String
  | .initiator => "initiator"
  | .target => "target"

def domainText (d : ClockDomain) : String :=
  "\x7b\"id\":" ++ toString d.id.toNat ++ ",\"freq_num\":" ++ toString d.freqNum.toNat ++
    ",\"freq_den\":" ++ toString d.freqDen.toNat ++ ",\"offset\":" ++ toString d.offset.toNat ++
    ",\"rounding\":\"" ++ roundingName d.rounding ++ "\"\x7d"

def portText (p : PortSpec) : String :=
  "\x7b\"name\":" ++ jsonStr p.name ++ ",\"protocol\":" ++ jsonStr p.protocol.name ++
    ",\"version\":" ++ toString p.protocol.version.toNat ++ ",\"role\":\"" ++ roleName p.role ++
    "\"\x7d"

def componentText (i : ℕ) (c : ComponentDecl) : String :=
  "\x7b\"id\":" ++ toString i ++ ",\"path\":" ++ jsonStr c.path ++ ",\"type\":" ++
    jsonStr c.typeName ++ ",\"ports\":[" ++ commas (c.ports.map portText) ++ "]\x7d"

def latencyText : Option LinkLatency → String
  | none => "null"
  | some (.after d) => "\x7b\"after_fs\":" ++ toString d.femtoseconds ++ "\x7d"
  | some (.cycles domain k) =>
    "\x7b\"cycles\":\x7b\"domain\":" ++ toString domain.toNat ++ ",\"k\":" ++ toString k.toNat ++
      "\x7d\x7d"

def linkText (l : LinkDecl) : String :=
  "\x7b\"a\":[" ++ toString l.a.1.toNat ++ "," ++ toString l.a.2.toNat ++ "],\"b\":[" ++
    toString l.b.1.toNat ++ "," ++ toString l.b.2.toNat ++ "],\"latency\":" ++
    latencyText l.latency ++ "\x7d"

variable (formatVersion : UInt32) (phaseName : Phase → String)

/-- The header line. -/
def headerText (h : TraceHeader) : String :=
  "\x7b\"type\":\"header\",\"format_version\":" ++ toString formatVersion.toNat ++
    ",\"ticks_per_second\":" ++ toString h.ticksPerSecond.toNat ++
    ",\"seed\":" ++ toString h.seed.toNat ++
    ",\"contracts_version\":" ++ jsonStr h.contractsVersion ++
    ",\"topology_hash\":\"" ++ hex h.topologyHash.toList ++
    "\",\"clock_domains\":[" ++ commas (h.clockDomains.map domainText) ++
    "],\"components\":[" ++ commas (h.components.mapIdx componentText) ++
    "],\"links\":[" ++ commas (h.links.map linkText) ++ "]\x7d\n"

def atText : TraceAt → String
  | .init => "\"init\""
  | .event k =>
    "\x7b\"tick\":" ++ toString k.tick.toNat ++ ",\"phase\":\"" ++ phaseName k.phase ++
      "\",\"sequence\":" ++ toString k.sequence.toNat ++ "\x7d"

/-- The line of a record. -/
def recordText (index : ℕ) (r : TraceRecord) : String :=
  "\x7b\"type\":\"record\",\"index\":" ++ toString index ++ ",\"at\":" ++ atText phaseName r.at_ ++
    ",\"origin\":\"" ++ originName r.origin ++ "\",\"component\":" ++ toString r.component.toNat ++
    ",\"kind\":" ++ jsonStr r.kind ++ ",\"fields\":" ++ jsonFields r.fields ++ "\x7d\n"

/-- A header line, then a line for each record. -/
def toJsonl (trace : Trace) : String :=
  headerText formatVersion trace.header ++
    String.join (trace.records.mapIdx (recordText phaseName))

/-! ## As values -/

/-- A natural number as a value. -/
def natJson (n : ℕ) : Json := .num n

def hexJson (bytes : Bytes) : Json := .str (hex bytes)

def valueJson : Value → Json
  | .u64 x => .obj [("u64", natJson x.toNat)]
  | .i64 x => .obj [("i64", .num x.toInt)]
  | .bool x => .obj [("bool", .bool x)]
  | .str x => .obj [("str", .str x)]
  | .bytes x => .obj [("bytes", hexJson x)]

def fieldJson (field : String × Value) : Json := .arr [.str field.1, valueJson field.2]

def domainJson (d : ClockDomain) : Json :=
  .obj [("id", natJson d.id.toNat), ("freq_num", natJson d.freqNum.toNat),
    ("freq_den", natJson d.freqDen.toNat), ("offset", natJson d.offset.toNat),
    ("rounding", .str (roundingName d.rounding))]

def portJson (p : PortSpec) : Json :=
  .obj [("name", .str p.name), ("protocol", .str p.protocol.name),
    ("version", natJson p.protocol.version.toNat), ("role", .str (roleName p.role))]

def componentJson (i : ℕ) (c : ComponentDecl) : Json :=
  .obj [("id", natJson i), ("path", .str c.path), ("type", .str c.typeName),
    ("ports", .arr (c.ports.map portJson))]

def latencyJson : Option LinkLatency → Json
  | none => .null
  | some (.after d) => .obj [("after_fs", natJson d.femtoseconds)]
  | some (.cycles domain k) =>
    .obj [("cycles", .obj [("domain", natJson domain.toNat), ("k", natJson k.toNat)])]

def linkJson (l : LinkDecl) : Json :=
  .obj [("a", .arr [natJson l.a.1.toNat, natJson l.a.2.toNat]),
    ("b", .arr [natJson l.b.1.toNat, natJson l.b.2.toNat]), ("latency", latencyJson l.latency)]

/-- The members of the header line. -/
def headerJson (h : TraceHeader) : List (String × Json) :=
  [("type", .str "header"), ("format_version", natJson formatVersion.toNat),
    ("ticks_per_second", natJson h.ticksPerSecond.toNat), ("seed", natJson h.seed.toNat),
    ("contracts_version", .str h.contractsVersion),
      ("topology_hash", hexJson h.topologyHash.toList),
    ("clock_domains", .arr (h.clockDomains.map domainJson)),
    ("components", .arr (h.components.mapIdx componentJson)),
      ("links", .arr (h.links.map linkJson))]

def atJson : TraceAt → Json
  | .init => .str "init"
  | .event k =>
    .obj [("tick", natJson k.tick.toNat), ("phase", .str (phaseName k.phase)),
      ("sequence", natJson k.sequence.toNat)]

/-- The members of the line of a record. -/
def recordJson (index : ℕ) (r : TraceRecord) : List (String × Json) :=
  [("type", .str "record"), ("index", natJson index), ("at", atJson phaseName r.at_),
    ("origin", .str (originName r.origin)), ("component", natJson r.component.toNat),
    ("kind", .str r.kind), ("fields", .arr (r.fields.map fieldJson))]

/-! ## The texts are those of the values -/

section Texts

open Json

lemma toList_escaped (c : Char) : (escaped c).toList = escape c := by
  unfold escaped escape
  by_cases hquote : c = quote
  · rw [if_pos hquote, hquote]
    rfl
  · by_cases hback : c = backslash
    · rw [if_neg hquote, if_pos hback, hback]
      rfl
    · by_cases hn : c = '\n'
      · rw [if_neg hquote, if_neg hback, if_pos hn, hn]
        rfl
      · by_cases hr : c = '\r'
        · rw [if_neg hquote, if_neg hback, if_neg hn, if_pos hr, hr]
          rfl
        · by_cases ht : c = '\t'
          · rw [if_neg hquote, if_neg hback, if_neg hn, if_neg hr, if_pos ht, ht]
            rfl
          · have hlookup : shortEscapes.lookup c = none := by
              refine List.lookup_eq_none_iff.mpr fun p hp => bne_iff_ne.mpr ?_
              simp only [shortEscapes, List.mem_cons, List.not_mem_nil, or_false] at hp
              rcases hp with rfl | rfl | rfl | rfl | rfl
              · exact hquote
              · exact hback
              · exact hn
              · exact hr
              · exact ht
            rw [if_neg hquote, if_neg hback, if_neg hn, if_neg hr, if_neg ht, hlookup]
            by_cases hcontrol : c.toNat < 0x20
            · have hdigits : (String.ofList (hex4 c.toNat)).toList = hex4 c.toNat :=
                String.toList_ofList
              rw [if_pos hcontrol, String.toList_append, hdigits]
              exact (if_pos hcontrol).symm
            · rw [if_neg hcontrol, String.toList_singleton]
              exact (if_neg hcontrol).symm

lemma toList_jsonStr (s : String) : (jsonStr s).toList = quoted s.toList := by
  unfold jsonStr quoted
  simp only [String.toList_append, String.toList_join, List.flatMap_map, toList_escaped]
  rfl

lemma render_natJson (n : ℕ) : render (natJson n) = Nat.toDigits 10 n := by
  rw [natJson, render]
  rfl

lemma toList_integer (n : ℤ) : (toString n).toList = render (.num n) := by
  rw [render]
  cases n with
  | ofNat n => exact Nat.toList_repr
  | negSucc n =>
    show ("-" ++ Nat.repr (n + 1)).toList = '-' :: Nat.toDigits 10 (n + 1)
    rw [String.toList_append, Nat.toList_repr]
    rfl

lemma toList_commas (texts : List String) :
    (commas texts).toList = separated id (texts.map String.toList) := by
  cases texts with
  | nil => rfl
  | cons s rest =>
    rw [commas, List.map_cons, separated_cons, String.toList_append, String.toList_join,
      List.flatMap_map,
      List.flatMap_map]
    refine congrArg (s.toList ++ ·) (congrArg (List.flatMap · rest) (funext fun t => ?_))
    exact String.toList_append

lemma plain_roundingName (r : Rounding) : (roundingName r).toList.all plain := by
  cases r <;> decide

lemma toList_domainText (d : ClockDomain) : (domainText d).toList = render (domainJson d) := by
  have hplain := plain_roundingName d.rounding
  unfold domainText
  simp (disch := first | decide | assumption) [domainJson, render_natJson, object, member,
    quoted_plain]

lemma plain_roleName (r : Role) : (roleName r).toList.all plain := by
  cases r <;> decide

lemma plain_originName (o : TraceOrigin) : (originName o).toList.all plain := by
  cases o <;> decide

lemma plain_hex (bytes : Bytes) : (hex bytes).toList.all plain := by
  unfold hex
  rw [String.toList_join, List.all_eq_true]
  intro c hc
  obtain ⟨s, hs, hc⟩ := List.mem_flatMap.mp hc
  obtain ⟨b, -, rfl⟩ := List.mem_map.mp hs
  have hdigit : ∀ n < 16, plain (Nat.digitChar n) := by decide
  have hb := b.toNat_lt
  simp only [hexByte, String.toList_ofList, List.mem_cons, List.not_mem_nil, or_false] at hc
  rcases hc with rfl | rfl
  · exact hdigit _ (by omega)
  · exact hdigit _ (by omega)

lemma toList_jsonValue (v : Value) : (jsonValue v).toList = render (valueJson v) := by
  cases v with
  | u64 x =>
    simp (disch := decide) [jsonValue, valueJson, render_natJson, object, member, quoted_plain]
  | i64 x =>
    simp (disch := decide) only [jsonValue, valueJson, String.toList_append, toList_integer,
      render_obj,
      object, quoted_plain, List.map_cons, List.map_nil, separated_cons, List.flatMap_nil]
    simp [member]
  | bool x =>
    cases x <;>
      simp (disch := decide) [jsonValue, valueJson, render, object, member, quoted_plain]
  | str x =>
    simp (disch := decide) [jsonValue, valueJson, toList_jsonStr, object, member, quoted_plain]
  | bytes x =>
    have hplain := plain_hex x
    simp (disch := first | decide | assumption) [jsonValue, valueJson, hexJson, object, member,
      quoted_plain]

lemma toList_jsonField (field : String × Value) :
    (jsonField field).toList = render (fieldJson field) := by
  unfold jsonField
  simp [fieldJson, toList_jsonStr, toList_jsonValue, array]

lemma toList_portText (p : PortSpec) : (portText p).toList = render (portJson p) := by
  have hplain := plain_roleName p.role
  unfold portText
  simp (disch := first | decide | assumption) [portJson, render_natJson, toList_jsonStr,
    object, member, quoted_plain]

lemma toList_componentText (i : ℕ) (c : ComponentDecl) :
    (componentText i c).toList = render (componentJson i c) := by
  unfold componentText
  simp (disch := decide) [componentJson, render_natJson, toList_jsonStr, toList_commas,
    toList_portText, object, array, member, quoted_plain, Function.comp_def]

lemma map_componentText (components : List ComponentDecl) :
    (components.mapIdx componentText).map String.toList =
      (components.mapIdx componentJson).map render := by
  refine List.ext_getElem? fun i => ?_
  simp only [List.getElem?_map, List.getElem?_mapIdx, Option.map_map, Function.comp_def,
    toList_componentText]

lemma toList_latencyText (latency : Option LinkLatency) :
    (latencyText latency).toList = render (latencyJson latency) := by
  rcases latency with _ | ⟨d⟩ | ⟨domain, k⟩
  · rw [latencyJson, render]
    rfl
  · unfold latencyText latencyJson
    simp (disch := decide) [render_natJson, object, member, quoted_plain]
  · unfold latencyText latencyJson
    simp (disch := decide) [render_natJson, object, member, quoted_plain]

lemma toList_linkText (l : LinkDecl) : (linkText l).toList = render (linkJson l) := by
  unfold linkText
  simp (disch := decide) [linkJson, render_natJson, toList_latencyText, object, array, member,
    quoted_plain]

variable {formatVersion : UInt32} {phaseName : Phase → String}

lemma toList_headerText (h : TraceHeader) :
    (headerText formatVersion h).toList = render (.obj (headerJson formatVersion h)) ++ ['\n'] := by
  have hplain := plain_hex h.topologyHash.toList
  unfold headerText
  simp (disch := first | decide | assumption) [headerJson, hexJson, render_natJson,
    toList_jsonStr, toList_commas, toList_domainText, map_componentText, toList_linkText,
      object, array,
    member, quoted_plain, Function.comp_def]

lemma toList_atText (hplain : ∀ p, (phaseName p).toList.all plain) (at_ : TraceAt) :
    (atText phaseName at_).toList = render (atJson phaseName at_) := by
  cases at_ with
  | init => simp (disch := decide) [atText, atJson, quoted_plain]
  | event k =>
    have hphase := hplain k.phase
    simp (disch := first | decide | assumption) [atText, atJson, render_natJson, object, member,
      quoted_plain]

lemma toList_recordText (hplain : ∀ p, (phaseName p).toList.all plain) (index : ℕ)
    (r : TraceRecord) : (recordText phaseName index r).toList =
      render (.obj (recordJson phaseName index r)) ++ ['\n'] := by
  have horigin := plain_originName r.origin
  unfold recordText
  simp (disch := first | decide | assumption) [recordJson, jsonFields, render_natJson,
    toList_atText hplain, toList_jsonStr, toList_commas, toList_jsonField, object, array, member,
    quoted_plain, Function.comp_def]

end Texts

/-! ## Traces of lines -/

section Lossless

open Json

/-- Every phase has a name of its own, which a string literal holds as it is. -/
structure NamesPhases (phaseName : Phase → String) : Prop where
  injective : Function.Injective phaseName
  plain : ∀ p, (phaseName p).toList.all plain

lemma natJson_inj {m n : ℕ} : natJson m = natJson n ↔ m = n := by
  unfold natJson
  rw [Json.num.injEq, Int.natCast_inj]

lemma hexByte_inj {b b' : UInt8} {r r' : List Char}
    (h : (hexByte b).toList ++ r = (hexByte b').toList ++ r') : b = b' ∧ r = r' := by
  have hb := b.toNat_lt
  have hb' := b'.toNat_lt
  unfold hexByte at h
  simp only [String.toList_ofList, List.cons_append, List.nil_append, List.cons.injEq] at h
  obtain ⟨hhigh, hlow, hr⟩ := h
  have hhigh := digitChar_inj _ (by omega) _ (by omega) hhigh
  have hlow := digitChar_inj _ (by omega) _ (by omega) hlow
  exact ⟨UInt8.toNat_inj.mp (by omega), hr⟩

lemma hex_injective : Function.Injective hex := by
  have hdigits {bs bs' : Bytes} (h : (bs.flatMap fun b => (hexByte b).toList) =
      bs'.flatMap fun b => (hexByte b).toList) : bs = bs' := by
    induction bs generalizing bs' with
    | nil =>
      cases bs' with
      | nil => rfl
      | cons b bs' => exact absurd h (by simp [hexByte])
    | cons b bs ih =>
      cases bs' with
      | nil => exact absurd h (by simp [hexByte])
      | cons b' bs' =>
        rw [List.flatMap_cons, List.flatMap_cons] at h
        obtain ⟨rfl, hrest⟩ := hexByte_inj h
        rw [ih hrest]
  intro bs bs' h
  refine hdigits ?_
  have h := congrArg String.toList h
  unfold hex at h
  rwa [String.toList_join, String.toList_join, List.flatMap_map, List.flatMap_map] at h

lemma originName_injective : Function.Injective originName := by
  intro o o' h
  cases o <;> cases o' <;> first | rfl | exact absurd h (by decide)

lemma roundingName_injective : Function.Injective roundingName := by
  intro r r' h
  cases r <;> cases r' <;> first | rfl | exact absurd h (by decide)

lemma roleName_injective : Function.Injective roleName := by
  intro r r' h
  cases r <;> cases r' <;> first | rfl | exact absurd h (by decide)

lemma valueJson_injective : Function.Injective valueJson := by
  intro v v' h
  cases v with
  | u64 x =>
    cases v' with
    | u64 x' =>
      simp only [valueJson, Json.obj.injEq, List.cons.injEq, Prod.mk.injEq, natJson_inj,
        UInt64.toNat_inj,
        true_and, and_true] at h
      rw [h]
    | _ => simp [valueJson] at h
  | i64 x =>
    cases v' with
    | i64 x' =>
      simp only [valueJson, Json.obj.injEq, List.cons.injEq, Prod.mk.injEq, Json.num.injEq,
        Int64.toInt_inj,
        true_and, and_true] at h
      rw [h]
    | _ => simp [valueJson] at h
  | bool x =>
    cases v' with
    | bool x' => simpa [valueJson] using h
    | _ => simp [valueJson] at h
  | str x =>
    cases v' with
    | str x' => simpa [valueJson] using h
    | _ => simp [valueJson] at h
  | bytes x =>
    cases v' with
    | bytes x' => simpa [valueJson, hexJson, hex_injective.eq_iff] using h
    | _ => simp [valueJson] at h

lemma fieldJson_injective : Function.Injective fieldJson := by
  rintro ⟨name, v⟩ ⟨name', v'⟩ h
  simp only [fieldJson, Json.arr.injEq, List.cons.injEq, Json.str.injEq, and_true] at h
  rw [h.1, valueJson_injective h.2]

lemma domainJson_injective : Function.Injective domainJson := by
  intro d d' h
  simp only [domainJson, Json.obj.injEq, List.cons.injEq, Prod.mk.injEq, Json.str.injEq,
    natJson_inj,
    true_and, and_true, UInt64.toNat_inj, UInt32.toNat_inj] at h
  obtain ⟨hid, hnum, hden, hoffset, hrounding⟩ := h
  cases d
  cases d'
  simp_all [roundingName_injective.eq_iff]

lemma portJson_injective : Function.Injective portJson := by
  rintro ⟨name, ⟨protocol, version⟩, role⟩ ⟨name', ⟨protocol', version'⟩, role'⟩ h
  simp only [portJson, Json.obj.injEq, List.cons.injEq, Prod.mk.injEq, Json.str.injEq, natJson_inj,
    true_and, and_true, UInt16.toNat_inj, roleName_injective.eq_iff] at h
  obtain ⟨rfl, rfl, rfl, rfl⟩ := h
  rfl

lemma componentJson_injective (i : ℕ) : Function.Injective (componentJson i) := by
  rintro ⟨path, typeName, ports⟩ ⟨path', typeName', ports'⟩ h
  simp only [componentJson, Json.obj.injEq, List.cons.injEq, Prod.mk.injEq, Json.str.injEq,
    Json.arr.injEq, portJson_injective.list_map.eq_iff, true_and, and_true] at h
  obtain ⟨rfl, rfl, rfl⟩ := h
  rfl

lemma latencyJson_injective : Function.Injective latencyJson := by
  intro latency latency' h
  rcases latency with _ | ⟨⟨d⟩⟩ | ⟨domain, k⟩
  · rcases latency' with _ | ⟨⟨d'⟩⟩ | ⟨domain', k'⟩
    · rfl
    · cases h
    · cases h
  · rcases latency' with _ | ⟨⟨d'⟩⟩ | ⟨domain', k'⟩
    · cases h
    · simpa [latencyJson, natJson_inj] using h
    · simp [latencyJson] at h
  · rcases latency' with _ | ⟨⟨d'⟩⟩ | ⟨domain', k'⟩
    · cases h
    · simp [latencyJson] at h
    · simpa [latencyJson, natJson_inj, UInt64.toNat_inj, UInt32.toNat_inj] using h

lemma linkJson_injective : Function.Injective linkJson := by
  rintro ⟨⟨a, ap⟩, ⟨b, bp⟩, latency⟩ ⟨⟨a', ap'⟩, ⟨b', bp'⟩, latency'⟩ h
  simp only [linkJson, Json.obj.injEq, List.cons.injEq, Prod.mk.injEq, Json.arr.injEq, natJson_inj,
    true_and, and_true, UInt16.toNat_inj, UInt32.toNat_inj, latencyJson_injective.eq_iff] at h
  obtain ⟨⟨rfl, rfl⟩, ⟨rfl, rfl⟩, rfl⟩ := h
  rfl

/-- A list is determined by what its elements become, each in its place. -/
lemma mapIdx_injective {α β : Type} {f : ℕ → α → β} (hf : ∀ i, Function.Injective (f i)) :
    Function.Injective (List.mapIdx f) := by
  intro xs ys h
  refine List.ext_getElem? fun i => ?_
  have hi := congrArg (·[i]?) h
  simp only [List.getElem?_mapIdx] at hi
  exact Option.map_injective (hf i) hi

variable (formatVersion : UInt32) {phaseName : Phase → String}

lemma headerJson_injective : Function.Injective (headerJson formatVersion) := by
  intro h h' heq
  simp only [headerJson, hexJson, List.cons.injEq, Prod.mk.injEq, Json.str.injEq, Json.arr.injEq,
    natJson_inj, true_and, and_true, UInt64.toNat_inj, hex_injective.eq_iff, Vector.toList_inj,
    domainJson_injective.list_map.eq_iff, (mapIdx_injective componentJson_injective).eq_iff,
    linkJson_injective.list_map.eq_iff] at heq
  obtain ⟨h1, h2, h3, h4, h5, h6, h7⟩ := heq
  cases h
  cases h'
  simp_all

variable (hnames : NamesPhases phaseName)

include hnames

lemma atJson_injective : Function.Injective (atJson phaseName) := by
  rintro (_ | ⟨tick, phase, sequence⟩) (_ | ⟨tick', phase', sequence'⟩) h
  · rfl
  · cases h
  · cases h
  · simpa [atJson, natJson_inj, UInt64.toNat_inj, hnames.injective.eq_iff] using h

lemma recordJson_injective (index : ℕ) : Function.Injective (recordJson phaseName index) := by
  rintro ⟨at_, origin, component, kind, fields⟩ ⟨at', origin', component', kind', fields'⟩ h
  simp only [recordJson, List.cons.injEq, Prod.mk.injEq, Json.str.injEq, Json.arr.injEq,
    natJson_inj,
    true_and, and_true, UInt32.toNat_inj, originName_injective.eq_iff,
    fieldJson_injective.list_map.eq_iff, (atJson_injective hnames).eq_iff] at h
  obtain ⟨rfl, rfl, rfl, rfl, rfl⟩ := h
  rfl

/-- The lines of a trace. -/
def lines (formatVersion : UInt32) (phaseName : Phase → String) (trace : Trace) :
    List (List Char) :=
  render (.obj (headerJson formatVersion trace.header)) ::
    trace.records.mapIdx fun index r => render (.obj (recordJson phaseName index r))

lemma toList_toJsonl (trace : Trace) : (toJsonl formatVersion phaseName trace).toList =
    (lines formatVersion phaseName trace).flatMap (· ++ ['\n']) := by
  have hrecords : (trace.records.mapIdx (recordText phaseName)).map String.toList =
      (trace.records.mapIdx fun index r => render (.obj (recordJson phaseName index r))).map
        (· ++ ['\n']) := by
    refine List.ext_getElem? fun i => ?_
    simp only [List.getElem?_map, List.getElem?_mapIdx, Option.map_map, Function.comp_def,
      toList_recordText hnames.plain]
  unfold toJsonl lines
  rw [String.toList_append, String.toList_join, toList_headerText, List.flatMap_cons,
    List.flatMap_def, hrecords, ← List.flatMap_def]

omit hnames in
lemma isObject_lines {trace : Trace} :
    ∀ line ∈ lines formatVersion phaseName trace, IsObject line := by
  refine List.forall_mem_cons.mpr ⟨isObject_render _, fun line hline => ?_⟩
  obtain ⟨i, hi, rfl⟩ := List.mem_mapIdx.mp hline
  exact isObject_render _

lemma lines_injective : Function.Injective (lines formatVersion phaseName) := by
  intro t t' h
  obtain ⟨hheader, hrecords⟩ := List.cons.inj h
  have hheader := Json.obj.inj (render_injective hheader)
  have hrecords := mapIdx_injective (fun index r r' hr =>
    recordJson_injective hnames index (Json.obj.inj (render_injective hr))) hrecords
  obtain ⟨header, records⟩ := t
  obtain ⟨header', records'⟩ := t'
  rw [Trace.mk.injEq]
  exact ⟨headerJson_injective formatVersion hheader, hrecords⟩

/-- The export of a trace determines it, and is one line for the header and one for each record,
each an object without a control character. -/
theorem jsonl_lossless : Function.Injective (toJsonl formatVersion phaseName) ∧
    ∀ trace, ∃ (header : List Char) (records : List (List Char)),
      (toJsonl formatVersion phaseName trace).toList =
        (header :: records).flatMap (· ++ ['\n']) ∧
      records.length = trace.records.length ∧
      ∀ line ∈ header :: records, IsObject line ∧ Printable line := by
  constructor
  · intro t t' h
    refine lines_injective formatVersion hnames (lines_inj ?_ ?_ ?_)
    · exact fun line hline => (isObject_lines formatVersion line hline).isValue.printable
    · exact fun line hline => (isObject_lines formatVersion line hline).isValue.printable
    · rw [← toList_toJsonl formatVersion hnames, ← toList_toJsonl formatVersion hnames, h]
  · intro trace
    refine ⟨_, _, toList_toJsonl formatVersion hnames trace, List.length_mapIdx,
      fun line hline => ?_⟩
    have hobject := isObject_lines formatVersion line hline
    exact ⟨hobject, hobject.isValue.printable⟩

end Lossless

/-- The phases as the design names them. -/
def phaseNames : Phase → String
  | .request => "Request"
  | .transfer => "Transfer"
  | .complete => "Complete"
  | .commit => "Commit"
  | .observe => "Observe"

lemma namesPhases_phaseNames : NamesPhases phaseNames where
  injective := by
    intro p p' h
    cases p <;> cases p' <;> first | rfl | exact absurd h (by decide)
  plain := by
    intro p
    cases p <;> decide

theorem jsonl_lossless_named : Function.Injective (toJsonl 1 phaseNames) :=
  (jsonl_lossless 1 namesPhases_phaseNames).1

end SystemScope.Export
