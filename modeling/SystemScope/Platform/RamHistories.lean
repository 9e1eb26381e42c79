import SystemScope.Contracts.Calls
import SystemScope.Platform.RamImage

/-!
# The RAM over whole histories

A restore accepts exactly the snapshots of sound RAMs of its configuration and image hash
(`restore_eq_ok_iff`), so every state a RAM reaches, by requests that succeed or fail and by
restores, is sound (`sound_of_reaches`).  From there it answers any sequence of requests as an array
does (`performAll_eq`), and what it then holds decides its pages and its snapshot
(`refines_flat_memory`).
-/

namespace SystemScope.Platform

open MemV1
open SparseMap (value Canonical)

namespace Ram

variable {config : RamConfig} {ram ram' : Ram config}

lemma checkTail_eq_none {index : UInt32} {page : Page} :
    checkTail config index page = none ↔
      ∀ k, config.size.toNat ≤ position index k → page.get k = 0 := by
  have hiff : checkTail config index page = none ↔
      ∀ b ∈ page.toList.drop
        (min (config.size.toNat - index.toNat * pageSize) pageSize), b = 0 := by
    unfold checkTail
    simp
  rw [hiff]
  constructor
  · intro h k hpast
    refine h _ (List.mem_drop_iff_getElem.mpr ?_)
    have hk := k.isLt
    have hvalid : min (config.size.toNat - index.toNat * pageSize) pageSize ≤ k := by
      unfold position at hpast
      omega
    refine ⟨k - min (config.size.toNat - index.toNat * pageSize) pageSize, ?_, ?_⟩
    · rw [Vector.length_toList]
      omega
    · simp [Nat.add_sub_cancel' hvalid, Vector.get_eq]
  · intro h b hb
    obtain ⟨j, hj, rfl⟩ := List.mem_drop_iff_getElem.mp hb
    rw [Vector.length_toList] at hj
    have hlt : min (config.size.toNat - index.toNat * pageSize) pageSize + j < pageSize := by omega
    have hpast := h ⟨_, hlt⟩ (by
      unfold position
      dsimp only
      omega)
    simpa [Vector.get_eq] using hpast

/-- Sound RAMs are those whose pages a restore accepts. -/
lemma sound_iff : ram.Sound ↔ ∀ (index : UInt32) (page : Page), ram.pages[index]? = some page →
    Acceptable (fun index : UInt32 => index.toNat * pageSize < config.size.toNat) (checkTail config)
      (index, page) := by
  constructor
  · intro h index page hpage
    have htail : ∀ k, config.size.toNat ≤ position index k → page.get k = 0 := fun k hpast => by
      rw [← SparseMap.value_of_getElem? hpage]
      exact h.pastEnd index k hpast
    have hzero : page ≠ Cell.zero pageSize := fun heq => h.canonical index (heq ▸ hpage)
    refine ⟨decide_eq_true ?_, hzero, checkTail_eq_none.mpr htail⟩
    by_contra hout
    have hpast : ∀ k, config.size.toNat ≤ position index k := fun k =>
      (not_lt.mp hout).trans (Nat.le_add_right _ _)
    exact hzero (Vector.ext_get fun k => by rw [htail k (hpast k), Cell.get_zero])
  · intro h
    refine ⟨fun index hpage => (h index _ hpage).ne_zero rfl, fun index k hpast => ?_⟩
    cases hpage : ram.pages[index]? with
    | none => rw [SparseMap.value_of_getElem?_none hpage, Cell.get_zero]
    | some page =>
      rw [SparseMap.value_of_getElem? hpage]
      exact checkTail_eq_none.mp (h index page hpage).check k hpast

section

variable [SnapshotData] (hstrict : SnapshotData.Strict)

open SnapshotData SnapshotField Restoring

include hstrict

lemma restorePages_reads (imageHash : Digest) :
    ReadsParts (restorePages config imageHash)
      (fun pages => (Ram.mk imageHash pages : Ram config).Sound)
      fun pages => (Ram.mk imageHash pages : Ram config).parts := by
  intro bs pages rest
  unfold restorePages parts
  beta_reduce
  rw [sound_iff]
  simp only [writes_append, writes_cons_cons,
    (expect_reads (field_reads hstrict.fields.u64) trivial).bind_eq_ok,
    (expect_reads (data_reads hstrict.digest) trivial).bind_eq_ok,
    (expectRaw_reads hstrict _ _).bind_eq_ok, readCells_reads hstrict hstrict.fields.u32 _ _ _,
    true_and, exists_const]
  grind

lemma restore_eq_ok_iff {bs rest : Bytes} {schema : UInt32} :
    ram.restore bs schema = (ram', .ok rest) ↔
      ram'.imageHash = ram.imageHash ∧ ram'.Sound ∧ Writes ram'.parts bs rest := by
  rw [restore, into_eq_ok]
  constructor
  · rintro ⟨pages, hpages, rfl⟩
    exact ⟨rfl, (restorePages_reads hstrict _ bs pages rest).mp hpages⟩
  · intro ⟨hhash, hsound, hwrites⟩
    obtain ⟨imageHash, pages⟩ := ram'
    obtain rfl := hhash
    exact ⟨pages, (restorePages_reads hstrict _ bs pages rest).mpr ⟨hsound, hwrites⟩, rfl⟩

lemma Sound.restore (h : ram.Sound) (bs : Bytes) (schema : UInt32) :
    (ram.restore bs schema).1.Sound ∧ (ram.restore bs schema).1.imageHash = ram.imageHash := by
  obtain ⟨ram', result, hrestore⟩ : ∃ ram' result, ram.restore bs schema = (ram', result) :=
    ⟨_, _, rfl⟩
  rw [hrestore]
  cases result with
  | error e =>
    rw [eq_of_into_error hrestore]
    exact ⟨h, rfl⟩
  | ok rest =>
    obtain ⟨hhash, hsound, -⟩ := (restore_eq_ok_iff hstrict).mp hrestore
    exact ⟨hsound, hhash⟩

end

/-! ## Whole histories -/

/-- A delivery leaves the RAM as it is or as an answer leaves it, also if the answer is lost. -/
lemma Sound.event (hsize : config.size.toNat ≤ 2 ^ 32) (h : ram.Sound) {delivery : Delivered}
    (hends : (ram.handleEvent delivery).Ends ram') :
    ram'.Sound ∧ ram'.imageHash = ram.imageHash := by
  have hreject : ∀ {what}, (ram.reject what).Ends ram' →
      ram'.Sound ∧ ram'.imageHash = ram.imageHash := by
    intro what hends
    cases hends
    exact ⟨h, rfl⟩
  cases delivery with
  | wake => exact hreject hends
  | message port msg =>
    cases msg with
    | mem => exact hreject hends
    | irq => exact hreject hends
    | block => exact hreject hends
    | memV1 msg =>
      cases hrespond : ram.contents.respond msg with
      | none =>
        obtain ⟨what, heq⟩ := handleEvent_of_respond_none hrespond
        rw [heq] at hends
        exact hreject hends
      | some answer =>
        obtain ⟨ram₁, hsound, hhash, -, heq⟩ :=
          handleEvent_of_respond hsize h hrespond
        rw [heq] at hends
        cases hends with
        | send r hends =>
          cases hends
          exact ⟨hsound, hhash⟩

section

variable [SnapshotData]

/-- Whatever happens to a sound RAM, it stays sound and keeps its image hash. -/
lemma sound_of_reaches (hstrict : SnapshotData.Strict) (hsize : config.size.toNat ≤ 2 ^ 32)
    (h : ram.Sound) (hreaches : Component.Reaches ram ram') :
    ram'.Sound ∧ ram'.imageHash = ram.imageHash := by
  refine Component.Reaches.invariant
    (P := fun c : Ram config => c.Sound ∧ c.imageHash = ram.imageHash)
    ⟨h, rfl⟩ ?_ ?_ ?_ hreaches
  · intro c c' hc hends
    cases hends
    exact hc
  · intro c c' delivery ⟨hsound, hhash⟩ hends
    obtain ⟨hsound', hhash'⟩ := hsound.event hsize hends
    exact ⟨hsound', hhash'.trans hhash⟩
  · intro c bs schema ⟨hsound, hhash⟩
    obtain ⟨hsound', hhash'⟩ := hsound.restore hstrict bs schema
    exact ⟨hsound', hhash'.trans hhash⟩

/-- How the RAM sends what an array answers. -/
def answer (config : RamConfig) (response : Option MemV1.MemMsg) : List Call :=
  response.toList.map fun resp =>
    .sent 0 (.memV1 resp) (scheduleWhen config.latency) .complete

/-- A sequence of requests is answered as by an array. -/
lemma performAll_eq (hsize : config.size.toNat ≤ 2 ^ 32) (h : ram.Sound) (env : Surroundings)
    (port : PortId) (msgs : List MemV1.MemMsg) :
    let (outcomes, ram') :=
      Handler.performAll env ram (msgs.map fun msg => .message port (.memV1 msg))
    let (responses, m) := ram.contents.respondAll msgs
    outcomes.map Prod.fst = responses.map (answer config) ∧ ram'.contents = m := by
  induction msgs generalizing ram with
  | nil => exact ⟨rfl, rfl⟩
  | cons msg rest ih =>
    rw [List.map_cons, Handler.performAll, FlatMemory.respondAll]
    cases hrespond : ram.contents.respond msg with
    | none =>
      obtain ⟨what, heq⟩ := handleEvent_of_respond_none hrespond
      have hevent : Component.handleEvent ram (.message port (.memV1 msg)) = ram.reject what := heq
      rw [hevent]
      obtain ⟨hanswers, hcontents⟩ := ih h
      exact ⟨congrArg _ hanswers, hcontents⟩
    | some answered =>
      obtain ⟨ram₁, hsound, -, hm, heq⟩ := handleEvent_of_respond hsize h hrespond
      have hevent : Component.handleEvent ram (.message port (.memV1 msg)) =
        ram₁.respond answered.1 := heq
      rw [hevent]
      obtain ⟨hanswers, hcontents⟩ := ih hsound
      rw [hm] at hanswers hcontents
      exact ⟨congrArg _ hanswers, hcontents⟩

/-- The sparse RAM is a plain array of its size: it starts as its image and answers every sequence
of requests as the array does; it never stores a page of zeros, a page past the end or a nonzero
byte past the end; and RAMs that hold the same have the same pages and, with the same image hash,
the same snapshot, however they came to hold it. -/
theorem refines_flat_memory (hstrict : SnapshotData.Strict) {image : RamImage} {ram₀ : Ram config}
    (hnew : new config image = .ok ram₀) :
    ram₀.contents = image.contents config.size.toNat ∧
    (∀ ram, Component.Reaches ram₀ ram → ∀ env port (msgs : List MemV1.MemMsg),
      let (outcomes, ram') :=
        Handler.performAll env ram (msgs.map fun msg => .message port (.memV1 msg))
      let (responses, m) := ram.contents.respondAll msgs
      outcomes.map Prod.fst = responses.map (answer config) ∧ ram'.contents = m) ∧
    (∀ ram : Ram config, Component.Reaches ram₀ ram →
      ∀ (index : UInt32) (page : Page), ram.pages[index]? = some page →
        (∃ k, page.get k ≠ 0) ∧ index.toNat * pageSize < config.size.toNat ∧
          ∀ k, config.size.toNat ≤ position index k → page.get k = 0) ∧
    ∀ (image' : RamImage) (ram₀' : Ram config), new config image' = .ok ram₀' →
      ∀ ram ram' : Ram config, Component.Reaches ram₀ ram → Component.Reaches ram₀' ram' →
        ram.contents = ram'.contents → ram.pages = ram'.pages ∧
          (image.imageHash = image'.imageHash → ram.snapshot = ram'.snapshot) := by
  have hsize := (new_eq_ok hnew).1.le
  have hreached : ∀ {image : RamImage} {ram₀ ram : Ram config}, new config image = .ok ram₀ →
      Component.Reaches ram₀ ram → ram.Sound ∧ ram.imageHash = image.imageHash := by
    intro image ram₀ ram hnew hreaches
    obtain ⟨hsound₀, hhash₀, -⟩ := contents_of_new hnew
    obtain ⟨hsound, hhash⟩ := sound_of_reaches hstrict hsize hsound₀ hreaches
    exact ⟨hsound, hhash.trans hhash₀⟩
  refine ⟨(contents_of_new hnew).2.2, ?_, ?_, ?_⟩
  · intro ram hreaches env port msgs
    exact performAll_eq hsize (hreached hnew hreaches).1 env port msgs
  · intro ram hreaches index page hpage
    obtain ⟨hsound, -⟩ := hreached hnew hreaches
    have haccept := sound_iff.mp hsound index page hpage
    refine ⟨?_, of_decide_eq_true haccept.inRange, checkTail_eq_none.mp haccept.check⟩
    by_contra hzero
    push Not at hzero
    exact haccept.ne_zero (Vector.ext_get fun k => by rw [hzero k, Cell.get_zero])
  · intro image' ram₀' hnew' ram ram' hreaches hreaches' hcontents
    obtain ⟨hsound, hhash⟩ := hreached hnew hreaches
    obtain ⟨hsound', hhash'⟩ := hreached hnew' hreaches'
    have hpages := hsound.pages_eq hsound' hcontents
    refine ⟨hpages, fun himage => ?_⟩
    rw [Ram.ext (hhash.trans (himage.trans hhash'.symm)) hpages]

end

/-- A RAM that ends in the middle of its second page. -/
def partialConfig : RamConfig where
  size := 5000
  latency := .cycles 0 2

/-- An image of one segment that reaches into the second page. -/
def straddlingImage : RamImage where
  imageHash := Digest.zero
  segments := [{ offset := 4094, bytes := [1, 2, 3] }]

open Canonical in
theorem refines_flat_memory_straddling :
    ∃ ram, new partialConfig straddlingImage = .ok ram ∧ ∀ env,
      (Handler.performAll env ram [.message 0 (.memV1 (.readReq 7 4094 4)),
          .message 0 (.memV1 (.writeReq 8 4095 [0, 0])), .message 0 (.memV1 (.readReq 9 4094 4)),
          .message 0 (.memV1 (.readReq 10 4997 4))]).1.map Prod.fst =
        [.readResp 7 (.data [1, 2, 3, 0]), .writeResp 8 .done, .readResp 9 (.data [1, 0, 0, 0]),
          .readResp 10 (.fault .accessFault)].map fun resp => answer partialConfig (some resp) := by
  obtain ⟨ram, hnew⟩ : ∃ ram, new partialConfig straddlingImage = .ok ram := ⟨_, rfl⟩
  obtain ⟨hcontents, hanswers, -⟩ := refines_flat_memory snapshotData_strict hnew
  refine ⟨ram, hnew, fun env => ?_⟩
  obtain ⟨hanswered, -⟩ := hanswers ram .refl env 0 [.readReq 7 4094 4, .writeReq 8 4095 [0, 0],
    .readReq 9 4094 4, .readReq 10 4997 4]
  rw [hcontents] at hanswered
  refine hanswered.trans ?_
  decide +kernel

end Ram

end SystemScope.Platform
