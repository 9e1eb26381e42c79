import SystemScope.Os.Spaces
import SystemScope.Os.UserWalk
import SystemScope.Os.World

/-!
# The `write` syscall

What a `write` should do, in terms of what its caller could read itself (`writeResult`), and that
the kernel does it: the pages of the buffer are looked up before anything is transmitted, then the
bytes are transmitted in order (`write_syscall`).
-/

namespace SystemScope.Os

open Elf ByteMap Checks

/-! ## What the caller could read -/

/-- The byte that the user of a page table reads at an address, if it may. -/
def userByte (m : ByteMap) (root : UInt32) (addr : ℕ) : Option UInt8 :=
  if addr < 2 ^ 32 then
    match translateIn m root .user false false .load (UInt32.ofNat addr) with
    | .ok pa => some (m pa.toNat)
    | .error _ => none
  else none

/-- The bytes that the user of a page table reads from an address on, if it may read them all. -/
def userBytes (m : ByteMap) (root : UInt32) (addr n : ℕ) : Option Bytes :=
  (List.range n).mapM fun i => userByte m root (addr + i)

/-- What a `write` of some bytes from an address on returns to its caller, and what it transmits. -/
def bufferResult (m : ByteMap) (root addr n : UInt32) : UInt32 × Bytes :=
  match userBytes m root addr.toNat n.toNat with
  | none => (neg efault, [])
  | some bytes => (n, bytes)

/-- What a `write` returns to its caller, and what it transmits. -/
def writeResult (m : ByteMap) (root : UInt32) (frame : Bytes) : UInt32 × Bytes :=
  let n := min (word frame frameA2) writeMax
  if word frame frameA0 ≠ 1 ∧ word frame frameA0 ≠ 2 then (neg ebadf, [])
  else if n = 0 then (0, [])
  else bufferResult m root (word frame frameA1) n

section UserBytes

variable {m : ByteMap} {root : UInt32} {addr n : ℕ}

lemma mapM_eq_some {α β : Type} {f : α → Option β} {g : α → β} {l : List α}
    (h : ∀ a ∈ l, f a = some (g a)) : l.mapM f = some (l.map g) := by
  induction l with
  | nil => rfl
  | cons a l ih =>
    rw [List.mapM_cons, h a List.mem_cons_self, ih fun b hb => h b (List.mem_cons_of_mem _ hb)]
    rfl

lemma mapM_eq_none {α β : Type} {f : α → Option β} {l : List α} {a : α} (ha : a ∈ l)
    (h : f a = none) : l.mapM f = none := by
  induction l with
  | nil => cases ha
  | cons b l ih =>
    rw [List.mapM_cons]
    rcases List.mem_cons.mp ha with rfl | ha
    · rw [h]
      rfl
    · rw [ih ha]
      cases f b <;> rfl

lemma userBytes_eq_some {byte : ℕ → UInt8}
    (h : ∀ i < n, userByte m root (addr + i) = some (byte i)) :
    userBytes m root addr n = some ((List.range n).map byte) :=
  mapM_eq_some fun i hi => h i (List.mem_range.mp hi)

lemma userBytes_eq_none {i : ℕ} (hi : i < n) (h : userByte m root (addr + i) = none) :
    userBytes m root addr n = none :=
  mapM_eq_none (List.mem_range.mpr hi) h

end UserBytes

/-! ## Buffers -/

namespace Buffer

variable {b : Buffer}

/-- The number of the page that a page of the buffer is. -/
def pageOf (b : Buffer) (i : ℕ) : ℕ := b.buf.toNat / pageBytes + i

/-- The address of a page of the buffer. -/
lemma Valid.pageVa (h : b.Valid) {i : ℕ} (hi : i < b.pages) :
    ∃ va, b.pageVa i = .ok va ∧ va.toNat = b.pageOf i * pageBytes := by
  obtain ⟨hpos, hspace⟩ := h
  unfold pages pageBytes at hi
  have hmod : i % 2 ^ 32 = i := Nat.mod_eq_of_lt (by omega)
  have hlt : b.pageOf i * pageBytes < 2 ^ 32 := by
    unfold pageOf pageBytes
    omega
  have hsum : b.buf.toNat / pageBytes * pageBytes + i * pageBytes = b.pageOf i * pageBytes :=
    (Nat.add_mul _ _ _).symm
  refine ⟨UInt32.ofNat (b.pageOf i * pageBytes), ?_, UInt32.toNat_ofNat_of_lt' hlt⟩
  unfold Buffer.pageVa
  dsimp only
  rw [hmod, hsum, if_neg]
  omega

lemma Valid.exists_byte (h : b.Valid) {i : ℕ} (hi : i < b.pages) :
    ∃ j < b.n.toNat, (b.buf.toNat + j) / pageBytes = b.pageOf i := by
  obtain ⟨hpos, -⟩ := h
  unfold pages at hi
  unfold pageOf pageBytes at *
  by_cases hzero : i = 0
  · exact ⟨0, hpos, by omega⟩
  · exact ⟨(b.buf.toNat / 4096 + i) * 4096 - b.buf.toNat, by omega, by omega⟩

/-- Every byte of the buffer is in a page of it. -/
lemma exists_page {j : ℕ} (hj : j < b.n.toNat) :
    ∃ i < b.pages, (b.buf.toNat + j) / pageBytes = b.pageOf i := by
  refine ⟨(b.buf.toNat + j) / pageBytes - b.buf.toNat / pageBytes, ?_, ?_⟩
  · unfold pages pageBytes
    omega
  · unfold pageOf pageBytes
    omega

end Buffer

/-! ## Pages -/

/-- An address lies on a page exactly when it has its number. -/
lemma onPage_iff_div {p : PagePlan} {va : UInt32} (haligned : p.va.toNat % pageBytes = 0) :
    OnPage p va ↔ p.va.toNat / pageBytes = va.toNat / pageBytes := by
  unfold OnPage pageBytes at *
  omega

/-- The user may read the page with a number. -/
def Readable (mapped : List Mapped) (page : ℕ) (ppn : UInt32) : Prop :=
  ∃ p ∈ mapped, p.page.va.toNat / pageBytes = page ∧ p.page.perms.read ∧ p.frame = ppn

namespace Space.Laid

variable {layout : UserLayout} {boot : BootImage} {frames : List UInt32} {config : KernelConfig}
  {mapped : List Mapped} {s : Space} {m : ByteMap} {addr : ℕ} {ppn : UInt32}
  (h : s.Laid config layout boot frames mapped) (hbuilt : s.AsBuilt m)

omit hbuilt in
include h in
/-- A page is determined by its number. -/
lemma page_of_div {p q : Mapped} (hp : p ∈ mapped) (hq : q ∈ mapped)
    (heq : p.page.va.toNat / pageBytes = q.page.va.toNat / pageBytes) : p = q := by
  refine h.page_inj hp hq (UInt32.toNat_inj.mp ?_)
  have halign := h.page_aligned hp
  have halign' := h.page_aligned hq
  unfold pageBytes at *
  omega

include h hbuilt

lemma userByte_of_readable (hlt : addr < 2 ^ 32) (hread : Readable mapped (addr / pageBytes) ppn) :
    userByte m s.root addr = some (m (ppn.toNat * pageBytes + addr % pageBytes)) := by
  obtain ⟨p, hp, hpage, hread, rfl⟩ := hread
  have hva : (UInt32.ofNat addr).toNat = addr := UInt32.toNat_ofNat_of_lt' hlt
  have hon : OnPage p.page (UInt32.ofNat addr) := by
    rw [onPage_iff_div (h.page_aligned hp), hva]
    exact hpage
  unfold userByte
  rw [if_pos hlt]
  rcases h.translate_load hbuilt (UInt32.ofNat addr) with
    ⟨q, hq, honq, -, pa, hwalk, hpa⟩ | ⟨hnone, -⟩
  · rw [onPage_iff_div (h.page_aligned hq), hva] at honq
    have hsame : q = p := h.page_of_div hq hp (honq.trans hpage.symm)
    rw [hwalk]
    dsimp only
    rw [hpa, hsame, hva]
  · exact absurd ⟨p, hp, hon, hread⟩ hnone

lemma userByte_of_unreadable (hnone : ∀ ppn, ¬Readable mapped (addr / pageBytes) ppn) :
    userByte m s.root addr = none := by
  unfold userByte
  by_cases hlt : addr < 2 ^ 32
  · rw [if_pos hlt]
    have hva : (UInt32.ofNat addr).toNat = addr := UInt32.toNat_ofNat_of_lt' hlt
    rcases h.translate_load hbuilt (UInt32.ofNat addr) with ⟨p, hp, hon, hread, -⟩ | ⟨-, hwalk⟩
    · rw [onPage_iff_div (h.page_aligned hp), hva] at hon
      exact absurd ⟨p, hp, hon, hread, rfl⟩ (hnone p.frame)
    · rw [hwalk]
  · exact if_neg hlt

end Space.Laid

/-- A frame of the pool is in the RAM. -/
lemma BusMap.devices_pool {config : KernelConfig} (bus : BusMap config) (hvalid : config.Valid)
    {f : UInt32} (hf : InPool config f) {offset : ℕ} (hoffset : offset < pageBytes) :
    bus.devices (f.toNat * pageBytes + offset) = false := by
  obtain ⟨-, hbase, -, hstop⟩ := hf
  obtain ⟨-, hram, -, hend⟩ := hvalid.pool_in_ram
  exact bus.ram _ (by omega) (by omega)

/-! ## The syscall -/

namespace Execution

variable {config : KernelConfig} (bus : BusMap config) (registers : Access → Bytes) {m : Model}
  {layout : UserLayout} {boot : BootImage} {frames : List UInt32} {mapped : List Mapped} {s : Space}
  {w : World} {b : Buffer} {pages : List UInt32}

/-- The pages of a buffer that were looked up are those that the user may read. -/
def Resolved (mapped : List Mapped) (b : Buffer) (pages : List UInt32) : Prop :=
  ∀ i ppn, pages[i]? = some ppn → Readable mapped (b.pageOf i) ppn

lemma Resolved.append {ppn : UInt32} (h : Resolved mapped b pages)
    (hread : Readable mapped (b.pageOf pages.length) ppn) : Resolved mapped b (pages ++ [ppn]) := by
  intro i ppn' hi
  by_cases hlt : i < pages.length
  · rw [List.getElem?_append_left hlt] at hi
    exact h i ppn' hi
  · rw [List.getElem?_append_right (Nat.not_lt.mp hlt)] at hi
    rw [List.getElem?_singleton] at hi
    obtain ⟨hlast, hppn⟩ := Option.ite_none_right_eq_some.mp hi
    cases hppn
    rwa [show i = pages.length by omega]

/-- The stage after an entry. -/
def walkNext (root : UInt32) (b : Buffer) (pages : List UInt32) : WalkStep → Stage
  | .next table => .walk b pages table 0
  | .page ppn =>
    if pages.length + 1 = b.pages then .output b (pages ++ [ppn]) 0
    else .walk b (pages ++ [ppn]) root 1
  | .fault => .return_ b.sepc (neg efault)

/-- With a process running, a value can be returned. -/
lemma ret_isOk {root : UInt32} (hroot : m.runningRoot = .ok root) (nr sepc value : UInt32) :
    ∃ notes,
      m.ret nr sepc value = .ok { model := m, notes, next := .new (.return_ sepc value) } := by
  unfold Model.runningRoot at hroot
  unfold Model.ret
  cases hcurrent : m.procs.current with
  | none =>
    rw [hcurrent] at hroot
    cases hroot
  | some pid => exact ⟨_, rfl⟩

lemma advance_walk (config : KernelConfig) {root : UInt32} (hroot : m.runningRoot = .ok root)
    {va : UInt32}
    (hva : b.pageVa pages.length = .ok va) (table : UInt32) (level : UInt8) (step : ℕ)
    (data : Bytes) :
    ∃ notes, m.advance config { stage := .walk b pages table level, step, data } =
      .ok { model := m, notes
            next := some (.new (walkNext root b pages (walkStep (word data 0) level va))) } := by
  obtain ⟨notes, hwalked⟩ : ∃ notes, m.walked b pages level (word data 0) =
      .ok { model := m, notes
            next := .new (walkNext root b pages (walkStep (word data 0) level va)) } := by
    unfold Model.walked
    rw [hva]
    show ∃ notes, (match walkStep (word data 0) level va with
      | .next table => _ | .page ppn => _ | .fault => _ : Outcome (Decision ProcOp)) = _
    cases walkStep (word data 0) level va with
    | next table => exact ⟨_, rfl⟩
    | page ppn =>
      unfold walkNext
      dsimp only
      by_cases hlast : pages.length + 1 = b.pages
      · rw [if_pos hlast, if_pos hlast]
        exact ⟨_, rfl⟩
      · rw [if_neg hlast, if_neg hlast, hroot]
        exact ⟨_, rfl⟩
    | fault => exact ret_isOk hroot _ _ _
  refine ⟨notes, ?_⟩
  unfold Model.advance
  dsimp only
  rw [hwalked]
  rfl

variable (hvalid : config.Valid) (h : s.Laid config layout boot frames mapped)
  (hbuilt : s.AsBuilt w.memory) (hroot : m.runningRoot = .ok s.root) (hb : b.Valid)

include hvalid h hroot

/-- An entry of a table is read, which decides what comes next. -/
lemma Reaches.entry {table va : UInt32} {level : UInt8} {i : ℕ} (htable : table ∈ s.tables)
    (hva : b.pageVa pages.length = .ok va) (hi : i < 2 ^ 10)
    (haddr : pteAddress table va level = entryAddr table i) :
    Reaches config (bus.respond registers)
      { model := m, op := some (.new (.walk b pages table level)), world := w }
      { model := m
        op := some (.new (walkNext s.root b pages (walkStep (entryIn w.memory table i) level va)))
        world := w } := by
  have hpool : InPool config table :=
    h.pool table (h.frame_mem (h.built.mem_frames.mpr (.inl htable)))
  obtain ⟨notes, hadvance⟩ := advance_walk config hroot hva table level 1
    (w.memory.read (pteAddress table va level) 4)
  have hdevices : bus.devices (pteAddress table va level) = false := by
    rw [haddr]
    refine bus.devices_pool hvalid hpool ?_
    unfold pageBytes
    omega
  have hreaches := Reaches.walk bus registers hva hdevices hadvance
  rw [haddr] at hreaches
  exact hreaches

include hbuilt hb

/-- A page of the buffer is looked up: the walk goes on, or the call fails. -/
lemma Reaches.walkPage (hlt : pages.length < b.pages) :
    (∃ ppn, Readable mapped (b.pageOf pages.length) ppn ∧
      Reaches config (bus.respond registers)
        { model := m, op := some (.new (.walk b pages s.root 1)), world := w }
        { model := m, op := some (.new (walkNext s.root b pages (.page ppn))), world := w }) ∨
      (∀ ppn, ¬Readable mapped (b.pageOf pages.length) ppn) ∧
      Reaches config (bus.respond registers)
        { model := m, op := some (.new (.walk b pages s.root 1)), world := w }
        { model := m, op := some (.new (.return_ b.sepc (neg efault))), world := w } := by
  obtain ⟨va, hva, hpage⟩ := hb.pageVa hlt
  have hdiv : va.toNat / pageBytes = b.pageOf pages.length := by
    rw [hpage]
    exact Nat.mul_div_cancel _ (by decide)
  have hroot' := Reaches.entry (w := w) bus registers hvalid h hroot
    h.built.root_mem hva (vpn1_lt _) (pteAddress_one s.root va)
  have hzero {t : UInt32} (ht : t ∈ s.tables) := Reaches.entry (w := w) bus registers
    hvalid h hroot ht hva (vpn0_lt _) (pteAddress_zero t va)
  have hnone (hnot : ¬∃ p ∈ mapped, OnPage p.page va ∧ p.page.perms.read) :
      ∀ ppn, ¬Readable mapped (b.pageOf pages.length) ppn := by
    rintro ppn ⟨p, hp, hnumber, hread, -⟩
    refine hnot ⟨p, hp, (onPage_iff_div (h.page_aligned hp)).mpr ?_, hread⟩
    rw [hnumber, hdiv]
  rcases h.userWalk hbuilt va with ⟨p, hp, hon, hread, hone, hleaf⟩
    | ⟨hnot, hone | ⟨t, ht, hone, hleaf⟩⟩
  · rw [hone] at hroot'
    have hnext := hzero (h.built.table_mem_tables hp)
    rw [hleaf] at hnext
    rw [onPage_iff_div (h.page_aligned hp), hdiv] at hon
    exact .inl ⟨p.frame, ⟨p, hp, hon, hread, rfl⟩, hroot'.trans hnext⟩
  · rw [hone] at hroot'
    exact .inr ⟨hnone hnot, hroot'⟩
  · rw [hone] at hroot'
    have hnext := hzero ht
    rw [hleaf] at hnext
    exact .inr ⟨hnone hnot, hroot'.trans hnext⟩

/-- The pages of the buffer are looked up, all of them or up to one that may not be read. -/
lemma Reaches.walks {k : ℕ} (hresolved : Resolved mapped b pages)
    (hk : pages.length + k + 1 = b.pages) :
    (∃ all, Resolved mapped b all ∧ all.length = b.pages ∧
      Reaches config (bus.respond registers)
        { model := m, op := some (.new (.walk b pages s.root 1)), world := w }
        { model := m, op := some (.new (.output b all 0)), world := w }) ∨
      (∃ i < b.pages, ∀ ppn, ¬Readable mapped (b.pageOf i) ppn) ∧
      Reaches config (bus.respond registers)
        { model := m, op := some (.new (.walk b pages s.root 1)), world := w }
        { model := m, op := some (.new (.return_ b.sepc (neg efault))), world := w } := by
  induction k generalizing pages with
  | zero =>
    rcases Reaches.walkPage bus registers hvalid h hbuilt hroot hb
      (show pages.length < b.pages by omega) with ⟨ppn, hread, hreaches⟩ | ⟨hnone, hreaches⟩
    · unfold walkNext at hreaches
      dsimp only at hreaches
      rw [if_pos (by omega)] at hreaches
      refine .inl ⟨pages ++ [ppn], hresolved.append hread, ?_, hreaches⟩
      rw [List.length_append, List.length_singleton]
      omega
    · exact .inr ⟨⟨pages.length, by omega, hnone⟩, hreaches⟩
  | succ k ih =>
    rcases Reaches.walkPage bus registers hvalid h hbuilt hroot hb
      (show pages.length < b.pages by omega) with ⟨ppn, hread, hreaches⟩ | ⟨hnone, hreaches⟩
    · unfold walkNext at hreaches
      dsimp only at hreaches
      rw [if_neg (by omega)] at hreaches
      rcases ih (hresolved.append hread) (by
        rw [List.length_append, List.length_singleton]
        omega) with ⟨all, hall, hlength, hnext⟩ | ⟨hnone, hnext⟩
      · exact .inl ⟨all, hall, hlength, hreaches.trans hnext⟩
      · exact .inr ⟨hnone, hreaches.trans hnext⟩
    · exact .inr ⟨⟨pages.length, by omega, hnone⟩, hreaches⟩

omit hroot in
/-- A chunk of a buffer whose pages may be read: it is in memory, and holds what the user reads. -/
lemma Resolved.chunk {byte : ℕ → UInt8} (hresolved : Resolved mapped b pages)
    (hlength : pages.length = b.pages)
    (hbyte : ∀ j < b.n.toNat, userByte w.memory s.root (b.buf.toNat + j) = some (byte j))
    {done : ℕ} (hdone : done < b.n.toNat) :
    ∃ addr, physical b pages (b.chunk done).1 = .ok addr ∧ bus.devices addr = false ∧
      w.memory.read addr (b.chunk done).2 = (List.range' done (b.chunk done).2).map byte := by
  obtain ⟨len, hlen⟩ : ∃ len, (b.chunk done).2 = len := ⟨_, rfl⟩
  have hfirst : (b.chunk done).1 = b.buf.toNat + done := rfl
  have hchunk : len = min (min (b.n.toNat - done) 16)
      (pageBytes - (b.buf.toNat + done) % pageBytes) := hlen.symm
  rw [hlen, hfirst]
  obtain ⟨i, hi, hpage⟩ := Buffer.exists_page (b := b) hdone
  obtain ⟨ppn, hppn⟩ : ∃ ppn, pages[i]? = some ppn := ⟨_, List.getElem?_eq_getElem (by omega)⟩
  have hread := hresolved i ppn hppn
  refine ⟨ppn.toNat * pageBytes + (b.buf.toNat + done) % pageBytes, ?_, ?_, ?_⟩
  · have hindex : (b.buf.toNat + done) / pageBytes - b.buf.toNat / pageBytes = i := by
      rw [hpage]
      exact Nat.add_sub_cancel_left _ _
    unfold physical
    rw [hindex, hppn]
  · obtain ⟨p, hp, -, -, rfl⟩ := hread
    have hpool := h.pool p.frame (h.frame_mem (h.built.mem_frames.mpr (.inr ⟨p, hp, rfl⟩)))
    exact bus.devices_pool hvalid hpool (Nat.mod_lt _ (by decide))
  · rw [List.range'_eq_map_range, List.map_map]
    refine List.map_congr_left fun j hj => ?_
    rw [List.mem_range] at hj
    have hsame : (b.buf.toNat + (done + j)) / pageBytes = b.pageOf i ∧
        (b.buf.toNat + (done + j)) % pageBytes = (b.buf.toNat + done) % pageBytes + j := by
      unfold pageBytes at *
      omega
    have hspace := hb.inSpace
    have huser := h.userByte_of_readable hbuilt
      (show b.buf.toNat + (done + j) < 2 ^ 32 by omega) (hsame.1 ▸ hread)
    rw [hbyte (done + j) (by omega), hsame.2] at huser
    rw [Nat.add_assoc]
    exact (Option.some.inj huser).symm

/-- The rest of a buffer whose pages may be read is transmitted, chunk by chunk. -/
lemma Reaches.outputs {byte : ℕ → UInt8} (hresolved : Resolved mapped b pages)
    (hlength : pages.length = b.pages)
    (hbyte : ∀ j < b.n.toNat, userByte w.memory s.root (b.buf.toNat + j) = some (byte j))
    {rest done : ℕ} (hdone : done + rest = b.n.toNat) (hrest : 0 < rest) (sent : Bytes) :
    Reaches config (bus.respond registers)
      { model := m, op := some (.new (.output b pages done)), world := { w with uart := sent } }
      { model := m, op := some (.new (.return_ b.sepc b.n))
        world := { w with uart := sent ++ (List.range' done rest).map byte } } := by
  induction rest using Nat.strongRecOn generalizing done sent with
  | ind rest ih =>
    have hpos : 0 < (b.chunk done).2 := b.chunk_pos (by omega)
    have hle : (b.chunk done).2 ≤ rest := by
      show min (min (b.n.toNat - done) 16) _ ≤ rest
      omega
    obtain ⟨addr, haddr, hdevices, hbytes⟩ := hresolved.chunk bus hvalid h hbuilt hb hlength
      hbyte (show done < b.n.toNat by omega)
    have hstage {d : Decision (Option ProcOp)} := Reaches.output bus registers (m := m)
      (w := { w with uart := sent }) (d := d) haddr hdevices
    rw [hbytes] at hstage
    by_cases hlast : done + (b.chunk done).2 = b.n.toNat
    · obtain ⟨notes, hret⟩ := ret_isOk hroot sysWrite b.sepc b.n
      have hreaches :=
        hstage (d := { model := m, notes, next := some (.new (.return_ b.sepc b.n)) }) ?_
      · rwa [show rest = (b.chunk done).2 by omega]
      · unfold Model.advance Model.chunkDone
        dsimp only
        rw [if_pos hlast, hret]
        rfl
    · have hreaches := hstage
        (d := { model := m, notes := [],
                next := some (.new (.output b pages (done + (b.chunk done).2))) }) ?_
      · refine hreaches.trans ?_
        have hnext := ih (rest - (b.chunk done).2) (by omega)
          (show done + (b.chunk done).2 + _ = _ by omega) (by omega)
            (sent ++ (List.range' done (b.chunk done).2).map byte)
        rw [List.append_assoc, ← List.map_append, List.range'_append_1] at hnext
        rwa [show (b.chunk done).2 + (rest - (b.chunk done).2) = rest by omega] at hnext
      · unfold Model.advance Model.chunkDone
        dsimp only
        rw [if_neg hlast]
        rfl

/-- A buffer is looked up, and transmitted if all of it may be read. -/
lemma Reaches.buffer :
    Reaches config (bus.respond registers)
      { model := m, op := some (.new (.walk b [] s.root 1)), world := w }
      { model := m, op := some (.new (.return_ b.sepc (bufferResult w.memory s.root b.buf b.n).1))
        world := { w with uart := w.uart ++ (bufferResult w.memory s.root b.buf b.n).2 } } := by
  have hpages : ([] : List UInt32).length + (b.pages - 1) + 1 = b.pages := by
    unfold Buffer.pages
    simp
  have hspace := hb.inSpace
  unfold bufferResult
  have hresolved : Resolved mapped b [] := nofun
  rcases Reaches.walks bus registers hvalid h hbuilt hroot hb hresolved hpages with
    ⟨all, hall, hlength, hreaches⟩ | ⟨⟨i, hi, hnone⟩, hreaches⟩
  · have hbyte : ∀ j < b.n.toNat, userByte w.memory s.root (b.buf.toNat + j) =
        some ((userByte w.memory s.root (b.buf.toNat + j)).getD 0) := by
      intro j hj
      obtain ⟨i, hi, hpage⟩ := Buffer.exists_page (b := b) hj
      obtain ⟨ppn, hppn⟩ : ∃ ppn, all[i]? = some ppn := ⟨_, List.getElem?_eq_getElem (by omega)⟩
      rw [h.userByte_of_readable hbuilt (by omega) (hpage ▸ hall i ppn hppn)]
      rfl
    rw [userBytes_eq_some hbyte]
    refine hreaches.trans ?_
    have houtputs := Reaches.outputs bus registers hvalid h hbuilt hroot hb hall hlength hbyte
      (Nat.zero_add _) hb.pos w.uart
    rwa [← List.range_eq_range'] at houtputs
  · obtain ⟨j, hj, hpage⟩ := hb.exists_byte hi
    have hunreadable := h.userByte_of_unreadable hbuilt (hpage ▸ hnone)
    rw [userBytes_eq_none hj hunreadable, List.append_nil]
    exact hreaches

omit hb in
/-- The result of a `write` is decided, and what it transmits is transmitted. -/
lemma Reaches.writes (frame : Bytes) :
    ∃ notes stage, m.write frame = .ok { model := m, notes, next := .new stage } ∧
      Reaches config (bus.respond registers) { model := m, op := some (.new stage), world := w }
        { model := m
          op := some (.new (.return_ (word frame frameSepc) (writeResult w.memory s.root frame).1))
          world := { w with uart := w.uart ++ (writeResult w.memory s.root frame).2 } } := by
  have hreturns (value : UInt32) (hresult : writeResult w.memory s.root frame = (value, [])) :
      ∃ notes stage, m.ret sysWrite (word frame frameSepc) value =
          .ok { model := m, notes, next := .new stage } ∧
        Reaches config (bus.respond registers) { model := m, op := some (.new stage), world := w }
          { model := m
            op := some (.new
              (.return_ (word frame frameSepc) (writeResult w.memory s.root frame).1))
            world := { w with uart := w.uart ++ (writeResult w.memory s.root frame).2 } } := by
    obtain ⟨notes, hret⟩ := ret_isOk hroot sysWrite (word frame frameSepc) value
    refine ⟨notes, _, hret, ?_⟩
    rw [hresult]
    dsimp only
    rw [List.append_nil]
    exact .refl _
  unfold Model.write
  dsimp only
  by_cases hfd : word frame frameA0 ≠ 1 ∧ word frame frameA0 ≠ 2
  · rw [if_pos hfd]
    refine hreturns _ ?_
    unfold writeResult
    dsimp only
    rw [if_pos hfd]
  rw [if_neg hfd]
  by_cases hzero : min (word frame frameA2) writeMax = 0
  · rw [if_pos hzero]
    refine hreturns _ ?_
    unfold writeResult
    dsimp only
    rw [if_neg hfd, if_pos hzero]
  rw [if_neg hzero]
  obtain ⟨n, hn⟩ : ∃ n, min (word frame frameA2) writeMax = n := ⟨_, rfl⟩
  have hmax : n ≤ writeMax := by
    rw [← hn]
    show (if word frame frameA2 ≤ writeMax then word frame frameA2 else writeMax) ≤ writeMax
    split
    · assumption
    · exact UInt32.le_refl _
  rw [hn] at hzero ⊢
  have hpos : 0 < n.toNat := Nat.pos_of_ne_zero fun heq => hzero (UInt32.toNat_inj.mp heq)
  have hresult : writeResult w.memory s.root frame =
      bufferResult w.memory s.root (word frame frameA1) n := by
    unfold writeResult
    dsimp only
    rw [hn, if_neg hfd, if_neg hzero]
  by_cases hspace : (word frame frameA1).toNat + n.toNat ≤ 2 ^ 32
  · have hnew : Buffer.new (word frame frameSepc) (word frame frameA1) n =
        some { sepc := word frame frameSepc, buf := word frame frameA1, n } :=
      if_pos ⟨⟨UInt32.le_iff_toNat_le.mpr hpos, hmax⟩, hspace⟩
    rw [hnew, hroot, hresult]
    exact ⟨[], _, rfl, Reaches.buffer bus registers hvalid h hbuilt hroot ⟨hpos, hspace⟩⟩
  · have hnew : Buffer.new (word frame frameSepc) (word frame frameA1) n = none :=
      if_neg fun hall => hspace hall.2
    have hword := (word frame frameA1).toNat_lt
    have hwrapped : userByte w.memory s.root ((word frame frameA1).toNat +
        (2 ^ 32 - (word frame frameA1).toNat)) = none := if_neg (by omega)
    rw [hnew]
    refine hreturns _ ?_
    rw [hresult]
    unfold bufferResult
    rw [userBytes_eq_none (by omega) hwrapped]

end Execution

/-! ## From the trap to the return -/

/-- What the kernel does for a `write` of the running process, in a memory and a world of
devices. -/
structure Writes (config : KernelConfig) (m : Model) (p : Pcb) (respond : Responder World)
    (w : World) (frame : Bytes) (memory : ByteMap) : Prop where
  /-- The operation ends, nothing of the metadata has changed, and the bytes are transmitted. -/
  ends : Execution.Reaches config respond { model := m, op := some (.new .readFrame), world := w }
    { model := m, op := none
      world := { memory, uart := w.uart ++ (writeResult w.memory p.root frame).2 } }
  /-- Of the frame only `a0` and `sepc` have changed. -/
  frame : memory.read config.trapFrame.toNat frameBytes =
    putWord (putWord frame frameA0 (writeResult w.memory p.root frame).1) frameSepc
      (word frame frameSepc + 4)
  others : ∀ addr, addr < config.trapFrame.toNat ∨ config.trapFrame.toNat + frameBytes ≤ addr →
    memory addr = w.memory addr

/-- The trap frame is that of a `write` in user mode. -/
structure AsksToWrite (frame : Bytes) : Prop where
  user : word frame frameSstatus &&& sstatusSpp = 0
  cause : word frame frameScause = ecallFromU
  number : word frame frameA7 = sysWrite

lemma AsksToWrite.advance (config : KernelConfig) {m : Model} {frame : Bytes}
    (h : AsksToWrite frame)
    (hcurrent : m.procs.current.isSome) {notes : List Note} {stage : Stage}
    (hwrite : m.write frame = .ok { model := m, notes, next := .new stage }) (step : ℕ) :
    ∃ notes, m.advance config { stage := .readFrame, step, data := frame } =
      .ok { model := m, notes, next := some (.new stage) } := by
  obtain ⟨pid, hpid⟩ := Option.isSome_iff_exists.mp hcurrent
  have hserve : m.serve pid frame = m.write frame := by
    unfold Model.serve
    dsimp only
    rw [h.number]
    rfl
  refine ⟨Model.enterNote pid frame :: notes, ?_⟩
  unfold Model.advance Model.decide Model.syscall
  dsimp only
  rw [if_neg (not_not.mpr h.user), if_pos h.cause, hpid]
  dsimp only
  rw [hserve, hwrite]
  rfl

/-- Every running process has its space, in whatever state the kernel reaches; and a `write` of a
process with its space, whose page table is as it was built, does what it should. -/
theorem write_syscall {config : KernelConfig} :
    (∀ (c₀ c : ModeledKernel config) stages m pid, c₀.Validated → ModeledKernel.Passes c₀ stages c →
      c.model = some m → m.procs.current = some pid →
        ∃ p, m.procs.pcb pid = some p ∧ p.state = .running ∧ ∃ s, p.Has config s) ∧
    ∀ (m : Model) pid p s, m.procs.current = some pid → m.procs.pcb pid = some p → p.Has config s →
      (m.life = .up → m.start config config.trapFrame =
        .ok { model := m, notes := [], next := .new .readFrame }) ∧
      ∀ (bus : BusMap config) registers (w : World), s.AsBuilt w.memory →
        ∀ frame, w.memory.read config.trapFrame.toNat frameBytes = frame → AsksToWrite frame →
          ∃ memory, Writes config m p (bus.respond registers) w frame memory := by
  constructor
  · intro c₀ c stages m pid h₀ hpasses hm hcurrent
    have hsound := h₀.sound.passes hpasses
    have hok := hsound.ok hm
    obtain ⟨p, hp, hpid, hrunning, hpcb⟩ := hok.running_pcb hcurrent
    refine ⟨p, hpcb, hrunning, h₀.housed hpasses hm p hp ?_⟩
    rw [hrunning]
    exact id
  · intro m pid p s hcurrent hpcb hs
    obtain ⟨⟨layout, boot, mapped, h⟩, hroot, -, -⟩ := hs
    have hvalid := h.valid.valid
    have hsome : m.procs.current.isSome := by
      rw [hcurrent]
      rfl
    have hrunning : m.runningRoot = .ok s.root := by
      unfold Model.runningRoot
      rw [hcurrent]
      dsimp only
      rw [hpcb]
      exact congrArg Except.ok hroot
    constructor
    · intro hlife
      unfold Model.start
      rw [if_neg (not_not.mpr rfl), hlife]
      exact if_pos hsome
    · intro bus registers w hbuilt frame hframe hwrite
      obtain ⟨notes, stage, hstart, hreaches⟩ := Execution.Reaches.writes bus registers
        hvalid h hbuilt hrunning frame
      obtain ⟨notes, hadvance⟩ := hwrite.advance config hsome hstart
        (frameChunks config).length
      rw [← hframe] at hadvance
      have hread := (Execution.Through.readFrame bus registers hvalid hadvance).reaches
      rw [← hroot] at hreaches
      refine ⟨_,
        (hread.trans hreaches).trans (Execution.Reaches.return_ bus registers hvalid _ _), ?_, ?_⟩
      · rw [read_write_within (by rw [length_wordBytes]; decide),
          read_write_within (by rw [length_wordBytes]; decide), hframe]
        rfl
      · intro addr haddr
        have hfit : frameA0 + 4 ≤ frameBytes ∧ frameSepc + 4 ≤ frameBytes := by decide
        have haway (offset : ℕ) (word : UInt32) (hoffset : offset + 4 ≤ frameBytes) :
            ¬(config.trapFrame.toNat + offset ≤ addr ∧
              addr < config.trapFrame.toNat + offset + (wordBytes word).length) := by
          rw [length_wordBytes]
          omega
        exact (if_neg (haway _ _ hfit.2)).trans (if_neg (haway _ _ hfit.1))

/-- The trap frame of a `write` of four bytes. -/
def smallFrame : Bytes :=
  putWord (putWord (putWord (putWord (putWord (List.replicate frameBytes 0) frameA0 1)
    frameA1 0x10000) frameA2 4) frameA7 sysWrite) frameScause ecallFromU

/-- The small executable running, in the memory that its creation leaves. -/
theorem write_syscall_small :
    ∃ m p s w memory, m.procs.pcb 1 = some p ∧ p.state = .running ∧
      p.Has (smallConfig 0x80000000) s ∧
      s.AsBuilt w.memory ∧ Writes (smallConfig 0x80000000) m p (smallBus.respond fun _ => []) w
        smallFrame memory := by
  obtain ⟨s, hs⟩ := build_smallElf
  obtain ⟨mapped, hsound⟩ := Space.sound_of_parse (by decide +kernel) parse_smallElf
    (by decide +kernel) smallFrames_inPool (by decide) hs
  have hframes : s.frames = smallFrames 0x80000000 :=
    hsound.built.frames_eq (show _ = framesNeeded smallElfBoot.image smallLayout by decide +kernel)
  have hbuilt := hsound.asBuilt fun _ => 0
  have hlaid := hsound.toLaid
  rw [← hframes] at hlaid
  let p : Pcb := Processes.dispatched (.new 1 s (.initial 0x10000 0x30000))
  let m : Model :=
    { source := .plan { layout := smallLayout, images := [smallElfBoot] }
      entries := 1
      procs := { pcbs := [p], queue := [], current := some 1,
                 frames := framePool (smallConfig 0x80000000) }
      life := .up }
  let memory : ByteMap :=
    (ByteMap.after (fun _ => 0) s.effect s.accesses).write 0x80001000 smallFrame
  have hlength : smallFrame.length = frameBytes := by decide +kernel
  have htrapFrame : (smallConfig 0x80000000).trapFrame.toNat = 0x80001000 := by decide
  -- the trap frame is not in the pool
  have hmemory : s.AsBuilt memory := by
    intro t ht i hi
    have hpool : InPool _ t := hlaid.pool t (hlaid.frame_mem (hlaid.built.mem_frames.mpr (.inl ht)))
    have hsame :
      entryIn memory t i = entryIn (ByteMap.after (fun _ => 0) s.effect s.accesses) t i := by
      unfold entryIn
      have hbase : (smallConfig 0x80000000).framePool.base.toNat = 0x80400000 := by decide
      obtain ⟨-, hle, -⟩ := hpool
      have haway : Away (0x80001000, smallFrame) (entryAddr t i) 4 := by
        unfold Away entryAddr
        dsimp only
        rw [hlength]
        unfold frameBytes
        omega
      rw [read_write_away haway]
    rw [hsame]
    exact hbuilt t ht i hi
  have hread : memory.read (smallConfig 0x80000000).trapFrame.toNat frameBytes = smallFrame := by
    rw [htrapFrame, ← hlength, read_write_covers (covers_self (0x80001000, smallFrame))]
    exact slice_self (0x80001000, smallFrame)
  have hasks : AsksToWrite smallFrame := ⟨by decide +kernel, by decide +kernel, by decide +kernel⟩
  obtain ⟨-, hwrite⟩ := @write_syscall (smallConfig 0x80000000)
  have hhas : p.Has (smallConfig 0x80000000) s := ⟨⟨_, _, mapped, hlaid⟩, rfl, rfl, rfl⟩
  obtain ⟨-, hwrites⟩ := hwrite m 1 p s rfl rfl hhas
  obtain ⟨final, hfinal⟩ := hwrites smallBus (fun _ => []) { memory, uart := [] } hmemory smallFrame
    hread hasks
  exact ⟨m, p, s, _, final, rfl, rfl, hhas, hmemory, hfinal⟩

end SystemScope.Os
