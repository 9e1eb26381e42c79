import SystemScope.Elf.UserPrefix
import SystemScope.Os.BootFold
import SystemScope.Os.Drive
import SystemScope.Os.Machine
import SystemScope.Os.Transfers

/-!
# The boot from disk

A boot from disk computes a fold over the table of executables (`disk_boot`): each entry whose
transfer succeeds and whose file parses is an image of the fold, the others leave nothing, and how
often the block controller is polled does not matter.
-/

namespace SystemScope.Os

open Elf Checks Execution

variable {config : KernelConfig} {disk : DiskBoot} {contents : ByteMap} {services : ℕ → Service}

/-- The file of an entry, as it is on the disk. -/
def fileOf (contents : ByteMap) (e : ExecEntry) : Bytes :=
  contents.read (blockSize * e.startLba.toNat) e.byteLen.toNat

namespace DiskBoot

variable (config disk contents services)

/-- The image of an entry whose transfer ends with an error, if it succeeds and the file parses. -/
def image (error : UInt8) (e : ExecEntry) : Option BootImage :=
  if error ≠ 0 then none
  else
    (parseUserElf32 (fileOf contents e) e.byteLen disk.layout.imageRange).toOption.map
      (Model.stagedImage config e)

/-- The images of the entries from an index on.  Transfer 0 is that of the table. -/
def images (errors : ℕ → UInt8) : ℕ → List ExecEntry → List (Option BootImage)
  | _, [] => []
  | i, e :: rest => disk.image config contents (errors (i + 1)) e :: images errors (i + 1) rest

/-- The transfers of the entries from an index on, with their images. -/
def steps : ℕ → List ExecEntry → List ((ByteMap → ByteMap) × Option BootImage)
  | _, [] => []
  | i, e :: rest =>
    ((services (i + 1)).transferred contents e.startLba (UInt32.ofNat config.staging.base.toNat)
        e.blocks,
      disk.image config contents (services (i + 1)).error e) :: steps (i + 1) rest

lemma map_steps (i : ℕ) (entries : List ExecEntry) :
    (disk.steps config contents services i entries).map Prod.snd =
      disk.images config contents (fun i => (services i).error) i entries := by
  induction entries generalizing i with
  | nil => rfl
  | cons e rest ih => exact congrArg _ (ih (i + 1))

/-- The table of the disk, if its transfer succeeds and it is valid. -/
def table (errors : ℕ → UInt8) : Option ExecTable :=
  if errors 0 ≠ 0 then none
  else (parseExecTable (contents.read 0 blockSize) disk.capacityBlocks
    (stagingSize config)).toOption

/-- The processes that a boot creates. -/
def processes (errors : ℕ → UInt8) : Processes :=
  match disk.table config contents errors with
  | none => .new (framePool config)
  | some t =>
    Processes.bootAll config disk.layout 0 (disk.images config contents errors 0 t.entries)
      (.new (framePool config))

/-- The metadata when a boot has ended. -/
def booted (errors : ℕ → UInt8) : Model :=
  { source := .disk disk
    entries := ((disk.table config contents errors).map fun t => t.entries.length).getD 0
    procs := (disk.processes config contents errors).dispatchFirst
    life := if (disk.processes config contents errors).queue = [] then .down else .up }

/-- The model while the entries of a table are loaded. -/
def loading (t : ExecTable) (procs : Processes) : Model :=
  { source := .disk disk, entries := t.entries.length, procs, life := .up }

end DiskBoot

/-! ## The headers of a file -/

lemma BusMap.devices_staging (bus : BusMap config) (hvalid : config.Valid) {addr : ℕ}
    (hle : config.staging.base.toNat ≤ addr)
    (hlt : addr < config.staging.base.toNat + config.staging.size.toNat) :
      bus.devices addr = false := by
  obtain ⟨-, hbase, -, htop⟩ := hvalid.staging_in_ram
  exact bus.ram addr (by omega) (by omega)

section Staged

variable {δ : Type} (bus : BusMap config) (device : Responder (Board δ)) {m : Model} {w : Board δ}

lemma Execution.Reaches.staged (hvalid : config.Valid) (cursor : Cursor) {len : UInt32}
    (hpos : 0 < len.toNat) (hle : len.toNat ≤ config.staging.size.toNat) {d : Decision ProcOp}
    (hstaged : m.staged config cursor len (w.memory.read config.staging.base.toNat len.toNat) =
      .ok d) :
    Reaches config (bus.serve device)
      { model := m, op := some (.new (.staged cursor len)), world := w }
      { model := d.model, op := some d.next, world := w } := by
  have hadvance : m.advance config
      { stage := .staged cursor len, step := (stagedChunks config len).length
        data := w.memory.read config.staging.base.toNat len.toNat } =
      .ok { model := d.model, notes := d.notes, next := some d.next } :=
    bind_eq_ok.mpr ⟨d, hstaged, rfl⟩
  exact Through.reaches <|
    Through.board_read bus device hpos ⟨fun _ _ => rfl, fun _ _ => rfl, fun _ _ _ => rfl⟩
    (fun a hbase hlt => bus.devices_staging hvalid hbase (by omega)) hadvance

/-- The headers of a file in staging are read, as many as the parser needs. -/
lemma Execution.Reaches.headers (hvalid : disk.Valid config) (hsource : m.source = .disk disk)
    {cursor : Cursor} {e : ExecEntry} (hentry : cursor.entry = some e)
    (hfile : e.byteLen.toNat ≤ config.staging.size.toNat) {len : UInt32} (hpos : 0 < len.toNat)
    (hlen : len.toNat ≤ e.byteLen.toNat) :
    ∃ len' headers, parseUserElf32 headers e.byteLen disk.layout.imageRange =
        parseUserElf32 (w.memory.read config.staging.base.toNat e.byteLen.toNat) e.byteLen
          disk.layout.imageRange ∧
      ∀ y, Leads config (bus.serve device) (m.staged config cursor len' headers) w y →
        Reaches config (bus.serve device)
          { model := m, op := some (.new (.staged cursor len)), world := w } y := by
  obtain ⟨left, hleft⟩ := Nat.exists_eq_add_of_le hlen
  induction left using Nat.strong_induction_on generalizing len with
  | _ left ih =>
    have hsplit : w.memory.read config.staging.base.toNat e.byteLen.toNat =
        w.memory.read config.staging.base.toNat len.toNat ++
          w.memory.read (config.staging.base.toNat + len.toNat) left := by
      rw [hleft, ByteMap.read_append]
    have hlength : (w.memory.read config.staging.base.toNat len.toNat).length = len.toNat :=
      ByteMap.length_read _ _ _
    have hwhole : (w.memory.read config.staging.base.toNat len.toNat ++
        w.memory.read (config.staging.base.toNat + len.toNat) left).length = e.byteLen.toNat := by
      rw [← hsplit, ByteMap.length_read]
    rcases parse_prefix disk.layout.imageRange _ hwhole with ⟨needed, hshort⟩ | hsame
    · -- the headers do not end in what was read
      obtain ⟨hmore, henough⟩ := parse_tooShort _ hshort
      rw [hlength] at hmore
      have hagain : m.staged config cursor len (w.memory.read config.staging.base.toNat len.toNat) =
          .ok { model := m, notes := [], next := .new (.staged cursor needed) } := by
        unfold Model.staged
        rw [hsource]
        dsimp only
        rw [hentry]
        dsimp only
        rw [hshort]
        exact if_pos (UInt32.lt_iff_toNat_lt.mpr hmore)
      obtain ⟨left', hleft'⟩ := Nat.exists_eq_add_of_le henough
      obtain ⟨len', headers, hparse, hreaches⟩ :=
        ih left' (by omega) (by omega) henough hleft'
      refine ⟨len', headers, hparse, fun y hy => ?_⟩
      exact (Reaches.staged bus device hvalid.layout.valid cursor hpos (by omega) hagain).trans
        (hreaches y hy)
    · refine ⟨len, _, hsame.trans (by rw [hsplit]), ?_⟩
      rintro y ⟨d, hd, hy⟩
      exact (Reaches.staged bus device hvalid.layout.valid cursor hpos (by omega) hd).trans hy

end Staged

/-! ## The entries -/

lemma Service.read_transferred (s : Service) (hvalid : disk.Valid config) (hsuccess : s.error = 0)
    (contents : ByteMap) (lba count : UInt32) {len : ℕ} (hlen : len ≤ blockSize * count.toNat)
    (memory : ByteMap) :
    (s.transferred contents lba (UInt32.ofNat config.staging.base.toNat) count memory).read
      config.staging.base.toNat len = contents.read (blockSize * lba.toNat) len := by
  have hbelow := hvalid.below
  have hblock := hvalid.block
  have hbase : (UInt32.ofNat config.staging.base.toNat).toNat = config.staging.base.toNat := by
    refine UInt32.toNat_ofNat_of_lt' (show _ < 2 ^ 32 from ?_)
    unfold blockSize at hblock
    omega
  have hcovers : ByteMap.Covers (config.staging.base.toNat,
      contents.read (blockSize * lba.toNat) (blockSize * count.toNat))
        config.staging.base.toNat len := by
    refine ⟨Nat.le_refl _, ?_⟩
    rw [ByteMap.length_read]
    exact Nat.add_le_add_left hlen _
  unfold transferred
  dsimp only
  rw [if_pos hsuccess, hbase]
  refine (ByteMap.read_write_covers hcovers).trans ?_
  unfold ByteMap.slice
  rw [Nat.sub_self, ByteMap.read_drop_take (by omega), Nat.add_zero]

section Entries

lemma fits_of_accepted (hvalid : disk.Valid config) {t : ExecTable} {block : Bytes}
    (haccepted : parseExecTable block disk.capacityBlocks (DiskBoot.stagingSize config) = .ok t)
    {i : ℕ}
    {e : ExecEntry} (he : t.entries[i]? = some e) :
    e.Fits disk.capacityBlocks (DiskBoot.stagingSize config) ∧ 0 < e.byteLen.toNat ∧
      e.byteLen.toNat ≤ config.staging.size.toNat := by
  obtain ⟨-, -, hall⟩ := fits_of_parseExecTable haccepted
  have hfits := hall e (List.mem_of_getElem? he)
  obtain ⟨hne, -, -, hle⟩ := staging_contains_entry hvalid hfits
  have hbelow := hvalid.below
  have hblock := hvalid.block
  rw [UInt32.toNat_ofNat_of_lt' (show _ < 2 ^ 32 by unfold blockSize at hblock; omega)] at hle
  exact ⟨hfits, Nat.pos_of_ne_zero hne, by omega⟩

lemma toNat_firstRead {len : UInt32} (hpos : 0 < len.toNat) :
    0 < (min len elfHeaderBytes).toNat ∧ (min len elfHeaderBytes).toNat ≤ len.toNat := by
  show 0 < (if len ≤ elfHeaderBytes then len else elfHeaderBytes).toNat ∧
    (if len ≤ elfHeaderBytes then len else elfHeaderBytes).toNat ≤ len.toNat
  have hheader : elfHeaderBytes.toNat = 52 := rfl
  split
  · exact ⟨hpos, Nat.le_refl _⟩
  · next hlt =>
    rw [UInt32.le_iff_toNat_le] at hlt
    omega

variable {t : ExecTable} {i : ℕ} {e : ExecEntry} {procs : Processes} {len : UInt32}
  {headers : Bytes}

/-- A file that does not parse is left out. -/
lemma staged_refused (he : t.entries[i]? = some e) {error : UserElfError}
    (hparse : parseUserElf32 headers e.byteLen disk.layout.imageRange = .error error)
    (hshort : ∀ needed, error ≠ .prefixTooShort needed) :
    (disk.loading t procs).staged config { table := some t, index := i } len headers =
      (disk.loading t procs).skipEntry { table := some t, index := i } 0 error.text := by
  have hentry : Cursor.entry { table := some t, index := i } = some e := he
  unfold Model.staged
  rw [show (disk.loading t procs).source = .disk disk from rfl]
  dsimp only
  rw [hentry]
  dsimp only
  rw [hparse]
  cases error with
  | prefixTooShort needed => exact absurd rfl (hshort needed)
  | _ => rfl

/-- The image of a file that parses is created, if it can be. -/
lemma staged_accepted (he : t.entries[i]? = some e) {image : UserImage}
    (hparse : parseUserElf32 headers e.byteLen disk.layout.imageRange = .ok image) :
    (disk.loading t procs).staged config { table := some t, index := i } len headers =
      if MegapageConflict image config then
        (disk.loading t procs).skipEntry { table := some t, index := i } image.entry
          "a segment is in a megapage slot"
      else do
        match ← (disk.loading t procs).reserveSpace config (i + 1)
          (Model.stagedImage config e image) with
        | none =>
          (disk.loading t procs).skipEntry { table := some t, index := i } image.entry
            "frame pool exhausted"
        | some (space, m) =>
          return { model := m, notes := []
                   next := .new (.load { table := some t, index := i } headers image space) } := by
  have hentry : Cursor.entry { table := some t, index := i } = some e := he
  unfold Model.staged
  rw [show (disk.loading t procs).source = .disk disk from rfl]
  dsimp only
  rw [hentry]
  dsimp only
  rw [hparse]
  rfl

variable (bus : BusMap config) (hvalid : disk.Valid config) {block : Bytes}
  (haccepted : parseExecTable block disk.capacityBlocks (DiskBoot.stagingSize config) = .ok t)

include hvalid haccepted

/-- An image in staging becomes a process, if it can; then the boot goes on. -/
lemma Execution.Leads.accepted {δ : Type} (device : Responder (Board δ)) (len : UInt32)
    (he : t.entries[i]? = some e) (hbooting : (disk.loading t procs).Booting config i none)
    {image : UserImage}
    (hparse : parseUserElf32 headers e.byteLen disk.layout.imageRange = .ok image) (w : Board δ) :
    let x := Site.boot config disk.layout { procs, memory := w.memory } (i + 1)
      (some (Model.stagedImage config e image))
    (disk.loading t x.procs).Booting config (i + 1) none ∧
      ∀ y, Leads config (bus.serve device) ((disk.loading t x.procs).nextLoad (some t) (i + 1))
          { w with memory := x.memory } y →
        Leads config (bus.serve device)
          ((disk.loading t procs).staged config { table := some t, index := i } len headers) w
            y := by
  obtain ⟨hlt, -⟩ := List.getElem?_eq_some_iff.mp he
  obtain ⟨hentryFits, -, -⟩ := fits_of_accepted hvalid haccepted he
  obtain ⟨hfits, hin⟩ := fits_stagedImage hvalid hentryFits hparse
  have hskip : (disk.loading t procs).Booting config (i + 1) none :=
    { hbooting with created := fun p hp => (hbooting.created p hp).trans (Nat.le_succ i) }
  rw [staged_accepted he hparse]
  unfold Site.boot
  dsimp only
  cases hplace : procs.place config disk.layout (Model.stagedImage config e image) with
  | none =>
    refine ⟨hskip, fun y hy => ?_⟩
    by_cases hconflict : MegapageConflict image config
    · rw [if_pos hconflict]
      exact hy.after _
    · rw [if_neg hconflict, Model.reserveSpace_eq hvalid.layout hfits _ hconflict]
      rw [show (disk.loading t procs).procs.place config (disk.loading t procs).source.layout
        (Model.stagedImage config e image) = none from hplace]
      exact hy.after _
  | some space =>
    obtain ⟨hconflict, -⟩ := Processes.place_eq_some hplace
    obtain ⟨notes, hadmitted, hnext⟩ :=
      Model.admitted_eq (m := disk.loading t procs) hvalid.layout hfits
      hbooting hlt hplace
    obtain ⟨hcreated, -⟩ := Model.reserved_booting (m := disk.loading t procs) hvalid.layout hfits
      hbooting hlt hplace
    obtain ⟨mapped, hsound⟩ := hcreated.sound hvalid.layout hfits hin
    refine ⟨hnext, fun y hy => ?_⟩
    obtain ⟨d, hd, hreaches⟩ := hy
    rw [if_neg (show ¬MegapageConflict image config from hconflict),
      Model.reserveSpace_eq hvalid.layout hfits _ hconflict]
    rw [show (disk.loading t procs).procs.place config (disk.loading t procs).source.layout
      (Model.stagedImage config e image) = some space from hplace]
    have hadvance (memory : ByteMap) :
      ((disk.loading t procs).reserved (i + 1) space).advance config
        (.building (.load { table := some t, index := i } headers image space) space memory
          space.accesses) =
        .ok { model := d.model, notes := notes ++ d.notes, next := some d.next } :=
      bind_eq_ok.mpr ⟨_, hadmitted, bind_eq_ok.mpr ⟨d, hd, rfl⟩⟩
    exact ⟨_, rfl,
      (Through.creation bus device rfl hsound hfits (hadvance _)).reaches.trans hreaches⟩

/-- An entry of the table is loaded, or left out; then the boot goes on. -/
lemma Execution.Leads.entry (contents : ByteMap) (services : ℕ → Service)
    (he : t.entries[i]? = some e)
    (hbooting : (disk.loading t procs).Booting config i none) (memory : ByteMap) {c : Controller}
    (hc : c.started = i + 1) :
    let s := services (i + 1)
    let x := Site.boot config disk.layout
      { procs
        memory :=
          s.transferred contents e.startLba (UInt32.ofNat config.staging.base.toNat) e.blocks
          memory }
      (i + 1) (disk.image config contents s.error e)
    (disk.loading t x.procs).Booting config (i + 1) none ∧
      ∀ y, Leads config (bus.serve (drive config contents services))
          ((disk.loading t x.procs).nextLoad (some t) (i + 1))
          { memory := x.memory, devices := c.served config { table := some t, index := i } s } y →
        Leads config (bus.serve (drive config contents services))
          ((disk.loading t procs).nextLoad (some t) i) { memory, devices := c } y := by
  obtain ⟨hlt, -⟩ := List.getElem?_eq_some_iff.mp he
  obtain ⟨s, hs⟩ : ∃ s, services (i + 1) = s := ⟨_, rfl⟩
  have hnext : (disk.loading t procs).nextLoad (some t) i =
      .ok { model := disk.loading t procs, notes := []
            next := .new (.command { table := some t, index := i }) } := if_pos hlt
  have hentry : Cursor.entry { table := some t, index := i } = some e := he
  have htransfer : Cursor.transfer { table := some t, index := i } = (e.startLba, e.blocks) := by
    unfold Cursor.transfer
    rw [hentry]
  have hskip : (disk.loading t procs).Booting config (i + 1) none :=
    { hbooting with created := fun p hp => (hbooting.created p hp).trans (Nat.le_succ i) }
  have hprogrammed {d : Decision ProcOp} (hacked : (disk.loading t procs).acked
      { table := some t, index := i } s.error = .ok d) :=
    Reaches.transfer contents services bus hvalid (w := { memory, devices := c })
      { table := some t, index := i } ((congrArg services hc).trans hs) hacked
  rw [htransfer] at hprogrammed
  dsimp only
  rw [hs]
  unfold DiskBoot.image
  by_cases herror : s.error = 0
  · rw [if_neg (not_not.mpr herror)]
    obtain ⟨-, hpos, hsize⟩ := fits_of_accepted hvalid haccepted he
    have hcover := (e.blocks_range).1
    have hfirst :
      Cursor.firstRead { table := some t, index := i } = min e.byteLen elfHeaderBytes := by
      unfold Cursor.firstRead
      rw [hentry]
    obtain ⟨hfirstPos, hfirstLe⟩ := toNat_firstRead hpos
    rw [Nat.mul_comm] at hcover
    have hfile := s.read_transferred hvalid herror contents e.startLba e.blocks hcover memory
    generalize s.transferred contents e.startLba (UInt32.ofNat config.staging.base.toNat) e.blocks
      memory = after at hprogrammed hfile
    obtain ⟨len', headers, hparse, hreaches⟩ := Reaches.headers bus (drive config contents services)
      (m := disk.loading t procs)
      (w := { memory := after, devices := c.served config { table := some t, index := i } s })
        hvalid rfl
      hentry hsize (hfirst ▸ hfirstPos) (hfirst ▸ hfirstLe)
    have hstaged {y : Execution (Board Controller)} (h : Leads config
        (bus.serve (drive config contents services))
        ((disk.loading t procs).staged config { table := some t, index := i } len' headers)
        { memory := after, devices := c.served config { table := some t, index := i } s } y) :
        Leads config (bus.serve (drive config contents services))
          ((disk.loading t procs).nextLoad (some t) i) { memory, devices := c } y :=
      ⟨_, hnext, (hprogrammed (if_pos herror)).trans (hreaches y h)⟩
    have hparse : parseUserElf32 headers e.byteLen disk.layout.imageRange =
        parseUserElf32 (fileOf contents e) e.byteLen disk.layout.imageRange :=
      hparse.trans (congrArg (fun file => parseUserElf32 file _ _) hfile)
    rw [← hparse]
    cases hresult : parseUserElf32 headers e.byteLen disk.layout.imageRange with
    | error error =>
      refine ⟨hskip, fun y hy => hstaged ?_⟩
      rw [staged_refused he hresult]
      · exact hy.after _
      · rintro needed rfl
        rw [hparse] at hresult
        obtain ⟨hmore, henough⟩ := parse_tooShort _ hresult
        unfold fileOf at hmore
        rw [ByteMap.length_read] at hmore
        omega
    | ok image =>
      obtain ⟨hnextBooting, hleads⟩ := Leads.accepted bus hvalid haccepted
        (drive config contents services) len' he hbooting hresult
        { memory := after, devices := c.served config { table := some t, index := i } s }
      exact ⟨hnextBooting, fun y hy => hstaged (hleads y hy)⟩
  · -- the transfer fails
    rw [if_pos herror]
    refine ⟨hskip, fun y hy => ?_⟩
    have hfailed : Leads config (bus.serve (drive config contents services))
        ((disk.loading t procs).acked { table := some t, index := i } s.error)
        { memory := s.transferred contents e.startLba
            (UInt32.ofNat config.staging.base.toNat) e.blocks
            memory
          devices := c.served config { table := some t, index := i } s } y := by
      unfold Model.acked
      rw [if_neg herror, if_neg nofun]
      exact hy.after _
    obtain ⟨d, hd, hreaches⟩ := hfailed
    exact ⟨_, hnext, (hprogrammed hd).trans hreaches⟩

/-- The entries from an index on are loaded, as far as they can be; then the head of the queue is
dispatched. -/
lemma Execution.Leads.entries (contents : ByteMap) (services : ℕ → Service) {rest : List ExecEntry}
    (hrest : t.entries.drop i = rest) (x : Site)
    (hbooting : (disk.loading t x.procs).Booting config i none) {c : Controller}
    (hc : c.started = i + 1) :
    let z := x.bootAll config disk.layout i (disk.steps config contents services i rest)
    (∃ upto, (disk.loading t z.procs).Booting config upto none) ∧
      ∃ c' : Controller, ∀ y, Leads config (bus.serve (drive config contents services))
          ((disk.loading t z.procs).dispatchNext 0) { memory := z.memory, devices := c' } y →
        Leads config (bus.serve (drive config contents services))
          ((disk.loading t x.procs).nextLoad (some t) i)
            { memory := x.memory, devices := c } y := by
  induction rest generalizing i x c with
  | nil =>
    refine ⟨⟨i, hbooting⟩, c, fun y hy => ?_⟩
    have hlast : (disk.loading t x.procs).nextLoad (some t) i =
        (disk.loading t x.procs).dispatchNext 0 :=
      if_neg (Nat.not_lt.mpr (List.drop_eq_nil_iff.mp hrest))
    rw [hlast]
    exact hy
  | cons e rest ih =>
    have he : t.entries[i]? = some e := by
      rw [← List.head?_drop, hrest]
      rfl
    have hnext : t.entries.drop (i + 1) = rest := by
      rw [← List.tail_drop, hrest]
      rfl
    obtain ⟨hnextBooting, hleads⟩ := Leads.entry bus hvalid haccepted contents services he hbooting
      x.memory hc
    obtain ⟨hlast, c', hrestLeads⟩ := ih hnext _ hnextBooting
      (c := c.served config { table := some t, index := i } (services (i + 1)))
      (congrArg (· + 1) hc)
    exact ⟨hlast, c', fun y hy => hleads y (hrestLeads y hy)⟩

end Entries

/-! ## The boot -/

section Boot

variable (hvalid : disk.Valid config) (bus : BusMap config) (contents : ByteMap)
  (services : ℕ → Service) (memory : ByteMap)

/-- The metadata while block 0 is read. -/
def DiskBoot.reading (config : KernelConfig) (disk : DiskBoot) : Model :=
  { source := .disk disk, entries := 0, procs := .new (framePool config), life := .up }

include hvalid

lemma DiskBoot.reading_booting : (disk.reading config).Booting config 0 none :=
  (Model.booting_of_awaitBoot (m := .new (.disk disk) (.new (framePool config))) rfl
    (numbered_of_valid hvalid.layout)).2

/-- Without a table, the boot ends with a shutdown. -/
lemma Execution.Leads.refused {δ : Type} (device : Responder (Board δ)) (w : Board δ)
    (detail : String) :
    ∃ w', Leads config (bus.serve device) (.ok ((disk.reading config).fail detail)) w
        { model := { disk.reading config with life := .down }, op := none, world := w' } ∧
      (Processes.new (framePool config)).Starts
        (w'.memory.read config.trapFrame.toNat frameBytes) :=
  ⟨_, ⟨_, rfl, Reaches.shutdown bus device hvalid.layout.valid 1⟩,
    frame_shutdownMemory config w.memory 1⟩

/-- With a table, its entries are loaded, and the head of the queue is dispatched. -/
lemma Execution.Leads.tabled {t : ExecTable}
    (haccepted : parseExecTable (contents.read 0 blockSize) disk.capacityBlocks
      (DiskBoot.stagingSize config) = .ok t) {c : Controller} (hc : c.started = 1) :
    let procs := Processes.bootAll config disk.layout 0
      (disk.images config contents (fun i => (services i).error) 0 t.entries)
        (.new (framePool config))
    ∃ w', Leads config (bus.serve (drive config contents services))
        ((disk.loading t (.new (framePool config))).nextLoad (some t) 0) { memory, devices := c }
        { model :=
            { source := .disk disk, entries := t.entries.length, procs := procs.dispatchFirst
              life := if procs.queue = [] then .down else .up }
          op := none, world := w' } ∧
      procs.Starts (w'.memory.read config.trapFrame.toNat frameBytes) := by
  have hstart := DiskBoot.reading_booting hvalid
  have hbooting : (disk.loading t (.new (framePool config))).Booting config 0 none :=
    { hstart with procs := hstart.procs.mono (Nat.zero_le _) }
  obtain ⟨⟨upto, hlast⟩, c', hleads⟩ := Leads.entries bus hvalid haccepted contents services
    List.drop_zero { procs := .new (framePool config), memory } hbooting hc
  have hprocs :=
    Site.procs_bootAll config disk.layout { procs := .new (framePool config), memory } 0
    (disk.steps config contents services 0 t.entries)
  rw [DiskBoot.map_steps] at hprocs
  generalize Site.bootAll config disk.layout 0 (disk.steps config contents services 0 t.entries)
    { procs := .new (framePool config), memory } = z at hleads hlast hprocs
  obtain ⟨hpos, -⟩ := fits_of_parseExecTable haccepted
  have hqueue := Processes.queue_bootAll config disk.layout 0
    (disk.images config contents (fun i => (services i).error) 0 t.entries)
    (show (Processes.new (framePool config)).queue =
      (Processes.new (framePool config)).pcbs.map Pcb.pid from rfl)
  obtain ⟨procs, memory'⟩ := z
  dsimp only at hprocs
  subst hprocs
  obtain ⟨hfinished, hstarts⟩ := Leads.finished bus (drive config contents services)
    hvalid.layout.valid hlast hqueue hpos { memory := memory', devices := c' }
  exact ⟨_, hleads _ hfinished, hstarts⟩

omit hvalid in
lemma DiskBoot.staged_block (config : KernelConfig) (disk : DiskBoot) (contents : ByteMap) :
    (disk.reading config).staged config .first Cursor.first.firstRead (contents.read 0 blockSize) =
      match parseExecTable (contents.read 0 blockSize) disk.capacityBlocks
          (DiskBoot.stagingSize config) with
      | .error e => .ok ((disk.reading config).fail ("invalid executable table: " ++ e.text))
      | .ok t => do
        return Model.after [bootNote t.entries.length]
          (← (disk.loading t (.new (framePool config))).nextLoad (some t) 0) := by
  have hlength := ByteMap.length_read contents 0 blockSize
  generalize contents.read 0 blockSize = data at hlength
  exact if_neg (not_not.mpr hlength)

lemma Execution.Leads.block {δ : Type} (device : Responder (Board δ)) (w : Board δ) {block : Bytes}
    (hblock : w.memory.read config.staging.base.toNat blockSize = block) {y : Execution (Board δ)}
    (hy : Leads config (bus.serve device)
      ((disk.reading config).staged config .first Cursor.first.firstRead block) w y) :
    Leads config (bus.serve device) ((disk.reading config).acked .first 0) w y := by
  obtain ⟨d, hd, hreaches⟩ := hy
  have hlen : Cursor.first.firstRead.toNat = blockSize := by decide
  have hpos : 0 < Cursor.first.firstRead.toNat := by decide
  have hsize : Cursor.first.firstRead.toNat ≤ config.staging.size.toNat := hlen ▸ hvalid.block
  have hdata : w.memory.read config.staging.base.toNat Cursor.first.firstRead.toNat = block :=
    (congrArg _ hlen).trans hblock
  have hstaged : (disk.reading config).staged config .first Cursor.first.firstRead
      (w.memory.read config.staging.base.toNat Cursor.first.firstRead.toNat) = .ok d :=
    (congrArg _ hdata).trans hd
  exact ⟨_, if_pos rfl,
    (Reaches.staged bus device hvalid.layout.valid .first hpos hsize hstaged).trans hreaches⟩

/-- Once block 0 is read, the boot is decided by the table in it. -/
lemma Execution.Leads.decided (herror : (services 0).error = 0) {c : Controller}
    (hc : c.started = 1) :
    let errors (i : ℕ) : UInt8 := (services i).error
    ∃ w, Leads config (bus.serve (drive config contents services))
        ((disk.reading config).staged config .first Cursor.first.firstRead
          (contents.read 0 blockSize))
        { memory, devices := c }
        { model := disk.booted config contents errors, op := none, world := w } ∧
      (disk.processes config contents errors).Starts
        (w.memory.read config.trapFrame.toNat frameBytes) := by
  have htable : disk.table config contents (fun i => (services i).error) =
      (parseExecTable (contents.read 0 blockSize) disk.capacityBlocks
        (DiskBoot.stagingSize config)).toOption := if_neg (not_not.mpr herror)
  dsimp only
  rw [disk.staged_block config contents]
  unfold DiskBoot.booted DiskBoot.processes
  rw [htable]
  cases hparse : parseExecTable (contents.read 0 blockSize) disk.capacityBlocks
    (DiskBoot.stagingSize config) with
  | error e =>
    exact Leads.refused hvalid bus (drive config contents services) { memory, devices := c }
      ("invalid executable table: " ++ e.text)
  | ok t =>
    obtain ⟨w, htabled, hstarts⟩ := Leads.tabled hvalid bus contents services memory hparse hc
    exact ⟨w, htabled.after _, hstarts⟩

/-- If block 0 cannot be read, there is no table. -/
lemma Execution.Leads.unread (herror : (services 0).error ≠ 0) (w : Board Controller) :
    let errors (i : ℕ) : UInt8 := (services i).error
    ∃ w', Leads config (bus.serve (drive config contents services))
        ((disk.reading config).acked .first (services 0).error) w
        { model := disk.booted config contents errors, op := none, world := w' } ∧
      (disk.processes config contents errors).Starts
        (w'.memory.read config.trapFrame.toNat frameBytes) := by
  have hnone : disk.table config contents (fun i => (services i).error) = none := if_pos herror
  dsimp only
  unfold DiskBoot.booted DiskBoot.processes Model.acked
  rw [hnone, if_neg herror, if_pos (show Cursor.first.table = none from rfl)]
  exact Leads.refused hvalid bus (drive config contents services) w
    s!"block controller error {(services 0).error} reading the executable table"

end Boot

/-- The boot from disk computes a fold over the table: whatever is on the disk, however each
transfer ends and however often it is polled before that. -/
theorem disk_boot (hvalidate : disk.validate config = .ok ()) (bus : BusMap config)
    (contents : ByteMap)
    (services : ℕ → Service) (memory : ByteMap) :
    let errors (i : ℕ) : UInt8 := (services i).error
    ∃ w, Leads config (bus.serve (drive config contents services))
        ((Model.new (.disk disk) (.new (framePool config))).start config config.trapFrame)
        { memory, devices := .new }
        { model := disk.booted config contents errors, op := none, world := w } ∧
      (disk.processes config contents errors).Starts
        (w.memory.read config.trapFrame.toNat frameBytes) := by
  have hvalid := DiskBoot.valid_of_validate hvalidate
  obtain ⟨s, hs⟩ : ∃ s, services 0 = s := ⟨_, rfl⟩
  have hstart : (Model.new (.disk disk) (.new (framePool config))).start config config.trapFrame =
      .ok { model := disk.reading config, notes := [], next := .new (.command .first) } :=
    if_neg fun h => h rfl
  have hprogrammed {y : Execution (Board Controller)} (hy : Leads config
      (bus.serve (drive config contents services)) ((disk.reading config).acked .first s.error)
      { memory := s.transferred contents 0 (UInt32.ofNat config.staging.base.toNat) 1 memory
        devices := Controller.new.served config .first s } y) :
      Leads config (bus.serve (drive config contents services))
        ((Model.new (.disk disk) (.new (framePool config))).start config config.trapFrame)
        { memory, devices := .new } y := by
    obtain ⟨d, hd, hreaches⟩ := hy
    exact ⟨_, hstart,
      (Reaches.transfer contents services bus hvalid (w := { memory, devices := .new })
      .first hs hd).trans hreaches⟩
  dsimp only
  by_cases herror : s.error = 0
  · have hsize : blockSize ≤ blockSize * (1 : UInt32).toNat := Nat.le_refl _
    have hblock := s.read_transferred hvalid herror contents 0 1 hsize memory
    rw [UInt32.toNat_zero, Nat.mul_zero] at hblock
    generalize s.transferred contents 0 (UInt32.ofNat config.staging.base.toNat) 1 memory = memory'
      at hprogrammed hblock
    obtain ⟨w, hdecided, hstarts⟩ := Leads.decided hvalid bus contents services memory'
      ((congrArg Service.error hs).trans herror) (c := Controller.new.served config .first s) rfl
    refine ⟨w, hprogrammed ?_, hstarts⟩
    rw [herror]
    exact Leads.block hvalid bus (drive config contents services)
      { memory := memory', devices := Controller.new.served config .first s } hblock hdecided
  · -- block 0 cannot be read
    obtain ⟨w, hunread, hstarts⟩ := Leads.unread hvalid bus contents services
      ((congrArg Service.error hs).trans_ne herror)
      { memory := s.transferred contents 0 (UInt32.ofNat config.staging.base.toNat) 1 memory
        devices := Controller.new.served config .first s }
    rw [hs] at hunread
    exact ⟨w, hprogrammed hunread, hstarts⟩

/-- A disk whose table lists the small executable. -/
def smallBytes : ByteMap := fun addr =>
  if addr < 512 then
    ([(0, 0x53), (1, 0x53), (2, 0x58), (3, 0x30), (8, 1), (16, 1), (20, 84)].lookup addr).getD 0
  else smallElf.getD (addr - 512) 0

/-- A bus with devices below the RAM. -/
def oddBus : BusMap oddConfig where
  devices := smallBus.devices
  ram := smallBus.ram
  uart := smallBus.uart
  blk := smallBus.blk

/-- Transfers that succeed at the third poll. -/
def thirdPoll : Service where
  pending := [0, 0]
  status := 2
  residue := fun _ => 0
  busy := by simp
  done := by decide

theorem disk_boot_small :
    let errors (_ : ℕ) : UInt8 := thirdPoll.error
    (smallDisk.processes oddConfig smallBytes errors).pcbs.map Pcb.pid = [1] ∧
    ∃ w, Leads oddConfig (oddBus.serve (drive oddConfig smallBytes fun _ => thirdPoll))
        ((Model.new (.disk smallDisk) (.new (framePool oddConfig))).start oddConfig
          oddConfig.trapFrame)
        { memory := fun _ => 0, devices := .new }
        { model := smallDisk.booted oddConfig smallBytes errors, op := none, world := w } ∧
      (smallDisk.processes oddConfig smallBytes errors).Starts
        (w.memory.read oddConfig.trapFrame.toNat frameBytes) :=
  ⟨by decide +kernel,
    disk_boot (by decide +kernel) oddBus smallBytes (fun _ => thirdPoll) fun _ => 0⟩

end SystemScope.Os
