import Mathlib.Data.List.GetD
import SystemScope.Platform.RamHistories
import SystemScope.Rv32i.Meaning
import SystemScope.Rv32i.Simulation

/-!
# Loads read what was last written

The memory path of a load or store: `prepareMemory`, a sparse RAM, `completeMemory`.  After any
history of accesses, of any widths, each byte of the RAM is the one last written there
(`byteOf_serveAll`), so a load writes to `rd` the number of its bytes as last written, extended as
its opcode says (`loads_read_last_written`).  A misaligned access issues no request, and a response
that does not fit retires nothing.
-/

namespace SystemScope.Rv32i

open Platform

/-! ## The value of bytes -/

/-- The number of bytes, the lowest first. -/
def littleEndian : List ℕ → ℕ
  | [] => 0
  | b :: bs => b + 2 ^ 8 * littleEndian bs

/-- What a load makes of its bytes: their number, or the word with that two's-complement value. -/
def LoadOp.value (op : LoadOp) (bytes : List ℕ) : ℕ :=
  let v := littleEndian bytes
  let bits := 8 * op.shape.1
  if op.shape.2 = true ∧ 2 ^ (bits - 1) ≤ v then wrap (v - 2 ^ bits) else v

lemma toNat_u16OfBytes (b0 b1 : UInt8) :
    (u16OfBytes b0 b1).toNat = b0.toNat + 2 ^ 8 * b1.toNat := by
  have h0 := b0.toNat_lt
  have h1 := b1.toNat_lt
  unfold u16OfBytes
  rw [UInt16.toNat_or, UInt16.toNat_shiftLeft, UInt8.toNat_toUInt16, UInt8.toNat_toUInt16]
  change b0.toNat ||| b1.toNat <<< 8 % 2 ^ 16 = _
  rw [Nat.shiftLeft_eq, Nat.mod_eq_of_lt (by omega), Nat.or_comm, mul_comm,
    ← Nat.two_pow_add_eq_or_of_lt h0,
    Nat.add_comm]

lemma toNat_u32OfBytes (b0 b1 b2 b3 : UInt8) :
    (u32OfBytes b0 b1 b2 b3).toNat = littleEndian [b0.toNat, b1.toNat, b2.toNat, b3.toNat] := by
  have h0 := b0.toNat_lt
  have h1 := b1.toNat_lt
  have h2 := b2.toNat_lt
  have h3 := b3.toNat_lt
  have hplaced (b : UInt8) {n : ℕ} (hn : n ≤ 24) :
      (b.toUInt32 <<< UInt32.ofNat n).toNat = 2 ^ n * b.toNat := by
    have hb := b.toNat_lt
    have hpow : 2 ^ n ≤ 2 ^ 24 := Nat.pow_le_pow_right (by omega) hn
    have hlt : b.toNat * 2 ^ n < 2 ^ 32 :=
      calc b.toNat * 2 ^ n < 2 ^ 8 * 2 ^ 24 :=
        Nat.mul_lt_mul_of_lt_of_le hb hpow (Nat.two_pow_pos 24)
        _ = 2 ^ 32 := by norm_num
    rw [UInt32.toNat_shiftLeft_ofNat _ (by omega), UInt8.toNat_toUInt32, Nat.mod_eq_of_lt hlt,
      mul_comm]
  have hb1 : (b1.toUInt32 <<< 8).toNat = 2 ^ 8 * b1.toNat := @hplaced b1 8 (by omega)
  have hb2 : (b2.toUInt32 <<< 16).toNat = 2 ^ 16 * b2.toNat := @hplaced b2 16 (by omega)
  have hb3 : (b3.toUInt32 <<< 24).toNat = 2 ^ 24 * b3.toNat := @hplaced b3 24 (by omega)
  have hb0 : b0.toUInt32.toNat = b0.toNat := UInt8.toNat_toUInt32 b0
  have h01 := @UInt32.toNat_or_eq_add (b1.toUInt32 <<< 8) b0.toUInt32 8 (by omega) (by omega)
  have h012 := @UInt32.toNat_or_eq_add (b2.toUInt32 <<< 16) (b1.toUInt32 <<< 8 ||| b0.toUInt32) 16
    (by omega) (by omega)
  have h0123 := @UInt32.toNat_or_eq_add (b3.toUInt32 <<< 24)
    (b2.toUInt32 <<< 16 ||| (b1.toUInt32 <<< 8 ||| b0.toUInt32)) 24 (by omega) (by omega)
  unfold u32OfBytes
  rw [UInt32.or_comm _ (b3.toUInt32 <<< 24), UInt32.or_comm _ (b2.toUInt32 <<< 16),
    UInt32.or_comm _ (b1.toUInt32 <<< 8), h0123, h012, h01, hb0, hb1, hb2, hb3]
  simp only [littleEndian]
  omega

lemma loadValue_eq (op : LoadOp) {data : Bytes} (hlen : data.length = op.shape.1) :
    ∃ value, loadValue (loadShape op).1 (loadShape op).2 data = some value ∧
      value.toNat = op.value (data.map UInt8.toNat) := by
  have hsigned {s : ℤ} {v bits : ℕ} (hs : s = if v < 2 ^ (bits - 1) then (v : ℤ) else v - 2 ^ bits)
      (hv : v < 2 ^ 32) : wrap s = if true = true ∧ 2 ^ (bits - 1) ≤ v then
        wrap (v - 2 ^ bits) else v := by
    rw [hs]
    by_cases h : v < 2 ^ (bits - 1)
    · rw [if_pos h, if_neg (fun hc => absurd hc.2 (not_le.mpr h))]
      unfold wrap
      omega
    · rw [if_neg h, if_pos ⟨rfl, not_lt.mp h⟩]
  cases op with
  | b =>
    obtain ⟨b0, rfl⟩ := List.length_eq_one_iff.mp hlen
    refine ⟨_, rfl, ?_⟩
    have hb := b0.toNat_lt
    rw [toNat_imm, Int8.toInt_toInt32]
    exact @hsigned _ b0.toNat 8 (UInt8.toInt_toInt8 b0) (by omega)
  | bu =>
    obtain ⟨b0, rfl⟩ := List.length_eq_one_iff.mp hlen
    exact ⟨_, rfl, UInt8.toNat_toUInt32 b0⟩
  | h =>
    obtain ⟨b0, b1, rfl⟩ := List.length_eq_two.mp hlen
    refine ⟨_, rfl, ?_⟩
    have hb := (u16OfBytes b0 b1).toNat_lt
    have hvalue :=
      @hsigned _ (u16OfBytes b0 b1).toNat 16 (UInt16.toInt_toInt16 (u16OfBytes b0 b1)) (by omega)
    rw [toNat_imm, Int16.toInt_toInt32, hvalue, toNat_u16OfBytes]
    rfl
  | hu =>
    obtain ⟨b0, b1, rfl⟩ := List.length_eq_two.mp hlen
    exact ⟨_, rfl, (UInt16.toNat_toUInt32 _).trans (toNat_u16OfBytes b0 b1)⟩
  | w =>
    obtain ⟨b0, b1, b2, b3, rfl⟩ := List.length_eq_four.mp hlen
    refine ⟨_, rfl, ?_⟩
    have hb := (u32OfBytes b0 b1 b2 b3).toNat_lt
    have hwrap : (u32OfBytes b0 b1 b2 b3).toNat = wrap (signed (u32OfBytes b0 b1 b2 b3).toNat) := by
      unfold wrap signed
      split_ifs <;> omega
    have hvalue := @hsigned _ (u32OfBytes b0 b1 b2 b3).toNat 32 rfl hb
    rw [hwrap]
    refine hvalue.trans ?_
    rw [toNat_u32OfBytes]
    rfl

/-! ## Accesses served by a RAM -/

/-- An instruction with what its sources held, and the number its request carries. -/
structure MemoryAccess where
  instr : Instr
  pc : UInt32
  rs1 : UInt32
  rs2 : UInt32
  txn : TxnId

/-- The `mem.v1` messages among calls. -/
def memoryMessages (calls : List Call) : List MemV1.MemMsg :=
  calls.filterMap fun
    | .sent _ (.memV1 msg) _ _ => some msg
    | _ => none

variable {config : RamConfig}

/-- What an access led to: the requests it issued, what its responses completed to, and the RAM
after it. -/
structure Served (config : RamConfig) where
  requests : List MemV1.MemMsg
  outcomes : List (Except MemoryCompletionError ExecOutcome)
  ram : Platform.Ram config

/-- An access prepared, served by the RAM and completed. -/
def MemoryAccess.serve (env : Surroundings) (a : MemoryAccess) (ram : Platform.Ram config) :
    Served config :=
  match prepareMemory a.instr a.pc a.rs1 a.rs2 with
  | none => ⟨[], [], ram⟩
  | some (.trap trap) => ⟨[], [.ok (.trap trap)], ram⟩
  | some (.request plan) =>
    let request := Rv32iCpu.planRequest plan (planAddr plan).toUInt64 a.txn
    let served := (ram.handleEvent (.message 0 (.memV1 request))).perform env
    ⟨[request], (memoryMessages served.1).map (completeMemory plan), served.2.2⟩

/-- The RAM after a sequence of accesses. -/
def serveAll (env : Surroundings) (ram : Platform.Ram config) (history : List MemoryAccess) :
    Platform.Ram config :=
  history.foldl (fun ram a => (a.serve env ram).ram) ram

/-! ## The bytes as they were last written -/

/-- The bytes that an access stores and where, unless it is misaligned or reaches past the end. -/
def MemoryAccess.stored (size : ℕ) (a : MemoryAccess) : Option (ℕ × List ℕ) :=
  match a.instr with
  | .store op _ _ offset =>
    let addr := wrap (a.rs1.toNat + offset.toInt)
    if addr % op.width = 0 ∧ addr + op.width ≤ size then some (addr, lowBytes a.rs2.toNat op.width)
    else none
  | _ => none

/-- The byte at `i` after stores, the newest first: that of the newest that covers it, else the one
that was there before them. -/
def lastWritten (initial : ℕ → ℕ) : List (ℕ × List ℕ) → ℕ → ℕ
  | [], i => initial i
  | (addr, data) :: older, i =>
    if addr ≤ i ∧ i < addr + data.length then data.getD (i - addr) 0
      else lastWritten initial older i

/-- The byte at `i` of a RAM. -/
def byteOf (ram : Platform.Ram config) (i : ℕ) : ℕ := (Platform.Ram.byte ram.pages i).toNat

/-- The byte at `i` after a sequence of accesses to a RAM. -/
def byteAfter (ram : Platform.Ram config) (history : List MemoryAccess) (i : ℕ) : ℕ :=
  lastWritten (byteOf ram) (history.filterMap (MemoryAccess.stored config.size.toNat)).reverse i

variable {ram : Platform.Ram config} {a : MemoryAccess} (env : Surroundings)

/-! ## One access -/

/-- An access that the RAM answers as an array does. -/
lemma serve_request (hsize : config.size.toNat ≤ 2 ^ 32) (hsound : ram.Sound) {plan : MemoryPlan}
    (hprepare : prepareMemory a.instr a.pc a.rs1 a.rs2 = some (.request plan)) {resp : MemV1.MemMsg}
    {m : FlatMemory config.size.toNat}
    (hrespond : ram.contents.respond (Rv32iCpu.planRequest plan (planAddr plan).toUInt64 a.txn) =
      some (resp, m)) :
    ∃ ram' : Platform.Ram config, ram'.Sound ∧ ram'.contents = m ∧
      a.serve env ram =
        ⟨[Rv32iCpu.planRequest plan (planAddr plan).toUInt64 a.txn],
          [completeMemory plan resp], ram'⟩ := by
  obtain ⟨ram', hsound', -, hm, heq⟩ :=
    @Platform.Ram.handleEvent_of_respond _ _ hsize hsound 0 _ _ _ hrespond
  refine ⟨ram', hsound', hm, ?_⟩
  unfold MemoryAccess.serve
  rw [hprepare]
  dsimp only
  rw [heq]
  rfl

lemma serve_trap {trap : PendingTrap}
    (hprepare : prepareMemory a.instr a.pc a.rs1 a.rs2 = some (.trap trap)) :
    a.serve env ram = ⟨[], [.ok (.trap trap)], ram⟩ := by
  unfold MemoryAccess.serve
  rw [hprepare]

/-- The bytes of an array, by number. -/
lemma read_eq_map {size offset len : ℕ} (m : FlatMemory size) (byte : ℕ → ℕ)
    (hbyte : ∀ i (h : i < size), (m ⟨i, h⟩).toNat = byte i) (h : offset + len ≤ size) :
    (m.read offset len h).map UInt8.toNat = (List.range len).map fun k => byte (offset + k) := by
  unfold FlatMemory.read
  refine List.ext_getElem (by simp) fun k hk hk' => ?_
  rw [List.getElem_map, List.getElem_ofFn, List.getElem_map, List.getElem_range]
  exact hbyte _ _

section

variable {op : LoadOp} {rd r : Reg} {offset : Int32} {addr : UInt32}

/-- The plan of a load. -/
def loadPlan (op : LoadOp) (rd : Reg) (addr pc : UInt32) : LoadPlan :=
  { rd, addr, width := (loadShape op).1, extension := (loadShape op).2, nextPc := pc + 4 }

lemma width_loadShape (op : LoadOp) : (loadShape op).1.bytes.toNat = op.shape.1 := by
  cases op <;> rfl

variable (hinstr : a.instr = .load op rd r offset) (haddr : addr = a.rs1 + offset.toUInt32)

include hinstr haddr

lemma serve_load_misaligned (hmis : addr.toNat % op.shape.1 ≠ 0) :
    a.serve env ram =
      ⟨[], [.ok (.trap { cause := .loadAddressMisaligned, tval := addr })], ram⟩ := by
  rw [← width_loadShape] at hmis
  refine serve_trap env ?_
  rw [hinstr, haddr]
  exact congrArg some (align_meaning.2 (haddr ▸ hmis))

lemma prepare_load (halign : addr.toNat % op.shape.1 = 0) :
    prepareMemory a.instr a.pc a.rs1 a.rs2 =
      some (.request (.load (loadPlan op rd addr a.pc))) := by
  rw [← width_loadShape] at halign
  rw [hinstr, haddr]
  exact congrArg some (align_meaning.1 (haddr ▸ halign))

variable (hsize : config.size.toNat ≤ 2 ^ 32) (hsound : ram.Sound)
  (halign : addr.toNat % op.shape.1 = 0)

include hsize hsound halign

lemma serve_load (hend : addr.toNat + op.shape.1 ≤ config.size.toNat) :
    ∃ (ram' : Platform.Ram config) (value : UInt32), ram'.Sound ∧ ram'.contents = ram.contents ∧
      value.toNat = op.value ((ram.contents.read addr.toNat op.shape.1 hend).map UInt8.toNat) ∧
      a.serve env ram = ⟨[.readReq a.txn addr.toUInt64 (loadShape op).1.bytes],
        [.ok (.effect { regWrite := some { rd, value }, nextPc := a.pc + 4 })], ram'⟩ := by
  have hpos : (loadShape op).1.bytes.toNat ≠ 0 := by cases op <;> decide
  have hrespond : ram.contents.respond (.readReq a.txn addr.toUInt64 (loadShape op).1.bytes) =
      some (.readResp a.txn (.data (ram.contents.read addr.toNat op.shape.1 hend)),
        ram.contents) := by
    unfold FlatMemory.respond
    simp only [UInt32.toNat_toUInt64, width_loadShape]
    rw [width_loadShape] at hpos
    rw [if_neg hpos, dif_pos hend]
  obtain ⟨ram', hsound', hm, hserve⟩ :=
    serve_request env hsize hsound (prepare_load hinstr haddr halign) hrespond
  have hlen : (ram.contents.read addr.toNat op.shape.1 hend).length = op.shape.1 := by
    simp [FlatMemory.read]
  obtain ⟨value, hvalue, hnat⟩ := loadValue_eq op hlen
  refine ⟨ram', value, hsound', hm, hnat, ?_⟩
  rw [hserve]
  unfold completeMemory completeLoad
  simp only [loadPlan, hvalue]
  rfl

/-- A load that reaches past the end traps. -/
lemma serve_load_fault (hend : config.size.toNat < addr.toNat + op.shape.1) :
    ∃ ram' : Platform.Ram config, ram'.Sound ∧ ram'.contents = ram.contents ∧
      a.serve env ram = ⟨[.readReq a.txn addr.toUInt64 (loadShape op).1.bytes],
        [.ok (.trap { cause := .loadAccessFault, tval := addr })], ram'⟩ := by
  have hpos : (loadShape op).1.bytes.toNat ≠ 0 := by cases op <;> decide
  have hrespond : ram.contents.respond (.readReq a.txn addr.toUInt64 (loadShape op).1.bytes) =
      some (.readResp a.txn (.fault .accessFault), ram.contents) := by
    unfold FlatMemory.respond
    dsimp only
    rw [if_neg hpos, dif_neg (by rw [UInt32.toNat_toUInt64, width_loadShape]; omega)]
  obtain ⟨ram', hsound', hm, hserve⟩ :=
    serve_request env hsize hsound (prepare_load hinstr haddr halign) hrespond
  exact ⟨ram', hsound', hm, hserve⟩

end

section

variable {op : StoreOp} {r r' : Reg} {offset : Int32} {addr : UInt32}

lemma width_storeWidth (op : StoreOp) : (storeWidth op).bytes.toNat = op.width := by
  cases op <;> rfl

/-- The bytes a store writes. -/
def storeData (op : StoreOp) (value : UInt32) : Bytes :=
  (u32Bytes value).take (storeWidth op).bytes.toNat

lemma storeData_eq (op : StoreOp) (value : UInt32) :
    (storeData op value).map UInt8.toNat = lowBytes value.toNat op.width := by
  have hle : op.width ≤ 4 := by cases op <;> decide
  unfold storeData
  rw [List.map_take, u32Bytes_eq, width_storeWidth, lowBytes_take _ _ hle]

lemma length_storeData (op : StoreOp) (value : UInt32) :
    (storeData op value).length = op.width := by
  cases op <;> rfl

variable (hinstr : a.instr = .store op r r' offset) (haddr : addr = a.rs1 + offset.toUInt32)

include hinstr haddr

lemma serve_store_misaligned (hmis : addr.toNat % op.width ≠ 0) :
    a.serve env ram =
      ⟨[], [.ok (.trap { cause := .storeAddressMisaligned, tval := addr })], ram⟩ := by
  rw [← width_storeWidth] at hmis
  refine serve_trap env ?_
  rw [hinstr, haddr]
  exact congrArg some (align_meaning.2 (haddr ▸ hmis))

lemma prepare_store (halign : addr.toNat % op.width = 0) :
    prepareMemory a.instr a.pc a.rs1 a.rs2 =
      some (.request (.store { addr, data := storeData op a.rs2, nextPc := a.pc + 4 })) := by
  rw [← width_storeWidth] at halign
  rw [hinstr, haddr]
  exact congrArg some (align_meaning.1 (haddr ▸ halign))

variable (hsize : config.size.toNat ≤ 2 ^ 32) (hsound : ram.Sound)
  (halign : addr.toNat % op.width = 0)

include hsize hsound halign

/-- A store in range replaces its bytes. -/
lemma serve_store (hend : addr.toNat + op.width ≤ config.size.toNat) :
    ∃ ram' : Platform.Ram config, ram'.Sound ∧
      ram'.contents = ram.contents.write addr.toNat (storeData op a.rs2) ∧
      a.serve env ram = ⟨[.writeReq a.txn addr.toUInt64 (storeData op a.rs2)],
        [.ok (.effect { regWrite := none, nextPc := a.pc + 4 })], ram'⟩ := by
  have hpos : op.width ≠ 0 := by cases op <;> decide
  have hrespond : ram.contents.respond (.writeReq a.txn addr.toUInt64 (storeData op a.rs2)) =
      some (.writeResp a.txn .done, ram.contents.write addr.toNat (storeData op a.rs2)) := by
    unfold FlatMemory.respond
    dsimp only
    rw [UInt32.toNat_toUInt64, length_storeData, if_neg hpos, if_pos hend]
  obtain ⟨ram', hsound', hm, hserve⟩ :=
    serve_request env hsize hsound (prepare_store hinstr haddr halign) hrespond
  exact ⟨ram', hsound', hm, hserve⟩

/-- A store that reaches past the end traps, and replaces nothing. -/
lemma serve_store_fault (hend : config.size.toNat < addr.toNat + op.width) :
    ∃ ram' : Platform.Ram config, ram'.Sound ∧ ram'.contents = ram.contents ∧
      a.serve env ram = ⟨[.writeReq a.txn addr.toUInt64 (storeData op a.rs2)],
        [.ok (.trap { cause := .storeAccessFault, tval := addr })], ram'⟩ := by
  have hpos : op.width ≠ 0 := by cases op <;> decide
  have hrespond : ram.contents.respond (.writeReq a.txn addr.toUInt64 (storeData op a.rs2)) =
      some (.writeResp a.txn (.fault .accessFault), ram.contents) := by
    unfold FlatMemory.respond
    dsimp only
    rw [UInt32.toNat_toUInt64, length_storeData, if_neg hpos, if_neg (not_le.mpr hend)]
  obtain ⟨ram', hsound', hm, hserve⟩ :=
    serve_request env hsize hsound (prepare_store hinstr haddr halign) hrespond
  exact ⟨ram', hsound', hm, hserve⟩

end

/-! ## Any history -/

lemma byteOf_eq {i : ℕ} (h : i < config.size.toNat) :
    byteOf ram i = (ram.contents ⟨i, h⟩).toNat := rfl

lemma byteOf_congr {ram' : Platform.Ram config} (h : ram'.contents = ram.contents) {i : ℕ}
    (hi : i < config.size.toNat) : byteOf ram' i = byteOf ram i := by
  rw [byteOf_eq hi, byteOf_eq hi, h]

/-- What one access leaves of the bytes. -/
lemma byteOf_serve (hsize : config.size.toNat ≤ 2 ^ 32) (hsound : ram.Sound) (a : MemoryAccess) :
    (a.serve env ram).ram.Sound ∧ ∀ i < config.size.toNat,
      byteOf (a.serve env ram).ram i = lastWritten (byteOf ram)
        (a.stored config.size.toNat).toList i := by
  have hsame {requests : List MemV1.MemMsg}
    {outcomes : List (Except MemoryCompletionError ExecOutcome)}
      {ram' : Platform.Ram config} (hsound' : ram'.Sound) (hcontents : ram'.contents = ram.contents)
      (hserve : a.serve env ram = ⟨requests, outcomes, ram'⟩)
        (hnone : a.stored config.size.toNat = none) :
      (a.serve env ram).ram.Sound ∧ ∀ i < config.size.toNat,
        byteOf (a.serve env ram).ram i = lastWritten (byteOf ram)
          (a.stored config.size.toNat).toList i := by
    rw [hserve, hnone]
    exact ⟨hsound', fun i hi => byteOf_congr hcontents hi⟩
  cases hinstr : a.instr with
  | load op rd r offset =>
    have hnone : a.stored config.size.toNat = none := by
      unfold MemoryAccess.stored
      rw [hinstr]
    by_cases halign : (a.rs1 + offset.toUInt32).toNat % op.shape.1 = 0
    · by_cases hend : (a.rs1 + offset.toUInt32).toNat + op.shape.1 ≤ config.size.toNat
      · obtain ⟨ram', value, hsound', hcontents, -, hserve⟩ :=
          serve_load env hinstr rfl hsize hsound halign hend
        exact hsame hsound' hcontents hserve hnone
      · obtain ⟨ram', hsound', hcontents, hserve⟩ :=
          serve_load_fault env hinstr rfl hsize hsound halign (not_le.mp hend)
        exact hsame hsound' hcontents hserve hnone
    · exact hsame hsound rfl (serve_load_misaligned env hinstr rfl halign) hnone
  | store op r r' offset =>
    have hstored : a.stored config.size.toNat =
        if (a.rs1 + offset.toUInt32).toNat % op.width = 0 ∧
            (a.rs1 + offset.toUInt32).toNat + op.width ≤ config.size.toNat then
          some ((a.rs1 + offset.toUInt32).toNat, (storeData op a.rs2).map UInt8.toNat)
            else none := by
      unfold MemoryAccess.stored
      rw [hinstr, toNat_add_imm, storeData_eq]
    by_cases halign : (a.rs1 + offset.toUInt32).toNat % op.width = 0
    · by_cases hend : (a.rs1 + offset.toUInt32).toNat + op.width ≤ config.size.toNat
      · rw [if_pos ⟨halign, hend⟩] at hstored
        obtain ⟨ram', hsound', hcontents, hserve⟩ :=
          serve_store env hinstr rfl hsize hsound halign hend
        rw [hserve, hstored]
        refine ⟨hsound', fun i hi => ?_⟩
        rw [byteOf_eq hi, hcontents]
        have hdata : ((storeData op a.rs2).map UInt8.toNat).getD
          (i - (a.rs1 + offset.toUInt32).toNat) 0 =
            ((storeData op a.rs2).getD (i - (a.rs1 + offset.toUInt32).toNat) 0).toNat :=
          @List.getD_map _ _ _ 0 _ UInt8.toNat
        unfold FlatMemory.write Option.toList lastWritten lastWritten
        dsimp only
        rw [List.length_map, apply_ite UInt8.toNat, hdata]
        rfl
      · rw [if_neg (fun h => hend h.2)] at hstored
        obtain ⟨ram', hsound', hcontents, hserve⟩ :=
          serve_store_fault env hinstr rfl hsize hsound halign (not_le.mp hend)
        exact hsame hsound' hcontents hserve hstored
    · rw [if_neg (fun h => halign h.1)] at hstored
      exact hsame hsound rfl (serve_store_misaligned env hinstr rfl halign) hstored
  | _ =>
    refine @hsame [] [] ram hsound rfl ?_ ?_
    · unfold MemoryAccess.serve
      rw [hinstr]
      rfl
    · unfold MemoryAccess.stored
      rw [hinstr]

lemma lastWritten_append (initial : ℕ → ℕ) (stores older : List (ℕ × List ℕ)) (i : ℕ) :
    lastWritten initial (stores ++ older) i = lastWritten (lastWritten initial older) stores i := by
  induction stores with
  | nil => rfl
  | cons s rest ih =>
    simp only [List.cons_append, lastWritten]
    rw [ih]

/-- After any history the RAM holds, at each place, the byte last written there. -/
lemma byteOf_serveAll (hsize : config.size.toNat ≤ 2 ^ 32) (hsound : ram.Sound)
    (history : List MemoryAccess) : (serveAll env ram history).Sound ∧ ∀ i < config.size.toNat,
      byteOf (serveAll env ram history) i = byteAfter ram history i := by
  induction history using List.reverseRecOn with
  | nil => exact ⟨hsound, fun _ _ => rfl⟩
  | append_singleton history a ih =>
    obtain ⟨hsound', hbytes⟩ := ih
    obtain ⟨hsound'', hbyte⟩ := byteOf_serve env hsize hsound' a
    have hserve :
      serveAll env ram (history ++ [a]) = (a.serve env (serveAll env ram history)).ram := by
      unfold serveAll
      rw [List.foldl_append]
      rfl
    rw [hserve]
    refine ⟨hsound'', fun i hi => (hbyte i hi).trans ?_⟩
    have hstores : ((history ++ [a]).filterMap (MemoryAccess.stored config.size.toNat)).reverse =
        (a.stored config.size.toNat).toList ++
          (history.filterMap (MemoryAccess.stored config.size.toNat)).reverse := by
      rw [List.filterMap_append, List.reverse_append]
      cases hstored : a.stored config.size.toNat <;> simp [hstored]
    unfold byteAfter
    rw [hstores, lastWritten_append]
    cases a.stored config.size.toNat with
    | none => exact hbytes i hi
    | some s =>
      simp only [Option.toList_some, lastWritten]
      rw [hbytes i hi]
      rfl

/-! ## Responses -/

/-- A response that fits its plan: of its kind, and as long as what was asked for. -/
def ResponseFits : MemoryPlan → MemV1.MemMsg → Prop
  | .load plan, .readResp _ (.data data) => data.length = plan.width.bytes.toNat
  | .load _, .readResp _ (.fault _) => True
  | .store _, .writeResp _ _ => True
  | _, _ => False

lemma length_of_loadValue {width : MemWidth} {extension : LoadExtension} {data : Bytes}
    {value : UInt32}
    (h : loadValue width extension data = some value) : data.length = width.bytes.toNat := by
  unfold loadValue at h
  split at h <;> first | rfl | cases h

lemma completeMemory_ok_iff (plan : MemoryPlan) (resp : MemV1.MemMsg) :
    (∃ outcome, completeMemory plan resp = .ok outcome) ↔ ResponseFits plan resp := by
  cases plan with
  | load plan =>
    cases resp with
    | readResp txn outcome =>
      cases outcome with
      | fault f => exact iff_of_true ⟨_, rfl⟩ trivial
      | data data =>
        unfold completeMemory completeLoad ResponseFits
        dsimp only
        constructor
        · rintro ⟨outcome, h⟩
          split at h
          · rename_i hvalue
            exact length_of_loadValue hvalue
          · cases h
        · intro h
          obtain ⟨value, hvalue⟩ :=
            Option.isSome_iff_exists.mp (@isSome_loadValue _ plan.extension _ h)
          rw [hvalue]
          exact ⟨_, rfl⟩
    | _ => exact iff_of_false nofun id
  | store plan =>
    cases resp with
    | writeResp txn outcome => exact iff_of_true ⟨_, rfl⟩ trivial
    | _ => exact iff_of_false nofun id

lemma not_moves_of_not_fits {c c' : Rv32iCpu} {txn : TxnId} {insn : UInt32} {plan : MemoryPlan}
    {pa : Option UInt64} {p : PortId} {msg : MemV1.MemMsg} {phase : Phase} {calls : List Call}
    (hs : c.state = .memWait txn insn plan pa) (hfits : ¬ResponseFits plan msg) :
    ¬c.Moves phase (.message p (.memV1 msg)) calls c' := by
  intro h
  cases h with
  | answer hp ha =>
    cases ha with
    | loaded hs' hm =>
      rw [hs] at hs'
      cases hs'
      exact hfits ((completeMemory_ok_iff _ _).mp ⟨_, hm⟩)
    | stored hs' =>
      rw [hs] at hs'
      cases hs'
      exact hfits trivial
    | _ hs' =>
      rw [hs] at hs'
      cases hs'

/-! ## Coherence -/

/-- Through the memory path, after any history of accesses: an aligned load in range writes to `rd`
the value of its bytes as they were last written, and what does not fit retires nothing. -/
theorem loads_read_last_written [SnapshotData] (hstrict : SnapshotData.Strict) {image : RamImage}
    {ram₀ ram : Platform.Ram config} (hnew : Platform.Ram.new config image = .ok ram₀)
    (hreaches : Component.Reaches ram₀ ram) (history : List MemoryAccess) (a : MemoryAccess) :
    (∀ op rd r offset addr, a.instr = .load op rd r offset → addr = a.rs1 + offset.toUInt32 →
      (addr.toNat % op.shape.1 ≠ 0 →
        (a.serve env (serveAll env ram history)).requests = [] ∧
        (a.serve env (serveAll env ram history)).outcomes =
          [.ok (.trap { cause := .loadAddressMisaligned, tval := addr })]) ∧
      (addr.toNat % op.shape.1 = 0 → addr.toNat + op.shape.1 ≤ config.size.toNat → ∃ value,
        (a.serve env (serveAll env ram history)).outcomes =
          [.ok (.effect { regWrite := some { rd, value }, nextPc := a.pc + 4 })] ∧
        value.toNat = op.value
          ((List.range op.shape.1).map fun k => byteAfter ram history (addr.toNat + k))) ∧
      (addr.toNat % op.shape.1 = 0 → config.size.toNat < addr.toNat + op.shape.1 →
        (a.serve env (serveAll env ram history)).outcomes =
          [.ok (.trap { cause := .loadAccessFault, tval := addr })])) ∧
    (∀ op r r' offset addr, a.instr = .store op r r' offset → addr = a.rs1 + offset.toUInt32 →
      (addr.toNat % op.width ≠ 0 →
        (a.serve env (serveAll env ram history)).requests = [] ∧
        (a.serve env (serveAll env ram history)).outcomes =
          [.ok (.trap { cause := .storeAddressMisaligned, tval := addr })]) ∧
      (addr.toNat % op.width = 0 → addr.toNat + op.width ≤ config.size.toNat →
        (a.serve env (serveAll env ram history)).outcomes =
          [.ok (.effect { regWrite := none, nextPc := a.pc + 4 })]) ∧
      (addr.toNat % op.width = 0 → config.size.toNat < addr.toNat + op.width →
        (a.serve env (serveAll env ram history)).outcomes =
          [.ok (.trap { cause := .storeAccessFault, tval := addr })])) ∧
    ∀ plan msg, ¬ResponseFits plan msg →
      (∃ e, completeMemory plan msg = .error e) ∧
      ∀ (c c' : Rv32iCpu) txn insn pa p, c.state = .memWait txn insn plan pa →
        (c.handleEvent (.message p (.memV1 msg))).Ends c' →
        c' = c ∧ ∀ env, ((c.handleEvent (.message p (.memV1 msg))).perform env).2.1 ≠ .ok () := by
  have hsize : config.size.toNat ≤ 2 ^ 32 := (Platform.Ram.new_eq_ok hnew).1.le
  have hsound₀ : ram.Sound :=
    (Platform.Ram.sound_of_reaches hstrict hsize (Platform.Ram.contents_of_new hnew).1 hreaches).1
  obtain ⟨hsound, hbytes⟩ := byteOf_serveAll env hsize hsound₀ history
  refine ⟨?_, ?_, ?_⟩
  · intro op rd r offset addr hinstr haddr
    refine ⟨fun hmis => ?_, fun halign hend => ?_, fun halign hend => ?_⟩
    · rw [serve_load_misaligned env hinstr haddr hmis]
      exact ⟨rfl, rfl⟩
    · obtain ⟨ram', value, -, -, hvalue, hserve⟩ :=
        serve_load env hinstr haddr hsize hsound halign hend
      rw [hserve]
      refine ⟨value, rfl, hvalue.trans ?_⟩
      rw [read_eq_map _ (byteAfter ram history) fun i hi => (byteOf_eq hi).symm.trans (hbytes i hi)]
    · obtain ⟨ram', -, -, hserve⟩ :=
        serve_load_fault env hinstr haddr hsize hsound halign hend
      rw [hserve]
  · intro op r r' offset addr hinstr haddr
    refine ⟨fun hmis => ?_, fun halign hend => ?_, fun halign hend => ?_⟩
    · rw [serve_store_misaligned env hinstr haddr hmis]
      exact ⟨rfl, rfl⟩
    · obtain ⟨ram', -, -, hserve⟩ := serve_store env hinstr haddr hsize hsound halign hend
      rw [hserve]
    · obtain ⟨ram', -, -, hserve⟩ :=
        serve_store_fault env hinstr haddr hsize hsound halign hend
      rw [hserve]
  · intro plan msg hfits
    refine ⟨?_, fun c c' txn insn pa p hs hends => ⟨?_, fun env hok => ?_⟩⟩
    · cases hcomplete : completeMemory plan msg with
      | error e => exact ⟨e, rfl⟩
      | ok outcome => exact absurd ((completeMemory_ok_iff plan msg).mp ⟨outcome, hcomplete⟩) hfits
    · rcases Rv32iCpu.eq_or_moves_of_ends hends with h | ⟨phase, calls, hmoves⟩
      · exact h
      · exact absurd hmoves (not_moves_of_not_fits hs hfits)
    · obtain ⟨⟨calls, result, c''⟩, hperform⟩ :
          ∃ out, (c.handleEvent (.message p (.memV1 msg))).perform env = out := ⟨_, rfl⟩
      rw [hperform] at hok
      cases hok
      exact not_moves_of_not_fits hs hfits ((Rv32iCpu.perform_handleEvent_iff env).mp hperform)

/-- `LH` of two bytes that an `SH` and an `SB` after it wrote. -/
def mixedStores : List MemoryAccess :=
  [{ instr := .store .h .zero .zero 0, pc := 0, rs1 := 4096, rs2 := 0xBEEF, txn := 0 },
    { instr := .store .b .zero .zero 1, pc := 4, rs1 := 4096, rs2 := 0x80, txn := 1 }]

open Canonical in
theorem loads_read_last_written_mixed :
    ∃ ram : Platform.Ram Platform.Ram.partialConfig, ∀ env, ∃ value : UInt32,
    (MemoryAccess.serve env
      { instr := .load .h .zero .zero 0, pc := 8, rs1 := 4096, rs2 := 0, txn := 2 }
        (serveAll env ram mixedStores)).outcomes =
      [.ok (.effect { regWrite := some { rd := .zero, value }, nextPc := 12 })] ∧
        value.toNat = 0xFFFF80EF := by
  obtain ⟨ram, hnew⟩ :
      ∃ ram, Platform.Ram.new Platform.Ram.partialConfig Platform.Ram.straddlingImage = .ok ram :=
        ⟨_, rfl⟩
  refine ⟨ram, fun env => ?_⟩
  obtain ⟨hload, -, -⟩ := loads_read_last_written env snapshotData_strict hnew .refl mixedStores
    { instr := .load .h .zero .zero 0, pc := 8, rs1 := 4096, rs2 := 0, txn := 2 }
  obtain ⟨-, hvalue, -⟩ := hload .h .zero .zero 0 4096 rfl rfl
  obtain ⟨value, houtcome, hnat⟩ := hvalue (by decide) (by decide)
  have hstores :
    (mixedStores.filterMap (MemoryAccess.stored Platform.Ram.partialConfig.size.toNat)).reverse =
      [(4097, [0x80]), (4096, [0xEF, 0xBE])] := by decide +kernel
  have hfirst : byteAfter ram mixedStores 4096 = 0xEF := by
    unfold byteAfter
    rw [hstores]
    simp [lastWritten]
  have hsecond : byteAfter ram mixedStores 4097 = 0x80 := by
    unfold byteAfter
    rw [hstores]
    simp [lastWritten]
  refine ⟨value, houtcome, hnat.trans ?_⟩
  change LoadOp.h.value [byteAfter ram mixedStores 4096, byteAfter ram mixedStores 4097] = _
  rw [hfirst, hsecond]
  decide +kernel

end SystemScope.Rv32i
