import SystemScope.Os.Contents
import SystemScope.Rv32i.Sv32

/-!
# The CPU on the tables of the kernel

What the walker of `Rv32i/Sv32.lean` makes of the entries of `Os/Space.lean`, and its walk from a
root table in a memory.  The bits of an entry are those of its flags, and its page number is above
them (`Pte.entry_and`, `Pte.entry_shift`).
-/

namespace SystemScope.Os

open Elf Rv32i

namespace Pte

variable {ppn flags bit : UInt32}

/-- The flags of an entry are below its page number. -/
lemma toNat_entry (hppn : ppn.toNat < 2 ^ 22) (hflags : flags.toNat < 2 ^ 10) :
    (entry ppn flags).toNat = ppn.toNat * 2 ^ 10 + flags.toNat := by
  have hmask : (ppn &&& 0x3FFFFF).toNat = ppn.toNat := by
    rw [show (0x3FFFFF : UInt32) = UInt32.ofNat (2 ^ 22 - 1) from rfl,
      UInt32.toNat_and_mask ppn 22 (by omega), Nat.mod_eq_of_lt hppn]
  have hshift : ((ppn &&& 0x3FFFFF) <<< 10).toNat = ppn.toNat <<< 10 := by
    rw [UInt32.toNat_shiftLeft, hmask]
    change ppn.toNat <<< 10 % 2 ^ 32 = _
    rw [Nat.shiftLeft_eq, Nat.mod_eq_of_lt (by omega)]
  unfold entry
  rw [UInt32.toNat_or, hshift, ← Nat.shiftLeft_add_eq_or_of_lt hflags, Nat.shiftLeft_eq]

lemma entry_and (hppn : ppn.toNat < 2 ^ 22) (hflags : flags.toNat < 2 ^ 10)
    (hbit : bit.toNat < 2 ^ 10) : entry ppn flags &&& bit = flags &&& bit := by
  rw [← UInt32.toNat_inj, UInt32.toNat_and, UInt32.toNat_and, toNat_entry hppn hflags]
  refine Nat.eq_of_testBit_eq fun i => ?_
  rw [Nat.testBit_and, Nat.testBit_and]
  by_cases hi : i < 10
  · rw [Nat.mul_comm, Nat.testBit_two_pow_mul_add _ hflags, if_pos hi]
  · have hlt : bit.toNat < 2 ^ i :=
      Nat.lt_of_lt_of_le hbit (Nat.pow_le_pow_right (by omega) (by omega))
    rw [Nat.testBit_lt_two_pow hlt, Bool.and_false, Bool.and_false]

/-- The page number of an entry. -/
lemma entry_shift (hppn : ppn.toNat < 2 ^ 22) (hflags : flags.toNat < 2 ^ 10) :
    entry ppn flags >>> 10 = ppn := by
  rw [← UInt32.toNat_inj, UInt32.toNat_shiftRight, toNat_entry hppn hflags]
  change (ppn.toNat * 2 ^ 10 + flags.toNat) >>> 10 = ppn.toNat
  rw [Nat.shiftRight_eq_div_pow]
  omega

/-- The page number of a megapage. -/
lemma entry_shift_mega (hppn : ppn.toNat < 2 ^ 22) (hflags : flags.toNat < 2 ^ 10) :
    entry ppn flags >>> 20 = ppn >>> 10 := by
  rw [← UInt32.toNat_inj, UInt32.toNat_shiftRight, UInt32.toNat_shiftRight,
    toNat_entry hppn hflags]
  change (ppn.toNat * 2 ^ 10 + flags.toNat) >>> 20 = ppn.toNat >>> 10
  rw [Nat.shiftRight_eq_div_pow, Nat.shiftRight_eq_div_pow]
  omega

/-- The flags of a user leaf. -/
def userFlags (perms : Perms) : UInt32 :=
  v ||| (permBits perms).toUInt32 ||| u ||| a ||| if perms.write then d else 0

lemma userFlags_lt (perms : Perms) : (userFlags perms).toNat < 2 ^ 10 := by
  obtain ⟨r, w, x⟩ := perms
  revert r w x
  decide

lemma userFlags_bits (perms : Perms) :
    userFlags perms &&& pteV ≠ 0 ∧ userFlags perms &&& pteU ≠ 0 ∧ userFlags perms &&& pteA ≠ 0 ∧
      decide (userFlags perms &&& pteR ≠ 0) = perms.read ∧
      decide (userFlags perms &&& pteW ≠ 0) = perms.write ∧
      decide (userFlags perms &&& pteX ≠ 0) = perms.execute ∧
      decide (userFlags perms &&& pteD ≠ 0) = perms.write := by
  obtain ⟨r, w, x⟩ := perms
  revert r w x
  decide

end Pte

/-- The permissions allow the access. -/
def Allows (perms : Perms) : Rv32i.Access → Prop
  | .fetch => perms.execute
  | .load => perms.read
  | .store => perms.write

instance (perms : Perms) (access : Rv32i.Access) : Decidable (Allows perms access) := by
  cases access <;> unfold Allows <;> infer_instance

open Sv32

variable {ctx : Sv32.Context} {va : UInt32} {f : UInt32} {perms : Perms}

/-- The address that a leaf at level 0 stands for. -/
lemma leafAddr_toNat (hf : f.toNat < 2 ^ 22) :
    (f.toUInt64 <<< 12 ||| (va &&& 0xFFF).toUInt64).toNat = f.toNat * pageBytes +
      va.toNat % pageBytes := by
  have hmask : (va &&& 0xFFF).toNat = va.toNat % 2 ^ 12 := UInt32.toNat_and_mask va 12 (by omega)
  have h : (f.toUInt64 <<< UInt64.ofNat 12 ||| (va &&& 0xFFF).toUInt64).toNat =
      f.toNat * 2 ^ 12 + (va &&& 0xFFF).toNat :=
    UInt32.toNat_shiftLeft_or (by omega) (by omega) (by rw [hmask]; omega)
  rw [hmask] at h
  exact h

lemma step_zero (level : UInt8) : step ctx va level 0 = .pageFault := by
  unfold step
  simp [pteV]

/-- A step of the walk in terms of the page number and the flags of the entry. -/
lemma step_entry {level : UInt8} {ppn flags : UInt32} (hppn : ppn.toNat < 2 ^ 22)
    (hflags : flags.toNat < 2 ^ 10) {v r w x u a d : Bool} (hv : decide (flags &&& pteV ≠ 0) = v)
    (hr : decide (flags &&& pteR ≠ 0) = r) (hw : decide (flags &&& pteW ≠ 0) = w)
    (hx : decide (flags &&& pteX ≠ 0) = x) (hu : decide (flags &&& pteU ≠ 0) = u)
    (ha : decide (flags &&& pteA ≠ 0) = a) (hd : decide (flags &&& pteD ≠ 0) = d) {reserved : Bool}
    (hreserved : decide (flags &&& (pteD ||| pteA ||| pteU) ≠ 0) = reserved) :
    step ctx va level (Pte.entry ppn flags) =
      if !v || (!r && w) then .pageFault
      else if !r && !x then if level = 0 || reserved then .pageFault else .next ppn
      else if level = 1 && ppn &&& 0x3FF ≠ 0 then .pageFault
      else if !userOk ctx u || !allowed ctx r w x || !a || !(ctx.access ≠ .store || d) then
        .pageFault
      else if level = 1 then
        .leaf ((ppn >>> 10).toUInt64 <<< 22 ||| (va &&& 0x003FFFFF).toUInt64)
      else .leaf (ppn.toUInt64 <<< 12 ||| (va &&& 0xFFF).toUInt64) := by
  have hbit (bit : UInt32) (h : bit.toNat < 2 ^ 10) : Pte.entry ppn flags &&& bit = flags &&& bit :=
    Pte.entry_and hppn hflags h
  have h1 := hbit pteV (by decide)
  have h2 := hbit pteR (by decide)
  have h3 := hbit pteW (by decide)
  have h4 := hbit pteX (by decide)
  have h5 := hbit pteU (by decide)
  have h6 := hbit pteA (by decide)
  have h7 := hbit pteD (by decide)
  have h8 := hbit (pteD ||| pteA ||| pteU) (by decide)
  unfold step
  simp only [h1, h2, h3, h4, h5, h6, h7, h8, hv, hr, hw, hx, hu, ha, hd, hreserved,
    Pte.entry_shift hppn hflags, Pte.entry_shift_mega hppn hflags]

/-- A pointer leads to its table. -/
lemma step_pointer (hf : f.toNat < 2 ^ 22) : step ctx va 1 (Pte.pointer f) = .next f := by
  unfold Pte.pointer
  have hv : decide (Pte.v &&& pteV ≠ 0) = true := by decide
  have hother (bit : UInt32) (h : Pte.v &&& bit = 0) : decide (Pte.v &&& bit ≠ 0) = false := by
    rw [h]
    rfl
  rw [step_entry hf (by decide) hv (hother pteR (by decide)) (hother pteW (by decide))
    (hother pteX (by decide)) (hother pteU (by decide)) (hother pteA (by decide))
    (hother pteD (by decide)) (hother (pteD ||| pteA ||| pteU) (by decide))]
  rfl

/-- Whatever a user leaf translates to at level 0 is in its frame. -/
lemma step_userLeaf_leaf (hf : f.toNat < 2 ^ 22) {pa : UInt64}
    (h : step ctx va 0 (Pte.userLeaf f perms) = .leaf pa) :
    pa.toNat = f.toNat * pageBytes + va.toNat % pageBytes := by
  change step ctx va 0 (Pte.entry f (Pte.userFlags perms)) = _ at h
  rw [step_entry hf (Pte.userFlags_lt perms) rfl rfl rfl rfl rfl rfl rfl rfl] at h
  have hlevel : ¬(0 : UInt8) = 1 := by decide
  rw [if_neg hlevel] at h
  split_ifs at h
  cases h
  exact leafAddr_toNat hf

/-- A user leaf at level 0 stands for its frame, for whoever may use it. -/
lemma step_userLeaf (hf : f.toNat < 2 ^ 22) (hperms : ValidPerms perms) (hmxr : ctx.mxr = false) :
    step ctx va 0 (Pte.userLeaf f perms) =
      if userOk ctx true ∧ Allows perms ctx.access then
        .leaf (f.toUInt64 <<< 12 ||| (va &&& 0xFFF).toUInt64)
      else .pageFault := by
  obtain ⟨hv, hu, ha, hr, hw, hx, hd⟩ := Pte.userFlags_bits perms
  change step ctx va 0 (Pte.entry f (Pte.userFlags perms)) = _
  rw [step_entry hf (Pte.userFlags_lt perms) (decide_eq_true hv) hr hw hx (decide_eq_true hu)
    (decide_eq_true ha) hd rfl]
  unfold ValidPerms at hperms
  generalize userOk ctx true = ok
  obtain ⟨privilege, sum, mxr, access⟩ := ctx
  obtain ⟨r, w, x⟩ := perms
  dsimp only at hmxr hperms ⊢
  subst hmxr
  cases access <;> cases ok <;> cases r <;> cases w <;> cases x <;> simp_all [Allows, allowed]

/-- The address of a byte of a megapage that is mapped to itself. -/
lemma megaAddr_toNat {base : ℕ} (hbase : base % megapage = 0) (hlt : base < 2 ^ 32)
    (hslot : vpn1 va.toNat = vpn1 base) :
    ((UInt32.ofNat (base / pageBytes) >>> 10).toUInt64 <<< 22 |||
      (va &&& 0x003FFFFF).toUInt64).toNat = va.toNat := by
  have hmask : (va &&& 0x003FFFFF).toNat = va.toNat % 2 ^ 22 :=
    UInt32.toNat_and_mask va 22 (by omega)
  have hppn : (UInt32.ofNat (base / pageBytes)).toNat = base / pageBytes :=
    UInt32.toNat_ofNat_of_lt' (Nat.lt_of_le_of_lt (Nat.div_le_self _ _) hlt)
  have hshift : (UInt32.ofNat (base / pageBytes) >>> 10).toNat = base / 2 ^ 22 := by
    rw [UInt32.toNat_shiftRight, hppn]
    change (base / pageBytes) >>> 10 = _
    rw [Nat.shiftRight_eq_div_pow, Nat.div_div_eq_div_mul]
    rfl
  have h : ((UInt32.ofNat (base / pageBytes) >>> 10).toUInt64 <<< UInt64.ofNat 22 |||
      (va &&& 0x003FFFFF).toUInt64).toNat =
        (UInt32.ofNat (base / pageBytes) >>> 10).toNat * 2 ^ 22 + (va &&& 0x003FFFFF).toNat :=
    UInt32.toNat_shiftLeft_or (by omega) (by rw [hshift]; omega) (by rw [hmask]; omega)
  rw [hmask, hshift] at h
  refine h.trans ?_
  have hva := va.toNat_lt
  unfold vpn1 megapage at *
  omega

/-- The page number of a megapage has no low bits. -/
lemma mega_ppn {base : ℕ} (hbase : base % megapage = 0) (hlt : base < 2 ^ 32) :
    (UInt32.ofNat (base / pageBytes)).toNat < 2 ^ 22 ∧ UInt32.ofNat (base / pageBytes) &&&
      0x3FF = 0 := by
  have hppn : (UInt32.ofNat (base / pageBytes)).toNat = base / pageBytes :=
    UInt32.toNat_ofNat_of_lt' (Nat.lt_of_le_of_lt (Nat.div_le_self _ _) hlt)
  have hmask : (UInt32.ofNat (base / pageBytes) &&& 0x3FF).toNat = base / pageBytes % 2 ^ 10 := by
    exact (UInt32.toNat_and_mask _ 10 (by omega)).trans (by rw [hppn])
  unfold pageBytes megapage at *
  refine ⟨by omega, ?_⟩
  rw [← UInt32.toNat_inj, hmask]
  change base / 4096 % 2 ^ 10 = 0
  omega

/-- A leaf at level 1 is no pointer; whatever it translates to is the address itself, and not for
the user if it is no user leaf. -/
lemma step_mega_leaf {base : ℕ} {flags : UInt32} (hbase : base % megapage = 0) (hlt : base < 2 ^ 32)
    (hflags : flags.toNat < 2 ^ 10) (hr : flags &&& pteR ≠ 0) (hu : flags &&& pteU = 0)
    (hslot : vpn1 va.toNat = vpn1 base) :
    (∀ table, step ctx va 1 (Pte.entry (UInt32.ofNat (base / pageBytes)) flags) ≠ .next table) ∧
      ∀ pa, step ctx va 1 (Pte.entry (UInt32.ofNat (base / pageBytes)) flags) = .leaf pa →
        ctx.privilege ≠ .user ∧ pa.toNat = va.toNat := by
  obtain ⟨hppn, -⟩ := mega_ppn hbase hlt
  rw [step_entry hppn hflags rfl (decide_eq_true hr) rfl rfl (decide_eq_false (not_not.mpr hu)) rfl
    rfl rfl]
  constructor
  · intro table h
    split_ifs at h
    · simp_all
  · intro pa h
    split_ifs at h
    · next hok hlevel =>
      cases h
      refine ⟨?_, megaAddr_toNat hbase hlt hslot⟩
      intro huser
      simp [userOk, huser] at hok
    · contradiction

/-- A megapage of the kernel stands for itself, for supervisor accesses that its flags allow. -/
lemma step_mega {base : ℕ} {flags : UInt32} {x : Bool} (hbase : base % megapage = 0)
    (hlt : base < 2 ^ 32) (hflags : flags.toNat < 2 ^ 10) (hv : flags &&& pteV ≠ 0)
    (hr : flags &&& pteR ≠ 0) (hw : flags &&& pteW ≠ 0) (hx : decide (flags &&& pteX ≠ 0) = x)
    (hu : flags &&& pteU = 0) (ha : flags &&& pteA ≠ 0) (hd : flags &&& pteD ≠ 0)
    (hmxr : ctx.mxr = false) (hslot : vpn1 va.toNat = vpn1 base) :
    ∃ pa, pa.toNat = va.toNat ∧
      step ctx va 1 (Pte.entry (UInt32.ofNat (base / pageBytes)) flags) =
        if userOk ctx false ∧ (ctx.access = .fetch → x) then .leaf pa else .pageFault := by
  obtain ⟨hppn, hlow⟩ := mega_ppn hbase hlt
  refine ⟨_, megaAddr_toNat hbase hlt hslot, ?_⟩
  rw [step_entry hppn hflags (decide_eq_true hv) (decide_eq_true hr) (decide_eq_true hw) hx
    (decide_eq_false (not_not.mpr hu)) (decide_eq_true ha) (decide_eq_true hd) rfl, hlow]
  generalize userOk ctx false = ok
  obtain ⟨privilege, sum, mxr, access⟩ := ctx
  dsimp only at hmxr ⊢
  subst hmxr
  cases access <;> cases ok <;> cases x <;> simp [allowed]

/-! ## The walk in a memory -/

/-- Reads an entry from a memory. -/
def pteReader (m : ByteMap) (addr : UInt64) (_ : Unit) : Option UInt32 × Unit :=
  (some (word (m.read addr.toNat 4) 0), ())

/-- The translation of an address under a root table in a memory. -/
def translateIn (m : ByteMap) (root : UInt32) (privilege : Privilege) (sum mxr : Bool)
    (access : Rv32i.Access) (va : UInt32) : Except Sv32.Fault UInt64 :=
  (sv32Translate (Pte.satp root) privilege sum mxr access va (pteReader m) ()).1

/-- An entry of a table in a memory. -/
def entryIn (m : ByteMap) (table : UInt32) (i : ℕ) : UInt32 :=
  word (m.read (entryAddr table i) 4) 0

lemma word_wordBytes (w : UInt32) : word (wordBytes w) 0 = w := by
  unfold word wordBytes
  rw [List.drop_zero, List.take_of_length_le (by simp), leNat_leBytes (by
    have hlt := w.toNat_lt
    omega)]
  exact UInt32.ofNat_toNat

lemma word_zeros : word (List.replicate 4 0) 0 = 0 := by decide

lemma satp_fields {root : UInt32} (hroot : root.toNat < 2 ^ 22) :
    Pte.satp root &&& satpMode ≠ 0 ∧ Pte.satp root &&& satpPpn = root := by
  have hmask : root &&& 0x3FFFFF = root := by
    rw [← UInt32.toNat_inj]
    exact (UInt32.toNat_and_mask root 22 (by omega)).trans (Nat.mod_eq_of_lt hroot)
  have hlow : root &&& satpMode = 0 := by
    rw [← hmask, UInt32.and_assoc]
    exact UInt32.and_zero
  unfold Pte.satp
  rw [hmask]
  constructor
  · intro h
    have hbit := congrArg (fun w : UInt32 => w.toNat.testBit 31) h
    rw [UInt32.toNat_and, UInt32.toNat_or, Nat.testBit_and, Nat.testBit_or] at hbit
    have hmode : Pte.satpSv32.toNat.testBit 31 = true ∧
      satpMode.toNat.testBit 31 = true := by decide
    simp [hmode] at hbit
  · rw [← UInt32.toNat_inj, UInt32.toNat_and, UInt32.toNat_or, Nat.and_or_distrib_right]
    have hnone : Pte.satpSv32.toNat &&& satpPpn.toNat = 0 := by decide
    rw [hnone, Nat.zero_or, ← UInt32.toNat_and]
    exact congrArg UInt32.toNat hmask

lemma toNat_vpn_one (va : UInt32) : (Sv32.vpn va 1).toNat = vpn1 va.toNat := Sv32.toNat_vpn_one va

lemma toNat_vpn_zero (va : UInt32) : (Sv32.vpn va 0).toNat = Placing.vpn0 va :=
    Sv32.toNat_vpn_zero va

/-- The walker finds an entry where the builder puts it. -/
lemma toNat_pteAddress {table va : UInt32} {level : UInt8} {i : ℕ} (hi : i < 2 ^ 10)
    (h : (Sv32.vpn va level).toNat = i) :
    (Sv32.pteAddress table va level).toNat = entryAddr table i :=
  (Sv32.toNat_pteAddress hi h).trans (congrArg (_ + ·) (Nat.mul_comm i 4))

/-- The walk reads an entry of the root and, behind a pointer, one of a level-0 table. -/
lemma translateIn_eq {m : ByteMap} {root : UInt32} (hroot : root.toNat < 2 ^ 22)
    {privilege : Privilege} (hprivilege : privilege ≠ .machine) (sum mxr : Bool)
    (access : Rv32i.Access) (va : UInt32) :
    translateIn m root privilege sum mxr access va =
      match step { privilege, sum, mxr, access } va 1 (entryIn m root (vpn1 va.toNat)) with
      | .leaf pa => .ok pa
      | .pageFault => .error .page
      | .next table =>
        match step { privilege, sum, mxr, access } va 0 (entryIn m table (Placing.vpn0 va)) with
        | .leaf pa => .ok pa
        | _ => .error .page := by
  obtain ⟨hmode, hppn⟩ := satp_fields hroot
  have hone (table : UInt32) : (Sv32.pteAddress table va (UInt8.ofNat 1)).toNat =
      entryAddr table (vpn1 va.toNat) := toNat_pteAddress (vpn1_lt _) (toNat_vpn_one va)
  have hzero (table : UInt32) : (Sv32.pteAddress table va (UInt8.ofNat 0)).toNat =
      entryAddr table (Placing.vpn0 va) := toNat_pteAddress (vpn0_lt _) (toNat_vpn_zero va)
  unfold translateIn sv32Translate
  rw [if_neg (by simp [hprivilege, hmode]), hppn]
  unfold Sv32.translateFrom
  simp only [pteReader, hone]
  unfold entryIn
  change (match step _ va 1 (word (m.read (entryAddr root (vpn1 va.toNat)) 4) 0) with
    | .leaf pa => _ | .pageFault => _ | .next table => _ : Except Sv32.Fault UInt64 × Unit).1 = _
  cases step { privilege, sum, mxr, access } va 1
      (word (m.read (entryAddr root (vpn1 va.toNat)) 4) 0) with
  | leaf pa => rfl
  | pageFault => rfl
  | next table =>
    unfold Sv32.translateFrom
    simp only [pteReader, hzero]
    change (match step _ va 0 (word (m.read (entryAddr table (Placing.vpn0 va)) 4) 0) with
      | .leaf pa => _ | .pageFault => _ | .next table => _ : Except Sv32.Fault UInt64 × Unit).1 = _
    cases step { privilege, sum, mxr, access } va 0
        (word (m.read (entryAddr table (Placing.vpn0 va)) 4) 0) with
    | leaf pa => rfl
    | pageFault => rfl
    | next table => rfl

end SystemScope.Os
