import SystemScope.Platform.AddressDelivery

/-!
# The address bus survives snapshots

A restore accepts exactly what is written of a bus over the same memory map
(`restoreState_reads`): the outstanding transactions ascend and are of regions of the map, and any
such table is one the bus can have.
-/

namespace SystemScope.Platform

open SnapshotData SnapshotField Restoring

namespace AddressBus

variable {regions : List Region} {bus bus' : AddressBus regions}

/-! ## Reading a snapshot back -/

section

variable [SnapshotData] (hstrict : SnapshotData.Strict)

include hstrict

lemma readConfig_reads (regions : List Region) :
    ReadsParts (readConfig regions) (fun _ => True) fun _ => configParts regions := by
  have hregion (region : Region) :
      ReadsParts _ (fun _ => True) fun _ => regionParts region :=
    expectRegion_reads hstrict region.name region.base region.size different
  intro bs x rest
  unfold readConfig configParts
  simp only [writes_cons_flatMap, (expect_reads (data_reads hstrict.len) trivial).bind_eq_ok,
    forM_reads hregion _ _ _ _, true_and, exists_const]

open SparseMap in
lemma readOutstanding_reads (hregions : regions.length < 2 ^ 16) (previous : Option TxnId) :
    ReadsParts (readOutstanding regions previous) (fun e => After previous e.1 ∧ True)
      outstandingParts := by
  have hback : ∀ r : Fin regions.length, (UInt16.ofNat r.val).toNat = r.val := fun r =>
    UInt16.toNat_ofNat_of_lt' (r.isLt.trans hregions)
  intro bs e rest
  unfold readOutstanding outstandingParts
  simp only [writes_cons_cons, (field_reads hstrict.fields.u64).bind_eq_ok, true_and]
  constructor
  · intro ⟨txn, r₁, htxn, h⟩
    split_ifs at h with horder
    · exact absurd h (by simp)
    · rw [(field_reads hstrict.fields.u16).bind_eq_ok] at h
      obtain ⟨region, r₂, -, hregion, h⟩ := h
      split_ifs at h with hlt
      · rw [(field_reads hstrict.fields.bool).bind_eq_ok] at h
        obtain ⟨write, r₃, -, hwrite, h⟩ := h
        obtain ⟨rfl, rfl⟩ := Parser.pure_eq_ok.mp h
        refine ⟨⟨any_le_eq_false_iff.mp (by simpa using horder), trivial⟩, r₁, htxn, r₂, ?_, hwrite⟩
        rwa [UInt16.ofNat_toNat]
      · exact absurd h (by simp)
  · rintro ⟨⟨hafter, -⟩, r₁, htxn, r₂, hregion, hwrite⟩
    refine ⟨e.1, r₁, htxn, ?_⟩
    rw [if_neg (by simp [any_le_eq_false_iff.mpr hafter]),
      (field_reads hstrict.fields.u16).bind_eq_ok]
    refine ⟨_, r₂, trivial, hregion, ?_⟩
    rw [dif_pos (by rw [hback]; exact e.2.region.isLt),
      (field_reads hstrict.fields.bool).bind_eq_ok]
    refine ⟨e.2.write, rest, trivial, hwrite, Parser.pure_eq_ok.mpr ⟨?_, rfl⟩⟩
    have hregion : (⟨(UInt16.ofNat e.2.region.val).toNat, by rw [hback]; exact e.2.region.isLt⟩ :
        Fin regions.length) = e.2.region := Fin.ext (hback _)
    rw [hregion]

/-- A restore accepts exactly the snapshots of the buses over its memory map. -/
lemma restoreState_reads (haccepted : Accepted regions) :
    ReadsParts (restoreState regions) (fun _ => True) fun bus => bus.parts := by
  have hregions : regions.length < 2 ^ 16 := by
    have := haccepted.count
    omega
  have hentry := readOutstanding_reads hstrict hregions
  have htable := ReadsParts.map (data_reads hstrict.len) hentry
  rintro bs ⟨outstanding⟩ rest
  unfold restoreState parts
  simp only [writes_append, (readConfig_reads hstrict regions).bind_eq_ok, true_and, exists_const]
  refine exists_congr fun r => and_congr_right fun _ => ?_
  have hmap := htable r outstanding rest
  simp only [(data_reads hstrict.len).bind_eq_ok, (ReadsParts.entries hentry _ none).bind_eq_ok,
    Parser.pure_eq_ok, implies_true, true_and, List.singleton_append] at hmap ⊢
  rw [← hmap]
  simp only [AddressBus.mk.injEq]

lemma restore_eq_ok_iff (haccepted : Accepted regions) {bs rest : Bytes} {schema : UInt32} :
    bus.restore bs schema = (bus', .ok rest) ↔ Writes bus'.parts bs rest := by
  have hreads := restoreState_reads hstrict haccepted bs bus' rest
  rw [true_and] at hreads
  rw [← hreads]
  unfold restore
  split
  next h => simp [h]
  next h => simp [h]

end

/-- A restore that is refused changes nothing. -/
lemma eq_of_restore_error [SnapshotData] {bs : Bytes} {schema : UInt32} {e : RestoreError}
    (h : bus.restore bs schema = (bus', .error e)) : bus' = bus := by
  unfold restore at h
  split at h
  · cases h
  · cases h
    rfl

/-! ## Exactly once, across snapshots -/

/-- The address bus delivers exactly once and survives snapshots.  In every run, the tickets account
for everything: each request in a region is forwarded once, to that region and at its offset, and
responded to with the answer of the target; each request in no region is refused once and never
forwarded.  What the initiator and the targets may do never faults, and with nothing left at a
target every request has its response; a response that answers nothing at the target of its port
faults the session.  A snapshot of any state of the run restores that state, what is restored to the
last byte is written as it was read, and what is refused changes nothing. -/
theorem outstanding_mirrors_flight [SnapshotData] (hstrict : SnapshotData.Strict)
    {start : AddressBus regions} (hnew : new regions = .ok start) {net : Net regions}
    (hrun : Net.Reaches start net) :
    (∃ tickets, Accounts net tickets ∧ (net.atTargets = [] → ∀ t ∈ tickets, t.Finished)) ∧
    (∀ action, net.Allowed action → ∃ net', net.step action = (.ok (), net')) ∧
    (∀ phase port answer, port ≠ cpuPort → (responseTxn answer).isSome →
      (∀ r request, (r, request) ∈ net.atTargets → port = regionPort r → ¬Answers answer request) →
      ∃ what, net.deliver phase (.message port (.memV1 answer)) =
        (.error (.componentFault what), net)) ∧
    (∀ bs, net.bus.snapshot = some bs → ∀ (other : AddressBus regions) schema,
      other.restore bs schema = (net.bus, .ok [])) ∧
    (∀ (bus bus' : AddressBus regions) bs schema, bus.restore bs schema = (bus', .ok []) →
      bus'.snapshot = some bs) ∧
    ∀ (bus bus' : AddressBus regions) bs schema e,
      bus.restore bs schema = (bus', .error e) → bus' = bus := by
  obtain ⟨hconfig, -⟩ := new_eq_ok.mp hnew
  obtain ⟨tickets, htracks⟩ := hrun.tracks hnew
  refine ⟨⟨tickets, htracks.toAccounts, htracks.finished⟩, ?_, ?_, ?_, ?_, ?_⟩
  · intro action hallowed
    obtain ⟨net', -, hstep, -⟩ := htracks.step hconfig hallowed
    exact ⟨net', hstep⟩
  · intro phase port answer hport hanswer hwrong
    exact htracks.deliver_wrong hconfig hanswer hport hwrong phase
  · intro bs hsnapshot other schema
    exact (restore_eq_ok_iff hstrict hconfig).mpr (writes_to_end.mpr hsnapshot)
  · intro bus bus' bs schema hrestore
    exact writes_to_end.mp ((restore_eq_ok_iff hstrict hconfig).mp hrestore)
  · intro bus bus' bs schema e hrestore
    exact eq_of_restore_error hrestore

/-- A memory and a device. -/
def smallMap : List Region :=
  [{ name := "ram", base := 0x1000, size := 0x1000 },
    { name := "uart", base := 0x2000, size := 16 }]

def uart : Fin smallMap.length := ⟨1, by decide⟩

def smallBus : AddressBus smallMap := { outstanding := ∅ }

/-- The initiator writes to the device while it reads from the memory, -/
def twoRequests : Net smallMap :=
  (((Net.start smallBus).step (.request (.readReq 7 0x1004 4))).2.step
    (.request (.writeReq 3 0x2008 [65]))).2

/-- and the device answers first. -/
def deviceFirst : Net smallMap :=
  (twoRequests.step (.answer .complete uart (.writeReq 3 8 [65]) (.writeResp 3 .done))).2

lemma reaches_deviceFirst : Net.Reaches smallBus deviceFirst := by
  have hread : (Net.start smallBus).Allowed (.request (.readReq 7 0x1004 4)) :=
    ⟨⟨0x1004, 4, by decide, by decide⟩, by decide⟩
  have hwrite : ((Net.start smallBus).step (.request (.readReq 7 0x1004 4))).2.Allowed
      (.request (.writeReq 3 0x2008 [65])) := ⟨⟨0x2008, 1, by decide, by decide⟩, by decide +kernel⟩
  have hanswer : twoRequests.Allowed
      (.answer .complete uart (.writeReq 3 8 [65]) (.writeResp 3 .done)) := ⟨by decide +kernel, rfl⟩
  refine .step (.step (.step .start hread (Prod.ext ?_ rfl)) hwrite (Prod.ext ?_ rfl)) hanswer
    (Prod.ext ?_ rfl)
  · decide +kernel
  · decide +kernel
  · decide +kernel

open Canonical in
/-- The read is still outstanding, and a snapshot keeps it so. -/
theorem outstanding_mirrors_flight_deviceFirst :
    deviceFirst.responded = [.writeResp 3 .done] ∧
      ∃ bs, deviceFirst.bus.snapshot = some bs ∧
        smallBus.restore bs 1 = (deviceFirst.bus, .ok []) := by
  have hnew : new smallMap = .ok smallBus := by decide +kernel
  obtain ⟨bs, hbs⟩ := Option.isSome_iff_exists.mp
    (show (deviceFirst.bus.snapshot).isSome by decide +kernel)
  obtain ⟨-, -, -, hrestore, -⟩ :=
    outstanding_mirrors_flight snapshotData_strict hnew reaches_deviceFirst
  exact ⟨by decide +kernel, bs, hbs, hrestore bs hbs smallBus 1⟩

end AddressBus

end SystemScope.Platform
