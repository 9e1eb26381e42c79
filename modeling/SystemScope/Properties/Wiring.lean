import Mathlib.Data.List.ReduceOption
import SystemScope.Framework.Runs
import SystemScope.Runtime.Topology

/-!
# The wiring of an elaborated session

What elaboration guarantees about the ports and links of a session, and every session keeps:
one peer per port, and the peers table says of each port exactly what the links say.  Since a
link is entered at both ends, the table is symmetric; since a linked port is refused a second
link, it is single-valued.

`Wired b rt` collects these facts for the session `rt` of the builder `b`.
-/

namespace SystemScope

/-- A link joins a port to the far end `peer`. -/
def LinkDecl.Joins (link : LinkDecl) (port : PortRef) (peer : Peer) : Prop :=
  peer.latency = link.latency ∧
    ((link.a = port ∧ link.b = (peer.component, peer.port)) ∨
      (link.b = port ∧ link.a = (peer.component, peer.port)))

/-! ## The peers table -/

namespace PeerTable

/-- The port has an entry in the table. -/
def InRange (peers : PeerTable) (port : PortRef) : Prop :=
  ∃ row, peers[port.1.toNat]? = some row ∧ port.2.toNat < row.length

lemma set_map_length (peers : PeerTable) (port : PortRef) (peer : Peer) :
    (peers.set port peer).map List.length = peers.map List.length := by
  refine List.ext_getElem? fun i => ?_
  simp only [set, List.getElem?_map, List.getElem?_modify]
  by_cases hi : port.1.toNat = i
  · cases peers[i]? with
    | none => simp [hi]
    | some row => simp [hi]
  · simp [hi]

lemma inRange_iff_of_map_length {peers peers' : PeerTable}
    (h : peers'.map List.length = peers.map List.length) {port : PortRef} :
    peers'.InRange port ↔ peers.InRange port := by
  have hrange : ∀ table : PeerTable, table.InRange port ↔
      ∃ n, (table.map List.length)[port.1.toNat]? = some n ∧ port.2.toNat < n := by
    intro table
    simp only [InRange, List.getElem?_map, Option.map_eq_some_iff]
    constructor
    · rintro ⟨row, hrow, hlt⟩
      exact ⟨_, ⟨row, hrow, rfl⟩, hlt⟩
    · rintro ⟨_, ⟨row, hrow, rfl⟩, hlt⟩
      exact ⟨row, hrow, hlt⟩
  rw [hrange, hrange, h]

lemma get_set_self {peers : PeerTable} {port : PortRef} (h : peers.InRange port) (peer : Peer) :
    (peers.set port peer).get port = some peer := by
  obtain ⟨row, hrow, hlt⟩ := h
  simp [get, set, hrow, hlt]

lemma get_set_of_ne {peers : PeerTable} {port port' : PortRef} (h : port' ≠ port) (peer : Peer) :
    (peers.set port peer).get port' = peers.get port' := by
  unfold get set
  rw [List.getElem?_modify]
  by_cases hc : port.1.toNat = port'.1.toNat
  · have hp : port.2.toNat ≠ port'.2.toNat := by
      intro hp
      exact h (Prod.ext (UInt32.toNat_inj.mp hc.symm) (UInt16.toNat_inj.mp hp.symm))
    cases peers[port'.1.toNat]? with
    | none => simp
    | some row => simp [hc, List.getElem?_set_ne hp]
  · simp [hc]

end PeerTable

/-! ## Slots -/

section

variable {C : Type} [Component C]

/-- The slot of a declared component. -/
def Declared.slot (declared : Declared C) : Slot C where
  path := declared.path
  ports := Component.ports declared.component
  component := declared.component

lemma duplicateName_eq_none {seen names : List String} :
    duplicateName seen names = none ↔ names.Nodup ∧ ∀ name ∈ names, name ∉ seen := by
  induction names generalizing seen with
  | nil => simp [duplicateName]
  | cons name names ih =>
    by_cases hseen : name ∈ seen
    · simp [duplicateName, hseen]
    · simp only [duplicateName, if_neg hseen, ih, List.mem_append, List.mem_singleton, not_or,
        List.nodup_cons, List.forall_mem_cons]
      constructor
      · rintro ⟨hnodup, hnew⟩
        exact ⟨⟨fun hmem => (hnew name hmem).2 rfl, hnodup⟩, hseen, fun n hn => (hnew n hn).1⟩
      · rintro ⟨⟨hname, hnodup⟩, -, hnew⟩
        refine ⟨hnodup, fun n hn => ⟨hnew n hn, ?_⟩⟩
        rintro rfl
        exact hname hn

lemma addSlot_eq_ok_iff {slots slots' : List (Slot C)} {declared : Declared C} :
    addSlot slots declared = .ok slots' ↔
      declared.path ∉ slots.map Slot.path ∧ (Component.ports declared.component).length ≤ 65535 ∧
        ((Component.ports declared.component).map PortSpec.name).Nodup ∧
        slots' = slots ++ [declared.slot] := by
  unfold addSlot
  by_cases hpath : declared.path ∈ slots.map Slot.path
  · simp [hpath]
  by_cases hports : 2 ^ 16 ≤ (Component.ports declared.component).length
  · have hmany : ¬(Component.ports declared.component).length ≤ 65535 := by omega
    simp only [hpath, if_false, if_pos hports, hmany, reduceCtorEq, false_and, and_false]
  · have hfew : (Component.ports declared.component).length ≤ 65535 := by omega
    simp only [hpath, if_false, hports, hfew, not_false_eq_true, true_and]
    cases hdup : duplicateName [] ((Component.ports declared.component).map PortSpec.name) with
    | some name =>
      have hnodup : ¬((Component.ports declared.component).map PortSpec.name).Nodup := by
        intro h
        rw [duplicateName_eq_none.mpr ⟨h, by simp⟩] at hdup
        cases hdup
      simp [hnodup]
    | none =>
      have hnodup := (duplicateName_eq_none.mp hdup).1
      simp only [hnodup, true_and, Except.ok.injEq]
      exact eq_comm

/-- The components of a topology are accepted if their paths differ and their ports are few and
have different names. -/
lemma foldlM_addSlot_eq_ok_iff {components : List (Declared C)} {slots : List (Slot C)} :
    components.foldlM addSlot [] = .ok slots ↔
      slots = components.map Declared.slot ∧ (components.map Declared.path).Nodup ∧
        ∀ d ∈ components, (Component.ports d.component).length ≤ 65535 ∧
          ((Component.ports d.component).map PortSpec.name).Nodup := by
  have hpath : ∀ done : List (Declared C), (done.map Declared.slot).map Slot.path =
      done.map Declared.path := fun done => by simp [Declared.slot]
  constructor
  · intro h
    refine Machine.foldlM_prefix_invariant (I := fun done slots =>
      slots = done.map Declared.slot ∧ (done.map Declared.path).Nodup ∧
        ∀ d ∈ done, (Component.ports d.component).length ≤ 65535 ∧
          ((Component.ports d.component).map PortSpec.name).Nodup) ?_ (by simp) h
    rintro done d rest slots slots' - hslot ⟨rfl, hnodup, hdone⟩
    obtain ⟨hnew, hports, hnames, rfl⟩ := addSlot_eq_ok_iff.mp hslot
    rw [hpath] at hnew
    refine ⟨by simp, ?_, ?_⟩
    · rw [List.map_append, List.map_singleton, ← List.concat_eq_append]
      exact hnodup.concat hnew
    · exact List.forall_mem_append.mpr ⟨hdone, List.forall_mem_singleton.mpr ⟨hports, hnames⟩⟩
  · rintro ⟨rfl, hnodup, hall⟩
    have hstep : ∀ done d rest slots, components = done ++ d :: rest →
        slots = done.map Declared.slot →
        ∃ slots', addSlot slots d = .ok slots' ∧ slots' = (done ++ [d]).map Declared.slot := by
      rintro done d rest slots hsplit rfl
      obtain ⟨hports, hnames⟩ := hall d (by simp [hsplit])
      refine ⟨_, addSlot_eq_ok_iff.mpr ⟨?_, hports, hnames, rfl⟩, by simp⟩
      rw [hpath]
      rw [hsplit, List.map_append, List.map_cons] at hnodup
      exact fun hmem => List.disjoint_of_nodup_append hnodup hmem List.mem_cons_self
    obtain ⟨slots, hfold, rfl⟩ := Machine.foldlM_total (f := addSlot)
      (I := fun done slots => slots = done.map Declared.slot) hstep rfl
    exact hfold

lemma slots_of_foldlM {components : List (Declared C)} {slots : List (Slot C)}
    (h : components.foldlM addSlot [] = .ok slots) :
    slots = components.map Declared.slot ∧ ∀ slot ∈ slots, slot.ports.length < 2 ^ 16 := by
  obtain ⟨rfl, -, hall⟩ := foldlM_addSlot_eq_ok_iff.mp h
  refine ⟨rfl, fun slot hslot => ?_⟩
  obtain ⟨d, hd, rfl⟩ := List.mem_map.mp hslot
  exact Nat.lt_succ_of_le (hall d hd).1

/-- The spec of a port. -/
def slotSpec (slots : List (Slot C)) (port : PortRef) : Option PortSpec :=
  slots[port.1.toNat]?.bind fun slot => slot.ports[port.2.toNat]?

/-- The port of a declared component that has this name. -/
def TopologyBuilder.Names (b : TopologyBuilder C) (named : ComponentId × String) (port : PortRef) :
    Prop :=
  named.1 = port.1 ∧ ∃ declared spec, b.components[port.1.toNat]? = some declared ∧
    (Component.ports declared.component)[port.2.toNat]? = some spec ∧ spec.name = named.2

lemma TopologyBuilder.names_iff {b : TopologyBuilder C} {named : ComponentId × String}
    {port : PortRef} :
    b.Names named port ↔ port.1 = named.1 ∧
      ∃ spec, slotSpec (b.components.map Declared.slot) port = some spec ∧ spec.name = named.2 := by
  constructor
  · rintro ⟨hid, declared, spec, hdeclared, hspec, hname⟩
    refine ⟨hid.symm, spec, ?_, hname⟩
    simp only [slotSpec, List.getElem?_map, hdeclared, Option.map_some, Option.bind_some]
    exact hspec
  · rintro ⟨hid, spec, hspec, hname⟩
    obtain ⟨slot, hslot, hport⟩ := Option.bind_eq_some_iff.mp hspec
    rw [List.getElem?_map, Option.map_eq_some_iff] at hslot
    obtain ⟨declared, hdeclared, rfl⟩ := hslot
    exact ⟨hid.symm, declared, spec, hdeclared, hport, hname⟩

omit [Component C] in
lemma resolvePort_eq_ok {slots : List (Slot C)}
    (hports : ∀ slot ∈ slots, slot.ports.length < 2 ^ 16) {named : ComponentId × String}
    {port : PortRef} {spec : PortSpec} {label : String}
    (h : resolvePort slots named = .ok (port, spec, label)) :
    port.1 = named.1 ∧ slotSpec slots port = some spec ∧ spec.name = named.2 := by
  unfold resolvePort at h
  cases hslot : slots[named.1.toNat]? with
  | none =>
    rw [hslot] at h
    cases h
  | some slot =>
    rw [hslot] at h
    dsimp only at h
    cases hspec : slot.ports[slot.ports.findIdx fun p => p.name = named.2]? with
    | none =>
      rw [hspec] at h
      cases h
    | some found =>
      rw [hspec] at h
      cases h
      obtain ⟨hlt, hfound⟩ := List.getElem?_eq_some_iff.mp hspec
      have hfits := hports slot (List.mem_of_getElem? hslot)
      have hindex : (UInt16.ofNat (slot.ports.findIdx fun p => p.name = named.2)).toNat =
          slot.ports.findIdx fun p => p.name = named.2 :=
        UInt16.toNat_ofNat_of_lt' (hlt.trans hfits)
      refine ⟨rfl, ?_, ?_⟩
      · simp only [slotSpec, hslot, Option.bind_some, hindex, hspec]
      · have hname := List.findIdx_of_getElem?_eq_some hspec
        exact of_decide_eq_true hname

/-! ## Links -/

/-- The named ports of a declared link are the ends of an elaborated one. -/
structure LinkDecl.Elaborates (link : LinkDecl) (slots : List (Slot C)) (declared : DeclaredLink) :
    Prop where
  latency : link.latency = declared.latency
  components : link.a.1 = declared.a.1 ∧ link.b.1 = declared.b.1
  specs : ∃ a b, slotSpec slots link.a = some a ∧ slotSpec slots link.b = some b ∧
    a.name = declared.a.2 ∧ b.name = declared.b.2 ∧ a.protocol = b.protocol ∧ a.role ≠ b.role

omit [Component C] in
/-- Everything a link that is added has passed. -/
lemma addLink_eq_ok {domains : List ClockDomain} {slots : List (Slot C)}
    (hports : ∀ slot ∈ slots, slot.ports.length < 2 ^ 16) {peers peers' : PeerTable}
    {links links' : List LinkDecl} {declared : DeclaredLink}
    (h : addLink domains slots (peers, links) declared = .ok (peers', links')) :
    ∃ link : LinkDecl, link.Elaborates slots declared ∧ peers.get link.a = none ∧
      peers.get link.b = none ∧ peers' = enterLink peers link.a link.b link.latency ∧
      links' = links ++ [link] := by
  unfold addLink at h
  split at h
  · cases h
  rcases ha : resolvePort slots declared.a with e | ⟨a, aSpec, aName⟩
  · rw [ha] at h
    cases h
  rcases hb : resolvePort slots declared.b with e | ⟨b, bSpec, bName⟩
  · rw [ha, hb] at h
    cases h
  rw [ha, hb] at h
  obtain ⟨haid, haspec, haname⟩ := resolvePort_eq_ok hports ha
  obtain ⟨hbid, hbspec, hbname⟩ := resolvePort_eq_ok hports hb
  change (if aSpec.role = bSpec.role then _ else _) = _ at h
  split_ifs at h with hrole hprotocol hlinked hlinked'
  cases h
  refine ⟨⟨a, b, declared.latency⟩, ⟨rfl, ⟨haid, hbid⟩, ?_⟩, ?_, ?_, rfl, rfl⟩
  · exact ⟨aSpec, bSpec, haspec, hbspec, haname, hbname, not_not.mp hprotocol, hrole⟩
  · simpa using hlinked
  · simpa using hlinked'

/-- The peers table says of each port what the links say. -/
structure Linked (slots : List (Slot C)) (declared : List DeclaredLink) (peers : PeerTable)
    (links : List LinkDecl) : Prop where
  shape : peers.map List.length = slots.map fun s => s.ports.length
  table : ∀ port peer, peers.get port = some peer ↔ ∃ link ∈ links, link.Joins port peer
  elaborates : ∀ link ∈ links, ∃ d ∈ declared, link.Elaborates slots d

omit [Component C] in
lemma inRange_of_slotSpec {slots : List (Slot C)} {peers : PeerTable}
    (hshape : peers.map List.length = slots.map fun s => s.ports.length) {port : PortRef}
    {spec : PortSpec} (h : slotSpec slots port = some spec) : peers.InRange port := by
  obtain ⟨slot, hslot, hspec⟩ := Option.bind_eq_some_iff.mp h
  have hlength : (peers.map List.length)[port.1.toNat]? = some slot.ports.length := by
    rw [hshape, List.getElem?_map, hslot, Option.map_some]
  rw [List.getElem?_map, Option.map_eq_some_iff] at hlength
  obtain ⟨row, hrow, hrowlen⟩ := hlength
  exact ⟨row, hrow, hrowlen ▸ (List.getElem?_eq_some_iff.mp hspec).1⟩

/-- Entering a link between two free ports. -/
lemma get_enterLink {peers : PeerTable} {a b : PortRef} (hne : a ≠ b) (ha : peers.InRange a)
    (hb : peers.InRange b) (latency : Option LinkLatency) (port : PortRef) :
    (enterLink peers a b latency).get port =
      if port = a then some { component := b.1, port := b.2, latency }
      else if port = b then some { component := a.1, port := a.2, latency }
      else peers.get port := by
  have hb' : (peers.set a { component := b.1, port := b.2, latency }).InRange b :=
    (PeerTable.inRange_iff_of_map_length (PeerTable.set_map_length _ _ _)).mpr hb
  unfold enterLink
  by_cases hpa : port = a
  · subst hpa
    rw [if_pos rfl, PeerTable.get_set_of_ne hne, PeerTable.get_set_self ha]
  · rw [if_neg hpa]
    by_cases hpb : port = b
    · subst hpb
      rw [if_pos rfl, PeerTable.get_set_self hb']
    · rw [if_neg hpb, PeerTable.get_set_of_ne hpb, PeerTable.get_set_of_ne hpa]

omit [Component C] in
lemma Linked.addLink {slots : List (Slot C)} {declared : List DeclaredLink} {peers : PeerTable}
    {links : List LinkDecl} (h : Linked slots declared peers links) {link : LinkDecl}
    {d : DeclaredLink} (hd : d ∈ declared) (hdeclared : link.Elaborates slots d)
    (ha : peers.get link.a = none) (hb : peers.get link.b = none) :
    Linked slots declared (enterLink peers link.a link.b link.latency) (links ++ [link]) := by
  obtain ⟨aSpec, bSpec, haspec, hbspec, -, -, -, hrole⟩ := hdeclared.specs
  have hne : link.a ≠ link.b := by
    intro heq
    rw [heq, hbspec] at haspec
    exact hrole (congrArg PortSpec.role (Option.some.inj haspec)).symm
  have hget := get_enterLink hne (inRange_of_slotSpec h.shape haspec)
    (inRange_of_slotSpec h.shape hbspec) link.latency
  -- A port without an entry is in no link yet.
  have hfree : ∀ port, peers.get port = none → ∀ l ∈ links, ∀ peer, ¬l.Joins port peer := by
    intro port hnone l hl peer hjoins
    rw [(h.table port peer).mpr ⟨l, hl, hjoins⟩] at hnone
    cases hnone
  refine ⟨?_, ?_, ?_⟩
  · rw [enterLink, PeerTable.set_map_length, PeerTable.set_map_length, h.shape]
  · intro port peer
    rw [hget]
    simp only [List.mem_append, List.mem_singleton, or_and_right, exists_or, exists_eq_left]
    split_ifs with hpa hpb
    · subst hpa
      rw [or_iff_right fun ⟨l, hl, hjoins⟩ => hfree _ ha l hl peer hjoins]
      simp only [LinkDecl.Joins, Option.some.injEq, true_and, hne.symm, false_and, or_false]
      constructor
      · rintro rfl
        exact ⟨rfl, rfl⟩
      · rintro ⟨hlatency, hb⟩
        rw [hb, ← hlatency]
    · subst hpb
      rw [or_iff_right fun ⟨l, hl, hjoins⟩ => hfree _ hb l hl peer hjoins]
      simp only [LinkDecl.Joins, Option.some.injEq, true_and, hne, false_and, false_or]
      constructor
      · rintro rfl
        exact ⟨rfl, rfl⟩
      · rintro ⟨hlatency, ha⟩
        rw [ha, ← hlatency]
    · rw [h.table, or_iff_left]
      rintro ⟨-, ⟨heq, -⟩ | ⟨heq, -⟩⟩
      · exact hpa heq.symm
      · exact hpb heq.symm
  · exact List.forall_mem_append.mpr
      ⟨h.elaborates, List.forall_mem_singleton.mpr ⟨d, hd, hdeclared⟩⟩

omit [Component C] in
lemma linked_nil (slots : List (Slot C)) (declared : List DeclaredLink) :
    Linked slots declared (slots.map fun s => List.replicate s.ports.length none) [] := by
  refine ⟨by simp, ?_, by simp⟩
  intro port peer
  have hnone : PeerTable.get (slots.map fun s => List.replicate s.ports.length none) port =
      none := by
    simp only [PeerTable.get, List.getElem?_map]
    cases slots[port.1.toNat]? with
    | none => rfl
    | some slot =>
      simp only [Option.map_some, Option.bind_some, List.getElem?_replicate]
      split_ifs <;> rfl
  simp [hnone]

omit [Component C] in
lemma linked_of_foldlM {domains : List ClockDomain} {slots : List (Slot C)}
    (hports : ∀ slot ∈ slots, slot.ports.length < 2 ^ 16) {declared : List DeclaredLink}
    {peers : PeerTable} {links : List LinkDecl}
    (h : declared.foldlM (addLink domains slots)
      (slots.map fun s => List.replicate s.ports.length none, []) = .ok (peers, links)) :
    Linked slots declared peers links := by
  refine Machine.foldlM_invariant
    (I := fun state : PeerTable × List LinkDecl => Linked slots declared state.1 state.2)
    ?_ (linked_nil slots declared) h
  rintro ⟨peers, links⟩ d ⟨peers', links'⟩ hd hlink hlinked
  obtain ⟨link, hdeclared, ha, hb, rfl, rfl⟩ := addLink_eq_ok hports hlink
  exact hlinked.addLink hd hdeclared ha hb

/-! ## Sessions -/

/-- A table without gaps keeps its entries. -/
lemma map_some_reduceOption {α : Type*} {row : List (Option α)} (h : ∀ x ∈ row, x.isSome) :
    row.reduceOption.map some = row := by
  induction row with
  | nil => rfl
  | cons x row ih =>
    obtain ⟨a, rfl⟩ := Option.isSome_iff_exists.mp (h x List.mem_cons_self)
    rw [List.reduceOption_cons_of_some, List.map_cons,
      ih fun y hy => h y (List.mem_cons_of_mem _ hy)]

omit [Component C] in
/-- Elaboration leaves no port without a link. -/
lemma isSome_of_unconnected {slots : List (Slot C)} {peers : PeerTable}
    (hshape : peers.map List.length = slots.map fun s => s.ports.length)
    (h : unconnected slots peers = none) : ∀ row ∈ peers, ∀ entry ∈ row, entry.isSome := by
  intro row hrow entry hentry
  obtain ⟨i, hi, rfl⟩ := List.mem_iff_getElem.mp hrow
  obtain ⟨j, hj, rfl⟩ := List.mem_iff_getElem.mp hentry
  have hlength : peers.length = slots.length := by simpa using congrArg List.length hshape
  have hslot : i < slots.length := hlength ▸ hi
  have hports : peers[i].length = slots[i].ports.length := by
    have hat := congrArg (fun l => l[i]?) hshape
    simpa [hi, hslot] using hat
  have hpair : (slots[i], peers[i]) ∈ slots.zip peers := by
    rw [List.mem_iff_getElem]
    exact ⟨i, by simp [hi, hslot], by simp⟩
  have hport : (slots[i].ports[j], peers[i][j]) ∈ slots[i].ports.zip peers[i] := by
    rw [List.mem_iff_getElem]
    exact ⟨j, by simp [hj, ← hports], by simp⟩
  have hnone := List.findSome?_eq_none_iff.mp
    (List.findSome?_eq_none_iff.mp h _ hpair) _ hport
  by_contra hgap
  rw [Option.not_isSome_iff_eq_none] at hgap
  simp [hgap] at hnone

namespace Runtime

/-- The far end of a port's link. -/
def peerAt (rt : Runtime C) (port : PortRef) : Option Peer :=
  rt.peers[port.1.toNat]?.bind fun row => row[port.2.toNat]?

/-- The wiring of the session `rt` is the one the builder `b` declares. -/
structure Wired (b : TopologyBuilder C) (rt : Runtime C) : Prop where
  slots : rt.slots = b.components.map fun d =>
    { path := d.path, typeName := Component.typeName d.component
      ports := Component.ports d.component }
  rows : rt.peers.map List.length = rt.slots.map fun s => s.ports.length
  table : ∀ port peer, rt.peerAt port = some peer ↔ ∃ link ∈ rt.links, link.Joins port peer
  elaborates : ∀ link ∈ rt.links, ∃ d ∈ b.links,
    link.Elaborates (b.components.map Declared.slot) d

lemma wired_of_elaborate [Contracts] {b : TopologyBuilder C} {config : SessionConfig}
    {rt : Runtime C} (h : b.elaborate config = .ok rt) : rt.Wired b := by
  obtain ⟨slots, peers, links, hslots, hlinks, hunconnected, rfl⟩ :=
    TopologyBuilder.elaborate_eq_ok h
  obtain ⟨rfl, hports⟩ := slots_of_foldlM hslots
  have hlinked := linked_of_foldlM hports hlinks
  have hfull := isSome_of_unconnected hlinked.shape hunconnected
  have hrow : ∀ row ∈ peers, row.reduceOption.length = row.length := by
    intro row hmem
    conv_rhs => rw [← map_some_reduceOption (hfull row hmem)]
    simp
  refine ⟨?_, ?_, ?_, hlinked.elaborates⟩
  · simp [fromElaboration, Declared.slot]
  · have hshape := hlinked.shape
    simp only [fromElaboration, List.map_map] at hshape ⊢
    rw [show peers.map (List.length ∘ List.reduceOption) = peers.map List.length from
      List.map_congr_left hrow, hshape]
    rfl
  · intro port peer
    refine Iff.trans ?_ (hlinked.table port peer)
    simp only [peerAt, fromElaboration, PeerTable.get, List.getElem?_map]
    cases hat : peers[port.1.toNat]? with
    | none => simp
    | some row =>
      have hrow := map_some_reduceOption (hfull row (List.mem_of_getElem? hat))
      simp only [Option.map_some, Option.bind_some]
      conv_rhs => rw [← hrow, List.getElem?_map]
      cases row.reduceOption[port.2.toNat]? <;> simp

/-- The spec of a port of the session. -/
def specAt (rt : Runtime C) (port : PortRef) : Option PortSpec :=
  rt.slots[port.1.toNat]?.bind fun slot => slot.ports[port.2.toNat]?

/-- The two ends of a link speak the same protocol. -/
lemma Wired.specAt_peer {b : TopologyBuilder C} {rt : Runtime C} (h : rt.Wired b)
    {port : PortRef} {peer : Peer} (hpeer : rt.peerAt port = some peer) :
    ∃ near far, rt.specAt port = some near ∧
      rt.specAt (peer.component, peer.port) = some far ∧ near.protocol = far.protocol := by
  have hspec : ∀ port, slotSpec (b.components.map Declared.slot) port =
      rt.specAt port := by
    intro port
    simp only [slotSpec, specAt, h.slots, List.getElem?_map]
    cases b.components[port.1.toNat]? <;> rfl
  obtain ⟨link, hlink, -, hends⟩ := (h.table port peer).mp hpeer
  obtain ⟨d, -, hdeclared⟩ := h.elaborates link hlink
  obtain ⟨aSpec, bSpec, ha, hb, -, -, hprotocol, -⟩ := hdeclared.specs
  rw [hspec] at ha hb
  rcases hends with ⟨rfl, hfar⟩ | ⟨rfl, hfar⟩
  · exact ⟨aSpec, bSpec, ha, hfar ▸ hb, hprotocol⟩
  · exact ⟨bSpec, aSpec, hb, hfar ▸ ha, hprotocol.symm⟩

end Runtime

end

end SystemScope
