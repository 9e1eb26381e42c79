import SystemScope.Properties.Routing

/-!
# Which topologies elaborate

Elaboration checks a graph while it builds it: components one by one, then links one by one, each
of them entered at both ends, and in the end that no port was left out.  `WellFormed` says without
any order what the graph must be, in the builder's own names, and `elaborate_iff_wellFormed` that
exactly these graphs elaborate.

The invariant of the loop over the links (`Entered`) ties three things together: the links so far,
the ends they name, and the peers table.  A second link to a port is refused exactly because the
table of a prefix of the links has an entry for each end the prefix names and for no other
port. -/

namespace SystemScope

section

variable {C : Type} [Component C]

/-! ## Well-formed graphs -/

namespace TopologyBuilder

/-- The builder declares a port of this component and name. -/
def Declares (b : TopologyBuilder C) (named : ComponentId × String) (spec : PortSpec) : Prop :=
  ∃ d, b.components[named.1.toNat]? = some d ∧ spec ∈ Component.ports d.component ∧
    spec.name = named.2

/-- A link names declared ports of opposite roles and of one protocol, and a declared clock. -/
structure LinkOk (b : TopologyBuilder C) (link : DeclaredLink) : Prop where
  domain : ∀ domain k, link.latency = some (.cycles domain k) → domain.toNat < b.domains.length
  ends : ∃ near far, b.Declares link.a near ∧ b.Declares link.b far ∧ near.role ≠ far.role ∧
    near.protocol = far.protocol

/-- The ends the links name, each as often as it is named. -/
def linkEnds (links : List DeclaredLink) : List (ComponentId × String) :=
  links.flatMap fun link => [link.a, link.b]

/-- What a topology must be. -/
structure WellFormed (b : TopologyBuilder C) : Prop where
  paths : (b.components.map Declared.path).Nodup
  portCount : ∀ d ∈ b.components, (Component.ports d.component).length ≤ 65535
  portNames : ∀ d ∈ b.components, ((Component.ports d.component).map PortSpec.name).Nodup
  links : ∀ link ∈ b.links, b.LinkOk link
  connected : ∀ named spec, b.Declares named spec → (linkEnds b.links).count named = 1

end TopologyBuilder

open TopologyBuilder

/-! ## Ports by name -/

variable {b : TopologyBuilder C}

lemma declares_of_slotSpec {port : PortRef} {spec : PortSpec}
    (h : slotSpec (b.components.map Declared.slot) port = some spec) :
    b.Declares (port.1, spec.name) spec := by
  obtain ⟨slot, hslot, hport⟩ := Option.bind_eq_some_iff.mp h
  rw [List.getElem?_map, Option.map_eq_some_iff] at hslot
  obtain ⟨d, hd, rfl⟩ := hslot
  exact ⟨d, hd, List.mem_of_getElem? hport, rfl⟩

lemma declares_iff {named : ComponentId × String} {spec : PortSpec}
    (hcount : ∀ d ∈ b.components, (Component.ports d.component).length ≤ 65535) :
    b.Declares named spec ↔
      ∃ port : PortRef, port.1 = named.1 ∧ spec.name = named.2 ∧
        slotSpec (b.components.map Declared.slot) port = some spec := by
  constructor
  · rintro ⟨d, hd, hmem, hname⟩
    obtain ⟨i, hi, hspec⟩ := List.mem_iff_getElem.mp hmem
    have hfits := hcount d (List.mem_of_getElem? hd)
    have hindex : (UInt16.ofNat i).toNat = i :=
      UInt16.toNat_ofNat_of_lt' (by change i < 65536; omega)
    refine ⟨(named.1, UInt16.ofNat i), rfl, hname, ?_⟩
    simp only [slotSpec, List.getElem?_map, hd, Option.map_some, Option.bind_some, hindex,
      Declared.slot]
    rw [List.getElem?_eq_getElem hi, hspec]
  · rintro ⟨port, hid, hname, hspec⟩
    have hdeclares := declares_of_slotSpec hspec
    rwa [hid, hname] at hdeclares

lemma port_unique (hnames : ∀ d ∈ b.components,
      ((Component.ports d.component).map PortSpec.name).Nodup)
    {p q : PortRef} {near far : PortSpec} (hid : p.1 = q.1)
    (hp : slotSpec (b.components.map Declared.slot) p = some near)
    (hq : slotSpec (b.components.map Declared.slot) q = some far) (hname : near.name = far.name) :
    p = q := by
  obtain ⟨slot, hslot, hnear⟩ := Option.bind_eq_some_iff.mp hp
  obtain ⟨slot', hslot', hfar⟩ := Option.bind_eq_some_iff.mp hq
  rw [← hid, hslot] at hslot'
  obtain rfl := Option.some.inj hslot'
  rw [List.getElem?_map, Option.map_eq_some_iff] at hslot
  obtain ⟨d, hd, rfl⟩ := hslot
  have hnodup := hnames d (List.mem_of_getElem? hd)
  have hindex : p.2.toNat = q.2.toNat := by
    have hlt := (List.getElem?_eq_some_iff.mp hnear).1
    refine (List.getElem?_inj (by simpa [Declared.slot] using hlt) hnodup).mp ?_
    simp only [Declared.slot] at hnear hfar
    simp only [List.getElem?_map, hnear, hfar, Option.map_some, hname]
  exact Prod.ext hid (UInt16.toNat_inj.mp hindex)

omit [Component C] in
lemma exists_resolvePort {slots : List (Slot C)} {port : PortRef} {spec : PortSpec}
    (hspec : slotSpec slots port = some spec) :
    ∃ out, resolvePort slots (port.1, spec.name) = .ok out := by
  obtain ⟨slot, hslot, hport⟩ := Option.bind_eq_some_iff.mp hspec
  have hfind : slot.ports.findIdx (fun p => decide (p.name = spec.name)) < slot.ports.length :=
    List.findIdx_lt_length_of_exists ⟨spec, List.mem_of_getElem? hport, by simp⟩
  simp only [resolvePort, hslot, List.getElem?_eq_getElem hfind]
  exact ⟨_, rfl⟩

/-! ## Links -/

lemma unknownDomain_eq_none {domains : List ClockDomain} {latency : Option LinkLatency} :
    unknownDomain domains latency = none ↔
      ∀ domain k, latency = some (.cycles domain k) → domain.toNat < domains.length := by
  rcases latency with - | d | ⟨domain, k⟩ <;> simp [unknownDomain]

omit [Component C] in
lemma unknownDomain_of_addLink {domains : List ClockDomain} {slots : List (Slot C)}
    {state out : PeerTable × List LinkDecl} {declared : DeclaredLink}
    (h : addLink domains slots state declared = .ok out) :
    unknownDomain domains declared.latency = none := by
  unfold addLink at h
  cases hdomain : unknownDomain domains declared.latency with
  | none => rfl
  | some domain =>
    rw [hdomain] at h
    cases h

/-- The state of the loop over the links: the links `done` so far are in order, name no port
twice, and the table has the entries they ask for. -/
structure Entered (b : TopologyBuilder C) (done : List DeclaredLink) (peers : PeerTable)
    (links : List LinkDecl) : Prop where
  linked : Linked (b.components.map Declared.slot) b.links peers links
  pairs : List.Forall₂ (fun link d => link.Elaborates (b.components.map Declared.slot) d) links done
  ok : ∀ d ∈ done, b.LinkOk d
  nodup : (linkEnds done).Nodup

namespace Entered

variable {done : List DeclaredLink} {peers : PeerTable} {links : List LinkDecl}

lemma names_of_elaborates {link : LinkDecl} {d : DeclaredLink}
    (h : link.Elaborates (b.components.map Declared.slot) d) :
    b.Names d.a link.a ∧ b.Names d.b link.b := by
  obtain ⟨near, far, hnear, hfar, hname, hname', -⟩ := h.specs
  exact ⟨names_iff.mpr ⟨h.components.1, near, hnear, hname⟩,
    names_iff.mpr ⟨h.components.2, far, hfar, hname'⟩⟩

omit [Component C] in
lemma mem_linkEnds {named : ComponentId × String} :
    named ∈ linkEnds done ↔ ∃ d ∈ done, named = d.a ∨ named = d.b := by
  simp [linkEnds]

lemma exists_link (h : Entered b done peers links) {d : DeclaredLink} (hd : d ∈ done) :
    ∃ link ∈ links, link.Elaborates (b.components.map Declared.slot) d := by
  obtain ⟨i, hi, rfl⟩ := List.mem_iff_getElem.mp hd
  have hlt : i < links.length := h.pairs.length_eq ▸ hi
  exact ⟨links[i], List.getElem_mem hlt, h.pairs.get hlt hi⟩

section

variable (hnames : ∀ d ∈ b.components, ((Component.ports d.component).map PortSpec.name).Nodup)
include hnames

lemma names_unique {named : ComponentId × String} {p q : PortRef} (hp : b.Names named p)
    (hq : b.Names named q) : p = q := by
  obtain ⟨hid, near, hnear, hname⟩ := names_iff.mp hp
  obtain ⟨hid', far, hfar, hname'⟩ := names_iff.mp hq
  exact port_unique hnames (hid.trans hid'.symm) hnear hfar (hname.trans hname'.symm)

/-- The table has an entry for a port exactly if one of the links so far names it. -/
lemma get_isSome_iff (h : Entered b done peers links) {named : ComponentId × String}
    {port : PortRef} (hport : b.Names named port) :
    (peers.get port).isSome ↔ named ∈ linkEnds done := by
  have hnamed : ∀ {other : ComponentId × String}, b.Names other port → other = named := by
    intro other hother
    obtain ⟨hid, spec, hspec, hname⟩ := names_iff.mp hother
    obtain ⟨hid', spec', hspec', hname'⟩ := names_iff.mp hport
    rw [hspec] at hspec'
    obtain rfl := Option.some.inj hspec'
    exact Prod.ext (hid.symm.trans hid') (hname.symm.trans hname')
  rw [mem_linkEnds, Option.isSome_iff_exists]
  constructor
  · rintro ⟨peer, hpeer⟩
    obtain ⟨link, hlink, -, hends⟩ := (h.linked.table port peer).mp hpeer
    obtain ⟨i, hi, rfl⟩ := List.mem_iff_getElem.mp hlink
    have hlt : i < done.length := h.pairs.length_eq ▸ hi
    have hd : done[i] ∈ done := List.getElem_mem hlt
    have helaborates := h.pairs.get hi hlt
    obtain ⟨ha, hb⟩ := names_of_elaborates helaborates
    rcases hends with ⟨rfl, -⟩ | ⟨rfl, -⟩
    · exact ⟨_, hd, .inl (hnamed ha).symm⟩
    · exact ⟨_, hd, .inr (hnamed hb).symm⟩
  · rintro ⟨d, hd, hend⟩
    obtain ⟨link, hlink, helaborates⟩ := h.exists_link hd
    obtain ⟨ha, hb⟩ := names_of_elaborates helaborates
    rcases hend with rfl | rfl
    · have heq := names_unique hnames hport ha
      exact ⟨_, (h.linked.table port ⟨_, _, _⟩).mpr ⟨_, hlink, rfl, .inl ⟨heq.symm, rfl⟩⟩⟩
    · have heq := names_unique hnames hport hb
      exact ⟨_, (h.linked.table port ⟨_, _, _⟩).mpr ⟨_, hlink, rfl, .inr ⟨heq.symm, rfl⟩⟩⟩

lemma exists_addLink (hcount : ∀ d ∈ b.components, (Component.ports d.component).length ≤ 65535)
    (h : Entered b done peers links) {d : DeclaredLink} (hok : b.LinkOk d)
    (ha : d.a ∉ linkEnds done) (hb : d.b ∉ linkEnds done) :
    ∃ out, addLink b.domains (b.components.map Declared.slot) (peers, links) d = .ok out := by
  have hports : ∀ slot ∈ b.components.map Declared.slot, slot.ports.length < 2 ^ 16 := by
    intro slot hslot
    obtain ⟨c, hc, rfl⟩ := List.mem_map.mp hslot
    exact Nat.lt_succ_of_le (hcount c hc)
  -- Each end resolves to the port it names, with the spec of that name, and is free.
  have hend : ∀ {named : ComponentId × String} {spec : PortSpec}, b.Declares named spec →
      named ∉ linkEnds done → ∃ port label,
        resolvePort (b.components.map Declared.slot) named = .ok (port, spec, label) ∧
          (peers.get port).isSome = false := by
    intro named spec hdeclares hfree
    obtain ⟨port, hid, hname, hspec⟩ := (declares_iff hcount).mp hdeclares
    obtain ⟨⟨port', spec', label⟩, hresolve⟩ := exists_resolvePort hspec
    rw [hid, hname] at hresolve
    obtain ⟨hid', hspec', hname'⟩ := resolvePort_eq_ok hports hresolve
    have heq : port = port' :=
      port_unique hnames (hid.trans hid'.symm) hspec hspec' (hname.trans hname'.symm)
    subst heq
    rw [hspec] at hspec'
    obtain rfl := Option.some.inj hspec'
    refine ⟨port, label, hresolve, ?_⟩
    rw [← Bool.not_eq_true, h.get_isSome_iff hnames (names_iff.mpr ⟨hid, spec, hspec, hname⟩)]
    exact hfree
  obtain ⟨near, far, hnear, hfar, hrole, hprotocol⟩ := hok.ends
  obtain ⟨p, label, hp, hpfree⟩ := hend hnear ha
  obtain ⟨q, label', hq, hqfree⟩ := hend hfar hb
  refine ⟨(enterLink peers p q d.latency, links ++ [⟨p, q, d.latency⟩]), ?_⟩
  unfold addLink
  rw [unknownDomain_eq_none.mpr hok.domain]
  simp only [hp, hq]
  change (if near.role = far.role then _ else _) = _
  simp only [if_neg hrole, hprotocol, hpfree, hqfree, ne_eq, not_true_eq_false, if_false,
    Bool.false_eq_true]
  rfl

/-- The loop goes on from a link to the next. -/
lemma addLink (hports : ∀ slot ∈ b.components.map Declared.slot, slot.ports.length < 2 ^ 16)
    (h : Entered b done peers links) {d : DeclaredLink} (hd : d ∈ b.links) {peers' : PeerTable}
    {links' : List LinkDecl}
    (hlink : SystemScope.addLink b.domains (b.components.map Declared.slot) (peers, links) d =
      .ok (peers', links')) : Entered b (done ++ [d]) peers' links' := by
  have hdomain := unknownDomain_eq_none.mp (unknownDomain_of_addLink hlink)
  obtain ⟨link, helaborates, ha, hb, rfl, rfl⟩ := addLink_eq_ok hports hlink
  obtain ⟨hnamea, hnameb⟩ := names_of_elaborates helaborates
  obtain ⟨near, far, hnear, hfar, hname, hname', hprotocol, hrole⟩ := helaborates.specs
  have hfree : d.a ∉ linkEnds done ∧ d.b ∉ linkEnds done := by
    rw [← h.get_isSome_iff hnames hnamea, ← h.get_isSome_iff hnames hnameb, ha, hb]
    simp
  have hne : d.a ≠ d.b := by
    intro heq
    rw [heq] at hnamea
    have hsame := names_unique hnames hnamea hnameb
    rw [hsame, hfar] at hnear
    exact hrole (congrArg PortSpec.role (Option.some.inj hnear)).symm
  refine ⟨h.linked.addLink hd helaborates ha hb, ?_, ?_, ?_⟩
  · exact List.rel_append h.pairs (.cons helaborates .nil)
  · intro e he
    rcases List.mem_append.mp he with he | he
    · exact h.ok e he
    · rw [List.mem_singleton.mp he]
      have hdnear := declares_of_slotSpec hnear
      have hdfar := declares_of_slotSpec hfar
      rw [← hnamea.1, hname] at hdnear
      rw [← hnameb.1, hname'] at hdfar
      exact ⟨hdomain, near, far, hdnear, hdfar, hrole, hprotocol⟩
  · simp only [linkEnds, List.flatMap_append, List.flatMap_singleton]
    refine List.nodup_append.mpr ⟨h.nodup, by simp [hne], ?_⟩
    intro named hmem other hother heq
    subst heq
    rcases List.mem_pair.mp hother with rfl | rfl
    · exact hfree.1 hmem
    · exact hfree.2 hmem

end

end Entered

/-! ## Connected graphs -/

omit [Component C] in
/-- Nothing is left out if every port has an entry. -/
lemma unconnected_eq_none {slots : List (Slot C)} {peers : PeerTable}
    (h : ∀ port spec, slotSpec slots port = some spec → (peers.get port).isSome)
    (hcount : slots.length ≤ ComponentId.runtime.toNat)
    (hports : ∀ slot ∈ slots, slot.ports.length < 2 ^ 16) : unconnected slots peers = none := by
  rw [unconnected, List.findSome?_eq_none_iff]
  rintro ⟨slot, row⟩ hrow
  rw [List.findSome?_eq_none_iff]
  rintro ⟨spec, entry⟩ hentry
  obtain ⟨i, hi, heq⟩ := List.mem_iff_getElem.mp hrow
  obtain ⟨j, hj, heq'⟩ := List.mem_iff_getElem.mp hentry
  rw [List.length_zip, Nat.lt_min] at hi hj
  rw [List.getElem_zip, Prod.mk.injEq] at heq heq'
  obtain ⟨rfl, rfl⟩ := heq
  obtain ⟨rfl, rfl⟩ := heq'
  have hid : (UInt32.ofNat i).toNat = i := by
    refine UInt32.toNat_ofNat_of_lt' (lt_of_lt_of_le hi.1 (hcount.trans ?_))
    decide
  have hindex : (UInt16.ofNat j).toNat = j :=
    UInt16.toNat_ofNat_of_lt' (hj.1.trans (hports _ (List.getElem_mem hi.1)))
  have hsome := h (UInt32.ofNat i, UInt16.ofNat j) slots[i].ports[j] (by
    simp only [slotSpec, hid, hindex, List.getElem?_eq_getElem hi.1, Option.bind_some,
      List.getElem?_eq_getElem hj.1])
  simp only [PeerTable.get, hid, hindex, List.getElem?_eq_getElem hi.2, Option.bind_some,
    List.getElem?_eq_getElem hj.2, Option.join_some] at hsome
  change (if peers[i][j].isNone then _ else _) = none
  rw [if_neg]
  simpa [Option.isSome_iff_ne_none] using hsome

/-- The state of the loop before the first link. -/
lemma entered_nil (b : TopologyBuilder C) :
    Entered b [] ((b.components.map Declared.slot).map fun s => List.replicate s.ports.length none)
      [] :=
  ⟨linked_nil _ _, .nil, by simp, by simp [linkEnds]⟩

variable [Contracts]

namespace TopologyBuilder

/-- What elaboration has established when it succeeds. -/
lemma entered_of_elaborate {config : SessionConfig} {rt : Runtime C}
    (h : b.elaborate config = .ok rt) :
    (b.components.map Declared.path).Nodup ∧
      (∀ d ∈ b.components, (Component.ports d.component).length ≤ 65535 ∧
        ((Component.ports d.component).map PortSpec.name).Nodup) ∧
      ∃ peers, Entered b b.links peers rt.links ∧
        unconnected (b.components.map Declared.slot) peers = none := by
  obtain ⟨slots, peers, links, hslots, hlinks, hunconnected, rfl⟩ := elaborate_eq_ok h
  have hports := (slots_of_foldlM hslots).2
  obtain ⟨rfl, hpaths, hcomponents⟩ := foldlM_addSlot_eq_ok_iff.mp hslots
  refine ⟨hpaths, hcomponents, peers, ?_, hunconnected⟩
  refine Machine.foldlM_prefix_invariant
    (I := fun done (state : PeerTable × List LinkDecl) => Entered b done state.1 state.2)
    ?_ (entered_nil b) hlinks
  rintro done d rest ⟨peers, links⟩ ⟨peers', links'⟩ hsplit hlink hdone
  exact hdone.addLink (fun d hd => (hcomponents d hd).2) hports (by simp [hsplit]) hlink

lemma wellFormed_of_elaborate {config : SessionConfig} {rt : Runtime C}
    (h : b.elaborate config = .ok rt) : b.WellFormed := by
  obtain ⟨hpaths, hcomponents, peers, hentered, hunconnected⟩ := entered_of_elaborate h
  have hcount : ∀ d ∈ b.components, (Component.ports d.component).length ≤ 65535 :=
    fun d hd => (hcomponents d hd).1
  have hnames : ∀ d ∈ b.components, ((Component.ports d.component).map PortSpec.name).Nodup :=
    fun d hd => (hcomponents d hd).2
  refine ⟨hpaths, hcount, hnames, hentered.ok, ?_⟩
  intro named spec hdeclares
  obtain ⟨port, hid, hname, hspec⟩ := (declares_iff hcount).mp hdeclares
  have hget : (peers.get port).isSome := by
    obtain ⟨row, hrow, hlt⟩ := inRange_of_slotSpec hentered.linked.shape hspec
    have hentry := isSome_of_unconnected hentered.linked.shape hunconnected row
      (List.mem_of_getElem? hrow) row[port.2.toNat] (List.getElem_mem hlt)
    simpa [PeerTable.get, hrow, hlt] using hentry
  exact List.count_eq_one_of_mem hentered.nodup
    ((hentered.get_isSome_iff hnames (names_iff.mpr ⟨hid, spec, hspec, hname⟩)).mp hget)

lemma WellFormed.elaborates (h : b.WellFormed) (config : SessionConfig) :
    ∃ rt, b.elaborate config = .ok rt := by
  have hslots : b.components.foldlM addSlot [] = .ok (b.components.map Declared.slot) :=
    foldlM_addSlot_eq_ok_iff.mpr ⟨rfl, h.paths, fun d hd => ⟨h.portCount d hd, h.portNames d hd⟩⟩
  have hports := (slots_of_foldlM hslots).2
  have hnodup : (linkEnds b.links).Nodup := by
    rw [List.nodup_iff_count_le_one]
    intro named
    by_cases hmem : named ∈ linkEnds b.links
    · obtain ⟨link, hlink, hend⟩ := Entered.mem_linkEnds.mp hmem
      obtain ⟨near, far, hnear, hfar, -⟩ := (h.links link hlink).ends
      rcases hend with rfl | rfl
      · exact (h.connected _ near hnear).le
      · exact (h.connected _ far hfar).le
    · rw [List.count_eq_zero.mpr hmem]
      exact Nat.zero_le 1
  have hstep : ∀ done d rest (state : PeerTable × List LinkDecl), b.links = done ++ d :: rest →
      Entered b done state.1 state.2 →
      ∃ state', addLink b.domains (b.components.map Declared.slot) state d = .ok state' ∧
        Entered b (done ++ [d]) state'.1 state'.2 := by
    rintro done d rest ⟨peers, links⟩ hsplit hdone
    have hd : d ∈ b.links := by simp [hsplit]
    have hends : (linkEnds done ++ ([d.a, d.b] ++ linkEnds rest)).Nodup := by
      simpa [hsplit, linkEnds] using hnodup
    have hfree := List.disjoint_of_nodup_append hends
    obtain ⟨⟨peers', links'⟩, hlink⟩ := hdone.exists_addLink h.portNames h.portCount
      (h.links d hd) (fun hmem => hfree hmem (by simp)) (fun hmem => hfree hmem (by simp))
    exact ⟨_, hlink, hdone.addLink h.portNames hports hd hlink⟩
  obtain ⟨⟨peers, links⟩, hlinks, hentered⟩ := Machine.foldlM_total
    (I := fun done (state : PeerTable × List LinkDecl) => Entered b done state.1 state.2)
    (s := ((b.components.map Declared.slot).map fun s => List.replicate s.ports.length none, []))
    hstep (entered_nil b)
  have hunconnected : unconnected (b.components.map Declared.slot) peers = none := by
    refine unconnected_eq_none ?_ (by simpa using b.ids_fit) hports
    intro port spec hspec
    have hone := h.connected _ spec (declares_of_slotSpec hspec)
    have hport : b.Names (port.1, spec.name) port := names_iff.mpr ⟨rfl, spec, hspec, rfl⟩
    rw [hentered.get_isSome_iff h.portNames hport]
    exact List.one_le_count_iff.mp hone.ge
  refine ⟨.fromElaboration b.clock b.domains (b.components.map Declared.slot)
    (peers.map List.reduceOption) links config, ?_⟩
  simp only [elaborate, hslots, bind, Except.bind, hlinks, hunconnected]

end TopologyBuilder

/-! ## The peers table of a session -/

namespace Runtime

/-- The peers table of the session `rt` of the builder `b`: it has an entry for every port, and
for no other; peers are each other's peer, with the same latency, and never the port itself; and
the entries are the declared links, read from either end. -/
structure Paired (b : TopologyBuilder C) (rt : Runtime C) : Prop where
  total : ∀ port, (rt.peerAt port).isSome ↔ (slotSpec (b.components.map Declared.slot) port).isSome
  symmetric : ∀ port peer, rt.peerAt port = some peer →
    rt.peerAt (peer.component, peer.port) =
      some { component := port.1, port := port.2, latency := peer.latency }
  ne_self : ∀ port peer, rt.peerAt port = some peer → (peer.component, peer.port) ≠ port
  declared : ∀ port peer, rt.peerAt port = some peer ↔
    ∃ link ∈ b.links, link.latency = peer.latency ∧
      (b.Names link.a port ∧ b.Names link.b (peer.component, peer.port) ∨
        b.Names link.b port ∧ b.Names link.a (peer.component, peer.port))

lemma paired_of_elaborate {config : SessionConfig} {rt : Runtime C}
    (h : b.elaborate config = .ok rt) : rt.Paired b := by
  have hwired := wired_of_elaborate h
  obtain ⟨-, hcomponents, peers, hentered, -⟩ := entered_of_elaborate h
  have hnames : ∀ d ∈ b.components, ((Component.ports d.component).map PortSpec.name).Nodup :=
    fun d hd => (hcomponents d hd).2
  refine ⟨?_, ?_, ?_, ?_⟩
  · intro port
    have hrow := congrArg (fun rows => rows[port.1.toNat]?) hwired.rows
    simp only [hwired.slots, List.map_map, List.getElem?_map] at hrow
    simp only [peerAt, slotSpec, List.getElem?_map]
    cases hpeers : rt.peers[port.1.toNat]? with
    | none =>
      cases hslot : b.components[port.1.toNat]? with
      | none => simp
      | some d => simp [hpeers, hslot] at hrow
    | some row =>
      cases hslot : b.components[port.1.toNat]? with
      | none => simp [hpeers, hslot] at hrow
      | some d =>
        simp only [hpeers, hslot, Option.map_some, Option.some.injEq, Function.comp_apply] at hrow
        simp [Declared.slot, hrow]
  · intro port peer hpeer
    obtain ⟨link, hlink, hlatency, hends⟩ := (hwired.table port peer).mp hpeer
    refine (hwired.table _ _).mpr ⟨link, hlink, hlatency, ?_⟩
    rcases hends with ⟨hnear, hfar⟩ | ⟨hnear, hfar⟩
    · exact .inr ⟨hfar, hnear⟩
    · exact .inl ⟨hfar, hnear⟩
  · intro port peer hpeer hself
    obtain ⟨link, hlink, -, hends⟩ := (hwired.table port peer).mp hpeer
    obtain ⟨d, -, helaborates⟩ := hwired.elaborates link hlink
    obtain ⟨near, far, hnear, hfar, -, -, -, hrole⟩ := helaborates.specs
    have hsame : link.a = link.b := by
      rcases hends with ⟨ha, hb⟩ | ⟨hb, ha⟩
      · rw [ha, hb, hself]
      · rw [ha, hb, hself]
    rw [hsame, hfar] at hnear
    exact hrole (congrArg PortSpec.role (Option.some.inj hnear)).symm
  · intro port peer
    rw [hwired.table]
    constructor
    · rintro ⟨link, hlink, hlatency, hends⟩
      obtain ⟨d, hd, helaborates⟩ := hwired.elaborates link hlink
      obtain ⟨ha, hb⟩ := Entered.names_of_elaborates helaborates
      refine ⟨d, hd, helaborates.latency.symm.trans hlatency.symm, ?_⟩
      rcases hends with ⟨rfl, hfar⟩ | ⟨rfl, hfar⟩
      · exact .inl ⟨ha, hfar ▸ hb⟩
      · exact .inr ⟨hb, hfar ▸ ha⟩
    · rintro ⟨d, hd, hlatency, hends⟩
      obtain ⟨link, hlink, helaborates⟩ := hentered.exists_link hd
      obtain ⟨ha, hb⟩ := Entered.names_of_elaborates helaborates
      refine ⟨link, hlink, hlatency.symm.trans helaborates.latency.symm, ?_⟩
      rcases hends with ⟨hnear, hfar⟩ | ⟨hnear, hfar⟩
      · exact .inl ⟨Entered.names_unique hnames ha hnear, Entered.names_unique hnames hb hfar⟩
      · exact .inr ⟨Entered.names_unique hnames hb hnear, Entered.names_unique hnames ha hfar⟩

omit [Contracts] in
/-- Wiring is about parts of a session that no call changes. -/
lemma Wired.of_fixed {rt rt' : Runtime C} (h : rt.Wired b) (hfixed : Fixed rt rt') :
    rt'.Wired b where
  slots := hfixed.slots.trans h.slots
  rows := by rw [hfixed.peers, hfixed.slots, h.rows]
  table port peer := by rw [peerAt, hfixed.peers, hfixed.links, ← h.table, peerAt]
  elaborates link hlink := h.elaborates link (hfixed.links ▸ hlink)

omit [Contracts] in
/-- A running component has one peer per port. -/
lemma Wired.peers_of_enter {rt : Runtime C} (h : rt.Wired b) {me : ComponentId} {at_ : TraceAt}
    {c : C} {ctx : Ctx} (henter : rt.enter me at_ = some (c, ctx)) :
    ctx.peers.length = ctx.ports.length := by
  obtain ⟨slot, row, rng, -, hslot, hrow, -, rfl⟩ := enter_eq_some.mp henter
  have hlength := congrArg (fun rows => rows[me.toNat]?) h.rows
  simpa [hslot, hrow] using hlength

end Runtime

/-- **Exactly the well-formed topologies elaborate.**  The peers table of the session is the
declared links, each of them entered at both ends, and a fixpoint-free involution on the ports.
However the session is driven, a component that runs has one peer for each of its ports. -/
theorem elaborate_iff_wellFormed (b : TopologyBuilder C) (config : SessionConfig) :
    ((∃ rt, b.elaborate config = .ok rt) ↔ b.WellFormed) ∧
    ∀ rt, b.elaborate config = .ok rt →
      rt.Paired b ∧
      ∀ calls me at_ c ctx, (Machine.exec Runtime.call rt calls).2.enter me at_ = some (c, ctx) →
        ctx.peers.length = ctx.ports.length := by
  refine ⟨⟨fun ⟨rt, h⟩ => wellFormed_of_elaborate h, fun h => h.elaborates config⟩, ?_⟩
  intro rt h
  refine ⟨Runtime.paired_of_elaborate h, fun calls me at_ c ctx henter => ?_⟩
  have hfixed := Runtime.exec_fixed rt calls
  have hwired : (Machine.exec Runtime.call rt calls).2.Wired b :=
    (Runtime.wired_of_elaborate h).of_fixed hfixed
  exact hwired.peers_of_enter henter

end

end SystemScope
