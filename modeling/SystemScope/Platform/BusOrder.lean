import SystemScope.Platform.BusNet

/-!
# Arbitration does not depend on dispatch order

Requests that arrive in one `Request` phase are queued in the order the runtime dispatches them.
The bus looks at one master's requests only: whether it accepts a request depends on the requests
of the same master before it (`Fresh`), and so does where the request is queued
(`queue_deliver`).  So any two orders that keep every master's own order leave the same bus
behind, and the arbitration that follows is the same.
-/

namespace SystemScope.Platform

open MemV1

namespace MultiMasterBus

variable {config : MultiMasterBusConfig}

/-- Delivers requests in the `Request` phase of one tick, in the order of a list.  There is
nothing behind a request that faults the session. -/
def deliver (bus : MultiMasterBus config) :
    List (config.Master × MemV1.MemMsg) → Option (List Call × MultiMasterBus config)
  | [] => some ([], bus)
  | (master, msg) :: rest =>
    match (bus.handleEvent (.message (config.masterPort master) (.memV1 msg))).perform
        (surroundings .request) with
    | (calls, .ok (), bus') => (deliver bus' rest).map fun (calls', b) => (calls ++ calls', b)
    | (_, .error _, _) => none

/-- The requests of one master, in order. -/
def own (m : config.Master) (requests : List (config.Master × MemV1.MemMsg)) :
    List MemV1.MemMsg :=
  (requests.filter fun d => d.1 = m).map Prod.snd

/-- The master may send these requests one after the other, with these transactions live. -/
def Fresh (config : MultiMasterBusConfig) : (TxnId → Bool) → List MemV1.MemMsg → Prop
  | _, [] => True
  | live, msg :: rest =>
    msg.WellFormed ∧ live msg.txn = false ∧
      Fresh config (fun txn => live txn || ((routed config msg).isSome && txn = msg.txn)) rest

/-- What the bus asks for when a request arrives. -/
def arrivalCalls (d : config.Master × MemV1.MemMsg) : List Call :=
  if (routed config d.2).isSome then [.woke .now .transfer arbitrateToken] else refusal d.1 d.2

/-- The requests of a list that are queued for a region. -/
def queuedFor (r : config.RegionIndex) (msgs : List MemV1.MemMsg) : List MemV1.MemMsg :=
  msgs.filterMap fun msg =>
    match routed config msg with
    | some (r', offset) => if r' = r then some (atOffset offset msg) else none
    | none => none

/-- The bus with one more request, if a region contains it. -/
def arrive (bus : MultiMasterBus config) (m : config.Master) (msg : MemV1.MemMsg) :
    MultiMasterBus config :=
  match routed config msg with
  | some (r, offset) => bus.enqueue r m (atOffset offset msg)
  | none => bus

lemma own_cons (m : config.Master) (d : config.Master × MemV1.MemMsg)
    (requests : List (config.Master × MemV1.MemMsg)) :
    own m (d :: requests) = if d.1 = m then d.2 :: own m requests else own m requests := by
  unfold own
  rw [List.filter_cons]
  by_cases h : d.1 = m
  · simp [h]
  · simp [h]

/-- A queued request is live from then on, and changes nothing else about what is live. -/
lemma isLive_enqueue {bus : MultiMasterBus config} {r : config.RegionIndex}
    {master m : config.Master} {msg : MemV1.MemMsg} {write : Bool} {txn txn' : TxnId}
    (hmsg : requestTxn msg = some (txn', write)) :
    (bus.enqueue r master msg).isLive m txn =
      (bus.isLive m txn || decide (m = master ∧ txn = txn')) := by
  rw [Bool.eq_iff_iff, Bool.or_eq_true, isLive_iff, isLive_iff, decide_eq_true_iff]
  simp only [active_enqueue, queue_enqueue]
  constructor
  · rintro ⟨r', hactive | ⟨q, hq, hw⟩⟩
    · exact .inl ⟨r', .inl hactive⟩
    · split_ifs at hq with hcond
      · rcases List.mem_append.mp hq with hq | hq
        · exact .inl ⟨r', .inr ⟨q, hq, hw⟩⟩
        · obtain rfl := List.mem_singleton.mp hq
          obtain ⟨w, hw⟩ := hw
          rw [hmsg] at hw
          cases hw
          exact .inr ⟨hcond.2, rfl⟩
      · exact .inl ⟨r', .inr ⟨q, hq, hw⟩⟩
  · rintro (⟨r', hactive | ⟨q, hq, hw⟩⟩ | ⟨rfl, rfl⟩)
    · exact ⟨r', .inl hactive⟩
    · refine ⟨r', .inr ⟨q, ?_, hw⟩⟩
      split_ifs
      · exact List.mem_append_left _ hq
      · exact hq
    · refine ⟨r, .inr ⟨msg, ?_, write, hmsg⟩⟩
      rw [if_pos ⟨rfl, rfl⟩]
      exact List.mem_append_right _ (List.mem_singleton.mpr rfl)

lemma isLive_arrive {bus : MultiMasterBus config} {master : config.Master} {msg : MemV1.MemMsg}
    (hwell : msg.WellFormed) (m : config.Master) (txn : TxnId) :
    (bus.arrive master msg).isLive m txn = (bus.isLive m txn ||
      (decide (m = master) && ((routed config msg).isSome && txn = msg.txn))) := by
  unfold arrive
  cases hrouted : routed config msg with
  | none => simp
  | some p =>
    obtain ⟨r, offset⟩ := p
    obtain ⟨write, htxn⟩ := requestTxn_of_wellFormed hwell
    rw [isLive_enqueue (by rwa [requestTxn_atOffset])]
    simp [Bool.decide_and]

lemma perform_arrival_iff (hconfig : config.Accepted) {bus bus' : MultiMasterBus config}
    {master : config.Master} {msg : MemV1.MemMsg} {calls : List Call} :
    (bus.handleEvent (.message (config.masterPort master) (.memV1 msg))).perform
        (surroundings .request) = (calls, .ok (), bus') ↔
      msg.WellFormed ∧ bus.isLive master msg.txn = false ∧ calls = arrivalCalls (master, msg) ∧
        bus' = bus.arrive master msg := by
  have hport := hconfig.toNat_masterPort master
  have hm : (config.masterPort master).toNat < config.masters.length := hport ▸ master.isLt
  obtain heq : (⟨(config.masterPort master).toNat, hm⟩ : config.Master) = master := Fin.ext hport
  simp only [handleEvent, dif_pos hm, heq, perform_request_iff, arrivalCalls, arrive]
  cases hrouted : routed config msg with
  | none => simp [surroundings, and_left_comm]
  | some p =>
    obtain ⟨r, offset⟩ := p
    simp only [surroundings, true_and, Option.some.injEq, Prod.mk.injEq,
      Option.isSome_some, if_true]
    grind

/-- Requests are accepted if every master may send its own; then everything about the result is
said by the requests alone. -/
lemma deliver_eq_some_iff (hconfig : config.Accepted)
    {requests : List (config.Master × MemV1.MemMsg)} {bus bus' : MultiMasterBus config}
    {calls : List Call} :
    bus.deliver requests = some (calls, bus') ↔
      (∀ m, Fresh config (bus.isLive m) (own m requests)) ∧
        calls = requests.flatMap arrivalCalls ∧
        bus' = requests.foldl (fun b d => b.arrive d.1 d.2) bus := by
  induction requests generalizing bus calls with
  | nil => simp [deliver, own, Fresh, eq_comm]
  | cons d requests ih =>
    obtain ⟨master, msg⟩ := d
    have hfresh : (∀ m, Fresh config (bus.isLive m) (own m ((master, msg) :: requests))) ↔
        (msg.WellFormed ∧ bus.isLive master msg.txn = false) ∧
          ∀ m, Fresh config ((bus.arrive master msg).isLive m) (own m requests) := by
      have hown : ∀ m : config.Master, msg.WellFormed →
          (fun txn => bus.isLive m txn ||
            (decide (m = master) && ((routed config msg).isSome && decide (txn = msg.txn)))) =
          (bus.arrive master msg).isLive m := fun m hwell =>
        funext fun txn => (isLive_arrive hwell m txn).symm
      constructor
      · intro h
        have hmaster := h master
        rw [own_cons, if_pos rfl] at hmaster
        obtain ⟨hwell, hlive, hrest⟩ := hmaster
        refine ⟨⟨hwell, hlive⟩, fun m => ?_⟩
        rw [← hown m hwell]
        by_cases hm : m = master
        · subst hm
          simpa using hrest
        · have hother := h m
          rw [own_cons, if_neg (Ne.symm hm)] at hother
          simpa [hm] using hother
      · rintro ⟨⟨hwell, hlive⟩, hrest⟩ m
        have hm := hrest m
        rw [← hown m hwell] at hm
        rw [own_cons]
        by_cases heq : master = m
        · subst heq
          rw [if_pos rfl]
          exact ⟨hwell, hlive, by simpa using hm⟩
        · rw [if_neg heq]
          simpa [Ne.symm heq] using hm
    rw [hfresh]
    unfold deliver
    split
    next next b hperform =>
      obtain ⟨hwell, hlive, rfl, rfl⟩ := (perform_arrival_iff hconfig).mp hperform
      simp only [Option.map_eq_some_iff, Prod.exists, Prod.mk.injEq, List.flatMap_cons,
        List.foldl_cons]
      grind
    next e b hperform =>
      have hno : ¬(msg.WellFormed ∧ bus.isLive master msg.txn = false) := by
        rintro ⟨hwell, hlive⟩
        have hok := (perform_arrival_iff hconfig).mpr ⟨hwell, hlive, rfl, rfl⟩
        rw [hperform] at hok
        cases hok
      simp [hno]

/-! ## The bus left behind -/

lemma queue_deliver (requests : List (config.Master × MemV1.MemMsg)) (bus : MultiMasterBus config)
    (r : config.RegionIndex) (m : config.Master) :
    ((requests.foldl (fun b d => b.arrive d.1 d.2) bus).region r).queue m =
      (bus.region r).queue m ++ queuedFor r (own m requests) := by
  induction requests generalizing bus with
  | nil => simp [own, queuedFor]
  | cons d requests ih =>
    obtain ⟨master, msg⟩ := d
    rw [List.foldl_cons, ih, own_cons]
    unfold arrive queuedFor
    cases hrouted : routed config msg with
    | none =>
      by_cases hm : master = m
      · simp [hm, hrouted]
      · simp [hm]
    | some p =>
      obtain ⟨r', offset⟩ := p
      simp only [queue_enqueue]
      by_cases hm : master = m
      · by_cases hr : r' = r
        · simp [hm, hr, hrouted]
        · simp [hm, hr, hrouted, Ne.symm hr]
      · simp [hm, Ne.symm hm]

/-- Nothing else of the bus changes. -/
lemma arrive_region (bus : MultiMasterBus config) (m : config.Master) (msg : MemV1.MemMsg)
    (r : config.RegionIndex) :
    ((bus.arrive m msg).region r).active = (bus.region r).active ∧
      ((bus.arrive m msg).region r).rrCursor = (bus.region r).rrCursor := by
  unfold arrive
  split
  · simp
  · simp

@[simp] lemma nextDownstream_arrive (bus : MultiMasterBus config) (m : config.Master)
    (msg : MemV1.MemMsg) : (bus.arrive m msg).nextDownstream = bus.nextDownstream := by
  unfold arrive
  split
  · rfl
  · rfl

lemma deliver_region (requests : List (config.Master × MemV1.MemMsg)) (bus : MultiMasterBus config)
    (r : config.RegionIndex) :
    ((requests.foldl (fun b d => b.arrive d.1 d.2) bus).region r).active =
        (bus.region r).active ∧
      ((requests.foldl (fun b d => b.arrive d.1 d.2) bus).region r).rrCursor =
        (bus.region r).rrCursor := by
  induction requests generalizing bus with
  | nil => exact ⟨rfl, rfl⟩
  | cons d requests ih =>
    obtain ⟨hactive, hcursor⟩ := ih (bus.arrive d.1 d.2)
    obtain ⟨hactive', hcursor'⟩ := bus.arrive_region d.1 d.2 r
    exact ⟨hactive.trans hactive', hcursor.trans hcursor'⟩

lemma nextDownstream_deliver (requests : List (config.Master × MemV1.MemMsg))
    (bus : MultiMasterBus config) :
    (requests.foldl (fun b d => b.arrive d.1 d.2) bus).nextDownstream = bus.nextDownstream := by
  induction requests generalizing bus with
  | nil => rfl
  | cons d requests ih => rw [List.foldl_cons, ih, nextDownstream_arrive]

/-- Orders that agree on every master's own requests leave the same bus behind. -/
lemma foldl_arrive_eq {requests requests' : List (config.Master × MemV1.MemMsg)}
    (hown : ∀ m, own m requests = own m requests') (bus : MultiMasterBus config) :
    requests.foldl (fun b d => b.arrive d.1 d.2) bus =
      requests'.foldl (fun b d => b.arrive d.1 d.2) bus := by
  refine ext_region (fun r => ?_)
    ((nextDownstream_deliver requests bus).trans (nextDownstream_deliver requests' bus).symm)
  obtain ⟨hactive, hcursor⟩ := deliver_region requests bus r
  obtain ⟨hactive', hcursor'⟩ := deliver_region requests' bus r
  refine RegionState.ext_queue (hactive.trans hactive'.symm) (fun m => ?_)
    (hcursor.trans hcursor'.symm)
  rw [queue_deliver, queue_deliver, hown]

lemma count_own (m : config.Master) (msg : MemV1.MemMsg)
    (requests : List (config.Master × MemV1.MemMsg)) :
    (own m requests).count msg = requests.count (m, msg) := by
  induction requests with
  | nil => rfl
  | cons d requests ih =>
    obtain ⟨master, msg'⟩ := d
    rw [own_cons, List.count_cons, ← ih]
    by_cases hm : master = m
    · simp [hm, List.count_cons]
    · simp [hm]

/-- Orders that agree on every master's own requests are orders of the same requests. -/
lemma perm_of_own {requests requests' : List (config.Master × MemV1.MemMsg)}
    (hown : ∀ m, own m requests = own m requests') : requests.Perm requests' := by
  rw [List.perm_iff_count]
  intro d
  rw [← count_own, ← count_own, hown]

/-! ## The pass, and the passes after it -/

lemma pass_nil {rs : List config.RegionIndex} {bus : MultiMasterBus config}
    (h : ∀ r ∈ rs, (bus.region r).active ≠ none ∨ (bus.region r).select = none) :
    Pass rs bus [] bus := by
  induction rs with
  | nil => exact .nil
  | cons r rs ih =>
    obtain ⟨hr, hrs⟩ := List.forall_mem_cons.mp h
    exact .skip hr (ih hrs)

/-- After a pass there is nothing left to do. -/
lemma perform_wake_again {bus bus' : MultiMasterBus config} {env env' : Surroundings}
    (henv' : env'.phase = .transfer) {calls : List Call}
    (h : (bus.handleEvent (.wake arbitrateToken)).perform env = (calls, .ok (), bus')) :
    (bus'.handleEvent (.wake arbitrateToken)).perform env' = ([], .ok (), bus') := by
  have haccepts := perform_handleEvent_iff.mp h
  generalize env.phase = phase at haccepts
  cases haccepts with
  | arbitrate hpass =>
    have hnil := pass_nil (hpass.done (List.nodup_finRange _))
    refine perform_handleEvent_iff.mpr ?_
    rw [henv']
    exact .arbitrate hnil

/-- Arbitration is independent of dispatch order: orders of the requests of one `Request` phase
that keep every master's own order are accepted alike and lead to the same bus, which asks for the
same in every order; so the arbitration of that tick is the same too, and further wakes in its
`Transfer` phase do nothing. -/
theorem arbitration_order_independent {start : MultiMasterBus config}
    (hnew : new config = .ok start) (bus : MultiMasterBus config)
    {requests requests' : List (config.Master × MemV1.MemMsg)}
    (hown : ∀ m, own m requests = own m requests') :
    ((bus.deliver requests).isSome ↔ (bus.deliver requests').isSome) ∧
    (∀ calls b calls' b', bus.deliver requests = some (calls, b) →
      bus.deliver requests' = some (calls', b') → b' = b ∧ calls'.Perm calls ∧
        ∀ env, (b'.handleEvent (.wake arbitrateToken)).perform env =
          (b.handleEvent (.wake arbitrateToken)).perform env) ∧
    ∀ (b b' : MultiMasterBus config) (env env' : Surroundings) (calls : List Call),
      env'.phase = .transfer →
      (b.handleEvent (.wake arbitrateToken)).perform env = (calls, .ok (), b') →
      (b'.handleEvent (.wake arbitrateToken)).perform env' = ([], .ok (), b') := by
  obtain ⟨hconfig, -⟩ := new_eq_ok.mp hnew
  refine ⟨?_, ?_, fun b b' env env' calls henv' h => perform_wake_again henv' h⟩
  · have hiff (l : List (config.Master × MemV1.MemMsg)) : (bus.deliver l).isSome ↔
        ∀ m, Fresh config (bus.isLive m) (own m l) := by
      rw [Option.isSome_iff_exists]
      constructor
      · rintro ⟨⟨calls, b⟩, h⟩
        exact ((deliver_eq_some_iff hconfig).mp h).1
      · intro h
        exact ⟨_, (deliver_eq_some_iff hconfig).mpr ⟨h, rfl, rfl⟩⟩
    rw [hiff, hiff]
    simp only [hown]
  · intro calls b calls' b' h h'
    obtain ⟨-, rfl, rfl⟩ := (deliver_eq_some_iff hconfig).mp h
    obtain ⟨-, rfl, rfl⟩ := (deliver_eq_some_iff hconfig).mp h'
    have hbus := foldl_arrive_eq hown bus
    rw [hbus]
    exact ⟨rfl, (perm_of_own hown).symm.flatMap_right _, fun _ => rfl⟩

/-- The CPU's read of the RAM and the DMA engine's, in either order. -/
theorem arbitration_order_independent_shared :
    ∃ calls calls' b, sharedBus.deliver [(cpu, .readReq 7 0x1000 4), (dma, .readReq 7 0x1008 4)] =
        some (calls, b) ∧
      sharedBus.deliver [(dma, .readReq 7 0x1008 4), (cpu, .readReq 7 0x1000 4)] =
        some (calls', b) ∧
      calls'.Perm calls ∧ b.isLive cpu 7 ∧ b.isLive dma 7 := by
  have hown : ∀ m, own m [(cpu, .readReq 7 0x1000 4), (dma, .readReq 7 0x1008 4)] =
      own m [(dma, .readReq 7 0x1008 4), (cpu, .readReq 7 0x1000 4)] := by decide +kernel
  obtain ⟨-, hsame, -⟩ := arbitration_order_independent new_sharedConfig sharedBus hown
  obtain ⟨-, hperm, -⟩ := hsame _ _ _ _ rfl rfl
  exact ⟨_, _, _, rfl, rfl, hperm, by decide +kernel, by decide +kernel⟩

end MultiMasterBus

end SystemScope.Platform
