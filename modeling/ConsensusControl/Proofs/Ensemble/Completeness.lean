import ConsensusControl.Proofs.Ensemble.Operation
import ConsensusControl.Proofs.Transport.Prompt

namespace ConsensusControl

/-- Who sends a record of this kind to whom, the other way round. -/
def Awaited.swap (w : Awaited) : Awaited := ⟨w.sender, w.receiver, w.kind⟩

/-- Who waits for the envelope, and for what. -/
def Envelope.address {α : Type} (env : Envelope α) : Awaited := ⟨env.receiver, env.sender, env.kind⟩

theorem Awaited.swap_swap (w : Awaited) : w.swap.swap = w := rfl

theorem Awaited.swap_injective : Function.Injective Awaited.swap := fun _ _ h =>
  congrArg Awaited.swap h

theorem ExchangePhase.nodup_kinds (phase : ExchangePhase) : phase.kinds.Nodup := by
  cases phase <;> decide

namespace Controller

variable {α : Type} {c c' : Controller α} {env : Envelope α}

/-- The record in the envelope is that of a neighbor and has the lengths of its role. -/
def Welcomes (c : Controller α) (env : Envelope α) : Prop :=
  ∃ (record : Record env.kind.family α) (nb : Neighbor α), env.record = ⟨record⟩ ∧ record.t ≠ [] ∧
    c.agent.neighbor? env.sender = some nb ∧
    nb.Accepts c.options.horizonSteps c.agent.nx c.agent.nu env.kind record

/-- The links to the neighbors decide what is welcome. -/
theorem Welcomes.of_site (h : c.Welcomes env) (hsite : c'.site = c.site) : c'.Welcomes env := by
  obtain ⟨record, nb, hrecord, hne, hnb, haccepts⟩ := h
  have hoptions : c'.options = c.options := congrArg Site.options hsite
  have hmodel : c'.agent.model = c.agent.model := congrArg Site.model hsite
  have hnx : c'.agent.nx = c.agent.nx := congrArg AgentModel.nx hmodel
  have hnu : c'.agent.nu = c.agent.nu := congrArg AgentModel.nu hmodel
  have hfind : ∀ a : Agent α, (a.neighbor? env.sender).map (·.link) =
      a.links.find? (·.id == env.sender) := by
    intro a
    rw [Agent.links, List.find?_map]
    rfl
  have hlinks : c'.agent.links = c.agent.links := congrArg Site.links hsite
  have hlink := (hfind c'.agent).trans (hlinks ▸ (hfind c.agent).symm)
  rw [hnb, Option.map_some] at hlink
  obtain ⟨nb', hnb', hsame⟩ := Option.map_eq_some_iff.mp hlink
  have hneighbor : nb'.model = nb.model := congrArg Link.model hsame
  refine ⟨record, nb', hrecord, hne, hnb', ?_⟩
  rw [hoptions, hnx, hnu]
  exact haccepts.of_model hneighbor

theorem Welcomes.applyIncoming (h : c.Welcomes env) :
    ∃ c', c.applyIncoming env.sender env.kind env.record = (c', .ok ()) := by
  obtain ⟨record, nb, hrecord, hne, hnb, haccepts⟩ := h
  rw [hrecord]
  exact ⟨_, applyIncoming_of_accepts hnb hne haccepts⟩

end Controller

namespace Ensemble

variable {σ α : Type} [Scalar α]

omit [Scalar α] in
/-- Whoever waits for a record sends one of the same kind to whom it waits for. -/
theorem address_envelopes (phase : ExchangePhase) (e : Ensemble σ α) :
    (envelopes phase e).map Envelope.address = (awaited phase e).map Awaited.swap := by
  simp only [envelopes, awaited, Controller.outgoing, Agent.neighborIds, List.map_flatMap,
    List.flatMap_map, List.map_map]
  rfl

omit [Scalar α] in
theorem mem_awaited {phase : ExchangePhase} {e : Ensemble σ α} (hs : Table.Sorted e.controllers)
    {w : Awaited} : w ∈ awaited phase e ↔ ∃ c, e.controllers.lookup w.receiver = some c ∧
      w.sender ∈ c.agent.neighborIds ∧ w.kind ∈ phase.kinds := by
  simp only [awaited, List.mem_flatMap, List.mem_map]
  constructor
  · intro h
    obtain ⟨⟨id, c⟩, hc, sender, hsender, kind, hkind, rfl⟩ := h
    exact ⟨c, Table.lookup_of_mem hs hc, hsender, hkind⟩
  · intro h
    obtain ⟨c, hc, hsender, hkind⟩ := h
    exact ⟨(w.receiver, c), Table.mem_of_lookup hc, w.sender, hsender, w.kind, hkind, rfl⟩

omit [Scalar α] in
/-- Nobody waits for the same record twice. -/
theorem nodup_awaited {phase : ExchangePhase} {e : Ensemble σ α} (hs : Table.Sorted e.controllers)
    (hn : ∀ id c, e.controllers.lookup id = some c → c.agent.neighborIds.Nodup) :
    (awaited phase e).Nodup := by
  have hkinds : ∀ id sender : AgentId,
      (phase.kinds.map fun kind => (⟨id, sender, kind⟩ : Awaited)).Nodup := fun _ _ =>
    phase.nodup_kinds.map fun _ _ h => congrArg Awaited.kind h
  refine List.nodup_flatMap.mpr ⟨fun p hp => List.nodup_flatMap.mpr ⟨fun _ _ => hkinds _ _, ?_⟩, ?_⟩
  · refine (hn p.1 p.2 (Table.lookup_of_mem hs hp)).imp fun hne w hw hw' => hne ?_
    obtain ⟨_, -, rfl⟩ := List.mem_map.mp hw
    obtain ⟨_, -, heq⟩ := List.mem_map.mp hw'
    exact (congrArg Awaited.sender heq).symm
  · refine (List.pairwise_map.mp hs.nodup).imp fun hne w hw hw' => hne ?_
    simp only [List.mem_flatMap, List.mem_map] at hw hw'
    obtain ⟨_, -, _, -, rfl⟩ := hw
    obtain ⟨_, -, _, -, heq⟩ := hw'
    exact (congrArg Awaited.receiver heq).symm

section Poised

variable [FaithfulTransport σ α] {e : Ensemble σ α}

/-- The neighbor of an agent has it for a neighbor. -/
theorem Poised.mutual (h : e.Poised) {i j : AgentId} {c : Controller α}
    (hc : e.controllers.lookup i = some c) (hj : j ∈ c.agent.neighborIds) :
    ∃ d, e.controllers.lookup j = some d ∧ i ∈ d.agent.neighborIds := by
  rw [(h.linked h.unchanged i c hc).ids, h.keyed i c hc] at hj
  have hmem := h.complete h.unchanged j (h.registered.neighbor_mem hj)
  obtain ⟨d, hd⟩ := Option.isSome_iff_exists.mp (Table.lookup_isSome.mpr hmem)
  refine ⟨d, hd, ?_⟩
  rw [(h.linked h.unchanged j d hd).ids, h.keyed j d hd]
  exact Network.mem_neighborsOf_comm.mp hj

theorem Poised.swap_mem (h : e.Poised) {phase : ExchangePhase} {w : Awaited}
    (hw : w ∈ awaited phase e) : w.swap ∈ awaited phase e := by
  obtain ⟨c, hc, hsender, hkind⟩ := (mem_awaited h.sorted).mp hw
  obtain ⟨d, hd, hreceiver⟩ := h.mutual hc hsender
  exact (mem_awaited h.sorted).mpr ⟨d, hd, hreceiver, hkind⟩

/-- All that is awaited is sent, once, and nothing else. -/
theorem Poised.sent_perm (h : e.Poised) (phase : ExchangePhase) :
    ((envelopes phase e.nextRound).map Envelope.address).Perm (awaited phase e) := by
  have hnodup : (awaited phase e).Nodup := nodup_awaited h.sorted h.toWorking.nodup
  have hnext : awaited phase e.nextRound = awaited phase e := rfl
  rw [address_envelopes, hnext]
  refine (List.perm_ext_iff_of_nodup (hnodup.map Awaited.swap_injective) hnodup).mpr fun w => ?_
  constructor
  · intro hw
    obtain ⟨w', hw', rfl⟩ := List.mem_map.mp hw
    exact h.swap_mem hw'
  · exact fun hw => List.mem_map.mpr ⟨w.swap, h.swap_mem hw, w.swap_swap⟩

end Poised

section Connected

variable [PromptTransport σ α]

/-- Every agent of the network has a mailbox. -/
def Connected (e : Ensemble σ α) : Prop :=
  ∀ id ∈ e.network.ids, PromptTransport.IsOpen id e.transport

theorem Move.connected {e e' : Ensemble σ α} (h : Move e e') (he : e.Supplied)
    (hc : e.Connected) : e'.Connected := by
  cases h with
  | act | actAll | sync | build | replace | note => exact hc
  | send h => exact fun id hid => PromptTransport.isOpen_send h (hc id hid)
  | receive h => exact fun id hid => PromptTransport.isOpen_receive h (hc id hid)
  | @register id model x u n h =>
    obtain ⟨-, -, -, -, -, rfl⟩ := Network.registerAgent_eq_ok h
    intro k hk
    rcases Network.mem_ids_setEntry.mp hk with rfl | hk
    · exact PromptTransport.isOpen_register k e.transport
    · exact PromptTransport.isOpen_register_of id (hc k hk)
  | deregister h =>
    obtain rfl := Network.apply_deregisterAgent_eq_ok h
    intro k hk
    obtain ⟨hne, hk⟩ := Network.mem_ids_erase.mp hk
    exact PromptTransport.isOpen_deregister hne (hc k hk)
  | @change change n h hkeeps =>
    intro k hk
    obtain ⟨entry, hentry⟩ := (he.network.registered.apply h).entry_of_mem hk
    have hmodel := Network.model?_apply h hkeeps k
    rw [Network.model?, hentry] at hmodel
    exact hc k (Network.mem_ids_of_model hmodel.symm)

theorem Led.connected {e₀ e : Ensemble σ α} (h : Led e₀ e) (h₀ : e₀.Supplied)
    (hc : e₀.Connected) : e.Connected := by
  induction h with
  | refl => exact hc
  | move h hm ih => exact hm.connected (h.supplied h₀) ih

theorem Operated.connected {e : Ensemble σ α} (h : e.Operated) : e.Connected := by
  obtain ⟨o, solver, transport, hled⟩ := h.handled.led
  refine hled.connected (supplied_new o solver transport) fun id hid => ?_
  simp [Ensemble.new, Network.ids, Network.empty, Table.ids] at hid

omit [Scalar α] in
theorem forM_send_of_open {n : Nat} {envs : List (Envelope α)} {e : Ensemble σ α}
    (h : ∀ env ∈ envs,
      PromptTransport.IsOpen env.receiver e.transport ∧ env.record.fits env.kind) :
    ∃ e', Returns (envs.forM (send n)) e () e' ∧
      (∀ k key, PromptTransport.Waits k key e.transport → PromptTransport.Waits k key e'.transport) ∧
      ∀ env ∈ envs, PromptTransport.Waits env.receiver env.key e'.transport := by
  induction envs generalizing e with
  | nil => exact ⟨e, returns_pure.mpr ⟨rfl, rfl⟩, fun _ _ h => h, by simp⟩
  | cons env envs ih =>
    obtain ⟨hopen, hfits⟩ := h env List.mem_cons_self
    obtain ⟨s, hsend, hwaits⟩ := PromptTransport.send_eq_ok hopen hfits
    have hfirst : Returns (send n env) e () { e with transport := s } :=
      returns_send.mpr ⟨s, hsend, rfl⟩
    have hopens : ∀ env' ∈ envs,
        PromptTransport.IsOpen env'.receiver s ∧ env'.record.fits env'.kind := by
      intro env' henv'
      obtain ⟨hopen', hfits'⟩ := h env' (List.mem_cons_of_mem env henv')
      exact ⟨PromptTransport.isOpen_send hsend hopen', hfits'⟩
    obtain ⟨e', hrest, hkept, hall⟩ := @ih { e with transport := s } hopens
    refine ⟨e', returns_forM_cons.mpr ⟨_, hfirst, hrest⟩, fun k key hk => ?_, fun env' henv' => ?_⟩
    · exact hkept k key (PromptTransport.waits_send hsend hk)
    · rcases List.mem_cons.mp henv' with rfl | hmem
      · exact hkept _ _ hwaits
      · exact hall env' hmem

omit [Scalar α] in
theorem mapM_receive_of_waits {n : Nat} {ws : List Awaited} {e : Ensemble σ α} (hn : ws.Nodup)
    (h : ∀ w ∈ ws, PromptTransport.Waits w.receiver ⟨w.sender, e.round, w.kind⟩ e.transport) :
    ∃ envs e', Returns (ws.mapM (receive n)) e envs e' := by
  induction ws generalizing e with
  | nil => exact ⟨[], e, returns_mapM_nil.mpr ⟨rfl, rfl⟩⟩
  | cons w ws ih =>
    obtain ⟨hw, hn⟩ := List.nodup_cons.mp hn
    obtain ⟨r, s, hreceive⟩ := PromptTransport.receive_eq_ok (h w List.mem_cons_self)
    have hfirst : Returns (receive n w) e ⟨w.sender, w.receiver, e.round, w.kind, r⟩
        { e with transport := s } :=
      returns_receive.mpr ⟨r, s, hreceive, rfl, rfl⟩
    -- The others wait under keys of the same round that are different.
    have hwaits : ∀ w' ∈ ws, PromptTransport.Waits w'.receiver ⟨w'.sender, e.round, w'.kind⟩ s := by
      intro w' hw'
      refine PromptTransport.waits_receive hreceive (Nat.le_refl _) ?_
        (h w' (List.mem_cons_of_mem w hw'))
      intro hsame
      obtain ⟨hreceiver, hkey⟩ := hsame
      simp only [Key.mk.injEq, true_and] at hkey
      obtain ⟨hsender, hkind⟩ := hkey
      have heq : w' = w := by
        cases w
        cases w'
        simp_all
      exact hw (heq ▸ hw')
    obtain ⟨envs, e', hrest⟩ := @ih { e with transport := s } hn hwaits
    exact ⟨_, e', returns_mapM_cons.mpr ⟨_, _, envs, hfirst, hrest, rfl⟩⟩

end Connected

omit [Scalar α] in
theorem forM_deliver_of_welcomes {n : Nat} {envs : List (Envelope α)} {e : Ensemble σ α}
    (hs : Table.Sorted e.controllers)
    (h : ∀ env ∈ envs, ∀ c, e.controllers.lookup env.receiver = some c → c.Welcomes env) :
    ∃ e', Returns (envs.forM (deliver n)) e () e' := by
  induction envs generalizing e with
  | nil => exact ⟨e, returns_pure.mpr ⟨rfl, rfl⟩⟩
  | cons env envs ih =>
    have hothers := fun env' henv' => h env' (List.mem_cons_of_mem env henv')
    rcases hc : e.controllers.lookup env.receiver with _ | c
    · have hfirst : Returns (deliver n env) e () e := returns_deliver.mpr (.inl ⟨hc, rfl⟩)
      obtain ⟨e', hrest⟩ := ih hs hothers
      exact ⟨e', returns_forM_cons.mpr ⟨e, hfirst, hrest⟩⟩
    · obtain ⟨c', happly⟩ := (h env List.mem_cons_self c hc).applyIncoming
      have hfirst : Returns (deliver n env) e ()
          { e with controllers := Table.insert env.receiver c' e.controllers } :=
        returns_deliver.mpr (.inr ⟨c, c', hc, happly, rfl⟩)
      have hsite : c'.site = c.site := by
        rw [← c.site_receive env.sender env.kind env.record, happly]
      obtain ⟨e', hrest⟩ := @ih { e with controllers := Table.insert env.receiver c' e.controllers }
        (hs.insert _ _) fun env' henv' d hd => by
          rcases Table.lookup_insert_cases hd with ⟨hreceiver, rfl⟩ | ⟨-, hold⟩
          · exact (hothers env' henv' c (hreceiver ▸ hc)).of_site hsite
          · exact hothers env' henv' d hold
      exact ⟨e', returns_forM_cons.mpr ⟨_, hfirst, hrest⟩⟩

/-- An exchange that brings every agent what it waits for, by way of the ensembles after the sending and
after the receiving. -/
structure Completes [FaithfulTransport σ α] (phase : ExchangePhase) (n : Nat) (e e₁ e₂ e' : Ensemble σ α)
    (received : List (Envelope α)) : Prop where
  /-- Nobody waits for the same record twice. -/
  distinct : (awaited phase e).Nodup
  /-- One record is sent for everyone who waits for one, and no other. -/
  sent_perm : ((envelopes phase e.nextRound).map Envelope.address).Perm (awaited phase e)
  current : ∀ env ∈ envelopes phase e.nextRound, env.round = e.round + 1
  sends : Returns ((envelopes phase e.nextRound).forM (send n)) e.nextRound () e₁
  receives : Returns ((awaited phase e₁).mapM (receive n)) e₁ received e₂
  /-- What comes out is what this round has sent, in the order in which it is waited for. -/
  received_perm : received.Perm (envelopes phase e.nextRound)
  addressed : received.map Envelope.address = awaited phase e
  delivers : Returns (received.forM (deliver n)) e₂ () e'
  returns : Returns (exchange phase n) e () e'
  /-- Every neighbor has its new records, all with the lengths of their roles. -/
  accepted : Table.Rel (Refreshed phase e.controllers) e.controllers e'.controllers

omit [Scalar α] in
theorem returns_exchange [Transport σ α] {phase : ExchangePhase} {n : Nat} {e e₁ e₂ e' : Ensemble σ α}
    {received : List (Envelope α)}
    (hsends : Returns ((envelopes phase e.nextRound).forM (send n)) e.nextRound () e₁)
    (hreceives : Returns ((awaited phase e₁).mapM (receive n)) e₁ received e₂)
    (hdelivers : Returns (received.forM (deliver n)) e₂ () e') :
    Returns (exchange phase n) e () e' := by
  unfold exchange
  apply returns_modify_bind.mpr
  apply returns_get_bind.mpr
  refine returns_bind.mpr ⟨⟨⟩, e₁, hsends, returns_get_bind.mpr ?_⟩
  exact returns_bind.mpr ⟨received, e₂, hreceives, hdelivers⟩

section Exchange

variable [PromptTransport σ α]

/-- What is on its way under the number of a round is welcome at its receiver. -/
theorem Poised.welcomes {e : Ensemble σ α} (h : e.Poised) (hs : e.Supplied) {phase : ExchangePhase}
    {env : Envelope α} (henv : env ∈ envelopes phase e.nextRound) {c : Controller α}
    (hc : e.controllers.lookup env.receiver = some c) : c.Welcomes env := by
  obtain ⟨d, back, hd, hback, hrecord⟩ := mem_envelopes (e := e.nextRound) h.sorted h.toWorking.nodup henv
  obtain ⟨hmem, hid⟩ := Agent.mem_of_neighbor? hback
  have hlaid := (h.evolved _ d hd).sound (.inr (h.begun _ d hd))
  have hsupplied := hs.serves _ d hd
  have hoptions : d.options = c.options :=
    hsupplied.options.trans (hs.serves _ c hc).options.symm
  -- The receiver has the sender for a neighbor, and either has the other's model.
  obtain ⟨c₁, hc₁, hsender⟩ := h.mutual hd (Agent.mem_neighborIds.mpr ⟨back, hmem, hid⟩)
  obtain rfl : c₁ = c := Option.some.inj (hc₁.symm.trans hc)
  obtain ⟨nb, hnb, hnbid⟩ := Agent.mem_neighborIds.mp hsender
  have hmodel : ∀ {i j : AgentId} {a b : Controller α} {nb : Neighbor α},
      e.controllers.lookup i = some a → e.controllers.lookup j = some b →
      nb ∈ a.agent.neighbors → nb.id = j → nb.model = b.agent.model := by
    intro i j a b nb ha hb hnb hj
    exact (h.linked h.unchanged i a ha).model_eq hnb (hj ▸ h.models j b hb)
  have hsamples : 2 ≤ d.options.horizonSteps := Options.samples_of_valid hlaid.valid
  have haccepts := hsupplied.shaped.accepts hlaid.layout hmem (hmodel hc hd hnb hnbid) env.kind
  have hback := hmodel hd hc hmem hid
  have hnx : back.nx = c₁.agent.nx := congrArg AgentModel.nx hback
  have hnu : back.nu = c₁.agent.nu := congrArg AgentModel.nu hback
  refine ⟨d.agent.recordOf back env.kind, nb, hrecord,
    hsupplied.shaped.recordOf_ne_nil hlaid.layout hsamples hmem env.kind, ?_, ?_⟩
  · exact (Agent.neighbor?_eq_some (h.toWorking.nodup _ c₁ hc)).mpr ⟨hnb, hnbid⟩
  · rw [← hoptions, ← hnx, ← hnu]
    exact haccepts

/-- Everything can be sent, and then it waits for its receivers. -/
theorem Poised.sends {e : Ensemble σ α} (h : e.Poised) (hc : e.Connected) (phase : ExchangePhase)
    (n : Nat) :
    ∃ e₁, Returns ((envelopes phase e.nextRound).forM (send n)) e.nextRound () e₁ ∧
      ∀ w ∈ awaited phase e,
        PromptTransport.Waits w.receiver ⟨w.sender, e.round + 1, w.kind⟩ e₁.transport := by
  have hperm := h.sent_perm phase
  obtain ⟨e₁, hsends, -, hwaits⟩ := @forM_send_of_open σ α _ n (envelopes phase e.nextRound) e.nextRound
    fun env henv => by
      have hmem := hperm.mem_iff.mp (List.mem_map_of_mem henv)
      obtain ⟨c, hreceiver, -⟩ := (mem_awaited h.sorted).mp hmem
      obtain ⟨_, _, -, -, hrecord⟩ := mem_envelopes (e := e.nextRound) h.sorted h.toWorking.nodup henv
      refine ⟨hc _ (Network.mem_ids_of_model (h.models _ c hreceiver)), ?_⟩
      rw [hrecord]
      exact beq_self_eq_true _
  refine ⟨e₁, hsends, fun w hw => ?_⟩
  obtain ⟨env, henv, rfl⟩ := List.mem_map.mp (hperm.mem_iff.mpr hw)
  have hwaiting := hwaits env henv
  rw [Envelope.key, envelopes_round henv] at hwaiting
  exact hwaiting

/-- What has been received in a round is all that was sent in it. -/
theorem Poised.received_perm {e e₁ e₂ : Ensemble σ α} (h : e.Poised) {phase : ExchangePhase} {n : Nat}
    {received : List (Envelope α)}
    (hsends : Returns ((envelopes phase e.nextRound).forM (send n)) e.nextRound () e₁)
    (hreceives : Returns ((awaited phase e₁).mapM (receive n)) e₁ received e₂) :
    received.map Envelope.address = awaited phase e ∧
      received.Perm (envelopes phase e.nextRound) := by
  obtain ⟨hsent, htransit⟩ := returns_forM_send hsends
  obtain ⟨-, -, hall⟩ := returns_mapM_receive hreceives
  have hround : e₁.round = e.round + 1 := by rw [hsent]; rfl
  have hawaited : awaited phase e₁ = awaited phase e := by rw [hsent]; rfl
  have haddressed : received.map Envelope.address = awaited phase e := by
    rw [← hawaited, ← List.map_id (awaited phase e₁)]
    refine map_eq_of_forall₂ (hall.imp fun w env hw => ?_)
    obtain ⟨hsender, hreceiver, -, hkind, -⟩ := hw
    rw [Envelope.address, hsender, hreceiver, hkind]
    rfl
  have hsubset : received ⊆ envelopes phase e.nextRound := by
    intro env henv
    obtain ⟨w, -, -, -, hcurrent, -, hold⟩ := forall₂_mem_right hall henv
    -- No earlier envelope has the round of this exchange.
    refine (htransit env hold).resolve_right fun hearlier => ?_
    have hle : env.round ≤ e.round := h.bounded env hearlier
    omega
  have hreceived : received.Nodup :=
    .of_map _ (haddressed ▸ nodup_awaited h.sorted h.toWorking.nodup)
  have hlength : (envelopes phase e.nextRound).length ≤ received.length := by
    have hsentAll := (h.sent_perm phase).length_eq
    have hreceivedAll := congrArg List.length haddressed
    rw [List.length_map] at hsentAll hreceivedAll
    omega
  exact ⟨haddressed, (List.subperm_of_subset hreceived hsubset).perm_of_length_le hlength⟩

/-- What is waited for is there, is what this round has sent, and is accepted. -/
theorem Poised.completes {e : Ensemble σ α} (h : e.Poised) (hs : e.Supplied) (hc : e.Connected)
    (phase : ExchangePhase) (n : Nat) :
    ∃ e₁ e₂ e' received, Completes phase n e e₁ e₂ e' received := by
  have hdistinct : (awaited phase e).Nodup := nodup_awaited h.sorted h.toWorking.nodup
  obtain ⟨e₁, hsends, hwaits⟩ := h.sends hc phase n
  obtain ⟨hsent, -⟩ := returns_forM_send hsends
  have hround : e₁.round = e.round + 1 := by rw [hsent]; rfl
  have hawaited : awaited phase e₁ = awaited phase e := by rw [hsent]; rfl
  obtain ⟨received, e₂, hreceives⟩ := @mapM_receive_of_waits σ α _ n (awaited phase e₁) e₁
    (hawaited ▸ hdistinct) (hround ▸ hawaited ▸ hwaits)
  obtain ⟨haddressed, hreceived⟩ := h.received_perm hsends hreceives
  obtain ⟨hrested, -⟩ := returns_mapM_receive hreceives
  have hcontrollers : e₂.controllers = e.controllers := by rw [hrested, hsent]; rfl
  obtain ⟨e', hdelivers⟩ := @forM_deliver_of_welcomes σ α n received e₂ (hcontrollers ▸ h.sorted)
    fun env henv c hc => h.welcomes hs (hreceived.subset henv) (hcontrollers ▸ hc)
  have hreturns := returns_exchange hsends hreceives hdelivers
  refine ⟨e₁, e₂, e', received, ?_⟩
  exact {
    distinct := hdistinct
    sent_perm := h.sent_perm phase
    current := fun env henv => envelopes_round henv
    sends := hsends
    receives := hreceives
    received_perm := hreceived
    addressed := haddressed
    delivers := hdelivers
    returns := hreturns
    accepted := (exchange_refreshed h.sorted h.toWorking.nodup h.bounded hreturns).2 }

end Exchange

end Ensemble

end ConsensusControl
