import ConsensusControl.Proofs.Ensemble.Orderly
import ConsensusControl.Proofs.Pointwise

namespace ConsensusControl

variable {α : Type}

/-- The part of a grouped list that belongs to one group. -/
theorem filter_flatMap_of_nodup {β γ κ : Type} [DecidableEq κ] (key : β → κ) (label : γ → κ)
    {f : β → List γ} (hf : ∀ b, ∀ c ∈ f b, label c = key b) {l : List β} (hl : (l.map key).Nodup)
    {b : β} (hb : b ∈ l) : (l.flatMap f).filter (fun c => label c = key b) = f b := by
  induction l with
  | nil => simp at hb
  | cons a l ih =>
    obtain ⟨ha, hl⟩ := List.nodup_cons.mp hl
    have hself : (f b).filter (fun c => label c = key b) = f b :=
      List.filter_eq_self.mpr fun c hc => by simpa using hf b c hc
    rw [List.flatMap_cons, List.filter_append]
    rcases List.mem_cons.mp hb with rfl | hb
    · have hrest : (l.flatMap f).filter (fun c => label c = key b) = [] := by
        refine List.filter_eq_nil_iff.mpr fun c hc => ?_
        obtain ⟨a', ha', hc⟩ := List.mem_flatMap.mp hc
        have hne : key a' ≠ key b := fun heq => ha (heq ▸ List.mem_map_of_mem ha')
        simpa [hf a' c hc] using hne
      rw [hself, hrest, List.append_nil]
    · have hfirst : (f a).filter (fun c => label c = key b) = [] := by
        refine List.filter_eq_nil_iff.mpr fun c hc => ?_
        have hne : key a ≠ key b := fun heq => ha (heq ▸ List.mem_map_of_mem hb)
        simpa [hf a c hc] using hne
      rw [hfirst, List.nil_append, ih hl hb]

namespace Neighbor

/-- The neighbor stores the records of the envelopes, one after the other. -/
def Absorbs (samples nx nu : Nat) : List (Envelope α) → Neighbor α → Neighbor α → Prop
  | [], nb, nb' => nb' = nb
  | env :: envs, nb, nb' => ∃ record : Record env.kind.family α, env.record = ⟨record⟩ ∧
    nb.Accepts samples nx nu env.kind record ∧ Absorbs samples nx nu envs (nb.keep env.kind record) nb'

/-- The neighbor with the records of a phase, as its agent `a` has them for `back`. -/
def refresh (kinds : List RecordKind) (a : Agent α) (nb back : Neighbor α) : Neighbor α :=
  kinds.foldl (fun nb kind => nb.keep kind (a.recordOf back kind)) nb

theorem accepts_keep (nb : Neighbor α) (kind : RecordKind) (r : Record kind.family α)
    (samples nx nu : Nat) (k : RecordKind) (s : Record k.family α) :
    (nb.keep kind r).Accepts samples nx nu k s ↔ nb.Accepts samples nx nu k s := by
  cases kind <;> cases k <;> rfl

theorem Absorbs.refresh {samples nx nu : Nat} {kinds : List RecordKind} {envs : List (Envelope α)}
    {a : Agent α} {back nb nb' : Neighbor α}
    (henvs : List.Forall₂ (fun kind env => env.kind = kind ∧ env.record = ⟨a.recordOf back kind⟩)
      kinds envs)
    (h : Absorbs samples nx nu envs nb nb') :
    (∀ kind ∈ kinds, nb.Accepts samples nx nu kind (a.recordOf back kind)) ∧
      nb' = nb.refresh kinds a back := by
  induction henvs generalizing nb with
  | nil => exact ⟨by simp, h⟩
  | @cons kind env kinds envs henv _ ih =>
    obtain ⟨rfl, hrecord⟩ := henv
    obtain ⟨record, hrecord', haccepts, hrest⟩ := h
    obtain rfl : a.recordOf back env.kind = record := by
      have heq := hrecord.symm.trans hrecord'
      injection heq
    obtain ⟨hall, rfl⟩ := ih hrest
    refine ⟨fun k hk => ?_, rfl⟩
    rcases List.mem_cons.mp hk with rfl | hk
    · exact haccepts
    · exact (accepts_keep _ _ _ _ _ _ _ _).mp (hall k hk)

end Neighbor

theorem Agent.neighbors_modifyNeighbor_keep {a : Agent α} {id : AgentId} {nb₀ : Neighbor α}
    (hn : a.neighborIds.Nodup) (hnb₀ : a.neighbor? id = some nb₀) (kind : RecordKind)
    (record : Record kind.family α) :
    (a.modifyNeighbor id fun _ => nb₀.keep kind record).neighbors =
        a.neighbors.map (fun nb => if nb.id = id then nb.keep kind record else nb) ∧
      (a.modifyNeighbor id fun _ => nb₀.keep kind record).neighborIds = a.neighborIds := by
  have hneighbors : (a.modifyNeighbor id fun _ => nb₀.keep kind record).neighbors =
      a.neighbors.map fun nb => if nb.id = id then nb.keep kind record else nb := by
    rw [Agent.modifyNeighbor, Agent.modifyFirst_eq_map _ hn]
    refine List.map_congr_left fun nb hnb => ?_
    split
    · next hid =>
      have hfound := (Agent.neighbor?_eq_some hn).mpr ⟨hnb, hid⟩
      rw [Option.some.inj (hfound.symm.trans hnb₀)]
    · rfl
  refine ⟨hneighbors, ?_⟩
  unfold Agent.neighborIds
  rw [hneighbors, List.map_map]
  refine List.map_congr_left fun nb _ => ?_
  dsimp only [Function.comp_apply]
  split
  · exact Neighbor.id_keep nb kind record
  · rfl

namespace Controller

/-- Envelopes change the neighbors they come from, each by its own. -/
theorem absorbs_of_foldlM {envs : List (Envelope α)} {c c' : Controller α}
    (hn : c.agent.neighborIds.Nodup)
    (h : envs.foldlM (fun c env => c.accept env.sender env.kind env.record) c = .ok c') :
    c' = { c with agent := { c.agent with neighbors := c'.agent.neighbors } } ∧
      List.Forall₂ (fun nb nb' => Neighbor.Absorbs c.options.horizonSteps c.agent.nx c.agent.nu
        (envs.filter (·.sender = nb.id)) nb nb') c.agent.neighbors c'.agent.neighbors := by
  induction envs generalizing c with
  | nil =>
    rw [List.foldlM_nil, pure_eq_ok] at h
    subst h
    exact ⟨rfl, List.forall₂_same.mpr fun _ _ => rfl⟩
  | cons env envs ih =>
    rw [List.foldlM_cons, bind_eq_ok] at h
    obtain ⟨c₁, hc₁, h⟩ := h
    obtain ⟨record, nb₀, hrecord, hnb₀, haccepts, rfl⟩ := accept_eq_ok hc₁
    obtain ⟨hneighbors, hids⟩ := Agent.neighbors_modifyNeighbor_keep hn hnb₀ env.kind record
    obtain ⟨hrest, hall⟩ := ih (hids ▸ hn) h
    refine ⟨by rw [hrest]; rfl, ?_⟩
    dsimp only at hall
    rw [hneighbors, List.forall₂_map_left_iff] at hall
    refine (forall₂_and_mem hall).imp ?_
    intro nb nb' h
    obtain ⟨hnb, habsorbs⟩ := h
    by_cases hid : nb.id = env.sender
    · rw [if_pos hid, Neighbor.id_keep] at habsorbs
      rw [List.filter_cons_of_pos (by simp [hid])]
      have hfound := (Agent.neighbor?_eq_some hn).mpr ⟨hnb, hid⟩
      obtain rfl : nb₀ = nb := Option.some.inj (hnb₀.symm.trans hfound)
      exact ⟨record, hrecord, haccepts, habsorbs⟩
    · rw [if_neg hid] at habsorbs
      rwa [List.filter_cons_of_neg (by simpa using Ne.symm hid)]

end Controller

namespace Ensemble

variable {σ : Type}

/-- The envelopes that an agent receives, applied in their order. -/
def Delivered (envs : List (Envelope α)) (id : AgentId) (c c' : Controller α) : Prop :=
  (envs.filter (·.receiver = id)).foldlM
    (fun c env => c.accept env.sender env.kind env.record) c = .ok c'

theorem returns_forM_deliver {iteration : Nat} {envs : List (Envelope α)} {e e' : Ensemble σ α}
    {u : Unit} (hs : Table.Sorted e.controllers)
    (h : Returns (envs.forM (deliver iteration)) e u e') :
    e' = { e with controllers := e'.controllers } ∧
      Table.Rel (Delivered envs) e.controllers e'.controllers := by
  induction envs generalizing e with
  | nil =>
    obtain ⟨-, rfl⟩ := returns_pure.mp h
    exact ⟨rfl, rfl, fun id c hc => ⟨c, hc, rfl⟩⟩
  | cons env envs ih =>
    obtain ⟨e₁, hfirst, hrest⟩ := returns_forM_cons.mp h
    rcases returns_deliver.mp hfirst with ⟨hnone, rfl⟩ | ⟨c, c₁, hc, happly, rfl⟩
    · obtain ⟨hrest, hrel⟩ := ih hs hrest
      refine ⟨hrest, hrel.ids, fun id d hd => ?_⟩
      obtain ⟨d', hd', hdelivered⟩ := hrel.related id d hd
      have hne : ¬ env.receiver = id := by
        intro heq
        obtain rfl := heq
        simp [hnone] at hd
      exact ⟨d', hd', by rwa [Delivered, List.filter_cons_of_neg (by simpa using hne)]⟩
    · obtain ⟨hrest, hrel⟩ := ih (hs.insert _ _) hrest
      have hmem : env.receiver ∈ Table.ids e.controllers := Table.mem_ids_of_lookup hc
      refine ⟨hrest, ?_, fun id d hd => ?_⟩
      · exact hrel.ids.trans (Table.ids_insert hs hmem _)
      · by_cases hid : env.receiver = id
        · subst hid
          obtain rfl : c = d := Option.some.inj (hc.symm.trans hd)
          obtain ⟨d', hd', hdelivered⟩ := hrel.related env.receiver c₁
            (Table.lookup_insert _ _ _)
          refine ⟨d', hd', ?_⟩
          rw [Delivered, List.filter_cons_of_pos (by simp), List.foldlM_cons]
          exact bind_eq_ok.mpr ⟨c₁, Controller.accept_of_ok happly, hdelivered⟩
        · obtain ⟨d', hd', hdelivered⟩ := hrel.related id d
            ((Table.lookup_insert_ne (Ne.symm hid) _ _).trans hd)
          exact ⟨d', hd', by rwa [Delivered, List.filter_cons_of_neg (by simpa using hid)]⟩

variable [FaithfulTransport σ α]

theorem returns_forM_send {iteration : Nat} {envs : List (Envelope α)} {e e' : Ensemble σ α}
    {u : Unit} (h : Returns (envs.forM (send iteration)) e u e') :
    e' = { e with transport := e'.transport } ∧
      ∀ env, FaithfulTransport.InTransit env e'.transport →
        env ∈ envs ∨ FaithfulTransport.InTransit env e.transport := by
  induction envs generalizing e with
  | nil =>
    obtain ⟨-, rfl⟩ := returns_pure.mp h
    exact ⟨rfl, fun env henv => .inr henv⟩
  | cons sent envs ih =>
    obtain ⟨e₁, hfirst, hrest⟩ := returns_forM_cons.mp h
    obtain ⟨s, hsend, rfl⟩ := returns_send.mp hfirst
    obtain ⟨hrest, htransit⟩ := ih hrest
    refine ⟨by rw [hrest], fun env henv => ?_⟩
    rcases htransit env henv with hmem | hold
    · exact .inl (List.mem_cons_of_mem _ hmem)
    · rcases FaithfulTransport.inTransit_send hsend hold with rfl | hold
      · exact .inl List.mem_cons_self
      · exact .inr hold

/-- Whatever is received was in transit. -/
theorem returns_mapM_receive {iteration : Nat} {ws : List Awaited} {envs : List (Envelope α)}
    {e e' : Ensemble σ α} (h : Returns (ws.mapM (receive iteration)) e envs e') :
    e' = { e with transport := e'.transport } ∧
      (∀ env, FaithfulTransport.InTransit env e'.transport →
        FaithfulTransport.InTransit env e.transport) ∧
      List.Forall₂ (fun w env => env.sender = w.sender ∧ env.receiver = w.receiver ∧
        env.round = e.round ∧ env.kind = w.kind ∧ FaithfulTransport.InTransit env e.transport)
        ws envs := by
  induction ws generalizing e envs with
  | nil =>
    obtain ⟨rfl, rfl⟩ := returns_mapM_nil.mp h
    exact ⟨rfl, fun env henv => henv, .nil⟩
  | cons w ws ih =>
    obtain ⟨env, e₁, rest, hfirst, hrest, rfl⟩ := returns_mapM_cons.mp h
    obtain ⟨record, s, hreceive, rfl, rfl⟩ := returns_receive.mp hfirst
    have hshrink : ∀ env, FaithfulTransport.InTransit env s →
        FaithfulTransport.InTransit env e.transport := fun env henv =>
      FaithfulTransport.inTransit_receive hreceive henv
    obtain ⟨hrest, htransit, hall⟩ := ih hrest
    refine ⟨by rw [hrest], fun env henv => hshrink env (htransit env henv), .cons ?_ ?_⟩
    · exact ⟨rfl, rfl, rfl, rfl, FaithfulTransport.inTransit_of_receive hreceive⟩
    · refine hall.imp fun w env henv => ?_
      exact ⟨henv.1, henv.2.1, henv.2.2.1, henv.2.2.2.1, hshrink env henv.2.2.2.2⟩

/-- The neighbor has the records of the phase that its controller had, all with the lengths of their
roles. -/
def Took (phase : ExchangePhase) (t : Table (Controller α)) (id : AgentId) (c : Controller α)
    (nb nb' : Neighbor α) : Prop :=
  ∃ d back, t.lookup nb.id = some d ∧ d.agent.neighbor? id = some back ∧
    (∀ kind ∈ phase.kinds, nb.Accepts c.options.horizonSteps c.agent.nx c.agent.nu kind
      (d.agent.recordOf back kind)) ∧
    nb' = nb.refresh phase.kinds d.agent back

/-- The neighbors have the records of the phase. Nothing else changes. -/
structure Refreshed (phase : ExchangePhase) (t : Table (Controller α)) (id : AgentId)
    (c c' : Controller α) : Prop where
  rest : c' = { c with agent := { c.agent with neighbors := c'.agent.neighbors } }
  neighbors : List.Forall₂ (Took phase t id c) c.agent.neighbors c'.agent.neighbors

omit [FaithfulTransport σ α] in
theorem mem_envelopes {phase : ExchangePhase} {e : Ensemble σ α} {env : Envelope α}
    (hs : Table.Sorted e.controllers)
    (hn : ∀ id c, e.controllers.lookup id = some c → c.agent.neighborIds.Nodup)
    (h : env ∈ envelopes phase e) :
    ∃ d back, e.controllers.lookup env.sender = some d ∧
      d.agent.neighbor? env.receiver = some back ∧ env.record = ⟨d.agent.recordOf back env.kind⟩ := by
  simp only [envelopes, Controller.outgoing, List.mem_flatMap, List.mem_map] at h
  obtain ⟨⟨id, d⟩, hd, o, ⟨back, hback, kind, -, rfl⟩, rfl⟩ := h
  have hlookup := Table.lookup_of_mem hs hd
  exact ⟨d, back, hlookup, Agent.neighbor?_of_mem (hn id d hlookup) hback,
    d.agent.recordFor_eq back kind⟩

/-- The envelope brings what its receiver waits for. -/
def Answered (t : Table (Controller α)) (w : Awaited) (env : Envelope α) : Prop :=
  env.sender = w.sender ∧ env.receiver = w.receiver ∧ env.kind = w.kind ∧
    ∃ d back, t.lookup w.sender = some d ∧ d.agent.neighbor? w.receiver = some back ∧
      env.record = ⟨d.agent.recordOf back w.kind⟩

omit [FaithfulTransport σ α] in
/-- What an agent waits for from one neighbor. -/
theorem filter_awaited {phase : ExchangePhase} {e : Ensemble σ α} (hs : Table.Sorted e.controllers)
    {id : AgentId} {c : Controller α} (hc : e.controllers.lookup id = some c)
    (hn : c.agent.neighborIds.Nodup) {nb : Neighbor α} (hnb : nb ∈ c.agent.neighbors) :
    ((awaited phase e).filter (·.receiver = id)).filter (·.sender = nb.id) =
      phase.kinds.map fun kind => ⟨id, nb.id, kind⟩ := by
  have hreceiver : (awaited phase e).filter (·.receiver = id) =
      c.agent.neighborIds.flatMap fun sender => phase.kinds.map fun kind => ⟨id, sender, kind⟩ := by
    refine filter_flatMap_of_nodup Prod.fst (fun w : Awaited => w.receiver) (fun p w hw => ?_)
      hs.nodup (Table.mem_of_lookup hc)
    simp only [List.mem_flatMap, List.mem_map] at hw
    obtain ⟨_, -, _, -, rfl⟩ := hw
    rfl
  rw [hreceiver]
  refine filter_flatMap_of_nodup (fun sender => sender) (fun w : Awaited => w.sender)
    (fun sender w hw => ?_) ?_ ?_
  · obtain ⟨_, -, rfl⟩ := List.mem_map.mp hw
    rfl
  · simpa using hn
  · exact Agent.mem_neighborIds.mpr ⟨nb, hnb, rfl⟩

omit [FaithfulTransport σ α] in
theorem refreshed_of_delivered {phase : ExchangePhase} {e : Ensemble σ α}
    (hs : Table.Sorted e.controllers) {received : List (Envelope α)}
    (hall : List.Forall₂ (Answered e.controllers) (awaited phase e) received) {id : AgentId}
    {c c' : Controller α} (hc : e.controllers.lookup id = some c) (hn : c.agent.neighborIds.Nodup)
    (h : Delivered received id c c') : Refreshed phase e.controllers id c c' := by
  obtain ⟨hrest, habsorbs⟩ := Controller.absorbs_of_foldlM hn h
  refine ⟨hrest, (forall₂_and_mem habsorbs).imp ?_⟩
  intro nb nb' h
  obtain ⟨hnb, hnb'⟩ := h
  have hreceiver := List.rel_filter (p := fun w : Awaited => decide (w.receiver = id))
    (q := fun env : Envelope α => decide (env.receiver = id))
    (fun w env hw => by simp [hw.2.1]) hall
  have hpair := List.rel_filter (p := fun w : Awaited => decide (w.sender = nb.id))
    (q := fun env : Envelope α => decide (env.sender = nb.id))
    (fun w env hw => by simp [hw.1]) hreceiver
  rw [filter_awaited hs hc hn hnb, List.forall₂_map_left_iff] at hpair
  obtain ⟨d, back, hd, hback⟩ : ∃ d back, e.controllers.lookup nb.id = some d ∧
      d.agent.neighbor? id = some back := by
    obtain ⟨kind, hkind⟩ : ∃ kind, kind ∈ phase.kinds := by
      cases phase <;> exact ⟨_, List.mem_cons_self⟩
    obtain ⟨env, -, -, -, -, d, back, hd, hback, -⟩ := forall₂_mem_left hpair hkind
    exact ⟨d, back, hd, hback⟩
  have hrecords : List.Forall₂ (fun kind env => env.kind = kind ∧
      env.record = ⟨d.agent.recordOf back kind⟩) phase.kinds
      ((received.filter (·.receiver = id)).filter (·.sender = nb.id)) := by
    refine hpair.imp ?_
    intro kind env h
    obtain ⟨-, -, hkind, d', back', hd', hback', hrecord⟩ := h
    obtain rfl : d' = d := Option.some.inj (hd'.symm.trans hd)
    obtain rfl : back' = back := Option.some.inj (hback'.symm.trans hback)
    exact ⟨hkind, hrecord⟩
  obtain ⟨haccepts, heq⟩ := hnb'.refresh hrecords
  exact ⟨d, back, hd, hback, haccepts, heq⟩

/-- Everything that is received answers what is waited for, with records that the controllers had when
the exchange began. -/
theorem answered_of_received {phase : ExchangePhase} {iteration : Nat} {e e₁ e₂ : Ensemble σ α}
    {received : List (Envelope α)} {u : Unit} (hs : Table.Sorted e.controllers)
    (hn : ∀ id c, e.controllers.lookup id = some c → c.agent.neighborIds.Nodup)
    (hb : ∀ env, FaithfulTransport.InTransit env e.transport → env.round ≤ e.round)
    (hsend : Returns ((envelopes phase { e with round := e.round + 1 }).forM (send iteration))
      { e with round := e.round + 1 } u e₁)
    (hreceive : Returns ((awaited phase e₁).mapM (receive iteration)) e₁ received e₂) :
    e₂ = { e with round := e.round + 1, transport := e₂.transport } ∧
      List.Forall₂ (Answered e.controllers) (awaited phase e) received := by
  obtain ⟨hsent, htransit⟩ := returns_forM_send hsend
  obtain ⟨hrested, -, hall⟩ := returns_mapM_receive hreceive
  have hround : e₁.round = e.round + 1 := by rw [hsent]
  have hawaited : awaited phase e₁ = awaited phase e := by rw [hsent]; rfl
  refine ⟨by rw [hrested, hsent], hawaited ▸ hall.imp ?_⟩
  intro w env h
  obtain ⟨hsender, hreceiver, hcurrent, hkind, henv⟩ := h
  -- No earlier envelope has the round of this exchange.
  have hmem := (htransit env henv).resolve_right fun hold => by
    have hle : env.round ≤ e.round := hb env hold
    omega
  obtain ⟨d, back, hd, hback, hrecord⟩ :=
    mem_envelopes (e := { e with round := e.round + 1 }) hs hn hmem
  refine ⟨hsender, hreceiver, hkind, d, back, hsender ▸ hd, hreceiver ▸ hback, ?_⟩
  rw [hrecord, hkind]

theorem exchange_refreshed {phase : ExchangePhase} {iteration : Nat} {e e' : Ensemble σ α} {u : Unit}
    (hs : Table.Sorted e.controllers)
    (hn : ∀ id c, e.controllers.lookup id = some c → c.agent.neighborIds.Nodup)
    (hb : ∀ env, FaithfulTransport.InTransit env e.transport → env.round ≤ e.round)
    (h : Returns (exchange phase iteration) e u e') :
    e' = { e with
      round := e.round + 1
      transport := e'.transport
      controllers := e'.controllers } ∧
      Table.Rel (Refreshed phase e.controllers) e.controllers e'.controllers := by
  unfold exchange at h
  replace h := returns_modify_bind.mp h
  replace h := returns_get_bind.mp h
  obtain ⟨_, e₂, hsend, h⟩ := returns_bind.mp h
  replace h := returns_get_bind.mp h
  obtain ⟨received, e₃, hreceive, hdeliver⟩ := returns_bind.mp h
  obtain ⟨hreceived, hanswered⟩ := answered_of_received hs hn hb hsend hreceive
  have hcontrollers : e₃.controllers = e.controllers := by rw [hreceived]
  obtain ⟨hend, hrel⟩ := returns_forM_deliver (hcontrollers ▸ hs) hdeliver
  rw [hcontrollers] at hrel
  refine ⟨by rw [hend, hreceived], hrel.ids, fun id c hc => ?_⟩
  obtain ⟨c', hc', hdelivered⟩ := hrel.related id c hc
  exact ⟨c', hc', refreshed_of_delivered hs hanswered hc (hn id c hc) hdelivered⟩

end Ensemble

end ConsensusControl
