import ConsensusControl.Model.Linear
import ConsensusControl.Proofs.Ensemble.Orderly

namespace ConsensusControl

namespace Network

variable {α : Type} [Scalar α]

theorem Synced.linked {n : Network α} {a a' : Agent α} (h : n.Synced a a') {c : Controller α}
    (hc : c.agent = a') : c.Linked n := by
  subst hc
  have hid : c.agent.id = a.id := h.id
  have hdescribed : ∀ l ∈ c.agent.links,
      n.model? l.id = some l.model ∧ l.relation = n.relation a.id l.id := by
    intro l hl
    obtain ⟨nb, hnb, rfl⟩ := List.mem_map.mp hl
    obtain ⟨entry, hentry, hnew⟩ := h.origin nb hnb
    have hdata : nb.model = entry.model ∧ nb.relation = n.relation a.id nb.id := by
      rcases hnew with hnew | ⟨kept, -, -, hnew⟩
      all_goals exact ⟨congrArg Neighbor.model hnew, congrArg Neighbor.relation hnew⟩
    refine ⟨?_, hdata.2⟩
    change Option.map (·.model) ( n.entry? nb.id) = some nb.model
    rw [hentry, hdata.1]
    rfl
  refine ⟨?_, fun l hl => (hdescribed l hl).1, fun l hl => ?_⟩
  · rw [h.ids, hid]
  · rw [hid]
    exact (hdescribed l hl).2

omit [Scalar α] in
theorem mem_ids_of_model {n : Network α} {id : AgentId} {m : AgentModel α}
    (h : n.model? id = some m) : id ∈ n.ids := by
  obtain ⟨entry, hentry, -⟩ := Option.map_eq_some_iff.mp h
  exact mem_ids_of_entry hentry

end Network

namespace Ensemble

variable {σ α : Type} [Scalar α] [FaithfulTransport σ α]

/-- Agents that are not among `rest` any more have controllers in line with the network. -/
structure Syncing (rest : List AgentId) (e : Ensemble σ α) : Prop extends Orderly e where
  changed : e.topologyChanged = true
  synced : ∀ id c, e.controllers.lookup id = some c → id ∈ rest ∨ c.Linked e.network
  covered : ∀ id ∈ e.network.ids, id ∈ rest ∨ id ∈ Table.ids e.controllers

theorem Syncing.put {id : AgentId} {rest : List AgentId} {e : Ensemble σ α}
    (h : Syncing (id :: rest) e) {c : Controller α} (hevolved : c.Evolved e.options)
    (hid : c.agent.id = id) (hmodel : e.network.model? id = some c.agent.model)
    (hlinked : c.Linked e.network) :
    Syncing rest { e with controllers := Table.insert id c e.controllers } := by
  have hcases : ∀ {k d}, (Table.insert id c e.controllers).lookup k = some d →
      k = id ∧ d = c ∨ k ≠ id ∧ e.controllers.lookup k = some d :=
    fun hd => Table.lookup_insert_cases hd
  refine ⟨⟨h.registered, h.sorted.insert id c, ?_, ?_, ?_, ?_, ?_, h.bounded⟩, h.changed, ?_, ?_⟩
  · intro k d hd
    rcases hcases hd with ⟨-, rfl⟩ | ⟨-, hold⟩
    · exact hevolved
    · exact h.evolved k d hold
  · intro k d hd
    rcases hcases hd with ⟨rfl, rfl⟩ | ⟨-, hold⟩
    · exact hid
    · exact h.keyed k d hold
  · intro k d hd
    rcases hcases hd with ⟨rfl, rfl⟩ | ⟨-, hold⟩
    · exact hmodel
    · exact h.models k d hold
  · intro hchanged
    simp [h.changed] at hchanged
  · intro hchanged
    simp [h.changed] at hchanged
  · intro k d hd
    rcases hcases hd with ⟨-, rfl⟩ | ⟨hne, hold⟩
    · exact .inr hlinked
    · exact (h.synced k d hold).imp_left fun hmem => (List.mem_cons.mp hmem).resolve_left hne
  · intro k hk
    rw [Table.mem_ids_insert]
    rcases h.covered k hk with hmem | hmem
    · rcases List.mem_cons.mp hmem with rfl | hmem
      · exact .inr (.inl rfl)
      · exact .inl hmem
    · exact .inr (.inr hmem)

theorem triple_syncController (t0 : α) (id : AgentId) (rest : List AgentId) :
    Triple (Syncing (id :: rest)) (syncController t0 id : Run σ α Unit) (fun _ => Syncing rest)
      Orderly := by
  unfold syncController
  refine triple_get_bind fun e h => ?_
  split
  · next c hc =>
    refine triple_bind (Q := fun a e' => e' = e ∧ e.network.syncAgent c.agent = .ok a) ?_ ?_
    · exact triple_configured (fun _ he a ha => ⟨he, ha⟩) fun _ he => he ▸ h.toOrderly
    · refine fun a => triple_putController ?_
      intro _ h
      obtain ⟨rfl, ha⟩ := h
      have hevolved := h.evolved id c hc
      have hsynced := Network.syncAgent_synced hevolved.nodup ha
      exact h.put (hevolved.sync h.registered ha) (hsynced.id.trans (h.keyed id c hc))
        ((h.models id c hc).trans (congrArg some hsynced.model.symm)) (hsynced.linked rfl)
  · refine triple_bind (Q := fun a e' => e' = e ∧ e.network.buildAgent id t0 = .ok a) ?_ ?_
    · exact triple_configured (fun _ he a ha => ⟨he, ha⟩) fun _ he => he ▸ h.toOrderly
    · refine fun a => triple_putController ?_
      intro e' h
      obtain ⟨rfl, ha⟩ := h
      obtain ⟨_, -, hsynced⟩ := Network.buildAgent_synced ha
      exact h.put (.new h.registered ha _) hsynced.id (Network.model?_of_buildAgent ha)
        (hsynced.linked rfl)

theorem triple_syncTopology (t0 : α) :
    Triple Orderly (syncTopology t0 : Run σ α Unit)
      (fun _ e => e.Orderly ∧ e.topologyChanged = false) Orderly := by
  unfold syncTopology
  refine triple_get_bind fun e h => ?_
  split
  · next hchanged =>
    refine triple_get_bind fun e' he => ?_
    subst he
    refine triple_bind (Q := fun _ => Syncing []) ?_ fun _ => triple_modify fun e h => ?_
    · refine (triple_forM_rest (triple_syncController t0) e'.network.ids).weaken ?_
        (fun _ _ h => h) (fun _ h => h)
      intro _ heq
      obtain rfl := heq
      exact ⟨h, hchanged, fun id c hc => .inl (Network.mem_ids_of_model (h.models id c hc)),
        fun id hid => .inl hid⟩
    · refine ⟨⟨h.registered, h.sorted, h.evolved, h.keyed, h.models, fun _ id c hc => ?_,
        fun _ id hid => ?_, h.bounded⟩, rfl⟩
      · exact (h.synced id c hc).resolve_left (by simp)
      · exact (h.covered id hid).resolve_left (by simp)
  · next hchanged => exact triple_pure fun _ he => he ▸ ⟨h, by simpa using hchanged⟩

/-- Of the entries of `rest`, none has changed; all other controllers have begun. -/
structure Preparing (rest : Table (Controller α)) (e : Ensemble σ α) : Prop extends Orderly e where
  unchanged : e.topologyChanged = false
  pending : ∀ p ∈ rest, e.controllers.lookup p.1 = some p.2
  distinct : (Table.ids rest).Nodup
  prepared : ∀ id c, e.controllers.lookup id = some c → (id, c) ∈ rest ∨ c.Begun

/-- A step of the next controller leaves it the next. -/
theorem Preparing.replace {id : AgentId} {c c' : Controller α} {rest : Table (Controller α)}
    {e : Ensemble σ α} (h : Preparing ((id, c) :: rest) e) (hadv : c.Advances c') :
    Preparing ((id, c') :: rest) { e with controllers := Table.insert id c' e.controllers } := by
  obtain ⟨hfresh, hdistinct⟩ := List.nodup_cons.mp h.distinct
  have hpending := Table.lookup_insert_cons hfresh
    (fun p hp => h.pending p (List.mem_cons_of_mem _ hp)) c'
  refine ⟨h.toOrderly.put (h.pending _ List.mem_cons_self) hadv, h.unchanged, hpending,
    List.nodup_cons.mpr ⟨hfresh, hdistinct⟩, fun k d hd => ?_⟩
  rcases Table.lookup_insert_cases hd with ⟨rfl, rfl⟩ | ⟨hne, hold⟩
  · exact .inl List.mem_cons_self
  · refine (h.prepared k d hold).imp_left fun hmem => List.mem_cons_of_mem _ ?_
    exact (List.mem_cons.mp hmem).resolve_left fun heq => hne (congrArg Prod.fst heq)

/-- With the next controller begun, it is the turn of the others. -/
theorem Preparing.put {id : AgentId} {c c' : Controller α} {rest : Table (Controller α)}
    {e : Ensemble σ α} (h : Preparing ((id, c) :: rest) e) (hadv : c.Advances c') (hbegun : c'.Begun) :
    Preparing rest { e with controllers := Table.insert id c' e.controllers } := by
  have hnext := h.replace hadv
  refine ⟨hnext.toOrderly, h.unchanged, fun p hp => hnext.pending p (List.mem_cons_of_mem _ hp),
    (List.nodup_cons.mp h.distinct).2, fun k d hd => ?_⟩
  rcases hnext.prepared k d hd with hmem | hd
  · rcases List.mem_cons.mp hmem with heq | hmem
    · obtain ⟨-, rfl⟩ := Prod.mk.inj heq
      exact .inr hbegun
    · exact .inl hmem
  · exact .inr hd

theorem triple_prepareController (t0 : α) (p : AgentId × Controller α)
    (rest : Table (Controller α)) :
    Triple (Preparing (p :: rest)) (prepareController t0 p : Run σ α Unit)
      (fun _ => Preparing rest) Orderly := by
  obtain ⟨id, c⟩ := p
  have hstart : c.Advances (c.startAt t0) := (Controller.Step.start t0 c).advances
  have hbegin : ∀ d : Controller α, d.Advances d.beginSolve := fun d =>
    (Controller.Step.begin d).advances
  unfold prepareController
  dsimp only
  split
  · have hprepare := hstart.trans (Controller.Step.prepare (c.startAt t0)).advances
    refine triple_bind (Q := fun _ => Preparing ((id, (c.startAt t0).prepare.1) :: rest))
      (triple_putController fun e h => h.replace hprepare) fun _ => ?_
    refine triple_bind (Q := fun _ e => Preparing ((id, (c.startAt t0).prepare.1) :: rest) e ∧
      (c.startAt t0).prepare.2 = .ok ()) ?_ fun _ => ?_
    · exact triple_configured (fun _ h _ hok => ⟨h, hok⟩) fun _ h => h.toOrderly
    · exact triple_putController fun e h =>
        h.1.put (hbegin _) (Controller.begun_beginSolve (Controller.begun_prepare h.2))
  · next hstatus =>
    exact triple_putController fun e h =>
      h.put (hstart.trans (hbegin _)) (Controller.begun_beginSolve hstatus)

theorem triple_prepare (t0 : α) :
    Triple Orderly (prepare t0 : Run σ α Unit)
      (fun _ e => e.Working ∧ e.topologyChanged = false) Orderly := by
  unfold prepare
  refine triple_bind (triple_syncTopology t0) fun _ => triple_get_bind fun e h => ?_
  refine (triple_forM_rest (triple_prepareController t0) e.controllers).weaken ?_ ?_ (fun _ h => h)
  · intro _ heq
    obtain rfl := heq
    exact ⟨h.1, h.2, fun p hp => Table.lookup_of_mem h.1.sorted hp, h.1.sorted.nodup,
      fun id c hc => .inl (Table.mem_of_lookup hc)⟩
  · exact fun _ e h => ⟨⟨h.toOrderly, fun id c hc => (h.prepared id c hc).resolve_left (by simp)⟩,
      h.unchanged⟩

theorem keeps_solve (t0 : α) : Keeps (Orderly (σ := σ) (α := α)) (solve t0) :=
  phased_working.keeps_solve (fun _ h => h.toOrderly)
    ((triple_prepare t0).weaken (fun _ h => h) (fun _ _ h => h.1) fun _ h => h)

theorem Orderly.withNetwork {e : Ensemble σ α} (h : e.Orderly) {n : Network α} (hn : n.Registered)
    (hm : ∀ id c, e.controllers.lookup id = some c → n.model? id = e.network.model? id) :
    Orderly { e with network := n, topologyChanged := true } where
  registered := hn
  sorted := h.sorted
  evolved := h.evolved
  keyed := h.keyed
  models id c hc := (hm id c hc).trans (h.models id c hc)
  linked hchanged := by simp at hchanged
  complete hchanged := by simp at hchanged
  bounded := h.bounded

/-- Data of an agent other than its model leave the topology as it is. -/
theorem Orderly.withSameModels {e : Ensemble σ α} (h : e.Orderly) {n : Network α}
    (hn : n.Registered) (hm : ∀ id, n.model? id = e.network.model? id)
    (hcouplings : n.couplings = e.network.couplings) : Orderly { e with network := n } where
  registered := hn
  sorted := h.sorted
  evolved := h.evolved
  keyed := h.keyed
  models id c hc := (hm id).trans (h.models id c hc)
  linked hchanged id c hc := (h.linked hchanged id c hc).of_network hm hcouplings
  complete hchanged id hid := by
    obtain ⟨entry, hentry⟩ := hn.entry_of_mem hid
    have hmodel : n.model? id = some entry.model := Option.map_eq_some_iff.mpr ⟨entry, hentry, rfl⟩
    exact h.complete hchanged id (Network.mem_ids_of_model ((hm id).symm.trans hmodel))
  bounded := h.bounded

/-- The network has changed, and nothing else has yet. -/
def Applied (change : Change α) (e' : Ensemble σ α) : Prop :=
  ∃ (e : Ensemble σ α) (n : Network α), e.Orderly ∧ e.network.apply change = .ok n ∧
    e' = { e with network := n }

theorem Orderly.registerAgent {e : Ensemble σ α} (h : e.Orderly) {id : AgentId}
    {model : AgentModel α} {x u : Vec α} {n : Network α}
    (hn : e.network.registerAgent id model x u = .ok n) :
    Orderly { e with
      network := n
      transport := Transport.register id e.transport
      topologyChanged := true } := by
  obtain ⟨hnew, -, -, -, -, rfl⟩ := Network.registerAgent_eq_ok hn
  refine (h.withNetwork (h.registered.setEntry id _) fun k c hc => ?_).withTransport fun env henv =>
    h.bounded env (FaithfulTransport.inTransit_register henv)
  have hk : k ≠ id := by
    intro heq
    obtain rfl := heq
    have hmem := Network.mem_ids_of_model (h.models k c hc)
    have hcontains := (Table.contains_iff h.registered.sorted).mpr hmem
    simp [Network.contains, hcontains] at hnew
  simp only [Network.model?, Network.entry_setEntry, if_neg hk]

theorem Orderly.deregisterAgent {e : Ensemble σ α} (h : e.Orderly) (id : AgentId)
    (solutions : Table (Solution α)) :
    Orderly { e with
      network := ⟨Table.erase id e.network.agents,
        e.network.couplings.filter fun c => !c.touches id⟩
      transport := Transport.deregister id e.transport
      controllers := Table.erase id e.controllers
      solutions
      topologyChanged := true } := by
  have hold : ∀ k c, (Table.erase id e.controllers).lookup k = some c →
      k ≠ id ∧ e.controllers.lookup k = some c := by
    intro k c hc
    by_cases hk : k = id
    · subst hk
      simp [Table.lookup_erase_self] at hc
    · exact ⟨hk, by rwa [Table.lookup_erase_ne hk] at hc⟩
  refine ⟨h.registered.deregister id, h.sorted.erase id, fun k c hc => ?_, fun k c hc => ?_,
    fun k c hc => ?_, by simp, by simp, fun env henv => ?_⟩
  · exact h.evolved k c (hold k c hc).2
  · exact h.keyed k c (hold k c hc).2
  · obtain ⟨hk, hc⟩ := hold k c hc
    have hmodel := h.models k c hc
    simpa only [Network.model?, Network.entry?, Table.lookup_erase_ne hk] using hmodel
  · exact h.bounded env (FaithfulTransport.inTransit_deregister henv)

theorem keeps_setInitial (id : AgentId) (x : Vec α) :
    Keeps (Orderly (σ := σ) (α := α)) (do
      if let some c := (← get).controllers.lookup id then
        putController id (← configured id (c.setInitialState x))) := by
  refine triple_get_bind fun e h => ?_
  split
  · next c hc =>
    refine triple_bind (Q := fun c' e' => e' = e ∧ c.setInitialState x = .ok c') ?_ ?_
    · exact triple_configured (fun _ he a ha => ⟨he, ha⟩) fun _ he => he ▸ h
    · refine fun c' => triple_putController ?_
      intro _ h
      obtain ⟨rfl, hc'⟩ := h
      exact h.put hc (Controller.Step.restart hc').advances
  · exact triple_pure fun _ he => he ▸ h

theorem keeps_apply (change : Change α) :
    Keeps (Orderly (σ := σ) (α := α)) (apply change) := by
  unfold apply
  refine triple_get_bind fun e h => ?_
  refine triple_bind (Q := fun n e' => e' = e ∧ e.network.apply change = .ok n) ?_ fun n => ?_
  · exact triple_configured (fun _ he n hn => ⟨he, hn⟩) fun _ he => he ▸ h
  refine triple_bind (Q := fun _ => Applied change) (triple_modify ?_) fun _ => ?_
  · intro _ h
    obtain ⟨rfl, hn⟩ := h
    exact ⟨_, n, h, hn, rfl⟩
  cases change with
  | registerAgent id model x u =>
    refine triple_modify ?_
    intro _ h
    obtain ⟨e, n, h, hn, rfl⟩ := h
    exact h.registerAgent hn
  | deregisterAgent id =>
    refine triple_modify ?_
    intro _ h
    obtain ⟨e, n, h, hn, rfl⟩ := h
    obtain rfl := Network.apply_deregisterAgent_eq_ok hn
    exact h.deregisterAgent id _
  | setDesired id x u =>
    refine triple_modify ?_
    intro _ h
    obtain ⟨e, n, h, hn, rfl⟩ := h
    obtain ⟨entry, hentry, -, -, rfl⟩ := Network.setDesired_eq_ok hn
    exact h.withNetwork (h.registered.setEntry id _) fun k _ _ =>
      Network.model?_setEntry hentry (by rfl) k
  | setInitial id x =>
    refine (keeps_setInitial id x).weaken ?_ (fun _ _ h => h) (fun _ h => h)
    intro _ h
    obtain ⟨e, n, h, hn, rfl⟩ := h
    obtain ⟨entry, hentry, -, rfl⟩ := Network.setInitial_eq_ok hn
    exact h.withSameModels (h.registered.setEntry id _)
      (fun k => Network.model?_setEntry hentry (by rfl) k) rfl
  | registerCoupling agent neighbor model =>
    refine triple_modify ?_
    intro _ h
    obtain ⟨e, n, h, hn, rfl⟩ := h
    have hagents : n.agents = e.network.agents := by
      obtain ⟨-, -, -, -, rfl⟩ := Network.registerCoupling_eq_ok hn
      rfl
    exact h.withNetwork (h.registered.apply hn) fun k _ _ => by
      simp only [Network.model?, Network.entry?, hagents]
  | deregisterCoupling agent neighbor =>
    refine triple_modify ?_
    intro _ h
    obtain ⟨e, n, h, hn, rfl⟩ := h
    have hagents : n.agents = e.network.agents := by
      obtain ⟨-, rfl⟩ := Network.deregisterCoupling_eq_ok hn
      rfl
    exact h.withNetwork (h.registered.apply hn) fun k _ _ => by
      simp only [Network.model?, Network.entry?, hagents]

theorem Orderly.pushApplied {e : Ensemble σ α} (h : e.Orderly) (t : α)
    (applied : Table (Sample α)) : (applied.foldl (pushApplied t) e).Orderly := by
  induction applied generalizing e with
  | nil => exact h
  | cons p applied ih => exact ih (h.withReports _ _ _ _)

theorem keeps_advance (dt : α) (next : AgentId × Vec α) :
    Keeps (Orderly (σ := σ) (α := α)) (advance dt next) := by
  obtain ⟨id, x⟩ := next
  unfold advance
  refine triple_get_bind fun e h => ?_
  refine triple_bind (Q := fun n e' => e' = e ∧ e.network.setInitial id x = .ok n) ?_ fun n => ?_
  · exact triple_configured (fun _ he n hn => ⟨he, hn⟩) fun _ he => he ▸ h
  refine triple_bind (Q := fun _ => Orderly) (triple_modify ?_) fun _ => ?_
  · intro _ h
    obtain ⟨rfl, hn⟩ := h
    obtain ⟨entry, hentry, -, rfl⟩ := Network.setInitial_eq_ok hn
    exact h.withSameModels (h.registered.setEntry id _)
      (fun k => Network.model?_setEntry hentry (by rfl) k) rfl
  refine triple_get_bind fun e h => ?_
  split
  · next c hc =>
    refine triple_bind (Q := fun _ e => e.Orderly ∧
      e.controllers.lookup id = some (c.shiftHorizon dt).1) (triple_putController ?_) fun _ => ?_
    · intro _ heq
      obtain rfl := heq
      exact ⟨h.put hc (Controller.Step.shift dt c).advances, Table.lookup_insert _ _ _⟩
    refine triple_bind (Q := fun _ e => e.Orderly ∧
      e.controllers.lookup id = some (c.shiftHorizon dt).1) ?_ fun _ => ?_
    · exact triple_promised (fun _ he _ _ => he) fun _ he => he.1
    refine triple_bind (Q := fun c' e => (e.Orderly ∧
      e.controllers.lookup id = some (c.shiftHorizon dt).1) ∧
      (c.shiftHorizon dt).1.setInitialState x = .ok c') ?_ fun c' => ?_
    · exact triple_configured (fun _ he c' hc' => ⟨he, hc'⟩) fun _ he => he.1
    · exact triple_putController fun e he =>
        he.1.1.put he.1.2 (Controller.Step.restart he.2).advances
  · exact triple_pure fun _ he => he ▸ h

theorem keeps_closedLoopStep (t dt : α) :
    Keeps (Orderly (σ := σ) (α := α)) (closedLoopStep t dt) := by
  unfold closedLoopStep
  refine triple_bind (Q := fun _ => Orderly) (keeps_solve t) fun summary => ?_
  refine triple_get_bind fun e h => ?_
  refine triple_bind (Q := fun _ => Orderly) ?_ fun applied => ?_
  · exact triple_promised (fun _ he _ _ => he ▸ h) fun _ he => he ▸ h
  refine triple_bind (Q := fun _ => Orderly) (triple_modify fun _ h => h.pushApplied t applied)
    fun _ => triple_get_bind fun e h => ?_
  refine triple_bind (Q := fun _ => Orderly) ?_ fun _ => triple_pure fun _ h => h
  exact (triple_forM fun next _ => keeps_advance dt next).weaken (fun _ he => he ▸ h)
    (fun _ _ h => h) (fun _ h => h)

/-- Ensembles that operations lead to, in any order and whether they succeed or stop early. In between,
any controller may take any step of its own, as to another solver, to other prices and weights or to a
later horizon. -/
inductive Reachable : Ensemble σ α → Prop
  | new (o : Options α) (solver : LocalSolver α) {transport : σ}
      (h : ∀ env, ¬ FaithfulTransport.InTransit env transport) : Reachable (.new o solver transport)
  | apply (change : Change α) {e : Ensemble σ α} (h : Reachable e) :
      Reachable (exec (apply change) e).2
  | prepare (t0 : α) {e : Ensemble σ α} (h : Reachable e) : Reachable (exec (prepare t0) e).2
  | solve (t0 : α) {e : Ensemble σ α} (h : Reachable e) : Reachable (exec (solve t0) e).2
  | closedLoopStep (t dt : α) {e : Ensemble σ α} (h : Reachable e) :
      Reachable (exec (closedLoopStep t dt) e).2
  | withSolver (solver : LocalSolver α) {e : Ensemble σ α} (h : Reachable e) :
      Reachable (e.withSolver solver)
  | capStoredData (samples : Nat) {e : Ensemble σ α} (h : Reachable e) :
      Reachable (e.capStoredData samples)
  | step {id : AgentId} {c c' : Controller α} {e : Ensemble σ α} (h : Reachable e)
      (hc : e.controllers.lookup id = some c) (hstep : c.Step c') :
      Reachable { e with controllers := Table.insert id c' e.controllers }

theorem Reachable.orderly {e : Ensemble σ α} (h : e.Reachable) : e.Orderly := by
  induction h with
  | new o solver h =>
    refine ⟨Network.registered_empty, List.Pairwise.nil, ?_, ?_, ?_, ?_, ?_, ?_⟩
    all_goals simp [Ensemble.new, Network.ids, Network.empty, Table.ids, h]
  | apply change _ ih => exact (keeps_apply change).exec ih
  | prepare t0 _ ih =>
    have hkeeps : Keeps (Orderly (σ := σ) (α := α)) (Ensemble.prepare t0) :=
      (triple_prepare t0).weaken (fun _ h => h) (fun _ _ h => h.1.toOrderly) (fun _ h => h)
    exact hkeeps.exec ih
  | solve t0 _ ih => exact (keeps_solve t0).exec ih
  | closedLoopStep t dt _ ih => exact (keeps_closedLoopStep t dt).exec ih
  | withSolver solver _ ih =>
    refine ⟨ih.registered, List.Pairwise.nil, ?_, ?_, ?_, ?_, ?_, ih.bounded⟩
    all_goals simp [Ensemble.withSolver]
  | capStoredData samples _ ih => exact ih.withReports _ _ _ _
  | step _ hc hstep ih => exact ih.put hc hstep.advances

theorem Reachable.of_prepare {t0 : α} {e e' : Ensemble σ α} (h : e.Reachable)
    (hprepare : Returns (Ensemble.prepare t0) e () e') : e'.Reachable := by
  have hr := h.prepare t0
  unfold Returns at hprepare
  rwa [hprepare] at hr

/-- The ensemble after some changes, refused ones among them. -/
def applyAll (changes : List (Change α)) (e : Ensemble σ α) : Ensemble σ α :=
  changes.foldl (fun e change => (exec (apply change) e).2) e

theorem Reachable.applyAll (changes : List (Change α)) {e : Ensemble σ α} (h : Reachable e) :
    (e.applyAll changes).Reachable := by
  induction changes generalizing e with
  | nil => exact h
  | cons change changes ih => exact ih (h.apply change)

/-- An agent with `ẋ = u - x`. -/
def decaying : LinearAgent Rat where
  name := "decaying"
  nx := 1
  nu := 1
  a := ⟨[[-1]]⟩
  b := ⟨[[1]]⟩
  q := [1]
  r := [1]
  p := [1]
  bounds := none

/-- The state of the neighbor adds to `ẋ`. -/
def following : LinearCoupling Rat := ⟨⟨[[1]]⟩, ⟨[[0]]⟩⟩

/-- Two agents that start at `x` and follow each other. -/
def pair (x : Rat) (solver : LocalSolver Rat) : Ensemble (Direct Rat) Rat :=
  applyAll
    [.registerAgent 0 decaying.toModel [x] [0], .registerAgent 1 decaying.toModel [x] [0],
      .registerCoupling 0 1 following.toModel, .registerCoupling 1 0 following.toModel]
    (.new { (Options.default : Options Rat) with horizonSteps := 2 } solver .empty)

theorem pair_reachable (x : Rat) (solver : LocalSolver Rat) : (pair x solver).Reachable :=
  .applyAll _ (.new _ _ Direct.not_inTransit_empty)

/-- Wants to stay where it is, with the control `u` for itself and none for others. -/
def insist (u : Rat) : LocalSolver Rat := fun problem guess o =>
  let control := Trajectory.constant o.horizonSteps (u :: Vec.zeros (problem.dims.nu - 1))
  .ok (.ok ⟨Trajectory.uniformGrid guess.t0 o.stepSize o.horizonSteps,
    Trajectory.constant o.horizonSteps guess.x0, control, 0, 0, true⟩)

end Ensemble

end ConsensusControl
