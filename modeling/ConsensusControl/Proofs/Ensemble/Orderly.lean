import ConsensusControl.Ensemble.ClosedLoop
import ConsensusControl.Proofs.Consensus.Evolution
import ConsensusControl.Proofs.Ensemble.Phases
import ConsensusControl.Proofs.Transport.Faithful

namespace ConsensusControl

namespace Controller

variable {α : Type} [Scalar α]

/-- The controller has gone through nothing but steps. -/
structure Advances (c c' : Controller α) : Prop where
  site : c'.site = c.site
  evolved : ∀ o, c.Evolved o → c'.Evolved o

theorem Advances.refl (c : Controller α) : c.Advances c := ⟨rfl, fun _ h => h⟩

theorem Advances.trans {a b c : Controller α} (h₁ : a.Advances b) (h₂ : b.Advances c) :
    a.Advances c :=
  ⟨h₂.site.trans h₁.site, fun o h => h₂.evolved o (h₁.evolved o h)⟩

theorem Step.advances {c c' : Controller α} (h : Step c c') : c.Advances c' :=
  ⟨h.site, fun _ hc => hc.step h⟩

/-- The agent has the neighbors that the network gives it, each with the model and the couplings that
the network has for it. -/
structure Linked (n : Network α) (c : Controller α) : Prop where
  ids : c.agent.neighborIds = n.neighborsOf c.agent.id
  models : ∀ l ∈ c.agent.links, n.model? l.id = some l.model
  relations : ∀ l ∈ c.agent.links, l.relation = n.relation c.agent.id l.id

omit [Scalar α] in
theorem Linked.of_site {n : Network α} {c c' : Controller α} (h : c.Linked n)
    (hsite : c'.site = c.site) : c'.Linked n := by
  have hid : c'.agent.id = c.agent.id := congrArg Site.id hsite
  have hlinks : c'.agent.links = c.agent.links := congrArg Site.links hsite
  refine ⟨?_, ?_, ?_⟩
  · rw [Agent.neighborIds_eq_links, hlinks, ← Agent.neighborIds_eq_links, hid]
    exact h.ids
  · rw [hlinks]
    exact h.models
  · rw [hlinks, hid]
    exact h.relations

omit [Scalar α] in
/-- A neighbor has the model of the agent that it stands for. -/
theorem Linked.model_eq {n : Network α} {c : Controller α} (h : c.Linked n) {nb : Neighbor α}
    (hnb : nb ∈ c.agent.neighbors) {model : AgentModel α} (hmodel : n.model? nb.id = some model) :
    nb.model = model := by
  have hlink : n.model? nb.id = some nb.model := h.models nb.link (List.mem_map_of_mem hnb)
  exact Option.some.inj (hlink.symm.trans hmodel)

omit [Scalar α] in
/-- Links depend on the models and the couplings of the network alone. -/
theorem Linked.of_network {n n' : Network α} {c : Controller α} (h : c.Linked n)
    (hmodels : ∀ id, n'.model? id = n.model? id) (hcouplings : n'.couplings = n.couplings) :
    c.Linked n' := by
  refine ⟨?_, fun l hl => (hmodels l.id).trans (h.models l hl), fun l hl => ?_⟩
  · rw [h.ids, Network.neighborsOf, Network.neighborsOf, hcouplings]
  · rw [h.relations l hl, Network.relation, Network.relation]
    simp only [Network.coupling?, hcouplings]

/-- The controller has been made ready for a horizon. -/
def Begun (c : Controller α) : Prop := c.status ≠ .uninitialized

omit [Scalar α] in
theorem begun_beginSolve {c : Controller α} (h : c.Begun) : c.beginSolve.Begun := by
  unfold Begun beginSolve
  dsimp only
  split
  · simp
  · exact h

theorem begun_prepare {c : Controller α} (h : c.prepare.2 = .ok ()) : c.prepare.1.Begun := by
  obtain ⟨-, layout, -, heq⟩ := laidOut_of_prepare h
  rw [heq]
  simp [Begun, laidOut, beginSolve]

omit [Scalar α] in
theorem begun_receive {c : Controller α} (hc : c.Begun) (sender : AgentId) (kind : RecordKind)
    (r : StateRecord α) : (c.applyIncoming sender kind r).1.Begun := by
  obtain ⟨_, heq⟩ := c.applyIncoming_frame sender kind r
  rw [heq]
  exact hc

theorem begun_updateAgentStates {c : Controller α} (hc : c.Begun) : c.updateAgentStates.1.Begun := by
  obtain ⟨_, _, _, _, _, _, heq, -, -, hstatus⟩ := c.updateAgentStates_eq
  rw [heq]
  exact hstatus hc

theorem coupling_eq_ok {c : Controller α} {u : Unit} (h : c.coupling.2 = .ok u) :
    c.updateCouplingStates = .ok c.coupling.1 := by
  unfold coupling at h ⊢
  split at h
  · assumption
  · simp at h

theorem advances_coupling {c : Controller α} {u : Unit} (h : c.coupling.2 = .ok u) (hc : c.Begun) :
    c.Advances c.coupling.1 ∧ c.coupling.1.Begun := by
  have hok := coupling_eq_ok h
  refine ⟨(Step.couple hok).advances, ?_⟩
  obtain ⟨_, _, _, _, -, -, heq⟩ := updateCouplingStates_eq_ok hok
  rw [heq]
  exact hc

/-- An ascent raises the prices and then adapts the penalties. -/
theorem ascent_eq_ok {c : Controller α} {u : Unit} (h : c.ascent.2 = .ok u) :
    ∃ raised, c.updateMultiplierStates = .ok raised ∧ raised.adaptPenalties = .ok c.ascent.1 := by
  unfold ascent at h ⊢
  split at h
  · next c' hc' => exact bind_eq_ok.mp hc'
  · simp at h

theorem advances_ascent {c : Controller α} {u : Unit} (h : c.ascent.2 = .ok u) (hc : c.Begun) :
    c.Advances c.ascent.1 ∧ c.ascent.1.Begun := by
  obtain ⟨raised, hraised, hadapted⟩ := ascent_eq_ok h
  refine ⟨(Step.raise hraised).advances.trans (Step.adapt hadapted).advances, ?_⟩
  obtain ⟨_, _, _, _, -, -, rfl⟩ := updateMultiplierStates_eq_ok hraised
  obtain heq | ⟨_, _, -, -, heq⟩ := adaptPenalties_eq_ok hadapted
  · rw [heq]
    exact hc
  · rw [heq]
    exact hc

theorem begun_finishIteration (c : Controller α) : c.finishIteration.Begun := by
  obtain ⟨_, hstatus, heq⟩ := c.finishIteration_eq
  rw [heq]
  exact hstatus

end Controller

namespace Ensemble

variable {σ α : Type} [Scalar α] [FaithfulTransport σ α]

/-- What holds of every ensemble between operations. The controllers belong to registered agents and
have come from the network. While it has not changed since, so have the links to their neighbors, and no
agent lacks a controller. No round that is in transit is still to come. -/
structure Orderly (e : Ensemble σ α) : Prop where
  registered : e.network.Registered
  sorted : Table.Sorted e.controllers
  evolved : ∀ id c, e.controllers.lookup id = some c → c.Evolved e.options
  keyed : ∀ id c, e.controllers.lookup id = some c → c.agent.id = id
  models : ∀ id c, e.controllers.lookup id = some c → e.network.model? id = some c.agent.model
  linked : e.topologyChanged = false → ∀ id c, e.controllers.lookup id = some c →
    c.Linked e.network
  complete : e.topologyChanged = false → ∀ id ∈ e.network.ids, id ∈ Table.ids e.controllers
  bounded : ∀ env, FaithfulTransport.InTransit env e.transport → env.round ≤ e.round

/-- Orderly, with every controller ready to work. -/
structure Working (e : Ensemble σ α) : Prop extends Orderly e where
  begun : ∀ id c, e.controllers.lookup id = some c → c.Begun

theorem Orderly.withControllers {e : Ensemble σ α} (h : e.Orderly) {t : Table (Controller α)}
    (hs : Table.Sorted t) (hids : ∀ id ∈ Table.ids e.controllers, id ∈ Table.ids t)
    (ht : ∀ id c', t.lookup id = some c' → ∃ c, e.controllers.lookup id = some c ∧ c.Advances c') :
    Orderly { e with controllers := t } where
  registered := h.registered
  sorted := hs
  evolved id c' hc' := by
    obtain ⟨c, hc, hadv⟩ := ht id c' hc'
    exact hadv.evolved _ (h.evolved id c hc)
  keyed id c' hc' := by
    obtain ⟨c, hc, hadv⟩ := ht id c' hc'
    exact (congrArg Controller.Site.id hadv.site).trans (h.keyed id c hc)
  models id c' hc' := by
    obtain ⟨c, hc, hadv⟩ := ht id c' hc'
    have hmodel : c'.agent.model = c.agent.model := congrArg Controller.Site.model hadv.site
    exact hmodel ▸ h.models id c hc
  linked hchanged id c' hc' := by
    obtain ⟨c, hc, hadv⟩ := ht id c' hc'
    exact (h.linked hchanged id c hc).of_site hadv.site
  complete hchanged id hid := hids id (h.complete hchanged id hid)
  bounded := h.bounded

theorem Orderly.put {e : Ensemble σ α} (h : e.Orderly) {id : AgentId} {c c' : Controller α}
    (hc : e.controllers.lookup id = some c) (hadv : c.Advances c') :
    Orderly { e with controllers := Table.insert id c' e.controllers } := by
  refine h.withControllers (h.sorted.insert id c') (fun k hk => Table.mem_ids_insert.mpr (.inr hk))
    fun k d hd => ?_
  rcases Table.lookup_insert_cases hd with ⟨rfl, rfl⟩ | ⟨-, hold⟩
  · exact ⟨c, hc, hadv⟩
  · exact ⟨d, hold, .refl d⟩

theorem Working.put {e : Ensemble σ α} (h : e.Working) {id : AgentId} {c c' : Controller α}
    (hc : e.controllers.lookup id = some c) (hadv : c.Advances c') (hbegun : c'.Begun) :
    Working { e with controllers := Table.insert id c' e.controllers } where
  toOrderly := h.toOrderly.put hc hadv
  begun k d hd := by
    rcases Table.lookup_insert_cases hd with ⟨rfl, rfl⟩ | ⟨-, hold⟩
    · exact hbegun
    · exact h.begun k d hold

/-- All controllers step at once. -/
theorem Working.map {e : Ensemble σ α} (h : e.Working) (work : Controller α → Controller α)
    (hwork : ∀ id c, e.controllers.lookup id = some c → c.Advances (work c) ∧ (work c).Begun) :
    Working { e with controllers := e.controllers.map fun p => (p.1, work p.2) } := by
  have hlookup : ∀ id c', (e.controllers.map fun p => (p.1, work p.2)).lookup id = some c' →
      ∃ c, e.controllers.lookup id = some c ∧ work c = c' := by
    intro id c' hc'
    rw [Table.lookup_map fun _ c => work c] at hc'
    exact Option.map_eq_some_iff.mp hc'
  refine ⟨h.toOrderly.withControllers (h.sorted.map fun p => work p.2) (fun id hid => ?_)
    fun id c' hc' => ?_, fun id c' hc' => ?_⟩
  · rwa [Table.ids_map fun p => work p.2]
  · obtain ⟨c, hc, rfl⟩ := hlookup id c' hc'
    exact ⟨c, hc, (hwork id c hc).1⟩
  · obtain ⟨c, hc, rfl⟩ := hlookup id c' hc'
    exact (hwork id c hc).2

theorem Orderly.withTransport {e : Ensemble σ α} (h : e.Orderly) {s : σ}
    (hs : ∀ env, FaithfulTransport.InTransit env s → env.round ≤ e.round) :
    Orderly { e with transport := s } :=
  ⟨h.registered, h.sorted, h.evolved, h.keyed, h.models, h.linked, h.complete, hs⟩

/-- Reports do not enter into it. -/
theorem Orderly.withReports {e : Ensemble σ α} (h : e.Orderly) (solver : LocalSolver α)
    (history : History α) (solutions : Table (Solution α)) (storedSamples : Option Nat) :
    Orderly { e with solver, history, solutions, storedSamples } :=
  ⟨h.registered, h.sorted, h.evolved, h.keyed, h.models, h.linked, h.complete, h.bounded⟩

theorem Working.withReports {e : Ensemble σ α} (h : e.Working) (solver : LocalSolver α)
    (history : History α) (solutions : Table (Solution α)) (storedSamples : Option Nat) :
    Working { e with solver, history, solutions, storedSamples } :=
  ⟨h.toOrderly.withReports solver history solutions storedSamples, h.begun⟩

theorem Working.withTransport {e : Ensemble σ α} (h : e.Working) {s : σ}
    (hs : ∀ env, FaithfulTransport.InTransit env s → env.round ≤ e.round) :
    Working { e with transport := s } :=
  ⟨h.toOrderly.withTransport hs, h.begun⟩

theorem keeps_send (iteration : Nat) (env : Envelope α) :
    Keeps (fun e : Ensemble σ α => e.Working ∧ e.round = env.round) (send iteration env) := by
  refine triple_send fun _ s h hs => ⟨h.1.withTransport fun env' henv => ?_, h.2⟩
  obtain ⟨hw, hr⟩ := h
  rcases FaithfulTransport.inTransit_send hs henv with rfl | hold
  · exact Nat.le_of_eq hr.symm
  · exact hw.bounded env' hold

theorem keeps_receive (iteration : Nat) (w : Awaited) :
    Keeps (Working (σ := σ) (α := α)) (receive iteration w) :=
  triple_receive fun _ _ _ hw hs => hw.withTransport fun env henv =>
    hw.bounded env (FaithfulTransport.inTransit_receive hs henv)

theorem keeps_deliver (iteration : Nat) (env : Envelope α) :
    Keeps (Working (σ := σ) (α := α)) (deliver iteration env) :=
  triple_deliver fun _ c hw hc =>
    hw.put hc (Controller.Step.receive env.sender env.kind env.record c).advances
      (Controller.begun_receive (hw.begun _ c hc) env.sender env.kind env.record)

omit [Scalar α] [FaithfulTransport σ α] in
theorem envelopes_round {phase : ExchangePhase} {e : Ensemble σ α} {env : Envelope α}
    (h : env ∈ envelopes phase e) : env.round = e.round := by
  simp only [envelopes, List.mem_flatMap, List.mem_map] at h
  obtain ⟨_, -, _, -, rfl⟩ := h
  rfl

theorem keeps_exchange (phase : ExchangePhase) (iteration : Nat) :
    Keeps (Working (σ := σ) (α := α)) (exchange phase iteration) := by
  unfold exchange
  refine triple_bind (Q := fun _ => Working) (triple_modify fun e hw => ?_) fun _ => ?_
  · refine ⟨⟨hw.registered, hw.sorted, hw.evolved, hw.keyed, hw.models, hw.linked, hw.complete, ?_⟩,
      hw.begun⟩
    exact fun env henv => Nat.le_succ_of_le (hw.bounded env henv)
  refine triple_get_bind fun e hw => ?_
  refine triple_bind (Q := fun _ => Working) ?_ fun _ => ?_
  · have hsends : Keeps (fun e' : Ensemble σ α => e'.Working ∧ e'.round = e.round)
        ((envelopes phase e).forM (send iteration)) :=
      triple_forM fun env henv => envelopes_round henv ▸ keeps_send iteration env
    exact hsends.weaken (by rintro _ rfl; exact ⟨hw, rfl⟩) (fun _ _ h => h.1) (fun _ h => h.1)
  refine triple_get_bind fun e hw => ?_
  refine triple_bind (Q := fun _ => Working) ?_ fun _ => ?_
  · exact (triple_mapM fun w _ => keeps_receive iteration w).weaken (fun _ he => he ▸ hw)
      (fun _ _ h => h) (fun _ h => h)
  · exact triple_forM fun env _ => keeps_deliver iteration env

theorem keeps_inParallel {β : Type} {work : Controller α → Controller α × Checked β}
    (h : ∀ c b, (work c).2 = .ok b → c.Begun → c.Advances (work c).1 ∧ (work c).1.Begun) :
    Keeps (Working (σ := σ) (α := α)) (inParallel work) := by
  intro e hw
  rcases exec_inParallel work e with ⟨answers, hexec, hall⟩ | ⟨s, hexec, -⟩
  · rw [hexec]
    refine hw.map (fun c => (work c).1) fun id c hc => ?_
    obtain ⟨b, hb⟩ := hall _ (Table.mem_of_lookup hc)
    exact h c b hb (hw.begun id c hc)
  · rw [hexec]
    exact hw

theorem keeps_storeSolutions : Keeps (Working (σ := σ) (α := α)) storeSolutions :=
  triple_modify fun _ hw => hw.withReports _ _ _ _

theorem keeps_escalate (iteration : Nat) (result : AgentId × Except SolveError Unit) :
    Keeps (Working (σ := σ) (α := α)) (escalate iteration result) := by
  unfold escalate
  split
  · exact triple_pure fun _ h => h
  refine triple_get_bind fun e hw => ?_
  split
  · next c hc =>
    split
    · refine triple_bind (Q := fun _ => Working) (triple_putController ?_) fun _ => ?_
      · intro _ heq
        obtain rfl := heq
        exact hw.put hc (Controller.Step.fail (hw.begun _ c hc)).advances (by
          simp [Controller.Begun, Controller.markFailed])
      · exact triple_bind keeps_storeSolutions fun _ => triple_throw fun _ h => h
    · exact triple_pure fun _ he => he ▸ hw
  · exact triple_pure fun _ he => he ▸ hw

theorem keeps_finish (iteration : Nat) : Keeps (Working (σ := σ) (α := α)) (finish iteration) := by
  unfold finish
  refine triple_bind (Q := fun _ => Working) (triple_modify fun e hw => ?_) fun _ => ?_
  · refine hw.map Controller.finishIteration fun id c hc => ?_
    exact ⟨(Controller.Step.finish (hw.begun id c hc)).advances, c.begun_finishIteration⟩
  refine triple_get_bind fun e hw => ?_
  exact triple_bind (Q := fun _ => Working) (triple_set fun _ _ => hw.withReports _ _ _ _) fun _ =>
    triple_pure fun _ h => h

theorem phased_working : Phased (Working (σ := σ) (α := α)) where
  solving := keeps_inParallel fun c _ _ hc =>
    ⟨(Controller.Step.solve c).advances, Controller.begun_updateAgentStates hc⟩
  escalating := keeps_escalate
  coupling := keeps_inParallel fun _ _ h hc => Controller.advances_coupling h hc
  ascending := keeps_inParallel fun _ _ h hc => Controller.advances_ascent h hc
  exchanging := keeps_exchange
  finishing := keeps_finish
  note _ h := h.withReports _ _ _ _
  store h := h.withReports _ _ _ _

end Ensemble

end ConsensusControl
