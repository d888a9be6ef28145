import ConsensusControl.Proofs.Consensus.Evolution

namespace ConsensusControl.Controller

variable {α : Type} {c c' : Controller α}

/-- What a controller does by itself. What it has received stays, and so does what it has to send, up
to some kinds. -/
structure Works (changed : List RecordKind) (c c' : Controller α) : Prop where
  site : c'.site = c.site
  neighbors : List.Forall₂ (fun nb nb' : Neighbor α => nb'.link = nb.link ∧
    (∀ kind, nb'.stored kind = nb.stored kind) ∧
    ∀ kind, kind ∉ changed → c'.agent.recordOf nb' kind = c.agent.recordOf nb kind)
    c.agent.neighbors c'.agent.neighbors

theorem Works.of_eq (hsite : c'.site = c.site) (h : c'.agent = c.agent) (changed : List RecordKind) :
    c.Works changed c' :=
  ⟨hsite, h ▸ List.forall₂_same.mpr fun _ _ => ⟨rfl, fun _ => rfl, fun _ _ => rfl⟩⟩

variable [Scalar α]

theorem works_updateAgentStates (c : Controller α) :
    c.Works ExchangePhase.agentStates.kinds c.updateAgentStates.1 := by
  refine ⟨site_updateAgentStates c, ?_⟩
  obtain ⟨state, neighbors, _, _, _, _, h, hall, -, -⟩ := c.updateAgentStates_eq
  rw [h]
  refine hall.imp ?_
  intro nb _ h
  obtain ⟨copy, influence, rfl⟩ := h
  refine ⟨rfl, fun kind => by cases kind <;> rfl, fun kind hkind => ?_⟩
  cases kind <;> first | rfl | simp [ExchangePhase.kinds] at hkind

theorem works_coupling (h : c.updateCouplingStates = .ok c') :
    c.Works ExchangePhase.couplingStates.kinds c' := by
  refine ⟨site_updateCouplingStates h, ?_⟩
  obtain ⟨u, neighbors, _, _, -, hneighbors, rfl⟩ := updateCouplingStates_eq_ok h
  refine (updateInfluences_eq_ok hneighbors).1.imp ?_
  intro nb nb' h
  obtain rfl | hnb := h
  · refine ⟨rfl, fun _ => rfl, fun kind hkind => ?_⟩
    cases kind <;> first | rfl | simp [ExchangePhase.kinds] at hkind
  · obtain ⟨v, -, rfl⟩ := Neighbor.updateInfluence_eq_ok hnb
    refine ⟨rfl, fun kind => by cases kind <;> rfl, fun kind hkind => ?_⟩
    cases kind <;> first | rfl | simp [ExchangePhase.kinds] at hkind

theorem works_raising (h : c.updateMultiplierStates = .ok c') :
    c.Works [.coupledMultiplierState] c' := by
  refine ⟨site_updateMultiplierStates h, ?_⟩
  obtain ⟨_, _, neighbors, _, -, hneighbors, rfl⟩ := updateMultiplierStates_eq_ok h
  refine (updateNeighborMultipliers_eq_ok hneighbors).imp ?_
  intro nb _ h
  obtain ⟨_, _, hnb⟩ := h
  obtain ⟨influence, _, copy, -, -, rfl⟩ := Neighbor.updateMultipliers_eq_ok hnb
  refine ⟨rfl, fun kind => by cases kind <;> rfl, fun kind hkind => ?_⟩
  cases kind <;> first | rfl | simp at hkind

theorem works_adapting (h : c.adaptPenalties = .ok c') : c.Works [.coupledPenaltyState] c' := by
  have hsite := site_adaptPenalties h
  obtain rfl | ⟨_, neighbors, -, hneighbors, rfl⟩ := adaptPenalties_eq_ok h
  · exact .of_eq rfl rfl _
  refine ⟨hsite, (adaptNeighborPenalties_eq_ok hneighbors).imp ?_⟩
  intro nb nb' h
  obtain rfl | ⟨old, hnb⟩ := h
  · refine ⟨rfl, fun _ => rfl, fun kind _ => ?_⟩
    cases kind <;> rfl
  · obtain ⟨_, _, _, -, -, -, rfl⟩ := Neighbor.adaptPenalties_eq_ok hnb
    refine ⟨rfl, fun kind => by cases kind <;> rfl, fun kind hkind => ?_⟩
    cases kind <;> first | rfl | simp at hkind

theorem works_finishIteration (c : Controller α) : c.Works [] c.finishIteration := by
  obtain ⟨_, -, heq⟩ := c.finishIteration_eq
  refine .of_eq ?_ ?_ []
  · rw [heq]
    rfl
  · rw [heq]

end ConsensusControl.Controller
