import ConsensusControl.Proofs.Consensus.Averaging
import ConsensusControl.Proofs.Consensus.Weights
import ConsensusControl.Proofs.Ensemble.ReplicaAgreement

namespace ConsensusControl

section Settled

variable {σ α : Type}

namespace Agent

variable {a a' : Agent α}

theorem controlParticipants_congr (hstate : a'.agentState = a.agentState)
    (hmu : a'.multiplierState = a.multiplierState) (hrho : a'.penaltyState = a.penaltyState)
    (h : List.Forall₂ (fun nb nb' : Neighbor α => nb'.coupledAgentState = nb.coupledAgentState ∧
      nb'.coupledMultiplier = nb.coupledMultiplier ∧ nb'.coupledPenalty = nb.coupledPenalty)
      a.neighbors a'.neighbors) : a'.controlParticipants = a.controlParticipants := by
  have hneighbors : a'.neighbors.map (fun nb => (⟨nb.coupledAgentState.u, nb.coupledMultiplier.u,
      nb.coupledPenalty.u⟩ : Participant α)) = a.neighbors.map fun nb =>
      ⟨nb.coupledAgentState.u, nb.coupledMultiplier.u, nb.coupledPenalty.u⟩ := by
    refine map_eq_of_forall₂ (h.imp ?_)
    intro nb nb' h
    obtain ⟨hcopy, hmultiplier, hpenalty⟩ := h
    rw [hcopy, hmultiplier, hpenalty]
  rw [controlParticipants, controlParticipants, hneighbors, hstate, hmu, hrho]

end Agent

variable [Scalar α]

/-- Every consensus variable of the agent is the consensus of what its participants hold. -/
structure Controller.Settled (c : Controller α) : Prop where
  control : ∃ old, weightedConsensus old c.agent.controlParticipants = .ok c.agent.couplingState.u
  influence : ∀ nb ∈ c.agent.neighbors,
    ∃ old, weightedConsensus old nb.influenceParticipants = .ok nb.influenceCoupling.v

theorem Controller.settled_coupling {c c' : Controller α} (hlaid : c.Laid)
    (h : c.updateCouplingStates = .ok c') : c'.Settled := by
  obtain ⟨u, neighbors, previous, dual, hu, hneighbors, heq⟩ := updateCouplingStates_eq_ok h
  obtain ⟨hall, -⟩ := updateInfluences_all hlaid.previous hneighbors
  have hstate : c'.agent.agentState = c.agent.agentState := by rw [heq]
  have hmu : c'.agent.multiplierState = c.agent.multiplierState := by rw [heq]
  have hrho : c'.agent.penaltyState = c.agent.penaltyState := by rw [heq]
  have hnbs : c'.agent.neighbors = neighbors := by rw [heq]
  have hz : c'.agent.couplingState.u = u := by rw [heq]
  rw [← hnbs] at hall
  constructor
  · refine ⟨c.agent.couplingState.u, ?_⟩
    rw [Agent.controlParticipants_congr hstate hmu hrho, hz]
    · exact hu
    · refine hall.imp fun nb nb' hnb => ?_
      obtain ⟨v, -, rfl⟩ := Neighbor.updateInfluence_eq_ok hnb
      exact ⟨rfl, rfl, rfl⟩
  · intro nb' hnb'
    obtain ⟨nb, -, hnb⟩ := forall₂_mem_right hall hnb'
    obtain ⟨v, hv, rfl⟩ := Neighbor.updateInfluence_eq_ok hnb
    exact ⟨nb.influenceCoupling.v, hv⟩

namespace Ensemble

/-- An exchange of consensus variables is no part of what they average. -/
theorem Refreshed.settled {t : Table (Controller α)} {id : AgentId} {c c' : Controller α}
    (h : Refreshed .couplingStates t id c c') (hc : c.Settled) : c'.Settled := by
  have hstate : c'.agent.agentState = c.agent.agentState := by rw [h.rest]
  have hmu : c'.agent.multiplierState = c.agent.multiplierState := by rw [h.rest]
  have hrho : c'.agent.penaltyState = c.agent.penaltyState := by rw [h.rest]
  have hcoupling : c'.agent.couplingState = c.agent.couplingState := by rw [h.rest]
  constructor
  · obtain ⟨old, hold⟩ := hc.control
    refine ⟨old, ?_⟩
    rw [Agent.controlParticipants_congr hstate hmu hrho, hcoupling]
    · exact hold
    · refine h.neighbors.imp ?_
      intro nb _ h
      obtain ⟨d, back, -, -, -, rfl⟩ := h
      exact ⟨rfl, rfl, rfl⟩
  · intro nb' hnb'
    obtain ⟨nb, hnb, d, back, -, -, -, rfl⟩ := forall₂_mem_right h.neighbors hnb'
    exact hc.influence nb hnb

variable [FaithfulTransport σ α]

theorem Passes.settled {t0 : α} {n : Nat} {e₀ e : Ensemble σ α} (h₀ : e₀.Orderly)
    (h : Passes t0 e₀ .raising n e) {id : AgentId} {c : Controller α}
    (hc : e.controllers.lookup id = some c) : c.Settled := by
  cases h with
  | @couple _ e e₁ _ _ h hcouple hexchange =>
    have hstep := h.inStep h₀
    have hstep₁ := hstep.coupling hcouple
    obtain ⟨-, hrel⟩ := exchange_refreshed hstep₁.sorted hstep₁.nodup hstep₁.bounded hexchange
    obtain ⟨c₁, hc₁, hR⟩ := hrel.back hc
    obtain ⟨c₀, hc₀, hok⟩ := (rel_coupling hcouple).back hc₁
    exact hR.settled (Controller.settled_coupling (hstep.laid hc₀) hok)

end Ensemble

end Settled

/-- The prices of every consensus variable cancel over its participants: those of an agent's control over
the agent and all neighbors, which hold a copy of it, and those of its influence variable towards a neighbor
over the two of them, or over the neighbor alone if the agent does not predict it. -/
structure Balanced (t : Table (Controller Rat)) : Prop where
  control : ∀ i c, t.lookup i = some c → ∃ held : List (MultiplierState Rat),
    List.Forall₂ (fun j mu => ∃ d back, t.lookup j = some d ∧ d.agent.neighbor? i = some back ∧
      back.copyMultiplier = mu) c.agent.neighborIds held ∧
    (∀ mu ∈ held, mu.u.length = c.agent.multiplierState.u.length) ∧
    ∀ k, c.agent.multiplierState.u.getD k 0 + (held.map (·.u.getD k 0)).sum = 0
  influence : ForPairs t fun _ nb _ back =>
    (nb.approximated = true → nb.influenceMultiplier.v.length = back.copyMultiplier.v.length) ∧
    ∀ k, (if nb.approximated then nb.influenceMultiplier.v.getD k 0 else 0) +
      back.copyMultiplier.v.getD k 0 = 0

/-- All prices stay. -/
def Controller.KeepsPrices {α : Type} (c : Controller α) (nb : Neighbor α) (c' : Controller α)
    (nb' : Neighbor α) : Prop :=
  c'.agent.multiplierState = c.agent.multiplierState ∧ nb'.approximated = nb.approximated ∧
    nb'.influenceMultiplier = nb.influenceMultiplier ∧ nb'.copyMultiplier = nb.copyMultiplier

namespace Controller

variable {α : Type} [Scalar α] {c c' : Controller α}

theorem keepsPrices_adapting (h : c.adaptPenalties = .ok c') :
    c'.agent.multiplierState = c.agent.multiplierState ∧ c.Carries KeepsPrices c' := by
  obtain rfl | ⟨_, neighbors, -, hneighbors, rfl⟩ := adaptPenalties_eq_ok h
  · exact ⟨rfl, List.forall₂_same.mpr fun _ _ => ⟨rfl, rfl, rfl, rfl, rfl⟩⟩
  · refine ⟨rfl, (adaptNeighborPenalties_eq_ok hneighbors).imp ?_⟩
    intro nb nb' h
    obtain rfl | ⟨old, hnb⟩ := h
    · exact ⟨rfl, rfl, rfl, rfl, rfl⟩
    · obtain ⟨_, _, _, -, -, -, rfl⟩ := Neighbor.adaptPenalties_eq_ok hnb
      exact ⟨rfl, rfl, rfl, rfl, rfl⟩

end Controller

theorem Ensemble.Refreshed.keepsPrices {α : Type} {t : Table (Controller α)} {id : AgentId}
    {c c' : Controller α} (h : Refreshed .multiplierStates t id c c') :
    c'.agent.multiplierState = c.agent.multiplierState ∧ c.Carries Controller.KeepsPrices c' := by
  have hmu : c'.agent.multiplierState = c.agent.multiplierState := by rw [h.rest]
  refine ⟨hmu, h.neighbors.imp ?_⟩
  intro nb _ h
  obtain ⟨d, back, -, -, -, rfl⟩ := h
  exact ⟨rfl, hmu, rfl, rfl, rfl⟩

theorem Neighbor.mem_influenceParticipants {α : Type} {nb : Neighbor α} {p : Participant α}
    (h : p ∈ nb.influenceParticipants) :
    p = ⟨nb.localInfluence, nb.influenceMultiplier.v, nb.influencePenalty.v⟩ ∨
      p = ⟨nb.coupledAgentState.v, nb.coupledMultiplier.v, nb.coupledPenalty.v⟩ := by
  unfold influenceParticipants at h
  split at h <;> simp at h <;> tauto

theorem Balanced.transfer {t t' : Table (Controller Rat)} (h : Balanced t)
    (ht : Table.Rel (fun _ c c' => c'.agent.multiplierState = c.agent.multiplierState ∧
      c.Carries Controller.KeepsPrices c') t t') : Balanced t' where
  control i c' hc' := by
    obtain ⟨c, hc, hmu, hcarries⟩ := ht.back hc'
    obtain ⟨held, hheld, hlengths, hsum⟩ := h.control i c hc
    have hids : c'.agent.neighborIds = c.agent.neighborIds :=
      map_eq_of_forall₂ (hcarries.imp fun _ _ h => h.1)
    refine ⟨held, ?_, by rwa [hmu], by rwa [hmu]⟩
    rw [hids]
    refine hheld.imp ?_
    intro j mu h
    obtain ⟨d, back, hd, hback, rfl⟩ := h
    obtain ⟨d', hd', -, hcarries'⟩ := ht.related j d hd
    obtain ⟨back', hback', -, -, -, -, hcopy⟩ :=
      Agent.neighbor?_forward (fun _ _ h => h.1) hcarries' hback
    exact ⟨d', back', hd', hback', hcopy⟩
  influence := by
    refine h.influence.transfer (ht.imp fun _ _ _ h => h.2) ?_
    intro c nb d back c' nb' d' back' hbalance hkeeps hkeeps'
    obtain ⟨-, happrox, hinfluence, -⟩ := hkeeps
    obtain ⟨-, -, -, hcopy⟩ := hkeeps'
    rwa [happrox, hinfluence, hcopy]

namespace Ensemble

variable {σ : Type} [FaithfulTransport σ Rat] {e₀ e e₁ e₂ : Ensemble σ Rat}

theorem InStep.weighted {stale : List RecordKind} (h : e.InStep stale) {id : AgentId}
    {c : Controller Rat} (hc : e.controllers.lookup id = some c) : c.agent.Weighted := by
  have hevolved := h.evolved id c hc
  have hvalid := (h.laid hc).valid
  rw [hevolved.options] at hvalid
  exact hevolved.weighted hvalid

/-- A neighbor raises the prices of its copy with what the agent knows of it. -/
theorem raised_copy {answers : List (AgentId × Unit)} (h : e.InStep [])
    (hraise : Returns (inParallel (·.raising)) e answers e₁) {i j : AgentId} {c : Controller Rat}
    {nb : Neighbor Rat} (hc : e.controllers.lookup i = some c) (hnb : c.agent.neighbor? j = some nb) :
    ∃ d back, e₁.controllers.lookup j = some d ∧ d.agent.neighbor? i = some back ∧
      (∃ r, dualAscent nb.coupledMultiplier.u nb.coupledPenalty.u c.agent.couplingState.u
        nb.coupledAgentState.u = .ok (back.copyMultiplier.u, r)) ∧
      ∃ r, dualAscent nb.coupledMultiplier.v nb.coupledPenalty.v nb.influenceCoupling.v
        nb.coupledAgentState.v = .ok (back.copyMultiplier.v, r) := by
  obtain ⟨d, back, hd, hback, hcopy⟩ := h.fresh .coupledAgentState (by simp) i j c nb hc hnb
  have hmultiplier := (h.fresh .coupledMultiplierState (by simp)).at_pair hc hnb hd hback
  have hpenalty := (h.fresh .coupledPenaltyState (by simp)).at_pair hc hnb hd hback
  have hcoupling := (h.fresh .couplingState (by simp)).at_pair hd hback hc hnb
  have hexternal := (h.fresh .externalInfluenceCouplingState (by simp)).at_pair hd hback hc hnb
  dsimp only [Neighbor.stored, Agent.recordOf] at hcopy hmultiplier hpenalty hcoupling hexternal
  obtain ⟨d', hd', hok⟩ := (rel_raising hraise).related j d hd
  obtain ⟨back', hback', -, p, p', hupdated⟩ := Agent.neighbor?_forward (fun _ _ h => h.1)
    (Controller.carries_updateMultipliers hok) hback
  obtain ⟨influence, q, copy, -, hraised, rfl⟩ := Neighbor.updateMultipliers_eq_ok hupdated
  obtain ⟨v, rv, u, ru, hv, hu, rfl, -⟩ := Neighbor.raiseCopy_eq_ok hraised
  refine ⟨_, _, hd', hback', ⟨ru, ?_⟩, rv, ?_⟩
  · rw [hmultiplier, hpenalty, ← hcoupling, hcopy]
    exact hu
  · rw [hmultiplier, hpenalty, ← hexternal, hcopy]
    exact hv

/-- The weights that a neighbor has sent are positive. -/
theorem InStep.received_positive (h : e.InStep []) {i j : AgentId} {c : Controller Rat}
    {nb : Neighbor Rat} (hc : e.controllers.lookup i = some c) (hnb : c.agent.neighbor? j = some nb) :
    nb.coupledPenalty.Positive := by
  obtain ⟨d, back, hd, hback, hpenalty⟩ := h.fresh .coupledPenaltyState (by simp) i j c nb hc hnb
  have hsame : nb.coupledPenalty = back.copyPenalty := hpenalty
  rw [hsame]
  exact ((h.weighted hd).neighbors back (Agent.mem_of_neighbor? hback).1).2

/-- All participants of a control have positive weights in it. -/
theorem InStep.control_weighted (h : e.InStep []) {i : AgentId} {c : Controller Rat}
    (hc : e.controllers.lookup i = some c) :
    ∀ p ∈ c.agent.controlParticipants, ∀ w ∈ p.rho, 0 < w := by
  intro p hp
  rcases List.mem_cons.mp hp with rfl | hp
  · exact (h.weighted hc).own.u
  · obtain ⟨nb, hnb, rfl⟩ := List.mem_map.mp hp
    exact (h.received_positive hc (Agent.neighbor?_of_mem (h.toWorking.nodup i c hc) hnb)).u

/-- So have those of an influence variable. -/
theorem InStep.influence_weighted (h : e.InStep []) {i j : AgentId} {c : Controller Rat}
    {nb : Neighbor Rat} (hc : e.controllers.lookup i = some c) (hnb : c.agent.neighbor? j = some nb) :
    ∀ p ∈ nb.influenceParticipants, ∀ w ∈ p.rho, 0 < w := by
  intro p hp
  rcases Neighbor.mem_influenceParticipants hp with rfl | rfl
  · exact ((h.weighted hc).neighbors nb (Agent.mem_of_neighbor? hnb).1).1.v
  · exact (h.received_positive hc hnb).v

/-- Raised by what they are away from their consensus, the prices of an agent's control cancel. -/
theorem raised_control {answers : List (AgentId × Unit)} (h : e.InStep [])
    (hraise : Returns (inParallel (·.raising)) e answers e₁) {i : AgentId} {c c' : Controller Rat}
    (hc : e.controllers.lookup i = some c) (hsettled : c.Settled)
    (hok : c.updateMultiplierStates = .ok c') :
    ∃ held : List (MultiplierState Rat),
      List.Forall₂ (fun j mu => ∃ d back, e₁.controllers.lookup j = some d ∧
        d.agent.neighbor? i = some back ∧ back.copyMultiplier = mu) c'.agent.neighborIds held ∧
      (∀ mu ∈ held, mu.u.length = c'.agent.multiplierState.u.length) ∧
      ∀ k, c'.agent.multiplierState.u.getD k 0 + (held.map (·.u.getD k 0)).sum = 0 := by
  have hfound : ∀ nb ∈ c.agent.neighbors, c.agent.neighbor? nb.id = some nb := fun nb hnb =>
    Agent.neighbor?_of_mem (h.toWorking.nodup i c hc) hnb
  obtain ⟨held, hheld⟩ : ∃ held, List.Forall₂ (fun nb (mu : MultiplierState Rat) =>
      (∃ d back, e₁.controllers.lookup nb.id = some d ∧ d.agent.neighbor? i = some back ∧
        back.copyMultiplier = mu) ∧
      ∃ r, dualAscent nb.coupledMultiplier.u nb.coupledPenalty.u c.agent.couplingState.u
        nb.coupledAgentState.u = .ok (mu.u, r)) c.agent.neighbors held := by
    refine exists_forall₂ fun nb hnb => ?_
    obtain ⟨d, back, hd, hback, hu, -⟩ := raised_copy h hraise hc (hfound nb hnb)
    exact ⟨back.copyMultiplier, ⟨d, back, hd, hback, rfl⟩, hu⟩
  have hids := Controller.neighborIds_of_site (Controller.site_updateMultiplierStates hok)
  obtain ⟨u, r, _, _, hu, -, rfl⟩ := Controller.updateMultiplierStates_eq_ok hok
  obtain ⟨old, hold⟩ := hsettled.control
  have hall : List.Forall₂ (fun p mu => ∃ r,
      dualAscent p.mu p.rho c.agent.couplingState.u p.value = .ok (mu, r))
      c.agent.controlParticipants (u :: held.map (·.u)) := by
    refine .cons ⟨r, hu⟩ ?_
    rw [List.forall₂_map_left_iff, List.forall₂_map_right_iff]
    exact hheld.imp fun _ _ h => h.2
  obtain ⟨hlengths, hsum⟩ := raised_balance (by simp [Agent.controlParticipants])
    (h.control_weighted hc) hold hall
  refine ⟨held, ?_, fun mu hmu => ?_, fun k => ?_⟩
  · rw [hids, Agent.neighborIds, List.forall₂_map_left_iff]
    exact hheld.imp fun _ _ h => h.1
  · rw [hlengths _ (List.mem_cons_of_mem _ (List.mem_map_of_mem hmu))]
    exact (hlengths _ List.mem_cons_self).symm
  · simpa [Function.comp_def] using hsum k

/-- So do those of an influence variable, of which the agent holds one only if it predicts it. -/
theorem raised_influence {nb nb' : Neighbor Rat} {p p' : Rat} {mu : Vec Rat}
    (hpos : ∀ p ∈ nb.influenceParticipants, ∀ w ∈ p.rho, 0 < w)
    (hsettled : ∃ old, weightedConsensus old nb.influenceParticipants = .ok nb.influenceCoupling.v)
    (hupdated : nb.updateMultipliers p = .ok (nb', p'))
    (hcopy : ∃ r, dualAscent nb.coupledMultiplier.v nb.coupledPenalty.v nb.influenceCoupling.v
      nb.coupledAgentState.v = .ok (mu, r)) :
    (nb'.approximated = true → nb'.influenceMultiplier.v.length = mu.length) ∧
      ∀ k, (if nb'.approximated then nb'.influenceMultiplier.v.getD k 0 else 0) + mu.getD k 0 = 0 := by
  obtain ⟨r, hv⟩ := hcopy
  obtain ⟨old, hold⟩ := hsettled
  obtain ⟨influence, q, copy, hinfluence, -, rfl⟩ := Neighbor.updateMultipliers_eq_ok hupdated
  have hprices : List.Forall₂ (fun p mu => ∃ r,
      dualAscent p.mu p.rho nb.influenceCoupling.v p.value = .ok (mu, r))
      nb.influenceParticipants ((if nb.approximated then [influence.v] else []) ++ [mu]) := by
    unfold Neighbor.influenceParticipants
    rcases Neighbor.raiseInfluence_eq_ok hinfluence with
      ⟨happrox, w, r', hw, rfl, -⟩ | ⟨happrox, -, -⟩
    · rw [if_pos happrox, if_pos happrox]
      exact .cons ⟨r', hw⟩ (.cons ⟨r, hv⟩ .nil)
    · rw [if_neg (by simp [happrox]), if_neg (by simp [happrox])]
      exact .cons ⟨r, hv⟩ .nil
  obtain ⟨hlengths, hsum⟩ := raised_balance (by simp [Neighbor.influenceParticipants]) hpos hold
    hprices
  refine ⟨fun (happrox : nb.approximated = true) => ?_, fun k => ?_⟩
  · rw [hlengths influence.v (by simp [happrox]), hlengths mu (by simp)]
  · have hk := hsum k
    dsimp only
    split at hk <;> simpa [*] using hk

theorem balanced_raise {answers : List (AgentId × Unit)} (h : e.InStep [])
    (hsettled : ∀ id c, e.controllers.lookup id = some c → c.Settled)
    (hraise : Returns (inParallel (·.raising)) e answers e₁) : Balanced e₁.controllers where
  control := by
    intro i c' hc'
    obtain ⟨c, hc, hok⟩ := (rel_raising hraise).back hc'
    exact raised_control h hraise hc (hsettled i c hc) hok
  influence := by
    intro i j c' nb' hc' hnb'
    obtain ⟨c, hc, hok⟩ := (rel_raising hraise).back hc'
    obtain ⟨nb, hnb, -, p, p', hupdated⟩ := Agent.neighbor?_back (fun _ _ h => h.1)
      (Controller.carries_updateMultipliers hok) hnb'
    obtain ⟨d', back', hd', hback', -, hcopy⟩ := raised_copy h hraise hc hnb
    have hsettled := (hsettled i c hc).influence nb (Agent.mem_of_neighbor? hnb).1
    exact ⟨d', back', hd', hback',
      raised_influence (h.influence_weighted hc hnb) hsettled hupdated hcopy⟩

theorem Passes.balanced_adapting {t0 : Rat} {n : Nat} (h₀ : e₀.Orderly)
    (h : Passes t0 e₀ .adapting n e) : Balanced e.controllers := by
  cases h with
  | raise h hraise =>
    exact balanced_raise (h.inStep h₀) (fun id c hc => h.settled h₀ hc) hraise

theorem Passes.balanced_closing {t0 : Rat} {n : Nat} (h₀ : e₀.Orderly)
    (h : Passes t0 e₀ .closing n e) : Balanced e.controllers := by
  cases h with
  | adapt h hadapt hexchange =>
    have hstep := (h.inStep h₀).adapting hadapt
    have hadapted := (h.balanced_adapting h₀).transfer
      ((rel_adapting hadapt).imp fun _ _ _ hok => Controller.keepsPrices_adapting hok)
    obtain ⟨-, hrel⟩ := exchange_refreshed hstep.sorted hstep.nodup hstep.bounded hexchange
    exact hadapted.transfer (hrel.imp fun _ _ _ hR => hR.keepsPrices)

theorem Passes.balanced {t0 : Rat} {m : Moment} {n : Nat} (h₀ : e₀.Reachable)
    (h : Passes t0 e₀ m n e) (hm : m = .adapting ∨ m = .closing) : Balanced e.controllers := by
  rcases hm with rfl | rfl
  · exact h.balanced_adapting h₀.orderly
  · exact h.balanced_closing h₀.orderly

/-- The pair with its prices raised. -/
def pairRaised : Ensemble (Direct Rat) Rat := (exec (inParallel (·.raising)) pairConsensus).2

theorem pair_balanced : Passes 0 (pair 1 (insist 1)) .adapting 1 pairRaised ∧
    (pairRaised.controllers.lookup 0).map (·.agent.multiplierState.u) = some [-1 / 2, -1 / 2] ∧
    Balanced pairRaised.controllers := by
  obtain ⟨_, hraise⟩ := returns_of_isOk (x := inParallel (·.raising)) (e := pairConsensus)
    (by decide +kernel)
  have hpasses : Passes 0 (pair 1 (insist 1)) .adapting 1 pairRaised :=
    .raise passes_pairConsensus hraise
  exact ⟨hpasses, by decide +kernel,
    Passes.balanced (pair_reachable 1 (insist 1)) hpasses (.inl rfl)⟩

end Ensemble

end ConsensusControl
