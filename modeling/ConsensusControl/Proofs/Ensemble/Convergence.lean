import ConsensusControl.Proofs.Consensus.Residuals
import ConsensusControl.Proofs.Ensemble.Balance

namespace ConsensusControl

/-- What an agent holds of a neighbor lies within `bound` of what the neighbor has: the copied control,
and the influence against the neighbor's copy of it. -/
structure CopiesAgree (bound : Rat) (nb : Neighbor Rat) (d : Controller Rat) (back : Neighbor Rat) :
    Prop where
  control_length : nb.localCopy.u.length = d.agent.agentState.u.length
  control : ∀ k, k < d.agent.agentState.u.length →
    |nb.localCopy.u.getD k 0 - d.agent.agentState.u.getD k 0| ≤ bound
  influence_length : back.localCopy.v.length ≤ nb.localInfluence.length
  influence : ∀ k, k < back.localCopy.v.length →
    |nb.localInfluence.getD k 0 - back.localCopy.v.getD k 0| ≤ bound

theorem CopiesAgree.mono {bound bound' : Rat} {nb back : Neighbor Rat} {d : Controller Rat}
    (h : CopiesAgree bound nb d back) (hle : bound ≤ bound') : CopiesAgree bound' nb d back :=
  ⟨h.control_length, fun k hk => le_trans (h.control k hk) hle, h.influence_length,
    fun k hk => le_trans (h.influence k hk) hle⟩

/-- Copies agree up to the primal residuals of both sides. -/
def Consistent (c : Controller Rat) (nb : Neighbor Rat) (d : Controller Rat) (back : Neighbor Rat) :
    Prop :=
  ∃ p q, c.residuals.primal = some p ∧ d.residuals.primal = some q ∧ CopiesAgree (p + q) nb d back

namespace Controller

variable {α : Type}

/-- The primal residual and all predictions stay. -/
def KeepsPredictions (c : Controller α) (nb : Neighbor α) (c' : Controller α) (nb' : Neighbor α) :
    Prop :=
  c'.residuals.primal = c.residuals.primal ∧ c'.agent.agentState = c.agent.agentState ∧
    nb'.localCopy = nb.localCopy ∧ nb'.localInfluence = nb.localInfluence

theorem keepsPredictions_adapting [Scalar α] {c c' : Controller α} (h : c.adaptPenalties = .ok c') :
    c.Carries KeepsPredictions c' := by
  obtain rfl | ⟨_, neighbors, -, hneighbors, rfl⟩ := adaptPenalties_eq_ok h
  · exact List.forall₂_same.mpr fun _ _ => ⟨rfl, rfl, rfl, rfl, rfl⟩
  · refine (adaptNeighborPenalties_eq_ok hneighbors).imp ?_
    intro nb nb' h
    obtain rfl | ⟨old, hnb⟩ := h
    · exact ⟨rfl, rfl, rfl, rfl, rfl⟩
    · obtain ⟨_, _, _, -, -, -, rfl⟩ := Neighbor.adaptPenalties_eq_ok hnb
      exact ⟨rfl, rfl, rfl, rfl, rfl⟩

theorem keepsPredictions_finishIteration [Scalar α] (c : Controller α) :
    c.Carries KeepsPredictions c.finishIteration := by
  have hsame : c.finishIteration.agent = c.agent ∧ c.finishIteration.residuals = c.residuals := by
    obtain ⟨_, -, heq⟩ := c.finishIteration_eq
    rw [heq]
    exact ⟨rfl, rfl⟩
  unfold Carries
  rw [hsame.1]
  exact List.forall₂_same.mpr fun _ _ => ⟨rfl, by rw [hsame.2], by rw [hsame.1], rfl, rfl⟩

end Controller

theorem Ensemble.Refreshed.keepsPredictions {α : Type} {t : Table (Controller α)} {id : AgentId}
    {c c' : Controller α} (h : Refreshed .multiplierStates t id c c') :
    c.Carries Controller.KeepsPredictions c' := by
  refine h.neighbors.imp ?_
  intro nb _ h
  obtain ⟨d, back, -, -, -, rfl⟩ := h
  refine ⟨rfl, ?_, ?_, rfl, rfl⟩
  · rw [h.rest]
  · rw [h.rest]

theorem Consistent.carried {c d c' d' : Controller Rat} {nb back nb' back' : Neighbor Rat}
    (h : Consistent c nb d back) (hc : c.KeepsPredictions nb c' nb')
    (hd : d.KeepsPredictions back d' back') : Consistent c' nb' d' back' := by
  obtain ⟨p, q, hp, hq, hagree⟩ := h
  obtain ⟨hprimal, -, hcopy, hinfluence⟩ := hc
  obtain ⟨hprimal', hstate', hcopy', -⟩ := hd
  refine ⟨p, q, hprimal.trans hp, hprimal'.trans hq, ?_, ?_, ?_, ?_⟩
  · rw [hcopy, hstate']
    exact hagree.control_length
  · rw [hcopy, hstate']
    exact hagree.control
  · rw [hinfluence, hcopy']
    exact hagree.influence_length
  · rw [hinfluence, hcopy']
    exact hagree.influence

theorem abs_sub_le_of_near {p q : Rat} {m n : Nat} {z a b : Vec Rat} (ha : Near p m z a)
    (hb : Near q n z b) {k : Nat} (hm : k < m) (hn : k < n) : |a.getD k 0 - b.getD k 0| ≤ p + q := by
  have hleft := ha.close k hm
  rw [abs_sub_comm] at hleft
  calc |a.getD k 0 - b.getD k 0|
      = |(a.getD k 0 - z.getD k 0) + (z.getD k 0 - b.getD k 0)| := by rw [sub_add_sub_cancel]
    _ ≤ |a.getD k 0 - z.getD k 0| + |z.getD k 0 - b.getD k 0| := abs_add_le _ _
    _ ≤ p + q := add_le_add hleft (hb.close k hn)

namespace Ensemble

variable {σ : Type} [FaithfulTransport σ Rat] {e₀ e e₁ e₂ : Ensemble σ Rat}

/-- An agent has the model of its neighbor as that one has it. -/
theorem InStep.model_eq {stale : List RecordKind} (h : e.InStep stale) {i j : AgentId}
    {c d : Controller Rat} {nb : Neighbor Rat} (hc : e.controllers.lookup i = some c)
    (hnb : c.agent.neighbor? j = some nb) (hd : e.controllers.lookup j = some d) :
    nb.model = d.agent.model := by
  obtain ⟨hmem, rfl⟩ := Agent.mem_of_neighbor? hnb
  have hlinked := (h.linked h.unchanged i c hc).models nb.link (List.mem_map_of_mem hmem)
  exact Option.some.inj (hlinked.symm.trans (h.models nb.id d hd))

/-- All controllers work with as many samples. -/
theorem InStep.samples_eq {stale : List RecordKind} (h : e.InStep stale) {i j : AgentId}
    {c d : Controller Rat} (hc : e.controllers.lookup i = some c)
    (hd : e.controllers.lookup j = some d) : d.options.horizonSteps = c.options.horizonSteps := by
  rw [(h.evolved i c hc).options, (h.evolved j d hd).options]

section Pair

variable {i j : AgentId} {c d : Controller Rat} {nb back : Neighbor Rat} {p q : Rat}

/-- Both sides compare the control with one and the same consensus. -/
theorem InStep.control_agrees (h : e.InStep []) (hc : e.controllers.lookup i = some c)
    (hnb : c.agent.neighbor? j = some nb) (hd : e.controllers.lookup j = some d)
    (hback : d.agent.neighbor? i = some back) (hsettled : d.Settled) (hp : nb.Within p)
    (hq : Near q d.agent.multiplierState.u.length d.agent.couplingState.u d.agent.agentState.u) :
    nb.localCopy.u.length = d.agent.agentState.u.length ∧
      ∀ k, k < d.agent.agentState.u.length →
        |nb.localCopy.u.getD k 0 - d.agent.agentState.u.getD k 0| ≤ p + q := by
  have hstate := (h.fresh .agentState (by simp)).at_pair hc hnb hd hback
  have hcoupling := (h.fresh .couplingState (by simp)).at_pair hc hnb hd hback
  have hcopy := (h.fresh .coupledAgentState (by simp)).at_pair hd hback hc hnb
  have hmultiplier := (h.fresh .coupledMultiplierState (by simp)).at_pair hd hback hc hnb
  have hnbmem := (Agent.mem_of_neighbor? hnb).1
  have hbackmem := (Agent.mem_of_neighbor? hback).1
  have hstateSize := h.sized i c hc nb hnbmem .agentState
  have hcouplingSize := h.sized i c hc nb hnbmem .couplingState
  have hcopySize := h.sized j d hd back hbackmem .coupledAgentState
  dsimp only [Neighbor.stored, Agent.recordOf] at hstate hcoupling hcopy hmultiplier
  dsimp only [Neighbor.stored, Neighbor.Accepts] at hstateSize hcouplingSize hcopySize
  have hnu : nb.nu = d.agent.nu := congrArg AgentModel.nu (h.model_eq hc hnb hd)
  rw [hcopy, h.samples_eq hc hd, ← hnu] at hcopySize
  rw [hstate] at hstateSize
  rw [hcoupling] at hcouplingSize
  obtain ⟨old, hold⟩ := hsettled.control
  have hcovers := (weightedConsensus_eq_ok.mp hold).1
  have hlength := (weightedConsensus_getD hold).1
  have hown := Participant.covers_iff.mp (hcovers _ List.mem_cons_self)
  have hheld := Participant.covers_iff.mp (hcovers _ (List.mem_cons_of_mem _
    (List.mem_map_of_mem hbackmem)))
  rw [hmultiplier] at hheld
  refine ⟨hcopySize.2.2.1.trans hstateSize.2.2.symm, fun k hk => ?_⟩
  have hk' : k < old.length := by
    rw [← hlength, hcouplingSize, ← hstateSize.2.2]
    exact hk
  have hleft := hp.copiedControl
  rw [hcoupling] at hleft
  exact abs_sub_le_of_near hleft hq (Nat.lt_of_lt_of_le hk' hheld.2.1)
    (Nat.lt_of_lt_of_le hk' hown.2.1)

/-- Both sides compare the influence with one and the same consensus. -/
theorem InStep.influence_agrees (h : e.InStep []) (hc : e.controllers.lookup i = some c)
    (hnb : c.agent.neighbor? j = some nb) (hd : e.controllers.lookup j = some d)
    (hback : d.agent.neighbor? i = some back) (hsettled : c.Settled)
    (happrox : nb.approximated = true) (hp : nb.Within p) (hq : back.Within q) :
    back.localCopy.v.length ≤ nb.localInfluence.length ∧
      ∀ k, k < back.localCopy.v.length →
        |nb.localInfluence.getD k 0 - back.localCopy.v.getD k 0| ≤ p + q := by
  have hcopy := (h.fresh .coupledAgentState (by simp)).at_pair hc hnb hd hback
  have hmultiplier := (h.fresh .coupledMultiplierState (by simp)).at_pair hc hnb hd hback
  have hexternal := (h.fresh .externalInfluenceCouplingState (by simp)).at_pair hd hback hc hnb
  have hnbmem := (Agent.mem_of_neighbor? hnb).1
  have hbackmem := (Agent.mem_of_neighbor? hback).1
  have hcopySize := h.sized i c hc nb hnbmem .coupledAgentState
  have hexternalSize := h.sized j d hd back hbackmem .externalInfluenceCouplingState
  dsimp only [Neighbor.stored, Agent.recordOf] at hcopy hmultiplier hexternal
  dsimp only [Neighbor.stored, Neighbor.Accepts] at hcopySize hexternalSize
  have hnx : back.nx = c.agent.nx := congrArg AgentModel.nx (h.model_eq hd hback hc)
  rw [hcopy] at hcopySize
  rw [hexternal, h.samples_eq hc hd, hnx] at hexternalSize
  obtain ⟨old, hold⟩ := hsettled.influence nb hnbmem
  have hcovers := (weightedConsensus_eq_ok.mp hold).1
  have hlength := (weightedConsensus_getD hold).1
  simp only [Neighbor.influenceParticipants, happrox, if_true, List.singleton_append,
    List.forall_mem_cons, List.not_mem_nil, false_imp_iff, implies_true, and_true,
    Participant.covers_iff] at hcovers
  obtain ⟨hown, hheld⟩ := hcovers
  rw [hmultiplier] at hheld
  have hsize : back.localCopy.v.length = old.length := by
    rw [← hlength, hexternalSize, hcopySize.2.2.2]
  have hleft := hp.influence happrox
  have hright := hq.copiedInfluence
  rw [hexternal] at hright
  refine ⟨?_, fun k hk => ?_⟩
  · rw [hsize]
    exact Nat.le_trans hown.2.1 hleft.right
  · rw [hsize] at hk
    exact abs_sub_le_of_near hleft hright (Nat.lt_of_lt_of_le hk hown.2.1)
      (Nat.lt_of_lt_of_le hk hheld.2.1)

end Pair

theorem consistent_raise {answers : List (AgentId × Unit)} (h : e.InStep [])
    (hsettled : ∀ id c, e.controllers.lookup id = some c → c.Settled)
    (hraise : Returns (inParallel (·.raising)) e answers e₁) :
    ForPairs e₁.controllers Consistent := by
  intro i j c' nb' hc' hnb'
  obtain ⟨c, hc, hok⟩ := (rel_raising hraise).back hc'
  obtain ⟨nb, hnb, -, _, _, hupdated⟩ := Agent.neighbor?_back (fun _ _ h => h.1)
    (Controller.carries_updateMultipliers hok) hnb'
  obtain ⟨d, back, hd, hback, -⟩ := h.fresh .agentState (by simp) i j c nb hc hnb
  obtain ⟨d', hd', hokd⟩ := (rel_raising hraise).related j d hd
  obtain ⟨back', hback', -, _, _, hupdated'⟩ := Agent.neighbor?_forward (fun _ _ h => h.1)
    (Controller.carries_updateMultipliers hokd) hback
  obtain ⟨p, hp, -, hwithin⟩ := Controller.within_raising hok
  obtain ⟨q, hq, hown, hwithin'⟩ := Controller.within_raising hokd
  have hnbmem := (Agent.mem_of_neighbor? hnb).1
  have hbackmem := (Agent.mem_of_neighbor? hback).1
  have hcontrol := h.control_agrees hc hnb hd hback (hsettled j d hd) (hwithin nb hnbmem) hown
  have hinfluence := h.influence_agrees hc hnb hd hback (hsettled i c hc)
    ((h.evolved i c hc).approximated nb hnbmem) (hwithin nb hnbmem) (hwithin' back hbackmem)
  refine ⟨d', back', hd', hback', p, q, hp, hq, ?_⟩
  obtain ⟨_, _, _, _, -, -, rfl⟩ := Controller.updateMultiplierStates_eq_ok hokd
  obtain ⟨_, _, _, -, -, rfl⟩ := Neighbor.updateMultipliers_eq_ok hupdated
  obtain ⟨_, _, _, -, -, rfl⟩ := Neighbor.updateMultipliers_eq_ok hupdated'
  exact ⟨hcontrol.1, hcontrol.2, hinfluence.1, hinfluence.2⟩

/-- At the end of every iteration the copies agree up to the residuals that it has measured. -/
theorem Passes.consistent {t0 : Rat} {n : Nat} (h₀ : e₀.Orderly) (h : Passes t0 e₀ .closing n e) :
    ForPairs e.controllers Consistent := by
  cases h with
  | adapt h hadapt hexchange =>
    have hstep := (h.inStep h₀).adapting hadapt
    cases h with
    | raise h hraise =>
      have hraised := consistent_raise (h.inStep h₀) (fun id c hc => h.settled h₀ hc) hraise
      have hadapted := hraised.transfer
        ((rel_adapting hadapt).imp fun _ _ _ hok => Controller.keepsPredictions_adapting hok)
        fun _ _ _ _ _ _ _ _ => Consistent.carried
      obtain ⟨-, hrel⟩ := exchange_refreshed hstep.sorted hstep.nodup hstep.bounded hexchange
      exact hadapted.transfer (hrel.imp fun _ _ _ hR => hR.keepsPredictions)
        fun _ _ _ _ _ _ _ _ => Consistent.carried

/-- When all controllers have converged, every copy lies within two tolerances of its original. -/
theorem Passes.copiesAgree {t0 : Rat} {n : Nat} (h₀ : e₀.Orderly) (h : Passes t0 e₀ .closing n e)
    (hfinish : Returns (finish n) e true e₁) :
    ForPairs e₁.controllers fun _ nb d back =>
      CopiesAgree (2 * e₁.options.primalTolerance) nb d back := by
  have hworking := (h.inStep h₀).toWorking
  obtain ⟨hrest, hrel, hall⟩ := returns_finish hfinish
  have hconverged : ∀ id c, e₁.controllers.lookup id = some c → ∃ primal,
      c.residuals.primal = some primal ∧ primal ≤ e₁.options.primalTolerance := by
    intro id c' hc'
    have hmem := List.mem_map_of_mem (f := (·.2)) (Table.mem_of_lookup hc')
    obtain ⟨primal, hprimal, hle⟩ :=
      Controller.primal_of_isConverged (List.all_eq_true.mp hall.symm c' hmem)
    rw [((keeps_finish n).of_returns hworking hfinish).evolved id c' hc' |>.options] at hle
    exact ⟨primal, hprimal, hle⟩
  have hcarries : Table.Rel (fun _ c c' => c.Carries Controller.KeepsPredictions c') e.controllers
      e₁.controllers := by
    refine hrel.imp ?_
    intro _ c _ heq
    obtain rfl := heq
    exact c.keepsPredictions_finishIteration
  have hconsistent : ForPairs e₁.controllers Consistent :=
    (h.consistent h₀).transfer hcarries fun _ _ _ _ _ _ _ _ => Consistent.carried
  intro i j c nb hc hnb
  obtain ⟨d, back, hd, hback, p, q, hp, hq, hagree⟩ := hconsistent i j c nb hc hnb
  obtain ⟨p', hp', hple⟩ := hconverged i c hc
  obtain ⟨q', hq', hqle⟩ := hconverged j d hd
  obtain rfl : p = p' := Option.some.inj (hp.symm.trans hp')
  obtain rfl : q = q' := Option.some.inj (hq.symm.trans hq')
  refine ⟨d, back, hd, hback, hagree.mono ?_⟩
  rw [two_mul]
  exact add_le_add hple hqle

theorem copiesAgree_of_converged {t0 : Rat} (h₀ : e₀.Reachable) :
    (∀ s e', Returns (solve t0) e₀ s e' → s.converged = true →
      ForPairs e'.controllers fun _ nb d back =>
        CopiesAgree (2 * e'.options.primalTolerance) nb d back) ∧
    ∀ n e₁ e₂, Passes t0 e₀ .closing n e₁ → Returns (finish n) e₁ true e₂ →
      ForPairs e₂.controllers fun _ nb d back =>
        CopiesAgree (2 * e₂.options.primalTolerance) nb d back := by
  refine ⟨fun s e' h hs => ?_, fun n e₁ e₂ h hfinish => h.copiesAgree h₀.orderly hfinish⟩
  by_cases hne : e'.controllers = []
  · intro i j c nb hc
    simp [hne] at hc
  · obtain ⟨e₁, e₂, hclosing, hfinish, heq⟩ := passes_of_converged h hs hne
    have hagree := hclosing.copiesAgree h₀.orderly hfinish
    rw [heq]
    exact hagree

/-- Two agents that want nothing have converged at once. -/
theorem pair_copiesAgree : ∃ s e' n e₁ e₂, Returns (solve 0) (pair 1 (insist 0)) s e' ∧
    s.converged = true ∧ Table.ids e'.controllers = [0, 1] ∧
    Passes 0 (pair 1 (insist 0)) .closing n e₁ ∧ Returns (finish n) e₁ true e₂ ∧
    (ForPairs e'.controllers fun _ nb d back =>
      CopiesAgree (2 * e'.options.primalTolerance) nb d back) ∧
    ForPairs e₂.controllers fun _ nb d back =>
      CopiesAgree (2 * e₂.options.primalTolerance) nb d back := by
  obtain ⟨s, h⟩ := returns_of_isOk (x := solve 0) (e := pair 1 (insist 0)) (by decide +kernel)
  have hconverged : (exec (solve 0) (pair 1 (insist 0))).1.toOption.all (·.converged) = true := by
    decide +kernel
  have hids : Table.ids (exec (solve 0) (pair 1 (insist 0))).2.controllers = [0, 1] := by
    decide +kernel
  have hs : s.converged = true := by
    rw [h] at hconverged
    exact hconverged
  have hne : (exec (solve 0) (pair 1 (insist 0))).2.controllers ≠ [] := by
    intro hempty
    rw [hempty] at hids
    simp [Table.ids] at hids
  obtain ⟨e₁, e₂, hclosing, hfinish, -⟩ := passes_of_converged h hs hne
  have h₀ := pair_reachable 1 (insist 0)
  exact ⟨s, _, _, e₁, e₂, h, hs, hids, hclosing, hfinish,
    (copiesAgree_of_converged h₀).1 s _ h hs,
    (copiesAgree_of_converged h₀).2 _ e₁ e₂ hclosing hfinish⟩

end Ensemble

end ConsensusControl
