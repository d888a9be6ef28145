import ConsensusControl.Proofs.Consensus.Fitting
import ConsensusControl.Proofs.Solver.Gradient

namespace ConsensusControl

/-- Solutions lie on the grid of the horizon. -/
def LocalSolver.KeepsGrid {α : Type} [Scalar α] (solver : LocalSolver α) : Prop :=
  ∀ (problem : Problem α) (guess : Guess α) (o : Options α) (s : LocalSolution α),
    o.validate = .ok () → solver problem guess o = .ok (.ok s) →
      s.t = Trajectory.uniformGrid guess.t0 o.stepSize o.horizonSteps

theorem Gradient.solver_keepsGrid {α : Type} [Scalar α] (strict : Bool) :
    (Gradient.solver strict : LocalSolver α).KeepsGrid := by
  intro problem guess o found hvalid h
  obtain ⟨first, last, -, -, rfl⟩ := solver_descends h
  have hsamples : Nat.max o.horizonSteps 2 = o.horizonSteps :=
    Nat.max_eq_left (Options.samples_of_valid hvalid)
  change Trajectory.uniformGrid guess.t0 o.stepSize (Nat.max o.horizonSteps 2) = _
  rw [hsamples]

namespace Neighbor

section Updates

variable {α : Type} [Scalar α] {nb nb' : Neighbor α} {grid : Vec α} {nx nu : Nat}

theorem Fitted.updateInfluence (h : nb.Fitted grid nx nu) (hupdate : nb.updateInfluence = .ok nb') :
    nb'.Fitted grid nx nu := by
  obtain ⟨v, hv, rfl⟩ := updateInfluence_eq_ok hupdate
  obtain ⟨hreceived, hpreviousCoupling, hpreviousExternal, hcopy, hinfluence, hcoupling, hprices,
    hweights, hcopyPrices, hcopyWeights⟩ := h
  exact ⟨hreceived, hpreviousCoupling, hpreviousExternal, hcopy, hinfluence,
    Record.fits_of_alike hcoupling rfl rfl rfl (length_weightedConsensus hv), hprices, hweights,
    hcopyPrices, hcopyWeights⟩

theorem length_raiseInfluence {primal primal' : α} {m : MultiplierState α}
    (h : nb.raiseInfluence primal = .ok (m, primal')) :
    m = { nb.influenceMultiplier with v := m.v } ∧
      m.v.length = nb.influenceMultiplier.v.length := by
  obtain ⟨-, w, r, hw, rfl, -⟩ | ⟨-, rfl, -⟩ := raiseInfluence_eq_ok h
  · exact ⟨rfl, length_dualAscent hw⟩
  · exact ⟨rfl, rfl⟩

theorem Fitted.updateMultipliers (h : nb.Fitted grid nx nu) {primal primal' : α}
    (hraise : nb.updateMultipliers primal = .ok (nb', primal')) : nb'.Fitted grid nx nu := by
  obtain ⟨influence, p, copy, hinfluences, hcopies, rfl⟩ := updateMultipliers_eq_ok hraise
  obtain ⟨hprice, hlength⟩ := length_raiseInfluence hinfluences
  obtain ⟨v, _, u, _, hv, hu, rfl, -⟩ := raiseCopy_eq_ok hcopies
  obtain ⟨hreceived, hpreviousCoupling, hpreviousExternal, hcopy, hinfluence, hcoupling, hprices,
    hweights, hcopyPrices, hcopyWeights⟩ := h
  refine ⟨hreceived, hpreviousCoupling, hpreviousExternal, hcopy, hinfluence, hcoupling, ?_, hweights,
    ?_, hcopyWeights⟩
  · rw [hprice]
    exact Record.fits_of_alike hprices rfl rfl rfl hlength
  · exact Record.fits_of_alike hcopyPrices rfl rfl (length_dualAscent hu) (length_dualAscent hv)

theorem length_adaptEntries {o : Options α} {rho z own previous rho' : Vec α}
    (h : o.adaptEntries rho z own previous = .ok rho') : rho'.length = rho.length :=
  (Options.adaptEntries_forall₂ h).length_eq.symm

theorem length_adaptInfluence {o : Options α} {previous : CouplingState α} {w : Vec α}
    (h : nb.adaptInfluence o previous = .ok w) : w.length = nb.influencePenalty.v.length := by
  unfold adaptInfluence at h
  split at h
  · exact length_adaptEntries h
  · rw [pure_eq_ok.mp h]

theorem Fitted.adaptPenalties (h : nb.Fitted grid nx nu) {o : Options α} {previous : CouplingState α}
    (hadapt : nb.adaptPenalties o previous = .ok nb') : nb'.Fitted grid nx nu := by
  obtain ⟨w, v, u, hw, hv, hu, rfl⟩ := adaptPenalties_eq_ok hadapt
  obtain ⟨hreceived, hpreviousCoupling, hpreviousExternal, hcopy, hinfluence, hcoupling, hprices,
    hweights, hcopyPrices, hcopyWeights⟩ := h
  exact ⟨hreceived, hpreviousCoupling, hpreviousExternal, hcopy, hinfluence, hcoupling, hprices,
    Record.fits_of_alike hweights rfl rfl rfl (length_adaptInfluence hw), hcopyPrices,
    Record.fits_of_alike hcopyWeights rfl rfl (length_adaptEntries hu) (length_adaptEntries hv)⟩

end Updates

variable {nb nb' : Neighbor Rat} {grid : Vec Rat} {nx nu : Nat}

/-- A copy that is stored from a solution on the grid. -/
theorem Fitted.storeCopy {p : LocalProblem Rat} {s : LocalSolution Rat} {t0 : Rat}
    {b : NeighborBlock} (h : nb.Fitted grid p.agent.nx p.agent.nu)
    (hcopies : p.storeCopy s t0 nb b = .ok nb') (hnodup : p.agent.neighborIds.Nodup)
    (hcouplings : ∀ link ∈ p.agent.links, ∀ f, link.relation.sending = some f →
      f.dynamics.KeepsLength)
    (hnb : nb ∈ p.agent.neighbors) (ht : s.t = grid) (hgrid : Trajectory.isIncreasing grid = true) :
    nb'.Fitted grid p.agent.nx p.agent.nu := by
  obtain ⟨htime, hx, hu, hv⟩ := LocalProblem.storeCopy_lengths hcopies
  obtain ⟨copy, rfl⟩ := LocalProblem.storeCopy_influence hcopies
  obtain ⟨hreceived, hpreviousCoupling, hpreviousExternal, hcopy, hinfluence, hcoupling, hprices,
    hweights, hcopyPrices, hcopyWeights⟩ := h
  have hspans := Record.spans_of_fits hcopy
  refine ⟨hreceived, hpreviousCoupling, hpreviousExternal, ?_, ?_, hcoupling, hprices, hweights,
    hcopyPrices, hcopyWeights⟩
  · exact Record.fits_of_spans hgrid (htime.trans ht)
      ⟨congrArg List.length (htime.trans ht), hx.trans hspans.x, hu.trans hspans.u, hv.trans hspans.v⟩
  · cases halong : p.influenceAlong s nb with
    | none => exact hinfluence
    | some v => exact ht ▸ LocalProblem.length_influenceAlong hnodup hcouplings hnb s halong

/-- All records of the horizon move along with it. -/
theorem Fitted.retime (h : nb.Fitted grid nx nu) (d : Rat) :
    (nb.retime d).Fitted (grid.map (· + d)) nx nu where
  received kind hkind := by
    have hfits := Record.fits_retime d (h.received kind hkind)
    cases kind <;> first | exact hfits | exact absurd rfl hkind
  previousCoupling := Record.fits_retime d h.previousCoupling
  previousExternal := Record.fits_retime d h.previousExternal
  copy := Record.fits_retime d h.copy
  influence := by
    rw [List.length_map]
    exact h.influence
  coupling := Record.fits_retime d h.coupling
  prices := Record.fits_retime d h.prices
  weights := Record.fits_retime d h.weights
  copyPrices := Record.fits_retime d h.copyPrices
  copyWeights := Record.fits_retime d h.copyWeights

theorem Fitted.shift (h : nb.Fitted grid nx nu) (d : Rat) (dim : Nat) :
    ((nb.shiftReceived d dim).shiftDecided d).Fitted (grid.map (· + d)) nx nu where
  received kind hkind := by
    have hfits := Record.fits_shift d (h.received kind hkind)
    cases kind <;> first | exact hfits | exact absurd rfl hkind
  previousCoupling := Record.fits_shift d h.previousCoupling
  previousExternal := Record.fits_shift d h.previousExternal
  copy := Record.fits_shift d h.copy
  influence := by
    rw [List.length_map]
    exact (Trajectory.length_shiftSamples _ _).trans h.influence
  coupling := Record.fits_shift d h.coupling
  prices := Record.fits_shift d h.prices
  weights := Record.fits_shift d h.weights
  copyPrices := Record.fits_shift d h.copyPrices
  copyWeights := Record.fits_shift d h.copyWeights

end Neighbor

namespace Agent

/-- What an agent sends to a neighbor is what the neighbor keeps in that role. -/
theorem Fitted.fits_recordOf {α : Type} [Scalar α] {a : Agent α} {grid : Vec α} (h : a.Fitted grid)
    {nb back : Neighbor α} (hnb : nb ∈ a.neighbors) (hback : back.model = a.model)
    {kind : RecordKind} (hkind : kind ≠ .desiredAgentState) :
    (a.recordOf nb kind).fits grid (back.role nb.nx nb.nu kind) = true := by
  have hnx : back.nx = a.nx := congrArg AgentModel.nx hback
  have hnu : back.nu = a.nu := congrArg AgentModel.nu hback
  have hfitted := h.neighbors nb hnb
  cases kind with
  | desiredAgentState => exact absurd rfl hkind
  | agentState =>
    simp only [Neighbor.role, hnx, hnu]
    exact h.state
  | couplingState =>
    simp only [Neighbor.role, hnx, hnu]
    exact h.coupling
  | coupledAgentState => exact hfitted.copy
  | externalInfluenceCouplingState =>
    simp only [Neighbor.role, hnx]
    exact hfitted.coupling
  | coupledMultiplierState => exact hfitted.copyPrices
  | coupledPenaltyState => exact hfitted.copyWeights

/-- What is stored of a solution on the grid. -/
theorem Fitted.store {p : LocalProblem Rat} {s : LocalSolution Rat} {a : Agent Rat} {grid : Vec Rat}
    (h : p.agent.Fitted grid) (hstore : p.store s = .ok a)
    (hl : p.agent.neighbors.length = p.index.blocks.length) (hnodup : p.agent.neighborIds.Nodup)
    (hcouplings : ∀ link ∈ p.agent.links, ∀ f, link.relation.sending = some f →
      f.dynamics.KeepsLength)
    (ht : s.t = grid) (hgrid : Trajectory.isIncreasing grid = true) :
    a.Fitted grid ∧ a.agentState.t0 = grid.headD p.agent.agentState.t0 := by
  obtain ⟨x, u, hx, hu, hstate⟩ := LocalProblem.store_state hstore
  obtain ⟨state, neighbors, rfl, -⟩ := LocalProblem.store_eq_ok hl hstore
  have hcopies := LocalProblem.store_copies hl hstore
  have hspans := Record.spans_of_fits h.state
  refine ⟨⟨?_, h.coupling, h.prices, h.weights, fun nb' hnb' => ?_⟩, ?_⟩
  · rw [hstate]
    exact Record.fits_of_spans hgrid ht
      ⟨congrArg List.length ht, (Vec.overwrite_eq_ok hx).2.trans hspans.x,
        (Vec.overwrite_eq_ok hu).2.trans hspans.u, hspans.v⟩
  · obtain ⟨nb, hnb, b, hcopy⟩ := forall₂_mem_right hcopies hnb'
    exact (h.neighbors nb hnb).storeCopy hcopy hnodup hcouplings hnb ht hgrid
  · rw [hstate, ht]

theorem Fitted.retime {a : Agent Rat} {grid : Vec Rat} (h : a.Fitted grid) (d : Rat) :
    (a.retime d).Fitted (grid.map (· + d)) where
  state := Record.fits_retime d h.state
  coupling := Record.fits_retime d h.coupling
  prices := Record.fits_retime d h.prices
  weights := Record.fits_retime d h.weights
  neighbors nb' hnb' := by
    obtain ⟨nb, hnb, rfl⟩ := List.mem_map.mp hnb'
    exact (h.neighbors nb hnb).retime d

/-- With two samples or more nothing stands in the way of a shift. -/
theorem Fitted.shift {a : Agent Rat} {grid : Vec Rat} (h : a.Fitted grid) (hgrid : 2 ≤ grid.length)
    (d : Rat) : (a.shift d).2 = .ok () ∧ (a.shift d).1.Fitted (grid.map (· + d)) := by
  have hall := Neighbor.shiftAll_of_shiftable d fun nb hnb =>
    Trajectory.requireShiftable_of_samples hgrid (h.neighbors nb hnb).influence
  have hshift : a.shift d = ({ a with
      agentState := a.agentState.shift d
      couplingState := a.couplingState.shift d
      multiplierState := a.multiplierState.shift d
      penaltyState := a.penaltyState.shift d
      neighbors := a.neighbors.map fun nb => (nb.shiftReceived d a.nx).shiftDecided d }, .ok ()) := by
    unfold Agent.shift
    rw [hall]
  rw [hshift]
  refine ⟨rfl, Record.fits_shift d h.state, Record.fits_shift d h.coupling,
    Record.fits_shift d h.prices, Record.fits_shift d h.weights, fun nb' hnb' => ?_⟩
  obtain ⟨nb, hnb, rfl⟩ := List.mem_map.mp hnb'
  exact (h.neighbors nb hnb).shift d a.nx

end Agent

namespace Controller

section Turns

variable {α : Type} [Scalar α] {c c' : Controller α} {t0 : α}

theorem Fitted.updateCouplingStates (h : c.Fitted t0) (hcouple : c.updateCouplingStates = .ok c') :
    c'.Fitted t0 := by
  obtain ⟨u, neighbors, _, _, hu, hneighbors, rfl⟩ := updateCouplingStates_eq_ok hcouple
  obtain ⟨hstate, hcoupling, hprices, hweights, hall⟩ := h.agent
  refine h.of_agent rfl rfl ⟨hstate, ?_, hprices, hweights, fun nb' hnb' => ?_⟩
  · obtain ⟨htimes, hspans⟩ := Record.fits_iff.mp hstate
    have hold := Record.spans_of_fits hcoupling
    exact Record.fits_iff.mpr ⟨htimes, hspans.t, hspans.x,
      (length_weightedConsensus hu).trans hold.u, hold.v⟩
  · obtain ⟨nb, hnb, rfl | hnew⟩ := forall₂_mem_right (updateInfluences_eq_ok hneighbors).1 hnb'
    · exact hall nb' hnb
    · exact (hall nb hnb).updateInfluence hnew

theorem Fitted.updateMultiplierStates (h : c.Fitted t0)
    (hraise : c.updateMultiplierStates = .ok c') : c'.Fitted t0 := by
  obtain ⟨u, _, neighbors, _, hu, hneighbors, rfl⟩ := updateMultiplierStates_eq_ok hraise
  obtain ⟨hstate, hcoupling, hprices, hweights, hall⟩ := h.agent
  refine h.of_agent rfl rfl ⟨hstate, hcoupling, ?_, hweights, fun nb' hnb' => ?_⟩
  · exact Record.fits_of_alike hprices rfl rfl (length_dualAscent hu) rfl
  · obtain ⟨nb, hnb, _, _, hnew⟩ := forall₂_mem_right (updateNeighborMultipliers_eq_ok hneighbors) hnb'
    exact (hall nb hnb).updateMultipliers hnew

theorem Fitted.adaptPenalties (h : c.Fitted t0) (hadapt : c.adaptPenalties = .ok c') :
    c'.Fitted t0 := by
  obtain rfl | ⟨u, neighbors, hu, hneighbors, rfl⟩ := adaptPenalties_eq_ok hadapt
  · exact h
  obtain ⟨hstate, hcoupling, hprices, hweights, hall⟩ := h.agent
  refine h.of_agent rfl rfl ⟨hstate, hcoupling, hprices, ?_, fun nb' hnb' => ?_⟩
  · exact Record.fits_of_alike hweights rfl rfl (Neighbor.length_adaptEntries hu) rfl
  · obtain ⟨nb, hnb, rfl | ⟨_, hnew⟩⟩ :=
      forall₂_mem_right (adaptNeighborPenalties_eq_ok hneighbors) hnb'
    · exact hall nb' hnb
    · exact (hall nb hnb).adaptPenalties hnew

/-- What comes in has to fit the role that it has for the agent. -/
theorem Fitted.receive (h : c.Fitted t0) {sender : AgentId} {kind : RecordKind} {r : StateRecord α}
    (hfits : ∀ nb (record : Record kind.family α), c.agent.neighbor? sender = some nb →
      r = ⟨record⟩ → kind ≠ .desiredAgentState →
        record.fits c.grid (nb.role c.agent.nx c.agent.nu kind) = true) :
    (c.applyIncoming sender kind r).1.Fitted t0 := by
  obtain ⟨_, heq⟩ | ⟨record, nb, hrecord, hnb, -, heq⟩ := c.applyIncoming_cases sender kind r
  · rwa [heq]
  rw [heq]
  obtain ⟨hstate, hcoupling, hprices, hweights, hall⟩ := h.agent
  refine h.of_agent rfl rfl ⟨hstate, hcoupling, hprices, hweights, fun nb' hnb' => ?_⟩
  obtain hold | ⟨-, -, rfl⟩ := Agent.mem_modifyFirst hnb'
  · exact hall nb' hold
  · exact (hall nb (Agent.mem_of_neighbor? hnb).1).keep (hfits nb record hnb hrecord)

theorem Fitted.finishIteration (h : c.Fitted t0) : c.finishIteration.Fitted t0 := by
  obtain ⟨status, -, heq⟩ := c.finishIteration_eq
  rw [heq]
  exact h.of_agent rfl rfl h.agent

theorem Fitted.setInitialState (h : c.Fitted t0) (hgrid : c.grid ≠ []) {x : Vec α}
    (hset : c.setInitialState x = .ok c') : c'.Fitted t0 := by
  obtain ⟨hx, rfl⟩ := setInitialState_eq_ok hset
  obtain ⟨hstate, hcoupling, hprices, hweights, hall⟩ := h.agent
  have hspans := Record.spans_of_fits hstate
  have hfirst : c.agent.nx ≤ c.agent.agentState.x.length := by
    rw [hspans.x]
    exact Nat.le_mul_of_pos_left _ (List.length_pos_iff.mpr hgrid)
  refine h.of_agent rfl rfl ⟨Record.fits_of_alike hstate rfl ?_ rfl rfl, hcoupling, hprices, hweights,
    hall⟩
  rw [List.length_append, List.length_drop, hx]
  omega

end Turns

variable {c c' : Controller Rat} {t0 : Rat}

theorem Fitted.updateAgentStates (h : c.Fitted t0) (hsolver : c.solver.KeepsGrid)
    (hnodup : c.agent.neighborIds.Nodup)
    (hcouplings : ∀ link ∈ c.agent.links, ∀ f, link.relation.sending = some f →
      f.dynamics.KeepsLength) : c.updateAgentStates.1.Fitted t0 := by
  have hoptions : c.updateAgentStates.1.options = c.options :=
    congrArg Site.options (site_updateAgentStates c)
  rcases c.updateAgentStates_cases with hsame | ⟨layout, s, -, hattempt⟩
  · exact h.of_agent hoptions (by rw [hsame]) (hsame ▸ h.agent)
  obtain ⟨p, guess, hp, hguess, hsolve, -, hstore⟩ := attempt_eq_ok hattempt
  obtain ⟨hids, rfl⟩ := LocalProblem.of_eq_ok hp
  have hl : c.agent.neighbors.length = layout.index.blocks.length := by
    simpa [Agent.neighborIds] using congrArg List.length hids
  have ht : s.t = c.grid := by
    rw [hsolver _ _ _ _ h.valid hsolve, LocalProblem.guess_t0 hguess]
    rfl
  obtain ⟨hfitted, hstart⟩ :=
    Agent.Fitted.store h.agent hstore hl hnodup hcouplings ht (isIncreasing_grid h.step)
  refine h.of_agent hoptions (hstart.trans ?_) hfitted
  have hsamples : 2 ≤ c.options.horizonSteps := Options.samples_of_valid h.valid
  obtain ⟨n, hn⟩ := Nat.exists_eq_succ_of_ne_zero (Nat.ne_of_gt (Nat.lt_of_lt_of_le Nat.two_pos hsamples))
  rw [grid, hn, Trajectory.uniformGrid_succ]
  rfl

theorem Fitted.move (h : c.Fitted t0) {d : Rat} (hoptions : c'.options = c.options)
    (hstart : c'.agent.agentState.t0 = c.agent.agentState.t0 + d)
    (hagent : c'.agent.Fitted (c.grid.map (· + d))) : c'.Fitted (t0 + d) := by
  have hgrid : c'.grid = c.grid.map (· + d) := by
    rw [grid, grid, Trajectory.uniformGrid_move, hoptions, hstart]
  exact ⟨hoptions ▸ h.valid, hoptions ▸ h.step, hstart.trans (congrArg (· + d) h.start),
    hgrid ▸ hagent⟩

/-- A horizon that is moved takes its records along. -/
theorem Fitted.shiftHorizon (h : c.Fitted t0) (d : Rat) :
    (c.shiftHorizon d).2 = .ok () ∧ (c.shiftHorizon d).1.Fitted (t0 + d) := by
  have hlength : 2 ≤ c.grid.length := by
    rw [grid, Trajectory.length_uniformGrid]
    exact Options.samples_of_valid h.valid
  obtain ⟨hok, hshifted⟩ := h.agent.shift hlength d
  have hpair : c.agent.shift d = ((c.agent.shift d).1, .ok ()) := Prod.ext rfl hok
  unfold Controller.shiftHorizon
  split
  · rw [hpair]
    exact ⟨rfl, h.move rfl rfl hshifted⟩
  · exact ⟨rfl, h.move rfl rfl (h.agent.retime d)⟩

end Controller

end ConsensusControl
