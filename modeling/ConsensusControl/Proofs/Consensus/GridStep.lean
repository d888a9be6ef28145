import ConsensusControl.Proofs.HorizonShift
import ConsensusControl.Proofs.Network.Integrity

namespace ConsensusControl

theorem Trajectory.isIncreasing_uniformGrid_iff {n : Nat} (hn : 2 ≤ n) (t0 dt : Rat) :
    isIncreasing (uniformGrid t0 dt n) = true ↔ Scalar.timeTolerance < dt :=
  ⟨step_of_isIncreasing hn, fun hdt => isIncreasing_uniformGrid hdt t0 n⟩

/-- A record and the shape that it has to have. -/
structure Role (α : Type) where
  {family : Family}
  record : Record family α
  shape : Shape

/-- The records of a neighbor that a preparation sizes, for an agent of dimensions `nx` and `nu`. -/
def Neighbor.roles {α : Type} (nx nu : Nat) (nb : Neighbor α) : List (Role α) :=
  [⟨nb.agentState, ⟨nb.nx, nb.nu, 0⟩⟩, ⟨nb.coupledAgentState, ⟨nx, nu, nx⟩⟩,
    ⟨nb.couplingState, ⟨nb.nx, nb.nu, 0⟩⟩, ⟨nb.previousCouplingState, ⟨nb.nx, nb.nu, 0⟩⟩,
    ⟨nb.externalInfluence, ⟨0, 0, nb.nx⟩⟩, ⟨nb.previousExternalInfluence, ⟨0, 0, nb.nx⟩⟩,
    ⟨nb.coupledMultiplier, ⟨0, nu, nx⟩⟩, ⟨nb.coupledPenalty, ⟨0, nu, nx⟩⟩,
    ⟨nb.localCopy, ⟨nb.nx, nb.nu, nb.nx⟩⟩, ⟨nb.influenceCoupling, ⟨0, 0, nx⟩⟩,
    ⟨nb.influenceMultiplier, ⟨0, 0, nx⟩⟩, ⟨nb.influencePenalty, ⟨0, 0, nx⟩⟩,
    ⟨nb.copyMultiplier, ⟨0, nb.nu, nb.nx⟩⟩, ⟨nb.copyPenalty, ⟨0, nb.nu, nb.nx⟩⟩]

/-- The records of an agent and of its neighbors that a preparation sizes. -/
def Agent.roles {α : Type} (a : Agent α) : List (Role α) :=
  [⟨a.agentState, ⟨a.nx, a.nu, 0⟩⟩, ⟨a.couplingState, ⟨a.nx, a.nu, 0⟩⟩,
    ⟨a.multiplierState, ⟨a.nx, a.nu, 0⟩⟩, ⟨a.penaltyState, ⟨a.nx, a.nu, 0⟩⟩] ++
    a.neighbors.flatMap (·.roles a.nx a.nu)

/-- No prices, and the weights to start with, for the agent and all of its neighbors. -/
structure Agent.Unpriced {α : Type} [Scalar α] (grid : Vec α) (rho : α) (a : Agent α) : Prop where
  multiplierState : a.multiplierState = .filled a.id grid ⟨a.nx, a.nu, 0⟩ 0
  penaltyState : a.penaltyState = .filled a.id grid ⟨a.nx, a.nu, 0⟩ rho
  neighbors : ∀ nb ∈ a.neighbors, nb.Unpriced a.id a.nx a.nu grid rho

section Sized

variable {α : Type} [Scalar α] {grid : Vec α} {family : Family}

/-- The record has the lengths of its role, on the grid itself or on times that can be told apart. -/
structure Record.Sized (grid : Vec α) (shape : Shape) (r : Record family α) : Prop where
  spans : r.Spans grid.length shape
  times : r.t = grid ∨ Trajectory.isIncreasing r.t = true

namespace Record

variable {r fresh : Record family α} {shape : Shape}

theorem sized_filled (owner : AgentId) (grid : Vec α) (shape : Shape) (value : α) :
    (Record.filled owner grid shape value : Record family α).Sized grid shape :=
  ⟨spans_filled _ _ _ _, .inl rfl⟩

theorem sized_resample (owner : AgentId) (grid : Vec α) (shape : Shape) (r : Record family α) :
    (r.resample owner grid shape).Sized grid shape :=
  ⟨spans_resample _ _ _, .inl rfl⟩

theorem sized_keepOr (h : fresh.Sized grid shape) : (r.keepOr grid shape fresh).Sized grid shape := by
  unfold keepOr
  split
  · next hfits =>
    obtain ⟨⟨-, hincreasing⟩, hspans⟩ := fits_iff.mp hfits
    exact ⟨hspans, .inr hincreasing⟩
  · exact h

theorem Sized.consensus {r : AgentState α} {nx nu : Nat} (h : r.Sized grid ⟨nx, nu, 0⟩) :
    (CouplingState.ofAgentState r).Sized grid ⟨nx, nu, 0⟩ :=
  ⟨⟨h.spans.t, h.spans.x, h.spans.u, (Nat.mul_zero _).symm⟩, h.times⟩

/-- A sized record lacks its shape only for a grid whose times cannot be told apart. -/
theorem Sized.hasShape_iff (h : r.Sized grid shape) : r.hasShape grid.length shape = true ↔
    Trajectory.isIncreasing grid = true ∨ r.t ≠ grid := by
  rw [hasShape_iff_spans, and_iff_right h.spans]
  by_cases ht : r.t = grid
  · rw [ht]
    exact (or_iff_left fun hne => hne rfl).symm
  · exact iff_of_true (h.times.resolve_left ht) (.inr ht)

/-- On such a grid no record is kept. -/
theorem keepOr_of_fine (hfine : ¬ Trajectory.isIncreasing grid = true) (ht : r.t = grid) :
    r.keepOr grid shape fresh = fresh := by
  apply if_neg
  intro hfits
  obtain ⟨⟨-, hincreasing⟩, -⟩ := fits_iff.mp hfits
  exact hfine (ht ▸ hincreasing)

end Record

/-- A preparation sizes every record, on any grid. -/
theorem Neighbor.sized_prepare (nb : Neighbor α) (own : AgentState α) (owner : AgentId) (nx nu : Nat)
    (grid : Vec α) (rho : α) : ∀ role ∈ (nb.prepare own owner nx nu grid rho).roles nx nu,
      role.record.Sized grid role.shape := by
  have hfilled : ∀ {family : Family} (owner : AgentId) (shape : Shape) (value : α),
      (Record.filled owner grid shape value : Record family α).Sized grid shape :=
    fun owner shape value => Record.sized_filled owner grid shape value
  have hstate : (nb.prepare own owner nx nu grid rho).agentState.Sized grid ⟨nb.nx, nb.nu, 0⟩ :=
    Record.sized_keepOr (Record.sized_resample _ _ _ _)
  have hconsensus : (nb.prepare own owner nx nu grid rho).couplingState.Sized grid ⟨nb.nx, nb.nu, 0⟩ :=
    Record.sized_keepOr hstate.consensus
  have hexternal : (nb.prepare own owner nx nu grid rho).externalInfluence.Sized grid ⟨0, 0, nb.nx⟩ :=
    Record.sized_keepOr (hfilled _ _ _)
  simp only [Neighbor.roles, List.forall_mem_cons]
  exact ⟨hstate, Record.sized_keepOr (Record.sized_resample _ _ _ _), hconsensus,
    Record.sized_keepOr hconsensus, hexternal, Record.sized_keepOr hexternal,
    Record.sized_keepOr (hfilled _ _ _), Record.sized_keepOr (hfilled _ _ _),
    Record.sized_keepOr (Record.sized_resample _ _ _ _), Record.sized_keepOr (hfilled _ _ _),
    Record.sized_keepOr (hfilled _ _ _), Record.sized_keepOr (hfilled _ _ _),
    Record.sized_keepOr (hfilled _ _ _), Record.sized_keepOr (hfilled _ _ _), List.forall_mem_nil _⟩

theorem Agent.sized_prepare (a : Agent α) (grid : Vec α) (rho : α) :
    ∀ role ∈ (a.prepare grid rho).roles, role.record.Sized grid role.shape := by
  have hstate : (a.prepare grid rho).agentState.Sized grid ⟨a.nx, a.nu, 0⟩ :=
    Record.sized_keepOr (Record.sized_resample _ _ _ _)
  have hneighbors : ∀ role ∈ (a.prepare grid rho).neighbors.flatMap (·.roles a.nx a.nu),
      role.record.Sized grid role.shape := by
    intro role hrole
    obtain ⟨nb', hnb', hrole⟩ := List.mem_flatMap.mp hrole
    obtain ⟨nb, -, rfl⟩ := List.mem_map.mp hnb'
    exact nb.sized_prepare _ _ _ _ _ _ role hrole
  simp only [Agent.roles, List.forall_mem_append, List.forall_mem_cons]
  exact ⟨⟨hstate, Record.sized_keepOr hstate.consensus, Record.sized_keepOr (Record.sized_filled _ _ _ _),
    Record.sized_keepOr (Record.sized_filled _ _ _ _), List.forall_mem_nil _⟩, hneighbors⟩

/-- Records on a grid that is too fine are not recognized, and prices start anew. -/
theorem Neighbor.unpriced_of_fine (hfine : ¬ Trajectory.isIncreasing grid = true) {nb : Neighbor α}
    {nx nu : Nat} (h : ∀ role ∈ nb.roles nx nu, role.record.t = grid) (own : AgentState α) (owner : AgentId)
    (rho : α) : (nb.prepare own owner nx nu grid rho).Unpriced owner nx nu grid rho := by
  simp only [Neighbor.roles, List.forall_mem_cons] at h
  obtain ⟨-, -, -, -, -, -, hcoupledMultiplier, hcoupledPenalty, -, -, hinfluenceMultiplier,
    hinfluencePenalty, hcopyMultiplier, hcopyPenalty, -⟩ := h
  exact ⟨Record.keepOr_of_fine hfine hcoupledMultiplier, Record.keepOr_of_fine hfine hcoupledPenalty,
    Record.keepOr_of_fine hfine hinfluenceMultiplier, Record.keepOr_of_fine hfine hinfluencePenalty,
    Record.keepOr_of_fine hfine hcopyMultiplier, Record.keepOr_of_fine hfine hcopyPenalty⟩

theorem Agent.unpriced_of_fine (hfine : ¬ Trajectory.isIncreasing grid = true) {a : Agent α}
    (h : ∀ role ∈ a.roles, role.record.t = grid) (rho : α) : (a.prepare grid rho).Unpriced grid rho := by
  simp only [Agent.roles, List.forall_mem_append, List.forall_mem_cons] at h
  obtain ⟨⟨-, -, hmultiplier, hpenalty, -⟩, hneighbors⟩ := h
  refine ⟨Record.keepOr_of_fine hfine hmultiplier, Record.keepOr_of_fine hfine hpenalty, fun nb' hnb' => ?_⟩
  obtain ⟨nb, hnb, rfl⟩ := List.mem_map.mp hnb'
  exact Neighbor.unpriced_of_fine hfine
    (fun role hrole => hneighbors role (List.mem_flatMap.mpr ⟨nb, hnb, hrole⟩)) _ _ _

end Sized

namespace Controller

/-- Accepted options have a grid that is recognized as one if and only if their step is wider than the time
tolerance. Every preparation sizes all records. On a grid of wider steps they have the shapes of their
roles, on a finer one only the records that it has found on other times, and no price survives it. -/
theorem shapes_of_step {o : Options Rat} (hvalid : o.validate = .ok ()) :
    (∀ t0, Trajectory.isIncreasing (Trajectory.uniformGrid t0 o.stepSize o.horizonSteps) = true ↔
      Scalar.timeTolerance < o.stepSize) ∧
    ∀ c : Controller Rat, c.options = o → c.prepare.2 = .ok () →
      c.prepare.1.grid = c.grid ∧
      (∀ role ∈ c.prepare.1.agent.roles, role.record.Spans c.grid.length role.shape ∧
        (role.record.hasShape c.grid.length role.shape = true ↔
          Scalar.timeTolerance < o.stepSize ∨ role.record.t ≠ c.grid)) ∧
      (o.stepSize ≤ Scalar.timeTolerance → (∀ role ∈ c.agent.roles, role.record.t = c.grid) →
        c.prepare.1.agent.Unpriced c.grid o.penaltyInit) := by
  have hincreasing : ∀ t0, Trajectory.isIncreasing
      (Trajectory.uniformGrid t0 o.stepSize o.horizonSteps) = true ↔ Scalar.timeTolerance < o.stepSize :=
    fun t0 => Trajectory.isIncreasing_uniformGrid_iff (Options.samples_of_valid hvalid) t0 _
  refine ⟨hincreasing, fun c hoptions hprepare => ?_⟩
  subst hoptions
  obtain ⟨-, layout, -, heq⟩ := laidOut_of_prepare hprepare
  rw [heq]
  refine ⟨grid_laidOut (c := c.approximating) hvalid layout, fun role hrole => ?_, fun hstep hon => ?_⟩
  · have hsized := c.approximating.agent.sized_prepare c.grid c.options.penaltyInit role hrole
    exact ⟨hsized.spans, hsized.hasShape_iff.trans (or_congr_left (hincreasing _))⟩
  · have hfine : ¬ Trajectory.isIncreasing c.grid = true :=
      fun hgrid => not_lt.mpr hstep ((hincreasing _).mp hgrid)
    exact Agent.unpriced_of_fine (a := c.approximating.agent) hfine hon _

open Network (tank pipe)

/-- One of two tanks, on a horizon of two times that are as close as the time tolerance. -/
def fineTank : Controller Rat :=
  .new { Agent.new 0 tank.toModel with
      neighbors := [{ Neighbor.new 1 tank.toModel ⟨some pipe.toModel, some pipe.toModel⟩ with
        approximated := true }]
      agentState := .constant 0 [0] [1] [0] [] }
    (fun _ _ _ => .error .notPrepared)
    { (Options.default : Options Rat) with horizon := Scalar.timeTolerance, horizonSteps := 2 }

/-- The prepared tank with prices of its own and towards its neighbor. -/
def pricedTank : Controller Rat :=
  fineTank.prepare.1.modifyAgent fun a => { a with
    multiplierState := { a.multiplierState with u := [2, 3] }
    neighbors := a.neighbors.map fun nb =>
      { nb with copyMultiplier := { nb.copyMultiplier with v := [5, 7] } } }

theorem pricedTank_unpriced :
    pricedTank.options.validate = .ok () ∧
      (∀ t0, ¬ Trajectory.isIncreasing
        (Trajectory.uniformGrid t0 pricedTank.options.stepSize pricedTank.options.horizonSteps) = true) ∧
      pricedTank.prepare.2 = .ok () ∧
      (∀ role ∈ pricedTank.prepare.1.agent.roles,
        ¬ role.record.hasShape pricedTank.grid.length role.shape = true) ∧
      (∀ role ∈ pricedTank.agent.roles, role.record.t = pricedTank.grid) ∧
      pricedTank.prepare.1.agent.Unpriced pricedTank.grid pricedTank.options.penaltyInit := by
  have hvalid : pricedTank.options.validate = .ok () := by decide +kernel
  have hprepare : pricedTank.prepare.2 = .ok () := by decide +kernel
  have hstep : pricedTank.options.stepSize ≤ Scalar.timeTolerance := by decide +kernel
  have hbefore : ∀ role ∈ pricedTank.agent.roles, role.record.t = pricedTank.grid := by decide +kernel
  have hafter : ∀ role ∈ pricedTank.prepare.1.agent.roles, role.record.t = pricedTank.grid := by
    decide +kernel
  obtain ⟨hincreasing, hcontrollers⟩ := shapes_of_step hvalid
  obtain ⟨-, hshapes, hunpriced⟩ := hcontrollers pricedTank rfl hprepare
  refine ⟨hvalid, fun t0 => ?_, hprepare, fun role hrole hshape => ?_, hbefore, hunpriced hstep hbefore⟩
  · rw [hincreasing]
    exact not_lt.mpr hstep
  · rcases (hshapes role hrole).2.mp hshape with hwide | hother
    · exact not_lt.mpr hstep hwide
    · exact hother (hafter role hrole)

/-- These options are accepted, but none of the prepared records has its shape, and preparing the tank once
more takes its prices. -/
theorem fineTank_forgets_prices :
    fineTank.options.validate = .ok () ∧ Trajectory.isIncreasing fineTank.grid = false ∧
      fineTank.prepare.2 = .ok () ∧
      (∀ role ∈ fineTank.prepare.1.agent.roles, role.record.hasShape 2 role.shape = false) ∧
      pricedTank.prepare.2 = .ok () ∧ pricedTank.agent.multiplierState.u = [2, 3] ∧
      pricedTank.prepare.1.agent.multiplierState.u = [0, 0] := by
  decide +kernel

end Controller

end ConsensusControl
