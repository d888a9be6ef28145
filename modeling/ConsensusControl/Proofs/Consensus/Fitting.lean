import ConsensusControl.Proofs.Consensus.HorizonStart
import ConsensusControl.Proofs.Consensus.LocalSolve

namespace ConsensusControl

namespace Trajectory

theorem onGrid_self (grid : Vec Rat) : onGrid grid grid = true := by
  have hpositive : (0 : Rat) < Scalar.gridTolerance := by decide +kernel
  have hall : ∀ p ∈ grid.zip grid, p.1 = p.2 := by
    intro p hp
    rw [List.zip_eq_zipWith, List.zipWith_self] at hp
    obtain ⟨t, -, rfl⟩ := List.mem_map.mp hp
    rfl
  simp only [onGrid, beq_self_eq_true, Bool.true_and, List.all_eq_true]
  intro p hp
  rw [hall p hp, scalar_abs, sub_self, abs_zero]
  exact decide_eq_true hpositive

theorem isIncreasing_uniformGrid {dt : Rat} (hdt : Scalar.timeTolerance < dt) (t0 : Rat) (n : Nat) :
    isIncreasing (uniformGrid t0 dt n) = true := by
  induction n generalizing t0 with
  | zero => rfl
  | succ n ih =>
    cases n with
    | zero =>
      rw [uniformGrid_succ]
      rfl
    | succ n =>
      have hrest := ih (t0 + dt)
      rw [uniformGrid_succ] at hrest
      rw [uniformGrid_succ, uniformGrid_succ, isIncreasing, hrest, Bool.and_true]
      apply decide_eq_true
      rwa [add_sub_cancel_left]

theorem uniformGrid_move (d t0 dt : Rat) (n : Nat) :
    (uniformGrid t0 dt n).map (· + d) = uniformGrid (t0 + d) dt n := by
  unfold uniformGrid
  rw [List.map_map]
  apply List.map_congr_left
  intro k _
  change t0 + (k : Rat) * dt + d = t0 + d + (k : Rat) * dt
  ring

theorem onGrid_move (d : Rat) (t grid : Vec Rat) :
    onGrid (t.map (· + d)) (grid.map (· + d)) = onGrid t grid := by
  simp only [onGrid, List.length_map, List.zip_map, List.all_map, Function.comp_def, Prod.map_fst,
    Prod.map_snd, add_sub_add_right_eq_sub]

theorem isIncreasing_move (d : Rat) (t : Vec Rat) : isIncreasing (t.map (· + d)) = isIncreasing t := by
  induction t with
  | nil => rfl
  | cons a t ih =>
    cases t with
    | nil => rfl
    | cons b t =>
      rw [List.map_cons, List.map_cons, isIncreasing, isIncreasing, add_sub_add_right_eq_sub,
        ← List.map_cons (f := (· + d)), ih]

end Trajectory

namespace Record

section Shapes

variable {α : Type} [Scalar α] {family : Family} {r r' : Record family α} {grid : Vec α}
  {shape : Shape}

/-- A record fits by its times and its lengths alone. -/
theorem fits_iff : r.fits grid shape = true ↔
    (Trajectory.onGrid r.t grid = true ∧ Trajectory.isIncreasing r.t = true) ∧
      r.Spans grid.length shape := by
  rw [fits, Bool.and_eq_true, hasShape_iff_spans, and_comm (a := r.Spans grid.length shape), and_assoc]

theorem fits_of_alike (h : r.fits grid shape = true) (ht : r'.t = r.t)
    (hx : r'.x.length = r.x.length) (hu : r'.u.length = r.u.length)
    (hv : r'.v.length = r.v.length) : r'.fits grid shape = true := by
  obtain ⟨htimes, hspans⟩ := fits_iff.mp h
  rw [fits_iff, ht]
  exact ⟨htimes, ht ▸ hspans.t, hx.trans hspans.x, hu.trans hspans.u, hv.trans hspans.v⟩

theorem keepOr_of_fits (h : r.fits grid shape = true) (fresh : Record family α) :
    r.keepOr grid shape fresh = r :=
  if_pos h

theorem fits_keepOr {fresh : Record family α} (h : fresh.fits grid shape = true) :
    (r.keepOr grid shape fresh).fits grid shape = true := by
  unfold keepOr
  split
  · next hfits => exact hfits
  · exact h

theorem fits_consensus {r : AgentState α} {nx nu : Nat} (h : r.fits grid ⟨nx, nu, 0⟩ = true) :
    (CouplingState.ofAgentState r).fits grid ⟨nx, nu, 0⟩ = true := by
  obtain ⟨htimes, hspans⟩ := fits_iff.mp h
  exact fits_iff.mpr ⟨htimes, hspans.t, hspans.x, hspans.u, (Nat.mul_zero _).symm⟩

/-- Records without a grid do not fit any. -/
theorem not_fits_empty (owner : AgentId) (hgrid : grid ≠ []) :
    ¬ (Record.empty owner : Record family α).fits grid shape = true := by
  intro h
  exact hgrid (List.eq_nil_of_length_eq_zero (spans_of_fits h).t.symm)

end Shapes

variable {family : Family} {r : Record family Rat} {grid : Vec Rat} {shape : Shape}

theorem fits_of_spans (hgrid : Trajectory.isIncreasing grid = true) (ht : r.t = grid)
    (h : r.Spans grid.length shape) : r.fits grid shape = true :=
  fits_iff.mpr ⟨ht ▸ ⟨Trajectory.onGrid_self _, ht ▸ hgrid⟩, h⟩

theorem fits_filled (hgrid : Trajectory.isIncreasing grid = true) (owner : AgentId) (shape : Shape)
    (value : Rat) : (Record.filled owner grid shape value : Record family Rat).fits grid shape = true :=
  fits_of_spans hgrid rfl (spans_filled _ _ _ _)

theorem fits_resample (hgrid : Trajectory.isIncreasing grid = true) (owner : AgentId)
    (shape : Shape) (r : Record family Rat) : (r.resample owner grid shape).fits grid shape = true :=
  fits_of_spans hgrid rfl (spans_resample _ _ _)

theorem fits_retime (d : Rat) (h : r.fits grid shape = true) :
    (r.retime d).fits (grid.map (· + d)) shape = true := by
  obtain ⟨⟨hgrid, hincreasing⟩, hspans⟩ := fits_iff.mp h
  refine fits_iff.mpr ⟨⟨?_, ?_⟩, ?_⟩
  · exact (Trajectory.onGrid_move d _ _).trans hgrid
  · exact (Trajectory.isIncreasing_move d _).trans hincreasing
  · rw [List.length_map]
    exact hspans.retime d

theorem fits_shift (d : Rat) (h : r.fits grid shape = true) :
    (r.shift d).fits (grid.map (· + d)) shape = true :=
  fits_of_alike (fits_retime d h) rfl (Trajectory.length_shiftSamples _ _)
    (Trajectory.length_shiftSamples _ _) (Trajectory.length_shiftSamples _ _)

end Record

namespace Neighbor

variable {α : Type} [Scalar α] {nb nb' fresh : Neighbor α} {grid : Vec α} {nx nu : Nat}

omit [Scalar α] in
/-- The shape of a record from the neighbor, for an agent of dimensions `nx` and `nu`. -/
def role (nb : Neighbor α) (nx nu : Nat) : RecordKind → Shape
  | .agentState | .desiredAgentState | .couplingState => ⟨nb.nx, nb.nu, 0⟩
  | .coupledAgentState => ⟨nx, nu, nx⟩
  | .externalInfluenceCouplingState => ⟨0, 0, nb.nx⟩
  | .coupledMultiplierState | .coupledPenaltyState => ⟨0, nu, nx⟩

/-- All records of the horizon are on the grid and have the shapes that an agent of dimensions `nx` and
`nu` gives them. -/
structure Fitted (grid : Vec α) (nx nu : Nat) (nb : Neighbor α) : Prop where
  received : ∀ kind, kind ≠ .desiredAgentState →
    (nb.stored kind).fits grid (nb.role nx nu kind) = true
  previousCoupling : nb.previousCouplingState.fits grid ⟨nb.nx, nb.nu, 0⟩ = true
  previousExternal : nb.previousExternalInfluence.fits grid ⟨0, 0, nb.nx⟩ = true
  copy : nb.localCopy.fits grid ⟨nb.nx, nb.nu, nb.nx⟩ = true
  influence : nb.localInfluence.length = grid.length * nx
  coupling : nb.influenceCoupling.fits grid ⟨0, 0, nx⟩ = true
  prices : nb.influenceMultiplier.fits grid ⟨0, 0, nx⟩ = true
  weights : nb.influencePenalty.fits grid ⟨0, 0, nx⟩ = true
  copyPrices : nb.copyMultiplier.fits grid ⟨0, nb.nu, nb.nx⟩ = true
  copyWeights : nb.copyPenalty.fits grid ⟨0, nb.nu, nb.nx⟩ = true

theorem Fitted.localInfluence_ne_nil (h : nb.Fitted grid nx nu) (hgrid : grid ≠ []) (hnx : nx ≠ 0) :
    nb.localInfluence ≠ [] := by
  have hpositive := Nat.mul_pos (List.length_pos_iff.mpr hgrid) (Nat.pos_of_ne_zero hnx)
  exact List.ne_nil_of_length_pos (h.influence ▸ hpositive)

/-- The records stay where a neighbor is linked anew in the same dimensions. -/
theorem Fitted.relink (h : nb.Fitted grid nx nu) (hnx : fresh.nx = nb.nx) (hnu : fresh.nu = nb.nu) :
    (nb.relink fresh).Fitted grid nx nu := by
  have hnx' : (nb.relink fresh).nx = nb.nx := hnx
  have hnu' : (nb.relink fresh).nu = nb.nu := hnu
  obtain ⟨hreceived, hpreviousCoupling, hpreviousExternal, hcopy, hinfluence, hcoupling, hprices,
    hweights, hcopyPrices, hcopyWeights⟩ := h
  refine ⟨fun kind hkind => ?_, ?_, ?_, ?_, hinfluence, hcoupling, hprices, hweights, ?_, ?_⟩
  · have hrole : (nb.relink fresh).role nx nu kind = nb.role nx nu kind := by
      cases kind <;> simp only [role, hnx', hnu']
    rw [hrole]
    exact hreceived kind hkind
  all_goals
    rw [hnx']
    try rw [hnu']
    assumption

/-- A record that fits takes the place of one that did. -/
theorem Fitted.keep (h : nb.Fitted grid nx nu) {kind : RecordKind} {r : Record kind.family α}
    (hr : kind ≠ .desiredAgentState → r.fits grid (nb.role nx nu kind) = true) :
    (nb.keep kind r).Fitted grid nx nu := by
  have hlatest : ∀ other, other ≠ .desiredAgentState →
      ((nb.keep kind r).stored other).fits grid ((nb.keep kind r).role nx nu other) = true := by
    intro other hne
    have hrole : (nb.keep kind r).role nx nu other = nb.role nx nu other := by cases kind <;> rfl
    rw [hrole]
    by_cases hkind : other = kind
    · subst hkind
      rw [stored_keep_self]
      exact hr hne
    · rw [stored_keep_ne nb r hkind]
      exact h.received other hne
  have hlastCoupling := h.received .couplingState (by simp)
  have hlastExternal := h.received .externalInfluenceCouplingState (by simp)
  obtain ⟨-, hpreviousCoupling, hpreviousExternal, hcopy, hinfluence, hcoupling, hprices, hweights,
    hcopyPrices, hcopyWeights⟩ := h
  cases kind with
  | couplingState =>
    exact ⟨hlatest, hlastCoupling, hpreviousExternal, hcopy, hinfluence, hcoupling, hprices, hweights,
      hcopyPrices, hcopyWeights⟩
  | externalInfluenceCouplingState =>
    exact ⟨hlatest, hpreviousCoupling, hlastExternal, hcopy, hinfluence, hcoupling, hprices, hweights,
      hcopyPrices, hcopyWeights⟩
  | agentState | desiredAgentState | coupledAgentState | coupledMultiplierState
  | coupledPenaltyState =>
    exact ⟨hlatest, hpreviousCoupling, hpreviousExternal, hcopy, hinfluence, hcoupling, hprices,
      hweights, hcopyPrices, hcopyWeights⟩

/-- Every record that fits is kept. -/
theorem Fitted.prepare (h : nb.Fitted grid nx nu) (own : AgentState α) (owner : AgentId) (rho : α) :
    nb.prepare own owner nx nu grid rho = nb := by
  have hstate : nb.agentState.fits grid ⟨nb.nx, nb.nu, 0⟩ = true := h.received .agentState (by simp)
  have hcopyOfOwn : nb.coupledAgentState.fits grid ⟨nx, nu, nx⟩ = true :=
    h.received .coupledAgentState (by simp)
  have hconsensus : nb.couplingState.fits grid ⟨nb.nx, nb.nu, 0⟩ = true :=
    h.received .couplingState (by simp)
  have hexternal : nb.externalInfluence.fits grid ⟨0, 0, nb.nx⟩ = true :=
    h.received .externalInfluenceCouplingState (by simp)
  have hmultiplier : nb.coupledMultiplier.fits grid ⟨0, nu, nx⟩ = true :=
    h.received .coupledMultiplierState (by simp)
  have hpenalty : nb.coupledPenalty.fits grid ⟨0, nu, nx⟩ = true :=
    h.received .coupledPenaltyState (by simp)
  simp only [Neighbor.prepare, Record.keepOr_of_fits hstate, Record.keepOr_of_fits hcopyOfOwn,
    Record.keepOr_of_fits hconsensus, Record.keepOr_of_fits hexternal,
    Record.keepOr_of_fits hmultiplier, Record.keepOr_of_fits hpenalty,
    Record.keepOr_of_fits h.previousCoupling, Record.keepOr_of_fits h.previousExternal,
    Record.keepOr_of_fits h.copy, Record.keepOr_of_fits h.coupling, Record.keepOr_of_fits h.prices,
    Record.keepOr_of_fits h.weights, Record.keepOr_of_fits h.copyPrices,
    Record.keepOr_of_fits h.copyWeights, if_pos h.influence]

/-- No prices, and the weights to start with, for a neighbor of an agent `owner` of dimensions `nx` and
`nu`. -/
structure Unpriced (owner : AgentId) (nx nu : Nat) (grid : Vec α) (rho : α) (nb : Neighbor α) : Prop where
  coupledMultiplier : nb.coupledMultiplier = .filled owner grid ⟨0, nu, nx⟩ 0
  coupledPenalty : nb.coupledPenalty = .filled owner grid ⟨0, nu, nx⟩ rho
  influenceMultiplier : nb.influenceMultiplier = .filled owner grid ⟨0, 0, nx⟩ 0
  influencePenalty : nb.influencePenalty = .filled owner grid ⟨0, 0, nx⟩ rho
  copyMultiplier : nb.copyMultiplier = .filled nb.id grid ⟨0, nb.nu, nb.nx⟩ 0
  copyPenalty : nb.copyPenalty = .filled nb.id grid ⟨0, nb.nu, nb.nx⟩ rho

theorem unpriced_prepare (hgrid : grid ≠ []) (n : Network α) (i j : AgentId) (model : AgentModel α)
    (own : AgentState α) (owner : AgentId) (rho : α) :
    ((n.freshNeighbor i j model).prepare own owner nx nu grid rho).Unpriced owner nx nu grid rho := by
  have hempty : ∀ {family : Family} {shape : Shape} {fresh : Record family α},
      (Record.empty 0 : Record family α).keepOr grid shape fresh = fresh := fun {_ _ _} =>
    if_neg (Record.not_fits_empty 0 hgrid)
  exact ⟨hempty, hempty, hempty, hempty, hempty, hempty⟩

end Neighbor

/-- After a preparation all records fit, whatever they were before. -/
theorem Neighbor.fitted_prepare {grid : Vec Rat} (hgrid : Trajectory.isIncreasing grid = true)
    (nb : Neighbor Rat) (own : AgentState Rat) (owner : AgentId) (nx nu : Nat) (rho : Rat) :
    (nb.prepare own owner nx nu grid rho).Fitted grid nx nu := by
  have hfilled : ∀ {family : Family} (owner : AgentId) (shape : Shape) (value : Rat),
      (Record.filled owner grid shape value : Record family Rat).fits grid shape = true :=
    fun owner shape value => Record.fits_filled hgrid owner shape value
  have hstate : (nb.prepare own owner nx nu grid rho).agentState.fits grid ⟨nb.nx, nb.nu, 0⟩ = true :=
    Record.fits_keepOr (Record.fits_resample hgrid _ _ _)
  have hconsensus : (nb.prepare own owner nx nu grid rho).couplingState.fits grid
      ⟨nb.nx, nb.nu, 0⟩ = true := Record.fits_keepOr (Record.fits_consensus hstate)
  have hexternal : (nb.prepare own owner nx nu grid rho).externalInfluence.fits grid
      ⟨0, 0, nb.nx⟩ = true := Record.fits_keepOr (hfilled _ _ _)
  refine ⟨fun kind hkind => ?_, Record.fits_keepOr hconsensus, Record.fits_keepOr hexternal,
    Record.fits_keepOr (Record.fits_resample hgrid _ _ _), ?_, Record.fits_keepOr (hfilled _ _ _),
    Record.fits_keepOr (hfilled _ _ _), Record.fits_keepOr (hfilled _ _ _),
    Record.fits_keepOr (hfilled _ _ _), Record.fits_keepOr (hfilled _ _ _)⟩
  · cases kind with
    | agentState => exact hstate
    | desiredAgentState => exact absurd rfl hkind
    | coupledAgentState => exact Record.fits_keepOr (Record.fits_resample hgrid _ _ _)
    | couplingState => exact hconsensus
    | externalInfluenceCouplingState => exact hexternal
    | coupledMultiplierState => exact Record.fits_keepOr (hfilled _ _ _)
    | coupledPenaltyState => exact Record.fits_keepOr (hfilled _ _ _)
  · simp only [prepare]
    split
    · next hlength => exact hlength
    · exact Vec.length_zeros _

namespace Agent

variable {α : Type} [Scalar α] {a : Agent α} {grid : Vec α}

structure Fitted (grid : Vec α) (a : Agent α) : Prop where
  state : a.agentState.fits grid ⟨a.nx, a.nu, 0⟩ = true
  coupling : a.couplingState.fits grid ⟨a.nx, a.nu, 0⟩ = true
  prices : a.multiplierState.fits grid ⟨a.nx, a.nu, 0⟩ = true
  weights : a.penaltyState.fits grid ⟨a.nx, a.nu, 0⟩ = true
  neighbors : ∀ nb ∈ a.neighbors, nb.Fitted grid a.nx a.nu

theorem Fitted.prepare (h : a.Fitted grid) (rho : α) : a.prepare grid rho = a := by
  have hneighbors : a.neighbors.map (·.prepare a.agentState a.id a.nx a.nu grid rho) =
      a.neighbors := by
    conv_rhs => rw [← List.map_id a.neighbors]
    exact List.map_congr_left fun nb hnb => (h.neighbors nb hnb).prepare _ _ _
  simp only [Agent.prepare, Record.keepOr_of_fits h.state, Record.keepOr_of_fits h.coupling,
    Record.keepOr_of_fits h.prices, Record.keepOr_of_fits h.weights, hneighbors]

/-- A neighbor is not laid out by its records. -/
theorem layout_prepare (grid : Vec α) (rho : α) (a : Agent α) :
    (a.prepare grid rho).layout = a.layout := by
  have hentries : (a.prepare grid rho).entries = a.entries := by
    rw [entries, Agent.prepare, List.map_map]
    rfl
  have hcounts : ∀ kind, (a.prepare grid rho).constraintCount kind = a.constraintCount kind := by
    intro kind
    rw [constraintCount, Agent.prepare, List.foldl_map]
    rfl
  rw [layout, layout, indexMap, indexMap, hentries, hcounts, hcounts]
  rfl

end Agent

theorem Agent.fitted_prepare {grid : Vec Rat} (hgrid : Trajectory.isIncreasing grid = true)
    (a : Agent Rat) (rho : Rat) : (a.prepare grid rho).Fitted grid := by
  have hstate : (a.prepare grid rho).agentState.fits grid ⟨a.nx, a.nu, 0⟩ = true :=
    Record.fits_keepOr (Record.fits_resample hgrid _ _ _)
  refine ⟨hstate, Record.fits_keepOr (Record.fits_consensus hstate),
    Record.fits_keepOr (Record.fits_filled hgrid _ _ _),
    Record.fits_keepOr (Record.fits_filled hgrid _ _ _), fun nb' hnb' => ?_⟩
  obtain ⟨nb, -, rfl⟩ := List.mem_map.mp hnb'
  exact nb.fitted_prepare hgrid _ _ _ _ _

namespace Controller

section Definitions

variable {α : Type} [Scalar α] {c c' : Controller α} {t0 : α}

/-- Every record fits the grid of the horizon from `t0`, on which times can be told apart. -/
structure Fitted (t0 : α) (c : Controller α) : Prop where
  valid : c.options.validate = .ok ()
  step : Scalar.timeTolerance < c.options.stepSize
  start : c.agent.agentState.t0 = t0
  agent : c.agent.Fitted c.grid

/-- Records on the same grid. -/
theorem Fitted.of_agent (h : c.Fitted t0) (hoptions : c'.options = c.options)
    (hstart : c'.agent.agentState.t0 = c.agent.agentState.t0) (hagent : c'.agent.Fitted c.grid) :
    c'.Fitted t0 := by
  have hgrid : c'.grid = c.grid := by rw [grid, grid, hoptions, hstart]
  exact ⟨hoptions ▸ h.valid, hoptions ▸ h.step, hstart.trans h.start, hgrid ▸ hagent⟩

theorem prepare_approximating (h : c.options.validate = .ok ()) :
    c.approximating.prepare = c.prepare := by
  unfold prepare
  rw [h, show c.approximating.options.validate = .ok () from h]
  rfl

theorem prepare_of_layout (h : c.options.validate = .ok ()) {layout : Layout}
    (hlayout : c.approximating.agent.layout = .ok layout) :
    c.prepare = (c.approximating.laidOut layout, .ok ()) := by
  unfold approximating at hlayout
  unfold prepare
  rw [h]
  dsimp only at hlayout ⊢
  rw [hlayout]
  rfl

/-- A layout is all that a preparation adds to records that fit. -/
theorem Fitted.laidOut (h : c.Fitted t0) (layout : Layout) : c.laidOut layout =
    beginSolve { resetPrevious c with layout := some layout } := by
  unfold Controller.laidOut
  rw [h.agent.prepare]

end Definitions

variable {c c' : Controller Rat}

theorem isIncreasing_grid (hstep : Scalar.timeTolerance < c.options.stepSize) :
    Trajectory.isIncreasing c.grid = true :=
  Trajectory.isIncreasing_uniformGrid hstep _ _

/-- A preparation does not move the horizon. -/
theorem start_laidOut (hvalid : c.options.validate = .ok ()) (layout : Layout) :
    (c.laidOut layout).agent.agentState.t0 = c.agent.agentState.t0 := by
  have hsamples : 2 ≤ c.options.horizonSteps := Options.samples_of_valid hvalid
  change (c.agent.agentState.keepOr c.grid _ _).t0 = _
  unfold Record.keepOr
  split
  · rfl
  · exact startOf_uniformGrid (by omega) _ _

theorem grid_laidOut (hvalid : c.options.validate = .ok ()) (layout : Layout) :
    (c.laidOut layout).grid = c.grid := by
  have hstart := start_laidOut hvalid layout
  unfold grid
  rw [hstart]
  rfl

theorem fitted_laidOut (hvalid : c.options.validate = .ok ())
    (hstep : Scalar.timeTolerance < c.options.stepSize) (layout : Layout) :
    (c.laidOut layout).Fitted c.agent.agentState.t0 := by
  refine ⟨hvalid, hstep, start_laidOut hvalid layout, ?_⟩
  rw [grid_laidOut hvalid]
  exact c.agent.fitted_prepare (isIncreasing_grid hstep) _

/-- A preparation that succeeds leaves every record where it fits. -/
theorem fitted_prepare (hstep : Scalar.timeTolerance < c.options.stepSize)
    (h : c.prepare.2 = .ok ()) : c.prepare.1.Fitted c.agent.agentState.t0 := by
  obtain ⟨hvalid, layout, -, heq⟩ := laidOut_of_prepare h
  rw [heq]
  exact fitted_laidOut (c := c.approximating) hvalid hstep layout

/-- A second preparation finds everything as the first one has left it. -/
theorem prepare_prepare (hstep : Scalar.timeTolerance < c.options.stepSize) :
    c.prepare.1.prepare = c.prepare := by
  obtain ⟨_, heq⟩ | ⟨hvalid, ⟨_, heq⟩ | ⟨layout, hlayout, heq⟩⟩ := c.prepare_cases
  · rw [heq]
    exact heq
  · rw [heq]
    exact (prepare_approximating hvalid).trans heq
  · have hfitted := fitted_laidOut (c := c.approximating) hvalid hstep layout
    have hsame : (c.approximating.laidOut layout).agent.layout = .ok layout :=
      (Agent.layout_prepare _ _ _).trans hlayout
    rw [heq, prepare_of_layout hfitted.valid hsame]
    exact congrArg (fun d => (d, Except.ok ())) (hfitted.laidOut layout)

end Controller

end ConsensusControl
