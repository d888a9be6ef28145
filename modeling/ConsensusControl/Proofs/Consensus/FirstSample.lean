import ConsensusControl.Proofs.Consensus.Guess
import ConsensusControl.Proofs.Consensus.Shape

namespace ConsensusControl

variable {α : Type} [Scalar α]

/-- Solutions start in the state that the solver is given. -/
def LocalSolver.KeepsState (solver : LocalSolver α) : Prop :=
  ∀ (problem : Problem α) (guess : Guess α) (o : Options α) (s : LocalSolution α),
    o.validate = .ok () → solver problem guess o = .ok (.ok s) → s.x.take guess.x0.length = guess.x0

/-- Solutions lie on the horizon grid. All that is asked of that here is that none starts earlier. -/
def LocalSolver.KeepsTime (solver : LocalSolver α) : Prop :=
  ∀ (problem : Problem α) (guess : Guess α) (o : Options α) (s : LocalSolution α),
    o.validate = .ok () → solver problem guess o = .ok (.ok s) → guess.t0 ≤ s.t.headD guess.t0

namespace Agent

variable {a : Agent α}

/-- The state in which the agent's prediction starts. -/
def firstState (a : Agent α) : Vec α := a.agentState.x.take a.nx

omit [Scalar α] in
/-- There is a whole first sample. -/
theorem Grounded.complete (h : a.Grounded) : a.nx ≤ a.agentState.x.length := by
  have hpos : 0 < a.agentState.t.length := List.length_pos_iff.mpr h.nonempty
  rw [h.state.x]
  exact Nat.le_mul_of_pos_left _ hpos

omit [Scalar α] in
theorem Grounded.length_firstState (h : a.Grounded) : a.firstState.length = a.nx :=
  List.length_take_of_le h.complete

omit [Scalar α] in
theorem Grounded.shape_nx (h : a.Grounded) : a.agentState.shape.nx = a.nx := by
  have hpos : 0 < a.agentState.t.length := List.length_pos_iff.mpr h.nonempty
  have hmax : Nat.max a.agentState.t.length 1 = a.agentState.t.length := Nat.max_eq_left hpos
  change a.agentState.x.length / Nat.max a.agentState.t.length 1 = a.nx
  rw [hmax, h.state.x]
  exact Nat.mul_div_cancel_left _ hpos

omit [Scalar α] in
theorem Grounded.xAt_zero (h : a.Grounded) : a.agentState.xAt 0 = .ok a.firstState := by
  have hcomplete := h.complete
  rw [Record.xAt, h.shape_nx, Record.sampleAt]
  refine bind_eq_ok.mpr ⟨(), Checked.require_eq_ok.mpr (by omega), ?_⟩
  rw [Trajectory.sample, Nat.zero_mul, List.drop_zero]
  rfl

omit [Scalar α] in
theorem Grounded.uAt_zero (h : a.Grounded) : ∃ u, a.agentState.uAt 0 = .ok u ∧ u.length = a.nu := by
  have hpos : 0 < a.agentState.t.length := List.length_pos_iff.mpr h.nonempty
  have hmax : Nat.max a.agentState.t.length 1 = a.agentState.t.length := Nat.max_eq_left hpos
  have hshape : a.agentState.shape.nu = a.nu := by
    change a.agentState.u.length / Nat.max a.agentState.t.length 1 = a.nu
    rw [hmax, h.state.u]
    exact Nat.mul_div_cancel_left _ hpos
  have hcomplete : (0 + 1) * a.nu ≤ a.agentState.u.length := by
    rw [h.state.u]
    exact Nat.mul_le_mul_right _ hpos
  refine ⟨Trajectory.sample a.nu a.agentState.u 0, ?_, Trajectory.length_sample hcomplete⟩
  rw [Record.uAt, hshape, Record.sampleAt]
  exact bind_eq_ok.mpr ⟨(), Checked.require_eq_ok.mpr hcomplete, rfl⟩

/-- Resampled, the prediction starts in what it was at the start of the grid. -/
theorem Grounded.take_resample (h : a.Grounded) (owner : AgentId) {grid : Vec α} (hgrid : grid ≠ [])
    (nu nv : Nat) : (a.agentState.resample owner grid ⟨a.nx, nu, nv⟩).x.take a.nx =
      Trajectory.interpolate a.agentState.t a.agentState.x a.nx (Record.startOf grid) := by
  obtain ⟨start, grid, rfl⟩ := List.exists_cons_of_ne_nil hgrid
  have hsame : (a.agentState.t.isEmpty || a.agentState.shape.nx != a.nx) = false := by
    simp [h.nonempty, h.shape_nx]
  change ((a.agentState.resampleChannel (start :: grid) a.agentState.x a.agentState.shape.nx a.nx).take
    a.nx) = _
  rw [Record.resampleChannel, hsame, if_neg Bool.false_ne_true, List.flatMap_cons]
  exact List.take_left' (Trajectory.length_interpolate _ _ _ _)

end Agent

namespace LocalProblem

variable {p : LocalProblem α} {s : LocalSolution α}

omit [Scalar α] in
theorem solutionPoints_cons (p : LocalProblem α) {t : α} {ts : Vec α} (h : s.t = t :: ts) :
    ∃ rest, p.solutionPoints s = ⟨t, s.x.take p.index.nx, s.u.take p.index.nu⟩ :: rest := by
  unfold solutionPoints
  rw [h]
  simp [Trajectory.samples, List.range_succ_eq_map, Trajectory.sample]

omit [Scalar α] in
theorem guess_t0 {samples : Nat} {g : Guess α} (h : p.guess samples = .ok g) :
    g.t0 = p.agent.agentState.t0 := by
  unfold guess at h
  obtain ⟨x0, -, h⟩ := bind_eq_ok.mp h
  obtain ⟨u, -, h⟩ := bind_eq_ok.mp h
  obtain rfl := pure_eq_ok.mp h
  rfl

/-- What is stored of a solution starts where the solution does. -/
theorem Indexed.take_store (hp : p.Indexed) {samples : Nat} {a : Agent α} (hsamples : samples ≠ 0)
    (hcheck : s.check p.index samples = .ok ()) (hstore : p.store s = .ok a) :
    a.agentState.x.take p.agent.nx = s.x.take p.agent.nx := by
  obtain ⟨ht, hx, -⟩ := LocalSolution.check_eq_ok.mp hcheck
  obtain ⟨x, _, hoverwrite, -, hstate⟩ := store_state hstore
  obtain ⟨rfl, -⟩ := Vec.overwrite_eq_ok hoverwrite
  rcases hgrid : s.t with _ | ⟨t, ts⟩
  · rw [hgrid] at ht
    exact absurd ht.symm hsamples
  obtain ⟨rest, hpoints⟩ := p.solutionPoints_cons hgrid
  have hown : p.agent.nx ≤ p.index.nx := hp.tiles.1.le
  have hlength : p.index.nx ≤ s.x.length := by
    rw [hx]
    exact Nat.le_mul_of_pos_left _ (Nat.pos_of_ne_zero hsamples)
  have hread : p.index.ownX.read (s.x.take p.index.nx) = s.x.take p.agent.nx := by
    rw [Block.read, IndexMap.ownX, List.drop_zero, hp.nxOwn, List.take_take, Nat.min_eq_left hown]
  have hfirst : (s.x.take p.agent.nx).length = p.agent.nx :=
    List.length_take_of_le (Nat.le_trans hown hlength)
  rw [hstate, hpoints, List.flatMap_cons, hread, List.append_assoc]
  exact List.take_left' hfirst

end LocalProblem

namespace Controller

variable {c c' : Controller α}

/-- A controller takes no turn that touches its own trajectory but a local solve that succeeds. -/
theorem Turn.state_cases (h : Turn c c') :
    c'.agent.agentState = c.agent.agentState ∨ ∃ p g s, c.Guesses p g ∧
      c.solver p.toProblem g c.options = .ok (.ok s) ∧
      s.check p.index c.options.horizonSteps = .ok () ∧ p.store s = .ok c'.agent := by
  cases h with
  | solve =>
    rcases c.updateAgentStates_cases with hsame | ⟨layout, s, hlayout, hattempt⟩
    · exact .inl (by rw [hsame])
    · obtain ⟨p, g, hp, hg, hsolver, hcheck, hstore⟩ := attempt_eq_ok hattempt
      have hindex : p.index = layout.index := by
        obtain ⟨-, rfl⟩ := LocalProblem.of_eq_ok hp
        rfl
      exact .inr ⟨p, g, s, ⟨layout, hlayout, hp, hg⟩, hsolver, hindex ▸ hcheck, hstore⟩
  | couple h =>
    obtain ⟨_, _, _, _, -, -, rfl⟩ := updateCouplingStates_eq_ok h
    exact .inl rfl
  | raise h =>
    obtain ⟨_, _, _, _, -, -, rfl⟩ := updateMultiplierStates_eq_ok h
    exact .inl rfl
  | adapt h =>
    obtain rfl | ⟨_, _, -, -, rfl⟩ := adaptPenalties_eq_ok h
    · exact .inl rfl
    · exact .inl rfl
  | receive sender kind r =>
    obtain ⟨_, heq⟩ := c.applyIncoming_frame sender kind r
    exact .inl (by rw [heq])
  | finish =>
    obtain ⟨_, -, heq⟩ := c.finishIteration_eq
    exact .inl (by rw [heq])
  | fail => exact .inl rfl

theorem Turn.layout (h : Turn c c') : c'.layout = c.layout := by
  cases h with
  | solve => exact layout_updateAgentStates c
  | couple h =>
    obtain ⟨_, _, _, _, -, -, rfl⟩ := updateCouplingStates_eq_ok h
    rfl
  | raise h =>
    obtain ⟨_, _, _, _, -, -, rfl⟩ := updateMultiplierStates_eq_ok h
    rfl
  | adapt h =>
    obtain rfl | ⟨_, _, -, -, rfl⟩ := adaptPenalties_eq_ok h
    · rfl
    · rfl
  | receive sender kind r =>
    obtain ⟨_, heq⟩ := c.applyIncoming_frame sender kind r
    rw [heq]
  | finish =>
    obtain ⟨_, -, heq⟩ := c.finishIteration_eq
    rw [heq]
  | fail => rfl

theorem Turns.layout (h : c.Turns c') : c'.layout = c.layout := by
  induction h with
  | refl => rfl
  | turn _ ht ih => exact ht.layout.trans ih

/-- Ready for local solves that keep the first state. -/
structure Steady (c : Controller α) : Prop where
  valid : c.options.validate = .ok ()
  shaped : c.Shaped
  indexed : c.Indexed
  keepsState : c.solver.KeepsState

theorem Steady.turn (hc : c.Steady) (h : Turn c c') : c'.Steady := by
  have hsite := h.site
  have hoptions : c'.options = c.options := congrArg Site.options hsite
  refine ⟨hoptions ▸ hc.valid, h.shaped hc.shaped, hc.indexed.of_same hsite h.layout, ?_⟩
  rw [h.solver]
  exact hc.keepsState

omit [Scalar α] in
theorem Guesses.agent {p : LocalProblem α} {g : Guess α} (h : c.Guesses p g) : p.agent = c.agent := by
  obtain ⟨layout, -, hof, -⟩ := h
  obtain ⟨-, rfl⟩ := LocalProblem.of_eq_ok hof
  rfl

/-- A guess starts in the state in which the prediction does. -/
theorem Steady.read_guess (hc : c.Steady) {p : LocalProblem α} {g : Guess α} (h : c.Guesses p g) :
    p.index.ownX.read g.x0 = c.agent.firstState := by
  obtain ⟨hp, hagent⟩ := h.indexed hc.indexed
  obtain ⟨layout, -, -, hguess⟩ := h
  have hread := (hp.read_guess hguess).1
  rw [hagent, hc.shaped.grounded.xAt_zero] at hread
  exact (Except.ok.inj hread).symm

theorem Steady.firstState (hc : c.Steady) (h : Turn c c') :
    c'.agent.firstState = c.agent.firstState := by
  have hmodel : c'.agent.model = c.agent.model := congrArg Site.model h.site
  have hnx : c'.agent.nx = c.agent.nx := congrArg AgentModel.nx hmodel
  rcases h.state_cases with hsame | ⟨p, g, s, hguesses, hsolver, hcheck, hstore⟩
  · rw [Agent.firstState, hsame, hnx]
    rfl
  obtain ⟨hp, hagent⟩ := hguesses.indexed hc.indexed
  have hsamples : 2 ≤ c.options.horizonSteps := Options.samples_of_valid hc.valid
  have hstored := hp.take_store (by omega) hcheck hstore
  have hkept := hc.keepsState _ _ _ _ hc.valid hsolver
  have hown := hc.read_guess hguesses
  rw [Block.read, IndexMap.ownX, List.drop_zero, hp.nxOwn, hagent] at hown
  have hlong : c.agent.nx ≤ g.x0.length := by
    have hlength := congrArg List.length hown
    rw [hc.shaped.grounded.length_firstState, List.length_take] at hlength
    omega
  have hprefix : s.x.take c.agent.nx = g.x0.take c.agent.nx := by
    rw [← hkept, List.take_take, Nat.min_eq_left hlong]
  rw [Agent.firstState, hnx, ← hagent, hstored, hagent, hprefix, hown]

/-- Turns leave the first state as it is. -/
theorem Steady.turns (hc : c.Steady) (h : c.Turns c') :
    c'.Steady ∧ c'.agent.firstState = c.agent.firstState := by
  induction h with
  | refl => exact ⟨hc, rfl⟩
  | turn _ ht ih =>
    obtain ⟨hsteady, hfirst⟩ := ih
    exact ⟨hsteady.turn ht, (hsteady.firstState ht).trans hfirst⟩

omit [Scalar α] in
theorem firstState_setInitialState {x : Vec α} (h : c.setInitialState x = .ok c') :
    c'.agent.firstState = x := by
  obtain ⟨hlength, rfl⟩ := setInitialState_eq_ok h
  change (x ++ c.agent.agentState.x.drop c.agent.nx).take c.agent.nx = x
  rw [← hlength, List.take_left]

end Controller

end ConsensusControl
