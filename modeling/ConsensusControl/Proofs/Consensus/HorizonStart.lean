import Mathlib.Tactic.Linarith
import Mathlib.Tactic.Ring
import ConsensusControl.Ensemble.Preparation
import ConsensusControl.Proofs.Consensus.FirstSample
import ConsensusControl.Proofs.Consensus.Residuals

namespace ConsensusControl

/-- A grid is its start and the grid from the next time on. -/
theorem Trajectory.uniformGrid_succ (t0 dt : Rat) (n : Nat) :
    uniformGrid t0 dt (n + 1) = t0 :: uniformGrid (t0 + dt) dt n := by
  unfold uniformGrid
  rw [List.range_succ_eq_map, List.map_cons, List.map_map]
  congr 1
  · change t0 + ((0 : Nat) : Rat) * dt = t0
    simp
  · apply List.map_congr_left
    intro k _
    change t0 + ((k + 1 : Nat) : Rat) * dt = t0 + dt + (k : Rat) * dt
    push_cast
    ring

namespace Controller

section Preparation

variable {α : Type} [Scalar α] {c c' : Controller α} {t0 : α}

/-- Start of the horizon once it has been moved to `t0`. A difference within the tolerance does not
count. -/
def horizonStart (t0 : α) (c : Controller α) : α := Record.startOf (c.startAt t0).grid

/-- Ready for the horizon that starts at `t0`: brought there, and sized anew if need be. -/
def ReadyFor (t0 : α) (c c' : Controller α) : Prop :=
  if (c.startAt t0).status = .uninitialized then
    (c.startAt t0).prepare.2 = .ok () ∧ c' = (c.startAt t0).prepare.1.beginSolve
  else c' = (c.startAt t0).beginSolve

theorem state_prepare (h : c.prepare.2 = .ok ()) :
    c.options.validate = .ok () ∧ c.prepare.1.agent.agentState =
      c.agent.agentState.keepOr c.grid ⟨c.agent.nx, c.agent.nu, 0⟩
        (c.agent.agentState.resample c.agent.id c.grid ⟨c.agent.nx, c.agent.nu, 0⟩) := by
  obtain ⟨hvalid, layout, -, heq⟩ := laidOut_of_prepare h
  rw [heq]
  exact ⟨hvalid, rfl⟩

/-- Only the start of the trajectory is moved. -/
theorem agent_startAt (t0 : α) (c : Controller α) : (c.startAt t0).agent =
    { c.agent with agentState := { c.agent.agentState with
      t0 := (c.startAt t0).agent.agentState.t0 } } := by
  obtain heq | heq := c.startAt_cases t0
  · rw [heq]
  · rw [heq]
    rfl

theorem grounded_startAt (h : c.agent.Grounded) (t0 : α) : (c.startAt t0).agent.Grounded := by
  rw [agent_startAt]
  exact ⟨h.nonempty, ⟨rfl, h.state.x, h.state.u, h.state.v⟩, h.desired⟩

theorem ReadyFor.site (h : c.ReadyFor t0 c') : c'.site = c.site := by
  unfold ReadyFor at h
  split at h
  · obtain ⟨-, rfl⟩ := h
    exact (site_prepare _).trans (site_startAt t0 c)
  · rw [h]
    exact site_startAt t0 c

theorem ReadyFor.state_of_uninitialized (h : c.ReadyFor t0 c')
    (hstatus : (c.startAt t0).status = .uninitialized) :
    c.options.validate = .ok () ∧ c'.agent.agentState =
      (c.startAt t0).agent.agentState.keepOr (c.startAt t0).grid ⟨c.agent.nx, c.agent.nu, 0⟩
        ((c.startAt t0).agent.agentState.resample c.agent.id (c.startAt t0).grid
          ⟨c.agent.nx, c.agent.nu, 0⟩) := by
  have hsite := site_startAt t0 c
  have hid : (c.startAt t0).agent.id = c.agent.id := congrArg Site.id hsite
  have hmodel : (c.startAt t0).agent.model = c.agent.model := congrArg Site.model hsite
  have hoptions : (c.startAt t0).options = c.options := congrArg Site.options hsite
  unfold ReadyFor at h
  rw [if_pos hstatus] at h
  obtain ⟨hok, rfl⟩ := h
  have hprepared := state_prepare hok
  rw [hoptions, hid, Agent.nx, Agent.nu, hmodel] at hprepared
  exact hprepared

/-- The trajectory stays as it is, or it is brought onto the grid of the horizon. -/
theorem ReadyFor.state_cases (h : c.ReadyFor t0 c') :
    c'.agent.agentState = (c.startAt t0).agent.agentState ∨
      c.options.validate = .ok () ∧ c'.agent.agentState =
        (c.startAt t0).agent.agentState.resample c.agent.id (c.startAt t0).grid
          ⟨c.agent.nx, c.agent.nu, 0⟩ := by
  by_cases hstatus : (c.startAt t0).status = .uninitialized
  · obtain ⟨hvalid, hstate⟩ := h.state_of_uninitialized hstatus
    rw [hstate]
    unfold Record.keepOr
    split
    · exact .inl rfl
    · exact .inr ⟨hvalid, rfl⟩
  · unfold ReadyFor at h
    rw [if_neg hstatus] at h
    rw [h]
    exact .inl rfl

theorem grid_ne_nil (h : c.options.validate = .ok ()) : c.grid ≠ [] := by
  have hsamples : 2 ≤ c.options.horizonSteps := Options.samples_of_valid h
  have hlength : c.grid.length = c.options.horizonSteps := Trajectory.length_uniformGrid _ _ _
  intro hnil
  rw [hnil, List.length_nil] at hlength
  omega

theorem grid_startAt_ne_nil (h : c.options.validate = .ok ()) (t0 : α) : (c.startAt t0).grid ≠ [] := by
  have hoptions : (c.startAt t0).options = c.options := congrArg Site.options (site_startAt t0 c)
  apply grid_ne_nil
  rwa [hoptions]

/-- Brought onto the grid of the horizon, the trajectory starts where it is at the start of that. -/
theorem take_resample_startAt (hg : c.agent.Grounded) (hvalid : c.options.validate = .ok ()) (t0 : α) :
    ((c.startAt t0).agent.agentState.resample c.agent.id (c.startAt t0).grid
        ⟨c.agent.nx, c.agent.nu, 0⟩).x.take c.agent.nx =
      Trajectory.interpolate c.agent.agentState.t c.agent.agentState.x c.agent.nx
        (c.horizonStart t0) := by
  have hagent := agent_startAt t0 c
  have hx : (c.startAt t0).agent.agentState.x = c.agent.agentState.x := by rw [hagent]
  have ht : (c.startAt t0).agent.agentState.t = c.agent.agentState.t := by rw [hagent]
  have hnx : (c.startAt t0).agent.nx = c.agent.nx := by rw [hagent]; rfl
  have htake := (grounded_startAt hg t0).take_resample c.agent.id (grid_startAt_ne_nil hvalid t0)
    c.agent.nu 0
  rwa [hnx, hx, ht] at htake

theorem ReadyFor.nx (h : c.ReadyFor t0 c') : c'.agent.nx = c.agent.nx := by
  have hmodel : c'.agent.model = c.agent.model := congrArg Site.model h.site
  exact congrArg AgentModel.nx hmodel

/-- The prediction starts where it did, or where the trajectory is at the start of the horizon. -/
theorem ReadyFor.firstState_cases (h : c.ReadyFor t0 c') (hg : c.agent.Grounded) :
    c'.agent.firstState = c.agent.firstState ∨ c'.agent.firstState =
      Trajectory.interpolate c.agent.agentState.t c.agent.agentState.x c.agent.nx
        (c.horizonStart t0) := by
  rcases h.state_cases with hstate | ⟨hvalid, hstate⟩
  · left
    rw [Agent.firstState, hstate, agent_startAt, h.nx]
    rfl
  · right
    rw [Agent.firstState, hstate, h.nx]
    exact take_resample_startAt hg hvalid t0

/-- The prediction starts where it did if the horizon does not start later than the trajectory. -/
theorem ReadyFor.firstState (h : c.ReadyFor t0 c') (hg : c.agent.Grounded)
    (hstart : c.agent.agentState.t.length = 1 ∨
      c.horizonStart t0 ≤ Record.startOf c.agent.agentState.t) :
    c'.agent.firstState = c.agent.firstState := by
  have hhead : c.agent.agentState.t.getD 0 0 = Record.startOf c.agent.agentState.t := by
    cases c.agent.agentState.t <;> rfl
  rcases h.firstState_cases hg with hsame | hmoved
  · exact hsame
  · rw [hmoved]
    apply Trajectory.interpolate_first hg.nonempty hg.complete
    rwa [hhead]

end Preparation

variable {c c' : Controller Rat} {t : Rat}

theorem startOf_uniformGrid {n : Nat} (hn : n ≠ 0) (t0 dt : Rat) :
    Record.startOf (Trajectory.uniformGrid t0 dt n) = t0 := by
  obtain ⟨n, rfl⟩ := Nat.exists_eq_succ_of_ne_zero hn
  rw [Trajectory.uniformGrid_succ]
  rfl

theorem t0_startAt (t : Rat) (c : Controller Rat) :
    Scalar.gridTolerance < |c.agent.agentState.t0 - t| ∧
        (c.startAt t).agent.agentState.t0 = t ∧ (c.startAt t).status = .uninitialized ∨
      |c.agent.agentState.t0 - t| ≤ Scalar.gridTolerance ∧ c.startAt t = c := by
  unfold startAt
  rw [scalar_abs]
  split
  · next hfar => exact .inl ⟨hfar, rfl, rfl⟩
  · next hnear => exact .inr ⟨not_lt.mp hnear, rfl⟩

theorem horizonStart_eq (h : c.options.validate = .ok ()) (t : Rat) :
    c.horizonStart t = (c.startAt t).agent.agentState.t0 := by
  have hsamples : 2 ≤ c.options.horizonSteps := Options.samples_of_valid h
  have hoptions : (c.startAt t).options = c.options := congrArg Site.options (site_startAt t c)
  unfold horizonStart grid
  rw [hoptions]
  exact startOf_uniformGrid (by omega) _ _

/-- A record on a grid starts where the grid does, up to the tolerance. -/
theorem startOf_near {family : Family} {r : Record family Rat} {grid : Vec Rat} {shape : Shape}
    (h : r.fits grid shape = true) (hne : grid ≠ []) :
    |Record.startOf r.t - Record.startOf grid| < Scalar.gridTolerance := by
  have hgrid : Trajectory.onGrid r.t grid = true := by
    simp only [Record.fits, Bool.and_eq_true] at h
    exact h.1
  simp only [Trajectory.onGrid, Bool.and_eq_true, beq_iff_eq, List.all_eq_true] at hgrid
  obtain ⟨hlength, hall⟩ := hgrid
  obtain ⟨start, rest, rfl⟩ := List.exists_cons_of_ne_nil hne
  cases ht : r.t with
  | nil =>
    rw [ht] at hlength
    simp at hlength
  | cons first times =>
    have hnear := hall (first, start) (by rw [ht]; exact List.mem_cons_self)
    rw [scalar_abs] at hnear
    exact of_decide_eq_true hnear

/-- A horizon that is moved away from the trajectory starts where the trajectory is by then. -/
theorem ReadyFor.firstState_moved (h : c.ReadyFor t c') (hg : c.agent.Grounded)
    (hfar : Scalar.gridTolerance < |c.agent.agentState.t0 - t|)
    (haligned : Record.startOf c.agent.agentState.t = c.agent.agentState.t0) :
    c'.agent.firstState =
      Trajectory.interpolate c.agent.agentState.t c.agent.agentState.x c.agent.nx t := by
  obtain ⟨-, hstart, hstatus⟩ := (c.t0_startAt t).resolve_right fun hnear => not_lt.mpr hnear.1 hfar
  obtain ⟨hvalid, hstate⟩ := h.state_of_uninitialized hstatus
  have hhorizon : c.horizonStart t = t := (horizonStart_eq hvalid t).trans hstart
  have hmoved : (c.startAt t).agent.agentState.fits (c.startAt t).grid
      ⟨c.agent.nx, c.agent.nu, 0⟩ = false := by
    rw [Bool.eq_false_iff]
    intro hfits
    have hnear := startOf_near hfits (grid_startAt_ne_nil hvalid t)
    have ht : (c.startAt t).agent.agentState.t = c.agent.agentState.t := by rw [agent_startAt]
    rw [ht, haligned] at hnear
    rw [horizonStart] at hhorizon
    rw [hhorizon] at hnear
    exact lt_asymm hfar hnear
  rw [Record.keepOr, hmoved, if_neg Bool.false_ne_true] at hstate
  rw [Agent.firstState, hstate, h.nx, take_resample_startAt hg hvalid, hhorizon]

/-- A trajectory that starts with its first sample keeps that unless the horizon is moved past it. Then
it is the interpolated trajectory that the prediction starts with. -/
theorem ReadyFor.firstState_aligned (h : c.ReadyFor t c') (hvalid : c.options.validate = .ok ())
    (hg : c.agent.Grounded)
    (haligned : Record.startOf c.agent.agentState.t = c.agent.agentState.t0) :
    c'.agent.firstState = if c.agent.agentState.t0 + Scalar.gridTolerance < t then
      Trajectory.interpolate c.agent.agentState.t c.agent.agentState.x c.agent.nx t
    else c.agent.firstState := by
  split
  · next hlater =>
    apply h.firstState_moved hg _ haligned
    apply lt_abs.mpr
    right
    linarith
  · next hlater =>
    apply h.firstState hg
    right
    rw [horizonStart_eq hvalid, haligned]
    rcases c.t0_startAt t with ⟨hfar, hstart, -⟩ | ⟨-, hsame⟩
    · rw [hstart]
      have hpositive : (0 : Rat) ≤ Scalar.gridTolerance := by decide +kernel
      rcases lt_abs.mp hfar with hahead | hbehind
      · linarith
      · exact absurd (by linarith) hlater
    · rw [hsame]

/-- Prepared where its trajectory starts, a controller keeps the first state. -/
theorem firstState_prepare (hg : c.agent.Grounded) (h : c.prepare.2 = .ok ())
    (haligned : Record.startOf c.agent.agentState.t = c.agent.agentState.t0) :
    c.prepare.1.agent.firstState = c.agent.firstState := by
  obtain ⟨hvalid, hstate⟩ := state_prepare h
  have hmodel : c.prepare.1.agent.model = c.agent.model := congrArg Site.model (site_prepare c)
  have hnx : c.prepare.1.agent.nx = c.agent.nx := congrArg AgentModel.nx hmodel
  rw [Agent.firstState, hstate, hnx, Record.keepOr]
  split
  · rfl
  have hsamples : 2 ≤ c.options.horizonSteps := Options.samples_of_valid hvalid
  have hgrid : Record.startOf c.grid = c.agent.agentState.t0 :=
    startOf_uniformGrid (by omega) _ _
  have hhead : c.agent.agentState.t.getD 0 0 = Record.startOf c.agent.agentState.t := by
    cases c.agent.agentState.t <;> rfl
  rw [hg.take_resample c.agent.id (grid_ne_nil hvalid)]
  apply Trajectory.interpolate_first hg.nonempty hg.complete
  right
  rw [hgrid, hhead, haligned]

/-- A measured state is kept by the next preparation. -/
theorem Shaped.xAt_prepare (hc : c.Shaped) {x : Vec Rat} (hset : c.setInitialState x = .ok c')
    (haligned : Record.startOf c.agent.agentState.t = c.agent.agentState.t0)
    (h : c'.prepare.2 = .ok ()) : c'.prepare.1.agent.agentState.xAt 0 = .ok x := by
  have hc' := hc.setInitialState hset
  have hmeasured : c'.agent.firstState = x := firstState_setInitialState hset
  obtain ⟨-, rfl⟩ := setInitialState_eq_ok hset
  rw [(shaped_prepare hc').grounded.xAt_zero, firstState_prepare hc'.grounded h haligned, hmeasured]

/-- The trajectory does not start before `t`, up to the tolerance. If it starts later than that, it
starts no later than its first sample. -/
structure OnTime (t : Rat) (c : Controller Rat) : Prop where
  reached : t ≤ c.agent.agentState.t0 + Scalar.gridTolerance
  ahead : c.agent.agentState.t0 ≤ t + Scalar.gridTolerance ∨
    c.agent.agentState.t0 ≤ Record.startOf c.agent.agentState.t

theorem onTime_of_near (h : |c.agent.agentState.t0 - t| ≤ Scalar.gridTolerance) : c.OnTime t := by
  obtain ⟨hlower, hupper⟩ := abs_le.mp h
  exact ⟨by linarith, .inl (by linarith)⟩

/-- A controller that is on time need not give up its first state. -/
theorem OnTime.firstState (h : c.OnTime t) (hvalid : c.options.validate = .ok ())
    (hbegun : c.status ≠ .uninitialized) (hg : c.agent.Grounded) (hready : c.ReadyFor t c') :
    c'.agent.firstState = c.agent.firstState := by
  rcases c.t0_startAt t with ⟨hfar, hstart, -⟩ | ⟨-, hsame⟩
  · apply hready.firstState hg
    right
    rw [horizonStart_eq hvalid, hstart]
    have hlater : t + Scalar.gridTolerance < c.agent.agentState.t0 := by
      have hreached := h.reached
      rcases lt_abs.mp hfar with hlater | hearlier
      · linarith
      · linarith
    have hpositive : (0 : Rat) ≤ Scalar.gridTolerance := by decide +kernel
    have hfirst := h.ahead.resolve_left (not_le.mpr hlater)
    linarith
  · unfold ReadyFor at hready
    rw [hsame, if_neg hbegun] at hready
    rw [hready]
    rfl

theorem ReadyFor.onTime (h : c.ReadyFor t c') : c'.OnTime t := by
  have hnear : |(c.startAt t).agent.agentState.t0 - t| ≤ Scalar.gridTolerance := by
    rcases c.t0_startAt t with ⟨-, hstart, -⟩ | ⟨hnear, hsame⟩
    · rw [hstart, sub_self, abs_zero]
      decide +kernel
    · rwa [hsame]
  apply onTime_of_near
  rcases h.state_cases with hstate | ⟨hvalid, hstate⟩
  · rwa [hstate]
  · have hstart : c'.agent.agentState.t0 = c.horizonStart t := by rw [hstate]; rfl
    rwa [hstart, horizonStart_eq hvalid]

theorem OnTime.turn (h : c.OnTime t) (hc : c.Steady) (htime : c.solver.KeepsTime)
    (ht : Turn c c') : c'.OnTime t := by
  rcases ht.state_cases with hsame | ⟨p, g, s, hguesses, hsolver, hcheck, hstore⟩
  · obtain ⟨hreached, hahead⟩ := h
    rw [← hsame] at hreached hahead
    exact ⟨hreached, hahead⟩
  have hsamples : 2 ≤ c.options.horizonSteps := Options.samples_of_valid hc.valid
  have hlength : s.t.length = c.options.horizonSteps := (LocalSolution.check_eq_ok.mp hcheck).t
  have hfirst := htime _ _ _ _ hc.valid hsolver
  have hagent := hguesses.agent
  have hg : g.t0 = c.agent.agentState.t0 := by
    obtain ⟨_, -, -, hguess⟩ := hguesses
    rw [LocalProblem.guess_t0 hguess, hagent]
  obtain ⟨_, _, -, -, hstate⟩ := LocalProblem.store_state hstore
  have ht0 : c'.agent.agentState.t0 = Record.startOf s.t ∧ c'.agent.agentState.t = s.t ∧
      s.t.headD g.t0 = Record.startOf s.t := by
    rw [hstate]
    cases hgrid : s.t with
    | nil =>
      rw [hgrid, List.length_nil] at hlength
      omega
    | cons t ts => exact ⟨rfl, rfl, rfl⟩
  obtain ⟨hstart, hgrid, hhead⟩ := ht0
  rw [hhead, hg] at hfirst
  have hreached := h.reached
  refine ⟨?_, .inr ?_⟩
  · rw [hstart]
    linarith
  · rw [hstart, hgrid]

theorem OnTime.turns (h : c.OnTime t) (hc : c.Steady) (htime : c.solver.KeepsTime)
    (ht : c.Turns c') : c'.OnTime t ∧ c'.solver = c.solver := by
  induction ht with
  | refl => exact ⟨h, rfl⟩
  | turn hturns hturn ih =>
    obtain ⟨hontime, hsolver⟩ := ih
    have hsteady := (hc.turns hturns).1
    rw [← hsolver] at htime
    exact ⟨hontime.turn hsteady htime hturn, hturn.solver.trans hsolver⟩

theorem times_shiftHorizon {α : Type} [Scalar α] (dt : α) (c : Controller α) :
    (c.shiftHorizon dt).1.agent.agentState.t0 = c.agent.agentState.t0 + dt ∧
      (c.shiftHorizon dt).1.agent.agentState.t = c.agent.agentState.t.map (· + dt) := by
  obtain ⟨_, heq⟩ | heq | heq := c.shiftHorizon_cases dt
  · rw [heq]
    exact ⟨rfl, rfl⟩
  · rw [heq]
    exact ⟨rfl, rfl⟩
  · rw [heq]
    exact ⟨rfl, rfl⟩

/-- A trajectory that is moved along is on time for the next sample. -/
theorem OnTime.shiftHorizon (h : c.OnTime t) (hne : c.agent.agentState.t ≠ []) (dt : Rat) :
    (c.shiftHorizon dt).1.OnTime (t + dt) := by
  obtain ⟨ht0, hgrid⟩ := times_shiftHorizon dt c
  have hhead : Record.startOf (c.agent.agentState.t.map (· + dt)) =
      Record.startOf c.agent.agentState.t + dt := by
    obtain ⟨start, rest, hcons⟩ := List.exists_cons_of_ne_nil hne
    rw [hcons]
    rfl
  obtain ⟨hreached, hahead⟩ := h
  refine ⟨?_, ?_⟩
  · rw [ht0]
    linarith
  · rw [ht0, hgrid, hhead]
    rcases hahead with hnear | hfirst
    · left
      linarith
    · right
      linarith

theorem OnTime.restart (h : c.OnTime t) {x : Vec Rat} (hx : c.setInitialState x = .ok c') :
    c'.OnTime t := by
  obtain ⟨-, rfl⟩ := setInitialState_eq_ok hx
  exact ⟨h.reached, h.ahead⟩

end Controller

end ConsensusControl
