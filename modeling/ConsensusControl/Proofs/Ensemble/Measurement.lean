import ConsensusControl.Proofs.Ensemble.Result

namespace ConsensusControl.Ensemble

variable {σ α : Type} [Scalar α] {t0 : α} {e₀ e₁ e : Ensemble σ α} {n : Nat} {id : AgentId}
  {c : Controller α}

section Changes

variable [Transport σ α]

/-- A new initial state goes to the network and to the controller, if there is one. -/
theorem returns_setInitial {x : Vec α} {u : Unit}
    (h : Returns (apply (.setInitial id x)) e₀ u e₁) :
    ∃ network, e₀.network.setInitial id x = .ok network ∧
      (e₀.controllers.lookup id = none ∧ e₁ = { e₀ with network } ∨
        ∃ c c' : Controller α, e₀.controllers.lookup id = some c ∧ c.setInitialState x = .ok c' ∧
          e₁ = { e₀ with network, controllers := Table.insert id c' e₀.controllers }) := by
  unfold apply at h
  replace h := returns_get_bind.mp h
  obtain ⟨network, hnetwork, h⟩ := returns_configured_bind.mp h
  replace h := returns_modify_bind.mp h
  replace h := returns_get_bind.mp h
  refine ⟨network, hnetwork, ?_⟩
  split at h
  · next c hc =>
    obtain ⟨c', _, hanswer, h⟩ := returns_bind.mp h
    obtain ⟨hset, rfl⟩ := returns_configured.mp hanswer
    exact .inr ⟨c, c', hc, hset, (returns_putController.mp h).symm⟩
  · next hc =>
    obtain ⟨-, rfl⟩ := returns_pure.mp h
    exact .inl ⟨Option.eq_none_iff_forall_ne_some.mpr hc, rfl⟩

/-- A new controller starts where its agent has been measured. -/
theorem Sourced.measured_new {x : Vec α} {u : Unit} (h₁ : e₁.Supplied)
    (hset : Returns (apply (.setInitial id x)) e₀ u e₁) (hnone : e₀.controllers.lookup id = none)
    (h : Sourced t0 e₁ id c) :
    c.agent.firstState = x ∧ c.agent.agentState.t.length = 1 := by
  obtain ⟨network, hnetwork, ⟨-, rfl⟩ | ⟨_, _, hc₀, -⟩⟩ := returns_setInitial hset
  · obtain ⟨_, hc₁, -⟩ | ⟨-, entry, hentry, hstate, hmodel⟩ := h.state_cases h₁
    · rw [hnone] at hc₁
      cases hc₁
    · obtain ⟨old, -, hlength, rfl⟩ := Network.setInitial_eq_ok hnetwork
      rw [Network.entry_setEntry, if_pos rfl] at hentry
      obtain rfl := Option.some.inj hentry
      have hnx : c.agent.nx = x.length := by rw [Agent.nx, hmodel, hlength]
      constructor
      · rw [Agent.firstState, hstate, hnx]
        change (Trajectory.constant 1 x).take x.length = x
        rw [Trajectory.constant_one, List.take_length]
      · rw [hstate]
        rfl
  · rw [hnone] at hc₀
    cases hc₀

/-- The trajectory of a controller starts where its agent has been measured, and goes on as it was. -/
theorem Sourced.measured {c₀ : Controller α} {x : Vec α} {u : Unit} (h₁ : e₁.Supplied)
    (hset : Returns (apply (.setInitial id x)) e₀ u e₁) (hc₀ : e₀.controllers.lookup id = some c₀)
    (h : Sourced t0 e₁ id c) :
    c.agent.firstState = x ∧ c.agent.nx = c₀.agent.nx ∧ c.agent.agentState =
      { c₀.agent.agentState with x := x ++ c₀.agent.agentState.x.drop c₀.agent.nx } := by
  obtain ⟨network, -, ⟨hnone, -⟩ | ⟨d₀, c₁, hd₀, hrestart, rfl⟩⟩ := returns_setInitial hset
  · rw [hnone] at hc₀
    cases hc₀
  · obtain rfl : d₀ = c₀ := Option.some.inj (hd₀.symm.trans hc₀)
    obtain ⟨d₁, hd₁, hstate, hmodel⟩ | ⟨hnone, -⟩ := h.state_cases h₁
    · rw [Table.lookup_insert] at hd₁
      obtain rfl := Option.some.inj hd₁
      have hmeasured := Controller.firstState_setInitialState hrestart
      obtain ⟨-, rfl⟩ := Controller.setInitialState_eq_ok hrestart
      have hnx : c.agent.nx = d₀.agent.nx := congrArg AgentModel.nx hmodel
      refine ⟨?_, hnx, hstate⟩
      rw [← hmeasured, Agent.firstState, Agent.firstState, hstate, hnx]
      rfl
    · rw [Table.lookup_insert] at hnone
      cases hnone

end Changes

variable [FaithfulTransport σ α]

/-- The controller has been made ready for the horizon from `t0`, and its prediction starts where it did
then. -/
def Starts (t0 : α) (e₀ : Ensemble σ α) (id : AgentId) (c : Controller α) : Prop :=
  c.Steady ∧ ∃ c₀ c₁ : Controller α, Sourced t0 e₀ id c₀ ∧ c₀.options.validate = .ok () ∧
    c₀.ReadyFor t0 c₁ ∧ c.agent.firstState = c₁.agent.firstState

/-- All local solves of a run start where the preparation has left the predictions. -/
theorem LocalSolves.starts (h₀ : e₀.Operated) (hsolver : e₀.solver.KeepsState)
    (h : LocalSolves t0 e₀ n e) (hc : e.controllers.lookup id = some c) : Starts t0 e₀ id c := by
  have hroutine : Routine fun e : Ensemble σ α =>
      ∀ id c, e.controllers.lookup id = some c → Starts t0 e₀ id c := by
    apply routine_controllers
    intro id c c' hstarts hturns
    obtain ⟨hsteady, c₀, c₁, hsourced, hvalid, hready, hfirst⟩ := hstarts
    obtain ⟨hsteady', hsame⟩ := hsteady.turns hturns
    exact ⟨hsteady', c₀, c₁, hsourced, hvalid, hready, hsame.trans hfirst⟩
  refine h.keeps hroutine.phased (fun e₁ hprepare id c hc => ?_) id c hc
  obtain ⟨hsteady, -, -, c₀, hsourced, hvalid, hready⟩ := h₀.readied hsolver hprepare hc
  exact ⟨hsteady, c₀, c, hsourced, hvalid, hready, rfl⟩

/-- An agent without a controller starts its local solves where it has been measured. So does one with
a controller, on every horizon that does not start later than its trajectory. On a later one it starts
where its trajectory has got to from there. A controller that is prepared by itself, where its
trajectory starts, keeps what has been measured. -/
theorem Operated.measured_state {σ : Type} [FaithfulTransport σ Rat] {e₀ e₁ e : Ensemble σ Rat}
    {t0 : Rat} {n : Nat} {id : AgentId} {x : Vec Rat} {c : Controller Rat} {p : LocalProblem Rat}
    {g : Guess Rat} (h₀ : e₀.Operated) (hsolver : e₀.solver.KeepsState)
    (hset : Returns (Ensemble.apply (.setInitial id x)) e₀ () e₁) (hsolve : LocalSolves t0 e₁ n e)
    (hc : e.controllers.lookup id = some c) (hg : c.Guesses p g) :
    (e₀.controllers.lookup id = none → p.index.ownX.read g.x0 = x) ∧
      ∀ c₀, e₀.controllers.lookup id = some c₀ →
        Record.startOf c₀.agent.agentState.t = c₀.agent.agentState.t0 →
        (p.index.ownX.read g.x0 = if c₀.agent.agentState.t0 + Scalar.gridTolerance < t0 then
          Trajectory.interpolate c₀.agent.agentState.t
            (x ++ c₀.agent.agentState.x.drop c₀.agent.nx) c₀.agent.nx t0
        else x) ∧
          ∀ c₁, c₀.setInitialState x = .ok c₁ → c₁.prepare.2 = .ok () →
            c₁.prepare.1.agent.agentState.xAt 0 = .ok x := by
  have h₁ : e₁.Operated := hset.exec_snd ▸ h₀.apply _
  have hsame : e₁.solver = e₀.solver := by
    obtain ⟨network, -, ⟨-, rfl⟩ | ⟨_, _, -, -, rfl⟩⟩ := returns_setInitial hset
    · rfl
    · rfl
  obtain ⟨hsteady, d₀, d₁, hsourced, hvalid, hready, hfirst⟩ := hsolve.starts h₁ (hsame ▸ hsolver) hc
  have hgrounded := (hsourced.serves h₁.supplied).shaped.grounded
  rw [hsteady.read_guess hg, hfirst]
  constructor
  · intro hnone
    obtain ⟨hx, hone⟩ := hsourced.measured_new h₁.supplied hset hnone
    exact (hready.firstState hgrounded (.inl hone)).trans hx
  · intro c₀ hc₀ haligned
    constructor
    · obtain ⟨hx, hnx, hstate⟩ := hsourced.measured h₁.supplied hset hc₀
      have hstart := hready.firstState_aligned hvalid hgrounded (by rw [hstate]; exact haligned)
      rw [hstart, hx, hstate, hnx]
    · intro c₁ hmeasured hprepared
      have hshaped := (h₀.supplied.serves id c₀ hc₀).shaped
      exact hshaped.xAt_prepare hmeasured haligned hprepared

/-- A pair that has been solved from time zero. -/
def solvedPair : Ensemble (Direct Rat) Rat := (exec (solve 0) (pair 1 (insist 0))).2

/-- The pair with its first agent measured at 5. -/
def measuredPair : Ensemble (Direct Rat) Rat := (exec (apply (.setInitial 0 [5])) solvedPair).2

/-- The measured pair ahead of its first local solves on the horizon from `t0`. -/
def startedPair (t0 : Rat) : Ensemble (Direct Rat) Rat :=
  (exec (exchange .setup 0) { (exec (prepare t0) measuredPair).2 with history := .empty }).2

/-- The state in which an agent starts its next local solve. -/
def ownGuess? (e : Ensemble σ α) (id : AgentId) : Option (Vec α) := do
  let c ← e.controllers.lookup id
  let layout ← c.layout
  let p ← (LocalProblem.of c.agent layout).toOption
  let g ← (p.guess c.options.horizonSteps).toOption
  return p.index.ownX.read g.x0

omit [Scalar α] in
omit [FaithfulTransport σ α] in
theorem guesses_of_ownGuess {x : Vec α} (h : ownGuess? e id = some x) :
    ∃ c p g, e.controllers.lookup id = some c ∧ c.Guesses p g ∧ p.index.ownX.read g.x0 = x := by
  obtain ⟨c, hc, h⟩ := Option.bind_eq_some_iff.mp h
  obtain ⟨layout, hlayout, h⟩ := Option.bind_eq_some_iff.mp h
  obtain ⟨p, hp, h⟩ := Option.bind_eq_some_iff.mp h
  obtain ⟨g, hg, h⟩ := Option.bind_eq_some_iff.mp h
  exact ⟨c, p, g, hc, ⟨layout, hlayout, toOption_eq_some.mp hp, toOption_eq_some.mp hg⟩,
    Option.some.inj h⟩

theorem returns_measuredPair : Returns (apply (.setInitial 0 [5])) solvedPair () measuredPair := by
  obtain ⟨_, h⟩ := returns_of_isOk (x := apply (.setInitial 0 [5])) (e := solvedPair)
    (by decide +kernel)
  exact h

/-- The pair solves from a half on. -/
theorem localSolves_startedPair : LocalSolves (1 / 2) measuredPair 1 (startedPair (1 / 2)) := by
  obtain ⟨_, hprepare⟩ := returns_of_isOk (x := prepare (1 / 2)) (e := measuredPair)
    (by decide +kernel)
  obtain ⟨_, hexchange⟩ := returns_of_isOk (x := exchange .setup 0)
    (e := { (exec (prepare (1 / 2)) measuredPair).2 with history := .empty }) (by decide +kernel)
  exact .first (.setup hprepare) hexchange

theorem solvedPair_operated : solvedPair.Operated := (pair_operated 1 (insist 0)).solve 0

/-- The trajectory from 5 at time zero to 1 at time one is at 3 by then. -/
theorem solvedPair_measured_state :
    solvedPair.Operated ∧ solvedPair.solver.KeepsState ∧ ∃ c₀ c p g,
      solvedPair.controllers.lookup 0 = some c₀ ∧
      Record.startOf c₀.agent.agentState.t = c₀.agent.agentState.t0 ∧
      (startedPair (1 / 2)).controllers.lookup 0 = some c ∧ c.Guesses p g ∧
      p.index.ownX.read g.x0 = if c₀.agent.agentState.t0 + Scalar.gridTolerance < 1 / 2 then
        Trajectory.interpolate c₀.agent.agentState.t
          ([5] ++ c₀.agent.agentState.x.drop c₀.agent.nx) c₀.agent.nx (1 / 2)
      else [5] := by
  have hsolver : solvedPair.solver.KeepsState := by
    have hsame : solvedPair.solver = insist 0 := by
      obtain ⟨_, hsolve⟩ := returns_of_isOk (x := solve 0) (e := pair 1 (insist 0)) (by decide +kernel)
      rw [solvedPair, rest_solve (pair_operated 1 (insist 0)) hsolve]
      rfl
    rw [hsame]
    exact insist_keepsState 0
  have haligned : ((solvedPair.controllers.lookup 0).map fun c =>
      decide (Record.startOf c.agent.agentState.t = c.agent.agentState.t0)) = some true := by
    decide +kernel
  obtain ⟨c₀, hc₀, hstart⟩ := Option.map_eq_some_iff.mp haligned
  have hguess : ownGuess? (startedPair (1 / 2)) 0 = some [3] := by decide +kernel
  obtain ⟨c, p, g, hc, hg, -⟩ := guesses_of_ownGuess hguess
  have hmeasured := Operated.measured_state solvedPair_operated hsolver returns_measuredPair
    localSolves_startedPair hc hg
  exact ⟨solvedPair_operated, hsolver, c₀, c, p, g, hc₀, of_decide_eq_true hstart, hc, hg,
    (hmeasured.2 c₀ hc₀ (of_decide_eq_true hstart)).1⟩

/-- A measured state that is lost: the local solve starts at 3, not at 5. -/
theorem startedPair_loses_measured_state :
    solvedPair.Operated ∧ Returns (apply (.setInitial 0 [5])) solvedPair () measuredPair ∧
      LocalSolves (1 / 2) measuredPair 1 (startedPair (1 / 2)) ∧
      ∃ c p g, (startedPair (1 / 2)).controllers.lookup 0 = some c ∧ c.Guesses p g ∧
        p.index.ownX.read g.x0 = [3] := by
  have hguess : ownGuess? (startedPair (1 / 2)) 0 = some [3] := by decide +kernel
  exact ⟨solvedPair_operated, returns_measuredPair, localSolves_startedPair,
    guesses_of_ownGuess hguess⟩

end ConsensusControl.Ensemble
