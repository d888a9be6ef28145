import ConsensusControl.Proofs.Consensus.Guess
import ConsensusControl.Proofs.Consensus.ConvergenceTest

namespace ConsensusControl

variable {α : Type} [Scalar α]

namespace Controller

variable {c c₀ : Controller α} {layout : Layout}

/-- A local solve of a prepared controller is decided by what the solver answers. -/
theorem Operable.attempt_cases (hc : c.Operable) (hlayout : c.layout = some layout) {guess : Guess α}
    (hguess : c.Guesses ⟨c.agent, layout⟩ guess) {answer : Except SolveError (LocalSolution α)}
    (hanswer : c.solver (⟨c.agent, layout⟩ : LocalProblem α).toProblem guess c.options = .ok answer) :
    (∃ e, c.attempt layout = .ok (.error e) ∧ ((∃ e, answer = .error e) ∨
        ∃ s, answer = .ok s ∧ ¬ s.Acceptable layout.index c.options.horizonSteps)) ∨
      ∃ s agent, answer = .ok s ∧ s.Acceptable layout.index c.options.horizonSteps ∧
        (⟨c.agent, layout⟩ : LocalProblem α).store s = .ok agent ∧
        c.attempt layout = .ok (.ok (s, agent)) := by
  obtain ⟨hof, hstocked⟩ := hc.of_problem hlayout
  obtain ⟨_, hsome, -, hstart⟩ := hguess
  obtain rfl := Option.some.inj (hlayout.symm.trans hsome)
  cases answer with
  | error e =>
    have hattempt : c.attempt layout = .ok (.error e) :=
      bind_eq_ok.mpr ⟨_, hof, bind_eq_ok.mpr ⟨guess, hstart, bind_eq_ok.mpr ⟨_, hanswer, rfl⟩⟩⟩
    exact .inl ⟨e, hattempt, .inl ⟨e, rfl⟩⟩
  | ok s =>
    cases hcheck : s.check layout.index c.options.horizonSteps with
    | error e =>
      have hrejected : ¬ s.Acceptable layout.index c.options.horizonSteps := by
        intro hacceptable
        rw [LocalSolution.check_eq_ok.mpr hacceptable] at hcheck
        cases hcheck
      refine .inl ⟨e, bind_eq_ok.mpr ⟨_, hof, bind_eq_ok.mpr ⟨guess, hstart,
        bind_eq_ok.mpr ⟨_, hanswer, ?_⟩⟩⟩, .inr ⟨s, rfl, hrejected⟩⟩
      simp only [hcheck]
      rfl
    | ok =>
      have hacceptable := LocalSolution.check_eq_ok.mp hcheck
      obtain ⟨agent, hstore⟩ := hstocked.store hacceptable.t
      refine .inr ⟨s, agent, rfl, hacceptable, hstore, bind_eq_ok.mpr ⟨_, hof, bind_eq_ok.mpr ⟨guess, hstart,
        bind_eq_ok.mpr ⟨_, hanswer, ?_⟩⟩⟩⟩
      simp only [hcheck]
      exact bind_eq_ok.mpr ⟨agent, hstore, rfl⟩

omit [Scalar α] in
theorem begun_eq (c : Controller α) :
    (if c.status = .failed then c else { c with status := .iterating }) =
      { c with status := if c.status = .failed then .failed else .iterating } := by
  split
  · next hfailed => rw [← hfailed]
  · rfl

theorem updateAgentStates_of_error (hlayout : c.layout = some layout) {e : SolveError}
    (h : c.attempt layout = .ok (.error e)) :
    c.updateAgentStates = ({ c with
      status := if c.status = .failed then .failed else .iterating
      consecutiveFailures := c.consecutiveFailures + 1
      totalFailures := c.totalFailures + 1 }, .ok (.error e)) := by
  have hattempt : ({ c with status := if c.status = .failed then .failed else .iterating } :
      Controller α).attempt layout = .ok (.error e) := h
  unfold updateAgentStates
  split
  · next hnone => simp [hnone] at hlayout
  · next l hl =>
    obtain rfl : l = layout := Option.some.inj (hl.symm.trans hlayout)
    dsimp only
    rw [begun_eq, hattempt]

theorem updateAgentStates_of_ok (hlayout : c.layout = some layout) {s : LocalSolution α}
    {agent : Agent α} (h : c.attempt layout = .ok (.ok (s, agent))) :
    c.updateAgentStates = ({ c with
      agent
      status := if c.status = .failed then .failed else .iterating
      consecutiveFailures := 0
      lastCost := some s.cost }, .ok (.ok ())) := by
  have hattempt : ({ c with status := if c.status = .failed then .failed else .iterating } :
      Controller α).attempt layout = .ok (.ok (s, agent)) := h
  unfold updateAgentStates
  split
  · next hnone => simp [hnone] at hlayout
  · next l hl =>
    obtain rfl : l = layout := Option.some.inj (hl.symm.trans hlayout)
    dsimp only
    rw [begun_eq, hattempt]

/-- A local solve fails if and only if the solver does or its solution cannot be accepted. A failure leaves
nothing but its count, a success nothing but a prediction. -/
theorem updateAgentStates_atomic (hle : ∀ a b d : α, a ≤ b → b ≤ d → a ≤ d)
    (hcouplings : ∀ nb ∈ c₀.agent.neighbors, ∀ f, nb.relation.sending = some f →
      f.dynamics.KeepsLength)
    (h : c₀.prepare.2 = .ok ()) {ops : List (Operation α)} (hops : c₀.prepare.1.performAll ops = .ok c) :
    ∃ layout guess, c.layout = some layout ∧ c.Guesses ⟨c.agent, layout⟩ guess ∧
      ∀ answer, c.solver (⟨c.agent, layout⟩ : LocalProblem α).toProblem guess c.options = .ok answer →
        ∃ result, c.updateAgentStates.2 = .ok result ∧
          ((∃ e, result = .error e) ↔ (∃ e, answer = .error e) ∨
            ∃ s, answer = .ok s ∧ ¬ s.Acceptable layout.index c.options.horizonSteps) ∧
          ((∃ e, result = .error e) → c.updateAgentStates.1 = { c with
            status := if c.status = .failed then .failed else .iterating
            consecutiveFailures := c.consecutiveFailures + 1
            totalFailures := c.totalFailures + 1 }) ∧
          (result = .ok () → ∃ s state neighbors, answer = .ok s ∧
            c.updateAgentStates.1 = { c with
              agent := { c.agent with agentState := state, neighbors }
              status := if c.status = .failed then .failed else .iterating
              consecutiveFailures := 0
              lastCost := some s.cost } ∧
            List.Forall₂ (fun nb nb' : Neighbor α =>
              ∃ copy influence, nb' = { nb with localCopy := copy, localInfluence := influence })
              c.agent.neighbors neighbors) := by
  have hc : c.Operable := (operable_of_prepare hcouplings h).of_performAll hle hops
  obtain ⟨layout, hlayout, -⟩ := hc.layout
  obtain ⟨hof, hstocked⟩ := hc.of_problem hlayout
  have hsamples : 2 ≤ c.options.horizonSteps := Options.samples_of_valid hc.valid
  obtain ⟨guess, hstart⟩ := hstocked.guess (by omega)
  have hguess : c.Guesses ⟨c.agent, layout⟩ guess := ⟨layout, hlayout, hof, hstart⟩
  refine ⟨layout, guess, hlayout, hguess, fun answer hanswer => ?_⟩
  rcases hc.attempt_cases hlayout hguess hanswer with
    ⟨e, hattempt, hreason⟩ | ⟨s, agent, rfl, hacceptable, hstore, hattempt⟩
  · rw [updateAgentStates_of_error hlayout hattempt]
    refine ⟨.error e, rfl, iff_of_true ⟨e, rfl⟩ hreason, fun _ => rfl, fun hok => ?_⟩
    cases hok
  · rw [updateAgentStates_of_ok hlayout hattempt]
    obtain ⟨state, neighbors, rfl, hneighbors⟩ :=
      LocalProblem.store_eq_ok hstocked.indexed.length_blocks hstore
    refine ⟨.ok (), rfl, iff_of_false ?_ ?_, ?_, fun _ => ⟨s, state, neighbors, rfl, rfl, hneighbors⟩⟩
    · rintro ⟨e, he⟩
      cases he
    · rintro (⟨e, he⟩ | ⟨s', hs', hrejected⟩)
      · cases he
      · obtain rfl := Except.ok.inj hs'
        exact hrejected hacceptable
    · rintro ⟨e, he⟩
      cases he

theorem leakingAgent_couplings : ∀ nb ∈ leakingAgent.agent.neighbors, ∀ f,
    nb.relation.sending = some f → f.dynamics.KeepsLength := by
  intro nb hnb f hf
  obtain rfl := List.mem_singleton.mp hnb
  obtain rfl := Option.some.inj hf
  exact leak.keepsLength

open ExtendedRat in
/-- A solver that finds no number for one of the neighbor's states, and one that finds a number for each. -/
theorem leakingAgent_atomic :
    let found (v : ExtendedRat) : LocalSolution ExtendedRat :=
      ⟨[0, 1], [1, 1, v, 1], [0, 0, 0, 0, 0, 0], finite 3, 1, true⟩
    let answering (v : ExtendedRat) : Controller ExtendedRat :=
      { leakingAgent with solver := fun _ _ _ => .ok (.ok (found v)) }
    ∃ stuck solved, (answering nan).prepare = (stuck, .ok ()) ∧ (answering 0).prepare = (solved, .ok ()) ∧
      (∃ e, stuck.updateAgentStates.2 = .ok (.error e)) ∧
      stuck.updateAgentStates.1 =
        { stuck with status := .iterating, consecutiveFailures := 1, totalFailures := 1 } ∧
      solved.updateAgentStates.2 = .ok (.ok ()) ∧
      solved.updateAgentStates.1.lastCost = some (finite 3) := by
  intro found answering
  have hle : ∀ a b d : ExtendedRat, a ≤ b → b ≤ d → a ≤ d := fun _ _ _ => ExtendedRat.le_trans
  have hnan : (answering nan).prepare.2 = .ok () := by decide +kernel
  have hzero : (answering 0).prepare.2 = .ok () := by decide +kernel
  refine ⟨_, _, Prod.ext rfl hnan, Prod.ext rfl hzero, ?_⟩
  have hcouplings : ∀ v, ∀ nb ∈ (answering v).agent.neighbors, ∀ f, nb.relation.sending = some f →
      f.dynamics.KeepsLength := fun _ => leakingAgent_couplings
  have hops : ∀ v, (answering v).prepare.1.performAll [] = .ok (answering v).prepare.1 := fun _ => rfl
  obtain ⟨layout, guess, -, -, hstuck⟩ := updateAgentStates_atomic hle (hcouplings nan) hnan (hops nan)
  obtain ⟨result, hresult, hfails, hfailed, -⟩ := hstuck (.ok (found nan)) <| by
    rw [(Act.prepare (answering nan)).solver]
  obtain ⟨e, rfl⟩ : ∃ e, result = .error e := by
    refine hfails.mpr (.inr ⟨_, rfl, fun hacceptable => ?_⟩)
    exact Bool.false_ne_true (hacceptable.states nan (by simp [found]))
  have hcounts : ((answering nan).prepare.1.status, (answering nan).prepare.1.consecutiveFailures,
      (answering nan).prepare.1.totalFailures) = (.ready, 0, 0) := by decide +kernel
  obtain ⟨hstatus, hconsecutive, htotal⟩ : _ ∧ _ ∧ _ := by simpa using hcounts
  have hkept := hfailed ⟨e, rfl⟩
  rw [hstatus, hconsecutive, htotal] at hkept
  obtain ⟨layout', guess', hlayout', -, hsolved⟩ :=
    updateAgentStates_atomic hle (hcouplings 0) hzero (hops 0)
  obtain ⟨result', hresult', hfails', -, hstored⟩ := hsolved (.ok (found 0)) <| by
    rw [(Act.prepare (answering 0)).solver]
  have hsizes : layout'.index.nx = 2 ∧ layout'.index.nu = 3 := by
    have hprepared : (answering 0).prepare.1.layout.map (fun l => (l.index.nx, l.index.nu)) =
        some (2, 3) := by decide +kernel
    rw [hlayout'] at hprepared
    simpa using hprepared
  have hhorizon : (answering 0).prepare.1.options.horizonSteps = 2 := by decide +kernel
  have hacceptable : (found 0).Acceptable layout'.index (answering 0).prepare.1.options.horizonSteps := by
    rw [hhorizon]
    refine ⟨rfl, ?_, ?_, rfl, by decide, by decide⟩
    · rw [hsizes.1]
      rfl
    · rw [hsizes.2]
      rfl
  obtain rfl : result' = .ok () := by
    cases result' with
    | ok => rfl
    | error e =>
      rcases hfails'.mp ⟨e, rfl⟩ with ⟨e', he'⟩ | ⟨s, hs, hrejected⟩
      · cases he'
      · obtain rfl := Except.ok.inj hs
        exact absurd hacceptable hrejected
  obtain ⟨s, state, neighbors, hs, hnew, -⟩ := hstored rfl
  obtain rfl := Except.ok.inj hs
  refine ⟨⟨e, hresult⟩, hkept, hresult', ?_⟩
  rw [hnew]

end Controller

end ConsensusControl
