import ConsensusControl.Proofs.Ensemble.Reachable
import ConsensusControl.Proofs.Ensemble.Routine

namespace ConsensusControl.Ensemble

variable {σ α : Type} [Scalar α] {n : Nat} {e : Ensemble σ α} {id : AgentId} {c : Controller α}
  {answers answers' : Table (Except SolveError Unit)}

omit [Scalar α] in
/-- The agent has failed, and too often in a row. -/
structure Offends (e : Ensemble σ α) (answers : Table (Except SolveError Unit)) (id : AgentId)
    (c : Controller α) : Prop where
  failed : ∃ s, (id, .error s) ∈ answers
  controller : e.controllers.lookup id = some c
  exceeded : e.options.maxSolveFailures < c.consecutiveFailures

/-- The first of those that have answered to offend. -/
structure FirstOffends (e : Ensemble σ α) (answers : Table (Except SolveError Unit)) (id : AgentId)
    (c : Controller α) : Prop extends Offends e answers id c where
  first : ∃ before s after, answers = before ++ (id, .error s) :: after ∧
    ∀ k d, ¬ e.Offends before k d

/-- Where the solve ends that has given up on an agent. -/
def giveUp (e : Ensemble σ α) (id : AgentId) (c : Controller α) : Ensemble σ α :=
  stored { e with controllers := Table.insert id c.markFailed e.controllers }

/-- What it reports. -/
def exceeding (n : Nat) (id : AgentId) (c : Controller α) : Stop :=
  .error (.failuresExceeded ⟨id, n, .agentStates⟩ c.consecutiveFailures)

omit [Scalar α] in
theorem Offends.mono {l l' : Table (Except SolveError Unit)} (h : e.Offends l id c) (hsub : l ⊆ l') :
    e.Offends l' id c := by
  obtain ⟨s, hs⟩ := h.failed
  exact ⟨⟨s, hsub hs⟩, h.controller, h.exceeded⟩

/-- One answer is let pass, or the solve gives up. -/
theorem exec_escalate_cases (n : Nat) (e : Ensemble σ α) (answer : AgentId × Except SolveError Unit) :
    (∀ k d, ¬ e.Offends [answer] k d) ∧ exec (escalate n answer) e = (.ok (), e) ∨
      ∃ s c, answer.2 = .error s ∧ e.Offends [answer] answer.1 c ∧
        exec (escalate n answer) e = (.error (exceeding n answer.1 c), e.giveUp answer.1 c) := by
  obtain ⟨id, r⟩ := answer
  cases r with
  | ok u =>
    refine .inl ⟨fun k d h => ?_, rfl⟩
    obtain ⟨s, hs⟩ := h.failed
    simp at hs
  | error s =>
    have hsame : ∀ {k : AgentId} {d : Controller α}, e.Offends [(id, .error s)] k d → k = id := by
      intro k d h
      obtain ⟨s', hs'⟩ := h.failed
      exact (Prod.mk.inj (List.mem_singleton.mp hs')).1
    cases hc : e.controllers.lookup id with
    | none =>
      refine .inl ⟨fun k d h => ?_, ?_⟩
      · have hlookup := h.controller
        rw [hsame h, hc] at hlookup
        cases hlookup
      · simp only [escalate, exec_bind, exec_get, hc]
        rfl
    | some c =>
      by_cases hexceeded : e.options.maxSolveFailures < c.consecutiveFailures
      · refine .inr ⟨s, c, rfl, ⟨⟨s, List.mem_singleton_self _⟩, hc, hexceeded⟩, ?_⟩
        simp only [escalate, exec_bind, exec_get, hc, if_pos hexceeded]
        rfl
      · refine .inl ⟨fun k d h => ?_, ?_⟩
        · have hlookup := h.controller
          rw [hsame h, hc] at hlookup
          obtain rfl := Option.some.inj hlookup
          exact hexceeded h.exceeded
        · simp only [escalate, exec_bind, exec_get, hc, if_neg hexceeded]
          rfl

/-- All answers are let pass, or the solve gives up on the first that offends. -/
theorem exec_forM_escalate_cases (n : Nat) (e : Ensemble σ α)
    (answers : Table (Except SolveError Unit)) :
    (∀ id c, ¬ e.Offends answers id c) ∧ exec (answers.forM (escalate n)) e = (.ok (), e) ∨
      ∃ id c, e.FirstOffends answers id c ∧
        exec (answers.forM (escalate n)) e = (.error (exceeding n id c), e.giveUp id c) := by
  induction answers with
  | nil => exact .inl ⟨fun id c h => by simpa using h.failed, rfl⟩
  | cons answer answers ih =>
    have hforM : exec ((answer :: answers).forM (escalate n)) e =
        exec (escalate n answer >>= fun _ => answers.forM (escalate n)) e := rfl
    rw [hforM, exec_bind]
    rcases exec_escalate_cases n e answer with ⟨hnone, hpass⟩ | ⟨s, c, hs, hoffends, hstop⟩
    · rw [hpass]
      rcases ih with ⟨hrest, hexec⟩ | ⟨id, c, hoffends, hexec⟩
      · refine .inl ⟨fun id c h => ?_, hexec⟩
        obtain ⟨s, hs⟩ := h.failed
        rcases List.mem_cons.mp hs with hs | hs
        · exact hnone id c ⟨⟨s, hs ▸ List.mem_singleton_self _⟩, h.controller, h.exceeded⟩
        · exact hrest id c ⟨⟨s, hs⟩, h.controller, h.exceeded⟩
      · obtain ⟨before, s, after, rfl, hbefore⟩ := hoffends.first
        refine .inr ⟨id, c, ⟨hoffends.toOffends.mono (List.subset_cons_self _ _),
          answer :: before, s, after, rfl, fun k d h => ?_⟩, hexec⟩
        obtain ⟨t, ht⟩ := h.failed
        rcases List.mem_cons.mp ht with ht | ht
        · exact hnone k d ⟨⟨t, ht ▸ List.mem_singleton_self _⟩, h.controller, h.exceeded⟩
        · exact hbefore k d ⟨⟨t, ht⟩, h.controller, h.exceeded⟩
    · rw [hstop]
      refine .inr ⟨answer.1, c, ⟨hoffends.mono (by simp), [], s, answers, ?_, fun k d h => ?_⟩, rfl⟩
      · rw [← hs]
        rfl
      · simpa using h.failed

/-- A solve that does not give up goes on as it was, and nobody offends. -/
theorem returns_forM_escalate {u : Unit} {e' : Ensemble σ α}
    (h : Returns (answers.forM (escalate n)) e u e') :
    e' = e ∧ ∀ id c, ¬ e.Offends answers id c := by
  unfold Returns at h
  rcases exec_forM_escalate_cases n e answers with ⟨hnone, hpass⟩ | ⟨id, c, -, hstop⟩
  · rw [hpass] at h
    exact ⟨(Prod.mk.inj h).2.symm, hnone⟩
  · rw [hstop] at h
    cases (Prod.mk.inj h).1

/-- The solve has given up on one agent. This one is marked and its count is reported. What is kept of
all others is as it would be anyway. -/
structure GaveUp (n : Nat) (id : AgentId) (c : Controller α) (e : Ensemble σ α)
    (r : Except Stop Unit × Ensemble σ α) : Prop where
  error : r.1 = .error (exceeding n id c)
  rest : r.2 = { e with controllers := r.2.controllers, solutions := r.2.solutions }
  failed : r.2.controllers.lookup id = some c.markFailed
  reported : r.2.solutions.lookup id = some (c.markFailed.solution (e.solutions.lookup id))
  others : ∀ k, k ≠ id → r.2.controllers.lookup k = e.controllers.lookup k ∧
    r.2.solutions.lookup k = e.stored.solutions.lookup k

theorem lookup_giveUp (hc : Table.Sorted e.controllers) (hs : Table.Sorted e.solutions) (k : AgentId) :
    (e.giveUp id c).solutions.lookup k =
      (((Table.insert id c.markFailed e.controllers).lookup k).map fun d =>
        d.solution (e.solutions.lookup k)).or (e.solutions.lookup k) := by
  have hsorted : Table.Sorted
      { e with controllers := Table.insert id c.markFailed e.controllers }.controllers :=
    hc.insert id c.markFailed
  exact lookup_stored hsorted hs k

theorem gaveUp (hc : Table.Sorted e.controllers) (hs : Table.Sorted e.solutions) :
    GaveUp n id c e (.error (exceeding n id c), e.giveUp id c) where
  error := rfl
  rest := rfl
  failed := Table.lookup_insert id c.markFailed e.controllers
  reported := by
    dsimp only
    rw [lookup_giveUp hc hs, Table.lookup_insert]
    rfl
  others k hk := by
    have hlookup := Table.lookup_insert_ne hk c.markFailed e.controllers
    refine ⟨hlookup, ?_⟩
    dsimp only
    rw [lookup_giveUp hc hs, lookup_stored hc hs, hlookup]

/-- Whether a solve gives up does not depend on the order in which the agents have answered. On which
agent it does depends on who of the offenders has been first. If only one offends, nothing depends on
the order. -/
theorem escalation_permuted (n : Nat) (hc : Table.Sorted e.controllers)
    (hs : Table.Sorted e.solutions) (h : answers.Perm answers') :
    (∀ id c, ¬ e.Offends answers id c) ∧ exec (answers.forM (escalate n)) e = (.ok (), e) ∧
        exec (answers'.forM (escalate n)) e = (.ok (), e) ∨
      ∃ i c j d, e.FirstOffends answers i c ∧ e.FirstOffends answers' j d ∧
        GaveUp n i c e (exec (answers.forM (escalate n)) e) ∧
        GaveUp n j d e (exec (answers'.forM (escalate n)) e) ∧
        ((∀ k b, e.Offends answers k b → k = i) →
          exec (answers.forM (escalate n)) e = exec (answers'.forM (escalate n)) e) := by
  rcases exec_forM_escalate_cases n e answers with ⟨hnone, hpass⟩ | ⟨i, c, hfirst, hstop⟩
  · rcases exec_forM_escalate_cases n e answers' with ⟨-, hpass'⟩ | ⟨j, d, hfirst', -⟩
    · exact .inl ⟨hnone, hpass, hpass'⟩
    · exact absurd (hfirst'.toOffends.mono h.symm.subset) (hnone j d)
  · rcases exec_forM_escalate_cases n e answers' with ⟨hnone', -⟩ | ⟨j, d, hfirst', hstop'⟩
    · exact absurd (hfirst.toOffends.mono h.subset) (hnone' i c)
    · rw [hstop, hstop']
      refine .inr ⟨i, c, j, d, hfirst, hfirst', gaveUp hc hs, gaveUp hc hs, fun hone => ?_⟩
      obtain rfl := hone j d (hfirst'.toOffends.mono h.symm.subset)
      obtain rfl : c = d := Option.some.inj (hfirst.controller.symm.trans hfirst'.controller)
      rfl

/-- Two agents on their own, of which no failure is tolerated. -/
def strictPair (solver : LocalSolver Rat) : Ensemble (Direct Rat) Rat :=
  applyAll [.registerAgent 0 decaying.toModel [1] [0], .registerAgent 1 decaying.toModel [1] [0]]
    (.new { (Options.default : Options Rat) with horizonSteps := 2, maxSolveFailures := 0 } solver
      .empty)

/-- Cannot solve anything. -/
def refuse : LocalSolver Rat := fun _ _ _ => .ok (.error (.numericalFailure "refused"))

/-- The first local solves. -/
def firstSolves [Transport σ α] (t0 : α) : Run σ α (Table (Except SolveError Unit)) := do
  prepare t0
  modify ({ · with history := .empty })
  exchange .setup 0
  inParallel (·.updateAgentStates)

/-- Two agents that have both failed once. -/
def refusedPair : Ensemble (Direct Rat) Rat := (exec (firstSolves 0) (strictPair refuse)).2

def refusals : Table (Except SolveError Unit) :=
  [(0, .error (.numericalFailure "refused")), (1, .error (.numericalFailure "refused"))]

theorem returns_refusals : Returns (firstSolves 0) (strictPair refuse) refusals refusedPair :=
  Prod.ext (by decide +kernel) rfl

/-- Whichever of the two has answered first is given up on. -/
theorem refusedPair_given_up : Table.Sorted refusedPair.controllers ∧
    Table.Sorted refusedPair.solutions ∧ refusals.Perm refusals.reverse ∧
    ∃ i c j d, refusedPair.FirstOffends refusals i c ∧
      refusedPair.FirstOffends refusals.reverse j d ∧
      GaveUp 1 i c refusedPair (exec (refusals.forM (escalate 1)) refusedPair) ∧
      GaveUp 1 j d refusedPair (exec (refusals.reverse.forM (escalate 1)) refusedPair) := by
  have hc : Table.Sorted refusedPair.controllers := by
    unfold Table.Sorted
    decide +kernel
  have hs : Table.Sorted refusedPair.solutions := by
    unfold Table.Sorted
    decide +kernel
  have hperm : refusals.Perm refusals.reverse := (List.reverse_perm refusals).symm
  have hstop : (exec (refusals.forM (escalate 1)) refusedPair).1.isOk = false := by decide +kernel
  refine ⟨hc, hs, hperm, ?_⟩
  rcases escalation_permuted 1 hc hs hperm with ⟨-, hpass, -⟩ | ⟨i, c, j, d, hi, hj, hgave, hgave', -⟩
  · rw [hpass] at hstop
    cases hstop
  · exact ⟨i, c, j, d, hi, hj, hgave, hgave'⟩

/-- Both agents offend, and who is named and marked depends on the order. -/
theorem refusedPair_order_matters :
    Returns (firstSolves 0) (strictPair refuse) refusals refusedPair ∧
      refusals.Perm refusals.reverse ∧
      (exec (refusals.forM (escalate 1)) refusedPair).1 =
        .error (.error (.failuresExceeded ⟨0, 1, .agentStates⟩ 1)) ∧
      (exec (refusals.reverse.forM (escalate 1)) refusedPair).1 =
        .error (.error (.failuresExceeded ⟨1, 1, .agentStates⟩ 1)) ∧
      ((exec (refusals.forM (escalate 1)) refusedPair).2.controllers.map (·.2.status)) =
        [.failed, .iterating] ∧
      ((exec (refusals.reverse.forM (escalate 1)) refusedPair).2.controllers.map (·.2.status)) =
        [.iterating, .failed] ∧
      ((exec (refusals.forM (escalate 1)) refusedPair).2.solutions.map (·.2.outcome)) =
        [.failed, .maxIterations] ∧
      ((exec (refusals.reverse.forM (escalate 1)) refusedPair).2.solutions.map (·.2.outcome)) =
        [.maxIterations, .failed] :=
  ⟨returns_refusals, (List.reverse_perm refusals).symm, by decide +kernel, by decide +kernel,
    by decide +kernel, by decide +kernel, by decide +kernel, by decide +kernel⟩

end ConsensusControl.Ensemble
