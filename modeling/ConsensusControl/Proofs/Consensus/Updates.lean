import ConsensusControl.Consensus.Exchange
import ConsensusControl.Consensus.LocalStep
import ConsensusControl.Consensus.Coupling
import ConsensusControl.Consensus.Penalty
import ConsensusControl.Consensus.Sizing
import ConsensusControl.Proofs.Problem.Layout

namespace ConsensusControl

variable {α : Type}

/-- New values go over the front of the old ones, which are at least as many. -/
theorem Vec.overwrite_eq_ok {what : String} {old values new : Vec α}
    (h : Vec.overwrite what old values = .ok new) :
    new = values ++ old.drop values.length ∧ new.length = old.length := by
  unfold overwrite at h
  obtain ⟨⟨⟩, hl, h⟩ := bind_eq_ok.mp h
  have hle := Checked.require_eq_ok.mp hl
  obtain rfl := pure_eq_ok.mp h
  refine ⟨rfl, ?_⟩
  rw [List.length_append, List.length_drop]
  omega

namespace LocalProblem

variable [Scalar α]

/-- What a solution makes of a neighbor: its copy, and the influence that was predicted along it. -/
theorem storeCopy_channels {p : LocalProblem α} {s : LocalSolution α} {t0 : α} {nb nb' : Neighbor α}
    {b : NeighborBlock} (h : p.storeCopy s t0 nb b = .ok nb') :
    ∃ x u v,
      Vec.overwrite "copied states" nb.localCopy.x
        ((p.solutionPoints s).flatMap fun z => b.x.read z.x) = .ok x ∧
      Vec.overwrite "copied controls" nb.localCopy.u
        ((p.solutionPoints s).flatMap fun z => b.u.read z.u) = .ok u ∧
      Vec.overwrite "copied influences" nb.localCopy.v
        ((p.solutionPoints s).flatMap fun z => b.v.read z.u) = .ok v ∧
      nb' = { nb with
        localCopy := { nb.localCopy with t0, t := s.t, x, u, v }
        localInfluence := (p.influenceAlong s nb).getD nb.localInfluence } := by
  unfold storeCopy at h
  obtain ⟨x, hx, h⟩ := bind_eq_ok.mp h
  obtain ⟨u, hu, h⟩ := bind_eq_ok.mp h
  obtain ⟨v, hv, h⟩ := bind_eq_ok.mp h
  exact ⟨x, u, v, hx, hu, hv, (pure_eq_ok.mp h).symm⟩

theorem storeCopy_influence {p : LocalProblem α} {s : LocalSolution α} {t0 : α} {nb nb' : Neighbor α}
    {b : NeighborBlock} (h : p.storeCopy s t0 nb b = .ok nb') :
    ∃ copy, nb' = { nb with
      localCopy := copy
      localInfluence := (p.influenceAlong s nb).getD nb.localInfluence } := by
  obtain ⟨x, u, v, -, -, -, heq⟩ := storeCopy_channels h
  exact ⟨_, heq⟩

theorem storeCopy_eq_ok {p : LocalProblem α} {s : LocalSolution α} {t0 : α} {nb nb' : Neighbor α}
    {b : NeighborBlock} (h : p.storeCopy s t0 nb b = .ok nb') :
    ∃ copy influence, nb' = { nb with localCopy := copy, localInfluence := influence } := by
  obtain ⟨copy, heq⟩ := storeCopy_influence h
  exact ⟨copy, _, heq⟩

/-- A copy takes over the grid of the solution and keeps its lengths. -/
theorem storeCopy_lengths {p : LocalProblem α} {s : LocalSolution α} {t0 : α} {nb nb' : Neighbor α}
    {b : NeighborBlock} (h : p.storeCopy s t0 nb b = .ok nb') :
    nb'.localCopy.t = s.t ∧ nb'.localCopy.x.length = nb.localCopy.x.length ∧
      nb'.localCopy.u.length = nb.localCopy.u.length ∧
      nb'.localCopy.v.length = nb.localCopy.v.length := by
  obtain ⟨x, u, v, hx, hu, hv, rfl⟩ := storeCopy_channels h
  exact ⟨rfl, (Vec.overwrite_eq_ok hx).2, (Vec.overwrite_eq_ok hu).2, (Vec.overwrite_eq_ok hv).2⟩

/-- What a solution makes of the own state. -/
theorem store_state {p : LocalProblem α} {s : LocalSolution α} {a : Agent α} (h : p.store s = .ok a) :
    ∃ x u,
      Vec.overwrite "own states" p.agent.agentState.x
        ((p.solutionPoints s).flatMap fun z => p.index.ownX.read z.x) = .ok x ∧
      Vec.overwrite "own controls" p.agent.agentState.u
        ((p.solutionPoints s).flatMap fun z => p.index.ownU.read z.u) = .ok u ∧
      a.agentState = { p.agent.agentState with
        t0 := s.t.headD p.agent.agentState.t0, t := s.t, x, u } := by
  unfold store at h
  obtain ⟨x, hx, h⟩ := bind_eq_ok.mp h
  obtain ⟨u, hu, h⟩ := bind_eq_ok.mp h
  obtain ⟨neighbors, -, h⟩ := bind_eq_ok.mp h
  obtain rfl := pure_eq_ok.mp h
  exact ⟨x, u, hx, hu, rfl⟩

/-- Every copy is stored from its own block, with the start of the solution. -/
theorem store_pairs {p : LocalProblem α} {s : LocalSolution α} {a : Agent α} (h : p.store s = .ok a) :
    List.Forall₂ (fun (q : Neighbor α × NeighborBlock) nb' =>
      p.storeCopy s (s.t.headD p.agent.agentState.t0) q.1 q.2 = .ok nb') p.pairs a.neighbors := by
  unfold store at h
  obtain ⟨x, -, h⟩ := bind_eq_ok.mp h
  obtain ⟨u, -, h⟩ := bind_eq_ok.mp h
  obtain ⟨neighbors, hneighbors, h⟩ := bind_eq_ok.mp h
  obtain rfl := pure_eq_ok.mp h
  exact mapM_eq_ok.mp hneighbors

theorem store_copies {p : LocalProblem α} {s : LocalSolution α} {a : Agent α}
    (hl : p.agent.neighbors.length = p.index.blocks.length) (h : p.store s = .ok a) :
    List.Forall₂ (fun nb nb' => ∃ b, p.storeCopy s (s.t.headD p.agent.agentState.t0) nb b = .ok nb')
      p.agent.neighbors a.neighbors := by
  refine (forall₂_of_zip (Nat.le_of_eq hl) (store_pairs h)).imp ?_
  intro nb nb' h
  obtain ⟨b, -, hstore⟩ := h
  exact ⟨b, hstore⟩

theorem store_eq_ok {p : LocalProblem α} {s : LocalSolution α} {a : Agent α}
    (hl : p.agent.neighbors.length = p.index.blocks.length) (h : p.store s = .ok a) :
    ∃ state neighbors, a = { p.agent with agentState := state, neighbors } ∧
      List.Forall₂ (fun nb nb' : Neighbor α =>
        ∃ copy influence, nb' = { nb with localCopy := copy, localInfluence := influence })
        p.agent.neighbors neighbors := by
  have hcopies := store_copies hl h
  unfold store at h
  obtain ⟨x, -, h⟩ := bind_eq_ok.mp h
  obtain ⟨u, -, h⟩ := bind_eq_ok.mp h
  obtain ⟨neighbors, -, h⟩ := bind_eq_ok.mp h
  obtain rfl := pure_eq_ok.mp h
  refine ⟨_, neighbors, rfl, hcopies.imp ?_⟩
  intro nb nb' h
  obtain ⟨b, hstore⟩ := h
  exact storeCopy_eq_ok hstore

end LocalProblem

namespace LocalSolution

variable [Scalar α]

/-- One sample for each time of the horizon, and only finite numbers. -/
structure Acceptable (index : IndexMap) (samples : Nat) (s : LocalSolution α) : Prop where
  t : s.t.length = samples
  x : s.x.length = samples * index.nx
  u : s.u.length = samples * index.nu
  cost : Scalar.isFinite s.cost = true
  states : ∀ v ∈ s.x, Scalar.isFinite v = true
  controls : ∀ v ∈ s.u, Scalar.isFinite v = true

theorem checkLength_eq_ok {what : String} {expected actual : Nat} :
    checkLength what expected actual = .ok () ↔ actual = expected := by
  unfold checkLength
  split <;> simp_all

theorem check_eq_ok {s : LocalSolution α} {index : IndexMap} {samples : Nat} :
    s.check index samples = .ok () ↔ s.Acceptable index samples := by
  constructor
  · intro h
    obtain ⟨⟨⟩, ht, h⟩ := bind_eq_ok.mp h
    obtain ⟨⟨⟩, hx, h⟩ := bind_eq_ok.mp h
    obtain ⟨⟨⟩, hu, h⟩ := bind_eq_ok.mp h
    split at h
    · next hfinite =>
      simp only [Bool.and_eq_true, List.all_eq_true] at hfinite
      obtain ⟨⟨hcost, hstates⟩, hcontrols⟩ := hfinite
      exact ⟨checkLength_eq_ok.mp ht, checkLength_eq_ok.mp hx, checkLength_eq_ok.mp hu, hcost, hstates,
        hcontrols⟩
    · cases h
  · rintro ⟨ht, hx, hu, hcost, hstates, hcontrols⟩
    refine bind_eq_ok.mpr ⟨(), checkLength_eq_ok.mpr ht, bind_eq_ok.mpr ⟨(), checkLength_eq_ok.mpr hx,
      bind_eq_ok.mpr ⟨(), checkLength_eq_ok.mpr hu, if_pos ?_⟩⟩⟩
    simp only [Bool.and_eq_true, List.all_eq_true]
    exact ⟨⟨hcost, hstates⟩, hcontrols⟩

end LocalSolution

namespace Controller

variable [Scalar α]

theorem attempt_eq_ok {c : Controller α} {layout : Layout} {s : LocalSolution α} {a : Agent α}
    (h : c.attempt layout = .ok (.ok (s, a))) :
    ∃ p guess, LocalProblem.of c.agent layout = .ok p ∧ p.guess c.options.horizonSteps = .ok guess ∧
      c.solver p.toProblem guess c.options = .ok (.ok s) ∧
      s.check layout.index c.options.horizonSteps = .ok () ∧ p.store s = .ok a := by
  unfold attempt at h
  obtain ⟨p, hp, h⟩ := bind_eq_ok.mp h
  obtain ⟨guess, hguess, h⟩ := bind_eq_ok.mp h
  obtain ⟨answer, hanswer, h⟩ := bind_eq_ok.mp h
  split at h
  · simp [pure, Except.pure] at h
  · split at h
    · simp [pure, Except.pure] at h
    · next s' hcheck =>
      obtain ⟨a', ha', h⟩ := bind_eq_ok.mp h
      simp only [pure, Except.pure, Except.ok.injEq, Prod.mk.injEq] at h
      obtain ⟨rfl, rfl⟩ := h
      exact ⟨p, guess, hp, hguess, hanswer, hcheck, ha'⟩

/-- A local solve writes the prediction: the own state, the copies of the neighbors and the influences
along it. -/
theorem updateAgentStates_eq (c : Controller α) :
    ∃ state neighbors status failures total cost,
      c.updateAgentStates.1 = { c with
        agent := { c.agent with agentState := state, neighbors }
        status
        consecutiveFailures := failures
        totalFailures := total
        lastCost := cost } ∧
      List.Forall₂ (fun nb nb' : Neighbor α =>
        ∃ copy influence, nb' = { nb with localCopy := copy, localInfluence := influence })
        c.agent.neighbors neighbors ∧
      (c.layout = none → status = c.status) ∧
      (c.status ≠ .uninitialized → status ≠ .uninitialized) := by
  have hsame : List.Forall₂ (fun nb nb' : Neighbor α =>
      ∃ copy influence, nb' = { nb with localCopy := copy, localInfluence := influence })
      c.agent.neighbors c.agent.neighbors :=
    List.forall₂_same.mpr fun nb _ => ⟨nb.localCopy, nb.localInfluence, rfl⟩
  unfold updateAgentStates
  split
  · exact ⟨_, _, _, _, _, _, rfl, hsame, fun _ => rfl, fun h => h⟩
  · next layout hlayout =>
    obtain ⟨status, hstatus, hc⟩ : ∃ status, status ≠ Status.uninitialized ∧
        (if c.status = .failed then c else { c with status := .iterating }) = { c with status } := by
      split
      · next hfailed => exact ⟨.failed, by simp, by rw [← hfailed]⟩
      · exact ⟨.iterating, by simp, rfl⟩
    simp only [hc]
    have hnone : c.layout = none → status = c.status := by simp [hlayout]
    split
    · exact ⟨_, _, _, _, _, _, rfl, hsame, hnone, fun _ => hstatus⟩
    · exact ⟨_, _, _, _, _, _, rfl, hsame, hnone, fun _ => hstatus⟩
    · next s a h =>
      obtain ⟨p, -, hp, -, -, -, hstore⟩ := attempt_eq_ok h
      obtain ⟨hids, rfl⟩ := LocalProblem.of_eq_ok hp
      have hl : c.agent.neighbors.length = layout.index.blocks.length := by
        simpa [Agent.neighborIds] using congrArg List.length hids
      obtain ⟨state, neighbors, rfl, hall⟩ := LocalProblem.store_eq_ok hl hstore
      exact ⟨state, neighbors, _, _, _, _, rfl, hall, hnone, fun _ => hstatus⟩

theorem layout_updateAgentStates (c : Controller α) : c.updateAgentStates.1.layout = c.layout := by
  obtain ⟨_, _, _, _, _, _, h, -⟩ := c.updateAgentStates_eq
  rw [h]

/-- The agent stays as it is, or a solve has succeeded. -/
theorem updateAgentStates_cases (c : Controller α) :
    c.updateAgentStates.1.agent = c.agent ∨ ∃ layout s, c.layout = some layout ∧
      c.attempt layout = .ok (.ok (s, c.updateAgentStates.1.agent)) := by
  have hattempt : ∀ layout, (if c.status = .failed then c else { c with status := .iterating }).attempt
      layout = c.attempt layout := by
    intro layout
    split <;> rfl
  have hagent : (if c.status = .failed then c else { c with status := .iterating }).agent = c.agent := by
    split <;> rfl
  unfold updateAgentStates
  split
  · exact .inl rfl
  · next layout hlayout =>
    dsimp only
    rw [hattempt]
    split
    · exact .inl hagent
    · exact .inl hagent
    · next s a h => exact .inr ⟨layout, s, hlayout, h⟩

/-- A local solve reports what became of its attempt. -/
theorem updateAgentStates_result {c : Controller α} {layout : Layout} (h : c.layout = some layout) :
    c.updateAgentStates.2 = (c.attempt layout).map fun answer => answer.map fun _ => () := by
  have hattempt : (if c.status = .failed then c else { c with status := .iterating }).attempt
      layout = c.attempt layout := by
    split <;> rfl
  unfold updateAgentStates
  split
  · next hnone => simp [hnone] at h
  · next l hlayout =>
    obtain rfl : l = layout := Option.some.inj (hlayout.symm.trans h)
    dsimp only
    rw [hattempt]
    cases c.attempt l with
    | error fault => rfl
    | ok answer =>
      cases answer with
      | error e => rfl
      | ok solved => rfl

end Controller

section Coupling

variable [Scalar α]

theorem weightedConsensus_eq_ok {z z' : Vec α} {participants : List (Participant α)} :
    weightedConsensus z participants = .ok z' ↔
      (∀ p ∈ participants, p.covers z.length) ∧
        z' = z.zipIdx.map fun (z, k) => consensusEntry z (participants.filterMap (·.holding? k)) := by
  unfold weightedConsensus
  rw [bind_eq_ok]
  simp only [Checked.require_eq_ok, pure_eq_ok, List.all_eq_true]
  constructor
  · intro h
    obtain ⟨-, hc, rfl⟩ := h
    exact ⟨hc, rfl⟩
  · intro h
    obtain ⟨hc, rfl⟩ := h
    exact ⟨⟨⟩, hc, rfl⟩

theorem length_weightedConsensus {z z' : Vec α} {participants : List (Participant α)}
    (h : weightedConsensus z participants = .ok z') : z'.length = z.length := by
  obtain ⟨-, rfl⟩ := weightedConsensus_eq_ok.mp h
  simp

theorem Neighbor.updateInfluence_eq_ok {nb nb' : Neighbor α} (h : nb.updateInfluence = .ok nb') :
    ∃ v, weightedConsensus nb.influenceCoupling.v nb.influenceParticipants = .ok v ∧
      nb' = { nb with influenceCoupling := { nb.influenceCoupling with v } } := by
  unfold updateInfluence at h
  obtain ⟨v, hv, h⟩ := bind_eq_ok.mp h
  exact ⟨v, hv, (pure_eq_ok.mp h).symm⟩

namespace Controller

theorem updateInfluences_eq_ok {dual dual' : α} {nbs nbs' : List (Neighbor α)}
    {previous previous' : List (CouplingState α)}
    (h : updateInfluences dual nbs previous = .ok (nbs', previous', dual')) :
    List.Forall₂ (fun nb nb' => nb' = nb ∨ nb.updateInfluence = .ok nb') nbs nbs' ∧
      previous'.length = previous.length := by
  induction nbs generalizing dual previous nbs' previous' with
  | nil =>
    simp only [updateInfluences, Except.ok.injEq, Prod.mk.injEq] at h
    obtain ⟨rfl, rfl, rfl⟩ := h
    exact ⟨.nil, rfl⟩
  | cons nb nbs ih =>
    cases previous with
    | nil =>
      simp only [updateInfluences, Except.ok.injEq, Prod.mk.injEq] at h
      obtain ⟨rfl, rfl, rfl⟩ := h
      exact ⟨List.forall₂_same.mpr fun _ _ => .inl rfl, rfl⟩
    | cons old previous =>
      simp only [updateInfluences] at h
      obtain ⟨updated, hupdated, h⟩ := bind_eq_ok.mp h
      obtain ⟨⟨rest, olds, d⟩, hrest, h⟩ := bind_eq_ok.mp h
      simp only [pure, Except.pure, Except.ok.injEq, Prod.mk.injEq] at h
      obtain ⟨rfl, rfl, rfl⟩ := h
      obtain ⟨hall, hlength⟩ := ih hrest
      exact ⟨.cons (.inr hupdated) hall, by simp [hlength]⟩

/-- With a previous influence variable for every neighbor, all are updated. -/
theorem updateInfluences_all {dual dual' : α} {nbs nbs' : List (Neighbor α)}
    {previous previous' : List (CouplingState α)} (hl : previous.length = nbs.length)
    (h : updateInfluences dual nbs previous = .ok (nbs', previous', dual')) :
    List.Forall₂ (fun nb nb' => nb.updateInfluence = .ok nb') nbs nbs' ∧
      previous' = nbs.map (·.influenceCoupling) := by
  induction nbs generalizing dual previous nbs' previous' with
  | nil =>
    obtain rfl : previous = [] := by simpa using hl
    simp only [updateInfluences, Except.ok.injEq, Prod.mk.injEq] at h
    obtain ⟨rfl, rfl, rfl⟩ := h
    exact ⟨.nil, rfl⟩
  | cons nb nbs ih =>
    cases previous with
    | nil => simp at hl
    | cons old previous =>
      simp only [updateInfluences] at h
      obtain ⟨updated, hupdated, h⟩ := bind_eq_ok.mp h
      obtain ⟨⟨rest, olds, d⟩, hrest, h⟩ := bind_eq_ok.mp h
      simp only [pure, Except.pure, Except.ok.injEq, Prod.mk.injEq] at h
      obtain ⟨rfl, rfl, rfl⟩ := h
      obtain ⟨hall, rfl⟩ := ih (by simpa using hl) hrest
      exact ⟨.cons hupdated hall, rfl⟩

theorem updateCouplingStates_eq_ok {c c' : Controller α} (h : c.updateCouplingStates = .ok c') :
    ∃ u neighbors previousInfluences dual,
      weightedConsensus c.agent.couplingState.u c.agent.controlParticipants = .ok u ∧
      updateInfluences (Vec.maxChange u c.agent.couplingState.u) c.agent.neighbors
        c.previousInfluences = .ok (neighbors, previousInfluences, dual) ∧
      c' = { c with
        agent := { c.agent with
          couplingState := { c.agent.couplingState with
            t0 := c.agent.agentState.t0, t := c.agent.agentState.t, x := c.agent.agentState.x, u }
          neighbors }
        previousCoupling := c.agent.couplingState
        previousInfluences
        residuals := { c.residuals with dual := some dual } } := by
  unfold updateCouplingStates at h
  obtain ⟨u, hu, h⟩ := bind_eq_ok.mp h
  obtain ⟨⟨neighbors, previous, dual⟩, hinfluences, h⟩ := bind_eq_ok.mp h
  exact ⟨u, neighbors, previous, dual, hu, hinfluences, (pure_eq_ok.mp h).symm⟩

end Controller

end Coupling

section Multiplier

variable [Scalar α]

theorem dualAscent_eq_ok {mu rho z own mu' : Vec α} {r : α}
    (h : dualAscent mu rho z own = .ok (mu', r)) :
    (mu.length ≤ rho.length ∧ mu.length ≤ z.length ∧ mu.length ≤ own.length) ∧
      mu' = List.zipWith (fun m (p : α × α) => m + p.1 * p.2) mu
        (rho.zip (consensusResidual z own)) ∧
      r = Vec.normInf ((consensusResidual z own).take mu.length) := by
  unfold dualAscent requireEntries at h
  obtain ⟨⟨⟩, hl, h⟩ := bind_eq_ok.mp h
  simp only [pure, Except.pure, Except.ok.injEq, Prod.mk.injEq] at h
  obtain ⟨rfl, rfl⟩ := h
  exact ⟨by simpa using Checked.require_eq_ok.mp hl, rfl, rfl⟩

namespace Neighbor

/-- Raises the prices of the influence on the agent, which a predicted neighbor has. -/
def raiseInfluence (primal : α) (nb : Neighbor α) : Checked (MultiplierState α × α) :=
  if nb.approximated then do
    let (v, r) ← dualAscent nb.influenceMultiplier.v nb.influencePenalty.v nb.influenceCoupling.v
      nb.localInfluence
    return ({ nb.influenceMultiplier with v }, Scalar.max primal r)
  else return (nb.influenceMultiplier, primal)

/-- Raises the prices of the copy of the neighbor. -/
def raiseCopy (primal : α) (nb : Neighbor α) : Checked (MultiplierState α × α) := do
  let (v, rv) ← dualAscent nb.copyMultiplier.v nb.copyPenalty.v nb.externalInfluence.v nb.localCopy.v
  let (u, ru) ← dualAscent nb.copyMultiplier.u nb.copyPenalty.u nb.couplingState.u nb.localCopy.u
  return ({ nb.copyMultiplier with u, v }, Scalar.max (Scalar.max primal rv) ru)

theorem updateMultipliers_eq (primal : α) (nb : Neighbor α) :
    nb.updateMultipliers primal = (do
      let (influence, primal) ← nb.raiseInfluence primal
      let (copy, primal) ← nb.raiseCopy primal
      return ({ nb with influenceMultiplier := influence, copyMultiplier := copy }, primal)) := by
  unfold updateMultipliers raiseInfluence raiseCopy
  split <;> simp only [bind_assoc, pure_bind]

theorem raiseInfluence_eq_ok {primal primal' : α} {nb : Neighbor α} {m : MultiplierState α}
    (h : nb.raiseInfluence primal = .ok (m, primal')) :
    (nb.approximated = true ∧ ∃ w r,
        dualAscent nb.influenceMultiplier.v nb.influencePenalty.v nb.influenceCoupling.v
          nb.localInfluence = .ok (w, r) ∧
        m = { nb.influenceMultiplier with v := w } ∧ primal' = Scalar.max primal r) ∨
      nb.approximated = false ∧ m = nb.influenceMultiplier ∧ primal' = primal := by
  unfold raiseInfluence at h
  split at h
  · next happrox =>
    obtain ⟨⟨w, r⟩, hw, h⟩ := bind_eq_ok.mp h
    simp only [pure, Except.pure, Except.ok.injEq, Prod.mk.injEq] at h
    exact .inl ⟨happrox, w, r, hw, h.1.symm, h.2.symm⟩
  · next happrox =>
    simp only [pure, Except.pure, Except.ok.injEq, Prod.mk.injEq] at h
    exact .inr ⟨by simpa using happrox, h.1.symm, h.2.symm⟩

theorem raiseCopy_eq_ok {primal primal' : α} {nb : Neighbor α} {m : MultiplierState α}
    (h : nb.raiseCopy primal = .ok (m, primal')) :
    ∃ v rv u ru,
      dualAscent nb.copyMultiplier.v nb.copyPenalty.v nb.externalInfluence.v nb.localCopy.v =
        .ok (v, rv) ∧
      dualAscent nb.copyMultiplier.u nb.copyPenalty.u nb.couplingState.u nb.localCopy.u =
        .ok (u, ru) ∧
      m = { nb.copyMultiplier with u, v } ∧ primal' = Scalar.max (Scalar.max primal rv) ru := by
  unfold raiseCopy at h
  obtain ⟨⟨v, rv⟩, hv, h⟩ := bind_eq_ok.mp h
  obtain ⟨⟨u, ru⟩, hu, h⟩ := bind_eq_ok.mp h
  simp only [pure, Except.pure, Except.ok.injEq, Prod.mk.injEq] at h
  exact ⟨v, rv, u, ru, hv, hu, h.1.symm, h.2.symm⟩

theorem updateMultipliers_eq_ok {primal primal' : α} {nb nb' : Neighbor α}
    (h : nb.updateMultipliers primal = .ok (nb', primal')) :
    ∃ influence p copy,
      nb.raiseInfluence primal = .ok (influence, p) ∧ nb.raiseCopy p = .ok (copy, primal') ∧
        nb' = { nb with influenceMultiplier := influence, copyMultiplier := copy } := by
  rw [updateMultipliers_eq] at h
  obtain ⟨⟨influence, p⟩, hinfluence, h⟩ := bind_eq_ok.mp h
  obtain ⟨⟨copy, q⟩, hcopy, h⟩ := bind_eq_ok.mp h
  simp only [pure, Except.pure, Except.ok.injEq, Prod.mk.injEq] at h
  obtain ⟨rfl, rfl⟩ := h
  exact ⟨influence, p, copy, hinfluence, hcopy, rfl⟩

end Neighbor

namespace Controller

theorem updateNeighborMultipliers_eq_ok {primal primal' : α} {nbs nbs' : List (Neighbor α)}
    (h : updateNeighborMultipliers primal nbs = .ok (nbs', primal')) :
    List.Forall₂ (fun nb nb' => ∃ p p', nb.updateMultipliers p = .ok (nb', p')) nbs nbs' := by
  induction nbs generalizing primal nbs' with
  | nil =>
    simp only [updateNeighborMultipliers, Except.ok.injEq, Prod.mk.injEq] at h
    obtain ⟨rfl, -⟩ := h
    exact .nil
  | cons nb nbs ih =>
    simp only [updateNeighborMultipliers] at h
    obtain ⟨⟨updated, p⟩, hupdated, h⟩ := bind_eq_ok.mp h
    obtain ⟨⟨rest, q⟩, hrest, h⟩ := bind_eq_ok.mp h
    simp only [pure, Except.pure, Except.ok.injEq, Prod.mk.injEq] at h
    obtain ⟨rfl, rfl⟩ := h
    exact .cons ⟨primal, p, hupdated⟩ (ih hrest)

theorem updateMultiplierStates_eq_ok {c c' : Controller α} (h : c.updateMultiplierStates = .ok c') :
    ∃ u r neighbors primal,
      dualAscent c.agent.multiplierState.u c.agent.penaltyState.u c.agent.couplingState.u
        c.agent.agentState.u = .ok (u, r) ∧
      updateNeighborMultipliers r c.agent.neighbors = .ok (neighbors, primal) ∧
      c' = { c with
        agent := { c.agent with multiplierState := { c.agent.multiplierState with u }, neighbors }
        residuals := { c.residuals with primal := some primal } } := by
  unfold updateMultiplierStates at h
  obtain ⟨⟨u, r⟩, hu, h⟩ := bind_eq_ok.mp h
  obtain ⟨⟨neighbors, primal⟩, hneighbors, h⟩ := bind_eq_ok.mp h
  exact ⟨u, r, neighbors, primal, hu, hneighbors, (pure_eq_ok.mp h).symm⟩

end Controller

end Multiplier

section Penalty

variable [Scalar α]

namespace Neighbor

/-- Adapts the penalties of the influence on the agent, which a predicted neighbor has. -/
def adaptInfluence (o : Options α) (nb : Neighbor α) (previous : CouplingState α) :
    Checked (Vec α) :=
  if nb.approximated then
    o.adaptEntries nb.influencePenalty.v nb.influenceCoupling.v nb.localInfluence previous.v
  else return nb.influencePenalty.v

theorem adaptPenalties_eq (o : Options α) (nb : Neighbor α) (previous : CouplingState α) :
    nb.adaptPenalties o previous = (do
      let influence ← nb.adaptInfluence o previous
      let v ← o.adaptEntries nb.copyPenalty.v nb.externalInfluence.v nb.localCopy.v
        nb.previousExternalInfluence.v
      let u ← o.adaptEntries nb.copyPenalty.u nb.couplingState.u nb.localCopy.u
        nb.previousCouplingState.u
      return { nb with
        influencePenalty := { nb.influencePenalty with v := influence }
        copyPenalty := { nb.copyPenalty with u, v } }) := by
  unfold adaptPenalties adaptInfluence
  split <;> rfl

theorem adaptPenalties_eq_ok {o : Options α} {nb nb' : Neighbor α} {previous : CouplingState α}
    (h : nb.adaptPenalties o previous = .ok nb') :
    ∃ w v u,
      nb.adaptInfluence o previous = .ok w ∧
      o.adaptEntries nb.copyPenalty.v nb.externalInfluence.v nb.localCopy.v
        nb.previousExternalInfluence.v = .ok v ∧
      o.adaptEntries nb.copyPenalty.u nb.couplingState.u nb.localCopy.u
        nb.previousCouplingState.u = .ok u ∧
      nb' = { nb with
        influencePenalty := { nb.influencePenalty with v := w }
        copyPenalty := { nb.copyPenalty with u, v } } := by
  rw [adaptPenalties_eq] at h
  obtain ⟨w, hw, h⟩ := bind_eq_ok.mp h
  obtain ⟨v, hv, h⟩ := bind_eq_ok.mp h
  obtain ⟨u, hu, h⟩ := bind_eq_ok.mp h
  exact ⟨w, v, u, hw, hv, hu, (pure_eq_ok.mp h).symm⟩

end Neighbor

namespace Controller

theorem adaptNeighborPenalties_eq_ok {o : Options α} {nbs nbs' : List (Neighbor α)}
    {previous : List (CouplingState α)} (h : adaptNeighborPenalties o nbs previous = .ok nbs') :
    List.Forall₂ (fun nb nb' => nb' = nb ∨ ∃ old, nb.adaptPenalties o old = .ok nb') nbs nbs' := by
  induction nbs generalizing previous nbs' with
  | nil =>
    simp only [adaptNeighborPenalties, Except.ok.injEq] at h
    exact h ▸ .nil
  | cons nb nbs ih =>
    cases previous with
    | nil =>
      simp only [adaptNeighborPenalties, Except.ok.injEq] at h
      exact h ▸ List.forall₂_same.mpr fun _ _ => .inl rfl
    | cons old previous =>
      simp only [adaptNeighborPenalties] at h
      obtain ⟨updated, hupdated, h⟩ := bind_eq_ok.mp h
      obtain ⟨rest, hrest, h⟩ := bind_eq_ok.mp h
      exact pure_eq_ok.mp h ▸ .cons (.inr ⟨old, hupdated⟩) (ih hrest)

theorem adaptPenalties_eq_ok {c c' : Controller α} (h : c.adaptPenalties = .ok c') :
    c' = c ∨ ∃ u neighbors,
      c.options.adaptEntries c.agent.penaltyState.u c.agent.couplingState.u c.agent.agentState.u
        c.previousCoupling.u = .ok u ∧
      adaptNeighborPenalties c.options c.agent.neighbors c.previousInfluences = .ok neighbors ∧
      c' = { c with
        agent := { c.agent with penaltyState := { c.agent.penaltyState with u }, neighbors } } := by
  unfold adaptPenalties at h
  split at h
  · obtain ⟨u, hu, h⟩ := bind_eq_ok.mp h
    obtain ⟨neighbors, hneighbors, h⟩ := bind_eq_ok.mp h
    exact .inr ⟨u, neighbors, hu, hneighbors, (pure_eq_ok.mp h).symm⟩
  · exact .inl (pure_eq_ok.mp h).symm

end Controller

end Penalty

namespace Controller

variable [Scalar α]

theorem finishIteration_eq (c : Controller α) : ∃ status, status ≠ .uninitialized ∧
    c.finishIteration = { c with iteration := c.iteration + 1, status } := by
  unfold finishIteration
  dsimp only
  split
  · next hfailed =>
    refine ⟨.failed, by simp, ?_⟩
    rw [← hfailed]
  · refine ⟨_, ?_, rfl⟩
    split <;> simp

omit [Scalar α] in
theorem setInitialState_eq_ok {c c' : Controller α} {x : Vec α} (h : c.setInitialState x = .ok c') :
    x.length = c.agent.nx ∧ c' = { c with agent := { c.agent with agentState :=
      { c.agent.agentState with x := x ++ c.agent.agentState.x.drop c.agent.nx } } } := by
  unfold setInitialState at h
  dsimp only at h
  split at h
  · next hlength => exact ⟨hlength, (Except.ok.inj h).symm⟩
  · simp at h

/-- The controller with the approximation that its options ask for. -/
def approximating (c : Controller α) : Controller α :=
  { c with agent := { c.agent with approximation := c.options.approximation } }

/-- The controller with all records sized for the layout. -/
def laidOut (c : Controller α) (layout : Layout) : Controller α :=
  beginSolve { resetPrevious { c with agent := c.agent.prepare c.grid c.options.penaltyInit } with
    layout := some layout }

/-- A preparation is refused for the options, or for the neighbors, or sizes all records. -/
theorem prepare_cases (c : Controller α) :
    (∃ e, c.prepare = (c, .error e)) ∨
    c.options.validate = .ok () ∧ ((∃ e, c.prepare = (c.approximating, .error e)) ∨
      ∃ layout, c.approximating.agent.layout = .ok layout ∧
        c.prepare = (c.approximating.laidOut layout, .ok ())) := by
  unfold prepare
  split
  · next e _ => exact .inl ⟨e, rfl⟩
  · next hvalid =>
    refine .inr ⟨hvalid, ?_⟩
    dsimp only
    split
    · next e _ => exact .inl ⟨e, rfl⟩
    · next layout hlayout => exact .inr ⟨layout, hlayout, rfl⟩

/-- A preparation that succeeds has sized all records. -/
theorem laidOut_of_prepare {c : Controller α} (h : c.prepare.2 = .ok ()) :
    c.options.validate = .ok () ∧ ∃ layout, c.approximating.agent.layout = .ok layout ∧
      c.prepare.1 = c.approximating.laidOut layout := by
  obtain ⟨_, heq⟩ | ⟨hvalid, ⟨_, heq⟩ | ⟨layout, hlayout, heq⟩⟩ := c.prepare_cases
  · simp [heq] at h
  · simp [heq] at h
  · exact ⟨hvalid, layout, hlayout, congrArg Prod.fst heq⟩

/-- A horizon that moves takes the samples along, as far as that goes, or the grids alone. -/
theorem shiftHorizon_cases (dt : α) (c : Controller α) :
    (∃ fault, c.shiftHorizon dt = ({ c with agent := (c.agent.shift dt).1 }, .error fault)) ∨
    c.shiftHorizon dt = (beginSolve { c with
      agent := (c.agent.shift dt).1
      previousCoupling := c.previousCoupling.shift dt
      previousInfluences := c.previousInfluences.map (·.shift dt) }, .ok ()) ∨
    c.shiftHorizon dt = (beginSolve (resetPrevious { c with agent := c.agent.retime dt }), .ok ()) := by
  unfold shiftHorizon
  split
  · split
    · next agent fault hshift =>
      rw [hshift]
      exact .inl ⟨fault, rfl⟩
    · next agent hshift =>
      rw [hshift]
      exact .inr (.inl rfl)
  · exact .inr (.inr rfl)

end Controller

end ConsensusControl
