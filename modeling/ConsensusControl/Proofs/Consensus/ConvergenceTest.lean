import ConsensusControl.Proofs.Consensus.Operations
import ConsensusControl.Proofs.Consensus.Residuals
import ConsensusControl.Proofs.ExtendedRat

namespace ConsensusControl

open ExtendedRat (nan finite)

theorem numbers_extended : Scalar.Numbers fun a : ExtendedRat => a ≠ nan where
  zero := by decide
  max {r} s hr := by
    unfold Scalar.max
    split
    · next hlt => exact ExtendedRat.ne_nan_of_lt hlt
    · rwa [if_pos (ExtendedRat.beq_self hr)]
  max_le_iff {r s b} hr := by
    unfold Scalar.max
    split
    · next hlt =>
      refine ⟨fun hle => ⟨ExtendedRat.le_trans (ExtendedRat.le_of_lt hlt) hle, fun _ => hle⟩, ?_⟩
      exact fun hboth => hboth.2 (ExtendedRat.ne_nan_of_lt hlt)
    · next hlt =>
      rw [if_pos (ExtendedRat.beq_self hr)]
      refine ⟨fun hle => ⟨hle, fun hs => ?_⟩, And.left⟩
      exact ExtendedRat.le_trans (ExtendedRat.le_of_not_lt hr hs hlt) hle

/-- Two vectors of one length lie entry by entry at most `bound` apart, except where their difference is
not a number. -/
structure AgreeUpTo (bound : ExtendedRat) (z own : Vec ExtendedRat) : Prop where
  length : z.length = own.length
  entries : ∀ (k : Nat) x y, z[k]? = some x → own[k]? = some y → x - y ≠ nan →
    Scalar.abs (x - y) ≤ bound

theorem close_iff_agreeUpTo {tolerance : ExtendedRat} {n : Nat} {z own : Vec ExtendedRat}
    (h : 0 ≤ tolerance) (hz : z.length = n) (hown : own.length = n) :
    Close (· ≠ nan) tolerance n z own ↔ AgreeUpTo tolerance z own := by
  have hnumber : ∀ {d : ExtendedRat}, Scalar.abs d ≠ nan ↔ d ≠ nan := ExtendedRat.abs_eq_nan.not
  constructor
  · intro hclose
    refine ⟨hz.trans hown.symm, fun k x y hx hy hne => ?_⟩
    have hk : k < n := by
      obtain ⟨hlt, -⟩ := List.getElem?_eq_some_iff.mp hx
      omega
    exact hclose.entries k x y hk hx hy (hnumber.mpr hne)
  · intro hagree
    refine ⟨h, hz.ge, hown.ge, fun k x y _ hx hy hne => ?_⟩
    exact hagree.entries k x y hx hy (hnumber.mp hne)

theorem changed_iff_agreeUpTo {tolerance : ExtendedRat} {new old : Vec ExtendedRat}
    (h : 0 ≤ tolerance) : Changed (· ≠ nan) tolerance new old ↔ AgreeUpTo tolerance new old := by
  constructor
  · intro hchanged
    exact (close_iff_agreeUpTo h rfl hchanged.length.symm).mp hchanged.close
  · intro hagree
    exact ⟨hagree.length, (close_iff_agreeUpTo h rfl hagree.length.symm).mpr hagree⟩

/-- What an agent holds of a neighbor agrees with the consensus variables that it has of it. -/
structure Neighbor.AgreesUpTo (bound : ExtendedRat) (nb : Neighbor ExtendedRat) : Prop where
  influence : nb.approximated = true → AgreeUpTo bound nb.influenceCoupling.v nb.localInfluence
  copiedInfluence : AgreeUpTo bound nb.externalInfluence.v nb.localCopy.v
  copiedControl : AgreeUpTo bound nb.couplingState.u nb.localCopy.u

theorem Neighbor.measured_iff_agreesUpTo {tolerance : ExtendedRat} {samples nx nu : Nat}
    {nb : Neighbor ExtendedRat} (h : 0 ≤ tolerance) (hnb : nb.Stocked samples nx nu) :
    nb.Measured (· ≠ nan) tolerance ↔ nb.AgreesUpTo tolerance := by
  have howned := hnb.owned
  have hcontrol : nb.couplingState.u.length = samples * nb.nu :=
    hnb.received.latest .couplingState (by simp)
  have hexternal : nb.externalInfluence.v.length = samples * nb.nx :=
    hnb.received.latest .externalInfluenceCouplingState (by simp)
  obtain ⟨hprices, hinfluencePrices⟩ := howned.copyPrices
  have hinfluence := close_iff_agreeUpTo h (howned.coupling.trans howned.prices.symm)
    (howned.influence.trans howned.prices.symm)
  have hcopiedInfluence := close_iff_agreeUpTo h (hexternal.trans hinfluencePrices.symm)
    (howned.copy.v.trans hinfluencePrices.symm)
  have hcopiedControl := close_iff_agreeUpTo h (hcontrol.trans hprices.symm)
    (howned.copy.u.trans hprices.symm)
  constructor
  · intro hmeasured
    exact ⟨fun happrox => hinfluence.mp (hmeasured.influence happrox),
      hcopiedInfluence.mp hmeasured.copiedInfluence, hcopiedControl.mp hmeasured.copiedControl⟩
  · intro hagrees
    exact ⟨fun happrox => hinfluence.mpr (hagrees.influence happrox),
      hcopiedInfluence.mpr hagrees.copiedInfluence, hcopiedControl.mpr hagrees.copiedControl⟩

namespace Controller

section Decided

variable {α : Type} [Scalar α] {c c' c'' : Controller α}

/-- Records that come in, one after the other. -/
def receptions (records : List (AgentId × RecordKind × StateRecord α)) : List (Operation α) :=
  records.map fun r => .receive r.1 r.2.1 r.2.2

/-- The agent has the same consensus variables as before, and has measured nothing anew of them. -/
structure SameConsensus (c c' : Controller α) : Prop where
  control : c'.agent.couplingState = c.agent.couplingState
  influences : c'.agent.influenceCouplings = c.agent.influenceCouplings
  dual : c'.residuals.dual = c.residuals.dual

omit [Scalar α] in
theorem SameConsensus.trans (h : c.SameConsensus c') (h' : c'.SameConsensus c'') :
    c.SameConsensus c'' :=
  ⟨h'.control.trans h.control, h'.influences.trans h.influences, h'.dual.trans h.dual⟩

theorem sameConsensus_receive {sender : AgentId} {kind : RecordKind} {r : StateRecord α}
    (h : c.perform (.receive sender kind r) = .ok c') : c.SameConsensus c' := by
  obtain rfl := Except.ok.inj h
  obtain ⟨_, heq⟩ | ⟨record, nb, -, hnb, -, heq⟩ := c.applyIncoming_cases sender kind r
  · rw [heq]
    exact ⟨rfl, rfl, rfl⟩
  · rw [heq]
    refine ⟨rfl, Agent.map_modifyFirst (·.influenceCoupling) ?_, rfl⟩
    intro first hfirst
    obtain rfl : nb = first := Option.some.inj (hnb.symm.trans hfirst)
    cases kind <;> rfl

theorem sameConsensus_receptions {records : List (AgentId × RecordKind × StateRecord α)}
    (h : c.performAll (receptions records) = .ok c') : c.SameConsensus c' := by
  induction records generalizing c with
  | nil =>
    obtain rfl := Except.ok.inj h
    exact ⟨rfl, rfl, rfl⟩
  | cons r records ih =>
    obtain ⟨c₁, hfirst, hrest⟩ := bind_eq_ok.mp h
    exact (sameConsensus_receive hfirst).trans (ih hrest)

theorem sameConsensus_raise (h : c.updateMultiplierStates = .ok c') : c.SameConsensus c' := by
  obtain ⟨u, r, neighbors, primal, -, hneighbors, rfl⟩ := updateMultiplierStates_eq_ok h
  refine ⟨rfl, map_eq_of_forall₂ ((updateNeighborMultipliers_eq_ok hneighbors).imp ?_), rfl⟩
  intro nb nb' hraised
  obtain ⟨p, p', hupdated⟩ := hraised
  obtain ⟨influence, q, copy, -, -, rfl⟩ := Neighbor.updateMultipliers_eq_ok hupdated
  rfl

end Decided

variable {c before after : Controller ExtendedRat}

/-- Consensus violations within the primal tolerance, and changes since `before` within the dual one. -/
structure WithinTolerances (before c : Controller ExtendedRat) : Prop where
  control :
    AgreeUpTo c.options.primalTolerance c.agent.couplingState.u c.agent.agentState.u
  neighbors : ∀ nb ∈ c.agent.neighbors, nb.AgreesUpTo c.options.primalTolerance
  controlChange :
    AgreeUpTo c.options.dualTolerance c.agent.couplingState.u before.agent.couplingState.u
  influenceChanges : List.Forall₂ (fun new old => AgreeUpTo c.options.dualTolerance new.v old.v)
    c.agent.influenceCouplings before.agent.influenceCouplings

/-- Raising the prices measures what the agent and its neighbors disagree on. -/
theorem Operable.raising_le_iff (hc : c.Operable) {c' : Controller ExtendedRat}
    (h : c.updateMultiplierStates = .ok c') :
    ∃ primal, c'.residuals.primal = some primal ∧ ∀ tolerance, 0 ≤ tolerance →
      (primal ≤ tolerance ↔ AgreeUpTo tolerance c'.agent.couplingState.u c'.agent.agentState.u ∧
        ∀ nb ∈ c'.agent.neighbors, nb.AgreesUpTo tolerance) := by
  obtain ⟨primal, hprimal, hiff⟩ := Controller.raising_le_iff numbers_extended h
  obtain ⟨u, r, neighbors, _, -, hneighbors, rfl⟩ := updateMultiplierStates_eq_ok h
  refine ⟨primal, hprimal, fun tolerance hnonneg => ?_⟩
  have hcontrol := close_iff_agreeUpTo hnonneg
    (hc.stocked.coupling.trans hc.stocked.prices.symm) (hc.stocked.state.u.trans hc.stocked.prices.symm)
  -- Nothing that a neighbor agrees on is a price.
  have hraised : List.Forall₂ (fun nb nb' => nb'.AgreesUpTo tolerance ↔
      nb.Measured (· ≠ nan) tolerance) c.agent.neighbors neighbors := by
    refine (forall₂_and_mem (updateNeighborMultipliers_eq_ok hneighbors)).imp ?_
    rintro nb nb' ⟨hnb, p, p', hupdated⟩
    obtain ⟨influence, q, copy, -, -, rfl⟩ := Neighbor.updateMultipliers_eq_ok hupdated
    rw [Neighbor.measured_iff_agreesUpTo hnonneg (hc.stocked.neighbors nb hnb)]
    constructor <;> exact fun hagrees =>
      ⟨hagrees.influence, hagrees.copiedInfluence, hagrees.copiedControl⟩
  rw [hiff, hcontrol]
  refine and_congr_right fun _ => ⟨fun hall nb' hnb' => ?_, fun hall nb hnb => ?_⟩
  · obtain ⟨nb, hnb, hsame⟩ := forall₂_mem_right hraised hnb'
    exact hsame.mpr (hall nb hnb)
  · obtain ⟨nb', hnb', hsame⟩ := forall₂_mem_left hraised hnb
    exact hsame.mp (hall nb' hnb')

/-- A prepared controller that decides, takes in records and raises its prices counts as converged at the
end of the iteration if and only if it agrees with its neighbors and with its last decision up to the
tolerances, as far as there are numbers to compare. -/
theorem isConverged_iff_withinTolerances
    (hcouplings : ∀ nb ∈ c.agent.neighbors, ∀ f, nb.relation.sending = some f →
      f.dynamics.KeepsLength)
    (h : c.prepare.2 = .ok ()) {ops : List (Operation ExtendedRat)}
    (hbefore : c.prepare.1.performAll ops = .ok before)
    {records : List (AgentId × RecordKind × StateRecord ExtendedRat)}
    (hafter : before.performAll (.couple :: receptions records ++ [.raise, .finish]) = .ok after) :
    after.isConverged = true ↔ before.WithinTolerances after := by
  have hle : ∀ a b d : ExtendedRat, a ≤ b → b ≤ d → a ≤ d := fun _ _ _ => ExtendedRat.le_trans
  have hb : before.Operable := (operable_of_prepare hcouplings h).of_performAll hle hbefore
  obtain ⟨hprimal₀, hdual₀⟩ := Options.tolerances_of_valid (hb.of_performAll hle hafter).valid
  obtain ⟨informed, hinformed, hend⟩ := bind_eq_ok.mp ((performAll_append _ _ _).symm.trans hafter)
  obtain ⟨decided, hdecided, hreceived⟩ := bind_eq_ok.mp hinformed
  obtain ⟨raised, hraised, hfinish⟩ := bind_eq_ok.mp hend
  obtain ⟨dual, hdual, hchanged⟩ :=
    coupling_le_iff numbers_extended hb.stocked.previousCount hdecided
  obtain ⟨primal, hprimal, hagree⟩ := (hb.of_performAll hle hinformed).raising_le_iff hraised
  -- What was decided, and how much it changed, is the same at the end.
  have hsame := (sameConsensus_receptions hreceived).trans (sameConsensus_raise hraised)
  obtain ⟨status, -, heq⟩ := raised.finishIteration_eq
  obtain rfl : raised.finishIteration = after := by
    obtain ⟨finished, hfinished, hnil⟩ := bind_eq_ok.mp hfinish
    exact (Except.ok.inj hfinished).trans (Except.ok.inj hnil)
  rw [heq] at hprimal₀ hdual₀ ⊢
  have hchanges := hchanged raised.options.dualTolerance
  simp only [changed_iff_agreeUpTo (ExtendedRat.le_of_lt hdual₀)] at hchanges
  have hagreement := hagree raised.options.primalTolerance (ExtendedRat.le_of_lt hprimal₀)
  rw [← hsame.control, ← hsame.influences] at hchanges
  simp only [isConverged, hprimal, hsame.dual, hdual, Residuals.within, Nat.succ_pos, decide_true,
    Bool.true_and, Bool.and_eq_true, decide_eq_true_eq]
  rw [hagreement, hchanges]
  constructor
  · rintro ⟨⟨hcontrol, hneighbors⟩, hcontrolChange, hinfluenceChanges⟩
    exact ⟨hcontrol, hneighbors, hcontrolChange, hinfluenceChanges⟩
  · rintro ⟨hcontrol, hneighbors, hcontrolChange, hinfluenceChanges⟩
    exact ⟨⟨hcontrol, hneighbors⟩, hcontrolChange, hinfluenceChanges⟩

/-- An agent that decays without control: `ẋ = u - x`. -/
def decaying : LinearAgent ExtendedRat where
  name := "decaying"
  nx := 1
  nu := 1
  a := ⟨[[finite (-1)]]⟩
  b := ⟨[[1]]⟩
  q := [1]
  r := [1]
  p := [1]
  bounds := none

/-- What reaches one agent of the other. -/
def leak : LinearCoupling ExtendedRat := ⟨⟨[[finite (1 / 5)]]⟩, ⟨[[0]]⟩⟩

/-- One of two decaying agents, with two samples on its horizon. -/
def leakingAgent : Controller ExtendedRat :=
  .new { Agent.new 0 decaying.toModel with
      neighbors := [{ Neighbor.new 1 decaying.toModel ⟨some leak.toModel, some leak.toModel⟩ with
        approximated := true }]
      agentState := .constant 0 [0] [1] [0] [] }
    (fun _ _ _ => .error .notPrepared)
    { (Options.default : Options ExtendedRat) with horizonSteps := 2 }

/-- The neighbor's copy of the agent, with these controls. -/
def copyWith (u : Vec ExtendedRat) : StateRecord ExtendedRat :=
  ⟨(⟨0, 0, [0, 1], [1, 1], u, [0, 0]⟩ : AgentState ExtendedRat)⟩

/-- The neighbor's decision on its own controls. -/
def decision (u : Vec ExtendedRat) : StateRecord ExtendedRat :=
  ⟨(⟨1, 0, [0, 1], [], u, []⟩ : CouplingState ExtendedRat)⟩

theorem leakingAgent_withinTolerances :
    ∃ before after, leakingAgent.prepare.2 = .ok () ∧
      leakingAgent.prepare.1.performAll
        [.begin, .receive 1 .coupledAgentState (copyWith [finite (1 / 2000), nan])] = .ok before ∧
      before.performAll
        (.couple :: receptions [(1, .couplingState, decision [nan, finite (1 / 4000)])] ++
          [.raise, .finish]) = .ok after ∧
      after.isConverged = true ∧ before.WithinTolerances after := by
  have hprepare : leakingAgent.prepare.2 = .ok () := by decide +kernel
  have hcouplings : ∀ nb ∈ leakingAgent.agent.neighbors, ∀ f, nb.relation.sending = some f →
      f.dynamics.KeepsLength := by
    intro nb hnb f hf
    obtain rfl := List.mem_singleton.mp hnb
    obtain rfl := Option.some.inj hf
    exact leak.keepsLength
  have hrun : (leakingAgent.prepare.1.performAll
      ([.begin, .receive 1 .coupledAgentState (copyWith [finite (1 / 2000), nan])] ++
        (.couple :: receptions [(1, .couplingState, decision [nan, finite (1 / 4000)])] ++
          [.raise, .finish]))).toOption.map (·.isConverged) = some true := by decide +kernel
  obtain ⟨before, after, hbefore, hafter, hconverged⟩ := performAll_parts hrun
  exact ⟨before, after, hprepare, hbefore, hafter, hconverged,
    (isConverged_iff_withinTolerances hcouplings hprepare hbefore hafter).mp hconverged⟩

/-- A control of the neighbor that is not a number makes a consensus of its kind, and the agent counts as
converged: no comparison holds of the difference, so it is in none of the residuals. -/
theorem leakingAgent_converges_without_consensus :
    ∃ before after z own old, leakingAgent.prepare.2 = .ok () ∧
      leakingAgent.prepare.1.performAll
        [.receive 1 .coupledAgentState (copyWith [nan, 0])] = .ok before ∧
      before.performAll [.couple, .raise, .finish] = .ok after ∧ after.isConverged = true ∧
      after.agent.couplingState.u[0]? = some z ∧ after.agent.agentState.u[0]? = some own ∧
      before.agent.couplingState.u[0]? = some old ∧
      ¬ Scalar.abs (z - own) ≤ after.options.primalTolerance ∧
      ¬ Scalar.abs (z - old) ≤ after.options.dualTolerance := by
  have hprepare : leakingAgent.prepare.2 = .ok () := by decide +kernel
  have hstart : (leakingAgent.prepare.1.performAll
      [.receive 1 .coupledAgentState (copyWith [nan, 0])]).toOption.map
        (·.agent.couplingState.u) = some [0, 0] := by decide +kernel
  have hrun : (leakingAgent.prepare.1.performAll
      ([.receive 1 .coupledAgentState (copyWith [nan, 0])] ++ [.couple, .raise, .finish])).toOption.map
        (fun c => (c.isConverged, c.agent.couplingState.u, c.agent.agentState.u)) =
          some (true, [nan, 0], [0, 0]) := by decide +kernel
  obtain ⟨before, after, hbefore, hafter, hend⟩ := performAll_parts hrun
  rw [hbefore] at hstart
  obtain ⟨hconverged, hu, hown⟩ : after.isConverged = true ∧ _ ∧ _ := by simpa using hend
  have hold : before.agent.couplingState.u = [0, 0] := by simpa [Except.toOption] using hstart
  refine ⟨before, after, nan, 0, 0, hprepare, hbefore, hafter, hconverged, ?_, ?_, ?_, ?_, ?_⟩
  · rw [hu]
    rfl
  · rw [hown]
    rfl
  · rw [hold]
    rfl
  · exact Bool.false_ne_true
  · exact Bool.false_ne_true

end Controller

end ConsensusControl
