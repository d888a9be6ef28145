import Mathlib.Data.List.GetD
import Mathlib.Tactic.MkIffOfInductiveProp
import ConsensusControl.Proofs.Consensus.Averaging
import ConsensusControl.Proofs.Consensus.Residuals
import ConsensusControl.Proofs.Options

namespace ConsensusControl

deriving instance DecidableEq for Record

namespace Controller

variable {α : Type} [Scalar α] {c : Controller α}

/-- The local solve returns what is stored: the own trajectories, the copies and the influences along
them. -/
@[mk_iff]
structure Repeats (c : Controller α) : Prop where
  state : c.updateAgentStates.1.agent.agentState = c.agent.agentState
  copies : c.updateAgentStates.1.agent.neighbors.map (·.localCopy) =
    c.agent.neighbors.map (·.localCopy)
  influences : c.updateAgentStates.1.agent.neighbors.map (·.localInfluence) =
    c.agent.neighbors.map (·.localInfluence)

theorem Repeats.agent (h : c.Repeats) : c.updateAgentStates.1.agent = c.agent := by
  obtain ⟨hstate, hcopies, hinfluences⟩ := h
  obtain ⟨state, neighbors, _, _, _, _, heq, hall, -, -⟩ := c.updateAgentStates_eq
  rw [heq] at hstate hcopies hinfluences ⊢
  obtain rfl : state = c.agent.agentState := hstate
  have hsame : List.Forall₂ (fun nb nb' : Neighbor α => nb' = nb) c.agent.neighbors neighbors := by
    refine (forall₂_and hall (forall₂_and (forall₂_of_map_eq hcopies)
      (forall₂_of_map_eq hinfluences))).imp ?_
    intro nb nb' h
    obtain ⟨⟨copy, influence, rfl⟩, hcopy, hinfluence⟩ := h
    obtain rfl : copy = nb.localCopy := hcopy
    obtain rfl : influence = nb.localInfluence := hinfluence
    rfl
  obtain rfl := eq_of_forall₂ hsame
  rfl

instance [DecidableEq α] : Decidable c.Repeats := decidable_of_iff' _ (repeats_iff c)

/-- A failed solve keeps the last prediction. -/
theorem agent_of_failure {failure : SolveError} (h : c.updateAgentStates.2 = .ok (.error failure)) :
    c.updateAgentStates.1.agent = c.agent := by
  refine c.updateAgentStates_cases.resolve_right ?_
  intro hsolved
  obtain ⟨layout, s, hlayout, hattempt⟩ := hsolved
  rw [updateAgentStates_result hlayout, hattempt] at h
  cases h

end Controller

/-- No entry of the consensus violates the local value. -/
def Vec.AtConsensus (z own : Vec Rat) : Prop := ∀ r ∈ consensusResidual z own, r = 0

instance (z own : Vec Rat) : Decidable (z.AtConsensus own) :=
  inferInstanceAs (Decidable (∀ r ∈ consensusResidual z own, r = 0))

namespace Vec.AtConsensus

variable {z own : Vec Rat}

theorem getElem_eq (h : z.AtConsensus own) {k : Nat} (hz : k < z.length) (hown : k < own.length) :
    own[k] = z[k] := by
  refine (sub_eq_zero.mp (h (z[k] - own[k]) ?_)).symm
  refine List.mem_iff_getElem?.mpr ⟨k, ?_⟩
  rw [consensusResidual, List.getElem?_zipWith, List.getElem?_eq_getElem hz,
    List.getElem?_eq_getElem hown]

theorem getD_eq (h : z.AtConsensus own) {k : Nat} (hz : k < z.length) (hown : k < own.length) :
    own.getD k 0 = z.getD k 0 := by
  rw [List.getD_eq_getElem _ _ hz, List.getD_eq_getElem _ _ hown]
  exact h.getElem_eq hz hown

theorem close (h : z.AtConsensus own) {n : Nat} (hz : n ≤ z.length) (hown : n ≤ own.length) :
    Close (fun _ => True) 0 n z own := by
  refine ⟨le_refl 0, hz, hown, fun k x y hk hx hy _ => ?_⟩
  obtain ⟨hkz, rfl⟩ := List.getElem?_eq_some_iff.mp hx
  obtain ⟨hkown, rfl⟩ := List.getElem?_eq_some_iff.mp hy
  rw [h.getElem_eq hkz hkown, sub_self]
  exact le_refl 0

end Vec.AtConsensus

theorem Vec.ext_getD {xs ys : Vec Rat} (hl : xs.length = ys.length)
    (h : ∀ k, k < ys.length → xs.getD k 0 = ys.getD k 0) : xs = ys := by
  refine List.ext_getElem hl fun k hx hy => ?_
  have hk := h k hy
  rwa [List.getD_eq_getElem _ _ hx, List.getD_eq_getElem _ _ hy] at hk

/-- All participants hold the consensus, and their prices cancel. -/
structure Participant.AtRest (z : Vec Rat) (ps : List (Participant Rat)) : Prop where
  nonempty : ps ≠ []
  weighted : ∀ p ∈ ps, ∀ w ∈ p.rho, 0 < w
  held : ∀ p ∈ ps, z.AtConsensus p.value
  cancel : ∀ k, (ps.map (·.mu.getD k 0)).sum = 0

theorem weightedConsensus_rest {z z' : Vec Rat} {ps : List (Participant Rat)}
    (h : Participant.AtRest z ps) (hz : weightedConsensus z ps = .ok z') : z' = z := by
  have hcovers := (weightedConsensus_eq_ok.mp hz).1
  obtain ⟨hlength, hentries⟩ := weightedConsensus_getD hz
  refine Vec.ext_getD hlength fun k hk => ?_
  have hprices : (ps.map (·.holding k)).map (·.raised (z.getD k 0)) = ps.map (·.mu.getD k 0) := by
    rw [List.map_map]
    refine List.map_congr_left fun p hp => ?_
    have hkp := Nat.lt_of_lt_of_le hk (Participant.covers_iff.mp (hcovers p hp)).1
    simp only [Function.comp_apply, Holding.raised, Participant.holding, (h.held p hp).getD_eq hk hkp,
      sub_self, mul_zero, add_zero]
  rw [hentries k hk, consensusEntry_eq_iff (by simpa using h.nonempty)
    (Participant.holdings_weighted hcovers h.weighted hk), hprices]
  exact h.cancel k

theorem dualAscent_rest {mu rho z own mu' : Vec Rat} {r : Rat} (h : z.AtConsensus own)
    (hascent : dualAscent mu rho z own = .ok (mu', r)) : mu' = mu := by
  obtain ⟨-, hz, hown⟩ := (dualAscent_eq_ok hascent).1
  obtain ⟨hlength, hentries⟩ := dualAscent_getD hascent
  refine Vec.ext_getD hlength fun k hk => ?_
  rw [hentries k hk, h.getD_eq (Nat.lt_of_lt_of_le hk hz) (Nat.lt_of_lt_of_le hk hown), sub_self,
    mul_zero, add_zero]

namespace Options

variable {o : Options Rat}

theorem adaptEntry_rest (ho : 0 < o.primalTolerance ∧ 0 < o.dualTolerance) (rho z : Rat) :
    o.adaptEntry rho z z z = .ok rho := by
  unfold adaptEntry
  rw [sub_self, scalar_abs, abs_zero]
  exact if_pos ⟨le_of_lt ho.1, le_of_lt ho.2⟩

/-- Weights stay where neither the local value nor the previous consensus differs from the consensus. -/
theorem mapM_adaptEntry_rest {rho z own : Vec Rat}
    (ho : 0 < o.primalTolerance ∧ 0 < o.dualTolerance) (h : Vec.AtConsensus z own)
    (hz : rho.length ≤ z.length) (hown : rho.length ≤ own.length) :
    (((rho.zip z).zip (own.zip z)).mapM fun ((rho, z), own, previous) =>
      o.adaptEntry rho z own previous) = .ok rho := by
  induction rho generalizing z own with
  | nil => rfl
  | cons r rho ih =>
    obtain ⟨x, z, rfl⟩ := List.exists_cons_of_length_pos (Nat.lt_of_lt_of_le (by simp) hz)
    obtain ⟨y, own, rfl⟩ := List.exists_cons_of_length_pos (Nat.lt_of_lt_of_le (by simp) hown)
    obtain ⟨hxy, hrest⟩ : x - y = 0 ∧ Vec.AtConsensus z own := by
      simpa [Vec.AtConsensus, consensusResidual] using h
    obtain rfl := sub_eq_zero.mp hxy
    refine mapM_eq_ok.mpr (.cons (adaptEntry_rest ho r x) (mapM_eq_ok.mp (ih hrest ?_ ?_)))
    · simpa using hz
    · simpa using hown

theorem adaptEntries_rest {rho z own rho' : Vec Rat}
    (ho : 0 < o.primalTolerance ∧ 0 < o.dualTolerance) (h : Vec.AtConsensus z own)
    (hadapted : o.adaptEntries rho z own z = .ok rho') : rho' = rho := by
  unfold adaptEntries requireEntries at hadapted
  obtain ⟨_, hl, hadapted⟩ := bind_eq_ok.mp hadapted
  have hl : rho.length ≤ z.length ∧ rho.length ≤ own.length ∧ rho.length ≤ z.length := by
    simpa using Checked.require_eq_ok.mp hl
  rw [mapM_adaptEntry_rest ho h hl.1 hl.2.1] at hadapted
  exact (Except.ok.inj hadapted).symm

end Options

/-- What the agent holds of the neighbor is what both have agreed on. -/
@[mk_iff]
structure Neighbor.InConsensus (nb : Neighbor Rat) : Prop where
  influence : nb.approximated = true → Vec.AtConsensus nb.influenceCoupling.v nb.localInfluence
  copiedInfluence : Vec.AtConsensus nb.externalInfluence.v nb.localCopy.v
  copiedControl : Vec.AtConsensus nb.couplingState.u nb.localCopy.u

/-- Every consensus residual of the agent is zero. -/
@[mk_iff]
structure Agent.InConsensus (a : Agent Rat) : Prop where
  control : Vec.AtConsensus a.couplingState.u a.agentState.u
  neighbors : ∀ nb ∈ a.neighbors, nb.InConsensus

instance (nb : Neighbor Rat) : Decidable nb.InConsensus :=
  decidable_of_iff' _ (Neighbor.inConsensus_iff nb)

instance (a : Agent Rat) : Decidable a.InConsensus :=
  decidable_of_iff' _ (Agent.inConsensus_iff a)

/-- The consensus on the state is the own state itself. -/
structure Agent.StateConsensus {α : Type} (a : Agent α) : Prop where
  t0 : a.couplingState.t0 = a.agentState.t0
  t : a.couplingState.t = a.agentState.t
  x : a.couplingState.x = a.agentState.x

/-- The agent finds nothing to change: it is in consensus, and so are all who share its consensus
variables, with prices that cancel. -/
structure Agent.AtRest (a : Agent Rat) : Prop where
  consensus : a.InConsensus
  control : Participant.AtRest a.couplingState.u a.controlParticipants
  influence : ∀ nb ∈ a.neighbors, Participant.AtRest nb.influenceCoupling.v nb.influenceParticipants
  state : a.StateConsensus

/-- The previous consensus variables that were received are the current ones. -/
def Neighbor.rested {α : Type} (nb : Neighbor α) : Neighbor α :=
  { nb with
    previousCouplingState := nb.couplingState
    previousExternalInfluence := nb.externalInfluence }

def Agent.rested {α : Type} (a : Agent α) : Agent α :=
  { a with neighbors := a.neighbors.map (·.rested) }

theorem Agent.rested_rested {α : Type} (a : Agent α) : a.rested.rested = a.rested := by
  simp [rested, Function.comp_def, Neighbor.rested]

theorem Agent.influenceCouplings_rested {α : Type} (a : Agent α) :
    a.rested.influenceCouplings = a.influenceCouplings := by
  simp [rested, influenceCouplings, Function.comp_def, Neighbor.rested]

theorem Agent.InConsensus.rested {a : Agent Rat} (h : a.InConsensus) : a.rested.InConsensus := by
  refine ⟨h.control, fun nb' hnb' => ?_⟩
  obtain ⟨nb, hnb, rfl⟩ := List.mem_map.mp hnb'
  have hnb := h.neighbors nb hnb
  exact ⟨hnb.influence, hnb.copiedInfluence, hnb.copiedControl⟩

namespace Neighbor

theorem updateInfluence_rest {nb nb' : Neighbor Rat}
    (h : Participant.AtRest nb.influenceCoupling.v nb.influenceParticipants)
    (hupdated : nb.updateInfluence = .ok nb') : nb' = nb := by
  obtain ⟨v, hv, rfl⟩ := updateInfluence_eq_ok hupdated
  obtain rfl := weightedConsensus_rest h hv
  rfl

theorem updateMultipliers_rest {nb nb' : Neighbor Rat} {p p' : Rat} (h : nb.InConsensus)
    (hupdated : nb.updateMultipliers p = .ok (nb', p')) : nb' = nb := by
  obtain ⟨influence, q, copy, hinfluence, hcopy, rfl⟩ := updateMultipliers_eq_ok hupdated
  obtain ⟨v, rv, u, ru, hv, hu, rfl, -⟩ := raiseCopy_eq_ok hcopy
  obtain rfl := dualAscent_rest h.copiedInfluence hv
  obtain rfl := dualAscent_rest h.copiedControl hu
  obtain rfl : influence = nb.influenceMultiplier := by
    rcases raiseInfluence_eq_ok hinfluence with ⟨happrox, w, r, hw, rfl, -⟩ | ⟨-, rfl, -⟩
    · obtain rfl := dualAscent_rest (h.influence happrox) hw
      rfl
    · rfl
  rfl

theorem adaptPenalties_rest {o : Options Rat} {nb nb' : Neighbor Rat}
    (ho : 0 < o.primalTolerance ∧ 0 < o.dualTolerance) (h : nb.InConsensus)
    (hrested : nb.rested = nb) (hadapted : nb.adaptPenalties o nb.influenceCoupling = .ok nb') :
    nb' = nb := by
  have hcoupling : nb.previousCouplingState = nb.couplingState :=
    (congrArg previousCouplingState hrested).symm
  have hexternal : nb.previousExternalInfluence = nb.externalInfluence :=
    (congrArg previousExternalInfluence hrested).symm
  obtain ⟨w, v, u, hw, hv, hu, rfl⟩ := adaptPenalties_eq_ok hadapted
  rw [hexternal] at hv
  rw [hcoupling] at hu
  obtain rfl := Options.adaptEntries_rest ho h.copiedInfluence hv
  obtain rfl := Options.adaptEntries_rest ho h.copiedControl hu
  obtain rfl : w = nb.influencePenalty.v := by
    unfold adaptInfluence at hw
    split at hw
    · next happrox => exact Options.adaptEntries_rest ho (h.influence happrox) hw
    · exact (pure_eq_ok.mp hw).symm
  rfl

end Neighbor

namespace Controller

variable {c c' : Controller Rat}

/-- The update of the consensus variables finds them as they are. -/
theorem coupling_rest (hlaid : c.previousInfluences.length = c.agent.neighbors.length)
    (h : c.agent.AtRest) (hcoupled : c.updateCouplingStates = .ok c') :
    c' = { c with
      previousCoupling := c.agent.couplingState
      previousInfluences := c.agent.influenceCouplings
      residuals := { c.residuals with dual := some 0 } } := by
  obtain ⟨dual, hdual, hiff⟩ := coupling_le_iff numbers_rat hlaid hcoupled
  obtain ⟨u, neighbors, previous, d, hu, hinfluences, rfl⟩ := updateCouplingStates_eq_ok hcoupled
  obtain rfl : d = dual := Option.some.inj hdual
  obtain ⟨hall, rfl⟩ := updateInfluences_all hlaid hinfluences
  obtain rfl := weightedConsensus_rest h.control hu
  have hsame : List.Forall₂ (fun nb nb' => nb' = nb) c.agent.neighbors neighbors := by
    refine (forall₂_and_mem hall).imp ?_
    intro nb nb' hnb
    obtain ⟨hmem, hupdated⟩ := hnb
    exact Neighbor.updateInfluence_rest (h.influence nb hmem) hupdated
  obtain rfl := eq_of_forall₂ hsame
  have hsettled : ∀ z : Vec Rat, Changed (fun _ => True) 0 z z := by
    intro z
    refine ⟨rfl, Vec.AtConsensus.close (fun r hr => ?_) (le_refl _) (le_refl _)⟩
    obtain ⟨k, hk⟩ := List.mem_iff_getElem?.mp hr
    obtain ⟨x, y, hx, hy, rfl⟩ := List.getElem?_zipWith_eq_some.mp hk
    rw [Option.some.inj (hx.symm.trans hy), sub_self]
  have hle : d ≤ 0 := (hiff 0).mpr ⟨hsettled _, List.forall₂_same.mpr fun _ _ => hsettled _⟩
  obtain rfl : d = 0 := le_antisymm hle ((hiff d).mp (le_refl d)).1.close.nonneg
  rw [← h.state.t0, ← h.state.t, ← h.state.x]
  rfl

/-- No price is raised. -/
theorem raising_rest (h : c.agent.InConsensus) (hraised : c.updateMultiplierStates = .ok c') :
    c' = { c with residuals := { c.residuals with primal := some 0 } } := by
  obtain ⟨primal, hprimal, hiff⟩ := raising_le_iff numbers_rat hraised
  obtain ⟨u, r, neighbors, p, hu, hneighbors, rfl⟩ := updateMultiplierStates_eq_ok hraised
  obtain rfl : p = primal := Option.some.inj hprimal
  obtain rfl := dualAscent_rest h.control hu
  have hsame : List.Forall₂ (fun nb nb' => nb' = nb) c.agent.neighbors neighbors := by
    refine (forall₂_and_mem (updateNeighborMultipliers_eq_ok hneighbors)).imp ?_
    intro nb nb' hnb
    obtain ⟨hmem, _, _, hupdated⟩ := hnb
    exact Neighbor.updateMultipliers_rest (h.neighbors nb hmem) hupdated
  obtain rfl := eq_of_forall₂ hsame
  obtain ⟨hown, hall⟩ := (hiff p).mp (le_refl p)
  have hle : p ≤ 0 := by
    refine (hiff 0).mpr ⟨h.control.close hown.left hown.right, fun nb hnb => ?_⟩
    have hbound := hall nb hnb
    have hnb := h.neighbors nb hnb
    exact ⟨fun happrox => (hnb.influence happrox).close (hbound.influence happrox).left
        (hbound.influence happrox).right,
      hnb.copiedInfluence.close hbound.copiedInfluence.left hbound.copiedInfluence.right,
      hnb.copiedControl.close hbound.copiedControl.left hbound.copiedControl.right⟩
  obtain rfl : p = 0 := le_antisymm hle hown.nonneg
  rfl

theorem adaptNeighborPenalties_rest {o : Options Rat} {nbs nbs' : List (Neighbor Rat)}
    (ho : 0 < o.primalTolerance ∧ 0 < o.dualTolerance) (h : ∀ nb ∈ nbs, nb.InConsensus)
    (hrested : ∀ nb ∈ nbs, nb.rested = nb)
    (hadapted : adaptNeighborPenalties o nbs (nbs.map (·.influenceCoupling)) = .ok nbs') :
    nbs' = nbs := by
  induction nbs generalizing nbs' with
  | nil => exact (Except.ok.inj hadapted).symm
  | cons nb nbs ih =>
    simp only [List.map_cons, adaptNeighborPenalties] at hadapted
    obtain ⟨updated, hupdated, hadapted⟩ := bind_eq_ok.mp hadapted
    obtain ⟨rest, hrest, hadapted⟩ := bind_eq_ok.mp hadapted
    obtain rfl := pure_eq_ok.mp hadapted
    rw [List.forall_mem_cons] at h hrested
    rw [Neighbor.adaptPenalties_rest ho h.1 hrested.1 hupdated, ih h.2 hrested.2 hrest]

/-- No penalty is adapted. -/
theorem adapting_rest (hvalid : c.options.validate = .ok ()) (h : c.agent.InConsensus)
    (hrested : c.agent.rested = c.agent) (hown : c.previousCoupling = c.agent.couplingState)
    (hinfluences : c.previousInfluences = c.agent.influenceCouplings)
    (hadapted : c.adaptPenalties = .ok c') : c' = c := by
  have ho := Options.tolerances_of_valid hvalid
  obtain rfl | ⟨u, neighbors, hu, hneighbors, rfl⟩ := adaptPenalties_eq_ok hadapted
  · rfl
  rw [hown] at hu
  rw [hinfluences] at hneighbors
  obtain rfl := Options.adaptEntries_rest ho h.control hu
  have hall : ∀ nb ∈ c.agent.neighbors, nb.rested = nb := by
    have heq : c.agent.neighbors.map (·.rested) = c.agent.neighbors.map fun nb => nb :=
      (congrArg Agent.neighbors hrested).trans (List.map_id' _).symm
    exact List.map_inj_left.mp heq
  obtain rfl := adaptNeighborPenalties_rest ho h.neighbors hall hneighbors
  rfl

end Controller

end ConsensusControl
