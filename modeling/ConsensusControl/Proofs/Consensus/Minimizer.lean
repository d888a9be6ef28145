import Mathlib.Algebra.Order.Ring.Rat
import Mathlib.Tactic.FieldSimp
import Mathlib.Tactic.LinearCombination
import Mathlib.Tactic.Positivity
import Mathlib.Tactic.Ring
import ConsensusControl.Proofs.Consensus.Averaging
import ConsensusControl.Proofs.Problem.ConsensusTerms
import ConsensusControl.Proofs.Problem.Layout

namespace ConsensusControl

theorem Holding.charge_eq (h : Holding Rat) (y : Rat) :
    h.charge y = h.mu * (y - h.value) + h.rho / 2 * (y - h.value) ^ 2 := by
  rw [charge, augmentedTerm, Scalar.half_eq]
  ring

/-- All terms together are a parabola in the entry, opened by the sum of the weights. -/
theorem sum_charge_sub (hs : List (Holding Rat)) (y z : Rat) :
    (hs.map (·.charge y)).sum - (hs.map (·.charge z)).sum =
      (y - z) * ((hs.map (·.rho)).sum * (y + z) / 2 -
        (hs.map fun h => h.rho * h.value - h.mu).sum) := by
  induction hs with
  | nil => simp
  | cons h hs ih =>
    simp only [List.map_cons, List.sum_cons]
    rw [h.charge_eq y, h.charge_eq z]
    linear_combination ih

/-- With weight, the consensus is the one value at which the holders charge least. -/
theorem consensusEntry_least {hs : List (Holding Rat)} (hweight : 0 < (hs.map (·.rho)).sum)
    (old : Rat) {y : Rat} (hy : y ≠ consensusEntry old hs) :
    (hs.map (·.charge (consensusEntry old hs))).sum < (hs.map (·.charge y)).sum := by
  rw [consensusEntry_of_weight hweight] at hy ⊢
  have hsub := sum_charge_sub hs y
    ((hs.map fun h => h.rho * h.value - h.mu).sum / (hs.map (·.rho)).sum)
  generalize (hs.map fun h => h.rho * h.value - h.mu).sum = asked at hsub hy ⊢
  generalize (hs.map (·.rho)).sum = weight at hsub hy hweight ⊢
  have hsquare : 0 < (y - asked / weight) ^ 2 := by
    have hne : y - asked / weight ≠ 0 := sub_ne_zero.mpr hy
    positivity
  have hparabola : (y - asked / weight) * (weight * (y + asked / weight) / 2 - asked) =
      weight / 2 * (y - asked / weight) ^ 2 := by
    field_simp
    ring
  rw [hparabola] at hsub
  rw [← sub_pos, hsub]
  positivity

/-- Without weight, the entry keeps its value. -/
theorem consensusEntry_weightless {hs : List (Holding Rat)} (hweight : (hs.map (·.rho)).sum = 0)
    (old : Rat) : consensusEntry old hs = old := by
  have hfold := foldl_numDen hs 0 0
  simp only [zero_add] at hfold
  unfold consensusEntry
  rw [hfold, hweight]
  exact if_neg (lt_irrefl 0)

/-- The new values are where the participants charge least for each entry, and are kept where there is
no weight. -/
structure Minimizes (old new : Vec Rat) (participants : List (Participant Rat)) : Prop where
  length : new.length = old.length
  least : ∀ e < old.length, 0 < (participants.map fun q => (q.holding e).rho).sum →
    ∀ y, y ≠ new.getD e 0 →
      (participants.map fun q => (q.holding e).charge (new.getD e 0)).sum <
        (participants.map fun q => (q.holding e).charge y).sum
  kept : ∀ e < old.length, (participants.map fun q => (q.holding e).rho).sum = 0 →
    new.getD e 0 = old.getD e 0

theorem weightedConsensus_minimizes {old new : Vec Rat} {participants : List (Participant Rat)}
    (h : weightedConsensus old participants = .ok new) : Minimizes old new participants := by
  obtain ⟨hlength, hentries⟩ := weightedConsensus_getD h
  have hmap : ∀ (e : Nat) (f : Holding Rat → Rat),
      (participants.map fun q => f (q.holding e)) = (participants.map (·.holding e)).map f := by
    intro e f
    rw [List.map_map]
    rfl
  refine ⟨hlength, fun e he hweight y hy => ?_, fun e he hweight => ?_⟩
  · rw [hmap] at hweight
    rw [hentries e he] at hy ⊢
    rw [hmap e (·.charge _), hmap e (·.charge _)]
    exact consensusEntry_least hweight _ hy
  · rw [hmap] at hweight
    rw [hentries e he]
    exact consensusEntry_weightless hweight _

namespace Agent

/-- The agents that charge for the control of the agent, with the names they have for it. -/
def controlHolders (a : Agent Rat) : List (AgentId × ConsensusTerm) :=
  (a.id, .control) :: a.neighbors.map fun nb => (nb.id, .copiedControl a.id)

/-- The agents that charge for the influence on the agent from all but a neighbor. -/
def influenceHolders (a : Agent Rat) (nb : Neighbor Rat) : List (AgentId × ConsensusTerm) :=
  (if nb.approximated then [(a.id, .influence nb.id)] else []) ++ [(nb.id, .copiedInfluence a.id)]

/-- Local problems of the agent and of its neighbors, which have told the agent what they have of it:
their copies of the agent with the prices and weights on them. -/
structure Neighborhood (a : Agent Rat) (problem : AgentId → LocalProblem Rat) : Prop where
  own : (problem a.id).agent = a
  told : ∀ nb ∈ a.neighbors, ∃ back, (problem nb.id).agent.neighbor? a.id = some back ∧
    back.model = a.model ∧ nb.coupledAgentState = back.localCopy ∧
    nb.coupledMultiplier = back.copyMultiplier ∧ nb.coupledPenalty = back.copyPenalty
  indexed : (problem a.id).Indexed
  indexedAll : ∀ nb ∈ a.neighbors, (problem nb.id).Indexed

variable {a : Agent Rat} {problem : AgentId → LocalProblem Rat} {nb : Neighbor Rat}

theorem Neighborhood.stake_control (h : a.Neighborhood problem) :
    ∃ s, (problem a.id).stake? .control = some s ∧ s.dim = a.nu ∧
      s.participant = ⟨a.agentState.u, a.multiplierState.u, a.penaltyState.u⟩ := by
  refine ⟨_, rfl, ?_, ?_⟩
  · change (problem a.id).index.nuOwn = a.nu
    rw [h.indexed.nuOwn, h.own]
  · rw [h.own]

theorem Neighborhood.stake_copiedControl (h : a.Neighborhood problem) (hnb : nb ∈ a.neighbors) :
    ∃ s, (problem nb.id).stake? (.copiedControl a.id) = some s ∧ s.dim = a.nu ∧
      s.participant = ⟨nb.coupledAgentState.u, nb.coupledMultiplier.u, nb.coupledPenalty.u⟩ := by
  obtain ⟨back, hback, hmodel, hcopy, hprices, hweights⟩ := h.told nb hnb
  refine ⟨_, congrArg (Option.map _) hback, ?_, ?_⟩
  · change back.model.nu = a.model.nu
    rw [hmodel]
  · rw [hcopy, hprices, hweights]

theorem Neighborhood.stake_copiedInfluence (h : a.Neighborhood problem) (hnb : nb ∈ a.neighbors) :
    ∃ s, (problem nb.id).stake? (.copiedInfluence a.id) = some s ∧ s.dim = a.nx ∧
      s.participant = ⟨nb.coupledAgentState.v, nb.coupledMultiplier.v, nb.coupledPenalty.v⟩ := by
  obtain ⟨back, hback, hmodel, hcopy, hprices, hweights⟩ := h.told nb hnb
  refine ⟨_, congrArg (Option.map _) hback, ?_, ?_⟩
  · change back.model.nx = a.model.nx
    rw [hmodel]
  · rw [hcopy, hprices, hweights]

theorem Neighborhood.neighbor? (h : a.Neighborhood problem) (hnb : nb ∈ a.neighbors) :
    (problem a.id).agent.neighbor? nb.id = some nb := by
  have hnodup := h.indexed.nodup
  rw [h.own] at hnodup ⊢
  exact neighbor?_of_mem hnodup hnb

theorem Neighborhood.stake_influence (h : a.Neighborhood problem) (hnb : nb ∈ a.neighbors)
    (happrox : nb.approximated = true) :
    ∃ s, (problem a.id).stake? (.influence nb.id) = some s ∧ s.dim = a.nx ∧
      s.participant = ⟨nb.localInfluence, nb.influenceMultiplier.v, nb.influencePenalty.v⟩ := by
  refine ⟨⟨(problem a.id).index.nxOwn, _, nb.influenceMultiplier.t, nb.influencePenalty.t⟩, ?_, ?_,
    rfl⟩
  · rw [LocalProblem.stake?, h.neighbor? hnb, Option.bind_some, if_pos happrox]
  · change (problem a.id).index.nxOwn = a.nx
    rw [h.indexed.nxOwn, h.own]

end Agent

/-- At a sample of the horizon, the stage costs of the participants of a consensus variable charge for
each of its entries with the terms of their holdings. -/
structure Agent.Charged (a : Agent Rat) (problem : AgentId → LocalProblem Rat)
    (point : AgentId → Point Rat) (grid : Vec Rat) (k : Nat) : Prop where
  control : (∀ h ∈ a.controlHolders, (problem h.1).AtSample h.2 (point h.1) grid k) → ∀ i < a.nu,
    List.Forall₂ (fun h q => (problem h.1).Charges h.2 (point h.1) grid (k * a.nu + i) q)
      a.controlHolders a.controlParticipants
  influence : ∀ nb ∈ a.neighbors,
    (∀ h ∈ a.influenceHolders nb, (problem h.1).AtSample h.2 (point h.1) grid k) → ∀ i < a.nx,
      List.Forall₂ (fun h q => (problem h.1).Charges h.2 (point h.1) grid (k * a.nx + i) q)
        (a.influenceHolders nb) nb.influenceParticipants
  unpredicted : ∀ nb ∈ a.neighbors, nb.approximated = false → ∃ cost, ∀ grid values,
    ((problem a.id).put grid values (.influence nb.id)).stageCost (point a.id) = cost

theorem Agent.Neighborhood.charged {a : Agent Rat} {problem : AgentId → LocalProblem Rat}
    (h : a.Neighborhood problem) (point : AgentId → Point Rat) {grid : Vec Rat} {k : Nat}
    (hgrid : grid.Pairwise (· < ·)) (hk : k < grid.length) : a.Charged problem point grid k := by
  -- A stake of the dimension at hand charges for its participant.
  have hcharges : ∀ {id : AgentId} {τ : ConsensusTerm} {n i : Nat} {q : Participant Rat},
      (problem id).Indexed → (problem id).AtSample τ (point id) grid k → i < n →
      (∃ s, (problem id).stake? τ = some s ∧ s.dim = n ∧ s.participant = q) →
      (problem id).Charges τ (point id) grid (k * n + i) q := by
    intro id τ n i q hindexed hsample hi hstake
    obtain ⟨s, hs, rfl, rfl⟩ := hstake
    exact hsample.charges hindexed hs hgrid hk hi
  refine ⟨fun hsamples i hi => ?_, fun nb hnb hsamples i hi => ?_, fun nb hnb happrox => ?_⟩
  · refine .cons (hcharges h.indexed (hsamples _ List.mem_cons_self) hi h.stake_control) ?_
    rw [List.forall₂_map_left_iff, List.forall₂_map_right_iff, List.forall₂_same]
    intro nb hnb
    have hmem : (nb.id, ConsensusTerm.copiedControl a.id) ∈ a.controlHolders :=
      List.mem_cons_of_mem _ (List.mem_map.mpr ⟨nb, hnb, rfl⟩)
    exact hcharges (h.indexedAll nb hnb) (hsamples _ hmem) hi (h.stake_copiedControl hnb)
  · have hcopied := hcharges (h.indexedAll nb hnb)
      (hsamples _ (List.mem_append_right _ List.mem_cons_self)) hi (h.stake_copiedInfluence hnb)
    unfold influenceHolders at hsamples ⊢
    unfold Neighbor.influenceParticipants
    by_cases happrox : nb.approximated = true
    · rw [if_pos happrox] at hsamples ⊢
      rw [if_pos happrox]
      refine .cons (hcharges h.indexed (hsamples _ List.mem_cons_self) hi ?_) (.cons hcopied .nil)
      exact h.stake_influence hnb happrox
    · rw [if_neg happrox, if_neg happrox]
      exact .cons hcopied .nil
  · exact h.indexed.stageCost_unpredicted (h.neighbor? hnb) happrox _

/-- Every participant has an entry for each one of its consensus variable. -/
structure Agent.Attended (a : Agent Rat) : Prop where
  control : ∀ q ∈ a.controlParticipants, q.covers a.couplingState.u.length
  influence : ∀ nb ∈ a.neighbors, ∀ q ∈ nb.influenceParticipants,
    q.covers nb.influenceCoupling.v.length

namespace Controller

theorem exists_updateInfluences {nbs : List (Neighbor Rat)}
    (h : ∀ nb ∈ nbs, ∃ nb', nb.updateInfluence = .ok nb') (dual : Rat)
    (previous : List (CouplingState Rat)) :
    ∃ updated, updateInfluences dual nbs previous = .ok updated := by
  induction nbs generalizing dual previous with
  | nil => exact ⟨_, rfl⟩
  | cons nb nbs ih =>
    cases previous with
    | nil => exact ⟨_, rfl⟩
    | cons _ previous =>
      obtain ⟨nb', hnb'⟩ := h nb List.mem_cons_self
      obtain ⟨rest, hrest⟩ := ih (fun k hk => h k (List.mem_cons_of_mem _ hk)) _ previous
      exact ⟨_, bind_eq_ok.mpr ⟨nb', hnb', bind_eq_ok.mpr ⟨rest, hrest, rfl⟩⟩⟩

theorem updateCouplingStates_isOk_iff {c : Controller Rat}
    (hprevious : c.previousInfluences.length = c.agent.neighbors.length) :
    (∃ c', c.updateCouplingStates = .ok c') ↔ c.agent.Attended := by
  constructor
  · intro h
    obtain ⟨c', h⟩ := h
    obtain ⟨u, neighbors, previous, dual, hu, hinfluences, -⟩ := updateCouplingStates_eq_ok h
    refine ⟨(weightedConsensus_eq_ok.mp hu).1, fun nb hnb => ?_⟩
    obtain ⟨nb', -, hupdated⟩ := forall₂_mem_left (updateInfluences_all hprevious hinfluences).1 hnb
    obtain ⟨v, hv, -⟩ := Neighbor.updateInfluence_eq_ok hupdated
    exact (weightedConsensus_eq_ok.mp hv).1
  · intro h
    have hinfluence : ∀ nb ∈ c.agent.neighbors, ∃ nb', nb.updateInfluence = .ok nb' := by
      intro nb hnb
      exact ⟨_, bind_eq_ok.mpr ⟨_, weightedConsensus_eq_ok.mpr ⟨h.influence nb hnb, rfl⟩, rfl⟩⟩
    obtain ⟨updated, hupdated⟩ := exists_updateInfluences hinfluence
      (Vec.maxChange _ c.agent.couplingState.u) c.previousInfluences
    exact ⟨_, bind_eq_ok.mpr ⟨_, weightedConsensus_eq_ok.mpr ⟨h.control, rfl⟩,
      bind_eq_ok.mpr ⟨updated, hupdated, rfl⟩⟩⟩

/-- A consensus update succeeds where the participants have all entries. It writes the consensus
variables alone: the own state with its grid, the control and the influences, of which every entry goes
to the one value at which the participants charge least in their stage costs, if they have any weight. -/
theorem consensus_minimizes {c : Controller Rat}
    (hprevious : c.previousInfluences.length = c.agent.neighbors.length) :
    ((∃ c', c.updateCouplingStates = .ok c') ↔ c.agent.Attended) ∧
      (∀ c', c.updateCouplingStates = .ok c' → ∃ u neighbors,
        c'.agent = { c.agent with
          couplingState := { c.agent.couplingState with
            t0 := c.agent.agentState.t0, t := c.agent.agentState.t, x := c.agent.agentState.x, u }
          neighbors } ∧
        Minimizes c.agent.couplingState.u u c.agent.controlParticipants ∧
        List.Forall₂ (fun nb nb' : Neighbor Rat => ∃ v,
          nb' = { nb with influenceCoupling := { nb.influenceCoupling with v } } ∧
          Minimizes nb.influenceCoupling.v v nb.influenceParticipants) c.agent.neighbors neighbors) ∧
      ∀ problem, c.agent.Neighborhood problem → ∀ point grid k, grid.Pairwise (· < ·) →
        k < grid.length → c.agent.Charged problem point grid k := by
  refine ⟨updateCouplingStates_isOk_iff hprevious, fun c' h => ?_, fun problem h point grid k => ?_⟩
  · obtain ⟨u, neighbors, previous, dual, hu, hinfluences, rfl⟩ := updateCouplingStates_eq_ok h
    refine ⟨u, neighbors, rfl, weightedConsensus_minimizes hu,
      (updateInfluences_all hprevious hinfluences).1.imp ?_⟩
    intro nb nb' hupdated
    obtain ⟨v, hv, hnb'⟩ := Neighbor.updateInfluence_eq_ok hupdated
    exact ⟨v, hnb', weightedConsensus_minimizes hv⟩
  · exact h.charged point

open Network (steered pulling)

/-- What an outer agent of a star has as the copy of the center, on two samples. -/
def centerCopy (id : AgentId) : AgentState Rat := ⟨0, 0, [0, 1], [1, 1], [1, id + 2], [3, 4]⟩

def centerPrices (id : AgentId) : MultiplierState Rat := ⟨0, 0, [0, 1], [], [1, id], [2, 1]⟩

/-- The first sample of the control has no weight. -/
def centerWeights : PenaltyState Rat := ⟨0, 0, [0, 1], [], [0, 3], [1, 2]⟩

def outerAgent (id : AgentId) : Agent Rat :=
  { Agent.new id steered.toModel with
    neighbors := [{ Neighbor.new 0 steered.toModel .uncoupled with
      localCopy := centerCopy id
      copyMultiplier := centerPrices id
      copyPenalty := centerWeights }] }

/-- The center of a star, pulled by two outer agents of which it predicts the first. -/
def centerAgent : Agent Rat :=
  let outer (id : AgentId) (approximated : Bool) : Neighbor Rat :=
    { Neighbor.new id steered.toModel ⟨some pulling.toModel, none⟩ with
      approximated
      coupledAgentState := centerCopy id
      coupledMultiplier := centerPrices id
      coupledPenalty := centerWeights
      localInfluence := [5, 7]
      influenceCoupling := ⟨0, 0, [0, 1], [], [], [0, 0]⟩
      influenceMultiplier := ⟨0, 0, [0, 1], [], [], [1, -2]⟩
      influencePenalty := ⟨0, 0, [0, 1], [], [], [1, 4]⟩ }
  { Agent.new 0 steered.toModel with
    neighbors := [outer 1 true, outer 2 false]
    agentState := ⟨0, 0, [0, 1], [1, 2], [4, 6], []⟩
    couplingState := ⟨0, 0, [], [], [9, 0], []⟩
    multiplierState := ⟨0, 0, [0, 1], [], [1, 2], []⟩
    penaltyState := ⟨0, 0, [0, 1], [], [0, 5], []⟩ }

def star : Controller Rat :=
  { Controller.new centerAgent (fun _ _ _ => .error .notPrepared) Options.default with
    previousInfluences := [.empty 0, .empty 0] }

def starProblem : AgentId → LocalProblem Rat
  | 0 => ⟨centerAgent, .laid 1 1 centerAgent.entries, 0, 0⟩
  | id + 1 => ⟨outerAgent (id + 1), .laid 1 1 (outerAgent (id + 1)).entries, 0, 0⟩

def starPoint : AgentId → Point Rat
  | 0 => ⟨1, [2, 0, 7], [6, 0, 0, 0, 0]⟩
  | id + 1 => ⟨1, [0, 1], [0, (id + 1 : AgentId) + 2, 4]⟩

theorem star_indexed (id : AgentId) : (starProblem id).Indexed := by
  cases id with
  | zero => rfl
  | succ id => rfl

theorem star_neighborhood : star.agent.Neighborhood starProblem := by
  refine ⟨rfl, ?_, star_indexed 0, fun nb _ => star_indexed nb.id⟩
  intro nb hnb
  rcases List.mem_cons.mp hnb with rfl | hnb
  · exact ⟨_, rfl, rfl, rfl, rfl, rfl⟩
  · obtain rfl := List.mem_singleton.mp hnb
    exact ⟨_, rfl, rfl, rfl, rfl, rfl⟩

/-- The outer agents have solved their problems to the end of the horizon. -/
theorem star_atSample_copies (id : AgentId) :
    (starProblem (id + 1)).AtSample (.copiedControl 0) (starPoint (id + 1)) [0, 1] 1 ∧
      (starProblem (id + 1)).AtSample (.copiedInfluence 0) (starPoint (id + 1)) [0, 1] 1 := by
  constructor
  · exact ⟨rfl, _, _, rfl, rfl, rfl, rfl, rfl, rfl, rfl, rfl⟩
  · exact ⟨rfl, _, _, rfl, rfl, rfl, rfl, rfl, rfl, rfl, rfl⟩

theorem star_atSample_control :
    (starProblem 0).AtSample .control (starPoint 0) [0, 1] 1 :=
  ⟨rfl, _, _, rfl, rfl, rfl, rfl, rfl, rfl, rfl, rfl⟩

theorem star_atSample_influence :
    (starProblem 0).AtSample (.influence 1) (starPoint 0) [0, 1] 1 := by
  have hinfluence : (starProblem 0).influence 1 (starPoint 0) = some [7] := by decide +kernel
  exact ⟨rfl, _, _, rfl, hinfluence, rfl, rfl, rfl, rfl, rfl, rfl⟩

theorem star_minimizes :
    star.previousInfluences.length = star.agent.neighbors.length ∧ star.agent.Attended ∧
      star.agent.Neighborhood starProblem ∧
      (∃ c', star.updateCouplingStates = .ok c' ∧ c'.agent.couplingState.u = [9, 46 / 11] ∧
        Minimizes [9, 0] [9, 46 / 11] star.agent.controlParticipants) ∧
      List.Forall₂ (fun h q => (starProblem h.1).Charges h.2 (starPoint h.1) [0, 1] 1 q)
        star.agent.controlHolders star.agent.controlParticipants ∧
      ∀ nb ∈ star.agent.neighbors,
        List.Forall₂ (fun h q => (starProblem h.1).Charges h.2 (starPoint h.1) [0, 1] 1 q)
          (star.agent.influenceHolders nb) nb.influenceParticipants := by
  have hprevious : star.previousInfluences.length = star.agent.neighbors.length := rfl
  have hattended : star.agent.Attended := ⟨by decide +kernel, by decide +kernel⟩
  obtain ⟨hok, hupdate, hcharged⟩ := consensus_minimizes hprevious
  obtain ⟨c', hc'⟩ := hok.mpr hattended
  have hvalue : star.updateCouplingStates.toOption.map (·.agent.couplingState.u) =
      some [9, 46 / 11] := by decide +kernel
  have hu : c'.agent.couplingState.u = [9, 46 / 11] := by
    rw [toOption_eq_some.mpr hc'] at hvalue
    exact Option.some.inj hvalue
  obtain ⟨u, neighbors, hagent, hminimizes, -⟩ := hupdate c' hc'
  obtain rfl : u = [9, 46 / 11] := by rw [← hu, hagent]
  have hgrid : ([0, 1] : Vec Rat).Pairwise (· < ·) := by decide +kernel
  obtain ⟨hcontrol, hinfluence, -⟩ :=
    hcharged starProblem star_neighborhood starPoint [0, 1] 1 hgrid (by decide)
  refine ⟨hprevious, hattended, star_neighborhood, ⟨c', hc', hu, hminimizes⟩, ?_, fun nb hnb => ?_⟩
  · refine hcontrol (fun h hh => ?_) 0 (by decide)
    have hholders : star.agent.controlHolders =
        [(0, .control), (1, .copiedControl 0), (2, .copiedControl 0)] := rfl
    have hcases : h = (0, .control) ∨ h = (1, .copiedControl 0) ∨ h = (2, .copiedControl 0) := by
      simpa [hholders] using hh
    rcases hcases with rfl | rfl | rfl
    · exact star_atSample_control
    · exact (star_atSample_copies 0).1
    · exact (star_atSample_copies 1).1
  · refine hinfluence nb hnb (fun h hh => ?_) 0 (by decide)
    rcases List.mem_cons.mp hnb with rfl | hnb
    · have hcases : h = (0, .influence 1) ∨ h = (1, .copiedInfluence 0) := by
        simpa [Agent.influenceHolders, Neighbor.new, show star.agent.id = 0 from rfl] using hh
      rcases hcases with rfl | rfl
      · exact star_atSample_influence
      · exact (star_atSample_copies 0).2
    · obtain rfl := List.mem_singleton.mp hnb
      obtain rfl : h = (2, .copiedInfluence 0) := by
        simpa [Agent.influenceHolders, Neighbor.new, show star.agent.id = 0 from rfl] using hh
      exact (star_atSample_copies 1).2

end Controller

end ConsensusControl
