import Mathlib.Algebra.BigOperators.Group.List.Basic
import ConsensusControl.Proofs.Affine
import ConsensusControl.Proofs.Consensus.Averaging
import ConsensusControl.Proofs.Problem.CostSharing
import ConsensusControl.Proofs.Sampling

namespace ConsensusControl

/-- A consensus variable that a local problem charges for: the control of the agent, the influence on the
agent from everyone but a neighbor, the control of a neighbor, and the influence on a neighbor from
everyone but the agent. -/
inductive ConsensusTerm
  | control
  | influence (id : AgentId)
  | copiedControl (id : AgentId)
  | copiedInfluence (id : AgentId)
  deriving DecidableEq, Repr

/-- What a local problem has of a consensus variable: its dimension, and the local values with their
prices and weights, which come with grids of their own. -/
structure Stake where
  dim : Nat
  participant : Participant Rat
  priceGrid : Vec Rat
  weightGrid : Vec Rat

/-- The term at a time, for values of the variable on a grid. -/
def Stake.sample (s : Stake) (grid values : Vec Rat) (t : Rat) : ConsensusSample Rat :=
  ⟨Trajectory.interpolate grid values s.dim t,
    Trajectory.interpolate s.priceGrid s.participant.mu s.dim t,
    Trajectory.interpolate s.weightGrid s.participant.rho s.dim t⟩

namespace Neighbor

variable (grid values : Vec Rat) (nb : Neighbor Rat)

/-- The neighbor with other values of the influence on the agent. -/
def withInfluence : Neighbor Rat :=
  { nb with influenceCoupling := { nb.influenceCoupling with t := grid, v := values } }

/-- The neighbor with other values of its control. -/
def withControl : Neighbor Rat :=
  { nb with couplingState := { nb.couplingState with t := grid, u := values } }

/-- The neighbor with other values of the influence on it. -/
def withExternal : Neighbor Rat :=
  { nb with externalInfluence := { nb.externalInfluence with t := grid, v := values } }

end Neighbor

namespace LocalProblem

variable (p : LocalProblem Rat)

/-- The stake of a problem in a consensus variable that it charges for. -/
def stake? : ConsensusTerm → Option Stake
  | .control => some ⟨p.index.nuOwn,
      ⟨p.agent.agentState.u, p.agent.multiplierState.u, p.agent.penaltyState.u⟩,
      p.agent.multiplierState.t, p.agent.penaltyState.t⟩
  | .influence id => (p.agent.neighbor? id).bind fun nb =>
      if nb.approximated then
        some ⟨p.index.nxOwn, ⟨nb.localInfluence, nb.influenceMultiplier.v, nb.influencePenalty.v⟩,
          nb.influenceMultiplier.t, nb.influencePenalty.t⟩
      else none
  | .copiedControl id => (p.agent.neighbor? id).map fun nb =>
      ⟨nb.nu, ⟨nb.localCopy.u, nb.copyMultiplier.u, nb.copyPenalty.u⟩, nb.copyMultiplier.t,
        nb.copyPenalty.t⟩
  | .copiedInfluence id => (p.agent.neighbor? id).map fun nb =>
      ⟨nb.nx, ⟨nb.localCopy.v, nb.copyMultiplier.v, nb.copyPenalty.v⟩, nb.copyMultiplier.t,
        nb.copyPenalty.t⟩

/-- The value that the agent itself has for a consensus variable at a point. -/
def ownValue? (z : Point Rat) : ConsensusTerm → Option (Vec Rat)
  | .control => some (p.ownPoint z).u
  | .influence id => p.influence id z
  | .copiedControl id => (p.index.block? id).map fun b => b.u.read z.u
  | .copiedInfluence id => (p.index.block? id).map fun b => b.v.read z.u

/-- The problem with other values of a consensus variable. -/
def put (grid values : Vec Rat) : ConsensusTerm → LocalProblem Rat
  | .control => { p with agent := { p.agent with
      couplingState := { p.agent.couplingState with t := grid, u := values } } }
  | .influence id => { p with agent := p.agent.modifyNeighbor id (Neighbor.withInfluence grid values) }
  | .copiedControl id => { p with agent := p.agent.modifyNeighbor id (Neighbor.withControl grid values) }
  | .copiedInfluence id => { p with agent := p.agent.modifyNeighbor id (Neighbor.withExternal grid values) }

end LocalProblem

namespace LocalProblem

variable {p : LocalProblem Rat} {id : AgentId} {nb : Neighbor Rat}

/-- Influences look at the links of the neighbors alone. -/
theorem neighborInfluence_congr {nbs : List (Neighbor Rat)} {nb nb' : Neighbor Rat}
    (hnbs : nbs.map (·.link) = p.agent.neighbors.map (·.link)) (hnb : nb'.link = nb.link)
    (z : Point Rat) :
    LocalProblem.neighborInfluence { p with agent := { p.agent with neighbors := nbs } } nb' z =
      p.neighborInfluence nb z := by
  have hid : nb'.id = nb.id := congrArg Link.id hnb
  have happrox : nb'.approximated = nb.approximated := congrArg Link.approximated hnb
  have hothers : ∀ (k : Neighbor Rat) (ks : List (Neighbor Rat)),
      Surroundings.others ⟨k, ks, p.index⟩ =
        ((ks.map (·.link)).zip p.index.blocks).filterMap fun q =>
          if q.1.id == k.id then none else q.1.relation.sending.map (·, q.2) := by
    intro k ks
    rw [List.zip_map_left, List.filterMap_map]
    rfl
  have hsame : Surroundings.others ⟨nb', nbs, p.index⟩ = (p.surroundings nb).others := by
    rw [hothers, hnbs, hid, surroundings, hothers]
  unfold neighborInfluence Surroundings.influence
  rw [happrox]
  exact congrArg (fun others : List (CouplingModel Rat × NeighborBlock) =>
    if nb.approximated then some (others.foldl (fun out q =>
      q.1.dynamics.value ((p.surroundings nb).sendingPoint q.2 z) out) (Vec.zeros p.agent.nx))
    else none) hsame

/-- The costs of the models do not look at the consensus records of a neighbor. -/
theorem modelCost_congr {nbs : List (Neighbor Rat)} {front back : List (Neighbor Rat × NeighborBlock)}
    {b : NeighborBlock} {nb nb' : Neighbor Rat} (hlength : nbs.length = p.agent.neighbors.length)
    (hpairs : p.pairs = front ++ (nb, b) :: back)
    (hnbs : nbs.zip p.index.blocks = front ++ (nb', b) :: back) (hlink : nb'.link = nb.link)
    (hdesired : nb'.desired = nb.desired) (z : Point Rat) :
    LocalProblem.modelCost { p with agent := { p.agent with neighbors := nbs } } z =
      p.modelCost z := by
  have hcount : nb'.neighborCount = nb.neighborCount := congrArg Link.neighborCount hlink
  have hmodel : nb'.model = nb.model := congrArg Link.model hlink
  have hshare : LocalProblem.costShare { p with agent := { p.agent with neighbors := nbs } } =
      p.costShare := by
    unfold costShare
    rw [hlength]
  have hterm : ∀ l, l + nb'.costShare *
      nb'.model.stageCost (Surroundings.copyPoint b z) (nb'.target z.t) =
        l + nb.costShare * nb.model.stageCost (Surroundings.copyPoint b z) (nb.target z.t) := by
    intro l
    simp only [Neighbor.costShare, Neighbor.target, Neighbor.nx, Neighbor.nu, hcount, hmodel, hdesired]
  have hpairs' : LocalProblem.pairs { p with agent := { p.agent with neighbors := nbs } } =
      front ++ (nb', b) :: back := hnbs
  unfold modelCost foldCosts
  rw [hshare, hpairs', hpairs, List.foldl_append, List.foldl_append, List.foldl_cons,
    List.foldl_cons]
  dsimp only
  rw [hterm]
  rfl

/-- A change of the consensus records of one neighbor is seen in the terms of that neighbor alone. -/
theorem Indexed.stageCost_modify (h : p.Indexed) (hnb : p.agent.neighbor? id = some nb)
    (z : Point Rat) :
    ∃ b rest, p.index.block? id = some b ∧ ∀ f : Neighbor Rat → Neighbor Rat,
      (∀ k, (f k).link = k.link ∧ (f k).desired = k.desired) →
      LocalProblem.stageCost { p with agent := p.agent.modifyNeighbor id f } z =
        rest + p.pairTerms z (p.neighborInfluence nb z) (f nb, b) := by
  obtain ⟨front, b, back, hpairs, hb, hmodify⟩ := h.pairs_split hnb
  let term := fun q : Neighbor Rat × NeighborBlock => p.pairTerms z (p.neighborInfluence q.1 z) q
  refine ⟨b, p.modelCost z + (p.ownControl z.t).cost (p.ownPoint z).u + (front.map term).sum +
    (back.map term).sum, hb, fun f hf => ?_⟩
  let p' : LocalProblem Rat := { p with agent := p.agent.modifyNeighbor id f }
  have hlinks : p'.agent.neighbors.map (·.link) = p.agent.neighbors.map (·.link) :=
    Agent.map_modifyFirst _ fun k _ => (hf k).1
  have hlength : p'.agent.neighbors.length = p.agent.neighbors.length := by
    simpa using congrArg List.length hlinks
  have hmodel : p'.modelCost z = p.modelCost z :=
    modelCost_congr hlength hpairs (hmodify f) (hf nb).1 (hf nb).2 z
  have hown : p'.neighborInfluence (f nb) z = p.neighborInfluence nb z :=
    neighborInfluence_congr hlinks (hf nb).1 z
  have hterm : ∀ q, p'.pairTerms z (p'.neighborInfluence q.1 z) q = term q := by
    intro q
    have hinfluence : p'.neighborInfluence q.1 z = p.neighborInfluence q.1 z :=
      neighborInfluence_congr hlinks rfl z
    rw [hinfluence]
    rfl
  have hpairs' : p'.pairs = front ++ (f nb, b) :: back := hmodify f
  rw [stageCost_eq_sum]
  change p'.modelCost z + _ + (p'.pairs.map fun q =>
    p'.pairTerms z (p'.neighborInfluence q.1 z) q).sum = _
  rw [hmodel, hpairs', List.map_append, List.map_cons, List.sum_append, List.sum_cons, hown]
  simp only [hterm]
  change p.modelCost z + (p.ownControl z.t).cost (p.ownPoint z).u + ((front.map term).sum +
    (p.pairTerms z (p.neighborInfluence nb z) (f nb, b) + (back.map term).sum)) = _
  ring

/-- A problem sees a consensus variable that it has a stake in through the term of the stake alone. -/
theorem Indexed.stageCost_put (h : p.Indexed) {τ : ConsensusTerm} {s : Stake} {z : Point Rat}
    {own : Vec Rat} (hs : p.stake? τ = some s) (hown : p.ownValue? z τ = some own) :
    ∃ rest, ∀ grid values,
      (p.put grid values τ).stageCost z = rest + (s.sample grid values z.t).cost own := by
  cases τ with
  | control =>
    obtain rfl := Option.some.inj hs
    obtain rfl := Option.some.inj hown
    let terms := (p.pairs.map fun q => p.pairTerms z (p.neighborInfluence q.1 z) q).sum
    refine ⟨p.modelCost z + terms, fun grid values => ?_⟩
    rw [stageCost_eq_sum]
    change p.modelCost z + _ + terms = _
    rw [add_right_comm]
    rfl
  | influence id =>
    obtain ⟨nb, hnb, hs⟩ := Option.bind_eq_some_iff.mp hs
    obtain ⟨b, rest, -, hcost⟩ := h.stageCost_modify hnb z
    have hinfluence : p.neighborInfluence nb z = some own := by
      rw [ownValue?, influence, hnb] at hown
      exact hown
    split at hs
    · obtain rfl := Option.some.inj hs
      refine ⟨rest + (nb.copiedInfluence z.t).cost (b.v.read z.u) +
        (nb.copiedControl z.t).cost (b.u.read z.u), fun grid values => ?_⟩
      rw [put, hcost (Neighbor.withInfluence grid values) fun k => ⟨rfl, rfl⟩, hinfluence, pairTerms]
      change rest + (_ + (nb.copiedInfluence z.t).cost (b.v.read z.u) +
        (nb.copiedControl z.t).cost (b.u.read z.u)) = _
      rw [add_assoc, add_left_comm, add_comm, ← add_assoc]
      rfl
    · simp at hs
  | copiedControl id =>
    obtain ⟨nb, hnb, rfl⟩ := Option.map_eq_some_iff.mp hs
    obtain ⟨b, rest, hb, hcost⟩ := h.stageCost_modify hnb z
    obtain rfl : b.u.read z.u = own := by
      rw [ownValue?, hb] at hown
      exact Option.some.inj hown
    refine ⟨rest + (p.influenceCharge z (p.neighborInfluence nb z) nb +
      (nb.copiedInfluence z.t).cost (b.v.read z.u)), fun grid values => ?_⟩
    rw [put, hcost (Neighbor.withControl grid values) fun k => ⟨rfl, rfl⟩, add_assoc]
    rfl
  | copiedInfluence id =>
    obtain ⟨nb, hnb, rfl⟩ := Option.map_eq_some_iff.mp hs
    obtain ⟨b, rest, hb, hcost⟩ := h.stageCost_modify hnb z
    obtain rfl : b.v.read z.u = own := by
      rw [ownValue?, hb] at hown
      exact Option.some.inj hown
    refine ⟨rest + (p.influenceCharge z (p.neighborInfluence nb z) nb +
      (nb.copiedControl z.t).cost (b.u.read z.u)), fun grid values => ?_⟩
    rw [put, hcost (Neighbor.withExternal grid values) fun k => ⟨rfl, rfl⟩, pairTerms,
      add_right_comm, ← add_assoc]
    rfl

/-- Without a prediction of the neighbor, the influence on the agent is not charged for. -/
theorem Indexed.stageCost_unpredicted (h : p.Indexed) (hnb : p.agent.neighbor? id = some nb)
    (happrox : nb.approximated = false) (z : Point Rat) :
    ∃ cost, ∀ grid values, (p.put grid values (.influence id)).stageCost z = cost := by
  obtain ⟨b, rest, -, hcost⟩ := h.stageCost_modify hnb z
  refine ⟨rest + p.pairTerms z none (nb, b), fun grid values => ?_⟩
  have hnone : p.neighborInfluence nb z = none := by
    rw [neighborInfluence, happrox, if_neg Bool.false_ne_true]
  rw [put, hcost (Neighbor.withInfluence grid values) fun k => ⟨rfl, rfl⟩, hnone]
  rfl

end LocalProblem

theorem ConsensusSample.entries_set {s : ConsensusSample Rat} {own : Vec Rat} {c : Nat}
    (hmu : c < s.mu.length) (hrho : c < s.rho.length) (hown : c < own.length)
    (f : Rat → Rat → Rat → Rat) (y : Rat) :
    ({ s with z := s.z.set c y } : ConsensusSample Rat).entries f own =
      (s.entries f own).set c (f (s.mu.getD c 0) (s.rho.getD c 0) (y - own.getD c 0)) := by
  rw [List.getD_eq_getElem _ _ hmu, List.getD_eq_getElem _ _ hrho, List.getD_eq_getElem _ _ hown]
  apply List.ext_getElem
  · simp [entries]
  · intro i _ _
    by_cases hi : c = i
    · subst hi
      simp [entries]
    · simp [entries, hi]

/-- The augmented-Lagrangian term of a holder for a value of the entry. -/
def Holding.charge (y : Rat) (h : Holding Rat) : Rat := augmentedTerm h.mu h.rho (y - h.value)

/-- An entry of the variable is charged for in one term. -/
theorem ConsensusSample.cost_set {s : ConsensusSample Rat} {own : Vec Rat} {c : Nat}
    (hz : c < s.z.length) (hmu : c < s.mu.length) (hrho : c < s.rho.length) (hown : c < own.length) :
    ∃ rest, ∀ y, ({ s with z := s.z.set c y } : ConsensusSample Rat).cost own =
      rest + Holding.charge y ⟨own.getD c 0, s.mu.getD c 0, s.rho.getD c 0⟩ := by
  have hc : c < (s.entries augmentedTerm own).length := by
    simp only [entries, List.length_zipWith, List.length_zip]
    omega
  refine ⟨(s.entries augmentedTerm own).sum + -(s.entries augmentedTerm own)[c], fun y => ?_⟩
  rw [cost_eq_sum, entries_set hmu hrho hown, List.sum_set', dif_pos hc, ← add_assoc]
  rfl

/-- A stake at a sample of the horizon: its values, prices and weights are on the grid, and the local
value there is the one at hand. -/
structure Stake.AtSample (s : Stake) (grid : Vec Rat) (k : Nat) (own : Vec Rat) : Prop where
  priceGrid : s.priceGrid = grid
  weightGrid : s.weightGrid = grid
  value : s.participant.value.length = grid.length * s.dim
  mu : s.participant.mu.length = grid.length * s.dim
  rho : s.participant.rho.length = grid.length * s.dim
  own : own = Trajectory.sample s.dim s.participant.value k

/-- At a sample of the horizon, an entry of the variable meets the holding of that entry. -/
theorem Stake.AtSample.cost_set {s : Stake} {grid own values : Vec Rat} {k c : Nat}
    (h : s.AtSample grid k own) (hgrid : grid.Pairwise (· < ·)) (hk : k < grid.length)
    (hc : c < s.dim) (hvalues : values.length = grid.length * s.dim) :
    ∃ rest, ∀ y, (s.sample grid (values.set (k * s.dim + c) y) (grid.getD k 0)).cost own =
      rest + (s.participant.holding (k * s.dim + c)).charge y := by
  have hlength : ∀ {vs : Vec Rat}, vs.length = grid.length * s.dim →
      c < (Trajectory.sample s.dim vs k).length := by
    intro vs hvs
    rw [Trajectory.length_sample]
    · exact hc
    · rw [hvs]
      exact Nat.mul_le_mul_right s.dim hk
  obtain ⟨rest, hrest⟩ := ConsensusSample.cost_set (s := ⟨Trajectory.sample s.dim values k,
    Trajectory.sample s.dim s.participant.mu k, Trajectory.sample s.dim s.participant.rho k⟩)
    (hlength hvalues) (hlength h.mu) (hlength h.rho) (h.own ▸ hlength h.value)
  refine ⟨rest, fun y => ?_⟩
  have hset : (values.set (k * s.dim + c) y).length = grid.length * s.dim := by
    rw [List.length_set, hvalues]
  rw [sample, h.priceGrid, h.weightGrid, Trajectory.interpolate_getD hgrid hk hset,
    Trajectory.interpolate_getD hgrid hk h.mu, Trajectory.interpolate_getD hgrid hk h.rho,
    Trajectory.sample_set, hrest y, h.own, Trajectory.getD_sample hc, Trajectory.getD_sample hc,
    Trajectory.getD_sample hc]
  rfl

namespace LocalProblem

/-- As a function of one entry of a consensus variable, the stage cost is the term of the holding up to
a constant. -/
def Charges (p : LocalProblem Rat) (τ : ConsensusTerm) (z : Point Rat) (grid : Vec Rat) (e : Nat)
    (q : Participant Rat) : Prop :=
  ∀ values : Vec Rat, values.length = q.value.length →
    ∃ rest, ∀ y, (p.put grid (values.set e y) τ).stageCost z = rest + (q.holding e).charge y

/-- The point is at a sample of the horizon, and there the variable has the local value on record. -/
structure AtSample (p : LocalProblem Rat) (τ : ConsensusTerm) (z : Point Rat) (grid : Vec Rat)
    (k : Nat) : Prop where
  time : z.t = grid.getD k 0
  stake : ∃ s own, p.stake? τ = some s ∧ p.ownValue? z τ = some own ∧ s.AtSample grid k own

theorem AtSample.charges {p : LocalProblem Rat} {τ : ConsensusTerm} {z : Point Rat} {grid : Vec Rat}
    {k i : Nat} {s : Stake} (hsample : p.AtSample τ z grid k) (h : p.Indexed)
    (hs : p.stake? τ = some s) (hgrid : grid.Pairwise (· < ·)) (hk : k < grid.length)
    (hi : i < s.dim) : p.Charges τ z grid (k * s.dim + i) s.participant := by
  obtain ⟨s', own, hs', hown, hstake⟩ := hsample.stake
  obtain rfl : s' = s := Option.some.inj (hs'.symm.trans hs)
  intro values hvalues
  obtain ⟨rest, hrest⟩ := h.stageCost_put hs hown
  obtain ⟨others, hothers⟩ := hstake.cost_set hgrid hk hi (hvalues.trans hstake.value)
  refine ⟨rest + others, fun y => ?_⟩
  rw [hrest, hsample.time, hothers, add_assoc]

end LocalProblem

end ConsensusControl
