import ConsensusControl.Proofs.Affine
import ConsensusControl.Proofs.Problem.Adjoint
import ConsensusControl.Proofs.Problem.CostSharing

namespace ConsensusControl

namespace Vec

theorem add_zeros_right {a : Vec Rat} {n : Nat} (h : a.length = n) : add a (zeros n) = a := by
  induction a generalizing n with
  | nil => rw [← h]; rfl
  | cons x a ih =>
    obtain rfl : a.length + 1 = n := h
    exact congrArg₂ List.cons (zero_add x) (ih rfl)

theorem addScaled_zeros {a : Vec Rat} {n : Nat} (h : a.length = n) (s : Rat) :
    addScaled s a (zeros n) = a.map (s * ·) := by
  rw [addScaled_eq_add, add_zeros_right (by simpa using h)]

theorem addScaled_one (a : Vec Rat) : addScaled 1 a = add a := by
  funext out
  rw [addScaled_eq_add, List.map_congr_left fun x _ => one_mul x, List.map_id']

end Vec

/-- The costs of all models that an agent works with move as their gradients say, and what is sent to the
agent is affine. -/
structure Agent.CostsAdjoint (a : Agent Rat) : Prop where
  own : a.model.CostsAdjoint
  models : ∀ nb ∈ a.neighbors, nb.model.CostsAdjoint
  sending : ∀ nb ∈ a.neighbors, ∀ f, nb.relation.sending = some f →
    f.dynamics.Affine a.nx a.nu nb.nx nb.nu a.nx

theorem Neighbor.length_target (nb : Neighbor Rat) (t : Rat) :
    (nb.target t).x.length = nb.nx ∧ (nb.target t).u.length = nb.nu :=
  ⟨Trajectory.length_interpolate .., Trajectory.length_interpolate ..⟩

namespace LocalProblem

variable (p : LocalProblem Rat)

/-- What the agent carries of its own cost. -/
def ownShare : Rat := if p.agent.approximation.cost then p.costShare else 1

/-- The neighbors whose costs are folded in. -/
def sharedPairs : List (Neighbor Rat × NeighborBlock) :=
  if p.agent.approximation.cost then p.pairs else []

theorem foldCosts_eq (own : Rat) (cost : Neighbor Rat → NeighborBlock → Rat) :
    p.foldCosts own cost = p.ownShare * own +
      (p.sharedPairs.map fun q => q.1.costShare * cost q.1 q.2).sum := by
  unfold foldCosts ownShare sharedPairs
  split
  · rw [mul_comm p.costShare]
    exact foldl_add_eq _ _ _
  · simp

/-- Scaling what the own gradient has left in zeros is adding a share of it. -/
theorem foldGradients_eq {own : Block} {n : Nat} {g : Vec Rat → Vec Rat} (h : own.stop ≤ n)
    (hg : (g (Vec.zeros own.size)).length = own.size) (part : NeighborBlock → Block)
    (gradient : Neighbor Rat → NeighborBlock → Vec Rat) :
    p.foldGradients own part gradient (own.update g (Vec.zeros n)) =
      p.sharedPairs.foldl (fun out q =>
        (part q.2).update (Vec.addScaled q.1.costShare (gradient q.1 q.2)) out)
        (own.update (Vec.addScaled p.ownShare (g (Vec.zeros own.size))) (Vec.zeros n)) := by
  have hshare : ∀ s : Rat, Vec.addScaled s (g (Vec.zeros own.size)) (Vec.zeros own.size) =
      (g (Vec.zeros own.size)).map (· * s) := by
    intro s
    rw [Vec.addScaled_zeros hg]
    exact List.map_congr_left fun x _ => mul_comm s x
  have hread : (g (own.read (Vec.zeros n))).length = own.size := by rwa [Block.read_zeros h]
  unfold foldGradients ownShare sharedPairs
  split
  · rw [Block.update_update (h.trans_eq (Vec.length_zeros n).symm) hread, Block.update_zeros h,
      Block.update_zeros h, hshare]
  · rw [Block.update_zeros h, Block.update_zeros h, hshare, List.map_congr_left fun x _ => mul_one x,
      List.map_id', List.foldl_nil]

/-- The agent's share of a cost and those of the neighbors that are folded in. -/
def modelCosts (cost : AgentModel Rat → (Rat → Target Rat) → Rat → CostMap) : CostMap :=
  (CostMap.within p.index.ownX p.index.ownU (cost p.agent.model p.target p.ownShare)).andThen
    (.each (fun q => CostMap.within q.2.x q.2.u (cost q.1.model q.1.target q.1.costShare))
      p.sharedPairs)

/-- The influence on the agent from everyone but a neighbor. -/
def influenceMap (nb : Neighbor Rat) : AgentMap Rat :=
  .each (fun q => q.1.dynamics.parts p.index.ownX p.index.ownU q.2.x q.2.u) (p.surroundings nb).others

def influenceCost (nb : Neighbor Rat) : CostMap :=
  if nb.approximated then .charge (p.influenceSample · nb) p.agent.nx (p.influenceMap nb) else .none

def copyCost (q : Neighbor Rat × NeighborBlock) : CostMap :=
  (CostMap.charge q.1.copiedInfluence q.2.v.size (.control q.2.v)).andThen
    (.charge q.1.copiedControl q.2.u.size (.control q.2.u))

/-- All consensus terms: on the agent's own control and, for each neighbor, on the influence on the agent
and on the copies. -/
def consensusCost : CostMap :=
  (CostMap.charge p.ownControl p.index.nuOwn (.control p.index.ownU)).andThen
    (.each (fun q => (p.influenceCost q.1).andThen (copyCost q)) p.pairs)

def stageMap : CostMap := (p.modelCosts AgentModel.stageMap).andThen p.consensusCost

def terminalMap : CostMap := p.modelCosts AgentModel.terminalMap

variable {p} {z d : Point Rat}

theorem control_value {v : Block} {nx nu : Nat} (hz : z.Sized nx nu) (hv : v.stop ≤ nu) :
    (AgentMap.control v).value z (Vec.zeros v.size) = v.read z.u :=
  Vec.add_zeros_right (Block.length_read_of_stop (hv.trans_eq hz.u.symm))

theorem Indexed.stageCost_eq (h : p.Indexed) (hz : z.Sized p.index.nx p.index.nu) :
    p.stageCost z = p.stageMap.value z := by
  have hinside := IndexMap.inside_of_build h
  have hterms : ∀ q ∈ p.pairs, p.pairTerms z (p.neighborInfluence q.1 z) q =
      ((p.influenceCost q.1).andThen (copyCost q)).value z := by
    intro q hq
    obtain ⟨-, hu, hv⟩ := hinside.blocks q.2 (List.of_mem_zip hq).2
    dsimp only [CostMap.andThen, copyCost, CostMap.charge]
    rw [control_value hz hv, control_value hz hu, pairTerms, add_assoc]
    unfold neighborInfluence influenceCost
    cases q.1.approximated <;> rfl
  rw [stageCost_eq_sum, List.map_congr_left hterms, modelCost, foldCosts_eq, add_assoc]
  dsimp only [stageMap, consensusCost, CostMap.andThen, CostMap.charge]
  rw [show p.index.nuOwn = p.index.ownU.size from rfl, control_value hz hinside.ownU]
  rfl

theorem Indexed.sized_ownPoint (h : p.Indexed) (hz : z.Sized p.index.nx p.index.nu) :
    (p.ownPoint z).Sized p.agent.nx p.agent.nu := by
  have hinside := IndexMap.inside_of_build h
  rw [← h.nxOwn, ← h.nuOwn]
  exact hz.part hinside.ownX hinside.ownU

/-- The influence terms alone depend on the extended state. -/
theorem Indexed.stageCostDx_eq (h : p.Indexed)
    (hlength : ∀ z des, z.Sized p.agent.nx p.agent.nu →
      (p.agent.model.stageCostDx z des (Vec.zeros p.agent.nx)).length = p.agent.nx)
    (hz : z.Sized p.index.nx p.index.nu) :
    p.addStageCostDx z (Vec.zeros p.index.nx) = p.stageMap.dx z (Vec.zeros p.index.nx) := by
  have hnx : p.index.ownX.size = p.agent.nx := h.nxOwn
  have hown := hlength _ (p.target z.t) (h.sized_ownPoint hz)
  unfold addStageCostDx
  dsimp only
  rw [p.foldGradients_eq (IndexMap.inside_of_build h).ownX (by rw [hnx]; exact hown), hnx]
  refine List.foldl_ext _ _ _ ?_
  intro out q _
  dsimp only [CostMap.andThen, copyCost, CostMap.charge, AgentMap.control]
  unfold neighborInfluence influenceCost
  cases q.1.approximated <;> rfl

theorem Indexed.stageCostDu_eq (h : p.Indexed)
    (hlength : ∀ z des, z.Sized p.agent.nx p.agent.nu →
      (p.agent.model.stageCostDu z des (Vec.zeros p.agent.nu)).length = p.agent.nu)
    (hz : z.Sized p.index.nx p.index.nu) :
    p.addStageCostDu z (Vec.zeros p.index.nu) = p.stageMap.du z (Vec.zeros p.index.nu) := by
  have hinside := IndexMap.inside_of_build h
  have hnu : p.index.ownU.size = p.agent.nu := h.nuOwn
  have hown := hlength _ (p.target z.t) (h.sized_ownPoint hz)
  have hcontrol : ∀ (s : ConsensusSample Rat) {v : Block}, v.stop ≤ p.index.nu →
      Vec.add (s.gradient ((AgentMap.control v).value z (Vec.zeros v.size))) =
        s.addGradient (v.read z.u) := by
    intro s v hv
    funext out
    rw [control_value hz hv, ← Vec.addScaled_one]
    rfl
  unfold addStageCostDu
  dsimp only
  rw [p.foldGradients_eq hinside.ownU (by rw [hnu]; exact hown), hnu, LocalProblem.ownPoint,
    ← hcontrol _ hinside.ownU]
  refine List.foldl_ext _ _ _ ?_
  intro out q hq
  obtain ⟨-, hu, hv⟩ := hinside.blocks q.2 (List.of_mem_zip hq).2
  dsimp only [CostMap.andThen, copyCost, CostMap.charge]
  rw [← hcontrol _ hu, ← hcontrol _ hv]
  unfold neighborInfluence influenceCost
  cases q.1.approximated <;> rfl

theorem terminalCost_eq (z : Point Rat) : p.terminalCost z.t z.x = p.terminalMap.value z := by
  unfold LocalProblem.terminalCost
  exact p.foldCosts_eq _ _

theorem Indexed.terminalCostDx_eq (h : p.Indexed)
    (hlength : ∀ t x des, x.length = p.agent.nx →
      (p.agent.model.terminalCostDx t x des (Vec.zeros p.agent.nx)).length = p.agent.nx)
    (hz : z.Sized p.index.nx p.index.nu) :
    p.addTerminalCostDx z.t z.x (Vec.zeros p.index.nx) = p.terminalMap.dx z (Vec.zeros p.index.nx) := by
  have hnx : p.index.ownX.size = p.agent.nx := h.nxOwn
  have hown := hlength z.t _ (p.target z.t).x (h.sized_ownPoint hz).x
  unfold addTerminalCostDx
  dsimp only
  rw [p.foldGradients_eq (IndexMap.inside_of_build h).ownX (by rw [hnx]; exact hown), hnx]
  rfl

variable (p) in
theorem length_target (t : Rat) :
    (p.target t).x.length = p.index.nxOwn ∧ (p.target t).u.length = p.index.nuOwn :=
  ⟨Trajectory.length_interpolate .., Trajectory.length_interpolate ..⟩

/-- What the models' costs obey, their shares obey together. -/
theorem Indexed.adjoint_modelCosts (h : p.Indexed) (ha : p.agent.CostsAdjoint)
    {cost : AgentModel Rat → (Rat → Target Rat) → Rat → CostMap}
    (hcost : ∀ (m : AgentModel Rat) (target : Rat → Target Rat) (share : Rat), m.CostsAdjoint →
      (∀ t, (target t).x.length = m.nx ∧ (target t).u.length = m.nu) →
      (cost m target share).Adjoint m.nx m.nu) :
    (p.modelCosts cost).Adjoint p.index.nx p.index.nu := by
  have hinside := IndexMap.inside_of_build h
  apply CostMap.Adjoint.andThen
  · have htarget : ∀ t, (p.target t).x.length = p.agent.nx ∧ (p.target t).u.length = p.agent.nu := by
      intro t
      rw [← h.nxOwn, ← h.nuOwn]
      exact p.length_target t
    have hown := hcost _ p.target p.ownShare ha.own htarget
    refine CostMap.Adjoint.within ?_ hinside.ownX hinside.ownU
    rw [show p.index.ownX.size = p.agent.nx from h.nxOwn,
      show p.index.ownU.size = p.agent.nu from h.nuOwn]
    exact hown
  · apply CostMap.Adjoint.each
    intro q hq
    have hq : q ∈ p.pairs := by
      unfold sharedPairs at hq
      split at hq
      · exact hq
      · simp at hq
    have hmem : q.1 ∈ p.agent.neighbors := (List.of_mem_zip hq).1
    obtain ⟨hx, hu, -⟩ := hinside.blocks q.2 (List.of_mem_zip hq).2
    obtain ⟨hnx, hnu, -⟩ := h.sizes hq
    have hcopy := hcost _ q.1.target q.1.costShare (ha.models q.1 hmem) q.1.length_target
    refine CostMap.Adjoint.within ?_ hx hu
    rw [hnx, hnu]
    exact hcopy

/-- The influence from everyone but a neighbor is affine, as its parts are. -/
theorem Indexed.affine_influenceMap (h : p.Indexed) (ha : p.agent.CostsAdjoint) (nb : Neighbor Rat) :
    (p.influenceMap nb).Affine p.index.nx p.index.nu p.agent.nx := by
  have hinside := IndexMap.inside_of_build h
  apply AgentMap.Affine.each
  intro k hk
  obtain ⟨q, hq, hother⟩ := List.mem_filterMap.mp hk
  have hsends : ∃ f, q.1.relation.sending = some f ∧ (f, q.2) = k := by
    dsimp only at hother
    split at hother
    · simp at hother
    · exact Option.map_eq_some_iff.mp hother
  obtain ⟨f, hf, rfl⟩ := hsends
  obtain ⟨hx, hu, -⟩ := hinside.blocks q.2 (List.of_mem_zip hq).2
  obtain ⟨hnx, hnu, -⟩ := h.sizes hq
  have hlaw := ha.sending q.1 (List.of_mem_zip hq).1 f hf
  refine PairMap.Affine.parts ?_ hinside.ownX hinside.ownU hx hu
  rw [hnx, hnu, show p.index.ownX.size = p.agent.nx from h.nxOwn,
    show p.index.ownU.size = p.agent.nu from h.nuOwn]
  exact hlaw

theorem length_gradient_control (t : Rat) (dim : Nat) (z : CouplingState Rat) (mu : MultiplierState Rat)
    (rho : PenaltyState Rat) {own : Vec Rat} (hown : own.length = dim) :
    ((ConsensusSample.control t dim z mu rho).gradient own).length = dim :=
  ConsensusSample.length_gradient (Trajectory.length_interpolate ..) (Trajectory.length_interpolate ..)
    (Trajectory.length_interpolate ..) hown

theorem length_gradient_influence (t : Rat) (dim : Nat) (z : CouplingState Rat)
    (mu : MultiplierState Rat) (rho : PenaltyState Rat) {own : Vec Rat} (hown : own.length = dim) :
    ((ConsensusSample.influence t dim z mu rho).gradient own).length = dim :=
  ConsensusSample.length_gradient (Trajectory.length_interpolate ..) (Trajectory.length_interpolate ..)
    (Trajectory.length_interpolate ..) hown

/-- Every consensus term moves as its gradient says. -/
theorem Indexed.adjoint_consensusCost (h : p.Indexed) (ha : p.agent.CostsAdjoint) :
    p.consensusCost.Adjoint p.index.nx p.index.nu := by
  have hinside := IndexMap.inside_of_build h
  apply CostMap.Adjoint.andThen
  · refine .charge (.control hinside.ownU) fun t own hown => ?_
    exact length_gradient_control t _ _ _ _ hown
  · apply CostMap.Adjoint.each
    intro q hq
    obtain ⟨-, hu, hv⟩ := hinside.blocks q.2 (List.of_mem_zip hq).2
    obtain ⟨-, hnu, hnv⟩ := h.sizes hq
    apply CostMap.Adjoint.andThen
    · unfold influenceCost
      split
      · refine .charge (h.affine_influenceMap ha q.1) fun t own hown => ?_
        rw [← h.nxOwn] at hown ⊢
        exact length_gradient_influence t _ _ _ _ hown
      · exact .none _ _
    · apply CostMap.Adjoint.andThen
      · refine .charge (.control hv) fun t own hown => ?_
        rw [hnv] at hown ⊢
        exact length_gradient_influence t _ _ _ _ hown
      · refine .charge (.control hu) fun t own hown => ?_
        rw [hnu] at hown ⊢
        exact length_gradient_control t _ _ _ _ hown

theorem Indexed.adjoint_stageMap (h : p.Indexed) (ha : p.agent.CostsAdjoint) :
    p.stageMap.Adjoint p.index.nx p.index.nu :=
  (h.adjoint_modelCosts ha fun _ _ share hm htarget => hm.stageMap htarget share).andThen
    (h.adjoint_consensusCost ha)

theorem Indexed.adjoint_terminalMap (h : p.Indexed) (ha : p.agent.CostsAdjoint) :
    p.terminalMap.Adjoint p.index.nx p.index.nu :=
  h.adjoint_modelCosts ha fun _ _ share hm htarget => hm.terminalMap (fun t => (htarget t).1) share

/-- Along every direction, the stage cost moves by twice what its gradients make of it, and so does the
terminal cost. -/
theorem costs_adjoint (hp : p.agent.layout = .ok p.layout) (ha : p.agent.CostsAdjoint)
    (hz : z.Sized p.layout.dims.nx p.layout.dims.nu)
    (hd : d.Sized p.layout.dims.nx p.layout.dims.nu) :
    (∃ gx gu, p.toProblem.stageCostDx z = .ok gx ∧ p.toProblem.stageCostDu z = .ok gu ∧
      gx.length = p.layout.dims.nx ∧ gu.length = p.layout.dims.nu ∧
      p.toProblem.stageCost (z.along 1 d) - p.toProblem.stageCost (z.along (-1) d) =
        2 * (Vec.dot gx d.x + Vec.dot gu d.u)) ∧
    ∃ gx, p.toProblem.terminalCostDx z.t z.x = .ok gx ∧ gx.length = p.layout.dims.nx ∧
      p.toProblem.terminalCost z.t (Vec.addScaled 1 d.x z.x) -
          p.toProblem.terminalCost z.t (Vec.addScaled (-1) d.x z.x) = 2 * Vec.dot gx d.x := by
  have h : p.Indexed := Agent.indexMap_of_layout hp
  have hstage := h.adjoint_stageMap ha
  have hterminal := h.adjoint_terminalMap ha
  constructor
  · refine ⟨p.stageMap.dx z (Vec.zeros p.index.nx), p.stageMap.du z (Vec.zeros p.index.nu), ?_, ?_,
      (hstage.dx z hz).length_zeros, (hstage.du z hz).length_zeros, ?_⟩
    · rw [← h.stageCostDx_eq ha.own.length_dx hz]
      exact h.stageCostDx_ok z
    · rw [← h.stageCostDu_eq ha.own.length_du hz]
      exact h.stageCostDu_ok z
    · rw [← hstage.law z d hz hd, ← h.stageCost_eq (hz.along 1 d), ← h.stageCost_eq (hz.along (-1) d)]
      rfl
  · refine ⟨p.terminalMap.dx z (Vec.zeros p.index.nx), ?_, (hterminal.dx z hz).length_zeros, ?_⟩
    · rw [← h.terminalCostDx_eq ha.own.length_terminal hz]
      exact h.terminalCostDx_ok z.t z.x
    · -- The control plays no part, so the direction may leave it where it is.
      have hlaw := hterminal.law z ⟨d.t, d.x, Vec.zeros p.index.nu⟩ hz ⟨hd.x, Vec.length_zeros _⟩
      rw [← terminalCost_eq, ← terminalCost_eq, Vec.dot_zeros, add_zero] at hlaw
      exact hlaw

/-- The hub with the costs of its neighbors folded in, and with prices and weights on everything agreed. -/
def pricedHub : Agent Rat :=
  { hub with
    approximation := ⟨true, false⟩
    desired := .constant 0 [0] [1, 2] [3] []
    couplingState := .constant 0 [0] [] [2] []
    multiplierState := .constant 0 [0] [] [3] []
    penaltyState := .constant 0 [0] [] [5] []
    neighbors := hub.neighbors.map fun nb => { nb with
      neighborCount := 1
      desired := .constant nb.id [0] [7] [1, 2] []
      couplingState := .constant nb.id [0] [] [1, -1] []
      externalInfluence := .constant nb.id [0] [] [] [4]
      influenceCoupling := .constant 0 [0] [] [] [1, 2]
      influenceMultiplier := .constant 0 [0] [] [] [2, 3]
      influencePenalty := .constant 0 [0] [] [] [1, 4]
      copyMultiplier := .constant nb.id [0] [] [1, 2] [3]
      copyPenalty := .constant nb.id [0] [] [2, 3] [5] } }

theorem pricedHub_costs : pricedHub.CostsAdjoint := by
  constructor
  · exact hubModel.costsAdjoint
  · have hmodels : ∀ nb ∈ pricedHub.neighbors, nb.model = leafModel.toModel := by
      simp [pricedHub, hub, Neighbor.new]
    intro nb hnb
    rw [hmodels nb hnb]
    exact leafModel.costsAdjoint
  · have hsending : ∀ nb ∈ pricedHub.neighbors,
        nb.relation.sending = none ∨ nb.relation.sending = some leafToHub.toModel := by
      simp [pricedHub, hub, Neighbor.new, Relation.uncoupled]
    intro nb hnb f hf
    rcases hsending nb hnb with hnone | hsome
    · simp [hf] at hnone
    · obtain rfl := Option.some.inj (hf.symm.trans hsome)
      exact leafToHub.affine _ _ _ _ _

def pricedProblem : LocalProblem Rat := ⟨pricedHub, hubProblem.layout⟩

theorem priced_costs_adjoint :
    (pricedProblem.agent.layout = .ok pricedProblem.layout ∧ pricedProblem.agent.CostsAdjoint ∧
      hubPoint.Sized 6 13 ∧ hubDirection.Sized 6 13) ∧
    let p := pricedProblem.toProblem
    (∃ gx gu, p.stageCostDx hubPoint = .ok gx ∧ p.stageCostDu hubPoint = .ok gu ∧
      Vec.dot gx hubDirection.x + Vec.dot gu hubDirection.u = 5381 / 5) ∧
    ∃ gx, p.terminalCostDx 0 hubPoint.x = .ok gx ∧ Vec.dot gx hubDirection.x = -12 := by
  have hlayout : pricedProblem.agent.layout = .ok pricedProblem.layout := by rfl
  have hz : hubPoint.Sized 6 13 := ⟨rfl, rfl⟩
  have hd : hubDirection.Sized 6 13 := ⟨rfl, rfl⟩
  have hstage : pricedProblem.toProblem.stageCost (hubPoint.along 1 hubDirection) -
      pricedProblem.toProblem.stageCost (hubPoint.along (-1) hubDirection) = 10762 / 5 := by
    decide +kernel
  have hterminal : pricedProblem.toProblem.terminalCost 0 (Vec.addScaled 1 hubDirection.x hubPoint.x) -
      pricedProblem.toProblem.terminalCost 0 (Vec.addScaled (-1) hubDirection.x hubPoint.x) = -24 := by
    decide +kernel
  obtain ⟨⟨gx, gu, hgx, hgu, -, -, hlaw⟩, gv, hgv, -, hlast⟩ :=
    costs_adjoint hlayout pricedHub_costs hz hd
  refine ⟨⟨hlayout, pricedHub_costs, hz, hd⟩, ⟨gx, gu, hgx, hgu, ?_⟩, gv, hgv, ?_⟩
  · rw [hstage] at hlaw
    linear_combination -hlaw / 2
  · rw [show hubPoint.t = 0 from rfl, hterminal] at hlast
    linear_combination -hlast / 2

end LocalProblem

end ConsensusControl
