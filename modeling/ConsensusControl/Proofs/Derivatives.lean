import ConsensusControl.Proofs.Checked
import ConsensusControl.Proofs.Problem.Constraints

namespace ConsensusControl

/-- Every routine adds its value to what is there, and along every direction the dynamics, the constraints
and the costs move as the routines for their derivatives say. -/
structure AgentModel.Exact (m : AgentModel Rat) : Prop where
  dynamics : m.dynamics.Adjoint m.nx m.nu m.nx
  constraints : ∀ kind, (m.constraints kind).Adjoint m.nx m.nu (m.constraintCount kind)
  costs : m.CostsAdjoint
  stageCostDx : ∀ z des, Vec.Adds m.nx (m.stageCostDx z des)
  stageCostDu : ∀ z des, Vec.Adds m.nu (m.stageCostDu z des)
  terminalCostDx : ∀ t x des, Vec.Adds m.nx (m.terminalCostDx t x des)

/-- Every routine adds its value to what is there, and along every direction of both sides at once the
dynamics and the constraints move as the routines for their derivatives say. -/
structure CouplingModel.Exact (nxi nui nxj nuj : Nat) (m : CouplingModel Rat) : Prop where
  dynamics : m.dynamics.Adjoint nxi nui nxj nuj nxi
  constraints : ∀ kind, (m.constraints kind).Adjoint nxi nui nxj nuj (m.constraintCount kind)

theorem AgentModel.Weighted.exact_of_adjoint {m : AgentModel Rat} {q r p : Vec Rat} (h : m.Weighted q r p)
    (hdynamics : m.dynamics.Adjoint m.nx m.nu m.nx)
    (hconstraints : ∀ kind, (m.constraints kind).Adjoint m.nx m.nu (m.constraintCount kind)) :
    m.Exact where
  dynamics := hdynamics
  constraints := hconstraints
  costs := h.costsAdjoint
  stageCostDx z des := by
    rw [h.stageCostDx]
    exact Vec.adds_addWeightedDistanceGrad _ _ _ _
  stageCostDu z des := by
    rw [h.stageCostDu]
    exact Vec.adds_addWeightedDistanceGrad _ _ _ _
  terminalCostDx t x des := by
    rw [h.terminalCostDx]
    exact Vec.adds_addWeightedDistanceGrad _ _ _ _

namespace LinearAgent

/-- Bounds are on all of the control. -/
def BoundsFit (m : LinearAgent Rat) : Prop :=
  ∀ lower upper, m.bounds = some (lower, upper) → lower.length = m.nu ∧ upper.length = m.nu

/-- The linear agents that there are: what is built from matrices, and then given weights, bounds or
another name. -/
inductive Built : LinearAgent Rat → Prop
  | matrices {a b : Vec Rat} {nx nu : Nat} {m : LinearAgent Rat} (h : ofRowMajor a b nx nu = .ok m) :
    Built m
  | weighted {m m' : LinearAgent Rat} {q r p : Vec Rat} (built : Built m)
    (h : m.withWeights q r p = .ok m') : Built m'
  | bounded {m m' : LinearAgent Rat} {lower upper : Vec Rat} (built : Built m)
    (h : m.withControlBounds lower upper = .ok m') : Built m'
  | renamed {m : LinearAgent Rat} (name : String) (built : Built m) : Built { m with name }

theorem Built.boundsFit {m : LinearAgent Rat} (h : m.Built) : m.BoundsFit := by
  induction h with
  | matrices h =>
    obtain ⟨-, -, h⟩ := bind_eq_ok.mp h
    obtain ⟨-, -, h⟩ := bind_eq_ok.mp h
    obtain rfl := pure_eq_ok.mp h
    intro lower upper hbounds
    cases hbounds
  | weighted _ h ih =>
    obtain ⟨-, -, h⟩ := bind_eq_ok.mp h
    obtain ⟨-, -, h⟩ := bind_eq_ok.mp h
    obtain ⟨-, -, h⟩ := bind_eq_ok.mp h
    obtain rfl := pure_eq_ok.mp h
    exact ih
  | bounded _ h =>
    obtain ⟨_, hlower, h⟩ := bind_eq_ok.mp h
    obtain ⟨_, hupper, h⟩ := bind_eq_ok.mp h
    obtain rfl := pure_eq_ok.mp h
    intro lower upper hbounds
    obtain ⟨rfl, rfl⟩ := Prod.mk.inj (Option.some.inj hbounds)
    exact ⟨Checked.require_eq_ok.mp hlower, Checked.require_eq_ok.mp hupper⟩
  | renamed _ _ ih => exact ih

variable {m : LinearAgent Rat} {lower upper : Vec Rat}

/-- Both halves of the bounds move with the control, the second one against it. -/
theorem dot_bounds {nu : Nat} {w u lower upper : Vec Rat} (hw : w.length = 2 * nu) (hu : u.length = nu)
    (hlower : lower.length = nu) (hupper : upper.length = nu) :
    Vec.dot w (Vec.sub u upper ++ Vec.sub lower u) =
      Vec.dot (Vec.sub (w.take nu) (w.drop nu)) u +
        (Vec.dot (w.drop nu) lower - Vec.dot (w.take nu) upper) := by
  have htake : (w.take nu).length = nu := by simp; omega
  have hdrop : (w.drop nu).length = nu := by simp; omega
  have hsplit : Vec.dot w (Vec.sub u upper ++ Vec.sub lower u) =
      Vec.dot (w.take nu) (Vec.sub u upper) + Vec.dot (w.drop nu) (Vec.sub lower u) := by
    conv_lhs => rw [← List.take_append_drop nu w]
    exact Vec.dot_append (by simp [Vec.sub, htake, hu, hupper])
  rw [hsplit, Vec.dot_sub _ (hu.trans hupper.symm), Vec.dot_sub _ (hlower.trans hu.symm),
    Vec.dot_comm (Vec.sub _ _) u, Vec.dot_sub _ (htake.trans hdrop.symm), Vec.dot_comm u, Vec.dot_comm u]
  ring

theorem affine_bounds (hbounds : m.bounds = some (lower, upper)) (hlower : lower.length = m.nu)
    (hupper : upper.length = m.nu) : m.inequality.Affine m.nx m.nu (2 * m.nu) := by
  unfold inequality
  rw [hbounds]
  constructor
  · intro z _
    exact Vec.adds_add _ _
  · intro z w _ _
    exact .same m.nx
  · intro z w _ _
    exact Vec.adds_add _ _
  · intro z d w s hz hd hw
    have hmoved := hz.along s d
    have hdual : Vec.dot (Vec.add (Vec.sub (w.take m.nu) (w.drop m.nu)) (Vec.zeros m.nu)) d.u =
        Vec.dot (Vec.sub (w.take m.nu) (w.drop m.nu)) d.u := by
      rw [Vec.dot_comm, Vec.dot_add_zeros hd.u, Vec.dot_comm]
    dsimp only
    rw [Vec.dot_sub w (by simp), Vec.dot_add_zeros hw, Vec.dot_add_zeros hw]
    change Vec.dot w (Vec.sub (z.along s d).u upper ++ Vec.sub lower (z.along s d).u) -
      Vec.dot w (Vec.sub z.u upper ++ Vec.sub lower z.u) = s * (_ + Vec.dot (Vec.add (Vec.sub _ _) _) _)
    rw [dot_bounds hw hmoved.u hlower hupper, dot_bounds hw hz.u hlower hupper, hdual, Vec.zeros_dot]
    dsimp only [Point.along]
    rw [Vec.dot_addScaled _ s (hd.u.trans hz.u.symm)]
    ring

theorem affine_inequality (h : m.BoundsFit) : m.inequality.Affine m.nx m.nu m.toModel.nh := by
  cases hbounds : m.bounds with
  | none =>
    unfold inequality
    rw [hbounds]
    exact .none _ _ _
  | some bounds =>
    obtain ⟨hlower, hupper⟩ := h _ _ hbounds
    have hcount : m.toModel.nh = 2 * m.nu := by simp [toModel, hbounds]
    rw [hcount]
    exact affine_bounds hbounds hlower hupper

theorem toModel_exact (h : m.BoundsFit) : m.toModel.Exact :=
  m.weighted.exact_of_adjoint (m.adjoint _ _ _) fun kind =>
    match kind with
    | .equality => .none _ _ _
    | .inequality => (affine_inequality h).adjoint

end LinearAgent

theorem LinearCoupling.toModel_exact (m : LinearCoupling Rat) (nxi nui nxj nuj : Nat) :
    m.toModel.Exact nxi nui nxj nuj where
  dynamics := m.adjoint _ _ _ _ _
  constraints kind := by cases kind <;> exact .none _ _ _ _ _

namespace PowerNode

theorem affine (m : PowerNode Rat) : m.dynamics.Affine 2 1 2 where
  value z _ := m.adds 2 z
  dx z w _ _ := Vec.adds_modify 2 1 _
  du z w _ _ := Vec.adds_modify 1 0 _
  law z d w s hz hd hw := by
    obtain ⟨t, x, u⟩ := z
    obtain ⟨t', x', u'⟩ := d
    obtain ⟨θ, ω, rfl⟩ := List.length_eq_two.mp hz.x
    obtain ⟨v, rfl⟩ := List.length_eq_one_iff.mp hz.u
    obtain ⟨θ', ω', rfl⟩ := List.length_eq_two.mp hd.x
    obtain ⟨v', rfl⟩ := List.length_eq_one_iff.mp hd.u
    obtain ⟨w₀, w₁, rfl⟩ := List.length_eq_two.mp hw
    have hvalue : ∀ θ ω v : Rat, m.dynamics.value ⟨t, [θ, ω], [v]⟩ (Vec.zeros 2) =
        [0 + ω, 0 + (-Scalar.two * m.damping / m.inertia * ω +
          (m.generation - m.load + v) * m.controlGain)] := fun _ _ _ => rfl
    have hmoved : Point.along ⟨t, [θ, ω], [v]⟩ s ⟨t', [θ', ω'], [v']⟩ =
        ⟨t, [θ + s * θ', ω + s * ω'], [v + s * v']⟩ := rfl
    have hdx : m.dynamics.dx ⟨t, [θ, ω], [v]⟩ [w₀, w₁] (Vec.zeros 2) =
        [0, 0 + (w₀ - Scalar.two * m.damping / m.inertia * w₁)] := rfl
    have hdu : m.dynamics.du ⟨t, [θ, ω], [v]⟩ [w₀, w₁] (Vec.zeros 1) = [0 + m.controlGain * w₁] := rfl
    rw [hmoved, hvalue, hvalue, hdx, hdu]
    simp only [Vec.sub, List.zipWith_cons_cons, List.zipWith_nil_left, Vec.dot_cons_cons, Vec.dot_nil_left]
    ring

theorem toModel_exact (m : PowerNode Rat) : m.toModel.Exact :=
  m.weighted.exact_of_adjoint m.affine.adjoint fun kind => by cases kind <;> exact .none _ _ _

end PowerNode

/-- Linear agents, bounded or not, linear couplings and power nodes, whatever their numbers. -/
theorem models_exact :
    (∀ m : LinearAgent Rat, m.Built → m.toModel.Exact) ∧
      (∀ (m : LinearCoupling Rat) (nxi nui nxj nuj : Nat), m.toModel.Exact nxi nui nxj nuj) ∧
      ∀ m : PowerNode Rat, m.toModel.Exact :=
  ⟨fun _ h => LinearAgent.toModel_exact h.boundsFit, LinearCoupling.toModel_exact,
    PowerNode.toModel_exact⟩

/-- An oscillator with bounds on two controls. -/
theorem oscillator_exact :
    let m : LinearAgent Rat :=
      ⟨"linear", 2, 2, ⟨[[0, 1], [-2, -1 / 2]]⟩, ⟨[[0, 1], [1, 1 / 2]]⟩, [1, 2], [1 / 10, 3 / 10], [5, 1],
        some ([-1, -2], [1, 2])⟩
    let z : Point Rat := ⟨0, [1, 2], [3, -1]⟩
    let d : Point Rat := ⟨0, [1, -1], [2, 1]⟩
    let w : Vec Rat := [1, 2, 3, 4]
    m.Built ∧ m.toModel.Exact ∧ (m.inequality.du z w [1, 1] = [-1, -1]) ∧
      Vec.dot w (Vec.sub (m.inequality.value (z.along 1 d) (Vec.zeros 4))
        (m.inequality.value (z.along (-1) d) (Vec.zeros 4))) = -12 := by
  intro m z d w
  have hbuilt : m.Built := by
    let plain : LinearAgent Rat := { m with q := [1, 1], r := [1, 1], p := [1, 1], bounds := none }
    have hplain : LinearAgent.ofRowMajor [0, 1, -2, -1 / 2] [0, 1, 1, 1 / 2] 2 2 = .ok plain := rfl
    have hweights : plain.withWeights [1, 2] [1 / 10, 3 / 10] [5, 1] = .ok { m with bounds := none } := rfl
    have hbounds : ({ m with bounds := none } : LinearAgent Rat).withControlBounds [-1, -2] [1, 2] =
        .ok m := rfl
    exact .bounded (.weighted (.matrices hplain) hweights) hbounds
  have hexact := models_exact.1 m hbuilt
  refine ⟨hbuilt, hexact, by decide +kernel, ?_⟩
  have hdual : 2 * (Vec.dot (m.inequality.dx z w (Vec.zeros 2)) d.x +
      Vec.dot (m.inequality.du z w (Vec.zeros 2)) d.u) = -12 := by
    decide +kernel
  exact ((hexact.constraints .inequality).law z d w ⟨rfl, rfl⟩ ⟨rfl, rfl⟩ rfl).trans hdual

end ConsensusControl
