import ConsensusControl.Problem.Extended
import ConsensusControl.Proofs.Affine
import ConsensusControl.Proofs.Problem.Layout

namespace ConsensusControl

/-- The models an agent works with obey the law in the dimensions of those they belong to. -/
structure Agent.Adjoint (a : Agent Rat) : Prop where
  own : a.model.dynamics.Adjoint a.nx a.nu a.nx
  models : ∀ nb ∈ a.neighbors, nb.model.dynamics.Adjoint nb.nx nb.nu nb.nx
  sending : ∀ nb ∈ a.neighbors, ∀ f, nb.relation.sending = some f →
    f.dynamics.Adjoint a.nx a.nu nb.nx nb.nu a.nx
  receiving : ∀ nb ∈ a.neighbors, ∀ f, nb.relation.receiving = some f →
    f.dynamics.Adjoint nb.nx nb.nu a.nx a.nu nb.nx

namespace LocalProblem

variable (p : LocalProblem Rat)

/-- The extended dynamics with their transposed Jacobians. -/
def extendedMap : AgentMap Rat := ⟨p.addDynamics, p.addDynamicsDx, p.addDynamicsDu⟩

def ownMap : AgentMap Rat := p.agent.model.dynamics.within p.index.ownX p.index.ownU p.index.ownX

/-- What a neighbor sends to the agent. -/
def sendingMap (q : Neighbor Rat × NeighborBlock) : AgentMap Rat :=
  match q.1.relation.sending with
  | none => .none
  | some f => f.dynamics.within p.index.ownX p.index.ownU q.2.x q.2.u p.index.ownX

/-- What the agent sends to a neighbor it predicts. -/
def receivingMap (q : Neighbor Rat × NeighborBlock) : AgentMap Rat :=
  match q.1.relation.receiving with
  | none => .none
  | some f => f.dynamics.within q.2.x q.2.u p.index.ownX p.index.ownU q.2.x

def predictionMap (q : Neighbor Rat × NeighborBlock) : AgentMap Rat :=
  if q.1.approximated then
    ⟨(p.surroundings q.1).dynamics, (p.surroundings q.1).dynamicsDx, (p.surroundings q.1).dynamicsDu⟩
  else .none

/-- The extended dynamics are a sum of functions of parts of the extended point. -/
theorem extendedMap_eq : p.extendedMap = p.ownMap.andThen
    (.each (fun q => (p.sendingMap q).andThen (p.predictionMap q)) p.pairs) := by
  refine AgentMap.mk.injEq .. ▸ ⟨funext₂ fun z out => ?_, funext₃ fun z w out => ?_,
    funext₃ fun z w out => ?_⟩
  all_goals
    refine List.foldl_ext _ _ _ fun out q _ => ?_
    dsimp only [AgentMap.andThen, sendingMap, predictionMap]
    cases q.1.relation.sending <;> cases q.1.approximated <;> rfl

variable {p}
variable {q : Neighbor Rat × NeighborBlock}

variable (p) in
/-- The sum of a neighbor's own motion, the influence slot and what the agent sends. -/
def predictedMap (q : Neighbor Rat × NeighborBlock) : AgentMap Rat :=
  ((q.1.model.dynamics.within q.2.x q.2.u q.2.x).andThen (.slot q.2.v q.2.x)).andThen (p.receivingMap q)

/-- A prediction finds its block by the neighbor's id, and changes it in one go. -/
theorem Indexed.predicted (h : p.Indexed) (hq : q ∈ p.pairs)
    (hadds : ∀ z, z.Sized q.1.nx q.1.nu → Vec.Adds q.1.nx (q.1.model.dynamics.value z)) :
    (∀ z out, z.Sized p.index.nx p.index.nu → out.length = p.index.nx →
      (p.surroundings q.1).dynamics z out = (p.predictedMap q).value z out) ∧
      (p.surroundings q.1).dynamicsDx = (p.predictedMap q).dx ∧
      (p.surroundings q.1).dynamicsDu = (p.predictedMap q).du := by
  obtain ⟨hx, hu, -⟩ := (IndexMap.inside_of_build h).blocks q.2 (List.of_mem_zip hq).2
  obtain ⟨hnx, hnu, -⟩ := h.sizes hq
  have hblock : (p.surroundings q.1).block? = some q.2 := h.block?_of_mem hq
  refine ⟨fun z out hz hout => ?_, funext₃ fun z w out => ?_, funext₃ fun z w out => ?_⟩
  · have hpart := hz.part hx hu
    rw [hnx, hnu] at hpart
    have hread : (q.2.x.read out).length = q.1.nx :=
      (Block.length_read_of_stop (hx.trans_eq hout.symm)).trans hnx
    have hmoved : (q.1.model.dynamics.value (z.part q.2.x q.2.u) (q.2.x.read out)).length = q.2.x.size := by
      rw [hnx]
      exact (hadds _ hpart).length hread
    have hslotted := Block.update_update (f := Vec.add (q.2.v.read z.u)) (hx.trans_eq hout.symm) hmoved
    unfold Surroundings.dynamics
    rw [hblock]
    dsimp only [predictedMap, AgentMap.andThen, AgentMap.within, AgentMap.slot, receivingMap]
    rw [hslotted]
    cases hreceives : q.1.relation.receiving with
    | none => simp only [surroundings, hreceives]; rfl
    | some f =>
      simp only [surroundings, hreceives]
      refine (Block.update_update (hx.trans_eq hout.symm) ?_).symm
      rw [Vec.length_add]
      exact hmoved
  · dsimp only [Surroundings.dynamicsDx, predictedMap, AgentMap.andThen, AgentMap.slot, receivingMap]
    rw [hblock]
    cases hreceives : q.1.relation.receiving <;> simp only [surroundings, hreceives] <;> rfl
  · dsimp only [Surroundings.dynamicsDu, predictedMap, AgentMap.andThen, AgentMap.slot, receivingMap]
    rw [hblock]
    cases hreceives : q.1.relation.receiving <;> simp only [surroundings, hreceives] <;> rfl

theorem Indexed.adjoint_prediction (h : p.Indexed) (ha : p.agent.Adjoint) (hq : q ∈ p.pairs) :
    (p.predictionMap q).Adjoint p.index.nx p.index.nu p.index.nx := by
  obtain ⟨hx, hu, hv⟩ := (IndexMap.inside_of_build h).blocks q.2 (List.of_mem_zip hq).2
  have hinside := IndexMap.inside_of_build h
  obtain ⟨hnx, hnu, -⟩ := h.sizes hq
  have hmem : q.1 ∈ p.agent.neighbors := (List.of_mem_zip hq).1
  have hmodel : (q.1.model.dynamics.within q.2.x q.2.u q.2.x).Adjoint p.index.nx p.index.nu p.index.nx :=
    AgentMap.Adjoint.within (by rw [hnx, hnu]; exact ha.models q.1 hmem) hx hu hx
  have hslot : (AgentMap.slot q.2.v q.2.x).Adjoint p.index.nx p.index.nu p.index.nx :=
    AgentMap.Adjoint.slot hv hx
  have hreceiving : (p.receivingMap q).Adjoint p.index.nx p.index.nu p.index.nx := by
    unfold receivingMap
    split
    · exact .none _ _ _
    · next f hf =>
      have hf := ha.receiving q.1 hmem f hf
      rw [← hnx, ← hnu, ← h.nxOwn, ← h.nuOwn] at hf
      exact PairMap.Adjoint.within hf hx hu hinside.ownX hinside.ownU hx
  obtain ⟨hvalue, hdx, hdu⟩ := h.predicted hq (ha.models q.1 hmem).value
  unfold predictionMap
  split
  · exact ((hmodel.andThen hslot).andThen hreceiving).of_value_eq hvalue hdx hdu
  · exact .none _ _ _

/-- The law carries over from the models to the extended dynamics, whatever the relations are and
whoever is predicted. -/
theorem Indexed.adjoint (h : p.Indexed) (ha : p.agent.Adjoint) :
    p.extendedMap.Adjoint p.index.nx p.index.nu p.index.nx := by
  have hinside := IndexMap.inside_of_build h
  have hown : p.ownMap.Adjoint p.index.nx p.index.nu p.index.nx := by
    have hmodel := ha.own
    rw [← h.nxOwn, ← h.nuOwn] at hmodel
    exact AgentMap.Adjoint.within hmodel hinside.ownX hinside.ownU hinside.ownX
  rw [extendedMap_eq]
  refine hown.andThen (.each fun q hq => .andThen ?_ (h.adjoint_prediction ha hq))
  obtain ⟨hx, hu, -⟩ := hinside.blocks q.2 (List.of_mem_zip hq).2
  obtain ⟨hnx, hnu, -⟩ := h.sizes hq
  unfold sendingMap
  split
  · exact .none _ _ _
  · next f hf =>
    have hf := ha.sending q.1 (List.of_mem_zip hq).1 f hf
    rw [← hnx, ← hnu, ← h.nxOwn, ← h.nuOwn] at hf
    exact PairMap.Adjoint.within hf hinside.ownX hinside.ownU hx hu hinside.ownX

/-- Along every direction, the product of any vector with the extended dynamics moves by twice what the
transposed Jacobians make of it. -/
theorem dynamics_adjoint (hp : p.agent.layout = .ok p.layout) (ha : p.agent.Adjoint) {z d : Point Rat}
    {w : Vec Rat} (hz : z.Sized p.layout.dims.nx p.layout.dims.nu)
    (hd : d.Sized p.layout.dims.nx p.layout.dims.nu) (hw : w.length = p.layout.dims.nx) :
    ((∀ s, (p.toProblem.dynamics (z.along s d)).length = p.layout.dims.nx) ∧
      (p.toProblem.dynamicsDx z w).length = p.layout.dims.nx ∧
      (p.toProblem.dynamicsDu z w).length = p.layout.dims.nu) ∧
    Vec.dot w (Vec.sub (p.toProblem.dynamics (z.along 1 d)) (p.toProblem.dynamics (z.along (-1) d))) =
      2 * (Vec.dot (p.toProblem.dynamicsDx z w) d.x + Vec.dot (p.toProblem.dynamicsDu z w) d.u) := by
  have h : p.extendedMap.Adjoint p.layout.dims.nx p.layout.dims.nu p.layout.dims.nx :=
    Indexed.adjoint (Agent.indexMap_of_layout hp) ha
  exact ⟨⟨fun s => (h.value _ (hz.along s d)).length_zeros, (h.dx z w hz hw).length_zeros,
    (h.du z w hz hw).length_zeros⟩, h.law z d w hz hd hw⟩

/-- Two states, one control. -/
def hubModel : LinearAgent Rat :=
  ⟨"hub", 2, 1, ⟨[[0, 1], [-2, -3]]⟩, ⟨[[0], [1]]⟩, [1, 1], [1], [1, 1], none⟩

/-- One state, two controls. -/
def leafModel : LinearAgent Rat := ⟨"leaf", 1, 2, ⟨[[-1]]⟩, ⟨[[1, 2]]⟩, [1], [1, 1], [1], none⟩

/-- A leaf in the dynamics of the hub. -/
def leafToHub : LinearCoupling Rat := ⟨⟨[[3], [5]]⟩, ⟨[[0, 1], [1, 0]]⟩⟩

/-- The hub in the dynamics of a leaf. -/
def hubToLeaf : LinearCoupling Rat := ⟨⟨[[7, -1]]⟩, ⟨[[4]]⟩⟩

/-- A hub with leaves of all kinds of relation, all but one of them predicted. -/
def hub : Agent Rat :=
  let leaf (id : AgentId) (relation : Relation Rat) (approximated : Bool) : Neighbor Rat :=
    { Neighbor.new id leafModel.toModel relation with approximated }
  { Agent.new 0 hubModel.toModel with
    neighbors :=
      [leaf 1 .uncoupled true, leaf 2 ⟨some leafToHub.toModel, none⟩ false,
        leaf 3 ⟨none, some hubToLeaf.toModel⟩ true,
        leaf 4 ⟨some leafToHub.toModel, some hubToLeaf.toModel⟩ true] }

theorem hub_adjoint : hub.Adjoint := by
  have hcases : ∀ nb ∈ hub.neighbors, nb.model = leafModel.toModel ∧
      (nb.relation.sending = none ∨ nb.relation.sending = some leafToHub.toModel) ∧
      (nb.relation.receiving = none ∨ nb.relation.receiving = some hubToLeaf.toModel) := by
    simp [hub, Neighbor.new, Relation.uncoupled]
  refine ⟨hubModel.adjoint _ _ _, fun nb hnb => ?_, fun nb hnb f hf => ?_, fun nb hnb f hf => ?_⟩
  · rw [(hcases nb hnb).1]
    exact leafModel.adjoint _ _ _
  · obtain hnone | hsome := (hcases nb hnb).2.1
    · simp [hf] at hnone
    · obtain rfl := Option.some.inj (hf.symm.trans hsome)
      exact leafToHub.adjoint _ _ _ _ _
  · obtain hnone | hsome := (hcases nb hnb).2.2
    · simp [hf] at hnone
    · obtain rfl := Option.some.inj (hf.symm.trans hsome)
      exact hubToLeaf.adjoint _ _ _ _ _

def hubProblem : LocalProblem Rat where
  agent := hub
  layout := ⟨.laid 2 1 hub.entries, 0, 0⟩

def hubPoint : Point Rat := ⟨0, [1, -1, 2, 0, 3, 1], [1, 2, 3, 4, 5, 6, 7, 8, 9, 10, 11, 12, 13]⟩

def hubDirection : Point Rat := ⟨0, [1, 0, 2, 0, -1, 1], [1, 0, 0, 1, 0, 1, 0, 0, -1, 1, 0, 2, 1]⟩

theorem hub_dynamics_adjoint :
    (hubProblem.agent.layout = .ok hubProblem.layout ∧ hubProblem.agent.Adjoint ∧
      hubPoint.Sized 6 13 ∧ hubDirection.Sized 6 13) ∧
    let w : Vec Rat := [1, 2, 3, 4, 5, 6]
    let p := hubProblem.toProblem
    Vec.dot w (Vec.sub (p.dynamics (hubPoint.along 1 hubDirection))
        (p.dynamics (hubPoint.along (-1) hubDirection))) =
      2 * (Vec.dot (p.dynamicsDx hubPoint w) hubDirection.x +
        Vec.dot (p.dynamicsDu hubPoint w) hubDirection.u) ∧
    Vec.dot (p.dynamicsDx hubPoint w) hubDirection.x = 79 ∧
    Vec.dot (p.dynamicsDu hubPoint w) hubDirection.u = 77 := by
  have hlayout : hubProblem.agent.layout = .ok hubProblem.layout := by rfl
  have hz : hubPoint.Sized 6 13 := ⟨rfl, rfl⟩
  have hd : hubDirection.Sized 6 13 := ⟨rfl, rfl⟩
  exact ⟨⟨hlayout, hub_adjoint, hz, hd⟩, (dynamics_adjoint hlayout hub_adjoint hz hd rfl).2,
    by decide +kernel, by decide +kernel⟩

end LocalProblem

end ConsensusControl
