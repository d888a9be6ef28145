import ConsensusControl.Proofs.Problem.Adjoint

namespace ConsensusControl

namespace ConstraintGroup

variable {α : Type} {kind : ConstraintKind} {groups : List (ConstraintGroup α)} {offset : Nat}
  {q : ConstraintGroup α × Block}

/-- A group is placed where all before it have taken their room. -/
theorem place_within (h : q ∈ place kind offset groups) :
    q.1 ∈ groups ∧ q.2.size = q.1.count kind ∧
      q.2.stop ≤ offset + (groups.map (·.count kind)).sum := by
  induction groups generalizing offset with
  | nil => simp [place] at h
  | cons g groups ih =>
    rw [List.map_cons, List.sum_cons]
    by_cases hempty : g.count kind = 0
    · rw [place, if_pos hempty] at h
      obtain ⟨hmem, hsize, hstop⟩ := ih h
      exact ⟨List.mem_cons_of_mem g hmem, hsize, by omega⟩
    · rw [place, if_neg hempty] at h
      rcases List.mem_cons.mp h with rfl | h
      · refine ⟨List.mem_cons_self, rfl, ?_⟩
        simp only [Block.stop]
        omega
      · obtain ⟨hmem, hsize, hstop⟩ := ih h
        exact ⟨List.mem_cons_of_mem g hmem, hsize, by omega⟩

end ConstraintGroup

theorem Agent.constraintCount_eq_sum {α : Type} (a : Agent α) (kind : ConstraintKind) :
    a.constraintCount kind = a.model.constraintCount kind +
      (a.neighbors.map (a.neighborConstraintCount kind)).sum := by
  unfold Agent.constraintCount
  generalize a.model.constraintCount kind = start
  induction a.neighbors generalizing start with
  | nil => simp
  | cons nb nbs ih => rw [List.foldl_cons, ih, List.map_cons, List.sum_cons, Nat.add_assoc]

theorem Agent.constraintCount_of_layout {α : Type} [Scalar α] {a : Agent α} {l : Layout}
    (h : a.layout = .ok l) (kind : ConstraintKind) :
    l.dims.constraintCount kind = a.constraintCount kind := by
  obtain ⟨index, -, hpure⟩ := bind_eq_ok.mp h
  rw [← Except.ok.inj hpure]
  cases kind <;> rfl

namespace LocalProblem

/-- The groups of a neighbor have as many constraints as the neighbor counts for. -/
theorem count_neighborGroups {α : Type} (p : LocalProblem α) (kind : ConstraintKind)
    (nb : Neighbor α) (b : NeighborBlock) :
    ((p.neighborGroups nb b).map (·.count kind)).sum = p.agent.neighborConstraintCount kind nb := by
  unfold neighborGroups Agent.neighborConstraintCount
  cases nb.relation.sending <;> cases nb.relation.receiving <;>
    cases p.agent.approximation.constraints <;> simp [ConstraintGroup.count]

/-- All groups together have the constraints that the agent counts. -/
theorem count_groups {α : Type} {p : LocalProblem α}
    (h : p.pairs.map Prod.fst = p.agent.neighbors) (kind : ConstraintKind) :
    ((ConstraintGroup.own p.agent.model :: p.pairs.flatMap fun q => p.neighborGroups q.1 q.2).map
      (·.count kind)).sum = p.agent.constraintCount kind := by
  rw [List.map_cons, List.sum_cons, p.agent.constraintCount_eq_sum, ← h, List.map_map]
  congr 1
  induction p.pairs with
  | nil => rfl
  | cons q pairs ih =>
    rw [List.flatMap_cons, List.map_append, List.sum_append, ih, count_neighborGroups, List.map_cons,
      List.sum_cons]
    rfl

variable {α : Type} {p : LocalProblem α} {kind : ConstraintKind} {g : ConstraintGroup α × Block}

/-- Where a group of the extended problem comes from. -/
theorem mem_constraintGroups (h : g ∈ p.constraintGroups kind) :
    g.1 = .own p.agent.model ∨ ∃ q ∈ p.pairs, g.1 ∈ p.neighborGroups q.1 q.2 := by
  rcases List.mem_cons.mp (ConstraintGroup.place_within h).1 with hown | hneighbor
  · exact .inl hown
  · exact .inr (List.mem_flatMap.mp hneighbor)

theorem mem_neighborGroups {q : Neighbor α × NeighborBlock} {g : ConstraintGroup α}
    (h : g ∈ p.neighborGroups q.1 q.2) :
    (∃ f, q.1.relation.sending = some f ∧ g = .coupling f q.2) ∨ g = .neighbor q.1.model q.2 ∨
      ∃ f, q.1.relation.receiving = some f ∧ g = .copiedCoupling f q.2 := by
  unfold neighborGroups at h
  cases hsending : q.1.relation.sending <;> cases hreceiving : q.1.relation.receiving <;>
    cases hfolded : p.agent.approximation.constraints <;> simp_all

end LocalProblem

/-- The constraints of one kind of all models that an agent works with obey the law in the dimensions of
those they belong to. -/
structure Agent.ConstraintsAdjoint (a : Agent Rat) (kind : ConstraintKind) : Prop where
  own : (a.model.constraints kind).Adjoint a.nx a.nu (a.model.constraintCount kind)
  models : ∀ nb ∈ a.neighbors,
    (nb.model.constraints kind).Adjoint nb.nx nb.nu (nb.model.constraintCount kind)
  sending : ∀ nb ∈ a.neighbors, ∀ f, nb.relation.sending = some f →
    (f.constraints kind).Adjoint a.nx a.nu nb.nx nb.nu (f.constraintCount kind)
  receiving : ∀ nb ∈ a.neighbors, ∀ f, nb.relation.receiving = some f →
    (f.constraints kind).Adjoint nb.nx nb.nu a.nx a.nu (f.constraintCount kind)

namespace LocalProblem

variable (p : LocalProblem Rat) (kind : ConstraintKind)

/-- A group of constraints at its place, as a function of the extended point. -/
def groupMap (g : ConstraintGroup Rat × Block) : AgentMap Rat :=
  match g.1 with
  | .own m => (m.constraints kind).within p.index.ownX p.index.ownU g.2
  | .coupling f b => (f.constraints kind).within p.index.ownX p.index.ownU b.x b.u g.2
  | .neighbor m b => (m.constraints kind).within b.x b.u g.2
  | .copiedCoupling f b => (f.constraints kind).within b.x b.u p.index.ownX p.index.ownU g.2

/-- The extended constraints with their transposed Jacobians. -/
def constraintsMap : AgentMap Rat :=
  ⟨p.addConstraints kind, p.addConstraintsDx kind, p.addConstraintsDu kind⟩

/-- The extended constraints are the groups, each at its place. -/
theorem constraintsMap_eq :
    p.constraintsMap kind = .each (p.groupMap kind) (p.constraintGroups kind) := by
  refine AgentMap.mk.injEq .. ▸ ⟨funext₂ fun z out => ?_, funext₃ fun z w out => ?_,
    funext₃ fun z w out => ?_⟩
  all_goals
    apply List.foldl_ext
    intro out g _
    obtain ⟨group, place⟩ := g
    cases group <;> rfl

variable {p} {kind} {g : ConstraintGroup Rat × Block}

/-- The law of the model carries over to the group, whichever side of a coupling the agent is on. -/
theorem Indexed.adjoint_group (h : p.Indexed) (ha : p.agent.ConstraintsAdjoint kind)
    (hg : g ∈ p.constraintGroups kind) :
    (p.groupMap kind g).Adjoint p.index.nx p.index.nu (p.agent.constraintCount kind) := by
  have hinside := IndexMap.inside_of_build h
  obtain ⟨-, hsize, hplace⟩ := ConstraintGroup.place_within hg
  rw [Nat.zero_add, count_groups h.map_fst_pairs kind] at hplace
  have hownX := hinside.ownX
  have hownU := hinside.ownU
  obtain ⟨group, place⟩ := g
  rcases mem_constraintGroups hg with hown | hneighbor
  · obtain rfl : group = _ := hown
    have hmodel := ha.own
    have hcount : place.size = p.agent.model.constraintCount kind := hsize
    rw [← h.nxOwn, ← h.nuOwn, ← hcount] at hmodel
    exact AgentMap.Adjoint.within hmodel hownX hownU hplace
  · obtain ⟨q, hq, hgroup⟩ := hneighbor
    obtain ⟨hx, hu, -⟩ := hinside.blocks q.2 (List.of_mem_zip hq).2
    obtain ⟨hnx, hnu, -⟩ := h.sizes hq
    have hmem : q.1 ∈ p.agent.neighbors := (List.of_mem_zip hq).1
    rcases mem_neighborGroups hgroup with hsends | hcopy | hreceives
    · obtain ⟨f, hf, rfl⟩ := hsends
      have hlaw := ha.sending q.1 hmem f hf
      have hcount : place.size = f.constraintCount kind := hsize
      rw [← hnx, ← hnu, ← h.nxOwn, ← h.nuOwn, ← hcount] at hlaw
      exact PairMap.Adjoint.within hlaw hownX hownU hx hu hplace
    · obtain rfl : group = _ := hcopy
      have hlaw := ha.models q.1 hmem
      have hcount : place.size = q.1.model.constraintCount kind := hsize
      rw [← hnx, ← hnu, ← hcount] at hlaw
      exact AgentMap.Adjoint.within hlaw hx hu hplace
    · obtain ⟨f, hf, rfl⟩ := hreceives
      have hlaw := ha.receiving q.1 hmem f hf
      have hcount : place.size = f.constraintCount kind := hsize
      rw [← hnx, ← hnu, ← h.nxOwn, ← h.nuOwn, ← hcount] at hlaw
      exact PairMap.Adjoint.within hlaw hx hu hownX hownU hplace

/-- The law carries over from the models to all constraints of a kind, whatever the relations are and
whether or not the neighbors' constraints are folded in. -/
theorem Indexed.adjoint_constraints (h : p.Indexed) (ha : p.agent.ConstraintsAdjoint kind) :
    (p.constraintsMap kind).Adjoint p.index.nx p.index.nu (p.agent.constraintCount kind) := by
  rw [constraintsMap_eq]
  apply AgentMap.Adjoint.each
  intro g hg
  exact h.adjoint_group ha hg

/-- Along every direction, the product of any vector with the extended constraints of a kind moves by
twice what the transposed Jacobians make of it. -/
theorem constraints_adjoint (hp : p.agent.layout = .ok p.layout) (kind : ConstraintKind)
    (ha : p.agent.ConstraintsAdjoint kind) {z d : Point Rat} {w : Vec Rat}
    (hz : z.Sized p.layout.dims.nx p.layout.dims.nu)
    (hd : d.Sized p.layout.dims.nx p.layout.dims.nu)
    (hw : w.length = p.layout.dims.constraintCount kind) :
    ((∀ s, (p.toProblem.constraints kind (z.along s d)).length = p.layout.dims.constraintCount kind) ∧
      (p.toProblem.constraintsDx kind z w).length = p.layout.dims.nx ∧
      (p.toProblem.constraintsDu kind z w).length = p.layout.dims.nu) ∧
    Vec.dot w (Vec.sub (p.toProblem.constraints kind (z.along 1 d))
        (p.toProblem.constraints kind (z.along (-1) d))) =
      2 * (Vec.dot (p.toProblem.constraintsDx kind z w) d.x +
        Vec.dot (p.toProblem.constraintsDu kind z w) d.u) := by
  have h : (p.constraintsMap kind).Adjoint p.layout.dims.nx p.layout.dims.nu
      (p.layout.dims.constraintCount kind) := by
    rw [Agent.constraintCount_of_layout hp]
    exact Indexed.adjoint_constraints (Agent.indexMap_of_layout hp) ha
  constructor
  · refine ⟨?_, (h.dx z w hz hw).length_zeros, (h.du z w hz hw).length_zeros⟩
    intro s
    exact (h.value _ (hz.along s d)).length_zeros
  · exact h.law z d w hz hd hw

/-- An agent that has to rest, and whose first state must not grow. -/
def resting (m : LinearAgent Rat) : AgentModel Rat :=
  { m.toModel with ng := m.nx, nh := 1, equality := m.dynamics, inequality := m.dynamics }

/-- A coupling that must not move the agent, nor drive up its first state. -/
def balanced (m : LinearCoupling Rat) : CouplingModel Rat :=
  { m.toModel with
    ng := m.a.rows.length, nh := 1, equality := m.toModel.dynamics, inequality := m.toModel.dynamics }

/-- The hub with constraints on every agent and every coupling, those of its neighbors folded in. -/
def restingHub : Agent Rat :=
  { hub with
    model := resting hubModel
    approximation := ⟨false, true⟩
    neighbors := hub.neighbors.map fun nb => { nb with
      model := resting leafModel
      relation := ⟨nb.relation.sending.map fun _ => balanced leafToHub,
        nb.relation.receiving.map fun _ => balanced hubToLeaf⟩ } }

theorem restingHub_adjoint (kind : ConstraintKind) : restingHub.ConstraintsAdjoint kind := by
  have hagent : ∀ (m : LinearAgent Rat) (nx nu n : Nat),
      ((resting m).constraints kind).Adjoint nx nu n := by
    cases kind <;> exact LinearAgent.adjoint
  have hcoupling : ∀ (m : LinearCoupling Rat) (nxi nui nxj nuj n : Nat),
      ((balanced m).constraints kind).Adjoint nxi nui nxj nuj n := by
    cases kind <;> exact LinearCoupling.adjoint
  constructor
  · exact hagent hubModel _ _ _
  · intro nb hnb
    obtain ⟨old, -, rfl⟩ := List.mem_map.mp hnb
    exact hagent leafModel _ _ _
  · intro nb hnb f hf
    obtain ⟨old, -, rfl⟩ := List.mem_map.mp hnb
    obtain ⟨_, -, rfl⟩ := Option.map_eq_some_iff.mp hf
    exact hcoupling leafToHub _ _ _ _ _
  · intro nb hnb f hf
    obtain ⟨old, -, rfl⟩ := List.mem_map.mp hnb
    obtain ⟨_, -, rfl⟩ := Option.map_eq_some_iff.mp hf
    exact hcoupling hubToLeaf _ _ _ _ _

def restingProblem : LocalProblem Rat := ⟨restingHub, { hubProblem.layout with ng := 12, nh := 9 }⟩

theorem resting_constraints_adjoint :
    (restingProblem.agent.layout = .ok restingProblem.layout ∧
      (∀ kind, restingProblem.agent.ConstraintsAdjoint kind) ∧
      hubPoint.Sized 6 13 ∧ hubDirection.Sized 6 13) ∧
    let p := restingProblem.toProblem
    let moved (kind : ConstraintKind) (w : Vec Rat) : Rat :=
      Vec.dot w (Vec.sub (p.constraints kind (hubPoint.along 1 hubDirection))
        (p.constraints kind (hubPoint.along (-1) hubDirection)))
    let alongDx (kind : ConstraintKind) (w : Vec Rat) : Rat :=
      Vec.dot (p.constraintsDx kind hubPoint w) hubDirection.x
    let alongDu (kind : ConstraintKind) (w : Vec Rat) : Rat :=
      Vec.dot (p.constraintsDu kind hubPoint w) hubDirection.u
    let w : Vec Rat := [1, 2, 3, 4, 5, 6, 7, 8, 9, 10, 11, 12]
    moved .equality w = 2 * (alongDx .equality w + alongDu .equality w) ∧
      moved .inequality (w.take 9) =
        2 * (alongDx .inequality (w.take 9) + alongDu .inequality (w.take 9)) ∧
      alongDx .equality w = 203 ∧ alongDu .inequality (w.take 9) = 107 := by
  have hlayout : restingProblem.agent.layout = .ok restingProblem.layout := by rfl
  have hz : hubPoint.Sized 6 13 := ⟨rfl, rfl⟩
  have hd : hubDirection.Sized 6 13 := ⟨rfl, rfl⟩
  refine ⟨⟨hlayout, restingHub_adjoint, hz, hd⟩, ?_, ?_, ?_, ?_⟩
  · exact (constraints_adjoint hlayout .equality (restingHub_adjoint _) hz hd rfl).2
  · exact (constraints_adjoint hlayout .inequality (restingHub_adjoint _) hz hd rfl).2
  · decide +kernel
  · decide +kernel

end LocalProblem

end ConsensusControl
