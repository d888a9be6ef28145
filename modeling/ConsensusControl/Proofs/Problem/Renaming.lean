import Mathlib.Data.List.Basic
import Mathlib.Logic.Function.Basic
import ConsensusControl.Agent.Records
import ConsensusControl.Problem.Extended
import ConsensusControl.Proofs.IndexMap.Partition

namespace ConsensusControl

variable {α : Type}

def Record.rename {family : Family} (ρ : AgentId → AgentId) (r : Record family α) : Record family α :=
  { r with owner := ρ r.owner }

def Neighbor.rename (ρ : AgentId → AgentId) (nb : Neighbor α) : Neighbor α :=
  { nb.mapRecords fun _ _ r => r.rename ρ with id := ρ nb.id }

/-- The agent with other ids for itself, its neighbors and the owners of its records. -/
def Agent.rename (ρ : AgentId → AgentId) (a : Agent α) : Agent α :=
  { a.mapRecords fun _ _ r => r.rename ρ with
    id := ρ a.id
    neighbors := a.neighbors.map (·.rename ρ) }

def NeighborBlock.rename (ρ : AgentId → AgentId) (b : NeighborBlock) : NeighborBlock :=
  { b with id := ρ b.id }

def IndexMap.rename (ρ : AgentId → AgentId) (m : IndexMap) : IndexMap :=
  .ofBlocks m.nxOwn m.nuOwn m.nx m.nu (m.blocks.map (·.rename ρ))

def Layout.rename (ρ : AgentId → AgentId) (l : Layout) : Layout := { l with index := l.index.rename ρ }

variable {ρ : AgentId → AgentId}

namespace IndexMap

theorem block?_rename (hρ : ρ.Injective) (m : IndexMap) (id : AgentId) :
    (m.rename ρ).block? (ρ id) = (m.block? id).map (·.rename ρ) := by
  have hsame : ∀ b : NeighborBlock, ((b.rename ρ).id == ρ id) = (b.id == id) := fun b => hρ.beq_eq
  simp only [block?_eq_find?, rename, ofBlocks, List.find?_map, Function.comp_def, hsame]

def Entry.rename (ρ : AgentId → AgentId) (e : Entry) : Entry := { e with id := ρ e.id }

theorem stack_rename (x u : Nat) (es : List Entry) :
    stack x u (es.map (·.rename ρ)) = (stack x u es).map (·.rename ρ) := by
  induction es generalizing x u with
  | nil => rfl
  | cons e es ih => exact congrArg (List.cons _) (ih _ _)

theorem Layable.rename (hρ : ρ.Injective) {agent : AgentId} {es : List Entry} (h : Layable agent es) :
    Layable (ρ agent) (es.map (·.rename ρ)) where
  sizes := List.forall_mem_map.mpr h.sizes
  others := List.forall_mem_map.mpr fun e he heq => h.others e he (hρ heq)
  nodup := by
    have hids : (es.map (·.rename ρ)).map (·.id) = (es.map (·.id)).map ρ := by simp [Entry.rename]
    rw [hids]
    exact h.nodup.map hρ

theorem build_rename (hρ : ρ.Injective) {agent : AgentId} {nx nu : Nat} {es : List Entry} {m : IndexMap}
    (h : build agent nx nu es = .ok m) :
    build (ρ agent) nx nu (es.map (·.rename ρ)) = .ok (m.rename ρ) := by
  obtain ⟨hnx, hnu, hlayable, rfl⟩ := build_eq_ok_iff.mp h
  refine build_eq_ok_iff.mpr ⟨hnx, hnu, hlayable.rename hρ, ?_⟩
  unfold laid
  rw [stack_rename, List.map_map, List.map_map]
  rfl

end IndexMap

theorem Agent.layout_rename [Scalar α] (hρ : ρ.Injective) {a : Agent α} {l : Layout}
    (h : a.layout = .ok l) : (a.rename ρ).layout = .ok (l.rename ρ) := by
  obtain ⟨index, hindex, hpure⟩ := bind_eq_ok.mp h
  obtain rfl := pure_eq_ok.mp hpure
  have hentries : (a.rename ρ).entries = a.entries.map (·.rename ρ) := by
    simp only [entries, rename, List.map_map]
    rfl
  have hrenamed : (a.rename ρ).indexMap = .ok (index.rename ρ) := by
    rw [indexMap, hentries]
    exact IndexMap.build_rename hρ hindex
  have hcount : ∀ kind, (a.rename ρ).constraintCount kind = a.constraintCount kind := fun kind => by
    simp only [constraintCount, rename, List.foldl_map]
    rfl
  refine bind_eq_ok.mpr ⟨_, hrenamed, ?_⟩
  rw [hcount, hcount]
  rfl

namespace Surroundings

def rename (ρ : AgentId → AgentId) (s : Surroundings α) : Surroundings α :=
  ⟨s.neighbor.rename ρ, s.neighbors.map (·.rename ρ), s.index.rename ρ⟩

variable (hρ : ρ.Injective) (s : Surroundings α)
include hρ

theorem block?_rename : (s.rename ρ).block? = s.block?.map (·.rename ρ) :=
  IndexMap.block?_rename hρ s.index s.neighbor.id

theorem dynamics_rename [Scalar α] : (s.rename ρ).dynamics = s.dynamics := by
  funext z out
  unfold dynamics
  rw [block?_rename hρ]
  cases s.block? <;> rfl

theorem dynamicsDx_rename : (s.rename ρ).dynamicsDx = s.dynamicsDx := by
  funext z w out
  unfold dynamicsDx
  rw [block?_rename hρ]
  cases s.block? <;> rfl

theorem dynamicsDu_rename [Scalar α] : (s.rename ρ).dynamicsDu = s.dynamicsDu := by
  funext z w out
  unfold dynamicsDu
  rw [block?_rename hρ]
  cases s.block? <;> rfl

theorem others_rename : (s.rename ρ).others = s.others.map fun q => (q.1, q.2.rename ρ) := by
  have hsame : ∀ k : Neighbor α, ((k.rename ρ).id == (s.neighbor.rename ρ).id) = (k.id == s.neighbor.id) :=
    fun k => hρ.beq_eq
  unfold others
  rw [List.map_filterMap, rename, IndexMap.rename, IndexMap.ofBlocks, List.zip_map, List.filterMap_map]
  congr 1
  funext q
  obtain ⟨k, b⟩ := q
  simp only [Function.comp_apply, Prod.map_apply, hsame]
  split
  · rfl
  · rw [Option.map_map]
    rfl

theorem influence_rename : (s.rename ρ).influence = s.influence := by
  funext z out
  unfold influence
  rw [others_rename hρ, List.foldl_map]
  rfl

theorem influenceDx_rename : (s.rename ρ).influenceDx = s.influenceDx := by
  funext z w out
  unfold influenceDx
  rw [others_rename hρ, List.foldl_map]
  rfl

theorem influenceDu_rename : (s.rename ρ).influenceDu = s.influenceDu := by
  funext z w out
  unfold influenceDu
  rw [others_rename hρ, List.foldl_map]
  rfl

end Surroundings

namespace ConstraintGroup

def rename (ρ : AgentId → AgentId) : ConstraintGroup α → ConstraintGroup α
  | .own m => .own m
  | .coupling f b => .coupling f (b.rename ρ)
  | .neighbor m b => .neighbor m (b.rename ρ)
  | .copiedCoupling f b => .copiedCoupling f (b.rename ρ)

theorem place_rename (kind : ConstraintKind) (offset : Nat) (gs : List (ConstraintGroup α)) :
    place kind offset (gs.map (·.rename ρ)) = (place kind offset gs).map fun q => (q.1.rename ρ, q.2) := by
  have hcount : ∀ g : ConstraintGroup α, (g.rename ρ).count kind = g.count kind := by
    intro g
    cases g <;> rfl
  induction gs generalizing offset with
  | nil => rfl
  | cons g gs ih =>
    rw [List.map_cons, place, place, hcount]
    split
    · exact ih offset
    · exact congrArg (List.cons _) (ih _)

end ConstraintGroup

namespace LocalProblem

def rename (ρ : AgentId → AgentId) (p : LocalProblem α) : LocalProblem α :=
  ⟨p.agent.rename ρ, p.layout.rename ρ⟩

theorem pairs_rename (p : LocalProblem α) :
    (p.rename ρ).pairs = p.pairs.map fun q => (q.1.rename ρ, q.2.rename ρ) := List.zip_map ..

theorem surroundings_rename (p : LocalProblem α) (nb : Neighbor α) :
    (p.rename ρ).surroundings (nb.rename ρ) = (p.surroundings nb).rename ρ := rfl

theorem neighborGroups_rename (p : LocalProblem α) (nb : Neighbor α) (b : NeighborBlock) :
    (p.rename ρ).neighborGroups (nb.rename ρ) (b.rename ρ) =
      (p.neighborGroups nb b).map (·.rename ρ) := by
  have hgroups : ∀ (make : CouplingModel α → NeighborBlock → ConstraintGroup α)
      (f : Option (CouplingModel α)), (∀ f, (make f b).rename ρ = make f (b.rename ρ)) →
      (f.map (make · b)).toList.map (·.rename ρ) = (f.map (make · (b.rename ρ))).toList := by
    intro make f hmake
    cases f with
    | none => rfl
    | some f => exact congrArg (fun g => [g]) (hmake f)
  unfold neighborGroups
  rw [List.map_append, hgroups .coupling _ fun _ => rfl]
  refine congrArg (List.append _) ?_
  change (if p.agent.approximation.constraints then _ else _) = _
  split
  · exact congrArg (List.cons _) (hgroups .copiedCoupling _ fun _ => rfl).symm
  · rfl

theorem constraintGroups_rename (p : LocalProblem α) (kind : ConstraintKind) :
    (p.rename ρ).constraintGroups kind =
      (p.constraintGroups kind).map fun q => (q.1.rename ρ, q.2) := by
  unfold constraintGroups
  rw [← ConstraintGroup.place_rename, List.map_cons, List.map_flatMap, pairs_rename, List.flatMap_map]
  simp only [neighborGroups_rename]
  rfl

theorem addConstraints_rename (p : LocalProblem α) : (p.rename ρ).addConstraints = p.addConstraints := by
  funext kind z out
  unfold addConstraints
  rw [constraintGroups_rename, List.foldl_map]
  refine List.foldl_ext _ _ _ fun out q _ => ?_
  obtain ⟨group, place⟩ := q
  cases group <;> rfl

theorem addConstraintsDx_rename (p : LocalProblem α) :
    (p.rename ρ).addConstraintsDx = p.addConstraintsDx := by
  funext kind z w out
  unfold addConstraintsDx
  rw [constraintGroups_rename, List.foldl_map]
  refine List.foldl_ext _ _ _ fun out q _ => ?_
  obtain ⟨group, place⟩ := q
  cases group <;> rfl

theorem addConstraintsDu_rename (p : LocalProblem α) :
    (p.rename ρ).addConstraintsDu = p.addConstraintsDu := by
  funext kind z w out
  unfold addConstraintsDu
  rw [constraintGroups_rename, List.foldl_map]
  refine List.foldl_ext _ _ _ fun out q _ => ?_
  obtain ⟨group, place⟩ := q
  cases group <;> rfl

theorem requireStates_rename (p : LocalProblem α) : (p.rename ρ).requireStates = p.requireStates := by
  unfold requireStates
  rw [pairs_rename]
  exact List.forM_map ..

theorem requireControls_rename (p : LocalProblem α) :
    (p.rename ρ).requireControls = p.requireControls := by
  unfold requireControls
  rw [pairs_rename]
  exact List.forM_map ..

theorem addDynamicsDx_rename (hρ : ρ.Injective) (p : LocalProblem α) :
    (p.rename ρ).addDynamicsDx = p.addDynamicsDx := by
  funext z w out
  unfold addDynamicsDx
  simp only [pairs_rename, List.foldl_map, surroundings_rename, Surroundings.dynamicsDx_rename hρ]
  rfl

variable [Scalar α]

theorem foldCosts_rename (p : LocalProblem α) (own : α) (cost : Neighbor α → NeighborBlock → α) :
    (p.rename ρ).foldCosts own cost =
      p.foldCosts own fun nb b => cost (nb.rename ρ) (b.rename ρ) := by
  have hshare : (p.rename ρ).costShare = p.costShare := by simp [costShare, rename, Agent.rename]
  unfold foldCosts
  rw [pairs_rename, List.foldl_map, hshare]
  rfl

theorem foldGradients_rename (p : LocalProblem α) (own : Block) (part : NeighborBlock → Block)
    (gradient : Neighbor α → NeighborBlock → Vec α) (out : Vec α) :
    (p.rename ρ).foldGradients own part gradient out =
      p.foldGradients own (fun b => part (b.rename ρ))
        (fun nb b => gradient (nb.rename ρ) (b.rename ρ)) out := by
  have hshare : (p.rename ρ).costShare = p.costShare := by simp [costShare, rename, Agent.rename]
  unfold foldGradients
  rw [pairs_rename, List.foldl_map, hshare]
  rfl

section

variable (hρ : ρ.Injective) (p : LocalProblem α)
include hρ

theorem neighborInfluence_rename (nb : Neighbor α) (z : Point α) :
    (p.rename ρ).neighborInfluence (nb.rename ρ) z = p.neighborInfluence nb z := by
  unfold neighborInfluence
  rw [surroundings_rename, Surroundings.influence_rename hρ]
  rfl

theorem addDynamics_rename : (p.rename ρ).addDynamics = p.addDynamics := by
  funext z out
  unfold addDynamics
  simp only [pairs_rename, List.foldl_map, surroundings_rename, Surroundings.dynamics_rename hρ]
  rfl

theorem addDynamicsDu_rename : (p.rename ρ).addDynamicsDu = p.addDynamicsDu := by
  funext z w out
  unfold addDynamicsDu
  simp only [pairs_rename, List.foldl_map, surroundings_rename, Surroundings.dynamicsDu_rename hρ]
  rfl

theorem stageCost_rename : (p.rename ρ).stageCost = p.stageCost := by
  funext z
  unfold stageCost
  simp only [pairs_rename, List.foldl_map, foldCosts_rename, neighborInfluence_rename hρ]
  rfl

theorem addStageCostDx_rename : (p.rename ρ).addStageCostDx = p.addStageCostDx := by
  funext z out
  unfold addStageCostDx
  simp only [pairs_rename, List.foldl_map, foldGradients_rename, neighborInfluence_rename hρ,
    surroundings_rename, Surroundings.influenceDx_rename hρ]
  rfl

theorem addStageCostDu_rename : (p.rename ρ).addStageCostDu = p.addStageCostDu := by
  funext z out
  unfold addStageCostDu
  simp only [pairs_rename, List.foldl_map, foldGradients_rename, neighborInfluence_rename hρ,
    surroundings_rename, Surroundings.influenceDu_rename hρ]
  rfl

end

theorem terminalCost_rename (p : LocalProblem α) : (p.rename ρ).terminalCost = p.terminalCost := by
  funext t x
  unfold terminalCost
  simp only [foldCosts_rename]
  rfl

theorem addTerminalCostDx_rename (p : LocalProblem α) :
    (p.rename ρ).addTerminalCostDx = p.addTerminalCostDx := by
  funext t x out
  unfold addTerminalCostDx
  simp only [foldGradients_rename]
  rfl

/-- All members of the extended problem are those of the agent under its old ids. -/
theorem toProblem_rename (hρ : ρ.Injective) (p : LocalProblem α) :
    (p.rename ρ).toProblem = p.toProblem := by
  unfold toProblem
  simp only [addDynamics_rename hρ, addDynamicsDx_rename hρ, addDynamicsDu_rename hρ, stageCost_rename hρ,
    addStageCostDx_rename hρ, addStageCostDu_rename hρ, terminalCost_rename, addTerminalCostDx_rename,
    addConstraints_rename, addConstraintsDx_rename, addConstraintsDu_rename, requireStates_rename,
    requireControls_rename]
  rfl

end LocalProblem

end ConsensusControl
