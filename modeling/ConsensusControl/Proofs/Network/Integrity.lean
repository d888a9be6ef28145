import ConsensusControl.Model.Linear
import ConsensusControl.Proofs.IndexMap
import ConsensusControl.Proofs.Network.Synchronization

namespace ConsensusControl.Network

variable {α : Type}

/-- No two couplings carry the same neighbor into the same agent. -/
def Single (n : Network α) : Prop :=
  n.couplings.Pairwise fun c d => c.agent = d.agent → c.neighbor ≠ d.neighbor

theorem Single.filterCouplings {n : Network α} (hn : n.Single) (p : Coupling α → Bool)
    (agents : Table (AgentEntry α)) : Single ⟨agents, n.couplings.filter p⟩ :=
  List.Pairwise.filter p hn

theorem Single.cons {n : Network α} (hn : n.Single) {agent neighbor : AgentId}
    (h : n.coupling? agent neighbor = none) (model : CouplingModel α) :
    Single { n with couplings := ⟨agent, neighbor, model⟩ :: n.couplings } := by
  refine List.pairwise_cons.mpr ⟨fun c hc hagent hneighbor => ?_, hn⟩
  obtain rfl : agent = c.agent := hagent
  obtain rfl : neighbor = c.neighbor := hneighbor
  rw [coupling?, Option.map_eq_none_iff, List.find?_eq_none] at h
  exact h c hc (by simp [Coupling.joins])

/-- The one coupling that carries a neighbor into an agent is found. -/
theorem Single.coupling?_eq_some {n : Network α} (hn : n.Single) {i j : AgentId}
    {model : CouplingModel α} : n.coupling? i j = some model ↔ ⟨i, j, model⟩ ∈ n.couplings := by
  constructor
  · intro h
    obtain ⟨⟨_, _, _⟩, hc, rfl⟩ := Option.map_eq_some_iff.mp h
    obtain ⟨rfl, rfl⟩ := by simpa [Coupling.joins] using List.find?_some hc
    exact List.mem_of_find?_eq_some hc
  · intro h
    have hsome : (n.couplings.find? (·.joins i j)).isSome := by
      rw [List.find?_isSome]
      exact ⟨_, h, by simp [Coupling.joins]⟩
    obtain ⟨c, hc⟩ := Option.isSome_iff_exists.mp hsome
    have hjoins : c.agent = i ∧ c.neighbor = j := by
      simpa [Coupling.joins] using List.find?_some hc
    by_cases hsame : c = ⟨i, j, model⟩
    · rw [coupling?, hc, hsame, Option.map_some]
    · have hsymm : Std.Symm fun c d : Coupling α => c.agent = d.agent → c.neighbor ≠ d.neighbor :=
        ⟨fun _ _ h heq => (h heq.symm).symm⟩
      exact absurd hjoins.2 (List.Pairwise.forall hn (List.mem_of_find?_eq_some hc) h hsame hjoins.1)

variable [Scalar α]

theorem Single.apply {n n' : Network α} (hn : n.Single) {change : Change α}
    (h : n.apply change = .ok n') : n'.Single := by
  cases change with
  | registerAgent id model x u =>
    obtain ⟨-, -, -, -, -, rfl⟩ := registerAgent_eq_ok h
    exact hn
  | deregisterAgent id => exact apply_deregisterAgent_eq_ok h ▸ hn.filterCouplings _ _
  | setDesired id x u =>
    obtain ⟨entry, -, -, -, rfl⟩ := setDesired_eq_ok h
    exact hn
  | setInitial id x =>
    obtain ⟨entry, -, -, rfl⟩ := setInitial_eq_ok h
    exact hn
  | registerCoupling agent neighbor model =>
    obtain ⟨-, -, -, hnone, rfl⟩ := registerCoupling_eq_ok h
    exact hn.cons hnone model
  | deregisterCoupling agent neighbor =>
    obtain ⟨-, rfl⟩ := deregisterCoupling_eq_ok h
    exact hn.filterCouplings _ _

theorem Reachable.single {n : Network α} (h : n.Reachable) : n.Single := by
  induction h with
  | empty => exact List.Pairwise.nil
  | apply _ h ih => exact ih.apply h

/-- The network after a change, or as it was where the change is refused. -/
def attempt (n : Network α) (change : Change α) : Network α :=
  match n.apply change with
  | .ok n' => n'
  | .error _ => n

def attemptAll (n : Network α) (changes : List (Change α)) : Network α := changes.foldl attempt n

theorem attemptAll_append (n : Network α) (before after : List (Change α)) :
    n.attemptAll (before ++ after) = (n.attemptAll before).attemptAll after :=
  List.foldl_append

theorem Reachable.attempt {n : Network α} (hn : n.Reachable) (change : Change α) :
    (n.attempt change).Reachable := by
  unfold Network.attempt
  split
  · next h => exact hn.apply h
  · exact hn

theorem Reachable.attemptAll {n : Network α} (hn : n.Reachable) (changes : List (Change α)) :
    (n.attemptAll changes).Reachable := by
  induction changes generalizing n with
  | nil => exact hn
  | cons change changes ih => exact ih (hn.attempt change)

/-- An agent whose neighbors are those of the graph, and which can be laid out. -/
structure Fits (n : Network α) (i : AgentId) (a : Agent α) : Prop where
  id : a.id = i
  ids : a.neighborIds = n.neighborsOf i
  ascending : a.neighborIds.Pairwise (· < ·)
  others : i ∉ a.neighborIds
  counts : ∀ nb ∈ a.neighbors, nb.neighborCount = (n.neighborsOf nb.id).length
  layout : ∃ m, a.indexMap = .ok m

omit [Scalar α] in
theorem Registered.not_mem_neighborsOf {n : Network α} (hn : n.Registered) (id : AgentId) :
    id ∉ n.neighborsOf id := by
  intro h
  obtain ⟨c, hc, ⟨hagent, hneighbor⟩ | ⟨hagent, hneighbor⟩⟩ := mem_neighborsOf.mp h
  all_goals exact (hn.couplings c hc).1 (hagent.trans hneighbor.symm)

/-- Neighbors as the network describes them have its counts, and models of registered agents. -/
theorem Describes.registered {n : Network α} {i : AgentId} {old : List (Neighbor α)}
    {nb : Neighbor α} (h : n.Describes i old nb) :
    nb.neighborCount = (n.neighborsOf nb.id).length ∧
      ∃ entry, n.entry? nb.id = some entry ∧ nb.model = entry.model := by
  obtain ⟨entry, hentry, hnew | ⟨kept, -, -, hnew⟩⟩ := h
  all_goals
    refine ⟨?_, entry, hentry, ?_⟩
    · exact congrArg (·.neighborCount) hnew
    · exact congrArg (·.model) hnew

/-- An agent that has the neighbors of the graph can be laid out. -/
theorem Reachable.exists_indexMap {n : Network α} (hn : n.Reachable) {a : Agent α}
    (hmodel : n.model? a.id = some a.model) (hids : a.neighborIds = n.neighborsOf a.id)
    (hneighbors : ∀ nb ∈ a.neighbors, n.model? nb.id = some nb.model) :
    ∃ m, a.indexMap = .ok m := by
  have hentries : a.entries.map (·.id) = a.neighborIds := by
    simp [Agent.entries, Agent.neighborIds, Function.comp_def]
  have hlayable : IndexMap.Layable a.id a.entries := by
    refine ⟨fun e he => ?_, fun e he heq => ?_, ?_⟩
    · obtain ⟨nb, hnb, rfl⟩ := List.mem_map.mp he
      exact hn.sized.model (hneighbors nb hnb)
    · obtain ⟨nb, hnb, rfl⟩ := List.mem_map.mp he
      have hself : a.id ∈ a.neighborIds := Agent.mem_neighborIds.mpr ⟨nb, hnb, heq⟩
      exact hn.registered.not_mem_neighborsOf a.id (hids ▸ hself)
    · rw [hentries, hids]
      exact n.neighborsOf_nodup a.id
  obtain ⟨hnx, hnu⟩ := hn.sized.model hmodel
  exact ⟨_, hlayable.build hnx hnu⟩

theorem Reachable.fits {n : Network α} (hn : n.Reachable) {id : AgentId} {t0 : α} {a : Agent α}
    (h : n.buildAgent id t0 = .ok a) : n.Fits id a := by
  obtain ⟨_, -, hsynced⟩ := buildAgent_synced h
  have hids : a.neighborIds = n.neighborsOf id := hsynced.ids
  have hid : a.id = id := hsynced.id
  refine
    { id := hid
      ids := hids
      ascending := hsynced.ascending
      others := hids ▸ hn.registered.not_mem_neighborsOf id
      counts := fun nb hnb => (hsynced.origin nb hnb).registered.1
      layout := hn.exists_indexMap (hid.symm ▸ model?_of_buildAgent h) (hid.symm ▸ hids)
        fun nb hnb => ?_ }
  · obtain ⟨-, other, hother, hsame⟩ := (hsynced.origin nb hnb).registered
    rw [model?, hother, hsame]
    rfl

/-- Couplings and agents that belong together. -/
structure Intact (n : Network α) : Prop where
  couplings : ∀ c ∈ n.couplings, c.agent ≠ c.neighbor ∧ c.agent ∈ n.ids ∧ c.neighbor ∈ n.ids
  neighbors : ∀ i j, j ∈ n.neighborsOf i ↔ i ∈ n.neighborsOf j
  /-- Neighbors are those with a coupling between them. -/
  linked : ∀ i j, j ∈ n.neighborsOf i ↔
    (n.relation i j).sending.isSome ∨ (n.relation i j).receiving.isSome
  /-- One side of a coupling holds its model, the other side a copy of it. -/
  sending : ∀ i j model, (n.relation i j).sending = some model ↔ ⟨i, j, model⟩ ∈ n.couplings
  receiving : ∀ i j model, (n.relation j i).receiving = some model ↔ ⟨i, j, model⟩ ∈ n.couplings
  built : ∀ id t0, (∃ a, n.buildAgent id t0 = .ok a) ↔ id ∈ n.ids
  fits : ∀ id t0 a, n.buildAgent id t0 = .ok a → n.Fits id a

theorem Registered.exists_buildAgent {n : Network α} (hn : n.Registered) (id : AgentId) (t0 : α) :
    (∃ a, n.buildAgent id t0 = .ok a) ↔ id ∈ n.ids := by
  constructor
  · intro h
    obtain ⟨a, ha⟩ := h
    obtain ⟨entry, hentry, -⟩ := buildAgent_synced ha
    exact mem_ids_of_entry hentry
  · intro h
    obtain ⟨entry, hentry⟩ := hn.entry_of_mem h
    exact ⟨_, hn.buildAgent_eq t0 hentry⟩

theorem Reachable.intact {n : Network α} (hn : n.Reachable) : n.Intact where
  couplings := hn.registered.couplings
  neighbors _ _ := mem_neighborsOf_comm
  linked i j := by
    simp only [relation, Option.isSome_iff_exists, hn.single.coupling?_eq_some]
    rw [mem_neighborsOf]
    constructor
    · intro h
      obtain ⟨⟨_, _, model⟩, hc, ⟨rfl, rfl⟩ | ⟨rfl, rfl⟩⟩ := h
      · exact .inl ⟨model, hc⟩
      · exact .inr ⟨model, hc⟩
    · intro h
      obtain ⟨model, hc⟩ | ⟨model, hc⟩ := h
      · exact ⟨_, hc, .inl ⟨rfl, rfl⟩⟩
      · exact ⟨_, hc, .inr ⟨rfl, rfl⟩⟩
  sending _ _ _ := hn.single.coupling?_eq_some
  receiving _ _ _ := hn.single.coupling?_eq_some
  built := hn.registered.exists_buildAgent
  fits _ _ _ := hn.fits

/-- Whatever changes are asked of the empty network, accepted or not, leave an intact network, and
one that is refused leaves the network as it was. -/
theorem attemptAll_intact (changes : List (Change α)) :
    (attemptAll .empty changes).Intact ∧
      ∀ change e, (attemptAll .empty changes).apply change = .error e →
        attemptAll .empty (changes ++ [change]) = attemptAll .empty changes := by
  refine ⟨(Reachable.empty.attemptAll changes).intact, fun change e h => ?_⟩
  rw [attemptAll_append, attemptAll, List.foldl_cons, attempt, h]
  rfl

/-- A tank that drains and is filled. -/
def tank : LinearAgent Rat where
  name := "tank"
  nx := 1
  nu := 1
  a := ⟨[[-1]]⟩
  b := ⟨[[1]]⟩
  q := [1]
  r := [1]
  p := [1]
  bounds := none

def pipe : LinearCoupling Rat := ⟨⟨[[1]]⟩, ⟨[[0]]⟩⟩

/-- Of two tanks one is replaced. It is removed once more than it is there. -/
def replacement : List (Change Rat) :=
  [.registerAgent 0 tank.toModel [1] [0], .registerAgent 1 tank.toModel [2] [0],
    .registerCoupling 0 1 pipe.toModel, .deregisterAgent 1, .deregisterAgent 1,
    .registerAgent 1 tank.toModel [3] [0], .registerCoupling 1 0 pipe.toModel]

theorem replacement_intact :
    (attemptAll .empty replacement).couplings = [⟨1, 0, pipe.toModel⟩] ∧
      (attemptAll .empty replacement).Intact ∧
      (attemptAll .empty replacement).apply (.deregisterCoupling 0 1) =
        .error (.unknownCoupling 0 1) ∧
      attemptAll .empty (replacement ++ [.deregisterCoupling 0 1]) =
        attemptAll .empty replacement := by
  obtain ⟨hintact, hrefused⟩ := attemptAll_intact replacement
  have herror : (attemptAll .empty replacement).apply (.deregisterCoupling 0 1) =
      .error (.unknownCoupling 0 1) := rfl
  exact ⟨rfl, hintact, herror, hrefused _ _ herror⟩

end ConsensusControl.Network
