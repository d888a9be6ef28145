import Mathlib.Algebra.BigOperators.Group.Finset.Sigma
import Mathlib.Algebra.BigOperators.Ring.List
import Mathlib.Algebra.Order.Ring.Rat
import Mathlib.Tactic.FieldSimp
import Mathlib.Tactic.Positivity
import Mathlib.Tactic.Ring
import ConsensusControl.Model.Linear
import ConsensusControl.Problem.Extended
import ConsensusControl.Proofs.Consensus.Evolution
import ConsensusControl.Proofs.Problem.GlobalPoint
import ConsensusControl.Proofs.Trajectory

namespace ConsensusControl

namespace Network

variable {α : Type}

/-- What each member of the neighborhood of an agent carries of its cost. -/
def share (n : Network α) (id : AgentId) : Rat := 1 / (1 + ((n.neighborsOf id).length : Rat))

theorem share_complete (n : Network α) (id : AgentId) :
    n.share id + (n.neighborsOf id).length * n.share id = 1 := by
  have hpos : (0 : Rat) < 1 + ((n.neighborsOf id).length : Rat) := by positivity
  unfold share
  field_simp

/-- Seen from both of its ends, an edge is the same edge. -/
theorem Registered.sum_neighbors_comm {n : Network α} (hn : n.Registered)
    (f : AgentId → Rat) :
    (n.ids.map fun i => ((n.neighborsOf i).map f).sum).sum =
      (n.ids.map fun j => (n.neighborsOf j).length * f j).sum := by
  have hids : n.ids.Nodup := hn.sorted.nodup
  have hneighbors : ∀ i, (n.neighborsOf i).Nodup := n.neighborsOf_nodup
  calc (n.ids.map fun i => ((n.neighborsOf i).map f).sum).sum
      = ∑ i ∈ n.ids.toFinset, ∑ j ∈ (n.neighborsOf i).toFinset, f j := by
        simp only [List.sum_toFinset _ hids, List.sum_toFinset _ (hneighbors _)]
    _ = ∑ j ∈ n.ids.toFinset, ∑ i ∈ (n.neighborsOf j).toFinset, f j := by
        refine Finset.sum_comm' fun i j => ?_
        simp only [List.mem_toFinset]
        constructor
        · intro h
          exact ⟨mem_neighborsOf_comm.mp h.2, hn.neighbor_mem h.2⟩
        · intro h
          exact ⟨hn.neighbor_mem h.1, mem_neighborsOf_comm.mp h.1⟩
    _ = (n.ids.map fun j => (n.neighborsOf j).length * f j).sum := by
        simp only [Finset.sum_const, List.toFinset_card_of_nodup (hneighbors _), nsmul_eq_mul,
          List.sum_toFinset _ hids]

/-- Everybody's own share and the shares of the neighbors make up all costs. -/
theorem Registered.sum_shares {n : Network α} (hn : n.Registered) (cost : AgentId → Rat) :
    (n.ids.map fun i =>
      cost i * n.share i + ((n.neighborsOf i).map fun j => n.share j * cost j).sum).sum =
      (n.ids.map cost).sum := by
  rw [List.sum_map_add, hn.sum_neighbors_comm, ← List.sum_map_add]
  congr 1
  refine List.map_congr_left fun i _ => ?_
  calc cost i * n.share i + (n.neighborsOf i).length * (n.share i * cost i)
      = (n.share i + (n.neighborsOf i).length * n.share i) * cost i := by ring
    _ = cost i := by rw [n.share_complete, one_mul]

end Network

theorem ConsensusSample.cost_self (s : ConsensusSample Rat) : s.cost s.z = 0 := by
  have hterms : ∀ term ∈ s.entries augmentedTerm s.z, term = 0 := by
    intro term hterm
    obtain ⟨k, hk, rfl⟩ := List.mem_iff_getElem.mp hterm
    simp [entries, augmentedTerm]
  unfold cost Scalar.sum
  generalize s.entries augmentedTerm s.z = terms at hterms
  change terms.foldl (· + ·) 0 = 0
  rw [← List.sum_eq_foldl]
  exact List.sum_eq_zero hterms
 

/-- Adding up runs through the terms in their order. -/
theorem foldl_add_eq {β : Type} (f : β → Rat) (l : List β) (start : Rat) :
    l.foldl (fun sum b => sum + f b) start = start + (l.map f).sum := by
  induction l generalizing start with
  | nil => simp
  | cons b l ih => rw [List.foldl_cons, ih, List.map_cons, List.sum_cons, add_assoc]

namespace LocalProblem

section Terms

variable (p : LocalProblem Rat)

/-- What the influence on the agent from everyone but a neighbor adds to the stage cost. -/
def influenceCharge (z : Point Rat) (v : Option (Vec Rat)) (nb : Neighbor Rat) : Rat :=
  match v with
  | none => 0
  | some v => (p.influenceSample z.t nb).cost v

/-- What a neighbor adds to the stage cost in consensus terms, given the influence on the agent from
everyone else. -/
def pairTerms (z : Point Rat) (v : Option (Vec Rat)) (q : Neighbor Rat × NeighborBlock) : Rat :=
  p.influenceCharge z v q.1 + (q.1.copiedInfluence z.t).cost (q.2.v.read z.u) +
    (q.1.copiedControl z.t).cost (q.2.u.read z.u)

/-- The costs of the models. -/
def modelCost (z : Point Rat) : Rat :=
  p.foldCosts (p.agent.model.stageCost (p.ownPoint z) (p.target z.t)) fun nb b =>
    nb.model.stageCost (Surroundings.copyPoint b z) (nb.target z.t)

theorem stageCost_eq_sum (z : Point Rat) : p.stageCost z =
    p.modelCost z + (p.ownControl z.t).cost (p.ownPoint z).u +
      (p.pairs.map fun q => p.pairTerms z (p.neighborInfluence q.1 z) q).sum := by
  rw [← foldl_add_eq]
  unfold LocalProblem.stageCost
  refine List.foldl_ext _ _ _ fun l q _ => ?_
  dsimp only [pairTerms, influenceCharge]
  cases p.neighborInfluence q.1 z with
  | none => ring
  | some v => ring

end Terms

/-- Every consensus variable of the agent has the value that the agent has for it at this point. -/
structure Settled (p : LocalProblem Rat) (z : Point Rat) : Prop where
  control : (p.ownControl z.t).z = (p.ownPoint z).u
  influence : ∀ nb ∈ p.agent.neighbors, ∀ v ∈ p.neighborInfluence nb z,
    (p.influenceSample z.t nb).z = v
  copies : ∀ q ∈ p.pairs, (q.1.copiedInfluence z.t).z = q.2.v.read z.u ∧
    (q.1.copiedControl z.t).z = q.2.u.read z.u

/-- What is left of the stage cost is the costs of the models. -/
theorem Settled.stageCost {p : LocalProblem Rat} {z : Point Rat} (h : p.Settled z) :
    p.stageCost z = p.modelCost z := by
  have hterms : ∀ term ∈ p.pairs.map fun q => p.pairTerms z (p.neighborInfluence q.1 z) q,
      term = 0 := by
    intro term hterm
    obtain ⟨q, hq, rfl⟩ := List.mem_map.mp hterm
    obtain ⟨hv, hu⟩ := h.copies q hq
    have hinfluence : p.influenceCharge z (p.neighborInfluence q.1 z) q.1 = 0 := by
      unfold influenceCharge
      split
      · rfl
      · next v hv =>
        rw [← h.influence q.1 (List.of_mem_zip hq).1 v hv, ConsensusSample.cost_self]
    rw [pairTerms, hinfluence, ← hv, ← hu, ConsensusSample.cost_self, ConsensusSample.cost_self,
      add_zero, add_zero]
  rw [stageCost_eq_sum, List.sum_eq_zero hterms, add_zero, ← h.control, ConsensusSample.cost_self,
    add_zero]

variable {p : LocalProblem Rat} {t : Rat} {global : Table (Sample Rat)} {z : Point Rat}

theorem Holds.ownPoint (h : p.Holds t global z) :
    p.ownPoint z = ⟨t, (sampleOf global p.agent.id).x, (sampleOf global p.agent.id).u⟩ := by
  obtain ⟨s, hs, hx, hu⟩ := h.own
  rw [LocalProblem.ownPoint, h.time, hx, hu, sampleOf, hs]
  rfl

theorem Holds.copyPoint (h : p.Holds t global z) {q : Neighbor Rat × NeighborBlock}
    (hq : q ∈ p.pairs) : Surroundings.copyPoint q.2 z =
      ⟨t, (sampleOf global q.1.id).x, (sampleOf global q.1.id).u⟩ := by
  obtain ⟨s, hs, hx, hu⟩ := h.copies q hq
  rw [Surroundings.copyPoint, h.time, hx, hu, sampleOf, hs]
  rfl

end LocalProblem

/-- A record of one sample has it at every time. -/
theorem Record.target_constant {family : Family} (owner : AgentId) (t0 time : Rat) {x u : Vec Rat}
    (v : Vec Rat) {nx nu : Nat} (hx : x.length = nx) (hu : u.length = nu) :
    (Record.constant owner [t0] x u v : Record family Rat).target time nx nu = ⟨x, u⟩ := by
  have hfirst : ∀ {values : Vec Rat} {dim : Nat}, values.length = dim →
      Trajectory.interpolate [t0] (Trajectory.constant 1 values) dim time = values := by
    intro values dim hdim
    rw [Trajectory.constant_one, Trajectory.interpolate_first (by simp) (Nat.le_of_eq hdim.symm)
      (.inl rfl), List.take_of_length_le (Nat.le_of_eq hdim)]
  exact congrArg₂ Target.mk (hfirst hx) (hfirst hu)

open LocalProblem (sampleOf)

/-- The stage cost of an agent by itself. -/
def AgentEntry.stageCost (entry : AgentEntry Rat) (t : Rat) (s : Sample Rat) : Rat :=
  entry.model.stageCost ⟨t, s.x, s.u⟩ ⟨entry.xDesired, entry.uDesired⟩

/-- The terminal cost of an agent by itself. -/
def AgentEntry.terminalCost (entry : AgentEntry Rat) (t : Rat) (s : Sample Rat) : Rat :=
  entry.model.terminalCost t s.x entry.xDesired

namespace Network

/-- The problem of an agent as the network builds it, with costs that are shared and the desired record
that every neighbor has for itself. The other records may hold anything. -/
structure Poses (n : Network Rat) (t0 : AgentId → Rat) (id : AgentId) (p : LocalProblem Rat) :
    Prop where
  built : ∃ a, n.buildAgent id (t0 id) = .ok a ∧ p.agent.id = a.id ∧ p.agent.model = a.model ∧
    p.agent.desired = a.desired ∧ p.agent.links = a.links
  told : ∀ nb ∈ p.agent.neighbors,
    ∃ a, n.buildAgent nb.id (t0 nb.id) = .ok a ∧ nb.desired = a.desired
  shared : p.agent.approximation.cost = true
  indexed : p.Indexed

namespace Poses

variable {n : Network Rat} {t0 : AgentId → Rat} {id : AgentId} {p : LocalProblem Rat}

theorem own (h : n.Poses t0 id p) (hn : n.Reachable) (t : Rat) :
    ∃ entry, n.entry? id = some entry ∧ p.agent.id = id ∧ p.agent.model = entry.model ∧
      p.target t = ⟨entry.xDesired, entry.uDesired⟩ := by
  obtain ⟨_, ha, hid, hmodel, hdesired, -⟩ := h.built
  obtain ⟨entry, hentry, rfl⟩ := hn.registered.buildAgent_eq_ok ha
  have hsized := hn.sized id entry hentry
  refine ⟨entry, hentry, hid, hmodel, ?_⟩
  rw [LocalProblem.target, hdesired, h.indexed.nxOwn, h.indexed.nuOwn, Agent.nx, Agent.nu, hmodel]
  exact Record.target_constant id (t0 id) t [] hsized.xDesired hsized.uDesired

theorem neighbor (h : n.Poses t0 id p) (hn : n.Reachable) (t : Rat) {nb : Neighbor Rat}
    (hnb : nb ∈ p.agent.neighbors) :
    ∃ entry, n.entry? nb.id = some entry ∧ nb.model = entry.model ∧
      nb.target t = ⟨entry.xDesired, entry.uDesired⟩ ∧
      nb.neighborCount = (n.neighborsOf nb.id).length := by
  obtain ⟨_, ha, -, -, -, hlinks⟩ := h.built
  obtain ⟨_, -, rfl⟩ := hn.registered.buildAgent_eq_ok ha
  have hmem : nb.link ∈ (n.freshNeighbors id (n.neighborsOf id)).map (·.link) := by
    have hold : nb.link ∈ p.agent.links := List.mem_map.mpr ⟨nb, hnb, rfl⟩
    rwa [hlinks] at hold
  obtain ⟨fresh, hfresh, hlink⟩ := List.mem_map.mp hmem
  obtain ⟨j, -, hj⟩ := List.mem_filterMap.mp hfresh
  obtain ⟨model, hmodel, rfl⟩ := Option.map_eq_some_iff.mp hj
  obtain rfl : j = nb.id := congrArg Link.id hlink
  obtain rfl : model = nb.model := congrArg Link.model hlink
  obtain ⟨_, hb, hdesired⟩ := h.told nb hnb
  obtain ⟨entry, hentry, rfl⟩ := hn.registered.buildAgent_eq_ok hb
  have hsame : nb.model = entry.model := by
    rw [model?, hentry] at hmodel
    exact (Option.some.inj hmodel).symm
  have hsized := hn.sized nb.id entry hentry
  refine ⟨entry, hentry, hsame, ?_, (congrArg Link.neighborCount hlink).symm⟩
  rw [Neighbor.target, hdesired, Neighbor.nx, Neighbor.nu, hsame]
  exact Record.target_constant nb.id (t0 nb.id) t [] hsized.xDesired hsized.uDesired

theorem neighborIds (h : n.Poses t0 id p) :
    p.agent.neighborIds = n.neighborsOf id := by
  obtain ⟨a, ha, -, -, -, hlinks⟩ := h.built
  obtain ⟨_, -, hsynced⟩ := buildAgent_synced ha
  rw [Agent.neighborIds_eq_links, hlinks, ← Agent.neighborIds_eq_links, hsynced.ids]
  rfl

end Poses

/-- What `cost` says of a registered agent. -/
def costOf (n : Network Rat) (cost : AgentId → AgentEntry Rat → Rat) (id : AgentId) : Rat :=
  ((n.entry? id).map (cost id)).getD 0

/-- If everybody carries its share of each cost in its neighborhood, all together carry all costs. -/
theorem Registered.sum_carried {n : Network Rat} (hn : n.Registered)
    (cost : AgentId → AgentEntry Rat → Rat) {carried : AgentId → Rat}
    (h : ∀ id ∈ n.ids, carried id = n.costOf cost id * n.share id +
      ((n.neighborsOf id).map fun j => n.share j * n.costOf cost j).sum) :
    (n.ids.map carried).sum = (n.agents.map fun a => cost a.1 a.2).sum := by
  calc (n.ids.map carried).sum = (n.ids.map (n.costOf cost)).sum := by
        rw [List.map_congr_left h, hn.sum_shares]
    _ = (n.agents.map fun a => cost a.1 a.2).sum := by
        rw [ids, Table.ids, List.map_map]
        congr 1
        refine List.map_congr_left fun a ha => ?_
        have hentry : n.entry? a.1 = some a.2 := Table.lookup_of_mem hn.sorted ha
        rw [Function.comp_apply, costOf, hentry]
        rfl

/-- An agent carries its share of its own cost and one of each neighbor. -/
theorem Poses.foldCosts {n : Network Rat} {t0 : AgentId → Rat} {id : AgentId}
    {p : LocalProblem Rat} (h : n.Poses t0 id p) (hn : n.Reachable)
    {cost : AgentId → AgentEntry Rat → Rat} {own : Rat} {copied : Neighbor Rat → NeighborBlock → Rat}
    (hown : own = n.costOf cost id)
    (hcopied : ∀ q ∈ p.pairs, copied q.1 q.2 = n.costOf cost q.1.id) :
    p.foldCosts own copied = n.costOf cost id * n.share id +
      ((n.neighborsOf id).map fun j => n.share j * n.costOf cost j).sum := by
  have hshare : p.costShare = n.share id := by
    rw [LocalProblem.costShare, Network.share, ← h.neighborIds, Agent.neighborIds, List.length_map]
  have hcopies : (p.pairs.map fun q => q.1.costShare * copied q.1 q.2) =
      (n.neighborsOf id).map fun j => n.share j * n.costOf cost j := by
    rw [← h.neighborIds, ← h.indexed.ids_pairs, List.map_map]
    refine List.map_congr_left fun q hq => ?_
    obtain ⟨_, -, -, -, hcount⟩ := h.neighbor hn 0 (List.of_mem_zip hq).1
    rw [hcopied q hq, Neighbor.costShare, hcount]
    rfl
  unfold LocalProblem.foldCosts
  rw [if_pos h.shared, ← hcopies, ← hshare, ← hown]
  exact foldl_add_eq _ _ _

theorem Poses.stageCost {n : Network Rat} {t0 : AgentId → Rat} {id : AgentId} {p : LocalProblem Rat}
    {t : Rat} {global : Table (Sample Rat)} {z : Point Rat} (h : n.Poses t0 id p) (hn : n.Reachable)
    (hz : p.Holds t global z) (hsettled : p.Settled z) :
    p.stageCost z =
      n.costOf (fun id entry => entry.stageCost t (sampleOf global id)) id * n.share id +
        ((n.neighborsOf id).map fun j => n.share j *
          n.costOf (fun id entry => entry.stageCost t (sampleOf global id)) j).sum := by
  rw [hsettled.stageCost, LocalProblem.modelCost]
  refine h.foldCosts hn ?_ fun q hq => ?_
  · obtain ⟨entry, hentry, hid, hmodel, htarget⟩ := h.own hn z.t
    rw [hz.ownPoint, htarget, hmodel, hid, costOf, hentry]
    rfl
  · obtain ⟨entry, hentry, hmodel, htarget, -⟩ := h.neighbor hn z.t (List.of_mem_zip hq).1
    rw [hz.copyPoint hq, htarget, hmodel, costOf, hentry]
    rfl

theorem Poses.terminalCost {n : Network Rat} {t0 : AgentId → Rat} {id : AgentId}
    {p : LocalProblem Rat} {t : Rat} {global : Table (Sample Rat)} {z : Point Rat}
    (h : n.Poses t0 id p) (hn : n.Reachable) (hz : p.Holds t global z) :
    p.terminalCost t z.x =
      n.costOf (fun id entry => entry.terminalCost t (sampleOf global id)) id * n.share id +
        ((n.neighborsOf id).map fun j => n.share j *
          n.costOf (fun id entry => entry.terminalCost t (sampleOf global id)) j).sum := by
  unfold LocalProblem.terminalCost
  refine h.foldCosts hn ?_ fun q hq => ?_
  · obtain ⟨entry, hentry, hid, hmodel, htarget⟩ := h.own hn t
    have hx : p.index.ownX.read z.x = (sampleOf global p.agent.id).x :=
      congrArg Point.x hz.ownPoint
    rw [hx, htarget, hmodel, hid, costOf, hentry]
    rfl
  · obtain ⟨entry, hentry, hmodel, htarget, -⟩ := h.neighbor hn t (List.of_mem_zip hq).1
    have hx : q.2.x.read z.x = (sampleOf global q.1.id).x := congrArg Point.x (hz.copyPoint hq)
    rw [hx, htarget, hmodel, costOf, hentry]
    rfl

/-- Where all extended vectors hold one global point and all consensus variables are settled, the stage
costs of the problems add up to those of the agents, and so do the terminal costs. -/
theorem Reachable.costs_add_up {n : Network Rat} (hn : n.Reachable) {t0 : AgentId → Rat}
    {p : AgentId → LocalProblem Rat} {t : Rat} {global : Table (Sample Rat)}
    {z : AgentId → Point Rat} (hp : ∀ id ∈ n.ids, n.Poses t0 id (p id))
    (hz : ∀ id ∈ n.ids, (p id).Holds t global (z id) ∧ (p id).Settled (z id)) :
    (n.ids.map fun id => (p id).toProblem.stageCost (z id)).sum =
        (n.agents.map fun a => a.2.stageCost t (sampleOf global a.1)).sum ∧
      (n.ids.map fun id => (p id).toProblem.terminalCost t (z id).x).sum =
        (n.agents.map fun a => a.2.terminalCost t (sampleOf global a.1)).sum := by
  constructor
  · refine hn.registered.sum_carried (fun id entry => entry.stageCost t (sampleOf global id)) ?_
    intro id hid
    exact (hp id hid).stageCost hn (hz id hid).1 (hz id hid).2
  · refine hn.registered.sum_carried (fun id entry => entry.terminalCost t (sampleOf global id)) ?_
    intro id hid
    exact (hp id hid).terminalCost hn (hz id hid).1

/-- An agent with `ẋ = u` and weights that tell its costs apart. -/
def steered : LinearAgent Rat where
  name := "steered"
  nx := 1
  nu := 1
  a := ⟨[[0]]⟩
  b := ⟨[[1]]⟩
  q := [2]
  r := [3]
  p := [5]
  bounds := none

/-- The neighbor pulls with its state. -/
def pulling : LinearCoupling Rat := ⟨⟨[[1]]⟩, ⟨[[0]]⟩⟩

/-- Both outer agents pull the middle one, which pulls the last. -/
def rowChanges : List (Change Rat) :=
  [.registerAgent 0 steered.toModel [0] [0], .registerAgent 1 steered.toModel [0] [0],
    .registerAgent 2 steered.toModel [0] [0], .setDesired 2 [7] [1],
    .registerCoupling 1 0 pulling.toModel, .registerCoupling 1 2 pulling.toModel,
    .registerCoupling 2 1 pulling.toModel]

def row : Network Rat := ((rowChanges.foldlM Network.apply .empty).toOption).getD .empty

def rowAgent (id : AgentId) : Agent Rat :=
  ((row.entry? id).map (row.freshAgent id 0)).getD (.new id steered.toModel)

def rowSamples : Table (Sample Rat) := [(0, ⟨[1], [4]⟩), (1, ⟨[2], [5]⟩), (2, ⟨[3], [6]⟩)]

/-- The agent of the row at a point, with all consensus variables settled there and with prices and
weights on them. -/
def rowSettled (id : AgentId) (p : LocalProblem Rat) (z : Point Rat) : LocalProblem Rat :=
  { p with agent := { p.agent with
      couplingState := .constant id [z.t] [] (p.ownPoint z).u []
      multiplierState := .constant id [z.t] [] [11] []
      penaltyState := .constant id [z.t] [] [13] []
      neighbors := p.pairs.map fun (nb, b) => { nb with
        couplingState := .constant nb.id [z.t] [] (b.u.read z.u) []
        externalInfluence := .constant nb.id [z.t] [] [] (b.v.read z.u)
        influenceCoupling := .constant id [z.t] [] [] ((p.neighborInfluence nb z).getD [])
        influenceMultiplier := .constant id [z.t] [] [] [17]
        influencePenalty := .constant id [z.t] [] [] [19]
        copyMultiplier := .constant nb.id [z.t] [] [23] [29]
        copyPenalty := .constant nb.id [z.t] [] [31] [37] } } }

/-- The extended problem of an agent of the row, told what its neighbors desire. -/
def rowTold (id : AgentId) : LocalProblem Rat :=
  let a := rowAgent id
  let a := { a with
    approximation := ⟨true, true⟩
    neighbors := a.neighbors.map fun nb => { nb with desired := (rowAgent nb.id).desired } }
  ⟨a, (a.layout.toOption).getD ⟨.own 0 0, 0, 0⟩⟩

def rowPoint (id : AgentId) : Point Rat := (rowTold id).extended 0 rowSamples fun _ => [41]

def rowProblem (id : AgentId) : LocalProblem Rat := rowSettled id (rowTold id) (rowPoint id)

theorem row_reachable : row.Reachable :=
  Reachable.empty.of_foldlM (ok_of_isOk empty (by decide +kernel))

theorem rowAgent_built {id : AgentId} (h : id ∈ row.ids) :
    row.buildAgent id 0 = .ok (rowAgent id) := by
  obtain ⟨entry, hentry⟩ := row_reachable.registered.entry_of_mem h
  rw [rowAgent, hentry]
  exact row_reachable.registered.buildAgent_eq 0 hentry

theorem row_indexed {id : AgentId} (h : id ∈ row.ids) :
    (rowTold id).Indexed ∧ (rowProblem id).Indexed := by
  have hall : ∀ id ∈ row.ids, (rowTold id).agent.indexMap = .ok (rowTold id).index ∧
      (rowProblem id).agent.indexMap = .ok (rowProblem id).index := by
    decide +kernel
  exact hall id h

theorem row_poses {id : AgentId} (h : id ∈ row.ids) :
    row.Poses (fun _ => 0) id (rowProblem id) := by
  have htold : (rowTold id).pairs.map Prod.fst = (rowTold id).agent.neighbors :=
    (row_indexed h).1.map_fst_pairs
  have hregistered : ∀ id ∈ row.ids, ∀ nb ∈ (rowProblem id).agent.neighbors, nb.id ∈ row.ids := by
    decide +kernel
  refine ⟨⟨rowAgent id, rowAgent_built h, rfl, rfl, rfl, ?_⟩, fun nb hnb => ?_, rfl,
    (row_indexed h).2⟩
  · calc (rowProblem id).agent.links = (rowTold id).pairs.map (·.1.link) := List.map_map
      _ = (rowTold id).agent.links := by rw [Agent.links, ← htold, List.map_map]; rfl
      _ = (rowAgent id).links := List.map_map
  · refine ⟨rowAgent nb.id, rowAgent_built (hregistered id h nb hnb), ?_⟩
    obtain ⟨q, hq, rfl⟩ := List.mem_map.mp hnb
    obtain ⟨fresh, -, hfresh⟩ := List.mem_map.mp (List.of_mem_zip hq).1
    change q.1.desired = (rowAgent q.1.id).desired
    rw [← hfresh]

theorem row_holds {id : AgentId} (h : id ∈ row.ids) :
    (rowProblem id).Holds 0 rowSamples (rowPoint id) := by
  have hall : ∀ id ∈ row.ids, (rowPoint id).t = 0 ∧
      (∃ s ∈ rowSamples.lookup (rowProblem id).agent.id,
        (rowProblem id).index.ownX.read (rowPoint id).x = s.x ∧
        (rowProblem id).index.ownU.read (rowPoint id).u = s.u) ∧
      ∀ q ∈ (rowProblem id).pairs, ∃ s ∈ rowSamples.lookup q.1.id,
        q.2.x.read (rowPoint id).x = s.x ∧ q.2.u.read (rowPoint id).u = s.u := by
    decide +kernel
  obtain ⟨htime, hown, hcopies⟩ := hall id h
  exact ⟨htime, hown, hcopies⟩

theorem row_settled {id : AgentId} (h : id ∈ row.ids) : (rowProblem id).Settled (rowPoint id) := by
  have hall : ∀ id ∈ row.ids,
      ((rowProblem id).ownControl (rowPoint id).t).z = ((rowProblem id).ownPoint (rowPoint id)).u ∧
      (∀ nb ∈ (rowProblem id).agent.neighbors, ∀ v ∈ (rowProblem id).neighborInfluence nb (rowPoint id),
        ((rowProblem id).influenceSample (rowPoint id).t nb).z = v) ∧
      ∀ q ∈ (rowProblem id).pairs,
        (q.1.copiedInfluence (rowPoint id).t).z = q.2.v.read (rowPoint id).u ∧
        (q.1.copiedControl (rowPoint id).t).z = q.2.u.read (rowPoint id).u := by
    decide +kernel
  obtain ⟨hcontrol, hinfluence, hcopies⟩ := hall id h
  exact ⟨hcontrol, hinfluence, hcopies⟩

theorem row_costs_add_up :
    (row.Reachable ∧ ∀ id ∈ row.ids, row.Poses (fun _ => 0) id (rowProblem id) ∧
      (rowProblem id).Holds 0 rowSamples (rowPoint id) ∧ (rowProblem id).Settled (rowPoint id)) ∧
    (row.ids.map fun id => (rowProblem id).toProblem.stageCost (rowPoint id)).sum = 240 ∧
    (row.ids.map fun id => (rowProblem id).toProblem.terminalCost 0 (rowPoint id).x).sum = 105 := by
  have hall := row_reachable.costs_add_up (t := 0) (fun id hid => row_poses hid)
    fun id hid => ⟨row_holds hid, row_settled hid⟩
  have hown : (row.agents.map fun a => a.2.stageCost 0 (sampleOf rowSamples a.1)).sum = 240 ∧
      (row.agents.map fun a => a.2.terminalCost 0 (sampleOf rowSamples a.1)).sum = 105 := by
    decide +kernel
  exact ⟨⟨row_reachable, fun id hid => ⟨row_poses hid, row_holds hid, row_settled hid⟩⟩,
    hall.1.trans hown.1, hall.2.trans hown.2⟩

end Network

end ConsensusControl
