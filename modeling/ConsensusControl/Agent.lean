import ConsensusControl.Record
import ConsensusControl.IndexMap
import ConsensusControl.Model.Basic

namespace ConsensusControl

/-- Coupling models between an agent and a neighbor: `sending` carries the neighbor into the agent's
dynamics, `receiving` is the neighbor's own model that carries the agent into the neighbor's. -/
structure Relation (α : Type) where
  sending : Option (CouplingModel α)
  receiving : Option (CouplingModel α)

inductive RelationKind
  | noCoupling
  | sendOnly
  | receiveOnly
  | bidirectional
  deriving DecidableEq, Repr

def RelationKind.name : RelationKind → String
  | noCoupling => "NoCoupling"
  | sendOnly => "SendOnly"
  | receiveOnly => "ReceiveOnly"
  | bidirectional => "Bidirectional"

namespace Relation

variable {α : Type}

/-- Neighbors linked for consensus alone. -/
def uncoupled : Relation α := ⟨none, none⟩

def kind (r : Relation α) : RelationKind :=
  match r.sending, r.receiving with
  | none, none => .noCoupling
  | some _, none => .sendOnly
  | none, some _ => .receiveOnly
  | some _, some _ => .bidirectional

def withSending (r : Relation α) (model : CouplingModel α) : Relation α := { r with sending := some model }

def withReceiving (r : Relation α) (model : CouplingModel α) : Relation α :=
  { r with receiving := some model }

def withoutSending (r : Relation α) : Relation α := { r with sending := none }

def withoutReceiving (r : Relation α) : Relation α := { r with receiving := none }

/-- The kind with the names of the models, the sending one first. -/
def describe (r : Relation α) : String :=
  match [r.sending, r.receiving].filterMap fun model => model.map (·.name) with
  | [] => r.kind.name
  | names => r.kind.name ++ "(" ++ ", ".intercalate names ++ ")"

end Relation

/-- A neighbor `j` as agent `i` sees it. -/
structure Neighbor (α : Type) where
  id : AgentId
  model : AgentModel α
  relation : Relation α
  /-- The agent predicts the neighbor inside its own problem. -/
  approximated : Bool
  /-- Size of the neighbor's own neighborhood, which scales its cost. -/
  neighborCount : Nat
  /-- Received: the neighbor's prediction `x_j`, `u_j`. -/
  agentState : AgentState α
  desired : AgentState α
  /-- Received: the neighbor's copy of this agent. -/
  coupledAgentState : AgentState α
  /-- Received: the neighbor's own consensus variables. -/
  couplingState : CouplingState α
  previousCouplingState : CouplingState α
  /-- Received: `z_v_ji`, the agreed influence on the neighbor from everyone but this agent. -/
  externalInfluence : CouplingState α
  previousExternalInfluence : CouplingState α
  /-- Received: the neighbor's multipliers and penalties for its copy of this agent. -/
  coupledMultiplier : MultiplierState α
  coupledPenalty : PenaltyState α
  /-- Owned: this agent's copy `x_ji`, `u_ji`, `v_ji` of the neighbor. -/
  localCopy : AgentState α
  /-- Owned: `v_ij` along the last local solution. -/
  localInfluence : Vec α
  /-- Owned: `z_v_ij`, the agreed influence on this agent from everyone but the neighbor. -/
  influenceCoupling : CouplingState α
  /-- Owned: prices and weights of `z_v_ij - v_ij`. -/
  influenceMultiplier : MultiplierState α
  influencePenalty : PenaltyState α
  /-- Owned: prices and weights of `z_u_j - u_ji` and `z_v_ji - v_ji`. -/
  copyMultiplier : MultiplierState α
  copyPenalty : PenaltyState α

namespace Neighbor

variable {α : Type}

/-- A neighbor with empty records and no prediction. -/
def new [Scalar α] (id : AgentId) (model : AgentModel α) (relation : Relation α) : Neighbor α where
  id
  model
  relation
  approximated := false
  neighborCount := 0
  agentState := .empty 0
  desired := .empty 0
  coupledAgentState := .empty 0
  couplingState := .empty 0
  previousCouplingState := .empty 0
  externalInfluence := .empty 0
  previousExternalInfluence := .empty 0
  coupledMultiplier := .empty 0
  coupledPenalty := .empty 0
  localCopy := .empty 0
  localInfluence := []
  influenceCoupling := .empty 0
  influenceMultiplier := .empty 0
  influencePenalty := .empty 0
  copyMultiplier := .empty 0
  copyPenalty := .empty 0

def nx (nb : Neighbor α) : Nat := nb.model.nx
def nu (nb : Neighbor α) : Nat := nb.model.nu

end Neighbor

/-- Which parts of the neighbors' problems an agent folds into its own. -/
structure Approximation where
  cost : Bool
  constraints : Bool
  deriving DecidableEq, Repr

/-- An agent with its own records and its neighbors in layout order. -/
structure Agent (α : Type) where
  id : AgentId
  model : AgentModel α
  neighbors : List (Neighbor α)
  approximation : Approximation
  agentState : AgentState α
  desired : AgentState α
  couplingState : CouplingState α
  /-- Prices and weights of `z_u_i - u_i`. -/
  multiplierState : MultiplierState α
  penaltyState : PenaltyState α

namespace Agent

variable {α : Type}

def new [Scalar α] (id : AgentId) (model : AgentModel α) : Agent α where
  id
  model
  neighbors := []
  approximation := ⟨false, false⟩
  agentState := .empty 0
  desired := .empty 0
  couplingState := .empty 0
  multiplierState := .empty 0
  penaltyState := .empty 0

def nx (a : Agent α) : Nat := a.model.nx
def nu (a : Agent α) : Nat := a.model.nu

def neighborIds (a : Agent α) : List AgentId := a.neighbors.map (·.id)

def neighbor? (a : Agent α) (id : AgentId) : Option (Neighbor α) := a.neighbors.find? (·.id == id)

/-- Changes the first neighbor with this id. -/
def modifyFirst (id : AgentId) (f : Neighbor α → Neighbor α) : List (Neighbor α) → List (Neighbor α)
  | [] => []
  | nb :: rest => if nb.id == id then f nb :: rest else nb :: modifyFirst id f rest

theorem find?_modifyFirst (id : AgentId) {f : Neighbor α → Neighbor α} (hf : ∀ nb, (f nb).id = nb.id)
    (nbs : List (Neighbor α)) :
    (modifyFirst id f nbs).find? (·.id == id) = (nbs.find? (·.id == id)).map f := by
  induction nbs with
  | nil => rfl
  | cons nb nbs ih =>
    unfold modifyFirst
    by_cases h : nb.id = id
    · simp [h, hf]
    · simp [h, ih]

def modifyNeighbor (a : Agent α) (id : AgentId) (f : Neighbor α → Neighbor α) : Agent α :=
  { a with neighbors := modifyFirst id f a.neighbors }

theorem neighbor?_modifyNeighbor (a : Agent α) (id : AgentId) {f : Neighbor α → Neighbor α}
    (hf : ∀ nb, (f nb).id = nb.id) : (a.modifyNeighbor id f).neighbor? id = (a.neighbor? id).map f :=
  find?_modifyFirst id hf a.neighbors

/-- Appends a neighbor. A repeated id shows when the agent is laid out. -/
def addNeighbor (a : Agent α) (nb : Neighbor α) : Agent α := { a with neighbors := a.neighbors ++ [nb] }

def removeNeighbor (a : Agent α) (id : AgentId) : Agent α :=
  { a with neighbors := a.neighbors.eraseP (·.id == id) }

def entries (a : Agent α) : List IndexMap.Entry := a.neighbors.map fun nb => ⟨nb.id, nb.nx, nb.nu⟩

def indexMap (a : Agent α) : Except ConfigError IndexMap :=
  IndexMap.build a.id a.nx a.nu a.entries

end Agent

end ConsensusControl
