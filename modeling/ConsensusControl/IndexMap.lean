import ConsensusControl.Error

namespace ConsensusControl

/-- Parts of the extended vectors that belong to one neighbor: its state copy, its control copy and the
influence on it from everyone else. -/
structure NeighborBlock where
  id : AgentId
  x : Block
  u : Block
  v : Block
  deriving DecidableEq, Repr

/-- Layout of `[x_i, x_j1, x_j2, ...]` and `[u_i, u_j1, v_j1, u_j2, v_j2, ...]`. The table is dense: it holds
under each id the position of that neighbor in `blocks`, and nothing under the ids in between. -/
structure IndexMap where
  nxOwn : Nat
  nuOwn : Nat
  nx : Nat
  nu : Nat
  blocks : List NeighborBlock
  lookup : List (Option Nat)
  lookup_eq : ∀ id : AgentId, lookup[id]?.join = blocks.findIdx? (·.id == id)
  deriving DecidableEq, Repr

namespace IndexMap

/-- Id and dimensions of one neighbor. -/
structure Entry where
  id : AgentId
  nx : Nat
  nu : Nat
  deriving DecidableEq, Repr

def ownX (m : IndexMap) : Block := ⟨0, m.nxOwn⟩
def ownU (m : IndexMap) : Block := ⟨0, m.nuOwn⟩

/-- What the table holds under an id. Beyond its end it holds nothing. -/
def position? (m : IndexMap) (id : AgentId) : Option Nat := m.lookup[id]?.join

def block? (m : IndexMap) (id : AgentId) : Option NeighborBlock := do
  let k ← m.position? id
  m.blocks[k]?

def checkDimensions (agent : AgentId) (nx nu : Nat) : Except ConfigError Unit :=
  if nx = 0 then .error (.nonPositiveDimension agent "state")
  else if nu = 0 then .error (.nonPositiveDimension agent "control")
  else .ok ()

/-- An agent without neighbors. -/
def own (nx nu : Nat) : IndexMap where
  nxOwn := nx
  nuOwn := nu
  nx := nx
  nu := nu
  blocks := []
  lookup := []
  lookup_eq _ := rfl

/-- Padding a table with nothing changes none of its answers. -/
theorem join_getElem?_rightpad (table : List (Option Nat)) (n k : Nat) :
    (table.rightpad n none)[k]?.join = table[k]?.join := by
  rcases Nat.lt_or_ge k table.length with hk | hk
  · rw [List.rightpad, List.getElem?_append_left hk]
  · rw [List.rightpad, List.getElem?_append_right hk, List.getElem?_eq_none hk, List.getElem?_replicate]
    split <;> rfl

/-- Lengthens the table, where that is needed, until it has a place for the id. Lengths are natural numbers,
so that no id is too large. -/
def reserve (m : IndexMap) (id : AgentId) : IndexMap :=
  { m with
    lookup := m.lookup.rightpad (id + 1) none
    lookup_eq k := by rw [join_getElem?_rightpad, m.lookup_eq] }

theorem lt_length_lookup_reserve (m : IndexMap) (id : AgentId) : id < (m.reserve id).lookup.length := by
  rw [reserve, List.length_rightpad]
  exact Nat.lt_of_lt_of_le (Nat.lt_succ_self id) (Nat.le_max_left _ _)

/-- Appends the blocks of a neighbor for whom the table has a place that is free. -/
def push (m : IndexMap) (e : Entry) (hplace : e.id < m.lookup.length) (hfree : m.position? e.id = none) :
    IndexMap :=
  { m with
    nx := m.nx + e.nx
    nu := m.nu + e.nu + e.nx
    blocks := m.blocks ++ [⟨e.id, ⟨m.nx, e.nx⟩, ⟨m.nu, e.nu⟩, ⟨m.nu + e.nu, e.nx⟩⟩]
    lookup := m.lookup.set e.id (some m.blocks.length)
    lookup_eq id := by
      rw [List.findIdx?_append, ← m.lookup_eq id]
      by_cases hid : e.id = id
      · subst hid
        have hnone : m.lookup[e.id]?.join = none := hfree
        rw [hnone, List.getElem?_set_self hplace]
        simp
      · rw [List.getElem?_set_ne hid]
        simp [hid] }

/-- Makes room for a neighbor and appends it, unless it is the agent itself or has been appended before. -/
def append (agent : AgentId) (m : IndexMap) (e : Entry) : Except ConfigError IndexMap := do
  checkDimensions e.id e.nx e.nu
  if h : ((m.reserve e.id).position? e.id).isSome ∨ e.id = agent then
    .error (.duplicateNeighbor agent e.id)
  else
    .ok ((m.reserve e.id).push e (lt_length_lookup_reserve m e.id)
      (Option.not_isSome_iff_eq_none.mp (not_or.mp h).1))

/-- Lays out an agent and its neighbors in list order. The first offending entry is the error. -/
def build (agent : AgentId) (nx nu : Nat) (neighbors : List Entry) : Except ConfigError IndexMap := do
  checkDimensions agent nx nu
  neighbors.foldlM (append agent) (own nx nu)

end IndexMap

end ConsensusControl
