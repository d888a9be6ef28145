import ConsensusControl.Agent

namespace ConsensusControl

namespace Neighbor

variable {α : Type}

/-- The records that an agent keeps for a neighbor, by their names. -/
def records (nb : Neighbor α) : List (String × StateRecord α) :=
  [("agent_state", ⟨nb.agentState⟩), ("desired_agent_state", ⟨nb.desired⟩),
    ("coupled_agent_state", ⟨nb.coupledAgentState⟩), ("coupling_state", ⟨nb.couplingState⟩),
    ("previous_coupling_state", ⟨nb.previousCouplingState⟩),
    ("external_influence_coupling_state", ⟨nb.externalInfluence⟩),
    ("previous_external_influence_coupling_state", ⟨nb.previousExternalInfluence⟩),
    ("coupled_multiplier_state", ⟨nb.coupledMultiplier⟩),
    ("coupled_penalty_state", ⟨nb.coupledPenalty⟩), ("local_copy", ⟨nb.localCopy⟩),
    ("influence_coupling_state", ⟨nb.influenceCoupling⟩),
    ("influence_multiplier_state", ⟨nb.influenceMultiplier⟩),
    ("influence_penalty_state", ⟨nb.influencePenalty⟩),
    ("copy_multiplier_state", ⟨nb.copyMultiplier⟩), ("copy_penalty_state", ⟨nb.copyPenalty⟩)]

/-- Changes every record that is kept for a neighbor. -/
def mapRecords (f : String → {family : Family} → Record family α → Record family α)
    (nb : Neighbor α) : Neighbor α :=
  { nb with
    agentState := f "agent_state" nb.agentState
    desired := f "desired_agent_state" nb.desired
    coupledAgentState := f "coupled_agent_state" nb.coupledAgentState
    couplingState := f "coupling_state" nb.couplingState
    previousCouplingState := f "previous_coupling_state" nb.previousCouplingState
    externalInfluence := f "external_influence_coupling_state" nb.externalInfluence
    previousExternalInfluence :=
      f "previous_external_influence_coupling_state" nb.previousExternalInfluence
    coupledMultiplier := f "coupled_multiplier_state" nb.coupledMultiplier
    coupledPenalty := f "coupled_penalty_state" nb.coupledPenalty
    localCopy := f "local_copy" nb.localCopy
    influenceCoupling := f "influence_coupling_state" nb.influenceCoupling
    influenceMultiplier := f "influence_multiplier_state" nb.influenceMultiplier
    influencePenalty := f "influence_penalty_state" nb.influencePenalty
    copyMultiplier := f "copy_multiplier_state" nb.copyMultiplier
    copyPenalty := f "copy_penalty_state" nb.copyPenalty }

end Neighbor

namespace Agent

variable {α : Type}

/-- The records that an agent keeps for itself, by their names. -/
def records (a : Agent α) : List (String × StateRecord α) :=
  [("agent_state", ⟨a.agentState⟩), ("desired_agent_state", ⟨a.desired⟩),
    ("coupling_state", ⟨a.couplingState⟩), ("multiplier_state", ⟨a.multiplierState⟩),
    ("penalty_state", ⟨a.penaltyState⟩)]

/-- Changes every record that an agent keeps for itself. -/
def mapRecords (f : String → {family : Family} → Record family α → Record family α)
    (a : Agent α) : Agent α :=
  { a with
    agentState := f "agent_state" a.agentState
    desired := f "desired_agent_state" a.desired
    couplingState := f "coupling_state" a.couplingState
    multiplierState := f "multiplier_state" a.multiplierState
    penaltyState := f "penalty_state" a.penaltyState }

end Agent

end ConsensusControl
