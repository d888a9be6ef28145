import ConsensusControl.Record

namespace ConsensusControl

/-- Registration data or options that cannot be used. -/
inductive ConfigError
  | duplicateNeighbor (agent neighbor : AgentId)
  | nonPositiveDimension (agent : AgentId) (what : String)
  | unknownAgent (agent : AgentId)
  | unknownCoupling (agent neighbor : AgentId)
  | duplicateAgent (agent : AgentId)
  | selfCoupling (agent : AgentId)
  | dimensionMismatch (agent : AgentId) (what : String) (expected actual : Nat)
  | invalidOption (name reason : String)
  | unreadable (reason : String)
  deriving DecidableEq, Repr

def ConfigError.name : ConfigError → String
  | duplicateNeighbor .. => "DuplicateNeighbor"
  | nonPositiveDimension .. => "NonPositiveDimension"
  | unknownAgent .. => "UnknownAgent"
  | unknownCoupling .. => "UnknownCoupling"
  | duplicateAgent .. => "DuplicateAgent"
  | selfCoupling .. => "SelfCoupling"
  | dimensionMismatch .. => "DimensionMismatch"
  | invalidOption .. => "InvalidOption"
  | unreadable .. => "Parse"

def ConfigError.message : ConfigError → String
  | duplicateNeighbor agent neighbor => s!"agent {agent} lists neighbor {neighbor} more than once"
  | nonPositiveDimension agent what => s!"agent {agent} has a non-positive {what} dimension"
  | unknownAgent agent => s!"agent {agent} is not registered"
  | unknownCoupling agent neighbor => s!"agent {neighbor} is not coupled into agent {agent}"
  | duplicateAgent agent => s!"agent {agent} is already registered"
  | selfCoupling agent => s!"agent {agent} cannot be coupled to itself"
  | dimensionMismatch agent what expected actual =>
    s!"agent {agent}: {what} expects {expected} values, got {actual}"
  | invalidOption name reason => s!"invalid option `{name}`: {reason}"
  | unreadable reason => s!"failed to load configuration: {reason}"

/-- Failure of one local solve. -/
inductive SolveError
  | notConverged (iterations : Nat)
  | numericalFailure (what : String)
  | dimensionMismatch (what : String) (expected actual : Nat)
  deriving DecidableEq, Repr

def SolveError.name : SolveError → String
  | notConverged .. => "NotConverged"
  | numericalFailure .. => "NumericalFailure"
  | dimensionMismatch .. => "DimensionMismatch"

def SolveError.message : SolveError → String
  | notConverged iterations => s!"local solver did not converge within {iterations} iterations"
  | numericalFailure what => s!"numerical failure in local solver: {what}"
  | dimensionMismatch what expected actual => s!"{what} expects {expected} values, got {actual}"

/-- Failure of the record exchange. -/
inductive CommunicationError
  | timeout (receiver sender : AgentId) (kind : RecordKind) (round : Nat)
  | disconnected (agent : AgentId)
  | unexpectedRecord (receiver sender : AgentId) (kind : RecordKind)
  | malformedRecord (receiver sender : AgentId) (kind : RecordKind) (reason : String)
  | notANeighbor (receiver sender : AgentId)
  deriving DecidableEq, Repr

def CommunicationError.name : CommunicationError → String
  | timeout .. => "Timeout"
  | disconnected .. => "Disconnected"
  | unexpectedRecord .. => "UnexpectedRecord"
  | malformedRecord .. => "MalformedRecord"
  | notANeighbor .. => "NotANeighbor"

def CommunicationError.message : CommunicationError → String
  | timeout receiver sender kind round =>
    let kind := kind.name
    s!"agent {receiver} timed out waiting for {kind} from agent {sender} (exchange {round})"
  | disconnected agent => s!"mailbox of agent {agent} is disconnected"
  | unexpectedRecord receiver sender kind =>
    let kind := kind.name
    s!"agent {receiver} received a record of the wrong kind for {kind} from agent {sender}"
  | malformedRecord receiver sender kind reason =>
    let kind := kind.name
    s!"agent {receiver} received a malformed {kind} from agent {sender}: {reason}"
  | notANeighbor receiver sender => s!"agent {sender} is not a neighbor of agent {receiver}"

/-- Part of an iteration that an error belongs to. -/
inductive Phase
  | setup
  | agentStates
  | couplingStates
  | multiplierStates
  | penaltyAdaption
  | exchange
  deriving DecidableEq, Repr

def Phase.name : Phase → String
  | setup => "Setup"
  | agentStates => "AgentStates"
  | couplingStates => "CouplingStates"
  | multiplierStates => "MultiplierStates"
  | penaltyAdaption => "PenaltyAdaption"
  | exchange => "Exchange"

def Phase.all : List Phase :=
  [.setup, .agentStates, .couplingStates, .multiplierStates, .penaltyAdaption, .exchange]

/-- Where an error happened. -/
structure Context where
  agent : AgentId
  iteration : Nat
  phase : Phase
  deriving DecidableEq, Repr

def Context.message (c : Context) : String :=
  let phase := c.phase.name
  let agent := c.agent
  let iteration := c.iteration
  s!"agent {agent} in {phase} (iteration {iteration})"

/-- What ends a run over the whole network. -/
inductive RunError
  | config (context : Context) (source : ConfigError)
  | solve (context : Context) (source : SolveError)
  | communication (context : Context) (source : CommunicationError)
  | failuresExceeded (context : Context) (failures : Nat)
  | worker (reason : String)
  deriving DecidableEq, Repr

namespace RunError

def name : RunError → String
  | config .. => "Config"
  | solve .. => "Solve"
  | communication .. => "Communication"
  | failuresExceeded .. => "SolveFailuresExceeded"
  | worker .. => "Runtime"

/-- Name of the error below the context, if there is one. -/
def sourceName? : RunError → Option String
  | config _ source => some source.name
  | solve _ source => some source.name
  | communication _ source => some source.name
  | failuresExceeded _ _ | worker _ => none

def context? : RunError → Option Context
  | config context _ | solve context _ | communication context _ | failuresExceeded context _ =>
    some context
  | worker _ => none

/-- Text of the fault below the context, if there is one. -/
def sourceMessage? : RunError → Option String
  | config _ source => some source.message
  | solve _ source => some source.message
  | communication _ source => some source.message
  | failuresExceeded _ _ | worker _ => none

def message : RunError → String
  | config context source => context.message ++ ": " ++ source.message
  | solve context source => context.message ++ ": " ++ source.message
  | communication context source => context.message ++ ": " ++ source.message
  | failuresExceeded context failures =>
    context.message ++ s!": {failures} consecutive local solve failures"
  | worker reason => s!"worker task failed: {reason}"

end RunError

end ConsensusControl
