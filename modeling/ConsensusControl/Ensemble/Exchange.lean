import ConsensusControl.Consensus.Exchange
import ConsensusControl.Ensemble.Basic

namespace ConsensusControl

/-- A record that somebody waits for. -/
structure Awaited where
  receiver : AgentId
  sender : AgentId
  kind : RecordKind
  deriving DecidableEq, Repr

namespace Ensemble

variable {σ α : Type} [Scalar α]

def communicated {β : Type} (id : AgentId) (iteration : Nat) (x : Except CommunicationError β) :
    Run σ α β :=
  match x with
  | .ok b => pure b
  | .error source => throw (.error (.communication ⟨id, iteration, .exchange⟩ source))

/-- Everything that is sent in a phase, sender by sender. -/
def envelopes (phase : ExchangePhase) (e : Ensemble σ α) : List (Envelope α) :=
  e.controllers.flatMap fun (id, c) => (c.outgoing phase).map fun o =>
    ⟨id, o.receiver, e.round, o.kind, o.record⟩

/-- Everything that is waited for in a phase, receiver by receiver. -/
def awaited (phase : ExchangePhase) (e : Ensemble σ α) : List Awaited :=
  e.controllers.flatMap fun (id, c) => c.agent.neighborIds.flatMap fun sender =>
    phase.kinds.map fun kind => ⟨id, sender, kind⟩

variable [Transport σ α]

def send (iteration : Nat) (envelope : Envelope α) : Run σ α Unit := do
  let transport ← communicated envelope.sender iteration (Transport.send envelope (← get).transport)
  modify ({ · with transport })

def receive (iteration : Nat) (w : Awaited) : Run σ α (Envelope α) := do
  let e ← get
  let (record, transport) ← communicated w.receiver iteration
    (Transport.receive w.receiver ⟨w.sender, e.round, w.kind⟩ e.transport)
  set { e with transport }
  match record with
  | some record => return ⟨w.sender, w.receiver, e.round, w.kind, record⟩
  | none => communicated w.receiver iteration (.error (.timeout w.receiver w.sender w.kind e.round))

omit [Transport σ α] in
def deliver (iteration : Nat) (envelope : Envelope α) : Run σ α Unit := do
  if let some c := (← get).controllers.lookup envelope.receiver then
    let (c, answer) := c.applyIncoming envelope.sender envelope.kind envelope.record
    putController envelope.receiver c
    communicated envelope.receiver iteration answer

/-- Sends every record of a phase and waits for every expected one. All are received before any is
applied. -/
def exchange (phase : ExchangePhase) (iteration : Nat) : Run σ α Unit := do
  modify fun e => { e with round := e.round + 1 }
  (envelopes phase (← get)).forM (send iteration)
  let received ← (awaited phase (← get)).mapM (receive iteration)
  received.forM (deliver iteration)

end Ensemble

end ConsensusControl
