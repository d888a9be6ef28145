import ConsensusControl.Transport.Direct

namespace ConsensusControl

/-- Delivery through a coordinator, which passes envelopes on in the order of their arrival. -/
structure Relay (α : Type) where
  inbox : List (Envelope α)
  direct : Direct α
  /-- Number of records passed on. -/
  relayed : Nat

namespace Relay

variable {α : Type}

def empty : Relay α := ⟨[], .empty, 0⟩

def register (id : AgentId) (r : Relay α) : Relay α := { r with direct := r.direct.register id }

def deregister (id : AgentId) (r : Relay α) : Relay α := { r with direct := r.direct.deregister id }

def send (e : Envelope α) (r : Relay α) : Except CommunicationError (Relay α) :=
  if !e.record.fits e.kind then .error (.unexpectedRecord e.receiver e.sender e.kind)
  else if !r.direct.isRegistered e.receiver then .error (.disconnected e.receiver)
  else .ok { r with inbox := r.inbox ++ [e] }

/-- Passes one envelope on. One that cannot be delivered any more is dropped. -/
def forward (e : Envelope α) (r : Relay α) : Relay α :=
  match r.direct.deliver e with
  | .ok direct => { r with direct, relayed := r.relayed + 1 }
  | .error _ => r

/-- The coordinator passes on the oldest envelope. -/
def step (r : Relay α) : Relay α :=
  match r.inbox with
  | [] => r
  | e :: inbox => forward e { r with inbox }

/-- The coordinator works off its inbox. -/
def settle (r : Relay α) : Relay α := r.inbox.foldl (fun r e => r.forward e) { r with inbox := [] }

def receive (receiver : AgentId) (key : Key) (r : Relay α) :
    Except CommunicationError (Option (StateRecord α) × Relay α) := do
  let (record, direct) ← r.direct.receive receiver key
  return (record, { r with direct })

/-- Whoever waits for a record gives the coordinator its turn. -/
instance : Transport (Relay α) α := ⟨register, deregister, send, fun id key r => r.settle.receive id key⟩

end Relay

end ConsensusControl
