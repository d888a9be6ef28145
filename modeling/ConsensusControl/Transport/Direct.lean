import ConsensusControl.Table
import ConsensusControl.Transport.Basic

namespace ConsensusControl

/-- Delivery straight into the receivers' mailboxes. -/
structure Direct (α : Type) where
  mailboxes : Table (Mailbox α)

namespace Direct

variable {α : Type}

def empty : Direct α := ⟨[]⟩

def isRegistered (d : Direct α) (id : AgentId) : Bool := Table.contains id d.mailboxes

def pending (d : Direct α) (id : AgentId) : Nat := ((d.mailboxes.lookup id).map (·.pending)).getD 0

def register (id : AgentId) (d : Direct α) : Direct α :=
  ⟨Table.alter id (·.getD .empty) d.mailboxes⟩

def deregister (id : AgentId) (d : Direct α) : Direct α := ⟨Table.erase id d.mailboxes⟩

/-- Refuses records of the wrong family before it looks for the mailbox. -/
def deliver (e : Envelope α) (d : Direct α) : Except CommunicationError (Direct α) :=
  if !e.record.fits e.kind then .error (.unexpectedRecord e.receiver e.sender e.kind)
  else if !d.isRegistered e.receiver then .error (.disconnected e.receiver)
  else .ok ⟨Table.modify e.receiver (·.deliver e) d.mailboxes⟩

def receive (receiver : AgentId) (key : Key) (d : Direct α) :
    Except CommunicationError (Option (StateRecord α) × Direct α) :=
  match d.mailboxes.lookup receiver with
  | none => .error (.disconnected receiver)
  | some mailbox =>
    let (record, mailbox) := mailbox.receive key
    .ok (record, ⟨Table.insert receiver mailbox d.mailboxes⟩)

instance : Transport (Direct α) α := ⟨register, deregister, deliver, receive⟩

end Direct

end ConsensusControl
