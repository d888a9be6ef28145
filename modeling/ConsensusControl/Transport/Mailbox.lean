import ConsensusControl.Record

namespace ConsensusControl

/-- How a receiver asks for a record. -/
structure Key where
  sender : AgentId
  round : Nat
  kind : RecordKind
  deriving DecidableEq, Repr

/-- A record in transit. -/
structure Envelope (α : Type) where
  sender : AgentId
  receiver : AgentId
  round : Nat
  kind : RecordKind
  record : StateRecord α

def Envelope.key {α : Type} (e : Envelope α) : Key := ⟨e.sender, e.round, e.kind⟩

/-- Inbox of one agent. Envelopes arrive in any order; those that come up before they are asked for are
parked under their keys. -/
structure Mailbox (α : Type) where
  queue : List (Envelope α)
  parked : List (Key × StateRecord α)

namespace Mailbox

variable {α : Type}

def empty : Mailbox α := ⟨[], []⟩

/-- Puts an envelope at the end of the queue. -/
def deliver (e : Envelope α) (m : Mailbox α) : Mailbox α := { m with queue := m.queue ++ [e] }

/-- Number of records that wait to be received. -/
def pending (m : Mailbox α) : Nat := m.queue.length + m.parked.length

/-- Parks an envelope, in place of one with its key, unless its round is over. -/
def park (round : Nat) (e : Envelope α) (parked : List (Key × StateRecord α)) :
    List (Key × StateRecord α) :=
  if e.round < round then parked else (e.key, e.record) :: parked.filter (·.1 ≠ e.key)

/-- Works through the queue up to the first envelope with the key. -/
def search (key : Key) : List (Envelope α) → List (Key × StateRecord α) →
    Option (StateRecord α) × Mailbox α
  | [], parked => (none, ⟨[], parked⟩)
  | e :: queue, parked =>
    if e.key = key then (some e.record, ⟨queue, parked⟩)
    else search key queue (park key.round e parked)

/-- Takes out the record with the key, if it is there. Rounds only move forward, so what is parked from
earlier rounds is dropped. -/
def receive (key : Key) (m : Mailbox α) : Option (StateRecord α) × Mailbox α :=
  let parked := m.parked.filter (key.round ≤ ·.1.round)
  match parked.lookup key with
  | some record => (some record, ⟨m.queue, parked.filter (·.1 ≠ key)⟩)
  | none => search key m.queue parked

end Mailbox

end ConsensusControl
