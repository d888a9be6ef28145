import ConsensusControl.Trajectory

namespace ConsensusControl

/-- The four families of records that agents keep and exchange. -/
inductive Family
  | agent
  | coupling
  | multiplier
  | penalty
  deriving DecidableEq, Repr

namespace Family

def name : Family → String
  | agent => "agent"
  | coupling => "coupling"
  | multiplier => "multiplier"
  | penalty => "penalty"

def all : List Family := [agent, coupling, multiplier, penalty]

end Family

/-- Trajectories of one agent on one time grid: a state, a control and an influence channel. What the
channels hold (values, consensus variables, multipliers, weights) is the family's business. -/
structure Record (family : Family) (α : Type) where
  owner : AgentId
  t0 : α
  t : Vec α
  x : Vec α
  u : Vec α
  v : Vec α

abbrev AgentState (α : Type) := Record .agent α
abbrev CouplingState (α : Type) := Record .coupling α
abbrev MultiplierState (α : Type) := Record .multiplier α
abbrev PenaltyState (α : Type) := Record .penalty α

/-- Per-sample dimensions of a record's channels. -/
structure Shape where
  nx : Nat
  nu : Nat
  nv : Nat
  deriving DecidableEq, Repr

namespace Record

variable {family : Family} {α : Type} [Scalar α]

def empty (owner : AgentId) : Record family α := ⟨owner, 0, [], [], [], []⟩

instance : Inhabited (Record family α) := ⟨empty 0⟩

def startOf (t : Vec α) : α := t.headD 0

/-- A record that holds the same sample at every grid point. -/
def constant (owner : AgentId) (t x u v : Vec α) : Record family α :=
  ⟨owner, startOf t, t, Trajectory.constant t.length x, Trajectory.constant t.length u,
    Trajectory.constant t.length v⟩

/-- A record whose entries are all `value`. -/
def filled (owner : AgentId) (t : Vec α) (shape : Shape) (value : α) : Record family α :=
  constant owner t (List.replicate shape.nx value) (List.replicate shape.nu value)
    (List.replicate shape.nv value)

def samples (r : Record family α) : Nat := r.t.length

/-- The dimensions that the channels' lengths amount to. -/
def shape (r : Record family α) : Shape :=
  ⟨Trajectory.sampleSize r.samples r.x, Trajectory.sampleSize r.samples r.u,
    Trajectory.sampleSize r.samples r.v⟩

def hasShape (r : Record family α) (samples : Nat) (shape : Shape) : Bool :=
  r.t.length == samples && r.x.length == shape.nx * samples && r.u.length == shape.nu * samples &&
    r.v.length == shape.nv * samples && Trajectory.isIncreasing r.t

def sampleAt (what : String) (values : Vec α) (dim k : Nat) : Checked (Vec α) := do
  Checked.require ((k + 1) * dim ≤ values.length) (.outOfRange what k values.length)
  return Trajectory.sample dim values k

def xAt (r : Record family α) (k : Nat) : Checked (Vec α) := sampleAt "state sample" r.x r.shape.nx k

def uAt (r : Record family α) (k : Nat) : Checked (Vec α) := sampleAt "control sample" r.u r.shape.nu k

def interpolateX (r : Record family α) (dim : Nat) (time : α) : Vec α :=
  Trajectory.interpolate r.t r.x dim time

def interpolateU (r : Record family α) (dim : Nat) (time : α) : Vec α :=
  Trajectory.interpolate r.t r.u dim time

def interpolateV (r : Record family α) (dim : Nat) (time : α) : Vec α :=
  Trajectory.interpolate r.t r.v dim time

/-- Moves the grid and leaves the samples where they are. -/
def retime (dt : α) (r : Record family α) : Record family α :=
  { r with t0 := r.t0 + dt, t := r.t.map (· + dt) }

/-- Moves the horizon forward by one sample of length `dt`. -/
def shift (dt : α) (r : Record family α) : Record family α :=
  { r.retime dt with
    x := Trajectory.shiftSamples r.shape.nx r.x
    u := Trajectory.shiftSamples r.shape.nu r.u
    v := Trajectory.shiftSamples r.shape.nv r.v }

/-- Smallest and largest entry of all channels. -/
def bounds (r : Record family α) : Option (α × α) :=
  (r.x ++ r.u ++ r.v).foldl (fun acc e => match acc with
    | none => some (e, e)
    | some (lo, hi) => some (Scalar.min lo e, Scalar.max hi e)) none

end Record

/-- What a record means to its receiver. -/
inductive RecordKind
  | agentState
  | desiredAgentState
  | coupledAgentState
  | couplingState
  | externalInfluenceCouplingState
  | coupledMultiplierState
  | coupledPenaltyState
  deriving DecidableEq, Repr

namespace RecordKind

def family : RecordKind → Family
  | agentState | desiredAgentState | coupledAgentState => .agent
  | couplingState | externalInfluenceCouplingState => .coupling
  | coupledMultiplierState => .multiplier
  | coupledPenaltyState => .penalty

def name : RecordKind → String
  | agentState => "AgentState"
  | desiredAgentState => "DesiredAgentState"
  | coupledAgentState => "CoupledAgentState"
  | couplingState => "CouplingState"
  | externalInfluenceCouplingState => "ExternalInfluenceCouplingState"
  | coupledMultiplierState => "CoupledMultiplierState"
  | coupledPenaltyState => "CoupledPenaltyState"

/-- Every kind, in the order of an exchange. -/
def all : List RecordKind :=
  [agentState, desiredAgentState, coupledAgentState, couplingState, externalInfluenceCouplingState,
    coupledMultiplierState, coupledPenaltyState]

end RecordKind

/-- A record of any family. -/
structure StateRecord (α : Type) where
  {family : Family}
  record : Record family α

namespace StateRecord

def fits {α : Type} (r : StateRecord α) (kind : RecordKind) : Bool := r.family == kind.family

end StateRecord

end ConsensusControl
