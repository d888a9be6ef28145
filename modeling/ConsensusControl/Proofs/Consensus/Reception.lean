import ConsensusControl.Consensus.Exchange
import ConsensusControl.Proofs.Agent
import ConsensusControl.Proofs.Checked

namespace ConsensusControl

variable {α : Type}

namespace Agent

/-- The record of one kind for one neighbor, as `recordFor` sends it. -/
def recordOf (a : Agent α) (nb : Neighbor α) : (kind : RecordKind) → Record kind.family α
  | .agentState => a.agentState
  | .desiredAgentState => a.desired
  | .coupledAgentState => nb.localCopy
  | .couplingState => a.couplingState
  | .externalInfluenceCouplingState => nb.influenceCoupling
  | .coupledMultiplierState => nb.copyMultiplier
  | .coupledPenaltyState => nb.copyPenalty

theorem recordFor_eq (a : Agent α) (nb : Neighbor α) (kind : RecordKind) :
    a.recordFor nb kind = ⟨a.recordOf nb kind⟩ := by
  cases kind <;> rfl

end Agent

namespace Neighbor

/-- The last record of one kind that came from the neighbor. -/
def stored (nb : Neighbor α) : (kind : RecordKind) → Record kind.family α
  | .agentState => nb.agentState
  | .desiredAgentState => nb.desired
  | .coupledAgentState => nb.coupledAgentState
  | .couplingState => nb.couplingState
  | .externalInfluenceCouplingState => nb.externalInfluence
  | .coupledMultiplierState => nb.coupledMultiplier
  | .coupledPenaltyState => nb.coupledPenalty

/-- Stores a record without a look at its lengths. -/
def keep (nb : Neighbor α) : (kind : RecordKind) → Record kind.family α → Neighbor α
  | .agentState, r => { nb with agentState := r }
  | .desiredAgentState, r => { nb with desired := r }
  | .coupledAgentState, r => { nb with coupledAgentState := r }
  | .couplingState, r => { nb with couplingState := r, previousCouplingState := nb.couplingState }
  | .externalInfluenceCouplingState, r =>
    { nb with externalInfluence := r, previousExternalInfluence := nb.externalInfluence }
  | .coupledMultiplierState, r => { nb with coupledMultiplier := r }
  | .coupledPenaltyState, r => { nb with coupledPenalty := r }

theorem id_keep (nb : Neighbor α) (kind : RecordKind) (r : Record kind.family α) :
    (nb.keep kind r).id = nb.id := by
  cases kind <;> rfl

/-- What is checked of a record before it is stored. -/
def examine (nb : Neighbor α) (samples nx nu : Nat) :
    (kind : RecordKind) → Record kind.family α → Except String Unit
  | .agentState, r => Record.checkAgent r ⟨samples, nb.nx, nb.nu, none⟩
  | .desiredAgentState, r => Record.checkAgent r ⟨none, nb.nx, nb.nu, none⟩
  | .coupledAgentState, r => Record.checkAgent r ⟨samples, nx, nu, nx⟩
  | .couplingState, r => Record.checkLength "z_u" r.u.length (samples * nb.nu)
  | .externalInfluenceCouplingState, r => Record.checkLength "z_v" r.v.length (samples * nb.nx)
  | .coupledMultiplierState, r => do
    Record.checkLength "mu_u" r.u.length (samples * nu)
    Record.checkLength "mu_v" r.v.length (samples * nx)
  | .coupledPenaltyState, r => do
    Record.checkLength "rho_u" r.u.length (samples * nu)
    Record.checkLength "rho_v" r.v.length (samples * nx)

/-- A refused record leaves the neighbor as it is, and one that passes all checks is kept. -/
theorem run_receive (nb : Neighbor α) (samples nx nu : Nat) (kind : RecordKind)
    (r : Record kind.family α) :
    ((receive samples nx nu kind r).run.run nb).run = match nb.examine samples nx nu kind r with
      | .error reason => (.error reason, nb)
      | .ok () => (.ok (), nb.keep kind r) := by
  have hone : ∀ (check : Except String Unit) (f : Neighbor α → Neighbor α),
      ((do check; modify f : ExceptT String (StateM (Neighbor α)) Unit).run.run nb).run =
        match check with
        | .error reason => (.error reason, nb)
        | .ok () => (.ok (), f nb) := by
    intro check f
    cases check <;> rfl
  have htwo : ∀ (first second : Except String Unit) (f : Neighbor α → Neighbor α),
      ((do first; second; modify f : ExceptT String (StateM (Neighbor α)) Unit).run.run nb).run =
        match (do first; second : Except String Unit) with
        | .error reason => (.error reason, nb)
        | .ok () => (.ok (), f nb) := by
    intro first second f
    cases first with
    | error reason => rfl
    | ok => cases second <;> rfl
  cases kind with
  | agentState | desiredAgentState | coupledAgentState | couplingState | externalInfluenceCouplingState =>
    exact hone _ _
  | coupledMultiplierState | coupledPenaltyState => exact htwo _ _ _

/-- The lengths that a record needs to be stored by an agent with dimensions `nx` and `nu`. -/
def Accepts (nb : Neighbor α) (samples nx nu : Nat) :
    (kind : RecordKind) → Record kind.family α → Prop
  | .agentState, r =>
    r.t.length = samples ∧ r.x.length = samples * nb.nx ∧ r.u.length = samples * nb.nu
  | .desiredAgentState, r => r.x.length = r.t.length * nb.nx ∧ r.u.length = r.t.length * nb.nu
  | .coupledAgentState, r =>
    r.t.length = samples ∧ r.x.length = samples * nx ∧ r.u.length = samples * nu ∧
      r.v.length = samples * nx
  | .couplingState, r => r.u.length = samples * nb.nu
  | .externalInfluenceCouplingState, r => r.v.length = samples * nb.nx
  | .coupledMultiplierState, r => r.u.length = samples * nu ∧ r.v.length = samples * nx
  | .coupledPenaltyState, r => r.u.length = samples * nu ∧ r.v.length = samples * nx

/-- Of the neighbor, only its model counts. -/
theorem Accepts.of_model {nb nb' : Neighbor α} {samples nx nu : Nat} {kind : RecordKind}
    {r : Record kind.family α} (h : nb.Accepts samples nx nu kind r) (hmodel : nb'.model = nb.model) :
    nb'.Accepts samples nx nu kind r := by
  have hnx : nb'.nx = nb.nx := congrArg AgentModel.nx hmodel
  have hnu : nb'.nu = nb.nu := congrArg AgentModel.nu hmodel
  cases kind with
  | agentState | desiredAgentState | couplingState | externalInfluenceCouplingState =>
    simp only [Accepts, hnx, hnu] at h ⊢
    exact h
  | coupledAgentState | coupledMultiplierState | coupledPenaltyState => exact h

theorem checkLength_eq_ok {what : String} {actual expected : Nat} :
    Record.checkLength what actual expected = .ok () ↔ actual = expected := by
  unfold Record.checkLength
  split <;> simp_all

theorem checkAgent_eq_ok {r : AgentState α} {e : Expected} (h : Record.checkAgent r e = .ok ()) :
    (∀ n, e.samples = some n → r.t.length = n) ∧ r.x.length = r.t.length * e.nx ∧
      r.u.length = r.t.length * e.nu ∧ ∀ nv, e.nv = some nv → r.v.length = r.t.length * nv := by
  obtain ⟨samples, nx, nu, nv⟩ := e
  unfold Record.checkAgent at h
  by_cases hempty : r.t.length = 0
  · simp [hempty, throw, throwThe, MonadExceptOf.throw, bind, Except.bind] at h
  -- The three channels are checked alike whether the grid has a prescribed length or not.
  have hchannels : ∀ last : Except String Unit, (do
      Record.checkLength "x" r.x.length (r.t.length * nx)
      Record.checkLength "u" r.u.length (r.t.length * nu)
      last) = .ok () →
      r.x.length = r.t.length * nx ∧ r.u.length = r.t.length * nu ∧ last = .ok () := by
    intro last h
    obtain ⟨⟨⟩, hx, h⟩ := bind_eq_ok.mp h
    obtain ⟨⟨⟩, hu, h⟩ := bind_eq_ok.mp h
    exact ⟨checkLength_eq_ok.mp hx, checkLength_eq_ok.mp hu, h⟩
  simp only [hempty, if_false] at h
  cases samples with
  | none =>
    obtain ⟨hx, hu, hlast⟩ := hchannels _ h
    refine ⟨by simp, hx, hu, ?_⟩
    intro n heq
    obtain rfl := heq
    exact checkLength_eq_ok.mp hlast
  | some samples =>
    obtain ⟨⟨⟩, ht, h⟩ := bind_eq_ok.mp h
    obtain ⟨hx, hu, hlast⟩ := hchannels _ h
    refine ⟨?_, hx, hu, ?_⟩
    · intro n h
      cases h
      exact checkLength_eq_ok.mp ht
    · intro n heq
      obtain rfl := heq
      exact checkLength_eq_ok.mp hlast

theorem examine_eq_ok {nb : Neighbor α} {samples nx nu : Nat} {kind : RecordKind}
    {r : Record kind.family α} (h : nb.examine samples nx nu kind r = .ok ()) :
    nb.Accepts samples nx nu kind r := by
  cases kind with
  | agentState =>
    rw [examine] at h
    obtain ⟨ht, hx, hu, -⟩ := checkAgent_eq_ok h
    have hlength := ht samples rfl
    exact ⟨hlength, hlength ▸ hx, hlength ▸ hu⟩
  | desiredAgentState =>
    rw [examine] at h
    obtain ⟨-, hx, hu, -⟩ := checkAgent_eq_ok h
    exact ⟨hx, hu⟩
  | coupledAgentState =>
    rw [examine] at h
    obtain ⟨ht, hx, hu, hv⟩ := checkAgent_eq_ok h
    have hlength := ht samples rfl
    exact ⟨hlength, hlength ▸ hx, hlength ▸ hu, hlength ▸ hv nx rfl⟩
  | couplingState | externalInfluenceCouplingState => exact checkLength_eq_ok.mp h
  | coupledMultiplierState | coupledPenaltyState =>
    obtain ⟨⟨⟩, hu, hv⟩ := bind_eq_ok.mp h
    exact ⟨checkLength_eq_ok.mp hu, checkLength_eq_ok.mp hv⟩

/-- A record on a grid of its own that has all lengths passes the check. -/
theorem checkAgent_of_lengths {r : AgentState α} {e : Expected} (hne : r.t ≠ [])
    (ht : ∀ n, e.samples = some n → r.t.length = n) (hx : r.x.length = r.t.length * e.nx)
    (hu : r.u.length = r.t.length * e.nu) (hv : ∀ nv, e.nv = some nv → r.v.length = r.t.length * nv) :
    Record.checkAgent r e = .ok () := by
  obtain ⟨samples, nx, nu, nv⟩ := e
  have hpos : r.t.length ≠ 0 := by simpa using hne
  have hchannels : ∀ last : Except String Unit, last = .ok () → (do
      Record.checkLength "x" r.x.length (r.t.length * nx)
      Record.checkLength "u" r.u.length (r.t.length * nu)
      last) = .ok () := fun last hlast =>
    bind_eq_ok.mpr ⟨(), checkLength_eq_ok.mpr hx, bind_eq_ok.mpr ⟨(), checkLength_eq_ok.mpr hu, hlast⟩⟩
  have hinfluence : ∀ n, nv = some n → Record.checkLength "v" r.v.length (r.t.length * n) = .ok () :=
    fun n hn => checkLength_eq_ok.mpr (hv n hn)
  unfold Record.checkAgent
  simp only [hpos, if_false]
  cases samples with
  | none =>
    refine hchannels _ ?_
    cases nv with
    | none => rfl
    | some nv => exact hinfluence nv rfl
  | some n =>
    refine bind_eq_ok.mpr ⟨(), checkLength_eq_ok.mpr (ht n rfl), hchannels _ ?_⟩
    cases nv with
    | none => rfl
    | some nv => exact hinfluence nv rfl

theorem examine_of_accepts {nb : Neighbor α} {samples nx nu : Nat} {kind : RecordKind}
    {r : Record kind.family α} (hne : r.t ≠ []) (h : nb.Accepts samples nx nu kind r) :
    nb.examine samples nx nu kind r = .ok () := by
  cases kind with
  | agentState =>
    obtain ⟨ht, hx, hu⟩ := h
    rw [examine]
    refine checkAgent_of_lengths hne (fun n hn => ?_) (ht ▸ hx) (ht ▸ hu) (fun nv hnv => ?_)
    · exact ht.trans (Option.some.inj hn)
    · cases hnv
  | desiredAgentState =>
    obtain ⟨hx, hu⟩ := h
    rw [examine]
    refine checkAgent_of_lengths hne (fun n hn => ?_) hx hu (fun nv hnv => ?_)
    · cases hn
    · cases hnv
  | coupledAgentState =>
    obtain ⟨ht, hx, hu, hv⟩ := h
    rw [examine]
    refine checkAgent_of_lengths hne (fun n hn => ?_) (ht ▸ hx) (ht ▸ hu) (fun nv hnv => ?_)
    · exact ht.trans (Option.some.inj hn)
    · obtain rfl := Option.some.inj hnv
      exact ht ▸ hv
  | couplingState | externalInfluenceCouplingState => exact checkLength_eq_ok.mpr h
  | coupledMultiplierState | coupledPenaltyState =>
    exact bind_eq_ok.mpr ⟨(), checkLength_eq_ok.mpr h.1, checkLength_eq_ok.mpr h.2⟩

end Neighbor

namespace Controller

/-- The controller after a record that is not refused. -/
def accept (c : Controller α) (sender : AgentId) (kind : RecordKind) (r : StateRecord α) :
    Except CommunicationError (Controller α) :=
  (c.applyIncoming sender kind r).2.map fun _ => (c.applyIncoming sender kind r).1

/-- What becomes of a record of the right family. Where it is refused, the neighbor is put back as it was. -/
theorem applyIncoming_eq (c : Controller α) (sender : AgentId) (kind : RecordKind)
    (r : Record kind.family α) :
    c.applyIncoming sender kind ⟨r⟩ = match c.agent.neighbor? sender with
      | none => (c, .error (.notANeighbor c.id sender))
      | some nb => match nb.examine c.options.horizonSteps c.agent.nx c.agent.nu kind r with
        | .error reason => (c, .error (.malformedRecord c.id sender kind reason))
        | .ok () =>
          ({ c with agent := c.agent.modifyNeighbor sender fun _ => nb.keep kind r }, .ok ()) := by
  rw [applyIncoming, dif_pos rfl]
  cases hnb : c.agent.neighbor? sender with
  | none => rfl
  | some nb =>
    have hrun := nb.run_receive c.options.horizonSteps c.agent.nx c.agent.nu kind r
    have hback : c.agent.modifyNeighbor sender (fun _ => nb) = c.agent := by
      obtain ⟨before, after, hsplit, -, -, hmodify⟩ := Agent.modifyFirst_split hnb
      rw [Agent.modifyNeighbor, hmodify, ← hsplit]
    dsimp only [Id.run] at hrun ⊢
    rw [hrun]
    cases nb.examine c.options.horizonSteps c.agent.nx c.agent.nu kind r with
    | error reason =>
      dsimp only
      rw [hback]
      rfl
    | ok => rfl

/-- A refused record leaves the controller as it is. One that is not refused has all lengths and is kept with
its sender. -/
theorem applyIncoming_cases (c : Controller α) (sender : AgentId) (kind : RecordKind) (r : StateRecord α) :
    (∃ e, c.applyIncoming sender kind r = (c, .error e)) ∨
      ∃ (record : Record kind.family α) (nb : Neighbor α), r = ⟨record⟩ ∧
        c.agent.neighbor? sender = some nb ∧
        nb.Accepts c.options.horizonSteps c.agent.nx c.agent.nu kind record ∧
        c.applyIncoming sender kind r =
          ({ c with agent := c.agent.modifyNeighbor sender fun _ => nb.keep kind record }, .ok ()) := by
  by_cases hfamily : r.family = kind.family
  · obtain @⟨family, record⟩ := r
    obtain rfl : family = kind.family := hfamily
    rw [applyIncoming_eq]
    cases c.agent.neighbor? sender with
    | none => exact .inl ⟨_, rfl⟩
    | some nb =>
      dsimp only
      cases hexamine : nb.examine c.options.horizonSteps c.agent.nx c.agent.nu kind record with
      | error reason => exact .inl ⟨_, rfl⟩
      | ok => exact .inr ⟨record, nb, rfl, rfl, Neighbor.examine_eq_ok hexamine, rfl⟩
  · exact .inl ⟨_, dif_neg hfamily⟩

/-- A reception changes the agent's neighbors alone. -/
theorem applyIncoming_frame (c : Controller α) (sender : AgentId) (kind : RecordKind)
    (r : StateRecord α) : ∃ neighbors, (c.applyIncoming sender kind r).1 =
      { c with agent := { c.agent with neighbors } } := by
  obtain ⟨_, heq⟩ | ⟨_, _, -, -, -, heq⟩ := c.applyIncoming_cases sender kind r
  · exact ⟨c.agent.neighbors, by rw [heq]⟩
  · exact ⟨_, by rw [heq]; rfl⟩

theorem applyIncoming_of_accepts {c : Controller α} {sender : AgentId} {nb : Neighbor α}
    {kind : RecordKind} {r : Record kind.family α} (hnb : c.agent.neighbor? sender = some nb)
    (hne : r.t ≠ [])
    (h : nb.Accepts c.options.horizonSteps c.agent.nx c.agent.nu kind r) :
    c.applyIncoming sender kind ⟨r⟩ =
      ({ c with agent := c.agent.modifyNeighbor sender fun _ => nb.keep kind r }, .ok ()) := by
  rw [applyIncoming_eq, hnb]
  dsimp only
  rw [Neighbor.examine_of_accepts hne h]

theorem accept_of_ok {c c' : Controller α} {sender : AgentId} {kind : RecordKind} {r : StateRecord α}
    (h : c.applyIncoming sender kind r = (c', .ok ())) : c.accept sender kind r = .ok c' := by
  rw [accept, h]
  rfl

theorem accept_eq_ok {c c' : Controller α} {sender : AgentId} {kind : RecordKind}
    {r : StateRecord α} (h : c.accept sender kind r = .ok c') :
    ∃ (record : Record kind.family α) (nb : Neighbor α),
      r = ⟨record⟩ ∧ c.agent.neighbor? sender = some nb ∧
      nb.Accepts c.options.horizonSteps c.agent.nx c.agent.nu kind record ∧
      c' = { c with agent := c.agent.modifyNeighbor sender fun _ => nb.keep kind record } := by
  obtain ⟨e, heq⟩ | ⟨record, nb, hrecord, hnb, haccepts, heq⟩ := c.applyIncoming_cases sender kind r
  · rw [accept, heq] at h
    cases h
  · rw [accept, heq] at h
    exact ⟨record, nb, hrecord, hnb, haccepts, (Except.ok.inj h).symm⟩

end Controller

end ConsensusControl
