import ConsensusControl.Proofs.Ensemble.Preparation

namespace ConsensusControl.Ensemble

variable {σ α : Type} [Scalar α]

/-- What has been applied to an agent so far. -/
def appliedTo (e : Ensemble σ α) (id : AgentId) : AgentState α :=
  ((e.solutions.lookup id).map (·.closedLoop)).getD (.empty id)

/-- Results are reported for every controller. What has been applied is carried on. -/
theorem solutions_stored {e : Ensemble σ α} (hc : Table.Sorted e.controllers)
    (hs : Table.Sorted e.solutions)
    (hkeyed : ∀ id c, e.controllers.lookup id = some c → c.agent.id = id) :
    (∀ id, e.stored.appliedTo id = e.appliedTo id) ∧
      ∀ id ∈ Table.ids e.controllers, (e.stored.solutions.lookup id).isSome := by
  constructor
  · intro id
    unfold appliedTo
    rw [lookup_stored hc hs]
    cases hlookup : e.controllers.lookup id with
    | none => rfl
    | some c =>
      have hself : c.id = id := hkeyed id c hlookup
      rw [Option.map_some, Option.some_or, Option.map_some, Option.getD_some, Controller.solution,
        hself]
  · intro id hid
    obtain ⟨c, hlookup⟩ := Table.lookup_of_mem_ids hc hid
    rw [lookup_stored hc hs, hlookup]
    rfl

/-- `e` has come out of `e₁` by turns of the controllers, messages and reports alone. -/
structure Follows (e₁ e : Ensemble σ α) : Prop where
  rest : e = { e₁ with
    transport := e.transport
    controllers := e.controllers
    round := e.round
    history := e.history
    solutions := e.solutions }
  turns : Table.Rel (fun _ c c' => c.Turns c') e₁.controllers e.controllers
  sorted : Table.Sorted e.solutions
  applied : ∀ id, e.appliedTo id = e₁.appliedTo id

variable {e₁ e : Ensemble σ α}

theorem follows_refl (hs : Table.Sorted e.solutions) : Follows e e :=
  ⟨rfl, ⟨rfl, fun _ c hc => ⟨c, hc, .refl⟩⟩, hs, fun _ => rfl⟩

theorem Follows.sorted_controllers (h : Follows e₁ e) (hs : Table.Sorted e₁.controllers) :
    Table.Sorted e.controllers :=
  h.turns.sorted hs

/-- Controllers stay with their agents. -/
theorem Follows.keyed (h : Follows e₁ e)
    (hkeyed : ∀ id c, e₁.controllers.lookup id = some c → c.agent.id = id) (id : AgentId)
    (c : Controller α) (hc : e.controllers.lookup id = some c) : c.agent.id = id := by
  obtain ⟨c₁, hc₁, hturns⟩ := h.turns.back hc
  have hid : c.agent.id = c₁.agent.id := congrArg Controller.Site.id hturns.site
  exact hid.trans (hkeyed id c₁ hc₁)

variable {t0 : α} {summary : Summary α}

theorem routine_follows [Transport σ α] (hs : Table.Sorted e₁.controllers)
    (hkeyed : ∀ id c, e₁.controllers.lookup id = some c → c.agent.id = id) :
    Routine (Follows e₁) where
  turns {e id c c'} h hc hturns := by
    have hsorted := h.sorted_controllers hs
    refine ⟨?_, h.turns.insert hsorted hc fun b hb => hb.trans hturns, h.sorted, h.applied⟩
    rw [h.rest]
  turnAll {e} work h hall := by
    refine ⟨?_, h.turns.map work fun id b c hc hb => hb.trans (hall _ hc), h.sorted, h.applied⟩
    rw [h.rest]
  send h _ := ⟨by rw [h.rest], h.turns, h.sorted, h.applied⟩
  receive h _ := ⟨by rw [h.rest], h.turns, h.sorted, h.applied⟩
  note _ _ h := ⟨by rw [h.rest], h.turns, h.sorted, h.applied⟩
  store {e} h := by
    have hstored := (solutions_stored (h.sorted_controllers hs) h.sorted (h.keyed hkeyed)).1
    refine ⟨?_, h.turns, sorted_stored h.sorted, fun id => (hstored id).trans (h.applied id)⟩
    rw [stored, h.rest]

/-- A solve is a preparation, then turns of the controllers, messages and reports alone. -/
theorem returns_solve [FaithfulTransport σ α] {e' : Ensemble σ α} (h₀ : e.Operated)
    (h : Returns (solve t0) e summary e') : ∃ e₁ e₂, Returns (prepare t0) e () e₁ ∧ Follows e₁ e₂ ∧
      e' = e₂.stored := by
  have hfirst : ∃ e₁, Returns (prepare t0) e () e₁ := by
    unfold solve at h
    obtain ⟨_, e₁, hprepare, -⟩ := returns_bind.mp h
    exact ⟨e₁, hprepare⟩
  obtain ⟨e₁, hprepare⟩ := hfirst
  obtain ⟨hworking, hsupplied⟩ := h₀.prepare hprepare
  have hroutine : Routine (Follows e₁) :=
    routine_follows hworking.sorted fun id c hc => (hsupplied.serves id c hc).keyed
  have hprepared : Triple (· = e) (prepare t0) (fun _ => Follows e₁) fun _ => True :=
    hprepare.triple (follows_refl hsupplied.reported)
  obtain ⟨e₂, hfollows, heq⟩ :=
    (hroutine.phased.triple_solve hprepared fun _ _ => trivial).of_returns rfl h
  exact ⟨e₁, e₂, hprepare, hfollows, heq⟩

/-- A solve leaves the network, the options and the solver alone. -/
theorem rest_solve [FaithfulTransport σ α] {e' : Ensemble σ α} (h₀ : e.Operated)
    (h : Returns (solve t0) e summary e') : e' = { e with
      transport := e'.transport
      controllers := e'.controllers
      topologyChanged := false
      round := e'.round
      history := e'.history
      solutions := e'.solutions } := by
  obtain ⟨e₁, e₂, hprepare, hfollows, rfl⟩ := returns_solve h₀ h
  have hbare := (returns_prepare h₀.orderly hprepare).1
  have hprepared : e₁ = { e with controllers := e₁.controllers, topologyChanged := false } :=
    congrArg (fun s : Ensemble σ α => { s with controllers := e₁.controllers }) hbare
  rw [stored, hfollows.rest, hprepared]

end ConsensusControl.Ensemble
