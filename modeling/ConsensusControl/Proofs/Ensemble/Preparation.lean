import ConsensusControl.Proofs.Consensus.HorizonStart
import ConsensusControl.Proofs.Ensemble.Operation

namespace ConsensusControl.Ensemble

variable {σ α : Type}

section Parts

variable {β γ ι : Type} {view : Ensemble σ α → AgentId → β} {frame : Ensemble σ α → γ}

/-- One agent's part of an ensemble changes by `R`. The parts of all others stay, and so does what they
have in common. -/
structure Confined (view : Ensemble σ α → AgentId → β) (frame : Ensemble σ α → γ) (id : AgentId)
    (R : β → β → Prop) (e e' : Ensemble σ α) : Prop where
  frame : frame e' = frame e
  own : R (view e id) (view e' id)
  others : ∀ k, k ≠ id → view e' k = view e k

/-- Operations on different agents do not get in each other's way. -/
theorem confined_forM {key : ι → AgentId} {R : ι → β → β → Prop} {f : ι → Run σ α PUnit} {l : List ι}
    (hl : (l.map key).Nodup) {e e' : Ensemble σ α} {u : PUnit}
    (hf : ∀ i ∈ l, ∀ e₁ e₂, frame e₁ = frame e → Returns (f i) e₁ ⟨⟩ e₂ →
      Confined view frame (key i) (R i) e₁ e₂) (h : Returns (l.forM f) e u e') :
    frame e' = frame e ∧ (∀ i ∈ l, R i (view e (key i)) (view e' (key i))) ∧
      ∀ k, k ∉ l.map key → view e' k = view e k := by
  induction l generalizing e with
  | nil =>
    obtain ⟨-, rfl⟩ := returns_pure.mp h
    exact ⟨rfl, by simp, fun _ _ => rfl⟩
  | cons i l ih =>
    obtain ⟨hfresh, hrest⟩ := List.nodup_cons.mp hl
    obtain ⟨e₁, hfirst, hlater⟩ := returns_forM_cons.mp h
    have hi := hf i List.mem_cons_self e e₁ rfl hfirst
    obtain ⟨hframe, hown, hothers⟩ := ih hrest
      (fun j hj e₂ e₃ hsame => hf j (List.mem_cons_of_mem i hj) e₂ e₃ (hsame.trans hi.frame)) hlater
    refine ⟨hframe.trans hi.frame, fun j hj => ?_, fun k hk => ?_⟩
    · rcases List.mem_cons.mp hj with rfl | hj
      · rw [hothers _ hfresh]
        exact hi.own
      · have hne : key j ≠ key i := fun heq => hfresh (heq ▸ List.mem_map_of_mem hj)
        rw [← hi.others _ hne]
        exact hown j hj
    · rw [List.map_cons, List.mem_cons, not_or] at hk
      exact (hothers k hk.2).trans (hi.others k hk.1)

end Parts

/-- The ensemble without its controllers. -/
def bare (e : Ensemble σ α) : Ensemble σ α := { e with controllers := [] }

def controller? (e : Ensemble σ α) (id : AgentId) : Option (Controller α) := e.controllers.lookup id

theorem confined_put (id : AgentId) (c : Controller α) (e : Ensemble σ α) :
    Confined controller? bare id (fun _ new => new = some c) e
      { e with controllers := Table.insert id c e.controllers } :=
  ⟨rfl, Table.lookup_insert _ _ _, fun _ hk => Table.lookup_insert_ne hk _ _⟩

theorem Confined.trans {β γ : Type} {view : Ensemble σ α → AgentId → β} {frame : Ensemble σ α → γ}
    {id : AgentId} {R S : β → β → Prop} {e₁ e₂ e₃ : Ensemble σ α} {c : β}
    (h₁ : Confined view frame id R e₁ e₂) (h₂ : Confined view frame id (fun _ new => new = c) e₂ e₃)
    (hS : S (view e₁ id) c) : Confined view frame id S e₁ e₃ := by
  refine ⟨h₂.frame.trans h₁.frame, ?_, fun k hk => (h₂.others k hk).trans (h₁.others k hk)⟩
  rw [h₂.own]
  exact hS

variable [Scalar α] {t0 : α}

/-- The controller that an agent has before it is made ready for the horizon from `t0`: the one that it
had, in line with the network if that has changed, or a new one. -/
inductive Sourced (t0 : α) (e : Ensemble σ α) (id : AgentId) : Controller α → Prop
  | kept {c : Controller α} (hc : e.controllers.lookup id = some c) : Sourced t0 e id c
  | synced {c : Controller α} {a : Agent α} (hchanged : e.topologyChanged = true)
      (hc : e.controllers.lookup id = some c) (ha : e.network.syncAgent c.agent = .ok a) :
      Sourced t0 e id (c.modifyAgent fun _ => a)
  | built {a : Agent α} (hchanged : e.topologyChanged = true) (hc : e.controllers.lookup id = none)
      (ha : e.network.buildAgent id t0 = .ok a) : Sourced t0 e id (.new a e.solver e.options)

theorem Sourced.serves [Transport σ α] {e : Ensemble σ α} (he : e.Supplied) {id : AgentId}
    {c : Controller α} (h : Sourced t0 e id c) : Serves e.network e.options e.solver id c := by
  cases h with
  | kept hc => exact he.serves id c hc
  | synced _ hc ha => exact (he.serves id _ hc).sync he.network.sized ha
  | built _ _ ha => exact serves_new he.network ha

/-- A controller that has been there before keeps its trajectory. A new one starts with the registered
state. -/
theorem Sourced.state_cases {e : Ensemble σ α} (he : e.Supplied) {id : AgentId} {c : Controller α}
    (h : Sourced t0 e id c) :
    (∃ c₀, e.controllers.lookup id = some c₀ ∧ c.agent.agentState = c₀.agent.agentState ∧
        c.agent.model = c₀.agent.model) ∨
      e.controllers.lookup id = none ∧ ∃ entry, e.network.entry? id = some entry ∧
        c.agent.agentState = .constant id [t0] entry.xInit entry.uInit [] ∧
        c.agent.model = entry.model := by
  cases h with
  | kept hc => exact .inl ⟨c, hc, rfl, rfl⟩
  | @synced c a _ hc ha =>
    have hsynced := Network.syncAgent_synced (he.serves id c hc).nodup ha
    exact .inl ⟨c, hc, hsynced.agentState, hsynced.model⟩
  | built _ hc ha =>
    obtain ⟨entry, hentry, rfl⟩ := he.network.registered.buildAgent_eq_ok ha
    exact .inr ⟨hc, entry, hentry, rfl, rfl⟩

/-- Controllers are sourced from what they were, in an ensemble that differs in controllers alone. -/
theorem confined_syncController {id : AgentId} {e e₁ e₂ : Ensemble σ α} {u : Unit}
    (hchanged : e.topologyChanged = true) (hsame : e₁.bare = e.bare)
    (h : Returns (syncController t0 id) e₁ u e₂) :
    Confined controller? bare id (fun old new => old = e.controllers.lookup id →
      ∃ c, new = some c ∧ Sourced t0 e id c) e₁ e₂ := by
  have hnetwork : e₁.network = e.network := by simpa [bare] using congrArg Ensemble.network hsame
  have hsolver : e₁.solver = e.solver := by simpa [bare] using congrArg Ensemble.solver hsame
  have hoptions : e₁.options = e.options := by simpa [bare] using congrArg Ensemble.options hsame
  unfold syncController at h
  replace h := returns_get_bind.mp h
  have hput : ∀ {c : Controller α}, { e₁ with controllers := Table.insert id c e₁.controllers } = e₂ →
      (e₁.controllers.lookup id = e.controllers.lookup id → Sourced t0 e id c) →
      Confined controller? bare id (fun old new => old = e.controllers.lookup id →
        ∃ c, new = some c ∧ Sourced t0 e id c) e₁ e₂ := by
    intro c heq hsourced
    obtain rfl := heq
    have hconfined := confined_put id c e₁
    exact ⟨hconfined.frame, fun hold => ⟨c, hconfined.own, hsourced hold⟩, hconfined.others⟩
  split at h
  · next c hc =>
    obtain ⟨a, ha, h⟩ := returns_configured_bind.mp h
    apply hput (returns_putController.mp h)
    intro hold
    rw [hnetwork] at ha
    exact .synced hchanged (hold ▸ hc) ha
  · next hc =>
    obtain ⟨a, ha, h⟩ := returns_configured_bind.mp h
    apply hput (returns_putController.mp h)
    intro hold
    rw [hnetwork] at ha
    rw [hsolver, hoptions]
    exact .built hchanged (hold ▸ hc) ha

theorem returns_syncTopology {e e' : Ensemble σ α} {u : Unit} (hn : e.network.ids.Nodup)
    (h : Returns (syncTopology t0) e u e') :
    e'.bare = { e.bare with topologyChanged := false } ∧
      ∀ id c, e'.controllers.lookup id = some c → Sourced t0 e id c := by
  unfold syncTopology at h
  replace h := returns_get_bind.mp h
  split at h
  · next hchanged =>
    replace h := returns_get_bind.mp h
    obtain ⟨_, e₁, hsync, hmodify⟩ := returns_bind.mp h
    obtain rfl := returns_modify.mp hmodify
    rw [← List.map_id e.network.ids] at hn
    obtain ⟨hbare, hown, hothers⟩ := confined_forM hn
      (fun id _ _ _ hsame hid => confined_syncController hchanged hsame hid) hsync
    rw [List.map_id] at hothers
    refine ⟨congrArg (fun s : Ensemble σ α => { s with topologyChanged := false }) hbare,
      fun id c hc => ?_⟩
    by_cases hid : id ∈ e.network.ids
    · obtain ⟨d, hd, hsourced⟩ := hown id hid rfl
      obtain rfl : c = d := Option.some.inj (hc.symm.trans hd)
      exact hsourced
    · exact .kept ((hothers id hid).symm.trans hc)
  · next hunchanged =>
    obtain ⟨-, rfl⟩ := returns_pure.mp h
    refine ⟨?_, fun id c hc => .kept hc⟩
    have hfalse : e.topologyChanged = false := by simpa using hunchanged
    rw [← hfalse]
    rfl

theorem confined_prepareController {id : AgentId} {c : Controller α} {e e' : Ensemble σ α} {u : Unit}
    (h : Returns (prepareController t0 (id, c)) e u e') :
    Confined controller? bare id (fun _ new => ∃ c', new = some c' ∧ c.ReadyFor t0 c') e e' := by
  unfold prepareController at h
  dsimp only at h
  split at h
  · next hstatus =>
    obtain ⟨_, e₁, hput, h⟩ := returns_bind.mp h
    obtain rfl := returns_putController.mp hput
    obtain ⟨_, hok, hlast⟩ := returns_configured_bind.mp h
    obtain rfl := returns_putController.mp hlast
    refine (confined_put id _ e).trans (confined_put id _ _) ⟨_, rfl, ?_⟩
    unfold Controller.ReadyFor
    rw [if_pos hstatus]
    exact ⟨hok, rfl⟩
  · next hstatus =>
    obtain rfl := returns_putController.mp h
    have hput := confined_put id (c.startAt t0).beginSolve e
    refine ⟨hput.frame, ⟨_, hput.own, ?_⟩, hput.others⟩
    unfold Controller.ReadyFor
    rw [if_neg hstatus]

/-- A preparation makes every controller ready for the horizon, and changes nothing else. -/
theorem returns_prepare_of_sorted [Transport σ α] {e e' : Ensemble σ α} {u : Unit}
    (hn : e.network.Registered) (hs : Table.Sorted e.controllers) (h : Returns (prepare t0) e u e') :
    e'.bare = { e.bare with topologyChanged := false } ∧
      ∀ id c', e'.controllers.lookup id = some c' →
        ∃ c, Sourced t0 e id c ∧ c.ReadyFor t0 c' := by
  unfold prepare at h
  obtain ⟨_, e₁, hsync, h⟩ := returns_bind.mp h
  have hprepare := returns_get_bind.mp h
  have hsorted : Table.Sorted e₁.controllers :=
    ((led_syncTopology t0).of_returns Led.refl hsync).sorted hs
  obtain ⟨hbare, hsourced⟩ := returns_syncTopology hn.sorted.nodup hsync
  obtain ⟨hsame, hown, hothers⟩ := confined_forM hsorted.nodup
    (fun p _ _ _ _ hp => confined_prepareController hp) hprepare
  refine ⟨hsame.trans hbare, fun id c' hc' => ?_⟩
  by_cases hid : id ∈ Table.ids e₁.controllers
  · obtain ⟨c, hc⟩ := Table.lookup_of_mem_ids hsorted hid
    obtain ⟨d, hd, hready⟩ := hown _ (Table.mem_of_lookup hc)
    obtain rfl : c' = d := Option.some.inj (hc'.symm.trans hd)
    exact ⟨c, hsourced id c hc, hready⟩
  · have hnone : e₁.controllers.lookup id = some c' := (hothers id hid).symm.trans hc'
    exact absurd (Table.mem_ids_of_lookup hnone) hid

theorem returns_prepare [FaithfulTransport σ α] {e e' : Ensemble σ α} {u : Unit} (h₀ : e.Orderly)
    (h : Returns (prepare t0) e u e') :
    e'.bare = { e.bare with topologyChanged := false } ∧
      ∀ id c', e'.controllers.lookup id = some c' →
        ∃ c, Sourced t0 e id c ∧ c.ReadyFor t0 c' :=
  returns_prepare_of_sorted h₀.registered h₀.sorted h

theorem Operated.prepare [FaithfulTransport σ α] {e e' : Ensemble σ α} {u : Unit} (h : e.Operated)
    (hprepare : Returns (Ensemble.prepare t0) e u e') : e'.Working ∧ e'.Supplied :=
  ⟨((triple_prepare t0).of_returns h.orderly hprepare).1,
    ((led_prepare h.orderly.sorted t0).of_returns .refl hprepare).supplied h.supplied⟩

/-- Controllers that work keep their first states if their solver does. -/
theorem Working.steady [FaithfulTransport σ α] {e : Ensemble σ α} (h : e.Working) (hs : e.Supplied)
    (hsolver : e.solver.KeepsState) {id : AgentId} {c : Controller α}
    (hc : e.controllers.lookup id = some c) : c.Steady := by
  have hevolved := h.evolved id c hc
  have hserves := hs.serves id c hc
  refine ⟨(hevolved.sound (.inr (h.begun id c hc))).valid, hserves.shaped, hevolved.indexed, ?_⟩
  rw [hserves.solver]
  exact hsolver

/-- What a preparation makes of every controller. -/
theorem Operated.readied [FaithfulTransport σ α] {e e' : Ensemble σ α} {u : Unit} (h : e.Operated)
    (hsolver : e.solver.KeepsState) (hprepare : Returns (Ensemble.prepare t0) e u e') {id : AgentId}
    {c' : Controller α} (hc' : e'.controllers.lookup id = some c') :
    c'.Steady ∧ c'.solver = e.solver ∧ c'.layout.isSome ∧ ∃ c, Sourced t0 e id c ∧
      c.options.validate = .ok () ∧ c.ReadyFor t0 c' := by
  obtain ⟨hworking, hsupplied⟩ := h.prepare hprepare
  obtain ⟨hbare, hcontrollers⟩ := returns_prepare h.orderly hprepare
  have hsame : e'.solver = e.solver := by simpa [bare] using congrArg Ensemble.solver hbare
  obtain ⟨c, hsourced, hready⟩ := hcontrollers id c' hc'
  have hsteady := hworking.steady hsupplied (hsame ▸ hsolver) hc'
  have hsolves : c'.solver = e.solver := (hsupplied.serves id c' hc').solver.trans hsame
  have hlaid := (hworking.evolved id c' hc').sound (.inr (hworking.begun id c' hc'))
  have hoptions : c'.options = c.options := congrArg Controller.Site.options hready.site
  exact ⟨hsteady, hsolves, hlaid.layout, c, hsourced, hoptions ▸ hsteady.valid, hready⟩

theorem insist_keepsState (u : Rat) : (insist u).KeepsState := by
  intro problem guess o s hvalid hs
  obtain rfl := Except.ok.inj (Except.ok.inj hs)
  have hsamples : 2 ≤ o.horizonSteps := Options.samples_of_valid hvalid
  obtain ⟨k, hk⟩ := Nat.exists_eq_add_of_le' (Nat.le_of_succ_le hsamples)
  change (Trajectory.constant o.horizonSteps guess.x0).take guess.x0.length = guess.x0
  rw [hk, Trajectory.constant, List.replicate_succ, List.flatten_cons, List.take_left]

end ConsensusControl.Ensemble
