import ConsensusControl.Proofs.Consensus.Shape
import ConsensusControl.Proofs.Ensemble.Reachable
import ConsensusControl.Proofs.Ensemble.Routine

namespace ConsensusControl

/-- The change is about data of agents or about couplings. All agents stay. -/
def Change.keepsAgents {α : Type} : Change α → Bool
  | .registerAgent .. | .deregisterAgent _ => false
  | .setDesired .. | .setInitial .. | .registerCoupling .. | .deregisterCoupling .. => true

/-- Agents keep their models unless they come or go. -/
theorem Network.model?_apply {α : Type} [Scalar α] {n n' : Network α} {change : Change α}
    (h : n.apply change = .ok n') (hkeeps : change.keepsAgents) (id : AgentId) :
    n'.model? id = n.model? id := by
  cases change with
  | registerAgent | deregisterAgent => simp [Change.keepsAgents] at hkeeps
  | setDesired k x u =>
    obtain ⟨entry, hentry, -, -, rfl⟩ := Network.setDesired_eq_ok h
    exact Network.model?_setEntry hentry (by rfl) id
  | setInitial k x =>
    obtain ⟨entry, hentry, -, rfl⟩ := Network.setInitial_eq_ok h
    exact Network.model?_setEntry hentry (by rfl) id
  | registerCoupling =>
    obtain ⟨-, -, -, -, rfl⟩ := Network.registerCoupling_eq_ok h
    rfl
  | deregisterCoupling =>
    obtain ⟨-, rfl⟩ := Network.deregisterCoupling_eq_ok h
    rfl

namespace Ensemble

variable {σ α : Type} [Scalar α]

/-- What an ensemble does in one go. -/
inductive Move [Transport σ α] : Ensemble σ α → Ensemble σ α → Prop
  | act {e : Ensemble σ α} {id : AgentId} {c c' : Controller α}
      (hc : e.controllers.lookup id = some c) (h : c.Acts c') :
      Move e { e with controllers := Table.insert id c' e.controllers }
  | actAll {e : Ensemble σ α} {work : Controller α → Controller α}
      (h : ∀ p ∈ e.controllers, p.2.Acts (work p.2)) :
      Move e { e with controllers := e.controllers.map fun p => (p.1, work p.2) }
  | sync {e : Ensemble σ α} {id : AgentId} {c : Controller α} {a : Agent α}
      (hc : e.controllers.lookup id = some c) (h : e.network.syncAgent c.agent = .ok a) :
      Move e { e with controllers := Table.insert id (c.modifyAgent fun _ => a) e.controllers }
  | build {e : Ensemble σ α} {id : AgentId} {t0 : α} {a : Agent α}
      (h : e.network.buildAgent id t0 = .ok a) :
      Move e { e with controllers := Table.insert id (.new a e.solver e.options) e.controllers }
  | send {e : Ensemble σ α} {env : Envelope α} {s : σ} (h : Transport.send env e.transport = .ok s) :
      Move e { e with transport := s }
  | receive {e : Ensemble σ α} {id : AgentId} {key : Key} {r : Option (StateRecord α)} {s : σ}
      (h : Transport.receive id key e.transport = .ok (r, s)) : Move e { e with transport := s }
  | register {e : Ensemble σ α} {id : AgentId} {model : AgentModel α} {x u : Vec α} {n : Network α}
      (h : e.network.registerAgent id model x u = .ok n) :
      Move e { e with
        network := n, transport := Transport.register id e.transport, topologyChanged := true }
  | deregister {e : Ensemble σ α} {id : AgentId} {n : Network α}
      (h : e.network.apply (.deregisterAgent id) = .ok n) :
      Move e { e with
        network := n
        transport := Transport.deregister id e.transport
        controllers := Table.erase id e.controllers
        solutions := Table.erase id e.solutions
        topologyChanged := true }
  | change {e : Ensemble σ α} {change : Change α} {n : Network α} (h : e.network.apply change = .ok n)
      (hkeeps : change.keepsAgents) : Move e { e with network := n }
  | replace {e : Ensemble σ α} (solver : LocalSolver α) : Move e (e.withSolver solver)
  | note {e : Ensemble σ α} (topologyChanged : Bool) (round : Nat) (history : History α)
      {solutions : Table (Solution α)} (storedSamples : Option Nat)
      (hs : Table.Sorted e.solutions → Table.Sorted solutions) :
      Move e { e with topologyChanged, round, history, solutions, storedSamples }

/-- Where a sequence of moves leads. -/
inductive Led [Transport σ α] (e₀ : Ensemble σ α) : Ensemble σ α → Prop
  | refl : Led e₀ e₀
  | move {e e' : Ensemble σ α} (h : Led e₀ e) (hm : Move e e') : Led e₀ e'

section Operations

variable [Transport σ α] {e₀ : Ensemble σ α}

theorem Led.trans {e e' : Ensemble σ α} (h : Led e₀ e) (h' : Led e e') : Led e₀ e' := by
  induction h' with
  | refl => exact h
  | move _ hm ih => exact ih.move hm

theorem led_configured_put {id : AgentId} {e : Ensemble σ α} (h : Led e₀ e)
    {β : Type} {x : Except ConfigError β} {f : β → Controller α}
    (hput : ∀ b, x = .ok b → Led e₀ { e with controllers := Table.insert id (f b) e.controllers }) :
    Triple (· = e) (do putController id (f (← configured id x)) : Run σ α Unit) (fun _ => Led e₀)
      (Led e₀) := by
  refine triple_bind (Q := fun b e' => e' = e ∧ x = .ok b) ?_ fun b => triple_putController ?_
  · exact triple_configured (fun _ he b hb => ⟨he, hb⟩) fun _ he => he ▸ h
  · intro _ heq
    obtain ⟨rfl, hb⟩ := heq
    exact hput b hb

theorem led_syncController (t0 : α) (id : AgentId) :
    Keeps (Led e₀) (syncController t0 id : Run σ α Unit) := by
  unfold syncController
  refine triple_get_bind fun e h => ?_
  split
  · next c hc => exact led_configured_put h fun a ha => h.move (.sync hc ha)
  · exact led_configured_put h fun a ha => h.move (.build ha)

theorem led_syncTopology (t0 : α) : Keeps (Led e₀) (syncTopology t0 : Run σ α Unit) := by
  unfold syncTopology
  refine triple_get_bind fun e h => ?_
  split
  · refine triple_get_bind fun e' he => ?_
    refine triple_bind (Q := fun _ => Led e₀) ?_ fun _ => triple_modify fun e h => ?_
    · exact (triple_forM fun id _ => led_syncController t0 id).weaken (fun _ h' => h' ▸ he ▸ h)
        (fun _ _ h => h) (fun _ h => h)
    · exact h.move (.note false e.round e.history e.storedSamples id)
  · exact triple_pure fun _ he => he ▸ h

theorem Move.sorted {e e' : Ensemble σ α} (h : Move e e') (hs : Table.Sorted e.controllers) :
    Table.Sorted e'.controllers := by
  cases h with
  | act => exact hs.insert _ _
  | @actAll work => exact hs.map fun p => work p.2
  | sync => exact hs.insert _ _
  | build => exact hs.insert _ _
  | deregister => exact hs.erase _
  | replace => exact List.Pairwise.nil
  | send | receive | register | change | note => exact hs

theorem Led.sorted {e : Ensemble σ α} (h : Led e₀ e) (hs : Table.Sorted e₀.controllers) :
    Table.Sorted e.controllers := by
  induction h with
  | refl => exact hs
  | move _ hm ih => exact hm.sorted ih

theorem Led.options {e : Ensemble σ α} (h : Led e₀ e) : e.options = e₀.options := by
  induction h with
  | refl => rfl
  | move _ hm ih => cases hm <;> exact ih

/-- The controllers of `rest` are still as they were seen. -/
structure Pending (e₀ : Ensemble σ α) (rest : Table (Controller α)) (e : Ensemble σ α) : Prop where
  led : Led e₀ e
  seen : ∀ p ∈ rest, e.controllers.lookup p.1 = some p.2
  distinct : (Table.ids rest).Nodup

theorem Pending.tail {p : AgentId × Controller α} {rest : Table (Controller α)} {e : Ensemble σ α}
    (h : Pending e₀ (p :: rest) e) : Pending e₀ rest e :=
  ⟨h.led, fun q hq => h.seen q (List.mem_cons_of_mem p hq), (List.nodup_cons.mp h.distinct).2⟩

/-- Acts of the next controller leave it the next. -/
theorem Pending.replace {id : AgentId} {c c' : Controller α}
    {rest : Table (Controller α)} {e : Ensemble σ α} (h : Pending e₀ ((id, c) :: rest) e)
    (hacts : c.Acts c') :
    Pending e₀ ((id, c') :: rest) { e with controllers := Table.insert id c' e.controllers } := by
  obtain ⟨hfresh, hdistinct⟩ := List.nodup_cons.mp h.distinct
  exact ⟨h.led.move (.act (h.seen _ List.mem_cons_self) hacts),
    Table.lookup_insert_cons hfresh h.tail.seen c', List.nodup_cons.mpr ⟨hfresh, hdistinct⟩⟩

theorem led_prepareController (t0 : α) (p : AgentId × Controller α)
    (rest : Table (Controller α)) :
    Triple (Pending e₀ (p :: rest)) (prepareController t0 p : Run σ α Unit)
      (fun _ => Pending e₀ rest) (Led e₀) := by
  obtain ⟨id, c⟩ := p
  have hstart : c.Acts (c.startAt t0) := (Controller.Act.start t0 c).acts
  unfold prepareController
  dsimp only
  split
  · refine triple_bind (Q := fun _ => Pending e₀ ((id, (c.startAt t0).prepare.1) :: rest))
      (triple_putController fun e h => h.replace (hstart.act (.prepare _))) fun _ => ?_
    refine triple_bind (Q := fun _ => Pending e₀ ((id, (c.startAt t0).prepare.1) :: rest)) ?_
      fun _ => ?_
    · exact triple_configured (fun _ h _ _ => h) fun _ h => h.led
    · exact triple_putController fun e h =>
        (h.replace (Controller.Act.begin _).acts).tail
  · exact triple_putController fun e h => (h.replace (hstart.act (.begin _))).tail

theorem led_prepare (hs : Table.Sorted e₀.controllers) (t0 : α) :
    Keeps (Led e₀) (prepare t0 : Run σ α Unit) := by
  unfold prepare
  refine triple_bind (led_syncTopology t0) fun _ => triple_get_bind fun e h => ?_
  refine (triple_forM_rest (led_prepareController t0) e.controllers).weaken ?_
    (fun _ _ h => h.led) (fun _ h => h)
  intro _ heq
  obtain rfl := heq
  exact ⟨h, fun p hp => Table.lookup_of_mem (h.sorted hs) hp, (h.sorted hs).nodup⟩

theorem routine_led : Routine (Led e₀) where
  turns h hc ht := h.move (.act hc ht.acts)
  turnAll _ h hall := h.move (.actAll fun p hp => (hall p hp).acts)
  send h hs := h.move (.send hs)
  receive h hs := h.move (.receive hs)
  note {e} round history h := h.move (.note e.topologyChanged round history e.storedSamples id)
  store {e} h := h.move (.note e.topologyChanged e.round e.history e.storedSamples sorted_stored)

theorem led_solve (hs : Table.Sorted e₀.controllers) (t0 : α) :
    Keeps (Led e₀) (solve t0 : Run σ α (Summary α)) :=
  routine_led.phased.keeps_solve (fun _ h => h) (led_prepare hs t0)

theorem led_apply (change : Change α) : Keeps (Led e₀) (apply change : Run σ α Unit) := by
  unfold apply
  refine triple_get_bind fun e h => ?_
  refine triple_bind (Q := fun n e' => e' = e ∧ e.network.apply change = .ok n) ?_ fun n => ?_
  · exact triple_configured (fun _ he n hn => ⟨he, hn⟩) fun _ he => he ▸ h
  refine triple_bind (Q := fun _ e' => e' = { e with network := n } ∧ e.network.apply change = .ok n)
    (triple_modify ?_) fun _ => ?_
  · intro _ heq
    obtain ⟨rfl, hn⟩ := heq
    exact ⟨rfl, hn⟩
  cases change with
  | registerAgent id model x u =>
    refine triple_modify fun _ heq => ?_
    obtain ⟨rfl, hn⟩ := heq
    exact h.move (.register hn)
  | deregisterAgent id =>
    refine triple_modify fun _ heq => ?_
    obtain ⟨rfl, hn⟩ := heq
    exact h.move (.deregister hn)
  | setInitial id x =>
    refine triple_get_bind fun e' heq => ?_
    obtain ⟨rfl, hn⟩ := heq
    have hchanged := h.move (.change hn rfl)
    split
    · next c hc =>
      exact led_configured_put hchanged fun c' hc' =>
        hchanged.move (.act hc (Controller.Act.restart hc').acts)
    · exact triple_pure fun _ he => he ▸ hchanged
  | setDesired | registerCoupling | deregisterCoupling =>
    refine triple_modify fun _ heq => ?_
    obtain ⟨rfl, hn⟩ := heq
    have hchanged := h.move (.change hn rfl)
    exact hchanged.move (.note true e.round e.history e.storedSamples fun hs => hs)

theorem led_pushApplied (t : α) (applied : Table (Sample α)) {e : Ensemble σ α} (h : Led e₀ e) :
    Led e₀ (applied.foldl (pushApplied t) e) := by
  induction applied generalizing e with
  | nil => exact h
  | cons p applied ih =>
    apply ih
    exact h.move (.note e.topologyChanged e.round e.history e.storedSamples fun hs => hs.modify _ _)

theorem led_advance (dt : α) (next : AgentId × Vec α) :
    Keeps (Led e₀) (advance dt next : Run σ α Unit) := by
  obtain ⟨id, x⟩ := next
  unfold advance
  refine triple_get_bind fun e h => ?_
  refine triple_bind (Q := fun n e' => e' = e ∧ e.network.setInitial id x = .ok n) ?_ fun n => ?_
  · exact triple_configured (fun _ he n hn => ⟨he, hn⟩) fun _ he => he ▸ h
  refine triple_bind (Q := fun _ => Led e₀) (triple_modify fun _ heq => ?_) fun _ => ?_
  · obtain ⟨rfl, hn⟩ := heq
    have hchange : Network.apply _ (.setInitial id x) = .ok n := hn
    exact h.move (.change hchange rfl)
  refine triple_get_bind fun e h => ?_
  split
  · next c hc =>
    refine triple_bind (Q := fun _ e => Led e₀ e ∧
      e.controllers.lookup id = some (c.shiftHorizon dt).1) (triple_putController ?_) fun _ => ?_
    · intro _ heq
      obtain rfl := heq
      exact ⟨h.move (.act hc (Controller.Act.shift dt c).acts),
        Table.lookup_insert _ _ _⟩
    refine triple_bind (Q := fun _ e => Led e₀ e ∧
      e.controllers.lookup id = some (c.shiftHorizon dt).1) ?_ fun _ => ?_
    · exact triple_promised (fun _ he _ _ => he) fun _ he => he.1
    intro e he
    exact led_configured_put he.1 (fun c' hc' => he.1.move
      (.act he.2 (Controller.Act.restart hc').acts)) e rfl
  · exact triple_pure fun _ he => he ▸ h

theorem led_closedLoopStep (hs : Table.Sorted e₀.controllers) (t dt : α) :
    Keeps (Led e₀) (closedLoopStep t dt : Run σ α (Summary α)) := by
  unfold closedLoopStep
  refine triple_bind (Q := fun _ => Led e₀) (led_solve hs t) fun summary => ?_
  refine triple_get_bind fun e h => ?_
  refine triple_bind (Q := fun _ => Led e₀) ?_ fun applied => ?_
  · exact triple_promised (fun _ he _ _ => he ▸ h) fun _ he => he ▸ h
  refine triple_bind (Q := fun _ => Led e₀) (triple_modify fun _ h => led_pushApplied t applied h)
    fun _ => triple_get_bind fun e h => ?_
  refine triple_bind (Q := fun _ => Led e₀) ?_ fun _ => triple_pure fun _ h => h
  exact (triple_forM fun next _ => led_advance dt next).weaken (fun _ he => he ▸ h)
    (fun _ _ h => h) (fun _ h => h)

end Operations

/-- The controller is that of a registered agent, works by the options and the solver of the ensemble
and has all that its neighbors ask for. -/
structure Serves (n : Network α) (o : Options α) (solver : LocalSolver α) (id : AgentId)
    (c : Controller α) : Prop where
  keyed : c.agent.id = id
  model : n.model? id = some c.agent.model
  nodup : c.agent.neighborIds.Nodup
  options : c.options = o
  solver : c.solver = solver
  shaped : c.Shaped

/-- A registered network, whose agents have controllers that serve it. -/
structure Supplied (e : Ensemble σ α) : Prop where
  network : e.network.Reachable
  sorted : Table.Sorted e.controllers
  reported : Table.Sorted e.solutions
  serves : ∀ id c, e.controllers.lookup id = some c → Serves e.network e.options e.solver id c

section Serves

variable {n : Network α} {o : Options α} {solver : LocalSolver α} {id : AgentId} {c c' : Controller α}

theorem Serves.act (hc : Serves n o solver id c) (h : c.Act c') : Serves n o solver id c' := by
  have hsite := h.site
  have hid : c'.agent.id = c.agent.id := congrArg Controller.Site.id hsite
  have hmodel : c'.agent.model = c.agent.model := congrArg Controller.Site.model hsite
  have hlinks : c'.agent.links = c.agent.links := congrArg Controller.Site.links hsite
  have hoptions : c'.options = c.options := congrArg Controller.Site.options hsite
  refine ⟨hid.trans hc.keyed, hmodel ▸ hc.model, ?_, hoptions.trans hc.options, h.solver.trans hc.solver,
    h.shaped hc.shaped⟩
  rw [Agent.neighborIds_eq_links, hlinks, ← Agent.neighborIds_eq_links]
  exact hc.nodup

theorem Serves.acts (hc : Serves n o solver id c) (h : c.Acts c') : Serves n o solver id c' := by
  induction h with
  | refl => exact hc
  | act _ ha ih => exact ih.act ha

omit [Scalar α] in
theorem Serves.withModel {n' : Network α} (hc : Serves n o solver id c)
    (h : n'.model? id = n.model? id) : Serves n' o solver id c :=
  ⟨hc.keyed, h.trans hc.model, hc.nodup, hc.options, hc.solver, hc.shaped⟩

theorem Serves.sync (hc : Serves n o solver id c) (hn : n.Sized) {a : Agent α}
    (h : n.syncAgent c.agent = .ok a) : Serves n o solver id (c.modifyAgent fun _ => a) := by
  have hsynced := Network.syncAgent_synced hc.nodup h
  refine ⟨hsynced.id.trans hc.keyed, ?_, hsynced.nodup, hc.options, hc.solver, ?_⟩
  · exact hc.model.trans (congrArg some hsynced.model.symm)
  · exact hc.shaped.sync hc.nodup hn (hc.keyed.symm ▸ hc.model) h

theorem serves_new (hn : n.Reachable) {t0 : α} {a : Agent α} (h : n.buildAgent id t0 = .ok a) :
    Serves n o solver id (.new a solver o) := by
  have hshaped := Controller.shaped_new hn.registered hn.sized h solver o
  obtain ⟨_, -, hsynced⟩ := Network.buildAgent_synced h
  exact ⟨hsynced.id, Network.model?_of_buildAgent h, hsynced.nodup, rfl, rfl, hshaped⟩

end Serves

theorem supplied_new (o : Options α) (solver : LocalSolver α) (transport : σ) :
    (Ensemble.new o solver transport).Supplied :=
  ⟨.empty, List.Pairwise.nil, List.Pairwise.nil, by simp [Ensemble.new]⟩

/-- One controller is set, the others stay. -/
theorem Supplied.put {e : Ensemble σ α} (h : e.Supplied) {id : AgentId} {c : Controller α}
    (hc : Serves e.network e.options e.solver id c) :
    Supplied { e with controllers := Table.insert id c e.controllers } := by
  refine ⟨h.network, h.sorted.insert id c, h.reported, fun k d hd => ?_⟩
  rcases Table.lookup_insert_cases hd with ⟨rfl, rfl⟩ | ⟨-, hold⟩
  · exact hc
  · exact h.serves k d hold

theorem Move.supplied [Transport σ α] {e e' : Ensemble σ α} (h : Move e e') (he : e.Supplied) :
    e'.Supplied := by
  have hregistered := he.network.registered
  cases h with
  | act hc h => exact he.put ((he.serves _ _ hc).acts h)
  | @actAll work h =>
    refine ⟨he.network, he.sorted.map fun p => work p.2, he.reported, fun id c' hc' => ?_⟩
    rw [Table.lookup_map fun _ c => work c] at hc'
    obtain ⟨c, hc, rfl⟩ := Option.map_eq_some_iff.mp hc'
    exact (he.serves id c hc).acts (h _ (Table.mem_of_lookup hc))
  | sync hc h => exact he.put ((he.serves _ _ hc).sync he.network.sized h)
  | build h => exact he.put (serves_new he.network h)
  | send | receive => exact ⟨he.network, he.sorted, he.reported, he.serves⟩
  | note _ _ _ _ hs => exact ⟨he.network, he.sorted, hs he.reported, he.serves⟩
  | @register id model x u n h =>
    have hchange : e.network.apply (.registerAgent id model x u) = .ok n := h
    obtain ⟨hnew, -, -, -, -, rfl⟩ := Network.registerAgent_eq_ok h
    refine ⟨he.network.apply hchange, he.sorted, he.reported,
      fun k c hc => (he.serves k c hc).withModel ?_⟩
    have hk : k ≠ id := by
      intro heq
      obtain rfl := heq
      have hmem := Network.mem_ids_of_model (he.serves k c hc).model
      have hcontains := (Table.contains_iff hregistered.sorted).mpr hmem
      simp [Network.contains, hcontains] at hnew
    simp only [Network.model?, Network.entry_setEntry, if_neg hk]
  | @deregister id n h =>
    have hn := he.network.apply h
    obtain rfl := Network.apply_deregisterAgent_eq_ok h
    refine ⟨hn, he.sorted.erase id, he.reported.erase id, fun k c hc => ?_⟩
    have hk : k ≠ id := by
      intro heq
      obtain rfl := heq
      simp [Table.lookup_erase_self] at hc
    dsimp only at hc
    rw [Table.lookup_erase_ne hk] at hc
    refine (he.serves k c hc).withModel ?_
    simp only [Network.model?, Network.entry?, Table.lookup_erase_ne hk]
  | change h hkeeps =>
    exact ⟨he.network.apply h, he.sorted, he.reported, fun k c hc =>
      (he.serves k c hc).withModel (Network.model?_apply h hkeeps k)⟩
  | replace => exact ⟨he.network, List.Pairwise.nil, he.reported, by simp [withSolver]⟩

theorem Led.supplied [Transport σ α] {e₀ e : Ensemble σ α} (h : Led e₀ e) (h₀ : e₀.Supplied) :
    e.Supplied := by
  induction h with
  | refl => exact h₀
  | move _ hm ih => exact hm.supplied ih

end Ensemble

end ConsensusControl
