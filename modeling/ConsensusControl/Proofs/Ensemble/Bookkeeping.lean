import ConsensusControl.Proofs.Consensus.Lifecycle
import ConsensusControl.Proofs.Ensemble.Operation

namespace ConsensusControl

variable {σ α : Type} [Scalar α]

/-- Agents stay unless they come or go. -/
theorem Network.mem_ids_apply {n n' : Network α} {change : Change α} (hn : n.Registered)
    (h : n.apply change = .ok n') (hkeeps : change.keepsAgents) (id : AgentId) :
    id ∈ n'.ids ↔ id ∈ n.ids := by
  have hmodel := Network.model?_apply h hkeeps id
  constructor
  · intro hid
    obtain ⟨entry, hentry⟩ := (hn.apply h).entry_of_mem hid
    exact mem_ids_of_model (hmodel.symm.trans (Option.map_eq_some_iff.mpr ⟨entry, hentry, rfl⟩))
  · intro hid
    obtain ⟨entry, hentry⟩ := hn.entry_of_mem hid
    exact mem_ids_of_model (hmodel.trans (Option.map_eq_some_iff.mpr ⟨entry, hentry, rfl⟩))

namespace Controller

variable {c c' : Controller α}

omit [Scalar α] in
theorem tells_modifyAgent (f : Agent α → Agent α) (c : Controller α) : (c.modifyAgent f).Tells :=
  ⟨fun _ => rfl, fun _ => rfl⟩

theorem tells_new (a : Agent α) (solver : LocalSolver α) (o : Options α) :
    (Controller.new a solver o).Tells :=
  ⟨fun _ => rfl, fun _ => rfl⟩

theorem Tells.startAt (hc : c.Tells) (t0 : α) : (c.startAt t0).Tells := by
  obtain heq | heq := c.startAt_cases t0
  · rwa [heq]
  · rw [heq]
    exact tells_modifyAgent _ c

theorem Tells.turns (hc : c.Tells) (h : c.Turns c') (hlaid : c.layout.isSome) : c'.Tells := by
  induction h with
  | refl => exact hc
  | turn hturns hturn ih => exact hturn.proceeds.tells ih fun _ => hturns.layout ▸ hlaid

/-- Ready for the first iteration of a solve. -/
structure Primed (c : Controller α) : Prop where
  laid : c.layout.isSome
  ready : c.status = .ready
  first : c.iteration = 0
  unmeasured : c.residuals = .unmeasured

omit [Scalar α] in
theorem primed_beginSolve (hlaid : c.layout.isSome) : c.beginSolve.Primed := by
  obtain ⟨-, ⟨hnone, -⟩ | ⟨-, hstatus⟩⟩ := c.beginSolve_cases
  · simp [hnone] at hlaid
  · exact ⟨hlaid, hstatus, rfl, rfl⟩

omit [Scalar α] in
theorem Primed.tells (h : c.Primed) : c.Tells := by
  have hlaid := h.laid
  unfold Tells
  rw [h.ready]
  exact ⟨fun h => (nomatch h), fun h => by simp [h] at hlaid⟩

theorem laid_prepare (h : c.prepare.2 = .ok ()) : c.prepare.1.layout.isSome := by
  obtain ⟨-, layout, -, heq⟩ := laidOut_of_prepare h
  rw [heq]
  rfl

end Controller

namespace Ensemble

/-- Controllers and solutions are those of registered agents. Unless the network has changed, every
agent has a controller. The status of each tells whether it has a layout. -/
structure InOrder (e : Ensemble σ α) : Prop where
  registered : e.network.Registered
  sorted : Table.Sorted e.controllers
  reported : Table.Sorted e.solutions
  known : Table.ids e.controllers ⊆ e.network.ids
  answered : Table.ids e.solutions ⊆ e.network.ids
  complete : e.topologyChanged = false → e.network.ids ⊆ Table.ids e.controllers
  tells : ∀ id c, e.controllers.lookup id = some c → c.Tells

namespace InOrder

variable {e e' : Ensemble σ α}

omit [Scalar α] in
theorem of_same (h : e.InOrder) (hnetwork : e'.network = e.network)
    (hcontrollers : e'.controllers = e.controllers) (hsolutions : e'.solutions = e.solutions)
    (hchanged : e'.topologyChanged = false → e.topologyChanged = false) : e'.InOrder := by
  refine ⟨hnetwork ▸ h.registered, hcontrollers ▸ h.sorted, hsolutions ▸ h.reported, ?_, ?_, ?_, ?_⟩
  · rw [hcontrollers, hnetwork]
    exact h.known
  · rw [hsolutions, hnetwork]
    exact h.answered
  · rw [hcontrollers, hnetwork]
    exact fun hfalse => h.complete (hchanged hfalse)
  · rw [hcontrollers]
    exact h.tells

omit [Scalar α] in
theorem insert (h : e.InOrder) {id : AgentId} (hid : id ∈ e.network.ids) {c : Controller α}
    (hc : c.Tells) : InOrder { e with controllers := Table.insert id c e.controllers } := by
  refine ⟨h.registered, h.sorted.insert id c, h.reported, fun k hk => ?_, h.answered,
    fun hchanged k hk => Table.mem_ids_insert.mpr (.inr (h.complete hchanged hk)), fun k d hd => ?_⟩
  · rcases Table.mem_ids_insert.mp hk with rfl | hk
    · exact hid
    · exact h.known hk
  · rcases Table.lookup_insert_cases hd with ⟨-, rfl⟩ | ⟨-, hold⟩
    · exact hc
    · exact h.tells k d hold

omit [Scalar α] in
theorem put (h : e.InOrder) {id : AgentId} {c c' : Controller α}
    (hc : e.controllers.lookup id = some c) (hc' : c'.Tells) :
    InOrder { e with controllers := Table.insert id c' e.controllers } :=
  h.insert (h.known (Table.mem_ids_of_lookup hc)) hc'

omit [Scalar α] in
theorem withSolutions (h : e.InOrder) {solutions : Table (Solution α)} (hs : Table.Sorted solutions)
    (hids : Table.ids solutions ⊆ e.network.ids) : InOrder { e with solutions } :=
  ⟨h.registered, h.sorted, hs, h.known, hids, h.complete, h.tells⟩

theorem mem_ids_stored {controllers : Table (Controller α)} {solutions : Table (Solution α)}
    {id : AgentId} : id ∈ Table.ids (controllers.foldl
      (fun s (p : AgentId × Controller α) => Table.alter p.1 p.2.solution s) solutions) ↔
      id ∈ Table.ids controllers ∨ id ∈ Table.ids solutions := by
  induction controllers generalizing solutions with
  | nil => simp [Table.ids]
  | cons p controllers ih =>
    rw [List.foldl_cons, ih, Table.mem_ids_alter]
    simp only [Table.ids, List.map_cons, List.mem_cons]
    tauto

theorem stored (h : e.InOrder) : e.stored.InOrder := by
  refine h.withSolutions (sorted_stored h.reported) fun id hid => ?_
  rcases mem_ids_stored.mp hid with hid | hid
  · exact h.known hid
  · exact h.answered hid

omit [Scalar α] in
theorem withNetwork (h : e.InOrder) {n : Network α} (hn : n.Registered)
    (hids : ∀ id, id ∈ n.ids ↔ id ∈ e.network.ids) : InOrder { e with network := n } :=
  ⟨hn, h.sorted, h.reported, fun id hid => (hids id).mpr (h.known hid),
    fun id hid => (hids id).mpr (h.answered hid),
    fun hchanged id hid => h.complete hchanged ((hids id).mp hid), h.tells⟩

end InOrder

/-- A solve is under way: every agent has a controller with a layout. -/
structure Busy (e : Ensemble σ α) : Prop extends InOrder e where
  unchanged : e.topologyChanged = false
  laid : ∀ id c, e.controllers.lookup id = some c → c.layout.isSome

omit [Scalar α] in
theorem Busy.ids {e : Ensemble σ α} (h : e.Busy) (id : AgentId) :
    id ∈ Table.ids e.controllers ↔ id ∈ e.network.ids :=
  ⟨fun hid => h.known hid, fun hid => h.complete h.unchanged hid⟩

section Solve

variable [Transport σ α]

theorem routine_busy : Routine (Busy (σ := σ) (α := α)) where
  turns {e id c c'} h hc hturns := by
    have hlaid := h.laid id c hc
    refine ⟨h.toInOrder.put hc ((h.tells id c hc).turns hturns hlaid), h.unchanged, fun k d hd => ?_⟩
    rcases Table.lookup_insert_cases hd with ⟨-, rfl⟩ | ⟨-, hold⟩
    · exact hturns.layout ▸ hlaid
    · exact h.laid k d hold
  turnAll {e} work h hall := by
    have hlookup : ∀ id c', (e.controllers.map fun p => (p.1, work p.2)).lookup id = some c' →
        ∃ c, e.controllers.lookup id = some c ∧ c.Turns c' := by
      intro id c' hc'
      rw [Table.lookup_map fun _ c => work c] at hc'
      obtain ⟨c, hc, rfl⟩ := Option.map_eq_some_iff.mp hc'
      exact ⟨c, hc, hall _ (Table.mem_of_lookup hc)⟩
    have hids : Table.ids (e.controllers.map fun p => (p.1, work p.2)) = Table.ids e.controllers :=
      Table.ids_map (fun p => work p.2) _
    refine ⟨⟨h.registered, h.sorted.map fun p => work p.2, h.reported, ?_, h.answered, ?_, ?_⟩,
      h.unchanged, ?_⟩
    · rw [hids]
      exact h.known
    · rw [hids]
      exact h.complete
    · intro id c' hc'
      obtain ⟨c, hc, hturns⟩ := hlookup id c' hc'
      exact (h.tells id c hc).turns hturns (h.laid id c hc)
    · intro id c' hc'
      obtain ⟨c, hc, hturns⟩ := hlookup id c' hc'
      exact hturns.layout ▸ h.laid id c hc
  send h _ := ⟨h.toInOrder.of_same rfl rfl rfl id, h.unchanged, h.laid⟩
  receive h _ := ⟨h.toInOrder.of_same rfl rfl rfl id, h.unchanged, h.laid⟩
  note _ _ h := ⟨h.toInOrder.of_same rfl rfl rfl id, h.unchanged, h.laid⟩
  store h := ⟨h.toInOrder.stored, h.unchanged, h.laid⟩

end Solve

/-- Agents that are not among `rest` any more have controllers. -/
structure Covering (n : Network α) (rest : List AgentId) (e : Ensemble σ α) : Prop extends InOrder e where
  network : e.network = n
  registered_rest : ∀ id ∈ rest, id ∈ n.ids
  covered : ∀ id ∈ n.ids, id ∈ rest ∨ id ∈ Table.ids e.controllers

omit [Scalar α] in
theorem Covering.insert {n : Network α} {id : AgentId} {rest : List AgentId} {e : Ensemble σ α}
    (h : Covering n (id :: rest) e) {c : Controller α} (hc : c.Tells) :
    Covering n rest { e with controllers := Table.insert id c e.controllers } := by
  have hid : id ∈ e.network.ids := h.network ▸ h.registered_rest id List.mem_cons_self
  refine ⟨h.toInOrder.insert hid hc, h.network,
    fun k hk => h.registered_rest k (List.mem_cons_of_mem id hk), fun k hk => ?_⟩
  rcases h.covered k hk with hmem | hmem
  · rcases List.mem_cons.mp hmem with rfl | hmem
    · exact .inr (Table.mem_ids_insert.mpr (.inl rfl))
    · exact .inl hmem
  · exact .inr (Table.mem_ids_insert.mpr (.inr hmem))

theorem covering_syncController (n : Network α) (t0 : α) (id : AgentId) (rest : List AgentId) :
    Triple (Covering n (id :: rest)) (syncController t0 id : Run σ α Unit) (fun _ => Covering n rest)
      InOrder := by
  unfold syncController
  refine triple_get_bind fun e h => ?_
  have hput : ∀ {β : Type} {x : Except ConfigError β} {f : β → Controller α}, (∀ b, (f b).Tells) →
      Triple (· = e) (do putController id (f (← configured id x)) : Run σ α Unit)
        (fun _ => Covering n rest) InOrder := by
    intro β x f hf
    refine triple_bind (Q := fun _ e' => e' = e) ?_ fun b => triple_putController ?_
    · exact triple_configured (fun _ he _ _ => he) fun _ he => he ▸ h.toInOrder
    · intro _ heq
      obtain rfl := heq
      exact h.insert (hf b)
  split
  · next c _ => exact hput fun a => Controller.tells_modifyAgent _ c
  · exact hput fun a => Controller.tells_new a e.solver e.options

theorem inOrder_syncTopology (t0 : α) :
    Triple InOrder (syncTopology t0 : Run σ α Unit)
      (fun _ e => e.InOrder ∧ e.topologyChanged = false) InOrder := by
  unfold syncTopology
  refine triple_get_bind fun e h => ?_
  split
  · refine triple_get_bind fun e' he => ?_
    subst he
    refine triple_bind (Q := fun _ => Covering e'.network []) ?_ fun _ => triple_modify fun e h => ?_
    · refine (triple_forM_rest (covering_syncController e'.network t0) e'.network.ids).weaken ?_
        (fun _ _ h => h) (fun _ h => h)
      intro _ heq
      obtain rfl := heq
      exact ⟨h, rfl, fun _ hid => hid, fun _ hid => .inl hid⟩
    · refine ⟨⟨h.registered, h.sorted, h.reported, h.known, h.answered, fun _ id hid => ?_, h.tells⟩,
        rfl⟩
      exact (h.covered id (h.network ▸ hid)).resolve_left (by simp)
  · next hchanged => exact triple_pure fun _ he => he ▸ ⟨h, by simpa using hchanged⟩

/-- Of the entries of `rest`, none has changed; all other controllers are ready for a solve. -/
structure Priming (rest : Table (Controller α)) (e : Ensemble σ α) : Prop extends InOrder e where
  unchanged : e.topologyChanged = false
  pending : ∀ p ∈ rest, e.controllers.lookup p.1 = some p.2
  distinct : (Table.ids rest).Nodup
  primed : ∀ id c, e.controllers.lookup id = some c → (id, c) ∈ rest ∨ c.Primed

namespace Priming

variable {id : AgentId} {c c' : Controller α} {rest : Table (Controller α)} {e : Ensemble σ α}

omit [Scalar α] in
/-- The next controller stays the next. -/
theorem replace (h : Priming ((id, c) :: rest) e) (hc' : c'.Tells) :
    Priming ((id, c') :: rest) { e with controllers := Table.insert id c' e.controllers } := by
  obtain ⟨hfresh, hdistinct⟩ := List.nodup_cons.mp h.distinct
  have hpending := Table.lookup_insert_cons hfresh
    (fun p hp => h.pending p (List.mem_cons_of_mem _ hp)) c'
  refine ⟨h.toInOrder.put (h.pending _ List.mem_cons_self) hc', h.unchanged, hpending,
    List.nodup_cons.mpr ⟨hfresh, hdistinct⟩, fun k d hd => ?_⟩
  rcases Table.lookup_insert_cases hd with ⟨rfl, rfl⟩ | ⟨hne, hold⟩
  · exact .inl List.mem_cons_self
  · refine (h.primed k d hold).imp_left fun hmem => List.mem_cons_of_mem _ ?_
    exact (List.mem_cons.mp hmem).resolve_left fun heq => hne (congrArg Prod.fst heq)

omit [Scalar α] in
/-- With the next controller ready, it is the turn of the others. -/
theorem put (h : Priming ((id, c) :: rest) e) (hc' : c'.Primed) :
    Priming rest { e with controllers := Table.insert id c' e.controllers } := by
  have hnext := h.replace hc'.tells
  refine ⟨hnext.toInOrder, h.unchanged, fun p hp => hnext.pending p (List.mem_cons_of_mem _ hp),
    (List.nodup_cons.mp h.distinct).2, fun k d hd => ?_⟩
  rcases hnext.primed k d hd with hmem | hd
  · rcases List.mem_cons.mp hmem with heq | hmem
    · obtain ⟨-, rfl⟩ := Prod.mk.inj heq
      exact .inr hc'
    · exact .inl hmem
  · exact .inr hd

end Priming

theorem priming_prepareController (t0 : α) (p : AgentId × Controller α)
    (rest : Table (Controller α)) :
    Triple (Priming (p :: rest)) (prepareController t0 p : Run σ α Unit) (fun _ => Priming rest)
      InOrder := by
  obtain ⟨id, c⟩ := p
  unfold prepareController
  dsimp only
  refine triple_of_each fun e h => ?_
  have hstart : (c.startAt t0).Tells := (h.tells id c (h.pending _ List.mem_cons_self)).startAt t0
  split
  · have hprepare : (c.startAt t0).prepare.1.Tells :=
      Controller.Proceeds.tells_of_checked (Controller.proceeds_prepare _) hstart
    refine triple_bind (Q := fun _ => Priming ((id, (c.startAt t0).prepare.1) :: rest))
      (triple_putController fun e he => he ▸ h.replace hprepare) fun _ => ?_
    refine triple_bind (Q := fun _ e => Priming ((id, (c.startAt t0).prepare.1) :: rest) e ∧
      (c.startAt t0).prepare.2 = .ok ()) ?_ fun _ => ?_
    · exact triple_configured (fun _ h _ hok => ⟨h, hok⟩) fun _ h => h.toInOrder
    · exact triple_putController fun e h =>
        h.1.put (Controller.primed_beginSolve (Controller.laid_prepare h.2))
  · next hstatus =>
    have hlaid : (c.startAt t0).layout.isSome :=
      Option.isSome_iff_ne_none.mpr fun hnone => hstatus (hstart.mpr hnone)
    exact triple_putController fun e he => he ▸ h.put (Controller.primed_beginSolve hlaid)

/-- A preparation leaves every agent with a controller that is ready for the first iteration. -/
structure Prepared (e : Ensemble σ α) : Prop extends Busy e where
  primed : ∀ id c, e.controllers.lookup id = some c → c.Primed

theorem inOrder_prepare (t0 : α) :
    Triple InOrder (prepare t0 : Run σ α Unit) (fun _ => Prepared) InOrder := by
  unfold prepare
  refine triple_bind (inOrder_syncTopology t0) fun _ => triple_get_bind fun e h => ?_
  obtain ⟨hordered, hunchanged⟩ := h
  refine (triple_forM_rest (priming_prepareController t0) e.controllers).weaken ?_ ?_ (fun _ h => h)
  · intro _ heq
    obtain rfl := heq
    exact ⟨hordered, hunchanged, fun p hp => Table.lookup_of_mem hordered.sorted hp,
      hordered.sorted.nodup, fun id c hc => .inl (Table.mem_of_lookup hc)⟩
  · intro _ e h
    have hprimed : ∀ id c, e.controllers.lookup id = some c → c.Primed := fun id c hc =>
      (h.primed id c hc).resolve_left (by simp)
    exact ⟨⟨h.toInOrder, h.unchanged, fun id c hc => (hprimed id c hc).laid⟩, hprimed⟩

theorem InOrder.prepared {t0 : α} {e e' : Ensemble σ α} {u : Unit} (h : e.InOrder)
    (hprepare : Returns (Ensemble.prepare t0) e u e') : e'.Prepared :=
  (inOrder_prepare t0).of_returns h hprepare

theorem inOrder_setInitial (id : AgentId) (x : Vec α) :
    Keeps (InOrder (σ := σ) (α := α)) (do
      if let some c := (← get).controllers.lookup id then
        putController id (← configured id (c.setInitialState x))) := by
  refine triple_get_bind fun e h => ?_
  split
  · next c hc =>
    refine triple_bind (Q := fun c' e' => e' = e ∧ c.setInitialState x = .ok c') ?_ fun c' => ?_
    · exact triple_configured (fun _ he a ha => ⟨he, ha⟩) fun _ he => he ▸ h
    · refine triple_putController fun _ heq => ?_
      obtain ⟨rfl, hc'⟩ := heq
      exact h.put hc
        (Controller.Proceeds.tells_of_checked (Controller.proceeds_setInitialState hc') (h.tells id c hc))
  · exact triple_pure fun _ he => he ▸ h

variable [Transport σ α]

theorem InOrder.registerAgent {e : Ensemble σ α} (h : e.InOrder) {id : AgentId}
    {model : AgentModel α} {x u : Vec α} {n : Network α}
    (hn : e.network.registerAgent id model x u = .ok n) :
    InOrder { e with
      network := n, transport := Transport.register id e.transport, topologyChanged := true } := by
  have hchange : e.network.apply (.registerAgent id model x u) = .ok n := hn
  have hmore : e.network.ids ⊆ n.ids := by
    obtain ⟨-, -, -, -, -, rfl⟩ := Network.registerAgent_eq_ok hn
    exact fun k hk => Network.mem_ids_setEntry.mpr (.inr hk)
  exact ⟨h.registered.apply hchange, h.sorted, h.reported, fun k hk => hmore (h.known hk),
    fun k hk => hmore (h.answered hk), fun hchanged => (nomatch hchanged), h.tells⟩

theorem InOrder.deregisterAgent {e : Ensemble σ α} (h : e.InOrder) {id : AgentId} {n : Network α}
    (hn : e.network.apply (.deregisterAgent id) = .ok n) :
    InOrder { e with
      network := n
      transport := Transport.deregister id e.transport
      controllers := Table.erase id e.controllers
      solutions := Table.erase id e.solutions
      topologyChanged := true } := by
  have hless : ∀ {β : Type} {t : Table β} {k : AgentId}, k ∈ Table.ids (Table.erase id t) →
      k ≠ id ∧ k ∈ Table.ids t := by
    intro β t k hk
    obtain ⟨p, hp, rfl⟩ := List.mem_map.mp hk
    obtain ⟨hmem, hne⟩ := List.mem_filter.mp hp
    exact ⟨of_decide_eq_true hne, List.mem_map_of_mem hmem⟩
  have hregistered := h.registered.apply hn
  obtain rfl := Network.apply_deregisterAgent_eq_ok hn
  refine ⟨hregistered, h.sorted.erase id, h.reported.erase id, fun k hk => ?_, fun k hk => ?_,
    fun hchanged => (nomatch hchanged), fun k c hc => ?_⟩
  · obtain ⟨hne, hmem⟩ := hless hk
    exact Network.mem_ids_erase.mpr ⟨hne, h.known hmem⟩
  · obtain ⟨hne, hmem⟩ := hless hk
    exact Network.mem_ids_erase.mpr ⟨hne, h.answered hmem⟩
  · dsimp only at hc
    rw [Table.lookup_erase_ne (hless (Table.mem_ids_of_lookup hc)).1] at hc
    exact h.tells k c hc

theorem inOrder_apply (change : Change α) : Keeps (InOrder (σ := σ) (α := α)) (apply change) := by
  unfold apply
  refine triple_get_bind fun e h => ?_
  refine triple_bind (Q := fun n e' => e' = e ∧ e.network.apply change = .ok n) ?_ fun n => ?_
  · exact triple_configured (fun _ he n hn => ⟨he, hn⟩) fun _ he => he ▸ h
  refine triple_bind (Q := fun _ e' => e' = { e with network := n } ∧ e.network.apply change = .ok n)
    (triple_modify ?_) fun _ => ?_
  · intro _ heq
    obtain ⟨rfl, hn⟩ := heq
    exact ⟨rfl, hn⟩
  cases change with
  | registerAgent id model x u =>
    refine triple_modify fun _ heq => ?_
    obtain ⟨rfl, hn⟩ := heq
    exact h.registerAgent hn
  | deregisterAgent id =>
    refine triple_modify fun _ heq => ?_
    obtain ⟨rfl, hn⟩ := heq
    exact h.deregisterAgent hn
  | setInitial id x =>
    refine (inOrder_setInitial id x).weaken (fun _ heq => ?_) (fun _ _ h => h) (fun _ h => h)
    obtain ⟨rfl, hn⟩ := heq
    exact h.withNetwork (h.registered.apply hn) (Network.mem_ids_apply h.registered hn rfl)
  | setDesired | registerCoupling | deregisterCoupling =>
    refine triple_modify fun _ heq => ?_
    obtain ⟨rfl, hn⟩ := heq
    have hsame := h.withNetwork (h.registered.apply hn) (Network.mem_ids_apply h.registered hn rfl)
    exact hsame.of_same rfl rfl rfl fun hchanged => (nomatch hchanged)

omit [Scalar α] [Transport σ α] in
theorem InOrder.pushApplied {e : Ensemble σ α} (h : e.InOrder) (t : α) (applied : Table (Sample α)) :
    (applied.foldl (pushApplied t) e).InOrder := by
  induction applied generalizing e with
  | nil => exact h
  | cons p applied ih =>
    apply ih
    refine h.withSolutions (h.reported.modify _ _) ?_
    rw [Table.modify, Table.ids_map fun q : AgentId × Solution α => if q.1 = p.1 then _ else q.2]
    exact h.answered

omit [Transport σ α] in
theorem inOrder_advance (dt : α) (next : AgentId × Vec α) :
    Keeps (InOrder (σ := σ) (α := α)) (advance dt next) := by
  obtain ⟨id, x⟩ := next
  unfold advance
  refine triple_get_bind fun e h => ?_
  refine triple_bind (Q := fun n e' => e' = e ∧ e.network.setInitial id x = .ok n) ?_ fun n => ?_
  · exact triple_configured (fun _ he n hn => ⟨he, hn⟩) fun _ he => he ▸ h
  refine triple_bind (Q := fun _ => InOrder) (triple_modify fun _ heq => ?_) fun _ => ?_
  · obtain ⟨rfl, hn⟩ := heq
    have hchange : Network.apply _ (.setInitial id x) = .ok n := hn
    exact h.withNetwork (h.registered.apply hchange)
      (Network.mem_ids_apply h.registered hchange rfl)
  refine triple_get_bind fun e h => ?_
  split
  · next c hc =>
    have hshifted : (c.shiftHorizon dt).1.Tells :=
      Controller.Proceeds.tells_of_checked (c.proceeds_shiftHorizon dt) (h.tells id c hc)
    refine triple_bind (Q := fun _ e => e.InOrder ∧
      e.controllers.lookup id = some (c.shiftHorizon dt).1) (triple_putController ?_) fun _ => ?_
    · intro _ heq
      obtain rfl := heq
      exact ⟨h.put hc hshifted, Table.lookup_insert _ _ _⟩
    refine triple_bind (Q := fun _ e => e.InOrder ∧
      e.controllers.lookup id = some (c.shiftHorizon dt).1) ?_ fun _ => ?_
    · exact triple_promised (fun _ he _ _ => he) fun _ he => he.1
    refine triple_bind (Q := fun c' e => (e.InOrder ∧
      e.controllers.lookup id = some (c.shiftHorizon dt).1) ∧
      (c.shiftHorizon dt).1.setInitialState x = .ok c') ?_ fun c' => ?_
    · exact triple_configured (fun _ he c' hc' => ⟨he, hc'⟩) fun _ he => he.1
    · refine triple_putController fun e he => ?_
      exact he.1.1.put he.1.2
        (Controller.Proceeds.tells_of_checked (Controller.proceeds_setInitialState he.2) hshifted)
  · exact triple_pure fun _ he => he ▸ h

theorem inOrder_solve (t0 : α) : Keeps (InOrder (σ := σ) (α := α)) (solve t0) :=
  routine_busy.phased.keeps_solve (fun _ h => h.toInOrder)
    ((inOrder_prepare t0).weaken (fun _ h => h) (fun _ _ h => h.toBusy) fun _ h => h)

theorem inOrder_closedLoopStep (t dt : α) :
    Keeps (InOrder (σ := σ) (α := α)) (closedLoopStep t dt) := by
  unfold closedLoopStep
  refine triple_bind (Q := fun _ => InOrder) (inOrder_solve t) fun summary => ?_
  refine triple_get_bind fun e h => ?_
  refine triple_bind (Q := fun _ => InOrder) ?_ fun applied => ?_
  · exact triple_promised (fun _ he _ _ => he ▸ h) fun _ he => he ▸ h
  refine triple_bind (Q := fun _ => InOrder) (triple_modify fun _ h => h.pushApplied t applied)
    fun _ => triple_get_bind fun e h => ?_
  refine triple_bind (Q := fun _ => InOrder) ?_ fun _ => triple_pure fun _ h => h
  exact (triple_forM fun next _ => inOrder_advance dt next).weaken (fun _ he => he ▸ h)
    (fun _ _ h => h) (fun _ h => h)

/-- Everything that is done to an ensemble leaves it in order, solves that are given up included. -/
theorem Handled.inOrder {e : Ensemble σ α} (h : e.Handled) : e.InOrder := by
  induction h with
  | new o solver transport =>
    refine ⟨Network.registered_empty, List.Pairwise.nil, List.Pairwise.nil, ?_, ?_, ?_, ?_⟩
    all_goals simp [Ensemble.new, Network.ids, Network.empty, Table.ids]
  | apply change _ ih => exact (inOrder_apply change).exec ih
  | solve t0 _ ih => exact (inOrder_solve t0).exec ih
  | abandon _ ha ih =>
    exact (ha.keeps routine_busy fun _ hprepare => (ih.prepared hprepare).toBusy).toInOrder
  | closedLoopStep t dt _ ih => exact (inOrder_closedLoopStep t dt).exec ih
  | withSolver solver _ ih =>
    refine ⟨ih.registered, List.Pairwise.nil, ih.reported, ?_, ih.answered, ?_, ?_⟩
    all_goals simp [Ensemble.withSolver, Table.ids]
  | capStoredData samples _ ih =>
    have hids := Table.ids_map (fun p : AgentId × Solution α => p.2.capStoredData samples)
    refine (ih.withSolutions (ih.reported.map fun p => p.2.capStoredData samples) ?_).of_same
      rfl rfl rfl id
    rw [hids]
    exact ih.answered

open Controller (Called Guarded Anytime)

/-- A controller is uninitialized as long as it has no layout, provided that no iteration is ended and it
is not given up before it has one. Past that state a local solve then comes to its end. Without the
proviso only the first two states tell. No ensemble lets a controller solve that has no layout. -/
theorem status_tells_layout (hle : ∀ a b d : α, a ≤ b → b ≤ d → a ≤ d) :
    (∀ c : Controller α, Called Guarded c → (c.status = .uninitialized ↔ c.layout = none) ∧
      (c.status ≠ .uninitialized → (∀ nb ∈ c.agent.neighbors, ∀ f, nb.relation.sending = some f →
        f.dynamics.KeepsLength) → ∀ answer, ∃ c', c.perform (.solve answer) = .ok c')) ∧
    (∀ c : Controller α, Called Anytime c → (c.status = .uninitialized → c.layout = none) ∧
      (c.status = .ready → c.layout.isSome)) ∧
    ∀ e₀ : Ensemble σ α, e₀.Handled →
      (∀ id c, e₀.controllers.lookup id = some c → (c.status = .uninitialized ↔ c.layout = none)) ∧
      ∀ t0 n e, LocalSolves t0 e₀ n e → ∀ id c, e.controllers.lookup id = some c →
        c.layout.isSome ∧ c.status ≠ .uninitialized := by
  refine ⟨fun c hc => ⟨hc.tells, fun hstatus hcouplings answer => ?_⟩, fun c hc => hc.first_states,
    fun e₀ he => ⟨he.inOrder.tells, fun t0 n e hsolves id c hc => ?_⟩⟩
  · have hlaid : c.layout.isSome :=
      Option.isSome_iff_ne_none.mpr fun hnone => hstatus (hc.tells.mpr hnone)
    exact hc.exists_solve hle hcouplings hlaid answer
  · have hbusy : e.Busy := hsolves.keeps routine_busy.phased fun e₁ hprepare =>
      (he.inOrder.prepared hprepare).toBusy
    have hlaid := hbusy.laid id c hc
    refine ⟨hlaid, fun hstatus => ?_⟩
    simp [(hbusy.tells id c hc).mp hstatus] at hlaid

/-- The first local solves of two agents. -/
theorem localSolves_pair : ∃ e, LocalSolves 0 (pair 1 (insist 1)) 1 e ∧ e.controllers.length = 2 := by
  obtain ⟨_, hprepare⟩ := returns_of_isOk (x := prepare 0) (e := pair 1 (insist 1))
    (by decide +kernel)
  obtain ⟨_, hexchange⟩ := returns_of_isOk (x := exchange .setup 0)
    (e := { (exec (prepare 0) (pair 1 (insist 1))).2 with history := .empty }) (by decide +kernel)
  exact ⟨_, .first (.setup hprepare) hexchange, by decide +kernel⟩

open Controller (middleCart) in
theorem carts_and_pair_tell_layout : (∀ a b d : Rat, a ≤ b → b ≤ d → a ≤ d) ∧
    Called Guarded middleCart.prepare.1 ∧ middleCart.prepare.1.status = .ready ∧
    (∃ c', middleCart.prepare.1.perform (.solve (.error (.notConverged 3))) = .ok c') ∧
    ∃ e, LocalSolves 0 (pair 1 (insist 1)) 1 e ∧ e.controllers.length = 2 ∧
      ∀ id c, e.controllers.lookup id = some c → c.layout.isSome ∧ c.status ≠ .uninitialized := by
  have hle : ∀ a b d : Rat, a ≤ b → b ≤ d → a ≤ d := fun _ _ _ => le_trans
  obtain ⟨hcalled, -, hhandled⟩ := status_tells_layout (σ := Direct Rat) hle
  have hprepare : middleCart.perform .prepare = .ok middleCart.prepare.1 := rfl
  have hcart : Called Guarded middleCart.prepare.1 :=
    (Called.new _ _ _).perform (fun h => by simp at h) hprepare
  have hready : middleCart.prepare.1.status = .ready := by decide +kernel
  have hcouplings : ∀ nb ∈ middleCart.prepare.1.agent.neighbors, ∀ f,
      nb.relation.sending = some f → f.dynamics.KeepsLength := by
    intro nb hnb f hf
    have hlink := List.mem_map_of_mem (f := Neighbor.link) hnb
    have hlinks : middleCart.prepare.1.agent.links = middleCart.agent.links :=
      congrArg Controller.Site.links (Controller.site_prepare middleCart)
    rw [← Agent.links, hlinks] at hlink
    obtain ⟨old, hold, heq⟩ := List.mem_map.mp hlink
    have hrelation : old.relation = nb.relation := congrArg Link.relation heq
    exact Controller.middleCart_couplings old hold f (hrelation ▸ hf)
  obtain ⟨e, hsolves, hlength⟩ := localSolves_pair
  refine ⟨hle, hcart, hready, (hcalled _ hcart).2 (by simp [hready]) hcouplings _, e, hsolves, hlength,
    (hhandled _ (pair_operated 1 (insist 1)).handled).2 0 1 e hsolves⟩

end Ensemble

end ConsensusControl
