import ConsensusControl.Proofs.Consensus.Shape
import ConsensusControl.Proofs.Ensemble.Orderly

namespace ConsensusControl.Ensemble

variable {σ α : Type} [Scalar α]

theorem sorted_stored {e : Ensemble σ α} (hs : Table.Sorted e.solutions) :
    Table.Sorted e.stored.solutions := by
  unfold stored
  dsimp only
  generalize e.solutions = solutions at hs ⊢
  induction e.controllers generalizing solutions with
  | nil => exact hs
  | cons p controllers ih => exact ih _ (hs.alter _ _)

/-- What is reported of every agent. -/
theorem lookup_stored {e : Ensemble σ α} (hc : Table.Sorted e.controllers)
    (hs : Table.Sorted e.solutions) (id : AgentId) : e.stored.solutions.lookup id =
      ((e.controllers.lookup id).map fun c => c.solution (e.solutions.lookup id)).or
        (e.solutions.lookup id) :=
  Table.lookup_foldl_alter Controller.solution hc.nodup hs id

variable [Transport σ α]

/-- An invariant that messages leave alone. -/
structure Conveyed (I : Ensemble σ α → Prop) : Prop where
  apply : ∀ {e : Ensemble σ α} {id sender : AgentId} {c : Controller α} {kind : RecordKind}
    {record : StateRecord α}, I e → e.controllers.lookup id = some c →
    I { e with controllers := Table.insert id (c.applyIncoming sender kind record).1 e.controllers }
  send : ∀ {e : Ensemble σ α} {env : Envelope α} {s : σ}, I e →
    Transport.send env e.transport = .ok s → I { e with transport := s }
  receive : ∀ {e : Ensemble σ α} {id : AgentId} {key : Key} {r : Option (StateRecord α)} {s : σ}, I e →
    Transport.receive id key e.transport = .ok (r, s) → I { e with transport := s }
  round : ∀ {e : Ensemble σ α} (round : Nat), I e → I { e with round }

namespace Conveyed

variable {I : Ensemble σ α → Prop}

omit [Scalar α] in
theorem keeps_send (hI : Conveyed I) (n : Nat) (env : Envelope α) : Keeps I (Ensemble.send n env) :=
  triple_send fun _ _ => hI.send

omit [Scalar α] in
theorem keeps_receive (hI : Conveyed I) (n : Nat) (w : Awaited) : Keeps I (Ensemble.receive n w) :=
  triple_receive fun _ _ _ => hI.receive

omit [Scalar α] in
theorem keeps_deliver (hI : Conveyed I) (n : Nat) (env : Envelope α) : Keeps I (deliver n env) :=
  triple_deliver fun _ _ => hI.apply

omit [Scalar α] in
theorem keeps_exchange (hI : Conveyed I) (phase : ExchangePhase) (n : Nat) :
    Keeps I (exchange phase n) := by
  unfold exchange
  refine triple_bind (Q := fun _ => I) (triple_modify fun _ h => hI.round _ h) fun _ => ?_
  refine triple_get_bind fun e h => ?_
  refine triple_bind (Q := fun _ => I) ?_ fun _ => triple_get_bind fun e h => ?_
  · exact (triple_forM fun env _ => hI.keeps_send n env).weaken (fun _ he => he ▸ h)
      (fun _ _ h => h) (fun _ h => h)
  refine triple_bind (Q := fun _ => I) ?_ fun _ => triple_forM fun env _ => hI.keeps_deliver n env
  exact (triple_mapM fun w _ => hI.keeps_receive n w).weaken (fun _ he => he ▸ h)
    (fun _ _ h => h) (fun _ h => h)

end Conveyed

/-- An invariant that turns of the controllers, messages and reports leave alone. -/
structure Routine (I : Ensemble σ α → Prop) : Prop where
  turns : ∀ {e : Ensemble σ α} {id : AgentId} {c c' : Controller α}, I e →
    e.controllers.lookup id = some c → c.Turns c' →
    I { e with controllers := Table.insert id c' e.controllers }
  turnAll : ∀ {e : Ensemble σ α} (work : Controller α → Controller α), I e →
    (∀ p ∈ e.controllers, p.2.Turns (work p.2)) →
    I { e with controllers := e.controllers.map fun p => (p.1, work p.2) }
  send : ∀ {e : Ensemble σ α} {env : Envelope α} {s : σ}, I e →
    Transport.send env e.transport = .ok s → I { e with transport := s }
  receive : ∀ {e : Ensemble σ α} {id : AgentId} {key : Key} {r : Option (StateRecord α)} {s : σ}, I e →
    Transport.receive id key e.transport = .ok (r, s) → I { e with transport := s }
  note : ∀ {e : Ensemble σ α} (round : Nat) (history : History α), I e →
    I { e with round, history }
  store : ∀ {e : Ensemble σ α}, I e → I e.stored

theorem turns_coupling {c : Controller α} {u : Unit} (h : c.coupling.2 = .ok u) :
    c.Turns c.coupling.1 :=
  (Controller.Turn.couple (Controller.coupling_eq_ok h)).turns

theorem turns_ascent {c : Controller α} {u : Unit} (h : c.ascent.2 = .ok u) :
    c.Turns c.ascent.1 := by
  obtain ⟨raised, hraised, hadapted⟩ := Controller.ascent_eq_ok h
  exact (Controller.Turn.raise hraised).turns.turn (.adapt hadapted)

namespace Routine

variable {I : Ensemble σ α → Prop}

theorem conveyed (hI : Routine I) : Conveyed I where
  apply h hc := hI.turns h hc (Controller.Turn.receive _ _ _ _).turns
  send := hI.send
  receive := hI.receive
  round {e} round h := hI.note round e.history h

theorem keeps_inParallel (hI : Routine I) {β : Type} {work : Controller α → Controller α × Checked β}
    (hwork : ∀ c b, (work c).2 = .ok b → c.Turns (work c).1) : Keeps I (inParallel work) := by
  intro e h
  rcases exec_inParallel work e with ⟨answers, hexec, hall⟩ | ⟨s, hexec, -⟩
  · rw [hexec]
    refine hI.turnAll (fun c => (work c).1) h fun p hp => ?_
    obtain ⟨b, hb⟩ := hall p hp
    exact hwork p.2 b hb
  · rw [hexec]
    exact h

theorem keeps_storeSolutions (hI : Routine I) : Keeps I (storeSolutions : Run σ α Unit) :=
  triple_modify fun _ h => hI.store h

theorem keeps_escalate (hI : Routine I) (n : Nat) (result : AgentId × Except SolveError Unit) :
    Keeps I (escalate n result) := by
  unfold escalate
  split
  · exact triple_pure fun _ h => h
  refine triple_get_bind fun e h => ?_
  split
  · next c hc =>
    split
    · refine triple_bind (Q := fun _ => I) (triple_putController fun _ heq => ?_) fun _ => ?_
      · obtain rfl := heq
        exact hI.turns h hc (Controller.Turn.fail c).turns
      · exact triple_bind (Q := fun _ => I) hI.keeps_storeSolutions fun _ => triple_throw fun _ h => h
    · exact triple_pure fun _ he => he ▸ h
  · exact triple_pure fun _ he => he ▸ h

theorem keeps_finish (hI : Routine I) (n : Nat) : Keeps I (finish n) := by
  unfold finish
  refine triple_bind (Q := fun _ => I) (triple_modify fun e h => ?_) fun _ => ?_
  · exact hI.turnAll Controller.finishIteration h fun p _ => (Controller.Turn.finish p.2).turns
  refine triple_get_bind fun e h => ?_
  refine triple_bind (Q := fun _ => I) (triple_set fun _ _ => ?_) fun _ => triple_pure fun _ h => h
  exact hI.note e.round _ h

theorem phased (hI : Routine I) : Phased I where
  solving := hI.keeps_inParallel fun c _ _ => (Controller.Turn.solve c).turns
  escalating := hI.keeps_escalate
  coupling := hI.keeps_inParallel fun _ _ => turns_coupling
  ascending := hI.keeps_inParallel fun _ _ => turns_ascent
  exchanging := hI.conveyed.keeps_exchange
  finishing := hI.keeps_finish
  note {e} history h := hI.note e.round history h
  store := hI.store

end Routine

/-- What turns keep of every controller. -/
theorem routine_controllers {P : AgentId → Controller α → Prop}
    (hP : ∀ id c c', P id c → c.Turns c' → P id c') :
    Routine fun e : Ensemble σ α => ∀ id c, e.controllers.lookup id = some c → P id c where
  turns h hc ht k d hd := by
    rcases Table.lookup_insert_cases hd with ⟨rfl, rfl⟩ | ⟨-, hold⟩
    · exact hP k _ d (h k _ hc) ht
    · exact h k d hold
  turnAll work h hall k d hd := by
    rw [Table.lookup_map fun _ c => work c] at hd
    obtain ⟨c, hc, rfl⟩ := Option.map_eq_some_iff.mp hd
    exact hP k c _ (h k c hc) (hall _ (Table.mem_of_lookup hc))
  send h _ := h
  receive h _ := h
  note _ _ h := h
  store h := h

end ConsensusControl.Ensemble
