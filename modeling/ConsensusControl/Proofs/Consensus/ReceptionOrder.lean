import ConsensusControl.Proofs.Consensus.Acceptance

namespace ConsensusControl

namespace Neighbor

variable {α : Type}

/-- Only the entry of one kind is another, and for consensus variables the one before it. -/
structure Replaced (nb : Neighbor α) (kind : RecordKind) (r : Record kind.family α) (nb' : Neighbor α) :
    Prop where
  latest : nb'.stored kind = r
  others : ∀ other, other ≠ kind → nb'.stored other = nb.stored other
  previousCoupling : nb'.previousCouplingState =
    if kind = .couplingState then nb.couplingState else nb.previousCouplingState
  previousExternal : nb'.previousExternalInfluence =
    if kind = .externalInfluenceCouplingState then nb.externalInfluence
    else nb.previousExternalInfluence
  rest : nb = { nb' with
    agentState := nb.agentState
    desired := nb.desired
    coupledAgentState := nb.coupledAgentState
    couplingState := nb.couplingState
    previousCouplingState := nb.previousCouplingState
    externalInfluence := nb.externalInfluence
    previousExternalInfluence := nb.previousExternalInfluence
    coupledMultiplier := nb.coupledMultiplier
    coupledPenalty := nb.coupledPenalty }

theorem replaced_keep (nb : Neighbor α) (kind : RecordKind) (r : Record kind.family α) :
    nb.Replaced kind r (nb.keep kind r) where
  latest := nb.stored_keep_self kind r
  others _ h := nb.stored_keep_ne r h
  previousCoupling := by cases kind <;> rfl
  previousExternal := by cases kind <;> rfl
  rest := by cases kind <;> rfl

/-- Records of different kinds are kept apart. -/
theorem keep_comm (nb : Neighbor α) {kind other : RecordKind} (h : kind ≠ other)
    (r : Record kind.family α) (r' : Record other.family α) :
    (nb.keep kind r).keep other r' = (nb.keep other r').keep kind r := by
  cases kind <;> cases other <;> first | rfl | exact absurd rfl h

/-- What is said against a record does not depend on records that came before. -/
theorem refusal?_keep (nb : Neighbor α) (samples nx nu : Nat) (kind other : RecordKind)
    (r : Record kind.family α) (r' : Record other.family α) :
    (nb.keep kind r).refusal? samples nx nu other r' = nb.refusal? samples nx nu other r' := by
  cases kind <;> rfl

end Neighbor

namespace Controller

variable {α : Type}

theorem store_comm (c : Controller α) {sender sender' : AgentId} {kind kind' : RecordKind}
    (h : (sender, kind) ≠ (sender', kind')) (r : Record kind.family α) (r' : Record kind'.family α) :
    (c.store sender kind r).store sender' kind' r' = (c.store sender' kind' r').store sender kind r := by
  have hneighbors : Agent.modifyFirst sender' (·.keep kind' r')
      (Agent.modifyFirst sender (·.keep kind r) c.agent.neighbors) =
      Agent.modifyFirst sender (·.keep kind r)
        (Agent.modifyFirst sender' (·.keep kind' r') c.agent.neighbors) := by
    by_cases hsender : sender = sender'
    · subst hsender
      have hkind : kind ≠ kind' := fun heq => h (by rw [heq])
      rw [Agent.modifyFirst_modifyFirst fun nb => nb.id_keep kind r,
        Agent.modifyFirst_modifyFirst fun nb => nb.id_keep kind' r']
      exact congrArg (Agent.modifyFirst sender · c.agent.neighbors)
        (funext fun nb => nb.keep_comm hkind r r')
    · exact Agent.modifyFirst_comm (fun nb => nb.id_keep kind r) (fun nb => nb.id_keep kind' r') hsender _
  simp only [store, Agent.modifyNeighbor, hneighbors]

/-- Received after another record, a record is answered as it would have been before, and what it makes of
the controller, the other makes of that. -/
theorem applyIncoming_store (c : Controller α) {sender sender' : AgentId} {kind kind' : RecordKind}
    (h : (sender, kind) ≠ (sender', kind')) (r : Record kind.family α) (r' : StateRecord α) :
    (c.store sender kind r).applyIncoming sender' kind' r' =
      ((c.applyIncoming sender' kind' r').1.store sender kind r,
        (c.applyIncoming sender' kind' r').2) := by
  by_cases hfamily : r'.family = kind'.family
  · obtain @⟨family, record⟩ := r'
    obtain rfl : family = kind'.family := hfamily
    have hfound : (c.store sender kind r).agent.neighbor? sender' =
        (c.agent.neighbor? sender').map fun nb => if sender' = sender then nb.keep kind r else nb :=
      Agent.find?_modifyFirst_id (fun nb => nb.id_keep kind r) _ _ _
    rw [applyIncoming_eq_store, applyIncoming_eq_store, hfound]
    cases c.agent.neighbor? sender' with
    | none => rfl
    | some nb =>
      have hrefusal : (if sender' = sender then nb.keep kind r else nb).refusal?
          (c.store sender kind r).options.horizonSteps (c.store sender kind r).agent.nx
          (c.store sender kind r).agent.nu kind' record =
          nb.refusal? c.options.horizonSteps c.agent.nx c.agent.nu kind' record := by
        split
        · exact nb.refusal?_keep ..
        · rfl
      dsimp only [Option.map_some]
      rw [hrefusal]
      cases nb.refusal? c.options.horizonSteps c.agent.nx c.agent.nu kind' record with
      | some reason => rfl
      | none =>
        dsimp only
        rw [c.store_comm h r record]
  · have hunexpected : ∀ c : Controller α, c.applyIncoming sender' kind' r' =
        (c, .error (.unexpectedRecord c.id sender' kind')) := fun c => dif_neg hfamily
    rw [hunexpected, hunexpected]
    rfl

/-- A refused record leaves the controller as it is, and an accepted one is stored. -/
theorem applyIncoming_stores (c : Controller α) (sender : AgentId) (kind : RecordKind)
    (r : StateRecord α) :
    (∃ e, c.applyIncoming sender kind r = (c, .error e)) ∨
      ∃ (record : Record kind.family α) (nb : Neighbor α), r = ⟨record⟩ ∧
        c.agent.neighbor? sender = some nb ∧
        c.applyIncoming sender kind r = (c.store sender kind record, .ok ()) := by
  obtain hrefused | ⟨record, nb, rfl, hnb, -, hkept⟩ := c.applyIncoming_cases sender kind r
  · exact .inl hrefused
  · refine .inr ⟨record, nb, rfl, hnb, hkept.trans ?_⟩
    rw [Agent.modifyNeighbor, Agent.modifyFirst_found (·.keep kind record) hnb]
    rfl

/-- A record on its way: who sent it, as what, and the record. -/
abbrev Message (α : Type) := AgentId × RecordKind × StateRecord α

/-- Where a record is kept. -/
def key (m : Message α) : AgentId × RecordKind := (m.1, m.2.1)

def answer (c : Controller α) (m : Message α) : Except CommunicationError (Controller α) :=
  c.accept m.1 m.2.1 m.2.2

/-- The controller after a record has come in, whether it was accepted or not. -/
def absorb (c : Controller α) (m : Message α) : Controller α := (c.applyIncoming m.1 m.2.1 m.2.2).1

theorem answer_cases (c : Controller α) (m : Message α) :
    (c.absorb m = c ∧ ∃ e, c.answer m = .error e) ∨
      ∃ record, c.absorb m = c.store m.1 m.2.1 record ∧ c.answer m = .ok (c.store m.1 m.2.1 record) := by
  obtain ⟨e, h⟩ | ⟨record, -, -, -, h⟩ := c.applyIncoming_stores m.1 m.2.1 m.2.2
  · rw [absorb, answer, accept, h]
    exact .inl ⟨rfl, e, rfl⟩
  · rw [absorb, h]
    exact .inr ⟨record, rfl, accept_of_ok h⟩

theorem answer_store (c : Controller α) {sender : AgentId} {kind : RecordKind} {m : Message α}
    (h : (sender, kind) ≠ key m) (r : Record kind.family α) :
    (c.store sender kind r).answer m = (c.answer m).map (·.store sender kind r) := by
  rw [answer, accept, c.applyIncoming_store h, answer, accept]
  cases (c.applyIncoming m.1 m.2.1 m.2.2).2 <;> rfl

theorem absorb_store (c : Controller α) {sender : AgentId} {kind : RecordKind} {m : Message α}
    (h : (sender, kind) ≠ key m) (r : Record kind.family α) :
    (c.store sender kind r).absorb m = (c.absorb m).store sender kind r := by
  rw [absorb, c.applyIncoming_store h, absorb]

theorem absorb_comm (c : Controller α) {m m' : Message α} (h : key m ≠ key m') :
    (c.absorb m).absorb m' = (c.absorb m').absorb m := by
  obtain ⟨hm, -⟩ | ⟨record, hm, -⟩ := c.answer_cases m
  · obtain ⟨hm', -⟩ | ⟨record', hm', -⟩ := c.answer_cases m'
    · rw [hm, hm', hm]
    · rw [hm, hm', c.absorb_store h.symm, hm]
  · rw [hm, c.absorb_store h]
    obtain ⟨hm', -⟩ | ⟨record', hm', -⟩ := c.answer_cases m'
    · rw [hm', hm]
    · rw [hm', c.absorb_store h.symm, hm, c.store_comm h]

/-- Records under different keys leave the same behind in every order. -/
theorem foldl_absorb_perm (c : Controller α) {ms ms' : List (Message α)} (h : ms'.Perm ms)
    (hkeys : (ms.map key).Nodup) : ms'.foldl absorb c = ms.foldl absorb c := by
  refine (h.symm.foldl_eq' (fun m hm m' hm' c => ?_) c).symm
  by_cases heq : m = m'
  · rw [heq]
  · have hne : key m ≠ key m' := fun hkey => heq (List.inj_on_of_nodup_map hkeys hm hm' hkey)
    exact c.absorb_comm hne

/-- Records that would be accepted one by one are accepted one after the other. -/
theorem foldlM_answer {c : Controller α} {ms : List (Message α)} (hkeys : (ms.map key).Nodup)
    (h : ∀ m ∈ ms, ∃ c', c.answer m = .ok c') : ms.foldlM answer c = .ok (ms.foldl absorb c) := by
  induction ms generalizing c with
  | nil => rfl
  | cons m ms ih =>
    obtain ⟨hfresh, hkeys⟩ := List.nodup_cons.mp hkeys
    obtain ⟨c', hc'⟩ := h m List.mem_cons_self
    obtain ⟨-, e, he⟩ | ⟨record, habsorb, hstore⟩ := c.answer_cases m
    · rw [he] at hc'
      cases hc'
    · have hrest : ∀ m' ∈ ms, ∃ c'', (c.store m.1 m.2.1 record).answer m' = .ok c'' := by
        intro m' hm'
        have hne : key m ≠ key m' := fun hkey => hfresh (hkey ▸ List.mem_map_of_mem hm')
        obtain ⟨c'', hc''⟩ := h m' (List.mem_cons_of_mem m hm')
        exact ⟨_, (c.answer_store hne record).trans (congrArg (Except.map _) hc'')⟩
      rw [List.foldlM_cons, hstore, List.foldl_cons, habsorb]
      exact ih hkeys hrest

theorem performAll_receptions [Scalar α] (c : Controller α) (ms : List (Message α)) :
    c.performAll (receptions ms) = .ok (ms.foldl absorb c) := by
  induction ms generalizing c with
  | nil => rfl
  | cons m ms ih => exact ih (c.absorb m)

/-- A refused record leaves the controller as it is. An accepted one is another in the entry of its kind
at the first neighbor with the id of the sender, and nowhere else. Records from different senders or of
different kinds may therefore come in any order. -/
theorem receptions_in_any_order [Scalar α] (c : Controller α) :
    (∀ sender kind r,
      (∀ e, (c.applyIncoming sender kind r).2 = .error e →
        (c.applyIncoming sender kind r).1 = c ∧ c.perform (.receive sender kind r) = .ok c) ∧
      ∀ c', c.applyIncoming sender kind r = (c', .ok ()) →
        c.perform (.receive sender kind r) = .ok c' ∧
          ∃ (record : Record kind.family α) (before : List (Neighbor α)) (nb nb' : Neighbor α)
            (after : List (Neighbor α)),
            r = ⟨record⟩ ∧ c.agent.neighbors = before ++ nb :: after ∧ nb.id = sender ∧
              sender ∉ before.map (·.id) ∧ nb.Replaced kind record nb' ∧
              c' = { c with agent := { c.agent with neighbors := before ++ nb' :: after } }) ∧
    ∀ ms ms' : List (Message α), ms'.Perm ms → (ms.map key).Nodup →
      c.performAll (receptions ms') = c.performAll (receptions ms) ∧
        ((∀ m ∈ ms, ∃ c', c.answer m = .ok c') →
          ∃ c', ms.foldlM answer c = .ok c' ∧ ms'.foldlM answer c = .ok c') := by
  refine ⟨fun sender kind r => ⟨fun e he => ?_, fun c' hc' => ⟨?_, ?_⟩⟩,
    fun ms ms' hperm hkeys => ⟨?_, ?_⟩⟩
  · obtain ⟨_, hrefused⟩ | ⟨_, -, -, -, hstored⟩ := c.applyIncoming_stores sender kind r
    · rw [perform, hrefused]
      exact ⟨rfl, rfl⟩
    · rw [hstored] at he
      cases he
  · rw [perform, hc']
  · obtain ⟨_, hrefused⟩ | ⟨record, nb, rfl, hnb, hstored⟩ := c.applyIncoming_stores sender kind r
    · rw [hrefused] at hc'
      cases hc'
    obtain rfl := congrArg Prod.fst (hstored.symm.trans hc')
    obtain ⟨before, after, hsplit, hid, hfresh, hmodify⟩ := Agent.modifyFirst_split hnb
    refine ⟨record, before, nb, nb.keep kind record, after, rfl, hsplit, hid, hfresh,
      nb.replaced_keep kind record, ?_⟩
    rw [store, Agent.modifyNeighbor, hmodify]
  · rw [performAll_receptions, performAll_receptions, c.foldl_absorb_perm hperm hkeys]
  · intro haccepted
    have hkeys' : (ms'.map key).Nodup := (hperm.map key).nodup_iff.mpr hkeys
    have haccepted' : ∀ m ∈ ms', ∃ c', c.answer m = .ok c' :=
      fun m hm => haccepted m (hperm.mem_iff.mp hm)
    refine ⟨_, foldlM_answer hkeys haccepted, ?_⟩
    rw [foldlM_answer hkeys' haccepted', c.foldl_absorb_perm hperm hkeys]

/-- Two records from the one neighbor of the cart and one from the other. -/
def cartLetters : List (Message Rat) :=
  [(1, .couplingState, ⟨(⟨1, 0, [0, 1, 2], [], [7, 8, 9], []⟩ : CouplingState Rat)⟩),
    (2, .coupledAgentState, ⟨(⟨0, 0, [0, 1, 2], List.replicate 6 4, [1, 2, 3], List.replicate 6 1⟩ :
      AgentState Rat)⟩),
    (1, .coupledMultiplierState, ⟨(⟨0, 0, [0, 1, 2], [], [4, 5, 6], List.replicate 6 0⟩ :
      MultiplierState Rat)⟩)]

theorem cartLetters_in_any_order :
    ((cartLetters.map key).Nodup ∧
      ∀ m ∈ cartLetters, ∃ c', middleCart.prepare.1.answer m = .ok c') ∧
    middleCart.prepare.1.applyIncoming 7 .couplingState ⟨(.empty 7 : CouplingState Rat)⟩ =
        (middleCart.prepare.1, .error (.notANeighbor middleCart.prepare.1.id 7)) ∧
      middleCart.prepare.1.perform (.receive 7 .couplingState ⟨(.empty 7 : CouplingState Rat)⟩) =
        .ok middleCart.prepare.1 ∧
    ∃ c', cartLetters.foldlM answer middleCart.prepare.1 = .ok c' ∧
      cartLetters.reverse.foldlM answer middleCart.prepare.1 = .ok c' ∧
      c'.agent.neighbors.map (fun nb => (nb.couplingState.u, nb.coupledAgentState.u,
        nb.coupledMultiplier.u)) =
        [([7, 8, 9], [0, 0, 0], [4, 5, 6]), ([0, 0, 0], [1, 2, 3], [0, 0, 0])] := by
  have hkeys : (cartLetters.map key).Nodup := by decide
  have hok : ∀ m ∈ cartLetters, (middleCart.prepare.1.answer m).isOk = true := by decide +kernel
  have haccepted : ∀ m ∈ cartLetters, ∃ c', middleCart.prepare.1.answer m = .ok c' := fun m hm =>
    ⟨_, ok_of_isOk middleCart.prepare.1 (hok m hm)⟩
  have hstranger : middleCart.prepare.1.agent.neighbor? 7 = none :=
    Option.isNone_iff_eq_none.mp (by decide +kernel)
  have hrefused : middleCart.prepare.1.applyIncoming 7 .couplingState
      ⟨(.empty 7 : CouplingState Rat)⟩ =
      (middleCart.prepare.1, .error (.notANeighbor middleCart.prepare.1.id 7)) := by
    refine (applyIncoming_eq _ 7 .couplingState _).trans ?_
    rw [hstranger]
  obtain ⟨hlocal, hperm⟩ := receptions_in_any_order middleCart.prepare.1
  obtain ⟨-, hall⟩ := hperm cartLetters cartLetters.reverse (List.reverse_perm _) hkeys
  obtain ⟨c', hforward, hbackward⟩ := hall haccepted
  have hend : (cartLetters.foldlM answer middleCart.prepare.1).toOption.map
      (fun c' => c'.agent.neighbors.map fun nb => (nb.couplingState.u, nb.coupledAgentState.u,
        nb.coupledMultiplier.u)) =
      some [([7, 8, 9], [0, 0, 0], [4, 5, 6]), ([0, 0, 0], [1, 2, 3], [0, 0, 0])] := by
    decide +kernel
  rw [hforward] at hend
  obtain ⟨-, hperform⟩ := (hlocal 7 _ _).1 _ (congrArg Prod.snd hrefused)
  exact ⟨⟨hkeys, haccepted⟩, hrefused, hperform, c', hforward, hbackward, Option.some.inj hend⟩

end Controller

end ConsensusControl
