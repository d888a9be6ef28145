import ConsensusControl.Proofs.Consensus.FirstSample
import ConsensusControl.Proofs.Consensus.Operations

namespace ConsensusControl.Controller

variable {α : Type} [Scalar α] {c c' : Controller α}

/-- The status tells whether there is a layout. -/
def Tells (c : Controller α) : Prop := c.status = .uninitialized ↔ c.layout = none

/-- What a call can do to status and layout. Without a layout only an `unchecked` call brings the
controller into an iteration or to the end of one. -/
inductive Proceeds (unchecked : Prop) (c c' : Controller α) : Prop
  | stays (hstatus : c'.status = c.status) (hlayout : c'.layout = c.layout)
  | readies (hstatus : c'.status = .ready) (hlaid : c'.layout.isSome)
      (hsource : c'.layout = c.layout ∨ c.prepare.2 = .ok () ∧ c' = c.prepare.1)
  | works (hstatus : c'.status ≠ .uninitialized ∧ c'.status ≠ .ready) (hlayout : c'.layout = c.layout)
      (hchecked : unchecked ∨ c.layout.isSome)

variable {unchecked : Prop}

namespace Proceeds

/-- A layout is kept, or it comes from a preparation. -/
theorem source (h : Proceeds unchecked c c') :
    c'.layout = c.layout ∨ c.prepare.2 = .ok () ∧ c' = c.prepare.1 := by
  cases h with
  | stays _ hlayout => exact .inl hlayout
  | readies _ _ hsource => exact hsource
  | works _ hlayout _ => exact .inl hlayout

theorem tells (h : Proceeds unchecked c c') (hc : c.Tells) (hchecked : unchecked → c.layout.isSome) :
    c'.Tells := by
  cases h with
  | stays hstatus hlayout =>
    unfold Tells at hc ⊢
    rwa [hstatus, hlayout]
  | readies hstatus hlaid =>
    unfold Tells
    rw [hstatus]
    exact ⟨fun h => (nomatch h), fun h => by simp [h] at hlaid⟩
  | works hstatus hlayout hguard =>
    have hlaid : c.layout.isSome := hguard.elim hchecked fun h => h
    unfold Tells
    rw [hlayout]
    exact ⟨fun h => (hstatus.1 h).elim, fun h => by simp [h] at hlaid⟩

/-- A call that checks for a layout needs no proviso. -/
theorem tells_of_checked (h : Proceeds False c c') (hc : c.Tells) : c'.Tells :=
  h.tells hc False.elim

end Proceeds

theorem status_updateAgentStates (c : Controller α) :
    c.updateAgentStates.1.status = c.status ∨ c.layout.isSome ∧
      c.updateAgentStates.1.status ≠ .uninitialized ∧ c.updateAgentStates.1.status ≠ .ready := by
  unfold updateAgentStates
  split
  · exact .inl rfl
  next layout hlayout =>
  refine .inr ⟨by simp [hlayout], ?_⟩
  have hstarted : (if c.status = .failed then c else { c with status := .iterating }).status ≠
      .uninitialized ∧ (if c.status = .failed then c else { c with status := .iterating }).status ≠
      .ready := by
    split
    · next hfailed => simp [hfailed]
    · simp
  dsimp only
  split <;> exact hstarted

omit [Scalar α] in
/-- A solve begins ready if there is a layout. -/
theorem beginSolve_cases (c : Controller α) :
    c.beginSolve.layout = c.layout ∧ (c.layout = none ∧ c.beginSolve.status = c.status ∨
      c.layout.isSome ∧ c.beginSolve.status = .ready) := by
  refine ⟨rfl, ?_⟩
  cases hlayout : c.layout with
  | none => exact .inl ⟨rfl, by simp [beginSolve, hlayout]⟩
  | some layout => exact .inr ⟨rfl, by simp [beginSolve, hlayout]⟩

theorem proceeds_beginSolve (c : Controller α) : Proceeds unchecked c c.beginSolve := by
  obtain ⟨hlayout, ⟨-, hstatus⟩ | ⟨hlaid, hstatus⟩⟩ := c.beginSolve_cases
  · exact .stays hstatus hlayout
  · exact .readies hstatus hlaid (.inl hlayout)

theorem proceeds_prepare (c : Controller α) : Proceeds unchecked c c.prepare.1 := by
  obtain ⟨_, heq⟩ | ⟨-, ⟨_, heq⟩ | ⟨layout, -, heq⟩⟩ := c.prepare_cases
  · rw [heq]
    exact .stays rfl rfl
  · rw [heq]
    exact .stays rfl rfl
  · have hsource : c.prepare.2 = .ok () ∧ c.prepare.1 = c.prepare.1 := ⟨congrArg Prod.snd heq, rfl⟩
    have hlaid : c.prepare.1 = c.approximating.laidOut layout := congrArg Prod.fst heq
    refine .readies ?_ ?_ (.inr hsource)
    · rw [hlaid]
      rfl
    · rw [hlaid]
      rfl

theorem proceeds_shiftHorizon (dt : α) (c : Controller α) :
    Proceeds unchecked c (c.shiftHorizon dt).1 := by
  have hbegun : ∀ d : Controller α, d.status = c.status → d.layout = c.layout →
      Proceeds unchecked c d.beginSolve := by
    intro d hd hsame
    obtain ⟨hlayout, ⟨-, hstatus⟩ | ⟨hlaid, hstatus⟩⟩ := d.beginSolve_cases
    · exact .stays (hstatus.trans hd) (hlayout.trans hsame)
    · exact .readies hstatus hlaid (.inl (hlayout.trans hsame))
  obtain ⟨_, heq⟩ | heq | heq := c.shiftHorizon_cases dt
  · rw [heq]
    exact .stays rfl rfl
  · rw [heq]
    exact hbegun _ rfl rfl
  · rw [heq]
    exact hbegun _ rfl rfl

theorem finishIteration_status (c : Controller α) : c.finishIteration.layout = c.layout ∧
    c.finishIteration.status ≠ .uninitialized ∧ c.finishIteration.status ≠ .ready := by
  unfold finishIteration
  dsimp only
  split
  · next hfailed => exact ⟨rfl, by simp [hfailed]⟩
  · refine ⟨rfl, ?_⟩
    dsimp only
    split <;> simp

theorem proceeds_setInitialState {x : Vec α} (h : c.setInitialState x = .ok c') :
    Proceeds unchecked c c' := by
  obtain ⟨-, rfl⟩ := setInitialState_eq_ok h
  exact .stays rfl rfl

/-- What an iteration does, given that there may be no layout. -/
theorem Turn.proceeds (h : Turn c c') : Proceeds True c c' := by
  have hlayout := h.layout
  cases h with
  | solve =>
    rcases c.status_updateAgentStates with hstatus | ⟨-, hstatus⟩
    · exact .stays hstatus hlayout
    · exact .works hstatus hlayout (.inl trivial)
  | couple h =>
    obtain ⟨_, _, _, _, -, -, rfl⟩ := updateCouplingStates_eq_ok h
    exact .stays rfl rfl
  | raise h =>
    obtain ⟨_, _, _, _, -, -, rfl⟩ := updateMultiplierStates_eq_ok h
    exact .stays rfl rfl
  | adapt h =>
    obtain rfl | ⟨_, _, -, -, rfl⟩ := adaptPenalties_eq_ok h
    · exact .stays rfl rfl
    · exact .stays rfl rfl
  | receive sender kind r =>
    obtain ⟨_, heq⟩ := c.applyIncoming_frame sender kind r
    exact .stays (by rw [heq]) (by rw [heq])
  | finish => exact .works c.finishIteration_status.2 hlayout (.inl trivial)
  | fail => exact .works (by simp [markFailed]) rfl (.inl trivial)

/-- Only the calls that end an iteration or give up do not ask for a layout. -/
theorem proceeds_perform {op : Operation α} (h : c.perform op = .ok c') :
    Proceeds (op = .finish ∨ op = .fail) c c' := by
  cases op with
  | solve answer =>
    obtain ⟨_, -, rfl⟩ := map_eq_ok.mp h
    have hlayout := layout_updateAgentStates { c with solver := fun _ _ _ => .ok answer }
    rcases status_updateAgentStates { c with solver := fun _ _ _ => .ok answer } with
      hstatus | ⟨hlaid, hstatus⟩
    · exact .stays hstatus hlayout
    · exact .works hstatus hlayout (.inr hlaid)
  | couple =>
    obtain ⟨_, _, _, _, -, -, rfl⟩ := updateCouplingStates_eq_ok h
    exact .stays rfl rfl
  | raise =>
    obtain ⟨_, _, _, _, -, -, rfl⟩ := updateMultiplierStates_eq_ok h
    exact .stays rfl rfl
  | adapt =>
    obtain rfl | ⟨_, _, -, -, rfl⟩ := adaptPenalties_eq_ok h
    · exact .stays rfl rfl
    · exact .stays rfl rfl
  | receive sender kind record =>
    obtain rfl := Except.ok.inj h
    obtain ⟨_, heq⟩ := c.applyIncoming_frame sender kind record
    exact .stays (by rw [heq]) (by rw [heq])
  | send =>
    obtain rfl := Except.ok.inj h
    exact .stays rfl rfl
  | shift dt =>
    obtain ⟨_, -, rfl⟩ := map_eq_ok.mp h
    exact c.proceeds_shiftHorizon dt
  | begin =>
    obtain rfl := Except.ok.inj h
    exact c.proceeds_beginSolve
  | finish =>
    obtain rfl := Except.ok.inj h
    obtain ⟨hlayout, hstatus⟩ := c.finishIteration_status
    exact .works hstatus hlayout (.inl (.inl rfl))
  | fail =>
    obtain rfl := Except.ok.inj h
    exact .works (by simp [markFailed]) rfl (.inl (.inr rfl))
  | restart x =>
    obtain rfl := Except.ok.inj h
    cases hrestarted : c.setInitialState x with
    | error e => exact .stays rfl rfl
    | ok c' => exact proceeds_setInitialState hrestarted
  | prepare =>
    obtain rfl := Except.ok.inj h
    exact c.proceeds_prepare

/-- What can be made of a new controller by operations and by changes of its agent, where every
operation is carried out under a condition. -/
inductive Called (allowed : Controller α → Operation α → Prop) : Controller α → Prop
  | new (agent : Agent α) (solver : LocalSolver α) (options : Options α) :
      Called allowed (.new agent solver options)
  | perform {c c' : Controller α} {op : Operation α} (hc : Called allowed c) (hallowed : allowed c op)
      (h : c.perform op = .ok c') : Called allowed c'
  | modify {c : Controller α} (hc : Called allowed c) (f : Agent α → Agent α) :
      Called allowed (c.modifyAgent f)

/-- No conditions. -/
def Anytime (_ : Controller α) (_ : Operation α) : Prop := True

/-- A controller without a layout has no iteration to end, and is not given up. -/
def Guarded (c : Controller α) (op : Operation α) : Prop := op = .finish ∨ op = .fail → c.layout.isSome

namespace Called

variable {allowed : Controller α → Operation α → Prop}

theorem tells (h : Called Guarded c) : c.Tells := by
  induction h with
  | new => exact ⟨fun _ => rfl, fun _ => rfl⟩
  | perform _ hguarded hperform ih => exact (proceeds_perform hperform).tells ih hguarded
  | modify => exact ⟨fun _ => rfl, fun _ => rfl⟩

/-- Without any condition, the first two states of the lifecycle tell what they should. -/
theorem first_states (h : Called allowed c) : (c.status = .uninitialized → c.layout = none) ∧
    (c.status = .ready → c.layout.isSome) := by
  induction h with
  | new => exact ⟨fun _ => rfl, fun h => (nomatch h)⟩
  | perform _ _ hperform ih =>
    cases proceeds_perform hperform with
    | stays hstatus hlayout => rwa [hstatus, hlayout]
    | readies hstatus hlaid =>
      rw [hstatus]
      exact ⟨fun h => (nomatch h), fun _ => hlaid⟩
    | works hstatus => exact ⟨fun h => (hstatus.1 h).elim, fun h => (hstatus.2 h).elim⟩
  | modify => exact ⟨fun _ => rfl, fun h => (nomatch h)⟩

/-- A layout comes from a preparation, and the agent has stayed the same since. -/
theorem operable (hle : ∀ a b d : α, a ≤ b → b ≤ d → a ≤ d) (h : Called allowed c)
    (hcouplings : ∀ link ∈ c.agent.links, ∀ f, link.relation.sending = some f →
      f.dynamics.KeepsLength) (hlaid : c.layout.isSome) : c.Operable := by
  induction h with
  | new => cases hlaid
  | @perform c c' op _ _ hperform ih =>
    have hlinks : c'.agent.links = c.agent.links := congrArg Site.links (site_perform hperform)
    rw [hlinks] at hcouplings
    rcases (proceeds_perform hperform).source with hsame | ⟨hok, rfl⟩
    · obtain ⟨d, hd, hoperable⟩ := (ih hcouplings (hsame ▸ hlaid)).perform hle op
      obtain rfl : d = c' := Except.ok.inj (hd.symm.trans hperform)
      exact hoperable
    · exact operable_prepare hcouplings hok
  | modify => cases hlaid

/-- With a layout a local solve comes to its end, whatever the solver answers. -/
theorem exists_solve (hle : ∀ a b d : α, a ≤ b → b ≤ d → a ≤ d) (h : Called allowed c)
    (hcouplings : ∀ nb ∈ c.agent.neighbors, ∀ f, nb.relation.sending = some f →
      f.dynamics.KeepsLength) (hlaid : c.layout.isSome)
    (answer : Except SolveError (LocalSolution α)) : ∃ c', c.perform (.solve answer) = .ok c' := by
  have hlinks : ∀ link ∈ c.agent.links, ∀ f, link.relation.sending = some f →
      f.dynamics.KeepsLength := by
    intro link hlink f hf
    obtain ⟨nb, hnb, rfl⟩ := List.mem_map.mp hlink
    exact hcouplings nb hnb f hf
  obtain ⟨c', hc', -⟩ := (h.operable hle hlinks hlaid).perform hle (.solve answer)
  exact ⟨c', hc'⟩

end Called

/-- Given up, or at the end of an iteration, before it has ever been prepared: such a controller is past
the first state and has no layout, and a local solve breaks off. -/
theorem middleCart_unprepared : Called Anytime middleCart.markFailed ∧
    middleCart.markFailed.status = .failed ∧ middleCart.markFailed.layout = none ∧
    middleCart.markFailed.updateAgentStates.2 = .error .notPrepared ∧
    Called Anytime middleCart.finishIteration ∧ middleCart.finishIteration.status = .iterating ∧
    middleCart.finishIteration.layout = none ∧
    middleCart.finishIteration.updateAgentStates.2 = .error .notPrepared := by
  have hnew : Called Anytime middleCart := .new _ _ _
  have hfailed : middleCart.perform .fail = .ok middleCart.markFailed := rfl
  have hfinished : middleCart.perform .finish = .ok middleCart.finishIteration := rfl
  exact ⟨hnew.perform trivial hfailed, rfl, rfl, rfl, hnew.perform trivial hfinished,
    by decide +kernel, rfl, rfl⟩

end ConsensusControl.Controller
