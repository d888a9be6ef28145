import ConsensusControl.Ensemble.ClosedLoop
import ConsensusControl.Proofs.Pointwise

namespace ConsensusControl.Ensemble

variable {σ α β γ : Type}

/-- What an operation answers, with the ensemble that it leaves behind. -/
def exec (x : Run σ α β) (e : Ensemble σ α) : Except Stop β × Ensemble σ α := (x.run.run e).run

/-- The operation takes `e` to `e'` and answers `b`. -/
def Returns (x : Run σ α β) (e : Ensemble σ α) (b : β) (e' : Ensemble σ α) : Prop :=
  exec x e = (.ok b, e')

@[simp] theorem exec_pure (b : β) (e : Ensemble σ α) : exec (pure b) e = (.ok b, e) := rfl

@[simp] theorem exec_throw (s : Stop) (e : Ensemble σ α) :
    exec (throw s : Run σ α β) e = (.error s, e) := rfl

@[simp] theorem exec_get (e : Ensemble σ α) : exec (get : Run σ α _) e = (.ok e, e) := rfl

@[simp] theorem exec_set (e e' : Ensemble σ α) : exec (set e' : Run σ α PUnit) e = (.ok ⟨⟩, e') := rfl

@[simp] theorem exec_modify (f : Ensemble σ α → Ensemble σ α) (e : Ensemble σ α) :
    exec (modify f : Run σ α PUnit) e = (.ok ⟨⟩, f e) := rfl

@[simp] theorem exec_bind (x : Run σ α β) (f : β → Run σ α γ) (e : Ensemble σ α) :
    exec (x >>= f) e = match exec x e with
      | (.ok b, e') => exec (f b) e'
      | (.error s, e') => (.error s, e') := by
  change (match x.run.run e with | (r, e') => (ExceptT.bindCont f r).run e') = _
  unfold exec
  rcases x.run.run e with ⟨r, e'⟩
  cases r <;> rfl

@[simp] theorem exec_communicated (id : AgentId) (n : Nat) (x : Except CommunicationError β)
    (e : Ensemble σ α) :
    exec (communicated id n x) e =
      (x.mapError fun s => .error (.communication ⟨id, n, .exchange⟩ s), e) := by
  cases x <;> rfl

@[simp] theorem exec_putController (id : AgentId) (c : Controller α) (e : Ensemble σ α) :
    exec (putController id c) e =
      (.ok ⟨⟩, { e with controllers := Table.insert id c e.controllers }) := rfl

theorem Returns.exec_snd {x : Run σ α β} {e e' : Ensemble σ α} {b : β} (h : Returns x e b e') :
    (exec x e).2 = e' :=
  congrArg Prod.snd h

theorem returns_of_isOk {x : Run σ α β} {e : Ensemble σ α} (h : (exec x e).1.isOk = true) :
    ∃ b, Returns x e b (exec x e).2 := by
  unfold Returns
  generalize exec x e = answer at h ⊢
  obtain ⟨r, e'⟩ := answer
  cases r with
  | ok b => exact ⟨b, rfl⟩
  | error s => simp [Except.isOk, Except.toBool] at h

theorem returns_of_any {x : Run σ α β} {e : Ensemble σ α} {p : β → Bool}
    (h : (exec x e).1.toOption.any p = true) : ∃ b, Returns x e b (exec x e).2 ∧ p b = true := by
  cases hr : (exec x e).1 with
  | ok b =>
    rw [hr] at h
    exact ⟨b, Prod.ext hr rfl, h⟩
  | error s => simp [hr, Except.toOption] at h

theorem returns_bind {x : Run σ α β} {f : β → Run σ α γ} {e e' : Ensemble σ α} {c : γ} :
    Returns (x >>= f) e c e' ↔ ∃ b e₁, Returns x e b e₁ ∧ Returns (f b) e₁ c e' := by
  unfold Returns
  rw [exec_bind]
  rcases exec x e with ⟨r, e₁⟩
  cases r with
  | ok b =>
    constructor
    · intro h
      exact ⟨b, e₁, rfl, h⟩
    · intro h
      obtain ⟨_, _, h, hf⟩ := h
      cases h
      exact hf
  | error s => simp

theorem returns_pure {b c : β} {e e' : Ensemble σ α} :
    Returns (pure b) e c e' ↔ b = c ∧ e = e' := by
  simp [Returns]

theorem returns_get {e e₁ e' : Ensemble σ α} :
    Returns (get : Run σ α _) e e₁ e' ↔ e = e₁ ∧ e = e' := by
  simp [Returns]

theorem returns_modify {f : Ensemble σ α → Ensemble σ α} {e e' : Ensemble σ α} {u : PUnit} :
    Returns (modify f : Run σ α PUnit) e u e' ↔ f e = e' := by
  simp [Returns]

theorem returns_set {s e e' : Ensemble σ α} {u : PUnit} :
    Returns (set s : Run σ α PUnit) e u e' ↔ s = e' := by
  simp [Returns]

theorem mapError_eq_ok {ε ε' β : Type} {f : ε → ε'} {x : Except ε β} {b : β} :
    x.mapError f = .ok b ↔ x = .ok b := by
  constructor
  · intro h
    cases x with
    | ok c => exact congrArg _ (Except.ok.inj h)
    | error s => cases h
  · intro h
    rw [h]
    rfl

theorem returns_communicated {id : AgentId} {n : Nat} {x : Except CommunicationError β} {b : β}
    {e e' : Ensemble σ α} : Returns (communicated id n x) e b e' ↔ x = .ok b ∧ e = e' := by
  rw [Returns, exec_communicated, Prod.mk.injEq, mapError_eq_ok]

theorem returns_configured {id : AgentId} {x : Except ConfigError β} {b : β} {e e' : Ensemble σ α} :
    Returns (configured id x) e b e' ↔ x = .ok b ∧ e = e' := by
  cases x <;> simp [configured, Returns]

theorem returns_putController {id : AgentId} {c : Controller α} {e e' : Ensemble σ α} {u : Unit} :
    Returns (putController id c) e u e' ↔
      { e with controllers := Table.insert id c e.controllers } = e' := by
  simp [Returns]

theorem returns_get_bind {f : Ensemble σ α → Run σ α β} {e e' : Ensemble σ α} {b : β} :
    Returns (get >>= f) e b e' ↔ Returns (f e) e b e' := by
  rw [Returns, exec_bind, exec_get]
  rfl

theorem returns_modify_bind {g : Ensemble σ α → Ensemble σ α} {f : PUnit → Run σ α β}
    {e e' : Ensemble σ α} {b : β} :
    Returns (modify g >>= f) e b e' ↔ Returns (f ⟨⟩) (g e) b e' := by
  rw [Returns, exec_bind, exec_modify]
  rfl

/-- An operation that only answers. -/
theorem returns_answer_bind {ε : Type} {x : Run σ α γ} {answer : Except ε γ} {f : γ → Run σ α β}
    {e e' : Ensemble σ α} {b : β} (hx : ∀ c e₁, Returns x e c e₁ ↔ answer = .ok c ∧ e = e₁) :
    Returns (x >>= f) e b e' ↔ ∃ c, answer = .ok c ∧ Returns (f c) e b e' := by
  rw [returns_bind]
  constructor
  · intro h
    obtain ⟨c, e₁, hc, h⟩ := h
    obtain ⟨hanswer, rfl⟩ := (hx c e₁).mp hc
    exact ⟨c, hanswer, h⟩
  · intro h
    obtain ⟨c, hanswer, h⟩ := h
    exact ⟨c, e, (hx c e).mpr ⟨hanswer, rfl⟩, h⟩

theorem returns_configured_bind {id : AgentId} {x : Except ConfigError γ} {f : γ → Run σ α β}
    {e e' : Ensemble σ α} {b : β} :
    Returns (configured id x >>= f) e b e' ↔ ∃ c, x = .ok c ∧ Returns (f c) e b e' :=
  returns_answer_bind fun _ _ => returns_configured

theorem returns_communicated_bind {id : AgentId} {n : Nat} {x : Except CommunicationError γ}
    {f : γ → Run σ α β} {e e' : Ensemble σ α} {b : β} :
    Returns (communicated id n x >>= f) e b e' ↔ ∃ c, x = .ok c ∧ Returns (f c) e b e' :=
  returns_answer_bind fun _ _ => returns_communicated

theorem returns_send [Transport σ α] {n : Nat} {env : Envelope α} {e e' : Ensemble σ α} {u : Unit} :
    Returns (send n env) e u e' ↔
      ∃ s, Transport.send env e.transport = .ok s ∧ { e with transport := s } = e' := by
  rw [send, returns_get_bind, returns_communicated_bind]
  simp only [returns_modify]

/-- Only a record that comes is an answer. -/
theorem returns_receive [Transport σ α] {n : Nat} {w : Awaited} {env : Envelope α}
    {e e' : Ensemble σ α} : Returns (receive n w) e env e' ↔ ∃ record s,
      Transport.receive w.receiver ⟨w.sender, e.round, w.kind⟩ e.transport = .ok (some record, s) ∧
      ⟨w.sender, w.receiver, e.round, w.kind, record⟩ = env ∧ { e with transport := s } = e' := by
  rw [receive, returns_get_bind, returns_communicated_bind]
  constructor
  · intro h
    obtain ⟨⟨record, s⟩, hreceive, h⟩ := h
    obtain ⟨_, e₁, hset, hanswer⟩ := returns_bind.mp h
    obtain rfl := returns_set.mp hset
    cases record with
    | none => cases (returns_communicated.mp hanswer).1
    | some record => exact ⟨record, s, hreceive, returns_pure.mp hanswer⟩
  · intro h
    obtain ⟨record, s, hreceive, hanswer⟩ := h
    exact ⟨_, hreceive, returns_bind.mpr ⟨⟨⟩, _, returns_set.mpr rfl, returns_pure.mpr hanswer⟩⟩

/-- Nobody is there, or whoever is there accepts the record. -/
theorem returns_deliver {n : Nat} {env : Envelope α} {e e' : Ensemble σ α} {u : Unit} :
    Returns (deliver n env) e u e' ↔ (e.controllers.lookup env.receiver = none ∧ e = e') ∨
      ∃ c c', e.controllers.lookup env.receiver = some c ∧
        c.applyIncoming env.sender env.kind env.record = (c', .ok ()) ∧
        { e with controllers := Table.insert env.receiver c' e.controllers } = e' := by
  rw [deliver, returns_get_bind]
  rcases hc : e.controllers.lookup env.receiver with _ | c
  · simp [returns_pure]
  · rcases happly : c.applyIncoming env.sender env.kind env.record with ⟨c', answer⟩
    simp [happly, returns_bind, returns_putController, returns_communicated]

theorem returns_forM_cons {ι : Type} {f : ι → Run σ α PUnit} {i : ι} {l : List ι}
    {e e' : Ensemble σ α} {u : PUnit} :
    Returns ((i :: l).forM f) e u e' ↔ ∃ e₁, Returns (f i) e ⟨⟩ e₁ ∧ Returns (l.forM f) e₁ u e' := by
  change Returns (f i >>= fun _ => l.forM f) e u e' ↔ _
  rw [returns_bind]
  constructor
  · intro h
    obtain ⟨_, e₁, h, hl⟩ := h
    exact ⟨e₁, h, hl⟩
  · intro h
    obtain ⟨e₁, h, hl⟩ := h
    exact ⟨_, e₁, h, hl⟩

theorem returns_mapM_nil {ι : Type} {f : ι → Run σ α β} {bs : List β} {e e' : Ensemble σ α} :
    Returns (([] : List ι).mapM f) e bs e' ↔ [] = bs ∧ e = e' := by
  rw [List.mapM_nil, returns_pure]

theorem returns_mapM_cons {ι : Type} {f : ι → Run σ α β} {i : ι} {l : List ι} {bs : List β}
    {e e' : Ensemble σ α} :
    Returns ((i :: l).mapM f) e bs e' ↔ ∃ b e₁ rest, Returns (f i) e b e₁ ∧
      Returns (l.mapM f) e₁ rest e' ∧ b :: rest = bs := by
  rw [List.mapM_cons, returns_bind]
  constructor
  · intro h
    obtain ⟨b, e₁, h, hl⟩ := h
    obtain ⟨rest, e₂, hrest, hpure⟩ := returns_bind.mp hl
    obtain ⟨rfl, rfl⟩ := returns_pure.mp hpure
    exact ⟨b, e₁, rest, h, hrest, rfl⟩
  · intro h
    obtain ⟨b, e₁, rest, h, hrest, rfl⟩ := h
    exact ⟨b, e₁, h, returns_bind.mpr ⟨rest, e', hrest, returns_pure.mpr ⟨rfl, rfl⟩⟩⟩

/-- The answer of one agent, which ends the run if it broke off. -/
def answerOf (r : AgentId × Controller α × Checked β) : Run σ α (AgentId × β) :=
  let (id, _, answer) := r
  match answer with
  | .ok b => pure (id, b)
  | .error _ => throw (.error (.worker s!"agent {id} broke off"))

theorem exec_mapM_answerOf (results : List (AgentId × Controller α × Checked β))
    (e : Ensemble σ α) :
    (∃ answers, exec (results.mapM answerOf) e = (.ok answers, e) ∧
        ∀ r ∈ results, ∃ b, r.2.2 = .ok b) ∨
      ∃ s, exec (results.mapM answerOf) e = (.error s, e) ∧
        ∃ r ∈ results, ∃ fault, r.2.2 = .error fault := by
  induction results with
  | nil => exact .inl ⟨[], rfl, by simp⟩
  | cons r results ih =>
    obtain ⟨id, c, answer⟩ := r
    rw [List.mapM_cons, exec_bind]
    cases answer with
    | error fault => exact .inr ⟨_, rfl, _, List.mem_cons_self, fault, rfl⟩
    | ok b =>
      simp only [answerOf, exec_pure, exec_bind]
      rcases ih with ⟨answers, hexec, hall⟩ | ⟨s, hexec, r, hr, hfault⟩
      · rw [hexec]
        refine .inl ⟨(id, b) :: answers, rfl, fun r hr => ?_⟩
        rcases List.mem_cons.mp hr with rfl | hr
        · exact ⟨b, rfl⟩
        · exact hall r hr
      · rw [hexec]
        exact .inr ⟨s, rfl, r, List.mem_cons_of_mem _ hr, hfault⟩

theorem inParallel_eq (work : Controller α → Controller α × Checked β) :
    (inParallel work : Run σ α _) = (do
      let e ← get
      let answers ← (e.controllers.map fun p => (p.1, work p.2)).mapM answerOf
      modify fun e' => { e' with
        controllers := (e.controllers.map fun p => (p.1, work p.2)).map fun r => (r.1, r.2.1) }
      return answers) :=
  rfl

/-- The ensemble with the work of all controllers done. -/
def worked (work : Controller α → Controller α × Checked β) (e : Ensemble σ α) : Ensemble σ α :=
  { e with controllers := e.controllers.map fun p => (p.1, (work p.2).1) }

/-- Work in two halves is done one half after the other. -/
theorem worked_worked {γ δ : Type} {work : Controller α → Controller α × Checked β}
    {first : Controller α → Controller α × Checked γ}
    {second : Controller α → Controller α × Checked δ} {e : Ensemble σ α}
    (h : ∀ p ∈ e.controllers, (second (first p.2).1).1 = (work p.2).1) :
    (e.worked first).worked second = e.worked work := by
  have hcontrollers : (e.controllers.map fun p => (p.1, (first p.2).1)).map
      (fun p => (p.1, (second p.2).1)) = e.controllers.map fun p => (p.1, (work p.2).1) := by
    rw [List.map_map]
    refine List.map_congr_left fun p hp => ?_
    rw [Function.comp_apply, h p hp]
  unfold worked
  rw [hcontrollers]

/-- Work that every controller does for itself: all do it, or one breaks off and nothing changes. -/
theorem exec_inParallel (work : Controller α → Controller α × Checked β) (e : Ensemble σ α) :
    (∃ answers, exec (inParallel work) e = (.ok answers, e.worked work) ∧
      ∀ p ∈ e.controllers, ∃ b, (work p.2).2 = .ok b) ∨
    ∃ s, exec (inParallel work) e = (.error s, e) ∧
      ∃ p ∈ e.controllers, ∃ fault, (work p.2).2 = .error fault := by
  rw [inParallel_eq]
  simp only [exec_bind, exec_get]
  rcases exec_mapM_answerOf (e.controllers.map fun p => (p.1, work p.2)) e with
    ⟨answers, hexec, hall⟩ | ⟨s, hexec, r, hr, hfault⟩
  · rw [hexec]
    refine .inl ⟨answers, ?_, fun p hp => hall _ (List.mem_map_of_mem hp)⟩
    simp only [exec_modify, exec_pure, List.map_map, Function.comp_def, worked]
  · rw [hexec]
    obtain ⟨p, hp, rfl⟩ := List.mem_map.mp hr
    exact .inr ⟨s, rfl, p, hp, hfault⟩

theorem returns_inParallel {work : Controller α → Controller α × Checked β} {e e' : Ensemble σ α}
    {answers : List (AgentId × β)} (h : Returns (inParallel work) e answers e') :
    e' = e.worked work ∧ ∀ p ∈ e.controllers, ∃ b, (work p.2).2 = .ok b := by
  unfold Returns at h
  rcases exec_inParallel work e with ⟨answers', hexec, hall⟩ | ⟨s, hexec, -⟩
  · rw [hexec] at h
    exact ⟨(Prod.mk.inj h).2.symm, hall⟩
  · rw [hexec] at h
    simp at h

theorem forall₂_answers {results : List (AgentId × Controller α × Checked β)}
    {answers : List (AgentId × β)} {e e' : Ensemble σ α}
    (h : Returns (results.mapM answerOf) e answers e') :
    List.Forall₂ (fun r a => a.1 = r.1 ∧ r.2.2 = .ok a.2) results answers := by
  induction results generalizing answers e with
  | nil =>
    obtain ⟨rfl, -⟩ := returns_mapM_nil.mp h
    exact .nil
  | cons r results ih =>
    obtain ⟨id, c, answer⟩ := r
    obtain ⟨a, e₁, rest, hanswer, hrest, rfl⟩ := returns_mapM_cons.mp h
    refine .cons ?_ (ih hrest)
    cases answer with
    | error fault => simp [answerOf, Returns] at hanswer
    | ok b =>
      obtain ⟨rfl, -⟩ := returns_pure.mp hanswer
      exact ⟨rfl, rfl⟩

/-- All controllers answer, one after the other. -/
theorem answers_inParallel {work : Controller α → Controller α × Checked β} {e e' : Ensemble σ α}
    {answers : List (AgentId × β)} (h : Returns (inParallel work) e answers e') :
    List.Forall₂ (fun p a => a.1 = p.1 ∧ (work p.2).2 = .ok a.2) e.controllers answers := by
  rw [inParallel_eq] at h
  replace h := returns_get_bind.mp h
  obtain ⟨answers', e₁, hanswers, h⟩ := returns_bind.mp h
  replace h := returns_modify_bind.mp h
  obtain ⟨rfl, -⟩ := returns_pure.mp h
  exact List.forall₂_map_left_iff.mp (forall₂_answers hanswers)

/-- Nobody breaks off if all work succeeds. -/
theorem returns_inParallel_of_ok {work : Controller α → Controller α × Checked β} {e : Ensemble σ α}
    (h : ∀ p ∈ e.controllers, ∃ b, (work p.2).2 = .ok b) :
    ∃ answers, Returns (inParallel work) e answers (e.worked work) := by
  rcases exec_inParallel work e with ⟨answers, hexec, -⟩ | ⟨s, -, p, hp, fault, hfault⟩
  · exact ⟨answers, hexec⟩
  · obtain ⟨b, hb⟩ := h p hp
    rw [hb] at hfault
    cases hfault

/-- From an ensemble with `P` the operation returns to one with `Q`, or stops at one with `E`. -/
def Triple (P : Ensemble σ α → Prop) (x : Run σ α β) (Q : β → Ensemble σ α → Prop)
    (E : Ensemble σ α → Prop) : Prop :=
  ∀ e, P e → match exec x e with
    | (.ok b, e') => Q b e'
    | (.error _, e') => E e'

/-- What holds before the operation holds after it, however it ends. -/
def Keeps (I : Ensemble σ α → Prop) (x : Run σ α β) : Prop := Triple I x (fun _ => I) I

section Rules

variable {P I E : Ensemble σ α → Prop} {Q : β → Ensemble σ α → Prop}

theorem triple_iff {x : Run σ α β} :
    Triple P x Q E ↔ ∀ e r e', P e → exec x e = (r, e') →
      (∀ b, r = .ok b → Q b e') ∧ (∀ s, r = .error s → E e') := by
  unfold Triple
  constructor
  · intro h e r e' hp hx
    have hpost := h e hp
    rw [hx] at hpost
    cases r with
    | ok b => simpa using hpost
    | error s => simpa using hpost
  · intro h e hp
    rcases hx : exec x e with ⟨r, e'⟩
    have hpost := h e r e' hp hx
    cases r with
    | ok b => exact hpost.1 b rfl
    | error s => exact hpost.2 s rfl

theorem Triple.of_returns {x : Run σ α β} (hx : Triple P x Q E) {e e' : Ensemble σ α} {b : β}
    (hp : P e) (h : Returns x e b e') : Q b e' :=
  (triple_iff.mp hx e _ e' hp h).1 b rfl

/-- What holds after the operation however it ends. -/
theorem Triple.exec {x : Run σ α β} (hx : Triple P x (fun _ => I) I) {e : Ensemble σ α} (h : P e) :
    I (Ensemble.exec x e).2 := by
  have hpost := hx e h
  rcases hxe : Ensemble.exec x e with ⟨r, e'⟩
  rw [hxe] at hpost
  cases r <;> exact hpost

theorem Keeps.exec {x : Run σ α β} (hx : Keeps I x) {e : Ensemble σ α} (h : I e) :
    I (Ensemble.exec x e).2 :=
  Triple.exec hx h

theorem keeps_of_exec {x : Run σ α β} (h : ∀ e, I e → I (Ensemble.exec x e).2) : Keeps I x := by
  refine triple_iff.mpr fun e r e' hi hx => ?_
  have hpost := h e hi
  rw [hx] at hpost
  exact ⟨fun _ _ => hpost, fun _ _ => hpost⟩

theorem Returns.triple {x : Run σ α β} {e e' : Ensemble σ α} {b : β} (h : Returns x e b e')
    (hQ : Q b e') : Triple (· = e) x Q E := by
  intro e₀ heq
  rw [heq, show exec x e = _ from h]
  exact hQ

/-- An operation on a known ensemble returns, or leaves what it leaves. -/
theorem triple_returns {x : Run σ α β} {e : Ensemble σ α} (hE : E (Ensemble.exec x e).2) :
    Triple (· = e) x (Returns x e) E := by
  refine triple_iff.mpr fun e₀ r e' heq hx => ?_
  obtain rfl := heq
  rw [hx] at hE
  refine ⟨fun b hb => ?_, fun s _ => hE⟩
  rw [Returns, hx, hb]

theorem Triple.weaken {x : Run σ α β} {P' E' : Ensemble σ α → Prop}
    {Q' : β → Ensemble σ α → Prop} (hx : Triple P x Q E) (hP : ∀ e, P' e → P e)
    (hQ : ∀ b e, Q b e → Q' b e) (hE : ∀ e, E e → E' e) : Triple P' x Q' E' := by
  rw [triple_iff] at hx ⊢
  intro e r e' hp h
  obtain ⟨hok, herror⟩ := hx e r e' (hP e hp) h
  exact ⟨fun b hb => hQ b e' (hok b hb), fun s hs => hE e' (herror s hs)⟩

/-- What is known before the operation may be relied on as a fact. -/
theorem triple_of_each {x : Run σ α β} (hx : ∀ e, P e → Triple (· = e) x Q E) : Triple P x Q E :=
  fun e hp => hx e hp e rfl

theorem triple_pure {b : β} (h : ∀ e, P e → Q b e) : Triple P (pure b) Q E :=
  fun e hp => h e hp

theorem triple_throw {s : Stop} (h : ∀ e, P e → E e) : Triple P (throw s) Q E := fun e hp => h e hp

theorem triple_modify {f : Ensemble σ α → Ensemble σ α} {Q : PUnit → Ensemble σ α → Prop}
    (h : ∀ e, P e → Q ⟨⟩ (f e)) : Triple P (modify f : Run σ α PUnit) Q E := fun e hp => h e hp

theorem triple_set {s : Ensemble σ α} {Q : PUnit → Ensemble σ α → Prop} (h : ∀ e, P e → Q ⟨⟩ s) :
    Triple P (set s : Run σ α PUnit) Q E := fun e hp => h e hp

theorem triple_bind {x : Run σ α β} {f : β → Run σ α γ} {R : γ → Ensemble σ α → Prop}
    (hx : Triple P x Q E) (hf : ∀ b, Triple (Q b) (f b) R E) : Triple P (x >>= f) R E := by
  intro e hp
  have hfirst := hx e hp
  rw [exec_bind]
  rcases hxe : exec x e with ⟨r, e₁⟩
  rw [hxe] at hfirst
  cases r with
  | ok b => exact hf b e₁ hfirst
  | error s => exact hfirst

/-- What follows a look at the ensemble may rely on what was seen. -/
theorem triple_get_bind {f : Ensemble σ α → Run σ α β}
    (hf : ∀ e, P e → Triple (· = e) (f e) Q E) : Triple P (get >>= f) Q E := by
  intro e hp
  have hpost := hf e hp e rfl
  simpa using hpost

theorem triple_putController {id : AgentId} {c : Controller α} {Q : Unit → Ensemble σ α → Prop}
    (h : ∀ e, P e → Q ⟨⟩ { e with controllers := Table.insert id c e.controllers }) :
    Triple P (putController id c) Q E := fun e hp => h e hp

theorem triple_promised {x : Checked β} (h : ∀ e, P e → ∀ b, x = .ok b → Q b e)
    (hE : ∀ e, P e → E e) : Triple P (promised x) Q E := by
  intro e hp
  cases x with
  | ok b => exact h e hp b rfl
  | error s => exact hE e hp

theorem triple_configured {id : AgentId} {x : Except ConfigError β}
    (h : ∀ e, P e → ∀ b, x = .ok b → Q b e) (hE : ∀ e, P e → E e) :
    Triple P (configured id x) Q E := by
  intro e hp
  cases x with
  | ok b => exact h e hp b rfl
  | error s => exact hE e hp

theorem triple_communicated {id : AgentId} {n : Nat} {x : Except CommunicationError β}
    (h : ∀ e, P e → ∀ b, x = .ok b → Q b e) (hE : ∀ e, P e → E e) :
    Triple P (communicated id n x) Q E := by
  intro e hp
  cases x with
  | ok b => exact h e hp b rfl
  | error s => exact hE e hp

theorem triple_forM {ι : Type} {f : ι → Run σ α PUnit} {l : List ι}
    (hf : ∀ i ∈ l, Triple I (f i) (fun _ => I) E) : Triple I (l.forM f) (fun _ => I) E := by
  induction l with
  | nil => exact triple_pure fun _ h => h
  | cons i l ih =>
    change Triple I (f i >>= fun _ => l.forM f) _ E
    exact triple_bind (hf i (by simp)) fun _ => ih fun j hj => hf j (by simp [hj])

/-- An invariant that speaks of the elements that are still to come. -/
theorem triple_forM_rest {ι : Type} {f : ι → Run σ α PUnit} {J : List ι → Ensemble σ α → Prop}
    (hf : ∀ i rest, Triple (J (i :: rest)) (f i) (fun _ => J rest) E) (l : List ι) :
    Triple (J l) (l.forM f) (fun _ => J []) E := by
  induction l with
  | nil => exact triple_pure fun _ h => h
  | cons i l ih => exact triple_bind (hf i l) fun _ => ih

theorem triple_mapM {ι : Type} {f : ι → Run σ α β} {l : List ι}
    (hf : ∀ i ∈ l, Triple I (f i) (fun _ => I) E) : Triple I (l.mapM f) (fun _ => I) E := by
  induction l with
  | nil => exact triple_pure fun _ h => h
  | cons i l ih =>
    rw [List.mapM_cons]
    refine triple_bind (hf i (by simp)) fun b => ?_
    exact triple_bind (ih fun j hj => hf j (by simp [hj])) fun _ => triple_pure fun _ h => h

theorem triple_send [Transport σ α] {n : Nat} {env : Envelope α}
    (h : ∀ e s, I e → Transport.send env e.transport = .ok s → I { e with transport := s }) :
    Keeps I (send n env) := by
  unfold send
  refine triple_get_bind fun e hI => ?_
  refine triple_bind (Q := fun s e' => e' = e ∧ Transport.send env e.transport = .ok s) ?_ fun s => ?_
  · exact triple_communicated (fun _ he s hs => ⟨he, hs⟩) fun _ he => he ▸ hI
  · refine triple_modify fun _ heq => ?_
    obtain ⟨rfl, hs⟩ := heq
    exact h _ s hI hs

/-- A record that does not come is an error, but the transport has been asked for it. -/
theorem triple_receive [Transport σ α] {n : Nat} {w : Awaited}
    (h : ∀ e record s, I e →
      Transport.receive w.receiver ⟨w.sender, e.round, w.kind⟩ e.transport = .ok (record, s) →
      I { e with transport := s }) : Keeps I (receive n w) := by
  unfold receive
  refine triple_get_bind fun e hI => ?_
  refine triple_bind (Q := fun answer e' => e' = e ∧ Transport.receive w.receiver
    ⟨w.sender, e.round, w.kind⟩ e.transport = .ok answer) ?_ fun answer => ?_
  · exact triple_communicated (fun _ he s hs => ⟨he, hs⟩) fun _ he => he ▸ hI
  · obtain ⟨record, s⟩ := answer
    refine triple_bind (Q := fun _ => I) (triple_set fun _ heq => ?_) fun _ => ?_
    · obtain ⟨rfl, hs⟩ := heq
      exact h _ record s hI hs
    · split
      · exact triple_pure fun _ h => h
      · exact triple_communicated (fun _ h _ _ => h) fun _ h => h

/-- The receiver is put back whether or not it accepts the record. -/
theorem triple_deliver {n : Nat} {env : Envelope α}
    (h : ∀ e c, I e → e.controllers.lookup env.receiver = some c →
      I { e with controllers :=
        Table.insert env.receiver (c.applyIncoming env.sender env.kind env.record).1 e.controllers }) :
    Keeps I (deliver n env) := by
  unfold deliver
  refine triple_get_bind fun e hI => ?_
  split
  · next c hc =>
    refine triple_bind (Q := fun _ => I) (triple_putController fun _ heq => ?_) fun _ => ?_
    · obtain rfl := heq
      exact h _ c hI hc
    · exact triple_communicated (fun _ h _ _ => h) fun _ h => h
  · exact triple_pure fun _ he => he ▸ hI

end Rules

end ConsensusControl.Ensemble
