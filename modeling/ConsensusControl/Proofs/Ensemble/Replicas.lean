import ConsensusControl.Ensemble.Solve
import ConsensusControl.Proofs.Consensus.OwnWork
import ConsensusControl.Proofs.Ensemble.Exchange

namespace ConsensusControl

variable {α : Type}

namespace Agent

variable {R : Neighbor α → Neighbor α → Prop} {a a' : Agent α} {id : AgentId}

/-- The neighbors with an id, in lists that are related neighbor by neighbor. -/
theorem neighbor?_rel (hid : ∀ nb nb', R nb nb' → nb'.id = nb.id)
    (h : List.Forall₂ R a.neighbors a'.neighbors) : Option.Rel R (a.neighbor? id) (a'.neighbor? id) := by
  unfold neighbor?
  generalize a.neighbors = nbs at h ⊢
  generalize a'.neighbors = nbs' at h ⊢
  induction h with
  | nil => exact .none
  | @cons nb nb' _ _ hR _ ih =>
    by_cases hk : nb.id = id
    · simpa [hk, hid nb nb' hR] using hR
    · simpa [hk, hid nb nb' hR] using ih

theorem neighbor?_forward (hid : ∀ nb nb', R nb nb' → nb'.id = nb.id)
    (h : List.Forall₂ R a.neighbors a'.neighbors) {nb : Neighbor α} (hnb : a.neighbor? id = some nb) :
    ∃ nb', a'.neighbor? id = some nb' ∧ R nb nb' := by
  have hrel : Option.Rel R (a.neighbor? id) (a'.neighbor? id) := neighbor?_rel hid h
  rw [hnb] at hrel
  generalize a'.neighbor? id = found at hrel
  cases hrel with
  | some hR => exact ⟨_, rfl, hR⟩

theorem neighbor?_back (hid : ∀ nb nb', R nb nb' → nb'.id = nb.id)
    (h : List.Forall₂ R a.neighbors a'.neighbors) {nb' : Neighbor α}
    (hnb' : a'.neighbor? id = some nb') : ∃ nb, a.neighbor? id = some nb ∧ R nb nb' := by
  have hrel : Option.Rel R (a.neighbor? id) (a'.neighbor? id) := neighbor?_rel hid h
  rw [hnb'] at hrel
  generalize a.neighbor? id = found at hrel
  cases hrel with
  | some hR => exact ⟨_, rfl, hR⟩

end Agent

/-- For any two neighbors, `P` holds of one agent with its entry for the other, and of the other with its
entry for the one. Whoever has a neighbor is one of its neighbors. -/
def ForPairs (t : Table (Controller α))
    (P : Controller α → Neighbor α → Controller α → Neighbor α → Prop) : Prop :=
  ∀ i j c nb, t.lookup i = some c → c.agent.neighbor? j = some nb →
    ∃ d back, t.lookup j = some d ∧ d.agent.neighbor? i = some back ∧ P c nb d back

/-- The last record of this kind that came from a neighbor is the one that it has. -/
def Fresh (kind : RecordKind) (t : Table (Controller α)) : Prop :=
  ForPairs t fun _ nb d back => nb.stored kind = d.agent.recordOf back kind

/-- Both controllers have the same neighbors, each related by `Q` to what it was. -/
def Controller.Carries (Q : Controller α → Neighbor α → Controller α → Neighbor α → Prop)
    (c c' : Controller α) : Prop :=
  List.Forall₂ (fun nb nb' => nb'.id = nb.id ∧ Q c nb c' nb') c.agent.neighbors c'.agent.neighbors

theorem ForPairs.transfer {t t' : Table (Controller α)}
    {P P' Q : Controller α → Neighbor α → Controller α → Neighbor α → Prop} (h : ForPairs t P)
    (ht : Table.Rel (fun _ c c' => c.Carries Q c') t t')
    (hP : ∀ c nb d back c' nb' d' back', P c nb d back → Q c nb c' nb' → Q d back d' back' →
      P' c' nb' d' back') : ForPairs t' P' := by
  intro i j c' nb' hc' hnb'
  obtain ⟨c, hc, hcarries⟩ := ht.back hc'
  obtain ⟨nb, hnb, -, hq⟩ := Agent.neighbor?_back (fun _ _ h => h.1) hcarries hnb'
  obtain ⟨d, back, hd, hback, hp⟩ := h i j c nb hc hnb
  obtain ⟨d', hd', hcarries'⟩ := ht.related j d hd
  obtain ⟨back', hback', -, hq'⟩ := Agent.neighbor?_forward (fun _ _ h => h.1) hcarries' hback
  exact ⟨d', back', hd', hback', hP c nb d back c' nb' d' back' hp hq hq'⟩

theorem ForPairs.imp {t : Table (Controller α)}
    {P P' : Controller α → Neighbor α → Controller α → Neighbor α → Prop} (h : ForPairs t P)
    (hP : ∀ c nb d back, P c nb d back → P' c nb d back) : ForPairs t P' := by
  intro i j c nb hc hnb
  obtain ⟨d, back, hd, hback, hp⟩ := h i j c nb hc hnb
  exact ⟨d, back, hd, hback, hP c nb d back hp⟩

theorem ForPairs.at_pair {t : Table (Controller α)}
    {P : Controller α → Neighbor α → Controller α → Neighbor α → Prop} (h : ForPairs t P)
    {i j : AgentId} {c d : Controller α} {nb back : Neighbor α} (hc : t.lookup i = some c)
    (hnb : c.agent.neighbor? j = some nb) (hd : t.lookup j = some d)
    (hback : d.agent.neighbor? i = some back) : P c nb d back := by
  obtain ⟨d', back', hd', hback', hp⟩ := h i j c nb hc hnb
  obtain rfl : d' = d := Option.some.inj (hd'.symm.trans hd)
  obtain rfl : back' = back := Option.some.inj (hback'.symm.trans hback)
  exact hp

theorem ForPairs.and {t : Table (Controller α)}
    {P P' : Controller α → Neighbor α → Controller α → Neighbor α → Prop} (h : ForPairs t P)
    (h' : ForPairs t P') : ForPairs t fun c nb d back => P c nb d back ∧ P' c nb d back := by
  intro i j c nb hc hnb
  obtain ⟨d, back, hd, hback, hp⟩ := h i j c nb hc hnb
  exact ⟨d, back, hd, hback, hp, h'.at_pair hc hnb hd hback⟩

namespace Neighbor

theorem stored_refresh_mem {phase : ExchangePhase} {kind : RecordKind} (h : kind ∈ phase.kinds)
    (a : Agent α) (nb back : Neighbor α) :
    (nb.refresh phase.kinds a back).stored kind = a.recordOf back kind := by
  cases phase <;> cases kind <;>
    first | rfl | simp [ExchangePhase.kinds] at h

theorem stored_refresh_not_mem {phase : ExchangePhase} {kind : RecordKind}
    (h : kind ∉ phase.kinds) (a : Agent α) (nb back : Neighbor α) :
    (nb.refresh phase.kinds a back).stored kind = nb.stored kind := by
  cases phase <;> cases kind <;> simp only [ExchangePhase.kinds, RecordKind.all] at h ⊢ <;>
    first | (simp at h; done) | rfl

theorem recordOf_keep (a : Agent α) (nb : Neighbor α) (k : RecordKind) (r : Record k.family α)
    (kind : RecordKind) : a.recordOf (nb.keep k r) kind = a.recordOf nb kind := by
  cases kind <;> cases k <;> rfl

theorem recordOf_refresh (kinds : List RecordKind) (a a' : Agent α) (nb back : Neighbor α)
    (kind : RecordKind) : a'.recordOf (nb.refresh kinds a back) kind = a'.recordOf nb kind := by
  unfold refresh
  induction kinds generalizing nb with
  | nil => rfl
  | cons k kinds ih => rw [List.foldl_cons, ih, recordOf_keep]

theorem id_refresh (kinds : List RecordKind) (a : Agent α) (nb back : Neighbor α) :
    (nb.refresh kinds a back).id = nb.id := by
  unfold refresh
  induction kinds generalizing nb with
  | nil => rfl
  | cons k kinds ih => rw [List.foldl_cons, ih, id_keep]

end Neighbor

namespace Ensemble

variable {phase : ExchangePhase} {t t' : Table (Controller α)}

theorem Took.id {id : AgentId} {c : Controller α} {nb nb' : Neighbor α}
    (h : Took phase t id c nb nb') : nb'.id = nb.id := by
  obtain ⟨_, _, -, -, -, rfl⟩ := h
  exact Neighbor.id_refresh phase.kinds _ _ _

/-- Two neighbors after an exchange, with what they were before it. -/
theorem forPairs_refreshed {P : Controller α → Neighbor α → Controller α → Neighbor α → Prop}
    (h : Table.Rel (Refreshed phase t) t t')
    (hP : ∀ i j c nb d back back' c' d', t.lookup i = some c → c.agent.neighbor? j = some nb →
      t.lookup j = some d → d.agent.neighbor? i = some back →
      Refreshed phase t i c c' → Refreshed phase t j d d' →
      (∀ kind ∈ phase.kinds, nb.Accepts c.options.horizonSteps c.agent.nx c.agent.nu kind
        (d.agent.recordOf back kind)) → back' = back.refresh phase.kinds c.agent nb →
      P c' (nb.refresh phase.kinds d.agent back) d' back') : ForPairs t' P := by
  intro i j c' nb' hc' hnb'
  obtain ⟨c, hc, hR⟩ := h.back hc'
  obtain ⟨nb, hnb, d, back, hd, hback, haccepts, rfl⟩ :=
    Agent.neighbor?_back (fun _ _ => Took.id) hR.neighbors hnb'
  obtain ⟨hnbmem, rfl⟩ := Agent.mem_of_neighbor? hnb
  obtain ⟨hbackmem, rfl⟩ := Agent.mem_of_neighbor? hback
  obtain ⟨d', hd', hR'⟩ := h.related nb.id d hd
  obtain ⟨back', hback', c₂, nb₂, hc₂, hnb₂, -, hrefresh⟩ :=
    Agent.neighbor?_forward (fun _ _ => Took.id) hR'.neighbors hback
  obtain rfl : c₂ = c := Option.some.inj (hc₂.symm.trans hc)
  obtain rfl : nb₂ = nb := Option.some.inj (hnb₂.symm.trans hnb)
  exact ⟨d', back', hd', hback', hP _ _ c₂ nb₂ d back back' c' d' hc hnb hd hback hR hR' haccepts
    hrefresh⟩

theorem Refreshed.recordOf {id : AgentId} {c c' : Controller α} (h : Refreshed phase t id c c')
    (nb : Neighbor α) (kind : RecordKind) : c'.agent.recordOf nb kind = c.agent.recordOf nb kind := by
  rw [h.rest]
  cases kind <;> rfl

/-- An exchange makes its own kinds fresh and leaves the others so. -/
theorem fresh_refreshed (h : Table.Rel (Refreshed phase t) t t')
    (hold : ∀ kind, kind ∉ phase.kinds → Fresh kind t) (kind : RecordKind) : Fresh kind t' := by
  refine forPairs_refreshed h ?_
  intro i j c nb d back back' c' d' hc hnb hd hback _ hR' _ heq
  obtain rfl := heq
  rw [hR'.recordOf, Neighbor.recordOf_refresh]
  by_cases hkind : kind ∈ phase.kinds
  · exact Neighbor.stored_refresh_mem hkind d.agent nb back
  · rw [Neighbor.stored_refresh_not_mem hkind]
    exact (hold kind hkind).at_pair hc hnb hd hback

end Ensemble

theorem Fresh.works {kind : RecordKind} {changed : List RecordKind} {t t' : Table (Controller α)}
    (h : Fresh kind t) (ht : Table.Rel (fun _ c c' => c.Works changed c') t t')
    (hkind : kind ∉ changed) : Fresh kind t' := by
  refine ForPairs.transfer (Q := fun c nb c' nb' => nb'.stored kind = nb.stored kind ∧
    c'.agent.recordOf nb' kind = c.agent.recordOf nb kind) h (ht.imp fun _ c c' hw => ?_) ?_
  · refine hw.neighbors.imp ?_
    intro nb nb' h
    obtain ⟨hlink, hstored, hsent⟩ := h
    exact ⟨congrArg Link.id hlink, hstored kind, hsent kind hkind⟩
  · intro c nb d back c' nb' d' back' hfresh htook htook'
    obtain ⟨hstored, -⟩ := htook
    obtain ⟨-, hsent⟩ := htook'
    rw [hstored, hsent]
    exact hfresh

/-- Whatever was received has the lengths of its role. -/
def Controller.Sized (c : Controller α) : Prop :=
  ∀ nb ∈ c.agent.neighbors, ∀ kind,
    nb.Accepts c.options.horizonSteps c.agent.nx c.agent.nu kind (nb.stored kind)

namespace Neighbor

theorem accepts_refresh (kinds : List RecordKind) (a : Agent α) (nb back : Neighbor α)
    (samples nx nu : Nat) (kind : RecordKind) (r : Record kind.family α) :
    (nb.refresh kinds a back).Accepts samples nx nu kind r ↔ nb.Accepts samples nx nu kind r := by
  unfold refresh
  induction kinds generalizing nb with
  | nil => rfl
  | cons k kinds ih => rw [List.foldl_cons, ih, accepts_keep]

theorem accepts_of_link {nb nb' : Neighbor α} (h : nb'.link = nb.link) (samples nx nu : Nat)
    (kind : RecordKind) (r : Record kind.family α) :
    nb'.Accepts samples nx nu kind r ↔ nb.Accepts samples nx nu kind r := by
  have hmodel : nb'.model = nb.model := congrArg Link.model h
  cases kind <;> simp only [Accepts, Neighbor.nx, Neighbor.nu, hmodel]

end Neighbor

namespace Controller

theorem Sized.works {changed : List RecordKind} {c c' : Controller α} (hc : c.Sized)
    (h : c.Works changed c') : c'.Sized := by
  have hoptions : c'.options = c.options := congrArg Site.options h.site
  have hmodel : c'.agent.model = c.agent.model := congrArg Site.model h.site
  intro nb' hnb' kind
  obtain ⟨nb, hnb, hlink, hstored, -⟩ := forall₂_mem_right h.neighbors hnb'
  rw [hstored, Neighbor.accepts_of_link hlink, hoptions, Agent.nx, Agent.nu, hmodel]
  exact hc nb hnb kind

theorem Sized.refreshed {phase : ExchangePhase} {t : Table (Controller α)} {id : AgentId}
    {c c' : Controller α} (h : Ensemble.Refreshed phase t id c c')
    (hold : ∀ nb ∈ c.agent.neighbors, ∀ kind, kind ∉ phase.kinds →
      nb.Accepts c.options.horizonSteps c.agent.nx c.agent.nu kind (nb.stored kind)) : c'.Sized := by
  intro nb' hnb' kind
  obtain ⟨nb, hnb, d, back, -, -, haccepts, rfl⟩ := forall₂_mem_right h.neighbors hnb'
  have hoptions : c'.options = c.options := by rw [h.rest]
  have hmodel : c'.agent.model = c.agent.model := by rw [h.rest]
  rw [Neighbor.accepts_refresh, hoptions, Agent.nx, Agent.nu, hmodel]
  by_cases hkind : kind ∈ phase.kinds
  · rw [Neighbor.stored_refresh_mem hkind]
    exact haccepts kind hkind
  · rw [Neighbor.stored_refresh_not_mem hkind]
    exact hold nb hnb kind hkind

end Controller

end ConsensusControl
