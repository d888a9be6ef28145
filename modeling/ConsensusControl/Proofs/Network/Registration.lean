import ConsensusControl.Network.Change
import ConsensusControl.Proofs.Checked
import ConsensusControl.Proofs.Table

namespace ConsensusControl

namespace Coupling

variable {α : Type}

theorem partner?_eq_some {c : Coupling α} {i j : AgentId} :
    c.partner? i = some j ↔ c.agent = i ∧ c.neighbor = j ∨ c.agent = j ∧ c.neighbor = i := by
  unfold partner?
  split
  · next h =>
    subst h
    constructor
    · intro hj
      exact .inl ⟨rfl, Option.some.inj hj⟩
    · intro h
      obtain ⟨-, rfl⟩ | ⟨rfl, hn⟩ := h
      · rfl
      · rw [hn]
  · next h =>
    split
    · next hn => simp [h, hn]
    · next hn => simp [h, hn]

end Coupling

namespace Network

variable {α : Type}

/-- Agents are coupled, in one direction or the other. -/
theorem mem_neighborsOf {n : Network α} {i j : AgentId} :
    j ∈ n.neighborsOf i ↔
      ∃ c ∈ n.couplings, c.agent = i ∧ c.neighbor = j ∨ c.agent = j ∧ c.neighbor = i := by
  simp only [neighborsOf, mem_ascending, List.mem_filterMap, Coupling.partner?_eq_some]

theorem mem_neighborsOf_comm {n : Network α} {i j : AgentId} :
    j ∈ n.neighborsOf i ↔ i ∈ n.neighborsOf j := by
  simp only [mem_neighborsOf]
  constructor <;> exact fun ⟨c, hc, h⟩ => ⟨c, hc, h.symm⟩

theorem neighborsOf_pairwise (n : Network α) (i : AgentId) :
    (n.neighborsOf i).Pairwise (· < ·) :=
  pairwise_ascending _

theorem neighborsOf_nodup (n : Network α) (i : AgentId) : (n.neighborsOf i).Nodup :=
  (n.neighborsOf_pairwise i).imp fun h => Nat.ne_of_lt h

/-- What registration keeps: every agent has one entry, and couplings join different registered
agents. -/
structure Registered (n : Network α) : Prop where
  sorted : Table.Sorted n.agents
  couplings : ∀ c ∈ n.couplings, c.agent ≠ c.neighbor ∧ c.agent ∈ n.ids ∧ c.neighbor ∈ n.ids

theorem registered_empty : (empty : Network α).Registered :=
  ⟨List.Pairwise.nil, by simp [empty]⟩

theorem Registered.neighbor_mem {n : Network α} (hn : n.Registered) {i j : AgentId}
    (h : j ∈ n.neighborsOf i) : j ∈ n.ids := by
  obtain ⟨c, hc, ⟨-, rfl⟩ | ⟨rfl, -⟩⟩ := mem_neighborsOf.mp h
  · exact (hn.couplings c hc).2.2
  · exact (hn.couplings c hc).2.1

theorem mem_ids_of_entry {n : Network α} {id : AgentId} {entry : AgentEntry α}
    (h : n.entry? id = some entry) : id ∈ n.ids :=
  Table.mem_ids_of_lookup h

theorem Registered.entry_of_mem {n : Network α} (hn : n.Registered) {id : AgentId}
    (h : id ∈ n.ids) : ∃ entry, n.entry? id = some entry :=
  Table.lookup_of_mem_ids hn.sorted h

theorem getEntry_eq_ok {n : Network α} {id : AgentId} {entry : AgentEntry α} :
    n.getEntry id = .ok entry ↔ n.entry? id = some entry := by
  unfold getEntry
  split <;> simp_all

theorem entry_setEntry {n : Network α} (id k : AgentId) (entry : AgentEntry α) :
    Network.entry? (n.setEntry id entry) k = if k = id then some entry else n.entry? k := by
  split
  · next h =>
    subst h
    exact Table.lookup_insert _ _ _
  · next h => exact Table.lookup_insert_ne h _ _

theorem mem_ids_setEntry {n : Network α} {id k : AgentId} {entry : AgentEntry α} :
    k ∈ (n.setEntry id entry).ids ↔ k = id ∨ k ∈ n.ids :=
  Table.mem_ids_insert

theorem mem_ids_erase {n : Network α} {id k : AgentId} {couplings : List (Coupling α)} :
    k ∈ (⟨Table.erase id n.agents, couplings⟩ : Network α).ids ↔ k ≠ id ∧ k ∈ n.ids := by
  simp only [ids, Table.ids, Table.erase, List.mem_map, List.mem_filter, decide_eq_true_eq]
  constructor
  · intro h
    obtain ⟨e, ⟨he, hne⟩, rfl⟩ := h
    exact ⟨hne, e, he, rfl⟩
  · intro h
    obtain ⟨hne, e, he, rfl⟩ := h
    exact ⟨e, ⟨he, hne⟩, rfl⟩

theorem Registered.setEntry {n : Network α} (hn : n.Registered) (id : AgentId)
    (entry : AgentEntry α) : (n.setEntry id entry).Registered where
  sorted := hn.sorted.insert id entry
  couplings c hc := by
    obtain ⟨hne, ha, hb⟩ := hn.couplings c hc
    exact ⟨hne, mem_ids_setEntry.mpr (.inr ha), mem_ids_setEntry.mpr (.inr hb)⟩

/-- Fewer couplings between the same agents. -/
theorem Registered.filterCouplings {n : Network α} (hn : n.Registered) (p : Coupling α → Bool) :
    { n with couplings := n.couplings.filter p }.Registered where
  sorted := hn.sorted
  couplings c hc := hn.couplings c (List.mem_of_mem_filter hc)

/-- The model of a registered agent. -/
def model? (n : Network α) (id : AgentId) : Option (AgentModel α) := n.entry? id |>.map (·.model)

/-- Another entry with the model that the agent has. -/
theorem model?_setEntry {n : Network α} {id : AgentId} {old new : AgentEntry α}
    (h : n.entry? id = some old) (hm : new.model = old.model)
    (k : AgentId) : (n.setEntry id new).model? k = n.model? k := by
  unfold model?
  rw [entry_setEntry]
  split
  · next hk => rw [hk, h, Option.map_some, Option.map_some, hm]
  · rfl

theorem checkLength_eq_ok {agent : AgentId} {what : String} {values : Vec α} {expected : Nat} :
    checkLength agent what values expected = .ok () ↔ values.length = expected := by
  unfold checkLength
  split <;> simp_all

theorem deregisterAgent_eq_ok {n n' : Network α} {id : AgentId} {former : List AgentId}
    (h : n.deregisterAgent id = .ok (n', former)) :
    id ∈ n.ids ∧
      n' = ⟨Table.erase id n.agents, n.couplings.filter fun c => !c.touches id⟩ ∧
      former = n.neighborsOf id := by
  unfold deregisterAgent at h
  rcases hg : n.getEntry id with s | entry
  · simp [hg, bind, Except.bind] at h
  simp only [hg, bind, Except.bind, pure, Except.pure, Except.ok.injEq, Prod.mk.injEq] at h
  exact ⟨mem_ids_of_entry (getEntry_eq_ok.mp hg), h.1.symm, h.2.symm⟩

theorem registerCoupling_eq_ok {n n' : Network α} {agent neighbor : AgentId}
    {model : CouplingModel α} (h : n.registerCoupling agent neighbor model = .ok n') :
    agent ≠ neighbor ∧ agent ∈ n.ids ∧ neighbor ∈ n.ids ∧ n.coupling? agent neighbor = none ∧
      n' = { n with couplings := ⟨agent, neighbor, model⟩ :: n.couplings } := by
  unfold registerCoupling at h
  by_cases hne : agent = neighbor
  · simp [hne, throw, throwThe, MonadExceptOf.throw, bind, Except.bind] at h
  rcases ha : n.getEntry agent with s | a
  · simp [hne, ha, bind, Except.bind] at h
  rcases hb : n.getEntry neighbor with s | b
  · simp [hne, ha, hb, bind, Except.bind] at h
  rcases hc : n.coupling? agent neighbor with _ | f
  · simp only [hne, ha, hb, hc, bind, Except.bind, pure, Except.pure, if_false,
      Option.isSome_none, Bool.false_eq_true, Except.ok.injEq] at h
    exact ⟨hne, mem_ids_of_entry (getEntry_eq_ok.mp ha), mem_ids_of_entry (getEntry_eq_ok.mp hb),
      rfl, h.symm⟩
  · simp [hne, ha, hb, hc, throw, throwThe, MonadExceptOf.throw, bind, Except.bind] at h

theorem deregisterCoupling_eq_ok {n n' : Network α} {agent neighbor : AgentId}
    (h : n.deregisterCoupling agent neighbor = .ok n') :
    (n.coupling? agent neighbor).isSome ∧
      n' = { n with couplings := n.couplings.filter fun c => !c.joins agent neighbor } := by
  unfold deregisterCoupling at h
  split at h
  · next hs => exact ⟨hs, (Except.ok.inj h).symm⟩
  · simp at h

theorem setDesired_eq_ok {n n' : Network α} {id : AgentId} {x u : Vec α}
    (h : n.setDesired id x u = .ok n') :
    ∃ entry, n.entry? id = some entry ∧ x.length = entry.model.nx ∧ u.length = entry.model.nu ∧
      n' = n.setEntry id { entry with xDesired := x, uDesired := u } := by
  unfold setDesired at h
  rcases hg : n.getEntry id with s | entry
  · simp [hg, bind, Except.bind] at h
  rcases hx : checkLength id "desired state" x entry.model.nx with s | ⟨⟨⟩⟩
  · simp [hg, hx, bind, Except.bind] at h
  rcases hu : checkLength id "desired control" u entry.model.nu with s | ⟨⟨⟩⟩
  · simp [hg, hx, hu, bind, Except.bind] at h
  simp only [hg, hx, hu, bind, Except.bind, pure, Except.pure, Except.ok.injEq] at h
  exact ⟨entry, getEntry_eq_ok.mp hg, checkLength_eq_ok.mp hx, checkLength_eq_ok.mp hu, h.symm⟩

theorem setInitial_eq_ok {n n' : Network α} {id : AgentId} {x : Vec α}
    (h : n.setInitial id x = .ok n') :
    ∃ entry, n.entry? id = some entry ∧ x.length = entry.model.nx ∧
      n' = n.setEntry id { entry with xInit := x } := by
  unfold setInitial at h
  rcases hg : n.getEntry id with s | entry
  · simp [hg, bind, Except.bind] at h
  rcases hx : checkLength id "initial state" x entry.model.nx with s | ⟨⟨⟩⟩
  · simp [hg, hx, bind, Except.bind] at h
  simp only [hg, hx, bind, Except.bind, pure, Except.pure, Except.ok.injEq] at h
  exact ⟨entry, getEntry_eq_ok.mp hg, checkLength_eq_ok.mp hx, h.symm⟩

theorem Registered.deregister {n : Network α} (hn : n.Registered) (id : AgentId) :
    Registered ⟨Table.erase id n.agents, n.couplings.filter fun c => !c.touches id⟩ where
  sorted := hn.sorted.erase id
  couplings c hc := by
    obtain ⟨hmem, htouch⟩ := List.mem_filter.mp hc
    obtain ⟨hne, ha, hb⟩ := hn.couplings c hmem
    have hids : c.agent ≠ id ∧ c.neighbor ≠ id := by simpa [Coupling.touches] using htouch
    exact ⟨hne, mem_ids_erase.mpr ⟨hids.1, ha⟩, mem_ids_erase.mpr ⟨hids.2, hb⟩⟩

variable [Scalar α]

theorem registerAgent_eq_ok {n n' : Network α} {id : AgentId} {model : AgentModel α} {x u : Vec α}
    (h : n.registerAgent id model x u = .ok n') :
    n.contains id = false ∧ model.nx ≠ 0 ∧ model.nu ≠ 0 ∧ x.length = model.nx ∧
      u.length = model.nu ∧
      n' = n.setEntry id ⟨model, x, u, Vec.zeros model.nx, Vec.zeros model.nu⟩ := by
  unfold registerAgent at h
  by_cases hc : n.contains id = true
  · simp [hc, throw, throwThe, MonadExceptOf.throw, bind, Except.bind] at h
  by_cases hx : model.nx = 0
  · simp [hc, hx, throw, throwThe, MonadExceptOf.throw, bind, Except.bind] at h
  by_cases hu : model.nu = 0
  · simp [hc, hx, hu, throw, throwThe, MonadExceptOf.throw, bind, Except.bind] at h
  rcases hlx : checkLength id "initial state" x model.nx with s | ⟨⟨⟩⟩
  · simp [hc, hx, hu, hlx, bind, Except.bind] at h
  rcases hlu : checkLength id "initial control" u model.nu with s | ⟨⟨⟩⟩
  · simp [hc, hx, hu, hlx, hlu, bind, Except.bind] at h
  simp only [hc, hx, hu, hlx, hlu, bind, Except.bind, pure, Except.pure, if_false,
    Bool.false_eq_true, Except.ok.injEq] at h
  exact ⟨by simpa using hc, hx, hu, checkLength_eq_ok.mp hlx, checkLength_eq_ok.mp hlu, h.symm⟩

theorem apply_deregisterAgent_eq_ok {n n' : Network α} {id : AgentId}
    (h : n.apply (.deregisterAgent id) = .ok n') :
    n' = ⟨Table.erase id n.agents, n.couplings.filter fun c => !c.touches id⟩ := by
  simp only [Network.apply] at h
  rcases hd : n.deregisterAgent id with s | ⟨m, former⟩
  · simp [hd, Functor.map, Except.map] at h
  · simp only [hd, Functor.map, Except.map, Except.ok.injEq] at h
    obtain ⟨-, rfl, -⟩ := deregisterAgent_eq_ok hd
    exact h.symm

theorem Registered.apply {n n' : Network α} (hn : n.Registered) {change : Change α}
    (h : n.apply change = .ok n') : n'.Registered := by
  cases change with
  | registerAgent id model x u =>
    obtain ⟨-, -, -, -, -, rfl⟩ := registerAgent_eq_ok h
    exact hn.setEntry id _
  | deregisterAgent id =>
    exact apply_deregisterAgent_eq_ok h ▸ hn.deregister id
  | setDesired id x u =>
    obtain ⟨entry, -, -, -, rfl⟩ := setDesired_eq_ok h
    exact hn.setEntry id _
  | setInitial id x =>
    obtain ⟨entry, -, -, rfl⟩ := setInitial_eq_ok h
    exact hn.setEntry id _
  | registerCoupling agent neighbor model =>
    obtain ⟨hne, ha, hb, -, rfl⟩ := registerCoupling_eq_ok h
    refine ⟨hn.sorted, fun c hc => ?_⟩
    rcases List.mem_cons.mp hc with rfl | hc
    · exact ⟨hne, ha, hb⟩
    · exact hn.couplings c hc
  | deregisterCoupling agent neighbor =>
    obtain ⟨-, rfl⟩ := deregisterCoupling_eq_ok h
    exact hn.filterCouplings _

end Network

/-- The dimensions of the model are positive, and all vectors of the entry have them. -/
structure AgentEntry.Sized {α : Type} (entry : AgentEntry α) : Prop where
  nx : entry.model.nx ≠ 0
  nu : entry.model.nu ≠ 0
  xInit : entry.xInit.length = entry.model.nx
  uInit : entry.uInit.length = entry.model.nu
  xDesired : entry.xDesired.length = entry.model.nx
  uDesired : entry.uDesired.length = entry.model.nu

namespace Network

variable {α : Type}

def Sized (n : Network α) : Prop := ∀ id entry, n.entry? id = some entry → entry.Sized

theorem Sized.model {n : Network α} (hn : n.Sized) {id : AgentId} {model : AgentModel α}
    (h : n.model? id = some model) : model.nx ≠ 0 ∧ model.nu ≠ 0 := by
  obtain ⟨entry, hentry, rfl⟩ := Option.map_eq_some_iff.mp h
  have hsized := hn id entry hentry
  exact ⟨hsized.nx, hsized.nu⟩

theorem sized_empty : (empty : Network α).Sized := by
  intro id entry h
  simp [empty, Network.entry?] at h

theorem Sized.setEntry {n : Network α} (hn : n.Sized) (id : AgentId) {entry : AgentEntry α}
    (h : entry.Sized) : (n.setEntry id entry).Sized := by
  intro k found hfound
  rw [entry_setEntry] at hfound
  split at hfound
  · exact Option.some.inj hfound ▸ h
  · exact hn k found hfound

theorem Sized.erase {n : Network α} (hn : n.Sized) (id : AgentId) (couplings : List (Coupling α)) :
    Sized ⟨Table.erase id n.agents, couplings⟩ := by
  intro k found hfound
  by_cases hk : k = id
  · subst hk
    simp [Table.lookup_erase_self, Network.entry?] at hfound
  · unfold Network.entry? at hfound
    rw [Table.lookup_erase_ne hk] at hfound
    exact hn k found hfound

theorem Sized.setDesired {n n' : Network α} (hn : n.Sized) {id : AgentId} {x u : Vec α}
    (h : n.setDesired id x u = .ok n') : n'.Sized := by
  obtain ⟨entry, hentry, hx, hu, rfl⟩ := setDesired_eq_ok h
  have hold := hn id entry hentry
  exact hn.setEntry id ⟨hold.nx, hold.nu, hold.xInit, hold.uInit, hx, hu⟩

theorem Sized.setInitial {n n' : Network α} (hn : n.Sized) {id : AgentId} {x : Vec α}
    (h : n.setInitial id x = .ok n') : n'.Sized := by
  obtain ⟨entry, hentry, hx, rfl⟩ := setInitial_eq_ok h
  have hold := hn id entry hentry
  exact hn.setEntry id ⟨hold.nx, hold.nu, hx, hold.uInit, hold.xDesired, hold.uDesired⟩

variable [Scalar α]

theorem Sized.apply {n n' : Network α} (hn : n.Sized) {change : Change α}
    (h : n.apply change = .ok n') : n'.Sized := by
  cases change with
  | registerAgent id model x u =>
    obtain ⟨-, hnx, hnu, hx, hu, rfl⟩ := registerAgent_eq_ok h
    exact hn.setEntry id ⟨hnx, hnu, hx, hu, Vec.length_zeros _, Vec.length_zeros _⟩
  | deregisterAgent id => exact apply_deregisterAgent_eq_ok h ▸ hn.erase id _
  | setDesired id x u => exact hn.setDesired h
  | setInitial id x => exact hn.setInitial h
  | registerCoupling agent neighbor model =>
    obtain ⟨-, -, -, -, rfl⟩ := registerCoupling_eq_ok h
    exact hn
  | deregisterCoupling agent neighbor =>
    obtain ⟨-, rfl⟩ := deregisterCoupling_eq_ok h
    exact hn

/-- Networks that registration leads to, one accepted change after the other. -/
inductive Reachable : Network α → Prop
  | empty : Reachable .empty
  | apply {n n' : Network α} {change : Change α} (hn : Reachable n)
      (h : n.apply change = .ok n') : Reachable n'

theorem Reachable.of_foldlM {changes : List (Change α)} {n n' : Network α} (hn : n.Reachable)
    (h : changes.foldlM Network.apply n = .ok n') : n'.Reachable := by
  induction changes generalizing n with
  | nil =>
    rw [List.foldlM_nil, pure_eq_ok] at h
    exact h ▸ hn
  | cons change changes ih =>
    rw [List.foldlM_cons, bind_eq_ok] at h
    obtain ⟨n₁, hfirst, hrest⟩ := h
    exact ih (hn.apply hfirst) hrest

theorem Reachable.registered {n : Network α} (h : n.Reachable) : n.Registered := by
  induction h with
  | empty => exact registered_empty
  | apply _ h ih => exact ih.apply h

theorem Reachable.sized {n : Network α} (h : n.Reachable) : n.Sized := by
  induction h with
  | empty => exact sized_empty
  | apply _ h ih => exact ih.apply h

end Network

end ConsensusControl
