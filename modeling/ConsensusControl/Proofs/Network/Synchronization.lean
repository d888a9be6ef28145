import Mathlib.Data.List.Sort
import ConsensusControl.Network.Membership
import ConsensusControl.Proofs.Agent
import ConsensusControl.Proofs.Checked
import ConsensusControl.Proofs.Network.Registration

namespace ConsensusControl

/-- The neighbor as `fresh` describes it, with the records that are kept for it. -/
def Neighbor.relink {α : Type} (nb fresh : Neighbor α) : Neighbor α :=
  { nb with
    model := fresh.model
    relation := fresh.relation
    neighborCount := fresh.neighborCount }

/-- Relinks the neighbor with this id and leaves others as they are. -/
def Neighbor.relinkAt {α : Type} (j : AgentId) (fresh nb : Neighbor α) : Neighbor α :=
  if nb.id = j then nb.relink fresh else nb

@[simp] theorem Neighbor.id_relinkAt {α : Type} (j : AgentId) (fresh nb : Neighbor α) :
    (relinkAt j fresh nb).id = nb.id := by
  unfold relinkAt
  split <;> rfl

namespace Network

variable {α : Type} [Scalar α]

theorem syncNeighbor_eq_ok {n : Network α} {a a' : Agent α} {j : AgentId}
    (ha : a.neighborIds.Nodup) (h : n.syncNeighbor a j = .ok a') :
    ∃ entry, n.entry? j = some entry ∧
      (j ∈ a.neighborIds ∧
          a' = { a with
            neighbors := a.neighbors.map (.relinkAt j (n.freshNeighbor a.id j entry.model)) } ∨
        j ∉ a.neighborIds ∧
          a' = { a with neighbors := a.neighbors ++ [n.freshNeighbor a.id j entry.model] }) := by
  unfold syncNeighbor at h
  obtain ⟨entry, hentry, h⟩ := bind_eq_ok.mp h
  refine ⟨entry, getEntry_eq_ok.mp hentry, ?_⟩
  rw [pure_eq_ok] at h
  split at h
  · next hj =>
    refine .inl ⟨Agent.neighbor?_isSome.mp hj, ?_⟩
    rw [← h, Agent.modifyNeighbor, Agent.modifyFirst_eq_map _ ha]
    rfl
  · next hj =>
    refine .inr ⟨fun hmem => hj (Agent.neighbor?_isSome.mpr hmem), ?_⟩
    rw [← h]
    rfl

/-- A neighbor that the network has just described: a new one, or one that is kept. -/
def Describes (n : Network α) (i : AgentId) (old : List (Neighbor α)) (nb : Neighbor α) : Prop :=
  ∃ entry, n.entry? nb.id = some entry ∧
    (nb = n.freshNeighbor i nb.id entry.model ∨
      ∃ kept ∈ old, kept.id = nb.id ∧ nb = kept.relink (n.freshNeighbor i nb.id entry.model))

/-- What a pass over the neighbors `js` makes of an agent. -/
structure Passed (n : Network α) (a : Agent α) (js : List AgentId) (a' : Agent α) : Prop where
  rest : a' = { a with neighbors := a'.neighbors }
  nodup : a'.neighborIds.Nodup
  ids : ∀ k, k ∈ a'.neighborIds ↔ k ∈ a.neighborIds ∨ k ∈ js
  origin : ∀ nb ∈ a'.neighbors,
    nb ∈ a.neighbors ∧ nb.id ∉ js ∨ nb.id ∈ js ∧ n.Describes a.id a.neighbors nb

theorem syncNeighbor_passed {n : Network α} {a a' : Agent α} {j : AgentId}
    (ha : a.neighborIds.Nodup) (h : n.syncNeighbor a j = .ok a') : n.Passed a [j] a' := by
  obtain ⟨entry, hentry, ⟨hj, rfl⟩ | ⟨hj, rfl⟩⟩ := syncNeighbor_eq_ok ha h
  · have hsame : Agent.neighborIds { a with
        neighbors := a.neighbors.map (.relinkAt j (n.freshNeighbor a.id j entry.model)) } =
        a.neighborIds := by
      simp [Agent.neighborIds, Function.comp_def]
    refine ⟨rfl, by rwa [hsame], fun k => ?_, fun nb hnb => ?_⟩
    · rw [hsame]
      simp only [List.mem_singleton]
      constructor
      · exact .inl
      · intro h
        obtain hk | rfl := h
        · exact hk
        · exact hj
    · obtain ⟨old, hold, rfl⟩ := List.mem_map.mp hnb
      by_cases hid : old.id = j
      · subst hid
        refine .inr ⟨by simp, entry, by simpa using hentry, .inr ⟨old, hold, by simp, ?_⟩⟩
        rw [Neighbor.id_relinkAt, Neighbor.relinkAt, if_pos rfl]
      · exact .inl ⟨by simpa [Neighbor.relinkAt, hid] using hold, by simp [hid]⟩
  · have hids : Agent.neighborIds { a with
        neighbors := a.neighbors ++ [n.freshNeighbor a.id j entry.model] } = a.neighborIds ++ [j] := by
      simp [Agent.neighborIds, freshNeighbor, Neighbor.new]
    refine ⟨rfl, ?_, fun k => ?_, fun nb hnb => ?_⟩
    · rw [hids]
      refine List.nodup_append.mpr ⟨ha, by simp, fun k hk l hl he => hj ?_⟩
      rwa [← List.mem_singleton.mp hl, ← he]
    · rw [hids, List.mem_append]
    · rcases List.mem_append.mp hnb with hold | hnew
      · refine .inl ⟨hold, fun hmem => hj ?_⟩
        exact List.mem_singleton.mp hmem ▸ Agent.mem_neighborIds.mpr ⟨nb, hold, rfl⟩
      · rw [List.mem_singleton.mp hnew]
        exact .inr ⟨by simp [freshNeighbor, Neighbor.new], entry, hentry, .inl rfl⟩

theorem Passed.refl (n : Network α) {a : Agent α} (ha : a.neighborIds.Nodup) : n.Passed a [] a :=
  ⟨rfl, ha, by simp, fun nb hnb => .inl ⟨hnb, by simp⟩⟩

theorem Passed.cons {n : Network α} {a b c : Agent α} {j : AgentId} {js : List AgentId}
    (hj : j ∉ js) (h₁ : n.Passed a [j] b) (h₂ : n.Passed b js c) : n.Passed a (j :: js) c where
  rest := by
    rw [h₂.rest, h₁.rest]
  nodup := h₂.nodup
  ids k := by
    rw [h₂.ids, h₁.ids, List.mem_singleton, List.mem_cons, or_assoc]
  origin nb hnb := by
    have hid : b.id = a.id := by rw [h₁.rest]
    rcases h₂.origin nb hnb with ⟨hmem, hnot⟩ | ⟨hmem, entry, hentry, hnew⟩
    · rcases h₁.origin nb hmem with ⟨hold, hne⟩ | ⟨hk, hd⟩
      · exact .inl ⟨hold, by simp_all⟩
      · exact .inr ⟨by simp_all, hd⟩
    · refine .inr ⟨List.mem_cons_of_mem j hmem, entry, hentry, ?_⟩
      rw [hid] at hnew
      rcases hnew with hnew | ⟨kept, hkept, hkid, hnew⟩
      · exact .inl hnew
      · rcases h₁.origin kept hkept with ⟨hold, -⟩ | ⟨hk, -⟩
        · exact .inr ⟨kept, hold, hkid, hnew⟩
        · exact absurd (hkid ▸ hmem) (List.mem_singleton.mp hk ▸ hj)

theorem foldlM_passed {n : Network α} {js : List AgentId} (hjs : js.Nodup) {a a' : Agent α}
    (ha : a.neighborIds.Nodup) (h : js.foldlM n.syncNeighbor a = .ok a') : n.Passed a js a' := by
  induction js generalizing a with
  | nil =>
    rw [List.foldlM_nil, pure_eq_ok] at h
    exact h ▸ .refl n ha
  | cons j js ih =>
    obtain ⟨hj, hrest⟩ := List.nodup_cons.mp hjs
    rw [List.foldlM_cons, bind_eq_ok] at h
    obtain ⟨b, hb, h⟩ := h
    have hfirst := syncNeighbor_passed ha hb
    exact .cons hj hfirst (ih hrest hfirst.nodup h)

/-- An agent in line with the network: its neighbors are those of the graph, in ascending order, each
as the network describes it. Nothing else but the desired state changes. -/
structure Synced (n : Network α) (a a' : Agent α) : Prop where
  rest : a' = { a with desired := a'.desired, neighbors := a'.neighbors }
  ids : a'.neighborIds = n.neighborsOf a.id
  origin : ∀ nb ∈ a'.neighbors, n.Describes a.id a.neighbors nb

omit [Scalar α] in
theorem ascending_mergeSort {nbs : List (Neighbor α)} (hn : (nbs.map (·.id)).Nodup) :
    ((nbs.mergeSort fun a b => decide (a.id ≤ b.id)).map (·.id)).Pairwise (· < ·) := by
  have hsorted : (nbs.mergeSort fun a b => decide (a.id ≤ b.id)).Pairwise
      fun a b => decide (a.id ≤ b.id) = true := by
    apply List.pairwise_mergeSort
    · intro a b c hab hbc
      exact decide_eq_true (Nat.le_trans (of_decide_eq_true hab) (of_decide_eq_true hbc))
    · intro a b
      simp only [Bool.or_eq_true, decide_eq_true_eq]
      exact Nat.le_total a.id b.id
  have hle : ((nbs.mergeSort fun a b => decide (a.id ≤ b.id)).map (·.id)).Pairwise (· ≤ ·) := by
    rw [List.pairwise_map]
    exact hsorted.imp fun h => of_decide_eq_true h
  have hids := (List.mergeSort_perm nbs fun a b => decide (a.id ≤ b.id)).map (·.id)
  exact (hle.and (hids.nodup_iff.mpr hn)).imp fun h => lt_of_le_of_ne h.1 h.2

/-- The neighbors that stay are kept, a pass goes over the neighbors of the graph, and all are sorted. -/
theorem syncAgent_eq_ok {n : Network α} {a a' : Agent α} (ha : a.neighborIds.Nodup)
    (h : n.syncAgent a = .ok a') :
    ∃ entry synced, n.entry? a.id = some entry ∧
      n.Passed { a with
        desired := .constant a.id [a.agentState.t0] entry.xDesired entry.uDesired []
        neighbors := a.neighbors.filter fun nb => (n.neighborsOf a.id).contains nb.id }
        (n.neighborsOf a.id) synced ∧
      a' = { synced with neighbors := synced.neighbors.mergeSort fun a b => a.id ≤ b.id } := by
  unfold syncAgent at h
  obtain ⟨entry, hentry, h⟩ := bind_eq_ok.mp h
  obtain ⟨synced, hfold, h⟩ := bind_eq_ok.mp h
  have hkept : Agent.neighborIds { a with
      desired := .constant a.id [a.agentState.t0] entry.xDesired entry.uDesired []
      neighbors := a.neighbors.filter fun nb => (n.neighborsOf a.id).contains nb.id } |>.Nodup :=
    ha.sublist (List.filter_sublist.map _)
  exact ⟨entry, synced, getEntry_eq_ok.mp hentry,
    foldlM_passed (n.neighborsOf_nodup a.id) hkept hfold, (pure_eq_ok.mp h).symm⟩

theorem syncAgent_synced {n : Network α} {a a' : Agent α} (ha : a.neighborIds.Nodup)
    (h : n.syncAgent a = .ok a') : n.Synced a a' := by
  obtain ⟨entry, synced, -, hp, rfl⟩ := syncAgent_eq_ok ha h
  have hperm := List.mergeSort_perm synced.neighbors fun a b => decide (a.id ≤ b.id)
  have hids := hperm.map fun nb : Neighbor α => nb.id
  refine ⟨by rw [hp.rest], ?_, fun nb hnb => ?_⟩
  · -- Both lists ascend and have the same members.
    have hascend := ascending_mergeSort hp.nodup
    refine hascend.eq_of_mem_iff (n.neighborsOf_pairwise a.id) fun k => ?_
    rw [hids.mem_iff]
    change k ∈ synced.neighborIds ↔ _
    rw [hp.ids]
    simp only [Agent.mem_neighborIds, List.mem_filter, List.contains_iff_mem]
    constructor
    · intro h
      obtain ⟨nb, ⟨-, hmem⟩, rfl⟩ | hk := h
      · exact hmem
      · exact hk
    · exact .inr
  · have hmem : nb ∈ synced.neighbors := hperm.mem_iff.mp hnb
    rcases hp.origin nb hmem with ⟨hold, hnot⟩ | ⟨-, entry, hentry, hnew⟩
    · exact absurd (List.contains_iff_mem.mp (List.mem_filter.mp hold).2) hnot
    · refine ⟨entry, hentry, ?_⟩
      rcases hnew with hnew | ⟨kept, hkept, hnew⟩
      · exact .inl hnew
      · exact .inr ⟨kept, List.mem_of_mem_filter hkept, hnew⟩

theorem Synced.id {n : Network α} {a a' : Agent α} (h : n.Synced a a') : a'.id = a.id := by
  rw [h.rest]

theorem Synced.model {n : Network α} {a a' : Agent α} (h : n.Synced a a') : a'.model = a.model := by
  rw [h.rest]

theorem Synced.agentState {n : Network α} {a a' : Agent α} (h : n.Synced a a') :
    a'.agentState = a.agentState := by
  rw [h.rest]

theorem Synced.ascending {n : Network α} {a a' : Agent α} (h : n.Synced a a') :
    a'.neighborIds.Pairwise (· < ·) := by
  rw [h.ids]
  exact n.neighborsOf_pairwise a.id

theorem Synced.nodup {n : Network α} {a a' : Agent α} (h : n.Synced a a') :
    a'.neighborIds.Nodup := by
  rw [h.ids]
  exact n.neighborsOf_nodup a.id

/-- The desired record is the registered one, at the start of the agent's horizon. -/
theorem syncAgent_desired {n : Network α} {a a' : Agent α} (ha : a.neighborIds.Nodup)
    (h : n.syncAgent a = .ok a') :
    ∃ entry, n.entry? a.id = some entry ∧
      a'.desired = .constant a.id [a.agentState.t0] entry.xDesired entry.uDesired [] := by
  obtain ⟨entry, synced, hentry, hp, rfl⟩ := syncAgent_eq_ok ha h
  exact ⟨entry, hentry, by rw [hp.rest]⟩

/-- An agent that was in line with some network and is brought in line with another. -/
theorem Synced.approximated {n : Network α} {a a' : Agent α} (h : n.Synced a a')
    (ha : ∀ nb ∈ a.neighbors, nb.approximated = true) :
    ∀ nb ∈ a'.neighbors, nb.approximated = true := by
  intro nb hnb
  obtain ⟨_, -, hnew | ⟨kept, hkept, -, hnew⟩⟩ := h.origin nb hnb
  · rw [hnew]
    rfl
  · rw [hnew]
    exact ha kept hkept

theorem buildAgent_synced {n : Network α} {id : AgentId} {t0 : α} {a : Agent α}
    (h : n.buildAgent id t0 = .ok a) :
    ∃ entry, n.entry? id = some entry ∧ n.Synced { Agent.new id entry.model with
      agentState := .constant id [t0] entry.xInit entry.uInit [] } a := by
  unfold buildAgent at h
  obtain ⟨entry, hentry, h⟩ := bind_eq_ok.mp h
  exact ⟨entry, getEntry_eq_ok.mp hentry, syncAgent_synced List.nodup_nil h⟩

/-- A new agent has the registered model. -/
theorem model?_of_buildAgent {n : Network α} {id : AgentId} {t0 : α} {a : Agent α}
    (h : n.buildAgent id t0 = .ok a) : n.model? id = some a.model := by
  obtain ⟨entry, hentry, hsynced⟩ := buildAgent_synced h
  have hmodel : a.model = entry.model := hsynced.model
  rw [model?, hentry, hmodel]
  rfl

/-- The neighbors of an agent with no records yet. -/
def freshNeighbors (n : Network α) (i : AgentId) (js : List AgentId) : List (Neighbor α) :=
  js.filterMap fun j => (n.model? j).map (n.freshNeighbor i j)

/-- An agent with its registration data, and with its neighbors in the network. -/
def freshAgent (n : Network α) (id : AgentId) (t0 : α) (entry : AgentEntry α) : Agent α :=
  { Agent.new id entry.model with
    agentState := .constant id [t0] entry.xInit entry.uInit []
    desired := .constant id [t0] entry.xDesired entry.uDesired []
    neighbors := n.freshNeighbors id (n.neighborsOf id) }

/-- Registered agents that are not neighbors yet are taken in one after the other. -/
theorem Registered.foldlM_fresh {n : Network α} (hn : n.Registered) {js : List AgentId}
    (hjs : js.Nodup) (hids : ∀ j ∈ js, j ∈ n.ids) {a : Agent α} (ha : ∀ j ∈ js, j ∉ a.neighborIds) :
    js.foldlM n.syncNeighbor a =
      .ok { a with neighbors := a.neighbors ++ n.freshNeighbors a.id js } := by
  induction js generalizing a with
  | nil =>
    rw [List.foldlM_nil, freshNeighbors, List.filterMap_nil, List.append_nil]
    rfl
  | cons j js ih =>
    obtain ⟨hj, hnodup⟩ := List.nodup_cons.mp hjs
    obtain ⟨entry, hentry⟩ := hn.entry_of_mem (hids j List.mem_cons_self)
    have hmodel : n.model? j = some entry.model := by rw [model?, hentry]; rfl
    have hnew : n.syncNeighbor a j = .ok (a.addNeighbor (n.freshNeighbor a.id j entry.model)) := by
      have hnone : (a.neighbor? j).isSome = false := by
        rw [← Bool.not_eq_true, Agent.neighbor?_isSome]
        exact ha j List.mem_cons_self
      rw [syncNeighbor, getEntry_eq_ok.mpr hentry, hnone]
      rfl
    have hfresh : n.freshNeighbors a.id (j :: js) =
        n.freshNeighbor a.id j entry.model :: n.freshNeighbors a.id js := by
      rw [freshNeighbors, List.filterMap_cons, hmodel]
      rfl
    rw [List.foldlM_cons, hnew, hfresh]
    refine (ih hnodup (fun k hk => hids k (List.mem_cons_of_mem j hk)) fun k hk hmem => ?_).trans ?_
    · have hcases : k ∈ a.neighborIds ∨ k = j := by
        simpa [Agent.neighborIds, Agent.addNeighbor, freshNeighbor, Neighbor.new] using hmem
      rcases hcases with hold | rfl
      · exact ha k (List.mem_cons_of_mem j hk) hold
      · exact hj hk
    · simp [Agent.addNeighbor]

/-- A registered agent can be built. -/
theorem Registered.buildAgent_eq {n : Network α} (hn : n.Registered) {id : AgentId} (t0 : α)
    {entry : AgentEntry α} (h : n.entry? id = some entry) :
    n.buildAgent id t0 = .ok (n.freshAgent id t0 entry) := by
  have hnodup := n.neighborsOf_nodup id
  have hsorted : (n.freshNeighbors id (n.neighborsOf id)).Pairwise
      fun a b => decide (a.id ≤ b.id) = true := by
    refine List.Pairwise.filterMap _ ?_ (n.neighborsOf_pairwise id)
    intro j k hjk a ha b hb
    obtain ⟨_, -, rfl⟩ := Option.map_eq_some_iff.mp ha
    obtain ⟨_, -, rfl⟩ := Option.map_eq_some_iff.mp hb
    exact decide_eq_true (Nat.le_of_lt hjk)
  have hnone : ∀ j ∈ n.neighborsOf id, j ∉ ([] : List (Neighbor α)).map (·.id) := by simp
  refine bind_eq_ok.mpr ⟨entry, getEntry_eq_ok.mpr h, ?_⟩
  refine bind_eq_ok.mpr ⟨entry, getEntry_eq_ok.mpr h, ?_⟩
  refine bind_eq_ok.mpr ⟨_, hn.foldlM_fresh hnodup (fun j hj => hn.neighbor_mem hj) hnone, ?_⟩
  rw [pure_eq_ok]
  exact congrArg (fun nbs => { n.freshAgent id t0 entry with neighbors := nbs })
    (List.mergeSort_of_pairwise hsorted)

theorem Registered.buildAgent_eq_ok {n : Network α} (hn : n.Registered) {id : AgentId} {t0 : α}
    {a : Agent α} (h : n.buildAgent id t0 = .ok a) :
    ∃ entry, n.entry? id = some entry ∧ a = n.freshAgent id t0 entry := by
  obtain ⟨entry, hentry, -⟩ := bind_eq_ok.mp h
  have hfound := getEntry_eq_ok.mp hentry
  exact ⟨entry, hfound, Except.ok.inj (h.symm.trans (hn.buildAgent_eq t0 hfound))⟩

end Network

end ConsensusControl
