import ConsensusControl.Proofs.Consensus.Evolution
import ConsensusControl.Proofs.Network.Integrity

namespace ConsensusControl.Network

variable {α : Type} [Scalar α]

/-- A registered agent can always be synchronized. -/
theorem Registered.exists_syncAgent {n : Network α} (hn : n.Registered) {a : Agent α}
    (h : a.id ∈ n.ids) : ∃ a', n.syncAgent a = .ok a' := by
  have hpass : ∀ {js : List AgentId}, (∀ j ∈ js, j ∈ n.ids) → ∀ b : Agent α,
      ∃ b', js.foldlM n.syncNeighbor b = .ok b' := by
    intro js hjs
    induction js with
    | nil => exact fun b => ⟨b, rfl⟩
    | cons j js ih =>
      intro b
      obtain ⟨entry, hentry⟩ := hn.entry_of_mem (hjs j List.mem_cons_self)
      obtain ⟨b', hb'⟩ := ih (fun k hk => hjs k (.tail _ hk)) _
      rw [List.foldlM_cons]
      refine ⟨b', bind_eq_ok.mpr ⟨_, ?_, hb'⟩⟩
      rw [syncNeighbor, getEntry_eq_ok.mpr hentry]
      rfl
  obtain ⟨entry, hentry⟩ := hn.entry_of_mem h
  obtain ⟨synced, hsynced⟩ := hpass (fun j hj => hn.neighbor_mem hj) _
  exact ⟨_, bind_eq_ok.mpr ⟨entry, getEntry_eq_ok.mpr hentry, bind_eq_ok.mpr ⟨synced, hsynced, rfl⟩⟩⟩

/-- Neighbors that are predicted stay so, and what ties them otherwise is the network's. -/
theorem Describes.link {n : Network α} {i : AgentId} {old : List (Neighbor α)} {nb : Neighbor α}
    (h : n.Describes i old nb) (hold : ∀ kept ∈ old, kept.approximated = true) :
    ∃ model, n.model? nb.id = some model ∧ nb.link = (n.freshNeighbor i nb.id model).link := by
  obtain ⟨entry, hentry, hnew⟩ := h
  refine ⟨entry.model, by rw [model?, hentry]; rfl, ?_⟩
  obtain hnew | ⟨kept, hkept, hid, hnew⟩ := hnew
  · exact congrArg Neighbor.link hnew
  · calc nb.link = (kept.relink (n.freshNeighbor i nb.id entry.model)).link :=
          congrArg Neighbor.link hnew
      _ = ⟨nb.id, entry.model, n.relation i nb.id, true, (n.neighborsOf nb.id).length⟩ := by
          rw [← hid, ← hold kept hkept]
          rfl

/-- All ties of a synchronized agent are those that the network gives it now. -/
theorem Synced.links_eq {n : Network α} {a a' : Agent α} (h : n.Synced a a')
    (ha : ∀ nb ∈ a.neighbors, nb.approximated = true) :
    a'.links = (n.freshNeighbors a.id (n.neighborsOf a.id)).map (·.link) := by
  have hnew : ∀ nb ∈ a'.neighbors,
      ((n.model? nb.id).map (n.freshNeighbor a.id nb.id)).map (·.link) = some nb.link := by
    intro nb hnb
    obtain ⟨model, hmodel, hlink⟩ := (h.origin nb hnb).link ha
    rw [hmodel, hlink]
    rfl
  calc a'.links = a'.neighbors.filterMap fun nb => some nb.link := by
        rw [List.filterMap_eq_map']
        rfl
    _ = a'.neighbors.filterMap fun nb =>
          ((n.model? nb.id).map (n.freshNeighbor a.id nb.id)).map (·.link) :=
        (List.filterMap_congr hnew).symm
    _ = (n.freshNeighbors a.id (n.neighborsOf a.id)).map (·.link) := by
        rw [← h.ids, freshNeighbors, List.map_filterMap, Agent.neighborIds, List.filterMap_map]
        rfl

/-- An agent that was built with a horizon from `t0` on. Around it the network changes, or is left as
it is where a change is refused, and from time to time the agent is synchronized. -/
inductive Upkept (i : AgentId) (t0 : α) : Network α → Agent α → Prop
  | build {n : Network α} {a : Agent α} (hn : n.Reachable) (h : n.buildAgent i t0 = .ok a) :
      Upkept i t0 n a
  | change {n : Network α} {a : Agent α} (h : Upkept i t0 n a) (change : Change α) :
      Upkept i t0 (n.attempt change) a
  | sync {n : Network α} {a a' : Agent α} (h : Upkept i t0 n a) (hsync : n.syncAgent a = .ok a') :
      Upkept i t0 n a'

namespace Upkept

variable {n : Network α} {i : AgentId} {t0 : α} {a : Agent α}

theorem reachable (h : n.Upkept i t0 a) : n.Reachable := by
  induction h with
  | build hn => exact hn
  | change _ change ih => exact ih.attempt change
  | sync _ _ ih => exact ih

/-- What synchronization relies on, and leaves as it finds it. -/
structure Steady (i : AgentId) (t0 : α) (a : Agent α) : Prop where
  id : a.id = i
  nodup : a.neighborIds.Nodup
  approximated : ∀ nb ∈ a.neighbors, nb.approximated = true
  t0 : a.agentState.t0 = t0

theorem Steady.synced {a' : Agent α} (ha : Steady i t0 a) (h : n.Synced a a') : Steady i t0 a' where
  id := h.id.trans ha.id
  nodup := h.nodup
  approximated := h.approximated ha.approximated
  t0 := by rw [h.rest]; exact ha.t0

theorem steady_fresh (i : AgentId) (t0 : α) (entry : AgentEntry α) :
    Steady i t0 { Agent.new i entry.model with
      agentState := .constant i [t0] entry.xInit entry.uInit [] } :=
  ⟨rfl, List.nodup_nil, fun _ h => absurd h List.not_mem_nil, rfl⟩

theorem steady (h : n.Upkept i t0 a) : Steady i t0 a := by
  induction h with
  | build _ h =>
    obtain ⟨entry, -, hsynced⟩ := buildAgent_synced h
    exact (steady_fresh i t0 entry).synced hsynced
  | change _ _ ih => exact ih
  | sync _ hsync ih => exact ih.synced (syncAgent_synced ih.nodup hsync)

/-- As long as the agent is registered, it can be synchronized and it can be built anew, and both give
it the same neighbors, in the same order and with the same ties, and the same desired record. -/
theorem sync_eq_build (h : n.Upkept i t0 a) (hi : i ∈ n.ids) :
    ∃ synced fresh, n.syncAgent a = .ok synced ∧ n.buildAgent i t0 = .ok fresh ∧
      synced.links = fresh.links ∧ synced.desired = fresh.desired := by
  have hn := h.reachable.registered
  obtain ⟨rfl, hnodup, happroximated, rfl⟩ := h.steady
  obtain ⟨entry, hentry⟩ := hn.entry_of_mem hi
  obtain ⟨synced, hsync⟩ := hn.exists_syncAgent hi
  refine ⟨synced, _, hsync, hn.buildAgent_eq _ hentry, ?_, ?_⟩
  · exact (syncAgent_synced hnodup hsync).links_eq happroximated
  · obtain ⟨other, hother, hdesired⟩ := syncAgent_desired hnodup hsync
    obtain rfl : entry = other := Option.some.inj (hentry.symm.trans hother)
    exact hdesired

/-- Three tanks. The second one feeds the first. -/
def tanks : Network Rat :=
  attemptAll .empty [.registerAgent 0 tank.toModel [1] [0], .registerAgent 1 tank.toModel [2] [0],
    .registerAgent 2 tank.toModel [3] [0], .registerCoupling 0 1 pipe.toModel]

/-- The second tank has got another neighbor. -/
def joined : Network Rat := tanks.attempt (.registerCoupling 1 2 pipe.toModel)

/-- The first tank does not depend on it any more, but it depends on the first one. -/
def turned : Network Rat :=
  (joined.attempt (.deregisterCoupling 0 1)).attempt (.registerCoupling 1 0 pipe.toModel)

theorem turned_sync_eq_build :
    0 ∈ turned.ids ∧
      ∃ built kept synced fresh, tanks.buildAgent 0 0 = .ok built ∧
        joined.syncAgent built = .ok kept ∧ turned.syncAgent kept = .ok synced ∧
        turned.buildAgent 0 0 = .ok fresh ∧ synced.links = fresh.links ∧
        synced.desired = fresh.desired ∧
        built.links.map (·.neighborCount) = [1] ∧ synced.links.map (·.neighborCount) = [2] := by
  have hreachable : tanks.Reachable := Reachable.empty.attemptAll _
  have hids : 0 ∈ turned.ids := by decide
  obtain ⟨built, hbuilt⟩ := (hreachable.registered.exists_buildAgent 0 0).mpr (by decide)
  have hchanged : joined.Upkept 0 0 built := (build hreachable hbuilt).change _
  obtain ⟨kept, _, hkept, -⟩ := hchanged.sync_eq_build (by decide)
  have hturned : turned.Upkept 0 0 kept := ((hchanged.sync hkept).change _).change _
  obtain ⟨synced, fresh, hsynced, hfresh, hlinks, hdesired⟩ := hturned.sync_eq_build hids
  have hbefore : (tanks.buildAgent 0 0).toOption.map (·.links.map (·.neighborCount)) = some [1] := by
    decide +kernel
  have hafter : (turned.buildAgent 0 0).toOption.map (·.links.map (·.neighborCount)) = some [2] := by
    decide +kernel
  rw [hbuilt] at hbefore
  rw [hfresh] at hafter
  exact ⟨hids, built, kept, synced, fresh, hbuilt, hkept, hsynced, hfresh, hlinks, hdesired,
    Option.some.inj hbefore, by rw [hlinks]; exact Option.some.inj hafter⟩

end Upkept

end ConsensusControl.Network
