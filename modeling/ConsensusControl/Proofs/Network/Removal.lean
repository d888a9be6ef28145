import ConsensusControl.Agent.Records
import ConsensusControl.Proofs.Network.Upkeep

namespace ConsensusControl

/-- All that an agent keeps for a neighbor. -/
def Neighbor.kept {α : Type} (nb : Neighbor α) : List (String × StateRecord α) × Vec α :=
  (nb.records, nb.localInfluence)

namespace Network

variable {α : Type} [Scalar α]

theorem syncNeighbor_kept {n : Network α} {a b : Agent α} {j k : AgentId} {nb : Neighbor α}
    (ha : a.neighborIds.Nodup) (h : n.syncNeighbor a j = .ok b) (hnb : b.neighbor? k = some nb) :
    nb.kept = ((a.neighbor? k).getD (.new k nb.model nb.relation)).kept := by
  obtain ⟨entry, -, ⟨-, rfl⟩ | ⟨-, rfl⟩⟩ := syncNeighbor_eq_ok ha h
  · have hfound : (a.neighbor? k).map (.relinkAt j (n.freshNeighbor a.id j entry.model)) =
        some nb := by
      rw [← hnb, Agent.neighbor?, Agent.neighbor?, List.find?_map]
      simp only [Function.comp_def, Neighbor.id_relinkAt]
    obtain ⟨old, hold, rfl⟩ := Option.map_eq_some_iff.mp hfound
    rw [hold, Option.getD_some, Neighbor.relinkAt]
    split <;> rfl
  · rw [Agent.neighbor?, List.find?_append] at hnb
    rcases hold : a.neighbor? k with _ | old
    · rw [← Agent.neighbor?, hold, Option.none_or] at hnb
      have hnew := List.mem_singleton.mp (List.mem_of_find?_eq_some hnb)
      rw [hnew]
      rfl
    · rw [← Agent.neighbor?, hold, Option.some_or] at hnb
      rw [← Option.some.inj hnb]
      rfl

theorem foldlM_kept {n : Network α} {js : List AgentId} {a b : Agent α} {k : AgentId}
    {nb : Neighbor α} (ha : a.neighborIds.Nodup) (h : js.foldlM n.syncNeighbor a = .ok b)
    (hnb : b.neighbor? k = some nb) :
    nb.kept = ((a.neighbor? k).getD (.new k nb.model nb.relation)).kept := by
  induction js generalizing a with
  | nil =>
    rw [List.foldlM_nil, pure_eq_ok] at h
    rw [h, hnb]
    rfl
  | cons j js ih =>
    rw [List.foldlM_cons, bind_eq_ok] at h
    obtain ⟨c, hc, h⟩ := h
    have hfirst := syncNeighbor_passed ha hc
    rw [ih hfirst.nodup h]
    rcases hk : c.neighbor? k with _ | mid
    · -- Nobody leaves in a pass.
      have hnone : a.neighbor? k = none := by
        rw [← Option.not_isSome_iff_eq_none, Agent.neighbor?_isSome]
        intro hmem
        have hthere := Agent.neighbor?_isSome.mpr ((hfirst.ids k).mpr (.inl hmem))
        simp [hk] at hthere
      rw [hnone]
    · rw [Option.getD_some, syncNeighbor_kept ha hc hk]
      cases a.neighbor? k <;> rfl

/-- Records are kept by id. -/
theorem syncAgent_kept {n : Network α} {a a' : Agent α} (ha : a.neighborIds.Nodup)
    (h : n.syncAgent a = .ok a') :
    ∀ nb ∈ a'.neighbors,
      nb.kept = ((a.neighbor? nb.id).getD (.new nb.id nb.model nb.relation)).kept := by
  have hids := (syncAgent_synced ha h).ids
  unfold syncAgent at h
  obtain ⟨entry, -, h⟩ := bind_eq_ok.mp h
  obtain ⟨synced, hfold, h⟩ := bind_eq_ok.mp h
  obtain rfl := pure_eq_ok.mp h
  intro nb hnb
  have hjs := n.neighborsOf_nodup a.id
  have hstart : Agent.neighborIds { a with
      desired := .constant a.id [a.agentState.t0] entry.xDesired entry.uDesired []
      neighbors := a.neighbors.filter fun nb => (n.neighborsOf a.id).contains nb.id } |>.Nodup :=
    ha.sublist (List.filter_sublist.map _)
  have hmem : nb ∈ synced.neighbors := (List.mergeSort_perm _ _).mem_iff.mp hnb
  have hlinked : nb.id ∈ n.neighborsOf a.id := hids ▸ Agent.mem_neighborIds.mpr ⟨nb, hnb, rfl⟩
  have hfound := Agent.neighbor?_of_mem (foldlM_passed hjs hstart hfold).nodup hmem
  -- Neighbors that are still linked are not filtered out before the pass.
  have hfilter : (a.neighbors.filter fun nb => (n.neighborsOf a.id).contains nb.id).find?
      (·.id == nb.id) = a.neighbor? nb.id := by
    rw [List.find?_filter, Agent.neighbor?]
    congr 1
    funext old
    by_cases hold : old.id = nb.id
    · simp [hold, hlinked]
    · simp [hold]
  rw [foldlM_kept hstart hfold hfound, Agent.neighbor?, hfilter]

/-- The change couples two agents, in one direction or the other. -/
def Couples (i j : AgentId) : Change α → Prop
  | .registerCoupling agent neighbor _ => agent = i ∧ neighbor = j ∨ agent = j ∧ neighbor = i
  | _ => False

/-- Agents are linked by changes that couple them only. -/
theorem not_linked_attempt {n : Network α} {i j : AgentId} (h : j ∉ n.neighborsOf i)
    {change : Change α} (hchange : ¬ Couples i j change) : j ∉ (n.attempt change).neighborsOf i := by
  unfold attempt
  split
  · next n' hn' =>
    intro hlinked
    obtain ⟨c, hc, hpair⟩ := mem_neighborsOf.mp hlinked
    refine h (mem_neighborsOf.mpr ⟨c, ?_, hpair⟩)
    cases change with
    | registerAgent id model x u =>
      obtain ⟨-, -, -, -, -, rfl⟩ := registerAgent_eq_ok hn'
      exact hc
    | deregisterAgent id =>
      rw [apply_deregisterAgent_eq_ok hn'] at hc
      exact List.mem_of_mem_filter hc
    | setDesired id x u =>
      obtain ⟨entry, -, -, -, rfl⟩ := setDesired_eq_ok hn'
      exact hc
    | setInitial id x =>
      obtain ⟨entry, -, -, rfl⟩ := setInitial_eq_ok hn'
      exact hc
    | registerCoupling agent neighbor model =>
      obtain ⟨-, -, -, -, rfl⟩ := registerCoupling_eq_ok hn'
      rcases List.mem_cons.mp hc with rfl | hc
      · exact absurd hpair hchange
      · exact hc
    | deregisterCoupling agent neighbor =>
      obtain ⟨-, rfl⟩ := deregisterCoupling_eq_ok hn'
      exact List.mem_of_mem_filter hc
  · exact h

theorem not_linked_attemptAll {n : Network α} {i j : AgentId} (h : j ∉ n.neighborsOf i)
    {changes : List (Change α)} (hchanges : ∀ change ∈ changes, ¬ Couples i j change) :
    j ∉ (n.attemptAll changes).neighborsOf i := by
  induction changes generalizing n with
  | nil => exact h
  | cons change changes ih =>
    exact ih (not_linked_attempt h (hchanges change List.mem_cons_self))
      fun k hk => hchanges k (.tail _ hk)

/-- Whether there was such an agent or not, nobody is linked to it after its removal. -/
theorem Registered.not_linked_deregister {n : Network α} (hn : n.Registered) (i j : AgentId) :
    j ∉ (n.attempt (.deregisterAgent j)).neighborsOf i := by
  intro hlinked
  unfold attempt at hlinked
  split at hlinked
  · next n' hn' =>
    rw [apply_deregisterAgent_eq_ok hn'] at hlinked
    obtain ⟨c, hc, hpair⟩ := mem_neighborsOf.mp hlinked
    have htouch := (List.mem_filter.mp hc).2
    obtain ⟨-, rfl⟩ | ⟨rfl, -⟩ := hpair
    · simp [Coupling.touches] at htouch
    · simp [Coupling.touches] at htouch
  · next e he =>
    obtain ⟨entry, hentry⟩ := hn.entry_of_mem (hn.neighbor_mem hlinked)
    simp [Network.apply, Network.deregisterAgent, getEntry_eq_ok.mpr hentry, bind, Except.bind,
      Functor.map, Except.map, pure, Except.pure] at he

/-- A neighbor that the agent did not have before has no records. -/
theorem syncAgent_blank {n : Network α} {a a' : Agent α} (ha : a.neighborIds.Nodup)
    (h : n.syncAgent a = .ok a') {nb : Neighbor α} (hnb : nb ∈ a'.neighbors)
    (hnew : nb.id ∉ a.neighborIds) :
    nb.kept = (Neighbor.new nb.id nb.model nb.relation).kept := by
  have hnone : a.neighbor? nb.id = none := by
    rw [← Option.not_isSome_iff_eq_none, Agent.neighbor?_isSome]
    exact hnew
  rw [syncAgent_kept ha h nb hnb, hnone]
  rfl

/-- An agent is synchronized, its network changes, with the removal of `j` among the changes, and it
is synchronized again. Then `j` is a neighbor only if a later change couples the two. The records of
all neighbors are those that were kept under their ids. They are blank for `j` if another
synchronization came right after the removal. -/
theorem Reachable.sync_after_removal {n : Network α} (hn : n.Reachable) {a first : Agent α}
    (ha : a.neighborIds.Nodup) (hfirst : n.syncAgent a = .ok first)
    (before after : List (Change α)) (j : AgentId) :
    (∀ second, (n.attemptAll (before ++ .deregisterAgent j :: after)).syncAgent first = .ok second →
      ((∀ change ∈ after, ¬ Couples a.id j change) → j ∉ second.neighborIds) ∧
      ∀ nb ∈ second.neighbors,
        nb.kept = ((first.neighbor? nb.id).getD (.new nb.id nb.model nb.relation)).kept) ∧
    ∀ between second, (n.attemptAll (before ++ [.deregisterAgent j])).syncAgent first = .ok between →
      (n.attemptAll (before ++ .deregisterAgent j :: after)).syncAgent between = .ok second →
      ∀ nb ∈ second.neighbors, nb.id = j →
        nb.kept = (Neighbor.new j nb.model nb.relation).kept := by
  have hsynced := syncAgent_synced ha hfirst
  have hnodup := hsynced.nodup
  have hremoved : j ∉ (n.attemptAll (before ++ [.deregisterAgent j])).neighborsOf a.id := by
    rw [attemptAll_append]
    exact (hn.attemptAll before).registered.not_linked_deregister a.id j
  refine ⟨fun second hsecond => ⟨fun hafter => ?_, syncAgent_kept hnodup hsecond⟩, ?_⟩
  · rw [(syncAgent_synced hnodup hsecond).ids, hsynced.id, List.append_cons, attemptAll_append]
    exact not_linked_attemptAll hremoved hafter
  · intro between second hbetween hsecond nb hnb hj
    have hgone := syncAgent_synced hnodup hbetween
    subst hj
    refine syncAgent_blank hgone.nodup hsecond hnb ?_
    rwa [hgone.ids, hsynced.id]

/-- A tank that drains twice as fast. -/
def leakingTank : LinearAgent Rat := { tank with a := ⟨[[-2]]⟩ }

/-- The second tank is removed, and another one takes its place and its id. -/
def takeover : List (Change Rat) :=
  [.deregisterAgent 1, .registerAgent 1 leakingTank.toModel [2] [0],
    .registerCoupling 0 1 pipe.toModel]

/-- The first tank after a synchronization, with an influence of the second one that it has computed. -/
def influenced : Except ConfigError (Agent Rat) := do
  let built ← Upkept.tanks.buildAgent 0 0
  Upkept.tanks.syncAgent (built.modifyNeighbor 1 fun nb => { nb with localInfluence := [4] })

/-- The second tank leaves, and the third one stays with a new desired state. -/
def departure : List (Change Rat) := [.deregisterAgent 1, .setDesired 2 [1] [0]]

theorem takeover_after_removal :
    ∃ a first, a.neighborIds.Nodup ∧ Upkept.tanks.syncAgent a = .ok first ∧
      (∃ second, (Upkept.tanks.attemptAll departure).syncAgent first = .ok second ∧
        1 ∉ second.neighborIds) ∧
      (∃ second, (Upkept.tanks.attemptAll takeover).syncAgent first = .ok second ∧
        1 ∈ second.neighborIds ∧
        ∀ nb ∈ second.neighbors,
          nb.kept = ((first.neighbor? nb.id).getD (.new nb.id nb.model nb.relation)).kept) ∧
      ∃ between second,
        (Upkept.tanks.attemptAll [.deregisterAgent 1]).syncAgent first = .ok between ∧
        (Upkept.tanks.attemptAll takeover).syncAgent between = .ok second ∧ 1 ∈ second.neighborIds ∧
        ∀ nb ∈ second.neighbors, nb.id = 1 →
          nb.kept = (Neighbor.new 1 nb.model nb.relation).kept := by
  have hn : Upkept.tanks.Reachable := Reachable.empty.attemptAll _
  obtain ⟨a, ha⟩ := (hn.registered.exists_buildAgent 0 0).mpr (by decide)
  have hid : a.id = 0 := (hn.fits ha).id
  have hnodup : a.neighborIds.Nodup := (hn.fits ha).ascending.imp fun h => Nat.ne_of_lt h
  obtain ⟨first, hfirst⟩ := hn.registered.exists_syncAgent (a := a) (by rw [hid]; decide)
  have hsynced := syncAgent_synced hnodup hfirst
  have hfirstId : first.id = 0 := hsynced.id.trans hid
  obtain ⟨gone, hgone⟩ := (hn.attemptAll departure).registered.exists_syncAgent
    (a := first) (by rw [hfirstId]; decide)
  obtain ⟨second, hsecond⟩ := (hn.attemptAll takeover).registered.exists_syncAgent
    (a := first) (by rw [hfirstId]; decide)
  obtain ⟨between, hbetween⟩ := (hn.attemptAll [.deregisterAgent 1]).registered.exists_syncAgent
    (a := first) (by rw [hfirstId]; decide)
  have hgap := syncAgent_synced hsynced.nodup hbetween
  have hbetweenId : between.id = 0 := hgap.id.trans hfirstId
  obtain ⟨last, hlast⟩ := (hn.attemptAll takeover).registered.exists_syncAgent
    (a := between) (by rw [hbetweenId]; decide)
  have hleave := (hn.sync_after_removal hnodup hfirst [] [.setDesired 2 [1] [0]] 1).1 gone hgone
  have hback := hn.sync_after_removal hnodup hfirst [] takeover.tail 1
  refine ⟨a, first, hnodup, hfirst, ⟨gone, hgone, hleave.1 ?_⟩,
    ⟨second, hsecond, ?_, (hback.1 second hsecond).2⟩,
    between, last, hbetween, hlast, ?_, hback.2 between last hbetween hlast⟩
  · simp [Couples]
  · rw [(syncAgent_synced hsynced.nodup hsecond).ids, hfirstId]
    decide
  · rw [(syncAgent_synced hgap.nodup hlast).ids, hbetweenId]
    decide

theorem replaced_tank_keeps_records :
    ∃ first second nb, influenced = .ok first ∧
      (Upkept.tanks.attemptAll takeover).syncAgent first = .ok second ∧
      second.neighbor? 1 = some nb ∧ nb.localInfluence = [4] ∧
      nb.kept ≠ (Neighbor.new 1 nb.model nb.relation).kept := by
  have hvalues : (influenced >>= (Upkept.tanks.attemptAll takeover).syncAgent).toOption.bind
      (fun second => (second.neighbor? 1).map (·.localInfluence)) = some [4] := by
    decide +kernel
  obtain ⟨second, hsecond, hnb⟩ := Option.bind_eq_some_iff.mp hvalues
  obtain ⟨first, hfirst, hsync⟩ := bind_eq_ok.mp (toOption_eq_some.mp hsecond)
  obtain ⟨nb, hfound, hinfluence⟩ := Option.map_eq_some_iff.mp hnb
  refine ⟨first, second, nb, hfirst, hsync, hfound, hinfluence, fun hsame => ?_⟩
  have hblank : nb.localInfluence = [] := congrArg Prod.snd hsame
  rw [hblank] at hinfluence
  cases hinfluence

end Network

end ConsensusControl
