import ConsensusControl.Proofs.Consensus.Fitting
import ConsensusControl.Proofs.Ensemble.Preparation
import ConsensusControl.Proofs.Network.Upkeep

namespace ConsensusControl

namespace Controller

variable {α : Type} [Scalar α] {n : Network α} {c : Controller α}

/-- A controller in line with its network prepares itself if its options are valid. -/
theorem Linked.prepare_eq (h : c.Linked n) (hn : n.Reachable)
    (hmodel : n.model? c.agent.id = some c.agent.model) (hvalid : c.options.validate = .ok ()) :
    ∃ layout, c.prepare = (c.approximating.laidOut layout, .ok ()) := by
  obtain ⟨m, hm⟩ := hn.exists_indexMap hmodel h.ids fun nb hnb =>
    h.models nb.link (List.mem_map_of_mem hnb)
  have hsame : c.approximating.agent.indexMap = .ok m := hm
  have hlayout : ∃ layout, c.approximating.agent.layout = .ok layout := by
    rw [Agent.layout, hsame]
    exact ⟨_, rfl⟩
  obtain ⟨layout, hlayout⟩ := hlayout
  exact ⟨layout, prepare_of_layout hvalid hlayout⟩

end Controller

namespace Ensemble

variable {σ α : Type}

/-- No operation of a sequence fails if each leads to where the next one does not. -/
theorem exists_returns_forM {ι : Type} {f : ι → Run σ α PUnit} {J : List ι → Ensemble σ α → Prop}
    (hf : ∀ i rest e, J (i :: rest) e → ∃ e', Returns (f i) e ⟨⟩ e' ∧ J rest e') (l : List ι)
    {e : Ensemble σ α} (h : J l e) : ∃ e', Returns (l.forM f) e ⟨⟩ e' := by
  induction l generalizing e with
  | nil => exact ⟨e, returns_pure.mpr ⟨rfl, rfl⟩⟩
  | cons i l ih =>
    obtain ⟨e₁, hfirst, hnext⟩ := hf i l e h
    obtain ⟨e', hrest⟩ := ih hnext
    exact ⟨e', returns_forM_cons.mpr ⟨e₁, hfirst, hrest⟩⟩

variable [Scalar α] {t0 : α} {e : Ensemble σ α}

theorem exists_syncController (hn : e.network.Registered)
    (hkeyed : ∀ id c, e.controllers.lookup id = some c → c.agent.id = id) {id : AgentId}
    (hid : id ∈ e.network.ids) : ∃ c, Returns (syncController t0 id) e ()
      { e with controllers := Table.insert id c e.controllers } := by
  cases hc : e.controllers.lookup id with
  | some c =>
    obtain ⟨a, ha⟩ := hn.exists_syncAgent (a := c.agent) (hkeyed id c hc ▸ hid)
    refine ⟨c.modifyAgent fun _ => a, ?_⟩
    unfold syncController
    apply returns_get_bind.mpr
    simp only [hc]
    exact returns_configured_bind.mpr ⟨a, ha, returns_putController.mpr rfl⟩
  | none =>
    obtain ⟨a, ha⟩ := (hn.exists_buildAgent id t0).mpr hid
    refine ⟨.new a e.solver e.options, ?_⟩
    unfold syncController
    apply returns_get_bind.mpr
    simp only [hc]
    exact returns_configured_bind.mpr ⟨a, ha, returns_putController.mpr rfl⟩

theorem exists_prepareController (hn : e.network.Reachable) {id : AgentId} {c : Controller α}
    (hlinked : c.Linked e.network) (hmodel : e.network.model? c.agent.id = some c.agent.model)
    (hvalid : c.options.validate = .ok ()) :
    ∃ e', Returns (prepareController t0 (id, c)) e () e' := by
  have hsite : (c.startAt t0).site = c.site := c.site_startAt t0
  have hid : (c.startAt t0).agent.id = c.agent.id := congrArg Controller.Site.id hsite
  have hsame : (c.startAt t0).agent.model = c.agent.model := congrArg Controller.Site.model hsite
  have hoptions : (c.startAt t0).options = c.options := congrArg Controller.Site.options hsite
  obtain ⟨layout, hprepare⟩ := (hlinked.of_site hsite).prepare_eq hn
    (hid.symm ▸ hsame.symm ▸ hmodel) (hoptions.symm ▸ hvalid)
  unfold prepareController
  dsimp only
  split
  · rw [hprepare]
    let last : Ensemble σ α := { e with
      controllers := Table.insert id ((c.startAt t0).approximating.laidOut layout).beginSolve
        (Table.insert id ((c.startAt t0).approximating.laidOut layout) e.controllers) }
    refine ⟨last, returns_bind.mpr ⟨(), _, returns_putController.mpr rfl, ?_⟩⟩
    exact returns_configured_bind.mpr ⟨(), rfl, returns_putController.mpr rfl⟩
  · exact ⟨_, returns_putController.mpr rfl⟩

variable [FaithfulTransport σ α]

theorem Syncing.exists_returns {id : AgentId} {rest : List AgentId} (h : Syncing (id :: rest) e)
    (hids : ∀ k ∈ id :: rest, k ∈ e.network.ids) (t0 : α) :
    ∃ e', Returns (syncController t0 id) e () e' ∧ Syncing rest e' ∧
      ∀ k ∈ rest, k ∈ e'.network.ids := by
  have hreturns : ∃ c, Returns (syncController t0 id) e ()
      { e with controllers := Table.insert id c e.controllers } :=
    exists_syncController h.registered h.keyed (hids id List.mem_cons_self)
  obtain ⟨c, hc⟩ := hreturns
  refine ⟨_, hc, (triple_syncController t0 id rest).of_returns h hc, fun k hk => ?_⟩
  exact hids k (List.mem_cons_of_mem id hk)

theorem Orderly.exists_syncTopology (h : e.Orderly) (t0 : α) :
    ∃ e', Returns (syncTopology t0) e () e' := by
  unfold syncTopology
  simp only [returns_get_bind]
  split
  · next hchanged =>
    have hstart : Syncing e.network.ids e :=
      { toOrderly := h
        changed := hchanged
        synced := fun id c hc => .inl (Network.mem_ids_of_model (h.models id c hc))
        covered := fun id hid => .inl hid }
    have hloop : ∃ e', Returns (e.network.ids.forM (syncController t0)) e () e' :=
      exists_returns_forM (J := fun rest e => Syncing rest e ∧ ∀ k ∈ rest, k ∈ e.network.ids)
        (fun id rest e h => h.1.exists_returns h.2 t0) _ ⟨hstart, fun _ hid => hid⟩
    obtain ⟨e', he'⟩ := hloop
    refine ⟨{ e' with topologyChanged := false }, returns_get_bind.mpr ?_⟩
    exact returns_bind.mpr ⟨(), e', he', returns_modify.mpr rfl⟩
  · exact ⟨e, returns_pure.mpr ⟨rfl, rfl⟩⟩

/-- In line with the network, the next controller can be prepared. -/
theorem Preparing.exists_returns {id : AgentId} {c : Controller α} {rest : Table (Controller α)}
    (h : Preparing ((id, c) :: rest) e) (hn : e.network.Reachable)
    (hvalid : e.options.validate = .ok ()) (t0 : α) :
    ∃ e', Returns (prepareController t0 (id, c)) e () e' ∧ Preparing rest e' ∧ e'.bare = e.bare := by
  have hc : e.controllers.lookup id = some c := h.pending _ List.mem_cons_self
  have hmodel : e.network.model? c.agent.id = some c.agent.model := by
    rw [h.keyed id c hc]
    exact h.models id c hc
  have hoptions : c.options = e.options := (h.evolved id c hc).options
  have hreturns : ∃ e', Returns (prepareController t0 (id, c)) e () e' :=
    exists_prepareController hn (h.linked h.unchanged id c hc) hmodel (hoptions.symm ▸ hvalid)
  obtain ⟨e', he'⟩ := hreturns
  exact ⟨e', he', (triple_prepareController t0 (id, c) rest).of_returns h he',
    (confined_prepareController he').frame⟩

/-- A preparation succeeds if the options are valid. -/
theorem Orderly.exists_prepare (h : e.Orderly) (hn : e.network.Reachable)
    (hvalid : e.options.validate = .ok ()) (t0 : α) : ∃ e', Returns (prepare t0) e () e' := by
  obtain ⟨e₁, hsync⟩ := h.exists_syncTopology t0
  obtain ⟨hbare, -⟩ := returns_syncTopology h.registered.sorted.nodup hsync
  obtain ⟨h₁, hunchanged⟩ := (triple_syncTopology t0).of_returns h hsync
  have hstart : Preparing e₁.controllers e₁ :=
    { toOrderly := h₁
      unchanged := hunchanged
      pending := fun p hp => Table.lookup_of_mem h₁.sorted hp
      distinct := h₁.sorted.nodup
      prepared := fun id c hc => .inl (Table.mem_of_lookup hc) }
  have hloop : ∃ e', Returns (e₁.controllers.forM (prepareController t0)) e₁ () e' := by
    refine exists_returns_forM (J := fun rest e' => Preparing rest e' ∧ e'.bare = e₁.bare)
      (fun p rest e₂ h₂ => ?_) _ ⟨hstart, rfl⟩
    obtain ⟨hpreparing, hsame⟩ := h₂
    have hframe : e₂.bare = { e.bare with topologyChanged := false } := hsame.trans hbare
    have hnetwork : e₂.network = e.network := by simpa [bare] using congrArg Ensemble.network hframe
    have hoptions : e₂.options = e.options := by simpa [bare] using congrArg Ensemble.options hframe
    obtain ⟨e₃, hreturns, hnext, hkept⟩ :=
      hpreparing.exists_returns (hnetwork ▸ hn) (hoptions ▸ hvalid) t0
    exact ⟨e₃, hreturns, hnext, hkept.trans hsame⟩
  obtain ⟨e', he'⟩ := hloop
  unfold prepare
  exact ⟨e', returns_bind.mpr ⟨(), e₁, hsync, returns_get_bind.mpr he'⟩⟩

end Ensemble

end ConsensusControl
