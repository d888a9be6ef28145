import ConsensusControl.Transport.Relay
import ConsensusControl.Proofs.Checked
import ConsensusControl.Proofs.Table

namespace ConsensusControl

/-- A transport that makes nothing up: what comes out under a key was sent under it. Records may be
late, lost or left behind. -/
class FaithfulTransport (σ : Type) (α : outParam Type) extends Transport σ α where
  InTransit : Envelope α → σ → Prop
  inTransit_register : ∀ {id : AgentId} {s : σ} {e : Envelope α},
    InTransit e (Transport.register id s) → InTransit e s
  inTransit_deregister : ∀ {id : AgentId} {s : σ} {e : Envelope α},
    InTransit e (Transport.deregister id s) → InTransit e s
  inTransit_send : ∀ {s s' : σ} {sent e : Envelope α},
    Transport.send sent s = .ok s' → InTransit e s' → e = sent ∨ InTransit e s
  inTransit_receive : ∀ {s s' : σ} {id : AgentId} {key : Key} {r : Option (StateRecord α)}
    {e : Envelope α}, Transport.receive id key s = .ok (r, s') → InTransit e s' → InTransit e s
  inTransit_of_receive : ∀ {s s' : σ} {id : AgentId} {key : Key} {r : StateRecord α},
    Transport.receive id key s = .ok (some r, s') →
      InTransit ⟨key.sender, id, key.round, key.kind, r⟩ s

variable {α : Type}

namespace Mailbox

/-- The record waits under the key, in the queue or parked. -/
def Holds (m : Mailbox α) (key : Key) (r : StateRecord α) : Prop :=
  (∃ e ∈ m.queue, e.key = key ∧ e.record = r) ∨ (key, r) ∈ m.parked

theorem holds_deliver {m : Mailbox α} {e : Envelope α} {key : Key} {r : StateRecord α}
    (h : (m.deliver e).Holds key r) : e.key = key ∧ e.record = r ∨ m.Holds key r := by
  rcases h with ⟨e', he', hkey⟩ | hparked
  · rcases List.mem_append.mp he' with hold | hnew
    · exact .inr (.inl ⟨e', hold, hkey⟩)
    · exact .inl (List.mem_singleton.mp hnew ▸ hkey)
  · exact .inr (.inr hparked)

theorem holds_of_park {round : Nat} {e : Envelope α} {parked : List (Key × StateRecord α)}
    {key : Key} {r : StateRecord α} (h : (key, r) ∈ park round e parked) :
    (e.key = key ∧ e.record = r) ∨ (key, r) ∈ parked := by
  unfold park at h
  split at h
  · exact .inr h
  · rcases List.mem_cons.mp h with heq | hmem
    · obtain ⟨hkey, hrecord⟩ := Prod.mk.inj heq
      exact .inl ⟨hkey.symm, hrecord.symm⟩
    · exact .inr (List.mem_of_mem_filter hmem)

/-- A search finds what the mailbox holds, and leaves nothing else. -/
theorem holds_of_search {key : Key} {queue : List (Envelope α)}
    {parked : List (Key × StateRecord α)} :
    (∀ r, (search key queue parked).1 = some r → Holds ⟨queue, parked⟩ key r) ∧
      ∀ k r, (search key queue parked).2.Holds k r → Holds ⟨queue, parked⟩ k r := by
  induction queue generalizing parked with
  | nil => exact ⟨by simp [search], fun k r h => h⟩
  | cons e queue ih =>
    unfold search
    split
    · next hkey =>
      refine ⟨fun r hr => ?_, fun k r h => ?_⟩
      · exact .inl ⟨e, by simp, hkey, Option.some.inj hr⟩
      · exact h.imp (fun ⟨e', he', hk⟩ => ⟨e', List.mem_cons_of_mem e he', hk⟩) id
    · have hpark : ∀ k r, Holds ⟨queue, park key.round e parked⟩ k r →
          Holds ⟨e :: queue, parked⟩ k r := by
        intro k r h
        obtain ⟨e', he', hk⟩ | hmem := h
        · exact .inl ⟨e', List.mem_cons_of_mem e he', hk⟩
        · rcases holds_of_park hmem with hk | hmem
          · exact .inl ⟨e, by simp, hk⟩
          · exact .inr hmem
      obtain ⟨hfound, hleft⟩ := @ih (park key.round e parked)
      exact ⟨fun r hr => hpark _ r (hfound r hr), fun k r h => hpark k r (hleft k r h)⟩

theorem holds_of_receive (key : Key) (m : Mailbox α) :
    (∀ r, (m.receive key).1 = some r → m.Holds key r) ∧
      ∀ k r, (m.receive key).2.Holds k r → m.Holds k r := by
  have hdropped : ∀ k r, Holds ⟨m.queue, m.parked.filter (key.round ≤ ·.1.round)⟩ k r →
      m.Holds k r := fun k r h => h.imp id List.mem_of_mem_filter
  unfold receive
  dsimp only
  split
  · next record hlookup =>
    refine ⟨fun r hr => ?_, fun k r h => ?_⟩
    · obtain ⟨l₁, l₂, hsplit, -⟩ := List.lookup_eq_some_iff.mp hlookup
      refine hdropped key r (.inr ?_)
      dsimp only
      rw [hsplit, ← Option.some.inj hr]
      simp
    · exact hdropped k r (h.imp id List.mem_of_mem_filter)
  · obtain ⟨hfound, hleft⟩ := @holds_of_search α key m.queue
      (m.parked.filter (key.round ≤ ·.1.round))
    exact ⟨fun r hr => hdropped key r (hfound r hr), fun k r h => hdropped k r (hleft k r h)⟩

end Mailbox

namespace Direct

/-- The envelope waits in a mailbox of its receiver. -/
def InTransit (e : Envelope α) (d : Direct α) : Prop :=
  ∃ m, (e.receiver, m) ∈ d.mailboxes ∧ m.Holds e.key e.record

theorem not_inTransit_empty (e : Envelope α) : ¬ InTransit e empty := by
  rintro ⟨m, hm, -⟩
  cases hm

theorem inTransit_deliver {d d' : Direct α} {sent e : Envelope α} (h : d.deliver sent = .ok d')
    (he : InTransit e d') : e = sent ∨ InTransit e d := by
  unfold deliver at h
  split at h
  · simp at h
  split at h
  · simp at h
  obtain rfl := Except.ok.inj h
  obtain ⟨m, hm, hholds⟩ := he
  obtain ⟨⟨k, old⟩, hold, heq⟩ := List.mem_map.mp hm
  simp only [Prod.mk.injEq] at heq
  obtain ⟨rfl, rfl⟩ := heq
  split at hholds
  · next hreceiver =>
    rcases Mailbox.holds_deliver hholds with ⟨hkey, hrecord⟩ | hholds
    · cases sent
      cases e
      simp only [Envelope.key, Key.mk.injEq] at hkey hreceiver hrecord
      obtain ⟨rfl, rfl, rfl⟩ := hkey
      exact .inl (by rw [hreceiver, hrecord])
    · exact .inr ⟨old, hold, hholds⟩
  · exact .inr ⟨old, hold, hholds⟩

theorem inTransit_register {id : AgentId} {d : Direct α} {e : Envelope α}
    (h : InTransit e (d.register id)) : InTransit e d := by
  obtain ⟨m, hm, hholds⟩ := h
  rcases Table.mem_alter hm with hold | ⟨hid, rfl | ⟨_, hb, rfl⟩⟩
  · exact ⟨m, hold, hholds⟩
  · rcases hholds with ⟨_, hmem, -⟩ | hmem <;> simp [Mailbox.empty] at hmem
  · exact ⟨m, hid ▸ hb, hholds⟩

theorem inTransit_deregister {id : AgentId} {d : Direct α} {e : Envelope α}
    (h : InTransit e (d.deregister id)) : InTransit e d := by
  obtain ⟨m, hm, hholds⟩ := h
  exact ⟨m, List.mem_of_mem_filter hm, hholds⟩

theorem inTransit_receive {id : AgentId} {key : Key} {d d' : Direct α}
    {r : Option (StateRecord α)} {e : Envelope α} (h : d.receive id key = .ok (r, d'))
    (he : InTransit e d') : InTransit e d := by
  unfold receive at h
  split at h
  · simp at h
  next mailbox hlookup =>
  simp only [Except.ok.injEq, Prod.mk.injEq] at h
  obtain ⟨-, rfl⟩ := h
  obtain ⟨m, hm, hholds⟩ := he
  rcases Table.mem_insert hm with ⟨hid, rfl⟩ | hold
  · exact ⟨mailbox, hid ▸ Table.mem_of_lookup hlookup,
      (Mailbox.holds_of_receive key mailbox).2 _ _ hholds⟩
  · exact ⟨m, hold, hholds⟩

theorem inTransit_of_receive {id : AgentId} {key : Key} {d d' : Direct α} {r : StateRecord α}
    (h : d.receive id key = .ok (some r, d')) :
    InTransit ⟨key.sender, id, key.round, key.kind, r⟩ d := by
  unfold receive at h
  split at h
  · simp at h
  next mailbox hlookup =>
  simp only [Except.ok.injEq, Prod.mk.injEq] at h
  exact ⟨mailbox, Table.mem_of_lookup hlookup, (Mailbox.holds_of_receive key mailbox).1 r h.1⟩

instance : FaithfulTransport (Direct α) α where
  InTransit := InTransit
  inTransit_register := inTransit_register
  inTransit_deregister := inTransit_deregister
  inTransit_send := inTransit_deliver
  inTransit_receive := inTransit_receive
  inTransit_of_receive := inTransit_of_receive

end Direct

namespace Relay

/-- The envelope waits at the coordinator or in a mailbox. -/
def InTransit (e : Envelope α) (r : Relay α) : Prop := e ∈ r.inbox ∨ r.direct.InTransit e

theorem inTransit_forward {sent e : Envelope α} {r : Relay α} (h : InTransit e (r.forward sent)) :
    e = sent ∨ InTransit e r := by
  unfold forward at h
  split at h
  · next direct hdeliver =>
    rcases h with hinbox | hdirect
    · exact .inr (.inl hinbox)
    · exact (Direct.inTransit_deliver hdeliver hdirect).imp_right .inr
  · exact .inr h

theorem inTransit_settle {e : Envelope α} {r : Relay α} (h : InTransit e r.settle) :
    InTransit e r := by
  have hfold : ∀ (envelopes : List (Envelope α)) (r : Relay α),
      InTransit e (envelopes.foldl (fun r e => r.forward e) r) → e ∈ envelopes ∨ InTransit e r := by
    intro envelopes
    induction envelopes with
    | nil => exact fun r h => .inr h
    | cons sent envelopes ih =>
      intro r h
      rcases ih (r.forward sent) h with hmem | hforward
      · exact .inl (List.mem_cons_of_mem sent hmem)
      · rcases inTransit_forward hforward with rfl | hr
        · exact .inl List.mem_cons_self
        · exact .inr hr
  rcases hfold r.inbox _ h with hmem | hempty | hdirect
  · exact .inl hmem
  · simp at hempty
  · exact .inr hdirect

theorem receive_eq_ok {id : AgentId} {key : Key} {r r' : Relay α} {record : Option (StateRecord α)}
    (h : r.receive id key = .ok (record, r')) :
    ∃ direct, r.direct.receive id key = .ok (record, direct) ∧ r' = { r with direct } := by
  unfold receive at h
  obtain ⟨⟨found, direct⟩, hreceive, h⟩ := bind_eq_ok.mp h
  simp only [pure, Except.pure, Except.ok.injEq, Prod.mk.injEq] at h
  obtain ⟨rfl, rfl⟩ := h
  exact ⟨direct, hreceive, rfl⟩

instance : FaithfulTransport (Relay α) α where
  InTransit := InTransit
  inTransit_register h := h.imp_right Direct.inTransit_register
  inTransit_deregister h := h.imp_right Direct.inTransit_deregister
  inTransit_send := by
    intro s s' sent e h he
    change Relay.send sent s = .ok s' at h
    unfold send at h
    split at h
    · simp at h
    split at h
    · simp at h
    obtain rfl := Except.ok.inj h
    rcases he with hinbox | hdirect
    · rcases List.mem_append.mp hinbox with hold | hnew
      · exact .inr (.inl hold)
      · exact .inl (List.mem_singleton.mp hnew)
    · exact .inr (.inr hdirect)
  inTransit_receive := by
    intro s s' id key r e h he
    obtain ⟨direct, hreceive, rfl⟩ := receive_eq_ok h
    refine inTransit_settle (he.imp_right fun hdirect => ?_)
    exact Direct.inTransit_receive hreceive hdirect
  inTransit_of_receive := by
    intro s s' id key r h
    obtain ⟨direct, hreceive, -⟩ := receive_eq_ok h
    exact inTransit_settle (.inr (Direct.inTransit_of_receive hreceive))

end Relay

end ConsensusControl
