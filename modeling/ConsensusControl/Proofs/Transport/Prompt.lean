import ConsensusControl.Proofs.Transport.Faithful

namespace ConsensusControl

/-- A transport on which every record that was sent is there at once, and stays until it is taken or its
round is over. -/
class PromptTransport (σ : Type) (α : outParam Type) extends FaithfulTransport σ α where
  /-- The agent has a mailbox. -/
  IsOpen : AgentId → σ → Prop
  /-- A record waits for the agent under the key. -/
  Waits : AgentId → Key → σ → Prop
  isOpen_register : ∀ (id : AgentId) (s : σ), IsOpen id (Transport.register id s)
  isOpen_register_of : ∀ {k : AgentId} {s : σ} (id : AgentId), IsOpen k s →
    IsOpen k (Transport.register id s)
  isOpen_deregister : ∀ {id k : AgentId} {s : σ}, k ≠ id → IsOpen k s →
    IsOpen k (Transport.deregister id s)
  send_eq_ok : ∀ {env : Envelope α} {s : σ}, IsOpen env.receiver s → env.record.fits env.kind →
    ∃ s', Transport.send env s = .ok s' ∧ Waits env.receiver env.key s'
  isOpen_send : ∀ {env : Envelope α} {s s' : σ} {k : AgentId}, Transport.send env s = .ok s' →
    IsOpen k s → IsOpen k s'
  waits_send : ∀ {env : Envelope α} {s s' : σ} {k : AgentId} {key : Key},
    Transport.send env s = .ok s' → Waits k key s → Waits k key s'
  receive_eq_ok : ∀ {id : AgentId} {key : Key} {s : σ}, Waits id key s →
    ∃ r s', Transport.receive id key s = .ok (some r, s')
  isOpen_receive : ∀ {id : AgentId} {key : Key} {s s' : σ} {r : Option (StateRecord α)} {k : AgentId},
    Transport.receive id key s = .ok (r, s') → IsOpen k s → IsOpen k s'
  /-- Whoever takes a record leaves the others of its round, and of later ones. -/
  waits_receive : ∀ {id : AgentId} {key : Key} {s s' : σ} {r : Option (StateRecord α)} {k : AgentId}
    {other : Key}, Transport.receive id key s = .ok (r, s') → key.round ≤ other.round →
    ¬(k = id ∧ other = key) → Waits k other s → Waits k other s'

variable {α : Type}

namespace Mailbox

/-- A record waits under the key. -/
def Has (m : Mailbox α) (key : Key) : Prop := ∃ r, m.Holds key r

theorem has_iff {m : Mailbox α} {key : Key} :
    m.Has key ↔ (∃ e ∈ m.queue, e.key = key) ∨ ∃ r, (key, r) ∈ m.parked := by
  unfold Has Holds
  constructor
  · intro h
    obtain ⟨r, ⟨e, he, hkey, -⟩ | hparked⟩ := h
    · exact .inl ⟨e, he, hkey⟩
    · exact .inr ⟨r, hparked⟩
  · intro h
    obtain ⟨e, he, hkey⟩ | ⟨r, hparked⟩ := h
    · exact ⟨e.record, .inl ⟨e, he, hkey, rfl⟩⟩
    · exact ⟨r, .inr hparked⟩

theorem has_deliver_self (m : Mailbox α) (e : Envelope α) : (m.deliver e).Has e.key :=
  has_iff.mpr (.inl ⟨e, by simp [deliver], rfl⟩)

theorem Has.deliver {m : Mailbox α} {key : Key} (h : m.Has key) (e : Envelope α) :
    (m.deliver e).Has key := by
  rw [has_iff] at h ⊢
  refine h.imp_left fun hqueue => ?_
  obtain ⟨e', he', hkey⟩ := hqueue
  exact ⟨e', by simp [Mailbox.deliver, he'], hkey⟩

/-- Parking loses no key of the present round or a later one. -/
theorem park_has {round : Nat} {e : Envelope α} {parked : List (Key × StateRecord α)} {key : Key}
    (hround : round ≤ key.round) (h : e.key = key ∨ ∃ r, (key, r) ∈ parked) :
    ∃ r, (key, r) ∈ park round e parked := by
  unfold park
  split
  · next hold =>
    rcases h with rfl | h
    · have : e.round = e.key.round := rfl
      omega
    · exact h
  · by_cases hkey : e.key = key
    · exact ⟨e.record, hkey ▸ List.mem_cons_self⟩
    · obtain ⟨r, hr⟩ := h.resolve_left hkey
      refine ⟨r, List.mem_cons_of_mem _ (List.mem_filter.mpr ⟨hr, ?_⟩)⟩
      simpa using Ne.symm hkey

/-- A search leaves what waits under other keys. -/
theorem has_search {key other : Key} {queue : List (Envelope α)}
    {parked : List (Key × StateRecord α)} (hround : key.round ≤ other.round) (hne : other ≠ key)
    (h : Has ⟨queue, parked⟩ other) : (search key queue parked).2.Has other := by
  induction queue generalizing parked with
  | nil => exact h
  | cons e queue ih =>
    rw [has_iff] at h
    unfold search
    split
    · next hkey =>
      rw [has_iff]
      refine h.imp_left fun hqueue => ?_
      obtain ⟨e', he', hother⟩ := hqueue
      rcases List.mem_cons.mp he' with rfl | hmem
      · exact absurd (hother.symm.trans hkey) hne
      · exact ⟨e', hmem, hother⟩
    · refine ih (has_iff.mpr ?_)
      rcases h with ⟨e', he', hother⟩ | hparked
      · rcases List.mem_cons.mp he' with rfl | hmem
        · exact .inr (park_has hround (.inl hother))
        · exact .inl ⟨e', hmem, hother⟩
      · exact .inr (park_has hround (.inr hparked))

/-- A search finds the first of the envelopes under its key. -/
theorem search_isSome {key : Key} {queue : List (Envelope α)}
    {parked : List (Key × StateRecord α)} (h : ∃ e ∈ queue, e.key = key) :
    ∃ r, (search key queue parked).1 = some r := by
  induction queue generalizing parked with
  | nil => simp at h
  | cons e queue ih =>
    unfold search
    split
    · exact ⟨e.record, rfl⟩
    · next hne =>
      obtain ⟨e', he', hkey⟩ := h
      refine ih ⟨e', (List.mem_cons.mp he').resolve_left fun heq => hne ?_, hkey⟩
      rw [← heq, hkey]

theorem receive_isSome {m : Mailbox α} {key : Key} (h : m.Has key) :
    ∃ r, (m.receive key).1 = some r := by
  unfold receive
  dsimp only
  split
  · next record hlookup => exact ⟨record, rfl⟩
  · next hnone =>
    refine search_isSome ((has_iff.mp h).resolve_right fun hparked => ?_)
    obtain ⟨r, hr⟩ := hparked
    have hmem : (key, r) ∈ m.parked.filter (key.round ≤ ·.1.round) :=
      List.mem_filter.mpr ⟨hr, by simp⟩
    simpa using List.lookup_eq_none_iff.mp hnone _ hmem

theorem has_receive {m : Mailbox α} {key other : Key} (hround : key.round ≤ other.round)
    (hne : other ≠ key) (h : m.Has other) : (m.receive key).2.Has other := by
  have hkept : Has ⟨m.queue, m.parked.filter (key.round ≤ ·.1.round)⟩ other := by
    rw [has_iff] at h ⊢
    refine h.imp_right fun hparked => ?_
    obtain ⟨r, hr⟩ := hparked
    exact ⟨r, List.mem_filter.mpr ⟨hr, by simpa using hround⟩⟩
  unfold receive
  dsimp only
  split
  · rw [has_iff] at hkept ⊢
    refine hkept.imp_right fun hparked => ?_
    obtain ⟨r, hr⟩ := hparked
    exact ⟨r, List.mem_filter.mpr ⟨hr, by simpa using hne⟩⟩
  · exact has_search hround hne hkept

end Mailbox

namespace Direct

theorem lookup_deliver {d d' : Direct α} {env : Envelope α} (h : d.deliver env = .ok d')
    (k : AgentId) : d'.mailboxes.lookup k =
      (d.mailboxes.lookup k).map fun m => if k = env.receiver then m.deliver env else m := by
  unfold deliver at h
  split at h
  · simp at h
  split at h
  · simp at h
  obtain rfl := Except.ok.inj h
  exact Table.lookup_map (fun k m => if k = env.receiver then m.deliver env else m) d.mailboxes k

theorem receive_eq_ok {d d' : Direct α} {id : AgentId} {key : Key} {r : Option (StateRecord α)}
    (h : d.receive id key = .ok (r, d')) :
    ∃ m, d.mailboxes.lookup id = some m ∧ r = (m.receive key).1 ∧
      d' = ⟨Table.insert id (m.receive key).2 d.mailboxes⟩ := by
  unfold receive at h
  split at h
  · simp at h
  · next m hm =>
    simp only [Except.ok.injEq, Prod.mk.injEq] at h
    exact ⟨m, hm, h.1.symm, h.2.symm⟩

def IsOpen (id : AgentId) (d : Direct α) : Prop := ∃ m, d.mailboxes.lookup id = some m

def Waits (id : AgentId) (key : Key) (d : Direct α) : Prop :=
  ∃ m, d.mailboxes.lookup id = some m ∧ m.Has key

theorem isOpen_iff {id : AgentId} {d : Direct α} : d.IsOpen id ↔ id ∈ Table.ids d.mailboxes := by
  rw [← Table.lookup_isSome, Option.isSome_iff_exists]
  rfl

theorem lookup_receive {d d' : Direct α} {id : AgentId} {key : Key} {r : Option (StateRecord α)}
    (h : d.receive id key = .ok (r, d')) {k : AgentId} {m : Mailbox α}
    (hm : d.mailboxes.lookup k = some m) :
    d'.mailboxes.lookup k = some (if k = id then (m.receive key).2 else m) := by
  obtain ⟨m', hm', -, rfl⟩ := receive_eq_ok h
  by_cases hk : k = id
  · subst hk
    obtain rfl : m' = m := Option.some.inj (hm'.symm.trans hm)
    rw [if_pos rfl]
    exact Table.lookup_insert _ _ _
  · rw [if_neg hk]
    exact (Table.lookup_insert_ne hk _ _).trans hm

instance : PromptTransport (Direct α) α where
  IsOpen id d := d.IsOpen id
  Waits id key d := d.Waits id key
  isOpen_register id d := isOpen_iff.mpr (Table.mem_ids_alter.mpr (.inl rfl))
  isOpen_register_of id h := isOpen_iff.mpr (Table.mem_ids_alter.mpr (.inr (isOpen_iff.mp h)))
  isOpen_deregister hk h := by
    obtain ⟨m, hm⟩ := h
    exact ⟨m, (Table.lookup_erase_ne hk _).trans hm⟩
  send_eq_ok := by
    intro env d hopen hfits
    obtain ⟨m, hm⟩ := hopen
    have hregistered : d.isRegistered env.receiver = true := by
      rw [isRegistered, Table.contains, hm]
      rfl
    have hsend : d.deliver env = .ok ⟨Table.modify env.receiver (·.deliver env) d.mailboxes⟩ := by
      simp [deliver, hfits, hregistered]
    refine ⟨_, hsend, m.deliver env, ?_, m.has_deliver_self env⟩
    rw [lookup_deliver hsend, hm, Option.map_some, if_pos rfl]
  isOpen_send := by
    intro env d d' k hsend hopen
    obtain ⟨m, hm⟩ := hopen
    exact ⟨_, by rw [lookup_deliver hsend, hm, Option.map_some]⟩
  waits_send := by
    intro env d d' k key hsend hwaits
    obtain ⟨m, hm, hhas⟩ := hwaits
    refine ⟨if k = env.receiver then m.deliver env else m, ?_, ?_⟩
    · rw [lookup_deliver hsend, hm, Option.map_some]
    · split
      · exact hhas.deliver env
      · exact hhas
  receive_eq_ok := by
    intro id key d hwaits
    obtain ⟨m, hm, hhas⟩ := hwaits
    obtain ⟨r, hr⟩ := Mailbox.receive_isSome hhas
    refine ⟨r, ⟨Table.insert id (m.receive key).2 d.mailboxes⟩, ?_⟩
    change d.receive id key = _
    rw [receive, hm, ← hr]
  isOpen_receive := by
    intro id key d d' r k hreceive hopen
    obtain ⟨m, hm⟩ := hopen
    exact ⟨_, lookup_receive hreceive hm⟩
  waits_receive := by
    intro id key d d' r k other hreceive hround hne hwaits
    obtain ⟨m, hm, hhas⟩ := hwaits
    refine ⟨_, lookup_receive hreceive hm, ?_⟩
    split
    · next hk => exact Mailbox.has_receive hround (fun hother => hne ⟨hk, hother⟩) hhas
    · exact hhas

end Direct

end ConsensusControl
