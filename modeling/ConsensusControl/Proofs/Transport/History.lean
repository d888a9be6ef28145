import Mathlib.Data.List.Induction
import ConsensusControl.Proofs.Transport.Prompt
import ConsensusControl.Proofs.Transport.Waiting

namespace ConsensusControl

variable {α : Type}

/-- What happens to a transport. -/
inductive Call (α : Type)
  | send (e : Envelope α)
  /-- The turn of a coordinator, where there is one. -/
  | relay
  | receive (receiver : AgentId) (key : Key)

/-- A refusal, or the record that is given out. A receive that waits gives out none. -/
abbrev Answer (α : Type) := Except CommunicationError (Option (StateRecord α))

namespace Call

section Log

variable {σ : Type} (perform : σ → Call α → Answer α × σ)

/-- Where calls lead. -/
def after (s : σ) (calls : List (Call α)) : σ := calls.foldl (fun s call => (perform s call).2) s

/-- The calls with their answers. -/
def log (s : σ) : List (Call α) → List (Call α × Answer α)
  | [] => []
  | call :: calls => (call, (perform s call).1) :: log (perform s call).2 calls

theorem after_append (s : σ) (calls calls' : List (Call α)) :
    after perform s (calls ++ calls') = after perform (after perform s calls) calls' :=
  List.foldl_append

theorem log_append (s : σ) (calls calls' : List (Call α)) :
    log perform s (calls ++ calls') =
      log perform s calls ++ log perform (after perform s calls) calls' := by
  induction calls generalizing s with
  | nil => rfl
  | cons call calls ih => exact congrArg _ (ih _)

@[simp] theorem map_log (s : σ) (calls : List (Call α)) : (log perform s calls).map (·.1) = calls := by
  induction calls generalizing s with
  | nil => rfl
  | cons call calls ih => exact congrArg _ (ih _)

end Log

/-- The rounds that an agent asks for. -/
def rounds (id : AgentId) (calls : List (Call α)) : List Nat :=
  calls.filterMap fun
    | .receive receiver key => if receiver = id then some key.round else none
    | _ => none

/-- The envelopes that were accepted. -/
def accepted (log : List (Call α × Answer α)) : List (Envelope α) :=
  log.filterMap fun
    | (.send e, .ok _) => some e
    | _ => none

/-- The records that were accepted for an agent under a key. -/
def delivered (id : AgentId) (key : Key) (log : List (Call α × Answer α)) : List (StateRecord α) :=
  Envelope.under key ((accepted log).filter (·.receiver = id))

/-- What an agent asked for, with the answers. -/
def asked (id : AgentId) (log : List (Call α × Answer α)) : List (Key × Answer α) :=
  log.filterMap fun
    | (.receive receiver key, answer) => if receiver = id then some (key, answer) else none
    | _ => none

/-- The records that an agent was given for a key. -/
def given (id : AgentId) (key : Key) (log : List (Call α × Answer α)) : List (StateRecord α) :=
  (asked id log).filterMap fun
    | (k, .ok found) => if k = key then found else none
    | _ => none

@[simp] theorem rounds_append (id : AgentId) (calls calls' : List (Call α)) :
    rounds id (calls ++ calls') = rounds id calls ++ rounds id calls' :=
  List.filterMap_append

@[simp] theorem accepted_append (log log' : List (Call α × Answer α)) :
    accepted (log ++ log') = accepted log ++ accepted log' :=
  List.filterMap_append

@[simp] theorem delivered_append (id : AgentId) (key : Key) (log log' : List (Call α × Answer α)) :
    delivered id key (log ++ log') = delivered id key log ++ delivered id key log' := by
  simp [delivered]

@[simp] theorem asked_append (id : AgentId) (log log' : List (Call α × Answer α)) :
    asked id (log ++ log') = asked id log ++ asked id log' :=
  List.filterMap_append

@[simp] theorem given_append (id : AgentId) (key : Key) (log log' : List (Call α × Answer α)) :
    given id key (log ++ log') = given id key log ++ given id key log' := by
  simp [given]

end Call

namespace Direct

/-- Mailboxes of some agents, all of them empty. -/
def opened (ids : List AgentId) : Direct α := ids.foldl (fun d id => d.register id) .empty

theorem eq_empty_of_opened {ids : List AgentId} {id : AgentId} {m : Mailbox α}
    (h : (opened ids : Direct α).mailboxes.lookup id = some m) : m = .empty := by
  suffices hall : ∀ entry ∈ (opened ids : Direct α).mailboxes, entry.2 = .empty from
    hall _ (Table.mem_of_lookup h)
  clear h
  unfold opened
  induction ids using List.reverseRecOn with
  | nil => simp [empty]
  | append_singleton ids id ih =>
    rw [List.foldl_concat]
    rintro ⟨k, m⟩ hmem
    rcases Table.mem_alter hmem with hold | ⟨-, hnew | ⟨m', hm', hnew⟩⟩
    · exact ih _ hold
    · exact hnew
    · exact hnew.trans (ih _ hm')

/-- A call that is refused changes nothing. -/
def perform (d : Direct α) : Call α → Answer α × Direct α
  | .send e =>
    match d.deliver e with
    | .ok d' => (.ok none, d')
    | .error refusal => (.error refusal, d)
  | .relay => (.ok none, d)
  | .receive id key =>
    match d.receive id key with
    | .ok (found, d') => (.ok found, d')
    | .error refusal => (.error refusal, d)

variable {d : Direct α} {id : AgentId} {m : Mailbox α}

theorem perform_send_accepted {e : Envelope α} (hfits : e.record.fits e.kind = true)
    (hopen : d.isRegistered e.receiver = true) :
    d.perform (.send e) = (.ok none, ⟨Table.modify e.receiver (·.deliver e) d.mailboxes⟩) := by
  simp [perform, deliver, hfits, hopen]

theorem perform_send_refused {e : Envelope α}
    (h : ¬(e.record.fits e.kind = true ∧ d.isRegistered e.receiver = true)) :
    ∃ refusal, d.perform (.send e) = (.error refusal, d) := by
  by_cases hfits : e.record.fits e.kind = true
  · have hclosed : d.isRegistered e.receiver = false := by simpa [hfits] using h
    exact ⟨.disconnected e.receiver, by simp [perform, deliver, hfits, hclosed]⟩
  · exact ⟨.unexpectedRecord e.receiver e.sender e.kind, by simp [perform, deliver, hfits]⟩

theorem perform_receive_open (h : d.mailboxes.lookup id = some m) (key : Key) :
    d.perform (.receive id key) =
      (.ok (m.receive key).1, ⟨Table.insert id (m.receive key).2 d.mailboxes⟩) := by
  simp [perform, receive, h]

theorem perform_receive_closed (h : d.mailboxes.lookup id = none) (key : Key) :
    d.perform (.receive id key) = (.error (.disconnected id), d) := by
  simp [perform, receive, h]

theorem perform_receive_refused (h : d.isRegistered id = false) (key : Key) :
    d.perform (.receive id key) = (.error (.disconnected id), d) :=
  perform_receive_closed (by simpa [isRegistered, Table.contains] using h) key

theorem lookup_perform_send {e : Envelope α} (hfits : e.record.fits e.kind = true)
    (hopen : d.isRegistered e.receiver = true) (id : AgentId) :
    (d.perform (.send e)).2.mailboxes.lookup id =
      (d.mailboxes.lookup id).map fun m => if id = e.receiver then m.deliver e else m := by
  rw [perform_send_accepted hfits hopen]
  exact Table.lookup_modify e.receiver (·.deliver e) d.mailboxes id

theorem lookup_perform_receive (h : d.mailboxes.lookup id = some m) (key : Key) :
    (d.perform (.receive id key)).2.mailboxes.lookup id = some (m.receive key).2 := by
  rw [perform_receive_open h]
  exact Table.lookup_insert _ _ _

theorem lookup_perform_receive_ne {receiver : AgentId} (h : id ≠ receiver) (d : Direct α) (key : Key) :
    (d.perform (.receive receiver key)).2.mailboxes.lookup id = d.mailboxes.lookup id := by
  cases hm : d.mailboxes.lookup receiver with
  | none => rw [perform_receive_closed hm]
  | some m =>
    rw [perform_receive_open hm]
    exact Table.lookup_insert_ne h _ _

/-- Calls neither open nor close a mailbox. -/
theorem isRegistered_perform (d : Direct α) (call : Call α) (id : AgentId) :
    (d.perform call).2.isRegistered id = d.isRegistered id := by
  unfold isRegistered Table.contains
  cases call with
  | send e =>
    by_cases h : e.record.fits e.kind = true ∧ d.isRegistered e.receiver = true
    · rw [lookup_perform_send h.1 h.2, Option.isSome_map]
    · obtain ⟨refusal, hrefused⟩ := perform_send_refused h
      rw [hrefused]
  | relay => rfl
  | receive receiver key =>
    by_cases hid : id = receiver
    · subst hid
      cases hm : d.mailboxes.lookup id with
      | none => rw [perform_receive_closed hm, hm]
      | some m => rw [lookup_perform_receive hm]; rfl
    · rw [lookup_perform_receive_ne hid]

theorem isRegistered_after (d : Direct α) (calls : List (Call α)) (id : AgentId) :
    (Call.after perform d calls).isRegistered id = d.isRegistered id := by
  induction calls generalizing d with
  | nil => rfl
  | cons call calls ih => exact (ih _).trans (isRegistered_perform d call id)

/-- Whether and why an envelope is refused is a matter of the envelope and of open mailboxes. -/
theorem perform_send_congr {d' : Direct α} {e : Envelope α}
    (h : d.isRegistered e.receiver = d'.isRegistered e.receiver) :
    (d.perform (.send e)).1 = (d'.perform (.send e)).1 := by
  cases hfits : e.record.fits e.kind <;> cases hopen : d'.isRegistered e.receiver <;>
    simp [perform, deliver, h, hfits, hopen]

end Direct

/-- What has been given out and what still waits has been delivered, in this order. Of the rest, each has
made room for a later one. -/
structure Accounts {β : Type} (delivered given waiting : List β) : Prop where
  sublist : (given ++ waiting).Sublist delivered
  newest : (given ++ waiting).getLast? = delivered.getLast?

namespace Accounts

variable {β : Type} {delivered given waiting waiting' : List β}

theorem start (waiting : List β) : Accounts waiting [] waiting := ⟨.refl _, rfl⟩

theorem deliver (h : Accounts delivered given waiting) (b : β) :
    Accounts (delivered ++ [b]) given (waiting ++ [b]) where
  sublist := by
    rw [← List.append_assoc]
    exact h.sublist.append (.refl _)
  newest := by
    rw [← List.append_assoc, List.getLast?_concat, List.getLast?_concat]

theorem give (h : Accounts delivered given waiting) :
    Accounts delivered (given ++ waiting.head?.toList) waiting.tail := by
  have hsame : given ++ waiting.head?.toList ++ waiting.tail = given ++ waiting := by
    rw [List.append_assoc]
    cases waiting <;> rfl
  exact ⟨hsame ▸ h.sublist, hsame ▸ h.newest⟩

theorem thin (h : Accounts delivered given waiting) (hthinned : Thinned waiting waiting') :
    Accounts delivered given waiting' where
  sublist := (List.Sublist.append (.refl given) hthinned.sublist).trans h.sublist
  newest := by
    rw [← h.newest, List.getLast?_append, List.getLast?_append, hthinned.getLast?]

/-- A single record makes room for no other. -/
theorem eq_of_length_le (h : Accounts delivered given waiting) (hl : delivered.length ≤ 1) :
    given ++ waiting = delivered := by
  refine h.sublist.eq_of_length_le ?_
  match delivered, hl with
  | [], _ => exact Nat.zero_le _
  | [b], _ =>
    refine List.length_pos_iff.mpr fun hnil => ?_
    have hnewest := h.newest
    rw [hnil] at hnewest
    cases hnewest

end Accounts

namespace Mailbox

/-- A mailbox and what has happened since it was in an earlier state. -/
structure Recorded (m₀ : Mailbox α) (id : AgentId) (log : List (Call α × Answer α)) (m : Mailbox α) :
    Prop where
  /-- Rounds that are over are not accounted for. -/
  accounts : ∀ key, (∀ round ∈ Call.rounds id (log.map (·.1)), round ≤ key.round) →
    Accounts (m₀.waiting key ++ Call.delivered id key log) (Call.given id key log) (m.waiting key)
  given_sublist : ∀ key,
    (Call.given id key log).Sublist (m₀.waiting key ++ Call.delivered id key log)

namespace Recorded

variable {m₀ m : Mailbox α} {id : AgentId} {log : List (Call α × Answer α)}

theorem start (m₀ : Mailbox α) (id : AgentId) : m₀.Recorded id [] m₀ where
  accounts key _ := by
    rw [show Call.delivered id key [] = [] from rfl, List.append_nil]
    exact .start _
  given_sublist key := List.nil_sublist _

/-- What is asked before a call is asked before and after it. -/
theorem over_append {key : Key} {entry : Call α × Answer α}
    (h : ∀ round ∈ Call.rounds id ((log ++ [entry]).map (·.1)), round ≤ key.round) :
    ∀ round ∈ Call.rounds id (log.map (·.1)), round ≤ key.round := by
  intro round hround
  refine h round ?_
  rw [List.map_append, Call.rounds_append]
  exact List.mem_append_left _ hround

/-- A call that neither brings nor takes a record. -/
theorem idle (h : m₀.Recorded id log m) {entry : Call α × Answer α}
    (hdelivered : ∀ key, Call.delivered id key [entry] = [])
    (hgiven : ∀ key, Call.given id key [entry] = []) : m₀.Recorded id (log ++ [entry]) m where
  accounts key hover := by
    rw [Call.delivered_append, Call.given_append, hdelivered, hgiven, List.append_nil, List.append_nil]
    exact h.accounts key (over_append hover)
  given_sublist key := by
    rw [Call.delivered_append, Call.given_append, hdelivered, hgiven, List.append_nil, List.append_nil]
    exact h.given_sublist key

theorem deliver (h : m₀.Recorded id log m) {e : Envelope α} (hreceiver : e.receiver = id)
    (found : Option (StateRecord α)) :
    m₀.Recorded id (log ++ [(.send e, .ok found)]) (m.deliver e) := by
  have hgiven : ∀ key, Call.given id key [(.send e, .ok found)] = [] := fun _ => rfl
  have hdelivered : ∀ key, Call.delivered id key [(.send e, .ok found)] = Envelope.under key [e] := by
    intro key
    simp [Call.delivered, Call.accepted, hreceiver]
  refine ⟨fun key hover => ?_, fun key => ?_⟩
  · have haccounts := h.accounts key (over_append hover)
    rw [Call.delivered_append, Call.given_append, hdelivered, hgiven, List.append_nil]
    by_cases hkey : e.key = key
    · subst hkey
      rw [waiting_deliver_self, Envelope.under_cons_self, ← List.append_assoc]
      exact haccounts.deliver e.record
    · rw [waiting_deliver_ne hkey, Envelope.under_cons_ne hkey, Envelope.under_nil, List.append_nil]
      exact haccounts
  · rw [Call.delivered_append, Call.given_append, hgiven, List.append_nil, ← List.append_assoc]
    exact (h.given_sublist key).trans (List.sublist_append_left _ _)

/-- A receive comes in a round that is not over. -/
theorem receive (h : m₀.Recorded id log m) {asked : Key}
    (hround : ∀ round ∈ Call.rounds id (log.map (·.1)), round ≤ asked.round) :
    m₀.Recorded id (log ++ [(.receive id asked, .ok (m.receive asked).1)]) (m.receive asked).2 := by
  obtain ⟨hanswer, hleft⟩ := m.receive_self asked
  have hself : Call.given id asked [(.receive id asked, .ok (m.receive asked).1)] =
      (m.waiting asked).head?.toList := by
    rw [← hanswer]
    cases h : (m.receive asked).1 <;> simp [Call.given, Call.asked]
  have hother : ∀ key, key ≠ asked →
      Call.given id key [(.receive id asked, .ok (m.receive asked).1)] = [] := by
    intro key hne
    simp [Call.given, Call.asked, Ne.symm hne]
  have hdelivered : ∀ key,
      Call.delivered id key [(.receive id asked, .ok (m.receive asked).1)] = [] := fun _ => rfl
  have hgive := (h.accounts asked hround).give
  refine ⟨fun key hover => ?_, fun key => ?_⟩
  · have haccounts := h.accounts key (over_append hover)
    rw [Call.delivered_append, Call.given_append, hdelivered, List.append_nil]
    by_cases hkey : key = asked
    · subst hkey
      rw [hself, hleft]
      exact hgive
    · rw [hother key hkey, List.append_nil]
      refine haccounts.thin (receive_ne ?_ hkey m).1
      refine hover _ ?_
      rw [List.map_append, Call.rounds_append]
      exact List.mem_append_right _ (by simp [Call.rounds])
  · rw [Call.delivered_append, Call.given_append, hdelivered, List.append_nil]
    by_cases hkey : key = asked
    · subst hkey
      rw [hself]
      exact (List.sublist_append_left _ _).trans hgive.sublist
    · rw [hother key hkey, List.append_nil]
      exact h.given_sublist key

end Recorded

end Mailbox

namespace Direct

variable {d : Direct α} {id : AgentId} {m₀ m : Mailbox α} {log : List (Call α × Answer α)}

theorem recorded_perform (hm : d.mailboxes.lookup id = some m) (h : m₀.Recorded id log m)
    {call : Call α} (hround : ∀ round ∈ Call.rounds id (log.map (·.1)),
      ∀ asked ∈ Call.rounds id [call], round ≤ asked) :
    ∃ m', (d.perform call).2.mailboxes.lookup id = some m' ∧
      m₀.Recorded id (log ++ [(call, (d.perform call).1)]) m' := by
  cases call with
  | send e =>
    by_cases hok : e.record.fits e.kind = true ∧ d.isRegistered e.receiver = true
    · refine ⟨_, by rw [lookup_perform_send hok.1 hok.2, hm, Option.map_some], ?_⟩
      rw [perform_send_accepted hok.1 hok.2]
      split
      · next hid => exact h.deliver hid.symm none
      · next hid =>
        refine h.idle (fun key => ?_) (fun key => rfl)
        simp [Call.delivered, Call.accepted, Ne.symm hid]
    · obtain ⟨refusal, hrefused⟩ := perform_send_refused hok
      rw [hrefused]
      exact ⟨m, hm, h.idle (fun _ => rfl) (fun _ => rfl)⟩
  | relay => exact ⟨m, hm, h.idle (fun _ => rfl) (fun _ => rfl)⟩
  | receive receiver key =>
    by_cases hid : receiver = id
    · subst hid
      refine ⟨_, lookup_perform_receive hm key, ?_⟩
      rw [perform_receive_open hm]
      exact h.receive fun round hmem => hround round hmem _ (by simp [Call.rounds])
    · refine ⟨m, (lookup_perform_receive_ne (Ne.symm hid) d key).trans hm, h.idle (fun _ => rfl) ?_⟩
      intro key'
      simp [Call.given, Call.asked, hid]

/-- However deliveries and receives are interleaved, the mailbox of an agent whose rounds never decrease
accounts for all that was delivered. -/
theorem recorded (hm₀ : d.mailboxes.lookup id = some m₀) {calls : List (Call α)}
    (hrounds : (Call.rounds id calls).Pairwise (· ≤ ·)) :
    ∃ m, (Call.after perform d calls).mailboxes.lookup id = some m ∧
      m₀.Recorded id (Call.log perform d calls) m := by
  induction calls using List.reverseRecOn with
  | nil => exact ⟨m₀, hm₀, .start m₀ id⟩
  | append_singleton calls call ih =>
    rw [Call.rounds_append, List.pairwise_append] at hrounds
    obtain ⟨hbefore, -, hnext⟩ := hrounds
    obtain ⟨m, hm, hrecorded⟩ := ih hbefore
    rw [Call.after_append, Call.log_append]
    exact recorded_perform hm hrecorded (by rwa [Call.map_log])

/-- The records that wait for an agent under a key, in the order in which they come out. -/
def waiting (d : Direct α) (id : AgentId) (key : Key) : List (StateRecord α) :=
  ((d.mailboxes.lookup id).map (·.waiting key)).getD []

theorem waiting_of_lookup (h : d.mailboxes.lookup id = some m) (key : Key) :
    d.waiting id key = m.waiting key := by
  rw [waiting, h]
  rfl

theorem waiting_of_closed (h : d.mailboxes.lookup id = none) (key : Key) : d.waiting id key = [] := by
  rw [waiting, h]
  rfl

theorem waiting_of_not_isRegistered (h : d.isRegistered id = false) (key : Key) :
    d.waiting id key = [] :=
  waiting_of_closed (by simpa [isRegistered, Table.contains] using h) key

theorem waiting_send {e : Envelope α} (hfits : e.record.fits e.kind = true)
    (hopen : d.isRegistered e.receiver = true) (id : AgentId) (key : Key) :
    (d.perform (.send e)).2.waiting id key =
      d.waiting id key ++ Envelope.under key ([e].filter (·.receiver = id)) := by
  have hlookup := lookup_perform_send hfits hopen id
  by_cases hid : e.receiver = id
  · subst hid
    obtain ⟨m, hm⟩ := Option.isSome_iff_exists.mp hopen
    rw [hm, Option.map_some, if_pos rfl] at hlookup
    rw [waiting_of_lookup hm, waiting_of_lookup hlookup, List.filter_cons_of_pos (by simp),
      List.filter_nil]
    by_cases hkey : e.key = key
    · subst hkey
      rw [Mailbox.waiting_deliver_self, Envelope.under_cons_self, Envelope.under_nil]
    · rw [Mailbox.waiting_deliver_ne hkey, Envelope.under_cons_ne hkey, Envelope.under_nil,
        List.append_nil]
  · have hsame : (d.perform (.send e)).2.mailboxes.lookup id = d.mailboxes.lookup id := by
      rw [hlookup]
      simp [Ne.symm hid]
    rw [waiting, waiting, hsame, List.filter_cons_of_neg (by simpa using hid), List.filter_nil,
      Envelope.under_nil, List.append_nil]

theorem perform_receive (hopen : d.isRegistered id = true) (key : Key) :
    (d.perform (.receive id key)).1 = .ok (d.waiting id key).head? := by
  obtain ⟨m, hm⟩ := Option.isSome_iff_exists.mp hopen
  rw [perform_receive_open hm, waiting_of_lookup hm, (m.receive_self key).1]

theorem waiting_receive_self (d : Direct α) (id : AgentId) (key : Key) :
    (d.perform (.receive id key)).2.waiting id key = (d.waiting id key).tail := by
  cases hm : d.mailboxes.lookup id with
  | none =>
    rw [perform_receive_closed hm, waiting_of_closed hm]
    rfl
  | some m =>
    rw [waiting_of_lookup (lookup_perform_receive hm key), waiting_of_lookup hm]
    exact (m.receive_self key).2

/-- A record that waits alone stays until it is asked for. -/
theorem waiting_receive_ne {receiver : AgentId} {asked key : Key}
    (hne : ¬(receiver = id ∧ asked = key)) (hround : receiver = id → asked.round ≤ key.round)
    (hsingle : (d.waiting id key).length ≤ 1) :
    (d.perform (.receive receiver asked)).2.waiting id key = d.waiting id key := by
  by_cases hid : receiver = id
  · subst hid
    cases hm : d.mailboxes.lookup receiver with
    | none => rw [perform_receive_closed hm]
    | some m =>
      rw [waiting_of_lookup hm] at hsingle ⊢
      rw [waiting_of_lookup (lookup_perform_receive hm asked)]
      have hkey : key ≠ asked := fun hsame => hne ⟨rfl, hsame.symm⟩
      exact (Mailbox.receive_ne (hround rfl) hkey m).1.eq_of_length_le hsingle
  · rw [waiting, waiting, lookup_perform_receive_ne (Ne.symm hid)]

end Direct

end ConsensusControl
