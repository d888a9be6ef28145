import ConsensusControl.Proofs.Transport.Deliveries

namespace ConsensusControl

variable {α : Type}

open Call (after log rounds delivered given)

/-- The calls that came to an end. A receive that still waits has not been answered. -/
def Call.settled (log : List (Call α × Answer α)) : List (Call α × Answer α) :=
  log.filter fun
    | (.receive _ _, .ok none) => false
    | _ => true

theorem Call.settled_append (log log' : List (Call α × Answer α)) :
    settled (log ++ log') = settled log ++ settled log' :=
  List.filter_append _ _

/-- What has not been asked for after a call was not asked for before. -/
theorem Call.over_of_append {id : AgentId} {calls calls' : List (Call α)} {key : Key}
    (h : ∀ round ∈ rounds id (calls ++ calls'), round ≤ key.round) :
    ∀ round ∈ rounds id calls, round ≤ key.round := by
  intro round hround
  rw [Call.rounds_append] at h
  exact h round (List.mem_append_left _ hround)

/-- What is asked for is not over. -/
theorem Call.le_of_over {id id' : AgentId} {calls : List (Call α)} {key key' : Key}
    (hover : ∀ round ∈ rounds id' (calls ++ [.receive id key]), round ≤ key'.round) (h : id = id') :
    key.round ≤ key'.round := by
  rw [Call.rounds_append] at hover
  exact hover _ (List.mem_append_right _ (by simp [rounds, h]))

theorem Call.accepted_settled (log : List (Call α × Answer α)) : accepted (settled log) = accepted log := by
  induction log with
  | nil => rfl
  | cons entry log ih =>
    obtain ⟨call, answer⟩ := entry
    cases call with
    | send e =>
      cases answer with
      | error refusal => exact ih
      | ok found => exact congrArg (e :: ·) ih
    | relay => exact ih
    | receive id key => rcases answer with refusal | (_ | record) <;> exact ih

theorem Call.rounds_settled_sublist (id : AgentId) (log : List (Call α × Answer α)) :
    (rounds id ((settled log).map (·.1))).Sublist (rounds id (log.map (·.1))) :=
  (List.filter_sublist.map _).filterMap _

/-- Of a key that is delivered once and is not over, no two records wait. -/
theorem Direct.length_waiting_of_unique {d : Direct α} {id : AgentId} {key : Key}
    {calls : List (Call α)} (hempty : ∀ m, d.mailboxes.lookup id = some m → m = .empty)
    (hrounds : (rounds id calls).Pairwise (· ≤ ·))
    (hover : ∀ round ∈ rounds id calls, round ≤ key.round)
    (hunique : (delivered id key (log perform d calls)).length ≤ 1) :
    ((after perform d calls).waiting id key).length ≤ 1 := by
  cases hm : d.mailboxes.lookup id with
  | none =>
    have hclosed : (after perform d calls).isRegistered id = false := by
      rw [isRegistered_after, isRegistered, Table.contains, hm]
      rfl
    rw [waiting_of_not_isRegistered hclosed]
    exact Nat.zero_le 1
  | some m =>
    obtain rfl := hempty m hm
    have hall := (accounts_after hm hrounds hover).eq_of_length_le hunique
    rw [← hall, List.length_append] at hunique
    omega

/-- Mailboxes in which the same records wait, no two of them under one key, give the same answers. -/
theorem Direct.log_batch_congr {d d' : Direct α} {calls : List (Call α)}
    {requests : List (AgentId × Key)}
    (hrounds : ∀ id, (rounds id (calls ++ Call.batch [] requests)).Pairwise (· ≤ ·))
    (hregistered : ∀ id, d.isRegistered id = d'.isRegistered id)
    (hwaiting : ∀ id key, (∀ round ∈ rounds id calls, round ≤ key.round) →
      d.waiting id key = d'.waiting id key ∧ (d.waiting id key).length ≤ 1) :
    log perform d (Call.batch [] requests) = log perform d' (Call.batch [] requests) := by
  induction requests generalizing calls d d' with
  | nil => rfl
  | cons request requests ih =>
    obtain ⟨id, key⟩ := request
    change ∀ id', (rounds id' (calls ++ .receive id key :: Call.batch [] requests)).Pairwise _
      at hrounds
    have hover : ∀ round ∈ rounds id calls, round ≤ key.round := by
      have hpairwise := hrounds id
      rw [List.append_cons, Call.rounds_append] at hpairwise
      exact (Call.rounds_before_receive (List.pairwise_append.mp hpairwise).1).2
    have hanswer : (d.perform (.receive id key)).1 = (d'.perform (.receive id key)).1 := by
      cases hopen : d'.isRegistered id with
      | false =>
        rw [perform_receive_refused hopen, perform_receive_refused ((hregistered id).trans hopen)]
      | true =>
        rw [perform_receive hopen, perform_receive ((hregistered id).trans hopen),
          (hwaiting id key hover).1]
    refine congrArg₂ List.cons (congrArg (Prod.mk _) hanswer)
      (@ih (d.perform (.receive id key)).2 (d'.perform (.receive id key)).2
        (calls ++ [.receive id key]) (fun id' => ?_) (fun id' => ?_) fun id' key' hover' => ?_)
    · rw [← List.append_cons]
      exact hrounds id'
    · rw [isRegistered_perform, isRegistered_perform, hregistered]
    obtain ⟨hsame, hsingle⟩ := hwaiting id' key' (Call.over_of_append hover')
    by_cases hself : id = id' ∧ key = key'
    · obtain ⟨rfl, rfl⟩ := hself
      rw [waiting_receive_self, waiting_receive_self, hsame, List.length_tail, ← hsame]
      exact ⟨rfl, by omega⟩
    · rw [waiting_receive_ne hself (Call.le_of_over hover') hsingle,
        waiting_receive_ne hself (Call.le_of_over hover') (hsame ▸ hsingle)]
      exact ⟨hsame, hsingle⟩

namespace Relay

/-- A call that is refused changes nothing. -/
def perform (r : Relay α) : Call α → Answer α × Relay α
  | .send e =>
    match r.send e with
    | .ok r' => (.ok none, r')
    | .error refusal => (.error refusal, r)
  | .relay => (.ok none, r.step)
  | .receive id key =>
    match r.receive id key with
    | .ok (found, r') => (.ok found, r')
    | .error refusal => (.error refusal, r)

variable {r : Relay α} {d : Direct α} {calls : List (Call α)}

theorem perform_send_accepted {e : Envelope α} (hfits : e.record.fits e.kind = true)
    (hopen : r.direct.isRegistered e.receiver = true) :
    r.perform (.send e) = (.ok none, { r with inbox := r.inbox ++ [e] }) := by
  simp [perform, send, hfits, hopen]

theorem perform_send_refused {e : Envelope α}
    (h : ¬(e.record.fits e.kind = true ∧ r.direct.isRegistered e.receiver = true)) :
    r.perform (.send e) = ((r.direct.perform (.send e)).1, r) := by
  by_cases hfits : e.record.fits e.kind = true
  · have hclosed : r.direct.isRegistered e.receiver = false := by simpa [hfits] using h
    simp [perform, Direct.perform, send, Direct.deliver, hfits, hclosed]
  · simp [perform, Direct.perform, send, Direct.deliver, hfits]

/-- Whoever receives has to do with the mailboxes alone. -/
theorem perform_receive (r : Relay α) (id : AgentId) (key : Key) :
    r.perform (.receive id key) = ((r.direct.perform (.receive id key)).1,
      { r with direct := (r.direct.perform (.receive id key)).2 }) := by
  unfold perform Direct.perform receive
  dsimp only
  cases r.direct.receive id key <;> rfl

theorem step_cons {e : Envelope α} {inbox : List (Envelope α)} (h : r.inbox = e :: inbox)
    (hfits : e.record.fits e.kind = true) (hopen : r.direct.isRegistered e.receiver = true) :
    r.step = ⟨inbox, (r.direct.perform (.send e)).2, r.relayed + 1⟩ := by
  simp [step, h, forward, Direct.perform, Direct.deliver, hfits, hopen]

/-- Of the rounds that are not over, each mailbox lacks what waits at the coordinator for it, and nothing
else. -/
structure Mirrors (calls : List (Call α)) (r : Relay α) (d : Direct α) : Prop where
  isRegistered : ∀ id, r.direct.isRegistered id = d.isRegistered id
  deliverable : ∀ e ∈ r.inbox,
    e.record.fits e.kind = true ∧ r.direct.isRegistered e.receiver = true
  waiting : ∀ id key, (∀ round ∈ rounds id calls, round ≤ key.round) →
    r.direct.waiting id key ++ Envelope.under key (r.inbox.filter (·.receiver = id)) =
      d.waiting id key

namespace Mirrors

theorem send (h : Mirrors calls r d) (e : Envelope α) :
    (r.perform (.send e)).1 = (d.perform (.send e)).1 ∧
      Mirrors (calls ++ [.send e]) (r.perform (.send e)).2 (d.perform (.send e)).2 := by
  by_cases hok : e.record.fits e.kind = true ∧ r.direct.isRegistered e.receiver = true
  · have hopen : d.isRegistered e.receiver = true := (h.isRegistered _).symm.trans hok.2
    rw [perform_send_accepted hok.1 hok.2]
    refine ⟨by rw [Direct.perform_send_accepted hok.1 hopen], fun id => ?_, fun e' he' => ?_,
      fun id key hover => ?_⟩
    · rw [Direct.isRegistered_perform]
      exact h.isRegistered id
    · rcases List.mem_append.mp he' with hold | hnew
      · exact h.deliverable e' hold
      · obtain rfl := List.mem_singleton.mp hnew
        exact hok
    · rw [Direct.waiting_send hok.1 hopen, List.filter_append, Envelope.under_append,
        ← List.append_assoc, h.waiting id key (Call.over_of_append hover)]
  · rw [perform_send_refused hok]
    obtain ⟨refusal, hrefused⟩ := Direct.perform_send_refused
      (show ¬(e.record.fits e.kind = true ∧ d.isRegistered e.receiver = true) by
        rwa [← h.isRegistered])
    refine ⟨Direct.perform_send_congr (h.isRegistered _), ?_⟩
    rw [hrefused]
    exact ⟨h.isRegistered, h.deliverable,
      fun id key hover => h.waiting id key (Call.over_of_append hover)⟩

theorem relay (h : Mirrors calls r d) : Mirrors (calls ++ [.relay]) r.step d := by
  cases hinbox : r.inbox with
  | nil =>
    have hstep : r.step = r := by simp [step, hinbox]
    rw [hstep]
    exact ⟨h.isRegistered, h.deliverable,
      fun id key hover => h.waiting id key (Call.over_of_append hover)⟩
  | cons e inbox =>
    obtain ⟨hfits, hopen⟩ := h.deliverable e (hinbox ▸ List.mem_cons_self)
    rw [step_cons hinbox hfits hopen]
    refine ⟨fun id => ?_, fun e' he' => ?_, fun id key hover => ?_⟩
    · rw [Direct.isRegistered_perform]
      exact h.isRegistered id
    · rw [Direct.isRegistered_perform]
      exact h.deliverable e' (hinbox ▸ List.mem_cons_of_mem e he')
    · rw [← h.waiting id key (Call.over_of_append hover), Direct.waiting_send hfits hopen, hinbox,
        List.append_assoc, ← Envelope.under_append, ← List.filter_append, List.singleton_append]

variable {id : AgentId} {key : Key}

/-- A receive that goes on waiting leaves everything in its place. -/
theorem receive_waits (h : Mirrors calls r d)
    (hsingle : ∀ id key, (∀ round ∈ rounds id calls, round ≤ key.round) →
      (d.waiting id key).length ≤ 1)
    (hanswer : (r.perform (.receive id key)).1 = .ok none) :
    Mirrors (calls ++ [.receive id key]) (r.perform (.receive id key)).2 d := by
  rw [perform_receive] at hanswer ⊢
  refine ⟨fun id' => ?_, fun e he => ?_, fun id' key' hover => ?_⟩
  · rw [Direct.isRegistered_perform]
    exact h.isRegistered id'
  · rw [Direct.isRegistered_perform]
    exact h.deliverable e he
  · have hbefore := h.waiting id' key' (Call.over_of_append hover)
    have hsame : (r.direct.perform (.receive id key)).2.waiting id' key' =
        r.direct.waiting id' key' := by
      by_cases hself : id = id' ∧ key = key'
      · obtain ⟨rfl, rfl⟩ := hself
        have hnone : r.direct.waiting id key = [] := by
          cases hopen : r.direct.isRegistered id with
          | false => exact Direct.waiting_of_not_isRegistered hopen key
          | true =>
            rw [Direct.perform_receive hopen] at hanswer
            exact List.head?_eq_none_iff.mp (Except.ok.inj hanswer)
        rw [Direct.waiting_receive_self, hnone]
        rfl
      · have hle := hsingle id' key' (Call.over_of_append hover)
        rw [← hbefore, List.length_append] at hle
        exact Direct.waiting_receive_ne hself (Call.le_of_over hover) (by omega)
    exact (congrArg (· ++ _) hsame).trans hbefore

/-- A receive that comes to an end does so on both sides, with the same answer. -/
theorem receive_ends (h : Mirrors calls r d)
    (hover : ∀ round ∈ rounds id calls, round ≤ key.round)
    (hsingle : ∀ id key, (∀ round ∈ rounds id calls, round ≤ key.round) →
      (d.waiting id key).length ≤ 1)
    (hanswer : (r.perform (.receive id key)).1 ≠ .ok none) :
    (r.perform (.receive id key)).1 = (d.perform (.receive id key)).1 ∧
      Mirrors (calls ++ [.receive id key]) (r.perform (.receive id key)).2
        (d.perform (.receive id key)).2 := by
  rw [perform_receive] at hanswer ⊢
  have hregistered := h.isRegistered id
  cases hopen : r.direct.isRegistered id with
  | false =>
    rw [hopen] at hregistered
    rw [Direct.perform_receive_refused hopen, Direct.perform_receive_refused hregistered.symm]
    exact ⟨rfl, h.isRegistered, h.deliverable,
      fun id key hover => h.waiting id key (Call.over_of_append hover)⟩
  | true =>
    rw [hopen] at hregistered
    rw [Direct.perform_receive hopen] at hanswer
    -- The record is in the mailbox, so it is the first one that waits on either side.
    obtain ⟨record, rest, hwaiting⟩ : ∃ record rest, r.direct.waiting id key = record :: rest := by
      cases hw : r.direct.waiting id key with
      | nil => exact absurd (by rw [hw]; rfl) hanswer
      | cons record rest => exact ⟨record, rest, rfl⟩
    refine ⟨?_, fun id' => ?_, fun e he => ?_, fun id' key' hover' => ?_⟩
    · rw [Direct.perform_receive hopen, Direct.perform_receive hregistered.symm,
        ← h.waiting id key hover, hwaiting]
      rfl
    · rw [Direct.isRegistered_perform, Direct.isRegistered_perform]
      exact h.isRegistered id'
    · rw [Direct.isRegistered_perform]
      exact h.deliverable e he
    · have hbefore := h.waiting id' key' (Call.over_of_append hover')
      by_cases hself : id = id' ∧ key = key'
      · obtain ⟨rfl, rfl⟩ := hself
        rw [Direct.waiting_receive_self, Direct.waiting_receive_self, ← hbefore, hwaiting]
        rfl
      · have hle := hsingle id' key' (Call.over_of_append hover')
        have hle' := hle
        rw [← hbefore, List.length_append] at hle'
        rw [Direct.waiting_receive_ne hself (Call.le_of_over hover') (by omega),
          Direct.waiting_receive_ne hself (Call.le_of_over hover') hle]
        exact hbefore

/-- The next receive has the same answer, or waits for an envelope that the coordinator still holds. -/
theorem receive_cases (h : Mirrors calls r d) (hover : ∀ round ∈ rounds id calls, round ≤ key.round) :
    (r.perform (.receive id key)).1 = (d.perform (.receive id key)).1 ∨
      (r.perform (.receive id key)).1 = .ok none ∧ ∃ e ∈ r.inbox, e.receiver = id ∧ e.key = key ∧
        (d.perform (.receive id key)).1 = .ok (some e.record) := by
  have hregistered := h.isRegistered id
  rw [perform_receive]
  cases hopen : r.direct.isRegistered id with
  | false =>
    rw [hopen] at hregistered
    rw [Direct.perform_receive_refused hopen, Direct.perform_receive_refused hregistered.symm]
    exact .inl rfl
  | true =>
    rw [hopen] at hregistered
    rw [Direct.perform_receive hopen, Direct.perform_receive hregistered.symm,
      ← h.waiting id key hover]
    cases r.direct.waiting id key with
    | cons record rest => exact .inl rfl
    | nil =>
      rw [List.nil_append]
      cases hheld : (r.inbox.filter (·.receiver = id)).filter (·.key = key) with
      | nil =>
        rw [Envelope.under, hheld]
        exact .inl rfl
      | cons e held =>
        have hmem := hheld ▸ List.mem_cons_self (a := e) (l := held)
        simp only [List.mem_filter, decide_eq_true_eq] at hmem
        obtain ⟨⟨hinbox, hreceiver⟩, hkey⟩ := hmem
        rw [Envelope.under, hheld]
        exact .inr ⟨rfl, e, hinbox, hreceiver, hkey, rfl⟩

end Mirrors

/-- Mailboxes of some agents behind a coordinator, nothing of which has been used. -/
def opened (ids : List AgentId) : Relay α := ids.foldl (fun r id => r.register id) .empty

theorem opened_eq (ids : List AgentId) : (opened ids : Relay α) = ⟨[], Direct.opened ids, 0⟩ := by
  unfold opened Direct.opened
  induction ids using List.reverseRecOn with
  | nil => rfl
  | append_singleton ids id ih =>
    rw [List.foldl_concat, List.foldl_concat, ih]
    rfl

/-- Where calls lead that start with empty mailboxes. -/
def reached (ids : List AgentId) (calls : List (Call α)) : Relay α := after perform (opened ids) calls

/-- Of these calls those that came to an end. -/
def ended (ids : List AgentId) (calls : List (Call α)) : List (Call α) :=
  (Call.settled (log perform (opened ids) calls)).map (·.1)

/-- Where they would have led without a coordinator. -/
def image (ids : List AgentId) (calls : List (Call α)) : Direct α :=
  after Direct.perform (Direct.opened ids) (ended ids calls)

variable {ids : List AgentId}

/-- One more call, and what it is on the side without a coordinator. -/
theorem Mirrors.perform (h : Mirrors calls r d)
    (hsingle : ∀ id key, (∀ round ∈ rounds id calls, round ≤ key.round) →
      (d.waiting id key).length ≤ 1)
    {call : Call α}
    (hround : ∀ id, ∀ round ∈ rounds id calls, ∀ asked ∈ rounds id [call], round ≤ asked) :
    let passed := Call.settled [(call, (r.perform call).1)]
    log Direct.perform d (passed.map (·.1)) = passed ∧
      Mirrors (calls ++ [call]) (r.perform call).2 (after Direct.perform d (passed.map (·.1))) := by
  intro passed
  cases call with
  | send e =>
    obtain ⟨hanswer, hmirrors⟩ := h.send e
    exact ⟨by simp [passed, Call.settled, log, hanswer], hmirrors⟩
  | relay => exact ⟨rfl, h.relay⟩
  | receive id key =>
    by_cases hanswer : (r.perform (.receive id key)).1 = .ok none
    · have hpassed : passed = [] := by simp [passed, Call.settled, hanswer]
      rw [hpassed]
      exact ⟨rfl, h.receive_waits hsingle hanswer⟩
    · have hpassed : passed = [(.receive id key, (r.perform (.receive id key)).1)] := by
        unfold passed Call.settled
        refine List.filter_eq_self.mpr fun entry hentry => ?_
        obtain rfl := List.mem_singleton.mp hentry
        split
        · next heq => exact absurd (Prod.mk.inj heq).2 hanswer
        · rfl
      obtain ⟨hsame, hmirrors⟩ := h.receive_ends
        (fun round hmem => hround id round hmem _ (by simp [rounds])) hsingle hanswer
      rw [hpassed]
      exact ⟨by simp [log, hsame], hmirrors⟩

theorem length_waiting_image (hrounds : ∀ id, (rounds id calls).Pairwise (· ≤ ·))
    (hunique : ∀ id key, (delivered id key (log perform (opened ids) calls)).length ≤ 1)
    (hlog : log Direct.perform (Direct.opened ids) (ended ids calls) =
      Call.settled (log perform (opened ids) calls)) (id : AgentId) (key : Key)
    (hover : ∀ round ∈ rounds id calls, round ≤ key.round) :
    ((image ids calls).waiting id key).length ≤ 1 := by
  have hsublist := Call.rounds_settled_sublist id (log perform (opened ids) calls)
  rw [Call.map_log] at hsublist
  refine Direct.length_waiting_of_unique (fun m hm => Direct.eq_empty_of_opened hm)
    ((hrounds id).sublist hsublist) (fun round hround => hover round (hsublist.subset hround)) ?_
  rw [hlog, delivered, Call.accepted_settled]
  exact hunique id key

/-- The coordinator loses nothing. -/
theorem Mirrors.count (h : Mirrors calls r d) (call : Call α) :
    (r.perform call).2.relayed + (r.perform call).2.inbox.length =
      r.relayed + r.inbox.length + (Call.accepted [(call, (r.perform call).1)]).length := by
  cases call with
  | send e =>
    by_cases hok : e.record.fits e.kind = true ∧ r.direct.isRegistered e.receiver = true
    · rw [perform_send_accepted hok.1 hok.2, List.length_append, ← Nat.add_assoc]
      rfl
    · obtain ⟨refusal, hrefused⟩ := Direct.perform_send_refused hok
      rw [perform_send_refused hok, hrefused]
      rfl
  | relay =>
    change r.step.relayed + r.step.inbox.length = r.relayed + r.inbox.length
    cases hinbox : r.inbox with
    | nil => simp [step, hinbox]
    | cons e inbox =>
      obtain ⟨hfits, hopen⟩ := h.deliverable e (hinbox ▸ List.mem_cons_self)
      rw [step_cons hinbox hfits hopen, List.length_cons]
      dsimp only
      omega
  | receive id key =>
    rw [perform_receive]
    rfl

/-- After every history the mailboxes without a coordinator have given the same answers, and what they
have in advance is what the coordinator still has to pass on. -/
theorem mirrors_image (hrounds : ∀ id, (rounds id calls).Pairwise (· ≤ ·))
    (hunique : ∀ id key, (delivered id key (log perform (opened ids) calls)).length ≤ 1) :
    log Direct.perform (Direct.opened ids) (ended ids calls) =
        Call.settled (log perform (opened ids) calls) ∧
      Mirrors calls (reached ids calls) (image ids calls) ∧
      (reached ids calls).relayed + (reached ids calls).inbox.length =
        (Call.accepted (log perform (opened ids) calls)).length := by
  induction calls using List.reverseRecOn with
  | nil =>
    have hstart : reached ids ([] : List (Call α)) = ⟨[], Direct.opened ids, 0⟩ := opened_eq ids
    rw [hstart]
    exact ⟨rfl, ⟨fun _ => rfl, by simp, fun _ _ _ => List.append_nil _⟩, rfl⟩
  | append_singleton calls call ih =>
    have hsplit : ∀ id, (rounds id calls).Pairwise (· ≤ ·) ∧
        ∀ round ∈ rounds id calls, ∀ asked ∈ rounds id [call], round ≤ asked := by
      intro id
      obtain ⟨hcalls, -, hnext⟩ := List.pairwise_append.mp (Call.rounds_append id _ _ ▸ hrounds id)
      exact ⟨hcalls, hnext⟩
    have hfewer : ∀ id key, (delivered id key (log perform (opened ids) calls)).length ≤ 1 := by
      intro id key
      have hle := hunique id key
      rw [Call.log_append, Call.delivered_append, List.length_append] at hle
      omega
    obtain ⟨hlog, hmirrors, hcount⟩ := ih (fun id => (hsplit id).1) hfewer
    obtain ⟨hlast, hnext⟩ := hmirrors.perform
      (length_waiting_image (fun id => (hsplit id).1) hfewer hlog) fun id => (hsplit id).2
    have hended : ended ids (calls ++ [call]) = ended ids calls ++
        (Call.settled [(call, ((reached ids calls).perform call).1)]).map (·.1) := by
      rw [ended, Call.log_append, Call.settled_append, List.map_append]
      rfl
    have hreached : reached ids (calls ++ [call]) = ((reached ids calls).perform call).2 :=
      Call.after_append perform _ _ _
    rw [image, hreached, hended, Call.log_append, Call.after_append, Call.log_append,
      Call.settled_append, Call.accepted_append, hlog, List.length_append, ← hcount]
    exact ⟨congrArg _ hlast, hnext, hmirrors.count call⟩

/-- Whoever only receives has to do with the mailboxes alone. -/
theorem log_batch_nil (r : Relay α) (requests : List (AgentId × Key)) :
    log perform r (Call.batch [] requests) = log Direct.perform r.direct (Call.batch [] requests) := by
  induction requests generalizing r with
  | nil => rfl
  | cons request requests ih =>
    change (_, _) :: log perform _ (Call.batch [] requests) =
      (_, _) :: log Direct.perform _ (Call.batch [] requests)
    rw [perform_receive, ih]

theorem sent_ended (ids : List AgentId) (calls : List (Call α)) :
    Call.sent (ended ids calls) = Call.sent calls := by
  have hsettled : ∀ history : List (Call α × Answer α),
      Call.sent ((Call.settled history).map (·.1)) = Call.sent (history.map (·.1)) := by
    intro history
    induction history with
    | nil => rfl
    | cons entry history ih =>
      obtain ⟨call, answer⟩ := entry
      cases call with
      | send e => exact congrArg (e :: ·) ih
      | relay => exact ih
      | receive id key => rcases answer with refusal | (_ | record) <;> exact ih
  rw [ended, hsettled, Call.map_log]

/-- Delivery through a coordinator is direct delivery, only later. All calls that come to an end have the
answers that they have without a coordinator, where the same envelopes are sent in the same order; a
receive goes on waiting only for an envelope that the coordinator still holds. -/
theorem refines_direct (ids : List AgentId) {calls : List (Call α)}
    (hrounds : ∀ id, (rounds id calls).Pairwise (· ≤ ·))
    (hunique : ∀ id key, (delivered id key (log perform (opened ids) calls)).length ≤ 1) :
    Call.sent (ended ids calls) = Call.sent calls ∧
    log Direct.perform (Direct.opened ids) (ended ids calls) =
      Call.settled (log perform (opened ids) calls) ∧
    (∀ id key, (rounds id (calls ++ [.receive id key])).Pairwise (· ≤ ·) →
      ((reached ids calls).perform (.receive id key)).1 =
          ((image ids calls).perform (.receive id key)).1 ∨
        ((reached ids calls).perform (.receive id key)).1 = .ok none ∧
          ∃ e ∈ (reached ids calls).inbox, e.receiver = id ∧ e.key = key ∧
            ((image ids calls).perform (.receive id key)).1 = .ok (some e.record)) ∧
    ((reached ids calls).inbox = [] → ∀ requests,
      (∀ id, (rounds id (calls ++ Call.batch [] requests)).Pairwise (· ≤ ·)) →
        log perform (reached ids calls) (Call.batch [] requests) =
          log Direct.perform (image ids calls) (Call.batch [] requests)) ∧
    (∀ e, ((reached ids calls).perform (.send e)).1 = ((image ids calls).perform (.send e)).1) ∧
    (reached ids calls).relayed + (reached ids calls).inbox.length =
      (Call.accepted (log perform (opened ids) calls)).length := by
  obtain ⟨hlog, hmirrors, hcount⟩ := mirrors_image hrounds hunique
  refine ⟨sent_ended ids calls, hlog, fun id key hasked => ?_, fun hdrained requests hrequests => ?_,
    fun e => (hmirrors.send e).1, hcount⟩
  · exact hmirrors.receive_cases (Call.rounds_before_receive hasked).2
  · rw [log_batch_nil]
    refine Direct.log_batch_congr hrequests hmirrors.isRegistered fun id key hover => ?_
    have hwaiting := hmirrors.waiting id key hover
    rw [hdrained, List.filter_nil, Envelope.under_nil, List.append_nil] at hwaiting
    exact ⟨hwaiting, hwaiting ▸ length_waiting_image hrounds hunique hlog id key hover⟩

/-- One letter has been received, after some waiting, and another one is still on its way. -/
def correspondence : List (Call Rat) :=
  [.send (Direct.letter 0 1 1), .receive 1 (Direct.letter 0 1 1).key, .relay,
    .receive 1 (Direct.letter 0 1 1).key, .send (Direct.letter 2 1 2)]

theorem correspondence_refines_direct :
    (reached [1] correspondence).relayed + 1 = 2 ∧
      ∃ e ∈ (reached [1] correspondence).inbox, e.receiver = 1 ∧ e.key = (Direct.letter 2 1 2).key ∧
        ((image [1] correspondence).perform (.receive 1 (Direct.letter 2 1 2).key)).1 =
          .ok (some e.record) := by
  have hrounds : ∀ id, (rounds id correspondence).Pairwise (· ≤ ·) := by
    intro id
    by_cases hid : 1 = id
    · subst hid
      decide
    · simp [rounds, correspondence, hid]
  have hunique : ∀ id key,
      (delivered id key (log perform (opened [1]) correspondence)).length ≤ 1 :=
    Call.length_delivered_le (by decide)
  obtain ⟨-, -, hreceive, -, -, hcount⟩ := refines_direct [1] hrounds hunique
  refine ⟨hcount, ((hreceive 1 (Direct.letter 2 1 2).key (by decide)).resolve_left fun hsame => ?_).2⟩
  -- The coordinator has not passed the second letter on.
  change Except.ok none = Except.ok (some (Direct.letter 2 1 2).record) at hsame
  cases hsame

end Relay

end ConsensusControl
