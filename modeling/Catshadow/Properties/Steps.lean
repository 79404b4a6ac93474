import Catshadow.Properties.Handlers

/-!
# What one step of the system does

`Step.effect` sorts every step of the system, from a state with the mutex free, into
five kinds, and says for each what it does to the parts of the client the invariants
are about: the contact indexes, the contacts' ids, nicknames and counters, the read
descriptor and `sendMap`. It is the only place where the steps are taken apart;
every invariant of the later modules is a case analysis on `Effect`.

The kinds: a step that leaves the indexes, the counters and the read descriptor alone
(`quiet`); `doSendMessage` counting a submitted message (`submit`); `handleReply`
reading the tip of the spool (`readTip`); `createContact` adding a contact (`add`);
and `doContactRemoval` removing one (`remove`). Besides, every step leaves the mutex
free and the user as it was, and only adds to `sendMap` entries under transport ids
(`Always`).

The module also packages runs: `Reachable.induction` is the induction over a run that
every invariant uses, and `Client.next` names the state a concrete step reaches.
-/

namespace Catshadow

variable {L : Limits} {c c' : Client}

/-! ### The read loop's trial decryption -/

/-- `p` is the first contact of `order` that is not pending and whose ratchet decrypts,
to `pt`. -/
def FirstDecrypts (c : Client) (a : Answers) (order : List Ptr) (p : Ptr) (pt : Bytes) : Prop :=
  ∃ pre post, order = pre ++ p :: post ∧
    (∀ q ∈ pre, (c.heap q).IsPending = true ∨ ∃ e, a.decrypt q = .error e) ∧
    (c.heap p).IsPending = false ∧ a.decrypt p = .ok pt

theorem Client.trialDecrypt_eq_some {a : Answers} {p : Ptr} {pt : Bytes} :
    ∀ {order : List Ptr}, c.trialDecrypt a order = some (p, pt) → FirstDecrypts c a order p pt
  | [], h => by simp [Client.trialDecrypt] at h
  | q :: order, h => by
    unfold Client.trialDecrypt at h
    split at h
    · obtain ⟨pre, post, rfl, hpre, hp⟩ := Client.trialDecrypt_eq_some h
      exact ⟨q :: pre, post, rfl, by simp_all, hp⟩
    · rename_i hq
      split at h
      · simp only [Option.some.injEq, Prod.mk.injEq] at h
        obtain ⟨rfl, rfl⟩ := h
        exact ⟨[], order, rfl, by simp, by simpa using hq, ‹_›⟩
      · obtain ⟨pre, post, rfl, hpre, hp⟩ := Client.trialDecrypt_eq_some h
        exact ⟨q :: pre, post, rfl, by simp_all, hp⟩

/-- The loop finds nothing when no contact of `order` is established with a ratchet that
decrypts. -/
theorem Client.trialDecrypt_eq_none {a : Answers} : ∀ {order : List Ptr},
    (∀ q ∈ order, (c.heap q).IsPending = false → ∃ e, a.decrypt q = .error e) →
      c.trialDecrypt a order = none
  | [], _ => rfl
  | q :: order, h => by
    have ih := Client.trialDecrypt_eq_none fun r hr => h r (List.mem_cons_of_mem q hr)
    cases hq : (c.heap q).IsPending
    · obtain ⟨e, he⟩ := h q (List.mem_cons_self q order) hq
      simp [Client.trialDecrypt, hq, he, ih]
    · simp [Client.trialDecrypt, hq, ih]

/-! ### The kinds of step -/

/-- Every entry of `c'`'s `sendMap` is one of `c`'s, or new: under a transport id, and,
if `sendReadInbox` stored it, a request under the user's nickname for the slot at `c`'s
read offset. -/
def SendMapGrows (c c' : Client) : Prop :=
  ∀ k e, c'.sendMap.lookup k = some e → c.sendMap.lookup k = some e ∨
    (∃ t, k = .array t) ∧ (e.origin = .readInbox → ∃ d, c.spoolReadDescriptor = some d ∧
      e.descriptor = ⟨c.user, sequenceID d.ReadOffset⟩)

/-- Every transport id `c`'s `sendMap` holds an entry under, `c'`'s holds one under too. -/
def KeepsTransportIDs (c c' : Client) : Prop :=
  ∀ t, SendKey.array t ∈ c.sendMap → SendKey.array t ∈ c'.sendMap

/-- What every step does: it leaves the mutex free and the user as it was, only adds
entries to `sendMap`, and removes none stored under a transport id. -/
structure Always (c c' : Client) : Prop where
  unlocked : c'.conversationsLocked = false
  user : c'.user = c.user
  sendMap : SendMapGrows c c'
  keeps : KeepsTransportIDs c c'

/-- The parts of the client only adding and removing a contact change: the two indexes,
the next heap cell, and each contact's id and nickname. -/
structure SameIndex (c c' : Client) : Prop where
  nextPtr : c'.nextPtr = c.nextPtr
  contacts : c'.contacts = c.contacts
  contactNicknames : c'.contactNicknames = c.contactNicknames
  id : ∀ q, (c'.heap q).id = (c.heap q).id
  Nickname : ∀ q, (c'.heap q).Nickname = (c.heap q).Nickname

/-- `c'` is `c` after `handleReply` took a reply to a read request for the tip of the
spool: the offset moved on by one, and the first established contact whose ratchet
decrypts the payload got one message in its conversation and one `MessageReceived`
event. -/
def ReadsTip (c c' : Client) : Prop :=
  ∃ ev a e r d p pt body, c.handleReply ev a = .ok c' ∧
    c.sendMap.lookup (.array ev.MessageID.target) = some e ∧ e.descriptor.Nickname = c.user ∧
    ev.Payload = .ok r ∧ r.IsOK ∧ c.spoolReadDescriptor = some d ∧ r.MessageID = d.ReadOffset ∧
    c'.spoolReadDescriptor = some { d with ReadOffset := d.ReadOffset + 1 } ∧
    FirstDecrypts c a (a.contactOrder (c.contacts.entries.map Sigma.snd)) p pt ∧
    parseFrame pt = .ok body ∧
    c'.conversations = c.conversations.insertMessage (c.heap p).Nickname a.freshID (inbound body a.now) ∧
    c'.events = c.events ++ [.messageReceived (c.heap p).Nickname body a.now]

/-- The five kinds of step. -/
inductive Effect (L : Limits) (c : Client) : Client → Prop
  /-- The indexes, the counters and the read descriptor stay. -/
  | quiet {c'} (hi : SameIndex c c') (hu : ∀ q, (c'.heap q).UnACKed = (c.heap q).UnACKed)
      (hd : c'.spoolReadDescriptor = c.spoolReadDescriptor) : Effect L c c'
  /-- `doSendMessage` submits a message for the contact at `p`, the session accepts it under
  the transport id `t`, which `sendMap` now holds, and the contact's counter goes up. -/
  | submit {c'} (a : Answers) (id : MessageID) (n : String) (m : Bytes) (p : Ptr)
      (hstep : step L c a (.sendMessage id n m) = .ok c') (hp : c.contactNicknames.lookup n = some p)
      (hi : SameIndex c c')
      (hu : ∀ q, (c'.heap q).UnACKed = if q = p then (c.heap p).UnACKed + 1 else (c.heap q).UnACKed)
      (hd : c'.spoolReadDescriptor = c.spoolReadDescriptor) (t : TransportID)
      (hacc : a.appendToSpool = none ∧ a.sendUnreliable = .ok t ∧
        c'.sendMap.lookup (.array t) = some ⟨⟨n, id⟩, .sendMessage⟩) : Effect L c c'
  /-- `handleReply` reads the tip of the spool. -/
  | readTip {c'} (hi : SameIndex c c') (hheap : c'.heap = c.heap) (ht : ReadsTip c c') :
      Effect L c c'
  /-- `createContact` adds `k`, a contact with a fresh non-zero id, a fresh nickname and no
  unacknowledged message, at the next heap cell (as `k'`, once its exchange started). -/
  | add {c'} (k k' : Contact) (hid : k.id ≠ 0) (hfresh : k.id ∉ c.contacts)
      (hn : k.Nickname ∉ c.contactNicknames) (hk : k.UnACKed = 0) (hk' : Client.SameIdentity k k')
      (hheap : c'.heap = Function.update c.heap c.nextPtr k') (hnext : c'.nextPtr = c.nextPtr + 1)
      (hcon : c'.contacts = c.contacts.insert k.id c.nextPtr)
      (hnick : c'.contactNicknames = c.contactNicknames.insert k.Nickname c.nextPtr)
      (hd : c'.spoolReadDescriptor = c.spoolReadDescriptor) (hpend : k'.IsPending = true) :
      Effect L c c'
  /-- `doContactRemoval` drops the contact at `p`, known as `n`, from both indexes. -/
  | remove {c'} (n : String) (p : Ptr) (hp : c.contactNicknames.lookup n = some p)
      (hheap : c'.heap = c.heap) (hnext : c'.nextPtr = c.nextPtr)
      (hcon : c'.contacts = c.contacts.erase (c.heap p).id)
      (hnick : c'.contactNicknames = c.contactNicknames.erase n)
      (hd : c'.spoolReadDescriptor = c.spoolReadDescriptor) : Effect L c c'

namespace SendMapGrows

theorem of_eq (h : c'.sendMap = c.sendMap) : SendMapGrows c c' :=
  fun _ _ he => .inl (h ▸ he)

theorem delete (k : SendKey) : SendMapGrows c (c.delete k) := fun k' e he => by
  by_cases hk : k' = k
  · subst hk; simp [Client.delete, AList.lookup_erase] at he
  · exact .inl (by simpa [Client.delete, AList.lookup_erase_ne hk] using he)

theorem store (t : TransportID) (e : SendEntry)
    (he : e.origin = .readInbox → ∃ d, c.spoolReadDescriptor = some d ∧
      e.descriptor = ⟨c.user, sequenceID d.ReadOffset⟩) :
    SendMapGrows c (c.store (.array t) e) := fun k e' h => by
  by_cases hk : k = .array t
  · subst hk
    simp only [Client.store, AList.lookup_insert, Option.some.injEq] at h
    subst h
    exact .inr ⟨⟨t, rfl⟩, he⟩
  · exact .inl (by simpa [Client.store, AList.lookup_insert_ne hk] using h)

theorem trans {c₁ c₂ : Client} (h₁ : SendMapGrows c c₁) (h₂ : SendMapGrows c₁ c₂)
    (hu : c₁.user = c.user) (hd : c₁.spoolReadDescriptor = c.spoolReadDescriptor) :
    SendMapGrows c c₂ := fun k e h =>
  (h₂ k e h).elim (h₁ k e) fun h => .inr (hu ▸ hd ▸ h)

theorem of_stored {n : String} (h : Client.Stored .retransmit n c c') : SendMapGrows c c' := by
  obtain ⟨m, rfl, hm, -⟩ := h
  intro k e he
  rcases hm k e he with h | ⟨ht, ho, -⟩
  · exact .inl h
  · exact .inr ⟨ht, fun h => nomatch ho.symm.trans h⟩

end SendMapGrows

namespace KeepsTransportIDs

theorem of_eq (h : c'.sendMap = c.sendMap) : KeepsTransportIDs c c' := fun _ ht => h ▸ ht

/-- The deletes of the code are of pointer keys, which are no transport ids. -/
theorem delete (addr : Nat) : KeepsTransportIDs c (c.delete (.pointer addr)) := fun _ ht =>
  AList.mem_erase.mpr ⟨SendKey.noConfusion, ht⟩

theorem store (k : SendKey) (e : SendEntry) : KeepsTransportIDs c (c.store k e) := fun _ ht =>
  (AList.mem_insert _).mpr (.inr ht)

theorem trans {c₁ c₂ : Client} (h₁ : KeepsTransportIDs c c₁) (h₂ : KeepsTransportIDs c₁ c₂) :
    KeepsTransportIDs c c₂ := fun t ht => h₂ t (h₁ t ht)

theorem of_stored {o : Origin} {n : String} (h : Client.Stored o n c c') : KeepsTransportIDs c c' := by
  obtain ⟨m, rfl, -, hkeys⟩ := h
  exact fun _ => hkeys _

end KeepsTransportIDs

theorem Client.SameIdentity.update {f : Ptr → Contact} {p : Ptr} {k : Contact}
    (h : Client.SameIdentity (f p) k) (q : Ptr) :
    Client.SameIdentity (f q) (Function.update f p k q) := by
  by_cases hq : q = p
  · subst hq; simpa using h
  · simp [Function.update_noteq hq, Client.SameIdentity]

theorem NewContact_ok {n : String} {id : UInt64} {s : Except String Bytes} {ch : Chan} {k : Contact}
    (h : NewContact n id s ch = .ok k) :
    k.id = id ∧ k.Nickname = n ∧ k.UnACKed = 0 ∧ k.IsPending = true := by
  unfold NewContact at h
  split at h <;> simp at h
  subst h; exact ⟨rfl, rfl, rfl, rfl⟩

/-- A goroutine's report changes only the running goroutines. -/
theorem Client.report_eq (c : Client) (t : KxTask) (u : PandaUpdate) :
    ∃ ts, c.report t u = { c with kxTasks := ts } := by
  unfold Client.report; split <;> exact ⟨_, rfl⟩

/-- A reply at the tip that `decryptMessage` decrypts is a read of the tip. -/
theorem ReadsTip.of_decrypted {a : Answers} {ev : MessageReplyEvent} {e : SendEntry} {r : SpoolResponse}
    {d : SpoolReadDescriptor} {c₁ : Client} (hc : c.conversationsLocked = false)
    (he : c.sendMap.lookup (.array ev.MessageID.target) = some e) (hn : e.descriptor.Nickname = c.user)
    (hr : ev.Payload = .ok r) (hok : r.IsOK) (hd : c.spoolReadDescriptor = some d)
    (heq : r.MessageID = d.ReadOffset)
    (hdm : ({ c with spoolReadDescriptor := some d.IncrementOffset } : Client).decryptMessage a =
      .ok (true, c₁))
    (h : c.handleReply ev a = .ok (c₁.delete (.pointer ev.MessageID.addr))) :
    ReadsTip c (c₁.delete (.pointer ev.MessageID.addr)) ∧ ∃ convs evs errs,
      c₁ = { c with spoolReadDescriptor := some d.IncrementOffset, conversations := convs, events := evs,
                    fatalErrors := errs } := by
  rcases Client.decryptMessage_ok (by exact hc) hdm with ⟨h, -⟩ | ⟨-, p, pt, body, htd, hpf, rfl⟩
  · exact absurd h Bool.noConfusion
  have hfirst := Client.trialDecrypt_eq_some htd
  exact ⟨⟨ev, a, e, r, d, p, pt, body, h, he, hn, hr, hok, hd, heq, rfl, hfirst, hpf, rfl, rfl⟩,
    _, _, _, rfl⟩

/-! ### Every step is one of the five -/

namespace Effect

variable {a : Answers}

theorem keep (hheap : c'.heap = c.heap) (hn : c'.nextPtr = c.nextPtr)
    (hc : c'.contacts = c.contacts) (hk : c'.contactNicknames = c.contactNicknames)
    (hd : c'.spoolReadDescriptor = c.spoolReadDescriptor) : Effect L c c' :=
  .quiet ⟨hn, hc, hk, fun _ => by rw [hheap], fun _ => by rw [hheap]⟩ (fun _ => by rw [hheap]) hd

/-- A step that changes no part of the client the invariants read. -/
theorem untouched (hl : c'.conversationsLocked = false) (hu : c'.user = c.user)
    (hs : c'.sendMap = c.sendMap) (hheap : c'.heap = c.heap) (hn : c'.nextPtr = c.nextPtr)
    (hc : c'.contacts = c.contacts) (hk : c'.contactNicknames = c.contactNicknames)
    (hd : c'.spoolReadDescriptor = c.spoolReadDescriptor) : Always c c' ∧ Effect L c c' :=
  ⟨⟨hl, hu, .of_eq hs, .of_eq hs⟩, keep hheap hn hc hk hd⟩

/-- The same, followed by a `sendMap.Delete` of a pointer. -/
theorem of_deleted {c₁ : Client} (addr : Nat) (hl : c₁.conversationsLocked = false)
    (hu : c₁.user = c.user) (hs : c₁.sendMap = c.sendMap) (hheap : c₁.heap = c.heap)
    (hn : c₁.nextPtr = c.nextPtr) (hc : c₁.contacts = c.contacts)
    (hk : c₁.contactNicknames = c.contactNicknames)
    (hd : c₁.spoolReadDescriptor = c.spoolReadDescriptor) :
    Always c (c₁.delete (.pointer addr)) ∧ Effect L c (c₁.delete (.pointer addr)) := by
  refine ⟨⟨hl, hu, fun k' e he => ?_, (KeepsTransportIDs.of_eq hs).trans (.delete addr)⟩,
    keep hheap hn hc hk hd⟩
  exact (SendMapGrows.delete _ k' e he).elim (fun h => .inl (hs ▸ h)) fun h => .inr (hu ▸ hd ▸ h)

theorem of_handleSent {ev : MessageSentEvent} (hc : c.conversationsLocked = false)
    (h : c.handleSent ev a = .ok c') : Always c c' ∧ Effect L c c' := by
  rcases Client.handleSent_ok hc h with rfl | ⟨n, id, -, rfl⟩ <;>
    exact untouched hc rfl rfl rfl rfl rfl rfl rfl

theorem of_handleReply {ev : MessageReplyEvent} (hc : c.conversationsLocked = false)
    (h : c.handleReply ev a = .ok c') : Always c c' ∧ Effect L c c' := by
  rcases Client.handleReply_ok hc h with rfl | ⟨err, -, rfl⟩ | rfl | ⟨n, id, rfl⟩ |
    ⟨e, r, d, c₁, he, hn, hr, hok, hd, heq, hdm, rfl⟩
  · exact untouched hc rfl rfl rfl rfl rfl rfl rfl
  · exact of_deleted _ hc rfl rfl rfl rfl rfl rfl rfl
  · exact of_deleted _ hc rfl rfl rfl rfl rfl rfl rfl
  · exact of_deleted _ hc rfl rfl rfl rfl rfl rfl rfl
  · obtain ⟨ht, convs, evs, errs, rfl⟩ := ReadsTip.of_decrypted hc he hn hr hok hd heq hdm h
    exact ⟨⟨hc, rfl, SendMapGrows.delete (c := c) _, KeepsTransportIDs.delete (c := c) _⟩,
      .readTip ⟨rfl, rfl, rfl, fun _ => rfl, fun _ => rfl⟩ rfl ht⟩

theorem of_doSendMessage {id : MessageID} {n : String} {m : Bytes} (hc : c.conversationsLocked = false)
    (h : step L c a (.sendMessage id n m) = .ok c') : Always c c' ∧ Effect L c c' := by
  rcases Client.doSendMessage_ok hc h with rfl | ⟨p, c₂, hp, -, hst, hsub⟩
  · exact untouched hc rfl rfl rfl rfl rfl rfl rfl
  have hgrow := SendMapGrows.of_stored hst
  have hkeep := KeepsTransportIDs.of_stored hst
  obtain ⟨m₂, rfl, -⟩ := hst
  rcases Client.submit_ok hsub with rfl | ⟨t, happ, hsend, rfl⟩
  · exact ⟨⟨hc, rfl, hgrow, hkeep⟩, keep rfl rfl rfl rfl rfl⟩
  refine ⟨⟨hc, rfl, hgrow.trans (.store t _ fun h => nomatch h) rfl rfl, hkeep.trans (.store _ _)⟩,
    .submit a id n m p h hp ⟨rfl, rfl, rfl, ?_, ?_⟩ ?_ rfl t ⟨happ, hsend, by simp [Client.store]⟩⟩ <;>
  intro q <;> by_cases hq : q = p <;>
    simp [Client.store, Client.persisted, Client.modifyContact, Client.modifyConversations, hq]

theorem of_addContact {n : String} {secret : Bytes} (hc : c.conversationsLocked = false)
    (h : step L c a (.addContact n secret) = .ok c') : Always c c' ∧ Effect L c c' := by
  obtain ⟨⟨err, c₁⟩, h₁, h₂⟩ := bind_eq_ok.mp h
  have hc' : c' = c₁ ∨ ∃ e, c' = c₁.emit e := by
    cases err <;> simp at h₂ <;> simp [← h₂]
  rcases Client.createContact_ok h₁ with rfl | ⟨id, k, hn, hid, hk, hadd⟩
  · rcases hc' with rfl | ⟨e, rfl⟩ <;> exact untouched hc rfl rfl rfl rfl rfl rfl rfl
  obtain ⟨hid0, hfresh⟩ := Client.randID_ok hid
  obtain ⟨rfl, rfl, hk0, hpend⟩ := NewContact_ok hk
  rcases hadd with rfl | ⟨kx, rfl⟩
  · rcases hc' with rfl | ⟨e, rfl⟩ <;>
      exact ⟨⟨hc, rfl, .of_eq rfl, .of_eq rfl⟩,
        .add k k hid0 hfresh hn hk0 ⟨rfl, rfl, rfl⟩ rfl rfl rfl rfl rfl hpend⟩
  · rcases hc' with rfl | ⟨e, rfl⟩ <;>
      dsimp only [Client.emit, Client.persisted, Client.spawn, Client.modifyContact, Client.addContact] <;>
      exact ⟨⟨hc, rfl, .of_eq rfl, .of_eq rfl⟩,
        .add k { k with pandaKeyExchange := kx, keyExchange := [] } hid0 hfresh hn hk0 ⟨rfl, rfl, rfl⟩
          (by simp) rfl rfl rfl rfl hpend⟩

theorem of_doContactRemoval {n : String} (hc : c.conversationsLocked = false)
    (h : c.doContactRemoval n a = .ok c') : Always c c' ∧ Effect L c c' := by
  rcases Client.doContactRemoval_ok h with rfl | ⟨p, closed, hp, rfl⟩
  · exact untouched hc rfl rfl rfl rfl rfl rfl rfl
  · exact ⟨⟨hc, rfl, .of_eq rfl, .of_eq rfl⟩, .remove n p hp rfl rfl rfl rfl rfl⟩

theorem of_sendReadInbox (hc : c.conversationsLocked = false) (h : c.sendReadInbox a = .ok c') :
    Always c c' ∧ Effect L c c' := by
  rcases Client.sendReadInbox_ok h with rfl | ⟨err, -, rfl⟩ | ⟨d, t, hd, rfl⟩
  · exact untouched hc rfl rfl rfl rfl rfl rfl rfl
  · exact untouched hc rfl rfl rfl rfl rfl rfl rfl
  · exact ⟨⟨hc, rfl, .store t _ fun _ => ⟨d, hd, rfl⟩, .store _ _⟩, keep rfl rfl rfl rfl rfl⟩

theorem of_processPANDAUpdate {t : KxTask} {u : PandaUpdate} (hc : c.conversationsLocked = false)
    (h : (c.report t u).processPANDAUpdate u a = .ok c') : Always c c' ∧ Effect L c c' := by
  obtain ⟨ts, hr⟩ := Client.report_eq c t u
  rw [hr] at h
  rcases Client.processPANDAUpdate_ok h with rfl | ⟨p, k, ts', evs, s, hp, rfl, hk⟩
  · exact untouched hc rfl rfl rfl rfl rfl rfl rfl
  · exact ⟨⟨hc, rfl, .of_eq rfl, .of_eq rfl⟩, .quiet ⟨rfl, rfl, rfl, fun q => (hk.update q).1,
      fun q => (hk.update q).2.1⟩ (fun q => (hk.update q).2.2) rfl⟩

end Effect

/-- **Every step is one of the five kinds.** -/
theorem Step.effect (hs : Step L c c') (hc : c.conversationsLocked = false) :
    Always c c' ∧ Effect L c c' := by
  cases hs with
  | loop i a h =>
    cases i with
    | addContact n secret => exact Effect.of_addContact hc h
    | removeContact n => exact Effect.of_doContactRemoval hc h
    | sendMessage id n m => exact Effect.of_doSendMessage hc h
    | messageSent ev => exact Effect.of_handleSent hc h
    | messageReply ev => exact Effect.of_handleReply hc h
    | garbageCollected ev =>
      obtain rfl := (Except.ok.inj h).symm
      exact Effect.of_deleted _ hc rfl rfl rfl rfl rfl rfl rfl
    | readInboxTick => exact Effect.of_sendReadInbox hc h
    | gcTick =>
      obtain rfl := Client.garbageCollectConversations_ok hc h
      exact Effect.untouched hc rfl rfl rfl rfl rfl rfl rfl
  | panda t u a _ _ h => exact Effect.of_processPANDAUpdate hc h
  | cancelled t _ _ _ _ => exact Effect.untouched hc rfl rfl rfl rfl rfl rfl rfl

/-- No step takes back a heap cell. -/
theorem Effect.nextPtr_le (he : Effect L c c') : c.nextPtr ≤ c'.nextPtr := by
  cases he with
  | quiet hi => exact hi.nextPtr.ge
  | submit _ _ _ _ _ _ _ hi => exact hi.nextPtr.ge
  | readTip hi => exact hi.nextPtr.ge
  | add _ _ _ _ _ _ _ _ hnext => rw [hnext]; exact Nat.le_succ _
  | remove _ _ _ _ hnext => exact hnext.ge

/-- No step lowers the count of a heap cell it does not add: the acknowledgements that would
deadlock (`Catshadow.Properties.Locking`). -/
theorem Effect.unACKed_le (he : Effect L c c') {q : Ptr} (hq : q ≠ c.nextPtr) :
    (c.heap q).UnACKed ≤ (c'.heap q).UnACKed := by
  cases he with
  | quiet _ hu => exact (hu q).ge
  | submit _ _ _ _ p _ _ _ hu =>
    rw [hu q]
    split_ifs with hqp
    · subst hqp; exact Nat.le_succ _
    · exact le_rfl
  | readTip _ hheap => exact hheap ▸ le_rfl
  | add _ _ _ _ _ _ _ hheap => simp only [hheap, Function.update_noteq hq, le_refl]
  | remove _ _ _ hheap => exact hheap ▸ le_rfl

/-! ### Runs -/

theorem Start_unlocked {a : Answers} (hc : c.conversationsLocked = false) (h : Start L c a = .ok c') :
    c'.conversationsLocked = false := by
  obtain ⟨c₁, ts, h₁, rfl⟩ := Start_ok h
  obtain rfl := Client.garbageCollectConversations_ok hc h₁
  exact hc

theorem Start_heap {a : Answers} (h : Start L c a = .ok c') : c'.heap = c.heap := by
  obtain ⟨c₁, ts, h₁, rfl⟩ := Start_ok h
  cases hc : c.conversationsLocked
  · obtain rfl := Client.garbageCollectConversations_ok hc h₁
    rfl
  · simp [Client.garbageCollectConversations, Client.lockConversations, hc] at h₁

theorem Start_sendMap {s : State} {prov : String} {a : Answers} (h : Start L (New s prov) a = .ok c') :
    c'.sendMap = ∅ := by
  obtain ⟨c₁, ts, h₁, rfl⟩ := Start_ok h
  obtain rfl := Client.garbageCollectConversations_ok rfl h₁
  rfl

section Runs

variable {s : State} {prov : String}

theorem Reachable.tail (hr : Reachable L s prov c) (hs : Step L c c') : Reachable L s prov c' :=
  let ⟨a, c₀, h₀, hrun⟩ := hr
  ⟨a, c₀, h₀, hrun.tail hs⟩

theorem Reachable.trans (hr : Reachable L s prov c) (hrun : Relation.ReflTransGen (Step L) c c') :
    Reachable L s prov c' :=
  let ⟨a, c₀, h₀, h⟩ := hr
  ⟨a, c₀, h₀, h.trans hrun⟩

/-- Induction over runs, for a property whose preservation looks at the step itself. -/
theorem Reachable.induction_step {P : Client → Prop}
    (hstart : ∀ a c₀, Start L (New s prov) a = .ok c₀ → P c₀)
    (hstep : ∀ c c', c.conversationsLocked = false → P c → Step L c c' → P c')
    (hr : Reachable L s prov c) : P c ∧ c.conversationsLocked = false := by
  obtain ⟨a, c₀, h₀, hrun⟩ := hr
  induction hrun with
  | refl => exact ⟨hstart a c₀ h₀, Start_unlocked rfl h₀⟩
  | tail _ hs ih => exact ⟨hstep _ _ ih.2 ih.1 hs, (hs.effect ih.2).1.unlocked⟩

/-- **Induction over runs.** A property that holds once `Start` has run, and that every
kind of step preserves from a state with the mutex free, holds of every reachable
state; so does the mutex being free. -/
theorem Reachable.induction {P : Client → Prop}
    (hstart : ∀ a c₀, Start L (New s prov) a = .ok c₀ → P c₀)
    (hstep : ∀ c c', c.conversationsLocked = false → P c → Always c c' → Effect L c c' → P c')
    (hr : Reachable L s prov c) : P c ∧ c.conversationsLocked = false :=
  hr.induction_step hstart fun c c' hc hP hs =>
    let h := hs.effect hc
    hstep c c' hc hP h.1 h.2

theorem Reachable.unlocked (hr : Reachable L s prov c) : c.conversationsLocked = false :=
  (hr.induction (P := fun _ => True) (fun _ _ _ => trivial) fun _ _ _ _ _ _ => trivial).2

/-- The client `Start` leaves on the client `New` loaded, or the latter if `Start` halts. -/
def started (L : Limits) (s : State) (prov : String) (a : Answers) : Client :=
  (Start L (New s prov) a).toOption.getD (New s prov)

/-- The client the loop leaves after handling `i` with answers `a`, or `c` if it halts. -/
def Client.next (L : Limits) (c : Client) (a : Answers) (i : Input) : Client :=
  (step L c a i).toOption.getD c

theorem Start_eq_started {a : Answers} (h : (Start L (New s prov) a).isOk) :
    Start L (New s prov) a = .ok (started L s prov a) := by
  unfold started
  cases hs : Start L (New s prov) a with
  | error e => simp [hs, Except.isOk, Except.toBool] at h
  | ok c₀ => rfl

theorem Reachable.start {a : Answers} (h : (Start L (New s prov) a).isOk) :
    Reachable L s prov (started L s prov a) :=
  ⟨a, _, Start_eq_started h, .refl⟩

theorem step_eq_next {a : Answers} {i : Input} (h : (step L c a i).isOk) :
    step L c a i = .ok (c.next L a i) := by
  unfold Client.next
  cases hs : step L c a i with
  | error e => simp [hs, Except.isOk, Except.toBool] at h
  | ok c' => rfl

theorem Step.next {a : Answers} {i : Input} (h : (step L c a i).isOk) : Step L c (c.next L a i) :=
  .loop i a (step_eq_next h)

/-- The client after the loop processes the update `u` the goroutine `t` reports, or `c` if
it halts. -/
def Client.afterUpdate (c : Client) (t : KxTask) (u : PandaUpdate) (a : Answers) : Client :=
  ((c.report t u).processPANDAUpdate u a).toOption.getD c

theorem Step.afterUpdate {t : KxTask} {u : PandaUpdate} {a : Answers} (ht : t ∈ c.kxTasks)
    (hid : u.ID = t.ID) (h : ((c.report t u).processPANDAUpdate u a).isOk) :
    Step L c (c.afterUpdate t u a) := by
  refine .panda t u a ht hid ?_
  unfold Client.afterUpdate
  cases hs : (c.report t u).processPANDAUpdate u a with
  | error e => simp [hs, Except.isOk, Except.toBool] at h
  | ok c' => rfl

end Runs

/-! ### A client to run

The client the concrete runs of the later modules start from: the user `alice`,
reading her spool from slot 5, with one contact, `bob`, whose exchange has
completed. -/

/-- Limits for the runs: a window of nine messages, 64-byte payloads, messages expire
after 1000 time units. -/
def limits : Limits := ⟨9, 64, 1000, by decide⟩

/-- An established contact. -/
def bob : Contact :=
  { id := 7, Nickname := "bob", IsPending := false, ratchet := ⟨true⟩, keyExchange := [],
    pandaKeyExchange := [], pandaResult := "", spoolWriteDescriptor := some ⟨[], "bob", "provider"⟩,
    pandaShutdownChan := none, UnACKed := 0 }

/-- A saved state with `bob` as the only contact and no conversation. -/
def aliceState : State :=
  { SpoolReadDescriptor := some ⟨[], [], "alice", "provider", 5⟩, Contacts := [bob], LinkKey := [],
    User := "alice", Provider := "provider", Conversations := ∅ }

/-- A session with a PANDA service. -/
def withPanda : Answers := { (default : Answers) with pandaConfigured := true }

/-- `alice`'s client once started. -/
def aliceStarted : Client := started limits aliceState "provider" withPanda

theorem aliceStarted_reachable : Reachable limits aliceState "provider" aliceStarted :=
  Reachable.start (by decide)

/-- The transport id the session gives the next message. -/
def transportID : TransportID := ⟨List.replicate 16 1, rfl⟩

/-- A session that accepts the next message under `transportID`. -/
def accepting : Answers := { (default : Answers) with sendUnreliable := .ok transportID }

/-- The conversation id of the message sent. -/
def greetingID : MessageID := ⟨List.replicate 16 2, rfl⟩

/-- `alice` sends "hi" to `bob`, and the session accepts it. -/
def greeted : Client := aliceStarted.next limits accepting (.sendMessage greetingID "bob" [104, 105])

theorem greeted_reachable : Reachable limits aliceState "provider" greeted :=
  aliceStarted_reachable.tail (Step.next (by decide))

/-- A clock past the expiry of the messages `greeted` sent. -/
def late : Answers := { (default : Answers) with now := 2000 }

/-- A session in which adding a contact succeeds: the id drawn is 9, and the ratchet
set-up and the PANDA exchange start. -/
def adding : Answers :=
  { withPanda with draws := [.ok 9], newContact := .ok [1], newKeyExchange := .ok [2] }

/-- `alice` adds a contact under the nickname `n`; its exchange runs as the goroutine
`⟨9, some 1⟩`. -/
def added (n : String) : Client := aliceStarted.next limits adding (.addContact n [])

end Catshadow
