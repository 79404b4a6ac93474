import Catshadow.Model.Loop

/-!
# What each handler can do

One lemma per handler of the loop, saying everything a call that returns can have
done, as an explicit expression of the state it started from. The invariants of the
later modules are proved from these lemmas by case analysis, never by unfolding a
handler again.

Every lemma assumes `conversationsMutex` free when the handler starts, which holds of
every reachable state (`Reachable.unlocked`, in `Catshadow.Properties.Steps`). With the
mutex free, the paths that call `save` while holding it deadlock, so they do not appear
among the outcomes.
-/

namespace Catshadow

namespace Client

variable {c c' : Client}

/-! ### Field lemmas -/

@[simp] theorem unlock_lock (h : c.conversationsLocked = false) :
    ({ c with conversationsLocked := true } : Client).unlockConversations = c := by
  cases c; simp_all [unlockConversations]

@[simp] theorem unlock_modifyConversations (f : Conversations → Conversations) :
    (c.modifyConversations f).unlockConversations = c.unlockConversations.modifyConversations f :=
  rfl

@[simp] theorem unlock_emit (e : Event) :
    (c.emit e).unlockConversations = c.unlockConversations.emit e := rfl

@[simp] theorem locked_modifyContact (p : Ptr) (f : Contact → Contact) :
    (c.modifyContact p f).conversationsLocked = c.conversationsLocked := rfl

@[simp] theorem locked_emit (e : Event) : (c.emit e).conversationsLocked = c.conversationsLocked :=
  rfl

@[simp] theorem locked_spawn (k : Contact) : (c.spawn k).conversationsLocked = c.conversationsLocked :=
  rfl

/-- A send on `fatalErrCh` that returns was the first. -/
theorem fatal_ok {err : String} (h : c.fatal err = .ok c') :
    c.fatalErrors = [] ∧ c' = { c with fatalErrors := [err] } := by
  unfold fatal at h
  split at h
  · exact ⟨‹_›, (Except.ok.inj h).symm⟩
  · cases h

/-- A send on `fatalErrCh` that does not return blocks. -/
theorem fatal_error {err : String} {x : Halt} (h : c.fatal err = .error x) : x = .deadlock := by
  unfold fatal at h
  split at h <;> cases h
  rfl

theorem fatalIfErr_error {e : Option String} {x : Halt} (h : c.fatalIfErr e = .error x) :
    x = .deadlock := by
  cases e with
  | none => cases h
  | some err => exact fatal_error h

/-- A panic after a call that can only block comes from what follows it. -/
theorem panic_of_bind {α β : Type} {x : Except Halt α} {f : α → Except Halt β} {msg : String}
    (hx : ∀ e, x = .error e → e = .deadlock) (h : (x >>= f) = .error (.panic msg)) :
    ∃ y, x = .ok y ∧ f y = .error (.panic msg) := by
  cases x with
  | error e => cases hx e rfl; cases h
  | ok y => exact ⟨y, rfl, h⟩

theorem fatalIfErr_ok {e : Option String} (h : c.fatalIfErr e = .ok c') :
    c' = { c with fatalErrors := c.fatalErrors ++ e.toList } := by
  cases e with
  | none => cases h; simp
  | some err => obtain ⟨hf, rfl⟩ := fatal_ok h; simp [hf]

/-- With no error, or no error sent before, `fatalIfErr` returns. -/
theorem fatalIfErr_eq {e : Option String} (h : e = none ∨ c.fatalErrors = []) :
    c.fatalIfErr e = .ok { c with fatalErrors := c.fatalErrors ++ e.toList } := by
  cases e with
  | none => simp [fatalIfErr]
  | some err => simp [fatalIfErr, fatal, h.resolve_left (Option.some_ne_none err)]

theorem heap_modifyContact (p q : Ptr) (f : Contact → Contact) :
    (c.modifyContact p f).heap q = if q = p then f (c.heap p) else c.heap q := by
  simp [modifyContact, Function.update_apply]

theorem modifyContact_modifyContact (p : Ptr) (f g : Contact → Contact) :
    (c.modifyContact p f).modifyContact p g = c.modifyContact p (g ∘ f) := by
  simp [modifyContact]

/-! ### Sending -/

theorem handleSent_ok {ev : MessageSentEvent} (hc : c.conversationsLocked = false)
    {a : Answers} (h : c.handleSent ev a = .ok c') :
    c' = c ∨ ∃ n id, n ≠ c.user ∧ c' = c.emit (.messageSent n id) := by
  unfold handleSent at h
  dsimp only at h
  split at h
  · simp at h; exact .inl h.symm
  · split at h
    · simp at h; exact .inl h.symm
    · simp only [lockConversations_of_unlocked hc, ok_bind] at h
      split at h
      · simp [save_of_locked, modifyConversations] at h
      · simp [hc] at h
        exact .inr ⟨_, _, ‹_›, h.symm⟩

/-- `c'` is `c` with `sendMap` entries added by `o` for the nickname `n`, and nothing else
changed: every key stays. -/
def Stored (o : Origin) (n : String) (c c' : Client) : Prop :=
  ∃ m : GoMap SendKey SendEntry, c' = { c with sendMap := m } ∧
    (∀ k e, m.lookup k = some e →
      c.sendMap.lookup k = some e ∨ (∃ t, k = .array t) ∧ e.origin = o ∧ e.descriptor.Nickname = n) ∧
    ∀ k, k ∈ c.sendMap → k ∈ m

theorem Stored.refl (o : Origin) (n : String) (c : Client) : Stored o n c c :=
  ⟨c.sendMap, rfl, fun _ _ h => .inl h, fun _ h => h⟩

theorem Stored.store_trans {o : Origin} {n : String} {c₁ : Client} (t : TransportID)
    (d : SentMessageDescriptor) (hd : d.Nickname = n) (h : Stored o n (c.store (.array t) ⟨d, o⟩) c₁) :
    Stored o n c c₁ := by
  obtain ⟨m, rfl, hm, hkeys⟩ := h
  refine ⟨m, rfl, fun k e he => (hm k e he).elim (fun h => ?_) .inr,
    fun k hk => hkeys k ((AList.mem_insert _).mpr (.inr hk))⟩
  by_cases hk : k = .array t
  · subst hk
    simp only [store, AList.lookup_insert, Option.some.injEq] at h
    exact .inr ⟨⟨t, rfl⟩, by rw [← h], by rw [← h]; exact hd⟩
  · simp only [store, AList.lookup_insert_ne hk] at h
    exact .inl h

theorem resendAll_ok {contact : Contact} {a : Answers} {err : Option String} :
    ∀ {c c' : Client} {i : Nat} {l : List (Option (MessageID × Message))},
      resendAll contact a c i l = .ok (err, c') → Stored .retransmit contact.Nickname c c'
  | c, c', i, [], h => by simp [resendAll] at h; rw [← h.2]; exact .refl _ _ _
  | c, c', i, msg :: rest, h => by
    unfold resendAll at h
    split at h
    · simp at h
    · simp at h
    · split at h
      · simp at h; rw [← h.2]; exact .refl _ _ _
      · simp at h; rw [← h.2]; exact .refl _ _ _
      · exact Stored.store_trans _ _ rfl (resendAll_ok h)

theorem doRetransmit_ok {p : Ptr} {a : Answers} {err : Option String}
    (h : c.doRetransmit p a = .ok (err, c')) : Stored .retransmit (c.heap p).Nickname c c' := by
  unfold doRetransmit at h
  dsimp only at h
  split at h
  · simp at h; rw [← h.2]; exact .refl _ _ _
  · split at h
    · simp at h
    · exact resendAll_ok h

/-- What `submit` leaves: the ciphertext on the message, and, when the session accepts it,
one more unacknowledged message, a save, and the transport id remembered. -/
theorem submit_ok {L : Limits} {p : Ptr} {id : MessageID} {n : String} {m : Bytes} {a : Answers}
    (h : c.submit L p id n m a = .ok c') :
    let c₁ := c.modifyConversations
      (·.modifyMessage n id fun msg => { msg with Ciphertext := a.encrypt (frame L m) })
    c' = c₁ ∨ ∃ t, a.appendToSpool = none ∧ a.sendUnreliable = .ok t ∧
      c' = (c₁.modifyContact p fun k => { k with UnACKed := k.UnACKed + 1 }).persisted.store
        (.array t) ⟨⟨n, id⟩, .sendMessage⟩ := by
  unfold submit at h
  dsimp only at h ⊢
  split at h
  · simp at h
  · simp at h; exact .inl h.symm
  · simp at h; exact .inl h.symm
  · rename_i t _ happ hsend
    obtain ⟨c₂, hsave, h⟩ := bind_eq_ok.mp h
    obtain ⟨rfl, -⟩ := save_ok hsave
    exact .inr ⟨t, happ, hsend, (Except.ok.inj h).symm⟩

theorem doSendMessage_ok {L : Limits} {id : MessageID} {n : String} {m : Bytes} {a : Answers}
    (hc : c.conversationsLocked = false) (h : c.doSendMessage L id n m a = .ok c') :
    c' = c.modifyConversations (·.insertMessage n id (outbound m a.now)) ∨
    ∃ p c₂, c.contactNicknames.lookup n = some p ∧ (c.heap p).IsPending = false ∧
      Stored .retransmit (c.heap p).Nickname
        (c.modifyConversations (·.insertMessage n id (outbound m a.now))) c₂ ∧
      c₂.submit L p id n m a = .ok c' := by
  unfold doSendMessage at h
  simp only [lockConversations_of_unlocked hc, ok_bind, unlock_modifyConversations, unlock_lock hc] at h
  split at h
  · simp at h; exact .inl h.symm
  · rename_i p hp
    split at h
    · simp at h; exact .inl h.symm
    · rename_i hpend
      simp only [Bool.not_eq_true] at hpend
      split at h
      · cases hr : (c.modifyConversations fun x => x.insertMessage n id (outbound m a.now)).doRetransmit p a with
        | error e => simp [hr] at h
        | ok r =>
          simp [hr] at h
          exact .inr ⟨p, r.2, hp, hpend, doRetransmit_ok hr, h⟩
      · simp at h
        exact .inr ⟨p, _, hp, hpend, .refl _ _ _, h⟩

/-- `doSendMessage` to an established contact, once the message is recorded: at the edge of
the window `doRetransmit` first, then `submit`. -/
theorem doSendMessage_established {L : Limits} {id : MessageID} {n : String} {m : Bytes}
    {a : Answers} {p : Ptr} (hc : c.conversationsLocked = false)
    (hp : c.contactNicknames.lookup n = some p) (hpend : (c.heap p).IsPending = false) :
    c.doSendMessage L id n m a =
      if ((c.heap p).UnACKed : Int) = (L.MaxMissingMessages : Int) - 1 then
        (Prod.snd <$> (c.modifyConversations (·.insertMessage n id (outbound m a.now))).doRetransmit p a)
          >>= fun c => c.submit L p id n m a
      else (c.modifyConversations (·.insertMessage n id (outbound m a.now))).submit L p id n m a := by
  have hp' : (c.modifyConversations (·.insertMessage n id (outbound m a.now))).contactNicknames.lookup n =
      some p := hp
  have hpend' : ((c.modifyConversations (·.insertMessage n id (outbound m a.now))).heap p).IsPending =
      false := hpend
  simp only [doSendMessage, lockConversations_of_unlocked hc, ok_bind, unlock_modifyConversations,
    unlock_lock hc, hp', hpend', Bool.false_eq_true, if_false]
  rfl

theorem garbageCollectConversations_ok {L : Limits} {a : Answers} (hc : c.conversationsLocked = false)
    (h : c.garbageCollectConversations L a = .ok c') :
    c' = c.modifyConversations (GoMap.filterMapVal (fun _ => true)
      (GoMap.filterMapVal (fun m => !expired L a.now m) collected)) := by
  simp [garbageCollectConversations, lockConversations_of_unlocked hc, hc] at h
  exact h.symm

theorem garbageCollectConversations_eq {L : Limits} {a : Answers} (hc : c.conversationsLocked = false) :
    c.garbageCollectConversations L a = .ok (c.modifyConversations (GoMap.filterMapVal (fun _ => true)
      (GoMap.filterMapVal (fun m => !expired L a.now m) collected))) := by
  simp [garbageCollectConversations, lockConversations_of_unlocked hc, unlock_lock hc]

/-! ### Reading -/

theorem sendReadInbox_ok {a : Answers} (h : c.sendReadInbox a = .ok c') :
    c' = c ∨ (∃ err, c.fatalErrors = [] ∧ c' = { c with fatalErrors := [err] }) ∨
      ∃ d t, c.spoolReadDescriptor = some d ∧
        c' = c.store (.array t) ⟨⟨c.user, sequenceID d.ReadOffset⟩, .readInbox⟩ := by
  unfold sendReadInbox at h
  split at h
  · simp at h
  · split at h
    · exact .inr (.inl ⟨_, fatal_ok h⟩)
    · simp at h; exact .inl h.symm
    · simp at h; exact .inr (.inr ⟨_, _, ‹_›, h.symm⟩)

theorem decryptMessage_ok {a : Answers} {b : Bool} (hc : c.conversationsLocked = false)
    (h : c.decryptMessage a = .ok (b, c')) :
    (b = false ∧ c' = c) ∨
    (b = true ∧ ∃ p pt body,
      c.trialDecrypt a (a.contactOrder (c.contacts.entries.map Sigma.snd)) = some (p, pt) ∧
      parseFrame pt = .ok body ∧
      c' = (({ c with fatalErrors := c.fatalErrors ++ a.freshIDErr.toList } : Client).modifyConversations
        (·.insertMessage (c.heap p).Nickname a.freshID (inbound body a.now))).emit
        (.messageReceived (c.heap p).Nickname body a.now)) := by
  unfold decryptMessage at h
  split at h
  · simp at h; exact .inl ⟨h.1, h.2.symm⟩
  · rename_i p pt hp
    cases hb : parseFrame pt with
    | error e => simp [hb] at h
    | ok body =>
      rw [hb, ok_bind] at h
      obtain ⟨c₁, hf, h⟩ := bind_eq_ok.mp h
      have hc₁ : c₁.conversationsLocked = false := by rw [fatalIfErr_ok hf]; exact hc
      simp only [lockConversations_of_unlocked hc₁, ok_bind, unlock_emit, unlock_modifyConversations,
        unlock_lock hc₁, pure_eq_ok, Except.ok.injEq, Prod.mk.injEq] at h
      rw [fatalIfErr_ok hf] at h
      exact .inr ⟨h.1.symm, p, pt, body, hp, hb, h.2.symm⟩

/-- `handleReply` on an OK response, to a read request, for the slot at the read offset: the
offset moves on, then `decryptMessage`, and the loop panics if it decrypted nothing. -/
theorem handleReply_tip {ev : MessageReplyEvent} {a : Answers} {e : SendEntry} {r : SpoolResponse}
    {d : SpoolReadDescriptor} (he : c.sendMap.lookup (.array ev.MessageID.target) = some e)
    (hn : e.descriptor.Nickname = c.user) (hr : ev.Payload = .ok r) (hok : r.IsOK)
    (hd : c.spoolReadDescriptor = some d) (hslot : r.MessageID = d.ReadOffset) :
    c.handleReply ev a =
      ({ c with spoolReadDescriptor := some d.IncrementOffset } : Client).decryptMessage a >>= fun res =>
        if !res.1 then throw (.panic "failure to decrypt tip of spool")
        else pure (res.2.delete (.pointer ev.MessageID.addr)) := by
  simp [handleReply, he, hn, hr, hok, hd, hslot]

/-- The outcomes of `handleReply`: nothing stored under the id; an undecodable payload; an
error status, a duplicate read, or a delivery acknowledgement for a message no longer in
its conversation; or the tip of the spool, read and decrypted. All but the first run the
deferred `Delete` of the event's pointer. -/
theorem handleReply_ok {ev : MessageReplyEvent} {a : Answers} (hc : c.conversationsLocked = false)
    (h : c.handleReply ev a = .ok c') :
    c' = c ∨
    (∃ err, c.fatalErrors = [] ∧
      c' = ({ c with fatalErrors := [err] } : Client).delete (.pointer ev.MessageID.addr)) ∨
    c' = c.delete (.pointer ev.MessageID.addr) ∨
    (∃ n id, c' = (c.emit (.messageDelivered n id)).delete (.pointer ev.MessageID.addr)) ∨
    (∃ e r d c₁, c.sendMap.lookup (.array ev.MessageID.target) = some e ∧
      e.descriptor.Nickname = c.user ∧ ev.Payload = .ok r ∧ r.IsOK ∧ c.spoolReadDescriptor = some d ∧
      r.MessageID = d.ReadOffset ∧
      ({ c with spoolReadDescriptor := some d.IncrementOffset } : Client).decryptMessage a = .ok (true, c₁) ∧
      c' = c₁.delete (.pointer ev.MessageID.addr)) := by
  unfold handleReply at h
  dsimp only at h
  split at h
  · simp at h; exact .inl h.symm
  · rename_i e he
    split at h
    · obtain ⟨c₁, hfatal, h⟩ := bind_eq_ok.mp h
      obtain ⟨hf, rfl⟩ := fatal_ok hfatal
      exact .inr (.inl ⟨_, hf, (Except.ok.inj h).symm⟩)
    · rename_i r hr
      split at h
      · simp at h; exact .inr (.inr (.inl h.symm))
      · split at h
        · simp only [lockConversations_of_unlocked hc, ok_bind] at h
          split at h
          · split at h
            · split at h
              · simp [save_of_locked, modifyConversations, modifyContact] at h
              · simp at h
            · simp at h
          · simp [hc] at h
            exact .inr (.inr (.inr (.inl ⟨_, _, h.symm⟩)))
        · split at h
          · simp at h
          · rename_i d hd
            split at h
            · simp at h; exact .inr (.inr (.inl h.symm))
            · split at h
              · rename_i hok hnick _ hlt heq
                obtain ⟨⟨b, c₁⟩, hdm⟩ : ∃ res, ({ c with spoolReadDescriptor := some d.IncrementOffset } :
                    Client).decryptMessage a = .ok res := by
                  cases hdm : ({ c with spoolReadDescriptor := some d.IncrementOffset } : Client).decryptMessage a
                  · simp [hdm] at h
                  · exact ⟨_, rfl⟩
                cases b <;> simp [hdm] at h
                exact .inr (.inr (.inr (.inr ⟨e, r, d, c₁, he, by simpa using hnick, hr,
                  by simpa using hok, hd, heq, hdm, h.symm⟩)))
              · simp at h

/-! ### Contacts -/

/-- `randID` returns an id that is non-zero and not a key of `contacts`. -/
theorem randID_ok {n : UInt64} : ∀ {draws : List (Except String UInt64)},
    c.randID draws = .ok n → n ≠ 0 ∧ n ∉ c.contacts
  | [], h => by simp [randID] at h
  | .error _ :: _, h => by simp [randID] at h
  | .ok m :: draws, h => by
    unfold randID at h
    split at h
    · exact randID_ok h
    · simp at h; subst h; simpa [not_or] using ‹¬(m = 0 ∨ m ∈ c.contacts)›

theorem createContact_ok {n : String} {a : Answers} {err : Option String}
    (h : c.createContact n a = .ok (err, c')) :
    c' = c ∨ ∃ id k, n ∉ c.contactNicknames ∧ c.randID a.draws = .ok id ∧
      NewContact n id a.newContact c.chans = .ok k ∧
      (c' = { c with chans := c.chans + 1 }.addContact k ∨
       ∃ kx, c' = ((({ c with chans := c.chans + 1 }.addContact k).modifyContact c.nextPtr
          fun k => { k with pandaKeyExchange := kx, keyExchange := [] }).spawn k).persisted) := by
  unfold createContact at h
  by_cases hn : n ∈ c.contactNicknames
  · simp [hn] at h; exact .inl h.2.symm
  cases hid : c.randID a.draws with
  | error e => simp [hn, hid] at h
  | ok id =>
    cases hk : NewContact n id a.newContact c.chans with
    | error e => simp [hn, hid, hk] at h; exact .inl h.2.symm
    | ok k =>
      refine .inr ⟨id, k, hn, rfl, hk, ?_⟩
      cases hp : a.pandaConfigured
      · simp [hn, hid, hk, hp] at h; exact .inl h.2.symm
      cases hkx : a.newKeyExchange with
      | error e => simp [hn, hid, hk, hp, hkx] at h; exact .inl h.2.symm
      | ok kx =>
        simp only [hn, hid, hk, hp, hkx, if_false, pure_eq_ok, ok_bind, Bool.not_true,
          Bool.false_eq_true] at h
        exact .inr ⟨kx, (Prod.mk.inj (Except.ok.inj (save_bind_ok h))).2.symm⟩

/-- `doContactRemoval` of a known nickname drops the contact from both indexes and saves;
it closes the contact's cancel channel or none. -/
theorem doContactRemoval_eq {n : String} {a : Answers} (h : c.doContactRemoval n a = .ok c') :
    c' = c ∨ ∃ p closed, c.contactNicknames.lookup n = some p ∧
      (closed = c.closed ∨ ∃ ch, (c.heap p).pandaShutdownChan = some ch ∧ closed = ch :: c.closed) ∧
      c' = ({ c with closed, contactNicknames := c.contactNicknames.erase n,
                     contacts := c.contacts.erase (c.heap p).id } : Client).persisted := by
  unfold doContactRemoval at h
  dsimp only at h
  split at h
  · simp at h; exact .inl h.symm
  · rename_i p hp
    split at h
    · rename_i ch _ hch
      unfold closeChan at h
      split at h
      · simp at h
      · rw [ok_bind] at h
        exact .inr ⟨p, _, hp, .inr ⟨ch, hch, rfl⟩, (save_ok h).1⟩
    · rw [pure_eq_ok, ok_bind] at h
      exact .inr ⟨p, c.closed, hp, .inl rfl, (save_ok h).1⟩

theorem doContactRemoval_ok {n : String} {a : Answers} (h : c.doContactRemoval n a = .ok c') :
    c' = c ∨ ∃ p closed, c.contactNicknames.lookup n = some p ∧
      c' = ({ c with closed, contactNicknames := c.contactNicknames.erase n,
                     contacts := c.contacts.erase (c.heap p).id } : Client).persisted :=
  (doContactRemoval_eq h).imp_right fun ⟨p, closed, hp, _, h⟩ => ⟨p, closed, hp, h⟩

/-! ### Key exchanges -/

/-- Two values of a contact with the same id, nickname and count of unacknowledged
messages. -/
def SameIdentity (k k' : Contact) : Prop :=
  k'.id = k.id ∧ k'.Nickname = k.Nickname ∧ k'.UnACKed = k.UnACKed

theorem self_eq_update (p : Ptr) :
    c = { c with heap := Function.update c.heap p (c.heap p), kxTasks := c.kxTasks,
                 events := c.events, saved := c.saved } := by
  simp

/-- `processPANDAUpdate` changes at most the contact the update is for, and that only in
its key-exchange fields, keeping its cancel channel or dropping it; besides, it may start a
goroutine and emit an event, and it saves the state it ends in or does not save. -/
theorem processPANDAUpdate_eq {u : PandaUpdate} {a : Answers} (h : c.processPANDAUpdate u a = .ok c') :
    c' = c ∨ ∃ p k ts evs s, c.contacts.lookup u.ID = some p ∧
      c' = { c with heap := Function.update c.heap p k, kxTasks := ts, events := evs, saved := s } ∧
      SameIdentity (c.heap p) k ∧
      (k.pandaShutdownChan = (c.heap p).pandaShutdownChan ∨ k.pandaShutdownChan = none) ∧
      (s = c.saved ∨ s = some c'.snapshot) ∧
      (k.IsPending = (c.heap p).IsPending ∨ k.IsPending = false) := by
  unfold processPANDAUpdate at h
  dsimp only at h
  split at h
  · simp at h; exact .inl h.symm
  rename_i p hp
  refine .inr ⟨p, ?_⟩
  split at h
  · split at h
    · split at h
      · simp at h
      split at h
      · simp at h
      rw [pure_eq_ok, ok_bind] at h
      obtain ⟨rfl, -⟩ := save_ok h
      exact ⟨_, _, _, _, hp, rfl, ⟨rfl, rfl, rfl⟩, .inr rfl, .inr rfl, .inl rfl⟩
    · rw [pure_eq_ok, ok_bind] at h
      obtain ⟨rfl, -⟩ := save_ok h
      exact ⟨_, _, _, _, hp, rfl, ⟨rfl, rfl, rfl⟩, .inr rfl, .inr rfl, .inl rfl⟩
  · split at h
    · rw [pure_eq_ok, Except.ok.injEq] at h
      subst h
      exact ⟨_, _, _, _, hp, self_eq_update p, ⟨rfl, rfl, rfl⟩, .inl rfl, .inl rfl, .inl rfl⟩
    · obtain ⟨rfl, -⟩ := save_ok h
      exact ⟨_, _, _, _, hp, rfl, ⟨rfl, rfl, rfl⟩, .inl rfl, .inr rfl, .inl rfl⟩
  · split at h
    · have h := save_bind_ok h
      obtain rfl := Except.ok.inj h
      rw [modifyContact_modifyContact]
      exact ⟨_, _, _, _, hp, rfl, ⟨rfl, rfl, rfl⟩, .inl rfl, .inr rfl, .inr rfl⟩
    · split at h
      · have h := save_bind_ok h
        obtain rfl := Except.ok.inj h
        rw [modifyContact_modifyContact]
        exact ⟨_, _, _, _, hp, rfl, ⟨rfl, rfl, rfl⟩, .inl rfl, .inr rfl, .inr rfl⟩
      · obtain ⟨rfl, -⟩ := save_ok h
        rw [modifyContact_modifyContact]
        exact ⟨_, _, _, _, hp, rfl, ⟨rfl, rfl, rfl⟩, .inl rfl, .inr rfl, .inr rfl⟩
  · obtain ⟨rfl, -⟩ := save_ok h
    exact ⟨_, _, _, _, hp, self_eq_update p, ⟨rfl, rfl, rfl⟩, .inl rfl, .inr rfl, .inl rfl⟩

/-- `processPANDAUpdate` changes at most the contact the update is for, and that only in
its key-exchange fields; besides, it may start a goroutine, emit an event and save. -/
theorem processPANDAUpdate_ok {u : PandaUpdate} {a : Answers} (h : c.processPANDAUpdate u a = .ok c') :
    c' = c ∨ ∃ p k ts evs s, c.contacts.lookup u.ID = some p ∧
      c' = { c with heap := Function.update c.heap p k, kxTasks := ts, events := evs, saved := s } ∧
      SameIdentity (c.heap p) k :=
  (processPANDAUpdate_eq h).imp_right fun ⟨p, k, ts, evs, s, hp, h, hk, _⟩ =>
    ⟨p, k, ts, evs, s, hp, h, hk⟩

/-! ### Start -/

theorem resumeKeyExchange_ok {a : Answers} {p : Ptr}
    (h : c.resumeKeyExchange a p = .ok c') : ∃ ts, c' = { c with kxTasks := c.kxTasks ++ ts } := by
  unfold resumeKeyExchange at h
  dsimp only at h
  split at h
  · split at h
    · simp at h
    · simp at h; exact ⟨_, h.symm⟩
  · simp at h; exact ⟨[], by simp [← h]⟩

/-- `Start`'s loop only starts goroutines. -/
theorem foldlM_resumeKeyExchange {a : Answers} :
    ∀ {c c' : Client} (l : List Ptr),
      l.foldlM (resumeKeyExchange a) c = .ok c' → ∃ ts, c' = { c with kxTasks := c.kxTasks ++ ts }
  | c, c', [], h => ⟨[], by simp_all⟩
  | c, c', e :: l, h => by
    obtain ⟨c₁, h₁, h⟩ := bind_eq_ok.mp h
    obtain ⟨ts, rfl⟩ := resumeKeyExchange_ok h₁
    obtain ⟨ts', rfl⟩ := foldlM_resumeKeyExchange l h
    exact ⟨ts ++ ts', by simp⟩

end Client

theorem Start_ok {L : Limits} {c c' : Client} {a : Answers} (h : Start L c a = .ok c') :
    ∃ c₁ ts, c.garbageCollectConversations L a = .ok c₁ ∧
      c' = { c₁ with kxTasks := c₁.kxTasks ++ ts } := by
  obtain ⟨c₁, h₁, h⟩ := bind_eq_ok.mp h
  split at h
  · simp at h
  · exact ⟨c₁, _, h₁, (Client.foldlM_resumeKeyExchange _ h).choose_spec⟩

end Catshadow
