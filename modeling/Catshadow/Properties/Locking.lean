import Catshadow.Properties.Steps

/-!
# The conversations mutex

`handleSent` and `handleReply` lock `conversationsMutex` and, still holding it, call
`save`, whose `marshal` calls `GetAllConversations`, which locks it again. A
`sync.Mutex` is not reentrant, so the loop blocks on a lock it holds itself.

`handleSent_deadlock` and `handleReply_deadlock` give the condition under which each
handler reaches that second `Lock`: a send or delivery acknowledgement for a message
still in its conversation. `sentEvent_deadlocks` runs into the first of them from a
reachable state: `alice` sends one message to an established contact, and the session
reports it sent.

Every other handler takes the mutex only when it is free. The loop can wait for ever in one
more place: `fatalErrCh` is unbuffered and its one receiver takes a single error, so a second
fatal error blocks the loop (`fatal_blocks`). `deadlock_iff_marking` shows that with the mutex
free and no fatal error sent yet, a step deadlocks exactly on those two acknowledgements
(`MarksSent`, `MarksDelivered`), and that no request, no other event, no timer tick and no
PANDA update deadlocks. Each other handler is shown `Live` (it returns or panics) by
following its code.
-/

namespace Catshadow

variable {c : Client}

theorem handleSent_deadlock {ev : MessageSentEvent} {a : Answers} {e : SendEntry}
    (hc : c.conversationsLocked = false) (he : c.sendMap.lookup (.array ev.MessageID.target) = some e)
    (hn : e.descriptor.Nickname ≠ c.user)
    (hm : (c.conversations.message e.descriptor.Nickname e.descriptor.MessageID).isSome) :
    c.handleSent ev a = .error .deadlock := by
  obtain ⟨msg, hm⟩ := Option.isSome_iff_exists.mp hm
  simp [Client.handleSent, he, hn, Client.lockConversations_of_unlocked hc, hm,
    Client.save_of_locked, Client.modifyConversations]

theorem handleReply_deadlock {ev : MessageReplyEvent} {a : Answers} {e : SendEntry}
    {r : SpoolResponse} {p : Ptr} (hc : c.conversationsLocked = false)
    (he : c.sendMap.lookup (.array ev.MessageID.target) = some e) (hn : e.descriptor.Nickname ≠ c.user)
    (hr : ev.Payload = .ok r) (hok : r.IsOK)
    (hm : (c.conversations.message e.descriptor.Nickname e.descriptor.MessageID).isSome)
    (hp : c.contactNicknames.lookup e.descriptor.Nickname = some p) (hu : 0 < (c.heap p).UnACKed) :
    c.handleReply ev a = .error .deadlock := by
  obtain ⟨msg, hm⟩ := Option.isSome_iff_exists.mp hm
  simp [Client.handleReply, he, hn, hr, hok, Client.lockConversations_of_unlocked hc, hm, hp, hu,
    Client.save_of_locked, Client.modifyConversations, Client.modifyContact]

/-- Once `alice` has sent a message to `bob`, the session's report that it was sent
blocks the loop for ever. -/
theorem sentEvent_deadlocks :
    Reachable limits aliceState "provider" greeted ∧
      step limits greeted default (.messageSent ⟨⟨0, transportID⟩⟩) = .error .deadlock :=
  ⟨greeted_reachable,
    @handleSent_deadlock greeted ⟨⟨0, transportID⟩⟩ default ⟨⟨"bob", greetingID⟩, .sendMessage⟩
      greeted_reachable.unlocked (by decide) (by decide) (by decide)⟩

/-! ### What the marking handlers mark -/

/-- A `MessageSentEvent` that `handleSent` marks: its entry is for a message to a contact,
still in its conversation. -/
def MarksSent (c : Client) (ev : MessageSentEvent) : Prop :=
  ∃ e, c.sendMap.lookup (.array ev.MessageID.target) = some e ∧ e.descriptor.Nickname ≠ c.user ∧
    (c.conversations.message e.descriptor.Nickname e.descriptor.MessageID).isSome

/-- A `MessageReplyEvent` that `handleReply` marks: an OK response to an entry for a message
to a contact, still in its conversation, whose contact counts a message unacknowledged. -/
def MarksDelivered (c : Client) (ev : MessageReplyEvent) : Prop :=
  ∃ e r p, c.sendMap.lookup (.array ev.MessageID.target) = some e ∧
    e.descriptor.Nickname ≠ c.user ∧ ev.Payload = .ok r ∧ r.IsOK ∧
    (c.conversations.message e.descriptor.Nickname e.descriptor.MessageID).isSome ∧
    c.contactNicknames.lookup e.descriptor.Nickname = some p ∧ 0 < (c.heap p).UnACKed

/-! ### Every other handler is live -/

/-- A result other than the loop waiting for ever on the mutex. -/
def Live {α : Type} (r : Except Halt α) : Prop := r ≠ .error .deadlock

theorem live_ok {α : Type} (x : α) : Live (.ok x : Except Halt α) := nofun

theorem live_panic {α : Type} (s : String) : Live (.error (.panic s) : Except Halt α) := nofun

theorem Live.bind {α β : Type} {x : Except Halt α} {f : α → Except Halt β} (hx : Live x)
    (hf : ∀ y, x = .ok y → Live (f y)) : Live (x >>= f) := by
  cases x with
  | error e => exact fun h => hx (by cases h; rfl)
  | ok y => exact hf y rfl

theorem Live.map {α β : Type} {g : α → β} {x : Except Halt α} (hx : Live x) : Live (g <$> x) := by
  cases x with
  | error e => exact fun h => hx (by cases h; rfl)
  | ok y => exact live_ok _

namespace Client

theorem save_live {a : Answers} (hc : c.conversationsLocked = false) : Live (c.save a) := by
  rw [save_of_unlocked hc]
  split
  · exact live_panic _
  · exact live_panic _
  · exact live_ok _

/-- The first send on `fatalErrCh` returns: the watcher takes it. -/
theorem fatal_live {err : String} (hf : c.fatalErrors = []) : Live (c.fatal err) := by
  simp only [fatal, hf]
  exact live_ok _

/-- A second send on `fatalErrCh` blocks: the watcher has taken its one error. -/
theorem fatal_blocks {err : String} (hf : c.fatalErrors ≠ []) : c.fatal err = .error .deadlock := by
  unfold fatal
  split
  · contradiction
  · rfl

theorem randID_live (c : Client) : ∀ draws, Live (c.randID draws)
  | [] => nofun
  | .error e :: _ => live_panic e
  | .ok n :: draws => by
    unfold randID
    split
    · exact randID_live c draws
    · exact live_ok n

theorem createContact_live {n : String} {a : Answers} (hc : c.conversationsLocked = false) :
    Live (c.createContact n a) := by
  unfold createContact
  by_cases hn : n ∈ c.contactNicknames
  · rw [if_pos hn]; exact live_ok _
  rw [if_neg hn]
  refine (c.randID_live _).bind fun id _ => ?_
  cases NewContact n id a.newContact c.chans with
  | error e => exact live_ok _
  | ok k =>
    dsimp only
    cases a.pandaConfigured
    · exact live_ok _
    cases a.newKeyExchange with
    | error e => exact live_ok _
    | ok kx =>
      simp only [Bool.not_true, Bool.false_eq_true, ↓reduceIte, pure_eq_ok, ok_bind]
      exact Live.bind (save_live hc) fun _ _ => live_ok _

theorem doContactRemoval_live {n : String} {a : Answers} (hc : c.conversationsLocked = false) :
    Live (c.doContactRemoval n a) := by
  unfold doContactRemoval
  cases c.contactNicknames.lookup n with
  | none => exact live_ok _
  | some p =>
    dsimp only
    cases (c.heap p).IsPending <;> cases (c.heap p).pandaShutdownChan
    case true.some ch =>
      refine Live.bind ?_ fun y hy => save_live ?_
      · unfold closeChan
        split
        · exact live_panic _
        · exact live_ok _
      · unfold closeChan at hy
        split at hy
        · cases hy
        · cases hy; exact hc
    all_goals exact Live.bind (live_ok c) fun y hy => save_live (by cases hy; exact hc)

theorem resendAll_live (contact : Contact) (a : Answers) :
    ∀ (c : Client) (i : Nat) (l : List (Option (MessageID × Message))),
      Live (c.resendAll contact a i l)
  | _, _, [] => live_ok _
  | c, i, msg :: rest => by
    unfold resendAll
    split
    · exact live_panic _
    · exact live_panic _
    · split
      · exact live_ok _
      · exact live_ok _
      · exact resendAll_live contact a _ _ rest

theorem doRetransmit_live (c : Client) (p : Ptr) (a : Answers) : Live (c.doRetransmit p a) := by
  unfold doRetransmit
  dsimp only
  split
  · exact live_ok _
  · split
    · exact live_panic _
    · exact resendAll_live _ _ _ _ _

theorem submit_live {L : Limits} {p : Ptr} {id : MessageID} {n : String} {m : Bytes} {a : Answers}
    (hc : c.conversationsLocked = false) : Live (c.submit L p id n m a) := by
  unfold submit
  dsimp only
  split
  · exact live_panic _
  · exact live_ok _
  · exact live_ok _
  · exact Live.bind (save_live hc) fun _ _ => live_ok _

theorem doSendMessage_live {L : Limits} {id : MessageID} {n : String} {m : Bytes} {a : Answers}
    (hc : c.conversationsLocked = false) : Live (c.doSendMessage L id n m a) := by
  cases hp : c.contactNicknames.lookup n with
  | none =>
    have hp' : (c.modifyConversations (·.insertMessage n id (outbound m a.now))).contactNicknames.lookup n =
        none := hp
    simp only [doSendMessage, lockConversations_of_unlocked hc, ok_bind, unlock_modifyConversations,
      unlock_lock hc, hp']
    exact live_ok _
  | some p =>
    cases hpend : (c.heap p).IsPending
    · rw [doSendMessage_established hc hp hpend]
      split
      · refine Live.bind (Live.map (doRetransmit_live _ _ _)) fun c₂ h₂ => submit_live ?_
        obtain ⟨⟨e, c₃⟩, hr, rfl⟩ := map_eq_ok.mp h₂
        obtain ⟨m', rfl, -⟩ := doRetransmit_ok hr
        exact hc
      · exact submit_live hc
    · have hp' : (c.modifyConversations (·.insertMessage n id (outbound m a.now))).contactNicknames.lookup n =
          some p := hp
      have hpend' : ((c.modifyConversations (·.insertMessage n id (outbound m a.now))).heap p).IsPending =
          true := hpend
      simp only [doSendMessage, lockConversations_of_unlocked hc, ok_bind, unlock_modifyConversations,
        unlock_lock hc, hp', hpend', if_true]
      exact live_ok _

theorem sendReadInbox_live {a : Answers} (hf : c.fatalErrors = []) : Live (c.sendReadInbox a) := by
  unfold sendReadInbox
  split
  · exact live_panic _
  · dsimp only
    split
    · exact fatal_live hf
    · exact live_ok _
    · exact live_ok _

theorem processPANDAUpdate_live {u : PandaUpdate} {a : Answers} (hc : c.conversationsLocked = false) :
    Live (c.processPANDAUpdate u a) := by
  unfold processPANDAUpdate
  split
  · exact live_ok _
  dsimp only
  split
  · -- a failure: restart the exchange after a timeout, then drop the channel and save
    split
    · split
      · exact live_panic _
      · split
        · exact live_panic _
        · exact Live.bind (live_ok _) fun _ h => by cases h; exact save_live hc
    · exact Live.bind (live_ok _) fun _ h => by cases h; exact save_live hc
  · split
    · exact live_ok _
    · exact save_live hc
  · split
    · exact Live.bind (save_live hc) fun _ _ => live_ok _
    · split
      · exact Live.bind (save_live hc) fun _ _ => live_ok _
      · exact save_live hc
  · exact save_live hc

theorem decryptMessage_live {a : Answers} (hc : c.conversationsLocked = false)
    (hf : c.fatalErrors = []) : Live (c.decryptMessage a) := by
  unfold decryptMessage
  split
  · exact live_ok _
  · refine Live.bind ?_ fun body _ => ?_
    · unfold parseFrame
      dsimp only
      split
      · exact live_panic _
      · split
        · exact live_panic _
        · exact live_ok _
    · dsimp only
      simp only [fatalIfErr_eq (.inr hf), ok_bind, lockConversations, hc, Bool.false_eq_true, if_false]
      exact live_ok _

/-! ### The marking handlers deadlock only when they mark -/

theorem marksSent_of_deadlock {ev : MessageSentEvent} {a : Answers} (hc : c.conversationsLocked = false)
    (h : c.handleSent ev a = .error .deadlock) : MarksSent c ev := by
  unfold handleSent at h
  dsimp only at h
  split at h
  · cases h
  · rename_i e he
    split at h
    · cases h
    · rename_i hn
      simp only [lockConversations_of_unlocked hc, ok_bind] at h
      split at h
      · rename_i m hm
        exact ⟨e, he, hn, by simp [hm]⟩
      · cases h

theorem marksDelivered_of_deadlock {ev : MessageReplyEvent} {a : Answers}
    (hc : c.conversationsLocked = false) (hf : c.fatalErrors = [])
    (h : c.handleReply ev a = .error .deadlock) : MarksDelivered c ev := by
  unfold handleReply at h
  dsimp only at h
  split at h
  · cases h
  rename_i e he
  split at h
  · -- an undecodable payload: the first fatal error returns
    exact absurd h (Live.bind (fatal_live hf) fun _ _ => live_ok _)
  rename_i r hr
  split at h
  · cases h
  split at h
  · -- a delivery acknowledgement: only the `save` under the mutex blocks
    rename_i hok hn
    simp only [lockConversations_of_unlocked hc, ok_bind] at h
    split at h
    · rename_i m hm
      split at h
      · rename_i p hp
        split at h
        · exact ⟨e, r, p, he, hn, hr, by simpa using hok, by simp [hm], hp, ‹_›⟩
        · simp at h
      · simp at h
    · simp at h
  · -- a read of the spool: it returns or panics
    split at h
    · simp at h
    · split at h
      · cases h
      · split at h
        · refine absurd h (Live.bind (decryptMessage_live hc hf) fun y _ => ?_)
          obtain ⟨b, c₁⟩ := y
          cases b
          · exact live_panic _
          · exact live_ok _
        · simp at h
end Client

/-- **The loop deadlocks exactly when it marks a message.** With the mutex free, as in every
reachable state, and no fatal error sent yet, a step of the loop deadlocks exactly on a
`MessageSentEvent` for a message still in its conversation (`MarksSent`), and on an OK
`MessageReplyEvent` for a message still in its conversation whose contact counts a message
unacknowledged (`MarksDelivered`): every request, every other event, every timer tick and
every PANDA update returns or panics. -/
theorem deadlock_iff_marking {L : Limits} (hc : c.conversationsLocked = false)
    (hf : c.fatalErrors = []) :
    (∀ a i, step L c a i = .error .deadlock ↔
      (∃ ev, i = .messageSent ev ∧ MarksSent c ev) ∨ ∃ ev, i = .messageReply ev ∧ MarksDelivered c ev) ∧
    ∀ t u a, (c.report t u).processPANDAUpdate u a ≠ .error .deadlock := by
  refine ⟨fun a i => ⟨fun h => ?_, ?_⟩, fun t u a => ?_⟩
  · cases i with
    | messageSent ev => exact .inl ⟨ev, rfl, Client.marksSent_of_deadlock hc h⟩
    | messageReply ev => exact .inr ⟨ev, rfl, Client.marksDelivered_of_deadlock hc hf h⟩
    | addContact n s => exact ((Live.bind (Client.createContact_live hc) fun _ _ => live_ok _) h).elim
    | removeContact n => exact (Client.doContactRemoval_live hc h).elim
    | sendMessage id n m => exact (Client.doSendMessage_live hc h).elim
    | garbageCollected ev => exact (live_ok _ h).elim
    | readInboxTick => exact (Client.sendReadInbox_live hf h).elim
    | gcTick => exact ((Client.garbageCollectConversations_eq hc ▸ live_ok _) h).elim
  · rintro (⟨ev, rfl, e, he, hn, hm⟩ | ⟨ev, rfl, e, r, p, he, hn, hr, hok, hm, hp, hu⟩)
    · exact handleSent_deadlock hc he hn hm
    · exact handleReply_deadlock hc he hn hr hok hm hp hu
  · obtain ⟨ts, hr⟩ := c.report_eq t u
    rw [hr]
    exact Client.processPANDAUpdate_live hc

theorem greeted_deadlock_iff_marking :
    greeted.conversationsLocked = false ∧ greeted.fatalErrors = [] ∧
      (∀ a i, step limits greeted a i = .error .deadlock ↔
        (∃ ev, i = .messageSent ev ∧ MarksSent greeted ev) ∨
          ∃ ev, i = .messageReply ev ∧ MarksDelivered greeted ev) ∧
      ∀ t u a, (greeted.report t u).processPANDAUpdate u a ≠ .error .deadlock :=
  ⟨greeted_reachable.unlocked, rfl, deadlock_iff_marking greeted_reachable.unlocked rfl⟩

end Catshadow
