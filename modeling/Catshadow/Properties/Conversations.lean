import Catshadow.Properties.Steps

/-!
# Messages in the conversations

What the steps of the system do to the messages of `conversations`.

Only three things happen to them in a step (`ConvEffect`): nothing; one message,
neither sent nor delivered, is put under a nickname and an id (`doSendMessage`, with the
ciphertext `submit` then sets on it, or the read path of `handleReply`); or
`garbageCollectConversations` runs. The two handlers that mark a message, `handleSent`
(`Sent`) and `handleReply` (`Delivered`, and the ciphertext emptied), do it while they
hold `conversationsMutex` and then call `save`, which takes the mutex again: they
deadlock (`Catshadow.Properties.Locking`), so no step that returns marks a message.

* `garbageCollectConversations_spec`: with the mutex free, garbage collection keeps
  every nickname, drops exactly the messages whose expiry is before the clock, and keeps
  every other message under its id, with only the ciphertext of an outbound delivered
  message emptied.
* `garbageCollectConversations_twice`: collecting at one clock reading and then at a later
  one leaves what collecting at the later one alone leaves; in particular collecting is
  idempotent.
* `delivered_messages_clean`: from a saved state whose delivered messages are outbound,
  sent and without ciphertext, every reachable state's are; each of them was delivered
  already in the state loaded (`ConvEffect.delivered`).
* `NoneSent.step`: no step marks a message sent, the fact the send window rests on
  (`Catshadow.Properties.Window`).
-/

namespace Catshadow

variable {L : Limits} {c c' : Client}

/-! ### Garbage collection -/

/-- **Conversation garbage collection.** With the mutex free, `garbageCollectConversations`
returns. It changes only the conversations: under every nickname it keeps the
conversation, drops exactly the messages with `Timestamp + MessageExpirationDuration`
before the clock reading, and keeps every other message under its id, with only the
ciphertext of an outbound delivered message emptied. -/
theorem garbageCollectConversations_spec {a : Answers} (hc : c.conversationsLocked = false) :
    ∃ c', c.garbageCollectConversations L a = .ok c' ∧
      c' = { c with conversations := c'.conversations } ∧
      (∀ n, (c'.conversations.lookup n).isSome = (c.conversations.lookup n).isSome) ∧
      ∀ n id, c'.conversations.message n id =
        ((c.conversations.message n id).filter
          fun m => !decide (m.Timestamp + L.MessageExpirationDuration < a.now)).map
          fun m => if m.Outbound && m.Delivered then { m with Ciphertext := [] } else m := by
  refine ⟨c.modifyConversations (GoMap.filterMapVal (fun _ => true)
      (GoMap.filterMapVal (fun m => !Client.expired L a.now m) Client.collected)),
    by simp [Client.garbageCollectConversations, Client.lockConversations_of_unlocked hc,
      Client.unlock_lock hc], rfl, fun n => ?_, fun n id => Conversations.message_filterMapVal _ _ _ _ _⟩
  simp only [Client.modifyConversations, GoMap.lookup_filterMapVal]
  cases c.conversations.lookup n <;> rfl

theorem greeted_collectedLate :
    greeted.conversationsLocked = false ∧
    ∃ c', greeted.garbageCollectConversations limits late = .ok c' ∧
      c' = { greeted with conversations := c'.conversations } ∧
      (∀ n, (c'.conversations.lookup n).isSome = (greeted.conversations.lookup n).isSome) ∧
      ∀ n id, c'.conversations.message n id =
        ((greeted.conversations.message n id).filter
          fun m => !decide (m.Timestamp + limits.MessageExpirationDuration < late.now)).map
          fun m => if m.Outbound && m.Delivered then { m with Ciphertext := [] } else m :=
  ⟨greeted_reachable.unlocked, garbageCollectConversations_spec greeted_reachable.unlocked⟩

/-- **Collecting twice is collecting once, at the later time.** With the mutex free,
`garbageCollectConversations` at one clock reading and then at a later one leaves the
client that the later one alone leaves: a message expired at the earlier reading is
expired at the later one, and emptying a ciphertext twice is emptying it once. -/
theorem garbageCollectConversations_twice {a₁ a₂ : Answers} (hc : c.conversationsLocked = false)
    (ht : a₁.now ≤ a₂.now) :
    (c.garbageCollectConversations L a₁ >>= fun c₁ => c₁.garbageCollectConversations L a₂) =
      c.garbageCollectConversations L a₂ := by
  have hinner : ∀ conv : Conversation,
      (conv.filterMapVal (fun m => !Client.expired L a₁.now m) Client.collected).filterMapVal
        (fun m => !Client.expired L a₂.now m) Client.collected =
      conv.filterMapVal (fun m => !Client.expired L a₂.now m) Client.collected := fun conv => by
    rw [GoMap.filterMapVal_filterMapVal]
    refine GoMap.filterMapVal_congr (fun m => ?_) (fun m _ => Client.collected_collected m) conv
    simp only [Client.expired, Client.Timestamp_collected]
    by_cases h : m.Timestamp + L.MessageExpirationDuration < a₂.now
    · simp [h]
    · simp [h, not_lt.mpr (le_trans ht (not_lt.mp h))]
  rw [Client.garbageCollectConversations_eq hc, ok_bind,
    Client.garbageCollectConversations_eq (c := c.modifyConversations _) hc,
    Client.garbageCollectConversations_eq hc]
  simp only [Client.modifyConversations, GoMap.filterMapVal_filterMapVal, hinner, Bool.and_self]

theorem greeted_collectedTwice :
    greeted.conversationsLocked = false ∧ (default : Answers).now ≤ late.now ∧
      (greeted.garbageCollectConversations limits default >>= fun c₁ =>
        c₁.garbageCollectConversations limits late) = greeted.garbageCollectConversations limits late :=
  ⟨greeted_reachable.unlocked, by decide,
    garbageCollectConversations_twice greeted_reachable.unlocked (by decide)⟩

/-! ### What a step does to the conversations -/

/-- What a step does to the conversations. -/
inductive ConvEffect (L : Limits) (c c' : Client) : Prop
  /-- They stay. -/
  | same (h : c'.conversations = c.conversations)
  /-- A message neither sent nor delivered is put under `n` and `id`. -/
  | insert (n : String) (id : MessageID) (msg : Message) (hs : msg.Sent = false)
      (hd : msg.Delivered = false) (h : c'.conversations = c.conversations.insertMessage n id msg)
  /-- Garbage collection, at the clock reading `now`. -/
  | collect (now : Time) (h : c'.conversations = GoMap.filterMapVal (fun _ => true)
      (GoMap.filterMapVal (fun m => !Client.expired L now m) Client.collected) c.conversations)

namespace ConvEffect

variable {a : Answers}

theorem of_doSendMessage {id : MessageID} {n : String} {m : Bytes}
    (hc : c.conversationsLocked = false) (h : c.doSendMessage L id n m a = .ok c') :
    ConvEffect L c c' := by
  rcases Client.doSendMessage_ok hc h with rfl | ⟨p, c₂, -, -, hst, hsub⟩
  · exact .insert n id _ rfl rfl rfl
  obtain ⟨m₂, rfl, -⟩ := hst
  refine .insert n id { outbound m a.now with Ciphertext := a.encrypt (frame L m) } rfl rfl ?_
  rcases Client.submit_ok hsub with rfl | ⟨t, -, -, rfl⟩ <;>
    exact Conversations.modifyMessage_insertMessage _ _ _ _ _

theorem of_handleReply {ev : MessageReplyEvent} (hc : c.conversationsLocked = false)
    (h : c.handleReply ev a = .ok c') : ConvEffect L c c' := by
  rcases Client.handleReply_ok hc h with rfl | ⟨err, -, rfl⟩ | rfl | ⟨n, id, rfl⟩ |
    ⟨e, r, d, c₁, -, -, -, -, -, -, hdm, rfl⟩
  · exact .same rfl
  · exact .same rfl
  · exact .same rfl
  · exact .same rfl
  rcases Client.decryptMessage_ok (by exact hc) hdm with ⟨h, -⟩ | ⟨-, p, pt, body, -, -, rfl⟩
  · cases h
  · exact .insert _ _ _ rfl rfl rfl

theorem of_addContact {n : String} {secret : Bytes}
    (h : step L c a (.addContact n secret) = .ok c') : ConvEffect L c c' := by
  obtain ⟨⟨err, c₁⟩, h₁, h₂⟩ := bind_eq_ok.mp h
  have hconv : c'.conversations = c₁.conversations := by
    cases err <;> simp at h₂ <;> simp [← h₂, Client.emit]
  rcases Client.createContact_ok h₁ with rfl | ⟨id, k, -, -, -, rfl | ⟨kx, rfl⟩⟩ <;>
    exact .same hconv

theorem of_processPANDAUpdate {t : KxTask} {u : PandaUpdate}
    (h : (c.report t u).processPANDAUpdate u a = .ok c') : ConvEffect L c c' := by
  obtain ⟨ts, hr⟩ := Client.report_eq c t u
  rw [hr] at h
  rcases Client.processPANDAUpdate_ok h with rfl | ⟨p, k, ts', evs, s, -, rfl, -⟩ <;>
    exact .same rfl

/-- Under each nickname and id, a step leaves the message there as it was or as garbage
collection leaves it, drops it, or puts there one neither sent nor delivered. -/
theorem message (h : ConvEffect L c c') {n : String} {id : MessageID} {m' : Message}
    (hm : c'.conversations.message n id = some m') :
    (m'.Sent = false ∧ m'.Delivered = false) ∨
      ∃ m, c.conversations.message n id = some m ∧ (m' = m ∨ m' = Client.collected m) := by
  cases h with
  | same h => rw [h] at hm; exact .inr ⟨m', hm, .inl rfl⟩
  | insert n₀ id₀ msg hs hd h =>
    rw [h, Conversations.message_insertMessage] at hm
    split at hm
    · cases hm; exact .inl ⟨hs, hd⟩
    · exact .inr ⟨m', hm, .inl rfl⟩
  | collect now h =>
    rw [h, Conversations.message_filterMapVal] at hm
    cases hx : c.conversations.message n id with
    | none => simp [hx] at hm
    | some m =>
      simp only [hx, Option.filter, Option.map_some'] at hm
      split at hm
      · exact .inr ⟨m, rfl, .inr (Option.some.inj hm).symm⟩
      · cases hm

end ConvEffect

/-- **What a step does to the conversations.** -/
theorem Step.convEffect (hs : Step L c c') (hc : c.conversationsLocked = false) :
    ConvEffect L c c' := by
  cases hs with
  | loop i a h =>
    cases i with
    | addContact n secret => exact .of_addContact h
    | removeContact n =>
      rcases Client.doContactRemoval_ok h with rfl | ⟨p, closed, -, rfl⟩ <;> exact .same rfl
    | sendMessage id n m => exact .of_doSendMessage hc h
    | messageSent ev =>
      rcases Client.handleSent_ok hc h with rfl | ⟨n, id, -, rfl⟩ <;> exact .same rfl
    | messageReply ev => exact .of_handleReply hc h
    | garbageCollected ev =>
      obtain rfl := (Except.ok.inj h).symm
      exact .same rfl
    | readInboxTick =>
      rcases Client.sendReadInbox_ok h with rfl | ⟨err, -, rfl⟩ | ⟨d, t, -, rfl⟩ <;> exact .same rfl
    | gcTick =>
      obtain rfl := Client.garbageCollectConversations_ok hc h
      exact .collect a.now rfl
  | panda t u a _ _ h => exact .of_processPANDAUpdate h
  | cancelled t _ _ _ _ => exact .same rfl

/-- `Start` garbage-collects the conversations `New` loaded. -/
theorem Start_convEffect {a : Answers} (hc : c.conversationsLocked = false)
    (h : Start L c a = .ok c') : ConvEffect L c c' := by
  obtain ⟨c₁, ts, h₁, rfl⟩ := Start_ok h
  obtain rfl := Client.garbageCollectConversations_ok hc h₁
  exact .collect a.now rfl

/-! ### Flags no step sets -/

/-- No message is marked sent. -/
def NoneSent (convs : Conversations) : Prop :=
  ∀ n id m, convs.message n id = some m → m.Sent = false

/-- Every delivered message is outbound and sent, and has no ciphertext left. -/
def DeliveredClean (convs : Conversations) : Prop :=
  ∀ n id m, convs.message n id = some m → m.Delivered = true →
    m.Outbound = true ∧ m.Sent = true ∧ m.Ciphertext = []

theorem NoneSent.step (h : NoneSent c.conversations) (he : ConvEffect L c c') :
    NoneSent c'.conversations := fun n id m' hm => by
  rcases he.message hm with ⟨hs, -⟩ | ⟨m, hm₀, rfl | rfl⟩
  · exact hs
  · exact h n id _ hm₀
  · rw [Client.Sent_collected]; exact h n id m hm₀

theorem DeliveredClean.step (h : DeliveredClean c.conversations) (he : ConvEffect L c c') :
    DeliveredClean c'.conversations := fun n id m' hm hd => by
  rcases he.message hm with ⟨-, hd'⟩ | ⟨m, hm₀, rfl | rfl⟩
  · rw [hd] at hd'; cases hd'
  · exact h n id _ hm₀ hd
  · rw [Client.Delivered_collected] at hd
    obtain ⟨ho, hs, hct⟩ := h n id m hm₀ hd
    simp [Client.collected, ho, hs, hd, hct]

/-- A property of the conversations that every `ConvEffect` keeps holds in every state a
run reaches from a saved state that has it. -/
theorem ConvEffect.of_reachable {P : Conversations → Prop}
    (hstep : ∀ {c c' : Client}, P c.conversations → ConvEffect L c c' → P c'.conversations)
    {s : State} {prov : String} (hs : P s.Conversations) (hr : Reachable L s prov c) :
    P c.conversations :=
  (hr.induction_step (P := fun c => P c.conversations)
    (fun _ _ h₀ => hstep hs (Start_convEffect rfl h₀))
    fun _ _ hc hP hs => hstep hP (hs.convEffect hc)).1

/-- From a saved state with no message marked sent, no reachable state has one. -/
theorem noneSent_of_reachable {s : State} {prov : String} (hs : NoneSent s.Conversations)
    (hr : Reachable L s prov c) : NoneSent c.conversations :=
  ConvEffect.of_reachable NoneSent.step hs hr

/-- A message delivered after a step was delivered before it, under the same nickname and
id: no step that returns marks a message delivered. -/
theorem ConvEffect.delivered (he : ConvEffect L c c') {n : String} {id : MessageID} {m' : Message}
    (hm : c'.conversations.message n id = some m') (hd : m'.Delivered = true) :
    ∃ m, c.conversations.message n id = some m ∧ m.Delivered = true := by
  rcases he.message hm with ⟨-, hd'⟩ | ⟨m, hm₀, rfl | rfl⟩
  · rw [hd] at hd'; cases hd'
  · exact ⟨_, hm₀, hd⟩
  · exact ⟨m, hm₀, by rwa [Client.Delivered_collected] at hd⟩

/-- **Delivered messages stay clean.** In every state a run reaches from a saved state whose
delivered messages are outbound, sent and without ciphertext, every delivered message is
outbound, sent and without ciphertext, whatever the order of the session's events. No step
that returns marks a message delivered: every delivered message was delivered, under the
same nickname and id, in the state loaded. -/
theorem delivered_messages_clean {s : State} {prov : String} (hs : DeliveredClean s.Conversations)
    (hr : Reachable L s prov c) :
    DeliveredClean c.conversations ∧
      ∀ n id m, c.conversations.message n id = some m → m.Delivered = true →
        ∃ m₀, s.Conversations.message n id = some m₀ ∧ m₀.Delivered = true :=
  ⟨ConvEffect.of_reachable DeliveredClean.step hs hr,
    ConvEffect.of_reachable (P := fun convs => ∀ n id m, convs.message n id = some m →
        m.Delivered = true → ∃ m₀, s.Conversations.message n id = some m₀ ∧ m₀.Delivered = true)
      (fun hP he n id _ hm hd =>
        let ⟨m, hm, hd⟩ := he.delivered hm hd
        hP n id m hm hd)
      (fun _ _ m hm hd => ⟨m, hm, hd⟩) hr⟩

/-- `alice`'s greeting to `bob`, delivered. -/
def deliveredGreeting : Message :=
  { Plaintext := [104, 105], Ciphertext := [], Timestamp := 0, Outbound := true, Sent := true,
    Delivered := true }

/-- `alice`'s state once `bob` has her greeting. -/
def deliveredState : State :=
  { aliceState with Conversations := (∅ : Conversations).insertMessage "bob" greetingID deliveredGreeting }

/-- A second conversation id. -/
def replyID : MessageID := ⟨List.replicate 16 4, rfl⟩

/-- `alice`, loaded from that state, sends `bob` another message. -/
def greetedAgain : Client :=
  (started limits deliveredState "provider" withPanda).next limits accepting
    (.sendMessage replyID "bob" [111, 107])

theorem greetedAgain_deliveredClean :
    DeliveredClean deliveredState.Conversations ∧ Reachable limits deliveredState "provider" greetedAgain ∧
      greetedAgain.conversations.message "bob" greetingID = some deliveredGreeting ∧
      DeliveredClean greetedAgain.conversations ∧
      ∀ n id m, greetedAgain.conversations.message n id = some m → m.Delivered = true →
        ∃ m₀, deliveredState.Conversations.message n id = some m₀ ∧ m₀.Delivered = true :=
  have hs : DeliveredClean deliveredState.Conversations := fun n id m hm _ => by
    simp only [deliveredState, Conversations.message_insertMessage] at hm
    split_ifs at hm
    · cases hm; exact ⟨rfl, rfl, rfl⟩
    · simp [Conversations.message, AList.lookup_empty] at hm
  have hr : Reachable limits deliveredState "provider" greetedAgain :=
    (Reachable.start (by decide)).tail (Step.next (by decide))
  ⟨hs, hr, by decide, delivered_messages_clean hs hr⟩

end Catshadow
