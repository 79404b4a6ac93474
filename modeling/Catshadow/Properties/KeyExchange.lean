import Catshadow.Properties.Unacked

/-!
# PANDA key exchanges

A contact is created pending, with a cancel channel for its PANDA goroutine, and
becomes established when `processPANDAUpdate` gets the exchange's result. Two paths of
`processPANDAUpdate` leave a contact other than the code around them expects:

* a result whose contact-exchange bytes do not parse, or whose key exchange the ratchet
  rejects, marks the contact not pending but sets no spool write descriptor
  (`processPANDAUpdate_unparsable`); `doSendMessage` then dereferences the nil
  descriptor (`doSendMessage_nilDereference`, `failed_exchange_send_panics`);
* a SURB-ACK timeout restarts the exchange with the contact's cancel channel and then
  sets that channel to nil (`processPANDAUpdate_timeout`): the new goroutine runs for a
  pending contact that no longer holds its channel, and removing the contact cannot stop
  it (`restarted_exchange_unstoppable`).

`createContact` puts the new contact in both indexes before it asks for the PANDA
configuration and starts the exchange. When either fails it returns the error with the
contact left there, pending and with no exchange blob (`createContact_error_adds`); the
next save writes it (`failed_add_saved_pending`).

`Start` resumes the exchanges of the pending contacts: `Start_resumes` gives its loop in
closed form, one goroutine for each pending contact, each resumed from its own serialised
exchange, or the panic of the first, in the order the loop visits them, whose exchange does
not unmarshal.
-/

namespace Catshadow

variable {L : Limits} {c : Client} {u : PandaUpdate} {a : Answers} {p : Ptr}

/-! ### A result that does not parse -/

theorem processPANDAUpdate_unparsable {e : String} (hc : c.conversationsLocked = false)
    (hw : ∀ s, a.Writes s) (hp : c.contacts.lookup u.ID = some p) (herr : u.Err = none)
    (hser : u.Serialised = none) (hres : u.Result.isSome) (hx : a.contactExchange = .error e) :
    ∃ c', c.processPANDAUpdate u a = .ok c' ∧ (c'.heap p).IsPending = false ∧
      (c'.heap p).spoolWriteDescriptor = (c.heap p).spoolWriteDescriptor := by
  obtain ⟨r, hr⟩ := Option.isSome_iff_exists.mp hres
  cases h : c.processPANDAUpdate u a with
  | error x =>
    simp [Client.processPANDAUpdate, hp, herr, hser, hr, hx, Client.save_of_writes, hc, hw] at h
  | ok c' =>
    simp [Client.processPANDAUpdate, hp, herr, hser, hr, hx, Client.save_of_writes, hc, hw] at h
    subst h
    exact ⟨_, rfl, by simp [Client.modifyContact, Client.persisted, Client.emit]⟩

/-- `doSendMessage` for an established contact without a spool write descriptor, below its
window, dereferences the nil descriptor. -/
theorem doSendMessage_nilDereference {id : MessageID} {n : String} {m : Bytes}
    (hc : c.conversationsLocked = false) (hp : c.contactNicknames.lookup n = some p)
    (hpend : (c.heap p).IsPending = false)
    (hu : ((c.heap p).UnACKed : Int) ≠ (L.MaxMissingMessages : Int) - 1)
    (hd : (c.heap p).spoolWriteDescriptor = none) :
    c.doSendMessage L id n m a = .error (.panic nilDereference) := by
  simp [Client.doSendMessage, Client.lockConversations_of_unlocked hc, hp, hpend, hu,
    Client.submit, hd, Client.modifyConversations, Client.unlockConversations]

/-- `alice` adds `carol`; the spool's answer to the exchange does not parse. -/
def carolFailed : Client :=
  (added "carol").afterUpdate ⟨9, some 1⟩ ⟨9, none, none, some [3]⟩ default

/-- `carol` is established without a spool write descriptor, and sending her a message
makes the loop panic. -/
theorem failed_exchange_send_panics :
    Reachable limits aliceState "provider" carolFailed ∧
      carolFailed.contactNicknames.lookup "carol" = some 1 ∧
      (carolFailed.heap 1).IsPending = false ∧ (carolFailed.heap 1).spoolWriteDescriptor = none ∧
      step limits carolFailed accepting (.sendMessage greetingID "carol" [104, 105]) =
        .error (.panic nilDereference) :=
  have hr : Reachable limits aliceState "provider" carolFailed :=
    (aliceStarted_reachable.tail (Step.next (by decide))).tail
      (Step.afterUpdate (by decide) rfl (by decide))
  ⟨hr, by decide, by decide, by decide,
    @doSendMessage_nilDereference limits carolFailed accepting 1 greetingID "carol" [104, 105]
      hr.unlocked (by decide) (by decide) (by decide) (by decide)⟩

/-! ### A restarted exchange -/

/-- On a SURB-ACK timeout `processPANDAUpdate` starts a goroutine with the contact's cancel
channel, then sets the contact's channel to nil. -/
theorem processPANDAUpdate_timeout {t : String} (hc : c.conversationsLocked = false)
    (hw : ∀ s, a.Writes s) (hp : c.contacts.lookup u.ID = some p) (herr : u.Err = some (.replyTimeout t))
    (hcfg : a.pandaConfigured) (hun : a.unmarshalKeyExchange (c.heap p).pandaKeyExchange = none) :
    ∃ c', c.processPANDAUpdate u a = .ok c' ∧
      c'.kxTasks = c.kxTasks ++ [⟨(c.heap p).id, (c.heap p).pandaShutdownChan⟩] ∧
      (c'.heap p).pandaShutdownChan = none := by
  cases h : c.processPANDAUpdate u a with
  | error x =>
    simp [Client.processPANDAUpdate, hp, herr, hcfg, hun, Client.save_of_writes, hc, hw] at h
  | ok c' =>
    simp [Client.processPANDAUpdate, hp, herr, hcfg, hun, Client.save_of_writes, hc, hw] at h
    subst h
    exact ⟨_, rfl, by simp [Client.modifyContact, Client.persisted, Client.emit, Client.spawn]⟩

/-- `alice` adds `carol`; her exchange times out and restarts. -/
def carolRestarted : Client :=
  (added "carol").afterUpdate ⟨9, some 1⟩ ⟨9, some (.replyTimeout "timeout"), none, none⟩ withPanda

/-- The restarted goroutine runs with cancel channel 1 for the pending contact `carol`,
who holds no channel; after `alice` removes `carol` the goroutine still runs and
channel 1 is still open. -/
theorem restarted_exchange_unstoppable :
    Reachable limits aliceState "provider" carolRestarted ∧
      ⟨9, some 1⟩ ∈ carolRestarted.kxTasks ∧ carolRestarted.contacts.lookup 9 = some 1 ∧
      (carolRestarted.heap 1).IsPending = true ∧ (carolRestarted.heap 1).pandaShutdownChan = none ∧
      ⟨9, some 1⟩ ∈ (carolRestarted.next limits default (.removeContact "carol")).kxTasks ∧
      1 ∉ (carolRestarted.next limits default (.removeContact "carol")).closed :=
  ⟨(aliceStarted_reachable.tail (Step.next (by decide))).tail
      (Step.afterUpdate (by decide) rfl (by decide)),
    by decide, by decide, by decide, by decide, by decide, by decide⟩

/-! ### An add that fails after `NewContact` -/

/-- Once `NewContact` has succeeded, a session without a PANDA service or a failed
`NewKeyExchange` makes `createContact` return the error with the new contact, pending and
with no exchange blob, already in both indexes, and without a save. -/
theorem createContact_error_adds {n : String} {id : UInt64} {k : Contact} {err : String}
    (hn : n ∉ c.contactNicknames) (hid : c.randID a.draws = .ok id)
    (hk : NewContact n id a.newContact c.chans = .ok k)
    (hx : (a.pandaConfigured = false ∧ err = Client.noPandaService) ∨
      (a.pandaConfigured = true ∧ a.newKeyExchange = .error err)) :
    c.createContact n a = .ok (some err, { c with chans := c.chans + 1 }.addContact k) ∧
      k.IsPending = true ∧ k.pandaKeyExchange = [] := by
  refine ⟨?_, ?_⟩
  · rcases hx with ⟨hcfg, rfl⟩ | ⟨hcfg, hkx⟩
    · simp [Client.createContact, hn, hid, hk, hcfg]
    · simp [Client.createContact, hn, hid, hk, hcfg, hkx]
  · unfold NewContact at hk
    split at hk
    · cases hk
    · cases hk; exact ⟨rfl, rfl⟩

/-- A session in which adding a contact gets past `NewContact` and `NewKeyExchange` fails. -/
def exchangeFailing : Answers := { adding with newKeyExchange := .error "kx" }

/-- `alice` tries to add `carol`, and the exchange does not start. -/
def carolHalfAdded : Client := aliceStarted.next limits exchangeFailing (.addContact "carol" [])

/-- `alice` then sends `bob` a message, which saves. -/
def carolSaved : Client :=
  carolHalfAdded.next limits accepting (.sendMessage greetingID "bob" [104, 105])

/-- The add reports its error, but `carol` is in the indexes, pending, with no exchange
blob, and nothing is saved; the next save writes her as she is. -/
theorem failed_add_saved_pending :
    Reachable limits aliceState "provider" carolSaved ∧
      aliceStarted.contactNicknames.lookup "carol" = none ∧
      carolHalfAdded.events.getLast? = some (.keyExchangeCompleted "carol" (some "kx")) ∧
      carolHalfAdded.contactNicknames.lookup "carol" = some 1 ∧
      (carolHalfAdded.heap 1).IsPending = true ∧ (carolHalfAdded.heap 1).pandaKeyExchange = [] ∧
      carolHalfAdded.saved = aliceStarted.saved ∧
      carolSaved.saved.map (fun st => st.Contacts.map fun k => (k.Nickname, k.IsPending, k.pandaKeyExchange)) =
        some [("carol", true, []), ("bob", false, [])] :=
  ⟨(aliceStarted_reachable.tail (Step.next (by decide))).tail (Step.next (by decide)),
    by decide, by decide, by decide, by decide, by decide, rfl, by decide⟩

/-! ### Resuming the exchanges -/

/-- The contact at `p`, if `Start`'s loop resumes its exchange: when it is pending. -/
def pendingAt (heap : Ptr → Contact) (p : Ptr) : Option Contact :=
  if (heap p).IsPending then some (heap p) else none

/-- The goroutine `Start` resumes for a pending contact: under its id, with its cancel
channel. -/
def resumedTask (k : Contact) : KxTask := ⟨k.id, k.pandaShutdownChan⟩

theorem resumeKeyExchange_eq (a : Answers) (c : Client) (p : Ptr) :
    c.resumeKeyExchange a p = match pendingAt c.heap p with
      | some k => match a.unmarshalKeyExchange k.pandaKeyExchange with
        | some err => .error (.panic err)
        | none => .ok { c with kxTasks := c.kxTasks ++ [resumedTask k] }
      | none => .ok c := by
  unfold Client.resumeKeyExchange pendingAt Client.spawn resumedTask
  dsimp only
  cases (c.heap p).IsPending
  · rfl
  · simp only [if_true]
    cases a.unmarshalKeyExchange (c.heap p).pandaKeyExchange <;> rfl

/-- `Start`'s loop over any contacts: it resumes the pending ones in turn, each from its own
serialised exchange, and panics at the first whose exchange does not unmarshal. -/
theorem foldlM_resumeKeyExchange_eq (a : Answers) (c : Client) :
    ∀ (l : List Ptr) (ts : List KxTask),
      l.foldlM (Client.resumeKeyExchange a) { c with kxTasks := ts } =
        match (l.filterMap (pendingAt c.heap)).findSome? (a.unmarshalKeyExchange ·.pandaKeyExchange) with
        | some err => .error (.panic err)
        | none => .ok { c with kxTasks := ts ++ (l.filterMap (pendingAt c.heap)).map resumedTask }
  | [], ts => by simp
  | p :: l, ts => by
    rw [List.foldlM_cons, resumeKeyExchange_eq]
    dsimp only
    cases hk : pendingAt c.heap p with
    | none =>
      rw [List.filterMap_cons_none hk]
      exact foldlM_resumeKeyExchange_eq a c l ts
    | some k =>
      rw [List.filterMap_cons_some hk, List.findSome?_cons]
      dsimp only
      cases hu : a.unmarshalKeyExchange k.pandaKeyExchange with
      | some err => rfl
      | none =>
        have ih := foldlM_resumeKeyExchange_eq a c l (ts ++ [resumedTask k])
        simpa only [ok_bind, List.map_cons, List.append_assoc, List.singleton_append] using ih

/-- **What `Start` starts.** `Start` collects the conversations, and panics without a PANDA
service, whatever the contacts. Otherwise it goes through the pending contacts in the order
its `range` visits `contacts`: it panics with the error of the first whose serialised
exchange does not unmarshal, and when every one unmarshals it starts one PANDA goroutine for
each, under the contact's id and with its cancel channel. -/
theorem Start_resumes (c : Client) (a : Answers) :
    Start L c a = (c.garbageCollectConversations L a >>= fun c₁ =>
      if !a.pandaConfigured then .error (.panic Client.noPandaService)
      else
        let ks := (a.contactOrder (c₁.contacts.entries.map Sigma.snd)).filterMap (pendingAt c₁.heap)
        match ks.findSome? (a.unmarshalKeyExchange ·.pandaKeyExchange) with
        | some err => .error (.panic err)
        | none => .ok { c₁ with kxTasks := c₁.kxTasks ++ ks.map resumedTask }) := by
  unfold Start
  congr 1
  funext c₁
  split
  · rfl
  · exact foldlM_resumeKeyExchange_eq a c₁ _ _

end Catshadow
