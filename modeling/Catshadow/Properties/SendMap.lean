import Catshadow.Properties.Steps

/-!
# What `sendMap` remembers

`sendMap` maps each transport id the session handed out to what it was used for: a
message to a contact, or a read of the user's own spool, told apart only by the
nickname (`tp.Nickname == c.user`).

Every entry is stored under the `[16]byte` array (`ArrayKeys`), but `handleReply` and
`garbageCollectSendMap` delete by the event's `*[16]byte`, a key of another dynamic
type: nothing is ever removed (`handleReply_keeps_entry`, `entry_survives_reply`), and
along every run the map only grows (`sendMap_only_grows`).
The same fact makes a reply below the read offset change nothing at all, and with the
step classification of `Catshadow.Properties.Steps` gives the read offset's contract:
it moves only when `handleReply` reads the tip of the spool
(`readOffset_moves_only_at_tip`).

A contact may be given the user's own nickname; entries for messages to it are then
taken for reads of the spool (`namesake_reply_panics`).
-/

namespace Catshadow

variable {L : Limits} {s : State} {prov : String} {c c' : Client}

/-! ### Keys -/

/-- Every key of `sendMap` is a transport id, never a pointer. -/
def ArrayKeys (c : Client) : Prop :=
  ∀ k e, c.sendMap.lookup k = some e → ∃ t, k = .array t

theorem arrayKeys_of_reachable (hr : Reachable L s prov c) : ArrayKeys c :=
  (hr.induction (P := ArrayKeys)
    (fun _ _ h₀ k e he => by simp [Start_sendMap h₀, AList.lookup_empty] at he)
    fun _ _ _ h hA _ k e he => (hA.sendMap k e he).elim (h k e) (·.1)).1

/-- Deleting by a pointer removes nothing. -/
theorem ArrayKeys.delete_pointer (h : ArrayKeys c) (addr : Nat) : c.delete (.pointer addr) = c := by
  have hnot : SendKey.pointer addr ∉ c.sendMap.keys := fun hm => by
    obtain ⟨e, he⟩ := Option.isSome_iff_exists.mp (AList.lookup_isSome.mpr (AList.mem_keys.mpr hm))
    obtain ⟨t, ht⟩ := h _ e he
    cases ht
  have hs : c.sendMap.erase (.pointer addr) = c.sendMap := AList.ext (List.kerase_of_not_mem_keys hnot)
  unfold Client.delete
  rw [hs]

/-! ### Deletion -/

/-- `handleReply` leaves every entry stored under a transport id where it was: its
deferred `Delete` is of the event's pointer. -/
theorem handleReply_keeps_entry {ev : MessageReplyEvent} {a : Answers}
    (hc : c.conversationsLocked = false) (h : c.handleReply ev a = .ok c') (t : TransportID) :
    c'.sendMap.lookup (.array t) = c.sendMap.lookup (.array t) := by
  have hne : SendKey.array t ≠ .pointer ev.MessageID.addr := fun h => nomatch h
  rcases Client.handleReply_ok hc h with rfl | ⟨err, -, rfl⟩ | rfl | ⟨n, id, rfl⟩ |
    ⟨e, r, d, c₁, -, -, -, -, -, -, hdm, rfl⟩
  · rfl
  · exact AList.lookup_erase_ne hne
  · exact AList.lookup_erase_ne hne
  · exact AList.lookup_erase_ne hne
  · rcases Client.decryptMessage_ok (by exact hc) hdm with ⟨h, -⟩ | ⟨-, p, pt, body, -, -, rfl⟩
    · cases h
    · exact AList.lookup_erase_ne hne

theorem garbageCollectSendMap_keeps_entry (ev : MessageIDGarbageCollected) (t : TransportID) :
    (c.garbageCollectSendMap ev).sendMap.lookup (.array t) = c.sendMap.lookup (.array t) :=
  AList.lookup_erase_ne fun h => nomatch h

/-- `alice` asks for slot 5 of her spool, and the session sends the request under
`transportID`. -/
def inboxRequested : Client := aliceStarted.next limits accepting .readInboxTick

theorem inboxRequested_reachable : Reachable limits aliceState "provider" inboxRequested :=
  aliceStarted_reachable.tail (Step.next (by decide))

/-- The spool's answer to that request, for the slot before it. -/
def staleReply : MessageReplyEvent := ⟨⟨0, transportID⟩, .ok ⟨4, "OK", []⟩⟩

/-- After `handleReply` has processed the reply for `transportID`, the entry stored
under it is still there. -/
theorem entry_survives_reply :
    Reachable limits aliceState "provider" inboxRequested ∧
      ∃ c', step limits inboxRequested default (.messageReply staleReply) = .ok c' ∧
        c'.sendMap.lookup (.array transportID) = some ⟨⟨"alice", sequenceID 5⟩, .readInbox⟩ :=
  have hok : (step limits inboxRequested default (.messageReply staleReply)).isOk := by decide
  have hstep : inboxRequested.handleReply staleReply default = .ok _ := step_eq_next hok
  ⟨inboxRequested_reachable, _, hstep, by
    rw [handleReply_keeps_entry inboxRequested_reachable.unlocked hstep]; decide⟩

/-- **No entry of `sendMap` is ever removed.** Along every run from a reachable state, each
key `sendMap` holds stays in it: every key is a transport id, and the code deletes only by
pointer. -/
theorem sendMap_only_grows (hr : Reachable L s prov c) (hrun : Relation.ReflTransGen (Step L) c c')
    {k : SendKey} (hk : k ∈ c.sendMap) : k ∈ c'.sendMap := by
  obtain ⟨e, he⟩ := Option.isSome_iff_exists.mp (AList.lookup_isSome.mpr hk)
  obtain ⟨t, rfl⟩ := arrayKeys_of_reachable hr _ e he
  induction hrun with
  | refl => exact hk
  | tail hab hbc ih => exact (hbc.effect (hr.trans hab).unlocked).1.keeps t ih

theorem inboxRequested_keeps_request :
    Reachable limits aliceState "provider" inboxRequested ∧
      Relation.ReflTransGen (Step limits) inboxRequested
        (inboxRequested.next limits default (.messageReply staleReply)) ∧
      SendKey.array transportID ∈ inboxRequested.sendMap ∧
      SendKey.array transportID ∈ (inboxRequested.next limits default (.messageReply staleReply)).sendMap :=
  have hrun := Relation.ReflTransGen.single (Step.next (L := limits) (by decide))
  ⟨inboxRequested_reachable, hrun, by decide,
    sendMap_only_grows inboxRequested_reachable hrun (by decide)⟩

/-! ### The read offset -/

/-- A reply to a read request for a slot below the read offset, or with an error status,
only runs the deferred delete. -/
theorem handleReply_below {ev : MessageReplyEvent} {a : Answers} {e : SendEntry} {r : SpoolResponse}
    {d : SpoolReadDescriptor} (he : c.sendMap.lookup (.array ev.MessageID.target) = some e)
    (hn : e.descriptor.Nickname = c.user) (hr : ev.Payload = .ok r) (hd : c.spoolReadDescriptor = some d)
    (hlt : r.MessageID < d.ReadOffset) :
    c.handleReply ev a = .ok (c.delete (.pointer ev.MessageID.addr)) := by
  cases hok : r.IsOK <;> simp [Client.handleReply, he, hn, hr, hd, hlt, hok]

/-- A step leaves the read descriptor, or reads the tip of the spool. -/
theorem Effect.spoolReadDescriptor_or (he : Effect L c c') :
    c'.spoolReadDescriptor = c.spoolReadDescriptor ∨ ReadsTip c c' := by
  cases he with
  | quiet _ _ hd => exact .inl hd
  | submit _ _ _ _ _ _ _ _ _ hd => exact .inl hd
  | readTip _ _ ht => exact .inr ht
  | add _ _ _ _ _ _ _ _ _ _ _ hd => exact .inl hd
  | remove _ _ _ _ _ _ _ hd => exact .inl hd

/-- A reply to a read request for the slot at the read offset that returns is a read of the
tip. -/
theorem ReadsTip.of_handleReply {ev : MessageReplyEvent} {a : Answers} {e : SendEntry}
    {r : SpoolResponse} {d : SpoolReadDescriptor} (hc : c.conversationsLocked = false)
    (he : c.sendMap.lookup (.array ev.MessageID.target) = some e) (hn : e.descriptor.Nickname = c.user)
    (hr : ev.Payload = .ok r) (hok : r.IsOK) (hd : c.spoolReadDescriptor = some d)
    (hslot : r.MessageID = d.ReadOffset) (h : c.handleReply ev a = .ok c') : ReadsTip c c' := by
  have h' := h
  rw [Client.handleReply_tip he hn hr hok hd hslot] at h'
  obtain ⟨⟨b, c₁⟩, hdm, hb⟩ := bind_eq_ok.mp h'
  cases b
  · cases hb
  · obtain rfl := (Except.ok.inj hb).symm
    exact (ReadsTip.of_decrypted hc he hn hr hok hd hslot hdm h).1

/-- **The read offset moves only at the tip.** From a reachable state, a step leaves the
read descriptor as it is, or it reads the tip of the spool (`ReadsTip`): `handleReply` takes
an OK response, to an entry under the user's nickname, for the slot at the read offset; the
offset moves on by exactly one, and the first established contact whose ratchet decrypts the
payload gets one message and one `MessageReceived` event. Every such reply that returns is
a read of the tip. A reply for a slot below the read offset changes nothing. -/
theorem readOffset_moves_only_at_tip (hr : Reachable L s prov c) :
    (∀ c', Step L c c' → c'.spoolReadDescriptor = c.spoolReadDescriptor ∨ ReadsTip c c') ∧
    (∀ (ev : MessageReplyEvent) (a : Answers) (e : SendEntry) (r : SpoolResponse)
      (d : SpoolReadDescriptor) (c' : Client), c.sendMap.lookup (.array ev.MessageID.target) = some e →
      e.descriptor.Nickname = c.user → ev.Payload = .ok r → r.IsOK → c.spoolReadDescriptor = some d →
      r.MessageID = d.ReadOffset → step L c a (.messageReply ev) = .ok c' → ReadsTip c c') ∧
    ∀ (ev : MessageReplyEvent) (a : Answers) (e : SendEntry) (r : SpoolResponse)
      (d : SpoolReadDescriptor), c.sendMap.lookup (.array ev.MessageID.target) = some e →
      e.descriptor.Nickname = c.user → ev.Payload = .ok r → c.spoolReadDescriptor = some d →
      r.MessageID < d.ReadOffset → c.handleReply ev a = .ok c := by
  refine ⟨fun c' hs => (hs.effect hr.unlocked).2.spoolReadDescriptor_or,
    fun ev a e r d c' he hn hp hok hd hslot h => ReadsTip.of_handleReply hr.unlocked he hn hp hok hd hslot h,
    fun ev a e r d he hn hp hd hlt => ?_⟩
  rw [handleReply_below he hn hp hd hlt, (arrayKeys_of_reachable hr).delete_pointer]

theorem inboxRequested_readOffset :
    Reachable limits aliceState "provider" inboxRequested ∧
    (∀ c', Step limits inboxRequested c' →
      c'.spoolReadDescriptor = inboxRequested.spoolReadDescriptor ∨ ReadsTip inboxRequested c') ∧
    (∀ (ev : MessageReplyEvent) (a : Answers) (e : SendEntry) (r : SpoolResponse)
      (d : SpoolReadDescriptor) (c' : Client),
      inboxRequested.sendMap.lookup (.array ev.MessageID.target) = some e →
      e.descriptor.Nickname = inboxRequested.user → ev.Payload = .ok r → r.IsOK →
      inboxRequested.spoolReadDescriptor = some d → r.MessageID = d.ReadOffset →
      step limits inboxRequested a (.messageReply ev) = .ok c' → ReadsTip inboxRequested c') ∧
    ∀ (ev : MessageReplyEvent) (a : Answers) (e : SendEntry) (r : SpoolResponse)
      (d : SpoolReadDescriptor), inboxRequested.sendMap.lookup (.array ev.MessageID.target) = some e →
      e.descriptor.Nickname = inboxRequested.user → ev.Payload = .ok r →
      inboxRequested.spoolReadDescriptor = some d → r.MessageID < d.ReadOffset →
      inboxRequested.handleReply ev a = .ok inboxRequested :=
  ⟨inboxRequested_reachable, readOffset_moves_only_at_tip inboxRequested_reachable⟩

/-! ### Entries under the user's nickname -/

/-- An OK response to an entry stored under the user's nickname is taken as a read of
the spool, whoever stored the entry: past the read offset, the loop panics. -/
theorem handleReply_notRequestedYet {ev : MessageReplyEvent} {a : Answers} {e : SendEntry}
    {r : SpoolResponse} {d : SpoolReadDescriptor}
    (he : c.sendMap.lookup (.array ev.MessageID.target) = some e) (hn : e.descriptor.Nickname = c.user)
    (hr : ev.Payload = .ok r) (hok : r.IsOK) (hd : c.spoolReadDescriptor = some d)
    (hgt : d.ReadOffset < r.MessageID) :
    c.handleReply ev a = .error (.panic Client.notRequestedYet) := by
  simp [Client.handleReply, he, hn, hr, hok, hd, UInt32.lt_asymm hgt, (UInt32.ne_of_lt hgt).symm]

/-- A spool that accepts the contact-exchange blob of the peer named like the user. -/
def exchanged : Answers :=
  { (default : Answers) with contactExchange := .ok ⟨some ⟨[], "alice", "provider"⟩⟩ }

/-- `alice` adds a contact nicknamed `alice`, its exchange completes, and she sends it a
message under `transportID`. -/
def namesakeGreeted : Client :=
  (((added "alice").afterUpdate ⟨9, some 1⟩ ⟨9, none, none, some [3]⟩ exchanged).next limits
    accepting (.sendMessage greetingID "alice" [104, 105]))

/-- The entry `doSendMessage` stored for the message to the contact named like the user
is taken for a read of the spool, and the spool's acknowledgement of the message
reaches the read path's panic. -/
theorem namesake_reply_panics :
    Reachable limits aliceState "provider" namesakeGreeted ∧
      namesakeGreeted.sendMap.lookup (.array transportID) =
        some ⟨⟨"alice", greetingID⟩, .sendMessage⟩ ∧
      step limits namesakeGreeted default (.messageReply ⟨⟨0, transportID⟩, .ok ⟨9, "OK", []⟩⟩) =
        .error (.panic Client.notRequestedYet) :=
  have he : namesakeGreeted.sendMap.lookup (.array transportID) =
      some ⟨⟨"alice", greetingID⟩, .sendMessage⟩ := by decide
  ⟨((aliceStarted_reachable.tail (Step.next (by decide))).tail
      (Step.afterUpdate (by decide) rfl (by decide))).tail (Step.next (by decide)),
    he, @handleReply_notRequestedYet namesakeGreeted ⟨⟨0, transportID⟩, .ok ⟨9, "OK", []⟩⟩ default
      ⟨⟨"alice", greetingID⟩, .sendMessage⟩ ⟨9, "OK", []⟩ ⟨[], [], "alice", "provider", 5⟩ he
      (by decide) rfl (by decide) (by decide) (by decide)⟩

end Catshadow
