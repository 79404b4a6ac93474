import Catshadow.Properties.ContactIndex
import Catshadow.Properties.ReadOffset

/-!
# The saved state

`save` hands the state writer the `State` that `marshal` builds: the read descriptor,
the contacts `contacts` indexes, in the order its `range` visits them, the link key, the
user, the provider and the conversations; it panics when `cbor.Marshal` or `writeState`
fails. `New` loads such a `State` back, rebuilding both indexes from the one list.

* `New_marshal`: when the two indexes agree (`ContactIndex`), loading what `marshal`
  builds gives back both indexes, each key to the same contact, and the conversations,
  the read descriptor, the user and the link key. Go compares the maps of pointers by the
  contacts they point to, which is how the model states it.
* `read_tip_unsaved`: the read path of `handleReply` moves the read offset and records
  the message it decrypted, and returns without a save, so a client whose last save was
  its state (`Persisted`) is no longer so after it. `handleReply` never saves on a path
  that returns (`handleReply_saved`); the paths of `doSendMessage` to an unknown or
  pending contact, its failed submissions, `garbageCollectConversations` and
  `createContact`'s failures after `NewContact` do not save either.
-/

namespace Catshadow

variable {c c' : Client}

/-! ### Loading what `marshal` lists -/

section Load

variable {κ : Type} [DecidableEq κ] (key : Contact → κ)

/-- A key of an index `New` builds leads to a contact of the list with that key. -/
theorem map_lookup_loadIndex {l : List Contact} (hl : (l.map key).Nodup) (x : κ) (k : Contact) :
    ((loadIndex key 0 l ∅).lookup x).map (fun i => l.getD i default) = some k ↔
      k ∈ l ∧ key k = x := by
  constructor
  · intro h
    obtain ⟨i, hi, rfl⟩ := Option.map_eq_some'.mp h
    obtain ⟨hlt, hkey⟩ := loadIndex_eq_some key hl hi
    have hget : l.getD i default = l[i] := by simp [hlt]
    rw [hget]
    exact ⟨List.getElem_mem hlt, hkey⟩
  · rintro ⟨hk, rfl⟩
    obtain ⟨i, hlt, rfl⟩ := List.getElem_of_mem hk
    rw [lookup_loadIndex_getElem key hl hlt]
    simp [hlt]

end Load

namespace ContactIndex

variable (h : ContactIndex c)
include h

/-- `contacts[k]` is the contact `marshal` lists with the id `k`. -/
theorem map_lookup_contacts (k : UInt64) (ct : Contact) :
    (c.contacts.lookup k).map c.heap = some ct ↔ ct ∈ c.contactList ∧ ct.id = k := by
  simp only [Client.contactList, List.mem_map, Option.map_eq_some']
  constructor
  · rintro ⟨p, hp, rfl⟩
    exact ⟨⟨⟨k, p⟩, AList.mem_lookup_iff.mp hp, rfl⟩, (h.contacts_key k p hp).2.1⟩
  · rintro ⟨⟨e, he, rfl⟩, rfl⟩
    have hl := AList.mem_lookup_iff.mpr he
    exact ⟨e.2, (h.contacts_key e.1 e.2 hl).2.1 ▸ hl, rfl⟩

/-- `contactNicknames[n]` is the contact `marshal` lists with the nickname `n`. -/
theorem map_lookup_nicknames (n : String) (ct : Contact) :
    (c.contactNicknames.lookup n).map c.heap = some ct ↔ ct ∈ c.contactList ∧ ct.Nickname = n := by
  simp only [Client.contactList, List.mem_map, Option.map_eq_some']
  constructor
  · rintro ⟨p, hp, rfl⟩
    obtain ⟨hn, hid⟩ := h.nicknames_key n p hp
    exact ⟨⟨⟨_, p⟩, AList.mem_lookup_iff.mp hid, rfl⟩, hn⟩
  · rintro ⟨⟨e, he, rfl⟩, rfl⟩
    exact ⟨e.2, (h.contacts_key e.1 e.2 (AList.mem_lookup_iff.mpr he)).2.2, rfl⟩

/-- The contacts `marshal` lists have distinct ids: the keys of `contacts`. -/
theorem nodup_ids : (c.contactList.map (·.id)).Nodup := by
  have hids : c.contactList.map (·.id) = c.contacts.keys := by
    simp only [Client.contactList, List.map_map, AList.keys, List.keys]
    exact List.map_congr_left fun e he => (h.contacts_key e.1 e.2 (AList.mem_lookup_iff.mpr he)).2.1
  exact hids ▸ c.contacts.keys_nodup

/-- The contacts `marshal` lists have distinct nicknames. -/
theorem nodup_nicknames : (c.contactList.map (·.Nickname)).Nodup := by
  rw [Client.contactList, List.map_map]
  refine List.Nodup.map_on (fun e₁ he₁ e₂ he₂ heq => ?_) c.contacts.nodupKeys.nodup
  have h₁ := h.contacts_key e₁.1 e₁.2 (AList.mem_lookup_iff.mpr he₁)
  have h₂ := h.contacts_key e₂.1 e₂.2 (AList.mem_lookup_iff.mpr he₂)
  have hn : (c.heap e₁.2).Nickname = (c.heap e₂.2).Nickname := heq
  have hp : e₁.2 = e₂.2 := Option.some.inj (h₁.2.2.symm.trans (hn ▸ h₂.2.2))
  exact Sigma.ext (h₁.2.1.symm.trans (hp ▸ h₂.2.1)) (heq_of_eq hp)

end ContactIndex

/-- **Loading what `marshal` builds.** When the two indexes agree, `marshal` returns, and
`New` on its `State` has under every id and every nickname the contact the client has
there, and the client's conversations, read descriptor, user and link key. -/
theorem New_marshal (hi : ContactIndex c) (hc : c.conversationsLocked = false) (prov : String) :
    ∃ st c₁, c.marshal = .ok (st, c₁) ∧
      (∀ k, ((New st prov).contacts.lookup k).map (New st prov).heap =
        (c.contacts.lookup k).map c.heap) ∧
      (∀ n, ((New st prov).contactNicknames.lookup n).map (New st prov).heap =
        (c.contactNicknames.lookup n).map c.heap) ∧
      (New st prov).conversations = c.conversations ∧
      (New st prov).spoolReadDescriptor = c.spoolReadDescriptor ∧
      (New st prov).user = c.user ∧ (New st prov).linkKey = c.linkKey :=
  ⟨c.snapshot, c, Client.marshal_of_unlocked hc,
    fun k => Option.ext fun ct => (map_lookup_loadIndex _ hi.nodup_ids k ct).trans
      (hi.map_lookup_contacts k ct).symm,
    fun n => Option.ext fun ct => (map_lookup_loadIndex _ hi.nodup_nicknames n ct).trans
      (hi.map_lookup_nicknames n ct).symm,
    rfl, rfl, rfl, rfl⟩

theorem aliceLoaded_New_marshal :
    ContactIndex (New aliceState "provider") ∧ (New aliceState "provider").conversationsLocked = false ∧
    ∃ st c₁, (New aliceState "provider").marshal = .ok (st, c₁) ∧
      (∀ k, ((New st "provider").contacts.lookup k).map (New st "provider").heap =
        ((New aliceState "provider").contacts.lookup k).map (New aliceState "provider").heap) ∧
      (∀ n, ((New st "provider").contactNicknames.lookup n).map (New st "provider").heap =
        ((New aliceState "provider").contactNicknames.lookup n).map (New aliceState "provider").heap) ∧
      (New st "provider").conversations = (New aliceState "provider").conversations ∧
      (New st "provider").spoolReadDescriptor = (New aliceState "provider").spoolReadDescriptor ∧
      (New st "provider").user = (New aliceState "provider").user ∧
      (New st "provider").linkKey = (New aliceState "provider").linkKey :=
  have hi : ContactIndex (New aliceState "provider") :=
    ContactIndex.load ⟨by decide, by decide, by decide⟩ "provider"
  ⟨hi, rfl, New_marshal hi rfl "provider"⟩

/-! ### Paths that do not save -/

/-- The state the last `save` wrote is the snapshot of the client as it is. -/
def Persisted (c : Client) : Prop := c.saved = some c.snapshot

instance (c : Client) : Decidable (Persisted c) :=
  inferInstanceAs (Decidable (c.saved = some c.snapshot))

/-- `handleReply` saves only while it holds the mutex, which deadlocks: a call that
returns has not saved. -/
theorem handleReply_saved {ev : MessageReplyEvent} {a : Answers} (hc : c.conversationsLocked = false)
    (h : c.handleReply ev a = .ok c') : c'.saved = c.saved := by
  rcases Client.handleReply_ok hc h with rfl | ⟨err, -, rfl⟩ | rfl | ⟨n, id, rfl⟩ |
    ⟨e, r, d, c₁, -, -, -, -, -, -, hdm, rfl⟩
  · rfl
  · rfl
  · rfl
  · rfl
  rcases Client.decryptMessage_ok (by exact hc) hdm with ⟨-, rfl⟩ | ⟨-, p, pt, body, -, -, rfl⟩
  · rfl
  · rfl

/-- A persisted client saved its own read descriptor. -/
theorem Persisted.spoolReadDescriptor (h : Persisted c) :
    c.saved.map State.SpoolReadDescriptor = some c.spoolReadDescriptor := by
  rw [h]; rfl

theorem SpoolReadDescriptor.IncrementOffset_ne (d : SpoolReadDescriptor) : d.IncrementOffset ≠ d :=
  fun h => by
    have hoff : d.ReadOffset + 1 = d.ReadOffset := congrArg SpoolReadDescriptor.ReadOffset h
    have := congrArg UInt32.toBitVec hoff
    simp only [UInt32.add_def, UInt32.toBitVec_ofNat] at this
    bv_omega

/-- Reading the tip of the spool leaves a persisted client unpersisted: the offset moved
and nothing was saved. -/
theorem ReadsTip.not_persisted (hc : c.conversationsLocked = false) (hp : Persisted c)
    (ht : ReadsTip c c') : ¬ Persisted c' := fun hp' => by
  obtain ⟨ev, a, e, r, d, p, pt, body, hrep, -, -, -, -, hd, -, hd', -⟩ := ht
  have hsrd := hp'.spoolReadDescriptor
  rw [handleReply_saved hc hrep, hp.spoolReadDescriptor, hd, hd'] at hsrd
  exact SpoolReadDescriptor.IncrementOffset_ne d (Option.some.inj (Option.some.inj hsrd)).symm

/-- `greeted` once `alice` has asked for slot 5 of her spool, under `transportID`. -/
def readRequested : Client := greeted.next limits accepting .readInboxTick

theorem readRequested_reachable : Reachable limits aliceState "provider" readRequested :=
  greeted_reachable.tail (Step.next (by decide))

/-- The spool's answer for slot 5. -/
def tipReply : MessageReplyEvent := ⟨⟨0, transportID⟩, .ok ⟨5, "OK", []⟩⟩

/-- `alice`'s last save was her state; she reads slot 5, `bob`'s message, and her read
offset and conversations move on while the saved state stays where it was. -/
theorem read_tip_unsaved :
    Reachable limits aliceState "provider" readRequested ∧ Persisted readRequested ∧
      ∃ c', step limits readRequested decrypting (.messageReply tipReply) = .ok c' ∧
        c'.spoolReadDescriptor ≠ readRequested.spoolReadDescriptor ∧ ¬ Persisted c' :=
  have hok : (step limits readRequested decrypting (.messageReply tipReply)).isOk := by decide
  have htip : ReadsTip readRequested (readRequested.next limits decrypting (.messageReply tipReply)) :=
    ReadsTip.of_handleReply (e := ⟨⟨"alice", sequenceID 5⟩, .readInbox⟩) (r := ⟨5, "OK", []⟩)
      (d := ⟨[], [], "alice", "provider", 5⟩) readRequested_reachable.unlocked (by decide) rfl rfl rfl rfl
      rfl (show readRequested.handleReply tipReply decrypting = _ from step_eq_next hok)
  ⟨readRequested_reachable, rfl, _, step_eq_next hok, by decide,
    htip.not_persisted readRequested_reachable.unlocked rfl⟩

end Catshadow
