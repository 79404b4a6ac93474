import Catshadow.Properties.ContactIndex

/-!
# Contacts, cancel channels, and what a step saves

`createContact` makes a cancel channel for each contact it adds, and the contact's PANDA
goroutine exits once the channel is closed. `doContactRemoval` closes the channel of a
pending contact it removes, `haltKeyExchanges` the channels of all pending contacts, and
Go panics on closing a channel twice.

`Step.contactEffect` says once what a step does to the contacts and their channels
(`ContactEffect`) and to the state last saved (`Saves`): only an add makes a channel, only a
removal closes one, a kept contact may only drop its channel or become established
(`CellStep`), and a step keeps the saved state or has just saved the state it ends in.

## What is proved

* `established_stays`: along every run, a contact once established is never made pending
  again.
* `ChanSafe`: the channel of every indexed contact was made, is open, and is no other
  indexed contact's. Every step keeps it (`ChanSafe.step`), and it holds in every state a
  run reaches from a saved state whose contacts have distinct ids, nicknames and channels
  (`chanSafe_of_reachable`).
* `doContactRemoval_safe`: in such a state removing any nickname returns; the nickname is
  gone, and the channel of a pending contact is closed.
* `haltKeyExchanges_safe`: in such a state `haltKeyExchanges` returns, having closed
  exactly the channels of the pending indexed contacts, each once, and changed nothing else.

## Honest scope

`contact.go` is not in the source. The model keeps a contact's channel in the state it
saves, and `New` numbers new channels after the largest one loaded.
-/

namespace Catshadow

variable {L : Limits} {c c' : Client}

/-! ### What a step does to the contacts and to the saved state -/

theorem NewContact_chan {n : String} {id : UInt64} {s : Except String Bytes} {ch : Chan}
    {k : Contact} (h : NewContact n id s ch = .ok k) : k.pandaShutdownChan = some ch := by
  unfold NewContact at h
  split at h <;> simp at h
  subst h; rfl

/-- What a step may do to a contact it keeps in its heap cell: keep or drop its cancel
channel, and keep it pending or establish it. -/
structure CellStep (k k' : Contact) : Prop where
  chan : k'.pandaShutdownChan = k.pandaShutdownChan ∨ k'.pandaShutdownChan = none
  pending : k'.IsPending = k.IsPending ∨ k'.IsPending = false

theorem CellStep.refl (k : Contact) : CellStep k k := ⟨.inl rfl, .inl rfl⟩

theorem CellStep.chan_some {k k' : Contact} {ch : Chan} (h : CellStep k k')
    (h' : k'.pandaShutdownChan = some ch) : k.pandaShutdownChan = some ch := by
  rcases h.chan with hc | hc <;> rw [hc] at h'
  · exact h'
  · cases h'

/-- What a step does to the contacts and their cancel channels. -/
inductive ContactEffect (c c' : Client) : Prop
  /-- No channel is made or closed and the contacts stay; each cell may drop its channel
  or become established. -/
  | keep (hchans : c'.chans = c.chans) (hclosed : c'.closed = c.closed)
      (hcon : c'.contacts = c.contacts) (hcell : ∀ q, CellStep (c.heap q) (c'.heap q))
  /-- `createContact` makes the channel `chans` for the contact it puts at the next heap
  cell, under the fresh id `id`, and leaves every other cell. -/
  | add (id : UInt64) (hfresh : id ∉ c.contacts) (hchans : c'.chans = c.chans + 1)
      (hclosed : c'.closed = c.closed) (hcon : c'.contacts = c.contacts.insert id c.nextPtr)
      (hnew : (c'.heap c.nextPtr).pandaShutdownChan = some c.chans)
      (hcell : ∀ q, q ≠ c.nextPtr → c'.heap q = c.heap q)
  /-- `doContactRemoval` drops the contact at `p`, known as `n`, and may close its channel. -/
  | remove (n : String) (p : Ptr) (hp : c.contactNicknames.lookup n = some p)
      (hchans : c'.chans = c.chans) (hcon : c'.contacts = c.contacts.erase (c.heap p).id)
      (hheap : c'.heap = c.heap)
      (hclosed : c'.closed = c.closed ∨
        ∃ ch, (c.heap p).pandaShutdownChan = some ch ∧ c'.closed = ch :: c.closed)

/-- The step keeps the state last saved, or has just saved the state it ends in. -/
def Saves (c c' : Client) : Prop := c'.saved = c.saved ∨ c'.saved = some c'.snapshot

namespace ContactEffect

/-- A step that leaves the channels, the contacts and the saved state. -/
theorem of_eq (hchans : c'.chans = c.chans) (hclosed : c'.closed = c.closed)
    (hcon : c'.contacts = c.contacts) (hheap : c'.heap = c.heap) (hsaved : c'.saved = c.saved) :
    ContactEffect c c' ∧ Saves c c' :=
  ⟨.keep hchans hclosed hcon fun _ => hheap ▸ .refl _, .inl hsaved⟩

theorem emit (h : ContactEffect c c') (e : Event) : ContactEffect c (c'.emit e) := by
  cases h with
  | keep h₁ h₂ h₃ h₄ => exact .keep h₁ h₂ h₃ h₄
  | add id h₁ h₂ h₃ h₄ h₅ h₆ => exact .add id h₁ h₂ h₃ h₄ h₅ h₆
  | remove n p h₁ h₂ h₃ h₄ h₅ => exact .remove n p h₁ h₂ h₃ h₄ h₅

variable {a : Answers}

theorem of_addContact {n : String} {secret : Bytes}
    (h : step L c a (.addContact n secret) = .ok c') : ContactEffect c c' ∧ Saves c c' := by
  obtain ⟨⟨err, c₁⟩, h₁, h₂⟩ := bind_eq_ok.mp h
  have hc₁ : ContactEffect c c₁ ∧ Saves c c₁ := by
    rcases Client.createContact_ok h₁ with rfl | ⟨id, k, -, hid, hk, rfl | ⟨kx, rfl⟩⟩
    · exact of_eq rfl rfl rfl rfl rfl
    all_goals
      obtain ⟨rfl, -, -⟩ := NewContact_ok hk
      refine ⟨.add k.id (Client.randID_ok hid).2 rfl rfl rfl ?_ fun q hq => ?_, ?_⟩
    · simp [Client.addContact, NewContact_chan hk]
    · simp [Client.addContact, Function.update_noteq hq]
    · exact .inl rfl
    · simp [Client.addContact, Client.modifyContact, Client.spawn, Client.persisted,
        NewContact_chan hk]
    · simp [Client.addContact, Client.modifyContact, Client.spawn, Client.persisted,
        Function.update_noteq hq]
    · exact .inr rfl
  cases err <;> simp only [pure_eq_ok, Except.ok.injEq] at h₂ <;> subst h₂
  · exact hc₁
  · exact ⟨hc₁.1.emit _, hc₁.2⟩

theorem of_doSendMessage {id : MessageID} {n : String} {m : Bytes}
    (hc : c.conversationsLocked = false) (h : c.doSendMessage L id n m a = .ok c') :
    ContactEffect c c' ∧ Saves c c' := by
  rcases Client.doSendMessage_ok hc h with rfl | ⟨p, c₂, -, -, hst, hsub⟩
  · exact of_eq rfl rfl rfl rfl rfl
  obtain ⟨m₂, rfl, -⟩ := hst
  rcases Client.submit_ok hsub with rfl | ⟨t, -, -, rfl⟩
  · exact of_eq rfl rfl rfl rfl rfl
  · refine ⟨.keep rfl rfl rfl fun q => ?_, .inr rfl⟩
    dsimp only [Client.store, Client.persisted, Client.modifyContact, Client.modifyConversations]
    rw [Function.update_apply]
    split_ifs with hqp
    · subst hqp; exact ⟨.inl rfl, .inl rfl⟩
    · exact .refl _

theorem of_handleReply {ev : MessageReplyEvent} (hc : c.conversationsLocked = false)
    (h : c.handleReply ev a = .ok c') : ContactEffect c c' ∧ Saves c c' := by
  rcases Client.handleReply_ok hc h with rfl | ⟨err, -, rfl⟩ | rfl | ⟨n, id, rfl⟩ |
    ⟨e, r, d, c₁, -, -, -, -, -, -, hdm, rfl⟩
  · exact of_eq rfl rfl rfl rfl rfl
  · exact of_eq rfl rfl rfl rfl rfl
  · exact of_eq rfl rfl rfl rfl rfl
  · exact of_eq rfl rfl rfl rfl rfl
  rcases Client.decryptMessage_ok (by exact hc) hdm with ⟨h, -⟩ | ⟨-, p, pt, body, -, -, rfl⟩
  · cases h
  · exact of_eq rfl rfl rfl rfl rfl

theorem of_processPANDAUpdate {t : KxTask} {u : PandaUpdate}
    (h : (c.report t u).processPANDAUpdate u a = .ok c') : ContactEffect c c' ∧ Saves c c' := by
  obtain ⟨ts, hr⟩ := Client.report_eq c t u
  rw [hr] at h
  rcases Client.processPANDAUpdate_eq h with
    rfl | ⟨p, k, ts', evs, s, -, rfl, -, hk, hs, hpend⟩
  · exact of_eq rfl rfl rfl rfl rfl
  · refine ⟨.keep rfl rfl rfl fun q => ?_, hs⟩
    dsimp only
    rw [Function.update_apply]
    split_ifs with hqp
    · subst hqp; exact ⟨hk, hpend⟩
    · exact .refl _

end ContactEffect

/-- **What a step does to the channels and the saved state.** -/
theorem Step.contactEffect (hs : Step L c c') (hc : c.conversationsLocked = false) :
    ContactEffect c c' ∧ Saves c c' := by
  cases hs with
  | loop i a h =>
    cases i with
    | addContact n secret => exact ContactEffect.of_addContact h
    | removeContact n =>
      rcases Client.doContactRemoval_eq h with rfl | ⟨p, closed, hp, hcl, rfl⟩
      · exact ContactEffect.of_eq rfl rfl rfl rfl rfl
      · exact ⟨.remove n p hp rfl rfl rfl hcl, .inr rfl⟩
    | sendMessage id n m => exact ContactEffect.of_doSendMessage hc h
    | messageSent ev =>
      rcases Client.handleSent_ok hc h with rfl | ⟨n, id, -, rfl⟩ <;>
        exact ContactEffect.of_eq rfl rfl rfl rfl rfl
    | messageReply ev => exact ContactEffect.of_handleReply hc h
    | garbageCollected ev =>
      obtain rfl := (Except.ok.inj h).symm
      exact ContactEffect.of_eq rfl rfl rfl rfl rfl
    | readInboxTick =>
      rcases Client.sendReadInbox_ok h with rfl | ⟨err, -, rfl⟩ | ⟨d, t, -, rfl⟩ <;>
        exact ContactEffect.of_eq rfl rfl rfl rfl rfl
    | gcTick =>
      obtain rfl := Client.garbageCollectConversations_ok hc h
      exact ContactEffect.of_eq rfl rfl rfl rfl rfl
  | panda t u a _ _ h => exact ContactEffect.of_processPANDAUpdate h
  | cancelled t _ _ _ _ => exact ContactEffect.of_eq rfl rfl rfl rfl rfl

/-- `Start` collects the conversations and starts goroutines: it changes nothing else, and
does not save. -/
theorem Start_keeps {a : Answers} (hc : c.conversationsLocked = false) (h : Start L c a = .ok c') :
    ∃ convs ts, c' = { c with conversations := convs, kxTasks := ts } := by
  obtain ⟨c₁, ts, h₁, rfl⟩ := Start_ok h
  obtain rfl := Client.garbageCollectConversations_ok hc h₁
  exact ⟨_, _, rfl⟩

/-! ### Established contacts stay established -/

/-- A cell other than the one a step adds is pending after the step only if it was before. -/
theorem ContactEffect.pending (he : ContactEffect c c') {q : Ptr} (hq : q ≠ c.nextPtr)
    (h : (c'.heap q).IsPending = true) : (c.heap q).IsPending = true := by
  cases he with
  | keep _ _ _ hcell =>
    rcases (hcell q).pending with hp | hp <;> rw [hp] at h
    · exact h
    · cases h
  | add _ _ _ _ _ _ hcell => rwa [hcell q hq] at h
  | remove _ _ _ _ _ hheap _ => rwa [hheap] at h

/-- **An established contact stays established.** Along every run on from a reachable
state, a heap cell that holds an established contact is never made pending again:
`IsPending` only goes from `true` to `false`. -/
theorem established_stays {s : State} {prov : String} (hr : Reachable L s prov c)
    (hrun : Relation.ReflTransGen (Step L) c c') {q : Ptr} (hq : q < c.nextPtr)
    (hest : (c.heap q).IsPending = false) : (c'.heap q).IsPending = false := by
  suffices h : q < c'.nextPtr ∧ (c'.heap q).IsPending = false from h.2
  induction hrun with
  | refl => exact ⟨hq, hest⟩
  | @tail b d hab hbc ih =>
    obtain ⟨hqb, hestb⟩ := ih
    have hcb := (hr.trans hab).unlocked
    refine ⟨lt_of_lt_of_le hqb (hbc.effect hcb).2.nextPtr_le, ?_⟩
    cases hp : (d.heap q).IsPending
    · rfl
    · have hpb := (hbc.contactEffect hcb).1.pending (Nat.ne_of_lt hqb) hp
      rw [hestb] at hpb
      cases hpb

theorem bob_stays_established :
    Reachable limits aliceState "provider" aliceStarted ∧
      Relation.ReflTransGen (Step limits) aliceStarted greeted ∧ 0 < aliceStarted.nextPtr ∧
      (aliceStarted.heap 0).IsPending = false ∧ (greeted.heap 0).IsPending = false :=
  ⟨aliceStarted_reachable, .single (Step.next (by decide)), by decide, by decide,
    established_stays aliceStarted_reachable (.single (Step.next (by decide))) (by decide)
      (by decide)⟩

/-! ### Safe channels -/

/-- The channel of every indexed contact was made, is open, and is no other indexed
contact's; every closed channel was made. -/
structure ChanSafe (c : Client) : Prop where
  closed_lt : ∀ ch ∈ c.closed, ch < c.chans
  chan_lt : ∀ k p ch, c.contacts.lookup k = some p → (c.heap p).pandaShutdownChan = some ch →
    ch < c.chans
  chan_open : ∀ k p ch, c.contacts.lookup k = some p → (c.heap p).pandaShutdownChan = some ch →
    ch ∉ c.closed
  chan_inj : ∀ k k' p p' ch, c.contacts.lookup k = some p → c.contacts.lookup k' = some p' →
    (c.heap p).pandaShutdownChan = some ch → (c.heap p').pandaShutdownChan = some ch → p = p'

/-- No two contacts of a saved state share a channel. -/
def State.ChansDistinct (s : State) : Prop :=
  ∀ k ∈ s.Contacts, ∀ k' ∈ s.Contacts, ∀ ch,
    k.pandaShutdownChan = some ch → k'.pandaShutdownChan = some ch → k = k'

namespace ChanSafe

theorem keep (h : ChanSafe c) (hchans : c'.chans = c.chans) (hclosed : c'.closed = c.closed)
    (hcon : c'.contacts = c.contacts)
    (hchan : ∀ q ch, (c'.heap q).pandaShutdownChan = some ch → (c.heap q).pandaShutdownChan = some ch) :
    ChanSafe c' := by
  refine ⟨fun ch hch => ?_, fun k p ch hk hp => ?_, fun k p ch hk hp => ?_,
    fun k k' p p' ch hk hk' hp hp' => ?_⟩
  · rw [hchans]; exact h.closed_lt ch (hclosed ▸ hch)
  · rw [hchans]; exact h.chan_lt k p ch (hcon ▸ hk) (hchan p ch hp)
  · rw [hclosed]; exact h.chan_open k p ch (hcon ▸ hk) (hchan p ch hp)
  · exact h.chan_inj k k' p p' ch (hcon ▸ hk) (hcon ▸ hk') (hchan p ch hp) (hchan p' ch hp')

/-- `createContact`'s new channel is fresh, so it is open and no one else's. -/
theorem add (hi : ContactIndex c) (h : ChanSafe c) {id : UInt64}
    (hchans : c'.chans = c.chans + 1) (hclosed : c'.closed = c.closed)
    (hcon : c'.contacts = c.contacts.insert id c.nextPtr)
    (hnew : (c'.heap c.nextPtr).pandaShutdownChan = some c.chans)
    (hcell : ∀ q, q ≠ c.nextPtr → c'.heap q = c.heap q) :
    ChanSafe c' := by
  -- an indexed contact of `c'` is the new one, or one of `c`'s, below the new cell
  have hcases : ∀ k p ch, c'.contacts.lookup k = some p → (c'.heap p).pandaShutdownChan = some ch →
      (p = c.nextPtr ∧ ch = c.chans) ∨
        (c.contacts.lookup k = some p ∧ (c.heap p).pandaShutdownChan = some ch ∧ ch < c.chans) := by
    intro k p ch hk hp
    rw [hcon] at hk
    by_cases hkid : k = id
    · subst hkid
      rw [AList.lookup_insert, Option.some.injEq] at hk
      subst hk
      exact .inl ⟨rfl, Option.some.inj (hp.symm.trans hnew)⟩
    · rw [AList.lookup_insert_ne hkid] at hk
      have hp' := hcell p (hi.lt_nextPtr k p hk).ne ▸ hp
      exact .inr ⟨hk, hp', h.chan_lt k p ch hk hp'⟩
  refine ⟨fun ch hch => ?_, fun k p ch hk hp => ?_, fun k p ch hk hp => ?_,
    fun k k' p p' ch hk hk' hp hp' => ?_⟩
  · rw [hchans]; exact (h.closed_lt ch (hclosed ▸ hch)).trans (Nat.lt_succ_self _)
  · rw [hchans]
    rcases hcases k p ch hk hp with ⟨-, rfl⟩ | ⟨-, -, hlt⟩
    · exact Nat.lt_succ_self _
    · exact Nat.lt_succ_of_lt hlt
  · rw [hclosed]
    rcases hcases k p ch hk hp with ⟨-, rfl⟩ | ⟨hk, hp, -⟩
    · exact fun hcl => (h.closed_lt _ hcl).false
    · exact h.chan_open k p ch hk hp
  · rcases hcases k p ch hk hp with ⟨hpn, hchn⟩ | ⟨hk, hp, hlt⟩ <;>
      rcases hcases k' p' ch hk' hp' with ⟨hpn', hchn'⟩ | ⟨hk', hp', hlt'⟩
    · exact hpn.trans hpn'.symm
    · subst hchn; exact absurd hlt' (lt_irrefl _)
    · subst hchn'; exact absurd hlt (lt_irrefl _)
    · exact h.chan_inj k k' p p' ch hk hk' hp hp'

/-- `doContactRemoval` closes at most the channel of the contact it drops, which no
remaining contact shares. -/
theorem remove (hi : ContactIndex c) (h : ChanSafe c) {n : String} {p : Ptr}
    (hp : c.contactNicknames.lookup n = some p) (hchans : c'.chans = c.chans)
    (hcon : c'.contacts = c.contacts.erase (c.heap p).id) (hheap : c'.heap = c.heap)
    (hclosed : c'.closed = c.closed ∨
      ∃ ch, (c.heap p).pandaShutdownChan = some ch ∧ c'.closed = ch :: c.closed) :
    ChanSafe c' := by
  have hpk := (hi.nicknames_key n p hp).2
  -- a contact indexed in `c'` is indexed in `c`, under another id than the dropped one
  have hold : ∀ k q, c'.contacts.lookup k = some q → k ≠ (c.heap p).id ∧ c.contacts.lookup k = some q := by
    intro k q hk
    rw [hcon] at hk
    by_cases hkp : k = (c.heap p).id
    · subst hkp; rw [AList.lookup_erase] at hk; cases hk
    · exact ⟨hkp, by rwa [AList.lookup_erase_ne hkp] at hk⟩
  refine ⟨fun ch hch => ?_, fun k q ch hk hq => ?_, fun k q ch hk hq => ?_,
    fun k k' q q' ch hk hk' hq hq' => ?_⟩
  · rw [hchans]
    rcases hclosed with hcl | ⟨ch', hch', hcl⟩ <;> rw [hcl] at hch
    · exact h.closed_lt ch hch
    · rcases List.mem_cons.mp hch with rfl | hch
      · exact h.chan_lt _ p ch hpk hch'
      · exact h.closed_lt ch hch
  · rw [hchans]; exact h.chan_lt k q ch (hold k q hk).2 (hheap ▸ hq)
  · obtain ⟨hkp, hk⟩ := hold k q hk
    rw [hheap] at hq
    rcases hclosed with hcl | ⟨ch', hch', hcl⟩ <;> rw [hcl]
    · exact h.chan_open k q ch hk hq
    · intro hmem
      rcases List.mem_cons.mp hmem with rfl | hmem
      · obtain rfl := h.chan_inj k _ q p ch hk hpk hq hch'
        exact hkp (hi.contacts_key k q hk).2.1.symm
      · exact h.chan_open k q ch hk hq hmem
  · rw [hheap] at hq hq'
    exact h.chan_inj k k' q q' ch (hold k q hk).2 (hold k' q' hk').2 hq hq'

theorem step (hi : ContactIndex c) (h : ChanSafe c) (he : ContactEffect c c') : ChanSafe c' := by
  cases he with
  | keep hchans hclosed hcon hcell =>
    exact h.keep hchans hclosed hcon fun q _ hq => (hcell q).chan_some hq
  | add id _ hchans hclosed hcon hnew hcell => exact h.add hi hchans hclosed hcon hnew hcell
  | remove n p hp hchans hcon hheap hclosed => exact h.remove hi hp hchans hcon hheap hclosed

theorem le_foldr_max : ∀ {l : List Nat} {x : Nat}, x ∈ l → x ≤ l.foldr max 0
  | y :: l, x, h => by
    rcases List.mem_cons.mp h with rfl | h
    · exact le_max_left _ _
    · exact (le_foldr_max h).trans (le_max_right _ _)

/-- `New` makes channels after the largest one loaded, and closes none. -/
theorem load {s : State} (hs : s.WellKeyed) (hch : s.ChansDistinct) (prov : String) :
    ChanSafe (New s prov) := by
  -- an indexed contact of `New` is the saved contact at its heap cell
  have hcell : ∀ k p, (New s prov).contacts.lookup k = some p →
      ∃ hp : p < s.Contacts.length, (New s prov).heap p = s.Contacts[p] := by
    intro k p hk
    obtain ⟨hp, -⟩ := loadIndex_eq_some _ hs.ids_nodup hk
    exact ⟨hp, by simp [New, hp]⟩
  refine ⟨fun ch hch => (nomatch hch), fun k p ch hk hp => ?_, fun _ _ _ _ _ hcl => (nomatch hcl),
    fun k k' p p' ch hk hk' hp hp' => ?_⟩
  · obtain ⟨hlt, hheap⟩ := hcell k p hk
    rw [hheap] at hp
    exact Nat.lt_succ_of_le (le_foldr_max (List.mem_filterMap.mpr ⟨_, List.getElem_mem hlt, hp⟩))
  · obtain ⟨hlt, hheap⟩ := hcell k p hk
    obtain ⟨hlt', hheap'⟩ := hcell k' p' hk'
    rw [hheap] at hp
    rw [hheap'] at hp'
    have heq := hch _ (List.getElem_mem hlt) _ (List.getElem_mem hlt') ch hp hp'
    exact ((List.Nodup.of_map _ hs.ids_nodup).getElem_inj_iff).mp heq

theorem start {s : State} {prov : String} {a : Answers} {c₀ : Client} (hs : s.WellKeyed)
    (hch : s.ChansDistinct) (h₀ : Start L (New s prov) a = .ok c₀) : ChanSafe c₀ := by
  obtain ⟨_, _, rfl⟩ := Start_keeps rfl h₀
  exact (load hs hch prov).keep rfl rfl rfl fun _ _ h => h

end ChanSafe

/-- **The channels stay safe.** In every state a run reaches from a saved state whose
contacts have distinct ids, nicknames and channels, the indexes agree and the channels are
safe. -/
theorem chanSafe_of_reachable {s : State} {prov : String} (hs : s.WellKeyed)
    (hch : s.ChansDistinct) (hr : Reachable L s prov c) : ContactIndex c ∧ ChanSafe c :=
  (hr.induction_step (P := fun c => ContactIndex c ∧ ChanSafe c)
    (fun _ _ h₀ => ⟨ContactIndex.start hs h₀, ChanSafe.start hs hch h₀⟩)
    fun _ _ hc hP hst => ⟨hP.1.step (hst.effect hc).2, hP.2.step hP.1 (hst.contactEffect hc).1⟩).1

/-! ### Removing a contact, and halting the exchanges -/

/-- The channel the loop of `haltKeyExchanges` closes at an entry of `contacts`: that of a
pending contact. -/
def haltChan (heap : Ptr → Contact) (e : (_ : UInt64) × Ptr) : Option Chan :=
  if (heap e.2).IsPending then (heap e.2).pandaShutdownChan else none

theorem haltKeyExchange_eq (c : Client) (e : (_ : UInt64) × Ptr) :
    c.haltKeyExchange e = match haltChan c.heap e with
      | some ch => c.closeChan ch
      | none => pure c := by
  unfold Client.haltKeyExchange haltChan
  dsimp only
  cases (c.heap e.2).IsPending <;> cases (c.heap e.2).pandaShutdownChan <;> rfl

theorem haltChan_eq_some {heap : Ptr → Contact} {e : (_ : UInt64) × Ptr} {ch : Chan} :
    haltChan heap e = some ch ↔
      (heap e.2).IsPending = true ∧ (heap e.2).pandaShutdownChan = some ch := by
  unfold haltChan
  split <;> simp_all

/-- `doContactRemoval` of a known nickname runs the body of `haltKeyExchanges`' loop on the
contact, then drops it from both indexes and saves. -/
theorem doContactRemoval_haltKeyExchange {n : String} {p : Ptr} {a : Answers}
    (hl : c.contactNicknames.lookup n = some p) :
    c.doContactRemoval n a = (c.haltKeyExchange ⟨0, p⟩ >>= fun c₁ =>
      Client.save { c₁ with contactNicknames := c₁.contactNicknames.erase n,
                            contacts := c₁.contacts.erase (c.heap p).id } a) := by
  unfold Client.doContactRemoval Client.haltKeyExchange
  rw [hl]
  dsimp only
  cases (c.heap p).IsPending <;> cases (c.heap p).pandaShutdownChan <;> rfl

/-- With the indexes agreeing, the channels safe and a state writer that takes every state,
`doContactRemoval` returns for every nickname: the nickname is gone, and the channel of a
pending contact it named is closed. -/
theorem doContactRemoval_safe (hi : ContactIndex c) (h : ChanSafe c)
    (hc : c.conversationsLocked = false) {a : Answers} (hw : ∀ s, a.Writes s) (n : String) :
    ∃ c', c.doContactRemoval n a = .ok c' ∧ c'.contactNicknames.lookup n = none ∧
      ∀ p ch, c.contactNicknames.lookup n = some p → (c.heap p).IsPending = true →
        (c.heap p).pandaShutdownChan = some ch → ch ∈ c'.closed := by
  cases hl : c.contactNicknames.lookup n with
  | none => exact ⟨c, by simp [Client.doContactRemoval, hl], hl, fun _ _ h => nomatch h⟩
  | some p =>
    -- the channel it closes is open
    obtain ⟨cl, hcl, hmem⟩ : ∃ cl, c.haltKeyExchange ⟨0, p⟩ = .ok { c with closed := cl } ∧
        ∀ ch, haltChan c.heap ⟨0, p⟩ = some ch → ch ∈ cl := by
      rw [haltKeyExchange_eq]
      cases ht : haltChan c.heap ⟨0, p⟩ with
      | none => exact ⟨c.closed, rfl, fun _ h => nomatch h⟩
      | some ch =>
        have hopen := h.chan_open _ p ch (hi.nicknames_key n p hl).2 (haltChan_eq_some.mp ht).2
        exact ⟨ch :: c.closed, by simp [Client.closeChan, hopen],
          fun _ h => Option.some.inj h ▸ List.mem_cons_self _ _⟩
    rw [doContactRemoval_haltKeyExchange hl, hcl, ok_bind]
    exact ⟨_, Client.save_of_writes hc (hw _), AList.lookup_erase _ _, fun q ch hq hpend hch =>
      hmem ch (haltChan_eq_some.mpr (Option.some.inj hq ▸ ⟨hpend, hch⟩))⟩

theorem mem_haltChans {heap : Ptr → Contact} {m : GoMap UInt64 Ptr} {ch : Chan} :
    ch ∈ m.entries.filterMap (haltChan heap) ↔
      ∃ k p, m.lookup k = some p ∧ (heap p).IsPending = true ∧ (heap p).pandaShutdownChan = some ch := by
  simp only [List.mem_filterMap, Sigma.exists, ← AList.mem_lookup_iff, Option.mem_def,
    haltChan_eq_some]

/-- The loop of `haltKeyExchanges` closes the channels of the pending contacts in turn, when
none is closed already and none comes twice. -/
theorem foldlM_haltKeyExchange (c : Client) :
    ∀ (l : List ((_ : UInt64) × Ptr)) (cl : List Chan), (l.filterMap (haltChan c.heap)).Nodup →
      (∀ ch ∈ l.filterMap (haltChan c.heap), ch ∉ cl) →
      l.foldlM Client.haltKeyExchange { c with closed := cl } =
        .ok { c with closed := (l.filterMap (haltChan c.heap)).reverse ++ cl }
  | [], cl, _, _ => rfl
  | e :: l, cl, hnd, hopen => by
    rw [List.foldlM_cons, haltKeyExchange_eq]
    dsimp only
    cases he : haltChan c.heap e with
    | none =>
      rw [List.filterMap_cons_none he] at hnd hopen ⊢
      exact foldlM_haltKeyExchange c l cl hnd hopen
    | some ch =>
      rw [List.filterMap_cons_some he] at hnd hopen
      rw [List.filterMap_cons_some he, List.reverse_cons, List.append_assoc]
      obtain ⟨hfresh, hnd⟩ := List.nodup_cons.mp hnd
      simp only [Client.closeChan, if_neg (hopen ch (List.mem_cons_self _ _)), ok_bind]
      exact foldlM_haltKeyExchange c l (ch :: cl) hnd fun ch' hch' => List.not_mem_cons_of_ne_of_not_mem
        (fun h => hfresh (h ▸ hch')) (hopen ch' (List.mem_cons_of_mem _ hch'))

/-- With the indexes agreeing and the channels safe, `haltKeyExchanges` returns: it has
closed exactly the channels of the pending indexed contacts, each once, and changed nothing
else. -/
theorem haltKeyExchanges_safe (hi : ContactIndex c) (h : ChanSafe c) :
    ∃ cs, c.haltKeyExchanges = .ok { c with closed := cs ++ c.closed } ∧ cs.Nodup ∧
      ∀ ch, ch ∈ cs ↔ ∃ k p, c.contacts.lookup k = some p ∧ (c.heap p).IsPending = true ∧
        (c.heap p).pandaShutdownChan = some ch := by
  have hnd : (c.contacts.entries.filterMap (haltChan c.heap)).Nodup := by
    rw [← List.attach_map_subtype_val c.contacts.entries, List.filterMap_map]
    refine (List.nodup_attach.mpr c.contacts.nodupKeys.nodup).filterMap
      fun ⟨⟨k, p⟩, he⟩ ⟨⟨k', p'⟩, he'⟩ ch hch hch' => ?_
    have hk := AList.mem_lookup_iff.mpr he
    have hk' := AList.mem_lookup_iff.mpr he'
    obtain ⟨-, hch⟩ := haltChan_eq_some.mp hch
    obtain ⟨-, hch'⟩ := haltChan_eq_some.mp hch'
    obtain rfl := h.chan_inj k k' p p' ch hk hk' hch hch'
    obtain rfl : k = k' := (hi.contacts_key k p hk).2.1.symm.trans (hi.contacts_key k' p hk').2.1
    rfl
  refine ⟨_, foldlM_haltKeyExchange c _ c.closed hnd fun ch hch => ?_, List.nodup_reverse.mpr hnd,
    fun ch => List.mem_reverse.trans mem_haltChans⟩
  obtain ⟨k, p, hk, -, hp⟩ := mem_haltChans.mp hch
  exact h.chan_open k p ch hk hp

end Catshadow
