import Catshadow.Properties.Window
import Catshadow.Properties.Persistence
import Catshadow.Properties.ContactBook

/-!
# Restarts

`save` writes the client's state, and a client started again loads the state last written
with `New`. The invariants of the modules before hold over one run from a saved state that
has the properties they assume. Here those properties are collected as `State.Loadable`,
and every state the client saves is shown to have them. So the invariants hold over a
whole lifetime of runs and restarts.

## What is proved

* `InWindow.snapshot_loadable`: the state a sound client saves is loadable.
* `Sound`: the indexes agree, every count is within the window, no message is marked sent,
  delivered messages are clean, the channels are safe, and the state saved last is
  loadable. `Start` on a loadable state establishes it, and every step keeps it, since a
  step keeps the saved state or saves the state it ends in (`Step.contactEffect`).
* `Lifetime.sound`: it holds in every state of a lifetime that began with a loadable state,
  and so do its consequences: `lifetime_invariants`, `lifetime_removal_safe`,
  `lifetime_halt_safe`.
* `lifetime_removal_saved`: a removal is written at once; the state saved holds no contact
  of the removed nickname, so a restart does not bring it back.
* `lifetime_book_refines`: over runs and restarts, every step is one step of the contact
  book (`Catshadow.Properties.ContactBook`), a save writes the book, and a restart starts
  from the book saved; so an established contact stays established until it is dropped.
* `NewClientAndRemoteSpool_written`: a new client writes a loadable state, which loads back
  as the client returned. When the spool cannot be made, the state written has no read
  spool, and no step ever makes one (`noSpool_of_reachable`), so a client restarted from
  it panics at every read-inbox tick (`Lifetime.readInbox_panics`).

The results about a removal and about a new client that returns assume a state writer that
takes every state (`Answers.Writes`): `save` panics when `cbor.Marshal` or `writeState`
fails.

## Honest scope

The state worker that writes the file is not in the source. A restart loads `saved`, the
snapshot `save` wrote last. A crash before the first save restarts from the state loaded
before, which is again a run of the lifetime.
-/

namespace Catshadow

variable {L : Limits} {c c' : Client}

/-- What the invariants of a run need of the saved state `New` loads: distinct ids,
nicknames and channels, no message marked sent, clean delivered messages, and every count
within the window. -/
structure State.Loadable (L : Limits) (s : State) : Prop where
  wellKeyed : s.WellKeyed
  chansDistinct : s.ChansDistinct
  noneSent : NoneSent s.Conversations
  deliveredClean : DeliveredClean s.Conversations
  unACKed_le : ∀ k ∈ s.Contacts, (k.UnACKed : Int) ≤ (L.MaxMissingMessages : Int) - 1

/-- A contact `marshal` lists is the one an id of `contacts` points to. -/
theorem ContactIndex.mem_contactList (h : ContactIndex c) {k : Contact} (hk : k ∈ c.contactList) :
    ∃ p, c.contacts.lookup k.id = some p ∧ c.heap p = k := by
  obtain ⟨p, hp, hk⟩ := Option.map_eq_some'.mp ((h.map_lookup_contacts k.id k).mpr ⟨hk, rfl⟩)
  exact ⟨p, hp, hk⟩

/-- **What a client saves can be loaded again.** -/
theorem InWindow.snapshot_loadable (hw : InWindow L c) (hd : DeliveredClean c.conversations)
    (hch : ChanSafe c) : c.snapshot.Loadable L := by
  have hi := hw.index
  refine ⟨⟨hi.nodup_ids, hi.nodup_nicknames, fun k hk => ?_⟩, fun k hk k' hk' ch hc hc' => ?_,
    hw.noneSent, hd, fun k hk => ?_⟩
  · obtain ⟨p, hp, -⟩ := hi.mem_contactList hk
    exact (hi.contacts_key _ p hp).1
  · obtain ⟨p, hp, rfl⟩ := hi.mem_contactList hk
    obtain ⟨p', hp', rfl⟩ := hi.mem_contactList hk'
    rw [hch.chan_inj _ _ p p' ch hp hp' hc hc']
  · obtain ⟨p, -, rfl⟩ := hi.mem_contactList hk
    exact hw.unACKed_le p

/-! ### Sound states -/

/-- The invariants of a run, and a loadable last saved state. -/
structure Sound (L : Limits) (c : Client) : Prop where
  window : InWindow L c
  deliveredClean : DeliveredClean c.conversations
  chanSafe : ChanSafe c
  saved : ∀ st, c.saved = some st → st.Loadable L

section Sound

variable (hpos : 0 < L.MaxMissingMessages)
include hpos

theorem Sound.step (h : Sound L c) (hc : c.conversationsLocked = false) (hs : Step L c c') :
    Sound L c' := by
  have hw := h.window.step hpos hc hs
  have hd := h.deliveredClean.step (hs.convEffect hc)
  obtain ⟨he, hsv⟩ := hs.contactEffect hc
  have hch := h.chanSafe.step h.window.index he
  refine ⟨hw, hd, hch, fun st hst => ?_⟩
  rcases hsv with hsv | hsv <;> rw [hsv] at hst
  · exact h.saved st hst
  · exact Option.some.inj hst ▸ hw.snapshot_loadable hd hch

theorem Sound.start {s : State} {prov : String} {a : Answers} (hs : s.Loadable L)
    (h₀ : Start L (New s prov) a = .ok c) : Sound L c := by
  refine ⟨InWindow.start hpos hs.wellKeyed hs.noneSent hs.unACKed_le h₀,
    hs.deliveredClean.step (Start_convEffect rfl h₀), ChanSafe.start hs.wellKeyed hs.chansDistinct h₀,
    fun st hst => ?_⟩
  obtain ⟨_, _, rfl⟩ := Start_keeps rfl h₀
  cases hst

theorem sound_of_reachable {s : State} {prov : String} (hs : s.Loadable L)
    (hr : Reachable L s prov c) : Sound L c :=
  (hr.induction_step (fun _ _ h₀ => Sound.start hpos hs h₀) fun _ _ hc h hst => h.step hpos hc hst).1

end Sound

/-! ### Lifetimes -/

/-- The states of a client over its lifetime: those of a run from the state first loaded,
and, after any of them, those of a run from the state it saved last, which a restarted
client loads. -/
inductive Lifetime (L : Limits) (s : State) : Client → Prop
  /-- A run from the state first loaded. -/
  | run {prov : String} {c : Client} (hr : Reachable L s prov c) : Lifetime L s c
  /-- A restart from the state saved last, and a run from it. -/
  | restart {c : Client} {st : State} {prov : String} {c' : Client} (h : Lifetime L s c)
      (hst : c.saved = some st) (hr : Reachable L st prov c') : Lifetime L s c'

theorem Lifetime.unlocked {s : State} (h : Lifetime L s c) : c.conversationsLocked = false := by
  cases h with
  | run hr => exact hr.unlocked
  | restart _ _ hr => exact hr.unlocked

/-- A step from a state of a lifetime is a state of it. -/
theorem Lifetime.tail {s : State} (h : Lifetime L s c) (hs : Step L c c') : Lifetime L s c' := by
  cases h with
  | run hr => exact .run (hr.tail hs)
  | restart h hst hr => exact .restart h hst (hr.tail hs)

theorem Lifetime.trans {s : State} (h : Lifetime L s c) (hrun : Relation.ReflTransGen (Step L) c c') :
    Lifetime L s c' := by
  induction hrun with
  | refl => exact h
  | tail _ hs ih => exact ih.tail hs

/-- Every state of a lifetime that began with a loadable state is sound. -/
theorem Lifetime.sound (hpos : 0 < L.MaxMissingMessages) {s : State} (hs : s.Loadable L)
    (h : Lifetime L s c) : Sound L c := by
  induction h with
  | run hr => exact sound_of_reachable hpos hs hr
  | restart _ hst hr ih => exact sound_of_reachable hpos (ih.saved _ hst) hr

/-- The state `alice` first loads, with her one contact `bob`, is loadable. -/
theorem aliceState_loadable : aliceState.Loadable limits := by
  refine ⟨⟨by decide, by decide, by decide⟩, fun k hk k' _ ch hch _ => ?_, fun n id m hm => ?_,
    fun n id m hm => ?_, by decide⟩
  · simp only [aliceState, List.mem_singleton] at hk
    subst hk
    cases hch
  all_goals simp [aliceState, Conversations.message, AList.lookup_empty] at hm

/-- `alice`'s client started again from the state it saved on greeting `bob`. -/
def restarted : Client := started limits greeted.snapshot "provider" withPanda

theorem restarted_lifetime : Lifetime limits aliceState restarted :=
  .restart (.run greeted_reachable) rfl (Reachable.start (by decide))

/-- `alice` adding `carol` is a state of her first run. -/
theorem carol_lifetime : Lifetime limits aliceState (added "carol") :=
  .run (aliceStarted_reachable.tail (Step.next (by decide)))

/-- **The invariants hold over a lifetime.** In every state of a lifetime of runs and
restarts from the state saved last, begun with a loadable state, every count is within the
window, the indexes agree, no message is marked sent, every delivered message is clean, and
the state saved last is loadable. -/
theorem lifetime_invariants (hpos : 0 < L.MaxMissingMessages) {s : State} (hs : s.Loadable L)
    (h : Lifetime L s c) :
    (∀ p, ((c.heap p).UnACKed : Int) ≤ (L.MaxMissingMessages : Int) - 1) ∧ ContactIndex c ∧
      NoneSent c.conversations ∧ DeliveredClean c.conversations ∧
      ∀ st, c.saved = some st → st.Loadable L :=
  let hc := h.sound hpos hs
  ⟨hc.window.unACKed_le, hc.window.index, hc.window.noneSent, hc.deliveredClean, hc.saved⟩

theorem restarted_invariants :
    0 < limits.MaxMissingMessages ∧ aliceState.Loadable limits ∧ Lifetime limits aliceState restarted ∧
      (∀ p, ((restarted.heap p).UnACKed : Int) ≤ (limits.MaxMissingMessages : Int) - 1) ∧
      ContactIndex restarted ∧ NoneSent restarted.conversations ∧
      DeliveredClean restarted.conversations ∧ ∀ st, restarted.saved = some st → st.Loadable limits :=
  ⟨by decide, aliceState_loadable, restarted_lifetime,
    lifetime_invariants (by decide) aliceState_loadable restarted_lifetime⟩

/-- **Removing a contact never panics on a channel.** In every state of a lifetime begun
with a loadable state, with a state writer that takes every state, the loop's removal of
any nickname returns; the nickname is gone, and the cancel channel of a pending contact it
named is closed. -/
theorem lifetime_removal_safe (hpos : 0 < L.MaxMissingMessages) {s : State} (hs : s.Loadable L)
    (h : Lifetime L s c) (a : Answers) (hw : ∀ st, a.Writes st) (n : String) :
    ∃ c', step L c a (.removeContact n) = .ok c' ∧ c'.contactNicknames.lookup n = none ∧
      ∀ p ch, c.contactNicknames.lookup n = some p → (c.heap p).IsPending = true →
        (c.heap p).pandaShutdownChan = some ch → ch ∈ c'.closed :=
  let hc := h.sound hpos hs
  doContactRemoval_safe hc.window.index hc.chanSafe h.unlocked hw n

/-- The default answers' state writer takes every state. -/
theorem default_writes (st : State) : (default : Answers).Writes st := ⟨rfl, rfl⟩

theorem carol_removal_safe :
    0 < limits.MaxMissingMessages ∧ aliceState.Loadable limits ∧
      Lifetime limits aliceState (added "carol") ∧ (∀ st, (default : Answers).Writes st) ∧
      ∃ c', step limits (added "carol") default (.removeContact "carol") = .ok c' ∧
        c'.contactNicknames.lookup "carol" = none ∧
        ∀ p ch, (added "carol").contactNicknames.lookup "carol" = some p →
          ((added "carol").heap p).IsPending = true →
          ((added "carol").heap p).pandaShutdownChan = some ch → ch ∈ c'.closed :=
  ⟨by decide, aliceState_loadable, carol_lifetime, default_writes,
    lifetime_removal_safe (by decide) aliceState_loadable carol_lifetime default default_writes "carol"⟩

/-- Once the contact at `p`, named `n`, is dropped from `contacts`, no contact left is
named `n`. -/
theorem ContactIndex.nickname_ne_of_erase (hi : ContactIndex c) {n : String} {p : Ptr}
    (hp : c.contactNicknames.lookup n = some p) {k : Contact}
    (hk : k ∈ ({ c with contacts := c.contacts.erase (c.heap p).id } : Client).contactList) :
    k.Nickname ≠ n := by
  obtain ⟨⟨id, q⟩, hq, rfl⟩ := List.mem_map.mp hk
  have hq := AList.mem_lookup_iff.mpr hq
  by_cases hid : id = (c.heap p).id
  · subst hid; simp [AList.lookup_erase] at hq
  rw [AList.lookup_erase_ne hid] at hq
  obtain ⟨-, hqid, hqn⟩ := hi.contacts_key id q hq
  intro hn
  rw [hn, hp, Option.some.injEq] at hqn
  exact hid (hqn ▸ hqid).symm

/-- **A removal is saved.** In every state of a lifetime begun with a loadable state, with a
state writer that takes every state, when the loop removes a contact, the state it saves
holds no contact of that nickname, and a client started again from that state does not
know it. -/
theorem lifetime_removal_saved (hpos : 0 < L.MaxMissingMessages) {s : State} (hs : s.Loadable L)
    (h : Lifetime L s c) (a : Answers) (hw : ∀ st, a.Writes st) {n : String}
    (hn : n ∈ c.contactNicknames) :
    ∃ c' st, step L c a (.removeContact n) = .ok c' ∧ c'.saved = some st ∧
      (∀ k ∈ st.Contacts, k.Nickname ≠ n) ∧ ∀ prov, (New st prov).contactNicknames.lookup n = none := by
  have hc := h.sound hpos hs
  obtain ⟨p, hp⟩ := Option.isSome_iff_exists.mp (AList.lookup_isSome.mpr hn)
  obtain ⟨c', hstep, hgone, -⟩ := doContactRemoval_safe hc.window.index hc.chanSafe h.unlocked hw n
  rcases Client.doContactRemoval_eq hstep with rfl | ⟨p', closed, hp', -, rfl⟩
  · rw [hp] at hgone; cases hgone
  obtain rfl : p = p' := Option.some.inj (hp.symm.trans hp')
  have hne : ∀ k ∈ ({ c with contacts := c.contacts.erase (c.heap p).id } : Client).contactList,
      k.Nickname ≠ n := fun _ => hc.window.index.nickname_ne_of_erase hp
  refine ⟨_, _, hstep, rfl, hne, fun prov => ?_⟩
  exact (lookup_loadIndex_of_not_mem _ (fun hm => by
    obtain ⟨k, hk, hkn⟩ := List.mem_map.mp hm
    exact hne k hk hkn) 0 ∅).trans (AList.lookup_empty _)

theorem carol_removal_saved :
    0 < limits.MaxMissingMessages ∧ aliceState.Loadable limits ∧
      Lifetime limits aliceState (added "carol") ∧ (∀ st, (default : Answers).Writes st) ∧
      "carol" ∈ (added "carol").contactNicknames ∧
      ∃ c' st, step limits (added "carol") default (.removeContact "carol") = .ok c' ∧
        c'.saved = some st ∧ (∀ k ∈ st.Contacts, k.Nickname ≠ "carol") ∧
        ∀ prov, (New st prov).contactNicknames.lookup "carol" = none :=
  ⟨by decide, aliceState_loadable, carol_lifetime, default_writes, by decide,
    lifetime_removal_saved (by decide) aliceState_loadable carol_lifetime default default_writes
      (by decide)⟩

/-- **Halting the key exchanges never panics.** In every state of a lifetime begun with a
loadable state, `haltKeyExchanges` returns, having closed exactly the cancel channels of
the pending contacts, each once, and changed nothing else. -/
theorem lifetime_halt_safe (hpos : 0 < L.MaxMissingMessages) {s : State} (hs : s.Loadable L)
    (h : Lifetime L s c) :
    ∃ cs, c.haltKeyExchanges = .ok { c with closed := cs ++ c.closed } ∧ cs.Nodup ∧
      ∀ ch, ch ∈ cs ↔ ∃ k p, c.contacts.lookup k = some p ∧ (c.heap p).IsPending = true ∧
        (c.heap p).pandaShutdownChan = some ch :=
  let hc := h.sound hpos hs
  haltKeyExchanges_safe hc.window.index hc.chanSafe

theorem carol_halt_safe :
    0 < limits.MaxMissingMessages ∧ aliceState.Loadable limits ∧
      Lifetime limits aliceState (added "carol") ∧
      ∃ cs, (added "carol").haltKeyExchanges =
          .ok { added "carol" with closed := cs ++ (added "carol").closed } ∧ cs.Nodup ∧
        ∀ ch, ch ∈ cs ↔ ∃ k p, (added "carol").contacts.lookup k = some p ∧
          ((added "carol").heap p).IsPending = true ∧
          ((added "carol").heap p).pandaShutdownChan = some ch :=
  ⟨by decide, aliceState_loadable, carol_lifetime,
    lifetime_halt_safe (by decide) aliceState_loadable carol_lifetime⟩

/-- **The client refines its contact book over a lifetime.** In every state of a lifetime
begun with a loadable state, every step of the system is one step of the contact book
(`Step.book`), and a step that saves writes the book the client has after it
(`Client.snapshot_book`); a client started again from the state saved last starts with that
state's book (`New_book`). So along every run on, a nickname established now stays
established up to the first state whose book drops it (`BookStep.established_run`). -/
theorem lifetime_book_refines (hpos : 0 < L.MaxMissingMessages) {s : State} (hs : s.Loadable L)
    (h : Lifetime L s c) :
    (∀ c', Step L c c' → BookStep c.book c'.book ∧
      (c'.saved = c.saved ∨ ∃ st, c'.saved = some st ∧ st.book = c'.book)) ∧
    (∀ st, c.saved = some st → ∀ prov a c₀, Start L (New st prov) a = .ok c₀ → c₀.book = st.book) ∧
    ∀ n c', Relation.ReflTransGen (Step L) c c' → c.book n = some false →
      c'.book n = some false ∨
        ∃ d, Relation.ReflTransGen (Step L) c d ∧ Relation.ReflTransGen (Step L) d c' ∧ d.book n = none := by
  -- one step from any state of the lifetime
  have hstep : ∀ {b b'}, Lifetime L s b → Step L b b' → BookStep b.book b'.book ∧
      (b'.saved = b.saved ∨ ∃ st, b'.saved = some st ∧ st.book = b'.book) := fun hb hbb' => by
    have hsb := hb.sound hpos hs
    refine ⟨hbb'.book hb.unlocked hsb.window.index, ?_⟩
    rcases (hbb'.contactEffect hb.unlocked).2 with hsv | hsv
    · exact .inl hsv
    · exact .inr ⟨_, hsv, Client.snapshot_book ((hb.tail hbb').sound hpos hs).window.index⟩
  refine ⟨fun c' => hstep h, fun st hst prov a c₀ h₀ => ?_, fun n c' hrun hn =>
    BookStep.established_run (fun hab hbc => (hstep (h.trans hab) hbc).1) hrun hn⟩
  obtain ⟨_, _, rfl⟩ := Start_keeps rfl h₀
  exact New_book ((h.sound hpos hs).saved st hst).wellKeyed prov

/-- `alice` after greeting `bob`: `bob` is established, and the greeting's save is the state
a restart loads. -/
theorem greeted_book :
    0 < limits.MaxMissingMessages ∧ aliceState.Loadable limits ∧ Lifetime limits aliceState greeted ∧
      greeted.book "bob" = some false ∧ greeted.saved.isSome ∧
      (∀ c', Step limits greeted c' → BookStep greeted.book c'.book ∧
        (c'.saved = greeted.saved ∨ ∃ st, c'.saved = some st ∧ st.book = c'.book)) ∧
      (∀ st, greeted.saved = some st → ∀ prov a c₀, Start limits (New st prov) a = .ok c₀ →
        c₀.book = st.book) ∧
      ∀ n c', Relation.ReflTransGen (Step limits) greeted c' → greeted.book n = some false →
        c'.book n = some false ∨ ∃ d, Relation.ReflTransGen (Step limits) greeted d ∧
          Relation.ReflTransGen (Step limits) d c' ∧ d.book n = none :=
  ⟨by decide, aliceState_loadable, .run greeted_reachable, by decide, by decide,
    lifetime_book_refines (by decide) aliceState_loadable (.run greeted_reachable)⟩

/-! ### A new client -/

/-- From a state with no read spool, no state of a run has one, nor any state it saves: no
step creates the spool. -/
theorem noSpool_of_reachable {s : State} {prov : String} (hs : s.SpoolReadDescriptor = none)
    (hr : Reachable L s prov c) :
    c.spoolReadDescriptor = none ∧ ∀ st, c.saved = some st → st.SpoolReadDescriptor = none :=
  (hr.induction_step
    (P := fun c => c.spoolReadDescriptor = none ∧ ∀ st, c.saved = some st → st.SpoolReadDescriptor = none)
    (fun _ _ h₀ => by
      obtain ⟨_, _, rfl⟩ := Start_keeps rfl h₀
      exact ⟨hs, fun _ h => nomatch h⟩)
    fun _ c' hc ⟨hsp, hsv⟩ hst => by
      have hsp' : c'.spoolReadDescriptor = none := by
        rcases (hst.effect hc).2.spoolReadDescriptor with h | ⟨d, hd, -⟩
        · exact h.trans hsp
        · rw [hsp] at hd; cases hd
      refine ⟨hsp', fun st h => ?_⟩
      rcases (hst.contactEffect hc).2 with hsaved | hsaved <;> rw [hsaved] at h
      · exact hsv st h
      · rw [← Option.some.inj h]; exact hsp').1

/-- A client whose state has no read spool never reads its inbox: in every state of its
lifetime the read-inbox tick panics on the missing spool. -/
theorem Lifetime.readInbox_panics {s : State} (hs : s.SpoolReadDescriptor = none)
    (h : Lifetime L s c) (a : Answers) :
    step L c a .readInboxTick = .error (.panic nilDereference) := by
  have hsp : c.spoolReadDescriptor = none ∧ ∀ st, c.saved = some st → st.SpoolReadDescriptor = none := by
    induction h with
    | run hr => exact noSpool_of_reachable hs hr
    | restart _ hst hr ih => exact noSpool_of_reachable (ih.2 _ hst) hr
  simp only [step, Client.sendReadInbox, hsp.1]
  rfl

theorem State.loadable_of_empty {s : State} (hc : s.Contacts = []) (hv : s.Conversations = ∅) :
    s.Loadable L := by
  refine ⟨⟨?_, ?_, ?_⟩, fun k hk => ?_, fun n id m hm => ?_, fun n id m hm => ?_, fun k hk => ?_⟩ <;>
    simp_all [Conversations.message, AList.lookup_empty]

/-- What `NewClientAndRemoteSpool` returns, read off the answers of its calls, when the state
writer takes every state. -/
theorem NewClientAndRemoteSpool_eq (user provider : String) (linkKey : Bytes) (a : Answers)
    (hw : ∀ st, a.Writes st) :
    NewClientAndRemoteSpool user provider linkKey a =
      let c₀ := (New (freshState user provider linkKey) provider).persisted
      let desc := a.newSpoolReadDescriptor.1
      match a.getService, a.newSpoolReadDescriptor.2 with
      | some e, _ => .ok (some e, c₀)
      | none, some e => .ok (some e, { c₀ with spoolReadDescriptor := desc })
      | none, none => .ok (none, { c₀ with spoolReadDescriptor := desc }.persisted) := by
  rcases hg : a.getService with _ | e <;> rcases hd : a.newSpoolReadDescriptor with ⟨desc, _ | e'⟩ <;>
    simp [NewClientAndRemoteSpool, Client.CreateRemoteSpool, Client.save_of_writes, New, freshState,
      Client.persisted, hg, hd, hw]

/-- **What a new client writes.** With a state writer that takes every state,
`NewClientAndRemoteSpool` never panics, and the state it wrote last is loadable. When it
returns no error, loading that state gives back the client it returned. When it returns an
error, the state written is the fresh one, with no read spool, and a client restarted from it
panics at the read-inbox tick in every state of its lifetime. -/
theorem NewClientAndRemoteSpool_written (user provider : String) (linkKey : Bytes) (a : Answers)
    (hw : ∀ st, a.Writes st) :
    ∃ err c st, NewClientAndRemoteSpool user provider linkKey a = .ok (err, c) ∧
      c.saved = some st ∧ (∀ L, st.Loadable L) ∧
      (err = none → New st provider = { c with saved := none }) ∧
      (err.isSome → st = freshState user provider linkKey ∧
        ∀ L c', Lifetime L st c' → ∀ a', step L c' a' .readInboxTick = .error (.panic nilDereference)) := by
  have hfresh : ∀ L c', Lifetime L (freshState user provider linkKey) c' → ∀ a',
      step L c' a' .readInboxTick = .error (.panic nilDereference) :=
    fun _ _ h a' => h.readInbox_panics rfl a'
  rw [NewClientAndRemoteSpool_eq user provider linkKey a hw]
  cases a.getService <;> cases a.newSpoolReadDescriptor.2
  · exact ⟨none, _, _, rfl, rfl, fun _ => State.loadable_of_empty rfl rfl, fun _ => rfl, by rintro ⟨⟩⟩
  all_goals
    exact ⟨some _, _, _, rfl, rfl, fun _ => State.loadable_of_empty rfl rfl, by rintro ⟨⟩,
      fun _ => ⟨rfl, hfresh⟩⟩

/-- A session whose spool service creates `alice`'s read spool. -/
def spoolCreated : Answers :=
  { (default : Answers) with
    getService := none, newSpoolReadDescriptor := (some ⟨[], [], "alice", "provider", 0⟩, none) }

theorem alice_written :
    (∀ st, spoolCreated.Writes st) ∧
      ∃ err c st, NewClientAndRemoteSpool "alice" "provider" [] spoolCreated = .ok (err, c) ∧
        c.saved = some st ∧ (∀ L, st.Loadable L) ∧
        (err = none → New st "provider" = { c with saved := none }) ∧
        (err.isSome → st = freshState "alice" "provider" [] ∧
          ∀ L c', Lifetime L st c' → ∀ a', step L c' a' .readInboxTick = .error (.panic nilDereference)) :=
  have hw : ∀ st, spoolCreated.Writes st := fun _ => ⟨rfl, rfl⟩
  ⟨hw, NewClientAndRemoteSpool_written "alice" "provider" [] spoolCreated hw⟩

end Catshadow
