import Catshadow.Properties.Steps

/-!
# The two contact indexes

The client finds a contact by id through `contacts` and by nickname through
`contactNicknames`; both map to the same `*Contact`. `ContactIndex` says that they
index one set of contacts: the same number of entries, every id key non-zero and the
id of the contact it maps to, every nickname key the nickname of its contact, and each
contact found through one map found through the other at the same pointer.

`contactIndex_of_reachable` proves that every run keeps it, from a saved state whose
contacts have distinct non-zero ids and distinct nicknames (`State.WellKeyed`). `New`
establishes it (`ContactIndex.load`), steps that leave the indexes alone keep it, and
`createContact` and `doContactRemoval` keep it because `randID` draws a fresh non-zero
id, the nickname is checked for use, and a removed contact's id and nickname are the
keys of one contact.
-/

namespace Catshadow

/-- `contacts` and `contactNicknames` index one set of contacts. -/
structure ContactIndex (c : Client) : Prop where
  /-- The two maps have the same size. -/
  size_eq : c.contacts.keys.length = c.contactNicknames.keys.length
  /-- `contacts[k]` has the non-zero id `k` and is `contactNicknames[contacts[k].Nickname]`. -/
  contacts_key : ∀ k p, c.contacts.lookup k = some p →
    k ≠ 0 ∧ (c.heap p).id = k ∧ c.contactNicknames.lookup (c.heap p).Nickname = some p
  /-- `contactNicknames[n]` has the nickname `n` and is `contacts[contactNicknames[n].id]`. -/
  nicknames_key : ∀ n p, c.contactNicknames.lookup n = some p →
    (c.heap p).Nickname = n ∧ c.contacts.lookup (c.heap p).id = some p
  /-- The indexed contacts live below the next free heap cell. -/
  lt_nextPtr : ∀ k p, c.contacts.lookup k = some p → p < c.nextPtr

/-- The contacts of a saved state have distinct non-zero ids and distinct nicknames. -/
structure State.WellKeyed (s : State) : Prop where
  ids_nodup : (s.Contacts.map (·.id)).Nodup
  nicknames_nodup : (s.Contacts.map (·.Nickname)).Nodup
  id_ne_zero : ∀ k ∈ s.Contacts, k.id ≠ 0

/-! ### Loading -/

section Load

variable {κ : Type} [DecidableEq κ] (key : Contact → κ)

/-- With distinct keys, `New`'s loop maps each key to the index of its contact. -/
theorem lookup_loadIndex {l : List Contact} (hl : (l.map key).Nodup) (i : Nat) (m : GoMap κ Ptr)
    (x : κ) : (loadIndex key i l m).lookup x =
      if x ∈ l.map key then some (i + (l.map key).indexOf x) else m.lookup x := by
  induction l generalizing i m with
  | nil => simp [loadIndex]
  | cons k l ih =>
    simp only [List.map_cons, List.nodup_cons] at hl
    simp only [loadIndex, ih hl.2, List.map_cons, List.mem_cons]
    by_cases hx : x = key k
    · subst hx
      simp [hl.1, List.indexOf_cons_self]
    · by_cases hm : x ∈ l.map key
      · simp [hx, hm, List.indexOf_cons_ne _ (Ne.symm hx)]; omega
      · simp [hx, hm, AList.lookup_insert_ne hx]

/-- A key no loaded contact has is looked up where it was before. -/
theorem lookup_loadIndex_of_not_mem {l : List Contact} {x : κ} (hx : x ∉ l.map key) (i : Nat)
    (m : GoMap κ Ptr) : (loadIndex key i l m).lookup x = m.lookup x := by
  induction l generalizing i m with
  | nil => rfl
  | cons k l ih =>
    simp only [List.map_cons, List.mem_cons, not_or] at hx
    rw [loadIndex, ih hx.2, AList.lookup_insert_ne hx.1]

theorem length_keys_loadIndex {l : List Contact} (hl : (l.map key).Nodup) (i : Nat)
    (m : GoMap κ Ptr) (hm : ∀ x ∈ l.map key, x ∉ m) :
    (loadIndex key i l m).keys.length = l.length + m.keys.length := by
  induction l generalizing i m with
  | nil => simp [loadIndex]
  | cons k l ih =>
    simp only [List.map_cons, List.nodup_cons, List.mem_cons, forall_eq_or_imp] at hl hm
    have hk : key k ∉ m.keys := fun h => hm.1 (AList.mem_keys.mpr h)
    rw [loadIndex, ih hl.2 _ _ fun x hx => by
      simp [AList.mem_insert, hm.2 x hx, show x ≠ key k from fun h => hl.1 (h ▸ hx)]]
    simp [AList.keys_insert, List.erase_of_not_mem hk]
    omega

/-- The contact loaded under the key `x`: the one at `x`'s index. -/
theorem loadIndex_eq_some {l : List Contact} (hl : (l.map key).Nodup) {x : κ} {p : Ptr}
    (h : (loadIndex key 0 l ∅).lookup x = some p) :
    ∃ hp : p < l.length, key l[p] = x := by
  rw [lookup_loadIndex key hl] at h
  split at h
  · rename_i hx
    simp only [Nat.zero_add, Option.some.injEq] at h
    subst h
    have hlt := List.indexOf_lt_length.mpr hx
    exact ⟨by simpa using hlt, by simpa only [List.getElem_map] using List.getElem_indexOf hlt⟩
  · simp [AList.lookup_empty] at h

theorem lookup_loadIndex_getElem {l : List Contact} (hl : (l.map key).Nodup) {p : Ptr}
    (hp : p < l.length) : (loadIndex key 0 l ∅).lookup (key l[p]) = some p := by
  have hmem : key l[p] ∈ l.map key := List.mem_map_of_mem _ (List.getElem_mem _)
  rw [lookup_loadIndex key hl, if_pos hmem, Nat.zero_add]
  have := List.indexOf_getElem hl p (by simpa using hp)
  simpa using this

end Load

/-- `New` on a well-keyed state builds the two indexes of its contacts. -/
theorem ContactIndex.load {s : State} (hs : s.WellKeyed) (prov : String) :
    ContactIndex (New s prov) := by
  have heap : ∀ p (hp : p < s.Contacts.length), (New s prov).heap p = s.Contacts[p] :=
    fun p hp => by simp [New, hp]
  refine ⟨?_, fun k p h => ?_, fun n p h => ?_, fun k p h => ?_⟩
  · simp only [New]
    rw [length_keys_loadIndex _ hs.ids_nodup _ _ (by simp [AList.not_mem_empty]),
      length_keys_loadIndex _ hs.nicknames_nodup _ _ (by simp [AList.not_mem_empty])]
    simp [AList.keys_empty]
  · obtain ⟨hp, rfl⟩ := loadIndex_eq_some _ hs.ids_nodup h
    exact ⟨hs.id_ne_zero _ (List.getElem_mem _), by rw [heap p hp],
      by rw [heap p hp]; exact lookup_loadIndex_getElem _ hs.nicknames_nodup hp⟩
  · obtain ⟨hp, rfl⟩ := loadIndex_eq_some _ hs.nicknames_nodup h
    exact ⟨by rw [heap p hp], by rw [heap p hp]; exact lookup_loadIndex_getElem _ hs.ids_nodup hp⟩
  · exact (loadIndex_eq_some _ hs.ids_nodup h).1

/-! ### Steps -/

namespace ContactIndex

variable {L : Limits} {c c' : Client}

theorem of_sameIndex (h : ContactIndex c) (hi : SameIndex c c') : ContactIndex c' := by
  obtain ⟨hn, hc, hk, hid, hnick⟩ := hi
  refine ⟨by rw [hc, hk]; exact h.size_eq, fun k p hp => ?_, fun n p hp => ?_, fun k p hp => ?_⟩
  · rw [hc] at hp; rw [hid, hnick, hk]; exact h.contacts_key k p hp
  · rw [hk] at hp; rw [hnick, hid, hc]; exact h.nicknames_key n p hp
  · rw [hc] at hp; rw [hn]; exact h.lt_nextPtr k p hp

theorem length_keys_insert {κ : Type} [DecidableEq κ] {m : GoMap κ Ptr} {x : κ} (hx : x ∉ m)
    (p : Ptr) : (m.insert x p).keys.length = m.keys.length + 1 := by
  simp [AList.keys_insert, List.erase_of_not_mem (fun h => hx (AList.mem_keys.mpr h))]

theorem length_keys_erase {κ : Type} [DecidableEq κ] {m : GoMap κ Ptr} {x : κ} {p : Ptr}
    (hx : m.lookup x = some p) : (m.erase x).keys.length = m.keys.length - 1 := by
  rw [AList.keys_erase, List.length_erase_of_mem (AList.mem_keys.mp (AList.lookup_isSome.mp (by simp [hx])))]

/-- `createContact` adds a contact with a fresh non-zero id and a fresh nickname at the
next heap cell. -/
theorem add (h : ContactIndex c) {k k' : Contact} (hid : k.id ≠ 0) (hfresh : k.id ∉ c.contacts)
    (hn : k.Nickname ∉ c.contactNicknames) (hk' : Client.SameIdentity k k')
    (hheap : c'.heap = Function.update c.heap c.nextPtr k') (hnext : c'.nextPtr = c.nextPtr + 1)
    (hcon : c'.contacts = c.contacts.insert k.id c.nextPtr)
    (hnick : c'.contactNicknames = c.contactNicknames.insert k.Nickname c.nextPtr) :
    ContactIndex c' := by
  have old : ∀ k₀ p, c.contacts.lookup k₀ = some p → c'.heap p = c.heap p := fun k₀ p hp => by
    rw [hheap, Function.update_noteq (Nat.ne_of_lt (h.lt_nextPtr k₀ p hp))]
  have new : c'.heap c.nextPtr = k' := by rw [hheap, Function.update_same]
  refine ⟨?_, fun k₀ p hp => ?_, fun n p hp => ?_, fun k₀ p hp => ?_⟩
  · rw [hcon, hnick, length_keys_insert hfresh, length_keys_insert hn, h.size_eq]
  · rw [hcon] at hp
    by_cases hk₀ : k₀ = k.id
    · subst hk₀
      simp only [AList.lookup_insert, Option.some.injEq] at hp
      subst hp
      rw [new, hnick, hk'.1, hk'.2.1, AList.lookup_insert]
      exact ⟨hid, rfl, rfl⟩
    · rw [AList.lookup_insert_ne hk₀] at hp
      obtain ⟨h0, hid', hn'⟩ := h.contacts_key k₀ p hp
      have hne : (c.heap p).Nickname ≠ k.Nickname := fun he =>
        hn (AList.lookup_isSome.mp (by rw [← he, hn']; rfl))
      rw [old k₀ p hp, hnick, AList.lookup_insert_ne hne]
      exact ⟨h0, hid', hn'⟩
  · rw [hnick] at hp
    by_cases hn₀ : n = k.Nickname
    · subst hn₀
      simp only [AList.lookup_insert, Option.some.injEq] at hp
      subst hp
      rw [new, hcon, hk'.1, hk'.2.1, AList.lookup_insert]
      exact ⟨rfl, rfl⟩
    · rw [AList.lookup_insert_ne hn₀] at hp
      obtain ⟨hn', hid'⟩ := h.nicknames_key n p hp
      have hne : (c.heap p).id ≠ k.id := fun he =>
        hfresh (AList.lookup_isSome.mp (by rw [← he, hid']; rfl))
      rw [old _ p hid', hcon, AList.lookup_insert_ne hne]
      exact ⟨hn', hid'⟩
  · rw [hcon] at hp
    rw [hnext]
    by_cases hk₀ : k₀ = k.id
    · subst hk₀
      simp only [AList.lookup_insert, Option.some.injEq] at hp
      exact hp ▸ Nat.lt_succ_self _
    · rw [AList.lookup_insert_ne hk₀] at hp
      exact Nat.lt_succ_of_lt (h.lt_nextPtr k₀ p hp)

/-- `doContactRemoval` drops the contact the nickname `n` names from both indexes. -/
theorem remove (h : ContactIndex c) {n : String} {p : Ptr} (hp : c.contactNicknames.lookup n = some p)
    (hheap : c'.heap = c.heap) (hnext : c'.nextPtr = c.nextPtr)
    (hcon : c'.contacts = c.contacts.erase (c.heap p).id)
    (hnick : c'.contactNicknames = c.contactNicknames.erase n) : ContactIndex c' := by
  obtain ⟨hpn, hpid⟩ := h.nicknames_key n p hp
  refine ⟨?_, fun k q hq => ?_, fun n' q hq => ?_, fun k q hq => ?_⟩
  · rw [hcon, hnick, length_keys_erase hpid, length_keys_erase hp, h.size_eq]
  · rw [hcon] at hq
    by_cases hk : k = (c.heap p).id
    · rw [hk, AList.lookup_erase] at hq; cases hq
    · rw [AList.lookup_erase_ne hk] at hq
      obtain ⟨h0, hid', hn'⟩ := h.contacts_key k q hq
      have hne : (c.heap q).Nickname ≠ n := fun he => by
        rw [he, hp, Option.some.injEq] at hn'
        exact hk (hn' ▸ hid').symm
      rw [hheap, hnick, AList.lookup_erase_ne hne]
      exact ⟨h0, hid', hn'⟩
  · rw [hnick] at hq
    by_cases hn' : n' = n
    · rw [hn', AList.lookup_erase] at hq; cases hq
    · rw [AList.lookup_erase_ne hn'] at hq
      obtain ⟨hqn, hqid⟩ := h.nicknames_key n' q hq
      have hne : (c.heap q).id ≠ (c.heap p).id := fun he => by
        rw [he, hpid, Option.some.injEq] at hqid
        subst hqid
        exact hn' (hqn.symm.trans hpn)
      rw [hheap, hcon, AList.lookup_erase_ne hne]
      exact ⟨hqn, hqid⟩
  · rw [hcon] at hq
    rw [hnext]
    by_cases hk : k = (c.heap p).id
    · rw [hk, AList.lookup_erase] at hq; cases hq
    · rw [AList.lookup_erase_ne hk] at hq; exact h.lt_nextPtr k q hq

/-- Every kind of step keeps the two indexes. -/
theorem step (h : ContactIndex c) (he : Effect L c c') : ContactIndex c' := by
  cases he with
  | quiet hi => exact h.of_sameIndex hi
  | submit _ _ _ _ _ _ _ hi => exact h.of_sameIndex hi
  | readTip hi => exact h.of_sameIndex hi
  | add k k' hid hfresh hn _ hk' hheap hnext hcon hnick =>
    exact h.add hid hfresh hn hk' hheap hnext hcon hnick
  | remove n p hp hheap hnext hcon hnick => exact h.remove hp hheap hnext hcon hnick

end ContactIndex

/-- After `Start`, the indexes `New` built from a well-keyed state agree. -/
theorem ContactIndex.start {L : Limits} {s : State} {prov : String} {a : Answers} {c₀ : Client}
    (hs : s.WellKeyed) (h₀ : Start L (New s prov) a = .ok c₀) : ContactIndex c₀ :=
  (ContactIndex.load hs prov).of_sameIndex (by
    obtain ⟨c₁, ts, h₁, rfl⟩ := Start_ok h₀
    obtain rfl := Client.garbageCollectConversations_ok rfl h₁
    exact ⟨rfl, rfl, rfl, fun _ => rfl, fun _ => rfl⟩)

/-- **The two indexes agree.** In every state a run reaches from a well-keyed saved state,
`contacts` and `contactNicknames` index one set of contacts. -/
theorem contactIndex_of_reachable {L : Limits} {s : State} {prov : String} {c : Client}
    (hs : s.WellKeyed) (hr : Reachable L s prov c) : ContactIndex c :=
  (hr.induction (fun _ _ h₀ => ContactIndex.start hs h₀) fun _ _ _ hi _ he => hi.step he).1

/-- `alice`'s first state lists one contact, so distinct ids and nicknames. -/
theorem aliceState_wellKeyed : aliceState.WellKeyed := ⟨by decide, by decide, by decide⟩

theorem greeted_contactIndex :
    aliceState.WellKeyed ∧ Reachable limits aliceState "provider" greeted ∧ ContactIndex greeted :=
  ⟨aliceState_wellKeyed, greeted_reachable, contactIndex_of_reachable aliceState_wellKeyed greeted_reachable⟩

end Catshadow
