import Catshadow.Properties.Channels

/-!
# The contact book

What a client's contacts are for, stated apart from the code: a contact book that says of
each nickname that it names no contact, a pending one, or an established one (`Book`). In one
step the book adds a nickname it does not hold, as a pending contact; removes a nickname; or
settles some pending contacts, which become established (`BookStep`). A saved state lists a
book (`State.book`), and a client keeps one in `contactNicknames` and its contacts'
`IsPending` (`Client.book`).

* `Step.book`: with the two indexes agreeing, every step of the loop is one step of the book.
* `New_book`: `New` on a state with distinct nicknames keeps the book the state lists.
* `Client.snapshot_book`: the state `save` writes lists the book the client keeps.
* `BookStep.established_run`: along a run of book steps, a contact once established stays
  established until the book drops it (`BookStep.established`).

`lifetime_book_refines` (`Catshadow.Properties.Restart`) puts these together over a lifetime
of runs and restarts.

The book does not see what a pending contact's exchange did: a failed exchange settles the
contact as established all the same (`processPANDAUpdate_unparsable`).
-/

namespace Catshadow

variable {L : Limits} {c c' : Client}

/-- A contact book: for each nickname, no contact, or a contact that is pending (`true`) or
established (`false`). -/
def Book : Type := String → Option Bool

/-- One step of a contact book. -/
inductive BookStep (b b' : Book) : Prop
  /-- Some pending contacts become established; every other entry stays. -/
  | settle (h : ∀ n, b' n = b n ∨ b n = some true ∧ b' n = some false)
  /-- A nickname the book does not hold is added, as a pending contact. -/
  | add (n : String) (hn : b n = none) (h : ∀ n', b' n' = if n' = n then some true else b n')
  /-- A nickname is removed. -/
  | remove (n : String) (h : ∀ n', b' n' = if n' = n then none else b n')

/-- A book step leaves an established contact established, or removes it. -/
theorem BookStep.established {b b' : Book} (h : BookStep b b') {n : String} (hn : b n = some false) :
    b' n = some false ∨ b' n = none := by
  cases h with
  | settle h =>
    rcases h n with h | ⟨h, -⟩
    · exact .inl (h.trans hn)
    · rw [hn] at h; cases h
  | add n₀ h₀ h =>
    rw [h n]
    split_ifs with h'
    · subst h'; rw [hn] at h₀; cases h₀
    · exact .inl hn
  | remove n₀ h =>
    rw [h n]
    split_ifs
    · exact .inr rfl
    · exact .inl hn

/-- The book a saved state lists: the first contact of each nickname. -/
def State.book (s : State) : Book := fun n =>
  (s.Contacts.find? (·.Nickname == n)).map (·.IsPending)

/-- The book a client keeps: its contact under each nickname, and whether it is pending. -/
def Client.book (c : Client) : Book := fun n =>
  (c.contactNicknames.lookup n).map fun p => (c.heap p).IsPending

/-! ### One step -/

/-- A step that keeps `contactNicknames` and makes no indexed contact pending settles. -/
theorem BookStep.of_cells (hk : c'.contactNicknames = c.contactNicknames)
    (hcell : ∀ n p, c.contactNicknames.lookup n = some p → (c'.heap p).IsPending = true →
      (c.heap p).IsPending = true) :
    BookStep c.book c'.book := .settle fun n => by
  simp only [Client.book, hk]
  cases hp : c.contactNicknames.lookup n with
  | none => exact .inl rfl
  | some p =>
    cases h' : (c'.heap p).IsPending
    · cases h : (c.heap p).IsPending
      · exact .inl (by simp [h, h'])
      · exact .inr ⟨by simp [h], by simp [h']⟩
    · exact .inl (by simp [h', hcell n p hp h'])

/-- **Every step is a step of the book.** With the two indexes agreeing, a step of the loop
adds a fresh nickname as a pending contact, removes a nickname, or settles some pending
contacts, and changes the book in no other way. -/
theorem Step.book (hs : Step L c c') (hc : c.conversationsLocked = false) (hi : ContactIndex c) :
    BookStep c.book c'.book := by
  have hcell : ∀ {q}, q ≠ c.nextPtr → (c'.heap q).IsPending = true → (c.heap q).IsPending = true :=
    (hs.contactEffect hc).1.pending
  -- an indexed contact is below the next heap cell
  have hlt : ∀ n p, c.contactNicknames.lookup n = some p → p ≠ c.nextPtr := fun n p hp =>
    Nat.ne_of_lt (hi.lt_nextPtr _ p (hi.nicknames_key n p hp).2)
  cases (hs.effect hc).2 with
  | quiet hi' => exact .of_cells hi'.contactNicknames fun n p hp => hcell (hlt n p hp)
  | submit _ _ _ _ _ _ _ hi' => exact .of_cells hi'.contactNicknames fun n p hp => hcell (hlt n p hp)
  | readTip hi' => exact .of_cells hi'.contactNicknames fun n p hp => hcell (hlt n p hp)
  | add k k' _ _ hn _ _ hheap _ _ hnick _ hpend =>
    refine .add k.Nickname (by simp [Client.book, AList.lookup_eq_none.mpr hn]) fun n' => ?_
    simp only [Client.book, hnick, hheap]
    by_cases h : n' = k.Nickname
    · subst h; simp [AList.lookup_insert, hpend]
    · cases hp : c.contactNicknames.lookup n' with
      | none => simp [AList.lookup_insert_ne h, hp, h]
      | some p => simp [AList.lookup_insert_ne h, hp, h, Function.update_noteq (hlt _ _ hp)]
  | remove n _ _ hheap _ _ hnick _ =>
    refine .remove n fun n' => ?_
    simp only [Client.book, hnick, hheap]
    by_cases h : n' = n
    · subst h; simp [AList.lookup_erase]
    · simp [AList.lookup_erase_ne h, h]

/-! ### Runs -/

/-- The first contact of a nickname is the one at the nickname's first index. -/
theorem find?_nickname {l : List Contact} {n : String} (hn : n ∈ l.map (·.Nickname)) :
    l.find? (·.Nickname == n) = some (l.getD ((l.map (·.Nickname)).indexOf n) default) := by
  induction l with
  | nil => cases hn
  | cons k l ih =>
    by_cases h : k.Nickname = n
    · simp [List.find?_cons, h, List.indexOf_cons_self]
    · have hl : n ∈ l.map (·.Nickname) := by simpa [Ne.symm h] using hn
      simp [List.find?_cons, h, List.indexOf_cons_ne _ (Ne.symm h), ih hl]

/-- **Loading keeps the book.** `New` on a state with distinct nicknames keeps the book the
state lists. -/
theorem New_book {s : State} (hs : s.WellKeyed) (prov : String) : (New s prov).book = s.book := by
  funext n
  simp only [Client.book, State.book, New]
  rw [lookup_loadIndex _ hs.nicknames_nodup]
  split
  · rename_i hn
    simp [find?_nickname hn]
  · rename_i hn
    have hnone : s.Contacts.find? (·.Nickname == n) = none :=
      List.find?_eq_none.mpr fun k hk h => hn (List.mem_map.mpr ⟨k, hk, by simpa using h⟩)
    rw [AList.lookup_empty, hnone]
    rfl

/-- **Saving keeps the book.** With the two indexes agreeing, the state `save` writes lists
the book the client keeps. -/
theorem Client.snapshot_book (hi : ContactIndex c) : c.snapshot.book = c.book := by
  funext n
  simp only [State.book, Client.snapshot, Client.contactList, Client.book, List.find?_map,
    Option.map_map]
  -- the one entry of `contacts` whose contact has the nickname is the one `n` indexes
  have hentry : ∀ e ∈ c.contacts.entries, (c.heap e.2).Nickname = n →
      c.contactNicknames.lookup n = some e.2 := fun e he hn =>
    hn ▸ (hi.contacts_key e.1 e.2 (AList.mem_lookup_iff.mpr he)).2.2
  cases hp : c.contactNicknames.lookup n with
  | none =>
    rw [List.find?_eq_none.mpr fun e he h => by simp [hentry e he (by simpa using h)] at hp]
    rfl
  | some p =>
    obtain ⟨hpn, hpid⟩ := hi.nicknames_key n p hp
    obtain ⟨e, he⟩ : ∃ e, c.contacts.entries.find? ((·.Nickname == n) ∘ fun e => c.heap e.2) =
        some e := Option.isSome_iff_exists.mp (List.find?_isSome.mpr
      ⟨⟨_, p⟩, AList.mem_lookup_iff.mp hpid, by simpa using hpn⟩)
    have hep : e.2 = p := Option.some.inj ((hentry e (List.mem_of_find?_eq_some he)
      (by simpa using List.find?_some he)).symm.trans hp)
    rw [he, Option.map_some', Option.map_some']
    simp [hep]

/-- **Established until removed.** Along a run whose every step is a book step, a nickname
established at its start stays established up to the first state whose book drops it. -/
theorem BookStep.established_run {R : Client → Client → Prop}
    (hR : ∀ {b b'}, Relation.ReflTransGen R c b → R b b' → BookStep b.book b'.book)
    (hrun : Relation.ReflTransGen R c c') {n : String} (hn : c.book n = some false) :
    c'.book n = some false ∨
      ∃ d, Relation.ReflTransGen R c d ∧ Relation.ReflTransGen R d c' ∧ d.book n = none := by
  induction hrun with
  | refl => exact .inl hn
  | tail hab hbc ih =>
    rcases ih with h | ⟨d, hcd, hdb, hd⟩
    · rcases (hR hab hbc).established h with h' | h'
      · exact .inl h'
      · exact .inr ⟨_, hab.tail hbc, .refl, h'⟩
    · exact .inr ⟨d, hcd, hdb.tail hbc, hd⟩

end Catshadow
