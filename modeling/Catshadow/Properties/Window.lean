import Catshadow.Properties.ContactIndex
import Catshadow.Properties.Retransmit

/-!
# The send window

`doSendMessage` compares the contact's count of unacknowledged messages with
`MaxMissingMessages - 1`; at that value it calls `doRetransmit`, and then submits the new
message all the same. The count still never passes the window. `doRetransmit` resubmits
only messages marked sent, and no step that returns marks a message sent
(`NoneSent.step`: `handleSent` deadlocks where it would); with no candidate, its slice
`rTx[:4]` of an empty slice panics. So a send at the edge of the window never returns
(`doSendMessage_at_window`), and `unACKed_within_window` follows by induction over runs,
from a saved state that has its counts within the window and no message marked sent.

No step lowers a count either (`Effect.unACKed_le`): the acknowledgements that would lower
it deadlock. So a full window never reopens: once a contact's count reaches
`MaxMissingMessages - 1`, every later send to it panics (`window_stays_full`).
-/

namespace Catshadow

variable {L : Limits} {c c' : Client}

/-! ### A send at the edge of the window -/

/-- At the edge of the window, with no message marked sent, `doSendMessage` to an
established contact panics in `doRetransmit`'s slice of its empty candidate list. -/
theorem doSendMessage_at_window {id : MessageID} {n : String} {m : Bytes} {a : Answers} {p : Ptr}
    (hc : c.conversationsLocked = false) (hp : c.contactNicknames.lookup n = some p)
    (hn : (c.heap p).Nickname = n) (hpend : (c.heap p).IsPending = false)
    (hw : ((c.heap p).UnACKed : Int) = (L.MaxMissingMessages : Int) - 1)
    (hs : NoneSent c.conversations) :
    c.doSendMessage L id n m a = .error (.panic "runtime error: slice bounds out of range") := by
  have hs' : NoneSent (c.conversations.insertMessage n id (outbound m a.now)) :=
    hs.step (.insert n id _ rfl rfl rfl :
      ConvEffect L c (c.modifyConversations (·.insertMessage n id (outbound m a.now))))
  have hconv : (c.modifyConversations (·.insertMessage n id (outbound m a.now))).conversations.lookup
      ((c.modifyConversations (·.insertMessage n id (outbound m a.now))).heap p).Nickname =
      some (((c.conversations.lookup n).getD ∅).insert id (outbound m a.now)) := by
    show (c.conversations.insertMessage n id _).lookup (c.heap p).Nickname = _
    rw [hn]
    simp [Conversations.insertMessage]
  rw [Client.doSendMessage_established hc hp hpend, if_pos hw,
    doRetransmit_few hconv (by rw [retransmitCandidates_of_noneSent hs' hconv]; decide)]
  rfl

/-! ### The invariant -/

/-- Every count is within the window, the indexes agree, and no message is marked sent. -/
structure InWindow (L : Limits) (c : Client) : Prop where
  index : ContactIndex c
  noneSent : NoneSent c.conversations
  unACKed_le : ∀ p, ((c.heap p).UnACKed : Int) ≤ (L.MaxMissingMessages : Int) - 1

section Window

variable (hpos : 0 < L.MaxMissingMessages)
include hpos

theorem InWindow.step (h : InWindow L c) (hc : c.conversationsLocked = false) (hs : Step L c c') :
    InWindow L c' := by
  obtain ⟨-, hE⟩ := hs.effect hc
  refine ⟨h.index.step hE, h.noneSent.step (hs.convEffect hc), ?_⟩
  cases hE with
  | quiet _ hu => exact fun q => hu q ▸ h.unACKed_le q
  | submit a id n m p hstep hp _ hu =>
    have hne : ((c.heap p).UnACKed : Int) ≠ (L.MaxMissingMessages : Int) - 1 := fun hw => by
      rcases Client.doSendMessage_ok hc hstep with rfl | ⟨p', c₂, hp', hpend, -, -⟩
      · simpa [Client.modifyConversations] using hu p
      · obtain rfl : p' = p := Option.some.inj (hp'.symm.trans hp)
        have hpanic : c.doSendMessage L id n m a = _ := doSendMessage_at_window hc hp
          (h.index.nicknames_key n p' hp).1 hpend hw h.noneSent
        exact nomatch hpanic.symm.trans hstep
    intro q
    rw [hu q]
    split_ifs with hq
    · have := h.unACKed_le p
      push_cast
      omega
    · exact h.unACKed_le q
  | readTip _ hheap => exact fun q => hheap ▸ h.unACKed_le q
  | add k k' _ _ _ hk hk' hheap =>
    intro q
    rw [hheap]
    by_cases hq : q = c.nextPtr
    · rw [hq, Function.update_same, hk'.2.2, hk]
      omega
    · rw [Function.update_noteq hq]
      exact h.unACKed_le q
  | remove _ _ _ hheap => exact fun q => hheap ▸ h.unACKed_le q

theorem InWindow.start {s : State} {prov : String} {a : Answers} (hs : s.WellKeyed)
    (hsent : NoneSent s.Conversations)
    (hu : ∀ k ∈ s.Contacts, (k.UnACKed : Int) ≤ (L.MaxMissingMessages : Int) - 1)
    (h₀ : Start L (New s prov) a = .ok c) : InWindow L c := by
  refine ⟨ContactIndex.start hs h₀, NoneSent.step hsent (Start_convEffect rfl h₀), fun p => ?_⟩
  rw [Start_heap h₀]
  by_cases hp : p < s.Contacts.length
  · have heap : (New s prov).heap p = s.Contacts[p] := by simp [New, hp]
    rw [heap]
    exact hu _ (List.getElem_mem hp)
  · have heap : (New s prov).heap p = default := by
      simp [New, List.getElem?_eq_none (Nat.le_of_not_lt hp)]
    rw [heap]
    show (0 : Int) ≤ _
    omega

end Window

/-- **The window holds.** In every state a run reaches from a well-keyed saved state with
no message marked sent and every count within `MaxMissingMessages - 1`, every contact's
count of unacknowledged messages is within `MaxMissingMessages - 1`, and so it is after
any `doSendMessage` that returns. -/
theorem unACKed_within_window {s : State} {prov : String} (hpos : 0 < L.MaxMissingMessages)
    (hs : s.WellKeyed) (hsent : NoneSent s.Conversations)
    (hu : ∀ k ∈ s.Contacts, (k.UnACKed : Int) ≤ (L.MaxMissingMessages : Int) - 1)
    (hr : Reachable L s prov c) :
    (∀ p, ((c.heap p).UnACKed : Int) ≤ (L.MaxMissingMessages : Int) - 1) ∧
    ∀ a id n m c', step L c a (.sendMessage id n m) = .ok c' →
      ∀ p, ((c'.heap p).UnACKed : Int) ≤ (L.MaxMissingMessages : Int) - 1 := by
  obtain ⟨hw, hc⟩ := hr.induction_step (P := InWindow L)
    (fun _ _ h₀ => InWindow.start hpos hs hsent hu h₀) fun _ _ hc hw hs => hw.step hpos hc hs
  exact ⟨hw.unACKed_le, fun a _ _ _ _ h => (hw.step hpos hc (.loop _ a h)).unACKed_le⟩

/-- `alice`'s first state lists no message, so none marked sent. -/
theorem aliceState_noneSent : NoneSent aliceState.Conversations := fun n id m hm => by
  simp [aliceState, Conversations.message, AList.lookup_empty] at hm

/-- Limits with a window of one message. -/
def tightLimits : Limits := { limits with MaxMissingMessages := 1 }

/-- `alice`'s client under `tightLimits`, once started: `bob`'s count is at the edge of the
window. -/
def tightStarted : Client := started tightLimits aliceState "provider" withPanda

theorem tightStarted_within_window :
    0 < tightLimits.MaxMissingMessages ∧ aliceState.WellKeyed ∧ NoneSent aliceState.Conversations ∧
    (∀ k ∈ aliceState.Contacts, (k.UnACKed : Int) ≤ (tightLimits.MaxMissingMessages : Int) - 1) ∧
    Reachable tightLimits aliceState "provider" tightStarted ∧
    ((tightStarted.heap 0).UnACKed : Int) = (tightLimits.MaxMissingMessages : Int) - 1 ∧
    (∀ p, ((tightStarted.heap p).UnACKed : Int) ≤ (tightLimits.MaxMissingMessages : Int) - 1) ∧
    ∀ a id n m c', step tightLimits tightStarted a (.sendMessage id n m) = .ok c' →
      ∀ p, ((c'.heap p).UnACKed : Int) ≤ (tightLimits.MaxMissingMessages : Int) - 1 :=
  have hu : ∀ k ∈ aliceState.Contacts,
      (k.UnACKed : Int) ≤ (tightLimits.MaxMissingMessages : Int) - 1 := by decide
  have hr : Reachable tightLimits aliceState "provider" tightStarted := Reachable.start (by decide)
  ⟨by decide, aliceState_wellKeyed, aliceState_noneSent, hu, hr, by decide,
    unACKed_within_window (by decide) aliceState_wellKeyed aliceState_noneSent hu hr⟩

/-! ### A full window stays full -/

/-- **A full window never reopens.** From a well-keyed saved state with no message marked
sent and every count within the window, once a contact's count of unacknowledged messages
reaches `MaxMissingMessages - 1`, every later send to it panics in `doRetransmit`, as long as
its nickname names it and it is established: no step ever lowers the count. -/
theorem window_stays_full (hpos : 0 < L.MaxMissingMessages) {s : State} {prov : String}
    (hs : s.WellKeyed) (hsent : NoneSent s.Conversations)
    (hu : ∀ k ∈ s.Contacts, (k.UnACKed : Int) ≤ (L.MaxMissingMessages : Int) - 1)
    (hr : Reachable L s prov c) (hrun : Relation.ReflTransGen (Step L) c c') {n : String}
    {p : Ptr} (hp : c.contactNicknames.lookup n = some p)
    (hw : ((c.heap p).UnACKed : Int) = (L.MaxMissingMessages : Int) - 1)
    (hp' : c'.contactNicknames.lookup n = some p) (hpend : (c'.heap p).IsPending = false)
    (a : Answers) (id : MessageID) (m : Bytes) :
    step L c' a (.sendMessage id n m) = .error (.panic "runtime error: slice bounds out of range") := by
  -- every reachable state is in the window, with the mutex free
  have hwin : ∀ {d}, Reachable L s prov d → InWindow L d ∧ d.conversationsLocked = false :=
    fun hd => hd.induction_step (fun _ _ h => InWindow.start hpos hs hsent hu h)
      fun _ _ hc hw hs => hw.step hpos hc hs
  -- the count at `p` never goes down
  have hmono : p < c'.nextPtr ∧ (c.heap p).UnACKed ≤ (c'.heap p).UnACKed := by
    clear hp' hpend
    have hi := (hwin hr).1.index
    induction hrun with
    | refl => exact ⟨hi.lt_nextPtr _ p (hi.nicknames_key n p hp).2, le_rfl⟩
    | @tail b d hab hbc ih =>
      have he := (hbc.effect (hwin (hr.trans hab)).2).2
      exact ⟨lt_of_lt_of_le ih.1 he.nextPtr_le, ih.2.trans (he.unACKed_le (Nat.ne_of_lt ih.1))⟩
  obtain ⟨hw', hc'⟩ := hwin (hr.trans hrun)
  have hfull : ((c'.heap p).UnACKed : Int) = (L.MaxMissingMessages : Int) - 1 := by
    have := hw'.unACKed_le p
    omega
  exact doSendMessage_at_window hc' hp' (hw'.index.nicknames_key n p hp').1 hpend hfull hw'.noneSent

theorem tightStarted_window_full :
    0 < tightLimits.MaxMissingMessages ∧ aliceState.WellKeyed ∧ NoneSent aliceState.Conversations ∧
      (∀ k ∈ aliceState.Contacts, (k.UnACKed : Int) ≤ (tightLimits.MaxMissingMessages : Int) - 1) ∧
      Reachable tightLimits aliceState "provider" tightStarted ∧
      tightStarted.contactNicknames.lookup "bob" = some 0 ∧
      ((tightStarted.heap 0).UnACKed : Int) = (tightLimits.MaxMissingMessages : Int) - 1 ∧
      (tightStarted.heap 0).IsPending = false ∧
      step tightLimits tightStarted default (.sendMessage greetingID "bob" [104, 105]) =
        .error (.panic "runtime error: slice bounds out of range") :=
  have hu : ∀ k ∈ aliceState.Contacts,
      (k.UnACKed : Int) ≤ (tightLimits.MaxMissingMessages : Int) - 1 := by decide
  have hr : Reachable tightLimits aliceState "provider" tightStarted := Reachable.start (by decide)
  ⟨by decide, aliceState_wellKeyed, aliceState_noneSent, hu, hr, by decide, by decide, by decide,
    window_stays_full (p := 0) (by decide) aliceState_wellKeyed aliceState_noneSent hu hr .refl
      (by decide) (by decide) (by decide) (by decide) default greetingID [104, 105]⟩

end Catshadow
