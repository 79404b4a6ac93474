import Catshadow.Properties.Conversations

/-!
# Retransmission

`doRetransmit` collects the messages of the contact's conversation that are outbound,
sent and not delivered (`retransmitCandidates`), sorts them by timestamp, and resubmits
`rTx[:someLimit]` with `someLimit = 4`. A Go slice expression may reach up to the slice's
capacity, not only its length, and `rTx` was grown by `append` from an empty slice
(`appendCap`):

* `doRetransmit_few`: with fewer than three candidates the capacity is below four, and
  the slice expression panics;
* `doRetransmit_three`: with three, the capacity is four and the fourth element is a nil
  `*msgWithID`; once the three are resubmitted, reading it panics;
* `doRetransmit_many`: with four or more, exactly the first four in timestamp order are
  resubmitted, in that order.

`retransmit_few_panics` is a call of the first kind, for `bob` in `greeted`: his
conversation holds only the message just sent, which is not marked sent.
-/

namespace Catshadow

variable {c : Client} {p : Ptr} {a : Answers} {conv : Conversation}

/-! ### Capacity -/

/-- A slice has room for its elements. -/
theorem le_appendCap : ∀ n, n ≤ appendCap n
  | 0 => le_refl _
  | n + 1 => by
    have := le_appendCap n
    unfold appendCap
    split_ifs <;> omega

/-- Three `append`s from empty give capacity four; fewer give less. -/
theorem appendCap_lt_four : ∀ {n : Nat}, appendCap n < 4 ↔ n < 3
  | 0 | 1 | 2 | 3 => by decide
  | n + 4 => by have := le_appendCap (n + 4); omega

/-! ### The candidates -/

theorem retransmitCandidates_eq_nil (order : List MessageID)
    (h : ∀ id m, conv.lookup id = some m → m.Sent = false) :
    retransmitCandidates conv order = [] :=
  List.filterMap_eq_nil_iff.mpr fun id _ => by
    cases hm : conv.lookup id with
    | none => rfl
    | some m => simp [h id m hm]

/-- With no message marked sent, a conversation has no candidate. -/
theorem retransmitCandidates_of_noneSent {convs : Conversations} {n : String} (h : NoneSent convs)
    (hconv : convs.lookup n = some conv) (order : List MessageID) :
    retransmitCandidates conv order = [] :=
  retransmitCandidates_eq_nil order fun id m hm =>
    h n id m (by simp [Conversations.message, hconv, hm])

@[simp] theorem length_sortByTimestamp (rTx : List (MessageID × Message)) :
    (sortByTimestamp rTx).length = rTx.length :=
  List.length_mergeSort _

theorem doRetransmit_of_lookup (hconv : c.conversations.lookup (c.heap p).Nickname = some conv) :
    c.doRetransmit p a =
      if appendCap (retransmitCandidates conv (a.conversationOrder conv.keys)).length < 4 then
        .error (.panic "runtime error: slice bounds out of range")
      else c.resendAll (c.heap p) a 0 (((sortByTimestamp
        (retransmitCandidates conv (a.conversationOrder conv.keys))).map some ++
          List.replicate 4 none).take 4) := by
  simp only [Client.doRetransmit, hconv, length_sortByTimestamp]
  rfl

/-! ### Few candidates, and many -/

/-- With fewer than three candidates, `rTx[:4]` is past the slice's capacity. -/
theorem doRetransmit_few (hconv : c.conversations.lookup (c.heap p).Nickname = some conv)
    (hk : (retransmitCandidates conv (a.conversationOrder conv.keys)).length < 3) :
    c.doRetransmit p a = .error (.panic "runtime error: slice bounds out of range") := by
  rw [doRetransmit_of_lookup hconv, if_pos (appendCap_lt_four.mpr hk)]

/-- With three candidates, once the three are resubmitted, the nil fourth element of
`rTx[:4]` is dereferenced. -/
theorem doRetransmit_three {w : SpoolWriteDescriptor}
    (hconv : c.conversations.lookup (c.heap p).Nickname = some conv)
    (hw : (c.heap p).spoolWriteDescriptor = some w)
    (hk : (retransmitCandidates conv (a.conversationOrder conv.keys)).length = 3)
    (hres : ∀ i < 3, ∃ t, a.resend i = (none, .ok t)) :
    c.doRetransmit p a = .error (.panic nilDereference) := by
  have hlen : (sortByTimestamp (retransmitCandidates conv (a.conversationOrder conv.keys))).length = 3 := by
    rw [length_sortByTimestamp, hk]
  obtain ⟨⟨i₀, m₀⟩, ⟨i₁, m₁⟩, ⟨i₂, m₂⟩, hxyz⟩ := List.length_eq_three.mp hlen
  obtain ⟨t₀, h₀⟩ := hres 0 (by decide)
  obtain ⟨t₁, h₁⟩ := hres 1 (by decide)
  obtain ⟨t₂, h₂⟩ := hres 2 (by decide)
  rw [doRetransmit_of_lookup hconv, hk, hxyz]
  simp [appendCap, Client.resendAll, hw, h₀, h₁, h₂]

/-- With four candidates or more, `doRetransmit` resubmits the first four in timestamp
order, in that order. -/
theorem doRetransmit_many (hconv : c.conversations.lookup (c.heap p).Nickname = some conv)
    (hk : 4 ≤ (retransmitCandidates conv (a.conversationOrder conv.keys)).length) :
    c.doRetransmit p a = c.resendAll (c.heap p) a 0
      (((sortByTimestamp (retransmitCandidates conv (a.conversationOrder conv.keys))).take 4).map some) := by
  have hcap := le_appendCap (retransmitCandidates conv (a.conversationOrder conv.keys)).length
  rw [doRetransmit_of_lookup hconv, if_neg (by omega),
    List.take_append_of_le_length (by simpa using hk), List.map_take]

/-! ### A call with one message -/

/-- `doRetransmit` for `bob` in `greeted`, whose conversation holds one message, not marked
sent: the slice expression panics. -/
theorem retransmit_few_panics :
    Reachable limits aliceState "provider" greeted ∧
      (greeted.conversations.lookup (greeted.heap 0).Nickname).isSome ∧
      greeted.doRetransmit 0 accepting = .error (.panic "runtime error: slice bounds out of range") := by
  have hsome : (greeted.conversations.lookup (greeted.heap 0).Nickname).isSome := by decide
  have hnone : NoneSent greeted.conversations := noneSent_of_reachable (fun n id m hm => by
    simp [aliceState, Conversations.message, AList.lookup_empty] at hm) greeted_reachable
  obtain ⟨conv, hconv⟩ := Option.isSome_iff_exists.mp hsome
  refine ⟨greeted_reachable, hsome, doRetransmit_few hconv ?_⟩
  rw [retransmitCandidates_of_noneSent hnone hconv]
  decide

end Catshadow
