import Catshadow.Properties.Locking

/-!
# Counting unacknowledged messages

`UnACKed` is the contact's count of messages handed to the transport and not yet
acknowledged by the peer's spool; `doSendMessage` stops sending past
`MaxMissingMessages - 1`. Nothing ties the count to the conversation: conversation
garbage collection drops expired messages whether delivered or not, and a removed
contact's conversation stays while its counter goes with it.

`unACKed_drifts_after_gc` is a reachable state where `bob`'s counter is one and his
conversation holds no undelivered message. `unACKed_step` is what the code does
instead: one step changes a counter only when `doSendMessage` submits a message that the
session accepts (one up), or when a contact is created in a fresh heap cell (from zero).
No step that returns lowers a counter: `handleReply` decrements it under
`conversationsMutex` and then saves, which locks the mutex again (`handleReply_deadlock`).

`handleReply` asserts its count with `panic("bug")`. `handleReply_bug` gives the
condition under which it fires, and `reply_after_removal_panics` reaches it: a reply
for a message to a contact removed since.
-/

namespace Catshadow

/-- `handleReply` panics on an acknowledgement for a message still in its conversation
when no contact has the nickname, or the contact's counter is zero. -/
theorem handleReply_bug {c : Client} {ev : MessageReplyEvent} {a : Answers} {e : SendEntry}
    {r : SpoolResponse} (hc : c.conversationsLocked = false)
    (he : c.sendMap.lookup (.array ev.MessageID.target) = some e) (hn : e.descriptor.Nickname ≠ c.user)
    (hr : ev.Payload = .ok r) (hok : r.IsOK)
    (hm : (c.conversations.message e.descriptor.Nickname e.descriptor.MessageID).isSome)
    (hp : ∀ p, c.contactNicknames.lookup e.descriptor.Nickname = some p → (c.heap p).UnACKed = 0) :
    c.handleReply ev a = .error (.panic "bug") := by
  obtain ⟨msg, hm⟩ := Option.isSome_iff_exists.mp hm
  cases hl : c.contactNicknames.lookup e.descriptor.Nickname with
  | none =>
    simp [Client.handleReply, he, hn, hr, hok, Client.lockConversations_of_unlocked hc, hm, hl]
  | some p =>
    simp [Client.handleReply, he, hn, hr, hok, Client.lockConversations_of_unlocked hc, hm, hl,
      hp p hl]

/-- `greeted` once `alice` has removed `bob`. -/
def bobRemoved : Client := greeted.next limits default (.removeContact "bob")

/-- The spool acknowledges the message `alice` sent to `bob` before she removed him:
the loop panics. -/
theorem reply_after_removal_panics :
    Reachable limits aliceState "provider" bobRemoved ∧
      step limits bobRemoved default (.messageReply ⟨⟨0, transportID⟩, .ok ⟨0, "OK", []⟩⟩) =
        .error (.panic "bug") :=
  have hr : Reachable limits aliceState "provider" bobRemoved :=
    greeted_reachable.tail (Step.next (by decide))
  ⟨hr, @handleReply_bug bobRemoved ⟨⟨0, transportID⟩, .ok ⟨0, "OK", []⟩⟩ default
    ⟨⟨"bob", greetingID⟩, .sendMessage⟩ ⟨0, "OK", []⟩ hr.unlocked (by decide) (by decide) rfl
    (by decide) (by decide) fun p hp => nomatch (show bobRemoved.contactNicknames.lookup "bob" = none
      by decide) ▸ hp⟩

end Catshadow
