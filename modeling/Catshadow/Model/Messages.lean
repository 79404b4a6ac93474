import Catshadow.Model.Contacts

/-!
# Sending messages

`doSendMessage`, `doRetransmit`, `handleSent`, `garbageCollectSendMap` and
`garbageCollectConversations` of `client.go`.

`doRetransmit` slices its candidate list with `rTx[:someLimit]`. Go allows a slice
expression up to the slice's capacity, not its length: the list was grown by
`append` from empty, so with three candidates the capacity is four and the fourth
element is a nil `*msgWithID`, with fewer the slice expression itself panics
(`appendCap`).
-/

namespace Catshadow

/-- The buffer `doSendMessage` encrypts: `[DoubleRatchetPayloadLength]byte` holding the
big-endian `uint32(len(message))`, then as much of `message` as `copy` fits, then
zeros. -/
def frame (L : Limits) (message : Bytes) : Bytes :=
  putUint32 (UInt32.ofNat message.length) ++
    (message ++ List.replicate L.DoubleRatchetPayloadLength 0).take (L.DoubleRatchetPayloadLength - 4)

/-- The message `doSendMessage` records before it looks the contact up. -/
def outbound (message : Bytes) (now : Time) : Message :=
  { Plaintext := message, Ciphertext := [], Timestamp := now, Outbound := true, Sent := false,
    Delivered := false }

/-- The messages `doRetransmit` collects, `Outbound && !Delivered && Sent`, in the order
its `range` visits the conversation. -/
def retransmitCandidates (convMap : Conversation) (order : List MessageID) :
    List (MessageID × Message) :=
  order.filterMap fun id =>
    (convMap.lookup id).bind fun msg =>
      if msg.Outbound && !msg.Delivered && msg.Sent then some (id, msg) else none

/-- `sort.Sort(rTx)` with `Less` comparing `Timestamp.Before`. -/
def sortByTimestamp (rTx : List (MessageID × Message)) : List (MessageID × Message) :=
  rTx.mergeSort fun x y => x.2.Timestamp ≤ y.2.Timestamp

namespace Client

/-- The loop of `doRetransmit` over `rTx[:someLimit]`, the `i`-th element next; `none`
stands for a nil `*msgWithID` read past the length. Returns the loop's `error`. -/
def resendAll (contact : Contact) (a : Answers) :
    Client → Nat → List (Option (MessageID × Message)) → Except Halt (Option String × Client)
  | c, _, [] => pure (none, c)
  | c, i, msg :: rest =>
    match contact.spoolWriteDescriptor, msg with
    | none, _ => throw (.panic nilDereference)
    | some _, none => throw (.panic nilDereference)
    | some _, some (id, _) =>
      match a.resend i with
      | (some e, _) => pure (some e, c)
      | (none, .error e) => pure (some e, c)
      | (none, .ok t) =>
        resendAll contact a (c.store (.array t) ⟨⟨contact.Nickname, id⟩, .retransmit⟩) (i + 1) rest

/-- `doRetransmit(contact)`, returning its `error`: resubmit the first four undelivered
sent messages of the contact's conversation, oldest first. -/
def doRetransmit (c : Client) (p : Ptr) (a : Answers) : Except Halt (Option String × Client) :=
  let contact := c.heap p
  match c.conversations.lookup contact.Nickname with
  | none => pure (some ("Retransmit failure: No conversations found for " ++ contact.Nickname), c)
  | some convMap =>
    let rTx := sortByTimestamp (retransmitCandidates convMap (a.conversationOrder convMap.keys))
    let someLimit := 4
    if appendCap rTx.length < someLimit then
      throw (.panic "runtime error: slice bounds out of range")
    else
      c.resendAll contact a 0 ((rTx.map some ++ List.replicate someLimit none).take someLimit)

/-- The end of `doSendMessage` once the contact at `p` is found, established and its window
checked: frame and encrypt the message, keep the ciphertext on it, append it to the peer's
spool, count it as unacknowledged, save, and remember the transport id. -/
def submit (L : Limits) (c : Client) (p : Ptr) (convoMesgID : MessageID) (nickname : String)
    (message : Bytes) (a : Answers) : Except Halt Client := do
  let contact := c.heap p
  let ciphertext := a.encrypt (frame L message)
  let c := c.modifyConversations
    (·.modifyMessage nickname convoMesgID fun m => { m with Ciphertext := ciphertext })
  match contact.spoolWriteDescriptor, a.appendToSpool, a.sendUnreliable with
  | none, _, _ => throw (.panic nilDereference)
  | some _, some _, _ => pure c
  | some _, none, .error _ => pure c
  | some _, none, .ok t =>
    let c := c.modifyContact p fun k => { k with UnACKed := k.UnACKed + 1 }
    let c ← c.save a
    pure (c.store (.array t) ⟨⟨nickname, convoMesgID⟩, .sendMessage⟩)

/-- `doSendMessage(convoMesgID, nickname, message)`. -/
def doSendMessage (L : Limits) (c : Client) (convoMesgID : MessageID) (nickname : String)
    (message : Bytes) (a : Answers) : Except Halt Client := do
  let c ← c.lockConversations
  let c := c.modifyConversations (·.insertMessage nickname convoMesgID (outbound message a.now))
  let c := c.unlockConversations
  match c.contactNicknames.lookup nickname with
  | none => pure c
  | some p =>
    if (c.heap p).IsPending then pure c
    else
      let c ← if ((c.heap p).UnACKed : Int) = (L.MaxMissingMessages : Int) - 1 then
          Prod.snd <$> c.doRetransmit p a
        else pure c
      c.submit L p convoMesgID nickname message a

/-- `handleSent(sentEvent)`: mark the message sent and report it; an entry stored for the
user's own nickname is an acknowledgement of a read-inbox request. -/
def handleSent (c : Client) (sentEvent : MessageSentEvent) (a : Answers) : Except Halt Client := do
  match c.sendMap.lookup (.array sentEvent.MessageID.target) with
  | none => pure c
  | some orig =>
    let tp := orig.descriptor
    if tp.Nickname = c.user then pure c
    else
      let c ← c.lockConversations
      let c ← match c.conversations.message tp.Nickname tp.MessageID with
        | some _ =>
          (c.modifyConversations (·.modifyMessage tp.Nickname tp.MessageID
            fun m => { m with Sent := true })).save a
        | none => pure c
      let c := c.unlockConversations
      pure (c.emit (.messageSent tp.Nickname tp.MessageID))

/-- `garbageCollectSendMap(gcEvent)`: `c.sendMap.Delete(gcEvent.MessageID)`, with the
event's pointer as the key. -/
def garbageCollectSendMap (c : Client) (gcEvent : MessageIDGarbageCollected) : Client :=
  c.delete (.pointer gcEvent.MessageID.addr)

/-- `time.Now().After(message.Timestamp.Add(MessageExpirationDuration))`. -/
def expired (L : Limits) (now : Time) (message : Message) : Bool :=
  decide (message.Timestamp + L.MessageExpirationDuration < now)

/-- What `garbageCollectConversations` leaves of one message: an outbound delivered
message loses its ciphertext. -/
def collected (message : Message) : Message :=
  if message.Outbound && message.Delivered then { message with Ciphertext := [] } else message

@[simp] theorem Outbound_collected (message : Message) :
    (collected message).Outbound = message.Outbound := by
  unfold collected; split <;> rfl

@[simp] theorem Sent_collected (message : Message) : (collected message).Sent = message.Sent := by
  unfold collected; split <;> rfl

@[simp] theorem Delivered_collected (message : Message) :
    (collected message).Delivered = message.Delivered := by
  unfold collected; split <;> rfl

@[simp] theorem Timestamp_collected (message : Message) :
    (collected message).Timestamp = message.Timestamp := by
  unfold collected; split <;> rfl

theorem collected_collected (message : Message) : collected (collected message) = collected message := by
  unfold collected; split <;> simp_all

/-- `garbageCollectConversations()`: under the mutex, drop expired messages and the
ciphertext of delivered ones. -/
def garbageCollectConversations (L : Limits) (c : Client) (a : Answers) : Except Halt Client := do
  let c ← c.lockConversations
  let c := c.modifyConversations
    (GoMap.filterMapVal (fun _ => true) (GoMap.filterMapVal (fun m => !expired L a.now m) collected))
  pure c.unlockConversations

end Client

end Catshadow
