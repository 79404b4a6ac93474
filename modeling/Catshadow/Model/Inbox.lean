import Catshadow.Model.Messages

/-!
# Reading the spool, and replies

`sendReadInbox`, `decryptMessage` and `handleReply` of `client.go`.

`handleReply` defers `c.sendMap.Delete(replyEvent.MessageID)`. The event's
`MessageID` is a `*[16]byte` (it is what `decryptMessage` takes), while every entry
was stored under the array it points to, so the deferred delete is of a key that is
never present (`SendKey.pointer`).
-/

namespace Catshadow

/-- The slice-bounds panic of Go's runtime. -/
def sliceOutOfRange : String := "runtime error: slice bounds out of range"

/-- `plaintext[4 : 4+payloadLen]` after `payloadLen := binary.BigEndian.Uint32(plaintext[:4])`:
the body of a decrypted frame. The bound `4+payloadLen` is a `uint32` sum, and a decrypted
slice's capacity is taken to be its length. -/
def parseFrame (plaintext : Bytes) : Except Halt Bytes :=
  if plaintext.length < 4 then throw (.panic sliceOutOfRange)
  else
    let high := (4 + uint32 plaintext).toNat
    if high < 4 ∨ plaintext.length < high then throw (.panic sliceOutOfRange)
    else pure ((plaintext.take high).drop 4)

/-- The message `decryptMessage` records for a decrypted body. -/
def inbound (body : Bytes) (now : Time) : Message :=
  { Plaintext := body, Ciphertext := [], Timestamp := now, Outbound := false, Sent := false,
    Delivered := false }

namespace Client

/-- `sendReadInbox()`: ask the spool for the slot at `ReadOffset`, and remember the transport
id under the user's own nickname with the offset written into the `MessageID`. -/
def sendReadInbox (c : Client) (a : Answers) : Except Halt Client :=
  match c.spoolReadDescriptor with
  | none => throw (.panic nilDereference)
  | some d =>
    let sequence := d.ReadOffset
    match a.readFromSpool, a.sendUnreliable with
    | some _, _ => c.fatal "failed to compose spool read command"
    | none, .error _ => pure c
    | none, .ok t => pure (c.store (.array t) ⟨⟨c.user, sequenceID sequence⟩, .readInbox⟩)

/-- The trial loop of `decryptMessage` over the contacts in `order`: the first one that is
not pending and whose ratchet decrypts, with the plaintext. -/
def trialDecrypt (c : Client) (a : Answers) : List Ptr → Option (Ptr × Bytes)
  | [] => none
  | p :: ps =>
    if (c.heap p).IsPending then c.trialDecrypt a ps
    else match a.decrypt p with
      | .ok plaintext => some (p, plaintext)
      | .error _ => c.trialDecrypt a ps

/-- `decryptMessage(messageID, ciphertext)`, returning `decrypted`: the ciphertext reaches
only the ratchets, whose answers are `a.decrypt`, and the id only the log. -/
def decryptMessage (c : Client) (a : Answers) : Except Halt (Bool × Client) := do
  match c.trialDecrypt a (a.contactOrder (c.contacts.entries.map Sigma.snd)) with
  | none => pure (false, c)
  | some (p, plaintext) =>
    let body ← parseFrame plaintext
    let nickname := (c.heap p).Nickname
    let message := inbound body a.now
    let c ← c.fatalIfErr a.freshIDErr
    let c ← c.lockConversations
    let c := c.modifyConversations (·.insertMessage nickname a.freshID message)
    let c := c.emit (.messageReceived nickname message.Plaintext message.Timestamp)
    pure (true, c.unlockConversations)

/-- The `panic` text of `handleReply` for a response past the tip of the spool. -/
def notRequestedYet : String := "received spool response for MessageID not requested yet"

/-- `handleReply(replyEvent)`. Every return runs the deferred delete `done`. -/
def handleReply (c : Client) (replyEvent : MessageReplyEvent) (a : Answers) : Except Halt Client := do
  match c.sendMap.lookup (.array replyEvent.MessageID.target) with
  | none => pure c
  | some ev =>
    let done : Client → Client := fun c => c.delete (.pointer replyEvent.MessageID.addr)
    let tp := ev.descriptor
    match replyEvent.Payload with
    | .error err =>
      let c ← c.fatal ("BUG, invalid spool response, error is " ++ err)
      pure (done c)
    | .ok spoolResponse =>
      if !spoolResponse.IsOK then pure (done c)
      else if tp.Nickname ≠ c.user then
        let c ← c.lockConversations
        let c ← match c.conversations.message tp.Nickname tp.MessageID with
          | some _ =>
            match c.contactNicknames.lookup tp.Nickname with
            | some p =>
              if 0 < (c.heap p).UnACKed then
                let c := c.modifyContact p fun k => { k with UnACKed := k.UnACKed - 1 }
                (c.modifyConversations (·.modifyMessage tp.Nickname tp.MessageID
                  fun m => { m with Delivered := true, Ciphertext := [] })).save a
              else throw (.panic "bug")
            | none => throw (.panic "bug")
          | none => pure c
        let c := c.unlockConversations
        pure (done (c.emit (.messageDelivered tp.Nickname tp.MessageID)))
      else
        match c.spoolReadDescriptor with
        | none => throw (.panic nilDereference)
        | some d =>
          if spoolResponse.MessageID < d.ReadOffset then pure (done c)
          else if spoolResponse.MessageID = d.ReadOffset then
            let c := { c with spoolReadDescriptor := some d.IncrementOffset }
            let (decrypted, c) ← c.decryptMessage a
            if !decrypted then throw (.panic "failure to decrypt tip of spool")
            else pure (done c)
          else throw (.panic notRequestedYet)

end Client

end Catshadow
