import Catshadow.Model.Basic

/-!
# The client's state

The `Client` struct of `client.go` and the records it holds, with what its
goroutines change outside the struct: the events put on `eventCh`, the errors
sent on `fatalErrCh`, the last state handed to the state writer, the PANDA
goroutines it started and the channels it closed.

Contacts are shared: `contacts` and `contactNicknames` both map to `*Contact`,
and a write through one is seen through the other. The model keeps the contact
objects in a heap indexed by `Ptr` and the two maps map to pointers, so that
whether the maps agree is a property to prove, not a fact of the encoding.
Messages are never shared between two map entries, so conversations hold
values.

`conversationsMutex` is a flag. A `sync.Mutex` is not reentrant, and the loop is
the only goroutine that ever holds it across a call, so locking it while the
loop holds it blocks the loop for ever: `Halt.deadlock`. So does a second send on
`fatalErrCh`, which is unbuffered and which the watcher goroutine receives from once.

Every call into code outside `client.go` is answered by `Answers`, one record
for one operation of the loop: a statement over all answers is a statement over
every behaviour of the session, the ratchet, the PANDA library, the spool codec,
`crypto/rand` and the clock.
-/

namespace Catshadow

/-- A contact's double ratchet (`*ratchet.Ratchet`). The model keeps whether
`ProcessKeyExchange` has succeeded on it; its keys and counters stay in the library,
whose `Encrypt` and `Decrypt` are answers. -/
structure Ratchet where
  /-- `ProcessKeyExchange` has succeeded on this ratchet. -/
  keyExchanged : Bool
  deriving DecidableEq, Inhabited

/-- `memspoolclient.SpoolWriteDescriptor`: where to append to a peer's spool. -/
structure SpoolWriteDescriptor where
  ID : Bytes
  Receiver : String
  Provider : String
  deriving DecidableEq

/-- `memspoolclient.SpoolReadDescriptor`: the client's own spool, and the index of its
next unread slot. -/
structure SpoolReadDescriptor where
  ID : Bytes
  PrivateKey : Bytes
  Receiver : String
  Provider : String
  ReadOffset : UInt32
  deriving DecidableEq

/-- `(*SpoolReadDescriptor).IncrementOffset`: `ReadOffset += 1` on a `uint32`. -/
def SpoolReadDescriptor.IncrementOffset (d : SpoolReadDescriptor) : SpoolReadDescriptor :=
  { d with ReadOffset := d.ReadOffset + 1 }

/-- A `chan struct{}`, by its identity. -/
abbrev Chan := Nat

/-- A `*Contact`, by the heap cell it points to. -/
abbrev Ptr := Nat

/-- `Contact` (declared in `contact.go`): the fields `client.go` reads and writes. -/
structure Contact where
  id : UInt64
  Nickname : String
  IsPending : Bool
  ratchet : Ratchet
  /-- The contact-exchange blob handed to the PANDA exchange; `nil` once it is started. -/
  keyExchange : Bytes
  /-- The serialised PANDA exchange, kept so that it can be resumed. -/
  pandaKeyExchange : Bytes
  pandaResult : String
  spoolWriteDescriptor : Option SpoolWriteDescriptor
  pandaShutdownChan : Option Chan
  UnACKed : Nat
  deriving DecidableEq, Inhabited

/-- `Message` (declared outside `client.go`). -/
structure Message where
  Plaintext : Bytes
  Ciphertext : Bytes
  Timestamp : Time
  Outbound : Bool
  Sent : Bool
  Delivered : Bool
  deriving DecidableEq

/-- `map[MessageID]*Message`, one conversation. -/
abbrev Conversation := GoMap MessageID Message

/-- `map[string]map[MessageID]*Message`, the conversations by nickname. -/
abbrev Conversations := GoMap String Conversation

/-- `SentMessageDescriptor`: what a transport id was used for. -/
structure SentMessageDescriptor where
  Nickname : String
  MessageID : MessageID
  deriving DecidableEq

/-- Ghost state: which operation stored a `sendMap` entry. No code of the model reads it. -/
inductive Origin where
  /-- `doSendMessage`. -/
  | sendMessage
  /-- `doRetransmit`. -/
  | retransmit
  /-- `sendReadInbox`. -/
  | readInbox
  deriving DecidableEq

/-- A `sendMap` value: the `*SentMessageDescriptor`, and who stored it. -/
structure SendEntry where
  descriptor : SentMessageDescriptor
  /-- Ghost. -/
  origin : Origin
  deriving DecidableEq

/-- A key of `sendMap`, a `sync.Map` keyed by `interface{}`. Go compares such keys by
their dynamic type and value, so a `[16]byte` and a `*[16]byte` are never the same key. -/
inductive SendKey where
  /-- A `[16]byte` value. -/
  | array (id : TransportID)
  /-- A `*[16]byte`, compared by address. -/
  | pointer (addr : Nat)
  deriving DecidableEq

/-- The events `client.go` puts on `eventCh`. -/
inductive Event where
  | keyExchangeCompleted (Nickname : String) (Err : Option String)
  | messageSent (Nickname : String) (MessageID : MessageID)
  | messageDelivered (Nickname : String) (MessageID : MessageID)
  | messageReceived (Nickname : String) (Message : Bytes) (Timestamp : Time)
  deriving DecidableEq

/-- The `State` record `marshal` serialises and `New` loads. -/
structure State where
  SpoolReadDescriptor : Option SpoolReadDescriptor
  Contacts : List Contact
  LinkKey : Bytes
  User : String
  Provider : String
  Conversations : Conversations
  deriving DecidableEq

/-- A running PANDA goroutine (`kx.Run()`): the contact id it reports for and the cancel
channel it was started with. -/
structure KxTask where
  ID : UInt64
  shutdownChan : Option Chan
  deriving DecidableEq

/-- The client. -/
structure Client where
  /-- `sendMap`: transport id to what it was used for. -/
  sendMap : GoMap SendKey SendEntry
  linkKey : Bytes
  user : String
  /-- The contact objects. -/
  heap : Ptr → Contact
  /-- The next unused heap cell. -/
  nextPtr : Ptr
  contacts : GoMap UInt64 Ptr
  contactNicknames : GoMap String Ptr
  spoolReadDescriptor : Option SpoolReadDescriptor
  conversations : Conversations
  /-- `conversationsMutex` is held. -/
  conversationsLocked : Bool
  /-- `c.client.Provider()`. -/
  provider : String
  /-- What has been put on `eventCh`, oldest first. -/
  events : List Event
  /-- What has been sent on `fatalErrCh` and taken by the watcher. -/
  fatalErrors : List String
  /-- The last state written by `save`. -/
  saved : Option State
  /-- How many channels have been made: the next one is `chans`. -/
  chans : Nat
  /-- The channels closed so far. -/
  closed : List Chan
  /-- The PANDA goroutines running. -/
  kxTasks : List KxTask

/-- How a Go operation stops short of returning. -/
inductive Halt where
  /-- A panic: the process dies with this message. -/
  | panic (msg : String)
  /-- The loop waits for ever: on `conversationsMutex`, which it holds itself, or on a send
  to `fatalErrCh` that no goroutine receives any more. -/
  | deadlock
  /-- `randID`'s loop has not returned on the draws given. -/
  | unfinished
  deriving DecidableEq

/-- The text of Go's runtime panic on a nil dereference. -/
def nilDereference : String := "runtime error: invalid memory address or nil pointer dereference"

/-- `update.Err` of a PANDA update: the client library's `ErrReplyTimeout` (recognised by
identity), or another error. Each carries its `Error()` text. -/
inductive PandaError where
  | replyTimeout (text : String)
  | other (text : String)
  deriving DecidableEq

/-- `err.Error()`. -/
def PandaError.Error : PandaError → String
  | .replyTimeout t => t
  | .other t => t

/-- `panda.PandaUpdate`. -/
structure PandaUpdate where
  ID : UInt64
  Err : Option PandaError
  Serialised : Option Bytes
  Result : Option Bytes
  deriving DecidableEq

/-- `ContactExchange`, as `parseContactExchangeBytes` decodes it. Its signed key exchange
only reaches `ProcessKeyExchange`, whose answer the model takes. -/
structure ContactExchange where
  SpoolWriteDescriptor : Option SpoolWriteDescriptor
  deriving DecidableEq

/-- `common.SpoolResponse`: the fields `client.go` reads. -/
structure SpoolResponse where
  MessageID : UInt32
  Status : String
  Message : Bytes
  deriving DecidableEq

/-- `IsOK()`: the spool answered with status `OK`. -/
def SpoolResponse.IsOK (r : SpoolResponse) : Bool := r.Status == "OK"

/-- `client.MessageSentEvent`. -/
structure MessageSentEvent where
  MessageID : TransportIDPtr
  deriving DecidableEq

/-- `client.MessageReplyEvent`, its payload as `common.SpoolResponseFromBytes` decodes it. -/
structure MessageReplyEvent where
  MessageID : TransportIDPtr
  Payload : Except String SpoolResponse

/-- `client.MessageIDGarbageCollected`. -/
structure MessageIDGarbageCollected where
  MessageID : TransportIDPtr
  deriving DecidableEq

/-- What the code outside `client.go` answers during one operation of the loop. -/
structure Answers where
  /-- `time.Now()`; it does not move during one operation. -/
  now : Time
  /-- What `randID` reads from `rand.Reader`, as little-endian words, in order. -/
  draws : List (Except String UInt64)
  /-- `NewContact`'s ratchet set-up: an error, or the contact-exchange blob. -/
  newContact : Except String Bytes
  /-- `session.GetPandaConfig()` returns a configuration. -/
  pandaConfigured : Bool
  /-- `panda.NewKeyExchange`: an error, or the exchange's `Marshal()`. -/
  newKeyExchange : Except String Bytes
  /-- `panda.UnmarshalKeyExchange`'s error on a contact's serialised exchange. -/
  unmarshalKeyExchange : Bytes → Option String
  /-- `parseContactExchangeBytes(update.Result)`. -/
  contactExchange : Except String ContactExchange
  /-- `ratchet.ProcessKeyExchange`'s error. -/
  processKeyExchange : Option String
  /-- `ratchet.Encrypt` of a framed payload. -/
  encrypt : Bytes → Bytes
  /-- `common.AppendToSpool`'s error in `doSendMessage`. -/
  appendToSpool : Option String
  /-- `session.SendUnreliableMessage` in `doSendMessage` and `sendReadInbox`. -/
  sendUnreliable : Except String TransportID
  /-- The order in which `doRetransmit`'s `range` visits a conversation's keys. -/
  conversationOrder : List MessageID → List MessageID
  /-- A `range` visits every key once. -/
  conversationOrder_perm : ∀ l, (conversationOrder l).Perm l
  /-- `AppendToSpool`'s error and `SendUnreliableMessage`'s answer for the `i`-th
  resubmission of `doRetransmit`. -/
  resend : Nat → Option String × Except String TransportID
  /-- The order in which a `range` over `contacts` visits its values (`decryptMessage`,
  `Start`). -/
  contactOrder : List Ptr → List Ptr
  /-- A `range` visits every entry once. -/
  contactOrder_perm : ∀ l, (contactOrder l).Perm l
  /-- Each contact's `ratchet.Decrypt` of the ciphertext at hand. -/
  decrypt : Ptr → Except String Bytes
  /-- `rand.Reader.Read` of a fresh `MessageID`: its error, and the bytes read. -/
  freshIDErr : Option String
  freshID : MessageID
  /-- `common.ReadFromSpool`'s error. -/
  readFromSpool : Option String
  /-- `session.GetService(common.SpoolServiceName)`'s error; the descriptor it returns
  reaches only `NewSpoolReadDescriptor`. -/
  getService : Option String
  /-- `memspoolclient.NewSpoolReadDescriptor`: the descriptor and the error it returns. -/
  newSpoolReadDescriptor : Option SpoolReadDescriptor × Option String
  /-- `cbor.Marshal`'s error on the state `marshal` builds. -/
  cborMarshal : State → Option String
  /-- `stateWorker.writeState`'s error on the serialised state. -/
  writeState : State → Option String

/-- Answers in which every call of the session, the ratchet and the PANDA library fails or
finds nothing, and the state writer takes every state; concrete runs override fields. -/
instance : Inhabited Answers where
  default :=
    { now := 0, draws := [], newContact := .error "", pandaConfigured := false,
      newKeyExchange := .error "", unmarshalKeyExchange := fun _ => none,
      contactExchange := .error "", processKeyExchange := none, encrypt := id,
      appendToSpool := none, sendUnreliable := .error "", conversationOrder := id,
      conversationOrder_perm := List.Perm.refl, resend := fun _ => (none, .error ""),
      contactOrder := id, contactOrder_perm := List.Perm.refl, decrypt := fun _ => .error "",
      freshIDErr := none, freshID := ⟨List.replicate 16 0, rfl⟩, readFromSpool := none,
      getService := some "", newSpoolReadDescriptor := (none, some ""), cborMarshal := fun _ => none,
      writeState := fun _ => none }

/-- The state writer takes `s`: `cbor.Marshal` encodes it and `writeState` writes it. -/
def Answers.Writes (a : Answers) (s : State) : Prop := a.cborMarshal s = none ∧ a.writeState s = none

/-! ### Conversations -/

namespace Conversations

/-- `conversations[nickname][id]`, when both are present. -/
def message (convs : Conversations) (nickname : String) (id : MessageID) : Option Message :=
  (convs.lookup nickname).bind fun conv => conv.lookup id

/-- `if conversations[nickname] == nil { make }; conversations[nickname][id] = msg`. -/
def insertMessage (convs : Conversations) (nickname : String) (id : MessageID) (msg : Message) :
    Conversations :=
  convs.insert nickname (((convs.lookup nickname).getD ∅).insert id msg)

/-- A write through the `*Message` stored at `conversations[nickname][id]`. -/
def modifyMessage (convs : Conversations) (nickname : String) (id : MessageID)
    (f : Message → Message) : Conversations :=
  match convs.message nickname id with
  | some msg => convs.insertMessage nickname id (f msg)
  | none => convs

theorem message_insertMessage (convs : Conversations) (n n' : String) (id id' : MessageID)
    (msg : Message) :
    (convs.insertMessage n id msg).message n' id' =
      if n' = n ∧ id' = id then some msg else convs.message n' id' := by
  unfold message insertMessage
  by_cases hn : n' = n
  · subst hn
    by_cases hi : id' = id
    · subst hi; simp
    · cases h : convs.lookup n' <;> simp [h, hi, AList.lookup_insert_ne hi, -AList.insert_empty]
  · simp [hn]

@[simp] theorem insertMessage_insertMessage (convs : Conversations) (n : String) (id : MessageID)
    (msg msg' : Message) :
    (convs.insertMessage n id msg).insertMessage n id msg' = convs.insertMessage n id msg' := by
  simp [insertMessage, AList.insert_insert]

theorem modifyMessage_insertMessage (convs : Conversations) (n : String) (id : MessageID)
    (msg : Message) (f : Message → Message) :
    (convs.insertMessage n id msg).modifyMessage n id f = convs.insertMessage n id (f msg) := by
  simp [modifyMessage, message_insertMessage]

/-- A `range` over the conversations that edits and deletes messages in place. -/
theorem message_filterMapVal (convs : Conversations) (p : Message → Bool) (f : Message → Message)
    (n : String) (id : MessageID) :
    message (GoMap.filterMapVal (fun _ => true) (GoMap.filterMapVal p f) convs) n id =
      ((convs.message n id).filter p).map f := by
  unfold message
  cases h : convs.lookup n <;> simp [h, Option.filter]

end Conversations

/-! ### Operations on the client -/

namespace Client

/-- A write through the `*Contact` at `p`. -/
def modifyContact (c : Client) (p : Ptr) (f : Contact → Contact) : Client :=
  { c with heap := Function.update c.heap p (f (c.heap p)) }

/-- A change to the conversations map, or to messages in it. -/
def modifyConversations (c : Client) (f : Conversations → Conversations) : Client :=
  { c with conversations := f c.conversations }

/-- `conversationsMutex.Lock()`. -/
def lockConversations (c : Client) : Except Halt Client :=
  if c.conversationsLocked then .error .deadlock else .ok { c with conversationsLocked := true }

/-- `conversationsMutex.Unlock()`. -/
def unlockConversations (c : Client) : Client := { c with conversationsLocked := false }

/-- `c.eventCh.In() <- e`: the channel is unbounded, so this never blocks. -/
def emit (c : Client) (e : Event) : Client := { c with events := c.events ++ [e] }

/-- `c.fatalErrCh <- err`. The channel is unbuffered, and the watcher goroutine `Start`
runs receives from it once, then shuts the client down: the first error is taken and the
operation that sent it carries on; a later send waits for ever. -/
def fatal (c : Client) (err : String) : Except Halt Client :=
  match c.fatalErrors with
  | [] => pure { c with fatalErrors := [err] }
  | _ :: _ => throw .deadlock

/-- `if err != nil { c.fatalErrCh <- err }`. -/
def fatalIfErr (c : Client) : Option String → Except Halt Client
  | some err => c.fatal err
  | none => pure c

/-- `GetAllConversations`: the live conversations map, read under the mutex. -/
def GetAllConversations (c : Client) : Except Halt (Conversations × Client) := do
  let c ← c.lockConversations
  pure (c.conversations, c.unlockConversations)

/-- The contacts in the order `marshal`'s `range` lists them. -/
def contactList (c : Client) : List Contact := c.contacts.entries.map fun e => c.heap e.2

/-- `marshal`: the `State` it serialises, under the mutex. `cbor.Marshal`'s encoding of it
is the state writer's business (`save`). -/
def marshal (c : Client) : Except Halt (State × Client) := do
  let contacts := c.contactList
  let (conversations, c) ← c.GetAllConversations
  let s : State :=
    { SpoolReadDescriptor := c.spoolReadDescriptor, Contacts := contacts, LinkKey := c.linkKey,
      User := c.user, Provider := c.provider, Conversations := conversations }
  let c ← c.lockConversations
  pure (s, c.unlockConversations)

/-- `save`: marshal the state and hand it to the state writer; an error of `cbor.Marshal`
or of `writeState` panics. -/
def save (c : Client) (a : Answers) : Except Halt Client := do
  let (s, c) ← c.marshal
  match a.cborMarshal s with
  | some err => throw (.panic err)
  | none =>
    match a.writeState s with
    | some err => throw (.panic err)
    | none => pure { c with saved := some s }

/-- The state `marshal` takes of `c`. -/
def snapshot (c : Client) : State :=
  { SpoolReadDescriptor := c.spoolReadDescriptor, Contacts := c.contactList, LinkKey := c.linkKey,
    User := c.user, Provider := c.provider, Conversations := c.conversations }

theorem lockConversations_of_unlocked {c : Client} (h : c.conversationsLocked = false) :
    c.lockConversations = .ok { c with conversationsLocked := true } := by
  simp [lockConversations, h]

/-- `marshal` with the mutex free takes the snapshot and leaves the mutex free. -/
theorem marshal_of_unlocked {c : Client} (h : c.conversationsLocked = false) :
    c.marshal = .ok (c.snapshot, c) := by
  cases c
  simp_all [marshal, GetAllConversations, lockConversations, unlockConversations, snapshot,
    contactList]

/-- The client once its snapshot is written. -/
def persisted (c : Client) : Client := { c with saved := some c.snapshot }

/-- `save` with the mutex free hands the snapshot to the state writer, and panics with the
writer's error if it has one. -/
theorem save_of_unlocked {c : Client} {a : Answers} (h : c.conversationsLocked = false) :
    c.save a = match a.cborMarshal c.snapshot, a.writeState c.snapshot with
      | some err, _ => .error (.panic err)
      | none, some err => .error (.panic err)
      | none, none => .ok c.persisted := by
  rw [save, marshal_of_unlocked h, ok_bind]
  dsimp only
  cases a.cborMarshal c.snapshot <;> cases a.writeState c.snapshot <;> rfl

/-- `save` with the mutex free, and a writer that takes the state, writes the snapshot. -/
theorem save_of_writes {c : Client} {a : Answers} (h : c.conversationsLocked = false)
    (hw : a.Writes c.snapshot) : c.save a = .ok c.persisted := by
  rw [save_of_unlocked h, hw.1, hw.2]

/-- A `save` that returns wrote the snapshot. -/
theorem save_ok {c c' : Client} {a : Answers} (h : c.save a = .ok c') :
    c' = c.persisted ∧ c.conversationsLocked = false := by
  cases hc : c.conversationsLocked
  · rw [save_of_unlocked hc] at h
    split at h <;> cases h
    exact ⟨rfl, rfl⟩
  · simp [save, marshal, GetAllConversations, lockConversations, hc] at h

theorem save_bind_ok {c : Client} {a : Answers} {α : Type} {f : Client → Except Halt α} {r : α}
    (h : (c.save a >>= f) = .ok r) : f c.persisted = .ok r := by
  obtain ⟨c₁, hs, h⟩ := bind_eq_ok.mp h
  rwa [(save_ok hs).1] at h

/-- `save` while the loop holds the mutex re-locks it: `GetAllConversations` waits for
ever. -/
theorem save_of_locked {c : Client} {a : Answers} (h : c.conversationsLocked = true) :
    c.save a = .error .deadlock := by
  simp [save, marshal, GetAllConversations, lockConversations, h]

/-- `close(ch)`; closing a closed channel panics. -/
def closeChan (c : Client) (ch : Chan) : Except Halt Client :=
  if ch ∈ c.closed then .error (.panic "close of closed channel")
  else .ok { c with closed := ch :: c.closed }

/-- `c.sendMap.Store(key, entry)`. -/
def store (c : Client) (k : SendKey) (e : SendEntry) : Client :=
  { c with sendMap := c.sendMap.insert k e }

/-- `c.sendMap.Delete(key)`. -/
def delete (c : Client) (k : SendKey) : Client := { c with sendMap := c.sendMap.erase k }

end Client

end Catshadow
