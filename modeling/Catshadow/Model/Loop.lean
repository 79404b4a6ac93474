import Catshadow.Model.Inbox
import Mathlib.Logic.Relation

/-!
# The operations loop and the system

`New` and `Start` of `client.go`, the loop that runs one handler at a time, and
the system around it: the loop, and the PANDA goroutines that report to it and
exit when they finish or see their cancel channel closed.

The loop itself (`worker`, in `worker.go`) is not in the source; `step` is
modelled from the spec's description of it. A run is any sequence of system
steps, and a state is reachable when a run reaches it from `Start` on a client
that `New` loaded.
-/

namespace Catshadow

/-- What the loop takes, one at a time: an API request from `opCh`, a session event, or a
timer tick. PANDA updates come from the goroutines (`Step.panda`). -/
inductive Input where
  /-- `opAddContact`. -/
  | addContact (nickname : String) (sharedSecret : Bytes)
  /-- `opRemoveContact`. -/
  | removeContact (nickname : String)
  /-- `opSendMessage`, with the id `SendMessage` drew. -/
  | sendMessage (id : MessageID) (nickname : String) (payload : Bytes)
  /-- `client.MessageSentEvent`. -/
  | messageSent (ev : MessageSentEvent)
  /-- `client.MessageReplyEvent`. -/
  | messageReply (ev : MessageReplyEvent)
  /-- `client.MessageIDGarbageCollected`. -/
  | garbageCollected (ev : MessageIDGarbageCollected)
  /-- The read-inbox timer. -/
  | readInboxTick
  /-- The conversation garbage-collection timer. -/
  | gcTick

/-- Modelled from the spec: the loop `worker` (in `worker.go`, not in the source) runs the
handler of each request, event or tick; a failed `add_contact` emits `KeyExchangeCompleted`
with the error. -/
def step (L : Limits) (c : Client) (a : Answers) : Input → Except Halt Client
  | .addContact nickname _ => do
    let (err, c) ← c.createContact nickname a
    pure (match err with
      | some e => c.emit (.keyExchangeCompleted nickname (some e))
      | none => c)
  | .removeContact nickname => c.doContactRemoval nickname a
  | .sendMessage id nickname payload => c.doSendMessage L id nickname payload a
  | .messageSent ev => c.handleSent ev a
  | .messageReply ev => c.handleReply ev a
  | .garbageCollected ev => pure (c.garbageCollectSendMap ev)
  | .readInboxTick => c.sendReadInbox a
  | .gcTick => c.garbageCollectConversations L a

/-- The index `New`'s loop builds, `m[key(contact)] = contact` for each loaded contact in
turn, the `i`-th contact in heap cell `i`. -/
def loadIndex {κ : Type} [DecidableEq κ] (key : Contact → κ) :
    Nat → List Contact → GoMap κ Ptr → GoMap κ Ptr
  | _, [], m => m
  | i, contact :: rest, m => loadIndex key (i + 1) rest (m.insert (key contact) i)

/-- `New(logBackend, mixnetClient, stateWorker, state)` once `NewSession` has succeeded (a
failing one returns no client); `provider` is the mixnet client's `Provider()`. -/
def New (state : State) (provider : String) : Client :=
  { sendMap := ∅, linkKey := state.LinkKey, user := state.User,
    heap := fun p => state.Contacts.getD p default, nextPtr := state.Contacts.length,
    contacts := loadIndex (·.id) 0 state.Contacts ∅,
    contactNicknames := loadIndex (·.Nickname) 0 state.Contacts ∅,
    spoolReadDescriptor := state.SpoolReadDescriptor, conversations := state.Conversations,
    conversationsLocked := false, provider, events := [], fatalErrors := [], saved := none,
    chans := (state.Contacts.filterMap (·.pandaShutdownChan)).foldr max 0 + 1, closed := [],
    kxTasks := [] }

/-- The `State` `NewClientAndRemoteSpool` builds for a new user: no contacts, no
conversations and no read spool. -/
def freshState (user provider : String) (linkKey : Bytes) : State :=
  { SpoolReadDescriptor := none, Contacts := [], LinkKey := linkKey, User := user,
    Provider := provider, Conversations := ∅ }

/-- `CreateRemoteSpool()`, returning its `error`: find the spool service, and create the
read spool unless the client has one. -/
def Client.CreateRemoteSpool (c : Client) (a : Answers) : Option String × Client :=
  match a.getService with
  | some err => (some err, c)
  | none =>
    match c.spoolReadDescriptor with
    | some _ => (none, c)
    | none =>
      let (desc, err) := a.newSpoolReadDescriptor
      (err, { c with spoolReadDescriptor := desc })

/-- `NewClientAndRemoteSpool(user, linkKey)` once `New` has succeeded, returning its
`error` with the client; `provider` is the mixnet client's `Provider()`. On an error Go
drops the client, but what it wrote stays written (`saved`). -/
def NewClientAndRemoteSpool (user provider : String) (linkKey : Bytes) (a : Answers) :
    Except Halt (Option String × Client) := do
  let c ← (New (freshState user provider linkKey) provider).save a
  let (err, c) := c.CreateRemoteSpool a
  match err with
  | some e => pure (some e, c)
  | none => pure (none, ← c.save a)

/-- The body of `Start`'s loop over `contacts`: resume the PANDA exchange of a pending
contact from its serialised exchange, with the contact's cancel channel. -/
def Client.resumeKeyExchange (a : Answers) (c : Client) (p : Ptr) : Except Halt Client :=
  let contact := c.heap p
  if contact.IsPending then
    match a.unmarshalKeyExchange contact.pandaKeyExchange with
    | some err => throw (.panic err)
    | none => pure (c.spawn contact)
  else pure c

/-- `Start()`: collect old messages, then resume the PANDA exchange of every pending
contact, in the order the `range` visits them. -/
def Start (L : Limits) (c : Client) (a : Answers) : Except Halt Client := do
  let c ← c.garbageCollectConversations L a
  if !a.pandaConfigured then throw (.panic Client.noPandaService)
  (a.contactOrder (c.contacts.entries.map Sigma.snd)).foldlM (Client.resumeKeyExchange a) c

/-- A PANDA goroutine that has exited. -/
def Client.finishTask (c : Client) (t : KxTask) : Client := { c with kxTasks := c.kxTasks.erase t }

/-- A goroutine's report: a failure or a result is its last, progress is not. -/
def Client.report (c : Client) (t : KxTask) (u : PandaUpdate) : Client :=
  if u.Err.isSome || u.Result.isSome then c.finishTask t else c

/-- One step of the system. -/
inductive Step (L : Limits) : Client → Client → Prop
  /-- The loop runs one handler to its end. -/
  | loop {c c' : Client} (i : Input) (a : Answers) (h : step L c a i = .ok c') : Step L c c'
  /-- A running PANDA goroutine reports on `pandaChan` and the loop processes the update. -/
  | panda {c c' : Client} (t : KxTask) (u : PandaUpdate) (a : Answers) (ht : t ∈ c.kxTasks)
      (hid : u.ID = t.ID) (h : (c.report t u).processPANDAUpdate u a = .ok c') : Step L c c'
  /-- A PANDA goroutine sees its cancel channel closed and exits. -/
  | cancelled {c : Client} (t : KxTask) (ch : Chan) (ht : t ∈ c.kxTasks)
      (hch : t.shutdownChan = some ch) (hcl : ch ∈ c.closed) : Step L c (c.finishTask t)

/-- The states a client loaded from `state` reaches: `New`, `Start`, then any run. -/
def Reachable (L : Limits) (state : State) (provider : String) (c : Client) : Prop :=
  ∃ a c₀, Start L (New state provider) a = .ok c₀ ∧ Relation.ReflTransGen (Step L) c₀ c

end Catshadow
