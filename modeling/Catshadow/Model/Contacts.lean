import Catshadow.Model.Client

/-!
# Contacts and their key exchanges

`createContact`, `doContactRemoval`, `haltKeyExchanges` and `processPANDAUpdate`
of `client.go`, with `randID`, and `NewContact` of `contact.go` (not in the
source) modelled from the spec. Starting a PANDA goroutine (`go kx.Run()`) adds a
`KxTask` with the cancel channel it was given.
-/

namespace Catshadow

/-- Modelled from the spec: `NewContact` (in `contact.go`, not in the source) builds the
record `add_contact` inserts: a pending contact with the nickname and id it is given, a
fresh ratchet, the contact-exchange blob the ratchet set-up produces (or that set-up's
error), and `ch`, a new cancel channel for its PANDA exchange. -/
def NewContact (nickname : String) (id : UInt64) (setup : Except String Bytes) (ch : Chan) :
    Except String Contact :=
  match setup with
  | .error e => .error e
  | .ok exchange =>
    .ok { id, Nickname := nickname, IsPending := true, ratchet := ⟨false⟩, keyExchange := exchange,
          pandaKeyExchange := [], pandaResult := "", spoolWriteDescriptor := none,
          pandaShutdownChan := some ch, UnACKed := 0 }

namespace Client

/-- `randID`: draw words from `rand.Reader` until one is non-zero and not already a key of
`contacts`. A failed read panics; `unfinished` when the draws given run out. -/
def randID (c : Client) : List (Except String UInt64) → Except Halt UInt64
  | [] => .error .unfinished
  | .error e :: _ => .error (.panic e)
  | .ok n :: draws => if n = 0 ∨ n ∈ c.contacts then c.randID draws else .ok n

/-- The text of `createContact`'s error for a nickname in use. -/
def nicknameInUse (nickname : String) : String :=
  "Contact with nickname " ++ nickname ++ ", already exists."

/-- The text of the error and panic when the session has no PANDA service. -/
def noPandaService : String := "panda failed, must have a panda service configured"

/-- `go kx.Run()` for a contact's exchange: a PANDA goroutine that reports under the
contact's id and watches the contact's cancel channel as it is now. -/
def spawn (c : Client) (contact : Contact) : Client :=
  { c with kxTasks := c.kxTasks ++ [{ ID := contact.id, shutdownChan := contact.pandaShutdownChan }] }

/-- Put a new contact in the heap and in both indexes, as `createContact` does. -/
def addContact (c : Client) (contact : Contact) : Client :=
  { c with heap := Function.update c.heap c.nextPtr contact, nextPtr := c.nextPtr + 1,
           contacts := c.contacts.insert contact.id c.nextPtr,
           contactNicknames := c.contactNicknames.insert contact.Nickname c.nextPtr }

/-- `createContact(nickname, sharedSecret)`, returning its `error`. The shared secret only
reaches `panda.NewKeyExchange`, whose answer is `a.newKeyExchange`. -/
def createContact (c : Client) (nickname : String) (a : Answers) :
    Except Halt (Option String × Client) := do
  if nickname ∈ c.contactNicknames then
    return (some (nicknameInUse nickname), c)
  let id ← c.randID a.draws
  match NewContact nickname id a.newContact c.chans with
  | .error e => pure (some e, c)
  | .ok contact =>
    let p := c.nextPtr
    let c := { c with chans := c.chans + 1 }.addContact contact
    if !a.pandaConfigured then
      return (some noPandaService, c)
    match a.newKeyExchange with
    | .error e => pure (some e, c)
    | .ok kx =>
      let c := c.modifyContact p fun k => { k with pandaKeyExchange := kx, keyExchange := [] }
      let c ← (c.spawn contact).save a
      pure (none, c)

/-- `doContactRemoval(nickname)`: cancel a pending exchange, drop the contact from both
indexes, save. An unknown nickname is logged. -/
def doContactRemoval (c : Client) (nickname : String) (a : Answers) : Except Halt Client := do
  match c.contactNicknames.lookup nickname with
  | none => pure c
  | some p =>
    let contact := c.heap p
    let c ← match contact.IsPending, contact.pandaShutdownChan with
      | true, some ch => c.closeChan ch
      | _, _ => pure c
    let c := { c with contactNicknames := c.contactNicknames.erase nickname,
                      contacts := c.contacts.erase contact.id }
    c.save a

/-- The body of `haltKeyExchanges`' loop over `contacts`: close a pending contact's cancel
channel. -/
def haltKeyExchange (c : Client) (e : (_ : UInt64) × Ptr) : Except Halt Client :=
  let contact := c.heap e.2
  match contact.IsPending, contact.pandaShutdownChan with
  | true, some ch => c.closeChan ch
  | _, _ => pure c

/-- `haltKeyExchanges`: close the cancel channel of every pending contact. -/
def haltKeyExchanges (c : Client) : Except Halt Client :=
  c.contacts.entries.foldlM haltKeyExchange c

/-- The error `processPANDAUpdate` reports when the exchange echoes its own bytes. -/
def echoError : String := "strange, our PANDA key exchange echoed our exchange bytes"

/-- `processPANDAUpdate(update)`. -/
def processPANDAUpdate (c : Client) (update : PandaUpdate) (a : Answers) : Except Halt Client := do
  match c.contacts.lookup update.ID with
  | none => pure c
  | some p =>
    let contact := c.heap p
    match update.Err, update.Serialised, update.Result with
    | some err, _, _ =>
      let c ← match err with
        | .replyTimeout _ =>
          if !a.pandaConfigured then throw (.panic noPandaService)
          else match a.unmarshalKeyExchange contact.pandaKeyExchange with
            | some e => throw (.panic e)
            | none => pure (c.spawn contact)
        | .other _ => pure c
      let c := c.modifyContact p fun k => { k with pandaResult := err.Error, pandaShutdownChan := none }
      let c := c.emit (.keyExchangeCompleted contact.Nickname (some err.Error))
      c.save a
    | none, some serialised, _ =>
      if contact.pandaKeyExchange = serialised then
        pure (c.emit (.keyExchangeCompleted contact.Nickname (some echoError)))
      else
        (c.modifyContact p fun k => { k with pandaKeyExchange := serialised }).save a
    | none, none, some _ =>
      let c := c.modifyContact p fun k => { k with pandaKeyExchange := [] }
      match a.contactExchange with
      | .error e =>
        let err := "failure to parse contact exchange bytes: " ++ e
        let c := c.modifyContact p fun k => { k with pandaResult := err, IsPending := false }
        let c ← c.save a
        pure (c.emit (.keyExchangeCompleted contact.Nickname (some err)))
      | .ok exchange =>
        match a.processKeyExchange with
        | some e =>
          let err := "Double ratchet key exchange failure: " ++ e
          let c := c.modifyContact p fun k => { k with pandaResult := err, IsPending := false }
          let c ← c.save a
          pure (c.emit (.keyExchangeCompleted contact.Nickname (some err)))
        | none =>
          let c := c.modifyContact p fun k =>
            { k with ratchet := ⟨true⟩, spoolWriteDescriptor := exchange.SpoolWriteDescriptor,
                     IsPending := false }
          let c := c.emit (.keyExchangeCompleted contact.Nickname none)
          c.save a
    | none, none, none => c.save a

end Client

end Catshadow
