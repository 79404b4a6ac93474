import Catshadow.Model.Basic
import Catshadow.Model.Client
import Catshadow.Model.Contacts
import Catshadow.Model.Messages
import Catshadow.Model.Inbox
import Catshadow.Model.Loop
import Catshadow.Properties.Handlers
import Catshadow.Properties.Steps
import Catshadow.Properties.Locking
import Catshadow.Properties.ContactIndex
import Catshadow.Properties.Unacked
import Catshadow.Properties.SendMap
import Catshadow.Properties.ReadOffset
import Catshadow.Properties.KeyExchange
import Catshadow.Properties.Conversations
import Catshadow.Properties.Retransmit
import Catshadow.Properties.Window
import Catshadow.Properties.Persistence
import Catshadow.Properties.Framing
import Catshadow.Properties.Channels
import Catshadow.Properties.ContactBook
import Catshadow.Properties.Restart
