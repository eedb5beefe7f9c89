import Powerline.Address
import Powerline.Bench
import Powerline.Bench.Carry
import Powerline.Bench.Clock
import Powerline.Bench.Step
import Powerline.Command
import Powerline.Command.Names
import Powerline.Config
import Powerline.Config.Document
import Powerline.Connection
import Powerline.Decimal.Binary
import Powerline.Decimal.Shortest
import Powerline.Device
import Powerline.Dialogue
import Powerline.Directory
import Powerline.Directory.Document
import Powerline.Engine
import Powerline.Error
import Powerline.Flags
import Powerline.Frame
import Powerline.Frame.Reader
import Powerline.Json
import Powerline.Json.Document
import Powerline.Json.Float
import Powerline.Json.Reader
import Powerline.Json.Seconds
import Powerline.Json.Token
import Powerline.Link.Index
import Powerline.Link.Reading
import Powerline.Link.Record
import Powerline.Link.Request
import Powerline.Link.Table
import Powerline.LinkDatabase
import Powerline.Message
import Powerline.Modem
import Powerline.Modem.Step
import Powerline.Packet
import Powerline.Pattern
import Powerline.Proofs.Address
import Powerline.Proofs.Call.Response
import Powerline.Proofs.Call.Scene
import Powerline.Proofs.Connection
import Powerline.Proofs.Device
import Powerline.Proofs.Device.Opening
import Powerline.Proofs.Dialogue
import Powerline.Proofs.Frame.Chunks
import Powerline.Proofs.Frame.Echo
import Powerline.Proofs.Frame.Splitting
import Powerline.Proofs.Link.Lookup
import Powerline.Proofs.Link.Memory
import Powerline.Proofs.Link.Payload
import Powerline.Proofs.Link.Plan
import Powerline.Proofs.Link.Reflag
import Powerline.Proofs.Link.Release
import Powerline.Proofs.Link.Stream
import Powerline.Proofs.Link.Table
import Powerline.Proofs.Link.Upsert
import Powerline.Proofs.Link.Vacancies
import Powerline.Proofs.Link.Wire
import Powerline.Proofs.LinkDatabase.Additions
import Powerline.Proofs.LinkDatabase.Addresses
import Powerline.Proofs.LinkDatabase.Age
import Powerline.Proofs.LinkDatabase.Bystanders
import Powerline.Proofs.LinkDatabase.Delivery
import Powerline.Proofs.LinkDatabase.Edits
import Powerline.Proofs.LinkDatabase.Failures
import Powerline.Proofs.LinkDatabase.Mirror
import Powerline.Proofs.LinkDatabase.Places
import Powerline.Proofs.LinkDatabase.Refresh
import Powerline.Proofs.LinkDatabase.Removals
import Powerline.Proofs.LinkDatabase.Requests
import Powerline.Proofs.LinkDatabase.Service
import Powerline.Proofs.LinkDatabase.Slots
import Powerline.Proofs.LinkDatabase.Upserts
import Powerline.Proofs.LinkDatabase.Writes
import Powerline.Proofs.Message.Codec
import Powerline.Proofs.Modem.Attribution
import Powerline.Proofs.Modem.Conversation
import Powerline.Proofs.Modem.Correlation
import Powerline.Proofs.Modem.Handshake
import Powerline.Proofs.Modem.Independence
import Powerline.Proofs.Modem.Ledger
import Powerline.Proofs.Modem.Mail
import Powerline.Proofs.Modem.Mailboxes
import Powerline.Proofs.Modem.Moments
import Powerline.Proofs.Modem.News
import Powerline.Proofs.Modem.Order
import Powerline.Proofs.Modem.Reactions
import Powerline.Proofs.Modem.Readers
import Powerline.Proofs.Modem.Results
import Powerline.Proofs.Modem.Subscriptions
import Powerline.Proofs.Pattern
import Powerline.Proofs.RelayFilter
import Powerline.Proofs.Retry
import Powerline.Proofs.Retry.Calls
import Powerline.RelayFilter
import Powerline.Retry
import Powerline.Text.Hex
import Powerline.Text.Printable
import Powerline.Text.Quoted
import Powerline.Time
