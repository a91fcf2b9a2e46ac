import RobotAdmin.Client
import RobotAdmin.Client.Delivery
import RobotAdmin.Client.Traffic
import RobotAdmin.Command
import RobotAdmin.Command.Decode
import RobotAdmin.CommandLine
import RobotAdmin.CommandLine.Level
import RobotAdmin.CommandLine.Parse
import RobotAdmin.CommandLine.State
import RobotAdmin.CommandLine.Stop
import RobotAdmin.CommandLine.Usage
import RobotAdmin.Decimal.Binary64
import RobotAdmin.Decimal.Scaled
import RobotAdmin.Decimal.Shortest
import RobotAdmin.Dispatch
import RobotAdmin.Environment
import RobotAdmin.Fault
import RobotAdmin.FileSystem
import RobotAdmin.FileSystem.Access
import RobotAdmin.FileSystem.Path
import RobotAdmin.FileSystem.Target
import RobotAdmin.Http
import RobotAdmin.Http.Network
import RobotAdmin.Http.Redirect
import RobotAdmin.Http.Turn
import RobotAdmin.Http.Wire
import RobotAdmin.Json.Basic
import RobotAdmin.Json.Numeral
import RobotAdmin.Json.Problem
import RobotAdmin.Json.Reader
import RobotAdmin.Json.Reader.Container
import RobotAdmin.Json.Reader.Number
import RobotAdmin.Json.Reader.Skip
import RobotAdmin.Json.Reader.Text
import RobotAdmin.Json.Reader.Value
import RobotAdmin.Json.Writer
import RobotAdmin.Log
import RobotAdmin.Program.Configure
import RobotAdmin.Program.Effective
import RobotAdmin.Program.Run
import RobotAdmin.Program.Send
import RobotAdmin.Reply
import RobotAdmin.Reply.Decode
import RobotAdmin.Reply.Shown
import RobotAdmin.Settings
import RobotAdmin.Settings.Decode
import RobotAdmin.Settings.File
import RobotAdmin.Text.Base64
import RobotAdmin.Text.Blank
import RobotAdmin.Text.CombiningClass
import RobotAdmin.Text.Composition
import RobotAdmin.Text.Mark
import RobotAdmin.Text.Normal
import RobotAdmin.Text.Numeral
import RobotAdmin.Text.Quoted
import RobotAdmin.Text.Ranges
import RobotAdmin.Text.Similarity
import RobotAdmin.Text.Terminal
import RobotAdmin.Text.Unprintable
import RobotAdmin.Text.Utf8
import RobotAdmin.Url
import RobotAdmin.Url.Domain
import RobotAdmin.Url.Domain.Direction
import RobotAdmin.Url.Domain.Forbidden
import RobotAdmin.Url.Domain.Form
import RobotAdmin.Url.Domain.Joining
import RobotAdmin.Url.Domain.Label
import RobotAdmin.Url.Host
import RobotAdmin.Url.Ipv4
import RobotAdmin.Url.Ipv6
import RobotAdmin.Url.Parse
import RobotAdmin.Url.Percent
import RobotAdmin.Url.Punycode
import RobotAdmin.Main
import RobotAdmin.Proofs.Http.Exchanges
import RobotAdmin.Proofs.Client.Posting
import RobotAdmin.Proofs.Program.Sending
import RobotAdmin.Proofs.Program.Outcome
import RobotAdmin.Proofs.Program.Confirmation
import RobotAdmin.Proofs.Text.Cutting
import RobotAdmin.Proofs.Url.Path
import RobotAdmin.Proofs.Url.Route
import RobotAdmin.Proofs.Program.Endpoint
import RobotAdmin.Proofs.Json.Text
import RobotAdmin.Proofs.Json.Number
import RobotAdmin.Proofs.Json.Opening
import RobotAdmin.Proofs.Settings.Stored
import RobotAdmin.Proofs.FileSystem.Directories
import RobotAdmin.Proofs.FileSystem.Entries
import RobotAdmin.Proofs.Settings.Keeping
import RobotAdmin.Proofs.Settings.Normal
import RobotAdmin.Proofs.Program.Configuring
import RobotAdmin.Proofs.Program.ServerHistory
import RobotAdmin.Proofs.FileSystem.Making
import RobotAdmin.Proofs.FileSystem.Vacancy
import RobotAdmin.Proofs.Program.TimeoutHistory
import RobotAdmin.Proofs.Program.Refusal
import RobotAdmin.Proofs.Json.Normal
import RobotAdmin.Proofs.Json.Containers
import RobotAdmin.Proofs.Json.Written
import RobotAdmin.Proofs.Reply.Format
import RobotAdmin.Proofs.Reply.Written
import RobotAdmin.Proofs.Program.Printing
import RobotAdmin.Proofs.Command.Format
import RobotAdmin.Proofs.Command.Written
import RobotAdmin.Proofs.Program.Handover
import RobotAdmin.Proofs.Client.Trip
import RobotAdmin.Proofs.Client.Verdict
import RobotAdmin.Proofs.Client.Traffic
import RobotAdmin.Proofs.Client.Settling
import RobotAdmin.Proofs.Program.Agreement
import RobotAdmin.Proofs.Text.Numeral
import RobotAdmin.Proofs.Settings.Choosing
import RobotAdmin.Proofs.Settings.Rounds
import RobotAdmin.Proofs.Settings.Precedence
import RobotAdmin.Proofs.Settings.StoreLaws
import RobotAdmin.Proofs.CommandLine.Flag
import RobotAdmin.Proofs.CommandLine.Placement
import RobotAdmin.Proofs.Command.Accepting
import RobotAdmin.Proofs.Text.Decoding
import RobotAdmin.Proofs.Json.Grammar
import RobotAdmin.Proofs.Json.Spelling
import RobotAdmin.Proofs.Json.Magnitude
import RobotAdmin.Proofs.Json.Skipping
import RobotAdmin.Proofs.Json.Count
import RobotAdmin.Proofs.Json.Tokens
import RobotAdmin.Proofs.Settings.Grammar
import RobotAdmin.Proofs.Settings.Reading
import RobotAdmin.Proofs.Text.Lossy
