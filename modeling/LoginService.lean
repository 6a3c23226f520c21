import LoginService.Account
import LoginService.Authentication
import LoginService.CommandLine
import LoginService.Database.Address
import LoginService.Database.Charset
import LoginService.Database.Connect
import LoginService.Database.Error
import LoginService.Database.Pool
import LoginService.Database.ResultSet
import LoginService.Decimal.Binary64
import LoginService.Decimal.Shortest
import LoginService.Drain
import LoginService.Failure
import LoginService.FileTree
import LoginService.Http.Request
import LoginService.Http.Response
import LoginService.Http.Target
import LoginService.Json.Cursor
import LoginService.Json.Embedded
import LoginService.Json.Error
import LoginService.Json.Number
import LoginService.Json.Printer
import LoginService.Json.Record
import LoginService.Json.Skip
import LoginService.Json.Text
import LoginService.Json.Value
import LoginService.Lifecycle
import LoginService.Log
import LoginService.Log.Filter
import LoginService.Login.Keys
import LoginService.Login.Request
import LoginService.Login.Result
import LoginService.Main
import LoginService.Net.IpAddress
import LoginService.Net.Percent
import LoginService.Net.Url
import LoginService.Program
import LoginService.Proofs.Authentication
import LoginService.Proofs.Authentication.Outcome
import LoginService.Proofs.Database.Lookup
import LoginService.Proofs.Drain
import LoginService.Proofs.Except
import LoginService.Proofs.Json.Codec
import LoginService.Proofs.Json.Cursor
import LoginService.Proofs.Json.Embedded
import LoginService.Proofs.Json.Number
import LoginService.Proofs.Json.Position
import LoginService.Proofs.Json.Printer
import LoginService.Proofs.Json.Record
import LoginService.Proofs.Json.Skip
import LoginService.Proofs.Json.StandsFor
import LoginService.Proofs.Json.Text
import LoginService.Proofs.Json.Value
import LoginService.Proofs.Lifecycle.Ending
import LoginService.Proofs.Lifecycle.Startup
import LoginService.Proofs.Login.Folding
import LoginService.Proofs.Login.Keys
import LoginService.Proofs.Login.MemberOrder
import LoginService.Proofs.Login.Request
import LoginService.Proofs.RoundTrip
import LoginService.Proofs.Service.Exchange
import LoginService.Proofs.Service.Failures
import LoginService.Proofs.Service.Headers
import LoginService.Proofs.Service.Interchange
import LoginService.Proofs.Service.Log
import LoginService.Proofs.Service.Login
import LoginService.Proofs.Service.Malformed
import LoginService.Proofs.Service.Secrecy
import LoginService.Proofs.Session.Accounting
import LoginService.Proofs.Session.Closing
import LoginService.Proofs.Session.EmptyCredential
import LoginService.Proofs.Session.History
import LoginService.Proofs.Session.Statements
import LoginService.Proofs.Settings.Exactness
import LoginService.Proofs.Settings.Extract
import LoginService.Proofs.Settings.Layers
import LoginService.Proofs.Settings.Tree
import LoginService.Service.Docs
import LoginService.Service.Exchange
import LoginService.Service.Login
import LoginService.Session
import LoginService.Settings.Basic
import LoginService.Settings.Environment
import LoginService.Settings.EnvironmentFile
import LoginService.Settings.Extract
import LoginService.Settings.File
import LoginService.Settings.Load
import LoginService.Settings.Tree
import LoginService.Settings.ValueSyntax
import LoginService.Store
import LoginService.Text.Ascii
import LoginService.Text.Printable
import LoginService.Text.Quoted
import LoginService.Text.Similarity
import LoginService.Text.Utf8
import LoginService.Yaml.Block
import LoginService.Yaml.Cursor
import LoginService.Yaml.Node
import LoginService.Yaml.Plain
import LoginService.Yaml.Quoted
import LoginService.Yaml.Tag
import LoginService.Yaml.Token
