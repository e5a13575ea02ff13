import TodoServer.Address.DomainName
import TodoServer.Address.Email
import TodoServer.Address.Ip
import TodoServer.Address.Punycode
import TodoServer.Address.Repertoire
import TodoServer.Api.Access
import TodoServer.Api.Accounts
import TodoServer.Api.Description
import TodoServer.Api.Docs
import TodoServer.Api.Error
import TodoServer.Api.Form
import TodoServer.Api.Interleaving
import TodoServer.Api.Rejection
import TodoServer.Api.Reply
import TodoServer.Api.Route
import TodoServer.Api.Site
import TodoServer.Api.Todos
import TodoServer.Api.Violation
import TodoServer.Auth.Manager
import TodoServer.Auth.Password
import TodoServer.Auth.Token
import TodoServer.Crypto.Compare
import TodoServer.Crypto.Hmac
import TodoServer.Crypto.Pbkdf2
import TodoServer.Crypto.Sha256
import TodoServer.Data.Instant
import TodoServer.Data.Record
import TodoServer.Data.Scalar
import TodoServer.Data.Span
import TodoServer.Filter.Basic
import TodoServer.Filter.Builder
import TodoServer.Filter.Program
import TodoServer.Filter.Truth
import TodoServer.Http.MediaType
import TodoServer.Http.Message
import TodoServer.Http.Origins
import TodoServer.Http.Percent
import TodoServer.Http.Target
import TodoServer.Http.Token
import TodoServer.Http.Wire
import TodoServer.Json.Draft
import TodoServer.Json.Shape
import TodoServer.Json.Value
import TodoServer.Main
import TodoServer.Number.Decimal
import TodoServer.Number.Double
import TodoServer.Program.CommandLine
import TodoServer.Program.Config
import TodoServer.Program.DataPlace
import TodoServer.Program.EnvFile
import TodoServer.Program.Event
import TodoServer.Program.FileSettings
import TodoServer.Program.Machine
import TodoServer.Program.Path
import TodoServer.Program.Shutdown
import TodoServer.Program.Startup
import TodoServer.Program.Tree
import TodoServer.Proofs.Api.Absence
import TodoServer.Proofs.Api.Access
import TodoServer.Proofs.Api.Binding
import TodoServer.Proofs.Api.Completion
import TodoServer.Proofs.Api.Confinement
import TodoServer.Proofs.Api.Conflict
import TodoServer.Proofs.Api.Effect
import TodoServer.Proofs.Api.Report
import TodoServer.Proofs.Api.Secrecy
import TodoServer.Proofs.Api.Submission
import TodoServer.Proofs.Api.Validation
import TodoServer.Proofs.Auth.Interchange
import TodoServer.Proofs.Auth.Password
import TodoServer.Proofs.Auth.Sealing
import TodoServer.Proofs.Auth.Token
import TodoServer.Proofs.Auth.WrittenForm
import TodoServer.Proofs.Crypto.Derivation
import TodoServer.Proofs.Data.Document
import TodoServer.Proofs.Data.Order
import TodoServer.Proofs.Data.Record
import TodoServer.Proofs.Filter.Building
import TodoServer.Proofs.Filter.Formula
import TodoServer.Proofs.Filter.Normal
import TodoServer.Proofs.Json.Floats
import TodoServer.Proofs.Json.Reading
import TodoServer.Proofs.Number.Rounding
import TodoServer.Proofs.Number.Shortest
import TodoServer.Proofs.Program.Finality
import TodoServer.Proofs.Program.Layering
import TodoServer.Proofs.Query.Blanked
import TodoServer.Proofs.Query.Scope
import TodoServer.Proofs.Query.Trace
import TodoServer.Proofs.Service.ByText
import TodoServer.Proofs.Service.Confinement
import TodoServer.Proofs.Service.Failing
import TodoServer.Proofs.Service.Opening
import TodoServer.Proofs.Service.Secrecy
import TodoServer.Proofs.Service.Turns
import TodoServer.Proofs.Sql.Batch
import TodoServer.Proofs.Sql.Clauses
import TodoServer.Proofs.Sql.Escaping
import TodoServer.Proofs.Sql.Grammar
import TodoServer.Proofs.Sql.Insertion
import TodoServer.Proofs.Sql.Meaning
import TodoServer.Proofs.Sql.Outline
import TodoServer.Proofs.Sql.Placeholders
import TodoServer.Proofs.Sql.Quotation
import TodoServer.Proofs.Sql.Spelling
import TodoServer.Proofs.Sql.Token
import TodoServer.Proofs.Storage.Atomicity
import TodoServer.Proofs.Storage.Confinement
import TodoServer.Proofs.Storage.Convergence
import TodoServer.Proofs.Storage.Like
import TodoServer.Proofs.Storage.Secrecy
import TodoServer.Proofs.Storage.Statements
import TodoServer.Proofs.Store.Basic
import TodoServer.Proofs.Store.Batch
import TodoServer.Proofs.Store.ByText
import TodoServer.Proofs.Store.Change
import TodoServer.Proofs.Store.Condition
import TodoServer.Proofs.Store.Contention
import TodoServer.Proofs.Store.Credentials
import TodoServer.Proofs.Store.Execution
import TodoServer.Proofs.Store.Flips
import TodoServer.Proofs.Store.Integrity
import TodoServer.Proofs.Store.Isolation
import TodoServer.Proofs.Store.Listing
import TodoServer.Proofs.Store.Operation
import TodoServer.Proofs.Store.Reachable
import TodoServer.Proofs.Store.Reading
import TodoServer.Proofs.Store.Run
import TodoServer.Proofs.Store.Soundness
import TodoServer.Proofs.Store.TodoWrites
import TodoServer.Proofs.Store.Todos
import TodoServer.Proofs.Store.Toggle
import TodoServer.Proofs.Store.UserWrites
import TodoServer.Proofs.Store.Users
import TodoServer.Proofs.Store.View
import TodoServer.Proofs.Store.Writing
import TodoServer.Proofs.Text.Numeral
import TodoServer.Proofs.Text.Parts
import TodoServer.Proofs.Text.Utf8
import TodoServer.Query.Error
import TodoServer.Query.Executor
import TodoServer.Service.Error
import TodoServer.Service.Interleaving
import TodoServer.Service.Operation
import TodoServer.Service.Todo
import TodoServer.Service.Todos
import TodoServer.Service.User
import TodoServer.Service.Users
import TodoServer.Sql.Dialect
import TodoServer.Sql.Fragment
import TodoServer.Sql.Inlined
import TodoServer.Sql.Statement
import TodoServer.Storage.Cell
import TodoServer.Storage.Database
import TodoServer.Storage.Error
import TodoServer.Storage.Like
import TodoServer.Storage.Migration
import TodoServer.Storage.Opening
import TodoServer.Storage.Pool
import TodoServer.Storage.Schema
import TodoServer.Storage.Term
import TodoServer.Text.Ascii
import TodoServer.Text.Base64Url
import TodoServer.Text.Blank
import TodoServer.Text.Hex
import TodoServer.Text.Utf8
import TodoServer.Version
