import Seedbed.CommandLine.Arguments
import Seedbed.CommandLine.Invocation
import Seedbed.CommandLine.Opt
import Seedbed.CommandLine.Refusal
import Seedbed.Config.Document
import Seedbed.Config.Environment
import Seedbed.Config.Files
import Seedbed.Config.Loading
import Seedbed.Config.Settings
import Seedbed.Database.Fault
import Seedbed.Database.Insertion
import Seedbed.Database.Server
import Seedbed.Database.Statement
import Seedbed.Decimal.Binary64
import Seedbed.Decimal.Reading
import Seedbed.Decimal.Shortest
import Seedbed.Dsn
import Seedbed.Failure
import Seedbed.Fake.Basic
import Seedbed.Fake.FirstNames
import Seedbed.Fake.LastNames
import Seedbed.Fake.ProseWords
import Seedbed.Fake.WordList
import Seedbed.Log
import Seedbed.Log.Filter
import Seedbed.Main
import Seedbed.Password.Argon2
import Seedbed.Password.Base64
import Seedbed.Password.Basic
import Seedbed.Password.Blake2b
import Seedbed.Password.Octets
import Seedbed.Pool.Basic
import Seedbed.Pool.Manager
import Seedbed.Power
import Seedbed.Program
import Seedbed.Proofs.Database.Transaction
import Seedbed.Proofs.Program.History
import Seedbed.Random.Script
import Seedbed.Random.SeededStream
import Seedbed.Random.Source
import Seedbed.Report
import Seedbed.Routine
import Seedbed.Seeder
import Seedbed.Text.Quoted
import Seedbed.Text.Similarity
import Seedbed.Text.System
import Seedbed.Text.Words
import Seedbed.Ulid
import Seedbed.Unicode.Blank
import Seedbed.Unicode.Direction
import Seedbed.Unicode.Joining
import Seedbed.Unicode.Mapping
import Seedbed.Unicode.Normal
import Seedbed.Unicode.Ranges
import Seedbed.Unicode.Visible
import Seedbed.Unique
import Seedbed.Url.Authority
import Seedbed.Url.Basic
import Seedbed.Url.Domain
import Seedbed.Url.DomainMapping
import Seedbed.Url.Fault
import Seedbed.Url.Host
import Seedbed.Url.Ipv4
import Seedbed.Url.Ipv6
import Seedbed.Url.Path
import Seedbed.Url.Percent
import Seedbed.Url.Punycode
import Seedbed.Url.Scheme
import Seedbed.User.Basic
import Seedbed.User.Generator
import Seedbed.User.Row
import Seedbed.User.Table
import Seedbed.Yaml.Block
import Seedbed.Yaml.Cursor
import Seedbed.Yaml.Decode
import Seedbed.Yaml.Directive
import Seedbed.Yaml.Document
import Seedbed.Yaml.Event
import Seedbed.Yaml.Fault
import Seedbed.Yaml.Gap
import Seedbed.Yaml.Layout
import Seedbed.Yaml.Node
import Seedbed.Yaml.Place
import Seedbed.Yaml.Plain
import Seedbed.Yaml.Quoted
import Seedbed.Yaml.Tag
import Seedbed.Yaml.Token
import Seedbed.Yaml.Tokens
import Seedbed.Yaml.Value
import Seedbed.Proofs.Pool.Alone
import Seedbed.Proofs.Seeder.Work
import Seedbed.Proofs.Seeder.AllOrNothing
import Seedbed.Proofs.Seeder.Reports
import Seedbed.Proofs.Pool.Scene
import Seedbed.Proofs.Pool.TwoStates
import Seedbed.Proofs.Seeder.Phases
import Seedbed.Proofs.Seeder.Ownership
import Seedbed.Proofs.Ulid.Order
import Seedbed.Proofs.User.Making
import Seedbed.Proofs.Random.Prescribed
import Seedbed.Proofs.User.Life
import Seedbed.Proofs.User.Reproducible
import Seedbed.Proofs.Seeder.Course
import Seedbed.Proofs.Seeder.Dispatch
import Seedbed.Proofs.Seeder.Balance
import Seedbed.Proofs.User.InStep
import Seedbed.Proofs.Program.Trace
import Seedbed.Proofs.Seeder.Uniqueness
import Seedbed.Proofs.Text.Number
import Seedbed.Proofs.Url.Ipv6
import Seedbed.Proofs.Url.Plain
import Seedbed.Proofs.Dsn.Assembly
import Seedbed.Proofs.Yaml.Glyph
import Seedbed.Proofs.Yaml.Word
import Seedbed.Proofs.Yaml.Outline
import Seedbed.Proofs.Yaml.Scanning
import Seedbed.Proofs.Yaml.Parsing
import Seedbed.Proofs.Yaml.Composing
import Seedbed.Proofs.Yaml.Decoding
import Seedbed.Proofs.Config.Written
import Seedbed.Proofs.Dsn.Credentials
import Seedbed.Proofs.Pool.Generations
import Seedbed.Proofs.Seeder.Discretion
import Seedbed.Proofs.CommandLine.Conduct
import Seedbed.Proofs.Dsn.Query
import Seedbed.Proofs.Url.Regular
import Seedbed.Proofs.Dsn.Usable
import Seedbed.Proofs.Yaml.Aliases
import Seedbed.Proofs.Config.Order
import Seedbed.Proofs.Config.Meaning
import Seedbed.Proofs.Config.Outcomes
import Seedbed.Proofs.Unique.Claiming
import Seedbed.Proofs.User.Remains
import Seedbed.Proofs.User.Patience
import Seedbed.Proofs.Random.Outcomes
import Seedbed.Proofs.User.Bounds
import Seedbed.Proofs.Ulid.Reading
import Seedbed.Proofs.Database.Reading
import Seedbed.Proofs.User.Rows
import Seedbed.Proofs.Pool.Retirement
import Seedbed.Proofs.Seeder.Totals
