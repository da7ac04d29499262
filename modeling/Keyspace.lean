import Keyspace.Category
import Keyspace.Json.Reader
import Keyspace.Key.Ancestry
import Keyspace.Key.Basic
import Keyspace.Layout.Basic
import Keyspace.Layout.Edit
import Keyspace.Layout.File
import Keyspace.Layout.Load
import Keyspace.Layout.Schema
import Keyspace.Layout.Serial
import Keyspace.Log
import Keyspace.Namespace.Basic
import Keyspace.Namespace.Request
import Keyspace.Number.Binary64
import Keyspace.Number.Limit
import Keyspace.Number.Literal
import Keyspace.Number.Shortest
import Keyspace.Text.Basic
import Keyspace.Text.Blank
import Keyspace.Text.Cased
import Keyspace.Text.Digit
import Keyspace.Text.Encoding
import Keyspace.Text.Fold
import Keyspace.Text.Lower
import Keyspace.Text.Printable
import Keyspace.Text.Quoted
import Keyspace.Text.Range
import Keyspace.Value.Basic
import Keyspace.Value.Calendar
import Keyspace.Value.Entries
import Keyspace.Value.Printer
import Keyspace.Value.Term
import Keyspace.Yaml.Check
import Keyspace.Yaml.Composition
import Keyspace.Yaml.Content
import Keyspace.Yaml.Cursor
import Keyspace.Yaml.Document
import Keyspace.Yaml.Fault
import Keyspace.Yaml.Graph
import Keyspace.Yaml.Lexer
import Keyspace.Yaml.Member
import Keyspace.Yaml.Property
import Keyspace.Yaml.Scalar
import Keyspace.Yaml.Stream
import Keyspace.Yaml.Tag
import Keyspace.Yaml.Token
import Keyspace.Proofs.Value.Rearranged
import Keyspace.Proofs.Key.Canonical
import Keyspace.Proofs.Key.Parents
import Keyspace.Proofs.Key.Root
import Keyspace.Proofs.Namespace.Directory
import Keyspace.Proofs.Namespace.Child
import Keyspace.Proofs.Namespace.Kinship
import Keyspace.Proofs.Namespace.Descent
import Keyspace.Proofs.Namespace.ValidName
import Keyspace.Proofs.Namespace.BucketKey
import Keyspace.Proofs.Layout.Upgrade
import Keyspace.Proofs.Namespace.Waypoint
import Keyspace.Proofs.Namespace.Renaming
import Keyspace.Proofs.Layout.Trail
import Keyspace.Proofs.Layout.Account
import Keyspace.Proofs.Layout.Reading
import Keyspace.Proofs.Namespace.Ancestry
import Keyspace.Proofs.Layout.Refusal
import Keyspace.Proofs.Namespace.Listing
import Keyspace.Proofs.Key.Spelling
import Keyspace.Proofs.Namespace.Navigation
import Keyspace.Proofs.Namespace.Identity
import Keyspace.Proofs.Layout.Order
import Keyspace.Proofs.Layout.Loading
import Keyspace.Proofs.Namespace.BucketRoot
import Keyspace.Proofs.Namespace.Session
import Keyspace.Proofs.Namespace.Decomposition
import Keyspace.Proofs.Namespace.Appending
import Keyspace.Proofs.Namespace.Shape
import Keyspace.Proofs.Results
import Keyspace.Proofs.Json.Reader
import Keyspace.Proofs.Layout.Unreadable
import Keyspace.Proofs.Key.Joined
import Keyspace.Proofs.Namespace.ForeignKey
import Keyspace.Proofs.Namespace.BucketFlags
