import NamingDirectory.Config
import NamingDirectory.Context.Basic
import NamingDirectory.Context.Registry
import NamingDirectory.Conversion.Converter
import NamingDirectory.Conversion.Plugins
import NamingDirectory.Conversion.Service
import NamingDirectory.Date.Calendar
import NamingDirectory.Date.Fields
import NamingDirectory.Date.Pattern
import NamingDirectory.Date.Read
import NamingDirectory.Date.Text
import NamingDirectory.Demo.BasicUsage
import NamingDirectory.Demo.Transcript
import NamingDirectory.Demo.TypedRecords
import NamingDirectory.Descriptor
import NamingDirectory.Error
import NamingDirectory.Format.Basic
import NamingDirectory.Format.Ini
import NamingDirectory.Format.Properties
import NamingDirectory.Format.Read
import NamingDirectory.Format.Xml
import NamingDirectory.Format.Yaml
import NamingDirectory.Loading
import NamingDirectory.Main
import NamingDirectory.Number.Binary64
import NamingDirectory.Number.Decimal
import NamingDirectory.Number.Integer
import NamingDirectory.Path.Delimiter
import NamingDirectory.Path.Name
import NamingDirectory.Pattern.Parse
import NamingDirectory.Pattern.Program
import NamingDirectory.Pattern.Search
import NamingDirectory.Pattern.Size
import NamingDirectory.Pattern.Syntax
import NamingDirectory.Pattern.Utf8
import NamingDirectory.Proofs.Loading.Order
import NamingDirectory.Proofs.Loading.Steps
import NamingDirectory.Proofs.Session.Frame
import NamingDirectory.Proofs.Tree.ClosedNode
import NamingDirectory.Proofs.Tree.Ensure
import NamingDirectory.Proofs.Tree.Find
import NamingDirectory.Proofs.Tree.PathMap
import NamingDirectory.Proofs.Tree.Refinement
import NamingDirectory.Proofs.Tree.Release
import NamingDirectory.Proofs.Tree.Rename
import NamingDirectory.Proofs.Tree.RootEdits
import NamingDirectory.Proofs.Tree.Teardown
import NamingDirectory.Records
import NamingDirectory.Session.Step
import NamingDirectory.Session.Workspace
import NamingDirectory.Source.Text
import NamingDirectory.Text.Escape
import NamingDirectory.Tree.Basic
import NamingDirectory.Tree.Edit
import NamingDirectory.Tree.Listing
import NamingDirectory.Tree.Liveness
import NamingDirectory.Unicode.Age
import NamingDirectory.Unicode.BinaryProperty
import NamingDirectory.Unicode.CaseFolding
import NamingDirectory.Unicode.Digit
import NamingDirectory.Unicode.GeneralCategory
import NamingDirectory.Unicode.GraphemeExtend
import NamingDirectory.Unicode.Property
import NamingDirectory.Unicode.Ranges
import NamingDirectory.Unicode.Script
import NamingDirectory.Unicode.ScriptExtensions
import NamingDirectory.Unicode.TextBreak
import NamingDirectory.Unicode.Unprintable
import NamingDirectory.Unicode.UpperCase
import NamingDirectory.Unicode.WhiteSpace
import NamingDirectory.Unicode.Word
import NamingDirectory.Value.Basic
import NamingDirectory.Value.Read
import NamingDirectory.Value.Text
import NamingDirectory.Yaml.Document
import NamingDirectory.Yaml.Parser
import NamingDirectory.Yaml.Scanner
import NamingDirectory.Yaml.Token
import NamingDirectory.Proofs.Session.Handles
import NamingDirectory.Proofs.Session.Registry
import NamingDirectory.Proofs.Session.SharedRoots
import NamingDirectory.Proofs.Path.RoundTrip
import NamingDirectory.Proofs.Session.PublishedRoots
import NamingDirectory.Proofs.Records.Coalesce
import NamingDirectory.Proofs.Format.Keys
import NamingDirectory.Proofs.Loading.Roles
import NamingDirectory.Proofs.Loading.Namespace
import NamingDirectory.Proofs.Conversion.Elementwise
import NamingDirectory.Proofs.Source.SizeGuard
import NamingDirectory.Proofs.Number.IntegerText
import NamingDirectory.Proofs.Format.PropertiesText
import NamingDirectory.Proofs.Tree.OwnedSubtree
import NamingDirectory.Proofs.Tree.ReleaseRecursion
import NamingDirectory.Proofs.Format.IniText
import NamingDirectory.Proofs.Format.XmlEvents
