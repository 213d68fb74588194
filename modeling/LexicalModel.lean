import LexicalModel.Build
import LexicalModel.Command.Concatenate
import LexicalModel.Command.Edit.Engine
import LexicalModel.Command.Edit.Program
import LexicalModel.Command.Edit.Reader
import LexicalModel.Command.Edit.Script
import LexicalModel.Command.Machine
import LexicalModel.Command.Options
import LexicalModel.Command.Pattern.Basic
import LexicalModel.Command.Pattern.ByteSet
import LexicalModel.Command.Pattern.Lavish
import LexicalModel.Command.Pattern.Posix
import LexicalModel.Command.Printf.Directive
import LexicalModel.Command.Printf.Floating
import LexicalModel.Command.Printf.Format
import LexicalModel.Command.Printf.Program
import LexicalModel.Command.Quoting
import LexicalModel.Command.Raw
import LexicalModel.Command.Replace
import LexicalModel.Command.Search.Finder
import LexicalModel.Command.Search.Program
import LexicalModel.Command.Shell.Arithmetic
import LexicalModel.Command.Shell.Builtins
import LexicalModel.Command.Shell.Execution
import LexicalModel.Command.Shell.Expansion
import LexicalModel.Command.Shell.Glob
import LexicalModel.Command.Shell.Lookup
import LexicalModel.Command.Shell.Program
import LexicalModel.Command.Shell.Reader
import LexicalModel.Command.Shell.Redirect
import LexicalModel.Command.Shell.Session
import LexicalModel.Command.Shell.Syntax
import LexicalModel.Command.Shell.Test
import LexicalModel.Command.Toolbox
import LexicalModel.Command.Words
import LexicalModel.CommandLine.Arguments
import LexicalModel.CommandLine.Run
import LexicalModel.Config
import LexicalModel.Failure
import LexicalModel.FileSystem.Basic
import LexicalModel.FileSystem.Disk
import LexicalModel.FileSystem.Hosted
import LexicalModel.FileSystem.Store
import LexicalModel.Generator
import LexicalModel.Identifier
import LexicalModel.Identity
import LexicalModel.Info
import LexicalModel.Json.Decode
import LexicalModel.Json.Document
import LexicalModel.Json.Double
import LexicalModel.Json.Number
import LexicalModel.Json.Value
import LexicalModel.Layout
import LexicalModel.Main
import LexicalModel.Manifest
import LexicalModel.Package.Archive
import LexicalModel.Package.Compile
import LexicalModel.Package.Descriptor
import LexicalModel.Package.Markup
import LexicalModel.Package.Project
import LexicalModel.Path.Basic
import LexicalModel.Path.Reference
import LexicalModel.Proofs.Artifacts
import LexicalModel.Proofs.Build
import LexicalModel.Proofs.Failure
import LexicalModel.Proofs.Info
import LexicalModel.Proofs.Json.RoundTrip
import LexicalModel.Proofs.Json.Written
import LexicalModel.Proofs.Layout
import LexicalModel.Proofs.Markup.Attribute
import LexicalModel.Proofs.Markup.Elements
import LexicalModel.Proofs.Markup.Text
import LexicalModel.Proofs.Markup.Tree
import LexicalModel.Proofs.Package
import LexicalModel.Proofs.Path.Components
import LexicalModel.Proofs.Project.Reading
import LexicalModel.Proofs.Project.Rendering
import LexicalModel.Proofs.Store
import LexicalModel.Proofs.Tally
import LexicalModel.Proofs.Trie.Entries
import LexicalModel.Proofs.Trie.Search
import LexicalModel.Script
import LexicalModel.Source
import LexicalModel.Text.Blank
import LexicalModel.Text.Lines
import LexicalModel.Text.Lowercase
import LexicalModel.Text.Quoted
import LexicalModel.Text.Range
import LexicalModel.Text.Utf8
import LexicalModel.Text.WordChar
import LexicalModel.Timestamp
import LexicalModel.Transpiler
import LexicalModel.Trie
import LexicalModel.WordList
import LexicalModel.Proofs.Location
import LexicalModel.Proofs.Identity
import LexicalModel.Proofs.Manifest
import LexicalModel.Proofs.Inputs
import LexicalModel.Proofs.Rebuild
import LexicalModel.Proofs.Path.Reference
import LexicalModel.Proofs.Shipping
import LexicalModel.Proofs.Json.Record
import LexicalModel.Proofs.Source
import LexicalModel.Proofs.Descriptor
import LexicalModel.Proofs.Records
import LexicalModel.Proofs.WordList
import LexicalModel.Proofs.Trie.Words
import LexicalModel.Proofs.Trie.Reaching
import LexicalModel.Proofs.Ranks
import LexicalModel.Proofs.Trie.Ranking
import LexicalModel.Proofs.Trie.LineOrder
import LexicalModel.Proofs.WordList.Faults
import LexicalModel.Proofs.WordList.Joined
import LexicalModel.Proofs.Trie.Lists
import LexicalModel.Proofs.Remerge
import LexicalModel.Proofs.Packing
import LexicalModel.Proofs.EntryNames
import LexicalModel.Proofs.Generator.Parts
import LexicalModel.Proofs.Generator.Outcome
import LexicalModel.Proofs.Generator.Lines
import LexicalModel.Proofs.Generator.WordBreaker
import LexicalModel.Proofs.Path.Rewriting
import LexicalModel.Proofs.Markup.AttributeList
import LexicalModel.Proofs.Markup.Content
import LexicalModel.Proofs.Markup.References
import LexicalModel.Proofs.Project.Foreign
import LexicalModel.Proofs.Text.Bytes
import LexicalModel.Proofs.Path.Portable
import LexicalModel.Proofs.History
import LexicalModel.Proofs.Trie.Height
