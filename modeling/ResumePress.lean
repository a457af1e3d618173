import ResumePress.Color
import ResumePress.CommandLine
import ResumePress.Config.Load
import ResumePress.Config.Reference
import ResumePress.Config.Resolve
import ResumePress.Document.Build
import ResumePress.Document.Placement
import ResumePress.Fault
import ResumePress.Files.Path
import ResumePress.Files.Store
import ResumePress.Journal
import ResumePress.Main
import ResumePress.Number.Binary64
import ResumePress.Number.Reading
import ResumePress.Number.Shortest
import ResumePress.Page.Frame
import ResumePress.Page.Render
import ResumePress.Proofs.CommandLine.ThemeNames
import ResumePress.Proofs.Config.Reference
import ResumePress.Proofs.Document.Built
import ResumePress.Proofs.Files.Path
import ResumePress.Proofs.Files.Store
import ResumePress.Proofs.Number.Decimal
import ResumePress.Proofs.Page.Correspondence
import ResumePress.Proofs.Page.Decoding
import ResumePress.Proofs.Page.EscapedOnce
import ResumePress.Proofs.Page.Faults
import ResumePress.Proofs.Page.Forms
import ResumePress.Proofs.Page.Injection
import ResumePress.Proofs.Page.Make
import ResumePress.Proofs.Page.NestedPages
import ResumePress.Proofs.Page.Nesting
import ResumePress.Proofs.Page.Parts
import ResumePress.Proofs.Page.Preescaped
import ResumePress.Proofs.Page.Recoloring
import ResumePress.Proofs.Page.Refusal
import ResumePress.Proofs.Page.Replacement
import ResumePress.Proofs.Page.Templates
import ResumePress.Proofs.Page.Transcript
import ResumePress.Proofs.Page.TrustedMarkup
import ResumePress.Proofs.Page.Visible
import ResumePress.Proofs.Page.Wrapper
import ResumePress.Proofs.Publish.Literal
import ResumePress.Proofs.Publish.MalformedTheme
import ResumePress.Proofs.Publish.MissingTheme
import ResumePress.Proofs.Publish.Outcome
import ResumePress.Proofs.Publish.Source
import ResumePress.Proofs.Resume.Assembly
import ResumePress.Proofs.Resume.Fields
import ResumePress.Proofs.Resume.Grammar
import ResumePress.Proofs.Resume.Links
import ResumePress.Proofs.Resume.Pages
import ResumePress.Proofs.Resume.Plain
import ResumePress.Proofs.Resume.Reading
import ResumePress.Proofs.Resume.Typing
import ResumePress.Proofs.Resume.Writing
import ResumePress.Proofs.Steps
import ResumePress.Proofs.Text.Addresses
import ResumePress.Proofs.Text.Entities
import ResumePress.Proofs.Text.Filling
import ResumePress.Proofs.Text.Letters
import ResumePress.Proofs.Text.Lines
import ResumePress.Proofs.Text.Numbering
import ResumePress.Proofs.Text.Recoloring
import ResumePress.Proofs.Text.Tags
import ResumePress.Proofs.Theme.Configured
import ResumePress.Proofs.Theme.Dress
import ResumePress.Proofs.Theme.Entries
import ResumePress.Proofs.Theme.Listing
import ResumePress.Proofs.Theme.Notation
import ResumePress.Proofs.Theme.Undefined
import ResumePress.Provenance
import ResumePress.Publish
import ResumePress.Resume.Assembly
import ResumePress.Resume.Fields
import ResumePress.Resume.Layout
import ResumePress.Resume.Links
import ResumePress.Resume.Reading
import ResumePress.Resume.Record
import ResumePress.Resume.Vocabulary
import ResumePress.Text.Blank
import ResumePress.Text.Digit
import ResumePress.Text.Escape
import ResumePress.Text.Hex
import ResumePress.Text.Letters
import ResumePress.Text.Lines
import ResumePress.Text.Occurs
import ResumePress.Text.Printable
import ResumePress.Text.Quoted
import ResumePress.Text.Template
import ResumePress.Theme.Basic
import ResumePress.Theme.Catalog
import ResumePress.Theme.Palette
import ResumePress.Theme.Rgb
import ResumePress.Theme.Shipped
import ResumePress.Value.Basic
import ResumePress.Value.Constant
import ResumePress.Value.Equality
import ResumePress.Value.Markup
import ResumePress.Value.Order
import ResumePress.Value.Printing
import ResumePress.Value.Spelling
import ResumePress.Yaml.Place
import ResumePress.Yaml.Plain
import ResumePress.Yaml.Scan
import ResumePress.Yaml.Token
import ResumePress.Yaml.Tree
