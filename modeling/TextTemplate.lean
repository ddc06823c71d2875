import TextTemplate.Text.Columns
import TextTemplate.Number.Literal
import TextTemplate.Template.Cache
import TextTemplate.Formatter
import TextTemplate.Locale.Tag
import TextTemplate.Parameter.Definition
import TextTemplate.Document.Toml.Basic
import TextTemplate.Main
import TextTemplate.Proofs.Template.Fault
import TextTemplate.Proofs.Template.Independence
import TextTemplate.Proofs.Template.NormalForm
import TextTemplate.Proofs.Template.Placeholders
import TextTemplate.Proofs.Template.Cache
import TextTemplate.Proofs.Template.Shortcut
import TextTemplate.Proofs.Template.Substitution
import TextTemplate.Proofs.Formatter
import TextTemplate.Proofs.CommandLine.Merging
import TextTemplate.Proofs.Locale.Tag
import TextTemplate.Proofs.CommandLine.Stages
import TextTemplate.Proofs.CommandLine.Environment
import TextTemplate.Proofs.Parameter.History
import TextTemplate.Proofs.Template.Extension
import TextTemplate.Proofs.CommandLine.Report
import TextTemplate.Proofs.Locale.Grammar
import TextTemplate.Proofs.Locale.Influence
import TextTemplate.Proofs.Locale.Spelling
import TextTemplate.Proofs.Locale.Extension
import TextTemplate.Proofs.Locale.Uppercase
import TextTemplate.Proofs.Parameter.Equality
import TextTemplate.Proofs.Parameter.Layout
import TextTemplate.Proofs.CommandLine.Config
import TextTemplate.Proofs.CommandLine.Definitions
import TextTemplate.Proofs.Text.Offset
import TextTemplate.Proofs.Template.Cursor
