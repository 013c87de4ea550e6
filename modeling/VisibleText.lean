import VisibleText.Text.CodePoint
import VisibleText.Text.Search
import VisibleText.Text.Letter
import VisibleText.Text.CharacterName
import VisibleText.Text.Case
import VisibleText.Text.Printable
import VisibleText.Bytes.Utf8
import VisibleText.Markup.Tree
import VisibleText.Markup.Reader
import VisibleText.Document.Layout
import VisibleText.Json.Binary64
import VisibleText.Json.Basic
import VisibleText.Json.Reader
import VisibleText.Field.OpenTag
import VisibleText.Field.Extract
import VisibleText.Field.Basic
import VisibleText.Edit.Resolve
import VisibleText.Edit.Bound
import VisibleText.Edit.Apply
import VisibleText.Text.Position
import VisibleText.Schema.Basic
import VisibleText.Edit.Draft
import VisibleText.Settings.Basic
import VisibleText.Settings.Environment
import VisibleText.Bytes.Digest
import VisibleText.Page.Listing
import VisibleText.Site.Content
import VisibleText.Project.Place
import VisibleText.Project.Disk
import VisibleText.Project.Store
import VisibleText.Settings.EnvironmentFile
import VisibleText.Settings.Cache
import VisibleText.Log.Record
import VisibleText.Log.Template
import VisibleText.Site.Basic
import VisibleText.Console.Emoji
import VisibleText.Console.Styled
import VisibleText.Console.Report
import VisibleText.Console.Command
import VisibleText.Console.Run
import VisibleText.Text.Column
import VisibleText.Console.Spanned
import VisibleText.Console.Style
import VisibleText.Console.Literal.Fault
import VisibleText.Console.Literal.Number
import VisibleText.Console.Literal.Quoted
import VisibleText.Console.Literal.Word
import VisibleText.Console.Literal.Expression
import VisibleText.Console.Literal.Grammar
import VisibleText.Console.Literal.Phrase
import VisibleText.Console.Literal.Reading
import VisibleText.Console.Literal.Formatted
import VisibleText.Console.Literal
import VisibleText.Proofs.Utf8
import VisibleText.Proofs.Reading
import VisibleText.Proofs.Coverage
import VisibleText.Proofs.FieldPlace
import VisibleText.Proofs.EditableText
import VisibleText.Proofs.Resolution
import VisibleText.Proofs.Splice
import VisibleText.Main
import VisibleText.Proofs.Application
import VisibleText.Proofs.OpeningTag
import VisibleText.Proofs.TagScan
import VisibleText.Proofs.FieldSite
import VisibleText.Proofs.AttributeSearch
import VisibleText.Proofs.OwnPlace
import VisibleText.Proofs.Closing
import VisibleText.Proofs.SiteOrder
import VisibleText.Proofs.Unchanged
import VisibleText.Proofs.CutCharacter
import VisibleText.Proofs.Lookahead
import VisibleText.Proofs.TagLocality
import VisibleText.Proofs.ItemLocality
import VisibleText.Proofs.Locality
import VisibleText.Proofs.Revision
import VisibleText.Proofs.Rereading
import VisibleText.Proofs.Frontmatter
import VisibleText.Proofs.SiteRevision
import VisibleText.Proofs.SingleEdit
import VisibleText.Proofs.PageWrite
import VisibleText.Proofs.Interleaving
import VisibleText.Proofs.Steps
import VisibleText.Proofs.Calls
import VisibleText.Proofs.Failures
import VisibleText.Proofs.Termination
import VisibleText.Proofs.Occurrences
import VisibleText.Proofs.Scope
import VisibleText.Proofs.Verbatim
import VisibleText.Proofs.Confinement
import VisibleText.Proofs.SettingsHistory
import VisibleText.Proofs.Pieces
import VisibleText.Proofs.FrontmatterCalls
import VisibleText.Proofs.LandmarkGroups
import VisibleText.Proofs.ListedPages
import VisibleText.Proofs.FailedLoads
import VisibleText.Proofs.AuditTrail
import VisibleText.Proofs.Overlap
import VisibleText.Proofs.Reasons
import VisibleText.Proofs.Verdicts
import VisibleText.Proofs.Withdrawal
import VisibleText.Proofs.Relocation
import VisibleText.Proofs.Reordering
import VisibleText.Proofs.FreshEdits
import VisibleText.Proofs.Escaping
import VisibleText.Proofs.TextRuns
import VisibleText.Proofs.CharacterScan
import VisibleText.Proofs.StaticPages
import VisibleText.Proofs.EditorRoutes
import VisibleText.Proofs.FailedWrites
import VisibleText.Proofs.BatchViolations
import VisibleText.Proofs.SettingsLayers
import VisibleText.Proofs.DistinctKeys
import VisibleText.Proofs.MergedObjects
import VisibleText.Proofs.SettingsSnapshot
import VisibleText.Proofs.CheckedSettings
import VisibleText.Proofs.FalseMatches
import VisibleText.Proofs.IndexedPlaces
