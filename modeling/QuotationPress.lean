import QuotationPress.Calendar.Date
import QuotationPress.Calendar.Iso
import QuotationPress.Calendar.Moment
import QuotationPress.Context.Paths
import QuotationPress.Context.RenderContext
import QuotationPress.Context.Sample
import QuotationPress.Element.Checking
import QuotationPress.Element.Content
import QuotationPress.Element.Kind
import QuotationPress.Element.Listing
import QuotationPress.Failure
import QuotationPress.Format.Amount
import QuotationPress.Format.Cell
import QuotationPress.Format.Plain
import QuotationPress.Merge.Lookup
import QuotationPress.Merge.Placeholder
import QuotationPress.Merge.Tables
import QuotationPress.Number.Binary64
import QuotationPress.Number.Decimal
import QuotationPress.Number.FloatText
import QuotationPress.Number.Grouping
import QuotationPress.Number.Numeral
import QuotationPress.Number.RealNumeral
import QuotationPress.Page.Document
import QuotationPress.Page.InlineStyle
import QuotationPress.Page.Markup
import QuotationPress.Page.StyleSheet
import QuotationPress.Page.ThemeSheet
import QuotationPress.Page.View
import QuotationPress.Pdf.Browser
import QuotationPress.Pdf.Engine
import QuotationPress.Pdf.Filename
import QuotationPress.Pdf.Layers
import QuotationPress.Pdf.Options
import QuotationPress.Pdf.Preparation
import QuotationPress.Pdf.Producer
import QuotationPress.Production.Files
import QuotationPress.Production.Rendering
import QuotationPress.Production.Request
import QuotationPress.Proofs.Batch.Agreement
import QuotationPress.Proofs.Batch.Isolation
import QuotationPress.Proofs.Batch.Schedule
import QuotationPress.Proofs.Calendar.IsoTexts
import QuotationPress.Proofs.Calendar.Ordinals
import QuotationPress.Proofs.Checked
import QuotationPress.Proofs.Context.Leaves
import QuotationPress.Proofs.Context.Paths
import QuotationPress.Proofs.Context.Steps
import QuotationPress.Proofs.Element.Configuration
import QuotationPress.Proofs.Element.ContentFields
import QuotationPress.Proofs.Format.Amount
import QuotationPress.Proofs.Format.AmountReading
import QuotationPress.Proofs.Format.Currency
import QuotationPress.Proofs.Format.Dates
import QuotationPress.Proofs.Format.Number
import QuotationPress.Proofs.Format.Reformatting
import QuotationPress.Proofs.Json.Embedded
import QuotationPress.Proofs.Json.Lenient
import QuotationPress.Proofs.Json.Listing
import QuotationPress.Proofs.Json.Number
import QuotationPress.Proofs.Json.Plain
import QuotationPress.Proofs.Json.Reading
import QuotationPress.Proofs.Json.Records
import QuotationPress.Proofs.Json.RoundTrip
import QuotationPress.Proofs.Json.Text
import QuotationPress.Proofs.Merge.Answers
import QuotationPress.Proofs.Merge.ColumnKeys
import QuotationPress.Proofs.Merge.Filling
import QuotationPress.Proofs.Merge.Grammar
import QuotationPress.Proofs.Merge.LookupTable
import QuotationPress.Proofs.Merge.Rows
import QuotationPress.Proofs.Merge.Substitution
import QuotationPress.Proofs.Number.DecimalReading
import QuotationPress.Proofs.Number.DecimalRounding
import QuotationPress.Proofs.Number.DecimalText
import QuotationPress.Proofs.Number.Grouping
import QuotationPress.Proofs.Number.Numeral
import QuotationPress.Proofs.Number.Overflow
import QuotationPress.Proofs.Number.Parts
import QuotationPress.Proofs.Number.Rounding
import QuotationPress.Proofs.Number.Shortest
import QuotationPress.Proofs.Outcome
import QuotationPress.Proofs.Page.ClassMarks
import QuotationPress.Proofs.Page.Drawing
import QuotationPress.Proofs.Page.Drawn
import QuotationPress.Proofs.Page.Fold
import QuotationPress.Proofs.Page.Margins
import QuotationPress.Proofs.Page.MarkupText
import QuotationPress.Proofs.Page.PageParts
import QuotationPress.Proofs.Page.Rendering
import QuotationPress.Proofs.Page.RowCounts
import QuotationPress.Proofs.Page.StyleText
import QuotationPress.Proofs.Page.ViewTotals
import QuotationPress.Proofs.Pdf.BrowserRelease
import QuotationPress.Proofs.Pdf.FileNames
import QuotationPress.Proofs.Pdf.OptionLayers
import QuotationPress.Proofs.Pdf.PrintCss
import QuotationPress.Proofs.Pdf.Session
import QuotationPress.Proofs.Pdf.Watermark
import QuotationPress.Proofs.Quotation.Mapping
import QuotationPress.Proofs.Quotation.Numbering
import QuotationPress.Proofs.Store.Change
import QuotationPress.Proofs.Store.Columns
import QuotationPress.Proofs.Store.Copy
import QuotationPress.Proofs.Store.Encodings
import QuotationPress.Proofs.Store.Frame
import QuotationPress.Proofs.Store.IssuedIds
import QuotationPress.Proofs.Store.Meanwhile
import QuotationPress.Proofs.Store.Preview
import QuotationPress.Proofs.Store.ReadBack
import QuotationPress.Proofs.Store.Resolution
import QuotationPress.Proofs.Store.Rows
import QuotationPress.Proofs.Store.Search
import QuotationPress.Proofs.Store.Settled
import QuotationPress.Proofs.Store.ShownDefaults
import QuotationPress.Proofs.Store.SingleDefaults
import QuotationPress.Proofs.Store.SyncAgain
import QuotationPress.Proofs.Store.SyncDefaults
import QuotationPress.Proofs.Store.SyncSkips
import QuotationPress.Proofs.Store.Versions
import QuotationPress.Proofs.Store.WriteBack
import QuotationPress.Proofs.Template.AddedContent
import QuotationPress.Proofs.Template.Defaults
import QuotationPress.Proofs.Template.Fixed
import QuotationPress.Proofs.Template.Kept
import QuotationPress.Proofs.Template.Passing
import QuotationPress.Proofs.Template.Reordering
import QuotationPress.Proofs.Template.Steps
import QuotationPress.Proofs.Text.Digits
import QuotationPress.Proofs.Text.LowerCase
import QuotationPress.Proofs.Text.Occurrences
import QuotationPress.Proofs.Text.Pattern
import QuotationPress.Proofs.Text.Trim
import QuotationPress.Proofs.Validation.Overlay
import QuotationPress.Proofs.Value.Openings
import QuotationPress.Proofs.Value.Texts
import QuotationPress.Quotation.DerivedNumber
import QuotationPress.Quotation.Record
import QuotationPress.Quotation.Source
import QuotationPress.Settings
import QuotationPress.Store.Basic
import QuotationPress.Store.Definition
import QuotationPress.Store.Draft
import QuotationPress.Store.Edit
import QuotationPress.Store.Query
import QuotationPress.Store.Row
import QuotationPress.Store.Sync
import QuotationPress.Template.Basic
import QuotationPress.Template.Builder
import QuotationPress.Template.BuiltIn
import QuotationPress.Template.Defaults
import QuotationPress.Template.Palette
import QuotationPress.Text.Base64
import QuotationPress.Text.Blank
import QuotationPress.Text.Case
import QuotationPress.Text.CaseTable
import QuotationPress.Text.Digit
import QuotationPress.Text.Escape
import QuotationPress.Text.File
import QuotationPress.Text.Hidden
import QuotationPress.Text.Pattern
import QuotationPress.Text.Percent
import QuotationPress.Text.Quoted
import QuotationPress.Text.Ranges
import QuotationPress.Text.Split
import QuotationPress.Text.Utf8
import QuotationPress.Text.Word
import QuotationPress.Validation.Checked
import QuotationPress.Validation.Issue
import QuotationPress.Validation.Lenient
import QuotationPress.Validation.Moments
import QuotationPress.Value.Basic
import QuotationPress.Value.Json
import QuotationPress.Value.JsonForm
import QuotationPress.Value.Key
import QuotationPress.Value.Members
import QuotationPress.Value.Text
import QuotationPress.Web.Message
import QuotationPress.Web.Route
import QuotationPress.Web.Site
import QuotationPress.Yaml.BlockText
import QuotationPress.Yaml.Cursor
import QuotationPress.Yaml.Document
import QuotationPress.Yaml.Layout
import QuotationPress.Yaml.Meaning
import QuotationPress.Yaml.Node
import QuotationPress.Yaml.Property
import QuotationPress.Yaml.Quoted
import QuotationPress.Yaml.Scalar
import QuotationPress.Yaml.Stamp
import QuotationPress.Yaml.Tag
import QuotationPress.Yaml.Token
import QuotationPress.Yaml.TokenStream
import QuotationPress.Yaml.Words
