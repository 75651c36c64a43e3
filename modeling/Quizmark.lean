import Quizmark.Admonition
import Quizmark.Cloze
import Quizmark.CommandLine.Arguments
import Quizmark.CommandLine.FileTree
import Quizmark.CommandLine.Run
import Quizmark.Directive
import Quizmark.DocPath
import Quizmark.Error
import Quizmark.Exercise
import Quizmark.Gate
import Quizmark.HeadingId
import Quizmark.Json.Basic
import Quizmark.Json.Printer
import Quizmark.Main
import Quizmark.Markdown.Autolink
import Quizmark.Markdown.Block
import Quizmark.Markdown.CodeSpan
import Quizmark.Markdown.Conversion
import Quizmark.Markdown.Definition
import Quizmark.Markdown.Delimiter
import Quizmark.Markdown.Document
import Quizmark.Markdown.Escape
import Quizmark.Markdown.Extent
import Quizmark.Markdown.HtmlBlock
import Quizmark.Markdown.HtmlTag
import Quizmark.Markdown.Inline
import Quizmark.Markdown.Line
import Quizmark.Markdown.Link
import Quizmark.Markdown.NamedChar
import Quizmark.Markdown.Opening
import Quizmark.Markdown.Percent
import Quizmark.Markdown.Piece
import Quizmark.Markdown.Punycode
import Quizmark.Markdown.Table
import Quizmark.Markdown.TaskItem
import Quizmark.Markdown.Token
import Quizmark.Markdown.Url
import Quizmark.Node.Basic
import Quizmark.Node.Reader
import Quizmark.Node.Text
import Quizmark.Node.Walk
import Quizmark.Node.Writer
import Quizmark.Pipeline
import Quizmark.Proofs.Admonition
import Quizmark.Proofs.Admonition.Frame
import Quizmark.Proofs.Admonition.Rewriting
import Quizmark.Proofs.Cloze.Authoring
import Quizmark.Proofs.Cloze.Length
import Quizmark.Proofs.Cloze.Marker
import Quizmark.Proofs.Cloze.Segment
import Quizmark.Proofs.Cloze.Slug
import Quizmark.Proofs.Cloze.Tree
import Quizmark.Proofs.CommandLine.Report
import Quizmark.Proofs.Directive.Attributes
import Quizmark.Proofs.DocPath
import Quizmark.Proofs.DocPath.Prefix
import Quizmark.Proofs.Error
import Quizmark.Proofs.Exercise.Content
import Quizmark.Proofs.Exercise.Failure
import Quizmark.Proofs.Exercise.HeadingIds
import Quizmark.Proofs.Exercise.Invariant
import Quizmark.Proofs.Exercise.Irrelevance
import Quizmark.Proofs.Exercise.PassOrder
import Quizmark.Proofs.Exercise.Shape
import Quizmark.Proofs.Exercise.Stages
import Quizmark.Proofs.Gate
import Quizmark.Proofs.HeadingId.Counter
import Quizmark.Proofs.HeadingId.Numbering
import Quizmark.Proofs.HeadingId.Slug
import Quizmark.Proofs.HeadingId.Stopped
import Quizmark.Proofs.HeadingId.Walk
import Quizmark.Proofs.HeadingId.Words
import Quizmark.Proofs.Markdown.BlockContent
import Quizmark.Proofs.Markdown.Checkbox
import Quizmark.Proofs.Markdown.Conversion
import Quizmark.Proofs.Markdown.Document
import Quizmark.Proofs.Markdown.Grammar
import Quizmark.Proofs.Markdown.LineBreak
import Quizmark.Proofs.Markdown.Lines
import Quizmark.Proofs.Markdown.Prose
import Quizmark.Proofs.Markdown.SourceText
import Quizmark.Proofs.Markdown.TextRuns
import Quizmark.Proofs.Markdown.TokenText
import Quizmark.Proofs.Node.Canonical
import Quizmark.Proofs.Node.Forest
import Quizmark.Proofs.Node.Position
import Quizmark.Proofs.Node.Readable
import Quizmark.Proofs.Node.Replacing
import Quizmark.Proofs.Node.RoundTrip
import Quizmark.Proofs.Node.ShownText
import Quizmark.Proofs.Node.Visit
import Quizmark.Proofs.Node.Written
import Quizmark.Proofs.Pipeline.ClozeSource
import Quizmark.Proofs.Pipeline.Commute
import Quizmark.Proofs.Pipeline.ReadBack
import Quizmark.Proofs.Section.Blocks
import Quizmark.Proofs.Section.Criteria
import Quizmark.Proofs.Section.ExamTip
import Quizmark.Proofs.Section.Partition
import Quizmark.Proofs.Section.Scoring
import Quizmark.Proofs.Section.Titles
import Quizmark.Proofs.Text.Blank
import Quizmark.Proofs.Text.Lines
import Quizmark.Proofs.Text.Substitute
import Quizmark.Section
import Quizmark.Session
import Quizmark.Settings
import Quizmark.Text.Blank
import Quizmark.Text.Digit
import Quizmark.Text.Fold
import Quizmark.Text.Letter
import Quizmark.Text.Loose
import Quizmark.Text.Printable
import Quizmark.Text.Punctuation
import Quizmark.Text.Quoted
import Quizmark.Text.Ranges
import Quizmark.Text.Substitute
import Quizmark.Text.Utf8
