import MailMerge.Main
import MailMerge.Proofs.Action
import MailMerge.Proofs.Batch.Accounting
import MailMerge.Proofs.Batch.Isolated
import MailMerge.Proofs.Batch.Preserve
import MailMerge.Proofs.Batch.Trace
import MailMerge.Proofs.Config.Layers
import MailMerge.Proofs.Config.Problems
import MailMerge.Proofs.Context.Alias
import MailMerge.Proofs.Context.Cycles
import MailMerge.Proofs.Context.Eager
import MailMerge.Proofs.Context.Given
import MailMerge.Proofs.Context.Lazy
import MailMerge.Proofs.Context.Membership
import MailMerge.Proofs.Context.Memo
import MailMerge.Proofs.Context.Name
import MailMerge.Proofs.Context.Opened
import MailMerge.Proofs.Context.Order
import MailMerge.Proofs.Context.Points
import MailMerge.Proofs.Context.Scope
import MailMerge.Proofs.Context.Shadow
import MailMerge.Proofs.Context.Steady
import MailMerge.Proofs.Dict
import MailMerge.Proofs.Evaluation.Arithmetic
import MailMerge.Proofs.Evaluation.Attribute
import MailMerge.Proofs.Evaluation.Filters
import MailMerge.Proofs.Evaluation.Integers
import MailMerge.Proofs.Evaluation.MachineSteps
import MailMerge.Proofs.Evaluation.Membership
import MailMerge.Proofs.Evaluation.Operands
import MailMerge.Proofs.Evaluation.Operators
import MailMerge.Proofs.Evaluation.Parallel
import MailMerge.Proofs.Evaluation.Points
import MailMerge.Proofs.Evaluation.Related
import MailMerge.Proofs.Evaluation.Scopes
import MailMerge.Proofs.Evaluation.Sorting
import MailMerge.Proofs.Evaluation.Templates
import MailMerge.Proofs.FileTree.Beside
import MailMerge.Proofs.FileTree.Folders
import MailMerge.Proofs.FileTree.Grow
import MailMerge.Proofs.FileTree.Place
import MailMerge.Proofs.FileTree.Write
import MailMerge.Proofs.InputFile
import MailMerge.Proofs.Job.Beside
import MailMerge.Proofs.Job.Columns
import MailMerge.Proofs.Job.Effects
import MailMerge.Proofs.Job.Metadata
import MailMerge.Proofs.Job.Reading
import MailMerge.Proofs.Job.Staged
import MailMerge.Proofs.Job.Stages
import MailMerge.Proofs.Job.Text
import MailMerge.Proofs.Number.Division
import MailMerge.Proofs.Number.Double
import MailMerge.Proofs.Number.Word
import MailMerge.Proofs.OutputFile
import MailMerge.Proofs.OutputFile.Guard
import MailMerge.Proofs.Path
import MailMerge.Proofs.Path.Normal
import MailMerge.Proofs.Pattern.Replacement
import MailMerge.Proofs.Reading.Afresh
import MailMerge.Proofs.Reading.Blame
import MailMerge.Proofs.Reading.Depth
import MailMerge.Proofs.Reading.Faithful
import MailMerge.Proofs.Reading.Flat
import MailMerge.Proofs.Reading.Progress
import MailMerge.Proofs.Reading.Run
import MailMerge.Proofs.Reading.Unread
import MailMerge.Proofs.Rows
import MailMerge.Proofs.Sheet.Headers
import MailMerge.Proofs.Sheet.Names
import MailMerge.Proofs.Sheet.Records
import MailMerge.Proofs.Shell.Words
import MailMerge.Proofs.Template.Agree
import MailMerge.Proofs.Template.Blame
import MailMerge.Proofs.Template.Calls
import MailMerge.Proofs.Template.Chain
import MailMerge.Proofs.Template.Ends
import MailMerge.Proofs.Template.ErrorLine
import MailMerge.Proofs.Template.Interpolation
import MailMerge.Proofs.Template.Items
import MailMerge.Proofs.Template.Lines
import MailMerge.Proofs.Template.Nesting
import MailMerge.Proofs.Template.Output
import MailMerge.Proofs.Template.Parts
import MailMerge.Proofs.Template.PlainText
import MailMerge.Proofs.Template.Print
import MailMerge.Proofs.Template.Raw
import MailMerge.Proofs.Template.Reparse
import MailMerge.Proofs.Template.Scan
import MailMerge.Proofs.Template.Spelling
import MailMerge.Proofs.Template.Tag
import MailMerge.Proofs.Template.Takes
import MailMerge.Proofs.Template.Turns
import MailMerge.Proofs.Template.Whitespace
import MailMerge.Proofs.Text.Letter
import MailMerge.Proofs.Text.Lowered
import MailMerge.Proofs.Undefined.Confined
import MailMerge.Proofs.Undefined.Ensures
import MailMerge.Proofs.Undefined.Filters
import MailMerge.Proofs.Undefined.Reach
import MailMerge.Proofs.Undefined.Resolvers
import MailMerge.Proofs.Undefined.Strict
import MailMerge.Proofs.Undefined.Templates
import MailMerge.Proofs.Undefined.Values
import MailMerge.Proofs.Value.Coerce
import MailMerge.Proofs.Value.Equality
import MailMerge.Proofs.Value.Expression
import MailMerge.Proofs.Value.Inside
import MailMerge.Proofs.Value.Literal
import MailMerge.Proofs.Value.Ordering
import MailMerge.Proofs.Value.Restore
import MailMerge.Proofs.Variables.Face
import MailMerge.Proofs.Variables.Leaves
import MailMerge.Proofs.Variables.Merge
import MailMerge.Proofs.Variables.Origin
