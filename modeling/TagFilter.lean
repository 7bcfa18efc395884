import TagFilter.Main
import TagFilter.Proofs.Clause.Interleaving
import TagFilter.Proofs.CommandLine.Query
import TagFilter.Proofs.Expression.Accounting
import TagFilter.Proofs.Expression.Alternatives
import TagFilter.Proofs.Expression.Concatenation
import TagFilter.Proofs.Expression.Polarity
import TagFilter.Proofs.Expression.Rendering
import TagFilter.Proofs.Expression.Reordering
import TagFilter.Proofs.Expression.Shape
import TagFilter.Proofs.Expression.Spelling
import TagFilter.Proofs.Expression.Suffix
import TagFilter.Proofs.Expression.Unambiguous
import TagFilter.Proofs.Expression.Verdict
import TagFilter.Proofs.Inheritance
import TagFilter.Proofs.Level
import TagFilter.Proofs.Limit.FirstNumber
import TagFilter.Proofs.Limit.Numeral
import TagFilter.Proofs.Program.Verbosity
import TagFilter.Proofs.Report.Delivery
import TagFilter.Proofs.Report.ReadBack
import TagFilter.Proofs.Report.Sources
import TagFilter.Proofs.Settings.LastGiven
