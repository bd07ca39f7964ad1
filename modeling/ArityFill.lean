import ArityFill.Main
import ArityFill.Proofs.Document.Patch
import ArityFill.Proofs.Fill.Selected
import ArityFill.Proofs.Tree.Walk
import ArityFill.Proofs.Tree.Rows
import ArityFill.Proofs.Tree.Preorder
import ArityFill.Proofs.Tree.Siblings
import ArityFill.Proofs.Fill.Splice
import ArityFill.Proofs.Fill.Again
import ArityFill.Proofs.Store.Shape
import ArityFill.Proofs.Batch.Collect
import ArityFill.Proofs.Fill.File
import ArityFill.Proofs.Batch.Visit
import ArityFill.Proofs.Batch.Frame
import ArityFill.Proofs.Batch.Independent
import ArityFill.Proofs.Report.Index
import ArityFill.Proofs.Report.Load
import ArityFill.Proofs.Source.Blanked
import ArityFill.Proofs.Batch.DryRun
import ArityFill.Proofs.Report.Cache
import ArityFill.Proofs.Fill.Relevance
import ArityFill.Proofs.Document.Replacements
import ArityFill.Proofs.Document.Shift
import ArityFill.Proofs.Fill.Neighbours
import ArityFill.Proofs.Source.Foreign
import ArityFill.Proofs.Source.Again
import ArityFill.Proofs.Text.Synchronized
import ArityFill.Proofs.Source.Characters
import ArityFill.Proofs.Document.Regular
import ArityFill.Proofs.Document.Placement
import ArityFill.Proofs.Document.WholeNames
import ArityFill.Proofs.Fill.Unobstructed
import ArityFill.Proofs.Fill.Brackets
import ArityFill.Proofs.Path.Key
import ArityFill.Proofs.Path.Basename
import ArityFill.Proofs.Report.Matching
import ArityFill.Proofs.Command.Listing
import ArityFill.Proofs.Report.Arity
import ArityFill.Proofs.Batch.Search
