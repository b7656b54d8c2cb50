import GameLog.Main
import GameLog.Proofs.Catalog.RoundTrip
import GameLog.Proofs.Fetching
import GameLog.Proofs.Places
import GameLog.Proofs.Protocol
import GameLog.Proofs.Query.Aliases
import GameLog.Proofs.Query.GlobPattern
import GameLog.Proofs.Query.GroupNames
import GameLog.Proofs.Query.IdleClauses
import GameLog.Proofs.Query.JoinGuard
import GameLog.Proofs.Query.Joining
import GameLog.Proofs.Query.MilestoneTypes
import GameLog.Proofs.Query.Moving
import GameLog.Proofs.Query.Narrowing
import GameLog.Proofs.Query.Pieces
import GameLog.Proofs.Query.PrintedClauses
import GameLog.Proofs.Query.Refusals
import GameLog.Proofs.Query.Rejoining
import GameLog.Proofs.Query.Selected
import GameLog.Proofs.Query.Separation
import GameLog.Proofs.Query.Shape
import GameLog.Proofs.Query.SlotNames
import GameLog.Proofs.Query.SplitFilter
import GameLog.Proofs.Query.TermMeaning
import GameLog.Proofs.Report.Comparing
import GameLog.Proofs.Report.CountColumn
import GameLog.Proofs.Report.GroupKeys
import GameLog.Proofs.Report.RatioOrder
import GameLog.Proofs.Report.RowOrder
import GameLog.Proofs.Report.Siblings
import GameLog.Proofs.Report.Slots
import GameLog.Proofs.Report.Totals
import GameLog.Proofs.ScanRange
import GameLog.Proofs.Statement.Extending
import GameLog.Proofs.Store.GivenText
import GameLog.Proofs.Store.Loading
import GameLog.Proofs.Store.SchemaFit
import GameLog.Proofs.Time.Stamps
import GameLog.Query.Clause.Printer
import GameLog.Query.Spelling
import GameLog.Query.TermTree.Reading
import GameLog.Statement.Reading
import GameLog.Store.ReadBack
import GameLog.Text.Glob
import GameLog.World
