import LogLayout.Formatter.Setup
import LogLayout.Main
import LogLayout.Proofs.Pattern.Scanning
import LogLayout.Proofs.Pattern.SinglePass
import LogLayout.Proofs.Pattern.DirectiveText
import LogLayout.Proofs.Pattern.ParameterText
import LogLayout.Proofs.Pattern.Splitting
import LogLayout.Proofs.Pattern.Printing
import LogLayout.Proofs.Pattern.Shifting
import LogLayout.Proofs.Pattern.Naming
import LogLayout.Proofs.Pattern.Joining
import LogLayout.Proofs.Pattern.Resolving
import LogLayout.Proofs.Pattern.Enclosing
import LogLayout.Proofs.Config.IncludeTree
import LogLayout.Proofs.Pattern.Failing
import LogLayout.Proofs.Pattern.Excerpts
import LogLayout.Proofs.Pattern.Lookahead
import LogLayout.Proofs.Pattern.FaultPlaces
import LogLayout.Proofs.Pattern.ListEnds
import LogLayout.Proofs.Pattern.Justifying
import LogLayout.Proofs.Pattern.Renaming
import LogLayout.Proofs.Pattern.Undecorating
import LogLayout.Proofs.Pattern.DecoratedLengths
import LogLayout.Proofs.Pattern.FieldsRead
import LogLayout.Proofs.Pattern.Segments
import LogLayout.Proofs.Pattern.Prefixes
import LogLayout.Proofs.Config.Extraction
import LogLayout.Proofs.Config.Aliases
import LogLayout.Proofs.Record.PrintedDates
import LogLayout.Proofs.Message
import LogLayout.Proofs.Time.WrittenPatterns
import LogLayout.Proofs.Session.Settling
import LogLayout.Proofs.Pattern.DateFormats
import LogLayout.Proofs.Time.SortedDates
import LogLayout.Proofs.Abbreviation
import LogLayout.Proofs.Abbreviation.KeptSegments
import LogLayout.Proofs.Pattern.LengthChecks
import LogLayout.Proofs.Config.Overriding
import LogLayout.Proofs.Record.GivenPairs
import LogLayout.Proofs.Config.SourceLines
import LogLayout.Proofs.Config.LoadingSteps
import LogLayout.Proofs.Pattern.Moves
import LogLayout.Proofs.Pattern.CompilingSteps
import LogLayout.Proofs.CommandLine.Batches
