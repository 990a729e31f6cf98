import Poco.Main
import Poco.Files.Tree
import Poco.Log.Script
import Poco.Session
import Poco.TokenCursor
import Poco.Text.Decimal
import Poco.Proofs.Coverage
import Poco.Proofs.Erasing
import Poco.Proofs.Fidelity
import Poco.Proofs.Halting
import Poco.Proofs.Lines
import Poco.Proofs.LongestMatch
import Poco.Proofs.Prefixes
import Poco.Proofs.Printing
import Poco.Proofs.Reports
import Poco.Proofs.Resolving
import Poco.Proofs.Walking
import Poco.Proofs.Sessions
import Poco.Proofs.Histories
import Poco.Proofs.Events
import Poco.Proofs.Logging
import Poco.Proofs.Carets
import Poco.Proofs.LineCuts
import Poco.Proofs.Underlines
import Poco.Proofs.PlaceOrder
import Poco.Proofs.FileLines
import Poco.Proofs.Cursors
import Poco.Proofs.Arguments
import Poco.Proofs.BlankFiles
import Poco.Proofs.FileOutcomes
import Poco.Proofs.TokenRecords
import Poco.Proofs.EventContents
import Poco.Proofs.Scopes
import Poco.Proofs.LogLines
import Poco.Proofs.ClassOrder
import Poco.Proofs.Merging
