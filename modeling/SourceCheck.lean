import SourceCheck.Main
import SourceCheck.Upkeep.Run
import SourceCheck.Scan.Cursor
import SourceCheck.Proofs.Scan.Moves
import SourceCheck.Proofs.Scan.Rules
import SourceCheck.Proofs.Scan.Run
import SourceCheck.Proofs.Scan.Modes
import SourceCheck.Proofs.Scan.Termination
import SourceCheck.Proofs.Scan.Division
import SourceCheck.Proofs.Scan.Positions
import SourceCheck.Proofs.Balance.Roles
import SourceCheck.Proofs.Balance.Words
import SourceCheck.Proofs.Balance.Matching
import SourceCheck.Proofs.Balance.Account
import SourceCheck.Proofs.Balance.Issues
import SourceCheck.Proofs.Balance.Deletion
import SourceCheck.Proofs.Balance.Repair
import SourceCheck.Proofs.FrontEnds.Agreement
import SourceCheck.Proofs.Scan.LineEnds
import SourceCheck.Proofs.Scan.Composition
import SourceCheck.Proofs.Scan.Stops
import SourceCheck.Proofs.Scan.Locality
import SourceCheck.Proofs.Scan.Layout
import SourceCheck.Proofs.Scan.Comments
import SourceCheck.Proofs.Scan.Returns
import SourceCheck.Proofs.Language.Acceptance
import SourceCheck.Proofs.Language.Sets
import SourceCheck.Proofs.Language.Pairs
import SourceCheck.Proofs.Scan.Isolation
import SourceCheck.Proofs.Scan.Strings
import SourceCheck.Proofs.Scan.Numbers
import SourceCheck.Proofs.Scan.Priority
import SourceCheck.Proofs.Scan.Causes
import SourceCheck.Proofs.Balance.Tables
import SourceCheck.Proofs.Json.Fields
import SourceCheck.Proofs.Json.Strings
import SourceCheck.Proofs.Service.Requests
import SourceCheck.Proofs.Service.Origins
import SourceCheck.Proofs.Service.Consistency
import SourceCheck.Proofs.Scan.Lines
import SourceCheck.Proofs.Scan.Tokens
import SourceCheck.Proofs.Balance.Rendering
import SourceCheck.Proofs.FrontEnds.FirstErrors
import SourceCheck.Proofs.Diagnostic.Carets
import SourceCheck.Proofs.Text.Written
import SourceCheck.Proofs.Token.Table
import SourceCheck.Proofs.Upkeep.Jobs
