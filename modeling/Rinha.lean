import Rinha.Program
import Rinha.Report
import Rinha.Term.Build
import Rinha.Proofs.Simulation
import Rinha.Proofs.Logged
import Rinha.Proofs.CallDepth
import Rinha.Proofs.Printed
import Rinha.Proofs.DepthLimit
import Rinha.Proofs.Exhaustion
import Rinha.Proofs.OperatorRules
import Rinha.Proofs.WellFormed
import Rinha.Proofs.TermShape
import Rinha.Proofs.Judgement
import Rinha.Proofs.Endings
import Rinha.Proofs.Everywhere
import Rinha.Proofs.Safety
import Rinha.Proofs.Visible
import Rinha.Proofs.NaturalSemantics
import Rinha.Proofs.Adequacy
import Rinha.Proofs.FreeNames
import Rinha.Proofs.Related
import Rinha.Proofs.LexicalScope
import Rinha.Proofs.ErrorLocation
import Rinha.Proofs.Faultless
import Rinha.Proofs.Unlocated
import Rinha.Proofs.LocationFree
import Rinha.Proofs.Sessions
import Rinha.Proofs.WellScoped
import Rinha.Proofs.Tracing
import Rinha.Proofs.ProgramRuns
import Rinha.Proofs.Termination
import Rinha.Proofs.MachineLimit
import Rinha.Proofs.LetAsCall
import Rinha.Proofs.Correspondence
import Rinha.Proofs.BrokenPlaces
import Rinha.Proofs.Renaming
import Rinha.Proofs.OperatorSignatures
import Rinha.Proofs.TruncatedDivision
import Rinha.Proofs.CallEnvironment
import Rinha.Proofs.Positions
import Rinha.Proofs.Excerpts
import Rinha.Proofs.Carets
import Rinha.Proofs.IntegerLiterals
import Rinha.Proofs.Rendering
