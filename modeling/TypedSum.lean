import TypedSum.Batch
import TypedSum.Batch.Pool
import TypedSum.Environment.History
import TypedSum.Expr.Dismantling
import TypedSum.Expr.Equality
import TypedSum.Expr.Nesting
import TypedSum.Expr.Place
import TypedSum.Machine
import TypedSum.Main
import TypedSum.Proofs.CodeTexts
import TypedSum.Proofs.Concatenation
import TypedSum.Proofs.DiagnosticLines
import TypedSum.Proofs.Dismantled
import TypedSum.Proofs.EnvironmentTexts
import TypedSum.Proofs.ErrorTexts
import TypedSum.Proofs.Events
import TypedSum.Proofs.ExitCodes
import TypedSum.Proofs.FaultOrigins
import TypedSum.Proofs.FirstClash
import TypedSum.Proofs.Indistinguishable
import TypedSum.Proofs.InspectionTexts
import TypedSum.Proofs.IntegerSums
import TypedSum.Proofs.JoinedTexts
import TypedSum.Proofs.Lockstep
import TypedSum.Proofs.Mismatch
import TypedSum.Proofs.PostorderRun
import TypedSum.Proofs.Printing
import TypedSum.Proofs.Reads
import TypedSum.Proofs.Regrouping
import TypedSum.Proofs.Renaming
import TypedSum.Proofs.Schedules
import TypedSum.Proofs.Substitution
