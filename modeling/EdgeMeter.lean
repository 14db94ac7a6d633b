import EdgeMeter.Main
import EdgeMeter.Model.Stock
import EdgeMeter.Proofs.Course
import EdgeMeter.Session
import EdgeMeter.Text.Utf8.Lemmas
import EdgeMeter.Proofs.Series
import EdgeMeter.Proofs.Counting
import EdgeMeter.Proofs.Ledger
import EdgeMeter.Proofs.Handles
import EdgeMeter.Proofs.Spelling
import EdgeMeter.Proofs.Loading
import EdgeMeter.Proofs.Lifetimes
import EdgeMeter.Proofs.Allowance
import EdgeMeter.Proofs.Splitting
import EdgeMeter.Proofs.Simulation
import EdgeMeter.Proofs.Shadow
import EdgeMeter.Proofs.Circuits
import EdgeMeter.Proofs.Independence
import EdgeMeter.Proofs.Confinement
import EdgeMeter.Proofs.Sampling
import EdgeMeter.Proofs.Decoding
import EdgeMeter.Proofs.Work
import EdgeMeter.Proofs.RawArguments
import EdgeMeter.Proofs.Nearest
import EdgeMeter.Proofs.Numerals
import EdgeMeter.Proofs.Quotients
import EdgeMeter.Proofs.Reports
import EdgeMeter.Proofs.Clearing
import EdgeMeter.Proofs.Selection
import EdgeMeter.Proofs.Handover
import EdgeMeter.Proofs.Toggling
import EdgeMeter.Proofs.Unquoting
import EdgeMeter.Proofs.NearestNumber
import EdgeMeter.Proofs.Elapsed
