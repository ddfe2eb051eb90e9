import MotionControl.Controller.Operation
import MotionControl.Main
import MotionControl.Message.Document
import MotionControl.Plant.Recorded
import MotionControl.Plant.Scripted
import MotionControl.Proofs.Controller.Convergence
import MotionControl.Proofs.MotionError.Bounds
import MotionControl.Proofs.MotionError.RoundTrip
import MotionControl.Proofs.MotionError.Cycles
import MotionControl.Proofs.PointMass.Coherence
import MotionControl.Proofs.Controller.Publication
import MotionControl.Proofs.Controller.Tally
import MotionControl.Proofs.Double.Format
import MotionControl.Proofs.Double.Nearest
import MotionControl.Proofs.Double.Rounding
import MotionControl.Proofs.Double.Operations
import MotionControl.Proofs.Double.Value
import MotionControl.Proofs.Double.Overflow
import MotionControl.Proofs.Scalar.Trigonometry
import MotionControl.Proofs.Geometry.Bounded
import MotionControl.Proofs.MotionError.Size
import MotionControl.Proofs.PointMass.Bounded
import MotionControl.Proofs.Controller.Overflow
import MotionControl.Proofs.Controller.Pause
import MotionControl.Proofs.Geometry.Incoming
import MotionControl.Proofs.Geometry.Normalisation
import MotionControl.Proofs.Reference.Finite
import MotionControl.Proofs.Reference.Scaling
import MotionControl.Proofs.Controller.Splitting
import MotionControl.Proofs.Reference.Warnings
import MotionControl.Proofs.Double.Infinite
import MotionControl.Proofs.MotionError.NotANumber
import MotionControl.Proofs.Double.Zero
import MotionControl.Proofs.Node.Rest
import MotionControl.Proofs.Node.Operation
import MotionControl.Proofs.Double.Bits
import MotionControl.Proofs.Decimal.Quotient
import MotionControl.Proofs.Decimal.Value
import MotionControl.Proofs.Toml.Number
import MotionControl.Proofs.Toml.Token
import MotionControl.Proofs.Toml.Text
import MotionControl.Proofs.Toml.Quoting
import MotionControl.Proofs.Toml.Document
import MotionControl.Proofs.Config.RoundTrip
import MotionControl.Proofs.Reference.Displacement
import MotionControl.Proofs.MotionError.Symmetry
import MotionControl.Proofs.Reference.Decoding
import MotionControl.Proofs.Config.Validation
import MotionControl.Proofs.Controller.Period
import MotionControl.Proofs.PointMass.Command
