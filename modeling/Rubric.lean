import Rubric.Main
import Rubric.Proofs.Acceptance
import Rubric.Proofs.Agreement
import Rubric.Proofs.Ancestors
import Rubric.Proofs.Braces
import Rubric.Proofs.Command
import Rubric.Proofs.Configuration
import Rubric.Proofs.Conversion
import Rubric.Proofs.Coverage
import Rubric.Proofs.DepthReading
import Rubric.Proofs.Frames
import Rubric.Proofs.Growth
import Rubric.Proofs.Height
import Rubric.Proofs.Lossless
import Rubric.Proofs.Placement
import Rubric.Proofs.ProjectSection
import Rubric.Proofs.Rearrangement
import Rubric.Proofs.Relabelling
import Rubric.Proofs.Spacing
import Rubric.Proofs.Tolerance
import Rubric.Proofs.Weakening
import Rubric.Proofs.Wording
import Rubric.Session
