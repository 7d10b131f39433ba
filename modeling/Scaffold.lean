import Scaffold.Main
import Scaffold.Proofs.Bindings
import Scaffold.Proofs.Resolution.Closure
import Scaffold.Proofs.Dependency.Order
import Scaffold.Proofs.Resolution.Phases
import Scaffold.Proofs.Config.Table
import Scaffold.Proofs.Resolution.Waves
import Scaffold.Proofs.Resolution.Required
import Scaffold.Proofs.Resolution.Result
import Scaffold.Proofs.Resolution.Fixpoint
import Scaffold.Proofs.Placeholder.Substitution
import Scaffold.Proofs.Config.Sound
import Scaffold.Proofs.Resolution.Failure
import Scaffold.Proofs.FileTree.Frame
import Scaffold.Proofs.Install.Failure
import Scaffold.Proofs.Install.Frame
import Scaffold.Proofs.Placeholder.Recognition
import Scaffold.Proofs.FileTree.Sight
import Scaffold.Proofs.Install.Effect
import Scaffold.Proofs.Transform.Grammar
import Scaffold.Proofs.Install.Preparation
import Scaffold.Proofs.Install.Rehearsal
import Scaffold.Proofs.FileTree.Written
import Scaffold.Proofs.Install.Confinement
import Scaffold.Proofs.Dependency.CyclePath
import Scaffold.Proofs.Dependency.LeastOrder
import Scaffold.Proofs.Resolution.Discovery
import Scaffold.Proofs.Resolution.Round
import Scaffold.Proofs.Resolution.Prompts
import Scaffold.Proofs.Install.LastWrite
import Scaffold.Proofs.Install.Inside
import Scaffold.Proofs.Blueprint.Obstacle
import Scaffold.Proofs.CommandLine.Exit
import Scaffold.Proofs.Resolution.Acceptance
import Scaffold.Proofs.Resolution.Unresolved
import Scaffold.Proofs.Resolution.Confirmation
import Scaffold.Proofs.Resolution.Reading
import Scaffold.Proofs.Transform.Printing
import Scaffold.Proofs.Placeholder.Catalogue
import Scaffold.Proofs.Resolution.Solution
import Scaffold.Proofs.Resolution.Pinning
import Scaffold.Proofs.Install.Picking
import Scaffold.Proofs.Config.Accepted
import Scaffold.Proofs.Config.Keys
import Scaffold.Proofs.Config.Overrides
import Scaffold.Proofs.Pattern.Reading
import Scaffold.Proofs.Pattern.Oversight
import Scaffold.Proofs.Pattern.Copies
import Scaffold.Proofs.Transform.Softness
import Scaffold.Proofs.Transform.Viability
import Scaffold.Proofs.Text.Case
import Scaffold.Proofs.Transform.Humps
import Scaffold.Proofs.Transform.Spelling
import Scaffold.Proofs.Transform.Separation
import Scaffold.Proofs.Transform.Settling
import Scaffold.Proofs.Resolution.Silence
import Scaffold.Proofs.Install.Repetition
import Scaffold.Proofs.Placeholder.Locality
import Scaffold.Proofs.Install.Copies
import Scaffold.Proofs.Install.Interruption
import Scaffold.Proofs.Placeholder.Ending
import Scaffold.Proofs.Transform.Parts
import Scaffold.Proofs.Blueprint.Listing
import Scaffold.Proofs.Transform.Replacement
