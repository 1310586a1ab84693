import DeadKeys.Main
import DeadKeys.Proofs.Descriptor.Failure
import DeadKeys.Proofs.Engine.Accents
import DeadKeys.Proofs.Engine.DecisionRule
import DeadKeys.Proofs.Host.Isolation
import DeadKeys.Proofs.Host.Unhandled
import DeadKeys.Proofs.Layer.Fallback
import DeadKeys.Proofs.Layout.Counting
import DeadKeys.Proofs.Layout.Endings
import DeadKeys.Proofs.Layout.Order
import DeadKeys.Proofs.Layout.Precomposed
import DeadKeys.Proofs.Layout.Rebuild
import DeadKeys.Proofs.Layout.Validation
import DeadKeys.Proofs.Player.Playing
import DeadKeys.Proofs.Script.Grammar
import DeadKeys.Proofs.Script.Lines
import DeadKeys.Proofs.Script.LongestMatch
import DeadKeys.Proofs.Script.ModifierLists
import DeadKeys.Proofs.Script.Resuming
import DeadKeys.Proofs.Script.RoundTrip
import DeadKeys.Proofs.Transform.Atomicity
