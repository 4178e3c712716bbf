import StructuralCast.Script.Interpreter
import StructuralCast.Proofs.Inquiry
import StructuralCast.Proofs.Compatibility.Relation
import StructuralCast.Proofs.Registry.Growth
import StructuralCast.Proofs.Registry.Chain
import StructuralCast.Proofs.Compatibility.Conformance
import StructuralCast.Proofs.Inquiry.Analysis
import StructuralCast.Proofs.Compatibility.Assumption
import StructuralCast.Proofs.Compatibility.Recursion
import StructuralCast.Proofs.Compatibility.Guard
import StructuralCast.Proofs.Engine.Generation
import StructuralCast.Proofs.Engine.Widening
import StructuralCast.Proofs.Engine.Move
import StructuralCast.Proofs.World
import StructuralCast.Proofs.Engine.Reachable
import StructuralCast.Proofs.Engine.Constancy
import StructuralCast.Proofs.Engine.History
import StructuralCast.Proofs.Compatibility.Replay
import StructuralCast.Proofs.Compatibility.Settlement
import StructuralCast.Proofs.Engine.Planned
import StructuralCast.Proofs.Value.Wrapper
import StructuralCast.Proofs.Engine.Replay
import StructuralCast.Proofs.Engine.Overload
import StructuralCast.Proofs.Cast.Layer
import StructuralCast.Proofs.Cast.Repetition
import StructuralCast.Proofs.Registry.Assignable
import StructuralCast.Proofs.Conversion
import StructuralCast.Proofs.Forwarding.Conduct
import StructuralCast.Proofs.Forwarding.Service
import StructuralCast.Proofs.Forwarding.Slot
import StructuralCast.Proofs.Forwarding.Use
import StructuralCast.Proofs.Forwarding.Typing
import StructuralCast.Proofs.Engine.Preparation
import StructuralCast.Proofs.Engine.Invariant
import StructuralCast.Proofs.Cast.Prediction
import StructuralCast.Proofs.Planning
import StructuralCast.Proofs.Compatibility.Affirmation
import StructuralCast.Proofs.Engine.Synthesis
import StructuralCast.Proofs.Cast.Synthesis
import StructuralCast.Proofs.Inquiry.Choice
import StructuralCast.Proofs.Inquiry.Optimum
import StructuralCast.Proofs.Engine.Answers
import StructuralCast.Proofs.Forwarding.Override
import StructuralCast.Proofs.Forwarding.Counterpart
import StructuralCast.Proofs.Engine.Agreement
import StructuralCast.Proofs.Cast.Alike
import StructuralCast.Proofs.Forwarding.Abreast
import StructuralCast.Proofs.Forwarding.Pair
import StructuralCast.Proofs.Cast.Sharing
import StructuralCast.Proofs.Engine.Extension
import StructuralCast.Proofs.Forwarding.Access
import StructuralCast.Proofs.Event.Multicast
import StructuralCast.Proofs.Event.Wrapping
import StructuralCast.Proofs.Event.Raising
import StructuralCast.Proofs.Event.Notification
import StructuralCast.Proofs.Event.Subscription
import StructuralCast.Proofs.Event.Delivery
import StructuralCast.Proofs.Value.Equality
import StructuralCast.Proofs.Engine.Accrual
import StructuralCast.Proofs.Cast.Memory
import StructuralCast.Proofs.Forwarding.Conveyance
import StructuralCast.Proofs.Registry.Registration
import StructuralCast.Proofs.Session
import StructuralCast.Proofs.Cast.Readiness
import StructuralCast.Proofs.Forwarding.Frame
import StructuralCast.Proofs.Forwarding.Readaptation
import StructuralCast.Proofs.Engine.Founding
import StructuralCast.Proofs.Forwarding.Dispatch
import StructuralCast.Proofs.Forwarding.Entry
import StructuralCast.Proofs.Engine.Convertibility
import StructuralCast.Proofs.Cast.Fitness
import StructuralCast.Proofs.Cast.Enumeration
import StructuralCast.Proofs.Text.Numeral
import StructuralCast.Proofs.Cast.Accord
import StructuralCast.Proofs.Registry.Descent
import StructuralCast.Proofs.Registry.Gathering
import StructuralCast.Proofs.Forwarding.Selection
import StructuralCast.Proofs.Event.Cancellation
import StructuralCast.Proofs.Event.History
import StructuralCast.Proofs.Registry.Listing
import StructuralCast.Proofs.Compatibility.Deliberation
