import ScriptHost.Action
import ScriptHost.Bridge.Borrowing
import ScriptHost.Bridge.Function
import ScriptHost.Bridge.Handles
import ScriptHost.Bridge.HostCode
import ScriptHost.Bridge.Inspect
import ScriptHost.Bridge.Marshal
import ScriptHost.Bridge.Member
import ScriptHost.Bridge.Native
import ScriptHost.Dict
import ScriptHost.Error
import ScriptHost.Host.Builder
import ScriptHost.Host.Coercion
import ScriptHost.Host.Conversion
import ScriptHost.Host.Descriptor
import ScriptHost.Host.Directory
import ScriptHost.Host.Expr
import ScriptHost.Host.Overload
import ScriptHost.Host.Store
import ScriptHost.Host.Surface
import ScriptHost.Host.Type
import ScriptHost.Host.Value
import ScriptHost.Number.Binary64
import ScriptHost.Number.Decimal
import ScriptHost.NumberedDict
import ScriptHost.Proofs.Counting
import ScriptHost.Proofs.Discipline.Basic
import ScriptHost.Proofs.Discipline.Commands
import ScriptHost.Proofs.Discipline.Cuts
import ScriptHost.Proofs.Discipline.Evaluator
import ScriptHost.Proofs.Discipline.Guards
import ScriptHost.Proofs.Discipline.HostCode
import ScriptHost.Proofs.Discipline.Natives
import ScriptHost.Proofs.Discipline.Paths
import ScriptHost.Proofs.Handles.Index
import ScriptHost.Proofs.Handles.Ledger
import ScriptHost.Proofs.Handles.Store
import ScriptHost.Proofs.Host.Coercion
import ScriptHost.Proofs.Host.IntegerText
import ScriptHost.Proofs.Host.Integers
import ScriptHost.Proofs.Host.Selection
import ScriptHost.Proofs.Machine.Bases
import ScriptHost.Proofs.Machine.Calls
import ScriptHost.Proofs.Machine.Closed
import ScriptHost.Proofs.Machine.Courses
import ScriptHost.Proofs.Machine.Decoding
import ScriptHost.Proofs.Machine.Displaying
import ScriptHost.Proofs.Machine.Drifts
import ScriptHost.Proofs.Machine.Frames
import ScriptHost.Proofs.Machine.Indexing
import ScriptHost.Proofs.Machine.Isolation
import ScriptHost.Proofs.Machine.Nesting
import ScriptHost.Proofs.Machine.Popping
import ScriptHost.Proofs.Machine.Positions
import ScriptHost.Proofs.Machine.References
import ScriptHost.Proofs.Machine.Registry
import ScriptHost.Proofs.Machine.Rendering
import ScriptHost.Proofs.Members.Arguments
import ScriptHost.Proofs.Members.BoundCalls
import ScriptHost.Proofs.Members.Construction
import ScriptHost.Proofs.Members.Conversions
import ScriptHost.Proofs.Members.Dictionaries
import ScriptHost.Proofs.Members.Directory
import ScriptHost.Proofs.Members.Exclusion
import ScriptHost.Proofs.Members.HandedCode
import ScriptHost.Proofs.Members.Instances
import ScriptHost.Proofs.Members.Recipients
import ScriptHost.Proofs.Members.Stale
import ScriptHost.Proofs.Members.Widening
import ScriptHost.Proofs.Members.Writes
import ScriptHost.Proofs.Number.Integral
import ScriptHost.Proofs.Number.Nearest
import ScriptHost.Proofs.Provenance.Basic
import ScriptHost.Proofs.Provenance.Commands
import ScriptHost.Proofs.Provenance.Evaluator
import ScriptHost.Proofs.Provenance.HostCode
import ScriptHost.Proofs.Provenance.Members
import ScriptHost.Proofs.Provenance.Stores
import ScriptHost.Proofs.Session.Calls
import ScriptHost.Proofs.Session.Crossing
import ScriptHost.Proofs.Session.Filing
import ScriptHost.Proofs.Session.Forwarding
import ScriptHost.Proofs.Session.Functions
import ScriptHost.Proofs.Session.Globals
import ScriptHost.Proofs.Session.Holdings
import ScriptHost.Proofs.Session.Limits
import ScriptHost.Proofs.Session.Memory
import ScriptHost.Proofs.Session.Messages
import ScriptHost.Proofs.Session.Ownership
import ScriptHost.Proofs.Session.Publishing
import ScriptHost.Proofs.Session.Pushing
import ScriptHost.Proofs.Session.Replacing
import ScriptHost.Proofs.Session.Resources
import ScriptHost.Proofs.Session.RoundTrip
import ScriptHost.Proofs.Session.Shifts
import ScriptHost.Proofs.Session.Tags
import ScriptHost.Proofs.Session.Teardown
import ScriptHost.Proofs.Session.Turnover
import ScriptHost.Proofs.Text.Utf8
import ScriptHost.Script.Call
import ScriptHost.Script.Codec
import ScriptHost.Script.Machine
import ScriptHost.Script.Program
import ScriptHost.Script.Run
import ScriptHost.Script.Value
import ScriptHost.Session.Command
import ScriptHost.Session.Operations
import ScriptHost.Session.State
import ScriptHost.Session.Trace
import ScriptHost.Text.Blank
import ScriptHost.Text.Quoted
import ScriptHost.Text.Unprintable
import ScriptHost.Text.Utf8
import ScriptHost.Token
import ScriptHost.World
