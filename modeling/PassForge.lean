import PassForge.Binding.Group
import PassForge.Context.Create
import PassForge.Document.Printer
import PassForge.Document.Reader
import PassForge.Options.Decode
import PassForge.Pass.Compute
import PassForge.Pass.Render
import PassForge.Proofs.Assignment
import PassForge.Proofs.Binding.Merge
import PassForge.Proofs.Binding.Occurrence
import PassForge.Proofs.Binding.Order
import PassForge.Proofs.Binding.Service
import PassForge.Proofs.Checks
import PassForge.Proofs.Context.Again
import PassForge.Proofs.Context.Bound
import PassForge.Proofs.Context.Durable
import PassForge.Proofs.Context.Identity
import PassForge.Proofs.Context.MipSequences
import PassForge.Proofs.Context.Operations
import PassForge.Proofs.Context.Refresh
import PassForge.Proofs.Context.Rendering
import PassForge.Proofs.Context.Sound
import PassForge.Proofs.Context.Spared
import PassForge.Proofs.Context.Steady
import PassForge.Proofs.Context.Step
import PassForge.Proofs.Context.Twin
import PassForge.Proofs.Creation
import PassForge.Proofs.Device
import PassForge.Proofs.Distinct
import PassForge.Proofs.Draw.Arguments
import PassForge.Proofs.Draw.Draws
import PassForge.Proofs.Draw.Vertices
import PassForge.Proofs.Enumeration
import PassForge.Proofs.Failure
import PassForge.Proofs.History
import PassForge.Proofs.Pass.Accept
import PassForge.Proofs.Pass.Acquire
import PassForge.Proofs.Pass.Agreement
import PassForge.Proofs.Pass.Bindings
import PassForge.Proofs.Pass.Checked
import PassForge.Proofs.Pass.Checks
import PassForge.Proofs.Pass.Compatible
import PassForge.Proofs.Pass.Coverage
import PassForge.Proofs.Pass.Cutting
import PassForge.Proofs.Pass.Encoding
import PassForge.Proofs.Pass.Failure
import PassForge.Proofs.Pass.Faults
import PassForge.Proofs.Pass.Fit
import PassForge.Proofs.Pass.MipChain
import PassForge.Proofs.Pass.Overrun
import PassForge.Proofs.Pass.Packing
import PassForge.Proofs.Pass.Plan
import PassForge.Proofs.Pass.Ranges
import PassForge.Proofs.Pass.Rebinding
import PassForge.Proofs.Pass.Recompile
import PassForge.Proofs.Pass.Reconcile
import PassForge.Proofs.Pass.Replay
import PassForge.Proofs.Pass.Retry
import PassForge.Proofs.Pass.Serve
import PassForge.Proofs.Pass.Standing
import PassForge.Proofs.Pass.Steps
import PassForge.Proofs.Pass.Supplied
import PassForge.Proofs.Pass.TextureCopy
import PassForge.Proofs.Resource.Acquire
import PassForge.Proofs.Resource.Admission
import PassForge.Proofs.Resource.Buffer
import PassForge.Proofs.Resource.BufferCalls
import PassForge.Proofs.Resource.CursorCalls
import PassForge.Proofs.Resource.Handles
import PassForge.Proofs.Resource.MipExtent
import PassForge.Proofs.Resource.Refusal
import PassForge.Proofs.Resource.Texture
import PassForge.Proofs.Resource.TextureCalls
import PassForge.Proofs.Resource.TextureCursor
import PassForge.Proofs.Resource.TextureViews
import PassForge.Proofs.Resource.TextureWrites
import PassForge.Proofs.Resource.Updates
import PassForge.Proofs.Run
import PassForge.Proofs.Session
import PassForge.Proofs.Shader.Inputs
import PassForge.Proofs.Shader.Reflection
import PassForge.Proofs.Shader.Usage
import PassForge.Proofs.Store
import PassForge.Report.Resource
import PassForge.Shader.Description
