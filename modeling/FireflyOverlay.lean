import FireflyOverlay.Scalar.Single
import FireflyOverlay.Scalar.Exact
import FireflyOverlay.Image
import FireflyOverlay.Quad.Buffers
import FireflyOverlay.Swarm
import FireflyOverlay.Display.StandIn
import FireflyOverlay.Lease
import FireflyOverlay.Canvas.Checked
import FireflyOverlay.Canvas.Strict
import FireflyOverlay.Text.Quoted
import FireflyOverlay.Png
import FireflyOverlay.Assets.Memory
import FireflyOverlay.Assets.FileTree
import FireflyOverlay.Sprite
import FireflyOverlay.Sprite.Star
import FireflyOverlay.Renderer
import FireflyOverlay.Control.Pool
import FireflyOverlay.Wakeup
import FireflyOverlay.FrameBudget
import FireflyOverlay.Display.Transcript
import FireflyOverlay.Log.Console
import FireflyOverlay.Text.Pattern.Reader
import FireflyOverlay.Proofs.Trace
import FireflyOverlay.Proofs.Lease.Exchanges
import FireflyOverlay.Proofs.Renderer.Trace
import FireflyOverlay.Proofs.Renderer.Calls
import FireflyOverlay.Proofs.Canvas.Guest
import FireflyOverlay.Proofs.Lease.Ledger
import FireflyOverlay.Proofs.Canvas.Changes
import FireflyOverlay.Proofs.Canvas.Runs
import FireflyOverlay.Proofs.Canvas.Handles
import FireflyOverlay.Proofs.Canvas.Histories
import FireflyOverlay.Proofs.Canvas.Isolation
import FireflyOverlay.Proofs.Canvas.Codes
import FireflyOverlay.Proofs.Drawing.Blends
import FireflyOverlay.Proofs.Drawing.Coverage
import FireflyOverlay.Proofs.Drawing.Square
import FireflyOverlay.Proofs.Drawing.Additive
import FireflyOverlay.Proofs.Swarm.Reachable
import FireflyOverlay.Proofs.Swarm.AnyOrder
import FireflyOverlay.Proofs.Canvas.Windows
import FireflyOverlay.Proofs.Canvas.Pictures
import FireflyOverlay.Proofs.Scalar.Rounding
import FireflyOverlay.Proofs.Scalar.Single
import FireflyOverlay.Proofs.Scalar.Arithmetic
import FireflyOverlay.Proofs.Drawing.Reach
import FireflyOverlay.Proofs.Drawing.Overrun
import FireflyOverlay.Proofs.Swarm.Bounds
import FireflyOverlay.Proofs.Swarm.Fading
import FireflyOverlay.Proofs.Cut
import FireflyOverlay.Proofs.Renderer.Films
import FireflyOverlay.Proofs.Renderer.Fading
import FireflyOverlay.Proofs.Drawing.Dark
import FireflyOverlay.Proofs.Canvas.Blackout
import FireflyOverlay.Proofs.Lease.Dealings
import FireflyOverlay.Proofs.Lease.Registry
import FireflyOverlay.Proofs.Lease.Holders
import FireflyOverlay.Proofs.Canvas.Holders
import FireflyOverlay.Proofs.Swarm.Stream
import FireflyOverlay.Proofs.Renderer.Stream
import FireflyOverlay.Proofs.Canvas.Quiet
import FireflyOverlay.Proofs.Swarm.Apart
import FireflyOverlay.Proofs.Control.Growth
import FireflyOverlay.Proofs.Control.Clones
import FireflyOverlay.Proofs.Control.Wakeup
import FireflyOverlay.Proofs.Renderer.States
import FireflyOverlay.Proofs.Drawing.Windings
import FireflyOverlay.Proofs.Drawing.SharedEdge
import FireflyOverlay.Proofs.Canvas.Rebinding
import FireflyOverlay.Proofs.Renderer.Parts
import FireflyOverlay.Proofs.Lease.Accounts
import FireflyOverlay.Proofs.Renderer.Crashes
import FireflyOverlay.Proofs.Renderer.Termination
import FireflyOverlay.Proofs.Scalar.Exact
import FireflyOverlay.Proofs.Scalar.Scaled
import FireflyOverlay.Proofs.Swarm.Phases
import FireflyOverlay.Proofs.Swarm.Pulse
import FireflyOverlay.Proofs.Swarm.FrameRate
import FireflyOverlay.Proofs.Scalar.Floor
import FireflyOverlay.Proofs.Drawing.Texels
import FireflyOverlay.Proofs.Drawing.Mixing
import FireflyOverlay.Proofs.Drawing.Sampling
import FireflyOverlay.Proofs.Canvas.Uploads
import FireflyOverlay.Proofs.Canvas.Plain
import FireflyOverlay.Proofs.Canvas.Sprites
import FireflyOverlay.Proofs.Drawing.IndexLists
import FireflyOverlay.Proofs.Drawing.Projection
import FireflyOverlay.Proofs.Text.Lines
import FireflyOverlay.Proofs.Text.Matching
import FireflyOverlay.Proofs.Text.Reading
import FireflyOverlay.Proofs.Log.Foot
import FireflyOverlay.Proofs.Renderer.FirstCrash
import FireflyOverlay.Proofs.Canvas.Visits
