import TreePlan.Main
import TreePlan.MemoryTree
import TreePlan.Proofs.Engine.Accounting
import TreePlan.Proofs.Engine.Containment
import TreePlan.Proofs.Engine.FailStop
import TreePlan.Proofs.Engine.Passes
import TreePlan.Proofs.Engine.Silence
import TreePlan.Proofs.Overlay.History
import TreePlan.Proofs.Overlay.Growing
import TreePlan.Proofs.Overlay.Knowing
import TreePlan.Proofs.Overlay.Spelling
import TreePlan.Settings.OfJson
import TreePlan.Proofs.Engine.Discovering
import TreePlan.Proofs.Text.Replace
import TreePlan.Proofs.Transforms.Removing
import TreePlan.Proofs.Transforms.Replacing
import TreePlan.Proofs.Transforms.RenamePlan
import TreePlan.Proofs.Text.Utf8
import TreePlan.Proofs.MemoryTree.Discovery
import TreePlan.Proofs.Overlay.Still
import TreePlan.Proofs.Engine.Walking
import TreePlan.Proofs.Overlay.Reading
import TreePlan.Proofs.Transforms.Rerunning
import TreePlan.Proofs.Plan.Applying
import TreePlan.Proofs.MemoryTree.Effects
import TreePlan.Proofs.Path.Above
import TreePlan.Proofs.Path.Order
import TreePlan.Proofs.Path.Relative
import TreePlan.Proofs.Host.Search
import TreePlan.Proofs.Glob.Braces
import TreePlan.Proofs.Overlay.Framing
import TreePlan.Proofs.MemoryTree.Listing
import TreePlan.Proofs.MemoryTree.Search
import TreePlan.Proofs.Glob.Expanded
import TreePlan.Proofs.Glob.Literal
import TreePlan.Proofs.Path.Forms
import TreePlan.Proofs.Path.Joining
import TreePlan.Proofs.Path.Cutting
import TreePlan.Proofs.Path.Text
import TreePlan.Proofs.Path.Split
import TreePlan.Proofs.Plan.Showing
import TreePlan.Proofs.Json.Grammar
import TreePlan.Proofs.Json.Quoted
import TreePlan.Proofs.Json.Reader
import TreePlan.Proofs.Plan.Page
