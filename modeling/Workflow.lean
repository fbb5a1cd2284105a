import Workflow.Catalogue.Merge
import Workflow.Console.Session
import Workflow.Engine.Operations
import Workflow.Main
import Workflow.Plan.Compile
import Workflow.Plan.Order
import Workflow.Proofs.Action
import Workflow.Proofs.Calendar
import Workflow.Proofs.Catalogue.Merge
import Workflow.Proofs.Console.Injection
import Workflow.Proofs.Console.PlanTree
import Workflow.Proofs.Engine.Alike
import Workflow.Proofs.Engine.Blame
import Workflow.Proofs.Engine.Closed
import Workflow.Proofs.Engine.Elements
import Workflow.Proofs.Engine.Ending
import Workflow.Proofs.Engine.Entries
import Workflow.Proofs.Engine.FanIn
import Workflow.Proofs.Engine.Merged
import Workflow.Proofs.Engine.Movements
import Workflow.Proofs.Engine.Shared
import Workflow.Proofs.Engine.Supply
import Workflow.Proofs.Engine.Swept
import Workflow.Proofs.Engine.Unambiguous
import Workflow.Proofs.Json.Text
import Workflow.Proofs.Plan.Cycles
import Workflow.Proofs.Plan.EdgeMappings
import Workflow.Proofs.Plan.EdgeOrder
import Workflow.Proofs.Plan.Exact
import Workflow.Proofs.Plan.Levels
import Workflow.Proofs.Plan.MappingPaths
import Workflow.Proofs.Plan.Pairing
import Workflow.Proofs.Plan.Presentation
import Workflow.Proofs.Store.Atomic
import Workflow.Proofs.Store.Faithful
import Workflow.Settings
import Workflow.Versions
import Workflow.Watchdog
