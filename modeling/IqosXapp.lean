import IqosXapp.Effect.Program
import IqosXapp.Effect.Traverse
import IqosXapp.Effect.Request
import IqosXapp.Effect.Observe
import IqosXapp.Effect.Trace
import IqosXapp.KpmManager.Types
import IqosXapp.KpmManager.Subscription
import IqosXapp.KpmManager.SubscriptionSpec
import IqosXapp.KpmManager.ReportStyle
import IqosXapp.KpmManager.AllocationFailure
import IqosXapp.KpmManager.Start
import IqosXapp.KpmManager.NodeFate
import IqosXapp.KpmManager.StartSpec
import IqosXapp.KpmManager.SubscriptionLifecycle
import IqosXapp.KpmManager.NodeIsolation
import IqosXapp.KpmManager.SubscriptionLeak
import IqosXapp.KpmManager.SubscriptionWellFormed
import IqosXapp.KpmManager.KpmLookup
import IqosXapp.KpmManager.Indication
import IqosXapp.KpmManager.IndicationSpec
import IqosXapp.KpmManager.BoundedTraversal
import IqosXapp.KpmManager.SupportedMeasurements
import IqosXapp.KpmManager.TagDiscipline
import IqosXapp.KpmManager.SubscriptionAnswer
import IqosXapp.Transition.System
import IqosXapp.Transition.CriticalSection
import IqosXapp.KpmManager.Concurrency
import IqosXapp.KpmManager.ReportSimulation
import IqosXapp.KpmManager.SequentialRuns
import IqosXapp.KpmManager.SerialisedReports
import IqosXapp.E2Info.Nodes
import IqosXapp.E2Info.ReadNodes
import IqosXapp.Effect.Draw
import IqosXapp.Effect.Embed
import IqosXapp.KpmManager.CallbackProgress
import IqosXapp.Rnd.GeneratedData
import IqosXapp.Tabulate.PrintedTable
import IqosXapp.Transition.Continuation
import IqosXapp.Xapp.Interleaving
import IqosXapp.Xapp.MainThread
import IqosXapp.Xapp.Shutdown
import IqosXapp.Tabulate.AddedRows
import IqosXapp.Tabulate.KeptFormats
import IqosXapp.Tabulate.Setters
import IqosXapp.Xapp.Quiescence
