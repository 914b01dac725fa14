import NFCompose.PageClauses
import NFCompose.CarriedFiles
import NFCompose.FilterCrashes
import NFCompose.FlowRouting
import NFCompose.ObjectAccess
import NFCompose.GeneratedNames
import NFCompose.Chunks
import NFCompose.JobSweep
import NFCompose.PushedDiffs
import NFCompose.DomainAliases
import NFCompose.ValidationOutcome
import NFCompose.ResolvedDisplays
import NFCompose.HistoryRetention
import NFCompose.ConsumerHeartbeat
import NFCompose.PreviousPage
import NFCompose.CountAgreement
import NFCompose.QueryScope
import NFCompose.PrefixFilter
import NFCompose.MultipartBatch
import NFCompose.DataPointQuery
import NFCompose.ObjectPermissions
import NFCompose.UserDefinedIndexes
import NFCompose.Migration
import NFCompose.DefinitionFetch
import NFCompose.MetaModelTimeTravel
import NFCompose.ExternalIds
import NFCompose.Truncation
import NFCompose.BulkInsert
import NFCompose.EventDelivery
import NFCompose.Semaphore
import NFCompose.StructureConvergence
import NFCompose.StructurePhases
import NFCompose.StructurePush
import NFCompose.ListDiff
import NFCompose.StructureDiff
import NFCompose.StructureServer
import NFCompose.PartialRuns
import NFCompose.Pagination
import NFCompose.KeysetPaging
import NFCompose.GroupPermissions
import NFCompose.KeyedDiff
import NFCompose.FileLeaks
import NFCompose.LateUploads
import NFCompose.FileSafety
import NFCompose.Prune
import NFCompose.TimeTravel
import NFCompose.Agreement
import NFCompose.Reads
import NFCompose.RowClock
import NFCompose.Convergence
import NFCompose.Modification
import NFCompose.FileRegistry
import NFCompose.LastWriter
import NFCompose.KeyedTable
import NFCompose.ListDiff
import NFCompose.DataPointValidation
import NFCompose.ValidationErrors
import NFCompose.EventHeartbeats
import NFCompose.GroupConvergence
import NFCompose.DataPointEventRuns
import NFCompose.SchemaRuns
import NFCompose.FlowRuns
