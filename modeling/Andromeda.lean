import Andromeda.Fuse.AdapterProperties
import Andromeda.Fuse.Adapter
import Andromeda.Backend.TransportProperties
import Andromeda.Backend.Transport
import Andromeda.Text.Base64Properties
import Andromeda.Text.Base64
import Andromeda.Library.Multimap
import Andromeda.Backend.SessionRunProperties
import Andromeda.Backend.BackendSessionProperties
import Andromeda.Backend.BackendSession
import Andromeda.Folders.ItemLocksProperties
import Andromeda.Folders.ItemLocks
import Andromeda.Locks.LoadProperties
import Andromeda.Fuse.MountProperties
import Andromeda.Fuse.NamespaceProperties
import Andromeda.Fuse.Namespace
import Andromeda.Fuse.Operations
import Andromeda.Folders.RelocationProperties
import Andromeda.Folders.SettlementProperties
import Andromeda.Folders.RemovalProperties
import Andromeda.Folders.CreationProperties
import Andromeda.Folders.PathLookupProperties
import Andromeda.Folders.PathLookup
import Andromeda.Folders.LookupProperties
import Andromeda.Folders.FaultProperties
import Andromeda.Folders.Namespace
import Andromeda.Library.Paths
import Andromeda.Arguments.BaseOptionsProperties
import Andromeda.Containers.OrderedMapProperties
import Andromeda.Containers.OrderedMap
import Andromeda.Fuse.RenameProperties
import Andromeda.Fuse.Rename
import Andromeda.Text.PathProperties
import Andromeda.Crypto.CipherProperties
import Andromeda.Crypto.Cipher
import Andromeda.Arguments.CommandLineProperties
import Andromeda.Arguments.CommandLine
import Andromeda.Arguments.BaseOptions
import Andromeda.Database.SaveRowProperties
import Andromeda.Database.SaveQueryProperties
import Andromeda.Database.SaveTextProperties
import Andromeda.Database.SaveText
import Andromeda.Library.Sql.Statement
import Andromeda.Database.QueryCriteriaProperties
import Andromeda.Database.PlaceholderProperties
import Andromeda.Database.QueryCriteria
import Andromeda.Library.Sql.Reading
import Andromeda.Library.Sql.Expression
import Andromeda.Library.Sql.Token
import Andromeda.Database.ObjectReferenceProperties
import Andromeda.Database.RegistryProperties
import Andromeda.Database.ObjectReference
import Andromeda.Database.UniqueDeleteProperties
import Andromeda.Database.UniqueDelete
import Andromeda.Database.LikeProperties
import Andromeda.Database.QueryText
import Andromeda.Text.EscapeProperties
import Andromeda.Library.Like
import Andromeda.Text.BytesProperties
import Andromeda.Backend.ParseURLProperties
import Andromeda.Backend.ParseURL
import Andromeda.Text.ExplodeProperties
import Andromeda.Text.StringUtil
import Andromeda.Database.MixedEqualityProperties
import Andromeda.Database.MixedEquality
import Andromeda.Database.NullableScalarProperties
import Andromeda.Database.NullableScalar
import Andromeda.Database.TableInstallerProperties
import Andromeda.Library.Interruption
import Andromeda.Database.TableInstaller
import Andromeda.Cleanup.SelectionProperties
import Andromeda.Cleanup.SelectionLoops
import Andromeda.FileData.FetchAttemptsProperties
import Andromeda.Backend.SendLimitProperties
import Andromeda.Backend.RejectionProperties
import Andromeda.Backend.HTTPRequestsProperties
import Andromeda.Backend.RunnerInputProperties
import Andromeda.FileData.FetchThreadsProperties
import Andromeda.FileData.FetchRangeProperties
import Andromeda.FileData.PageStreamProperties
import Andromeda.Backend.SendFileProperties
import Andromeda.Cleanup.LifetimeProperties
import Andromeda.Cleanup.ShutdownProperties
import Andromeda.Cleanup.DeadlockProperties
import Andromeda.Cleanup.CleanupThreads
import Andromeda.Database.IdentityProperties
import Andromeda.Database.IdentityMap
import Andromeda.Database.QueryProperties
import Andromeda.Database.QueryBuilder
import Andromeda.Database.RoundTripProperties
import Andromeda.Backend.StreamOutProperties
import Andromeda.Backend.HTTPRunner
import Andromeda.Allocation.PoolProperties
import Andromeda.Allocation.CachingAllocatorProperties
import Andromeda.Allocation.CachingAllocator
import Andromeda.Library.Blocks
import Andromeda.Backend.RunnerPoolProperties
import Andromeda.Backend.RunnerPool
import Andromeda.FileData.ShapeProperties
import Andromeda.FileData.AlignmentProperties
import Andromeda.FileData.AtomicityProperties
import Andromeda.Folders.DirectoryRunProperties
import Andromeda.Folders.TransferProperties
import Andromeda.Folders.DirectoryProperties
import Andromeda.Folders.ListingProperties
import Andromeda.Folders.Directory
import Andromeda.Folders.RunProperties
import Andromeda.Folders.MoveProperties
import Andromeda.Folders.OperationProperties
import Andromeda.Folders.LoadProperties
import Andromeda.Folders.TreeProperties
import Andromeda.Folders.Operations
import Andromeda.Folders.SyncProperties
import Andromeda.Folders.ItemProperties
import Andromeda.Folders.Items
import Andromeda.Library.Ownership
import Andromeda.FileData.CacheAccounting
import Andromeda.FileData.CacheStretches
import Andromeda.FileData.QueueProperties
import Andromeda.FileData.PageTable
import Andromeda.FileData.PageTableProperties
import Andromeda.Database.SessionProperties
import Andromeda.Database.SaveProperties
import Andromeda.Database.FieldProperties
import Andromeda.Database.Scenario
import Andromeda.Database.TransactionProperties
import Andromeda.Database.Session
import Andromeda.Database.Fields
import Andromeda.Database.ObjectDatabase
import Andromeda.Locks.SemaphorProperties
import Andromeda.Locks.SharedMutexProperties
import Andromeda.Locks.Semaphor
import Andromeda.Locks.SharedMutex
import Andromeda.FileData.ReadProperties
import Andromeda.FileData.FlushDurability
import Andromeda.FileData.OperationProperties
import Andromeda.FileData.WriteBytesProperties
import Andromeda.FileData.TruncateProperties
import Andromeda.FileData.FrameProperties
import Andromeda.FileData.WriteProperties
import Andromeda.FileData.ContentProperties
import Andromeda.FileData.GetPageWriteProperties
import Andromeda.FileData.FetchProperties
import Andromeda.FileData.PageWriteProperties
import Andromeda.FileData.CacheLimitsProperties
import Andromeda.FileData.PageFlushProperties
import Andromeda.FileData.FlushStepProperties
import Andromeda.FileData.FlushStep
import Andromeda.FileData.Invariants
import Andromeda.FileData.CacheQueueProperties
import Andromeda.FileData.PageListProperties
import Andromeda.FileData.Session
import Andromeda.FileData.WriteListProperties
import Andromeda.Library.Queries
import Andromeda.Database.QueryTextProperties
import Andromeda.Database.CodecProperties
import Andromeda.FileData.TranscriptProperties
