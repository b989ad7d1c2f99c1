import Redhawk.Bulkio.SriTracking
import Redhawk.Bulkio.FlushReport
import Redhawk.Bulkio.BackPressure
import Redhawk.Bulkio.StreamReuse
import Redhawk.Bulkio.StreamEnds
import Redhawk.Bulkio.OutPortLock
import Redhawk.Allocation.DeviceRestriction
import Redhawk.Connections.ChannelBalance
import Redhawk.Gpp.HostCapacity
import Redhawk.Frontend.TunerAllocation
import Redhawk.Properties.ListenerReports
import Redhawk.Processes.ProcessRegistry
import Redhawk.Processes.SearchPaths
import Redhawk.EventChannels.ChannelPromises
import Redhawk.Persistence.DomainRoundTrip
import Redhawk.Bulkio.StreamReset
import Redhawk.Bulkio.SamplesAvailable
import Redhawk.Gpp.ChildTracking
import Redhawk.Bulkio.PyPortLock
import Redhawk.Bulkio.AttachmentRefinement
import Redhawk.Bulkio.BufferTimes
import Redhawk.Bulkio.TimestampedWrites
import Redhawk.Bulkio.TransportChunks
import Redhawk.Bitops.BitFind
import Redhawk.Bitops.BitTakeSkip
import Redhawk.Bulkio.MessageBuffer
import Redhawk.SharedMemory.Heap
import Redhawk.Allocation.PartitionedAllocations
import Redhawk.Capacity.RejectedDeallocations
import Redhawk.Applications.ListenerRegistrations
import Redhawk.Deployment.CollocationDevices
import Redhawk.Deployment.SoftpkgResolution
import Redhawk.EventChannels.DeferredRelease
import Redhawk.Registration.FailedRegistration
import Redhawk.Deployment.ChosenImplementation
import Redhawk.Deployment.CollocationSearch
import Redhawk.Applications.ComponentLookup
import Redhawk.Properties.ListenerWiring
import Redhawk.Properties.TextRoundTrip
import Redhawk.Properties.SequenceConversions
import Redhawk.Properties.TimeRoundTrip
import Redhawk.Properties.AnyNumbers
import Redhawk.Deployment.MathEvaluation
import Redhawk.Properties.ConfigureReports
import Redhawk.Applications.PropertyRouting
import Redhawk.Burstio.BurstQueue
import Redhawk.Burstio.BurstDelivery
import Redhawk.Gpp.SubscribedLoad
import Redhawk.Gpp.NicAnswers
import Redhawk.Nodes.NodeStartup
import Redhawk.Buffers.BufferAccounts
import Redhawk.Sdds.SddsTime
import Redhawk.Sdds.SddsHeader
import Redhawk.Bulkio.SriComparison
import Redhawk.Bulkio.TimeOperators
import Redhawk.Gpp.CpuUsage
import Redhawk.Bulkio.PyInPort
import Redhawk.Nodes.PartialStructs
