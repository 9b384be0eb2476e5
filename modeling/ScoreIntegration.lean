import ScoreIntegration.Databroker.BatchActuation
import ScoreIntegration.Databroker.ProviderRequests
import ScoreIntegration.Filesystem.Path
import ScoreIntegration.Log.CompositeRecorder
import ScoreIntegration.Lola.CompositeSafety
import ScoreIntegration.Lola.PublicationSystem
import ScoreIntegration.Lola.ReceiveHandlerRegistration
import ScoreIntegration.Lola.ProxyAvailability
import ScoreIntegration.Lola.NotificationExistence
import ScoreIntegration.Lola.RemoteNotification
import ScoreIntegration.Lola.RemoteRegistration
import ScoreIntegration.Lola.MethodRegions
import ScoreIntegration.Lola.SharedMemorySizes
import ScoreIntegration.Memory.MemoryResourceRegistry
import ScoreIntegration.Lola.ApplicationIdPidMapping
import ScoreIntegration.Lola.ConsumerRecovery
import ScoreIntegration.Memory.OffsetPtrSafety
import ScoreIntegration.MessagePassing.SendBuffers
import ScoreIntegration.MessagePassing.ReplyCallbacks
import ScoreIntegration.MessagePassing.LifeCycle
import ScoreIntegration.MessagePassing.ServerConnection
import ScoreIntegration.Lola.DiscoveryRuns
import ScoreIntegration.LolaGateway.GatewayApplication
import ScoreIntegration.GatewayIpc.BindingRuns
import ScoreIntegration.GatewayIpc.ServiceWithdrawal
import ScoreIntegration.GatewayIpc.ProviderServiceBinding
import ScoreIntegration.Socom.ServerRegistration
import ScoreIntegration.KnownGood.ResolvedDependencies
import ScoreIntegration.MwComProvider.IntegerSamples
import ScoreIntegration.RemoteApp.HighBeam
import ScoreIntegration.SafeMath.MultiplicationDivision
import ScoreIntegration.Serialization.Deserializer
import ScoreIntegration.Memory.RegionMapCapacity
import ScoreIntegration.Release.Approvals
