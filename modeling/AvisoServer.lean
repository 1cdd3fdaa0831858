import AvisoServer.Auth.Identity
import AvisoServer.Backend.Eviction
import AvisoServer.Backend.JetStreamAdmin
import AvisoServer.Backend.JetStreamPublisher
import AvisoServer.Backend.JetStreamRetry
import AvisoServer.Backend.ReplayAgreement
import AvisoServer.Backend.Retention
import AvisoServer.Backend.StoragePolicies
import AvisoServer.Backend.StreamBindings
import AvisoServer.Backend.StreamFrames
import AvisoServer.CloudEvents.PayloadPreview
import AvisoServer.CloudEvents.RoundTrip
import AvisoServer.Ecpds.Cache
import AvisoServer.Ecpds.Delivery
import AvisoServer.Metrics.HttpRequests
import AvisoServer.Metrics.SseConnections
import AvisoServer.Notification.ConstraintPath
import AvisoServer.Notification.RoutingTotality
import AvisoServer.Notification.SubjectTokens
import AvisoServer.Requests.NumericDates
import AvisoServer.Routes.Accounting
import AvisoServer.Routes.AdminGuard
import AvisoServer.Routes.DeletionById
import AvisoServer.Routes.ErrorKinds
import AvisoServer.Routes.ProtectedStreams
import AvisoServer.Routes.PublishedReplay
import AvisoServer.Routes.RequestedMessages
import AvisoServer.Routes.ScalarFilters
import AvisoServer.Routes.SpatialRouting
import AvisoServer.Routes.StreamAuthRule
import AvisoServer.Routes.StreamDelivery
import AvisoServer.Routes.StreamIsolation
import AvisoServer.Routes.UnboxedFilters
import AvisoServer.Sse.CloseReason
import AvisoServer.Sse.FrameGrammar
import AvisoServer.Sse.Framing
import AvisoServer.Sse.JetStreamReconnect
import AvisoServer.Sse.ReplayDates
import AvisoServer.Sse.ReplayDelivery
import AvisoServer.Sse.ReplayTermination
import AvisoServer.Sse.Watch
import AvisoServer.Telemetry.LogContext
import AvisoServer.Telemetry.LogSecrecy
import AvisoServer.Telemetry.UserinfoSecrecy
import AvisoServer.TopicCodec.RoundTrip
import AvisoServer.Validators.NormalForms
