import MeshcoreObserver.Bots.OneReply
import MeshcoreObserver.Bots.RadioAway
import MeshcoreObserver.Bots.RepeatCounting
import MeshcoreObserver.Bots.RepeatTiming
import MeshcoreObserver.Bots.ReplyOrder
import MeshcoreObserver.Bots.ReplyTtl
import MeshcoreObserver.Bots.ReplyWakeup
import MeshcoreObserver.Bots.ResolvedSlots
import MeshcoreObserver.Bots.ResponseBudget
import MeshcoreObserver.Bots.SlotAllocation
import MeshcoreObserver.Bots.StatsRange
import MeshcoreObserver.Bots.TemplateFilling
import MeshcoreObserver.Bots.WaitingTexts
import MeshcoreObserver.Config.AcceptedConfig
import MeshcoreObserver.Logging.LogSecrets
import MeshcoreObserver.Metrics.BucketWidths
import MeshcoreObserver.Metrics.OpenedStore
import MeshcoreObserver.Metrics.Retention
import MeshcoreObserver.Mqtt.DeliveryAccounting
import MeshcoreObserver.Mqtt.OneClient
import MeshcoreObserver.Mqtt.RetainedStatus
import MeshcoreObserver.Mqtt.TokenCache
import MeshcoreObserver.Mqtt.TokenRefreshLoop
import MeshcoreObserver.Nodes.LastAdvert
import MeshcoreObserver.Nodes.NodeSearch
import MeshcoreObserver.Packets.CapturedFeed
import MeshcoreObserver.Radio.AdvertCadence
import MeshcoreObserver.Radio.ConnectedEvents
import MeshcoreObserver.Radio.DeadConnection
import MeshcoreObserver.Radio.FreshWindow
import MeshcoreObserver.Radio.OpeningEnds
import MeshcoreObserver.Radio.RetryPolicy
import MeshcoreObserver.Radio.SerialCommands
import MeshcoreObserver.Service.StoreFailures
import MeshcoreObserver.Web.CardsCurrent
import MeshcoreObserver.Web.CustomRange
import MeshcoreObserver.Web.DashboardAgreement
import MeshcoreObserver.Web.LiveStream
import MeshcoreObserver.Web.NodesPaging
import MeshcoreObserver.Web.RefreshOrder
