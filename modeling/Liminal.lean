import Liminal.Conversation.Dispatch
import Liminal.Conversation.FateTokens
import Liminal.Conversation.MarkerFaults
import Liminal.Conversation.Progress
import Liminal.Client.Authority
import Liminal.Client.CrashReplay
import Liminal.Client.LostAnswer
import Liminal.Server.Capacity
import Liminal.Server.Receipts
import Liminal.Server.Startup
import Liminal.Server.Supervisor
import Liminal.Wire.ServerCanonical
import Liminal.Server.Admissions
import Liminal.Subscription
import Liminal.Channel
import Liminal.ConversationActor
import Liminal.DurableKeys
import Liminal.Routing
import Liminal.DurableConversation
import Liminal.Client.ReconnectHistory
import Liminal.CausalOrderer
import Liminal.Lifecycle.AckInDebt
import Liminal.Lifecycle.Incarnation
