import MqttProtocolCore.General.Outcome
import MqttProtocolCore.General.HashSet
import MqttProtocolCore.General.IndexMap
import MqttProtocolCore.General.OrderedSet
import MqttProtocolCore.General.Recency
import MqttProtocolCore.General.Runs
import MqttProtocolCore.General.Simulation
import MqttProtocolCore.General.Slice
import MqttProtocolCore.General.Block
import MqttProtocolCore.Common.ValueAllocator
import MqttProtocolCore.Common.AllocatorRefinement
import MqttProtocolCore.Packet.ResultCode
import MqttProtocolCore.Packet.Basic
import MqttProtocolCore.Packet.VariableByteInteger
import MqttProtocolCore.Connection.PacketBuilder
import MqttProtocolCore.Connection.Framing
import MqttProtocolCore.Connection.FrameAgreement
import MqttProtocolCore.Connection.Chunks
import MqttProtocolCore.Packet.MqttString
import MqttProtocolCore.Packet.Property
import MqttProtocolCore.Packet.Parse
import MqttProtocolCore.Packet.V311
import MqttProtocolCore.Packet.V50.Connect
import MqttProtocolCore.Packet.V50.Publish
import MqttProtocolCore.Packet.V50.Ack
import MqttProtocolCore.Packet.V50.Subscription
import MqttProtocolCore.Packet.Totality
import MqttProtocolCore.Packet.GenericPacket
import MqttProtocolCore.Connection.PacketIdManager
import MqttProtocolCore.Connection.Store
import MqttProtocolCore.Packet.TopicAlias
import MqttProtocolCore.Connection.State
import MqttProtocolCore.Connection.Send
import MqttProtocolCore.Connection.Recv
import MqttProtocolCore.Connection.Operations
import MqttProtocolCore.Connection.ClientRun
import MqttProtocolCore.Connection.Effects
import MqttProtocolCore.Connection.Session
import MqttProtocolCore.Connection.Dispatch
import MqttProtocolCore.Connection.AliasHistory
import MqttProtocolCore.Connection.AliasResolution
import MqttProtocolCore.Connection.AliasUse
import MqttProtocolCore.Connection.AliasRecency
import MqttProtocolCore.Connection.Arrival
import MqttProtocolCore.Connection.Refinement
import MqttProtocolCore.Connection.Change
import MqttProtocolCore.Connection.SendSpec
import MqttProtocolCore.Connection.PublishSpec
import MqttProtocolCore.Connection.RecvSpec
import MqttProtocolCore.Connection.RecvPublishSpec
import MqttProtocolCore.Connection.DeliverSpec
import MqttProtocolCore.Connection.OperationSpec
import MqttProtocolCore.Connection.StepSpec
import MqttProtocolCore.Connection.Frame
import MqttProtocolCore.Connection.SendFrame
import MqttProtocolCore.Connection.OpenFrame
import MqttProtocolCore.Connection.StepFrame
import MqttProtocolCore.Connection.StoreChange
import MqttProtocolCore.Connection.StoreOrder
import MqttProtocolCore.Connection.StoredForm
import MqttProtocolCore.Connection.Resend
import MqttProtocolCore.Connection.Restoring
import MqttProtocolCore.Connection.Releases
import MqttProtocolCore.Connection.Residue
import MqttProtocolCore.Connection.Subscriptions
import MqttProtocolCore.Connection.Acks
import MqttProtocolCore.Connection.Emission
import MqttProtocolCore.Connection.RecvEmission
import MqttProtocolCore.Connection.Origin
import MqttProtocolCore.Connection.WholeFrame
import MqttProtocolCore.Connection.RecvLimit
import MqttProtocolCore.Connection.Swallow
import MqttProtocolCore.Connection.SessionPresent
import MqttProtocolCore.Connection.RecvLoop
import MqttProtocolCore.Connection.Insulation
import MqttProtocolCore.Connection.Integrity
import MqttProtocolCore.Connection.Loss
import MqttProtocolCore.Connection.OfflineQueue
import MqttProtocolCore.Connection.Tracking
import MqttProtocolCore.Connection.Exchange
import MqttProtocolCore.Connection.ExactlyOnce
import MqttProtocolCore.Connection.PanicFreedom
import MqttProtocolCore.Connection.RoleSafety
import MqttProtocolCore.Connection.Violation
import MqttProtocolCore.Connection.Closing
import MqttProtocolCore.Connection.Ticks
import MqttProtocolCore.Connection.TimersKept
import MqttProtocolCore.Connection.Timers
import MqttProtocolCore.Connection.TimerMarks
import MqttProtocolCore.Connection.Pacing
import MqttProtocolCore.Connection.Handshake
import MqttProtocolCore.Connection.ServerKeepAlive
import MqttProtocolCore.Connection.Heartbeat
import MqttProtocolCore.Connection.ClientHandshake
import MqttProtocolCore.Connection.ClientTimer
import MqttProtocolCore.Connection.ClientKeepAlive
import MqttProtocolCore.Connection.Flight
import MqttProtocolCore.Connection.FlowControl
import MqttProtocolCore.Connection.SizeLimit
import MqttProtocolCore.Connection.SizeKept
import MqttProtocolCore.Connection.SizeAnnounced
import MqttProtocolCore.Connection.RecvMaximum
import MqttProtocolCore.Connection.RefusedPublish
import MqttProtocolCore.General.Format
import MqttProtocolCore.General.LastWrite
import MqttProtocolCore.General.Tally
import MqttProtocolCore.Packet.Codec.Primitives
import MqttProtocolCore.Packet.Codec.Properties
import MqttProtocolCore.Packet.Codec.Fields
import MqttProtocolCore.Packet.Codec.Sections
import MqttProtocolCore.Packet.Codec.PropertiesRoundTrip
import MqttProtocolCore.Packet.Codec.Wire
import MqttProtocolCore.Packet.Codec.Ack
import MqttProtocolCore.Packet.Codec.ShortForms
import MqttProtocolCore.Packet.Codec.Publish
import MqttProtocolCore.Packet.Codec.ConnectBuilder
import MqttProtocolCore.Packet.Codec.ConnectParts
import MqttProtocolCore.Packet.Codec.V311
import MqttProtocolCore.Packet.Codec.Connect
import MqttProtocolCore.Packet.Codec.ConnectRoundTrip
import MqttProtocolCore.Packet.Codec.Subscription
import MqttProtocolCore.Packet.Codec.Lengths
import MqttProtocolCore.Packet.Codec.RepliesV311
import MqttProtocolCore.Packet.Codec.GenericWire
import MqttProtocolCore.Packet.Codec.Forward
import MqttProtocolCore.Packet.Codec.Rebuild
import MqttProtocolCore.Packet.Codec.PublishBuilder
import MqttProtocolCore.Packet.Codec.AliasRewriting
import MqttProtocolCore.Packet.Codec.RebuildConnect
import MqttProtocolCore.Packet.Codec.ConnectSetters
import MqttProtocolCore.Packet.Codec.Prefix
import MqttProtocolCore.Connection.Fate
import MqttProtocolCore.Connection.Bookkeeping
import MqttProtocolCore.Connection.Releasing
import MqttProtocolCore.Connection.ExactRelease
import MqttProtocolCore.Connection.Astray
import MqttProtocolCore.Packet.LengthField
import MqttProtocolCore.Packet.TopicAliasRuns
import MqttProtocolCore.Packet.InlineBuffer
import MqttProtocolCore.Packet.Inline
import MqttProtocolCore.Packet.ArcPayload
import MqttProtocolCore.Connection.Renewal
import MqttProtocolCore.Connection.CleanStart
import MqttProtocolCore.Connection.AliasWords
import MqttProtocolCore.Connection.AliasAgreement
import MqttProtocolCore.Connection.AliasLink
import MqttProtocolCore.Connection.AliasDelivery
import MqttProtocolCore.General.Replies
import MqttProtocolCore.General.Dictionary
import MqttProtocolCore.Connection.HandoverStage
import MqttProtocolCore.Connection.HandoverSender
import MqttProtocolCore.Connection.SingleReply
import MqttProtocolCore.Connection.HandoverAgreement
import MqttProtocolCore.Connection.HandoverDelivery
import MqttProtocolCore.Connection.HandoverJoint
import MqttProtocolCore.Connection.HandoverLink
import MqttProtocolCore.Connection.HandoverReceiver
import MqttProtocolCore.Connection.Wire
import MqttProtocolCore.Connection.Stream
import MqttProtocolCore.Connection.PublishWire
import MqttProtocolCore.Connection.OwnPackets
import MqttProtocolCore.Connection.SentWire
import MqttProtocolCore.Connection.RecvSlices
import MqttProtocolCore.Connection.CheckedSend
import MqttProtocolCore.Connection.Phase
import MqttProtocolCore.Connection.PhaseRuns
import MqttProtocolCore.Connection.SessionGrammar
import MqttProtocolCore.Connection.IdBooks
import MqttProtocolCore.Connection.ReceiptStage
import MqttProtocolCore.Connection.ReceiptSender
import MqttProtocolCore.Connection.ReceiptReceiver
import MqttProtocolCore.Connection.ReceiptLink
import MqttProtocolCore.Connection.ReceiptDelivery
