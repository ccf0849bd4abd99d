import Mathlib.Tactic.Common

namespace MqttProtocolCore.Packet

inductive MqttError where
  | unspecifiedError | malformedPacket | protocolError | implementationSpecificError
  | unsupportedProtocolVersion | clientIdentifierNotValid | badUserNameOrPassword | notAuthorized
  | serverUnavailable | serverBusy | banned | serverShuttingDown | badAuthenticationMethod
  | keepAliveTimeout | sessionTakenOver | topicFilterInvalid | topicNameInvalid
  | receiveMaximumExceeded | topicAliasInvalid | packetTooLarge | messageRateTooHigh
  | quotaExceeded | administrativeAction | payloadFormatInvalid | retainNotSupported
  | qosNotSupported | useAnotherServer | serverMoved | sharedSubscriptionsNotSupported
  | connectionRateExceeded | maximumConnectTime | subscriptionIdentifiersNotSupported
  | wildcardSubscriptionsNotSupported | partialErrorDetected | packetEnqueued | allErrorDetected
  | packetIdentifierFullyUsed | packetIdentifierConflict | packetIdentifierInvalid
  | packetNotAllowedToSend | packetNotAllowedToStore | packetNotRegulated | insufficientBytes
  | invalidPacketForRole | versionMismatch | packetConversionFailed | packetProcessFailed
  | valueOutOfRange | invalidQos
deriving DecidableEq

/-- The errors that have a code on the wire. -/
def MqttError.tryFrom (code : UInt8) : Option MqttError :=
  match code.toNat with
  | 0x80 => some .unspecifiedError
  | 0x81 => some .malformedPacket
  | 0x82 => some .protocolError
  | 0x83 => some .implementationSpecificError
  | 0x84 => some .unsupportedProtocolVersion
  | 0x85 => some .clientIdentifierNotValid
  | 0x86 => some .badUserNameOrPassword
  | 0x87 => some .notAuthorized
  | 0x88 => some .serverUnavailable
  | 0x89 => some .serverBusy
  | 0x8A => some .banned
  | 0x8B => some .serverShuttingDown
  | 0x8C => some .badAuthenticationMethod
  | 0x8D => some .keepAliveTimeout
  | 0x8E => some .sessionTakenOver
  | 0x8F => some .topicFilterInvalid
  | 0x90 => some .topicNameInvalid
  | 0x93 => some .receiveMaximumExceeded
  | 0x94 => some .topicAliasInvalid
  | 0x95 => some .packetTooLarge
  | 0x96 => some .messageRateTooHigh
  | 0x97 => some .quotaExceeded
  | 0x98 => some .administrativeAction
  | 0x99 => some .payloadFormatInvalid
  | 0x9A => some .retainNotSupported
  | 0x9B => some .qosNotSupported
  | 0x9C => some .useAnotherServer
  | 0x9D => some .serverMoved
  | 0x9E => some .sharedSubscriptionsNotSupported
  | 0x9F => some .connectionRateExceeded
  | 0xA0 => some .maximumConnectTime
  | 0xA1 => some .subscriptionIdentifiersNotSupported
  | 0xA2 => some .wildcardSubscriptionsNotSupported
  | _ => none

inductive ConnectReturnCode where
  | accepted | unacceptableProtocolVersion | identifierRejected | serverUnavailable
  | badUserNameOrPassword | notAuthorized
deriving DecidableEq

def ConnectReturnCode.toU8 : ConnectReturnCode → UInt8
  | .accepted => 0x00
  | .unacceptableProtocolVersion => 0x01
  | .identifierRejected => 0x02
  | .serverUnavailable => 0x03
  | .badUserNameOrPassword => 0x04
  | .notAuthorized => 0x05

def ConnectReturnCode.tryFrom (code : UInt8) : Option ConnectReturnCode :=
  match code.toNat with
  | 0x00 => some .accepted
  | 0x01 => some .unacceptableProtocolVersion
  | 0x02 => some .identifierRejected
  | 0x03 => some .serverUnavailable
  | 0x04 => some .badUserNameOrPassword
  | 0x05 => some .notAuthorized
  | _ => none

inductive SubackReturnCode where
  | successMaximumQos0 | successMaximumQos1 | successMaximumQos2 | failure
deriving DecidableEq

def SubackReturnCode.toU8 : SubackReturnCode → UInt8
  | .successMaximumQos0 => 0x00
  | .successMaximumQos1 => 0x01
  | .successMaximumQos2 => 0x02
  | .failure => 0x80

def SubackReturnCode.tryFrom (code : UInt8) : Option SubackReturnCode :=
  match code.toNat with
  | 0x00 => some .successMaximumQos0
  | 0x01 => some .successMaximumQos1
  | 0x02 => some .successMaximumQos2
  | 0x80 => some .failure
  | _ => none

inductive ConnectReasonCode where
  | success | unspecifiedError | malformedPacket | protocolError | implementationSpecificError
  | unsupportedProtocolVersion | clientIdentifierNotValid | badUserNameOrPassword | notAuthorized
  | serverUnavailable | serverBusy | banned | badAuthenticationMethod | topicNameInvalid
  | packetTooLarge | quotaExceeded | payloadFormatInvalid | retainNotSupported | qosNotSupported
  | useAnotherServer | serverMoved | connectionRateExceeded
deriving DecidableEq

def ConnectReasonCode.toU8 : ConnectReasonCode → UInt8
  | .success => 0x00
  | .unspecifiedError => 0x80
  | .malformedPacket => 0x81
  | .protocolError => 0x82
  | .implementationSpecificError => 0x83
  | .unsupportedProtocolVersion => 0x84
  | .clientIdentifierNotValid => 0x85
  | .badUserNameOrPassword => 0x86
  | .notAuthorized => 0x87
  | .serverUnavailable => 0x88
  | .serverBusy => 0x89
  | .banned => 0x8A
  | .badAuthenticationMethod => 0x8C
  | .topicNameInvalid => 0x90
  | .packetTooLarge => 0x95
  | .quotaExceeded => 0x97
  | .payloadFormatInvalid => 0x99
  | .retainNotSupported => 0x9A
  | .qosNotSupported => 0x9B
  | .useAnotherServer => 0x9C
  | .serverMoved => 0x9D
  | .connectionRateExceeded => 0x9F

def ConnectReasonCode.tryFrom (code : UInt8) : Option ConnectReasonCode :=
  match code.toNat with
  | 0x00 => some .success
  | 0x80 => some .unspecifiedError
  | 0x81 => some .malformedPacket
  | 0x82 => some .protocolError
  | 0x83 => some .implementationSpecificError
  | 0x84 => some .unsupportedProtocolVersion
  | 0x85 => some .clientIdentifierNotValid
  | 0x86 => some .badUserNameOrPassword
  | 0x87 => some .notAuthorized
  | 0x88 => some .serverUnavailable
  | 0x89 => some .serverBusy
  | 0x8A => some .banned
  | 0x8C => some .badAuthenticationMethod
  | 0x90 => some .topicNameInvalid
  | 0x95 => some .packetTooLarge
  | 0x97 => some .quotaExceeded
  | 0x99 => some .payloadFormatInvalid
  | 0x9A => some .retainNotSupported
  | 0x9B => some .qosNotSupported
  | 0x9C => some .useAnotherServer
  | 0x9D => some .serverMoved
  | 0x9F => some .connectionRateExceeded
  | _ => none

inductive DisconnectReasonCode where
  | normalDisconnection | disconnectWithWillMessage | unspecifiedError | malformedPacket
  | protocolError | implementationSpecificError | notAuthorized | serverBusy | serverShuttingDown
  | keepAliveTimeout | sessionTakenOver | topicFilterInvalid | topicNameInvalid
  | receiveMaximumExceeded | topicAliasInvalid | packetTooLarge | messageRateTooHigh
  | quotaExceeded | administrativeAction | payloadFormatInvalid | retainNotSupported
  | qosNotSupported | useAnotherServer | serverMoved | sharedSubscriptionsNotSupported
  | connectionRateExceeded | maximumConnectTime | subscriptionIdentifiersNotSupported
  | wildcardSubscriptionsNotSupported
deriving DecidableEq

def DisconnectReasonCode.toU8 : DisconnectReasonCode → UInt8
  | .normalDisconnection => 0x00
  | .disconnectWithWillMessage => 0x04
  | .unspecifiedError => 0x80
  | .malformedPacket => 0x81
  | .protocolError => 0x82
  | .implementationSpecificError => 0x83
  | .notAuthorized => 0x87
  | .serverBusy => 0x89
  | .serverShuttingDown => 0x8B
  | .keepAliveTimeout => 0x8D
  | .sessionTakenOver => 0x8E
  | .topicFilterInvalid => 0x8F
  | .topicNameInvalid => 0x90
  | .receiveMaximumExceeded => 0x93
  | .topicAliasInvalid => 0x94
  | .packetTooLarge => 0x95
  | .messageRateTooHigh => 0x96
  | .quotaExceeded => 0x97
  | .administrativeAction => 0x98
  | .payloadFormatInvalid => 0x99
  | .retainNotSupported => 0x9A
  | .qosNotSupported => 0x9B
  | .useAnotherServer => 0x9C
  | .serverMoved => 0x9D
  | .sharedSubscriptionsNotSupported => 0x9E
  | .connectionRateExceeded => 0x9F
  | .maximumConnectTime => 0xA0
  | .subscriptionIdentifiersNotSupported => 0xA1
  | .wildcardSubscriptionsNotSupported => 0xA2

def DisconnectReasonCode.tryFrom (code : UInt8) : Option DisconnectReasonCode :=
  match code.toNat with
  | 0x00 => some .normalDisconnection
  | 0x04 => some .disconnectWithWillMessage
  | 0x80 => some .unspecifiedError
  | 0x81 => some .malformedPacket
  | 0x82 => some .protocolError
  | 0x83 => some .implementationSpecificError
  | 0x87 => some .notAuthorized
  | 0x89 => some .serverBusy
  | 0x8B => some .serverShuttingDown
  | 0x8D => some .keepAliveTimeout
  | 0x8E => some .sessionTakenOver
  | 0x8F => some .topicFilterInvalid
  | 0x90 => some .topicNameInvalid
  | 0x93 => some .receiveMaximumExceeded
  | 0x94 => some .topicAliasInvalid
  | 0x95 => some .packetTooLarge
  | 0x96 => some .messageRateTooHigh
  | 0x97 => some .quotaExceeded
  | 0x98 => some .administrativeAction
  | 0x99 => some .payloadFormatInvalid
  | 0x9A => some .retainNotSupported
  | 0x9B => some .qosNotSupported
  | 0x9C => some .useAnotherServer
  | 0x9D => some .serverMoved
  | 0x9E => some .sharedSubscriptionsNotSupported
  | 0x9F => some .connectionRateExceeded
  | 0xA0 => some .maximumConnectTime
  | 0xA1 => some .subscriptionIdentifiersNotSupported
  | 0xA2 => some .wildcardSubscriptionsNotSupported
  | _ => none

def MqttError.toDisconnectReasonCode : MqttError → DisconnectReasonCode
  | .unspecifiedError => .unspecifiedError
  | .malformedPacket => .malformedPacket
  | .protocolError => .protocolError
  | .implementationSpecificError => .implementationSpecificError
  | .notAuthorized => .notAuthorized
  | .serverBusy => .serverBusy
  | .serverShuttingDown => .serverShuttingDown
  | .keepAliveTimeout => .keepAliveTimeout
  | .sessionTakenOver => .sessionTakenOver
  | .topicFilterInvalid => .topicFilterInvalid
  | .topicNameInvalid => .topicNameInvalid
  | .receiveMaximumExceeded => .receiveMaximumExceeded
  | .topicAliasInvalid => .topicAliasInvalid
  | .packetTooLarge => .packetTooLarge
  | .messageRateTooHigh => .messageRateTooHigh
  | .quotaExceeded => .quotaExceeded
  | .administrativeAction => .administrativeAction
  | .payloadFormatInvalid => .payloadFormatInvalid
  | .retainNotSupported => .retainNotSupported
  | .qosNotSupported => .qosNotSupported
  | .useAnotherServer => .useAnotherServer
  | .serverMoved => .serverMoved
  | .sharedSubscriptionsNotSupported => .sharedSubscriptionsNotSupported
  | .connectionRateExceeded => .connectionRateExceeded
  | .maximumConnectTime => .maximumConnectTime
  | .subscriptionIdentifiersNotSupported => .subscriptionIdentifiersNotSupported
  | .wildcardSubscriptionsNotSupported => .wildcardSubscriptionsNotSupported
  | _ => .unspecifiedError

def DisconnectReasonCode.toMqttError (code : DisconnectReasonCode) : MqttError :=
  (MqttError.tryFrom code.toU8).getD .protocolError

inductive SubackReasonCode where
  | grantedQos0 | grantedQos1 | grantedQos2 | unspecifiedError | implementationSpecificError
  | notAuthorized | topicFilterInvalid | packetIdentifierInUse | quotaExceeded
  | sharedSubscriptionsNotSupported | subscriptionIdentifiersNotSupported
  | wildcardSubscriptionsNotSupported
deriving DecidableEq

def SubackReasonCode.toU8 : SubackReasonCode → UInt8
  | .grantedQos0 => 0x00
  | .grantedQos1 => 0x01
  | .grantedQos2 => 0x02
  | .unspecifiedError => 0x80
  | .implementationSpecificError => 0x83
  | .notAuthorized => 0x87
  | .topicFilterInvalid => 0x8F
  | .packetIdentifierInUse => 0x91
  | .quotaExceeded => 0x97
  | .sharedSubscriptionsNotSupported => 0x9E
  | .subscriptionIdentifiersNotSupported => 0xA1
  | .wildcardSubscriptionsNotSupported => 0xA2

def SubackReasonCode.tryFrom (code : UInt8) : Option SubackReasonCode :=
  match code.toNat with
  | 0x00 => some .grantedQos0
  | 0x01 => some .grantedQos1
  | 0x02 => some .grantedQos2
  | 0x80 => some .unspecifiedError
  | 0x83 => some .implementationSpecificError
  | 0x87 => some .notAuthorized
  | 0x8F => some .topicFilterInvalid
  | 0x91 => some .packetIdentifierInUse
  | 0x97 => some .quotaExceeded
  | 0x9E => some .sharedSubscriptionsNotSupported
  | 0xA1 => some .subscriptionIdentifiersNotSupported
  | 0xA2 => some .wildcardSubscriptionsNotSupported
  | _ => none

inductive UnsubackReasonCode where
  | success | noSubscriptionExisted | unspecifiedError | implementationSpecificError
  | notAuthorized | topicFilterInvalid | packetIdentifierInUse
deriving DecidableEq

def UnsubackReasonCode.toU8 : UnsubackReasonCode → UInt8
  | .success => 0x00
  | .noSubscriptionExisted => 0x11
  | .unspecifiedError => 0x80
  | .implementationSpecificError => 0x83
  | .notAuthorized => 0x87
  | .topicFilterInvalid => 0x8F
  | .packetIdentifierInUse => 0x91

def UnsubackReasonCode.tryFrom (code : UInt8) : Option UnsubackReasonCode :=
  match code.toNat with
  | 0x00 => some .success
  | 0x11 => some .noSubscriptionExisted
  | 0x80 => some .unspecifiedError
  | 0x83 => some .implementationSpecificError
  | 0x87 => some .notAuthorized
  | 0x8F => some .topicFilterInvalid
  | 0x91 => some .packetIdentifierInUse
  | _ => none

inductive PubackReasonCode where
  | success | noMatchingSubscribers | unspecifiedError | implementationSpecificError
  | notAuthorized | topicNameInvalid | packetIdentifierInUse | quotaExceeded
  | payloadFormatInvalid
deriving DecidableEq

def PubackReasonCode.toU8 : PubackReasonCode → UInt8
  | .success => 0x00
  | .noMatchingSubscribers => 0x10
  | .unspecifiedError => 0x80
  | .implementationSpecificError => 0x83
  | .notAuthorized => 0x87
  | .topicNameInvalid => 0x90
  | .packetIdentifierInUse => 0x91
  | .quotaExceeded => 0x97
  | .payloadFormatInvalid => 0x99

def PubackReasonCode.tryFrom (code : UInt8) : Option PubackReasonCode :=
  match code.toNat with
  | 0x00 => some .success
  | 0x10 => some .noMatchingSubscribers
  | 0x80 => some .unspecifiedError
  | 0x83 => some .implementationSpecificError
  | 0x87 => some .notAuthorized
  | 0x90 => some .topicNameInvalid
  | 0x91 => some .packetIdentifierInUse
  | 0x97 => some .quotaExceeded
  | 0x99 => some .payloadFormatInvalid
  | _ => none

inductive PubrecReasonCode where
  | success | noMatchingSubscribers | unspecifiedError | implementationSpecificError
  | notAuthorized | topicNameInvalid | packetIdentifierInUse | quotaExceeded
  | payloadFormatInvalid
deriving DecidableEq

def PubrecReasonCode.toU8 : PubrecReasonCode → UInt8
  | .success => 0x00
  | .noMatchingSubscribers => 0x10
  | .unspecifiedError => 0x80
  | .implementationSpecificError => 0x83
  | .notAuthorized => 0x87
  | .topicNameInvalid => 0x90
  | .packetIdentifierInUse => 0x91
  | .quotaExceeded => 0x97
  | .payloadFormatInvalid => 0x99

def PubrecReasonCode.tryFrom (code : UInt8) : Option PubrecReasonCode :=
  match code.toNat with
  | 0x00 => some .success
  | 0x10 => some .noMatchingSubscribers
  | 0x80 => some .unspecifiedError
  | 0x83 => some .implementationSpecificError
  | 0x87 => some .notAuthorized
  | 0x90 => some .topicNameInvalid
  | 0x91 => some .packetIdentifierInUse
  | 0x97 => some .quotaExceeded
  | 0x99 => some .payloadFormatInvalid
  | _ => none

def PubrecReasonCode.isSuccess : PubrecReasonCode → Bool
  | .success | .noMatchingSubscribers => true
  | _ => false

def PubrecReasonCode.isFailure (code : PubrecReasonCode) : Bool := !code.isSuccess

inductive PubrelReasonCode where
  | success | packetIdentifierNotFound
deriving DecidableEq

def PubrelReasonCode.toU8 : PubrelReasonCode → UInt8
  | .success => 0x00
  | .packetIdentifierNotFound => 0x92

def PubrelReasonCode.tryFrom (code : UInt8) : Option PubrelReasonCode :=
  match code.toNat with
  | 0x00 => some .success
  | 0x92 => some .packetIdentifierNotFound
  | _ => none

inductive PubcompReasonCode where
  | success | packetIdentifierNotFound
deriving DecidableEq

def PubcompReasonCode.toU8 : PubcompReasonCode → UInt8
  | .success => 0x00
  | .packetIdentifierNotFound => 0x92

def PubcompReasonCode.tryFrom (code : UInt8) : Option PubcompReasonCode :=
  match code.toNat with
  | 0x00 => some .success
  | 0x92 => some .packetIdentifierNotFound
  | _ => none

inductive AuthReasonCode where
  | success | continueAuthentication | reAuthenticate
deriving DecidableEq

def AuthReasonCode.toU8 : AuthReasonCode → UInt8
  | .success => 0x00
  | .continueAuthentication => 0x18
  | .reAuthenticate => 0x19

def AuthReasonCode.tryFrom (code : UInt8) : Option AuthReasonCode :=
  match code.toNat with
  | 0x00 => some .success
  | 0x18 => some .continueAuthentication
  | 0x19 => some .reAuthenticate
  | _ => none

end MqttProtocolCore.Packet
