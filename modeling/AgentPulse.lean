import AgentPulse.Trace
import AgentPulse.OrderedMap
import AgentPulse.CoreValue
import AgentPulse.CoreCapability
import AgentPulse.CoreInteraction
import AgentPulse.CoreEvent
import AgentPulse.CoreAggregate
import AgentPulse.CoreHistory
import AgentPulse.CoreDerived
import AgentPulse.CoreRetention
import AgentPulse.CoreRouting
import AgentPulse.Bridge
import AgentPulse.BridgeStep
import AgentPulse.BridgeInvariant
import AgentPulse.BridgeDelivery
import AgentPulse.BridgeSync
import AgentPulse.BridgeCatchUp
import AgentPulse.NativePort
import AgentPulse.NativeRuntime
import AgentPulse.NativeSection
import AgentPulse.NativeStep
import AgentPulse.NativeInvariant
import AgentPulse.NativeHandshake
import AgentPulse.NativeAgreement
import AgentPulse.NativeStream
import AgentPulse.NativeStreamStep
import AgentPulse.NativeQueue
import AgentPulse.NativeSubscribe
import AgentPulse.ProtocolConvert
import AgentPulse.CoreUuid
import AgentPulse.ProtocolRoundTrip
import AgentPulse.ProtocolRange
import AgentPulse.CodexValue
import AgentPulse.CodexMapper
import AgentPulse.CodexActiveTurn
import AgentPulse.CodexApproval
import AgentPulse.CodexPresent
import AgentPulse.CodexProtocol
import AgentPulse.Interference
import AgentPulse.CodexRuntime
import AgentPulse.CodexFlush
import AgentPulse.CodexWorker
import AgentPulse.CodexRegistry
import AgentPulse.History
import AgentPulse.CodexKeep
import AgentPulse.CodexOutbound
import AgentPulse.CodexExit
import AgentPulse.BridgeAction
import AgentPulse.CodexLifecycle
import AgentPulse.HostPermit
import AgentPulse.HostScope
import AgentPulse.CodexCompletedTurn
import AgentPulse.CodexPresentable
import AgentPulse.CodexIngress
import AgentPulse.CodexLockstep
import AgentPulse.CodexLockstepRun
import AgentPulse.CodexPrompt
import AgentPulse.CodexTurn
import AgentPulse.CodexTurnRun
import AgentPulse.PairingStore
import AgentPulse.PairingAuthority
import AgentPulse.NativeWire
import AgentPulse.NativeRoundTrip
import AgentPulse.HostLocks
import AgentPulse.CodexExchange
import AgentPulse.CodexChain
import AgentPulse.CodexHeard
import AgentPulse.Bytes
import AgentPulse.RelayCrypto
import AgentPulse.RelayServer
import AgentPulse.IpAddr
import AgentPulse.PairingProtocol
import AgentPulse.PairingFormats
import AgentPulse.PairingServer
import AgentPulse.PairingRun
import AgentPulse.PairingFailure
import AgentPulse.PairingConnect
import AgentPulse.HostThreads
import AgentPulse.RelayConnector
import AgentPulse.CodexSampling
import AgentPulse.CoreForm
import AgentPulse.Mirror
import AgentPulse.CodexCommand
import AgentPulse.CorePages
import AgentPulse.Numerals
import AgentPulse.RelayEndpoints
import AgentPulse.RelayConfig
import AgentPulse.CodexForms
import AgentPulse.CodexUserInput
import AgentPulse.CodexFormAnswers
import AgentPulse.CodexSecrets
import AgentPulse.CodexMirrored
import AgentPulse.RelayFraming
import AgentPulse.RelayTunnel
import AgentPulse.CodexQueue
import AgentPulse.RelayProtocol
import AgentPulse.NativeBound
import AgentPulse.CodexFollow
import AgentPulse.CodexMirrorRun
import AgentPulse.CodexWindow
import AgentPulse.ProtocolShape
import AgentPulse.NativeShape
import AgentPulse.WireStrict
import AgentPulse.Cancellation
import AgentPulse.RelayCanceller
import AgentPulse.CodexProxy
import AgentPulse.RelayLockstep
import AgentPulse.NativeReplyRun
import AgentPulse.CodexTurnData
