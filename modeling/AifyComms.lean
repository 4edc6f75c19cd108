import AifyComms.Runs
import AifyComms.JsText
import AifyComms.LocalRuns
import AifyComms.HermesDelivery
import AifyComms.JsonText
import AifyComms.JsonRoundTrip
import AifyComms.Utf16
import AifyComms.SnapshotDigest
import AifyComms.BrokenDefinitions
import AifyComms.MarkedWords
import AifyComms.LivenessMarks
import AifyComms.LiveScreen
import AifyComms.ScreenChunks
import AifyComms.ScreenCuts
import AifyComms.SubjectQuotes
import AifyComms.GatewayTurns
import AifyComms.TurnWindows
import AifyComms.Dict
import AifyComms.PyText
import AifyComms.TextLines
import AifyComms.TerminalOutput
import AifyComms.TerminalWriteQueue
import AifyComms.TerminalQueueMoves
import AifyComms.TerminalStreamConservation
import AifyComms.TerminalStreamOrder
import AifyComms.TerminalTail
import AifyComms.TerminalStatusOrder
import AifyComms.TerminalRowGeneration
import AifyComms.TerminalDrain
import AifyComms.TerminalFrames
import AifyComms.ConsoleGaps
import AifyComms.OperationalView
import AifyComms.SwitchedView
import AifyComms.TerminalWriters
import AifyComms.TerminalWriterLocks
import AifyComms.TerminalWriterAgreement
import AifyComms.TerminalWriterRollbacks
import AifyComms.TerminalWriterBytes
import AifyComms.AgentStatePublication
import AifyComms.AgentStateMirror
import AifyComms.AgentStateIngest
import AifyComms.AgentStateOrder
import AifyComms.AgentStateRefinement
import AifyComms.DispatchRunUpdate
import AifyComms.SendNonce
import AifyComms.SendOnce
import AifyComms.DispatchClaim
import AifyComms.DispatchClaimGate
import AifyComms.DispatchBuffer
import AifyComms.DispatchBufferForgery
import AifyComms.DispatchQueue
import AifyComms.DispatchQueueTracking
import AifyComms.DispatchUnsend
import AifyComms.ChannelReplay
import AifyComms.ReadReceipts
import AifyComms.DispatchHandoff
import AifyComms.ExternalSenders
import AifyComms.SpawnRequests
import AifyComms.SessionHandles
import AifyComms.BridgeChain
import AifyComms.BridgeOwnership
import AifyComms.HostProof
import AifyComms.HostClaims
import AifyComms.EnvironmentBeats
import AifyComms.DefinitionSnapshot
import AifyComms.DefinitionPush
import AifyComms.DefinitionRequests
import AifyComms.LifecycleRequests
import AifyComms.DefinitionService
import AifyComms.DefinitionOwnership
import AifyComms.DefinitionRuns
import AifyComms.DefinitionRequestRuns
import AifyComms.LifecycleRuns
import AifyComms.DefinitionRemovals
import AifyComms.ConsoleCursor
import AifyComms.BrowserConsole
import AifyComms.ChangeFeed
import AifyComms.ChangeRefresh
import AifyComms.SliceFreshness
import AifyComms.ChangeRefreshRuns
import AifyComms.ConnectionPool
import AifyComms.RunControls
import AifyComms.DispatchPass
import AifyComms.ChannelTick
import AifyComms.ServiceCall
import AifyComms.HermesSessionFiles
import AifyComms.EnvironmentControls
import AifyComms.TerminalControls
import AifyComms.InputPoster
import AifyComms.RealAnswers
import AifyComms.HeldFrames
import AifyComms.NtfyRelay
import AifyComms.ExternalKeys
import AifyComms.MessageRotation
import AifyComms.WorkspaceRoots
import AifyComms.BeatFrames
import AifyComms.BeatArbitration
import AifyComms.KeptSub
import AifyComms.SecretRedaction
import AifyComms.MessageHistory
import AifyComms.RpcClient
import AifyComms.VirtualTerminalInput
import AifyComms.ConsolePaste
import AifyComms.ModelReads
import AifyComms.OrphanedClaims
import AifyComms.PiTerminalFrames
