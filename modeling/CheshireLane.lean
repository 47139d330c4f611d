import CheshireLane.FrameRoundTrip
import CheshireLane.GateSegmentation
import CheshireLane.PaddedRuns
import CheshireLane.ByteAccounting
import CheshireLane.ResponseFrames
import CheshireLane.GateLogin
import CheshireLane.FailingSaves
import CheshireLane.LinearSessions
import CheshireLane.StaleSaves
import CheshireLane.CertificateFiles
import CheshireLane.ShipIds
import CheshireLane.KeyedLists
import CheshireLane.GivenShips
import CheshireLane.ShipStatistics
import CheshireLane.UndecodableRows
import CheshireLane.Bans
import CheshireLane.GivenSkins
import CheshireLane.DockTransfer
import CheshireLane.SecretaryShips
import CheshireLane.ServerController
import CheshireLane.DataLoading
import CheshireLane.CommandIds
import CheshireLane.SdkProxy
import CheshireLane.SdkLogin
import CheshireLane.ConfigRoundTrip
import CheshireLane.LogSink
import CheshireLane.ResponseSchemas
import CheshireLane.LoginView
import CheshireLane.DispatchService
import CheshireLane.GateService
import CheshireLane.SdkNicknames
import CheshireLane.LoginChain
import CheshireLane.CrashRecovery
import CheshireLane.DesktopRestarts
import CheshireLane.ServerShutdown
import CheshireLane.MigratedData
import CheshireLane.LogChannel
import CheshireLane.PlayerProgress
import CheshireLane.InterleavedConnections
import CheshireLane.LinearServer
