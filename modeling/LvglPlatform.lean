import LvglPlatform.Foundation.Bytes
import LvglPlatform.Foundation.Machine
import LvglPlatform.Platform.Primitives
import LvglPlatform.Package.Types
import LvglPlatform.Storage.ReleaseState
import LvglPlatform.Foundation.HighWater
import LvglPlatform.Storage.ReleaseHistory
import LvglPlatform.Storage.ReleaseCodec
import LvglPlatform.Foundation.DoubleSlot
import LvglPlatform.Storage.StateStore
import LvglPlatform.Foundation.Json
import LvglPlatform.Foundation.Unicode
import LvglPlatform.Package.RapidJson
import LvglPlatform.Package.CanonicalJson
import LvglPlatform.Package.Manifest
import LvglPlatform.Package.ManifestValue
import LvglPlatform.Foundation.Checked
import LvglPlatform.Package.Verifier
import LvglPlatform.Package.Layout
import LvglPlatform.Package.Serialize
import LvglPlatform.Package.Accepted
import LvglPlatform.Foundation.FileTree
import LvglPlatform.Foundation.SortUnique
import LvglPlatform.Package.InstallPolicy
import LvglPlatform.Storage.StoreDirectory
import LvglPlatform.Services.InboxService
import LvglPlatform.Foundation.Strokes
import LvglPlatform.Ipc.TouchProtocol
import LvglPlatform.Session.TouchRouter
import LvglPlatform.Foundation.Process
import LvglPlatform.Ipc.SessionControl
import LvglPlatform.Session.Foreground
import LvglPlatform.Session.GracefulExit
import LvglPlatform.Session.ForegroundTouch
import LvglPlatform.Ipc.StorageProtocol
import LvglPlatform.Foundation.Bpf
import LvglPlatform.Runtime.RuntimeSandbox
import LvglPlatform.Ipc.InstallerProtocol
import LvglPlatform.Foundation.ReplyQueue
import LvglPlatform.Runtime.BrokerClients
import LvglPlatform.Foundation.FileCreation
import LvglPlatform.Storage.StageRelease
import LvglPlatform.Storage.StoreWrite
import LvglPlatform.Services.PackageInstaller
import LvglPlatform.Services.InboxInstall
import LvglPlatform.Session.InstalledApplications
import LvglPlatform.Foundation.Sweep
import LvglPlatform.Session.ApplicationRemoval
import LvglPlatform.Storage.ReleaseTree
import LvglPlatform.Manager.PlatformRemoval
import LvglPlatform.Foundation.Folder
import LvglPlatform.Foundation.Steps
import LvglPlatform.Session.StorageBroker
import LvglPlatform.Session.StorageQuota
import LvglPlatform.Session.StorageRecords
import LvglPlatform.Foundation.TurnQueue
import LvglPlatform.Session.LateWrites
import LvglPlatform.Session.InstalledSnapshots
import LvglPlatform.Session.InstallerBroker
import LvglPlatform.Foundation.IndexedScan
import LvglPlatform.Runtime.InstallerScan
import LvglPlatform.Foundation.KeyLines
import LvglPlatform.Launcher.Launcher
import LvglPlatform.Launcher.StatusText
import LvglPlatform.Launcher.TouchLink
import LvglPlatform.Foundation.EventLog
import LvglPlatform.Session.VerifiedProgram
import LvglPlatform.Session.SessionDaemon
import LvglPlatform.Session.SessionTrace
import LvglPlatform.Session.FailureRollback
import LvglPlatform.Session.ApplicationRegistry
import LvglPlatform.Session.UserIds
import LvglPlatform.Foundation.SlotTable
import LvglPlatform.Launcher.LauncherPage
import LvglPlatform.Launcher.SessionProcess
import LvglPlatform.Launcher.LaunchCalls
import LvglPlatform.Launcher.PageTouches
import LvglPlatform.Manager.ManagerPage
import LvglPlatform.Foundation.TreeSteps
import LvglPlatform.Session.EpochHistory
import LvglPlatform.Storage.StoreSteps
import LvglPlatform.Services.HighWaterMark
import LvglPlatform.Foundation.JsonText
import LvglPlatform.Package.CanonicalText
import LvglPlatform.Package.FileLayout
import LvglPlatform.Launcher.TouchFrames
import LvglPlatform.Services.StagedPaths
import LvglPlatform.Foundation.DecimalText
import LvglPlatform.Session.SessionProfile
import LvglPlatform.Session.ProfileText
import LvglPlatform.Launcher.ProfileReading
import LvglPlatform.Apps.Game2048
import LvglPlatform.Apps.GameConsistency
import LvglPlatform.Apps.GamePersistence
import LvglPlatform.Apps.GameLines
import LvglPlatform.Apps.GameMotions
import LvglPlatform.Apps.GameTotals
import LvglPlatform.Apps.GameLoss
import LvglPlatform.Apps.FocusTimer
import LvglPlatform.Profile.DeviceProfile
import LvglPlatform.Runtime.InputBackend
import LvglPlatform.Foundation.Raster
import LvglPlatform.Foundation.Environment
import LvglPlatform.Runtime.DrmBackend
import LvglPlatform.Session.ProgramEnvironment
import LvglPlatform.Package.Versions
import LvglPlatform.Session.DesktopRegistry
import LvglPlatform.Services.InterruptedInstall
import LvglPlatform.Session.KeptApplications
import LvglPlatform.Session.RepeatedUpgrade
import LvglPlatform.Foundation.JsonEncoding
import LvglPlatform.Foundation.JsonObjects
import LvglPlatform.Tools.JavaScript
import LvglPlatform.Tools.ManifestText
import LvglPlatform.Tools.SignPackage
import LvglPlatform.Tools.SignedPackages
