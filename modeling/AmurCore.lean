import AmurCore.NavWire
import AmurCore.PatrolTicks
import AmurCore.MutexWiring
import AmurCore.JoystickLoss
import AmurCore.ServerExchange
import AmurCore.MapStreams
import AmurCore.NameEdits
import AmurCore.ArpingService
import AmurCore.RobotStore
import AmurCore.MapPainting
import AmurCore.MapWidget
import AmurCore.MapGeometry
import AmurCore.MapRefresh
import AmurCore.MapStaleness
import AmurCore.BusyRelease
import AmurCore.ButtonBounds
import AmurCore.StreamStalls
import AmurCore.TableContents
import AmurCore.TableStaleness
import AmurCore.RobotSearch
import AmurCore.ActuatorRanges
import AmurCore.RobotRegistry
import AmurCore.ZoneStaleness
import AmurCore.CamSettingsHolder
import AmurCore.Classification
import AmurCore.DeletionQuestion
import AmurCore.DeclinedDeletion
import AmurCore.HistoryWalks
import AmurCore.MapDrawing
import AmurCore.MapFitting
import AmurCore.RepeatedTicks
import AmurCore.MapGestures
import AmurCore.RobotCentring
import AmurCore.MapCells
import AmurCore.MapDivisors
import AmurCore.MapGrid
import AmurCore.ButtonOutputs
import AmurCore.MapConversions
import AmurCore.ConfigAccess
import AmurCore.SampledCell
import AmurCore.VideoCapture
import AmurCore.CaptureThreads
import AmurCore.CaptureFrames
import AmurCore.PlaceMarkers
import AmurCore.StatusMessage
import AmurCore.StatusText
import AmurCore.StatusNames
import AmurCore.JoystickAdapter
import AmurCore.JoystickThreads
import AmurCore.JoystickDialogModel
import AmurCore.JoystickSessions
import AmurCore.JoystickButtons
import AmurCore.CameraCalibration
import AmurCore.CalibrationViews
import AmurCore.CommandsHeard
import AmurCore.GuardedRows
import AmurCore.RobotDatabase
import AmurCore.DatabaseRuns
import AmurCore.PainterScopes
import AmurCore.MapPicture
import AmurCore.NameHandler
import AmurCore.HostLine
import AmurCore.ConfigTypes
import AmurCore.NavUpdates
import AmurCore.JoystickControllers
