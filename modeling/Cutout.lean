import Cutout.Library.Scanner
import Cutout.Library.BinaryFloat
import Cutout.Wire
import Cutout.VescCodec
import Cutout.VescStream
import Cutout.Proofs.VescFraming
import Cutout.Proofs.VescStream
import Cutout.DeviceSettings
import Cutout.RefloatCodec
import Cutout.VescConfiguration
import Cutout.RefloatSettings
import Cutout.ApplicationQuery
import Cutout.VescNotifications
import Cutout.Proofs.ReplyFrames
import Cutout.Proofs.NotificationChunks
import Cutout.Library.Reassembler
import Cutout.WheelFrames
import Cutout.Proofs.WheelNotifications
import Cutout.Proofs.WheelFrames
import Cutout.Library.Runs
import Cutout.Proofs.ApplicationQuery
import Cutout.SettingsImage
import Cutout.VescSettingsSession
import Cutout.Proofs.SettingsSession
import Cutout.Proofs.SettingsReads
import Cutout.Proofs.SettingsAuthorization
import Cutout.Proofs.SettingsChange
import Cutout.Proofs.SettingsWrites
import Cutout.RideRecorder
import Cutout.RideRecording
import Cutout.RideConnection
import Cutout.Library.Replay
import Cutout.Proofs.RideSteps
import Cutout.Proofs.RideReplay
import Cutout.Proofs.RideProjection
import Cutout.Proofs.RideAdmission
import Cutout.Proofs.RideCommands
import Cutout.Proofs.RideLifecycle
import Cutout.ConnectionLifecycle
import Cutout.Proofs.ConnectionLifecycle
import Cutout.MovingTime
import Cutout.Proofs.MovingTime
import Cutout.PhoneAlarm
import Cutout.Proofs.PhoneAlarm
import Cutout.DeviceSettingsState
import Cutout.ControlWire
import Cutout.Proofs.DeviceSettingsState
import Cutout.StationarySettings
import Cutout.Proofs.StationarySettings
import Cutout.Proofs.RouteSegments
import Cutout.DeviceConnection
import Cutout.ConnectionSession
import Cutout.Proofs.PhoneDrive
import Cutout.CaptureLifecycle
import Cutout.Proofs.CaptureLifecycle
import Cutout.ChargeEstimate
import Cutout.Proofs.ChargeEstimate
import Cutout.Library.Positions
import Cutout.MusicObservation
import Cutout.Proofs.MusicObservation
import Cutout.ObservationAdmission
import Cutout.Proofs.ObservationTurns
import Cutout.Proofs.StopFences
import Cutout.LightingSession
import Cutout.Proofs.LightingSession
import Cutout.Proofs.LightingRuns
import Cutout.ChargingStore
import Cutout.ChargingSync
import Cutout.Proofs.ChargingRows
import Cutout.Proofs.ChargingCalls
import Cutout.Proofs.ChargingRevisions
import Cutout.Proofs.ChargingVisibility
import Cutout.Proofs.ChargingOutbox
import Cutout.Proofs.OutboxCalls
import Cutout.Proofs.OutboxRuns
import Cutout.Proofs.SettingsFraming
import Cutout.Proofs.WheelReassembly
import Cutout.Library.Rounding
import Cutout.Proofs.RoadSpeed
import Cutout.Proofs.ValuesPayload
import Cutout.Library.Tally
import Cutout.Proofs.MovingTimeTally
import Cutout.MusicCallbacks
import Cutout.MusicProvider
import Cutout.Proofs.ConfigurationPatch
import Cutout.Proofs.RideDuration
import Cutout.Proofs.StreamRecovery
import Cutout.Proofs.MusicTransport
import Cutout.Proofs.MusicProviderRuns
import Cutout.ElapsedTime
import Cutout.Proofs.ElapsedTime
import Cutout.ChargingStop
import Cutout.Proofs.ChargingStop
import Cutout.Proofs.RefloatFraming
import Cutout.RouteProjection
import Cutout.Proofs.RouteProjection
import Cutout.Proofs.DriveActivation
import Cutout.Library.Smoothing
import Cutout.Proofs.ChargeTime
import Cutout.Proofs.LightingTimers
import Cutout.Proofs.RefloatPatch
import Cutout.Library.Outcomes
import Cutout.Proofs.ReviewRows
import Cutout.Proofs.BlockedReview
import Cutout.Library.Evidence
import Cutout.ModelIdentity
import Cutout.DeviceDetection
import Cutout.Proofs.DeviceDetection
import Cutout.BegodeCharging
import Cutout.Proofs.BegodeCharging
import Cutout.Proofs.DriveRuns
import Cutout.Library.Source
import Cutout.Library.Framing
import Cutout.PevcapFormat
import Cutout.PevcapCodec
import Cutout.Proofs.PevcapContainer
import Cutout.Proofs.PevcapStream
import Cutout.Proofs.PevcapRoundTrip
import Cutout.PevcapReplay
import Cutout.Proofs.PevcapReplay
