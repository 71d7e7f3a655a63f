import ControlPlane.Main
import ControlPlane.Service.Session
import ControlPlane.Storage.Disk
import ControlPlane.Proofs.Resume.Order
import ControlPlane.Proofs.Resume.Ranking
import ControlPlane.Proofs.Text.Reading
import ControlPlane.Proofs.Resume.Calendar
import ControlPlane.Proofs.Resume.TimeLine
import ControlPlane.Proofs.Run.Turn
import ControlPlane.Proofs.Run.Course
import ControlPlane.Proofs.Run.Feedback
import ControlPlane.Proofs.Run.Clearance
import ControlPlane.Proofs.Run.Research
import ControlPlane.Proofs.Run.Ending
import ControlPlane.Proofs.Run.Pipeline
import ControlPlane.Proofs.Run.Steering
import ControlPlane.Proofs.Run.Opening
import ControlPlane.Proofs.Run.Resumption
import ControlPlane.Proofs.Run.Epics
import ControlPlane.Proofs.Run.Acceptance
import ControlPlane.Proofs.Run.Repeats
import ControlPlane.Proofs.Run.Requests
import ControlPlane.Proofs.Run.Frame
import ControlPlane.Proofs.Run.Weighing
import ControlPlane.Proofs.Run.Delivery
import ControlPlane.Proofs.Service.Serving
import ControlPlane.Proofs.Service.Traffic
import ControlPlane.Proofs.Service.Order
import ControlPlane.Proofs.Service.Linear
import ControlPlane.Proofs.Service.Burst
import ControlPlane.Proofs.Json.Tokens
import ControlPlane.Proofs.Json.Spelling
import ControlPlane.Proofs.Json.Records
import ControlPlane.Proofs.Json.Sorted
import ControlPlane.Proofs.Json.Layout
import ControlPlane.Proofs.Json.Places
import ControlPlane.Proofs.Json.Clean
import ControlPlane.Proofs.Wire.Snapshots
import ControlPlane.Proofs.Wire.Events
import ControlPlane.Proofs.Wire.Results
import ControlPlane.Proofs.Wire.Layouts
import ControlPlane.Proofs.Resume.Milliseconds
import ControlPlane.Proofs.Terminal.Lines
import ControlPlane.Proofs.Storage.Disk
import ControlPlane.Proofs.Storage.Mishaps
import ControlPlane.Proofs.Storage.Replacement
import ControlPlane.Proofs.Service.Keeping
import ControlPlane.Proofs.Drive.Driven
import ControlPlane.Proofs.Drive.Restart
import ControlPlane.Proofs.Drive.Launch
import ControlPlane.Proofs.Settings.Effective
import ControlPlane.Proofs.Drive.Conduct
import ControlPlane.Proofs.Drive.Agreement
