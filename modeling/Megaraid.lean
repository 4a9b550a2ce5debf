import Megaraid.Foundation.Strtol
import Megaraid.Foundation.Records
import Megaraid.Foundation.Iterate
import Megaraid.Device.SendCmd
import Megaraid.Common.Arguments
import Megaraid.Progress.Decision
import Megaraid.Progress.Descriptors
import Megaraid.Progress.Formats
import Megaraid.Device.Controller
import Megaraid.Progress.Poll
import Megaraid.Foundation.Replay
import Megaraid.Foundation.Trailing
import Megaraid.Progress.Round
import Megaraid.Progress.Watch
import Megaraid.Progress.Exits
import Megaraid.Progress.OneShot
import Megaraid.Formatter.Parts
import Megaraid.Formatter.Programs
import Megaraid.Formatter.Discipline
import Megaraid.Progress.Program
import Megaraid.Tools.Addressing
import Megaraid.Tools.Handoff
import Megaraid.Foundation.Observed
import Megaraid.Progress.Reads
import Megaraid.Progress.Extension
import Megaraid.Formatter.Wire
import Megaraid.Device.Layout
import Megaraid.Tools.Inquiry
import Megaraid.Progress.Capacity
import Megaraid.Foundation.Basename
import Megaraid.Tools.Multicall
import Megaraid.Foundation.Legible
import Megaraid.Foundation.Monitor
import Megaraid.Tools.Output
import Megaraid.Device.Session
import Megaraid.Tools.Files
import Megaraid.Device.Stdio
import Megaraid.Formatter.Visible
import Megaraid.Formatter.Notice
import Megaraid.Tools.Traffic
import Megaraid.Foundation.Watchdog
import Megaraid.Progress.Timeline
import Megaraid.Foundation.Simulation
import Megaraid.Tools.Relocated
import Megaraid.Tools.Unified
import Megaraid.Foundation.Rounding
import Megaraid.Progress.Display
import Megaraid.Tools.Statuses
import Megaraid.Foundation.Retold
import Megaraid.Progress.Dialect
import Megaraid.Tools.Indifferent
