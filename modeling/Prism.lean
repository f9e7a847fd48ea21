import Prism.Foundation.Machine
import Prism.Foundation.Bytes
import Prism.Foundation.SlidingWindow
import Prism.Types
import Prism.Windowing.WindowManager
import Prism.Windowing.Refinement
import Prism.Foundation.NaiveRuns
import Prism.Windowing.Pace
import Prism.Windowing.Coverage
import Prism.Parser.Parsers
import Prism.Simulator.Modbus
import Prism.Simulator.Frames
import Prism.Enforcement.EnforcementEngine
import Prism.Foundation.DoubleArithmetic
import Prism.Risk.RiskModel
import Prism.Agreement.Codecs
import Prism.System.LockSystem
import Prism.Risk.ExactScores
import Prism.System.Containment
import Prism.System.Engagement
import Prism.Capture.Pcap
import Prism.Detection.Detectors
import Prism.Main.Loops
import Prism.Foundation.Hysteresis
import Prism.Risk.Hysteresis
import Prism.Agreement.ObjectAddresses
import Prism.Simulator.ServerRuns
import Prism.Capture.Segment
import Prism.Foundation.Comparisons
import Prism.Foundation.CompleteWindows
import Prism.Windowing.Completeness
import Prism.Feature.ExactFeatures
import Prism.Detection.ExactScores
import Prism.System.Floods
import Prism.Foundation.SteadyStreams
import Prism.Main.QuietRuns
import Prism.System.Polling
import Prism.Enforcement.Attempts
import Prism.Utils.FuzzyLabels
import Prism.Foundation.Budget
import Prism.Main.Draining
import Prism.Simulator.CommandLine
import Prism.System.WindowTiming
import Prism.Feature.Distributions
import Prism.System.PairedWindows
import Prism.Foundation.Bars
import Prism.Risk.Bars
import Prism.System.Retiming
import Prism.Foundation.Threads
import Prism.Parser.FlowTable
import Prism.Feature.Invariance
import Prism.Foundation.Lag
import Prism.Windowing.Lag
import Prism.Enforcement.Sends
import Prism.Foundation.Stages
import Prism.Main.Stages
import Prism.Foundation.Stretches
import Prism.System.Latency
import Prism.System.Defence
import Prism.System.Alarms
import Prism.System.TurnedRuns
import Prism.Foundation.Progress
import Prism.Main.Process
import Prism.Main.Shutdown
import Prism.Capture.Encapsulation
import Prism.Simulator.Servers
import Prism.System.Visibility
import Prism.Simulator.CommandedLock
import Prism.System.WriteSessions
import Prism.Foundation.Texts
import Prism.Main.Log
import Prism.Windowing.Delay
import Prism.System.Replays
import Prism.Windowing.Buffer
import Prism.System.Timeline
