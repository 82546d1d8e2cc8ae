import NtDriver.ToggleRace
import NtDriver.ToggleTruth
import NtDriver.StackLeak
import NtDriver.ReceiveMessage
import NtDriver.ClientPort
import NtDriver.DriverEntry
import NtDriver.Lifetime
import NtDriver.Callbacks
import NtDriver.AnswerOnce
import NtDriver.Serving
import NtDriver.ScanVerdict
import NtDriver.ImageName
import NtDriver.ProcVerdict
import NtDriver.History
import NtDriver.WireLayout
import NtDriver.DriverControl
import NtDriver.LibraryLifecycle
import NtDriver.Shutdown
import NtDriver.ScanResources
import NtDriver.Outstanding
import NtDriver.TextFile
import NtDriver.ShutdownEnds
import NtDriver.LoneThread
import NtDriver.PortAnswers
import NtDriver.ToggleAtomic
import NtDriver.Console
import NtDriver.FileOperations
import NtDriver.PortLifetime
import NtDriver.LiveHandles
import NtDriver.VerdictFinal
import NtDriver.Timestamp
import NtDriver.PortSafety
import NtDriver.PortProgress
import NtDriver.Sequential
import NtDriver.WholeCalls
