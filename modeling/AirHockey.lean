import AirHockey.Model.Moves
import AirHockey.Model.Confinement
import AirHockey.Model.Independence
import AirHockey.Model.Scoring
import AirHockey.Model.Stream
import AirHockey.Lib.Toggle
import AirHockey.Model.Session
import AirHockey.Model.Line
import AirHockey.Model.Serial
import AirHockey.Model.Words
import AirHockey.Model.Acts
import AirHockey.Model.Alignment
import AirHockey.Model.Handshake
import AirHockey.Lib.Travel
import AirHockey.Model.Replica
import AirHockey.Lib.Trace
import AirHockey.Model.TableStep
import AirHockey.SerialPort.Frame
import AirHockey.Model.Bounds
import AirHockey.Model.Hits
import AirHockey.Model.Sampling
import AirHockey.Model.Flight
import AirHockey.Lib.OneHot
import AirHockey.Model.Menus
import AirHockey.Model.Backlog
import AirHockey.Model.Contact
import AirHockey.Model.Lockstep
import AirHockey.Lib.CallReply
import AirHockey.SerialPort.Fifo
import AirHockey.Lib.RowMajor
import AirHockey.Model.Pixels
import AirHockey.Model.Strokes
import AirHockey.Model.Rebound
import AirHockey.Model.Reflection
import AirHockey.Lib.Marked
import AirHockey.Model.Assembler
import AirHockey.Model.Fresh
import AirHockey.Model.Clock
import AirHockey.Rtc
import AirHockey.Lib.Blit
import AirHockey.Model.Screen
import AirHockey.Lib.Layers
import AirHockey.Model.View
import AirHockey.Model.Canvas
import AirHockey.Model.Frames
import AirHockey.Model.Program
import AirHockey.Model.Pictures
import AirHockey.Model.Display
import AirHockey.Model.Reading
import AirHockey.Lib.EventLoop
import AirHockey.Model.MainLoop
import AirHockey.Model.WallClock
import AirHockey.Model.Outcome
import AirHockey.Lib.Ports
import AirHockey.Mouse
import AirHockey.Timer
import AirHockey.Model.Panel
import AirHockey.Model.WayOut
import AirHockey.Lib.Heap
import AirHockey.Lib.Routine
import AirHockey.Model.Lifecycle
import AirHockey.Model.Parity
import AirHockey.SerialPort.Uart
