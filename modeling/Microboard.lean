import Microboard.Blink
import Microboard.Checks.Run
import Microboard.Main
import Microboard.Proofs.Board.AllOrNothing
import Microboard.Proofs.Board.AsNew
import Microboard.Proofs.Board.Close
import Microboard.Proofs.Bus.Publishing
import Microboard.Proofs.Checks.Partition
import Microboard.Proofs.Config.Cache
import Microboard.Proofs.Config.Escapes
import Microboard.Proofs.Config.Intervals
import Microboard.Proofs.Config.NormalForm
import Microboard.Proofs.Dispatcher.Pressing
import Microboard.Proofs.Glyph.Alphabet
import Microboard.Proofs.Hardware.Addressing
import Microboard.Proofs.Machine.Creations
import Microboard.Proofs.Machine.Destroying
import Microboard.Proofs.Machine.Reckoning
import Microboard.Proofs.Mirror.Reflection
import Microboard.Proofs.Registry.Binding
import Microboard.Proofs.Scheduler.Driven
import Microboard.Proofs.Scheduler.Idling
import Microboard.Proofs.Scheduler.Protocol
import Microboard.Proofs.Scroll.ShowString
import Microboard.Proofs.Scroll.Window
import Microboard.Script.Names
import Microboard.Session
