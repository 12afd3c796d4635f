import Bluepad32Arduino.Basic
import Bluepad32Arduino.Callbacks
import Bluepad32Arduino.Accessors
import Bluepad32Arduino.System
import Bluepad32Arduino.SlotTable
import Bluepad32Arduino.Requests
import Bluepad32Arduino.Mirror
import Bluepad32Arduino.Lookup
import Bluepad32Arduino.SeatStates
import Bluepad32Arduino.QueueRuns
import Bluepad32Arduino.AttributeTable
