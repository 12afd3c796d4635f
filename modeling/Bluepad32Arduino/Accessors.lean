import Bluepad32Arduino.Callbacks

/-!
# The accessors CPU 1 calls

Every `arduino_*` accessor of the sketch side has the same shape: it checks `idx` (in range,
and its seat taken) without taking `controller_mutex_`, and then does its work. The getters
copy from the seat under the mutex; the setters build a `pending_request_t` and send it to
`pending_queue_` without waiting, returning success whatever the send did.

`Accessor` lists the accessors with their own arguments, `checkSeat` is the check they share
and `Accessor.afterCheck` is the rest. Each source function is `Accessor.call` of its
accessor. The system model of `Bluepad32Arduino.System` runs the check and the rest as two
steps, so that CPU 0 can run in between.
-/

namespace Bluepad32Arduino

variable {N : Nat}

/-- The accessors, each with the arguments it takes besides `idx`. -/
inductive Accessor
  | getGamepadData
  | getControllerData
  | getControllerProperties
  | setPlayerLeds (leds : UInt8)
  | setLightbarColor (r g b : UInt8)
  | playDualRumble (delayedStartMs durationMs : UInt16) (weakMagnitude strongMagnitude : UInt8)
  | disconnectController
deriving DecidableEq, Repr

/-- What a getter writes through its out parameter. -/
inductive OutData
  | gamepad (data : Nat)
  | controller (data : UniController)
  | properties (props : ArduinoControllerProperties)
deriving DecidableEq

/-- What an accessor leaves: the globals, the code it returns and what it wrote through its
out parameter. -/
structure AccessorOutcome (N : Nat) where
  globals : Globals N
  result : ArduinoError
  out : Option OutData

/-- The check every accessor makes first, without the lock: `idx` in range and its seat
taken. -/
def checkSeat (g : Globals N) (idx : Int) : Option (Fin N) :=
  match seatOf N idx with
  | some i => if (g.controllers i).idx == uniArduinoGamepadInvalid then none else some i
  | none => none

/-- The part of `arduino_get_gamepad_data` and `arduino_get_controller_data` under
`controller_mutex_`: a report not read yet is copied out and marked read. -/
def copyUpdatedData (g : Globals N) (i : Fin N) (out : UniController → OutData) :
    AccessorOutcome N :=
  if (g.controllers i).dataUpdated then
    ⟨{ g with
        controllers := Function.update g.controllers i
          { g.controllers i with dataUpdated := false } },
      .success, some (out (g.controllers i).data)⟩
  else ⟨g, .noData, none⟩

/-- `xQueueSendToBack(pending_queue_, &request, 0)`: the request is appended when the queue
has room; on a full queue the call fails at once and the request is lost. -/
def xQueueSendToBack (q : List PendingRequest) (r : PendingRequest) : List PendingRequest :=
  if q.length < maxPendingRequests then q ++ [r] else q

/-- The part of a setter after its check: the request for seat `i` is sent, and the setter
returns success. -/
def sendRequest (g : Globals N) (i : Fin N) (cmd : PendingRequestCmd) (args : PendingArgs) :
    AccessorOutcome N :=
  ⟨{ g with pendingQueue := xQueueSendToBack g.pendingQueue ⟨intToUInt8 i, cmd, args⟩ },
    .success, none⟩

/-- What an accessor does once `idx` passed its check, as seat `i`. -/
def Accessor.afterCheck (g : Globals N) (i : Fin N) : Accessor → AccessorOutcome N
  | .getGamepadData => copyUpdatedData g i fun data => .gamepad data.gamepad
  | .getControllerData => copyUpdatedData g i .controller
  | .getControllerProperties => ⟨g, .success, some (.properties (g.controllers i).properties)⟩
  | .setPlayerLeds leds => sendRequest g i .playerLeds { (default : PendingArgs) with playerLed := leds }
  | .setLightbarColor r g' b => sendRequest g i .lightbarColor { (default : PendingArgs) with leds := (r, g', b) }
  | .playDualRumble delayedStartMs durationMs weakMagnitude strongMagnitude =>
    sendRequest g i .rumble
      { (default : PendingArgs) with
        rumbleDelayedStart := delayedStartMs
        rumbleDuration := durationMs
        rumbleWeakMagnitude := weakMagnitude
        rumbleStrongMagnitude := strongMagnitude }
  | .disconnectController => sendRequest g i .disconnect default

/-- An accessor called with `idx`, in one go. -/
def Accessor.call (a : Accessor) (g : Globals N) (idx : Int) : AccessorOutcome N :=
  match checkSeat g idx with
  | none => ⟨g, .invalidDevice, none⟩
  | some i => a.afterCheck g i

/-- `arduino_get_gamepad_data`. -/
def arduinoGetGamepadData (g : Globals N) (idx : Int) : AccessorOutcome N :=
  Accessor.getGamepadData.call g idx

/-- `arduino_get_controller_data`. -/
def arduinoGetControllerData (g : Globals N) (idx : Int) : AccessorOutcome N :=
  Accessor.getControllerData.call g idx

/-- `arduino_get_controller_properties`. -/
def arduinoGetControllerProperties (g : Globals N) (idx : Int) : AccessorOutcome N :=
  Accessor.getControllerProperties.call g idx

/-- `arduino_get_gamepad_properties`, which calls `arduino_get_controller_properties`. -/
def arduinoGetGamepadProperties (g : Globals N) (idx : Int) : AccessorOutcome N :=
  arduinoGetControllerProperties g idx

/-- `arduino_set_player_leds`. -/
def arduinoSetPlayerLeds (g : Globals N) (idx : Int) (leds : UInt8) : AccessorOutcome N :=
  (Accessor.setPlayerLeds leds).call g idx

/-- `arduino_set_lightbar_color`. -/
def arduinoSetLightbarColor (g : Globals N) (idx : Int) (r g' b : UInt8) : AccessorOutcome N :=
  (Accessor.setLightbarColor r g' b).call g idx

/-- `arduino_play_dual_rumble`. -/
def arduinoPlayDualRumble (g : Globals N) (idx : Int) (delayedStartMs durationMs : UInt16)
    (weakMagnitude strongMagnitude : UInt8) : AccessorOutcome N :=
  (Accessor.playDualRumble delayedStartMs durationMs weakMagnitude strongMagnitude).call g idx

/-- `arduino_disconnect_controller`. -/
def arduinoDisconnectController (g : Globals N) (idx : Int) : AccessorOutcome N :=
  Accessor.disconnectController.call g idx

/-- `arduino_get_internal_hid_device`, which CPU 0 may call: the device that holds seat
`controllerIdx`. -/
def arduinoGetInternalHidDevice (devices : DeviceTable) (controllerIdx : Int) :
    Option (Nat × HidDevice) :=
  if controllerIdx = uniArduinoGamepadInvalid then none
  else if controllerIdx < 0 ∨ N ≤ controllerIdx then none
  else uniHidDeviceGetInstanceWithPredicate (predicateArduinoIndex · controllerIdx) devices

theorem checkSeat_eq_some {g : Globals N} {idx : Int} {i : Fin N} :
    checkSeat g idx = some i ↔ idx = i ∧ g.assigned i = true := by
  unfold checkSeat
  cases seat : seatOf N idx with
  | none =>
    simp only [reduceCtorEq, false_iff, not_and]
    intro equal
    simp [equal] at seat
  | some j =>
    rw [seatOf_eq_some] at seat
    subst seat
    have cast : ((j : Nat) : Int) = ((i : Nat) : Int) ↔ j = i := by rw [Int.ofNat_inj, Fin.val_inj]
    rw [cast]
    by_cases same : j = i
    · subst same
      by_cases free : (g.controllers j).idx = uniArduinoGamepadInvalid <;> simp [free, Globals.assigned]
    · simp only [same, false_and, iff_false]
      split <;> simp [same]

section AfterCheck

variable (g : Globals N) (i : Fin N)

/-- A locked copy leaves its seat marked read, and every other seat as it was. -/
theorem copyUpdatedData_controllers (out : UniController → OutData) (j : Fin N) :
    (copyUpdatedData g i out).globals.controllers j =
      if j = i then { g.controllers i with dataUpdated := false } else g.controllers j := by
  unfold copyUpdatedData
  split
  · next updated => simp [Function.update_apply]
  · next stale =>
    split
    · next same =>
      subst same
      simp only [Bool.not_eq_true] at stale
      rw [← stale]
    · rfl

/-- The rest of an accessor changes at most the dirty flag of the seat it checked. -/
theorem afterCheck_controllers (a : Accessor) (j : Fin N) :
    (a.afterCheck g i).globals.controllers j =
      { g.controllers j with dataUpdated := ((a.afterCheck g i).globals.controllers j).dataUpdated } := by
  cases a <;>
    simp only [Accessor.afterCheck, copyUpdatedData_controllers, sendRequest] <;>
    split <;> simp_all

@[simp] theorem afterCheck_usedControllers (a : Accessor) :
    (a.afterCheck g i).globals.usedControllers = g.usedControllers := by
  cases a <;> simp only [Accessor.afterCheck, copyUpdatedData, sendRequest] <;> split <;> rfl

end AfterCheck

end Bluepad32Arduino
