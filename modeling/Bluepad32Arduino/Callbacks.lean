import Bluepad32Arduino.Basic

/-!
# The callbacks CPU 0 runs

Bluepad32 calls these from its own task, one at a time:

* `arduinoOnDeviceConnected` and `arduinoOnDeviceDisconnected` bracket a device's life;
* `arduinoOnDeviceReady` gives the device the first free seat;
* `arduinoOnControllerData` first runs `processPendingRequests`, the requests CPU 1 left in
  `pending_queue_`, then stores the report in the device's seat.

The calls the platform makes into a report parser or into BTstack are returned as a list of
`Call`s, in the order they are made. `processPendingRequests` stops at the first request whose
seat resolves to no device: that request is dropped and the ones behind it stay queued
(`processPendingRequests_eq` states what it does to any queue).
-/

namespace Bluepad32Arduino

variable {N : Nat}

/-- A call the platform makes into a device's report parser, or into BTstack. The device is
named by its index in the table. -/
inductive Call
  | setPlayerLeds (d : Nat) (leds : UInt8)
  | setLightbarColor (d : Nat) (r g b : UInt8)
  | playDualRumble (d : Nat) (delayedStartMs durationMs : UInt16)
      (weakMagnitude strongMagnitude : UInt8)
  | disconnectDeviceSafe (idx : Nat)
deriving DecidableEq, Repr

/-- The device a call is made on. -/
def Call.device : Call → Nat
  | .setPlayerLeds d _ | .setLightbarColor d .. | .playDualRumble d .. => d
  | .disconnectDeviceSafe idx => idx

/-! ## Connection and disconnection -/

/-- The platform data of a device without a seat. -/
def noSeat : ArduinoInstance := ⟨Int8.ofInt uniArduinoGamepadInvalid⟩

@[simp] theorem noSeat_toInt : noSeat.controllerIdx.toInt = uniArduinoGamepadInvalid := by
  decide

/-- `arduino_on_device_connected`. -/
def arduinoOnDeviceConnected (d : HidDevice) : HidDevice :=
  { d with platformData := noSeat }

/-- The globals once seat `i` is given back: zeroed, free, and one seat fewer in use. -/
def Globals.releaseSeat (g : Globals N) (i : Fin N) : Globals N :=
  { g with
    usedControllers := g.usedControllers - 1
    controllers := Function.update g.controllers i .free }

/-- `arduino_on_device_disconnected`: a device that holds a seat gives it back. A seat
number out of range is logged and left as it is. -/
def arduinoOnDeviceDisconnected (g : Globals N) (d : HidDevice) : Globals N × HidDevice :=
  if d.controllerIdx != uniArduinoGamepadInvalid then
    match seatOf N d.controllerIdx with
    | none => (g, d)
    | some i => (g.releaseSeat i, { d with platformData := noSeat })
  else (g, d)

/-! ## Readiness -/

/-- The loop of `arduino_on_device_ready`: the first free seat. -/
def firstFreeSeat (g : Globals N) : Option (Fin N) :=
  (List.finRange N).find? fun i => (g.controllers i).idx == uniArduinoGamepadInvalid

/-- The properties `arduino_on_device_ready` records for device `d`. The subtype is copied
from `d->controller_type`, as the source does. -/
def readyProperties (d : HidDevice) : ArduinoControllerProperties :=
  { btaddr := d.btaddr
    type := d.controllerType
    subtype := d.controllerType
    vendorId := d.vendorId
    productId := d.productId
    flags := ⟨d.reportParser.setPlayerLeds, d.reportParser.playDualRumble,
      d.reportParser.setLightbarColor⟩ }

/-- What `arduino_on_device_ready` writes in seat `i` for device `d`. -/
def takeSeat (c : ArduinoController) (i : Fin N) (d : HidDevice) : ArduinoController :=
  { c with idx := i, properties := readyProperties d }

/-- The globals once `arduino_on_device_ready` gave seat `i` to `d`. -/
def Globals.giveSeat (g : Globals N) (i : Fin N) (d : HidDevice) : Globals N :=
  { g with
    controllers := Function.update g.controllers i (takeSeat (g.controllers i) i d)
    usedControllers := g.usedControllers + 1 }

/-- `d` with `ins->controller_idx = i`. -/
def HidDevice.seated (d : HidDevice) (i : Int) : HidDevice :=
  { d with platformData := ⟨Int8.ofInt i⟩ }

@[simp] theorem HidDevice.seated_phase (d : HidDevice) (i : Int) : (d.seated i).phase = d.phase :=
  rfl

/-- The `set_player_leds(d, ins->controller_idx + 1)` call that ends
`arduino_on_device_ready`, made when the parser provides it. -/
def playerLedsCall (e : Nat) (d : HidDevice) (controllerIdx : Int) : List Call :=
  if d.reportParser.setPlayerLeds then [.setPlayerLeds e (intToUInt8 (controllerIdx + 1))] else []

/-- What `arduino_on_device_ready` leaves: the globals, the device, the value it returns and
the calls it made. -/
structure ReadyOutcome (N : Nat) where
  globals : Globals N
  device : HidDevice
  result : UniError
  calls : List Call

/-- `arduino_on_device_ready` for device `d`, entry `e` of the table. -/
def arduinoOnDeviceReady (g : Globals N) (e : Nat) (d : HidDevice) : ReadyOutcome N :=
  if g.usedControllers = N then ⟨g, d, .noSlots, []⟩
  else if d.controllerIdx != uniArduinoGamepadInvalid then ⟨g, d, .invalidController, []⟩
  else
    match firstFreeSeat g with
    | some i => ⟨g.giveSeat i d, d.seated i, .success, playerLedsCall e d (d.seated i).controllerIdx⟩
    | none => ⟨g, d, .success, playerLedsCall e d d.controllerIdx⟩

/-- Everything `arduino_on_device_ready` can do. -/
theorem arduinoOnDeviceReady_cases (g : Globals N) (e : Nat) (d : HidDevice) :
    (g.usedControllers = N ∧ arduinoOnDeviceReady g e d = ⟨g, d, .noSlots, []⟩) ∨
    (g.usedControllers ≠ N ∧ d.controllerIdx ≠ uniArduinoGamepadInvalid ∧
      arduinoOnDeviceReady g e d = ⟨g, d, .invalidController, []⟩) ∨
    (g.usedControllers ≠ N ∧ d.controllerIdx = uniArduinoGamepadInvalid ∧
      ∃ i, firstFreeSeat g = some i ∧
        arduinoOnDeviceReady g e d =
          ⟨g.giveSeat i d, d.seated i, .success, playerLedsCall e d (d.seated i).controllerIdx⟩) ∨
    (g.usedControllers ≠ N ∧ d.controllerIdx = uniArduinoGamepadInvalid ∧
      firstFreeSeat g = none ∧
      arduinoOnDeviceReady g e d = ⟨g, d, .success, playerLedsCall e d d.controllerIdx⟩) := by
  unfold arduinoOnDeviceReady
  by_cases full : g.usedControllers = N
  · simp [full]
  · by_cases seated : d.controllerIdx = uniArduinoGamepadInvalid
    · cases first : firstFreeSeat g <;> simp [full, seated, first]
    · simp [full, seated]

/-- Everything `arduino_on_device_disconnected` can do. -/
theorem arduinoOnDeviceDisconnected_cases (g : Globals N) (d : HidDevice) :
    (seatOf N d.controllerIdx = none ∧ arduinoOnDeviceDisconnected g d = (g, d)) ∨
    (∃ i, seatOf N d.controllerIdx = some i ∧
      arduinoOnDeviceDisconnected g d = (g.releaseSeat i, { d with platformData := noSeat })) := by
  unfold arduinoOnDeviceDisconnected
  cases seat : seatOf N d.controllerIdx with
  | none => simp
  | some i =>
    have valid : d.controllerIdx ≠ uniArduinoGamepadInvalid := by
      rw [seatOf_eq_some] at seat
      rw [seat, uniArduinoGamepadInvalid]
      omega
    simp [valid]

theorem firstFreeSeat_eq_some {g : Globals N} {i : Fin N} :
    firstFreeSeat g = some i ↔ (g.controllers i).idx = uniArduinoGamepadInvalid ∧
      ∀ j, j < i → (g.controllers j).idx ≠ uniArduinoGamepadInvalid := by
  unfold firstFreeSeat
  rw [List.find?_eq_some_iff_getElem]
  constructor
  · rintro ⟨free, k, hk, rfl, before⟩
    refine ⟨by simpa using free, fun j hj => ?_⟩
    have hj' : (j : Nat) < k := by simpa [List.getElem_finRange, Fin.lt_def] using hj
    simpa [List.getElem_finRange] using before j hj'
  · rintro ⟨free, before⟩
    refine ⟨by simpa using free, i, by simp, by simp [List.getElem_finRange], fun j hj => ?_⟩
    have taken := before ⟨j, by omega⟩ (by simp [Fin.lt_def]; omega)
    simpa [List.getElem_finRange] using taken

theorem firstFreeSeat_eq_none {g : Globals N} :
    firstFreeSeat g = none ↔ ∀ i, (g.controllers i).idx ≠ uniArduinoGamepadInvalid := by
  simp [firstFreeSeat, List.find?_eq_none]

/-! ## Pending requests and reports -/

/-- One request of `process_pending_requests`, once its seat resolved to device `d`, entry
`e` of the table. A command the switch does not know is logged and skipped. -/
def executeRequest (e : Nat) (d : HidDevice) (r : PendingRequest) : List Call :=
  match r.cmd with
  | .lightbarColor =>
    if d.reportParser.setLightbarColor then
      [.setLightbarColor e r.args.leds.1 r.args.leds.2.1 r.args.leds.2.2]
    else []
  | .playerLeds =>
    if d.reportParser.setPlayerLeds then [.setPlayerLeds e r.args.playerLed] else []
  | .rumble =>
    if d.reportParser.playDualRumble then
      [.playDualRumble e r.args.rumbleDelayedStart r.args.rumbleDuration
        r.args.rumbleWeakMagnitude r.args.rumbleStrongMagnitude]
    else []
  | .disconnect => [.disconnectDeviceSafe e]
  | .none => []

/-- The device a request's seat resolves to. -/
def resolveRequest (devices : DeviceTable) (r : PendingRequest) : Option (Nat × HidDevice) :=
  uniHidDeviceGetInstanceWithPredicate (predicateArduinoIndex · r.controllerIdx.toNat) devices

/-- `process_pending_requests`: receive requests until the queue is empty. When a request's
seat resolves to no device the function logs and returns, so that request is gone and the
ones behind it stay in the queue. The result is the queue left and the calls made. -/
def processPendingRequests (devices : DeviceTable) :
    List PendingRequest → List PendingRequest × List Call
  | [] => ([], [])
  | r :: rest =>
    match resolveRequest devices r with
    | none => (rest, [])
    | some (e, d) =>
      let after := processPendingRequests devices rest
      (after.1, executeRequest e d r ++ after.2)

/-- `arduino_on_controller_data` for device `d`: the pending requests first, then the report
goes to the device's seat, under `controller_mutex_`. -/
def arduinoOnControllerData (g : Globals N) (devices : DeviceTable) (d : HidDevice)
    (ctl : UniController) : Globals N × List Call :=
  let drained := processPendingRequests devices g.pendingQueue
  let g := { g with pendingQueue := drained.1 }
  match seatOf N d.controllerIdx with
  | none => (g, drained.2)
  | some i =>
    ({ g with
        controllers := Function.update g.controllers i
          { g.controllers i with data := ctl, dataUpdated := true } },
      drained.2)

section ControllerData

variable (g : Globals N) (devices : DeviceTable) (d : HidDevice) (ctl : UniController)

@[simp] theorem arduinoOnControllerData_calls :
    (arduinoOnControllerData g devices d ctl).2 = (processPendingRequests devices g.pendingQueue).2 := by
  unfold arduinoOnControllerData
  split <;> rfl

@[simp] theorem arduinoOnControllerData_pendingQueue :
    (arduinoOnControllerData g devices d ctl).1.pendingQueue =
      (processPendingRequests devices g.pendingQueue).1 := by
  unfold arduinoOnControllerData
  split <;> rfl

@[simp] theorem arduinoOnControllerData_usedControllers :
    (arduinoOnControllerData g devices d ctl).1.usedControllers = g.usedControllers := by
  unfold arduinoOnControllerData
  split <;> rfl

/-- A report changes a seat's data and dirty flag only: the seat it lands in, when there is
one. -/
theorem arduinoOnControllerData_controllers (i : Fin N) :
    (arduinoOnControllerData g devices d ctl).1.controllers i =
      if seatOf N d.controllerIdx = some i then
        { g.controllers i with data := ctl, dataUpdated := true }
      else g.controllers i := by
  unfold arduinoOnControllerData
  split
  · next none => simp [none]
  · next j seat =>
    simp only [seat, Option.some.injEq, Function.update_apply]
    by_cases same : i = j
    · subst same
      simp
    · simp [same, Ne.symm same]

end ControllerData

/-! ## What `process_pending_requests` does to a queue -/

/-- The requests `process_pending_requests` carries out: those before the first one whose
seat resolves to no device. -/
def resolvedPrefix (devices : DeviceTable) : List PendingRequest → List PendingRequest
  | [] => []
  | r :: rest =>
    match resolveRequest devices r with
    | none => []
    | some _ => r :: resolvedPrefix devices rest

/-- The calls of a list of requests that all resolve. -/
def callsOf (devices : DeviceTable) (rs : List PendingRequest) : List Call :=
  rs.flatMap fun r =>
    match resolveRequest devices r with
    | none => []
    | some (e, d) => executeRequest e d r

/-- `process_pending_requests` carries out the requests up to the first one that does not
resolve, in order, drops that one and leaves the rest queued; with every request resolving it
empties the queue. -/
theorem processPendingRequests_eq (devices : DeviceTable) (q : List PendingRequest) :
    processPendingRequests devices q =
      (q.drop ((resolvedPrefix devices q).length + 1),
        callsOf devices (resolvedPrefix devices q)) := by
  induction q with
  | nil => rfl
  | cons r rest ih =>
    simp only [processPendingRequests, resolvedPrefix]
    cases resolved : resolveRequest devices r with
    | none => simp [callsOf]
    | some found => simp [ih, callsOf, resolved]

end Bluepad32Arduino
