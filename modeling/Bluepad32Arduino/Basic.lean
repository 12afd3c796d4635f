import Mathlib.Data.Fintype.Card
import Mathlib.Data.Vector.Defs

/-!
# Bluepad32's Arduino platform: the shared data

`arduino_platform.c` is the bridge between two CPUs. CPU 0 runs BTstack and Bluepad32 and
calls the platform callbacks; CPU 1 runs the Arduino sketch and calls the `arduino_*`
accessors. They share:

* `controllers_`, one seat per controller, `CONFIG_BLUEPAD32_MAX_DEVICES` of them (`N`
  below); a seat holds the controller's last report, a dirty flag and its identity;
* `used_controllers_`, the number of seats taken;
* `pending_queue_`, a FreeRTOS queue of at most `MAX_PENDING_REQUESTS` requests that CPU 1
  leaves for CPU 0.

Every device of Bluepad32's table carries an `arduino_instance_t` in its platform data: the
seat it holds, or `UNI_ARDUINO_GAMEPAD_INVALID`. The table lives in `uni_hid_device.c`,
outside this source: `HidDevice` keeps what the platform reads and writes of an entry, and
`uniHidDeviceGetInstanceWithPredicate` is the search the platform calls on it. A device is
named by its index in the table, which is also what `uni_hid_device_get_idx_for_instance`
returns.
-/

namespace Bluepad32Arduino

/-! ## Constants and result codes -/

/-- `MAX_PENDING_REQUESTS`, the length of `pending_queue_`. -/
def maxPendingRequests : Nat := 16

/-- `UNI_ARDUINO_GAMEPAD_INVALID`, the seat of a device that has none. It is declared in
`arduino_platform.h`, not in this source; `-1` is the value the comment on
`arduino_instance_t` and the log of `arduino_on_device_ready` give for it. -/
def uniArduinoGamepadInvalid : Int := -1

/-- The `uni_error_t` values `arduino_on_device_ready` returns. -/
inductive UniError
  | success
  | noSlots
  | invalidController
deriving DecidableEq, Repr

/-- The `UNI_ARDUINO_ERROR_*` codes of the accessors. -/
inductive ArduinoError
  | success
  | invalidDevice
  | noData
deriving DecidableEq, Repr

/-! ## A seat of `controllers_` -/

/-- `uni_controller_t`, the report of a controller. The platform never reads inside it: it
copies it whole, or only its `gamepad` member (`arduino_gamepad_data_t`). -/
structure UniController where
  gamepad : Nat
  other : Nat
deriving DecidableEq, Repr, Inhabited

/-- The capability bits of `arduino_controller_properties_t.flags`. Modelled from the spec:
the `ARDUINO_PROPERTY_FLAG_*` values are declared in `arduino_platform.h`, which is not in
this source, so the flags word is kept as the set of its three bits. -/
structure PropertyFlags where
  playerLeds : Bool
  rumble : Bool
  playerLightbar : Bool
deriving DecidableEq, Repr, Inhabited

/-- `bd_addr_t`. -/
abbrev BdAddr := Mathlib.Vector UInt8 6

/-- The all-zero address `memset` leaves. -/
def BdAddr.zero : BdAddr := Mathlib.Vector.replicate 6 0

/-- `arduino_controller_properties_t`, the identity of the controller in a seat. -/
structure ArduinoControllerProperties where
  btaddr : BdAddr
  type : Nat
  subtype : Nat
  vendorId : UInt16
  productId : UInt16
  flags : PropertyFlags
deriving DecidableEq

/-- The properties `memset` leaves. -/
def ArduinoControllerProperties.zero : ArduinoControllerProperties :=
  ⟨BdAddr.zero, 0, 0, 0, 0, default⟩

/-- `arduino_controller_t`, one seat of `controllers_`. -/
structure ArduinoController where
  idx : Int
  data : UniController
  dataUpdated : Bool
  properties : ArduinoControllerProperties
deriving DecidableEq

/-- A seat after `memset(&controllers_[i], 0, ...)` and `controllers_[i].idx = UNI_ARDUINO_GAMEPAD_INVALID`:
the state of every free seat the platform writes. -/
def ArduinoController.free : ArduinoController :=
  ⟨uniArduinoGamepadInvalid, default, false, .zero⟩

/-! ## Devices of Bluepad32's table -/

/-- The callbacks of a device's `uni_report_parser_t` that the platform calls; a field is
`true` when the parser provides the callback (a non-`NULL` pointer). -/
structure ReportParser where
  setPlayerLeds : Bool
  setLightbarColor : Bool
  playDualRumble : Bool
deriving DecidableEq, Repr

/-- `arduino_instance_t`, kept in a device's platform data. `controller_idx` is an
`int8_t`. -/
structure ArduinoInstance where
  controllerIdx : Int8
deriving DecidableEq

/-- Where Bluepad32 is with an entry of its table. Modelled from the spec: the table and
the order of the callbacks are Bluepad32's (`uni_hid_device.c`), outside this source. An
entry is created with its platform data zeroed and is `created` until Bluepad32 calls
`on_device_connected`; it is `connected` until `on_device_disconnected`, and
`disconnected` after it, until Bluepad32 deletes the entry or connects it again. -/
inductive Phase
  | created
  | connected
  | disconnected
deriving DecidableEq, Repr

/-- What the platform reads and writes of a `uni_hid_device_t`. `controllerSubtype` is
the device's `controller_subtype`, which a seat's `properties.subtype` describes. -/
structure HidDevice where
  btaddr : BdAddr
  controllerType : Nat
  controllerSubtype : Nat
  vendorId : UInt16
  productId : UInt16
  reportParser : ReportParser
  platformData : ArduinoInstance
  phase : Phase
deriving DecidableEq

/-- Bluepad32's device table; `none` is a free entry. -/
abbrev DeviceTable := List (Option HidDevice)

/-- The seat a device's platform data names, read as the `int` it is promoted to. -/
def HidDevice.controllerIdx (d : HidDevice) : Int := d.platformData.controllerIdx.toInt

/-- `predicate_arduino_index`: the device's platform data names seat `wanted`. -/
def predicateArduinoIndex (d : HidDevice) (wanted : Int) : Bool :=
  d.controllerIdx == wanted

/-- `uni_hid_device_get_instance_with_predicate`: the first device of the table, in table
order, that satisfies the predicate, with its index. Modelled from the spec: the search is
Bluepad32's (`uni_hid_device.c`), outside this source; the spec calls it a linear predicate
search over the live devices, so free entries are skipped. -/
def uniHidDeviceGetInstanceWithPredicate (pred : HidDevice → Bool) :
    DeviceTable → Option (Nat × HidDevice)
  | [] => none
  | some d :: rest =>
    if pred d then some (0, d)
    else (uniHidDeviceGetInstanceWithPredicate pred rest).map fun found => (found.1 + 1, found.2)
  | none :: rest =>
    (uniHidDeviceGetInstanceWithPredicate pred rest).map fun found => (found.1 + 1, found.2)

section Search

variable {pred : HidDevice → Bool}

theorem shift_eq_some {x : Option (Nat × HidDevice)} {e : Nat} {d : HidDevice} :
    x.map (fun found => (found.1 + 1, found.2)) = some (e, d) ↔
      ∃ e₀, x = some (e₀, d) ∧ e = e₀ + 1 := by
  cases x with
  | none => simp
  | some found =>
    obtain ⟨e₀, d₀⟩ := found
    simp only [Option.map_some', Option.some.injEq, Prod.mk.injEq]
    constructor
    · rintro ⟨rfl, rfl⟩
      exact ⟨e₀, ⟨rfl, rfl⟩, rfl⟩
    · rintro ⟨e₁, ⟨rfl, rfl⟩, rfl⟩
      exact ⟨rfl, rfl⟩

/-- What the search returns is a device of the table that satisfies the predicate. -/
theorem search_sound {devices : DeviceTable} {e : Nat} {d : HidDevice}
    (found : uniHidDeviceGetInstanceWithPredicate pred devices = some (e, d)) :
    devices[e]? = some (some d) ∧ pred d = true := by
  induction devices generalizing e with
  | nil => cases found
  | cons entry rest ih =>
    rcases entry with _ | d'
    · obtain ⟨e₀, inRest, rfl⟩ := shift_eq_some.mp found
      simpa only [List.getElem?_cons_succ] using ih inRest
    · simp only [uniHidDeviceGetInstanceWithPredicate] at found
      split at found
      · cases found
        exact ⟨List.getElem?_cons_zero, ‹_›⟩
      · obtain ⟨e₀, inRest, rfl⟩ := shift_eq_some.mp found
        simpa only [List.getElem?_cons_succ] using ih inRest

/-- No device before the one the search returns satisfies the predicate. -/
theorem search_first {devices : DeviceTable} {e : Nat} {d : HidDevice}
    (found : uniHidDeviceGetInstanceWithPredicate pred devices = some (e, d))
    {e' : Nat} {d' : HidDevice} (before : e' < e) (present : devices[e']? = some (some d')) :
    pred d' = false := by
  induction devices generalizing e e' with
  | nil => cases present
  | cons entry rest ih =>
    rcases entry with _ | d''
    · obtain ⟨e₀, inRest, rfl⟩ := shift_eq_some.mp found
      cases e' with
      | zero => simp at present
      | succ e' =>
        rw [List.getElem?_cons_succ] at present
        exact ih inRest (Nat.lt_of_succ_lt_succ before) present
    · simp only [uniHidDeviceGetInstanceWithPredicate] at found
      split at found
      · cases found
        cases before
      · next notFirst =>
        obtain ⟨e₀, inRest, rfl⟩ := shift_eq_some.mp found
        cases e' with
        | zero =>
          simp only [List.getElem?_cons_zero, Option.some.injEq] at present
          subst present
          simpa using notFirst
        | succ e' =>
          rw [List.getElem?_cons_succ] at present
          exact ih inRest (Nat.lt_of_succ_lt_succ before) present

/-- The search finds nothing exactly when no device of the table satisfies the predicate. -/
theorem search_eq_none {devices : DeviceTable} :
    uniHidDeviceGetInstanceWithPredicate pred devices = none ↔
      ∀ (e : Nat) (d : HidDevice), devices[e]? = some (some d) → pred d = false := by
  induction devices with
  | nil => simp [uniHidDeviceGetInstanceWithPredicate]
  | cons entry rest ih =>
    have shifted : uniHidDeviceGetInstanceWithPredicate pred rest = none ↔
        ∀ (e : Nat) (d : HidDevice), (entry :: rest)[e + 1]? = some (some d) → pred d = false := by
      simp only [ih, List.getElem?_cons_succ]
    rcases entry with _ | d
    · refine (Option.map_eq_none').trans (shifted.trans ⟨fun none e d present => ?_, fun none e => none (e + 1)⟩)
      cases e with
      | zero => simp at present
      | succ e => exact none e d present
    · simp only [uniHidDeviceGetInstanceWithPredicate]
      split
      · next first =>
        simp only [reduceCtorEq, false_iff, not_forall]
        exact ⟨0, d, List.getElem?_cons_zero, by simp [first]⟩
      · next notFirst =>
        refine (Option.map_eq_none').trans (shifted.trans ⟨fun none e d' present => ?_, fun none e => none (e + 1)⟩)
        cases e with
        | zero =>
          simp only [List.getElem?_cons_zero, Option.some.injEq] at present
          subst present
          simpa using notFirst
        | succ e => exact none e d' present

end Search

/-! ## Requests from CPU 1 -/

/-- `pending_request_cmd_t`. -/
inductive PendingRequestCmd
  | none
  | lightbarColor
  | playerLeds
  | rumble
  | disconnect
deriving DecidableEq, Repr

/-- The `args` union of `pending_request_t`, one field per member. Each request is built
with the member its `cmd` names, and `process_pending_requests` reads only that member, so
the members never need to share storage here. -/
structure PendingArgs where
  playerLed : UInt8
  leds : UInt8 × UInt8 × UInt8
  rumbleDelayedStart : UInt16
  rumbleDuration : UInt16
  rumbleWeakMagnitude : UInt8
  rumbleStrongMagnitude : UInt8
deriving DecidableEq, Repr, Inhabited

/-- `pending_request_t`. `controller_idx` is a `uint8_t`. -/
structure PendingRequest where
  controllerIdx : UInt8
  cmd : PendingRequestCmd
  args : PendingArgs
deriving DecidableEq, Repr

/-! ## The platform's globals -/

/-- `controllers_`, `used_controllers_` and `pending_queue_`. `controller_mutex_` has no
state here: the system model takes every callback and every locked copy as one atomic step,
a mode the code does not enforce (`Bluepad32Arduino.System`). -/
structure Globals (N : Nat) where
  controllers : Fin N → ArduinoController
  usedControllers : Int
  pendingQueue : List PendingRequest

/-- `arduino_init`: every seat zeroed and free. -/
def arduinoInit {N : Nat} (g : Globals N) : Globals N :=
  { g with controllers := fun _ => .free }

/-- The globals once the platform is up: the static storage is zero, `arduino_init` has run,
and `arduino_on_init_complete` has created the empty `pending_queue_`. -/
def Globals.boot (N : Nat) : Globals N :=
  arduinoInit ⟨fun _ => ⟨0, default, false, .zero⟩, 0, []⟩

/-- Seat `i` is taken: the test every accessor makes. -/
def Globals.assigned {N : Nat} (g : Globals N) (i : Fin N) : Bool :=
  (g.controllers i).idx != uniArduinoGamepadInvalid

/-- The test `idx < 0 || idx >= CONFIG_BLUEPAD32_MAX_DEVICES` the platform makes before it
indexes `controllers_`, as the seat it lets through. -/
def seatOf (N : Nat) (idx : Int) : Option (Fin N) :=
  if h : 0 ≤ idx ∧ idx < N then some ⟨idx.toNat, by omega⟩ else none

theorem seatOf_eq_some {N : Nat} {idx : Int} {i : Fin N} :
    seatOf N idx = some i ↔ idx = i := by
  unfold seatOf
  split
  · simp only [Option.some.injEq, Fin.ext_iff]
    omega
  · simp only [reduceCtorEq, false_iff]
    omega

@[simp] theorem seatOf_fin {N : Nat} (i : Fin N) : seatOf N i = some i :=
  seatOf_eq_some.mpr rfl

/-- The conversion of an `int` to `uint8_t`, modulo 256. -/
def intToUInt8 (i : Int) : UInt8 := UInt8.ofNat (i % 256).toNat

@[simp] theorem boot_controllers {N : Nat} (i : Fin N) :
    (Globals.boot N).controllers i = .free := rfl

@[simp] theorem boot_usedControllers (N : Nat) : (Globals.boot N).usedControllers = 0 := rfl

@[simp] theorem boot_pendingQueue (N : Nat) : (Globals.boot N).pendingQueue = [] := rfl

@[simp] theorem free_idx : ArduinoController.free.idx = uniArduinoGamepadInvalid := rfl

@[simp] theorem free_dataUpdated : ArduinoController.free.dataUpdated = false := rfl

@[simp] theorem free_properties : ArduinoController.free.properties = .zero := rfl

end Bluepad32Arduino
