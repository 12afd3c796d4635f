import Bluepad32Arduino.Accessors

/-!
# The system: both CPUs and Bluepad32's table

A state of the system is the platform's globals, Bluepad32's device table and the accessor
calls of CPU 1 that have passed their seat check and not yet done the rest. A step is one of

* a move of Bluepad32 on its table (`create`, `delete`), or one of the platform callbacks,
  which Bluepad32 calls on a device in its lifecycle order: `connected` on an entry that is
  not connected, then any number of `ready` and `controllerData`, then `disconnected`, and
  the entry may be connected again or deleted;
* on CPU 1, the seat check of an accessor (`call`), or the rest of a call that passed it
  (`finish`), so that CPU 0 can run between the two.

Every callback and every locked copy is one atomic step. This is a mode of the model, the
one the spec's contracts take, and not something the code enforces: only
`arduino_on_controller_data` and the getters take `controller_mutex_`, while
`arduino_on_device_ready` and `arduino_on_device_disconnected` write `controllers_` and
`used_controllers_` without it, so on the chip a getter's locked copy can overlap one of them
and see a seat half written. The results of this project hold of runs in which the two never
overlap. The order of Bluepad32's moves is modelled from the spec: it is Bluepad32's
(`uni_hid_device.c`), outside this source.

`Reachable` is the set of states of every run from `Sys.boot`; `Sys.step_cases` says what a
step can do, and the invariants of the later modules are proved from it.
-/

namespace Bluepad32Arduino

variable {N : Nat}

/-- The platform's globals, Bluepad32's table, and the calls of CPU 1 between their seat
check and the rest, each with the seat it checked. -/
structure Sys (N : Nat) where
  globals : Globals N
  devices : DeviceTable
  inflight : List (Accessor × Fin N)

/-- One atomic step of the system. -/
inductive Action
  | create (e : Nat) (d : HidDevice)
  | connected (e : Nat)
  | ready (e : Nat)
  | controllerData (e : Nat) (ctl : UniController)
  | disconnected (e : Nat)
  | delete (e : Nat)
  | call (a : Accessor) (idx : Int)
  | finish (j : Nat)
deriving DecidableEq

/-- The system once the platform is up, with a table of `M` free entries. -/
def Sys.boot (N M : Nat) : Sys N := ⟨Globals.boot N, List.replicate M none, []⟩

/-- A device as Bluepad32 enters it in its table: platform data zeroed. -/
def createdEntry (d : HidDevice) : HidDevice :=
  { d with platformData := ⟨0⟩, phase := .created }

@[simp] theorem createdEntry_controllerIdx (d : HidDevice) : (createdEntry d).controllerIdx = 0 := by
  simp only [createdEntry, HidDevice.controllerIdx]
  decide

@[simp] theorem createdEntry_phase (d : HidDevice) : (createdEntry d).phase = .created := rfl

/-- The device of entry `e`, when it is connected. -/
def connectedAt (devices : DeviceTable) (e : Nat) : Option HidDevice :=
  match devices[e]? with
  | some (some d) => if d.phase = .connected then some d else none
  | _ => none

/-- The device of entry `e`, when it is present and not connected. -/
def idleAt (devices : DeviceTable) (e : Nat) : Option HidDevice :=
  match devices[e]? with
  | some (some d) => if d.phase = .connected then none else some d
  | _ => none

/-- One step of the system; `none` when the step is not enabled. A callback runs whole, with
no getter's copy inside it: the atomic mode of the module doc, which the code does not
enforce for `arduino_on_device_ready` and `arduino_on_device_disconnected`. -/
def Sys.step (s : Sys N) : Action → Option (Sys N)
  | .create e d =>
    if s.devices[e]? = some none then
      some { s with devices := s.devices.set e (some (createdEntry d)) }
    else none
  | .connected e => (idleAt s.devices e).map fun d =>
    { s with devices := s.devices.set e (some { arduinoOnDeviceConnected d with phase := .connected }) }
  | .ready e => (connectedAt s.devices e).map fun d =>
    let o := arduinoOnDeviceReady s.globals e d
    { s with globals := o.globals, devices := s.devices.set e (some o.device) }
  | .controllerData e ctl => (connectedAt s.devices e).map fun d =>
    { s with globals := (arduinoOnControllerData s.globals s.devices d ctl).1 }
  | .disconnected e => (connectedAt s.devices e).map fun d =>
    let o := arduinoOnDeviceDisconnected s.globals d
    { s with globals := o.1, devices := s.devices.set e (some { o.2 with phase := .disconnected }) }
  | .delete e => (idleAt s.devices e).map fun _ => { s with devices := s.devices.set e none }
  | .call a idx =>
    some (match checkSeat s.globals idx with
      | some i => { s with inflight := s.inflight ++ [(a, i)] }
      | none => s)
  | .finish j => s.inflight[j]?.map fun call =>
    { s with
      globals := (call.1.afterCheck s.globals call.2).globals
      inflight := s.inflight.eraseIdx j }

/-- Everything a step can do, one case per action, in the order of `Action`. -/
theorem Sys.step_cases {s s' : Sys N} {a : Action} (stepped : s.step a = some s') :
    (∃ e d, a = .create e d ∧ s.devices[e]? = some none ∧
      s' = { s with devices := s.devices.set e (some (createdEntry d)) }) ∨
    (∃ e d, a = .connected e ∧ idleAt s.devices e = some d ∧
      s' = { s with
        devices := s.devices.set e (some { arduinoOnDeviceConnected d with phase := .connected }) }) ∨
    (∃ e d, a = .ready e ∧ connectedAt s.devices e = some d ∧
      s' = { s with
        globals := (arduinoOnDeviceReady s.globals e d).globals
        devices := s.devices.set e (some (arduinoOnDeviceReady s.globals e d).device) }) ∨
    (∃ e ctl d, a = .controllerData e ctl ∧ connectedAt s.devices e = some d ∧
      s' = { s with globals := (arduinoOnControllerData s.globals s.devices d ctl).1 }) ∨
    (∃ e d, a = .disconnected e ∧ connectedAt s.devices e = some d ∧
      s' = { s with
        globals := (arduinoOnDeviceDisconnected s.globals d).1
        devices := (s.devices.set e
          (some { (arduinoOnDeviceDisconnected s.globals d).2 with phase := .disconnected })) }) ∨
    (∃ e d, a = .delete e ∧ idleAt s.devices e = some d ∧
      s' = { s with devices := s.devices.set e none }) ∨
    (∃ acc idx, a = .call acc idx ∧ (checkSeat s.globals idx = none ∧ s' = s ∨
      ∃ i, checkSeat s.globals idx = some i ∧ s' = { s with inflight := s.inflight ++ [(acc, i)] })) ∨
    (∃ j call, a = .finish j ∧ s.inflight[j]? = some call ∧
      s' = { s with
        globals := (call.1.afterCheck s.globals call.2).globals
        inflight := s.inflight.eraseIdx j }) := by
  cases a with
  | create e d =>
    simp only [Sys.step] at stepped
    split at stepped
    · cases stepped
      exact .inl ⟨e, d, rfl, ‹_›, rfl⟩
    · cases stepped
  | connected e =>
    simp only [Sys.step, Option.map_eq_some'] at stepped
    obtain ⟨d, found, rfl⟩ := stepped
    exact .inr (.inl ⟨e, d, rfl, found, rfl⟩)
  | ready e =>
    simp only [Sys.step, Option.map_eq_some'] at stepped
    obtain ⟨d, found, rfl⟩ := stepped
    exact .inr (.inr (.inl ⟨e, d, rfl, found, rfl⟩))
  | controllerData e ctl =>
    simp only [Sys.step, Option.map_eq_some'] at stepped
    obtain ⟨d, found, rfl⟩ := stepped
    exact .inr (.inr (.inr (.inl ⟨e, ctl, d, rfl, found, rfl⟩)))
  | disconnected e =>
    simp only [Sys.step, Option.map_eq_some'] at stepped
    obtain ⟨d, found, rfl⟩ := stepped
    exact .inr (.inr (.inr (.inr (.inl ⟨e, d, rfl, found, rfl⟩))))
  | delete e =>
    simp only [Sys.step, Option.map_eq_some'] at stepped
    obtain ⟨d, found, rfl⟩ := stepped
    exact .inr (.inr (.inr (.inr (.inr (.inl ⟨e, d, rfl, found, rfl⟩)))))
  | call acc idx =>
    simp only [Sys.step, Option.some.injEq] at stepped
    refine .inr (.inr (.inr (.inr (.inr (.inr (.inl ⟨acc, idx, rfl, ?_⟩))))))
    split at stepped
    · exact .inr ⟨_, ‹_›, stepped.symm⟩
    · exact .inl ⟨‹_›, stepped.symm⟩
  | finish j =>
    simp only [Sys.step, Option.map_eq_some'] at stepped
    obtain ⟨call, found, rfl⟩ := stepped
    exact .inr (.inr (.inr (.inr (.inr (.inr (.inr ⟨j, call, rfl, found, rfl⟩))))))

/-- The states of every run from boot. -/
inductive Reachable : Sys N → Prop
  | boot (M : Nat) : Reachable (Sys.boot N M)
  | step {s s' : Sys N} {a : Action} : Reachable s → s.step a = some s' → Reachable s'

/-- A run of steps; `none` as soon as one is not enabled. -/
def Sys.run (s : Sys N) : List Action → Option (Sys N)
  | [] => some s
  | a :: rest => (s.step a).bind fun s' => s'.run rest

theorem Reachable.run {s s' : Sys N} {actions : List Action} (start : Reachable s)
    (ran : s.run actions = some s') : Reachable s' := by
  induction actions generalizing s with
  | nil =>
    cases ran
    exact start
  | cons a rest ih =>
    simp only [Sys.run, Option.bind_eq_some] at ran
    obtain ⟨s₁, stepped, ran⟩ := ran
    exact ih (start.step stepped) ran

/-- A run that goes through from a reachable state ends in a reachable state where `p`
holds, when `p` holds of its end. -/
theorem Reachable.exists_of_run {s : Sys N} {actions : List Action} {p : Sys N → Bool}
    (start : Reachable s) (ran : (s.run actions).any p = true) :
    ∃ s', Reachable s' ∧ s.run actions = some s' ∧ p s' = true := by
  cases result : s.run actions with
  | none => simp [result] at ran
  | some s' =>
    rw [result] at ran
    exact ⟨s', start.run result, rfl, ran⟩

theorem exists_of_any {α : Type} {x : Option α} {p : α → Bool} (holds : x.any p = true) :
    ∃ y, x = some y ∧ p y = true := by
  cases x with
  | none => simp at holds
  | some y => exact ⟨y, rfl, holds⟩

/-- A controller for the concrete runs below: address byte `n`, controller type 1 and
subtype 2, and a parser that provides all three outputs when `outputs` holds, none
otherwise. -/
def examplePad (n : UInt8) (outputs : Bool) : HidDevice :=
  ⟨⟨[n, 0, 0, 0, 0, 1], rfl⟩, 1, 2, 0x054c, 0x09cc, ⟨outputs, outputs, outputs⟩, ⟨0⟩, .created⟩

/-! ## Entries -/

theorem connectedAt_eq_some {devices : DeviceTable} {e : Nat} {d : HidDevice} :
    connectedAt devices e = some d ↔ devices[e]? = some (some d) ∧ d.phase = .connected := by
  unfold connectedAt
  split
  · next d' present =>
    rw [present]
    by_cases phase : d'.phase = .connected <;> simp [phase] <;> rintro rfl <;> exact phase
  · next absent =>
    simp only [reduceCtorEq, false_iff, not_and]
    intro present
    exact absurd present (absent d)

theorem idleAt_eq_some {devices : DeviceTable} {e : Nat} {d : HidDevice} :
    idleAt devices e = some d ↔ devices[e]? = some (some d) ∧ d.phase ≠ .connected := by
  unfold idleAt
  split
  · next d' present =>
    rw [present]
    by_cases phase : d'.phase = .connected <;> simp [phase] <;> rintro rfl <;> exact phase
  · next absent =>
    simp only [reduceCtorEq, false_iff, not_and]
    intro present
    exact absurd present (absent d)

/-- An idle entry is not connected, so it holds no seat: the side condition `holds_set_iff`
asks of an entry before it is set. -/
theorem idle_unseated {devices : DeviceTable} {e : Nat} {d : HidDevice}
    (idle : idleAt devices e = some d) (d' : HidDevice) (found : devices[e]? = some (some d'))
    (connected : d'.phase = .connected) : d'.controllerIdx = uniArduinoGamepadInvalid := by
  obtain ⟨present, notConnected⟩ := idleAt_eq_some.mp idle
  rw [present, Option.some.injEq, Option.some.injEq] at found
  exact absurd (found ▸ connected) notConnected

/-- The entry `e'` after entry `e` is set. -/
theorem getElem?_set_entry {devices : DeviceTable} {e e' : Nat} {x : Option HidDevice}
    (present : e < devices.length) :
    (devices.set e x)[e']? = if e = e' then some x else devices[e']? := by
  rw [List.getElem?_set]
  split <;> simp_all

theorem length_of_present {devices : DeviceTable} {e : Nat} {x : Option HidDevice}
    (present : devices[e]? = some x) : e < devices.length := by
  rw [List.getElem?_eq_some_iff] at present
  exact present.1

/-- Entry `e` of the table is a connected device whose platform data names seat `i`. -/
def Holds (devices : DeviceTable) (e : Nat) (i : Fin N) : Prop :=
  ∃ d, devices[e]? = some (some d) ∧ d.phase = .connected ∧ d.controllerIdx = i

theorem holds_iff_connectedAt {devices : DeviceTable} {e : Nat} {i : Fin N} :
    Holds devices e i ↔ (connectedAt devices e).map HidDevice.controllerIdx = some (i : Int) := by
  simp only [Holds, Option.map_eq_some', connectedAt_eq_some, and_assoc]

instance (devices : DeviceTable) (e : Nat) (i : Fin N) : Decidable (Holds devices e i) :=
  decidable_of_iff _ holds_iff_connectedAt.symm

/-- An entry holds one seat at most. -/
theorem Holds.seat_eq {devices : DeviceTable} {e : Nat} {i j : Fin N} (holdsI : Holds devices e i)
    (holdsJ : Holds devices e j) : i = j := by
  obtain ⟨d, found, -, named⟩ := holdsI
  obtain ⟨d', found', -, named'⟩ := holdsJ
  rw [found, Option.some.injEq, Option.some.injEq] at found'
  subst found'
  rwa [named, Int.ofNat_inj, Fin.val_inj] at named'

/-- Setting an entry back to what it holds changes nothing. -/
theorem set_self {devices : DeviceTable} {e : Nat} {x : Option HidDevice}
    (present : devices[e]? = some x) : devices.set e x = devices := by
  apply List.ext_getElem?
  intro e'
  rw [getElem?_set_entry (length_of_present present)]
  split <;> simp_all

end Bluepad32Arduino
