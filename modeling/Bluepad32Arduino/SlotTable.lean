import Bluepad32Arduino.System

/-!
# The seat table

`SeatInv` ties `controllers_`, `used_controllers_` and the seats the devices' platform data
name together:

* every seat is free or names itself;
* `used_controllers_` is the number of seats taken;
* a created entry names seat 0 (its platform data is zeroed), a disconnected one no seat,
  and a connected one no seat or a taken one;
* no two connected devices name the same seat, and every taken seat is named by a connected
  device.

It holds at boot and every step keeps it (`SeatInv.step`) as long as `N ≤ 127`: a seat
number must fit the `int8_t` of `arduino_instance_t`. So it holds in every reachable state
(`Reachable.seatInv`).

Results:
1. `seat_table_consistent`: every seat is free or names itself, `used_controllers_` counts
   the seats that name themselves, and every connected device names no seat or a taken one.
   `seat_has_one_holder`: a seat is taken exactly when one connected device holds it.
2. `arduinoOnDeviceReady_spec`: what `arduino_on_device_ready` does in a reachable state.
-/

namespace Bluepad32Arduino

variable {N : Nat}

/-! ## The invariant -/

/-- The seat an entry's platform data can name in each phase. -/
def EntryOk (g : Globals N) (d : HidDevice) : Prop :=
  match d.phase with
  | .created => d.controllerIdx = 0
  | .connected =>
    d.controllerIdx = uniArduinoGamepadInvalid ∨
      ∃ i : Fin N, d.controllerIdx = i ∧ g.assigned i = true
  | .disconnected => d.controllerIdx = uniArduinoGamepadInvalid

/-- The seat table agrees with itself and with the device table. -/
structure SeatInv (g : Globals N) (devices : DeviceTable) : Prop where
  seat_idx : ∀ i, (g.controllers i).idx = uniArduinoGamepadInvalid ∨ (g.controllers i).idx = i
  used : g.usedControllers = (Finset.univ.filter fun i => g.assigned i = true).card
  entry : ∀ (e : Nat) (d : HidDevice), devices[e]? = some (some d) → EntryOk g d
  unique : ∀ (e e' : Nat) (i : Fin N), Holds devices e i → Holds devices e' i → e = e'
  held : ∀ i, g.assigned i = true → ∃ e, Holds devices e i

theorem seat_ne_invalid (i : Fin N) : ((i : Nat) : Int) ≠ uniArduinoGamepadInvalid := by
  simp only [uniArduinoGamepadInvalid]
  omega

theorem int8_toInt_ofInt {i : Int} (low : -128 ≤ i) (high : i < 128) :
    (Int8.ofInt i).toInt = i := by
  simp only [Int8.toInt, Int8.ofInt, Int8.toBitVec, BitVec.toInt_ofInt, Int.bmod_def]
  split <;> omega

theorem seated_controllerIdx (hN : N ≤ 127) (d : HidDevice) (i : Fin N) :
    (d.seated i).controllerIdx = i :=
  int8_toInt_ofInt (by omega) (by omega)

theorem SeatInv.assigned_iff {g : Globals N} {devices : DeviceTable} (inv : SeatInv g devices)
    (i : Fin N) : g.assigned i = true ↔ (g.controllers i).idx = i := by
  rcases inv.seat_idx i with free | named
  · simp [Globals.assigned, free, (seat_ne_invalid i).symm]
  · simp [Globals.assigned, named, seat_ne_invalid i]

/-- A connected device of the table names no seat, or a seat it holds. -/
theorem SeatInv.connected_seat {g : Globals N} {devices : DeviceTable} (inv : SeatInv g devices)
    {e : Nat} {d : HidDevice} (present : devices[e]? = some (some d))
    (connected : d.phase = .connected) :
    d.controllerIdx = uniArduinoGamepadInvalid ∨
      ∃ i : Fin N, d.controllerIdx = i ∧ Holds devices e i ∧ g.assigned i = true := by
  have ok := inv.entry e d present
  simp only [EntryOk, connected] at ok
  rcases ok with invalid | ⟨i, named, taken⟩
  · exact .inl invalid
  · exact .inr ⟨i, named, ⟨d, present, connected, named⟩, taken⟩

/-- A connected device whose platform data names no seat in range names no seat at all. -/
theorem SeatInv.invalid_of_outside {g : Globals N} {devices : DeviceTable}
    (inv : SeatInv g devices) {e : Nat} {d : HidDevice} (present : devices[e]? = some (some d))
    (connected : d.phase = .connected) (outside : seatOf N d.controllerIdx = none) :
    d.controllerIdx = uniArduinoGamepadInvalid := by
  rcases inv.connected_seat present connected with invalid | ⟨i, named, -⟩
  · exact invalid
  · simp [named] at outside

theorem SeatInv.holds_assigned {g : Globals N} {devices : DeviceTable} (inv : SeatInv g devices)
    {e : Nat} {i : Fin N} (holds : Holds devices e i) : g.assigned i = true := by
  obtain ⟨d, present, connected, named⟩ := holds
  rcases inv.connected_seat present connected with invalid | ⟨j, named', _, taken⟩
  · exact absurd (named.symm.trans invalid) (seat_ne_invalid i)
  · rw [named, Int.ofNat_inj, Fin.val_inj] at named'
    exact named' ▸ taken

/-! ## Steps that leave the seats alone -/

theorem SeatInv.boot (M : Nat) : SeatInv (Globals.boot N) (List.replicate M none) where
  seat_idx _ := .inl rfl
  used := by simp [Globals.assigned]
  entry e d present := by simp [List.getElem?_replicate] at present
  unique e _ _ holds := by
    obtain ⟨d, present, -⟩ := holds
    simp [List.getElem?_replicate] at present
  held i taken := by simp [Globals.assigned] at taken

/-- Only the seat numbers and the count matter to the invariant. -/
theorem SeatInv.congr_globals {g g' : Globals N} {devices : DeviceTable} (inv : SeatInv g devices)
    (idx : ∀ i, (g'.controllers i).idx = (g.controllers i).idx)
    (used : g'.usedControllers = g.usedControllers) : SeatInv g' devices := by
  have same : g'.assigned = g.assigned := funext fun i => by simp [Globals.assigned, idx]
  have entry : ∀ d, EntryOk g' d = EntryOk g d := fun d => by
    unfold EntryOk
    rw [same]
  exact ⟨fun i => idx i ▸ inv.seat_idx i, used ▸ same ▸ inv.used,
    fun e d present => entry d ▸ inv.entry e d present, inv.unique, same ▸ inv.held⟩

/-- An entry that holds no seat, before and after, can be set without changing who holds
which seat. -/
theorem holds_set_iff {devices : DeviceTable} {e e' : Nat} {x : Option HidDevice} {i : Fin N}
    (present : e < devices.length)
    (old : ∀ d, devices[e]? = some (some d) → d.phase = .connected →
      d.controllerIdx = uniArduinoGamepadInvalid)
    (new : ∀ d, x = some d → d.phase = .connected → d.controllerIdx = uniArduinoGamepadInvalid) :
    Holds (devices.set e x) e' i ↔ Holds devices e' i := by
  unfold Holds
  rw [getElem?_set_entry present]
  split
  · next same =>
    subst same
    constructor
    · rintro ⟨d, found, connected, named⟩
      simp only [Option.some.injEq] at found
      exact absurd (named.symm.trans (new d found connected)) (seat_ne_invalid i)
    · rintro ⟨d, found, connected, named⟩
      exact absurd (named.symm.trans (old d found connected)) (seat_ne_invalid i)
  · exact Iff.rfl

/-- Setting an entry that holds no seat to one that holds none keeps the invariant. -/
theorem SeatInv.set_idle {g : Globals N} {devices : DeviceTable} {e : Nat} {x : Option HidDevice}
    (inv : SeatInv g devices) (present : e < devices.length)
    (old : ∀ d, devices[e]? = some (some d) → d.phase = .connected →
      d.controllerIdx = uniArduinoGamepadInvalid)
    (new : ∀ d, x = some d → EntryOk g d ∧
      (d.phase = .connected → d.controllerIdx = uniArduinoGamepadInvalid)) :
    SeatInv g (devices.set e x) := by
  have holds : ∀ e' (i : Fin N), Holds (devices.set e x) e' i ↔ Holds devices e' i :=
    fun _ _ => holds_set_iff present old fun d found => (new d found).2
  refine ⟨inv.seat_idx, inv.used, fun e' d found => ?_, fun e₁ e₂ i h₁ h₂ => ?_, fun i taken => ?_⟩
  · rw [getElem?_set_entry present] at found
    split at found
    · exact (new d (by simpa using found)).1
    · exact inv.entry e' d found
  · exact inv.unique e₁ e₂ i ((holds e₁ i).mp h₁) ((holds e₂ i).mp h₂)
  · obtain ⟨e', holder⟩ := inv.held i taken
    exact ⟨e', (holds e' i).mpr holder⟩

/-! ## Taking and giving back a seat -/

/-- An entry stays as the invariant wants it while the seat it names, if connected, stays
taken. -/
theorem EntryOk.mono {g g' : Globals N} {d : HidDevice}
    (more : ∀ i : Fin N, d.phase = .connected → d.controllerIdx = i → g.assigned i = true →
      g'.assigned i = true)
    (ok : EntryOk g d) : EntryOk g' d := by
  unfold EntryOk at ok ⊢
  split at ok
  · exact ok
  · next connected =>
    rcases ok with invalid | ⟨i, named, taken⟩
    · exact .inl invalid
    · exact .inr ⟨i, named, more i connected named taken⟩
  · exact ok

theorem giveSeat_assigned {g : Globals N} {i : Fin N} {d : HidDevice} (j : Fin N) :
    (g.giveSeat i d).assigned j = (decide (j = i) || g.assigned j) := by
  by_cases same : j = i
  · subst same
    simp [Globals.giveSeat, Globals.assigned, takeSeat, seat_ne_invalid]
  · simp [Globals.giveSeat, Globals.assigned, Function.update_apply, same]

theorem releaseSeat_assigned {g : Globals N} {i : Fin N} (j : Fin N) :
    (g.releaseSeat i).assigned j = (!decide (j = i) && g.assigned j) := by
  by_cases same : j = i
  · subst same
    simp [Globals.releaseSeat, Globals.assigned]
  · simp [Globals.releaseSeat, Globals.assigned, Function.update_apply, same]

/-- A device whose platform data names no seat holds none. -/
theorem not_holds_of_unseated {devices : DeviceTable} {e : Nat} {d : HidDevice} {j : Fin N}
    (present : devices[e]? = some (some d)) (unseated : d.controllerIdx = uniArduinoGamepadInvalid) :
    ¬Holds devices e j := by
  rintro ⟨d', found, -, named⟩
  rw [present, Option.some.injEq, Option.some.injEq] at found
  subst found
  exact seat_ne_invalid j (named.symm.trans unseated)

/-- Who holds which seat once the connected entry `e` takes seat `i`. -/
theorem holds_give (hN : N ≤ 127) {devices : DeviceTable} {e : Nat} {d : HidDevice} {i : Fin N}
    (present : devices[e]? = some (some d)) (connected : d.phase = .connected) (e' : Nat)
    (j : Fin N) :
    Holds (devices.set e (some (d.seated i))) e' j ↔ (e' = e ∧ j = i) ∨ (e' ≠ e ∧ Holds devices e' j) := by
  unfold Holds
  rw [getElem?_set_entry (length_of_present present)]
  split
  · next same =>
    subst same
    simp [connected, seated_controllerIdx hN, Int.ofNat_inj, Fin.val_inj, eq_comm]
  · next other => simp [Ne.symm other]

/-- Who holds which seat once entry `e` is disconnected. -/
theorem holds_release {devices : DeviceTable} {e : Nat} {d : HidDevice} (present : e < devices.length)
    (e' : Nat) (j : Fin N) :
    Holds (devices.set e (some { { d with platformData := noSeat } with phase := .disconnected })) e' j ↔
      e' ≠ e ∧ Holds devices e' j := by
  unfold Holds
  rw [getElem?_set_entry present]
  split
  · next same => simp [same]
  · next other => simp [Ne.symm other]

/-- `arduino_on_device_ready` giving the free seat `i` to a connected device without one
keeps the invariant. -/
theorem SeatInv.give (hN : N ≤ 127) {g : Globals N} {devices : DeviceTable} {e : Nat}
    {d : HidDevice} {i : Fin N} (inv : SeatInv g devices)
    (present : devices[e]? = some (some d)) (connected : d.phase = .connected)
    (unseated : d.controllerIdx = uniArduinoGamepadInvalid)
    (free : (g.controllers i).idx = uniArduinoGamepadInvalid) :
    SeatInv (g.giveSeat i d) (devices.set e (some (d.seated i))) := by
  have notTaken : g.assigned i = false := by simp [Globals.assigned, free]
  have holds := @holds_give N hN devices e d i present connected
  refine ⟨fun j => ?_, ?_, fun e' d' found => ?_, fun e₁ e₂ j h₁ h₂ => ?_, fun j taken => ?_⟩
  · by_cases same : j = i
    · subst same
      simp [Globals.giveSeat, takeSeat]
    · simpa [Globals.giveSeat, Function.update_apply, same] using inv.seat_idx j
  · have grown : (Finset.univ.filter fun j => (g.giveSeat i d).assigned j = true) =
        insert i (Finset.univ.filter fun j => g.assigned j = true) := by
      ext j
      simp [giveSeat_assigned]
    rw [grown, Finset.card_insert_of_not_mem (by simp [notTaken])]
    simp [Globals.giveSeat, inv.used]
  · rw [getElem?_set_entry (length_of_present present)] at found
    split at found
    · cases found
      simp only [EntryOk, HidDevice.seated_phase, connected]
      exact .inr ⟨i, seated_controllerIdx hN d i, by simp [giveSeat_assigned]⟩
    · exact (inv.entry e' d' found).mono fun j _ _ taken => by simp [giveSeat_assigned, taken]
  · rw [holds] at h₁ h₂
    rcases h₁ with ⟨same₁, atI⟩ | ⟨-, old₁⟩
    · rcases h₂ with ⟨same₂, -⟩ | ⟨-, old₂⟩
      · exact same₁.trans same₂.symm
      · subst atI
        simp [inv.holds_assigned old₂] at notTaken
    · rcases h₂ with ⟨-, atI⟩ | ⟨-, old₂⟩
      · subst atI
        simp [inv.holds_assigned old₁] at notTaken
      · exact inv.unique e₁ e₂ j old₁ old₂
  · rw [giveSeat_assigned] at taken
    by_cases same : j = i
    · exact ⟨e, (holds e j).mpr (.inl ⟨rfl, same⟩)⟩
    · obtain ⟨e', holder⟩ := inv.held j (by simpa [same] using taken)
      have other : e' ≠ e := by
        rintro rfl
        exact not_holds_of_unseated present unseated holder
      exact ⟨e', (holds e' j).mpr (.inr ⟨other, holder⟩)⟩

/-- `arduino_on_device_disconnected` of a connected device that holds seat `i` keeps the
invariant. -/
theorem SeatInv.release {g : Globals N} {devices : DeviceTable} {e : Nat} {d : HidDevice}
    {i : Fin N} (inv : SeatInv g devices) (present : devices[e]? = some (some d))
    (connected : d.phase = .connected) (named : d.controllerIdx = i) :
    SeatInv (g.releaseSeat i)
      (devices.set e (some { { d with platformData := noSeat } with phase := .disconnected })) := by
  have length := length_of_present present
  have mine : Holds devices e i := ⟨d, present, connected, named⟩
  have taken := inv.holds_assigned mine
  have holds := @holds_release N devices e d length
  refine ⟨fun j => ?_, ?_, fun e' d' found => ?_, fun e₁ e₂ j h₁ h₂ => ?_, fun j taken' => ?_⟩
  · by_cases same : j = i
    · subst same
      simp [Globals.releaseSeat]
    · simpa [Globals.releaseSeat, Function.update_apply, same] using inv.seat_idx j
  · have shrunk : (Finset.univ.filter fun j => (g.releaseSeat i).assigned j = true) =
        (Finset.univ.filter fun j => g.assigned j = true).erase i := by
      ext j
      simp [releaseSeat_assigned, and_comm]
    have member : i ∈ Finset.univ.filter fun j => g.assigned j = true := by simp [taken]
    have positive := Finset.card_pos.mpr ⟨i, member⟩
    rw [shrunk, Finset.card_erase_of_mem member]
    simp only [Globals.releaseSeat, inv.used]
    omega
  · rw [getElem?_set_entry length] at found
    split at found
    · cases found
      simp [EntryOk, HidDevice.controllerIdx]
    · next other =>
      refine (inv.entry e' d' found).mono fun j phase named' taken' => ?_
      have differs : j ≠ i := by
        rintro rfl
        exact other (inv.unique e e' j mine ⟨d', found, phase, named'⟩)
      simp [releaseSeat_assigned, differs, taken']
  · exact inv.unique e₁ e₂ j ((holds e₁ j).mp h₁).2 ((holds e₂ j).mp h₂).2
  · rw [releaseSeat_assigned] at taken'
    simp only [Bool.and_eq_true, Bool.not_eq_true', decide_eq_false_iff_not] at taken'
    obtain ⟨e', holder⟩ := inv.held j taken'.2
    have other : e' ≠ e := by
      rintro rfl
      exact taken'.1 (holder.seat_eq mine)
    exact ⟨e', (holds e' j).mpr ⟨other, holder⟩⟩

/-! ## Every step keeps the invariant -/

/-- With every seat taken, the count is `N`. -/
theorem SeatInv.full {g : Globals N} {devices : DeviceTable} (inv : SeatInv g devices)
    (allTaken : ∀ i, (g.controllers i).idx ≠ uniArduinoGamepadInvalid) :
    g.usedControllers = N := by
  have everything : (Finset.univ.filter fun i => g.assigned i = true) = Finset.univ :=
    Finset.filter_true_of_mem fun i _ => by simp [Globals.assigned, allTaken i]
  rw [inv.used, everything, Finset.card_univ, Fintype.card_fin]

/-- What `arduino_on_device_ready` can do where the invariant holds: it leaves the seats and the
device as they are, or it gives the unseated device a free seat. A table whose count is below
`N` has a free seat, so the search never comes back empty. -/
theorem SeatInv.ready_cases {g : Globals N} {devices : DeviceTable} (inv : SeatInv g devices)
    (e : Nat) (d : HidDevice) :
    ((arduinoOnDeviceReady g e d).globals = g ∧ (arduinoOnDeviceReady g e d).device = d) ∨
    (d.controllerIdx = uniArduinoGamepadInvalid ∧ ∃ i,
      (g.controllers i).idx = uniArduinoGamepadInvalid ∧
      (arduinoOnDeviceReady g e d).globals = g.giveSeat i d ∧
      (arduinoOnDeviceReady g e d).device = d.seated i) := by
  rcases arduinoOnDeviceReady_cases g e d with
    ⟨-, ready⟩ | ⟨-, -, ready⟩ | ⟨-, unseated, i, first, ready⟩ | ⟨notFull, -, none, ready⟩ <;>
    rw [ready]
  · exact .inl ⟨rfl, rfl⟩
  · exact .inl ⟨rfl, rfl⟩
  · exact .inr ⟨unseated, i, (firstFreeSeat_eq_some.mp first).1, rfl, rfl⟩
  · exact absurd (inv.full (firstFreeSeat_eq_none.mp none)) notFull

theorem SeatInv.step (hN : N ≤ 127) {s s' : Sys N} {a : Action}
    (inv : SeatInv s.globals s.devices) (stepped : s.step a = some s') :
    SeatInv s'.globals s'.devices := by
  rcases Sys.step_cases stepped with ⟨e, d, -, free, rfl⟩ | ⟨e, d, -, idle, rfl⟩ |
    ⟨e, d, -, connected, rfl⟩ | ⟨e, ctl, d, -, -, rfl⟩ | ⟨e, d, -, connected, rfl⟩ |
    ⟨e, d, -, idle, rfl⟩ | ⟨acc, idx, -, ⟨-, rfl⟩ | ⟨i, -, rfl⟩⟩ | ⟨j, call, -, -, rfl⟩
  · -- create
    refine inv.set_idle (length_of_present free) (by simp [free]) fun d' found => ?_
    cases found
    simp [EntryOk]
  · -- connected
    refine inv.set_idle (length_of_present (idleAt_eq_some.mp idle).1) (idle_unseated idle)
      fun d' found => ?_
    cases found
    simp [EntryOk, arduinoOnDeviceConnected, HidDevice.controllerIdx]
  · -- ready
    obtain ⟨present, connected⟩ := connectedAt_eq_some.mp connected
    rcases inv.ready_cases e d with ⟨same, same'⟩ | ⟨unseated, i, free, given, given'⟩
    · rwa [same, same', set_self present]
    · rw [given, given']
      exact inv.give hN present connected unseated free
  · -- controllerData
    refine inv.congr_globals (fun i => ?_) (by simp)
    rw [arduinoOnControllerData_controllers]
    split <;> rfl
  · -- disconnected
    obtain ⟨present, connected⟩ := connectedAt_eq_some.mp connected
    rcases arduinoOnDeviceDisconnected_cases s.globals d with ⟨outside, out⟩ | ⟨i, seat, out⟩ <;>
      simp only [out]
    · have invalid := inv.invalid_of_outside present connected outside
      refine inv.set_idle (length_of_present present) (fun d' found _ => ?_) fun d' found => ?_
      · rw [present] at found
        cases found
        exact invalid
      · cases found
        exact ⟨invalid, by simp⟩
    · exact inv.release present connected (seatOf_eq_some.mp seat)
  · -- delete
    exact inv.set_idle (length_of_present (idleAt_eq_some.mp idle).1) (idle_unseated idle) (by simp)
  · -- call, refused
    exact inv
  · -- call, checked
    exact inv
  · -- finish
    exact inv.congr_globals (fun i => by rw [afterCheck_controllers]) (by simp)

/-- The invariant holds in every reachable state. -/
theorem Reachable.seatInv (hN : N ≤ 127) {s : Sys N} (reach : Reachable s) :
    SeatInv s.globals s.devices := by
  induction reach with
  | boot M => exact SeatInv.boot M
  | step _ stepped inv => exact inv.step hN stepped

/-! ## The seat table in every reachable state -/

/-- The seat table as the source's comments describe it: every seat is free or names
itself, `used_controllers_` counts the seats that name themselves (so it lies in `[0, N]`),
and every device past `on_device_connected` names no seat or a seat that names itself. -/
def SeatTableOk (s : Sys N) : Prop :=
  (∀ i : Fin N, (s.globals.controllers i).idx = uniArduinoGamepadInvalid ∨
      (s.globals.controllers i).idx = i) ∧
    s.globals.usedControllers =
      ((Finset.univ.filter fun i : Fin N => (s.globals.controllers i).idx = i).card : Int) ∧
    0 ≤ s.globals.usedControllers ∧ s.globals.usedControllers ≤ N ∧
    ∀ (e : Nat) (d : HidDevice), s.devices[e]? = some (some d) → d.phase ≠ .created →
      d.controllerIdx = uniArduinoGamepadInvalid ∨
        ∃ i : Fin N, d.controllerIdx = i ∧ (s.globals.controllers i).idx = i

theorem seat_table_consistent (hN : N ≤ 127) {s : Sys N} (reach : Reachable s) :
    SeatTableOk s := by
  have inv := reach.seatInv hN
  have count : (Finset.univ.filter fun i => s.globals.assigned i = true) =
      Finset.univ.filter fun i : Fin N => (s.globals.controllers i).idx = i :=
    Finset.filter_congr fun i _ => inv.assigned_iff i
  have bounded := Finset.card_filter_le Finset.univ fun i => s.globals.assigned i = true
  rw [Finset.card_univ, Fintype.card_fin] at bounded
  refine ⟨inv.seat_idx, count ▸ inv.used, by rw [inv.used]; omega, by rw [inv.used]; omega,
    fun e d present notCreated => ?_⟩
  have ok := inv.entry e d present
  unfold EntryOk at ok
  split at ok
  · contradiction
  · rcases ok with invalid | ⟨i, named, taken⟩
    · exact .inl invalid
    · exact .inr ⟨i, named, (inv.assigned_iff i).mp taken⟩
  · exact .inl ok

/-- The spec's run with four seats: four controllers take seats 0 to 3, a fifth is refused,
the third one leaves and a sixth one takes its seat. -/
def reuseRun : List Action :=
  [.create 0 (examplePad 0 true), .connected 0, .ready 0,
   .create 1 (examplePad 1 true), .connected 1, .ready 1,
   .create 2 (examplePad 2 true), .connected 2, .ready 2,
   .create 3 (examplePad 3 true), .connected 3, .ready 3,
   .create 4 (examplePad 4 true), .connected 4, .ready 4,
   .disconnected 2, .delete 2,
   .create 5 (examplePad 5 true), .connected 5, .ready 5]

theorem seat_table_after_reuse :
    (4 : Nat) ≤ 127 ∧ ∃ s : Sys 4, Reachable s ∧ SeatTableOk s ∧ Holds s.devices 5 (2 : Fin 4) := by
  obtain ⟨s, reach, -, reused⟩ := @Reachable.exists_of_run 4 (Sys.boot 4 6) reuseRun
    (fun s => decide (Holds s.devices 5 (2 : Fin 4))) (Reachable.boot 6) (by decide)
  exact ⟨by decide, s, reach, seat_table_consistent (by decide) reach, of_decide_eq_true reused⟩

/-- Each seat has at most one holder, and a seat is taken exactly when some connected
device holds it. -/
theorem seat_has_one_holder (hN : N ≤ 127) {s : Sys N} (reach : Reachable s) (i : Fin N) :
    (s.globals.assigned i = true ↔ ∃ e, Holds s.devices e i) ∧
      ∀ e e', Holds s.devices e i → Holds s.devices e' i → e = e' := by
  have inv := reach.seatInv hN
  exact ⟨⟨inv.held i, fun ⟨_, holds⟩ => inv.holds_assigned holds⟩, fun e e' => inv.unique e e' i⟩

theorem seat_has_one_holder_on_reuse :
    (4 : Nat) ≤ 127 ∧ ∃ s : Sys 4, Reachable s ∧
      (s.globals.assigned 2 = true ↔ ∃ e, Holds s.devices e (2 : Fin 4)) ∧
      ∀ e e', Holds s.devices e (2 : Fin 4) → Holds s.devices e' (2 : Fin 4) → e = e' := by
  obtain ⟨s, reach, -, -⟩ := @Reachable.exists_of_run 4 (Sys.boot 4 6) reuseRun
    (fun _ => true) (Reachable.boot 6) (by decide)
  exact ⟨by decide, s, reach, seat_has_one_holder (by decide) reach 2⟩

/-- The count is `N` exactly when every seat is taken. -/
theorem SeatInv.full_iff {g : Globals N} {devices : DeviceTable} (inv : SeatInv g devices) :
    g.usedControllers = N ↔ ∀ i, g.assigned i = true := by
  constructor
  · intro full i
    have card : (Finset.univ.filter fun i => g.assigned i = true).card = Fintype.card (Fin N) := by
      rw [Fintype.card_fin]
      have := inv.used
      omega
    have member : i ∈ Finset.univ.filter fun i => g.assigned i = true :=
      (Finset.eq_univ_of_card _ card).symm ▸ Finset.mem_univ i
    simpa using member
  · intro allTaken
    exact inv.full fun i => by simpa [Globals.assigned] using allTaken i

/-- What `arduino_on_device_ready` does to device `d`, entry `e`, in globals `g`. It
refuses with `NO_SLOTS`, changing nothing, exactly when every seat is taken. Otherwise a
device that already has a seat is refused with `INVALID_CONTROLLER`, changing nothing, and
any other device gets the free seat of smallest index, and only that seat changes: it names
itself, the device names it, the count goes up by one, the player LEDs are set to the seat's
number plus one when the parser can, and the result is success. Success always leaves the
device with a seat. -/
def ReadyContract (g : Globals N) (e : Nat) (d : HidDevice) : Prop :=
  let o := arduinoOnDeviceReady g e d
  ((o.result = .noSlots ∧ o.globals = g ∧ o.device = d ∧ o.calls = []) ↔
      ∀ i, g.assigned i = true) ∧
    ((∃ i, g.assigned i = false) → (∃ i : Fin N, d.controllerIdx = i) →
      o.result = .invalidController ∧ o.globals = g ∧ o.device = d ∧ o.calls = []) ∧
    ((∃ i, g.assigned i = false) → (¬∃ i : Fin N, d.controllerIdx = i) →
      ∃ i : Fin N, g.assigned i = false ∧ (∀ j, j < i → g.assigned j = true) ∧
        (o.globals.controllers i).idx = i ∧ o.device.controllerIdx = i ∧
        o.globals.usedControllers = g.usedControllers + 1 ∧
        (∀ j, j ≠ i → o.globals.controllers j = g.controllers j) ∧
        o.calls = (if d.reportParser.setPlayerLeds then
          [.setPlayerLeds e (intToUInt8 ((i : Int) + 1))] else []) ∧
        o.result = .success) ∧
    (o.result = .success → ∃ i : Fin N, o.device.controllerIdx = i)

theorem arduinoOnDeviceReady_spec (hN : N ≤ 127) {s : Sys N} (reach : Reachable s) {e : Nat}
    {d : HidDevice} (present : s.devices[e]? = some (some d)) (connected : d.phase = .connected) :
    ReadyContract s.globals e d := by
  have inv := reach.seatInv hN
  set g := s.globals
  unfold ReadyContract
  intro o
  have seatOrNone : d.controllerIdx = uniArduinoGamepadInvalid ↔ ¬∃ i : Fin N, d.controllerIdx = i := by
    rcases inv.connected_seat present connected with invalid | ⟨i, named, -⟩
    · simp only [invalid, true_iff, not_exists]
      exact fun i equal => seat_ne_invalid i equal.symm
    · simp only [named, seat_ne_invalid, false_iff, not_not]
      exact ⟨i, rfl⟩
  have notAll : (¬∀ i, g.assigned i = true) ↔ ∃ i, g.assigned i = false := by simp
  rcases arduinoOnDeviceReady_cases g e d with
    ⟨full, ready⟩ | ⟨notFull, seated, ready⟩ | ⟨notFull, unseated, i, first, ready⟩ |
      ⟨notFull, -, none, ready⟩ <;> simp only [o, ready]
  · have allTaken := inv.full_iff.mp full
    have noneFree : ¬∃ i, g.assigned i = false := by simp [allTaken]
    exact ⟨by simp [allTaken], fun someFree => absurd someFree noneFree,
      fun someFree => absurd someFree noneFree, by simp⟩
  · have someFree := notAll.mp (mt inv.full_iff.mpr notFull)
    have holding : ∃ i : Fin N, d.controllerIdx = i := not_not.mp ((not_congr seatOrNone).mp seated)
    exact ⟨by simpa using someFree, by simp, fun _ notHolding => absurd holding notHolding,
      by simp⟩
  · have ⟨free, before⟩ := firstFreeSeat_eq_some.mp first
    have freeSeat : g.assigned i = false := by simp [Globals.assigned, free]
    have named := seated_controllerIdx hN d i
    refine ⟨by simpa using ⟨i, freeSeat⟩, fun _ holding => absurd unseated
      (seatOrNone.not.mpr (not_not.mpr holding)), fun _ _ => ⟨i, freeSeat, fun j lt => ?_, ?_,
      named, by simp [Globals.giveSeat], fun j other => ?_, by rw [named, playerLedsCall], by simp⟩,
      fun _ => ⟨i, named⟩⟩
    · simpa [Globals.assigned] using before j lt
    · simp [Globals.giveSeat, takeSeat]
    · simp [Globals.giveSeat, Function.update_apply, other]
  · exact absurd (inv.full (firstFreeSeat_eq_none.mp none)) notFull

theorem arduinoOnDeviceReady_spec_on_reuse :
    (4 : Nat) ≤ 127 ∧ ∃ s : Sys 4, Reachable s ∧ ∃ d, s.devices[5]? = some (some d) ∧
      d.phase = .connected ∧ ReadyContract s.globals 5 d := by
  obtain ⟨s, reach, -, waiting⟩ := @Reachable.exists_of_run 4 (Sys.boot 4 6) reuseRun.dropLast
    (fun s => (connectedAt s.devices 5).isSome) (Reachable.boot 6) (by decide)
  obtain ⟨d, found⟩ := Option.isSome_iff_exists.mp waiting
  obtain ⟨present, connected⟩ := connectedAt_eq_some.mp found
  exact ⟨by decide, s, reach, d, present, connected,
    arduinoOnDeviceReady_spec (by decide) reach present connected⟩

end Bluepad32Arduino
