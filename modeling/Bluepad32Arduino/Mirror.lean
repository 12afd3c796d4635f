import Bluepad32Arduino.SlotTable

/-!
# The state mirror

Each seat of `controllers_` mirrors its holder: the properties `arduino_on_device_ready`
recorded, and the last report with its dirty flag `data_updated`. The reports are a
one-frame mailbox: a report of the holder replaces the frame, and a read of either getter
takes it out.

The mailbox is not a variable of the source; `nextMailbox` keeps it beside the system, as the
spec describes it, and `MailInv` ties it to `data` and `data_updated`: the flag is up exactly
when the mailbox holds a frame, and `data` is that frame.

`PropsInv` ties the properties to the holders: a seat a device names holds what
`arduino_on_device_ready` recorded for that device, and a free seat holds zeroes.

Results:
1. `read_takes_holders_latest_frame`: the locked copy of `arduino_get_controller_data` and
   `arduino_get_gamepad_data` succeeds exactly when the seat's holder wrote a frame since it
   took the seat and since the seat was last read, hands out the last such frame, and clears
   the flag. So a report is read once, and the next read finds nothing (`report_read_once`).
2. `properties_copy_current_seat`: the locked copy of `arduino_get_controller_properties`
   always succeeds, with the holder's identity or, for a seat freed since the check, zeroes.
   `properties_of_released_seat_acknowledged`: the zeroes are handed out as a success.

The steps of CPU 1 change no seat's number or properties (`application_steps_keep_seats`).
-/

namespace Bluepad32Arduino

variable {N : Nat}

/-! ## The getters of a frame -/

/-- The getters that read a seat's frame; the two share the seat's dirty flag. -/
def Accessor.readsData : Accessor → Bool
  | .getGamepadData | .getControllerData => true
  | _ => false

/-- What a getter hands out of a frame: all of it, or its gamepad part. -/
def Accessor.frameOut : Accessor → UniController → OutData
  | .getGamepadData, ctl => .gamepad ctl.gamepad
  | _, ctl => .controller ctl

/-- The locked copy of a getter: with the flag up, the frame goes out, the flag goes down and
the result is success; otherwise nothing goes out and the result is `NO_DATA`. -/
theorem afterCheck_read (g : Globals N) (i : Fin N) {a : Accessor} (reads : a.readsData = true) :
    (a.afterCheck g i).result =
        (if (g.controllers i).dataUpdated then .success else .noData) ∧
      (a.afterCheck g i).out =
        (if (g.controllers i).dataUpdated then some (a.frameOut (g.controllers i).data) else none) := by
  cases a <;> simp only [Accessor.readsData, reduceCtorEq] at reads <;>
    simp only [Accessor.afterCheck, copyUpdatedData] <;> split <;> simp_all [Accessor.frameOut]

/-- The rest of an accessor lowers the flag of the seat it checked when it reads a frame,
and leaves every other flag as it was. -/
theorem afterCheck_dataUpdated (g : Globals N) (i j : Fin N) (a : Accessor) :
    ((a.afterCheck g i).globals.controllers j).dataUpdated =
      (!(a.readsData && decide (j = i)) && (g.controllers j).dataUpdated) := by
  cases a <;> simp [Accessor.afterCheck, Accessor.readsData, copyUpdatedData_controllers,
    sendRequest, apply_ite]

/-! ## The mailbox -/

/-- The mailbox after step `a` took `s` to `s'`: for each seat, the last frame its holder
wrote since it took the seat and since the seat was last read. A device that takes the seat
or a holder that leaves empties it, a report of the holder replaces its frame, and a read of
either getter takes the frame out. -/
def nextMailbox (s s' : Sys N) (a : Action) (m : Fin N → Option UniController) (i : Fin N) :
    Option UniController :=
  match a with
  | .ready e => if Holds s'.devices e i ∧ ¬Holds s.devices e i then none else m i
  | .disconnected e => if Holds s.devices e i then none else m i
  | .controllerData e ctl => if Holds s.devices e i then some ctl else m i
  | .finish j =>
    match s.inflight[j]? with
    | some (a, k) => if a.readsData = true ∧ k = i then none else m i
    | none => m i
  | _ => m i

/-- The runs of the system, with the mailbox kept beside them. -/
inductive MailReach : Sys N → (Fin N → Option UniController) → Prop
  | boot (M : Nat) : MailReach (Sys.boot N M) fun _ => none
  | step {s s' : Sys N} {m : Fin N → Option UniController} {a : Action} :
      MailReach s m → s.step a = some s' → MailReach s' (nextMailbox s s' a m)

theorem MailReach.reachable {s : Sys N} {m : Fin N → Option UniController}
    (run : MailReach s m) : Reachable s := by
  induction run with
  | boot M => exact .boot M
  | step _ stepped reach => exact reach.step stepped

/-- Every reachable state has its mailbox. -/
theorem Reachable.mailReach {s : Sys N} (reach : Reachable s) :
    ∃ m, MailReach s m := by
  induction reach with
  | boot M => exact ⟨_, .boot M⟩
  | step _ stepped ih =>
    obtain ⟨m, run⟩ := ih
    exact ⟨_, run.step stepped⟩

/-! ## The mirror agrees with the mailbox -/

/-- The dirty flag is up exactly when the mailbox holds a frame, `data` is that frame, and
only a taken seat holds one. -/
structure MailInv (g : Globals N) (m : Fin N → Option UniController) : Prop where
  flag : ∀ i, (g.controllers i).dataUpdated = (m i).isSome
  data : ∀ i v, m i = some v → (g.controllers i).data = v
  taken : ∀ i, (m i).isSome → g.assigned i = true

/-- A connected entry holds the seat its platform data names. -/
theorem holds_iff_seatOf {devices : DeviceTable} {e : Nat} {d : HidDevice} {i : Fin N}
    (connected : connectedAt devices e = some d) :
    Holds devices e i ↔ seatOf N d.controllerIdx = some i := by
  rw [holds_iff_connectedAt, connected, seatOf_eq_some]
  simp

/-- A step that changes no seat and no frame keeps the invariant. -/
theorem MailInv.same {g g' : Globals N} {m : Fin N → Option UniController} (inv : MailInv g m)
    (controllers : g'.controllers = g.controllers) : MailInv g' m :=
  ⟨controllers ▸ inv.flag, controllers ▸ inv.data,
    fun i full => by simpa [Globals.assigned, controllers] using inv.taken i full⟩

theorem afterCheck_data (g : Globals N) (i j : Fin N) (a : Accessor) :
    ((a.afterCheck g i).globals.controllers j).data = (g.controllers j).data := by
  rw [afterCheck_controllers]

theorem afterCheck_assigned (g : Globals N) (i j : Fin N) (a : Accessor) :
    (a.afterCheck g i).globals.assigned j = g.assigned j := by
  simp only [Globals.assigned]
  rw [afterCheck_controllers]

theorem arduinoOnControllerData_assigned (g : Globals N) (devices : DeviceTable) (d : HidDevice)
    (ctl : UniController) (i : Fin N) :
    (arduinoOnControllerData g devices d ctl).1.assigned i = g.assigned i := by
  simp only [Globals.assigned, arduinoOnControllerData_controllers]
  split <;> rfl

/-- Every step keeps the mirror in agreement with the mailbox. -/
theorem MailInv.step (hN : N ≤ 127) {s s' : Sys N} {m : Fin N → Option UniController}
    {a : Action} (seats : SeatInv s.globals s.devices) (inv : MailInv s.globals m)
    (stepped : s.step a = some s') : MailInv s'.globals (nextMailbox s s' a m) := by
  rcases Sys.step_cases stepped with ⟨e, d, rfl, -, rfl⟩ | ⟨e, d, rfl, -, rfl⟩ |
    ⟨e, d, rfl, connected, rfl⟩ | ⟨e, ctl, d, rfl, connected, rfl⟩ |
    ⟨e, d, rfl, connected, rfl⟩ | ⟨e, d, rfl, -, rfl⟩ | ⟨acc, idx, rfl, ⟨-, rfl⟩ | ⟨i, -, rfl⟩⟩ |
    ⟨j, ⟨a, k⟩, rfl, found, rfl⟩
  · -- create
    exact inv
  · -- connected
    exact inv
  · -- ready
    obtain ⟨present, connected⟩ := connectedAt_eq_some.mp connected
    rcases seats.ready_cases e d with ⟨same, same'⟩ | ⟨unseated, i, free, given, given'⟩
    · rw [same, same', set_self present]
      convert inv using 1
      funext i
      simp [nextMailbox]
    · simp only [given, given']
      have empty : (m i).isSome = false :=
        Bool.eq_false_iff.mpr fun full => by simpa [Globals.assigned, free] using inv.taken i full
      refine ⟨fun j => ?_, fun j v => ?_, fun j => ?_⟩ <;>
        simp only [nextMailbox, holds_give hN present connected, not_holds_of_unseated present unseated,
          true_and, ne_eq, not_true_eq_false, false_and, or_false, not_false_eq_true, and_true] <;>
        by_cases same : j = i <;> simp only [same, ite_true, ite_false]
      · subst same
        simp [Globals.giveSeat, takeSeat, inv.flag, empty]
      · simp [Globals.giveSeat, Function.update_apply, same, inv.flag]
      · simp
      · simpa [Globals.giveSeat, Function.update_apply, same] using inv.data j v
      · simp
      · exact fun full => by simp [giveSeat_assigned, inv.taken j full]
  · -- controllerData
    refine ⟨fun i => ?_, fun i v => ?_, fun i => ?_⟩ <;>
      simp only [nextMailbox, arduinoOnControllerData_controllers, arduinoOnControllerData_assigned,
        holds_iff_seatOf connected] <;>
      by_cases seat : seatOf N d.controllerIdx = some i <;> simp only [seat, ite_true, ite_false]
    · rfl
    · exact inv.flag i
    · rintro ⟨⟩
      rfl
    · exact inv.data i v
    · exact fun _ => seats.holds_assigned ((holds_iff_seatOf connected).mpr seat)
    · exact inv.taken i
  · -- disconnected
    rcases arduinoOnDeviceDisconnected_cases s.globals d with ⟨outside, out⟩ | ⟨i, seat, out⟩ <;>
      simp only [out]
    · convert inv using 1
      funext i
      simp [nextMailbox, holds_iff_seatOf connected, outside]
    · refine ⟨fun j => ?_, fun j v => ?_, fun j => ?_⟩ <;>
        simp only [nextMailbox, holds_iff_seatOf connected, seat, Option.some.injEq] <;>
        by_cases same : i = j <;> simp only [same, ite_true, ite_false]
      · simp [Globals.releaseSeat]
      · simp [Globals.releaseSeat, Function.update_apply, Ne.symm same, inv.flag]
      · simp
      · simpa [Globals.releaseSeat, Function.update_apply, Ne.symm same] using inv.data j v
      · simp
      · simpa [releaseSeat_assigned, Ne.symm same] using inv.taken j
  · -- delete
    exact inv
  · -- call, refused
    exact inv
  · -- call, checked
    exact inv
  · -- finish
    refine ⟨fun i => ?_, fun i v => ?_, fun i => ?_⟩ <;>
      simp only [nextMailbox, found, afterCheck_dataUpdated, afterCheck_data, afterCheck_assigned] <;>
      by_cases hit : a.readsData = true ∧ k = i
    · obtain ⟨reads, rfl⟩ := hit
      simp [reads]
    · have miss : (a.readsData && decide (i = k)) = false := by
        cases reads : a.readsData
        · rfl
        · simpa [reads, eq_comm] using hit
      simp [hit, miss, inv.flag i]
    · simp [hit]
    · simpa only [hit, ite_false] using inv.data i v
    · simp [hit]
    · simpa only [hit, ite_false] using inv.taken i

/-- The mirror agrees with the mailbox in every state of every run. -/
theorem MailReach.mailInv (hN : N ≤ 127) {s : Sys N} {m : Fin N → Option UniController}
    (run : MailReach s m) : MailInv s.globals m := by
  induction run with
  | boot M => exact ⟨fun _ => rfl, fun _ _ empty => (nomatch empty), fun _ empty => (nomatch empty)⟩
  | step before stepped inv => exact inv.step hN (before.reachable.seatInv hN) stepped

/-! ## Reads -/

/-- The locked copy of `arduino_get_controller_data` or `arduino_get_gamepad_data` on seat
`i`, in any state of any run: it succeeds exactly when a device holds the seat and the
mailbox holds a frame, that is, when the holder wrote the seat since it took it and since the
seat was last read; it hands out the last frame so written (or its gamepad part), and leaves
the seat's flag down. -/
theorem read_takes_holders_latest_frame (hN : N ≤ 127) {s : Sys N}
    {m : Fin N → Option UniController} (run : MailReach s m) (i : Fin N) {a : Accessor}
    (reads : a.readsData = true) :
    ((a.afterCheck s.globals i).result = .success ↔ (∃ e, Holds s.devices e i) ∧ (m i).isSome) ∧
      (a.afterCheck s.globals i).out = (m i).map a.frameOut ∧
      ((a.afterCheck s.globals i).globals.controllers i).dataUpdated = false := by
  have inv := run.mailInv hN
  obtain ⟨result, out⟩ := afterCheck_read s.globals i reads
  refine ⟨?_, ?_, by simp [afterCheck_dataUpdated, reads]⟩
  · rw [result, inv.flag i]
    constructor
    · intro success
      have full : (m i).isSome := by
        cases full : (m i).isSome
        · simp [full] at success
        · rfl
      exact ⟨(run.reachable.seatInv hN).held i (inv.taken i full), full⟩
    · rintro ⟨-, full⟩
      simp [full]
  · rw [out, inv.flag i]
    cases found : m i with
    | none => rfl
    | some v => simp [inv.data i v found]

theorem read_takes_holders_latest_frame_after_report :
    (1 : Nat) ≤ 127 ∧ Accessor.getControllerData.readsData = true ∧
      ∃ (s : Sys 1) (m : Fin 1 → Option UniController), MailReach s m ∧
        (Accessor.getControllerData.afterCheck s.globals 0).result = .success ∧
        (((Accessor.getControllerData.afterCheck s.globals 0).result = .success ↔
            (∃ e, Holds s.devices e (0 : Fin 1)) ∧ (m 0).isSome) ∧
          (Accessor.getControllerData.afterCheck s.globals 0).out =
            (m 0).map Accessor.getControllerData.frameOut ∧
          ((Accessor.getControllerData.afterCheck s.globals 0).globals.controllers 0).dataUpdated =
            false) := by
  obtain ⟨s, reach, -, success⟩ := @Reachable.exists_of_run 1 (Sys.boot 1 1)
    [.create 0 (examplePad 0 true), .connected 0, .ready 0, .controllerData 0 ⟨7, 8⟩]
    (fun s => decide ((Accessor.getControllerData.afterCheck s.globals 0).result = .success))
    (Reachable.boot 1) (by decide)
  obtain ⟨m, run⟩ := reach.mailReach
  exact ⟨by decide, rfl, s, m, run, of_decide_eq_true success,
    read_takes_holders_latest_frame (by decide) run 0 rfl⟩

/-- The spec's publish and consume: right after a report of seat `i`'s holder, a read of
either getter hands out the report, and a second read, by either getter, finds nothing. -/
theorem report_read_once {s s' : Sys N} {e : Nat} {i : Fin N} (holds : Holds s.devices e i)
    {ctl : UniController} (stepped : s.step (.controllerData e ctl) = some s') {a b : Accessor}
    (reads : a.readsData = true) (reads' : b.readsData = true) :
    (a.afterCheck s'.globals i).result = .success ∧
      (a.afterCheck s'.globals i).out = some (a.frameOut ctl) ∧
      (b.afterCheck (a.afterCheck s'.globals i).globals i).result = .noData := by
  simp only [Sys.step, Option.map_eq_some'] at stepped
  obtain ⟨d, connected, rfl⟩ := stepped
  have written : (arduinoOnControllerData s.globals s.devices d ctl).1.controllers i =
      { s.globals.controllers i with data := ctl, dataUpdated := true } := by
    rw [arduinoOnControllerData_controllers, if_pos ((holds_iff_seatOf connected).mp holds)]
  obtain ⟨result, out⟩ := afterCheck_read (arduinoOnControllerData s.globals s.devices d ctl).1 i reads
  refine ⟨by rw [result, written]; rfl, by rw [out, written]; rfl, ?_⟩
  rw [(afterCheck_read _ i reads').1, afterCheck_dataUpdated]
  simp [reads]

/-! ## Properties -/

/-- Every seat a connected device names holds the properties `arduino_on_device_ready`
recorded for that device, and a free seat holds zeroed properties. -/
structure PropsInv (g : Globals N) (devices : DeviceTable) : Prop where
  held : ∀ (e : Nat) (d : HidDevice) (i : Fin N), devices[e]? = some (some d) →
    d.phase = .connected → d.controllerIdx = i → (g.controllers i).properties = readyProperties d
  free : ∀ i, g.assigned i = false → (g.controllers i).properties = .zero

/-- Only the seats' properties and which seats are taken matter to the invariant. -/
theorem PropsInv.congr_globals {g g' : Globals N} {devices : DeviceTable} (inv : PropsInv g devices)
    (props : ∀ i, (g'.controllers i).properties = (g.controllers i).properties)
    (assigned : ∀ i, g'.assigned i = g.assigned i) : PropsInv g' devices :=
  ⟨fun e d i present connected named => (props i).trans (inv.held e d i present connected named),
    fun i free => (props i).trans (inv.free i ((assigned i).symm.trans free))⟩

/-- Setting an entry to one that names no seat while connected keeps the invariant. -/
theorem PropsInv.set_unseated {g : Globals N} {devices : DeviceTable} {e : Nat}
    {x : Option HidDevice} (inv : PropsInv g devices) (present : e < devices.length)
    (unseated : ∀ d, x = some d → d.phase = .connected → ∀ i : Fin N, d.controllerIdx ≠ i) :
    PropsInv g (devices.set e x) := by
  refine ⟨fun e' d i found connected named => ?_, inv.free⟩
  rw [getElem?_set_entry present] at found
  split at found
  · exact absurd named (unseated d (by simpa using found) connected i)
  · exact inv.held e' d i found connected named

theorem PropsInv.boot (M : Nat) : PropsInv (Globals.boot N) (List.replicate M none) :=
  ⟨fun e d _ present => by simp [List.getElem?_replicate] at present, fun _ _ => rfl⟩

/-- Every step keeps the properties in agreement with the holders. -/
theorem PropsInv.step (hN : N ≤ 127) {s s' : Sys N} {a : Action}
    (seats : SeatInv s.globals s.devices) (inv : PropsInv s.globals s.devices)
    (stepped : s.step a = some s') : PropsInv s'.globals s'.devices := by
  rcases Sys.step_cases stepped with ⟨e, d, -, free, rfl⟩ | ⟨e, d, -, idle, rfl⟩ |
    ⟨e, d, -, connected, rfl⟩ | ⟨e, ctl, d, -, -, rfl⟩ | ⟨e, d, -, connected, rfl⟩ |
    ⟨e, d, -, idle, rfl⟩ | ⟨acc, idx, -, ⟨-, rfl⟩ | ⟨i, -, rfl⟩⟩ | ⟨j, call, -, -, rfl⟩
  · -- create
    refine inv.set_unseated (length_of_present free) fun d' found connected => ?_
    cases found
    cases connected
  · -- connected
    refine inv.set_unseated (length_of_present (idleAt_eq_some.mp idle).1) fun d' found _ i named => ?_
    cases found
    simp [arduinoOnDeviceConnected, HidDevice.controllerIdx] at named
    exact seat_ne_invalid i named.symm
  · -- ready
    obtain ⟨present, connected⟩ := connectedAt_eq_some.mp connected
    rcases seats.ready_cases e d with ⟨same, same'⟩ | ⟨-, i, free, given, given'⟩
    · rwa [same, same', set_self present]
    · rw [given, given']
      refine ⟨fun e' d' j found connected' named => ?_, fun j free' => ?_⟩
      · rw [getElem?_set_entry (length_of_present present)] at found
        split at found
        · cases found
          rw [seated_controllerIdx hN, Int.ofNat_inj, Fin.val_inj] at named
          subst named
          simp [Globals.giveSeat, takeSeat, readyProperties, HidDevice.seated]
        · have other : j ≠ i := by
            rintro rfl
            have taken := seats.holds_assigned ⟨d', found, connected', named⟩
            simp [Globals.assigned, free] at taken
          simpa [Globals.giveSeat, Function.update_apply, other]
            using inv.held e' d' j found connected' named
      · have other : j ≠ i := by
          rintro rfl
          simp [giveSeat_assigned] at free'
        have wasFree : s.globals.assigned j = false := by simpa [giveSeat_assigned, other] using free'
        simpa [Globals.giveSeat, Function.update_apply, other] using inv.free j wasFree
  · -- controllerData
    refine inv.congr_globals (fun i => ?_) (arduinoOnControllerData_assigned _ _ _ _)
    rw [arduinoOnControllerData_controllers]
    split <;> rfl
  · -- disconnected
    obtain ⟨present, connected⟩ := connectedAt_eq_some.mp connected
    rcases arduinoOnDeviceDisconnected_cases s.globals d with ⟨-, out⟩ | ⟨i, seat, out⟩ <;>
      simp only [out]
    · exact inv.set_unseated (length_of_present present) fun d' found connected' => by
        cases found
        cases connected'
    · have mine : Holds s.devices e i := ⟨d, present, connected, seatOf_eq_some.mp seat⟩
      refine ⟨fun e' d' j found connected' named => ?_, fun j free' => ?_⟩
      · rw [getElem?_set_entry (length_of_present present)] at found
        split at found
        · cases found
          cases connected'
        · next other =>
          have differs : j ≠ i := by
            rintro rfl
            exact other (seats.unique e e' j mine ⟨d', found, connected', named⟩)
          simpa [Globals.releaseSeat, Function.update_apply, differs]
            using inv.held e' d' j found connected' named
      · by_cases same : j = i
        · subst same
          simp [Globals.releaseSeat]
        · have wasFree : s.globals.assigned j = false := by
            simpa [releaseSeat_assigned, same] using free'
          simpa [Globals.releaseSeat, Function.update_apply, same] using inv.free j wasFree
  · -- delete
    exact inv.set_unseated (length_of_present (idleAt_eq_some.mp idle).1) (by simp)
  · -- call, refused
    exact inv
  · -- call, checked
    exact inv
  · -- finish
    exact inv.congr_globals (fun i => by rw [afterCheck_controllers]) fun i => afterCheck_assigned _ _ i _

theorem Reachable.propsInv (hN : N ≤ 127) {s : Sys N} (reach : Reachable s) :
    PropsInv s.globals s.devices := by
  induction reach with
  | boot M => exact PropsInv.boot M
  | step before stepped inv => exact inv.step hN (before.seatInv hN) stepped

/-- The fields of `d`'s identity that `arduino_on_device_ready` records as they are: the
address, the type, the vendor and product ids, and one capability flag per output the
parser provides. -/
def IdentityOf (props : ArduinoControllerProperties) (d : HidDevice) : Prop :=
  props.btaddr = d.btaddr ∧ props.type = d.controllerType ∧ props.vendorId = d.vendorId ∧
    props.productId = d.productId ∧
    props.flags = ⟨d.reportParser.setPlayerLeds, d.reportParser.playDualRumble,
      d.reportParser.setLightbarColor⟩

/-- The locked copy of `arduino_get_controller_properties` on seat `i`, in any reachable
state: it succeeds and hands out the seat's properties as they are then, which are the
identity of the device holding the seat, or zeroed properties when the seat is free, as it is
when its holder left after the check. -/
theorem properties_copy_current_seat (hN : N ≤ 127) {s : Sys N} (reach : Reachable s)
    (i : Fin N) :
    (Accessor.getControllerProperties.afterCheck s.globals i).result = .success ∧
      ∃ props, (Accessor.getControllerProperties.afterCheck s.globals i).out =
          some (.properties props) ∧
        ((s.globals.assigned i = true ∧ ∃ (e : Nat) (d : HidDevice), s.devices[e]? = some (some d) ∧
            d.phase = .connected ∧ d.controllerIdx = i ∧ IdentityOf props d) ∨
          (s.globals.assigned i = false ∧ props = .zero)) := by
  have props := reach.propsInv hN
  refine ⟨rfl, _, rfl, ?_⟩
  cases taken : s.globals.assigned i
  · exact .inr ⟨rfl, props.free i taken⟩
  · obtain ⟨e, d, present, connected, named⟩ := (reach.seatInv hN).held i taken
    refine .inl ⟨rfl, e, d, present, connected, named, ?_⟩
    rw [props.held e d i present connected named]
    exact ⟨rfl, rfl, rfl, rfl, rfl⟩

theorem properties_copy_current_seat_on_reuse :
    (4 : Nat) ≤ 127 ∧ ∃ s : Sys 4, Reachable s ∧ s.globals.assigned 2 = true ∧
      (Accessor.getControllerProperties.afterCheck s.globals 2).result = .success ∧
      ∃ props, (Accessor.getControllerProperties.afterCheck s.globals 2).out =
          some (.properties props) ∧
        ((s.globals.assigned 2 = true ∧ ∃ (e : Nat) (d : HidDevice), s.devices[e]? = some (some d) ∧
            d.phase = .connected ∧ d.controllerIdx = (2 : Fin 4) ∧ IdentityOf props d) ∨
          (s.globals.assigned 2 = false ∧ props = .zero)) := by
  obtain ⟨s, reach, -, taken⟩ := @Reachable.exists_of_run 4 (Sys.boot 4 6) reuseRun
    (fun s => s.globals.assigned 2) (Reachable.boot 6) (by decide)
  exact ⟨by decide, s, reach, taken, properties_copy_current_seat (by decide) reach 2⟩

/-- The sketch asks for the properties of seat 0, and the seat's holder leaves between the
check and the locked copy: the copy succeeds with zeroed properties, which are no holder's
identity. -/
theorem properties_of_released_seat_acknowledged :
    ∃ s₀ s : Sys 1, Reachable s₀ ∧ Holds s₀.devices 0 (0 : Fin 1) ∧
      (s₀.globals.controllers 0).properties ≠ .zero ∧
      s₀.run [.call .getControllerProperties 0, .disconnected 0] = some s ∧
      s.inflight = [(.getControllerProperties, (0 : Fin 1))] ∧
      (Accessor.getControllerProperties.afterCheck s.globals 0).result = .success ∧
      (Accessor.getControllerProperties.afterCheck s.globals 0).out = some (.properties .zero) := by
  obtain ⟨s₀, reach, -, checked⟩ := @Reachable.exists_of_run 1 (Sys.boot 1 1)
    [.create 0 (examplePad 0 true), .connected 0, .ready 0]
    (fun s₀ => decide (Holds s₀.devices 0 (0 : Fin 1)) &&
      decide ((s₀.globals.controllers 0).properties ≠ .zero) &&
      (s₀.run [.call .getControllerProperties 0, .disconnected 0]).any fun (s : Sys 1) =>
        decide (s.inflight = [(.getControllerProperties, (0 : Fin 1))]) &&
        decide ((Accessor.getControllerProperties.afterCheck s.globals 0).out =
          some (.properties .zero)))
    (Reachable.boot 1) (by decide)
  simp only [Bool.and_eq_true, decide_eq_true_eq] at checked
  obtain ⟨⟨holds, recorded⟩, later⟩ := checked
  obtain ⟨s, ran, raced⟩ := exists_of_any later
  simp only [Bool.and_eq_true, decide_eq_true_eq] at raced
  exact ⟨s₀, s, reach, holds, recorded, ran, raced.1, rfl, raced.2⟩

/-- The steps of CPU 1, the check of an accessor and the rest of it, leave the device table,
the count of seats in use, and every seat's number and properties as they are: only the
callbacks of CPU 0 change them. -/
theorem application_steps_keep_seats {s s' : Sys N} {a : Action}
    (application : (∃ (acc : Accessor) (idx : Int), a = .call acc idx) ∨ ∃ j, a = .finish j)
    (stepped : s.step a = some s') :
    s'.devices = s.devices ∧ s'.globals.usedControllers = s.globals.usedControllers ∧
      ∀ i, (s'.globals.controllers i).idx = (s.globals.controllers i).idx ∧
        (s'.globals.controllers i).properties = (s.globals.controllers i).properties := by
  rcases application with ⟨acc, idx, rfl⟩ | ⟨j, rfl⟩
  · simp only [Sys.step, Option.some.injEq] at stepped
    subst stepped
    split <;> simp
  · simp only [Sys.step, Option.map_eq_some'] at stepped
    obtain ⟨call, -, rfl⟩ := stepped
    refine ⟨rfl, afterCheck_usedControllers _ _ _, fun i => ?_⟩
    rw [afterCheck_controllers]
    exact ⟨rfl, rfl⟩

end Bluepad32Arduino
