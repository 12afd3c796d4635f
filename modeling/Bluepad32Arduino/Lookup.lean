import Bluepad32Arduino.SlotTable

/-!
# From a seat back to its device

`process_pending_requests` and `arduino_get_internal_hid_device` find the device of a seat by
searching Bluepad32's table for the first entry whose platform data names the seat
(`predicate_arduino_index`). The predicate reads `controller_idx` whatever the entry's phase.
An entry Bluepad32 has created but not yet passed to `arduino_on_device_connected` has zeroed
platform data, so it names seat 0, although `arduino_instance_t` documents -1 as "not
assigned yet".

Results:
1. `lookup_finds_holder`: in a reachable state the search for seat `i` finds the device
   that holds `i`, and nothing when `i` is free, as long as `i` is not seat 0 or no entry of
   the table is waiting for `on_device_connected`.
2. `lookup_matches_unconnected_entry`: a created entry ahead of seat 0's holder is what the
   search for seat 0 finds, so the requests for seat 0 go to it.
-/

namespace Bluepad32Arduino

variable {N : Nat}

/-- An entry the search for seat `i` accepts holds `i`, unless it is a created entry and `i`
is seat 0. -/
theorem SeatInv.matches_holds {g : Globals N} {devices : DeviceTable} (inv : SeatInv g devices)
    {e : Nat} {d : HidDevice} {i : Fin N} (present : devices[e]? = some (some d))
    (accepted : predicateArduinoIndex d i = true) :
    Holds devices e i ∨ (d.phase = .created ∧ (i : Nat) = 0) := by
  simp only [predicateArduinoIndex, beq_iff_eq] at accepted
  have ok := inv.entry e d present
  unfold EntryOk at ok
  split at ok
  · next created => exact .inr ⟨created, by omega⟩
  · next connected => exact .inl ⟨d, present, connected, accepted⟩
  · exact absurd (accepted.symm.trans ok) (seat_ne_invalid i)

/-- The search for seat `i` in a reachable state, when seat `i` is not seat 0 or no entry is
waiting for `on_device_connected`: it finds entry `e` exactly when `e` holds the seat, and
nothing exactly when the seat is free. -/
theorem lookup_finds_holder (hN : N ≤ 127) {s : Sys N} (reach : Reachable s) (i : Fin N)
    (noStray : (i : Nat) ≠ 0 ∨
      ∀ (e : Nat) (d : HidDevice), s.devices[e]? = some (some d) → d.phase ≠ .created) :
    (∀ e, (∃ d, uniHidDeviceGetInstanceWithPredicate (predicateArduinoIndex · i) s.devices =
        some (e, d)) ↔ Holds s.devices e i) ∧
      (uniHidDeviceGetInstanceWithPredicate (predicateArduinoIndex · i) s.devices = none ↔
        s.globals.assigned i = false) := by
  have inv := reach.seatInv hN
  have holder : ∀ e d, s.devices[e]? = some (some d) → predicateArduinoIndex d i = true →
      Holds s.devices e i := fun e d present accepted => by
    rcases inv.matches_holds present accepted with holds | ⟨created, zero⟩
    · exact holds
    · rcases noStray with nonzero | connected
      · exact absurd zero nonzero
      · exact absurd created (connected e d present)
  have accepts : ∀ {e}, Holds s.devices e i → ∃ d, s.devices[e]? = some (some d) ∧
      predicateArduinoIndex d i = true := fun ⟨d, present, _, named⟩ =>
    ⟨d, present, by simp [predicateArduinoIndex, named]⟩
  refine ⟨fun e => ⟨fun ⟨d, found⟩ => ?_, fun holds => ?_⟩, ⟨fun none => ?_, fun free => ?_⟩⟩
  · obtain ⟨present, accepted⟩ := search_sound found
    exact holder e d present accepted
  · cases found : uniHidDeviceGetInstanceWithPredicate (predicateArduinoIndex · i) s.devices with
    | none =>
      obtain ⟨d, present, accepted⟩ := accepts holds
      simp [search_eq_none.mp found e d present] at accepted
    | some found' =>
      obtain ⟨e', d'⟩ := found'
      obtain ⟨present, accepted⟩ := search_sound found
      have same := inv.unique e' e i (holder e' d' present accepted) holds
      exact ⟨d', by rw [same]⟩
  · cases taken : s.globals.assigned i
    · rfl
    · obtain ⟨e, holds⟩ := inv.held i taken
      obtain ⟨d, present, accepted⟩ := accepts holds
      simp [search_eq_none.mp none e d present] at accepted
  · refine search_eq_none.mpr fun e d present => ?_
    cases accepted : predicateArduinoIndex d i
    · rfl
    · simp [inv.holds_assigned (holder e d present accepted)] at free

theorem lookup_finds_holder_on_reuse :
    (4 : Nat) ≤ 127 ∧ ∃ s : Sys 4, Reachable s ∧
      ((2 : Fin 4) : Nat) ≠ 0 ∧
      (∀ e, (∃ d, uniHidDeviceGetInstanceWithPredicate (predicateArduinoIndex · (2 : Fin 4))
          s.devices = some (e, d)) ↔ Holds s.devices e (2 : Fin 4)) ∧
      (uniHidDeviceGetInstanceWithPredicate (predicateArduinoIndex · (2 : Fin 4)) s.devices = none ↔
        s.globals.assigned 2 = false) := by
  obtain ⟨s, reach, -, -⟩ := @Reachable.exists_of_run 4 (Sys.boot 4 6) reuseRun
    (fun _ => true) (Reachable.boot 6) (by decide)
  exact ⟨by decide, s, reach, by decide, lookup_finds_holder (by decide) reach 2 (.inl (by decide))⟩

/-- Entry 0 is created, and waits for its connection, while entry 1 connects and takes seat 0;
the sketch then asks seat 0 for player LEDs 5. -/
def strayRun : List Action :=
  [.create 0 (examplePad 0 true), .create 1 (examplePad 1 true), .connected 1, .ready 1,
   .call (.setPlayerLeds 5) 0, .finish 0]

/-- With two seats and a table of two entries, after `strayRun` entry 1 holds seat 0, but the
search for seat 0 finds the created entry 0, and the drain sends the sketch's request to it. -/
theorem lookup_matches_unconnected_entry :
    ∃ s : Sys 2, Reachable s ∧ Holds s.devices 1 (0 : Fin 2) ∧
      s.devices[0]? = some (some (createdEntry (examplePad 0 true))) ∧
      @arduinoGetInternalHidDevice 2 s.devices 0 = some (0, createdEntry (examplePad 0 true)) ∧
      (processPendingRequests s.devices s.globals.pendingQueue).2 = [.setPlayerLeds 0 5] := by
  obtain ⟨s, reach, -, stray⟩ := @Reachable.exists_of_run 2 (Sys.boot 2 2) strayRun
    (fun s => decide (Holds s.devices 1 (0 : Fin 2)) &&
      decide (s.devices[0]? = some (some (createdEntry (examplePad 0 true)))) &&
      decide (@arduinoGetInternalHidDevice 2 s.devices 0 = some (0, createdEntry (examplePad 0 true))) &&
      decide ((processPendingRequests s.devices s.globals.pendingQueue).2 = [.setPlayerLeds 0 5]))
    (Reachable.boot 2) (by decide)
  simp only [Bool.and_eq_true, decide_eq_true_eq] at stray
  exact ⟨s, reach, stray.1.1.1, stray.1.1.2, stray.1.2, stray.2⟩

end Bluepad32Arduino
