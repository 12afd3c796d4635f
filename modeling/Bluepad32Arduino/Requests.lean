import Bluepad32Arduino.SlotTable

/-!
# The requests of CPU 1

The setters leave requests in `pending_queue_`, and `process_pending_requests` carries them
out at the next report of any controller. In every reachable state the queue holds at most
`MAX_PENDING_REQUESTS` requests, each for a seat (`Reachable.queueInv`).

Results:
1. `setter_result_and_queue`: a setter past its check returns success whether or not the
   request it builds from its arguments (`Accessor.request`) fit in the queue; between two
   drains the queue only grows at its back, and a drain only takes from its front.
   `request_lost_on_full_queue`: a setter acknowledges a request it dropped.
2. `drain_stops_at_unresolved_request`: a request whose seat was given back stops the drain;
   the requests behind it are neither carried out nor dropped. When every request resolves,
   the drain empties the queue and carries them out in order (`drain_all_resolved`).
3. `drain_calls_current_holder`: the drain resolves a request's seat when it pops it, and
   calls only the device that holds the seat then. `released_request_runs_on_new_holder`: so
   a request the sketch made for one controller runs on the next controller in its seat.
-/

namespace Bluepad32Arduino

variable {N : Nat}

/-! ## The queue invariant -/

/-- The queue holds at most `MAX_PENDING_REQUESTS` requests, each for a seat. -/
structure QueueInv (N : Nat) (q : List PendingRequest) : Prop where
  length_le : q.length ≤ maxPendingRequests
  seat_lt : ∀ r ∈ q, r.controllerIdx.toNat < N

theorem intToUInt8_toNat {n : Nat} (small : n < 256) : (intToUInt8 (n : Int)).toNat = n := by
  simp only [intToUInt8, UInt8.toNat, UInt8.ofNat]
  simp
  omega

theorem QueueInv.drop {q : List PendingRequest} (inv : QueueInv N q) (k : Nat) :
    QueueInv N (q.drop k) :=
  ⟨(List.length_drop k q).symm ▸ Nat.le_trans (Nat.sub_le _ _) inv.length_le,
    fun r member => inv.seat_lt r (List.mem_of_mem_drop member)⟩

theorem QueueInv.send (hN : N ≤ 127) {q : List PendingRequest} (inv : QueueInv N q) (i : Fin N)
    (cmd : PendingRequestCmd) (args : PendingArgs) :
    QueueInv N (xQueueSendToBack q ⟨intToUInt8 i, cmd, args⟩) := by
  unfold xQueueSendToBack
  split
  · next room =>
    refine ⟨by simp only [List.length_append, List.length_singleton]; omega, fun r member => ?_⟩
    rcases List.mem_append.mp member with old | new
    · exact inv.seat_lt r old
    · rw [List.mem_singleton.mp new, intToUInt8_toNat (by omega)]
      exact i.isLt
  · exact inv

theorem copyUpdatedData_pendingQueue (g : Globals N) (i : Fin N) (out : UniController → OutData) :
    (copyUpdatedData g i out).globals.pendingQueue = g.pendingQueue := by
  unfold copyUpdatedData
  split <;> rfl

/-- The rest of an accessor leaves the queue alone or sends one request for its seat. -/
theorem afterCheck_pendingQueue (g : Globals N) (i : Fin N) (a : Accessor) :
    (a.afterCheck g i).globals.pendingQueue = g.pendingQueue ∨
      ∃ cmd args, (a.afterCheck g i).globals.pendingQueue =
        xQueueSendToBack g.pendingQueue ⟨intToUInt8 i, cmd, args⟩ := by
  cases a with
  | getGamepadData | getControllerData => exact .inl (copyUpdatedData_pendingQueue _ _ _)
  | getControllerProperties => exact .inl rfl
  | _ => exact .inr ⟨_, _, rfl⟩

/-- What a step does to the queue: nothing, a send by a setter, or a drain, which takes a
prefix. -/
theorem step_pendingQueue {s s' : Sys N} {a : Action} (stepped : s.step a = some s') :
    s'.globals.pendingQueue = s.globals.pendingQueue ∨
      (∃ (i : Fin N) (cmd : PendingRequestCmd) (args : PendingArgs), s'.globals.pendingQueue =
        xQueueSendToBack s.globals.pendingQueue ⟨intToUInt8 i, cmd, args⟩) ∨
      (∃ e ctl k, a = .controllerData e ctl ∧
        s'.globals.pendingQueue = s.globals.pendingQueue.drop k) := by
  rcases Sys.step_cases stepped with ⟨e, d, -, -, rfl⟩ | ⟨e, d, -, -, rfl⟩ |
    ⟨e, d, -, -, rfl⟩ | ⟨e, ctl, d, rfl, -, rfl⟩ | ⟨e, d, -, -, rfl⟩ |
    ⟨e, d, -, -, rfl⟩ | ⟨acc, idx, -, ⟨-, rfl⟩ | ⟨i, -, rfl⟩⟩ | ⟨j, ⟨acc, i⟩, -, -, rfl⟩
  · -- create
    exact .inl rfl
  · -- connected
    exact .inl rfl
  · -- ready
    rcases arduinoOnDeviceReady_cases s.globals e d with
      ⟨-, ready⟩ | ⟨-, -, ready⟩ | ⟨-, -, i, -, ready⟩ | ⟨-, -, -, ready⟩ <;>
      simp only [ready, Globals.giveSeat, true_or]
  · -- controllerData
    simp only [arduinoOnControllerData_pendingQueue, processPendingRequests_eq]
    exact .inr (.inr ⟨e, ctl, _, rfl, rfl⟩)
  · -- disconnected
    rcases arduinoOnDeviceDisconnected_cases s.globals d with ⟨-, out⟩ | ⟨i, -, out⟩ <;>
      simp only [out, Globals.releaseSeat, true_or]
  · -- delete
    exact .inl rfl
  · -- call, refused
    exact .inl rfl
  · -- call, checked
    exact .inl rfl
  · -- finish
    rcases afterCheck_pendingQueue s.globals i acc with same | ⟨cmd, args, sent⟩
    · exact .inl same
    · exact .inr (.inl ⟨i, cmd, args, sent⟩)

theorem QueueInv.step (hN : N ≤ 127) {s s' : Sys N} {a : Action}
    (inv : QueueInv N s.globals.pendingQueue) (stepped : s.step a = some s') :
    QueueInv N s'.globals.pendingQueue := by
  rcases step_pendingQueue stepped with same | ⟨i, cmd, args, sent⟩ | ⟨-, -, k, -, drained⟩
  · exact same ▸ inv
  · exact sent ▸ inv.send hN i cmd args
  · exact drained ▸ inv.drop k

theorem Reachable.queueInv (hN : N ≤ 127) {s : Sys N} (reach : Reachable s) :
    QueueInv N s.globals.pendingQueue := by
  induction reach with
  | boot M => exact ⟨by simp [Sys.boot, maxPendingRequests], by simp [Sys.boot]⟩
  | step _ stepped inv => exact inv.step hN stepped

/-! ## Setters acknowledge what they may drop -/

/-- The request each setter builds from its own arguments, as the amended law reads it: the
seat it checked, the command it names, and its arguments in the member of `args` that
command reads, every other member zero. The getters build none. -/
def Accessor.request (a : Accessor) (i : Fin N) : Option PendingRequest :=
  match a with
  | .setPlayerLeds leds => some ⟨intToUInt8 i, .playerLeds, ⟨leds, (0, 0, 0), 0, 0, 0, 0⟩⟩
  | .setLightbarColor r g b => some ⟨intToUInt8 i, .lightbarColor, ⟨0, (r, g, b), 0, 0, 0, 0⟩⟩
  | .playDualRumble delayedStartMs durationMs weakMagnitude strongMagnitude =>
    some ⟨intToUInt8 i, .rumble,
      ⟨0, (0, 0, 0), delayedStartMs, durationMs, weakMagnitude, strongMagnitude⟩⟩
  | .disconnectController => some ⟨intToUInt8 i, .disconnect, ⟨0, (0, 0, 0), 0, 0, 0, 0⟩⟩
  | .getGamepadData | .getControllerData | .getControllerProperties => none

/-- A setter past its check returns success, and sends the request it builds from its own
arguments only when the queue has room for it; between two drains the queue only grows at its
back, and a drain only takes requests from its front. -/
theorem setter_result_and_queue :
    (∀ (g : Globals N) (i : Fin N) (a : Accessor) (r : PendingRequest), a.request i = some r →
      a.afterCheck g i =
        ⟨{ g with pendingQueue :=
            if g.pendingQueue.length < maxPendingRequests then g.pendingQueue ++ [r]
            else g.pendingQueue }, .success, none⟩) ∧
    (∀ (s s' : Sys N) (a : Action), s.step a = some s' →
      (∃ added, s'.globals.pendingQueue = s.globals.pendingQueue ++ added) ∨
      (∃ e ctl k, a = .controllerData e ctl ∧
        s'.globals.pendingQueue = s.globals.pendingQueue.drop k)) := by
  refine ⟨fun g i a r built => ?_, fun s s' a stepped => ?_⟩
  · cases a <;> simp only [Accessor.request, reduceCtorEq, Option.some.injEq] at built <;>
      subst built <;> rfl
  · rcases step_pendingQueue stepped with same | ⟨i, cmd, args, sent⟩ | drained
    · exact .inl ⟨[], by simp [same]⟩
    · rw [sent, xQueueSendToBack]
      split
      · exact .inl ⟨_, rfl⟩
      · exact .inl ⟨[], by simp⟩
    · exact .inr drained

/-- The sketch asks the controller in seat 0 for sixteen LED changes before its next
report. -/
def floodRun : List Action :=
  [.create 0 (examplePad 0 true), .connected 0, .ready 0] ++
    (List.replicate maxPendingRequests [.call (.setPlayerLeds 1) 0, .finish 0]).flatten

theorem request_lost_on_full_queue :
    ∃ s : Sys 1, Reachable s ∧ s.globals.assigned 0 = true ∧
      s.globals.pendingQueue.length = maxPendingRequests ∧
      (arduinoSetPlayerLeds s.globals 0 2).result = .success ∧
      (arduinoSetPlayerLeds s.globals 0 2).globals.pendingQueue = s.globals.pendingQueue := by
  obtain ⟨s, reach, -, full⟩ := @Reachable.exists_of_run 1 (Sys.boot 1 1) floodRun
    (fun s => s.globals.assigned 0 &&
      decide (s.globals.pendingQueue.length = maxPendingRequests) &&
      decide ((arduinoSetPlayerLeds s.globals 0 2).result = .success) &&
      decide ((arduinoSetPlayerLeds s.globals 0 2).globals.pendingQueue = s.globals.pendingQueue))
    (Reachable.boot 1) (by decide)
  simp only [Bool.and_eq_true, decide_eq_true_eq] at full
  exact ⟨s, reach, full.1.1.1, full.1.1.2, full.1.2, full.2⟩

/-! ## A request whose seat is gone stops the drain -/

/-- Two controllers; the sketch asks both for a lightbar colour, and the second one leaves
before the first one reports again. -/
def staleRun : List Action :=
  [.create 0 (examplePad 0 true), .connected 0, .ready 0,
   .create 1 (examplePad 1 true), .connected 1, .ready 1,
   .call (.setLightbarColor 9 9 9) 1, .finish 0,
   .call (.setLightbarColor 255 0 0) 0, .finish 0,
   .disconnected 1, .delete 1]

/-- The lightbar request `staleRun` leaves for seat `seat`. -/
def lightbarRequest (seat r g b : UInt8) : PendingRequest :=
  ⟨seat, .lightbarColor, { (default : PendingArgs) with leds := (r, g, b) }⟩

theorem drain_stops_at_unresolved_request :
    ∃ s : Sys 2, Reachable s ∧ ∃ d, connectedAt s.devices 0 = some d ∧
      Holds s.devices 0 (0 : Fin 2) ∧ d.reportParser.setLightbarColor = true ∧
      s.globals.pendingQueue = [lightbarRequest 1 9 9 9, lightbarRequest 0 255 0 0] ∧
      (arduinoOnControllerData s.globals s.devices d default).2 = [] ∧
      (arduinoOnControllerData s.globals s.devices d default).1.pendingQueue =
        [lightbarRequest 0 255 0 0] := by
  obtain ⟨s, reach, -, stale⟩ := @Reachable.exists_of_run 2 (Sys.boot 2 2) staleRun
    (fun s => (connectedAt s.devices 0).any fun d =>
      decide (Holds s.devices 0 (0 : Fin 2)) && d.reportParser.setLightbarColor &&
      decide (s.globals.pendingQueue = [lightbarRequest 1 9 9 9, lightbarRequest 0 255 0 0]) &&
      decide ((arduinoOnControllerData s.globals s.devices d default).2 = []) &&
      decide ((arduinoOnControllerData s.globals s.devices d default).1.pendingQueue =
        [lightbarRequest 0 255 0 0]))
    (Reachable.boot 2) (by decide)
  obtain ⟨d, connected, stale⟩ := exists_of_any stale
  simp only [Bool.and_eq_true, decide_eq_true_eq] at stale
  exact ⟨s, reach, d, connected, stale.1.1.1.1, stale.1.1.1.2, stale.1.1.2, stale.1.2, stale.2⟩

/-- When every request of the queue resolves, `process_pending_requests` empties the queue and
carries the requests out in order, each on the device its seat resolves to. -/
theorem drain_all_resolved (devices : DeviceTable) (q : List PendingRequest)
    (resolved : ∀ r ∈ q, (resolveRequest devices r).isSome) :
    processPendingRequests devices q = ([], callsOf devices q) := by
  induction q with
  | nil => rfl
  | cons r rest ih =>
    obtain ⟨⟨e, d⟩, found⟩ := Option.isSome_iff_exists.mp (resolved r (List.mem_cons_self r rest))
    simp [processPendingRequests, callsOf, found, ih fun r' member => resolved r' (List.mem_cons_of_mem r member)]

/-- The spec's end-to-end case: a lightbar request for a pad with the lightbar function is
carried out once and leaves the queue empty. -/
example :
    processPendingRequests [some { examplePad 0 true with phase := .connected }]
      [lightbarRequest 0 255 0 0] = ([], [.setLightbarColor 0 255 0 0]) := by
  decide

/-- For a pad without the lightbar function the request is dropped without a call or an
error. -/
example :
    processPendingRequests [some { examplePad 0 false with phase := .connected }]
      [lightbarRequest 0 255 0 0] = ([], []) := by
  decide

/-! ## The drain resolves seats when it pops requests -/

theorem executeRequest_device {e : Nat} {d : HidDevice} {r : PendingRequest} {c : Call}
    (made : c ∈ executeRequest e d r) : c.device = e := by
  unfold executeRequest at made
  split at made <;> (try split at made) <;> simp_all [Call.device]

theorem mem_resolvedPrefix {devices : DeviceTable} {q : List PendingRequest} {r : PendingRequest}
    (member : r ∈ resolvedPrefix devices q) : r ∈ q := by
  induction q with
  | nil => simp [resolvedPrefix] at member
  | cons r' rest ih =>
    simp only [resolvedPrefix] at member
    split at member
    · simp at member
    · rcases List.mem_cons.mp member with same | later
      · exact same ▸ List.mem_cons_self r' rest
      · exact List.mem_cons_of_mem r' (ih later)

theorem mem_callsOf {devices : DeviceTable} {rs : List PendingRequest} {c : Call}
    (made : c ∈ callsOf devices rs) :
    ∃ r ∈ rs, ∃ e d, resolveRequest devices r = some (e, d) ∧ c ∈ executeRequest e d r := by
  obtain ⟨r, member, made⟩ := List.mem_flatMap.mp made
  split at made
  · simp at made
  · next e d resolved => exact ⟨r, member, e, d, resolved, made⟩

/-- The sketch asks the controller in seat 0 for player LEDs 5; that controller leaves before
it reports again, and the next controller to connect takes seat 0. -/
def handoverRun : List Action :=
  [.call (.setPlayerLeds 5) 0, .finish 0, .disconnected 0, .delete 0,
   .create 1 (examplePad 1 true), .connected 1, .ready 1]

/-- Every call `process_pending_requests` makes on a device past `on_device_connected` is the
call of a request of the queue, made on the device that holds the request's seat when the
request is popped. -/
theorem drain_calls_current_holder (hN : N ≤ 127) {s : Sys N} (reach : Reachable s) :
    ∀ c ∈ (processPendingRequests s.devices s.globals.pendingQueue).2,
      (∀ d, s.devices[c.device]? = some (some d) → d.phase ≠ .created) →
      ∃ r ∈ s.globals.pendingQueue, ∃ (k : Fin N) (d : HidDevice),
        r.controllerIdx.toNat = (k : Nat) ∧ s.devices[c.device]? = some (some d) ∧
        c ∈ executeRequest c.device d r ∧ Holds s.devices c.device k := by
  intro c made notCreated
  rw [processPendingRequests_eq] at made
  obtain ⟨r, inPrefix, e, d, resolved, made⟩ := mem_callsOf made
  have member := mem_resolvedPrefix inPrefix
  rw [executeRequest_device made] at notCreated ⊢
  obtain ⟨present, named⟩ := search_sound resolved
  simp only [predicateArduinoIndex, beq_iff_eq] at named
  have seat := (reach.queueInv hN).seat_lt r member
  refine ⟨r, member, ⟨_, seat⟩, d, rfl, present, made, d, present, ?_, named⟩
  have ok := (reach.seatInv hN).entry e d present
  unfold EntryOk at ok
  split at ok
  · exact absurd ‹d.phase = .created› (notCreated d present)
  · assumption
  · exact absurd (named.symm.trans ok) (seat_ne_invalid ⟨_, seat⟩)

theorem drain_calls_current_holder_after_handover :
    (1 : Nat) ≤ 127 ∧ ∃ s : Sys 1, Reachable s ∧
      (processPendingRequests s.devices s.globals.pendingQueue).2 = [.setPlayerLeds 1 5] ∧
      ∀ c ∈ (processPendingRequests s.devices s.globals.pendingQueue).2,
        (∀ d, s.devices[c.device]? = some (some d) → d.phase ≠ .created) →
        ∃ r ∈ s.globals.pendingQueue, ∃ (k : Fin 1) (d : HidDevice),
          r.controllerIdx.toNat = (k : Nat) ∧ s.devices[c.device]? = some (some d) ∧
          c ∈ executeRequest c.device d r ∧ Holds s.devices c.device k := by
  obtain ⟨s, reach, -, drained⟩ := @Reachable.exists_of_run 1 (Sys.boot 1 2)
    ([.create 0 (examplePad 0 true), .connected 0, .ready 0] ++ handoverRun)
    (fun s => decide ((processPendingRequests s.devices s.globals.pendingQueue).2 =
      [.setPlayerLeds 1 5]))
    (Reachable.boot 2) (by decide)
  exact ⟨by decide, s, reach, of_decide_eq_true drained,
    drain_calls_current_holder (by decide) reach⟩

/-- A request passes its check while entry 0 holds seat 0 and entry 1 is not even in the
table; after entry 0 leaves and entry 1 takes seat 0, the drain runs the request on entry 1. -/
theorem released_request_runs_on_new_holder :
    ∃ s₀ s : Sys 1, Reachable s₀ ∧ Holds s₀.devices 0 (0 : Fin 1) ∧
      checkSeat s₀.globals 0 = some 0 ∧ s₀.devices[1]? = some none ∧
      s₀.run handoverRun = some s ∧ ¬Holds s.devices 0 (0 : Fin 1) ∧
      (processPendingRequests s.devices s.globals.pendingQueue).2 = [.setPlayerLeds 1 5] := by
  obtain ⟨s₀, reach, -, checked⟩ := @Reachable.exists_of_run 1 (Sys.boot 1 2)
    [.create 0 (examplePad 0 true), .connected 0, .ready 0]
    (fun s₀ => decide (Holds s₀.devices 0 (0 : Fin 1)) &&
      decide (checkSeat s₀.globals 0 = some 0) && decide (s₀.devices[1]? = some none) &&
      (s₀.run handoverRun).any fun s => decide (¬Holds s.devices 0 (0 : Fin 1)) &&
        decide ((processPendingRequests s.devices s.globals.pendingQueue).2 = [.setPlayerLeds 1 5]))
    (Reachable.boot 2) (by decide)
  simp only [Bool.and_eq_true, decide_eq_true_eq] at checked
  obtain ⟨⟨⟨holds, passed⟩, absent⟩, later⟩ := checked
  obtain ⟨s, ran, handed⟩ := exists_of_any later
  simp only [Bool.and_eq_true, decide_eq_true_eq] at handed
  exact ⟨s₀, s, reach, holds, passed, absent, ran, handed.1, handed.2⟩

end Bluepad32Arduino
