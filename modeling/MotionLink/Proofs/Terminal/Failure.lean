import MotionLink.CommandLine.Program
import MotionLink.Proofs.CommandLine.Exit
import MotionLink.Proofs.Log.Stopping
import MotionLink.Proofs.Terminal.Limit

/-!
# When the output fails

Whether events are written one by one or all at once, an output with room for so many bytes takes
the first of what it is given. The monitor looks for a fault whenever it has shown what it was told,
so it asks for a stop no later than that, and nothing is read for an output that is gone. Up to that
point it does what it would do with an output that takes everything.

## Main definitions

* `Monitor.Together`, `Monitor.Apart` — an output with a limit next to one without
* `Monitor.Settled` — a monitor that keeps the fault of its output
* `Follower.StopsWithOutput` — what is to be expected of a monitor whose output fails

## Main results

* `Outlet.put_put` — written in two parts or at once, the same bytes are taken
* `Monitor.tell_eq` — all that a monitor does when it is told something
* `Monitor.twins_endless` — the two monitors answer alike until one output fails
* `Monitor.settled_asksInTime` — the one whose output fails asks for a stop at once
* `Follower.stopsWithOutput` — a monitor stops with its output, and says so
-/

namespace MotionLink

/-! ### Outputs -/

namespace Outlet

variable {outlet : Outlet} {n : Nat} {refusal : Fault} {bytes : Bytes}

theorem put_of_failed (h : outlet.failed = true) (bytes : Bytes) : outlet.put bytes = outlet := by
  rw [put, if_pos h]

/-- Written in two parts or at once, the same bytes are taken. -/
theorem put_put (outlet : Outlet) (bytes more : Bytes) :
    (outlet.put bytes).put more = outlet.put (bytes ++ more) := by
  obtain ⟨capacity, refusal, written, failed, fault⟩ := outlet
  cases failed with
  | true => rw [put_of_failed rfl, put_of_failed rfl, put_of_failed rfl]
  | false =>
    cases capacity with
    | none => simp [put, fitting]
    | some capacity =>
      -- Whether the first part fits decides in which of the two the cut falls.
      by_cases hfits : bytes.length ≤ capacity - written.size
      · have hall : bytes.take (capacity - written.size) = bytes := List.take_of_length_le hfits
        have hmore : (bytes ++ more).take (capacity - written.size) =
            bytes ++ more.take (capacity - (written.size + bytes.length)) := by
          rw [List.take_append, hall, Nat.sub_sub]
        simp [put, fitting, hall, hmore]
      · have hcut : (bytes ++ more).take (capacity - written.size) =
            bytes.take (capacity - written.size) :=
          List.take_append_of_le_length (Nat.le_of_not_le hfits)
        have hfailed : capacity - written.size < bytes.length := Nat.not_le.mp hfits
        have hfailed' : capacity - written.size < bytes.length + more.length :=
          Nat.lt_add_right _ hfailed
        simp [put, fitting, hcut, hfailed, hfailed']

theorem put_nil (outlet : Outlet) : outlet.put [] = outlet := by
  obtain ⟨capacity, refusal, written, failed, fault⟩ := outlet
  cases failed with
  | true => exact put_of_failed rfl []
  | false => cases capacity <;> simp [put, fitting]

/-- A write that fails leaves the fault that the output refuses with. -/
theorem fault_put {outlet : Outlet} (hfailed : outlet.failed = false) (hfault : outlet.fault = none)
    (bytes : Bytes) :
    (outlet.put bytes).fault = if (outlet.put bytes).failed then some outlet.refusal else none := by
  obtain ⟨capacity, refusal, written, failed, fault⟩ := outlet
  obtain rfl : failed = false := hfailed
  obtain rfl : fault = none := hfault
  simp [put]

theorem refusal_put (outlet : Outlet) (bytes : Bytes) :
    (outlet.put bytes).refusal = outlet.refusal := by
  rw [put]
  split <;> rfl

variable {full : Outlet}

theorem TakesAll.toList_put (h : full.TakesAll) (bytes : Bytes) :
    (full.put bytes).written.toList = full.written.toList ++ bytes :=
  (written_put (h.put bytes).failed).2

theorem TakesAll.size_put (h : full.TakesAll) (bytes : Bytes) :
    (full.put bytes).written.size = full.written.size + bytes.length := by
  rw [← Array.length_toList, h.toList_put, List.length_append, Array.length_toList]

/-- What fits is taken as by an output that takes everything. -/
theorem put_of_fits (h : full.TakesAll) (hfits : (full.put bytes).written.size ≤ n) :
    put ⟨some n, refusal, full.written, false, none⟩ bytes =
      ⟨some n, refusal, (full.put bytes).written, false, none⟩ := by
  rw [h.size_put] at hfits
  obtain ⟨capacity, refusal', written, failed, fault⟩ := full
  obtain ⟨rfl, rfl, rfl⟩ := h
  change written.size + bytes.length ≤ n at hfits
  have hall : bytes.take (n - written.size) = bytes := List.take_of_length_le (by omega)
  simp [put, fitting, hall]

/-- Of what does not fit the first bytes are taken. -/
theorem exists_put_of_beyond (h : full.TakesAll) (hfull : full.written.size ≤ n)
    (hbeyond : n < (full.put bytes).written.size) :
    ∃ written, put ⟨some n, refusal, full.written, false, none⟩ bytes =
        ⟨some n, refusal, written, true, some refusal⟩ ∧
      written.toList = (full.put bytes).written.toList.take n := by
  have hsize := h.size_put bytes
  have hshort : n - full.written.size < bytes.length := by omega
  refine ⟨(bytes.take (n - full.written.size)).foldl Array.push full.written, ?_, ?_⟩
  · simp [put, fitting, hshort]
  · have hall : full.written.toList.take n = full.written.toList := List.take_of_length_le hfull
    rw [h.toList_put, List.take_append, hall, Array.length_toList]
    simp

end Outlet

/-! ### Displays -/

namespace Display

/-- All that is written for some events. -/
def output (display : Display) : List Event → Bytes
  | [] => []
  | e :: rest => Utf8.encode (display.step e).1 ++ (display.step e).2.output rest

/-- The display behind some events. -/
def after (display : Display) (events : List Event) : Display :=
  events.foldl (fun display e => (display.step e).2) display

end Display

/-- All that is written for some events might be written at once. -/
theorem Terminal.foldl_showEvent (terminal : Terminal) (events : List Event) :
    events.foldl showEvent terminal =
      ⟨terminal.display.after events, terminal.outlet.put (terminal.display.output events)⟩ := by
  induction events generalizing terminal with
  | nil =>
    rw [List.foldl_nil, Display.output, Outlet.put_nil]
    rfl
  | cons e rest ih =>
    rw [List.foldl_cons, ih, showEvent, Display.output, Outlet.put_put]
    rfl

/-! ### What a monitor does when it is told something -/

namespace Monitor

section Shown

variable {ρ : Type} {on : Screen ρ} {monitor : Monitor ρ}

/-- The events that are shown of some, when so many records have been shown. -/
def shownOf (limit : Option Nat) (seen : Nat) (events : List Event) : List Event :=
  match limit with
  | none => events
  | some n => firstRecords (n - seen) events

/-- The last record is among the events. -/
def completes (limit : Option Nat) (seen : Nat) (events : List Event) : Bool :=
  match limit with
  | none => false
  | some n => decide (seen < n) && decide (n ≤ seen + completed events)

theorem foldl_showEvent_unlimited (hlimit : monitor.limit = none) (asked : Bool)
    (events : List Event) :
    events.foldl (showEvent on) (monitor, asked) = (monitor.advance on events, asked) := by
  induction events generalizing monitor with
  | nil => rfl
  | cons e rest ih =>
    have hnext : (monitor.advance on [e]).limit = none := hlimit
    have hgoing : monitor.isDone = false := by rw [isDone, hlimit]
    have hgoing' : (monitor.advance on [e]).isDone = false := by rw [isDone, hnext]
    rw [List.foldl_cons, showEvent_eq, hgoing, hgoing', Bool.and_false, Bool.or_false,
      if_neg Bool.false_ne_true, ih hnext, advance_advance]
    rfl

/-- What is shown of some events depends on nothing but the limit and the records shown. -/
theorem foldl_showEvent_eq (on : Screen ρ) (monitor : Monitor ρ) (events : List Event) :
    events.foldl (showEvent on) (monitor, false) =
      (monitor.advance on (shownOf monitor.limit monitor.seen events),
        completes monitor.limit monitor.seen events) := by
  cases hlimit : monitor.limit with
  | none => exact foldl_showEvent_unlimited hlimit false events
  | some n =>
    rw [foldl_showEvent_limited hlimit, Bool.false_or]
    rfl

end Shown

/-- The fault of the output is kept, unless there was one before, and asks for a stop. -/
theorem checkOutput_screen (monitor : Monitor Terminal) (asked : Bool) :
    checkOutput Terminal.screen (monitor, asked) =
      ({ monitor with
          screen := ⟨monitor.screen.display, { monitor.screen.outlet with fault := none }⟩
          fault := monitor.fault.or monitor.screen.outlet.fault },
        asked || monitor.screen.outlet.fault.isSome) := by
  obtain ⟨router, limit, seen, ⟨display, capacity, refusal, written, failed, kept⟩, fault⟩ :=
    monitor
  cases kept <;> simp [checkOutput, Terminal.screen, Terminal.takeFault, Outlet.takeFault]

variable {monitor : Monitor Terminal}

/-- The events that are shown when a monitor is told something. -/
def shownFor (monitor : Monitor Terminal) (tiding : Tiding) : List Event :=
  shownOf monitor.limit monitor.seen (monitor.router.run tiding.inputs).1

/-- The output when a monitor was told something and has not looked for a fault. -/
def outletFor (monitor : Monitor Terminal) (tiding : Tiding) : Outlet :=
  monitor.screen.outlet.put (monitor.screen.display.output (monitor.shownFor tiding))

/-- All that a monitor does when it is told something. -/
theorem tell_eq (h : monitor.screen.outlet.fault = none) (tiding : Tiding) :
    (listener Terminal.screen).tell monitor tiding =
      ({ router := (monitor.router.run tiding.inputs).2
         limit := monitor.limit
         seen := monitor.seen + completed (monitor.shownFor tiding)
         screen := ⟨monitor.screen.display.after (monitor.shownFor tiding),
           { monitor.outletFor tiding with fault := none }⟩
         fault := monitor.fault.or (monitor.outletFor tiding).fault },
        completes monitor.limit monitor.seen (monitor.router.run tiding.inputs).1 ||
          (monitor.outletFor tiding).fault.isSome) := by
  have hsound : Terminal.screen.takeFault monitor.screen = (none, monitor.screen) := by
    obtain ⟨router, limit, seen, ⟨display, capacity, refusal, written, failed, kept⟩, fault⟩ :=
      monitor
    obtain rfl : kept = none := h
    rfl
  have hshown : (monitor.shownFor tiding).foldl Terminal.screen.showEvent monitor.screen =
      ⟨monitor.screen.display.after (monitor.shownFor tiding), monitor.outletFor tiding⟩ :=
    Terminal.foldl_showEvent monitor.screen (monitor.shownFor tiding)
  rw [tell_eq_showAll hsound, showAll, foldl_showEvent_eq, checkOutput_screen]
  simp only [advance]
  rw [show shownOf monitor.limit monitor.seen (monitor.router.run tiding.inputs).1 =
    monitor.shownFor tiding from rfl, hshown]

/-! ### An output with a limit next to one without -/

/-- A monitor whose output takes everything. -/
structure Endless (monitor : Monitor Terminal) : Prop where
  takesAll : monitor.screen.outlet.TakesAll
  fault : monitor.fault = none

/-- A monitor whose output has a limit has shown all that the other one has, and it has fitted. -/
structure Together (n : Nat) (refusal : Fault) (limited endless : Monitor Terminal) : Prop where
  router : limited.router = endless.router
  limit : limited.limit = endless.limit
  seen : limited.seen = endless.seen
  display : limited.screen.display = endless.screen.display
  outlet : limited.screen.outlet = ⟨some n, refusal, endless.screen.outlet.written, false, none⟩
  fits : endless.screen.outlet.written.size ≤ n
  fault : limited.fault = none
  endless : endless.Endless

/-- The output with a limit has failed, and the fault is kept. -/
structure Apart (n : Nat) (refusal : Fault) (limited endless : Monitor Terminal) : Prop where
  failed : limited.screen.outlet.failed = true
  told : limited.screen.outlet.fault = none
  fault : limited.fault = some refusal
  written : limited.screen.outlet.written.toList = endless.screen.outlet.written.toList.take n
  beyond : n < endless.screen.outlet.written.size
  endless : endless.Endless

variable {n : Nat} {refusal : Fault} {limited endless : Monitor Terminal}

/-- An output that takes everything goes on to do so. -/
theorem Endless.tell (h : endless.Endless) (tiding : Tiding) :
    ((listener Terminal.screen).tell endless tiding).1.Endless := by
  have htakes : (endless.outletFor tiding).TakesAll := h.takesAll.put _
  rw [tell_eq h.takesAll.fault]
  refine ⟨⟨htakes.capacity, htakes.failed, rfl⟩, ?_⟩
  dsimp only
  rw [h.fault, htakes.fault]
  rfl

theorem Endless.written_tell (h : endless.Endless) (tiding : Tiding) :
    ((listener Terminal.screen).tell endless tiding).1.screen.outlet.written =
      (endless.outletFor tiding).written := by
  rw [tell_eq h.takesAll.fault]

namespace Together

theorem shownFor_eq (h : Together n refusal limited endless) (tiding : Tiding) :
    limited.shownFor tiding = endless.shownFor tiding := by
  rw [shownFor, shownFor, h.router, h.limit, h.seen]

theorem outletFor_eq (h : Together n refusal limited endless) (tiding : Tiding) :
    limited.outletFor tiding =
      Outlet.put ⟨some n, refusal, endless.screen.outlet.written, false, none⟩
        (endless.screen.display.output (endless.shownFor tiding)) := by
  rw [outletFor, h.outlet, h.display, h.shownFor_eq]

/-- While what is written fits, both monitors do the same. -/
theorem tell_of_fits (h : Together n refusal limited endless) {tiding : Tiding}
    (hfits : (endless.outletFor tiding).written.size ≤ n) :
    ((listener Terminal.screen).tell limited tiding).2 =
        ((listener Terminal.screen).tell endless tiding).2 ∧
      Together n refusal ((listener Terminal.screen).tell limited tiding).1
        ((listener Terminal.screen).tell endless tiding).1 := by
  have htold : limited.screen.outlet.fault = none := by rw [h.outlet]
  have htakes : (endless.outletFor tiding).TakesAll := h.endless.takesAll.put _
  have houtlet : limited.outletFor tiding =
      ⟨some n, refusal, (endless.outletFor tiding).written, false, none⟩ :=
    (h.outletFor_eq tiding).trans (Outlet.put_of_fits h.endless.takesAll hfits)
  have hendless := h.endless.tell tiding
  rw [tell_eq h.endless.takesAll.fault] at hendless ⊢
  rw [tell_eq htold, houtlet]
  -- An output that takes everything never has a fault, so both ask only at the last record.
  refine ⟨by rw [h.limit, h.seen, h.router, htakes.fault], ?_⟩
  constructor
  case router => exact congrArg (fun router => (router.run tiding.inputs).2) h.router
  case limit => exact h.limit
  case seen => exact congrArg₂ (· + completed ·) h.seen (h.shownFor_eq tiding)
  case display => exact congrArg₂ Display.after h.display (h.shownFor_eq tiding)
  case outlet => rfl
  case fits => exact hfits
  case fault => exact (Option.or_none).trans h.fault
  case endless => exact hendless

/-- What does not fit parts them. -/
theorem tell_of_beyond (h : Together n refusal limited endless) {tiding : Tiding}
    (hbeyond : n < (endless.outletFor tiding).written.size) :
    Apart n refusal ((listener Terminal.screen).tell limited tiding).1
      ((listener Terminal.screen).tell endless tiding).1 := by
  have htold : limited.screen.outlet.fault = none := by rw [h.outlet]
  obtain ⟨written, hput, hwritten⟩ :
      ∃ written, limited.outletFor tiding = ⟨some n, refusal, written, true, some refusal⟩ ∧
        written.toList = (endless.outletFor tiding).written.toList.take n := by
    rw [h.outletFor_eq]
    exact Outlet.exists_put_of_beyond h.endless.takesAll h.fits hbeyond
  have hendless := h.endless.tell tiding
  rw [tell_eq h.endless.takesAll.fault] at hendless ⊢
  rw [tell_eq htold, hput, h.fault]
  exact ⟨rfl, rfl, rfl, hwritten, hbeyond, hendless⟩

theorem tell (h : Together n refusal limited endless) (tiding : Tiding) :
    ((listener Terminal.screen).tell limited tiding).2 =
          ((listener Terminal.screen).tell endless tiding).2 ∧
        Together n refusal ((listener Terminal.screen).tell limited tiding).1
          ((listener Terminal.screen).tell endless tiding).1 ∨
      Apart n refusal ((listener Terminal.screen).tell limited tiding).1
        ((listener Terminal.screen).tell endless tiding).1 := by
  by_cases hfits : (endless.outletFor tiding).written.size ≤ n
  · exact .inl (h.tell_of_fits hfits)
  · exact .inr (h.tell_of_beyond (Nat.not_le.mp hfits))

end Together

/-- Behind the fault nothing more is written, and it stays the one that is kept. -/
theorem Apart.tell_left (h : Apart n refusal limited endless) (tiding : Tiding) :
    Apart n refusal ((listener Terminal.screen).tell limited tiding).1 endless := by
  have houtlet : limited.outletFor tiding = limited.screen.outlet :=
    Outlet.put_of_failed h.failed _
  rw [tell_eq h.told, houtlet]
  refine ⟨h.failed, rfl, ?_, h.written, h.beyond, h.endless⟩
  dsimp only
  rw [h.fault, h.told]
  rfl

/-- Whatever else is written without a limit comes behind the bytes that fitted. -/
theorem Apart.tell_right (h : Apart n refusal limited endless) (tiding : Tiding) :
    Apart n refusal limited ((listener Terminal.screen).tell endless tiding).1 := by
  have hwritten := h.endless.written_tell tiding
  -- The cut lies in what was there before, so what is added does not reach it.
  have hbeyond : n ≤ endless.screen.outlet.written.toList.length := h.beyond.le
  refine ⟨h.failed, h.told, h.fault, ?_, ?_, h.endless.tell tiding⟩
  · rw [hwritten, outletFor, h.endless.takesAll.toList_put, List.take_append_of_le_length hbeyond]
    exact h.written
  · rw [hwritten, outletFor, h.endless.takesAll.size_put]
    exact Nat.lt_add_right _ h.beyond

/-- The two monitors answer alike until the output with a limit fails. -/
theorem twins_endless (n : Nat) (refusal : Fault) :
    (listener Terminal.screen).Twins (listener Terminal.screen) (Together n refusal)
      (Apart n refusal) where
  tell h tiding := h.tell tiding
  left _ _ tiding h := h.tell_left tiding
  right _ _ tiding h := h.tell_right tiding

/-! ### The fault that is kept -/

/-- A monitor that keeps the fault of its output, if that has failed. -/
structure Settled (refusal : Fault) (monitor : Monitor Terminal) : Prop where
  refuses : monitor.screen.outlet.refusal = refusal
  told : monitor.screen.outlet.fault = none
  fault : monitor.fault = if monitor.screen.outlet.failed then some refusal else none

/-- A monitor asks for a stop when it is told what its output fails with. -/
theorem Settled.tell (h : limited.Settled refusal) (tiding : Tiding) :
    ((listener Terminal.screen).tell limited tiding).1.Settled refusal ∧
      (((listener Terminal.screen).tell limited tiding).1.screen.outlet.failed = true →
        limited.screen.outlet.failed = true ∨
          ((listener Terminal.screen).tell limited tiding).2 = true) := by
  rw [tell_eq h.told]
  have hrefusal : (limited.outletFor tiding).refusal = refusal :=
    (Outlet.refusal_put _ _).trans h.refuses
  -- An output that has failed takes nothing more, and one that has not may fail now.
  cases hfailed : limited.screen.outlet.failed with
  | true =>
    have houtlet : limited.outletFor tiding = limited.screen.outlet :=
      Outlet.put_of_failed hfailed _
    refine ⟨⟨hrefusal, rfl, ?_⟩, fun _ => .inl rfl⟩
    dsimp only
    rw [houtlet, h.told, Option.or_none]
    exact h.fault
  | false =>
    have hput : (limited.outletFor tiding).fault =
        if (limited.outletFor tiding).failed then some limited.screen.outlet.refusal else none :=
      Outlet.fault_put hfailed h.told _
    have hnone : limited.fault = none := by rw [h.fault, hfailed, if_neg Bool.false_ne_true]
    rw [h.refuses] at hput
    refine ⟨⟨hrefusal, rfl, ?_⟩, fun hnext => .inr ?_⟩
    · dsimp only
      rw [hnone, Option.none_or]
      exact hput
    · have hkept : (limited.outletFor tiding).fault = some refusal := by rw [hput, if_pos hnext]
      dsimp only
      rw [hkept]
      exact Bool.or_true _

theorem settled_asksInTime (refusal : Fault) :
    (listener Terminal.screen).AsksInTime (Settled refusal) fun monitor =>
      monitor.screen.outlet.failed = true where
  preserves _ tiding h := (h.tell tiding).1
  asks _ tiding h := (h.tell tiding).2
  announces _ hfailed := hfailed

end Monitor

/-! ### Whole runs -/

namespace Follower

open Monitor

/-- A follower with a monitor that shows the log in a display. -/
def displaying (display : Display) (settings : FollowSettings) (attempts : List Attempt)
    (stopped : Bool) (limit : Option Nat) (outlet : Outlet) : Follower (Monitor Terminal) :=
  fresh settings (listener Terminal.screen) attempts (Monitor.start limit ⟨display, outlet⟩) stopped

/-- All that is written in a run. -/
def written (follower : Follower (Monitor Terminal)) : Bytes :=
  follower.follow.run.listener.screen.outlet.written.toList

/-- How a run ends. -/
def ending (follower : Follower (Monitor Terminal)) : Ending :=
  Surroundings.endingOf follower.follow.run.listener

/-- Following the log from the command line is such a run. -/
theorem monitor_eq_displaying {s : Surroundings} {form : OutputForm} {o : MonitorOptions}
    {limits : Duration × Duration} (h : Surroundings.monitorLimits o = .ok limits) :
    let follower := displaying (Surroundings.display form o.noColor s.terminal)
      ⟨o.hello.map Utf8.octets, FollowSettings.defaultChunkSize⟩ s.network.attempts false o.count
      s.output
    s.monitor form o =
      ⟨follower.ending, follower.written, Activity.sentPerStream follower.follow.journal⟩ := by
  rw [Surroundings.monitor, h]
  rfl

/-- What is to be expected of a monitor whose output has room for `n` bytes, next to one that meets
the same attempts to connect and has an output that takes everything. -/
structure StopsWithOutput (n : Nat) (refusal : Fault)
    (limited endless : Follower (Monitor Terminal)) : Prop where
  /-- the first bytes are written -/
  written : limited.written = endless.written.take n
  /-- behind whatever it was told when the output failed, the fault is kept, a stop has been asked
  for, nothing is read and no connection is opened -/
  moment : ∀ before after, limited.follow.journal = before ++ after →
    (limited.scene.replay limited.ear before).listener.screen.outlet.failed = true →
      (limited.scene.replay limited.ear before).listener.fault = some refusal ∧
        (limited.scene.replay limited.ear before).stopped = true ∧
        (∀ arrival, .read arrival ∉ after) ∧ ∀ made, .connect made ∉ after
  /-- where more was to be written, the run ends with the fault -/
  failed : n < endless.written.length →
    limited.follow.run.listener.screen.outlet.failed = true ∧
      limited.ending = .failure (.ofFault "write to stdout failed" refusal) ∧
      limited.ending.exitCode = ExitCode.ofFaultKind refusal.kind ∧
      limited.ending.exitCode ≠ ExitCode.success
  /-- otherwise it ends well -/
  whole : endless.written.length ≤ n →
    limited.follow.run.listener.screen.outlet.failed = false ∧
      limited.ending = .code ExitCode.success

/-- Whatever a monitor meets and however it shows the log, it stops with its output. -/
theorem stopsWithOutput (display : Display) (settings : FollowSettings) (attempts : List Attempt)
    (stopped : Bool) (limit : Option Nat) (n : Nat) (refusal : Fault) :
    StopsWithOutput n refusal
      (displaying display settings attempts stopped limit (.ofCapacity (some n) refusal))
      (displaying display settings attempts stopped limit .unlimited) := by
  set limited := displaying display settings attempts stopped limit (.ofCapacity (some n) refusal)
  set endless := displaying display settings attempts stopped limit .unlimited
  have hstart : Run.Paired (Together n refusal) (Apart n refusal) limited.run endless.run :=
    .inStep rfl rfl ⟨rfl, rfl, rfl, rfl, rfl, Nat.zero_le n, rfl, ⟨⟨rfl, rfl, rfl⟩, rfl⟩⟩
  have hend : Run.Paired (Together n refusal) (Apart n refusal) limited.follow.run
      endless.follow.run := paired_follow (twins_endless n refusal) settings attempts hstart
  constructor
  case written =>
    cases hend with
    | inStep _ _ htogether =>
      rw [written, written, htogether.outlet]
      exact (List.take_of_length_le htogether.fits).symm
    | parted hapart => exact hapart.written
  case moment =>
    intro before after hsplit hfailed
    obtain ⟨done, hjournal, hleads, -⟩ := exists_follow limited rfl
    obtain rfl : done = before ++ after := hjournal.symm.trans hsplit
    -- At the start nothing has failed, so there is no stop that is owed.
    have hsettled : limited.scene.listener.Settled refusal := ⟨rfl, rfl, rfl⟩
    have hsound : limited.scene.listener.screen.outlet.failed = true →
        limited.scene.stopped = true := fun h => absurd h Bool.false_ne_true
    have hfault := ((settled_asksInTime refusal).replay hsettled hsound before).1.fault
    refine ⟨?_, (settled_asksInTime refusal).moment hsettled hsound hleads rfl hfailed⟩
    exact hfault.trans (if_pos hfailed)
  case failed =>
    intro hbeyond
    cases hend with
    | inStep _ _ htogether => exact absurd htogether.fits (Nat.not_le.mpr hbeyond)
    | parted hapart =>
      have hending : limited.ending = .failure (.ofFault "write to stdout failed" refusal) := by
        rw [ending, Surroundings.endingOf, hapart.fault]
      rw [hending]
      exact ⟨hapart.failed, rfl, rfl, ExitCode.ofFaultKind_ne_success refusal.kind⟩
  case whole =>
    intro hfits
    cases hend with
    | inStep _ _ htogether =>
      refine ⟨by rw [htogether.outlet], ?_⟩
      rw [ending, Surroundings.endingOf, htogether.fault]
    | parted hapart => exact absurd hapart.beyond (Nat.not_lt.mpr hfits)

-- The pipe is closed in the middle of the second line, which came with the first chunk. Neither the
-- second chunk is read nor the other stream.
example :
    let stream : Duplex :=
      ⟨[.bytes (Utf8.octets "one\ntwo\n"), .bytes (Utf8.octets "more\n")], [], []⟩
    let limited := displaying (.styled false) ⟨none, 8⟩ [⟨some stream, false⟩, ⟨some stream, false⟩]
      false none (.ofCapacity (some 5) (.ofKind .brokenPipe))
    limited.written = Utf8.octets "one\nt" ∧ limited.ending.exitCode = ExitCode.failure ∧
      limited.follow.run.summary = ⟨1, 1, 8⟩ := by
  decide +kernel

end Follower

end MotionLink
