import Mathlib.Data.List.ReduceOption
import MotionLink.Proofs.Terminal.Failure

/-!
# Out of room

A line or a record is written in many pieces, and the room of an output can end inside any of them.
An output with room for `n` bytes has nevertheless taken the first `n` of what one that takes
everything has taken, and it fails in the step in which there are more than `n`. Its fault is handed
out behind that step and never again, though the log goes on to be shown.

The comparison is an equation. Cutting an output down to its room (`Outlet.limitedTo`) and writing
to it can be done in either order, up to the fault that waits to be handed out.

## Main definitions

* `Outlet.limitedTo` — what an output would be that had less room
* `Console` — a router with the terminal that shows its events
* `Console.take`, `Console.run` — steps, with the fault asked for behind each of them
* `Console.RunsOut` — what is to be expected when there is room for `n` bytes

## Main results

* `Outlet.foldl_put` — in whatever pieces bytes are written, the same ones are taken
* `Outlet.put_limitedTo` — writing with less room
* `Console.take_limitedTo`, `Console.after_limitedTo` — a step and a run with less room
* `Console.runsOut` — the first bytes are written, and the fault is handed out once
-/

namespace MotionLink

/-! ### Outputs -/

namespace Outlet

/-- In whatever pieces bytes are written, the same ones are taken. -/
theorem foldl_put (outlet : Outlet) (pieces : List Bytes) :
    pieces.foldl put outlet = outlet.put pieces.flatten := by
  induction pieces generalizing outlet with
  | nil => exact (put_nil outlet).symm
  | cons piece rest ih => rw [List.foldl_cons, ih, put_put, List.flatten_cons]

/-- What an output would be that had room for `n` bytes only, once its fault has been asked for. -/
def limitedTo (n : Nat) (refusal : Fault) (full : Outlet) : Outlet :=
  ⟨some n, refusal, (full.written.toList.take n).toArray, decide (n < full.written.size), none⟩

variable {n : Nat} {refusal : Fault} {full : Outlet}

theorem limitedTo_of_fits (h : full.written.size ≤ n) :
    limitedTo n refusal full = ⟨some n, refusal, full.written, false, none⟩ := by
  have hall : full.written.toList.take n = full.written.toList := List.take_of_length_le h
  rw [limitedTo, hall, decide_eq_false (Nat.not_lt.mpr h)]

theorem limitedTo_of_beyond (h : n < full.written.size) :
    limitedTo n refusal full =
      ⟨some n, refusal, (full.written.toList.take n).toArray, true, none⟩ := by
  rw [limitedTo, decide_eq_true h]

/-- Writing with less room leaves what the same bytes would leave, cut down to the room. The fault
is there if these bytes are the first that do not fit. -/
theorem put_limitedTo (h : full.TakesAll) (bytes : Bytes) :
    (limitedTo n refusal full).put bytes =
      { limitedTo n refusal (full.put bytes) with
        fault := if full.written.size ≤ n ∧ n < (full.put bytes).written.size then some refusal
          else none } := by
  by_cases hfull : full.written.size ≤ n
  · rw [limitedTo_of_fits hfull]
    by_cases hnext : (full.put bytes).written.size ≤ n
    · rw [put_of_fits h hnext, limitedTo_of_fits hnext, if_neg (by omega)]
    · have hbeyond : n < (full.put bytes).written.size := Nat.not_le.mp hnext
      obtain ⟨written, hput, hwritten⟩ := exists_put_of_beyond h hfull hbeyond
      rw [hput, limitedTo_of_beyond hbeyond, if_pos ⟨hfull, hbeyond⟩, ← hwritten,
        Array.toArray_toList]
  · -- The room has ended before, so these bytes come behind the cut.
    have hbeyond : n < full.written.size := Nat.not_le.mp hfull
    have hnext : n < (full.put bytes).written.size := by
      rw [h.size_put]
      exact Nat.lt_add_right _ hbeyond
    have hcut : (full.put bytes).written.toList.take n = full.written.toList.take n := by
      rw [h.toList_put, List.take_append_of_le_length hbeyond.le]
    rw [limitedTo_of_beyond hbeyond, put_of_failed rfl, limitedTo_of_beyond hnext, hcut,
      if_neg (fun hfirst => hfull hfirst.1)]

end Outlet

/-! ### A router with its terminal -/

/-- A router with the terminal that shows its events. -/
structure Console where
  router : Router
  terminal : Terminal

namespace Console

/-- What a router is given is shown, and then the fault is asked for. -/
def take (console : Console) (input : Router.Input) : Option Fault × Console :=
  let (events, router) := console.router.take input
  let (fault, terminal) := (console.terminal.showAll events).takeFault
  (fault, ⟨router, terminal⟩)

/-- What was handed out behind each step, and the console behind all of them. -/
def run (console : Console) : List Router.Input → List (Option Fault) × Console
  | [] => ([], console)
  | input :: rest =>
    ((console.take input).1 :: ((console.take input).2.run rest).1,
      ((console.take input).2.run rest).2)

/-- The console behind some steps. -/
def after (console : Console) (inputs : List Router.Input) : Console := (console.run inputs).2

/-- All that has been written. -/
def written (console : Console) : Bytes := console.terminal.outlet.written.toList

/-- The same console with less room. -/
def limitedTo (n : Nat) (refusal : Fault) (console : Console) : Console :=
  ⟨console.router, console.terminal.display, console.terminal.outlet.limitedTo n refusal⟩

variable {console : Console} {n : Nat} {refusal : Fault}

theorem after_cons (console : Console) (input : Router.Input) (rest : List Router.Input) :
    console.after (input :: rest) = (console.take input).2.after rest := rfl

theorem after_append (console : Console) (inputs more : List Router.Input) :
    console.after (inputs ++ more) = (console.after inputs).after more := by
  induction inputs generalizing console with
  | nil => rfl
  | cons input rest ih => exact ih (console.take input).2

/-- A step writes all that is shown at once, and leaves no fault behind. -/
theorem take_eq (console : Console) (input : Router.Input) :
    console.take input =
      let outlet := console.terminal.outlet.put
        (console.terminal.display.output (console.router.take input).1)
      (outlet.fault, ⟨(console.router.take input).2,
        console.terminal.display.after (console.router.take input).1,
        { outlet with fault := none }⟩) := by
  have hshown := Terminal.foldl_showEvent console.terminal (console.router.take input).1
  rw [← Terminal.showAll] at hshown
  simp only [take, hshown]
  rfl

theorem takesAll_take (h : console.terminal.outlet.TakesAll) (input : Router.Input) :
    (console.take input).2.terminal.outlet.TakesAll := by
  have hput := h.put (console.terminal.display.output (console.router.take input).1)
  rw [take_eq]
  exact ⟨hput.capacity, hput.failed, rfl⟩

theorem takesAll_after (h : console.terminal.outlet.TakesAll) (inputs : List Router.Input) :
    (console.after inputs).terminal.outlet.TakesAll := by
  induction inputs generalizing console with
  | nil => exact h
  | cons input rest ih => exact ih (takesAll_take h input)

/-- What has been written is not taken back. -/
theorem length_written_take_le (h : console.terminal.outlet.TakesAll) (input : Router.Input) :
    console.written.length ≤ (console.take input).2.written.length := by
  rw [take_eq, written, written, h.toList_put, List.length_append]
  exact Nat.le_add_right _ _

theorem length_written_after_le (h : console.terminal.outlet.TakesAll)
    (inputs : List Router.Input) :
    console.written.length ≤ (console.after inputs).written.length := by
  induction inputs generalizing console with
  | nil => exact Nat.le_refl _
  | cons input rest ih =>
    exact (length_written_take_le h input).trans (ih (takesAll_take h input))

/-! ### With less room -/

theorem written_limitedTo (console : Console) :
    (console.limitedTo n refusal).written = console.written.take n :=
  List.toList_toArray

/-- A step with less room leaves what it would leave otherwise, cut down to the room. The fault is
handed out if this is the step in which the room ends. -/
theorem take_limitedTo (h : console.terminal.outlet.TakesAll) (input : Router.Input) :
    (console.limitedTo n refusal).take input =
      (if console.written.length ≤ n ∧ n < (console.take input).2.written.length then some refusal
        else none, (console.take input).2.limitedTo n refusal) := by
  rw [take_eq, take_eq]
  simp only [limitedTo]
  rw [Outlet.put_limitedTo h]
  rfl

theorem after_limitedTo (h : console.terminal.outlet.TakesAll) (inputs : List Router.Input) :
    (console.limitedTo n refusal).after inputs = (console.after inputs).limitedTo n refusal := by
  induction inputs generalizing console with
  | nil => rfl
  | cons input rest ih => rw [after_cons, take_limitedTo h, ih (takesAll_take h input), after_cons]

/-- In a run the fault is handed out once, if the room ends in it. -/
theorem faults_limitedTo (h : console.terminal.outlet.TakesAll) (inputs : List Router.Input) :
    ((console.limitedTo n refusal).run inputs).1.reduceOption =
      if console.written.length ≤ n ∧ n < (console.after inputs).written.length then [refusal]
      else [] := by
  induction inputs generalizing console with
  | nil => rw [if_neg (fun hends => absurd hends.1 (Nat.not_le.mpr hends.2))]; rfl
  | cons input rest ih =>
    have hnext := takesAll_take h input
    have hfirst := length_written_take_le h input
    have hrest := length_written_after_le hnext rest
    rw [run, take_limitedTo h, after_cons]
    -- The room ends before this step, in it, in the rest of the run, or not at all.
    by_cases hends : console.written.length ≤ n ∧ n < (console.take input).2.written.length
    · rw [if_pos hends, if_pos ⟨hends.1, lt_of_lt_of_le hends.2 hrest⟩]
      dsimp only
      rw [List.reduceOption_cons_of_some, ih hnext, if_neg (by omega)]
    · rw [if_neg hends]
      dsimp only
      rw [List.reduceOption_cons_of_none, ih hnext]
      exact if_congr (by omega) rfl rfl

/-! ### What is to be expected -/

/-- What is to be expected of a console with room for `n` bytes, next to one that takes
everything. -/
structure RunsOut (n : Nat) (refusal : Fault) (limited endless : Console) : Prop where
  /-- the first bytes are written -/
  written : ∀ inputs, (limited.after inputs).written = (endless.after inputs).written.take n
  /-- the fault is handed out behind the step in which the room ends, and behind no other -/
  fault : ∀ inputs input, ((limited.after inputs).take input).1 =
    if (endless.after inputs).written.length ≤ n ∧
        n < (endless.after (inputs ++ [input])).written.length then some refusal
    else none
  /-- so it is handed out once, if the room ends at all -/
  once : ∀ inputs, (limited.run inputs).1.reduceOption =
    if n < (endless.after inputs).written.length then [refusal] else []
  /-- at the start, and when it is asked for again, there is none -/
  again : ∀ inputs, (limited.after inputs).terminal.takeFault.1 = none
  /-- all of this holds in whatever pieces the events of a step are written -/
  pieces : ∀ inputs events (pieces : List Bytes),
    pieces.flatten = (limited.after inputs).terminal.display.output events →
      pieces.foldl Outlet.put (limited.after inputs).terminal.outlet =
        ((limited.after inputs).terminal.showAll events).outlet

/-- Whatever a router is given and however its events are shown, an output with room for `n` bytes
takes the first of them, and its fault is handed out once. -/
theorem runsOut (router : Router) (display : Display) (n : Nat) (refusal : Fault) :
    RunsOut n refusal ⟨router, display, .ofCapacity (some n) refusal⟩
      ⟨router, display, .unlimited⟩ := by
  set endless : Console := ⟨router, display, .unlimited⟩
  have htakes : endless.terminal.outlet.TakesAll := ⟨rfl, rfl, rfl⟩
  have hstart : (⟨router, display, .ofCapacity (some n) refusal⟩ : Console) =
      endless.limitedTo n refusal := by
    rw [limitedTo, Outlet.limitedTo_of_fits (Nat.zero_le n)]
    rfl
  rw [hstart]
  constructor
  case written =>
    intro inputs
    rw [after_limitedTo htakes, written_limitedTo]
  case fault =>
    intro inputs input
    rw [after_limitedTo htakes, take_limitedTo (takesAll_after htakes inputs), after_append]
    rfl
  case once =>
    intro inputs
    rw [faults_limitedTo htakes]
    exact if_congr (and_iff_right (Nat.zero_le n)) rfl rfl
  case again =>
    intro inputs
    rw [after_limitedTo htakes]
    rfl
  case pieces =>
    intro inputs events pieces hpieces
    rw [Outlet.foldl_put, hpieces, Terminal.showAll, Terminal.foldl_showEvent]

-- The room ends inside the object of a record. All of it is written where the block ends.
example :
    let inputs : List Router.Input := [.line "ERROR".toList, .line "ParsedCommand \x7b".toList,
      .line "J1=\x1a0.5\x1b".toList, .flush, .line "more".toList]
    let console : Console := ⟨.start, .jsonLines none, .ofCapacity (some 50) (.ofKind .brokenPipe)⟩
    (console.run inputs).1 = [none, none, none, some (.ofKind .brokenPipe), none] ∧
      (console.after inputs).written =
        Utf8.octets "\x7b\"kind\":\"error\",\"line\":\"ERROR\"\x7d\n\x7b\"kind\":\"structure" := by
  decide +kernel

end Console

end MotionLink
