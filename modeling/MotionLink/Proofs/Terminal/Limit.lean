import MotionLink.Proofs.Log.Sessions
import MotionLink.Proofs.Log.Twins
import MotionLink.Proofs.Terminal.Objects

/-!
# The first records of a log

A monitor that is to show so many records shows the beginning of what it would show without a
limit, up to the event that completes the last of them. It stops reading early, what is left of a
chunk still goes through its router, and the ends of streams still come; none of this is shown.

## Main definitions

* `Monitor.firstRecords` — the events up to the one that completes the last record asked for
* `Monitor.IsShortest` — the same, told without a recursion
* `Follower.shown` — the screen of a monitor behind a run
* `Follower.ShowsFirst` — what is to be expected of a limit

## Main results

* `Monitor.firstRecords_isShortest` — the first records are the shortest beginning that holds them
* `Follower.shown_eq_foldl` — every screen that never fails is shown what a recorder is shown
* `Follower.shown_limit` — a limited run shows the first records of the run without a limit
* `Follower.showsFirst` — the same for calls, screens and lines of JSON
-/

namespace MotionLink

/-! ### The first records -/

namespace Monitor

/-- How many lines and records the events complete. -/
def completed (events : List Event) : Nat := events.countP completesRecord

/-- The events up to the one that completes the last of so many lines and records. -/
def firstRecords : Nat → List Event → List Event
  | 0, _ => []
  | _ + 1, [] => []
  | n + 1, e :: rest => e :: firstRecords (if completesRecord e then n else n + 1) rest

/-- The shortest beginning of some events that completes so many lines and records; all of them, if
they complete fewer. -/
structure IsShortest (n : Nat) (all part : List Event) : Prop where
  isPrefix : part <+: all
  fewer : completed all < n → part = all
  enough : n ≤ completed all → completed part = n
  least : n ≤ completed all → ∀ other, other <+: all → n ≤ completed other → part <+: other

variable {n : Nat} {all more : List Event}

theorem completed_append (all more : List Event) :
    completed (all ++ more) = completed all + completed more :=
  List.countP_append

theorem completed_cons (e : Event) (rest : List Event) :
    completed (e :: rest) = completed rest + if completesRecord e then 1 else 0 :=
  List.countP_cons

theorem firstRecords_prefix (n : Nat) (all : List Event) : firstRecords n all <+: all := by
  induction all generalizing n with
  | nil => cases n <;> exact List.prefix_rfl
  | cons e rest ih =>
    cases n with
    | zero => exact List.nil_prefix
    | succ n => exact (List.prefix_cons_inj e).mpr (ih _)

theorem completed_firstRecords (n : Nat) (all : List Event) :
    completed (firstRecords n all) = min n (completed all) := by
  induction all generalizing n with
  | nil => cases n <;> rfl
  | cons e rest ih =>
    cases n with
    | zero => exact (Nat.zero_min _).symm
    | succ n =>
      rw [firstRecords, completed_cons, completed_cons, ih]
      split <;> omega

theorem firstRecords_of_lt (h : completed all < n) : firstRecords n all = all := by
  induction all generalizing n with
  | nil => cases n <;> rfl
  | cons e rest ih =>
    rw [completed_cons] at h
    cases n with
    | zero => cases h
    | succ n =>
      have hrest : completed rest < if completesRecord e then n else n + 1 := by
        split at h <;> simp_all
      rw [firstRecords, ih hrest]

/-- Behind the last record asked for, more events make no difference. -/
theorem firstRecords_append_of_le (h : n ≤ completed all) (more : List Event) :
    firstRecords n (all ++ more) = firstRecords n all := by
  induction all generalizing n with
  | nil =>
    rw [Nat.le_zero.mp h]
    cases more <;> rfl
  | cons e rest ih =>
    rw [completed_cons] at h
    cases n with
    | zero => rfl
    | succ n =>
      have hrest : (if completesRecord e then n else n + 1) ≤ completed rest := by
        split at h <;> simp_all
      rw [List.cons_append, firstRecords, firstRecords, ih hrest]

/-- Before it, all events are among the first. -/
theorem firstRecords_append_of_lt (h : completed all < n) (more : List Event) :
    firstRecords n (all ++ more) = all ++ firstRecords (n - completed all) more := by
  induction all generalizing n with
  | nil => rfl
  | cons e rest ih =>
    rw [completed_cons] at h ⊢
    cases n with
    | zero => cases h
    | succ n =>
      have hrest : completed rest < if completesRecord e then n else n + 1 := by
        split at h <;> simp_all
      rw [List.cons_append, firstRecords, ih hrest, List.cons_append]
      congr 3
      split <;> omega

theorem firstRecords_isShortest (n : Nat) (all : List Event) :
    IsShortest n all (firstRecords n all) where
  isPrefix := firstRecords_prefix n all
  fewer := firstRecords_of_lt
  enough h := by rw [completed_firstRecords, Nat.min_eq_left h]
  least := by
    rintro - other ⟨more, rfl⟩ hother
    rw [firstRecords_append_of_le hother]
    exact firstRecords_prefix n other

end Monitor

namespace JsonLines

open Monitor

/-- Every line and every record becomes one object, so the first records become the first
objects. -/
theorem entries_firstRecords {all : List Event} {inRecord : Bool} (n : Nat)
    (h : Mark.follow false (all.map Event.mark) = some inRecord) :
    entries none (firstRecords n all) = (entries none all).take n := by
  by_cases hfewer : completed all < n
  · have hlength := (keeps_entries h).completes.length_eq
    rw [length_moments] at hlength
    rw [firstRecords_of_lt hfewer, List.take_of_length_le]
    exact hlength ▸ hfewer.le
  · obtain ⟨more, hmore⟩ := firstRecords_prefix n all
    have henough : completed (firstRecords n all) = n := by
      rw [completed_firstRecords, Nat.min_eq_left (Nat.not_lt.mp hfewer)]
    -- The first records can be followed, as a beginning of what can be.
    have hfollow := h
    rw [← hmore, List.map_append, Mark.follow_append] at hfollow
    obtain ⟨between, hbetween, -⟩ := Option.bind_eq_some_iff.mp hfollow
    have hlength := (keeps_entries hbetween).completes.length_eq
    rw [length_moments] at hlength
    nth_rewrite 2 [← hmore]
    rw [entries_append, List.take_left' (hlength.symm.trans henough)]

end JsonLines

/-! ### One monitor -/

/-- What a monitor hands to its router for what it is told. -/
def Tiding.inputs : Tiding → List Router.Input
  | .state .disconnected => [.flush]
  | .state .connecting => []
  | .state .connected => []
  | .chunk bytes => [.chunk bytes]

namespace Monitor

variable {ρ : Type} {on : Screen ρ} {screen : ρ} {n : Nat}

/-- While the output is sound, a monitor shows what its router makes of what it is told. -/
theorem tell_eq_showAll {monitor : Monitor ρ}
    (h : on.takeFault monitor.screen = (none, monitor.screen)) (tiding : Tiding) :
    (listener on).tell monitor tiding =
      showAll on { monitor with router := (monitor.router.run tiding.inputs).2 }
        (monitor.router.run tiding.inputs).1 := by
  cases tiding with
  | chunk bytes =>
    rw [Tiding.inputs, Router.run, Router.run, List.append_nil]
    rfl
  | state state =>
    cases state with
    | disconnected =>
      rw [Tiding.inputs, Router.run, Router.run, List.append_nil]
      rfl
    | connecting => exact (checkOutput_eq h).symm
    | connected => exact (checkOutput_eq h).symm

variable {monitor : Monitor ρ}

theorem isDone_eq (hlimit : monitor.limit = some n) :
    monitor.isDone = decide (n ≤ monitor.seen) := by
  rw [isDone, hlimit]

/-- A monitor with more events shown and counted. -/
def advance (on : Screen ρ) (monitor : Monitor ρ) (events : List Event) : Monitor ρ :=
  { monitor with
    seen := monitor.seen + completed events
    screen := events.foldl on.showEvent monitor.screen }

theorem advance_nil (monitor : Monitor ρ) : monitor.advance on [] = monitor := rfl

theorem advance_advance (monitor : Monitor ρ) (events more : List Event) :
    (monitor.advance on events).advance on more = monitor.advance on (events ++ more) := by
  simp [advance, completed_append, Nat.add_assoc]

/-- One event: it is shown unless the monitor is done, and may be the one that makes it so. -/
theorem showEvent_eq (monitor : Monitor ρ) (asked : Bool) (e : Event) :
    showEvent on (monitor, asked) e =
      if monitor.isDone then (monitor, asked)
      else (monitor.advance on [e],
        asked || (completesRecord e && (monitor.advance on [e]).isDone)) := by
  obtain ⟨router, limit, seen, shown, fault⟩ := monitor
  by_cases he : completesRecord e = true
  · simp [showEvent, advance, completed, he]
  · simp [showEvent, advance, completed, he]

theorem showEvent_of_not_done (hlimit : monitor.limit = some n) (hseen : monitor.seen < n)
    (asked : Bool) (e : Event) :
    showEvent on (monitor, asked) e =
      (monitor.advance on [e], asked || decide (n ≤ monitor.seen + completed [e])) := by
  have hgoing : ¬monitor.isDone = true := by simpa [isDone_eq hlimit] using hseen
  have hnext : (monitor.advance on [e]).limit = some n := hlimit
  have hdone : (completesRecord e && (monitor.advance on [e]).isDone) =
      decide (n ≤ monitor.seen + completed [e]) := by
    rw [isDone_eq hnext]
    by_cases he : completesRecord e = true
    · rw [he, Bool.true_and]
      rfl
    · simp [completed, he, hseen]
  rw [showEvent_eq, if_neg hgoing, hdone]

theorem firstRecords_cons (h : 0 < n) (e : Event) (rest : List Event) :
    firstRecords n (e :: rest) = [e] ++ firstRecords (n - completed [e]) rest := by
  cases n with
  | zero => cases h
  | succ n =>
    rw [firstRecords, completed, List.countP_singleton]
    split <;> rfl

/-- Events shown under a limit: the first of them are shown, and a stop is asked for with the one
that completes the last record. -/
theorem foldl_showEvent_limited (hlimit : monitor.limit = some n) (asked : Bool)
    (events : List Event) :
    events.foldl (showEvent on) (monitor, asked) =
      (monitor.advance on (firstRecords (n - monitor.seen) events),
        asked || (decide (monitor.seen < n) && decide (n ≤ monitor.seen + completed events))) := by
  induction events generalizing monitor asked with
  | nil =>
    have hnone : firstRecords (n - monitor.seen) [] = [] := by cases n - monitor.seen <;> rfl
    rw [List.foldl_nil, hnone, advance_nil]
    simp [completed]
  | cons e rest ih =>
    rw [List.foldl_cons]
    by_cases hseen : monitor.seen < n
    · have hnext : (monitor.advance on [e]).limit = some n := hlimit
      have hseen' : (monitor.advance on [e]).seen = monitor.seen + completed [e] := rfl
      have hcompleted : completed (e :: rest) = completed [e] + completed rest :=
        completed_append [e] rest
      rw [showEvent_of_not_done hlimit hseen, ih hnext, advance_advance, hseen', ← Nat.sub_sub,
        ← firstRecords_cons (Nat.sub_pos_of_lt hseen), hcompleted]
      congr 1
      by_cases hlast : n ≤ monitor.seen + completed [e]
      · have hall : n ≤ monitor.seen + (completed [e] + completed rest) := by omega
        simp [hseen, hlast, hall]
      · simp [hseen, hlast, Nat.not_le.mp hlast, Nat.add_assoc]
    · have hdone : monitor.isDone = true := by simpa [isDone_eq hlimit] using hseen
      rw [showEvent_eq, if_pos hdone, ih hlimit]
      simp [hseen, Nat.sub_eq_zero_of_le (Nat.not_lt.mp hseen), firstRecords]

/-! ### Any screen and a recorder -/

/-- A monitor has shown on its screen what another one has recorded. -/
structure Mirrors (on : Screen ρ) (screen : ρ) (monitor : Monitor ρ)
    (other : Monitor (List Event)) : Prop where
  router : monitor.router = other.router
  limit : monitor.limit = other.limit
  seen : monitor.seen = other.seen
  screen : monitor.screen = other.screen.foldl on.showEvent screen

variable {other : Monitor (List Event)}

/-- They also agree on whether to stop. -/
def Agree (on : Screen ρ) (screen : ρ) (shown : Monitor ρ × Bool)
    (recorded : Monitor (List Event) × Bool) : Prop :=
  shown.2 = recorded.2 ∧ shown.1.Mirrors on screen recorded.1

theorem Mirrors.isDone_eq (h : monitor.Mirrors on screen other) :
    monitor.isDone = other.isDone := by
  rw [isDone, isDone, h.limit, h.seen]

theorem Mirrors.advance (h : monitor.Mirrors on screen other) (e : Event) :
    (monitor.advance on [e]).Mirrors on screen (other.advance .recorder [e]) where
  router := h.router
  limit := h.limit
  seen := congrArg (· + completed [e]) h.seen
  screen := by
    change on.showEvent monitor.screen e = (other.screen ++ [e]).foldl on.showEvent screen
    rw [h.screen, List.foldl_append]
    rfl

theorem Agree.showEvent {shown : Monitor ρ × Bool} {recorded : Monitor (List Event) × Bool}
    (h : Agree on screen shown recorded) (e : Event) :
    Agree on screen (showEvent on shown e) (showEvent .recorder recorded e) := by
  obtain ⟨monitor, asked⟩ := shown
  obtain ⟨other, asked'⟩ := recorded
  obtain ⟨hasked, hmirrors⟩ := h
  obtain rfl : asked = asked' := hasked
  rw [showEvent_eq, showEvent_eq, hmirrors.isDone_eq, (hmirrors.advance e).isDone_eq]
  split
  · exact ⟨rfl, hmirrors⟩
  · exact ⟨rfl, hmirrors.advance e⟩

theorem Agree.checkOutput (hon : on.NeverFails screen) {shown : Monitor ρ × Bool}
    {recorded : Monitor (List Event) × Bool} (h : Agree on screen shown recorded) :
    Agree on screen (checkOutput on shown) (checkOutput .recorder recorded) := by
  have hsound : on.takeFault shown.1.screen = (none, shown.1.screen) := by
    rw [h.2.screen]
    exact hon _
  rw [checkOutput_eq hsound, checkOutput_eq rfl]
  exact h

theorem Mirrors.showAll (hon : on.NeverFails screen) (h : monitor.Mirrors on screen other)
    (events : List Event) :
    Agree on screen (showAll on monitor events) (showAll .recorder other events) := by
  refine Agree.checkOutput hon ?_
  exact List.foldl_rel ⟨rfl, h⟩ fun e _ _ _ hsofar => hsofar.showEvent e

/-- A monitor on a screen that never fails and one that records answer alike. -/
theorem twins_recorder (hon : on.NeverFails screen) :
    (listener on).Twins (listener .recorder) (Mirrors on screen) fun _ _ => False where
  tell := by
    intro monitor other h tiding
    have hsound : on.takeFault monitor.screen = (none, monitor.screen) := by
      rw [h.screen]
      exact hon _
    rw [tell_eq_showAll hsound, tell_eq_showAll rfl, h.router]
    refine .inl (Mirrors.showAll hon ?_ _)
    exact ⟨rfl, h.limit, h.seen, h.screen⟩
  left _ _ _ h := h
  right _ _ _ h := h

/-! ### A limited recorder and one without a limit -/

theorem foldl_recorder (shown events : List Event) :
    events.foldl Screen.recorder.showEvent shown = shown ++ events := by
  induction events generalizing shown with
  | nil => exact (List.append_nil shown).symm
  | cons e rest ih =>
    rw [List.foldl_cons, ih]
    exact List.append_assoc shown [e] rest

/-- What a recorder with a limit and one without have in common. -/
structure Shares (n : Nat) (limited unlimited : Monitor (List Event)) : Prop where
  limit : limited.limit = some n
  noLimit : unlimited.limit = none
  screen : limited.screen = firstRecords n unlimited.screen

/-- Both recorders have shown the same so far, and more is to come. -/
structure Below (n : Nat) (limited unlimited : Monitor (List Event)) : Prop
    extends Shares n limited unlimited where
  router : limited.router = unlimited.router
  seen : limited.seen = completed unlimited.screen
  fewer : completed unlimited.screen < n

/-- The limited recorder has shown all that it is to show. -/
structure Reached (n : Nat) (limited unlimited : Monitor (List Event)) : Prop
    extends Shares n limited unlimited where
  done : n ≤ limited.seen
  enough : n ≤ completed unlimited.screen

theorem showAll_limited {recorder : Monitor (List Event)} (h : recorder.limit = some n)
    (events : List Event) :
    showAll .recorder recorder events =
      (recorder.advance .recorder (firstRecords (n - recorder.seen) events),
        decide (recorder.seen < n) && decide (n ≤ recorder.seen + completed events)) := by
  rw [showAll, foldl_showEvent_limited h, checkOutput_eq rfl, Bool.false_or]

theorem showAll_unlimited {recorder : Monitor (List Event)} (h : recorder.limit = none)
    (events : List Event) :
    ∃ seen, showAll .recorder recorder events =
      ({ recorder with seen, screen := recorder.screen ++ events }, false) := by
  obtain ⟨seen, hfold⟩ := @exists_foldl_showEvent _ Screen.recorder _ h events
  refine ⟨seen, ?_⟩
  rw [showAll, hfold, checkOutput_eq rfl, foldl_recorder]

/-- More events, given to both while more is to come. -/
theorem Below.showAll {limited unlimited : Monitor (List Event)} (h : Below n limited unlimited)
    (events : List Event) :
    (showAll .recorder limited events).2 = (showAll .recorder unlimited events).2 ∧
        Below n (showAll .recorder limited events).1 (showAll .recorder unlimited events).1 ∨
      Reached n (showAll .recorder limited events).1 (showAll .recorder unlimited events).1 := by
  obtain ⟨seen, hunlimited⟩ := showAll_unlimited h.noLimit events
  have hscreen : limited.screen = unlimited.screen := h.screen.trans (firstRecords_of_lt h.fewer)
  have hfirst : (firstRecords (n - limited.seen) events).foldl Screen.recorder.showEvent
      limited.screen = firstRecords n (unlimited.screen ++ events) := by
    rw [foldl_recorder, hscreen, h.seen, firstRecords_append_of_lt h.fewer]
  rw [hunlimited, showAll_limited h.limit]
  have hshares : Shares n
      (limited.advance .recorder (firstRecords (n - limited.seen) events))
      { unlimited with seen, screen := unlimited.screen ++ events } :=
    ⟨h.limit, h.noLimit, hfirst⟩
  have hseen := h.seen
  have hfewer := h.fewer
  by_cases hreached : n ≤ limited.seen + completed events
  · refine .inr ⟨hshares, ?_, ?_⟩
    · change n ≤ limited.seen + completed (firstRecords (n - limited.seen) events)
      rw [completed_firstRecords]
      omega
    · change n ≤ completed (unlimited.screen ++ events)
      rw [completed_append]
      omega
  · refine .inl ⟨by simp [hreached], hshares, h.router, ?_, ?_⟩
    · change limited.seen + completed (firstRecords (n - limited.seen) events) =
        completed (unlimited.screen ++ events)
      rw [completed_firstRecords, completed_append]
      omega
    · change completed (unlimited.screen ++ events) < n
      rw [completed_append]
      omega

/-- Behind the last record the limited recorder shows nothing more. -/
theorem Reached.showAll_left {limited unlimited : Monitor (List Event)}
    (h : Reached n limited unlimited) (events : List Event) :
    Reached n (showAll .recorder limited events).1 unlimited := by
  have hnone : firstRecords (n - limited.seen) events = [] := by
    rw [Nat.sub_eq_zero_of_le h.done]
    cases events <;> rfl
  rw [showAll_limited h.limit, hnone, advance_nil]
  exact h

/-- Whatever else is shown without a limit comes behind the first records. -/
theorem Reached.showAll_right {limited unlimited : Monitor (List Event)}
    (h : Reached n limited unlimited) (events : List Event) :
    Reached n limited (showAll .recorder unlimited events).1 := by
  obtain ⟨seen, hunlimited⟩ := showAll_unlimited h.noLimit events
  rw [hunlimited]
  refine ⟨⟨h.limit, h.noLimit, ?_⟩, h.done, ?_⟩
  · change limited.screen = firstRecords n (unlimited.screen ++ events)
    rw [firstRecords_append_of_le h.enough]
    exact h.screen
  · change n ≤ completed (unlimited.screen ++ events)
    rw [completed_append]
    exact Nat.le_add_right_of_le h.enough

/-- The two recorders answer alike until the last record is shown, and from then on the limited
one has shown the first records of the other. -/
theorem twins_limited (n : Nat) :
    (listener .recorder).Twins (listener .recorder) (Below n) (Reached n) where
  tell := by
    intro limited unlimited h tiding
    rw [tell_eq_showAll rfl, tell_eq_showAll rfl, h.router]
    refine Below.showAll ?_ _
    exact ⟨⟨h.limit, h.noLimit, h.screen⟩, rfl, h.seen, h.fewer⟩
  left := by
    intro unlimited limited tiding h
    rw [tell_eq_showAll rfl]
    refine Reached.showAll_left ?_ _
    exact ⟨⟨h.limit, h.noLimit, h.screen⟩, h.done, h.enough⟩
  right := by
    intro limited unlimited tiding h
    rw [tell_eq_showAll rfl]
    refine Reached.showAll_right ?_ _
    exact ⟨⟨h.limit, h.noLimit, h.screen⟩, h.done, h.enough⟩

end Monitor

/-! ### Whole runs -/

namespace Follower

open Monitor

variable {ρ : Type} {on : Screen ρ} {screen : ρ}

/-- The screen of a monitor behind a run over some attempts to connect. -/
def shown (on : Screen ρ) (screen : ρ) (settings : FollowSettings) (attempts : List Attempt)
    (stopped : Bool) (limit : Option Nat) : ρ :=
  (follow ⟨settings, listener on, attempts,
    Run.start (Monitor.start limit screen) stopped⟩).run.listener.screen

/-- All that a monitor hands to its screen in a run. -/
def calls (settings : FollowSettings) (attempts : List Attempt) (stopped : Bool)
    (limit : Option Nat) : List Event :=
  shown .recorder [] settings attempts stopped limit

/-- A screen that never fails is shown exactly what a recorder is shown. -/
theorem shown_eq_foldl (hon : on.NeverFails screen) (settings : FollowSettings)
    (attempts : List Attempt) (stopped : Bool) (limit : Option Nat) :
    shown on screen settings attempts stopped limit =
      (calls settings attempts stopped limit).foldl on.showEvent screen := by
  have hstart : Run.Paired (Mirrors on screen) (fun _ _ => False)
      (Run.start (Monitor.start limit screen) stopped)
      (Run.start (Monitor.start limit []) stopped) := .inStep rfl rfl ⟨rfl, rfl, rfl, rfl⟩
  cases paired_follow (twins_recorder hon) settings attempts hstart with
  | inStep _ _ hmirrors => exact hmirrors.screen
  | parted habsurd => exact habsurd.elim

/-- A limited run hands over the first records of what the run without a limit hands over. -/
theorem calls_limit (n : Nat) (settings : FollowSettings) (attempts : List Attempt)
    (stopped : Bool) :
    calls settings attempts stopped (some n) =
      firstRecords n (calls settings attempts stopped none) := by
  have hstart : Run.Paired (Below n) (Reached n) (Run.start (Monitor.start (some n) []) stopped)
      (Run.start (Monitor.start none []) stopped) := by
    cases n with
    -- A monitor that is to show nothing is done before it is told anything.
    | zero => exact .parted ⟨⟨rfl, rfl, rfl⟩, Nat.le_refl 0, Nat.le_refl 0⟩
    | succ n => exact .inStep rfl rfl ⟨⟨rfl, rfl, rfl⟩, rfl, rfl, Nat.succ_pos n⟩
  cases paired_follow (twins_limited n) settings attempts hstart with
  | inStep _ _ hbelow => exact hbelow.screen
  | parted hreached => exact hreached.screen

/-- Without a limit, all that is handed over is what the router makes of some inputs. -/
theorem exists_calls_eq (settings : FollowSettings) (attempts : List Attempt) (stopped : Bool) :
    ∃ inputs, calls settings attempts stopped none = (Router.start.run inputs).1 := by
  have hpreserves : (listener .recorder).Preserves fun monitor : Monitor (List Event) =>
      monitor.limit = none ∧
        ∃ inputs, Router.start.run inputs = (monitor.screen, monitor.router) := by
    rintro monitor tiding ⟨hlimit, inputs, hrun⟩
    have hrouted : ({ monitor with router := (monitor.router.run tiding.inputs).2 } :
        Monitor (List Event)).limit = none := hlimit
    obtain ⟨seen, hshown⟩ := showAll_unlimited hrouted (monitor.router.run tiding.inputs).1
    rw [tell_eq_showAll rfl, hshown]
    refine ⟨hlimit, inputs ++ tiding.inputs, ?_⟩
    rw [Router.run_append, hrun]
  obtain ⟨-, inputs, hrun⟩ := hpreserves.of_hears
    (hears_follow ⟨settings, listener .recorder, attempts,
      Run.start (Monitor.start none []) stopped⟩) ⟨rfl, [], rfl⟩
  exact ⟨inputs, congrArg Prod.fst hrun.symm⟩

/-- All that a monitor writes as JSON in a run. -/
def jsonOutput (settings : FollowSettings) (attempts : List Attempt) (stopped : Bool)
    (limit : Option Nat) : Bytes :=
  (shown Terminal.screen ⟨.jsonLines none, .unlimited⟩ settings attempts stopped
    limit).outlet.written.toList

theorem jsonOutput_eq (settings : FollowSettings) (attempts : List Attempt) (stopped : Bool)
    (limit : Option Nat) :
    jsonOutput settings attempts stopped limit =
      (JsonLines.entries none (calls settings attempts stopped limit)).flatMap fun entry =>
        Utf8.encode entry.json.chars ++ [0x0A] := by
  have htakes : (⟨.jsonLines none, .unlimited⟩ : Terminal).outlet.TakesAll := ⟨rfl, rfl, rfl⟩
  rw [jsonOutput, shown_eq_foldl (Terminal.screen_neverFails htakes)]
  exact (Terminal.written_unlimited _).trans (Terminal.encode_entryLine _)

/-- The objects of the first records are the first objects. -/
theorem entries_calls_limit (n : Nat) (settings : FollowSettings) (attempts : List Attempt)
    (stopped : Bool) :
    JsonLines.entries none (calls settings attempts stopped (some n)) =
      (JsonLines.entries none (calls settings attempts stopped none)).take n := by
  obtain ⟨inputs, hcalls⟩ := exists_calls_eq settings attempts stopped
  rw [calls_limit, hcalls]
  exact JsonLines.entries_firstRecords n (Mark.carries_upTo _ _ (Router.word_mem inputs))

/-- What is to be expected of a monitor that is to show so many records, compared with one that
meets the same attempts to connect and has no limit. -/
structure ShowsFirst (settings : FollowSettings) (attempts : List Attempt) (stopped : Bool)
    (n : Nat) : Prop where
  /-- it hands over the shortest beginning that holds so many records, or all there is -/
  calls : IsShortest n (calls settings attempts stopped none)
    (calls settings attempts stopped (some n))
  /-- these are shown on every screen that never fails, with a limit or without -/
  screens (ρ : Type) (on : Screen ρ) (screen : ρ) (hon : on.NeverFails screen)
    (limit : Option Nat) :
    shown on screen settings attempts stopped limit =
      (Follower.calls settings attempts stopped limit).foldl on.showEvent screen
  /-- as JSON, it writes the first lines -/
  lines : ∃ lines : List Bytes, (∀ line ∈ lines, 0x0A ∉ line) ∧
    jsonOutput settings attempts stopped none = lines.flatMap (· ++ [0x0A]) ∧
    jsonOutput settings attempts stopped (some n) = (lines.take n).flatMap (· ++ [0x0A])

/-- A monitor with a limit shows the first records of what it would show without one. -/
theorem showsFirst (settings : FollowSettings) (attempts : List Attempt) (stopped : Bool)
    (n : Nat) : ShowsFirst settings attempts stopped n where
  calls := by
    rw [calls_limit]
    exact firstRecords_isShortest n _
  screens _ _ _ hon limit := shown_eq_foldl hon settings attempts stopped limit
  lines := by
    refine ⟨(JsonLines.entries none (Follower.calls settings attempts stopped none)).map
      fun entry => Utf8.encode entry.json.chars, ?_, ?_, ?_⟩
    · exact List.forall_mem_map.mpr fun entry _ => Terminal.newline_not_mem_encode entry.json
    · rw [jsonOutput_eq, List.flatMap_map]
    · rw [jsonOutput_eq, entries_calls_limit, ← List.map_take, List.flatMap_map]

-- A line between those of a block is complete before the block is, and so it is the one record
-- shown; the beginning of the block has been handed over by then.
example :
    let block := Utf8.octets "ParsedCommand \x7b\nID: a\nERROR\nTool: b\n\x7d\n"
    (calls ⟨none, 64⟩ [⟨some ⟨[.bytes block], [], []⟩, false⟩] false (some 1)).map Event.mark =
      [.header, .literal, .endLine, .line] := by
  decide +kernel

end Follower

end MotionLink
