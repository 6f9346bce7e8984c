import MotionLink.Proofs.Log.Chunks
import MotionLink.Proofs.Wire.Reading
import MotionLink.Terminal.Monitor

/-!
# Sessions are shown apart

A monitor that follows the log over many sessions shows for each of them what it would show for
that session alone, had its bytes come as one chunk. The end of a session is told once, and then
the router is as good as new.

## Main definitions

* `Router.whole` — all that is shown for the bytes of one stream
* `Attempt.events` — all that is shown for an attempt to connect
* `Screen.NeverFails` — the output takes whatever is shown
* `Run.Shows` — what a monitor has shown so far, and how it goes on

## Main results

* `Run.Shows.readAll` — reading a stream shows what its bytes show as one chunk
* `Run.Shows.attempt` — each attempt shows its own events and leaves nothing behind
* `Follower.screen_follow` — a run shows the events of all attempts, in order
-/

namespace MotionLink

/-- All that is shown for the bytes of one stream, up to its end. -/
def Router.whole (bytes : Bytes) : List Event :=
  (start.feed bytes).1 ++ (start.feed bytes).2.flush.1

/-- A stream takes the hello whole and flushes it, if there is one. -/
def Duplex.takesHello (stream : Duplex) : Option Bytes → Bool
  | none => true
  | some hello =>
    (stream.sink.transmit hello).1.isNone && (stream.sink.transmit hello).2.flush.1.isNone

/-- A stream is greeted well if it takes the hello. -/
theorem Run.fst_greet {σ : Type} (run : Run σ) (hello : Option Bytes) (stream : Duplex) :
    (run.greet hello stream).1 = stream.takesHello hello := by
  cases hello with
  | none => rfl
  | some hello =>
    rw [greet, Duplex.takesHello]
    rcases stream.sink.transmit hello with ⟨_ | stop, sink⟩
    · rfl
    · rfl

/-- The bytes that a session delivers: none when the stream did not take the hello. -/
def Duplex.delivered (hello : Option Bytes) (stream : Duplex) : Bytes :=
  if stream.takesHello hello then stream.reads.delivered else []

/-- All that is shown for an attempt to connect. -/
def Attempt.events (hello : Option Bytes) (a : Attempt) : List Event :=
  match a.stream with
  | none => []
  | some stream => Router.whole (stream.delivered hello)

/-- The output takes whatever is shown. -/
def Screen.NeverFails {ρ : Type} (on : Screen ρ) (screen : ρ) : Prop :=
  ∀ events : List Event,
    on.takeFault (events.foldl on.showEvent screen) = (none, events.foldl on.showEvent screen)

/-! ### Screens -/

namespace Screen

/-- A screen that keeps what it is shown. -/
def recorder : Screen (List Event) := ⟨fun shown e => shown ++ [e], fun shown => (none, shown)⟩

theorem recorder_neverFails (shown : List Event) : recorder.NeverFails shown := fun _ => rfl

end Screen

/-- An output without a limit that has not failed. -/
structure Outlet.TakesAll (outlet : Outlet) : Prop where
  capacity : outlet.capacity = none
  failed : outlet.failed = false
  fault : outlet.fault = none

theorem Outlet.TakesAll.put {outlet : Outlet} (h : outlet.TakesAll) (bytes : Bytes) :
    (outlet.put bytes).TakesAll := by
  obtain ⟨capacity, refusal, written, failed, fault⟩ := outlet
  obtain ⟨rfl, rfl, rfl⟩ := h
  have hfits : ¬(Outlet.fitting ⟨none, refusal, written, false, none⟩ bytes).length <
      bytes.length := by simp [fitting]
  refine ⟨rfl, ?_, ?_⟩
  · simpa [Outlet.put] using hfits
  · simp [Outlet.put, hfits]

theorem Terminal.takesAll_foldl {terminal : Terminal} (h : terminal.outlet.TakesAll)
    (events : List Event) : (events.foldl showEvent terminal).outlet.TakesAll := by
  induction events generalizing terminal with
  | nil => exact h
  | cons e events ih => exact ih (h.put (Utf8.encode (terminal.display.step e).1))

/-- A terminal never fails while its output takes everything. -/
theorem Terminal.screen_neverFails {terminal : Terminal} (h : terminal.outlet.TakesAll) :
    screen.NeverFails terminal := by
  intro events
  have hfault := (takesAll_foldl h events).fault
  change (events.foldl showEvent terminal).takeFault = (none, events.foldl showEvent terminal)
  generalize events.foldl showEvent terminal = shown at hfault
  obtain ⟨display, capacity, refusal, written, failed, fault⟩ := shown
  obtain rfl : fault = none := hfault
  rfl

variable {ρ : Type} {on : Screen ρ} {screen : ρ} {shown : List Event}

/-! ### The monitor -/

namespace Monitor

variable {monitor : Monitor ρ}

/-- A monitor without a limit that has shown the events on the screen. -/
structure HasShown (on : Screen ρ) (screen : ρ) (shown : List Event) (monitor : Monitor ρ) :
    Prop where
  limit : monitor.limit = none
  screen : monitor.screen = shown.foldl on.showEvent screen

theorem exists_foldl_showEvent (hlimit : monitor.limit = none) (events : List Event) :
    ∃ seen, events.foldl (showEvent on) (monitor, false) =
      ({ monitor with screen := events.foldl on.showEvent monitor.screen, seen }, false) := by
  induction events generalizing monitor with
  | nil => exact ⟨monitor.seen, rfl⟩
  | cons e events ih =>
    obtain ⟨router, limit, seen, screen, fault⟩ := monitor
    obtain rfl : limit = none := hlimit
    have hshow : ∃ seen', showEvent on (⟨router, none, seen, screen, fault⟩, false) e =
        (⟨router, none, seen', on.showEvent screen e, fault⟩, false) := by
      simp only [showEvent, isDone, Bool.false_eq_true, if_false]
      split
      · exact ⟨seen + 1, rfl⟩
      · exact ⟨seen, rfl⟩
    obtain ⟨seen', hshow⟩ := hshow
    rw [List.foldl_cons, List.foldl_cons, hshow]
    exact ih rfl

theorem checkOutput_eq {asked : Bool}
    (h : on.takeFault monitor.screen = (none, monitor.screen)) :
    checkOutput on (monitor, asked) = (monitor, asked) := by
  simp only [checkOutput, h]

/-- Events that are shown come behind those shown before, and no stop is asked for. -/
theorem HasShown.showAll (hon : on.NeverFails screen) (h : monitor.HasShown on screen shown)
    (events : List Event) :
    (showAll on monitor events).2 = false ∧
      (showAll on monitor events).1.HasShown on screen (shown ++ events) ∧
      (showAll on monitor events).1.router = monitor.router := by
  obtain ⟨seen, hfold⟩ := exists_foldl_showEvent h.limit events
  have hscreen : events.foldl on.showEvent monitor.screen =
      (shown ++ events).foldl on.showEvent screen := by
    rw [h.screen, List.foldl_append]
  rw [Monitor.showAll, hfold, hscreen, checkOutput_eq (hon (shown ++ events))]
  exact ⟨rfl, ⟨h.limit, rfl⟩, rfl⟩

theorem HasShown.onChunk (hon : on.NeverFails screen) (h : monitor.HasShown on screen shown)
    (chunk : Bytes) :
    (monitor.onChunk on chunk).2 = false ∧
      (monitor.onChunk on chunk).1.HasShown on screen (shown ++ (monitor.router.feed chunk).1) ∧
      (monitor.onChunk on chunk).1.router = (monitor.router.feed chunk).2 := by
  have hrouted :
      HasShown on screen shown { monitor with router := (monitor.router.feed chunk).2 } :=
    ⟨h.limit, h.screen⟩
  exact hrouted.showAll hon (monitor.router.feed chunk).1

theorem HasShown.onEnd (hon : on.NeverFails screen) (h : monitor.HasShown on screen shown) :
    (monitor.onEnd on).2 = false ∧
      (monitor.onEnd on).1.HasShown on screen (shown ++ monitor.router.flush.1) ∧
      (monitor.onEnd on).1.router = monitor.router.flush.2 := by
  have hrouted : HasShown on screen shown { monitor with router := monitor.router.flush.2 } :=
    ⟨h.limit, h.screen⟩
  exact hrouted.showAll hon monitor.router.flush.1

end Monitor

/-! ### One session -/

namespace Run

variable {run : Run (Monitor ρ)} {stopped : Bool} {state : LinkState} {router other : Router}

/-- A run whose monitor has shown the events and goes on as the router would. -/
structure Shows (on : Screen ρ) (screen : ρ) (stopped : Bool) (state : LinkState)
    (router : Router) (shown : List Event) (run : Run (Monitor ρ)) : Prop where
  stopped : run.stopped = stopped
  state : run.state = state
  monitor : run.listener.HasShown on screen shown
  router : Router.Same run.listener.router router

namespace Shows

theorem note (h : run.Shows on screen stopped state router shown) (activity : Activity) :
    (run.note activity).Shows on screen stopped state router shown :=
  ⟨h.stopped, h.state, h.monitor, h.router⟩

theorem stopIf (h : run.Shows on screen stopped state router shown) (asked : Bool) :
    (run.stopIf asked).Shows on screen (stopped || asked) state router shown :=
  ⟨congrArg (· || asked) h.stopped, h.state, h.monitor, h.router⟩

theorem withSummary (h : run.Shows on screen stopped state router shown) (summary : Summary) :
    Shows on screen stopped state router shown { run with summary } :=
  ⟨h.stopped, h.state, h.monitor, h.router⟩

theorem withRouter (h : run.Shows on screen stopped state router shown)
    (hsame : Router.Same router other) : run.Shows on screen stopped state other shown :=
  ⟨h.stopped, h.state, h.monitor, h.router.trans hsame⟩

theorem deliver (hon : on.NeverFails screen)
    (h : run.Shows on screen stopped state router shown) (chunk : Bytes) :
    (run.deliver (Monitor.listener on) chunk).Shows on screen stopped state
      (router.feed chunk).2 (shown ++ (router.feed chunk).1) := by
  obtain ⟨hasked, hmonitor, hrouter⟩ := h.monitor.onChunk hon chunk
  obtain ⟨hevents, hsame⟩ := Router.feed_same h.router chunk
  refine ⟨?_, h.state, ?_, ?_⟩
  · change (run.stopped || (run.listener.onChunk on chunk).2) = stopped
    rw [hasked, h.stopped, Bool.or_false]
  · rw [← hevents]
    exact hmonitor
  · change Router.Same (run.listener.onChunk on chunk).1.router _
    rw [hrouter]
    exact hsame

/-- Only the end of a session is told to the router. -/
theorem enter (h : run.Shows on screen stopped state router shown) (next : LinkState)
    (hnext : next ≠ .disconnected) :
    (run.enter (Monitor.listener on) next).Shows on screen stopped next router shown := by
  rw [Run.enter]
  split
  · rename_i hsame
    exact ⟨h.stopped, hsame, h.monitor, h.router⟩
  · simp only [Monitor.listener, if_neg hnext]
    refine ⟨?_, rfl, h.monitor, h.router⟩
    change (run.stopped || false) = stopped
    rw [h.stopped, Bool.or_false]

/-- What waits is shown when a session ends. -/
theorem enter_disconnected (hon : on.NeverFails screen)
    (h : run.Shows on screen stopped state router shown) (hstate : state ≠ .disconnected) :
    (run.enter (Monitor.listener on) .disconnected).Shows on screen stopped .disconnected
      router.flush.2 (shown ++ router.flush.1) := by
  have hrun : run.state ≠ .disconnected := h.state ▸ hstate
  obtain ⟨hasked, hmonitor, hrouter⟩ := h.monitor.onEnd hon
  obtain ⟨hevents, hsame⟩ := Router.flush_same h.router
  rw [Run.enter, if_neg hrun]
  refine ⟨?_, rfl, ?_, ?_⟩
  · change (run.stopped || (run.listener.onEnd on).2) = stopped
    rw [hasked, h.stopped, Bool.or_false]
  · rw [← hevents]
    exact hmonitor
  · change Router.Same (run.listener.onEnd on).1.router _
    rw [hrouter]
    exact hsame

theorem feed_nil (h : run.Shows on screen stopped state router shown) :
    run.Shows on screen stopped state (router.feed []).2 (shown ++ (router.feed []).1) := by
  rw [Router.feed_nil, List.append_nil]
  exact h

/-- Reading a stream shows what all its bytes show as one chunk. -/
theorem readAll (hon : on.NeverFails screen) (source : Source)
    (h : run.Shows on screen false state router shown) :
    (Run.readAll (Monitor.listener on) source run).Shows on screen false state
      (router.feed source.delivered).2 (shown ++ (router.feed source.delivered).1) := by
  -- By induction on the reads: the router has taken in the chunks before.
  induction source generalizing run router shown with
  | nil =>
    rw [Run.readAll, h.stopped]
    exact (h.note _).feed_nil
  | cons arrival source ih =>
    cases arrival with
    | bytes bytes =>
      cases bytes with
      | nil =>
        rw [Run.readAll, h.stopped]
        exact (h.note _).feed_nil
      | cons b bytes =>
        have hchunk := (h.note (.read (.bytes (b :: bytes)))).deliver hon (b :: bytes)
        rw [Run.readAll, h.stopped, if_neg Bool.false_ne_true,
          Source.delivered_bytes (List.cons_ne_nil b bytes), Router.feed_append,
          ← List.append_assoc]
        exact ih hchunk
    | fault f =>
      rw [Run.readAll, h.stopped, if_neg Bool.false_ne_true, Source.delivered]
      by_cases hf : f.isInterruption = true
      · simp only [hf, if_true]
        exact ih (h.note _)
      · simp only [hf]
        exact (h.note _).feed_nil

theorem greet (h : run.Shows on screen stopped state router shown) (hello : Option Bytes)
    (stream : Duplex) :
    (run.greet hello stream).2.Shows on screen stopped state router shown := by
  cases hello with
  | none => exact h
  | some hello =>
    rw [Run.greet]
    rcases stream.sink.transmit hello with ⟨_ | stop, sink⟩
    · exact (h.note _).note _
    · exact h.note _

/-- A session over a stream that the follower has just been given. -/
theorem session (hon : on.NeverFails screen) (settings : FollowSettings) (stream : Duplex)
    (h : run.Shows on screen false state .start shown) :
    (run.session (Monitor.listener on) settings stream).Shows on screen false state
      (Router.start.feed (stream.delivered settings.hello)).2
      (shown ++ (Router.start.feed (stream.delivered settings.hello)).1) := by
  have hshows := h.greet settings.hello stream
  rw [Run.session, Duplex.delivered]
  dsimp only
  rw [Run.fst_greet]
  cases stream.takesHello settings.hello with
  -- The chunks have the size of the buffer that is read into, which does not matter.
  | true =>
    rw [if_pos rfl, if_pos rfl, ← Source.delivered_inPieces settings.chunkSize]
    exact hshows.readAll hon _
  | false =>
    rw [if_neg Bool.false_ne_true, if_neg Bool.false_ne_true]
    exact hshows.feed_nil

/-- Whatever was fed to the router, its flush leaves it as at the start. -/
theorem same_start (bytes : Bytes) : Router.Same (Router.start.feed bytes).2.flush.2 .start :=
  Router.same_start_of_flush (Router.limit_feed .start bytes)

theorem withStream (hon : on.NeverFails screen) (settings : FollowSettings) (stream : Duplex)
    (h : run.Shows on screen false state .start shown) :
    (run.withStream (Monitor.listener on) settings stream).Shows on screen false .disconnected
      .start (shown ++ Router.whole (stream.delivered settings.hello)) := by
  have hconnected := (h.withSummary
    { run.summary with sessions := run.summary.sessions + 1 }).enter .connected nofun
  have hended := (hconnected.session hon settings stream).enter_disconnected hon nofun
  have hrunning : ¬run.stopped = true := by simp [h.stopped]
  rw [Run.withStream, Router.whole, ← List.append_assoc]
  dsimp only
  rw [if_neg hrunning]
  exact hended.withRouter (same_start _)

/-- A connection that is refused ends no session, and nothing waits to be shown. -/
theorem refused (hon : on.NeverFails screen)
    (h : run.Shows on screen stopped .connecting .start shown) :
    (run.enter (Monitor.listener on) .disconnected).Shows on screen stopped .disconnected .start
      shown := by
  have hended := h.enter_disconnected hon nofun
  have hnothing : Router.start.flush.1 = [] := by rfl
  rw [hnothing, List.append_nil] at hended
  exact hended.withRouter (same_start [])

/-- An attempt begins by telling that a connection is being made. -/
theorem exists_attempt_eq (h : run.Shows on screen stopped .disconnected router shown)
    (settings : FollowSettings) (a : Attempt) :
    ∃ told : Run (Monitor ρ),
      told.Shows on screen (stopped || a.stops) .connecting router shown ∧
      run.attempt (Monitor.listener on) settings a =
        match a.stream with
        | none => told.enter (Monitor.listener on) .disconnected
        | some stream => told.withStream (Monitor.listener on) settings stream :=
  ⟨_, (((h.enter .connecting nofun).withSummary _).note _).stopIf a.stops, rfl⟩

/-- Each attempt shows its own events and leaves nothing behind. -/
theorem attempt (hon : on.NeverFails screen) (settings : FollowSettings) {a : Attempt}
    (hstops : a.stops = false) (h : run.Shows on screen false .disconnected .start shown) :
    (run.attempt (Monitor.listener on) settings a).Shows on screen false .disconnected .start
      (shown ++ a.events settings.hello) := by
  obtain ⟨told, htold, heq⟩ := h.exists_attempt_eq settings a
  rw [hstops] at htold
  rw [heq, Attempt.events]
  cases a.stream with
  | none =>
    rw [List.append_nil]
    exact htold.refused hon
  | some stream => exact htold.withStream hon settings stream

/-! ### A row of sessions -/

theorem attemptAll (hon : on.NeverFails screen) (settings : FollowSettings)
    {attempts : List Attempt} (hstops : ∀ a ∈ attempts, a.stops = false)
    (h : run.Shows on screen false .disconnected .start shown) :
    (Run.attemptAll (Monitor.listener on) settings attempts run).1.Shows on screen true
      .disconnected .start (shown ++ attempts.flatMap (Attempt.events settings.hello)) := by
  induction attempts generalizing run shown with
  | nil =>
    -- The attempt that the operator stops is refused too, and shows nothing.
    obtain ⟨told, htold, heq⟩ := h.exists_attempt_eq settings .last
    rw [Run.attemptAll, h.stopped, if_neg Bool.false_ne_true, heq, List.flatMap_nil,
      List.append_nil]
    exact htold.refused hon
  | cons a attempts ih =>
    obtain ⟨hfirst, hrest⟩ := List.forall_mem_cons.mp hstops
    rw [Run.attemptAll, h.stopped, if_neg Bool.false_ne_true, List.flatMap_cons,
      ← List.append_assoc]
    exact ih hrest (h.attempt hon settings hfirst)

end Shows

end Run

/-- A monitor that follows the log until the operator stops it shows, in order, what each session
alone would show, had all its bytes come as one chunk. -/
theorem Follower.screen_follow (hon : on.NeverFails screen) (settings : FollowSettings)
    {attempts : List Attempt} (hstops : ∀ a ∈ attempts, a.stops = false) :
    (Follower.follow ⟨settings, Monitor.listener on, attempts,
        Run.start (Monitor.start none screen) false⟩).run.listener.screen =
      (attempts.flatMap (Attempt.events settings.hello)).foldl on.showEvent screen := by
  have hstart : (Run.start (Monitor.start none screen) false).Shows on screen false .disconnected
      .start [] :=
    ⟨rfl, rfl, ⟨rfl, rfl⟩, Router.Same.refl _⟩
  have hend := (hstart.withSummary .zero).attemptAll hon settings hstops
  rw [List.nil_append] at hend
  have hdone : (Follower.follow ⟨settings, Monitor.listener on, attempts,
      Run.start (Monitor.start none screen) false⟩).run =
      (Run.attemptAll (Monitor.listener on) settings attempts
        { Run.start (Monitor.start none screen) false with summary := .zero }).1 :=
    if_pos hend.state
  rw [hdone]
  exact hend.monitor.screen

/-- A line cut by a read and by the end of its session, a connection refused, and another
session. -/
theorem Follower.screen_follow_of_cut_line :
    (Follower.follow ⟨⟨none, 2⟩, Monitor.listener Screen.recorder,
        [⟨some ⟨[.bytes (Utf8.octets "one\ntw"), .fault (.ofKind .interrupted),
            .bytes (Utf8.octets "o"), .fault (.ofKind .connectionReset)], [], []⟩, false⟩,
          ⟨none, false⟩, ⟨some ⟨[.bytes (Utf8.octets "ERROR\n")], [], []⟩, false⟩],
        Run.start (Monitor.start none []) false⟩).run.listener.screen =
      [.line "one".toList .plain, .line "two".toList .plain, .line "ERROR".toList .error] := by
  rw [screen_follow (Screen.recorder_neverFails []) _ (by decide)]
  decide +kernel

end MotionLink
