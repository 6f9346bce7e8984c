import MotionLink.Proofs.Log.Stopping
import MotionLink.Proofs.Terminal.Limit

/-!
# Stopping with the last record

A monitor that is to show one record or more asks for a stop with the event that completes the
last of them, so nothing is read behind it and no connection is opened. The limit is looked at
before each event, and the request is made only after one. A monitor that is to show no record at
all therefore shows none, but it never asks for a stop.

## Main definitions

* `Screen.recording` — a screen that also keeps what it is shown
* `Monitor.Counts` — a monitor under a limit that has counted the records it has shown
* `Scene.InTime` — a stop has been asked for by the time that the records are shown
* `Follower.StopsInTime` — what is to be expected at every moment of a run

## Main results

* `Monitor.Counts.tell` — the last record comes with a request to stop
* `Scene.InTime.replay` — whatever is done, the request is not late
* `Follower.stopsInTime` — a monitor that is to show a record stops with the last one
* `Follower.not_stopsInTime_zero` — one that is to show none connects and reads
-/

namespace MotionLink

variable {ρ : Type} {on : Screen ρ} {n : Nat}

/-- A screen that also keeps what it is shown. -/
def Screen.recording (on : Screen ρ) : Screen (ρ × List Event) where
  showEvent shown e := (on.showEvent shown.1 e, shown.2 ++ [e])
  takeFault shown := ((on.takeFault shown.1).1, (on.takeFault shown.1).2, shown.2)

theorem Screen.snd_foldl_recording (events : List Event) (shown : ρ × List Event) :
    (events.foldl on.recording.showEvent shown).2 = shown.2 ++ events := by
  induction events generalizing shown with
  | nil => exact (List.append_nil _).symm
  | cons e rest ih =>
    rw [List.foldl_cons, ih]
    exact List.append_assoc shown.2 [e] rest

namespace Monitor

variable {monitor : Monitor (ρ × List Event)}

/-- A monitor under a limit whose counter tells how many records it has shown. -/
structure Counts (n : Nat) (monitor : Monitor (ρ × List Event)) : Prop where
  limit : monitor.limit = some n
  seen : monitor.seen = completed monitor.screen.2

theorem Counts.advance (h : monitor.Counts n) (events : List Event) :
    (monitor.advance on.recording events).Counts n where
  limit := h.limit
  seen := by
    change monitor.seen + completed events =
      completed (events.foldl on.recording.showEvent monitor.screen).2
    rw [Screen.snd_foldl_recording, completed_append, h.seen]

theorem Counts.checkOutput (h : monitor.Counts n) (asked : Bool) :
    (checkOutput on.recording (monitor, asked)).1.Counts n := by
  simp only [Monitor.checkOutput]
  split
  · exact ⟨h.limit, h.seen⟩
  · exact ⟨h.limit, h.seen⟩

theorem seen_checkOutput (monitor : Monitor (ρ × List Event)) (asked : Bool) :
    (checkOutput on.recording (monitor, asked)).1.seen = monitor.seen := by
  simp only [checkOutput]
  split <;> rfl

/-- A failed output never takes a request to stop back. -/
theorem checkOutput_asked (monitor : Monitor (ρ × List Event)) :
    (checkOutput on.recording (monitor, true)).2 = true := by
  simp only [checkOutput]
  split <;> rfl

/-- Events shown by a monitor that counts: its counter is right, and if they complete the last
record it asks for a stop. -/
theorem Counts.foldl_showEvent (h : monitor.Counts n) (on : Screen ρ) (events : List Event) :
    (events.foldl (showEvent on.recording) (monitor, false)).1.Counts n ∧
      (monitor.seen < n → n ≤ (events.foldl (showEvent on.recording) (monitor, false)).1.seen →
        (events.foldl (showEvent on.recording) (monitor, false)).2 = true) := by
  rw [foldl_showEvent_limited h.limit]
  refine ⟨h.advance _, ?_⟩
  intro hbelow hreached
  change n ≤ monitor.seen + completed (firstRecords (n - monitor.seen) events) at hreached
  rw [completed_firstRecords] at hreached
  have hall : n ≤ monitor.seen + completed events := by omega
  simp [hbelow, hall]

theorem Counts.showAll (h : monitor.Counts n) (events : List Event) :
    (showAll on.recording monitor events).1.Counts n ∧
      (monitor.seen < n → n ≤ (showAll on.recording monitor events).1.seen →
        (showAll on.recording monitor events).2 = true) := by
  obtain ⟨hcounts, hasks⟩ := h.foldl_showEvent on events
  rw [Monitor.showAll]
  generalize events.foldl (showEvent on.recording) (monitor, false) = shown at hcounts hasks
  obtain ⟨next, asked⟩ := shown
  refine ⟨hcounts.checkOutput asked, ?_⟩
  intro hbelow hreached
  rw [seen_checkOutput] at hreached
  obtain rfl : asked = true := hasks hbelow hreached
  exact checkOutput_asked next

/-- Whatever a monitor is told, its counter is right, and the last record comes with a request to
stop. -/
theorem Counts.tell (h : monitor.Counts n) (tiding : Tiding) :
    ((listener on.recording).tell monitor tiding).1.Counts n ∧
      (monitor.seen < n → n ≤ ((listener on.recording).tell monitor tiding).1.seen →
        ((listener on.recording).tell monitor tiding).2 = true) := by
  have hnothing : monitor.Counts n ∧ (monitor.seen < n → n ≤ monitor.seen → false = true) :=
    ⟨h, fun hbelow hreached => absurd hreached (Nat.not_le.mpr hbelow)⟩
  cases tiding with
  | chunk bytes =>
    have hrouted : Counts n { monitor with router := (monitor.router.feed bytes).2 } :=
      ⟨h.limit, h.seen⟩
    exact hrouted.showAll _
  | state state =>
    cases state with
    | disconnected =>
      have hrouted : Counts n { monitor with router := monitor.router.flush.2 } :=
        ⟨h.limit, h.seen⟩
      exact hrouted.showAll _
    | connecting => exact hnothing
    | connected => exact hnothing

theorem counts_asksInTime (on : Screen ρ) (n : Nat) :
    (listener on.recording).AsksInTime (Counts n) fun monitor => n ≤ monitor.seen where
  preserves _ tiding h := (h.tell tiding).1
  asks monitor tiding h hreached := by
    by_cases hbelow : monitor.seen < n
    · exact .inr ((h.tell tiding).2 hbelow hreached)
    · exact .inl (Nat.not_lt.mp hbelow)
  announces _ hreached := hreached

end Monitor

/-! ### Moments of a run -/

namespace Scene

variable {scene : Scene (Monitor (ρ × List Event))}

/-- A stop has been asked for by the time that the records are shown. -/
structure InTime (n : Nat) (scene : Scene (Monitor (ρ × List Event))) : Prop where
  counts : scene.listener.Counts n
  stopped : n ≤ scene.listener.seen → scene.stopped = true

/-- What asks for a stop with the last record asks in time, unless a stop was asked for before. -/
theorem InTime.asked (h : scene.InTime n) {next : Monitor (ρ × List Event)} {asked : Bool}
    (hasks : scene.listener.seen < n → n ≤ next.seen → asked = true) (hreached : n ≤ next.seen) :
    (scene.stopped || asked) = true := by
  by_cases hbelow : scene.listener.seen < n
  · rw [hasks hbelow hreached, Bool.or_true]
  · rw [h.stopped (Nat.not_lt.mp hbelow), Bool.true_or]

/-- Whatever is done, the request to stop is not late. -/
theorem InTime.replay (h : scene.InTime n) (on : Screen ρ) (done : List Activity) :
    (scene.replay (Monitor.listener on.recording) done).InTime n := by
  obtain ⟨hcounts, hstopped⟩ := (Monitor.counts_asksInTime on n).replay h.counts h.stopped done
  exact ⟨hcounts, hstopped⟩

theorem InTime.moment {before after : List Activity} {last : Scene (Monitor (ρ × List Event))}
    (h : scene.InTime n)
    (hleads : Leads (Monitor.listener on.recording) scene (before ++ after) last)
    (hscene : scene.phase = .idle)
    (hreached : n ≤ Monitor.completed
      (scene.replay (Monitor.listener on.recording) before).listener.screen.2) :
    (scene.replay (Monitor.listener on.recording) before).stopped = true ∧
      (∀ arrival, .read arrival ∉ after) ∧ ∀ made, .connect made ∉ after := by
  rw [← (h.replay on before).counts.seen] at hreached
  exact (Monitor.counts_asksInTime on n).moment h.counts h.stopped hleads hscene hreached

theorem InTime.within (h : scene.InTime n) (part : List Event)
    (hreached : n ≤ Monitor.completed
      (part.foldl (Monitor.showEvent on.recording) (scene.listener, false)).1.screen.2) :
    (scene.stopped ||
      (part.foldl (Monitor.showEvent on.recording) (scene.listener, false)).2) = true := by
  obtain ⟨hcounts, hasks⟩ := h.counts.foldl_showEvent on part
  rw [← hcounts.seen] at hreached
  exact h.asked hasks hreached

end Scene

namespace Follower

open Monitor

/-- A follower with a monitor that also keeps what it shows. -/
def monitoring (on : Screen ρ) (screen : ρ) (settings : FollowSettings) (attempts : List Attempt)
    (stopped : Bool) (limit : Option Nat) : Follower (Monitor (ρ × List Event)) :=
  fresh settings (listener on.recording) attempts (Monitor.start limit (screen, [])) stopped

/-- What is to be expected of a monitor that is to show so many records, at every moment: between
two entries of the journal, and while events are being shown. -/
structure StopsInTime (on : Screen ρ) (n : Nat) (follower : Follower (Monitor (ρ × List Event))) :
    Prop where
  /-- once the records are shown a stop has been asked for, nothing is read and no connection is
  opened -/
  moment : ∀ before after, follower.follow.journal = before ++ after →
    n ≤ completed (follower.scene.replay follower.ear before).listener.screen.2 →
      (follower.scene.replay follower.ear before).stopped = true ∧
        (∀ arrival, .read arrival ∉ after) ∧ ∀ made, .connect made ∉ after
  /-- the request comes with the last record, and not only when all of a chunk is shown -/
  within : ∀ before after, follower.follow.journal = before ++ after → ∀ part : List Event,
    n ≤ completed (part.foldl (showEvent on.recording)
        ((follower.scene.replay follower.ear before).listener, false)).1.screen.2 →
      ((follower.scene.replay follower.ear before).stopped ||
        (part.foldl (showEvent on.recording)
          ((follower.scene.replay follower.ear before).listener, false)).2) = true

/-- A monitor that is to show one record or more stops with the last one. -/
theorem stopsInTime (hn : 0 < n) (on : Screen ρ) (screen : ρ) (settings : FollowSettings)
    (attempts : List Attempt) (stopped : Bool) :
    (monitoring on screen settings attempts stopped (some n)).StopsInTime on n := by
  obtain ⟨done, hjournal, hleads, -⟩ :=
    exists_follow (monitoring on screen settings attempts stopped (some n)) rfl
  have hstart : (monitoring on screen settings attempts stopped (some n)).scene.InTime n :=
    ⟨⟨rfl, rfl⟩, fun hreached => absurd hreached (Nat.not_le.mpr hn)⟩
  constructor
  case moment =>
    intro before after hsplit hreached
    obtain rfl : done = before ++ after := hjournal.symm.trans hsplit
    exact hstart.moment hleads rfl hreached
  case within =>
    intro before after _ part hreached
    have hbefore := hstart.replay on before
    exact hbefore.within part hreached

/-- Two lines come at once. The third one is not read, and no connection is made behind it. -/
theorem stopsInTime_of_second_line :
    let follower := monitoring Screen.recorder [] ⟨none, 8⟩
      [⟨some ⟨[.bytes (Utf8.octets "one\ntwo\nmore\n")], [], []⟩, false⟩] false (some 2)
    0 < 2 ∧ follower.StopsInTime Screen.recorder 2 ∧
      follower.follow.run.listener.screen.2 =
        [.line "one".toList .plain, .line "two".toList .plain] ∧
      follower.follow.run.summary = ⟨1, 1, 8⟩ :=
  ⟨by decide, stopsInTime (by decide) _ _ _ _ _, by decide +kernel, by decide +kernel⟩

/-- A monitor that is to show no record has shown as many at its start, and no stop is asked for:
it connects, reads the stream to its end and connects again. -/
theorem not_stopsInTime_zero :
    let follower := monitoring Screen.recorder [] ⟨none, 8⟩
      [⟨some ⟨[.bytes (Utf8.octets "one\n")], [], []⟩, false⟩] false (some 0)
    ¬follower.StopsInTime Screen.recorder 0 ∧
      follower.follow.run.listener.screen.2 = [] ∧
      follower.follow.run.summary = ⟨2, 1, 4⟩ := by
  refine ⟨?_, by decide +kernel, by decide +kernel⟩
  intro h
  obtain ⟨hstopped, -, -⟩ := h.moment [] _ rfl (Nat.le_refl 0)
  cases hstopped

end Follower

end MotionLink
