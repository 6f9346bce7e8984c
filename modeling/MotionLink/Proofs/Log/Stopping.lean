import MotionLink.Proofs.Log.Reports
import MotionLink.Proofs.Log.Twins

/-!
# What follows a request to stop

A stop may be asked for before a run, while a connection is being made, and whenever the listener
is told something. From that moment on little is left to do: an attempt that was announced is still
made, a connection that was reported is still greeted, and the end of it is reported. Nothing is
read, and a follower that was stopped once does nothing any more.

## Main definitions

* `Phase.remaining` — how much may still be done behind a request to stop
* `Scene.Halts` — what may follow a request to stop
* `Listener.AsksInTime` — a listener that asks for a stop when something has become due

## Main results

* `Scene.Leads.halts_behind` — nothing else follows it
* `Listener.AsksInTime.moment` — nothing is read and no connection is made behind what is due
* `Follower.followTimes_of_stopped` — a follower that was stopped does nothing
* `Follower.halts` — a run ends soon after the request, and later runs are empty
-/

namespace MotionLink

open Activity

/-- The most that may still be done behind a request to stop. -/
def Phase.remaining : Phase → Nat
  | idle => 0
  | refused | made | ready => 1
  | announced | greeted => 2
  | connected => 3

namespace Scene

variable {σ : Type} {ear : Listener σ} {scene last : Scene σ} {a : Activity}
  {before done : List Activity}

theorem Allows.remaining_after (h : scene.Allows a) (hstopped : scene.stopped = true)
    (ear : Listener σ) : (scene.after ear a).phase.remaining < scene.phase.remaining := by
  cases h with
  | giveUp hphase | abandon hphase | send _ hphase | flush _ hphase =>
    rw [hphase]
    exact Nat.lt_succ_self _
  | connect hphase =>
    rw [hphase, after]
    cases scene.next.stream.isSome <;> exact Nat.lt_succ_self _
  | hangUp hphase =>
    change 0 < scene.phase.remaining
    cases hscene : scene.phase with
    | connected | greeted | ready => decide
    | idle | announced | refused | made =>
      rw [hscene] at hphase
      cases hphase
  | announce _ hgoing | tell _ hgoing | read _ _ hgoing | deliver _ _ hgoing =>
    exact absurd (hgoing.symm.trans hstopped) Bool.false_ne_true

/-- Little is done behind a request to stop. -/
theorem Leads.length_le (h : Leads ear scene done last) (hstopped : scene.stopped = true) :
    done.length ≤ scene.phase.remaining := by
  induction h with
  | nil scene => exact Nat.zero_le _
  | cons hallows hrest ih =>
    exact Nat.lt_of_le_of_lt (ih (stopped_after hstopped ear _))
      (hallows.remaining_after hstopped ear)

/-- The only way to an attempt is to announce it, which is not done behind a request to stop. -/
theorem Leads.exists_announcement (h : Leads ear scene before last)
    (hscene : scene.phase = .idle) (hlast : last.phase = .announced) :
    ∃ earlier, before = earlier ++ [.state .connecting] ∧
      (scene.replay ear earlier).stopped = false := by
  -- The last entry led to the announced scene, and only one kind of entry does.
  rcases List.eq_nil_or_concat before with rfl | ⟨earlier, a, rfl⟩
  · obtain rfl := h.replay_eq
    cases hscene.symm.trans hlast
  · rw [List.concat_eq_append] at h ⊢
    obtain ⟨-, hentry⟩ := h.split
    cases hentry with
    | cons hallows hrest =>
      cases hrest
      cases hallows with
      | announce hphase hgoing => exact ⟨earlier, rfl, hgoing⟩
      | connect =>
        rw [after] at hlast
        cases hmade : (scene.replay ear earlier).next.stream.isSome <;>
          simp [hmade] at hlast
      | deliver _ hphase => cases hphase.symm.trans hlast
      | giveUp | abandon | tell | send | flush | read | hangUp => cases hlast

/-- What may follow a request to stop, given the journal up to it. -/
structure Halts (ear : Listener σ) (scene : Scene σ) (before after : List Activity) : Prop where
  chunks : ∀ bytes, .chunk bytes ∉ after
  reads : ∀ arrival, .read arrival ∉ after
  /-- only the end of a connection is reported -/
  reports : ∀ state ∈ reports after, state = .disconnected
  connects : after.countP isConnect ≤ 1
  /-- an attempt is made only if its announcement led to the request -/
  announced : 0 < after.countP isConnect →
    ∃ earlier, before = earlier ++ [.state .connecting] ∧
      (scene.replay ear earlier).stopped = false
  /-- the end comes soon -/
  length : after.length ≤ 3

/-- Nothing else follows a request to stop. -/
theorem Leads.halts_behind {after : List Activity} (h : Leads ear scene (before ++ after) last)
    (hscene : scene.phase = .idle) (hstopped : (scene.replay ear before).stopped = true) :
    Halts ear scene before after := by
  obtain ⟨hbefore, hafter⟩ := h.split
  have hparting := hafter.isParting hstopped
  have hconnects := hafter.countP_isConnect_le hstopped
  constructor
  case chunks => exact fun bytes hmem => nomatch hparting _ hmem
  case reads => exact fun arrival hmem => nomatch hparting _ hmem
  case reports => exact hafter.eq_disconnected_of_stopped hstopped
  case connects =>
    refine hconnects.trans ?_
    rw [owed]
    split <;> decide
  case announced =>
    intro hpos
    by_cases hphase : (scene.replay ear before).phase = .announced
    · exact hbefore.exists_announcement hscene hphase
    · rw [owed, if_neg hphase] at hconnects
      omega
  case length =>
    refine (hafter.length_le hstopped).trans ?_
    cases (scene.replay ear before).phase <;> decide

end Scene

/-! ### Listeners that ask for a stop -/

/-- A listener that asks for a stop when it is told what makes a stop due. While it keeps to what is
expected of it, it goes on to do so. -/
structure Listener.AsksInTime {σ : Type} (ear : Listener σ) (keeps due : σ → Prop) : Prop where
  preserves : ear.Preserves keeps
  asks : ∀ listener tiding, keeps listener → due (ear.tell listener tiding).1 →
    due listener ∨ (ear.tell listener tiding).2 = true
  /-- nothing becomes due when an attempt is announced -/
  announces : ∀ listener, due (ear.tell listener (.state .connecting)).1 → due listener

namespace Listener.AsksInTime

variable {σ : Type} {ear : Listener σ} {keeps due : σ → Prop} {scene last : Scene σ}

theorem after (h : ear.AsksInTime keeps due) (hkeeps : keeps scene.listener)
    (hstopped : due scene.listener → scene.stopped = true) (a : Activity) :
    keeps (scene.after ear a).listener ∧
      (due (scene.after ear a).listener → (scene.after ear a).stopped = true) := by
  have htold (tiding : Tiding) : keeps (ear.tell scene.listener tiding).1 ∧
      (due (ear.tell scene.listener tiding).1 →
        (scene.stopped || (ear.tell scene.listener tiding).2) = true) := by
    refine ⟨h.preserves _ tiding hkeeps, fun hdue => Bool.or_eq_true_iff.mpr ?_⟩
    exact (h.asks _ tiding hkeeps hdue).imp_left hstopped
  cases a with
  | connect made => exact ⟨hkeeps, fun hdue => Bool.or_eq_true_iff.mpr (.inl (hstopped hdue))⟩
  | state state => exact htold (.state state)
  | chunk bytes => exact htold (.chunk bytes)
  | sent | flushed | read => exact ⟨hkeeps, hstopped⟩

/-- Whatever is done, the request to stop is not late. -/
theorem replay (h : ear.AsksInTime keeps due) (hkeeps : keeps scene.listener)
    (hstopped : due scene.listener → scene.stopped = true) (done : List Activity) :
    keeps (scene.replay ear done).listener ∧
      (due (scene.replay ear done).listener → (scene.replay ear done).stopped = true) := by
  induction done generalizing scene with
  | nil => exact ⟨hkeeps, hstopped⟩
  | cons a done ih =>
    obtain ⟨hkeeps', hstopped'⟩ := h.after hkeeps hstopped a
    exact ih hkeeps' hstopped'

/-- Once a stop is due it has been asked for, nothing is read, and no attempt to connect is made,
also none that was announced. -/
theorem moment (h : ear.AsksInTime keeps due) (hkeeps : keeps scene.listener)
    (hstopped : due scene.listener → scene.stopped = true) {before after : List Activity}
    (hleads : scene.Leads ear (before ++ after) last) (hscene : scene.phase = .idle)
    (hdue : due (scene.replay ear before).listener) :
    (scene.replay ear before).stopped = true ∧ (∀ arrival, .read arrival ∉ after) ∧
      ∀ made, .connect made ∉ after := by
  have hasked := (h.replay hkeeps hstopped before).2 hdue
  have hhalts := hleads.halts_behind hscene hasked
  refine ⟨hasked, hhalts.reads, fun made hmem => ?_⟩
  obtain ⟨earlier, rfl, hgoing⟩ := hhalts.announced (List.countP_pos_iff.mpr ⟨_, hmem, rfl⟩)
  -- The announcement makes nothing due, so a stop was due before it.
  rw [Scene.replay, List.foldl_append] at hdue
  have hearlier := (h.replay hkeeps hstopped earlier).2 (h.announces _ hdue)
  exact Bool.false_ne_true (hgoing.symm.trans hearlier)

end Listener.AsksInTime

/-- No attempt is made behind a request to stop. -/
theorem Run.attemptAll_of_stopped {σ : Type} (run : Run σ) (h : run.stopped = true)
    (ear : Listener σ) (settings : FollowSettings) (attempts : List Attempt) :
    attemptAll ear settings attempts run = (run, attempts) := by
  cases attempts <;> rw [attemptAll, if_pos h]

namespace Follower

variable {σ : Type}

/-- A follower that was stopped does nothing. -/
theorem follow_of_stopped (follower : Follower σ) (hstopped : follower.run.stopped = true)
    (hstate : follower.run.state = .disconnected) :
    follower.follow = { follower with run := { follower.run with summary := .zero } } := by
  have hattempts := Run.attemptAll_of_stopped { follower.run with summary := .zero } hstopped
    follower.ear follower.settings follower.attempts
  -- The state is the one that the run would enter at its end, so nothing is reported.
  rw [follow, hattempts]
  exact congrArg (fun run => { follower with run }) (if_pos hstate)

theorem followTimes_of_stopped (follower : Follower σ) (hstopped : follower.run.stopped = true)
    (hstate : follower.run.state = .disconnected) (runs : Nat) :
    (followTimes runs follower).1 = List.replicate runs .zero ∧
      (followTimes runs follower).2.journal = follower.journal ∧
      (followTimes runs follower).2.attempts = follower.attempts := by
  induction runs generalizing follower with
  | zero => exact ⟨rfl, rfl, rfl⟩
  | succ runs ih =>
    rw [followTimes, follow_of_stopped follower hstopped hstate]
    obtain ⟨hsummaries, hjournal, hattempts⟩ :=
      ih { follower with run := { follower.run with summary := .zero } } hstopped hstate
    exact ⟨congrArg (Summary.zero :: ·) hsummaries, hjournal, hattempts⟩

/-- What is to be expected of a follower once a stop was asked for. -/
structure HaltsOnRequest (follower : Follower σ) : Prop where
  /-- from the moment of the request on, little is done -/
  moment : ∀ before after, follower.follow.journal = before ++ after →
    (follower.scene.replay follower.ear before).stopped = true →
      follower.scene.Halts follower.ear before after
  /-- the end of a connection is reported last, if anything is -/
  lastReport : ∀ state, (reports follower.follow.journal).getLast? = some state →
    state = .disconnected
  /-- a run comes back only when a stop was asked for -/
  stopped : follower.follow.run.stopped = true
  /-- and then later runs do nothing -/
  later : ∀ runs, (followTimes runs follower.follow).1 = List.replicate runs .zero ∧
    (followTimes runs follower.follow).2.journal = follower.follow.journal ∧
    (followTimes runs follower.follow).2.attempts = follower.follow.attempts

/-- Whatever a follower meets, and whenever a stop is asked for, it halts. -/
theorem halts (settings : FollowSettings) (ear : Listener σ) (attempts : List Attempt)
    (listener : σ) (stopped : Bool) :
    (fresh settings ear attempts listener stopped).HaltsOnRequest := by
  obtain ⟨done, hjournal, hleads, -, hstopped, hstate⟩ :=
    exists_follow (fresh settings ear attempts listener stopped) rfl
  constructor
  case moment =>
    intro before after hsplit
    obtain rfl : done = before ++ after := hjournal.symm.trans hsplit
    exact hleads.halts_behind rfl
  case lastReport =>
    intro state hlast
    have htold := hleads.state_eq
    rw [show done = _ from hjournal.symm, hlast] at htold
    exact htold.symm
  case stopped => exact hstopped
  case later => exact followTimes_of_stopped _ hstopped hstate

/-- The listener asks for a stop when it is told that an attempt follows. -/
theorem halts_of_announcement :
    let follower := fresh ⟨none, 4⟩ (StopRule.listener ⟨none, some .connecting⟩)
      [⟨some ⟨[.bytes [1, 2]], [], []⟩, false⟩, ⟨none, false⟩] 0 false
    follower.follow.journal =
        [.state .connecting] ++ [.connect true, .state .disconnected] ∧
      (follower.scene.replay follower.ear [.state .connecting]).stopped = true ∧
      follower.scene.Halts follower.ear [.state .connecting]
        [.connect true, .state .disconnected] :=
  ⟨rfl, rfl, (halts _ _ _ _ _).moment _ _ rfl rfl⟩

end Follower

end MotionLink
