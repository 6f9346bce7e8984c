import Mathlib.Computability.RegularExpressions
import MotionLink.Proofs.Log.Journal

/-!
# Reports are in step with what is done

The listener of a follower is told of each attempt to connect and of its end, with the connection
in between if there was one, and of chunks only while it knows of a connection. The numbers of a
run count what was reported. Only a stream that came too late, when a stop had been asked for, is
counted and not reported.

## Main definitions

* `LinkState.round` — the states of one attempt to connect
* `Scene.EndsLate` — the last stream came too late
* `Scene.Accounts` — a journal and its numbers are in step

## Main results

* `Scene.Leads.reports_mem` — states are reported in rounds
* `Scene.Leads.countP_isConnect`, `Scene.Leads.countP_isMade` — reports against what was done
* `Follower.inStep` — every run of a follower is in step
-/

namespace MotionLink

open Activity

/-! ### Rounds -/

namespace LinkState

open RegularExpression

/-- The states of one attempt to connect. -/
def round : RegularExpression LinkState :=
  char connecting * char disconnected + char connecting * char connected * char disconnected

/-- The states of the round under way, given the last of them. -/
def sofar : LinkState → List LinkState
  | disconnected => []
  | connecting => [connecting]
  | connected => [connecting, connected]

/-- A round that is under way ends with the end of the connection. -/
theorem sofar_append_mem {state : LinkState} (h : state ≠ disconnected) {more : List LinkState}
    (hmore : more ∈ (star round).matches') :
    state.sofar ++ disconnected :: more ∈ (star round).matches' := by
  have hround : state.sofar ++ [disconnected] ∈ round.matches' := by
    cases state with
    | disconnected => exact absurd rfl h
    | connecting => exact .inl ⟨_, rfl, _, rfl, rfl⟩
    | connected => exact .inr ⟨_, ⟨_, rfl, _, rfl, rfl⟩, _, rfl, rfl⟩
  rw [List.append_cons]
  exact mul_kstar_le_kstar (a := round.matches') (Language.append_mem_mul hround hmore)

end LinkState

namespace Scene

variable {σ : Type} {ear : Listener σ} {scene last : Scene σ} {a : Activity}
  {done : List Activity}

/-! ### The state told last, and the next one -/

/-- The state told last changes only when the listener is told. -/
theorem Allows.state_after (h : scene.Allows a) (ear : Listener σ) :
    (scene.after ear a).phase.state = (report? a).getD scene.phase.state := by
  cases h with
  | announce | giveUp | abandon | tell | hangUp => rfl
  | connect hphase =>
    rw [after, hphase]
    cases scene.next.stream.isSome <;> rfl
  | send bytes hphase =>
    rw [hphase]
    rfl
  | flush ok hphase =>
    rw [hphase]
    rfl
  | read arrival hphase =>
    rcases hphase with hphase | hphase
    · rw [hphase]
      rfl
    · rw [hphase]
      rfl
  | deliver bytes hphase => rfl

theorem reports_cons (a : Activity) (rest : List Activity) :
    reports (a :: rest) = (report? a).toList ++ reports rest := by
  rw [reports, List.filterMap_cons]
  cases report? a <;> rfl

/-- The state told last can be read off the reports. -/
theorem Leads.state_eq (h : Leads ear scene done last) :
    last.phase.state = (reports done).getLast?.getD scene.phase.state := by
  induction h with
  | nil scene => rfl
  | @cons scene last a rest hallows hrest ih =>
    rw [ih, hallows.state_after, reports_cons]
    cases report? a with
    | none => rfl
    | some state =>
      change _ = ((state :: reports rest).getLast?).getD _
      rw [List.getLast?_cons]
      rfl

/-- The next thing that the listener is told of a connection is its end. -/
theorem Leads.head?_reports (h : Leads ear scene done last)
    (hscene : scene.phase.state = .connected) (hlast : last.phase = .idle) :
    (reports done).head? = some .disconnected := by
  induction h with
  | nil scene =>
    rw [hlast] at hscene
    cases hscene
  | @cons scene last a rest hallows hrest ih =>
    rw [reports_cons]
    cases hreport : report? a with
    | none =>
      rw [hallows.state_after, hreport] at ih
      exact ih hscene hlast
    | some state =>
      cases hallows with
      | giveUp | abandon | hangUp =>
        cases hreport
        rfl
      | announce hphase | tell hphase =>
        rw [hphase] at hscene
        cases hscene
      | connect | send | flush | read | deliver => cases hreport

/-- States are reported in rounds. -/
theorem Leads.reports_mem (h : Leads ear scene done last) (hlast : last.phase = .idle) :
    scene.phase.state.sofar ++ reports done ∈
      (RegularExpression.star LinkState.round).matches' := by
  induction h with
  | nil scene =>
    rw [hlast]
    exact Language.nil_mem_kstar _
  | @cons scene last a rest hallows hrest ih =>
    -- What is reported carries the round under way on, and the last report ends it.
    have ih := ih hlast
    rw [hallows.state_after] at ih
    rw [reports_cons]
    cases hallows with
    | announce hphase =>
      rw [hphase]
      exact ih
    | tell hphase =>
      rw [hphase]
      exact ih
    | giveUp hphase | abandon hphase | hangUp hphase =>
      refine LinkState.sofar_append_mem ?_ ih
      rw [hphase]
      exact nofun
    | connect | send | flush | read | deliver => exact ih

/-! ### Attempts -/

/-- The attempts to connect that were announced and have not been made yet. -/
def owed (scene : Scene σ) : Nat := if scene.phase = .announced then 1 else 0

theorem Allows.owed_after (h : scene.Allows a) (ear : Listener σ) :
    [a].countP isConnect + (scene.after ear a).owed =
      (report? a).toList.count .connecting + scene.owed := by
  cases h with
  | announce hphase | giveUp hphase | abandon hphase | tell hphase | send _ hphase
  | flush _ hphase | deliver _ hphase =>
    simp [owed, after, hphase, report?, isConnect, Phase.ofState]
  | connect hphase =>
    cases hmade : scene.next.stream.isSome <;>
      simp [owed, after, hphase, report?, isConnect]
  | read arrival hphase =>
    rcases hphase with hphase | hphase <;>
      simp [owed, after, hphase, report?, isConnect]
  | hangUp hphase =>
    have hphase : scene.phase ≠ .announced := ne_of_apply_ne Phase.state (by rw [hphase]; decide)
    simp [owed, after, hphase, report?, isConnect, Phase.ofState]

/-- Each announcement is followed by one attempt. -/
theorem Leads.countP_isConnect (h : Leads ear scene done last) :
    done.countP isConnect + last.owed = (reports done).count .connecting + scene.owed := by
  induction h with
  | nil scene => rfl
  | @cons scene last a rest hallows hrest ih =>
    have hstep := hallows.owed_after ear
    have hdone : ([a] ++ rest).countP isConnect = _ := List.countP_append
    rw [List.singleton_append] at hdone
    rw [reports_cons, List.count_append, hdone]
    omega

/-- Behind a request to stop the listener is only told of the end of a connection. -/
theorem Leads.eq_disconnected_of_stopped (h : Leads ear scene done last)
    (hstopped : scene.stopped = true) : ∀ state ∈ reports done, state = .disconnected := by
  intro state hstate
  obtain ⟨a, ha, hreport⟩ := List.mem_filterMap.mp hstate
  have hparting := h.isParting hstopped a ha
  cases a with
  | state told =>
    obtain rfl := Option.some.inj hreport
    cases told with
    | disconnected => rfl
    | connecting | connected => cases hparting
  | connect | sent | flushed | read | chunk => cases hreport

/-- Behind a request to stop no attempt is made but one that was announced before. -/
theorem Leads.countP_isConnect_le (h : Leads ear scene done last)
    (hstopped : scene.stopped = true) : done.countP isConnect ≤ scene.owed := by
  have hcount := h.countP_isConnect
  have hnone : (reports done).count .connecting = 0 := List.count_eq_zero.mpr fun hmem =>
    nomatch h.eq_disconnected_of_stopped hstopped _ hmem
  omega

/-! ### Streams -/

/-- The streams that the listener has to be told of. -/
def untold (scene : Scene σ) : Nat :=
  if scene.phase = .made ∧ scene.stopped = false then 1 else 0

/-- The streams that came too late: a stop had been asked for by the time they were given. -/
def late (ear : Listener σ) : Scene σ → List Activity → Nat
  | _, [] => 0
  | scene, a :: rest =>
    (if a.isMade && (scene.after ear a).stopped then 1 else 0) + late ear (scene.after ear a) rest

theorem Allows.untold_after (h : scene.Allows a) (ear : Listener σ) :
    [a].countP isMade + scene.untold =
      (report? a).toList.count .connected + (scene.after ear a).untold +
        if a.isMade && (scene.after ear a).stopped then 1 else 0 := by
  cases h with
  | announce hphase | giveUp hphase | send _ hphase | flush _ hphase | deliver _ hphase =>
    simp [untold, after, hphase, report?, isMade, Phase.ofState]
  | tell hphase hstopped | abandon hphase hstopped =>
    simp [untold, after, hphase, hstopped, report?, isMade, Phase.ofState]
  | connect hphase =>
    cases hmade : scene.next.stream.isSome <;>
      cases hstopped : scene.stopped <;> cases hstops : scene.next.stops <;>
      simp [untold, after, hphase, hstopped, hstops, report?, isMade]
  | read arrival hphase =>
    rcases hphase with hphase | hphase <;>
      simp [untold, after, hphase, report?, isMade]
  | hangUp hphase =>
    have hphase : scene.phase ≠ .made := ne_of_apply_ne Phase.state (by rw [hphase]; decide)
    simp [untold, after, hphase, report?, isMade, Phase.ofState]

/-- Each stream is reported, unless it came too late. -/
theorem Leads.countP_isMade (h : Leads ear scene done last) :
    done.countP isMade + scene.untold =
      (reports done).count .connected + last.untold + late ear scene done := by
  induction h with
  | nil scene => simp [late, reports]
  | @cons scene last a rest hallows hrest ih =>
    have hstep := hallows.untold_after ear
    have hdone : ([a] ++ rest).countP isMade = _ := List.countP_append
    rw [List.singleton_append] at hdone
    rw [reports_cons, List.count_append, hdone, late]
    omega

/-- A stop had been asked for by the time that the last stream was given. -/
def EndsLate (ear : Listener σ) (scene : Scene σ) (done : List Activity) : Prop :=
  ∃ before after, done = before ++ .connect true :: after ∧ (∀ a ∈ after, a.isMade = false) ∧
    (scene.replay ear (before ++ [.connect true])).stopped = true

theorem Leads.isMade_of_stopped (h : Leads ear scene done last) (hstopped : scene.stopped = true)
    (hphase : scene.phase ≠ .announced) : ∀ a ∈ done, a.isMade = false := by
  have hcount := h.countP_isConnect_le hstopped
  rw [owed, if_neg hphase, Nat.le_zero, List.countP_eq_zero] at hcount
  intro a ha
  cases a with
  | connect made => exact absurd rfl (hcount _ ha)
  | state | sent | flushed | read | chunk => rfl

theorem late_eq_zero (ear : Listener σ) (scene : Scene σ) {done : List Activity}
    (h : ∀ a ∈ done, a.isMade = false) : late ear scene done = 0 := by
  induction done generalizing scene with
  | nil => rfl
  | cons a rest ih =>
    obtain ⟨hfirst, hrest⟩ := List.forall_mem_cons.mp h
    rw [late, hfirst, ih _ hrest]
    rfl

theorem phase_after_of_isMade (h : a.isMade = true) (ear : Listener σ) (scene : Scene σ) :
    (scene.after ear a).phase = .made := by
  cases a with
  | connect made =>
    obtain rfl : made = true := h
    rfl
  | state | sent | flushed | read | chunk => cases h

theorem endsLate_cons (ear : Listener σ) (scene : Scene σ) (a : Activity) (rest : List Activity) :
    EndsLate ear scene (a :: rest) ↔
      (a.isMade = true ∧ (scene.after ear a).stopped = true) ∧ (∀ b ∈ rest, b.isMade = false) ∨
        EndsLate ear (scene.after ear a) rest := by
  constructor
  · rintro ⟨before, after, hdone, hafter, hstopped⟩
    cases before with
    | nil =>
      obtain ⟨rfl, rfl⟩ := List.cons.inj hdone
      exact .inl ⟨⟨rfl, hstopped⟩, hafter⟩
    | cons first before =>
      obtain ⟨rfl, rfl⟩ := List.cons.inj hdone
      exact .inr ⟨before, after, rfl, hafter, hstopped⟩
  · rintro (⟨⟨hmade, hstopped⟩, hrest⟩ | ⟨before, after, rfl, hafter, hstopped⟩)
    · cases a with
      | connect made =>
        obtain rfl : made = true := hmade
        exact ⟨[], rest, rfl, hrest, hstopped⟩
      | state | sent | flushed | read | chunk => cases hmade
    · exact ⟨a :: before, after, rfl, hafter, hstopped⟩

/-- At most one stream comes too late, and then it is the last one. -/
theorem Leads.late_eq (h : Leads ear scene done last) :
    (EndsLate ear scene done → late ear scene done = 1) ∧
      (¬EndsLate ear scene done → late ear scene done = 0) := by
  induction h with
  | nil scene =>
    refine ⟨?_, fun _ => rfl⟩
    rintro ⟨before, after, hdone, -⟩
    exact absurd hdone.symm (List.append_ne_nil_of_right_ne_nil _ (List.cons_ne_nil _ _))
  | @cons scene last a rest hallows hrest ih =>
    by_cases hfirst : (a.isMade && (scene.after ear a).stopped) = true
    · -- Nothing is connected to behind a stream that came too late.
      obtain ⟨hmade, hstopped⟩ := Bool.and_eq_true_iff.mp hfirst
      have hphase := phase_after_of_isMade hmade ear scene
      have hnone := hrest.isMade_of_stopped hstopped (by rw [hphase]; exact nofun)
      have hends : EndsLate ear scene (a :: rest) :=
        (endsLate_cons ear scene a rest).mpr (.inl ⟨⟨hmade, hstopped⟩, hnone⟩)
      rw [late, if_pos hfirst, late_eq_zero ear _ hnone]
      exact ⟨fun _ => rfl, fun hnot => absurd hends hnot⟩
    · -- Whether the last stream comes too late is settled further on.
      have hskip : EndsLate ear scene (a :: rest) ↔ EndsLate ear (scene.after ear a) rest :=
        (endsLate_cons ear scene a rest).trans
          (or_iff_right fun hlate => hfirst (Bool.and_eq_true_iff.mpr hlate.1))
      rw [late, if_neg hfirst, Nat.zero_add, hskip]
      exact ih

/-! ### Runs -/

/-- A journal from one end of a run to the other is in step with the numbers of the run. -/
structure Accounts (ear : Listener σ) (scene : Scene σ) (done : List Activity)
    (summary : Summary) : Prop where
  /-- states are reported in rounds -/
  rounds : reports done ∈ (RegularExpression.star LinkState.round).matches'
  /-- chunks are reported between a connection and its end -/
  chunks : ∀ before bytes after, done = before ++ .chunk bytes :: after →
    (reports before).getLast? = some .connected ∧ (reports after).head? = some .disconnected
  attempts : summary.attempts = (reports done).count .connecting
  bytes : summary.bytes = (done.flatMap chunkBytes).length
  sessions : summary.sessions = done.countP isMade
  /-- one stream is not reported if a stop had been asked for by the time it was given -/
  late : EndsLate ear scene done → summary.sessions = (reports done).count .connected + 1
  inTime : ¬EndsLate ear scene done → summary.sessions = (reports done).count .connected

theorem Leads.accounts (h : Leads ear scene done last) (hscene : scene.phase = .idle)
    (hlast : last.phase = .idle) : Accounts ear scene done (.of done) := by
  have hattempts := h.countP_isConnect
  have hsessions := h.countP_isMade
  simp only [owed, untold, hscene, hlast, reduceCtorEq, false_and, if_false] at hattempts hsessions
  constructor
  case rounds =>
    have hword := h.reports_mem hlast
    rwa [hscene] at hword
  case chunks =>
    rintro before bytes after rfl
    -- The listener knows of a connection when a chunk comes, so it was told of it before, and
    -- is told of its end behind.
    obtain ⟨hbefore, hrest⟩ := h.split
    cases hrest with
    | cons hallows hafter =>
      cases hallows with
      | deliver _ hphase hgoing =>
        have hconnected : (scene.replay ear before).phase.state = .connected := by
          rw [hphase]
          rfl
        refine ⟨?_, hafter.head?_reports hconnected hlast⟩
        have htold := hbefore.state_eq
        rw [hconnected, hscene] at htold
        cases hreport : (reports before).getLast? with
        | none =>
          rw [hreport] at htold
          cases htold
        | some state =>
          rw [hreport] at htold
          exact congrArg some htold.symm
  case attempts => exact hattempts
  case bytes => rfl
  case sessions => rfl
  case late =>
    intro hlate
    have hone := h.late_eq.1 hlate
    change done.countP isMade = _
    omega
  case inTime =>
    intro hlate
    have hnone := h.late_eq.2 hlate
    change done.countP isMade = _
    omega

end Scene

namespace Follower

variable {σ : Type}

/-- The last of several runs follows behind the others. -/
theorem followTimes_succ (runs : Nat) (follower : Follower σ) :
    followTimes (runs + 1) follower =
      ((followTimes runs follower).1 ++ [(followTimes runs follower).2.follow.run.summary],
        (followTimes runs follower).2.follow) := by
  induction runs generalizing follower with
  | zero => rfl
  | succ runs ih =>
    rw [followTimes, ih]
    rfl

theorem state_followTimes (follower : Follower σ) (h : follower.run.state = .disconnected)
    (runs : Nat) : (followTimes runs follower).2.run.state = .disconnected := by
  induction runs generalizing follower with
  | zero => exact h
  | succ runs ih =>
    obtain ⟨-, -, -, -, -, hstate⟩ := exists_follow follower h
    exact ih follower.follow hstate

theorem ear_followTimes (follower : Follower σ) (runs : Nat) :
    (followTimes runs follower).2.ear = follower.ear := by
  induction runs generalizing follower with
  | zero => rfl
  | succ runs ih => exact ih follower.follow

/-- The run behind some others is in step with what its listener is told. -/
structure InStep (follower : Follower σ) (runs : Nat) : Prop where
  /-- the run comes behind the others -/
  next : followTimes (runs + 1) follower =
    ((followTimes runs follower).1 ++ [(followTimes runs follower).2.follow.run.summary],
      (followTimes runs follower).2.follow)
  /-- its journal is in step with its numbers -/
  accounts : ∃ done,
    (followTimes runs follower).2.follow.journal =
      (followTimes runs follower).2.journal ++ done ∧
    (followTimes runs follower).2.scene.Accounts follower.ear done
      (followTimes runs follower).2.follow.run.summary
  ends : (followTimes runs follower).2.follow.run.state = .disconnected

/-- Whatever a follower meets, and whenever a stop is asked for, each of its runs is in step with
what its listener is told. -/
theorem inStep (settings : FollowSettings) (ear : Listener σ) (attempts : List Attempt)
    (listener : σ) (stopped : Bool) (runs : Nat) :
    (fresh settings ear attempts listener stopped).InStep runs := by
  have hidle := state_followTimes (fresh settings ear attempts listener stopped) rfl runs
  obtain ⟨done, hjournal, hleads, hsummary, -, hstate⟩ := exists_follow _ hidle
  rw [ear_followTimes] at hleads
  refine ⟨followTimes_succ runs _, ⟨done, hjournal, ?_⟩, hstate⟩
  rw [hsummary]
  exact hleads.accounts rfl rfl

/-- A connection is refused, one is used and closed, and one comes too late. -/
example :
    let follower := (fresh ⟨none, 4⟩ (StopRule.listener ⟨none, none⟩)
      [⟨none, false⟩, ⟨some ⟨[.bytes [1, 2]], [], []⟩, false⟩, ⟨some ⟨[], [], []⟩, true⟩] 0
      false).follow
    follower.run.summary = ⟨3, 2, 2⟩ ∧
      reports follower.journal =
        [.connecting, .disconnected, .connecting, .connected, .disconnected, .connecting,
          .disconnected] := by
  decide +kernel

end Follower

end MotionLink
