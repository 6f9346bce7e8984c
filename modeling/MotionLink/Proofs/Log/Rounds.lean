import MotionLink.Proofs.Log.Streams

/-!
# Every stream that a follower is handed

A follower goes on in rounds, each of them an attempt to connect. If that gives a stream, the
stream is handled as expected up to its end, and nothing is done with it afterwards.

## Main definitions

* `Scene.Round` — one attempt to connect
* `Scene.Follows` — rounds up to a request to stop

## Main results

* `Run.IsAt.exists_attempt` — an attempt to connect is one round
* `Follower.exists_follows` — a follower does nothing but go on in rounds
* `Follower.handles` — every stream that a follower is handed is handled as expected
-/

namespace MotionLink

open Activity

/-! ### Rounds -/

namespace Scene

variable {σ : Type} {ear : Listener σ} {scene : Scene σ} {settings : FollowSettings}
  {done before after : List Activity}

/-- One attempt to connect, from its announcement to the end of what it gave. -/
inductive Round (ear : Listener σ) (settings : FollowSettings) (scene : Scene σ) :
    List Activity → Prop where
  | refused (hnone : scene.next.stream = none) :
      Round ear settings scene [.state .connecting, .connect false, .state .disconnected]
  | handed {stream : Duplex} {session : List Activity} (hstream : scene.next.stream = some stream)
      (hhandles : Handles ear settings stream
        (scene.replay ear [.state .connecting, .connect true]) session) :
      Round ear settings scene
        (.state .connecting :: .connect true :: (session ++ [.state .disconnected]))

/-- Rounds up to a request to stop. -/
inductive Follows (ear : Listener σ) (settings : FollowSettings) : Scene σ → List Activity → Prop
    where
  | halted {scene : Scene σ} (h : scene.stopped = true) : Follows ear settings scene []
  | again {scene : Scene σ} {round rest : List Activity} (h : scene.stopped = false)
      (hround : Round ear settings scene round)
      (hrest : Follows ear settings (scene.replay ear round) rest) :
      Follows ear settings scene (round ++ rest)

theorem Follows.of_round (hgoing : scene.stopped = false) (hround : Round ear settings scene done)
    (hstopped : (scene.replay ear done).stopped = true) : Follows ear settings scene done := by
  rw [← List.append_nil done]
  exact .again hgoing hround (.halted hstopped)

theorem attempts_replay (ear : Listener σ) (scene : Scene σ) (done : List Activity) :
    (scene.replay ear done).attempts = scene.attempts.drop (done.countP isConnect) := by
  induction done generalizing scene with
  | nil => rfl
  | cons a done ih =>
    change ((scene.after ear a).replay ear done).attempts = _
    rw [ih, List.countP_cons]
    cases a with
    | connect made => exact List.drop_tail
    | state | sent | flushed | read | chunk => rfl

namespace Handles

variable {stream : Duplex} {session : List Activity}

/-- All that is done with a stream is to greet it, to read it, and to hand on what it brings. -/
theorem isGreeting_or_mem_handled (h : Handles ear settings stream scene session) {a : Activity}
    (ha : a ∈ session) :
    a.isGreeting = true ∨ a ∈ (arrivals session).flatMap Arrival.handled := by
  obtain ⟨greeted, hsession, hquiet, -⟩ := h.order
  rw [hsession] at ha
  exact (List.mem_append.mp ha).imp_left (hquiet a)

theorem connect_not_mem (h : Handles ear settings stream scene session) (made : Bool) :
    .connect made ∉ session := by
  intro hmem
  rcases h.isGreeting_or_mem_handled hmem with hgreeting | hhandled
  · cases hgreeting
  · rcases mem_handled hhandled with ⟨_, heq⟩ | ⟨_, heq, -⟩ <;> cases heq

end Handles

theorem Round.countP_isConnect (h : Round ear settings scene done) : done.countP isConnect = 1 := by
  cases h with
  | refused => rfl
  | @handed stream session hstream hhandles =>
    have hnone : session.countP isConnect = 0 := by
      refine List.countP_eq_zero.mpr fun a ha => ?_
      cases a with
      | connect made => exact absurd ha (hhandles.connect_not_mem made)
      | state | sent | flushed | read | chunk => exact Bool.false_ne_true
    rw [List.countP_cons, List.countP_cons, List.countP_append, hnone]
    rfl

end Scene

namespace Run

variable {σ : Type} {ear : Listener σ} {run : Run σ} {scene : Scene σ} {settings : FollowSettings}

/-- An attempt to connect is one round. -/
theorem IsAt.exists_attempt (h : run.IsAt scene) (hidle : run.state = .disconnected)
    (ear : Listener σ) (settings : FollowSettings) :
    ∃ round, Scene.Round ear settings scene round ∧
      Goes ear scene run round
        ((run.attempt ear settings scene.next).enter ear .disconnected) ∧
      ((run.attempt ear settings scene.next).state = .disconnected ∨
        (run.attempt ear settings scene.next).stopped = true) := by
  have hnew : run.state ≠ .connecting := by
    rw [hidle]
    exact nofun
  have htold := h.enter ear hnew
  have hbegun : Goes ear scene run [.state .connecting, .connect scene.next.stream.isSome]
      (run.begun ear scene.next) := by
    refine ⟨congrArg (_ :: ·) htold.journal, htold.isAt.listener, ?_, ?_⟩
    · exact congrArg (· || scene.next.stops) htold.isAt.stopped
    · change (run.enter ear .connecting).state = _
      rw [state_enter]
      cases hstream : scene.next.stream.isSome <;> rfl
  have hconnecting : (run.begun ear scene.next).state = .connecting :=
    state_enter run ear .connecting
  rw [attempt_eq]
  -- The attempt has been made, and may have asked for a stop; what follows turns on the stream.
  rcases hstream : scene.next.stream with _ | stream
  · rw [hstream] at hbegun
    have hpending : (run.begun ear scene.next).state ≠ .disconnected := by
      rw [hconnecting]
      exact nofun
    have hended := hbegun.trans (hbegun.isAt.enter ear hpending)
    dsimp only
    rw [enter_of_eq (state_enter _ _ _)]
    exact ⟨_, .refused hstream, hended, .inl (state_enter _ _ _)⟩
  · rw [hstream] at hbegun
    obtain ⟨session, hhandles, hsession, hend⟩ :=
      hbegun.isAt.exists_withStream hconnecting ear settings stream
    exact ⟨_, .handed hstream hhandles, hbegun.trans hsession, hend⟩

/-- Attempts to connect are rounds up to a request to stop. -/
theorem IsAt.exists_attemptAll (h : run.IsAt scene) (hidle : run.state = .disconnected)
    (ear : Listener σ) (settings : FollowSettings) {attempts : List Attempt}
    (hattempts : scene.attempts = attempts) :
    ∃ done, Scene.Follows ear settings scene done ∧
      Goes ear scene run done
        ((attemptAll ear settings attempts run).1.enter ear .disconnected) := by
  induction attempts generalizing run scene with
  | nil =>
    rw [attemptAll]
    split
    case isTrue hstopped =>
      rw [enter_of_eq hidle]
      exact ⟨[], .halted (h.isStopped hstopped), h.goes⟩
    case isFalse hgoing =>
      have hnext : scene.next = .last := by
        rw [Scene.next, hattempts]
        rfl
      obtain ⟨round, hround, hgoes, -⟩ := h.exists_attempt hidle ear settings
      rw [hnext] at hgoes
      have hstopped := stopped_enter (stopped_attempt_last run ear settings) ear .disconnected
      exact ⟨round, .of_round (h.isGoing hgoing) hround (hgoes.isAt.isStopped hstopped), hgoes⟩
  | cons a rest ih =>
    rw [attemptAll]
    split
    case isTrue hstopped =>
      rw [enter_of_eq hidle]
      exact ⟨[], .halted (h.isStopped hstopped), h.goes⟩
    case isFalse hgoing =>
      have hnext : scene.next = a := by
        rw [Scene.next, hattempts]
        rfl
      obtain ⟨round, hround, hgoes, hend⟩ := h.exists_attempt hidle ear settings
      rw [hnext] at hgoes hend
      have hrest : (scene.replay ear round).attempts = rest := by
        rw [Scene.attempts_replay, hround.countP_isConnect, hattempts]
        rfl
      rcases hend with hstate | hstopped
      · -- The end of the connection was told, and the next attempt goes on from there.
        rw [enter_of_eq hstate] at hgoes
        obtain ⟨done, hfollows, hmore⟩ := ih hgoes.isAt hstate hrest
        exact ⟨round ++ done, .again (h.isGoing hgoing) hround hfollows, hgoes.trans hmore⟩
      · -- No attempt follows; the end of a connection that came too late is told now.
        rw [attemptAll_of_stopped _ hstopped]
        have hhalted := hgoes.isAt.isStopped (stopped_enter hstopped ear .disconnected)
        exact ⟨round, .of_round (h.isGoing hgoing) hround hhalted, hgoes⟩

end Run

/-! ### Every stream -/

namespace Scene

variable {σ : Type} {ear : Listener σ} {scene : Scene σ} {settings : FollowSettings}
  {done before after : List Activity}

/-- Nothing but an announcement comes before the next attempt to connect. -/
theorem Follows.eq_announcement (h : Follows ear settings scene done) :
    ∀ a ∈ done.takeWhile (!·.isConnect), a = .state .connecting := by
  cases h with
  | halted => exact nofun
  | again _ hround _ => cases hround <;> exact List.forall_mem_singleton.mpr rfl

/-- Every stream is handled as expected up to its end, and nothing else is done with it. -/
theorem Follows.exists_handles (h : Follows ear settings scene done)
    (hsplit : done = before ++ .connect true :: after) :
    ∃ stream session rest, (scene.replay ear before).next.stream = some stream ∧
      after = session ++ .state .disconnected :: rest ∧
      (∀ a ∈ rest.takeWhile (!·.isConnect), a = .state .connecting) ∧
      Handles ear settings stream (scene.replay ear (before ++ [.connect true])) session := by
  induction h generalizing before with
  | halted => simp at hsplit
  | @again scene round rest hgoing hround hrest ih =>
    cases hround with
    | refused hnone =>
      obtain ⟨between, rfl, hbehind⟩ := exists_append_of_not_mem (by simp) hsplit
      rw [List.append_assoc, replay_append, replay_append]
      exact ih hbehind
    | @handed stream session hstream hhandles =>
      -- The stream is the one of this round, or of a later one.
      match before with
      | [] => simp at hsplit
      | [a] =>
        simp only [List.cons_append, List.nil_append, List.append_assoc, List.cons.injEq,
          true_and] at hsplit
        obtain ⟨rfl, rfl⟩ := hsplit
        exact ⟨stream, session, rest, hstream, rfl, hrest.eq_announcement, hhandles⟩
      | a :: b :: before =>
        simp only [List.cons_append, List.cons.injEq] at hsplit
        obtain ⟨rfl, rfl, hsplit⟩ := hsplit
        have hlast : Activity.connect true ∉ session ++ [.state .disconnected] := by
          simpa using hhandles.connect_not_mem true
        obtain ⟨between, rfl, hbehind⟩ := exists_append_of_not_mem hlast hsplit
        have hlater := ih hbehind
        rw [← replay_append, ← replay_append] at hlater
        simpa using hlater

end Scene

/-- Behind the last attempt to connect there is no stream. -/
theorem Attempt.exists_eq_some {next : Option Attempt} {stream : Duplex}
    (h : (next.getD .last).stream = some stream) : ∃ stops, next = some ⟨some stream, stops⟩ := by
  cases next with
  | none => cases h
  | some a =>
    obtain ⟨given, stops⟩ := a
    obtain rfl : given = some stream := h
    exact ⟨stops, rfl⟩

namespace Follower

variable {σ : Type} {before after : List Activity}

/-- A follower does nothing but go on in rounds. -/
theorem exists_follows (follower : Follower σ) (h : follower.run.state = .disconnected) :
    ∃ done, follower.follow.journal = follower.journal ++ done ∧
      follower.scene.Follows follower.ear follower.settings done := by
  have hstart : Run.IsAt { follower.run with summary := .zero } follower.scene := ⟨rfl, rfl, h⟩
  obtain ⟨done, hfollows, hgoes⟩ :=
    hstart.exists_attemptAll h follower.ear follower.settings rfl
  refine ⟨done, ?_, hfollows⟩
  rw [journal, journal, ← List.reverse_inj, List.reverse_append, List.reverse_reverse,
    List.reverse_reverse]
  exact hgoes.journal

/-- A follower goes on in rounds during its first run, and does nothing behind it. -/
theorem journal_eq_nil_or_follows (settings : FollowSettings) (ear : Listener σ)
    (attempts : List Attempt) (listener : σ) (stopped : Bool) (runs : Nat) :
    (followTimes runs (fresh settings ear attempts listener stopped)).2.journal = [] ∨
      (fresh settings ear attempts listener stopped).scene.Follows ear settings
        (followTimes runs (fresh settings ear attempts listener stopped)).2.journal := by
  cases runs with
  | zero => exact .inl rfl
  | succ runs =>
    obtain ⟨-, -, -, -, hstopped, hstate⟩ :=
      exists_follow (fresh settings ear attempts listener stopped) rfl
    obtain ⟨done, hjournal, hfollows⟩ :=
      exists_follows (fresh settings ear attempts listener stopped) rfl
    obtain ⟨-, hlater, -⟩ := followTimes_of_stopped _ hstopped hstate runs
    rw [followTimes, hlater, hjournal]
    exact .inr hfollows

/-- Whatever the attempts to connect come to, and whenever a stop is asked for, every stream that a
follower is handed is handled as expected up to its end, and nothing else is done with it. -/
theorem handles (settings : FollowSettings) (ear : Listener σ) (attempts : List Attempt)
    (listener : σ) (stopped : Bool) (runs : Nat)
    (h : (followTimes runs (fresh settings ear attempts listener stopped)).2.journal =
      before ++ .connect true :: after) :
    ∃ stream stops session rest,
      attempts[before.countP isConnect]? = some ⟨some stream, stops⟩ ∧
      after = session ++ .state .disconnected :: rest ∧
      (∀ a ∈ rest.takeWhile (!·.isConnect), a = .state .connecting) ∧
      Scene.Handles ear settings stream
        ((fresh settings ear attempts listener stopped).scene.replay ear
          (before ++ [.connect true])) session := by
  have hfollows :=
    (journal_eq_nil_or_follows settings ear attempts listener stopped runs).resolve_left
      (by simp [h])
  obtain ⟨stream, session, rest, hstream, hafter, hrest, hhandles⟩ := hfollows.exists_handles h
  have hnext : (attempts[before.countP isConnect]?.getD .last).stream = some stream := by
    rw [← hstream, Scene.next, Scene.attempts_replay, List.head?_drop]
    rfl
  obtain ⟨stops, hattempt⟩ := Attempt.exists_eq_some hnext
  exact ⟨stream, stops, session, rest, hattempt, hafter, hrest, hhandles⟩

/-- A connection refused, and then a stream that takes the hello in two writes and whose reads are
interrupted, cut and ended by a stop. -/
theorem handles_of_short_writes :
    let follower := fresh ⟨some [72, 73], 2⟩ (StopRule.listener ⟨some 3, none⟩)
      [⟨none, false⟩,
        ⟨some ⟨[.fault (.ofKind .interrupted), .bytes [1, 2, 3], .bytes [4], .bytes [5]],
          [.upTo 1, .fault (.ofKind .interrupted)], []⟩, false⟩] 0 false
    let before : List Activity :=
      [.state .connecting, .connect false, .state .disconnected, .state .connecting]
    let after : List Activity :=
      [.state .connected, .sent [72, 73], .flushed true, .read (.fault (.ofKind .interrupted)),
        .read (.bytes [1, 2]), .chunk [1, 2], .read (.bytes [3]), .chunk [3], .read (.bytes [4]),
        .chunk [4], .state .disconnected]
    (followTimes 1 follower).2.journal = before ++ .connect true :: after ∧
      ∃ stream stops session rest,
        follower.attempts[before.countP isConnect]? = some ⟨some stream, stops⟩ ∧
        after = session ++ .state .disconnected :: rest ∧
        (∀ a ∈ rest.takeWhile (!·.isConnect), a = .state .connecting) ∧
        Scene.Handles follower.ear follower.settings stream
          (follower.scene.replay follower.ear (before ++ [.connect true])) session := by
  intro follower before after
  have hjournal : (followTimes 1 follower).2.journal = before ++ .connect true :: after := by
    -- How a source comes in pieces is found by recursion on a length, which is kept closed.
    with_unfolding_all rfl
  exact ⟨hjournal, handles _ _ _ _ _ _ hjournal⟩

end Follower

end MotionLink
