import MotionLink.Log.Follower

/-!
# What the journal of a follower tells

Whoever knows the listener, and what the attempts to connect come to, can tell from the journal
alone how far the follower is and whether a stop has been asked for. What may come next at each
point is said once, and whatever a follower does keeps to it.

## Main definitions

* `Scene` — what can be told at some point of a journal
* `Scene.Allows`, `Scene.after` — what may come next, and what can be told behind it
* `Scene.Leads` — a journal from one scene to another, with each entry allowed
* `Summary.of` — the numbers of a journal
* `Run.Keeps` — a run that keeps to what is allowed

## Main results

* `Run.Keeps.attempt` — an attempt to connect keeps to what is allowed
* `Follower.exists_follow` — so does every run of a follower
-/

namespace MotionLink

/-! ### Entries of a journal -/

namespace Activity

/-- An attempt to connect. -/
def isConnect : Activity → Bool
  | connect _ => true
  | _ => false

/-- An attempt to connect that gave a stream. -/
def isMade : Activity → Bool
  | connect made => made
  | _ => false

/-- The bytes of a chunk that the listener was told of. -/
def chunkBytes : Activity → Bytes
  | chunk bytes => bytes
  | _ => []

/-- Something done to a stream without telling the listener. -/
def isQuiet : Activity → Bool
  | sent _ | flushed _ | read _ => true
  | _ => false

/-- What may still be done behind a request to stop. -/
def isParting : Activity → Bool
  | connect _ | sent _ | flushed _ | state .disconnected => true
  | _ => false

/-- The state that the listener was told. -/
def report? : Activity → Option LinkState
  | state told => some told
  | _ => none

/-- The states that the listener was told, in order. -/
def reports (done : List Activity) : List LinkState := done.filterMap report?

end Activity

/-! ### Scenes -/

/-- How far a follower is. -/
inductive Phase where
  /-- not connected -/
  | idle
  /-- the listener was told that an attempt to connect follows -/
  | announced
  /-- the attempt was refused -/
  | refused
  /-- the attempt gave a stream -/
  | made
  /-- the listener was told of the stream, which nothing has been sent to -/
  | connected
  /-- the hello was sent, or a part of it -/
  | greeted
  /-- nothing remains to be sent -/
  | ready
deriving DecidableEq

namespace Phase

/-- The state that the listener was told last. -/
def state : Phase → LinkState
  | idle => .disconnected
  | announced | refused | made => .connecting
  | connected | greeted | ready => .connected

/-- How far a follower is that has just told its listener of a state. -/
def ofState : LinkState → Phase
  | .disconnected => idle
  | .connecting => announced
  | .connected => connected

end Phase

/-- What can be told at some point of a journal. -/
structure Scene (σ : Type) where
  phase : Phase
  /-- what the listener remembers -/
  listener : σ
  /-- what the next attempts to connect come to -/
  attempts : List Attempt
  /-- a stop has been asked for -/
  stopped : Bool

namespace Scene

variable {σ : Type} {ear : Listener σ} {scene last : Scene σ} {a : Activity}
  {done more : List Activity}

/-- What the next attempt to connect comes to. -/
def next (scene : Scene σ) : Attempt := scene.attempts.head?.getD .last

/-- The scene behind an entry. The listener may ask for a stop whenever it is told something, and
so may the operator during an attempt to connect. -/
def after (ear : Listener σ) (scene : Scene σ) : Activity → Scene σ
  | .connect made =>
    { scene with
      phase := if made then .made else .refused
      attempts := scene.attempts.tail
      stopped := scene.stopped || scene.next.stops }
  | .state state =>
    { scene with
      phase := .ofState state
      listener := (ear.onState scene.listener state).1
      stopped := scene.stopped || (ear.onState scene.listener state).2 }
  | .sent _ => { scene with phase := .greeted }
  | .flushed _ => { scene with phase := .ready }
  | .read _ => { scene with phase := .ready }
  | .chunk bytes =>
    { scene with
      listener := (ear.onChunk scene.listener bytes).1
      stopped := scene.stopped || (ear.onChunk scene.listener bytes).2 }

/-- What may be done next. -/
inductive Allows (scene : Scene σ) : Activity → Prop where
  /-- no attempt is announced once a stop was asked for -/
  | announce (hphase : scene.phase = .idle) (hgoing : scene.stopped = false) :
      Allows scene (.state .connecting)
  | connect (hphase : scene.phase = .announced) : Allows scene (.connect scene.next.stream.isSome)
  | giveUp (hphase : scene.phase = .refused) : Allows scene (.state .disconnected)
  /-- a stream is not used once a stop was asked for -/
  | abandon (hphase : scene.phase = .made) (hstopped : scene.stopped = true) :
      Allows scene (.state .disconnected)
  | tell (hphase : scene.phase = .made) (hgoing : scene.stopped = false) :
      Allows scene (.state .connected)
  | send (bytes : Bytes) (hphase : scene.phase = .connected) : Allows scene (.sent bytes)
  | flush (ok : Bool) (hphase : scene.phase = .greeted) : Allows scene (.flushed ok)
  /-- nothing is read once a stop was asked for -/
  | read (arrival : Arrival) (hphase : scene.phase = .connected ∨ scene.phase = .ready)
      (hgoing : scene.stopped = false) : Allows scene (.read arrival)
  | deliver (bytes : Bytes) (hphase : scene.phase = .ready) (hgoing : scene.stopped = false) :
      Allows scene (.chunk bytes)
  | hangUp (hphase : scene.phase.state = .connected) : Allows scene (.state .disconnected)

/-- The listener is never told the same state twice. -/
theorem Allows.state_ne {state : LinkState} (h : scene.Allows (.state state)) :
    scene.phase.state ≠ state := by
  cases h with
  | announce hphase | giveUp hphase | abandon hphase | tell hphase =>
    rw [hphase]
    exact nofun
  | hangUp hphase =>
    rw [hphase]
    exact nofun

/-- The scene behind some entries. -/
def replay (ear : Listener σ) (scene : Scene σ) (done : List Activity) : Scene σ :=
  done.foldl (after ear) scene

/-- Entries that lead from one scene to another, each allowed where it stands. -/
inductive Leads (ear : Listener σ) : Scene σ → List Activity → Scene σ → Prop where
  | nil (scene : Scene σ) : Leads ear scene [] scene
  | cons {scene last : Scene σ} {a : Activity} {rest : List Activity} (hallows : scene.Allows a)
      (hrest : Leads ear (scene.after ear a) rest last) : Leads ear scene (a :: rest) last

theorem Leads.replay_eq (h : Leads ear scene done last) : scene.replay ear done = last := by
  induction h with
  | nil scene => rfl
  | cons hallows hrest ih => exact ih

theorem Leads.append_singleton (h : Leads ear scene done last) (hallows : last.Allows a) :
    Leads ear scene (done ++ [a]) (last.after ear a) := by
  induction h with
  | nil scene => exact .cons hallows (.nil _)
  | cons hfirst hrest ih => exact .cons hfirst (ih hallows)

/-- A journal can be cut anywhere. -/
theorem Leads.split (h : Leads ear scene (done ++ more) last) :
    Leads ear scene done (scene.replay ear done) ∧ Leads ear (scene.replay ear done) more last := by
  induction done generalizing scene with
  | nil => exact ⟨.nil scene, h⟩
  | cons a done ih =>
    cases h with
    | cons hallows hrest =>
      obtain ⟨hdone, hmore⟩ := ih hrest
      exact ⟨.cons hallows hdone, hmore⟩

/-! ### Behind a request to stop -/

theorem stopped_after (h : scene.stopped = true) (ear : Listener σ) (a : Activity) :
    (scene.after ear a).stopped = true := by
  cases a with
  | connect | state | chunk => exact Bool.or_eq_true_iff.mpr (.inl h)
  | sent | flushed | read => exact h

/-- Only an attempt that was announced, the hello and the end of a connection come behind a
request to stop. -/
theorem Allows.isParting (h : scene.Allows a) (hstopped : scene.stopped = true) :
    a.isParting = true := by
  cases h with
  | connect | giveUp | abandon | send | flush | hangUp => rfl
  | announce _ hgoing | tell _ hgoing | read _ _ hgoing | deliver _ _ hgoing =>
    exact absurd (hgoing.symm.trans hstopped) Bool.false_ne_true

theorem Leads.isParting (h : Leads ear scene done last) (hstopped : scene.stopped = true) :
    ∀ a ∈ done, a.isParting = true := by
  induction h with
  | nil scene => exact nofun
  | cons hallows hrest ih =>
    exact List.forall_mem_cons.mpr
      ⟨hallows.isParting hstopped, ih (stopped_after hstopped ear _)⟩

end Scene

/-! ### The numbers of a journal -/

/-- The numbers of a journal. -/
def Summary.of (done : List Activity) : Summary where
  attempts := done.countP Activity.isConnect
  sessions := done.countP Activity.isMade
  bytes := (done.flatMap Activity.chunkBytes).length

theorem Summary.of_append (done more : List Activity) :
    Summary.of (done ++ more) =
      ⟨(Summary.of done).attempts + (Summary.of more).attempts,
        (Summary.of done).sessions + (Summary.of more).sessions,
        (Summary.of done).bytes + (Summary.of more).bytes⟩ := by
  simp only [Summary.of, List.countP_append, List.flatMap_append, List.length_append]

theorem Summary.of_append_uncounted (done : List Activity) {a : Activity} (h : of [a] = .zero) :
    of (done ++ [a]) = of done := by
  rw [of_append, h]
  rfl

/-! ### Runs -/

namespace Run

variable {σ : Type} {ear : Listener σ} {origin : Scene σ} {past : List Activity} {phase : Phase}
  {attempts : List Attempt} {run : Run σ}

/-- The scene of a run, given how far it is and what it will meet. -/
def scene (run : Run σ) (phase : Phase) (attempts : List Attempt) : Scene σ :=
  ⟨phase, run.listener, attempts, run.stopped⟩

theorem stopped_enter (h : run.stopped = true) (ear : Listener σ) (state : LinkState) :
    (run.enter ear state).stopped = true := by
  rw [enter]
  split
  · exact h
  · exact Bool.or_eq_true_iff.mpr (.inl h)

/-- The operator stops the follower behind the last attempt. -/
theorem stopped_attempt_last (run : Run σ) (ear : Listener σ) (settings : FollowSettings) :
    (run.attempt ear settings .last).stopped = true :=
  stopped_enter (Bool.or_true _) ear .disconnected

/-- A run that set out from some scene, with the past in its journal, and has kept to what is
allowed since. -/
structure Keeps (ear : Listener σ) (origin : Scene σ) (past : List Activity) (phase : Phase)
    (attempts : List Attempt) (run : Run σ) : Prop where
  journal : ∃ done, run.journal = done.reverse ++ past ∧ run.summary = .of done ∧
    Scene.Leads ear origin done (run.scene phase attempts)
  state : run.state = phase.state

namespace Keeps

/-- One more entry is made, and counted. -/
theorem exists_journal (h : run.Keeps ear origin past phase attempts) {a : Activity}
    (hallows : (run.scene phase attempts).Allows a) (summary : Summary)
    (hsummary : ∀ done, run.summary = .of done → summary = .of (done ++ [a])) :
    ∃ done, a :: run.journal = done.reverse ++ past ∧ summary = .of done ∧
      Scene.Leads ear origin done ((run.scene phase attempts).after ear a) := by
  obtain ⟨done, hjournal, hcounted, hleads⟩ := h.journal
  refine ⟨done ++ [a], ?_, hsummary done hcounted, hleads.append_singleton hallows⟩
  rw [hjournal, List.reverse_append]
  rfl

theorem enter (h : run.Keeps ear origin past phase attempts) {state : LinkState}
    (hallows : (run.scene phase attempts).Allows (.state state)) :
    (run.enter ear state).Keeps ear origin past (.ofState state) attempts := by
  have hnew : ¬run.state = state := by
    rw [h.state]
    exact hallows.state_ne
  rw [Run.enter, if_neg hnew]
  refine ⟨h.exists_journal hallows _ fun done hcounted => ?_, ?_⟩
  · exact hcounted.trans (Summary.of_append_uncounted done rfl).symm
  · cases state <;> rfl

/-- What is done to a stream without telling the listener. -/
theorem note (h : run.Keeps ear origin past phase attempts) {a : Activity}
    (hquiet : a.isQuiet = true) (hallows : (run.scene phase attempts).Allows a) :
    (run.note a).Keeps ear origin past ((run.scene phase attempts).after ear a).phase attempts := by
  -- All that is done quietly is done to a stream that the listener knows of.
  have hconnected : phase.state = .connected := by
    cases hallows with
    | send bytes hphase => rw [show phase = _ from hphase]; rfl
    | flush ok hphase => rw [show phase = _ from hphase]; rfl
    | read arrival hphase hgoing =>
      rcases hphase with hphase | hphase <;> rw [show phase = _ from hphase] <;> rfl
    | announce | connect | giveUp | abandon | tell | deliver | hangUp => cases hquiet
  cases a with
  | sent | flushed | read =>
    refine ⟨h.exists_journal hallows _ fun done hcounted => ?_, h.state.trans hconnected⟩
    exact hcounted.trans (Summary.of_append_uncounted done rfl).symm
  | connect | state | chunk => cases hquiet

theorem read (h : run.Keeps ear origin past phase attempts)
    (hphase : phase = .connected ∨ phase = .ready) (hgoing : run.stopped = false)
    (arrival : Arrival) : (run.note (.read arrival)).Keeps ear origin past .ready attempts :=
  h.note rfl (.read arrival hphase hgoing)

theorem deliver (h : run.Keeps ear origin past .ready attempts) (hgoing : run.stopped = false)
    (bytes : Bytes) : (run.deliver ear bytes).Keeps ear origin past .ready attempts := by
  refine ⟨h.exists_journal (.deliver bytes rfl hgoing) _ fun done hcounted => ?_, h.state⟩
  rw [Summary.of_append, ← hcounted]
  simp [Run.deliver, Run.stopIf, Run.note, Summary.of, Activity.isConnect, Activity.isMade,
    Activity.chunkBytes]

/-- Reading is over when the stream ends or fails, and when a stop was asked for. -/
theorem readAll (source : Source) (h : run.Keeps ear origin past phase attempts)
    (hphase : phase = .connected ∨ phase = .ready) :
    ∃ phase, (Run.readAll ear source run).Keeps ear origin past phase attempts ∧
      phase.state = .connected := by
  have hstate : phase.state = .connected := by
    rcases hphase with rfl | rfl <;> rfl
  -- A stop may come with each chunk, so it is looked for before each read.
  induction source generalizing run phase with
  | nil =>
    rw [Run.readAll]
    split
    · exact ⟨phase, h, hstate⟩
    · rename_i hgoing
      exact ⟨.ready, h.read hphase (by simpa using hgoing) _, rfl⟩
  | cons arrival source ih =>
    rw [Run.readAll]
    split
    · exact ⟨phase, h, hstate⟩
    · rename_i hgoing
      have hgoing : run.stopped = false := by simpa using hgoing
      have hread := h.read hphase hgoing arrival
      dsimp only
      split
      · exact ⟨.ready, hread, rfl⟩
      · exact ih (hread.deliver hgoing _) (.inr rfl) rfl
      · split
        · exact ih hread (.inr rfl) rfl
        · exact ⟨.ready, hread, rfl⟩

/-- A stream is ready to be read once all of the hello was sent and flushed. -/
theorem greet (h : run.Keeps ear origin past .connected attempts) (hello : Option Bytes)
    (stream : Duplex) :
    ∃ phase, (run.greet hello stream).2.Keeps ear origin past phase attempts ∧
      phase.state = .connected ∧
      ((run.greet hello stream).1 = true → phase = .connected ∨ phase = .ready) := by
  cases hello with
  | none => exact ⟨.connected, h, rfl, fun _ => .inl rfl⟩
  | some hello =>
    rw [Run.greet]
    rcases htransmit : stream.sink.transmit hello with ⟨_ | stop, sink⟩
    · have hsent := h.note (a := .sent sink.written) rfl (.send _ rfl)
      have hflushed := hsent.note (a := .flushed sink.flush.1.isNone) rfl (.flush _ rfl)
      exact ⟨.ready, hflushed, rfl, fun _ => .inr rfl⟩
    · exact ⟨.greeted, h.note rfl (.send _ rfl), rfl, nofun⟩

theorem session (h : run.Keeps ear origin past .connected attempts) (settings : FollowSettings)
    (stream : Duplex) :
    ∃ phase, (run.session ear settings stream).Keeps ear origin past phase attempts ∧
      phase.state = .connected := by
  obtain ⟨phase, hgreeted, hstate, hphase⟩ := h.greet settings.hello stream
  rw [Run.session]
  dsimp only
  split
  · rename_i hready
    exact hgreeted.readAll _ (hphase hready)
  · exact ⟨phase, hgreeted, hstate⟩

theorem giveUp (h : run.Keeps ear origin past .refused attempts) :
    (run.enter ear .disconnected).Keeps ear origin past .idle attempts :=
  h.enter (.giveUp rfl)

/-- A stream is used and then hung up, unless a stop was asked for meanwhile. -/
theorem withStream (settings : FollowSettings) (stream : Duplex)
    (h : Keeps ear origin past .made attempts
      { run with summary := { run.summary with sessions := run.summary.sessions + 1 } }) :
    ∃ phase, (run.withStream ear settings stream).Keeps ear origin past phase attempts ∧
      (phase = .idle ∨ phase = .made ∧ (run.withStream ear settings stream).stopped = true) := by
  rw [Run.withStream]
  dsimp only
  split
  · rename_i hstopped
    exact ⟨.made, h, .inr ⟨rfl, hstopped⟩⟩
  · rename_i hgoing
    have hconnected := h.enter (.tell rfl (Bool.eq_false_iff.mpr hgoing))
    obtain ⟨phase, hsession, hstate⟩ := hconnected.session settings stream
    exact ⟨.idle, hsession.enter (.hangUp hstate), .inl rfl⟩

/-- An attempt to connect ends without a connection, or with a stream that came too late. -/
theorem attempt (settings : FollowSettings) {a : Attempt}
    (h : run.Keeps ear origin past .idle attempts) (hgoing : run.stopped = false)
    (hnext : attempts.head?.getD .last = a) :
    ∃ phase, (run.attempt ear settings a).Keeps ear origin past phase attempts.tail ∧
      (phase = .idle ∨ phase = .made ∧ (run.attempt ear settings a).stopped = true) := by
  have htold := h.enter (.announce rfl hgoing)
  rw [Run.attempt]
  -- The attempt is made even if the listener asked for a stop when it was told.
  generalize run.enter ear .connecting = told at htold ⊢
  obtain rfl := hnext
  have hconnect : (told.scene .announced attempts).Allows
      (.connect (attempts.head?.getD .last).stream.isSome) := .connect rfl
  rcases hstream : (attempts.head?.getD .last).stream with _ | stream
  · rw [hstream] at hconnect
    have hcounted := htold.exists_journal hconnect
      { told.summary with attempts := told.summary.attempts + 1 } fun done hcounted => by
        rw [hcounted, Summary.of_append]
        rfl
    exact ⟨.idle, giveUp ⟨hcounted, htold.state⟩, .inl rfl⟩
  · rw [hstream] at hconnect
    have hcounted := htold.exists_journal hconnect
      ⟨told.summary.attempts + 1, told.summary.sessions + 1, told.summary.bytes⟩
      fun done hcounted => by
        rw [hcounted, Summary.of_append]
        rfl
    exact withStream settings stream ⟨hcounted, htold.state⟩

/-- Attempts follow each other until a stop is asked for, which it is behind the last one. -/
theorem attemptAll (settings : FollowSettings) (h : run.Keeps ear origin past phase attempts)
    (hphase : phase = .idle ∨ phase = .made ∧ run.stopped = true) :
    ∃ phase, (Run.attemptAll ear settings attempts run).1.Keeps ear origin past phase
        (Run.attemptAll ear settings attempts run).2 ∧
      (phase = .idle ∨ phase = .made) ∧
      (Run.attemptAll ear settings attempts run).1.stopped = true := by
  induction attempts generalizing run phase with
  | nil =>
    rw [Run.attemptAll]
    split
    · rename_i hstopped
      exact ⟨phase, h, hphase.imp_right And.left, hstopped⟩
    · -- A stream that came too late is left only when a stop was asked for.
      rename_i hgoing
      obtain rfl : phase = .idle := hphase.resolve_right fun hmade => hgoing hmade.2
      obtain ⟨phase, hlast, hphase⟩ := h.attempt settings (Bool.eq_false_iff.mpr hgoing) rfl
      exact ⟨phase, hlast, hphase.imp_right And.left, stopped_attempt_last run ear settings⟩
  | cons a rest ih =>
    rw [Run.attemptAll]
    split
    · rename_i hstopped
      exact ⟨phase, h, hphase.imp_right And.left, hstopped⟩
    · rename_i hgoing
      obtain rfl : phase = .idle := hphase.resolve_right fun hmade => hgoing hmade.2
      obtain ⟨phase, hnext, hphase⟩ := h.attempt settings (Bool.eq_false_iff.mpr hgoing) rfl
      exact ih hnext hphase

/-- A run ends unconnected. -/
theorem finish (h : run.Keeps ear origin past phase attempts)
    (hphase : phase = .idle ∨ phase = .made) (hstopped : run.stopped = true) :
    (run.enter ear .disconnected).Keeps ear origin past .idle attempts := by
  rcases hphase with rfl | rfl
  · have hstate : run.state = .disconnected := h.state
    rw [Run.enter, if_pos hstate]
    exact h
  · exact h.enter (.abandon rfl hstopped)

end Keeps

end Run

/-! ### Followers -/

namespace Follower

variable {σ : Type}

/-- A follower that has not followed yet. -/
def fresh (settings : FollowSettings) (ear : Listener σ) (attempts : List Attempt) (listener : σ)
    (stopped : Bool) : Follower σ := ⟨settings, ear, attempts, .start listener stopped⟩

/-- The scene of a follower between two runs. -/
def scene (follower : Follower σ) : Scene σ := follower.run.scene .idle follower.attempts

/-- Every run of a follower keeps to what is allowed, and is over only when a stop was asked
for. -/
theorem exists_follow (follower : Follower σ) (h : follower.run.state = .disconnected) :
    ∃ done, follower.follow.journal = follower.journal ++ done ∧
      follower.scene.Leads follower.ear done follower.follow.scene ∧
      follower.follow.run.summary = .of done ∧ follower.follow.run.stopped = true ∧
      follower.follow.run.state = .disconnected := by
  -- A run counts from zero, and its journal is that of the runs before with more behind it.
  have hbefore : Run.Keeps follower.ear follower.scene follower.run.journal .idle follower.attempts
      { follower.run with summary := .zero } :=
    ⟨⟨[], rfl, rfl, .nil _⟩, h⟩
  obtain ⟨phase, hattempts, hphase, hstopped⟩ := hbefore.attemptAll follower.settings (.inl rfl)
  have hfollow := hattempts.finish hphase hstopped
  obtain ⟨done, hjournal, hcounted, hleads⟩ := hfollow.journal
  refine ⟨done, ?_, hleads, hcounted, Run.stopped_enter hstopped _ _, hfollow.state⟩
  rw [Follower.journal, Follower.journal, ← List.reverse_inj, List.reverse_append,
    List.reverse_reverse, List.reverse_reverse]
  exact hjournal

end Follower

end MotionLink
