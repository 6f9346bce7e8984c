import Mathlib.Logic.Relation
import MotionLink.Log.Follower

/-!
# Two followers side by side

Two followers meet the same attempts to connect, each with a listener of its own. As long as the
listeners answer alike, the followers do the same. From the moment at which one of them asks for a
stop and the other does not, they go different ways, and only what holds of the listeners
whatever they are told can still be said.

## Main definitions

* `Tiding`, `Listener.tell` — what a listener is told, and its answer
* `Listener.Hears` — what a listener may come to when it is told anything
* `Listener.Twins` — listeners that answer alike until they part
* `Run.Paired` — two runs whose listeners are twins

## Main results

* `Follower.hears_follow` — a follower only tells its listener
* `Follower.paired_follow` — twins are together at the end, or have parted for good
-/

namespace MotionLink

/-- What a listener is told. -/
inductive Tiding where
  | state (state : LinkState)
  | chunk (bytes : Bytes)

namespace Listener

variable {σ τ : Type} {ear : Listener σ} {other : Listener τ}

/-- What a listener remembers behind a tiding, and whether it asks for a stop. -/
def tell (ear : Listener σ) (listener : σ) : Tiding → σ × Bool
  | .state state => ear.onState listener state
  | .chunk bytes => ear.onChunk listener bytes

/-- What a listener may come to when it is told anything, any number of times. -/
def Hears (ear : Listener σ) : σ → σ → Prop :=
  Relation.ReflTransGen fun before after => ∃ tiding, (ear.tell before tiding).1 = after

/-- What holds of a listener still holds, whatever it is told. -/
def Preserves (ear : Listener σ) (p : σ → Prop) : Prop :=
  ∀ (listener : σ) (tiding : Tiding), p listener → p (ear.tell listener tiding).1

theorem Preserves.of_hears {p : σ → Prop} (hp : ear.Preserves p) {before after : σ}
    (h : ear.Hears before after) (hbefore : p before) : p after := by
  induction h with
  | refl => exact hbefore
  | tail _ hstep ih =>
    obtain ⟨tiding, rfl⟩ := hstep
    exact hp _ tiding ih

/-- Two listeners that answer alike while they are together. Once they have parted, nothing that
either of them is told brings them together again. -/
structure Twins (ear : Listener σ) (other : Listener τ) (together apart : σ → τ → Prop) :
    Prop where
  tell {s : σ} {t : τ} (h : together s t) (tiding : Tiding) :
    (ear.tell s tiding).2 = (other.tell t tiding).2 ∧
        together (ear.tell s tiding).1 (other.tell t tiding).1 ∨
      apart (ear.tell s tiding).1 (other.tell t tiding).1
  left (t : τ) : ear.Preserves (apart · t)
  right (s : σ) : other.Preserves (apart s)

theorem Twins.apart_of_hears {together apart : σ → τ → Prop}
    (htwins : Twins ear other together apart) {s s' : σ} {t t' : τ} (h : apart s t)
    (hs : ear.Hears s s') (ht : other.Hears t t') : apart s' t' :=
  (htwins.right s').of_hears ht ((htwins.left t).of_hears hs h)

end Listener

/-! ### One follower -/

namespace Run

variable {σ : Type}

/-- A run that is about to learn what its next attempt to connect comes to. -/
def begun (run : Run σ) (ear : Listener σ) (a : Attempt) : Run σ :=
  let run := run.enter ear .connecting
  let run := { run with summary := { run.summary with attempts := run.summary.attempts + 1 } }
  (run.note (.connect a.stream.isSome)).stopIf a.stops

/-- A run that has counted a session. -/
def counted (run : Run σ) : Run σ :=
  { run with summary := { run.summary with sessions := run.summary.sessions + 1 } }

theorem attempt_eq (run : Run σ) (ear : Listener σ) (settings : FollowSettings) (a : Attempt) :
    run.attempt ear settings a =
      match a.stream with
      | none => (run.begun ear a).enter ear .disconnected
      | some stream => (run.begun ear a).withStream ear settings stream := rfl

theorem withStream_eq (run : Run σ) (ear : Listener σ) (settings : FollowSettings)
    (stream : Duplex) :
    run.withStream ear settings stream =
      if run.stopped then run.counted
      else ((run.counted.enter ear .connected).session ear settings stream).enter ear
        .disconnected := rfl

theorem hears_enter (run : Run σ) (ear : Listener σ) (state : LinkState) :
    ear.Hears run.listener (run.enter ear state).listener := by
  rw [enter]
  split
  · exact .refl
  · exact .single ⟨.state state, rfl⟩

theorem hears_deliver (run : Run σ) (ear : Listener σ) (chunk : Bytes) :
    ear.Hears run.listener (run.deliver ear chunk).listener :=
  .single ⟨.chunk chunk, rfl⟩

theorem hears_readAll (ear : Listener σ) (source : Source) (run : Run σ) :
    ear.Hears run.listener (readAll ear source run).listener := by
  induction source generalizing run with
  | nil =>
    rw [readAll]
    split
    · exact .refl
    · exact .refl
  | cons arrival source ih =>
    rw [readAll]
    split
    · exact .refl
    · rcases arrival with (_ | ⟨b, bytes⟩) | f
      · exact .refl
      · exact (hears_deliver run ear (b :: bytes)).trans
          (ih ((run.note (.read (.bytes (b :: bytes)))).deliver ear (b :: bytes)))
      · dsimp only
        split
        · exact ih (run.note (.read (.fault f)))
        · exact .refl

/-- Nobody is told of the hello. -/
theorem listener_greet (run : Run σ) (hello : Option Bytes) (stream : Duplex) :
    (run.greet hello stream).2.listener = run.listener := by
  cases hello with
  | none => rfl
  | some hello =>
    rw [greet]
    rcases stream.sink.transmit hello with ⟨_ | stop, sink⟩
    · rfl
    · rfl

theorem hears_session (run : Run σ) (ear : Listener σ) (settings : FollowSettings)
    (stream : Duplex) : ear.Hears run.listener (run.session ear settings stream).listener := by
  rw [session, ← listener_greet run settings.hello stream]
  dsimp only
  split
  · exact hears_readAll ear _ _
  · exact .refl

theorem hears_withStream (run : Run σ) (ear : Listener σ) (settings : FollowSettings)
    (stream : Duplex) : ear.Hears run.listener (run.withStream ear settings stream).listener := by
  rw [withStream_eq]
  split
  · exact .refl
  · have hconnected := hears_enter run.counted ear .connected
    have hread := hears_session (run.counted.enter ear .connected) ear settings stream
    exact (hconnected.trans hread).trans (hears_enter _ ear .disconnected)

theorem hears_attempt (run : Run σ) (ear : Listener σ) (settings : FollowSettings) (a : Attempt) :
    ear.Hears run.listener (run.attempt ear settings a).listener := by
  have hbegun : ear.Hears run.listener (run.begun ear a).listener := hears_enter run ear .connecting
  rw [attempt_eq]
  cases a.stream with
  | none => exact hbegun.trans (hears_enter _ ear .disconnected)
  | some stream => exact hbegun.trans (hears_withStream _ ear settings stream)

theorem hears_attemptAll (ear : Listener σ) (settings : FollowSettings) (attempts : List Attempt)
    (run : Run σ) : ear.Hears run.listener (attemptAll ear settings attempts run).1.listener := by
  induction attempts generalizing run with
  | nil =>
    rw [attemptAll]
    split
    · exact .refl
    · exact hears_attempt run ear settings .last
  | cons a rest ih =>
    rw [attemptAll]
    split
    · exact .refl
    · exact (hears_attempt run ear settings a).trans (ih _)

end Run

/-- All that a follower does to its listener is to tell it of states and chunks. -/
theorem Follower.hears_follow {σ : Type} (follower : Follower σ) :
    follower.ear.Hears follower.run.listener follower.follow.run.listener :=
  (Run.hears_attemptAll follower.ear follower.settings follower.attempts
    { follower.run with summary := .zero }).trans (Run.hears_enter _ follower.ear .disconnected)

/-! ### Two followers -/

namespace Run

variable {σ τ : Type} {ear : Listener σ} {other : Listener τ} {together apart : σ → τ → Prop}
  {run : Run σ} {run' : Run τ}

/-- Two runs that are at the same point with their listeners together, or whose listeners have
parted. -/
inductive Paired (together apart : σ → τ → Prop) (run : Run σ) (run' : Run τ) : Prop where
  | inStep (stopped : run.stopped = run'.stopped) (state : run.state = run'.state)
      (together : together run.listener run'.listener)
  | parted (apart : apart run.listener run'.listener)

namespace Paired

theorem note (h : Paired together apart run run') (activity activity' : Activity) :
    Paired together apart (run.note activity) (run'.note activity') := by
  cases h with
  | inStep hstopped hstate htogether => exact .inStep hstopped hstate htogether
  | parted hapart => exact .parted hapart

theorem stopIf (h : Paired together apart run run') (asked : Bool) :
    Paired together apart (run.stopIf asked) (run'.stopIf asked) := by
  cases h with
  | inStep hstopped hstate htogether =>
    exact .inStep (congrArg (· || asked) hstopped) hstate htogether
  | parted hapart => exact .parted hapart

theorem withSummary (h : Paired together apart run run') (summary summary' : Summary) :
    Paired together apart { run with summary } { run' with summary := summary' } := by
  cases h with
  | inStep hstopped hstate htogether => exact .inStep hstopped hstate htogether
  | parted hapart => exact .parted hapart

variable (htwins : ear.Twins other together apart)
include htwins

/-- Listeners that have parted stay so, whatever the followers do to them. -/
theorem of_hears (h : Paired together apart run run') {next : Run σ} {next' : Run τ}
    (hs : ear.Hears run.listener next.listener) (ht : other.Hears run'.listener next'.listener)
    (hstep : run.stopped = run'.stopped → run.state = run'.state →
      together run.listener run'.listener → Paired together apart next next') :
    Paired together apart next next' := by
  cases h with
  | inStep hstopped hstate htogether => exact hstep hstopped hstate htogether
  | parted hapart => exact .parted (htwins.apart_of_hears hapart hs ht)

theorem enter (h : Paired together apart run run') (state : LinkState) :
    Paired together apart (run.enter ear state) (run'.enter other state) := by
  refine h.of_hears htwins (hears_enter run ear state) (hears_enter run' other state) ?_
  intro hstopped hstate htogether
  rw [Run.enter, Run.enter, hstate]
  split
  · exact .inStep hstopped hstate htogether
  · rcases htwins.tell htogether (.state state) with ⟨hasked, hnext⟩ | hapart
    · exact .inStep (congrArg₂ (· || ·) hstopped hasked) rfl hnext
    · exact .parted hapart

theorem deliver (h : Paired together apart run run') (chunk : Bytes) :
    Paired together apart (run.deliver ear chunk) (run'.deliver other chunk) := by
  refine h.of_hears htwins (hears_deliver run ear chunk) (hears_deliver run' other chunk) ?_
  intro hstopped hstate htogether
  rcases htwins.tell htogether (.chunk chunk) with ⟨hasked, hnext⟩ | hapart
  · exact .inStep (congrArg₂ (· || ·) hstopped hasked) hstate hnext
  · exact .parted hapart

theorem readAll (source : Source) (h : Paired together apart run run') :
    Paired together apart (Run.readAll ear source run) (Run.readAll other source run') := by
  -- By induction on the reads: runs that are in step end at the same one.
  induction source generalizing run run' with
  | nil =>
    refine h.of_hears htwins (hears_readAll ear [] run) (hears_readAll other [] run') ?_
    intro hstopped _ _
    rw [Run.readAll, Run.readAll, hstopped]
    split
    · exact h
    · exact h.note _ _
  | cons arrival source ih =>
    refine h.of_hears htwins (hears_readAll ear _ run) (hears_readAll other _ run') ?_
    intro hstopped _ _
    have hread := h.note (.read arrival) (.read arrival)
    rw [Run.readAll, Run.readAll, hstopped]
    split
    · exact h
    · rcases arrival with (_ | ⟨b, bytes⟩) | f
      · exact hread
      · exact ih (hread.deliver htwins (b :: bytes))
      · dsimp only
        split
        · exact ih hread
        · exact hread

omit htwins in
theorem greet (h : Paired together apart run run') (hello : Option Bytes) (stream : Duplex) :
    (run.greet hello stream).1 = (run'.greet hello stream).1 ∧
      Paired together apart (run.greet hello stream).2 (run'.greet hello stream).2 := by
  cases hello with
  | none => exact ⟨rfl, h⟩
  | some hello =>
    rw [Run.greet, Run.greet]
    rcases stream.sink.transmit hello with ⟨_ | stop, sink⟩
    · exact ⟨rfl, (h.note _ _).note _ _⟩
    · exact ⟨rfl, h.note _ _⟩

theorem session (h : Paired together apart run run') (settings : FollowSettings)
    (stream : Duplex) :
    Paired together apart (run.session ear settings stream) (run'.session other settings stream) :=
  by
  obtain ⟨hready, hgreeted⟩ := h.greet settings.hello stream
  rw [Run.session, Run.session]
  dsimp only
  rw [hready]
  split
  · exact hgreeted.readAll htwins _
  · exact hgreeted

theorem withStream (h : Paired together apart run run') (settings : FollowSettings)
    (stream : Duplex) :
    Paired together apart (run.withStream ear settings stream)
      (run'.withStream other settings stream) := by
  refine h.of_hears htwins (hears_withStream run ear settings stream)
    (hears_withStream run' other settings stream) ?_
  intro hstopped _ _
  have hcounted : Paired together apart run.counted run'.counted := h.withSummary _ _
  rw [withStream_eq, withStream_eq, hstopped]
  split
  · exact hcounted
  · have hread := (hcounted.enter htwins .connected).session htwins settings stream
    exact hread.enter htwins .disconnected

theorem attempt (h : Paired together apart run run') (settings : FollowSettings) (a : Attempt) :
    Paired together apart (run.attempt ear settings a) (run'.attempt other settings a) := by
  have hbegun : Paired together apart (run.begun ear a) (run'.begun other a) :=
    (((h.enter htwins .connecting).withSummary _ _).note _ _).stopIf a.stops
  rw [attempt_eq, attempt_eq]
  cases a.stream with
  | none => exact hbegun.enter htwins .disconnected
  | some stream => exact hbegun.withStream htwins settings stream

theorem attemptAll (settings : FollowSettings) (attempts : List Attempt)
    (h : Paired together apart run run') :
    Paired together apart (Run.attemptAll ear settings attempts run).1
      (Run.attemptAll other settings attempts run').1 := by
  induction attempts generalizing run run' with
  | nil =>
    refine h.of_hears htwins (hears_attemptAll ear settings [] run)
      (hears_attemptAll other settings [] run') ?_
    intro hstopped _ _
    rw [Run.attemptAll, Run.attemptAll, hstopped]
    split
    · exact h
    · exact h.attempt htwins settings .last
  | cons a rest ih =>
    refine h.of_hears htwins (hears_attemptAll ear settings (a :: rest) run)
      (hears_attemptAll other settings (a :: rest) run') ?_
    intro hstopped _ _
    rw [Run.attemptAll, Run.attemptAll, hstopped]
    split
    · exact h
    · exact ih (h.attempt htwins settings a)

end Paired

end Run

/-- Two followers whose listeners are twins meet the same attempts: behind them, the listeners are
together, or they have parted for good. -/
theorem Follower.paired_follow {σ τ : Type} {ear : Listener σ} {other : Listener τ}
    {together apart : σ → τ → Prop} (htwins : ear.Twins other together apart)
    (settings : FollowSettings) (attempts : List Attempt) {run : Run σ} {run' : Run τ}
    (h : Run.Paired together apart run run') :
    Run.Paired together apart (Follower.follow ⟨settings, ear, attempts, run⟩).run
      (Follower.follow ⟨settings, other, attempts, run'⟩).run :=
  ((h.withSummary .zero .zero).attemptAll htwins settings attempts).enter htwins .disconnected

end MotionLink
