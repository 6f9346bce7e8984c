import Mathlib.Data.List.Basic
import MotionLink.Proofs.Log.Chunks

/-!
# Lines of a stream

A line is cut where its bytes reach the limit, its carriage return counted. The end of the line
then comes behind the cut, so a line that just reaches the limit comes whole, but an empty one
follows it. Below the limit lines come as they were sent, however the stream is divided into chunks.

## Main definitions

* `LineBuffer.portions` — a line without its newline, cut at the limit
* `SentLine` — a line as it is sent
* `LineBuffer.pushAll` — the lines that some chunks complete
* `LineBuffer.Delivers` — what is to be expected of lines that were sent in chunks

## Main results

* `LineBuffer.push_line` — a line comes in its portions
* `SentLine.map_lineText_portions` — a line within the limit comes whole
* `LineBuffer.delivers` — whatever lines are sent, and however they are divided, they are delivered
-/

namespace MotionLink

namespace LineBuffer

/-! ### One byte -/

section Feed

variable {limit : Nat} {held : Bytes} {byte : UInt8}

/-- The text of a line given by its bytes. -/
def lineText (bytes : Bytes) : List Char := Utf8.decode (content bytes)

theorem feed_newline (limit : Nat) (held : Bytes) :
    feed ⟨limit, held.toArray⟩ newline = (some (lineText held), ofLimit limit) := by
  rw [feed, if_pos rfl]
  rfl

/-- A byte waits while the limit is not reached. -/
theorem feed_of_lt (hbyte : byte ≠ newline) (h : held.length + 1 < max limit 1) :
    feed ⟨limit, held.toArray⟩ byte = (none, ⟨limit, (held ++ [byte]).toArray⟩) := by
  have hsize : ¬max limit 1 ≤ (held.toArray.push byte).size := by
    rw [Array.size_push, List.size_toArray]
    omega
  rw [feed, if_neg hbyte]
  dsimp only
  rw [if_neg hsize, List.push_toArray]

/-- The byte with which the limit is reached completes a line. -/
theorem feed_of_le (hbyte : byte ≠ newline) (h : max limit 1 ≤ held.length + 1) :
    feed ⟨limit, held.toArray⟩ byte = (some (lineText (held ++ [byte])), ofLimit limit) := by
  have hsize : max limit 1 ≤ (held.toArray.push byte).size := by
    rw [Array.size_push, List.size_toArray]
    exact h
  rw [feed, if_neg hbyte]
  dsimp only
  rw [if_pos hsize, List.push_toArray]
  rfl

end Feed

/-! ### One line -/

/-- A line without its newline, cut wherever it reaches the limit. -/
def portions (limit : Nat) (body : Bytes) : List Bytes :=
  if body.length < max limit 1 then [body]
  else body.take (max limit 1) :: portions limit (body.drop (max limit 1))
termination_by body.length
decreasing_by
  rw [List.length_drop]
  omega

theorem portions_of_lt {limit : Nat} {body : Bytes} (h : body.length < max limit 1) :
    portions limit body = [body] := by
  rw [portions, if_pos h]

theorem portions_of_le {limit : Nat} {body : Bytes} (h : max limit 1 ≤ body.length) :
    portions limit body =
      body.take (max limit 1) :: portions limit (body.drop (max limit 1)) := by
  rw [portions, if_neg (by omega)]

theorem length_portions (limit : Nat) (body : Bytes) :
    (portions limit body).length = body.length / max limit 1 + 1 := by
  fun_induction portions limit body with
  | case1 body h => rw [Nat.div_eq_of_lt h, List.length_singleton]
  | case2 body h ih =>
    rw [List.length_cons, ih, List.length_drop, ← Nat.div_eq_sub_div (by omega) (by omega)]

variable {limit : Nat} {bytes body : Bytes}

/-- Bytes that do not reach the limit wait. -/
theorem push_of_lt (held : Bytes) (hbytes : newline ∉ bytes)
    (h : held.length + bytes.length < max limit 1) :
    push ⟨limit, held.toArray⟩ bytes = ([], ⟨limit, (held ++ bytes).toArray⟩) := by
  induction bytes generalizing held with
  | nil => rw [List.append_nil]; rfl
  | cons byte bytes ih =>
    have hbyte : byte ≠ newline := fun heq => hbytes (heq ▸ List.mem_cons_self)
    have hrest : newline ∉ bytes := fun hmem => hbytes (List.mem_cons_of_mem byte hmem)
    rw [List.length_cons] at h
    have hheld : (held ++ [byte]).length + bytes.length < max limit 1 := by
      rw [List.length_append, List.length_singleton]
      omega
    rw [push_cons, feed_of_lt hbyte (by omega), ih _ hrest hheld, List.append_assoc]
    rfl

/-- Bytes that just reach the limit complete a line. -/
theorem push_of_length_eq (hbytes : newline ∉ bytes) (h : bytes.length = max limit 1) :
    push (ofLimit limit) bytes = ([lineText bytes], ofLimit limit) := by
  rcases List.eq_nil_or_concat' bytes with rfl | ⟨before, last, rfl⟩
  · rw [List.length_nil] at h
    omega
  rw [List.length_append, List.length_singleton] at h
  have hbefore : newline ∉ before := fun hmem => hbytes (List.mem_append_left [last] hmem)
  have hlast : last ≠ newline := by
    rintro rfl
    exact hbytes List.mem_concat_self
  have hwait : push (ofLimit limit) before = ([], ⟨limit, before.toArray⟩) :=
    push_of_lt [] hbefore (by rw [List.length_nil]; omega)
  rw [push_append, hwait, push_cons, feed_of_le hlast (by omega)]
  rfl

/-- A line comes in its portions. -/
theorem push_line (hbody : newline ∉ body) :
    push (ofLimit limit) (body ++ [newline]) =
      ((portions limit body).map lineText, ofLimit limit) := by
  fun_induction portions limit body with
  | case1 body h =>
    have hwait : push (ofLimit limit) body = ([], ⟨limit, body.toArray⟩) :=
      push_of_lt [] hbody (by simpa using h)
    rw [push_append, hwait, push_cons, feed_newline]
    rfl
  | case2 body h ih =>
    have hcut : newline ∉ body.take (max limit 1) := fun hmem => hbody (List.mem_of_mem_take hmem)
    have hrest : newline ∉ body.drop (max limit 1) := fun hmem => hbody (List.mem_of_mem_drop hmem)
    have hlength : (body.take (max limit 1)).length = max limit 1 := by
      rw [List.length_take]
      omega
    calc push (ofLimit limit) (body ++ [newline])
        = push (ofLimit limit)
            (body.take (max limit 1) ++ (body.drop (max limit 1) ++ [newline])) := by
          rw [← List.append_assoc, List.take_append_drop]
      _ = _ := by
          rw [push_append, push_of_length_eq hcut hlength, ih hrest]
          rfl

end LineBuffer

/-! ### Lines as they are sent -/

/-- A line as it is sent. -/
structure SentLine where
  content : Bytes
  /-- a carriage return stands before its newline -/
  withReturn : Bool
  newline_not_mem : LineBuffer.newline ∉ content
  getLast?_ne : content.getLast? ≠ some LineBuffer.carriageReturn

namespace SentLine

open LineBuffer

variable {line : SentLine} {limit : Nat}

/-- What stands between the content of a line and its newline. -/
def tail (line : SentLine) : Bytes := if line.withReturn then [carriageReturn] else []

/-- The line without its newline. -/
def body (line : SentLine) : Bytes := line.content ++ line.tail

/-- The bytes of a line. -/
def wire (line : SentLine) : Bytes := line.body ++ [newline]

/-- The text of a line. -/
def text (line : SentLine) : List Char := Utf8.decode line.content

theorem tail_eq (line : SentLine) : line.tail = [] ∨ line.tail = [carriageReturn] := by
  rw [tail]
  split
  · exact .inr rfl
  · exact .inl rfl

theorem newline_not_mem_body (line : SentLine) : newline ∉ line.body := by
  rw [body, List.mem_append, not_or]
  refine ⟨line.newline_not_mem, ?_⟩
  rcases line.tail_eq with htail | htail
  · rw [htail]
    exact List.not_mem_nil
  · rw [htail]
    decide

/-- A line without a carriage return at its end keeps all its bytes. -/
theorem lineText_content (line : SentLine) : lineText line.content = line.text := by
  rw [lineText, LineBuffer.content, if_neg line.getLast?_ne, text]

theorem lineText_body (line : SentLine) : lineText line.body = line.text := by
  rcases line.tail_eq with htail | htail
  · rw [body, htail, List.append_nil, lineText_content]
  · rw [body, htail, lineText, LineBuffer.content, if_pos (by simp), List.dropLast_concat, text]

/-- Where only the end of a line is left, nothing of it is shown. -/
theorem map_lineText_portions_tail (limit : Nat) (line : SentLine) :
    (portions limit line.tail).map lineText =
      List.replicate (line.tail.length / max limit 1 + 1) [] := by
  have hnone : portions limit [] = [[]] := portions_of_lt (by rw [List.length_nil]; omega)
  rcases line.tail_eq with htail | htail
  · rw [htail, hnone, List.length_nil, Nat.zero_div]
    rfl
  · rw [htail, List.length_singleton]
    by_cases hlimit : max limit 1 = 1
    · rw [portions_of_le (by rw [hlimit]; exact Nat.le_refl 1), hlimit]
      change (_ :: portions limit []).map lineText = _
      rw [hnone]
      rfl
    · rw [portions_of_lt (by rw [List.length_singleton]; omega),
        Nat.div_eq_of_lt (by omega : 1 < max limit 1)]
      rfl

/-- A line within the limit comes whole. Each time that its bytes reach the limit, the carriage
return counted, an empty line follows. -/
theorem map_lineText_portions (h : line.content.length ≤ max limit 1) :
    (portions limit line.body).map lineText =
      line.text :: List.replicate (line.body.length / max limit 1) [] := by
  have htail : line.tail.length ≤ 1 := by
    rcases line.tail_eq with htail | htail <;> rw [htail] <;> decide
  have hbody : line.body.length = line.content.length + line.tail.length := List.length_append
  by_cases hshort : line.body.length < max limit 1
  · rw [portions_of_lt hshort, Nat.div_eq_of_lt hshort, List.map_singleton, lineText_body]
    rfl
  rw [portions_of_le (by omega), List.map_cons]
  -- Either the content reaches the limit alone, or the whole line just reaches it.
  by_cases hfull : line.content.length = max limit 1
  · have htake : line.body.take (max limit 1) = line.content := List.take_left' hfull
    have hdrop : line.body.drop (max limit 1) = line.tail := List.drop_left' hfull
    rw [htake, hdrop, lineText_content, map_lineText_portions_tail, hbody, hfull,
      Nat.add_div_left _ (by omega)]
  · have hwhole : line.body.length = max limit 1 := by omega
    rw [List.take_of_length_le (by omega), List.drop_of_length_le (by omega), lineText_body,
      hwhole, Nat.div_self (by omega), portions_of_lt (by rw [List.length_nil]; omega)]
    rfl

end SentLine

/-! ### Rows of lines -/

namespace LineBuffer

/-- The lines that some chunks complete, and the buffer behind them. -/
def pushAll (buffer : LineBuffer) : List Bytes → List (List Char) × LineBuffer
  | [] => ([], buffer)
  | chunk :: rest =>
    ((buffer.push chunk).1 ++ ((buffer.push chunk).2.pushAll rest).1,
      ((buffer.push chunk).2.pushAll rest).2)

/-- How bytes are divided into chunks does not matter. -/
theorem pushAll_eq (buffer : LineBuffer) (chunks : List Bytes) :
    buffer.pushAll chunks = buffer.push chunks.flatten := by
  induction chunks generalizing buffer with
  | nil => rfl
  | cons chunk rest ih => rw [pushAll, ih, List.flatten_cons, push_append]

/-- The lines that come for a line that was sent. -/
def shownFor (limit : Nat) (line : SentLine) : List (List Char) :=
  (portions limit line.body).map lineText

theorem push_wires (limit : Nat) (sent : List SentLine) :
    push (ofLimit limit) (sent.flatMap SentLine.wire) =
      (sent.flatMap (shownFor limit), ofLimit limit) := by
  induction sent with
  | nil => rfl
  | cons line sent ih =>
    rw [List.flatMap_cons, push_append, SentLine.wire, push_line line.newline_not_mem_body, ih]
    rfl

theorem length_shownFor (limit : Nat) (line : SentLine) :
    (shownFor limit line).length = line.body.length / max limit 1 + 1 := by
  rw [shownFor, List.length_map, length_portions]

theorem length_le_length_shownFor (limit : Nat) (sent : List SentLine) :
    sent.length ≤ (sent.flatMap (shownFor limit)).length := by
  induction sent with
  | nil => exact Nat.le_refl 0
  | cons line sent ih =>
    rw [List.flatMap_cons, List.length_append, length_shownFor, List.length_cons]
    exact Nat.le_trans (Nat.succ_le_succ ih) (by simp +arith)

/-- There are as many lines as were sent only if none reaches the limit. -/
theorem lt_limit_of_length_eq {limit : Nat} {sent : List SentLine}
    (h : (sent.flatMap (shownFor limit)).length = sent.length) :
    ∀ line ∈ sent, line.body.length < max limit 1 := by
  induction sent with
  | nil => exact nofun
  | cons line sent ih =>
    have hrest := length_le_length_shownFor limit sent
    rw [List.flatMap_cons, List.length_append, length_shownFor, List.length_cons] at h
    have hcount : line.body.length / max limit 1 = 0 ∧
        (sent.flatMap (shownFor limit)).length = sent.length := by
      generalize line.body.length / max limit 1 = extra at h ⊢
      omega
    refine List.forall_mem_cons.mpr ⟨?_, ih hcount.2⟩
    exact (Nat.div_eq_zero_iff_lt (by omega)).mp hcount.1

/-- The lines that come are those sent exactly when none of these reaches the limit. -/
theorem flatMap_shownFor_eq_iff (limit : Nat) (sent : List SentLine) :
    sent.flatMap (shownFor limit) = sent.map SentLine.text ↔
      ∀ line ∈ sent, line.body.length < max limit 1 := by
  constructor
  · intro h
    exact lt_limit_of_length_eq (by rw [h, List.length_map])
  · intro h
    rw [List.map_eq_flatMap]
    refine List.flatMap_congr fun line hline => ?_
    rw [shownFor, portions_of_lt (h line hline), List.map_singleton, line.lineText_body]

/-- What is to be expected of the lines that come for some lines sent, and of the buffer behind
them. -/
structure Delivers (limit : Nat) (sent : List SentLine) (lines : List (List Char))
    (behind : LineBuffer) : Prop where
  /-- a line comes in its portions, and it is cut nowhere else -/
  portions : lines = sent.flatMap fun line => (portions limit line.body).map lineText
  /-- lines within the limit come whole and in order, with an empty line behind one for each time
  that its bytes reach the limit -/
  whole : (∀ line ∈ sent, line.content.length ≤ max limit 1) →
    lines = sent.flatMap fun line =>
      line.text :: List.replicate (line.body.length / max limit 1) []
  /-- exactly the lines sent come when none of them reaches the limit, the carriage return
  counted, and only then -/
  exact : lines = sent.map SentLine.text ↔ ∀ line ∈ sent, line.body.length < max limit 1
  /-- nothing waits -/
  flush : behind.flush.1 = none

/-- Whatever lines are sent, and however their bytes are divided into chunks, they are delivered. -/
theorem delivers (limit : Nat) {sent : List SentLine} {chunks : List Bytes}
    (hchunks : chunks.flatten = sent.flatMap SentLine.wire) :
    Delivers limit sent ((ofLimit limit).pushAll chunks).1
      ((ofLimit limit).pushAll chunks).2 := by
  rw [pushAll_eq, hchunks, push_wires]
  constructor
  case portions => rfl
  case whole =>
    exact fun hfits => List.flatMap_congr fun line hline =>
      line.map_lineText_portions (hfits line hline)
  case exact => exact flatMap_shownFor_eq_iff limit sent
  case flush => rfl

/-- Two lines cut inside a character and before a newline; the second one just reaches the limit
with its carriage return. -/
theorem delivers_of_cut_return :
    let sent : List SentLine := [⟨Utf8.octets "é", false, by decide, by decide⟩,
      ⟨Utf8.octets "abc", true, by decide, by decide⟩]
    let chunks : List Bytes := [[0xC3], [], [0xA9, 0x0A, 0x61], [0x62, 0x63, 0x0D], [0x0A]]
    chunks.flatten = sent.flatMap SentLine.wire ∧
      Delivers 4 sent [['é'], ['a', 'b', 'c'], []] (ofLimit 4) :=
  ⟨by decide, @delivers 4
    [⟨Utf8.octets "é", false, by decide, by decide⟩,
      ⟨Utf8.octets "abc", true, by decide, by decide⟩]
    [[0xC3], [], [0xA9, 0x0A, 0x61], [0x62, 0x63, 0x0D], [0x0A]] (by decide)⟩

/-- A line that just reaches the limit does not come alone. -/
theorem not_delivered_alone :
    ¬∀ (limit : Nat) (sent : List SentLine) (chunks : List Bytes), 1 ≤ limit →
      (∀ line ∈ sent, line.content.length ≤ limit) →
      chunks.flatten = sent.flatMap SentLine.wire →
      ((ofLimit limit).pushAll chunks).1 = sent.map SentLine.text ∧
        ((ofLimit limit).pushAll chunks).2.flush.1 = none := by
  intro h
  have hlines := (h 4 [⟨Utf8.octets "abcd", false, by decide, by decide⟩] [Utf8.octets "abcd\n"]
    (by decide) (by decide) (by decide)).1
  exact absurd hlines (by decide)

end LineBuffer

end MotionLink
