import CheshireLane.Library.Histories
import CheshireLane.LogSink

/-!
# The way to the log panel

Every event that is logged gets a writer. The writer keeps the bytes it is given, and sends
them as one message when it is dropped. A relay thread takes the messages from the channel
and hands each to the event loop, which appends it to the panel. Writers of several threads
are open at a time, and the window may be closed while messages are on their way.
-/

namespace CheshireLane.LogSink

open Transitions Histories

/-- The byte may stand behind the first byte of a character of three or four bytes. -/
def follows (first second : UInt8) : Bool :=
  let low := if first = 0xE0 then 0xA0 else if first = 0xF0 then 0x90 else 0x80
  let high := if first = 0xED then 0x9F else if first = 0xF4 then 0x8F else 0xBF
  0xE0 ≤ first && first ≤ 0xF4 && low ≤ second && second ≤ high

/-- The bytes that one replacement character stands for. -/
def brokenLength : List UInt8 → Nat
  | first :: second :: third :: _ =>
    if follows first second then
      if 0xF0 ≤ first && 0x80 ≤ third && third ≤ 0xBF then 3 else 2
    else 1
  | [first, second] => if follows first second then 2 else 1
  | _ => 1

/-- The characters of `String::from_utf8_lossy`, so many at most. -/
def lossyChars : Nat → List UInt8 → List Char
  | 0, _ | _ + 1, [] => []
  | fuel + 1, byte :: bytes =>
    match (byte :: bytes).toByteArray.utf8DecodeChar? 0 with
    | some char => char :: lossyChars fuel ((byte :: bytes).drop char.utf8Size)
    | none => '\uFFFD' :: lossyChars fuel ((byte :: bytes).drop (brokenLength (byte :: bytes)))

/-- `String::from_utf8_lossy`. Every step takes at least one byte, so the number of bytes is fuel
enough. -/
def fromUtf8Lossy (bytes : List UInt8) : String := String.ofList (lossyChars bytes.length bytes)

/-- A character that is encoded whole comes out as itself, whatever stands behind it. -/
theorem lossy_chars_cons (fuel : Nat) (char : Char) (bytes : List UInt8) :
    lossyChars (fuel + 1) (String.utf8EncodeChar char ++ bytes) = char :: lossyChars fuel bytes := by
  have decoded : (String.utf8EncodeChar char ++ bytes).toByteArray.utf8DecodeChar? 0 = some char := by
    rw [List.toByteArray_append, ByteArray.utf8DecodeChar?_utf8EncodeChar_append]
  have dropped : (String.utf8EncodeChar char ++ bytes).drop char.utf8Size = bytes :=
    List.drop_left' (String.length_utf8EncodeChar char)
  cases joined : String.utf8EncodeChar char ++ bytes with
  | nil =>
    rw [joined] at decoded
    cases decoded
  | cons byte rest =>
    rw [joined] at decoded dropped
    rw [lossyChars, decoded]
    exact congrArg _ (congrArg _ dropped)

/-- Whole characters are read back. -/
theorem lossy_chars_encoded (chars : List Char) (fuel : Nat) (enough : chars.length ≤ fuel) :
    lossyChars fuel (chars.flatMap String.utf8EncodeChar) = chars := by
  induction chars generalizing fuel with
  | nil => cases fuel <;> rfl
  | cons char chars inductionHypothesis =>
    obtain ⟨fuel, rfl⟩ := Nat.exists_eq_add_one_of_ne_zero (Nat.ne_of_gt (Nat.lt_of_lt_of_le
      (Nat.succ_pos chars.length) enough))
    rw [List.flatMap_cons, lossy_chars_cons,
      inductionHypothesis fuel (Nat.le_of_succ_le_succ enough)]

/-- Every character takes at least one byte. -/
theorem encoded_length (chars : List Char) :
    chars.length ≤ (chars.flatMap String.utf8EncodeChar).length := by
  induction chars with
  | nil => exact Nat.le_refl 0
  | cons char chars inductionHypothesis =>
    have wide := char.utf8Size_pos
    rw [List.flatMap_cons, List.length_append, String.length_utf8EncodeChar, List.length_cons]
    omega

/-- The bytes of a text give the text. -/
theorem from_utf8_lossy_text {bytes : List UInt8} {text : String}
    (encoded : bytes.toByteArray = text.toByteArray) : fromUtf8Lossy bytes = text := by
  have same : bytes = text.toList.flatMap String.utf8EncodeChar := by
    rw [← String.utf8Encode_toList, List.utf8Encode] at encoded
    have data := congrArg ByteArray.data encoded
    rw [List.data_toByteArray, List.data_toByteArray] at data
    exact congrArg Array.toList data
  rw [fromUtf8Lossy, same, lossy_chars_encoded text.toList _ (encoded_length _), String.ofList_toList]

example : fromUtf8Lossy [0x61, 0xE2, 0x82, 0x62] = "a\uFFFDb" ∧
    fromUtf8Lossy [0xED, 0xA0, 0x80] = "\uFFFD\uFFFD\uFFFD" ∧
    fromUtf8Lossy [0xF0, 0x9F, 0x92] = "\uFFFD" := by decide +kernel

/-- The writers that are open with their buffers, and the messages in the channel, with the
relay thread and with the event loop. -/
structure Pipeline where
  writers : Nat → Option (List UInt8) := fun _ => none
  channel : List String := []
  relayed : Option String := none
  queue : List String := []
  closed : Bool := false
  logText : String := ""

/-- What the threads that log do, then the relay thread and the event loop. -/
inductive Event where
  | makeWriter (writer : Nat)
  | write (writer : Nat) (buffer : List UInt8)
  | flush (writer : Nat)
  | drop (writer : Nat)
  | recv
  | upgrade (refused : Bool)
  | append
  | quit

/-- What a step shows: a writer was made, given bytes or dropped with the message it sent, or a
message was appended to the panel. -/
inductive Mark where
  | made (writer : Nat)
  | wrote (writer : Nat) (buffer : List UInt8)
  | dropped (writer : Nat) (message : Option String)
  | appended (message : String)
  | failed (failure : Failure)
  | silent

namespace Pipeline

variable (pipeline : Pipeline)

/-- One writer's buffer changes, the others stay. -/
def setWriter (writer : Nat) (buffer : Option (List UInt8)) : Pipeline :=
  { pipeline with writers := Function.update pipeline.writers writer buffer }

/-- `Write::write`, which takes the whole buffer. -/
def write (writer : Nat) (buffer : List UInt8) : Option Pipeline :=
  (pipeline.writers writer).map fun written => pipeline.setWriter writer (some (written ++ buffer))

/-- `Drop::drop`; the message that is sent, if any. -/
def drop (writer : Nat) : Option (Pipeline × Option String) :=
  match pipeline.writers writer with
  | none => none
  | some [] => some (pipeline.setWriter writer none, none)
  | some buffer =>
    let message := fromUtf8Lossy buffer
    some ({ pipeline.setWriter writer none with channel := pipeline.channel ++ [message] },
      some message)

/-- One step of a thread. The event loop refuses a message only when it is closed, and what it has
not run by then it does not run. -/
def step (turns : Nat) : Event → Option (Pipeline × Mark)
  | .makeWriter writer =>
    match pipeline.writers writer with
    | none => some (pipeline.setWriter writer (some []), .made writer)
    | some _ => none
  | .write writer buffer =>
    (pipeline.write writer buffer).map fun next => (next, .wrote writer buffer)
  | .flush writer => (pipeline.writers writer).map fun _ => (pipeline, .silent)
  | .drop writer =>
    (pipeline.drop writer).map fun (next, message) => (next, .dropped writer message)
  | .recv =>
    match pipeline.relayed, pipeline.channel with
    | none, message :: channel => some ({ pipeline with relayed := some message, channel }, .silent)
    | _, _ => none
  | .upgrade refused =>
    match pipeline.relayed, refused, pipeline.closed with
    | some _, true, true => some ({ pipeline with relayed := none }, .silent)
    | some message, false, _ =>
      some ({ pipeline with relayed := none, queue := pipeline.queue ++ [message] }, .silent)
    | _, _, _ => none
  | .append =>
    match pipeline.closed, pipeline.queue with
    | false, message :: queue =>
      match LogSink.append turns pipeline.logText message with
      | .ok logText => some ({ pipeline with queue, logText }, .appended message)
      | .error failure => some ({ pipeline with queue, closed := true }, .failed failure)
    | _, _ => none
  | .quit => if pipeline.closed then none else some ({ pipeline with closed := true }, .silent)

end Pipeline

/-- The buffer that was set is there. -/
theorem set_writer_self (pipeline : Pipeline) (writer : Nat) (buffer : Option (List UInt8)) :
    (pipeline.setWriter writer buffer).writers writer = buffer := Function.update_self ..

/-- All other buffers stay. -/
theorem set_writer_other {writer other : Nat} (different : other ≠ writer) (pipeline : Pipeline)
    (buffer : Option (List UInt8)) :
    (pipeline.setWriter writer buffer).writers other = pipeline.writers other :=
  Function.update_of_ne different ..

/-- The channel as a machine whose steps interleave the writers, the relay thread and the event
loop. -/
def logChannel (turns : Nat) : Machine Pipeline Event Mark := ⟨fun pipeline => pipeline.step turns⟩

/-- What the writer of this number was given since it was made. -/
def gather (writer : Nat) (buffer : List UInt8) : Mark → List UInt8
  | .made other => if other = writer then [] else buffer
  | .wrote other more => if other = writer then buffer ++ more else buffer
  | _ => buffer

/-- The bytes that a writer was given since it was made last. -/
def written (writer : Nat) (marks : List Mark) : List UInt8 := marks.foldl (gather writer) []

/-- The message that is sent when a writer is dropped, if it was given any bytes. -/
def Mark.message : Mark → Option String
  | .dropped _ message => message
  | _ => none

/-- The messages of the writers, in the order in which these were dropped. -/
def sent (marks : List Mark) : List String := marks.filterMap Mark.message

/-- A writer sends what it was given, as a text, if it was given anything. No append fails. -/
def Mark.Faithful (before : List Mark) : Mark → Prop
  | .dropped writer none => written writer before = []
  | .dropped writer (some message) =>
    written writer before ≠ [] ∧ message = fromUtf8Lossy (written writer before)
  | .failed _ => False
  | _ => True

/-- One more mark changes what was written as that mark says. -/
theorem written_append (writer : Nat) (marks : List Mark) (mark : Mark) :
    written writer (marks ++ [mark]) = gather writer (written writer marks) mark := by
  rw [written, List.foldl_append]
  rfl

/-- What was sent in two stretches is what was sent in the first and then in the second. -/
theorem sent_append (marks more : List Mark) : sent (marks ++ more) = sent marks ++ sent more :=
  List.filterMap_append

/-- The buffers are what the writers were given. The panel shows the end of the first messages
that were sent; while the window is open, the others are on their way in order. -/
structure Conveyed (marks : List Mark) (pipeline : Pipeline) : Prop where
  buffers : ∀ writer buffer, pipeline.writers writer = some buffer → buffer = written writer marks
  shown : ∃ shown waiting, sent marks = shown ++ waiting ∧
    LongestSuffix maxLogBytes (String.join shown) pipeline.logText ∧
    (pipeline.closed = false →
      waiting = pipeline.queue ++ pipeline.relayed.toList ++ pipeline.channel)

namespace Conveyed

variable {marks : List Mark} {pipeline next : Pipeline} {mark : Mark}

/-- Nothing was written, sent or shown at the start. -/
theorem started : Conveyed [] {} where
  buffers _ _ known := by cases known
  shown := ⟨[], [], rfl, .whole (Nat.zero_le _), fun _ => rfl⟩

/-- The buffers of a step that opens, fills or drops one writer. -/
theorem buffers_set (conveyed : Conveyed marks pipeline) {writer : Nat} {buffer : Option (List UInt8)}
    (mine : ∀ bytes, buffer = some bytes → bytes = gather writer (written writer marks) mark)
    (others : ∀ other, other ≠ writer → gather other (written other marks) mark = written other marks)
    (other : Nat) (bytes : List UInt8)
    (known : (pipeline.setWriter writer buffer).writers other = some bytes) :
    bytes = written other (marks ++ [mark]) := by
  rw [written_append]
  by_cases same : other = writer
  · subst same
    refine mine bytes ?_
    rwa [set_writer_self] at known
  · rw [others other same]
    refine conveyed.buffers other bytes ?_
    rwa [set_writer_other same] at known

/-- A step that sends nothing and shows nothing, and keeps what is on its way. -/
theorem quiet (conveyed : Conveyed marks pipeline) (silent : mark.message = none)
    (buffers : ∀ writer buffer, next.writers writer = some buffer →
      buffer = written writer (marks ++ [mark]))
    (log : next.logText = pipeline.logText)
    (order : next.closed = false → pipeline.closed = false ∧
      next.queue ++ next.relayed.toList ++ next.channel =
        pipeline.queue ++ pipeline.relayed.toList ++ pipeline.channel) :
    Conveyed (marks ++ [mark]) next := by
  obtain ⟨shown, waiting, split, suffix, rest⟩ := conveyed.shown
  refine ⟨buffers, shown, waiting, ?_, log ▸ suffix, fun closed => ?_⟩
  · rw [sent_append, sent, sent, List.filterMap_cons_none silent, List.filterMap_nil, List.append_nil]
    exact split
  · rw [(order closed).2]
    exact rest (order closed).1

/-- The step of another thread leaves the writers alone. -/
theorem elsewhere (conveyed : Conveyed marks pipeline) (same : next.writers = pipeline.writers)
    (idle : ∀ writer buffer, gather writer buffer mark = buffer) (writer : Nat)
    (buffer : List UInt8) (known : next.writers writer = some buffer) :
    buffer = written writer (marks ++ [mark]) := by
  rw [written_append, idle]
  exact conveyed.buffers writer buffer (same ▸ known)

/-- A new writer starts with an empty buffer, also under a number that was used before. -/
theorem made (conveyed : Conveyed marks pipeline) (writer : Nat) :
    Conveyed (marks ++ [.made writer]) (pipeline.setWriter writer (some [])) := by
  refine conveyed.quiet rfl (conveyed.buffers_set ?_ ?_) rfl fun closed => ⟨closed, rfl⟩
  · rintro bytes ⟨⟩
    exact (if_pos rfl).symm
  · exact fun other different => if_neg (Ne.symm different)

/-- Bytes go to the end of one buffer. What was sent does not change. -/
theorem wrote (conveyed : Conveyed marks pipeline) {writer : Nat} {buffer : List UInt8}
    (known : pipeline.writers writer = some buffer) (more : List UInt8) :
    Conveyed (marks ++ [.wrote writer more])
      (pipeline.setWriter writer (some (buffer ++ more))) := by
  refine conveyed.quiet rfl (conveyed.buffers_set ?_ ?_) rfl fun closed => ⟨closed, rfl⟩
  · rintro bytes ⟨⟩
    rw [conveyed.buffers writer buffer known]
    exact (if_pos rfl).symm
  · exact fun other different => if_neg (Ne.symm different)

/-- A writer that was given nothing is dropped without a message. -/
theorem discarded (conveyed : Conveyed marks pipeline) (writer : Nat) :
    Conveyed (marks ++ [.dropped writer none]) (pipeline.setWriter writer none) :=
  conveyed.quiet rfl (conveyed.buffers_set nofun fun _ _ => rfl) rfl fun closed => ⟨closed, rfl⟩

/-- The message of a dropped writer is the last one on the way. -/
theorem posted (conveyed : Conveyed marks pipeline) (writer : Nat) (message : String) :
    Conveyed (marks ++ [.dropped writer (some message)])
      { pipeline.setWriter writer none with channel := pipeline.channel ++ [message] } := by
  obtain ⟨shown, waiting, split, suffix, rest⟩ := conveyed.shown
  refine ⟨conveyed.buffers_set nofun fun _ _ => rfl, shown, waiting ++ [message], ?_, suffix,
    fun closed => ?_⟩
  · rw [sent_append, split, List.append_assoc]
    rfl
  · rw [rest closed, List.append_assoc]
    rfl

/-- The first message on the way is appended. -/
theorem appended (conveyed : Conveyed marks pipeline) {message : String} {queue : List String}
    {logText : String} (opened : pipeline.closed = false) (front : pipeline.queue = message :: queue)
    (cut : LongestSuffix maxLogBytes (pipeline.logText ++ message) logText) :
    Conveyed (marks ++ [.appended message]) { pipeline with queue, logText } := by
  obtain ⟨shown, waiting, split, suffix, rest⟩ := conveyed.shown
  refine ⟨conveyed.elsewhere rfl fun _ _ => rfl, shown ++ [message],
    queue ++ pipeline.relayed.toList ++ pipeline.channel, ?_, ?_, fun _ => rfl⟩
  · have silent : sent [.appended message] = [] := rfl
    rw [sent_append, split, rest opened, front, silent]
    simp only [List.append_assoc, List.cons_append, List.nil_append, List.append_nil]
  · have joined : String.join (shown ++ [message]) = String.join shown ++ message := by
      rw [String.join_append, String.join_cons, String.join_nil, String.append_empty]
    rw [joined]
    exact suffix.extended cut

/-- The steps of the relay thread and the end of the window. -/
theorem relayed (conveyed : Conveyed marks pipeline) (same : next.writers = pipeline.writers)
    (log : next.logText = pipeline.logText)
    (order : next.closed = false → pipeline.closed = false ∧
      next.queue ++ next.relayed.toList ++ next.channel =
        pipeline.queue ++ pipeline.relayed.toList ++ pipeline.channel) :
    Conveyed (marks ++ [.silent]) next :=
  conveyed.quiet rfl (conveyed.elsewhere same fun _ _ => rfl) log order

/-- What a step of any thread keeps, and what it may leave. A writer's buffer is what was written to
it since it was made. A message goes from the channel over the relay thread to the queue of the event
loop, which appends it; so what is shown and what waits are together what was sent. -/
theorem step (conveyed : Conveyed marks pipeline) {turns : Nat} {event : Event}
    (taken : pipeline.step (turns + 4) event = some (next, mark)) :
    Conveyed (marks ++ [mark]) next ∧ mark.Faithful marks := by
  cases event with
  | makeWriter writer =>
    simp only [Pipeline.step] at taken
    split at taken
    · cases taken
      exact ⟨conveyed.made writer, trivial⟩
    · cases taken
  | write writer buffer =>
    simp only [Pipeline.step, Pipeline.write, Option.map_map, Option.map_eq_some_iff] at taken
    obtain ⟨before, known, result⟩ := taken
    cases result
    exact ⟨conveyed.wrote known buffer, trivial⟩
  | flush writer =>
    simp only [Pipeline.step, Option.map_eq_some_iff] at taken
    obtain ⟨_, _, result⟩ := taken
    cases result
    exact ⟨conveyed.relayed rfl rfl fun closed => ⟨closed, rfl⟩, trivial⟩
  | drop writer =>
    simp only [Pipeline.step, Option.map_eq_some_iff] at taken
    obtain ⟨⟨after, message⟩, dropped, result⟩ := taken
    cases result
    unfold Pipeline.drop at dropped
    split at dropped
    · cases dropped
    · next known =>
      cases dropped
      exact ⟨conveyed.discarded writer, (conveyed.buffers writer _ known).symm⟩
    · next buffer filled known =>
      cases dropped
      obtain rfl := conveyed.buffers writer buffer known
      exact ⟨conveyed.posted writer _, filled, rfl⟩
  | recv =>
    simp only [Pipeline.step] at taken
    split at taken
    · next message channel idle front =>
      cases taken
      refine ⟨conveyed.relayed rfl rfl fun closed => ⟨closed, ?_⟩, trivial⟩
      rw [idle, front]
      simp only [Option.toList_some, Option.toList_none, List.append_assoc, List.nil_append,
        List.singleton_append]
    · cases taken
  | upgrade refused =>
    simp only [Pipeline.step] at taken
    split at taken
    · next message known closed =>
      cases taken
      exact ⟨conveyed.relayed rfl rfl fun opened => (by simp [closed] at opened), trivial⟩
    · next message known =>
      cases taken
      refine ⟨conveyed.relayed rfl rfl fun closed => ⟨closed, ?_⟩, trivial⟩
      rw [known]
      exact congrArg (· ++ pipeline.channel) (List.append_nil _)
    · cases taken
  | append =>
    simp only [Pipeline.step] at taken
    split at taken
    · next message queue opened front =>
      obtain ⟨logText, cut, suffix⟩ := append_cut turns pipeline.logText message
      rw [cut] at taken
      cases taken
      exact ⟨conveyed.appended opened front suffix, trivial⟩
    · cases taken
  | quit =>
    simp only [Pipeline.step] at taken
    split at taken
    · cases taken
    · cases taken
      exact ⟨conveyed.relayed rfl rfl nofun, trivial⟩

/-- The invariant of every run. -/
theorem run {turns : Nat} {events : List Event}
    (ran : (logChannel (turns + 4)).run {} events = some (pipeline, marks)) :
    Conveyed marks pipeline ∧ Told Mark.Faithful marks :=
  run_told (fun _ _ => True) Conveyed
    (fun _ _ _ _ _ conveyed _ taken => conveyed.step taken)
    events {} pipeline marks started (Machine.along_trivial _ _) ran

end Conveyed

/-- The steps of the relay thread and the event loop while the window is open. -/
def Event.delivers : Event → Bool
  | .recv | .upgrade false | .append => true
  | _ => false

/-- The steps that the messages on their way still take. -/
def Pipeline.ahead (pipeline : Pipeline) : Nat :=
  3 * pipeline.channel.length + 2 * pipeline.relayed.toList.length + pipeline.queue.length

section

variable {pipeline next last : Pipeline} {turns : Nat}

/-- Each of these steps takes one message one step further. A message has three steps ahead of it in
the channel, and one less at each of the next two places. -/
theorem deliver_step {event : Event} {mark : Mark} (opened : pipeline.closed = false)
    (delivers : event.delivers = true)
    (taken : pipeline.step (turns + 4) event = some (next, mark)) :
    next.closed = false ∧ mark.message = none ∧ next.ahead + 1 = pipeline.ahead := by
  cases event with
  | recv =>
    simp only [Pipeline.step] at taken
    split at taken
    · next message channel idle front =>
      cases taken
      refine ⟨opened, rfl, ?_⟩
      simp only [Pipeline.ahead, idle, front, Option.toList_some, Option.toList_none,
        List.length_cons, List.length_nil]
      omega
    · cases taken
  | upgrade refused =>
    cases refused with
    | true => cases delivers
    | false =>
      simp only [Pipeline.step] at taken
      split at taken
      · next impossible _ => cases impossible
      · next message known _ =>
        cases taken
        refine ⟨opened, rfl, ?_⟩
        simp only [Pipeline.ahead, known, Option.toList_some, Option.toList_none, List.length_append,
          List.length_cons, List.length_nil]
        omega
      · cases taken
  | append =>
    simp only [Pipeline.step] at taken
    split at taken
    · next message queue _ front =>
      obtain ⟨logText, cut, _⟩ := append_cut turns pipeline.logText message
      rw [cut] at taken
      cases taken
      refine ⟨opened, rfl, ?_⟩
      simp only [Pipeline.ahead, front, List.length_cons]
      omega
    · cases taken
  | _ => cases delivers

/-- Steps of delivery alone send nothing and use up exactly what is ahead. By induction on the
steps, each of which uses up one. -/
theorem deliver_run (events : List Event) (delivers : ∀ event ∈ events, event.delivers = true)
    {marks : List Mark} (opened : pipeline.closed = false)
    (ran : (logChannel (turns + 4)).run pipeline events = some (last, marks)) :
    last.closed = false ∧ sent marks = [] ∧ events.length + last.ahead = pipeline.ahead := by
  induction events generalizing pipeline marks with
  | nil =>
    obtain ⟨rfl, rfl⟩ := Machine.run_nil ran
    exact ⟨opened, rfl, Nat.zero_add _⟩
  | cons event events inductionHypothesis =>
    obtain ⟨next, mark, later, taken, continued, rfl⟩ := Machine.run_cons ran
    obtain ⟨first, rest⟩ := List.forall_mem_cons.mp delivers
    obtain ⟨onward, silent, one⟩ := deliver_step opened first taken
    obtain ⟨final, none, steps⟩ := inductionHypothesis rest onward continued
    refine ⟨final, ?_, ?_⟩
    · rw [sent, List.filterMap_cons_none silent]
      exact none
    · rw [List.length_cons]
      omega

/-- When none of these steps is left, nothing is on its way. The relay thread can always take a
message, and the open window can always append one. -/
theorem delivered (opened : pipeline.closed = false)
    (stuck : ∀ event, event.delivers = true → pipeline.step (turns + 4) event = none) :
    pipeline.queue ++ pipeline.relayed.toList ++ pipeline.channel = [] := by
  have relayed : pipeline.relayed = none := by
    have upgrade := stuck (.upgrade false) rfl
    cases known : pipeline.relayed with
    | none => rfl
    | some message => simp [Pipeline.step, known] at upgrade
  have channel : pipeline.channel = [] := by
    have recv := stuck .recv rfl
    cases front : pipeline.channel with
    | nil => rfl
    | cons message channel => simp [Pipeline.step, relayed, front] at recv
  have queue : pipeline.queue = [] := by
    have append := stuck .append rfl
    cases front : pipeline.queue with
    | nil => rfl
    | cons message queue =>
      obtain ⟨logText, cut, _⟩ := append_cut turns pipeline.logText message
      simp [Pipeline.step, opened, front, cut] at append
  rw [relayed, channel, queue]
  rfl

/-- However the writers of the threads interleave with the relay thread and the window, no
append fails, every writer that was given something sends it as one message, whole characters
as they are even when a write ends within one, and the panel shows the longest end of the first
messages that were sent. While the window is open the others are on their way in order: so
many steps of the relay thread and the event loop, in any order, show them all. -/
theorem panel_shows_log (turns : Nat) (events : List Event) (pipeline : Pipeline)
    (marks : List Mark)
    (ran : (logChannel (turns + 4)).run {} events = some (pipeline, marks)) :
    (∀ before after failure, marks ≠ before ++ .failed failure :: after) ∧
      (∀ before writer after, marks = before ++ .dropped writer none :: after →
        written writer before = []) ∧
      (∀ before writer message after, marks = before ++ .dropped writer (some message) :: after →
        message = fromUtf8Lossy (written writer before) ∧
          ∀ text : String, (written writer before).toByteArray = text.toByteArray →
            message = text) ∧
      (∃ shown waiting, sent marks = shown ++ waiting ∧
        LongestSuffix maxLogBytes (String.join shown) pipeline.logText) ∧
      (pipeline.closed = false → ∀ later last more, (∀ event ∈ later, event.delivers = true) →
        (logChannel (turns + 4)).run pipeline later = some (last, more) →
          later.length ≤ pipeline.ahead ∧
            ((∀ event, event.delivers = true → last.step (turns + 4) event = none) →
              LongestSuffix maxLogBytes (String.join (sent marks)) last.logText)) := by
  obtain ⟨conveyed, told⟩ := Conveyed.run ran
  refine ⟨fun before after failure split => told before _ after split,
    fun before writer after split => told before _ after split,
    fun before writer message after split => ?_, ?_, fun opened later last more delivers onward => ?_⟩
  · obtain ⟨_, same⟩ := told before _ after split
    exact ⟨same, fun text encoded => same.trans (from_utf8_lossy_text encoded)⟩
  · obtain ⟨shown, waiting, split, suffix, _⟩ := conveyed.shown
    exact ⟨shown, waiting, split, suffix⟩
  · obtain ⟨still, none, steps⟩ := deliver_run later delivers opened onward
    refine ⟨by omega, fun stuck => ?_⟩
    obtain ⟨after, _⟩ := Conveyed.run (Machine.run_append ran onward)
    obtain ⟨shown, waiting, split, suffix, rest⟩ := after.shown
    rw [rest still, delivered still stuck, List.append_nil, sent_append, none, List.append_nil] at split
    exact split ▸ suffix

/-- Two writers are open at a time, and one of them gets a character in two pieces. The writer that
is dropped first sends first, whoever was opened first. -/
theorem panel_shows_log_split :
    let events : List Event :=
      [.makeWriter 0, .makeWriter 1, .write 0 [0xC3], .write 1 [0x61], .write 0 [0xA9], .drop 1,
        .drop 0, .recv, .upgrade false, .append]
    ∃ pipeline marks last more, (logChannel 4).run {} events = some (pipeline, marks) ∧
      sent marks = ["a", "é"] ∧ pipeline.logText = "a" ∧
      (logChannel 4).run pipeline [.recv, .upgrade false, .append] = some (last, more) ∧
      LongestSuffix maxLogBytes "aé" last.logText := by
  intro events
  have shown : (((logChannel 4).run {} events).bind fun result =>
      ((logChannel 4).run result.1 [.recv, .upgrade false, .append]).map fun later =>
        ((result.1.logText, result.1.closed, sent result.2),
          (later.1.step 4 .recv).isNone && (later.1.step 4 (.upgrade false)).isNone &&
            (later.1.step 4 .append).isNone)) = some (("a", false, ["a", "é"]), true) := by
    decide +kernel
  obtain ⟨⟨pipeline, marks⟩, ran, continued⟩ := Option.bind_eq_some_iff.mp shown
  obtain ⟨⟨last, more⟩, onward, same⟩ := Option.map_eq_some_iff.mp continued
  simp only [Prod.mk.injEq, Bool.and_eq_true, Option.isNone_iff_eq_none] at same
  obtain ⟨⟨log, opened, messages⟩, ⟨recv, upgrade⟩, append⟩ := same
  obtain ⟨_, _, _, _, delivery⟩ := panel_shows_log 0 events pipeline marks ran
  obtain ⟨_, whole⟩ := delivery opened _ last more (by decide) onward
  have final := whole fun event delivers => by
    cases event with
    | recv => exact recv
    | upgrade refused => cases refused with
      | true => cases delivers
      | false => exact upgrade
    | append => exact append
    | _ => cases delivers
  rw [messages] at final
  exact ⟨pipeline, marks, last, more, ran, messages, log, onward, final⟩

end

end CheshireLane.LogSink
