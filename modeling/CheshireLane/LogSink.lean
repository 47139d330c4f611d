import CheshireLane.Library.BoundedTails

/-!
# The log panel

The panel of the desktop application shows the end of the log. A message is appended
to the text shown, and when that is too long it is cut at the first character boundary
behind the bytes that are too many. The text is UTF-8, and positions are in bytes.
-/

namespace CheshireLane.LogSink

open BoundedTails

/-- `MAX_LOG_BYTES`. -/
def maxLogBytes : Nat := 100000

/-- `str::is_char_boundary`: a character starts there, or the text ends. -/
def isCharBoundary (text : String) (index : Nat) : Bool :=
  if within : index < text.utf8ByteSize then (text.getUTF8Byte ⟨index⟩ within).IsUTF8FirstByte
  else index = text.utf8ByteSize

/-- `is_char_boundary` at an index is validity of the position. -/
theorem char_boundary_valid (text : String) (index : Nat) :
    isCharBoundary text index = true ↔ String.Pos.Raw.IsValid text ⟨index⟩ := by
  have same : isCharBoundary text index = String.Pos.Raw.isValid text ⟨index⟩ := by
    unfold isCharBoundary String.Pos.Raw.isValid
    simp only [String.Pos.Raw.lt_iff, String.Pos.Raw.ext_iff, String.byteIdx_rawEndPos]
  rw [same, String.Pos.Raw.isValid_eq_true_iff]

/-- A position is a boundary just when it splits the text in two. -/
theorem char_boundary_iff (text : String) (index : Nat) :
    isCharBoundary text index = true ↔
      ∃ front back, front ++ back = text ∧ front.utf8ByteSize = index := by
  rw [char_boundary_valid, String.Pos.Raw.isValid_iff_exists_append]
  refine exists_congr fun front => exists_congr fun back => and_congr eq_comm ?_
  rw [String.Pos.Raw.ext_iff, String.byteIdx_rawEndPos]
  exact eq_comm

/-- `text[start..]`, which panics inside a character and past the end. -/
def sliceFrom (text : String) (start : Nat) : Option String :=
  if boundary : isCharBoundary text start = true then
    some ⟨text.toByteArray.extract start text.utf8ByteSize,
      ((char_boundary_valid text start).mp boundary).isValidUTF8_extract_utf8ByteSize⟩
  else none

/-- Slicing at the seam of two texts gives the second one back. -/
theorem slice_from_append (front back : String) :
    sliceFrom (front ++ back) front.utf8ByteSize = some back := by
  have boundary := (char_boundary_iff (front ++ back) front.utf8ByteSize).mpr ⟨front, back, rfl, rfl⟩
  rw [sliceFrom, dif_pos boundary, Option.some.injEq, ← String.toByteArray_inj]
  show (front ++ back).toByteArray.extract front.utf8ByteSize (front ++ back).utf8ByteSize = _
  rw [String.toByteArray_append, String.utf8ByteSize_append]
  exact ByteArray.extract_append_eq_right rfl rfl

/-- What stands behind a boundary, and nothing behind other positions. -/
theorem slice_from_iff (text suffix : String) (start : Nat) :
    sliceFrom text start = some suffix ↔
      ∃ front, front ++ suffix = text ∧ front.utf8ByteSize = start := by
  constructor
  · intro sliced
    have boundary : isCharBoundary text start = true := by
      unfold sliceFrom at sliced
      split at sliced
      · assumption
      · cases sliced
    obtain ⟨front, back, rfl, rfl⟩ := (char_boundary_iff text start).mp boundary
    rw [slice_from_append, Option.some.injEq] at sliced
    exact ⟨front, by rw [sliced], rfl⟩
  · rintro ⟨front, rfl, rfl⟩
    exact slice_from_append front suffix

example : sliceFrom "né" 1 = some "é" ∧ sliceFrom "né" 2 = none := by decide +kernel

/-- The search of `append`, for so many turns at most. -/
def boundaryFrom (text : String) : Nat → Nat → Option Nat
  | 0, _ => none
  | turns + 1, start =>
    if isCharBoundary text start then some start else boundaryFrom text turns (start + 1)

/-- The search is still going on, or the slice panicked. -/
inductive Failure where
  | searching
  | panicked

/-- `append`, on the text of the panel. -/
def append (turns : Nat) (log message : String) : Except Failure String :=
  let log := log ++ message
  if log.utf8ByteSize > maxLogBytes then
    match boundaryFrom log turns (log.utf8ByteSize - maxLogBytes) with
    | none => .error .searching
    | some start =>
      match sliceFrom log start with
      | none => .error .panicked
      | some log => .ok log
  else .ok log

/-- The search ends at the first boundary, if there is one near. By induction on the turns: a
position that is no boundary is passed over, and no boundary is lost by that. -/
theorem boundary_from_first {text : String} {stop : Nat}
    (boundary : isCharBoundary text stop = true) (turns start : Nat) (behind : start ≤ stop)
    (near : stop < start + turns) :
    ∃ first, boundaryFrom text turns start = some first ∧ isCharBoundary text first = true ∧
      start ≤ first ∧ ∀ other, isCharBoundary text other = true → start ≤ other → first ≤ other := by
  induction turns generalizing start with
  | zero => omega
  | succ turns inductionHypothesis =>
    by_cases here : isCharBoundary text start = true
    · refine ⟨start, ?_, here, Nat.le_refl start, fun _ _ after => after⟩
      rw [boundaryFrom, if_pos here]
    · have later : ∀ other, isCharBoundary text other = true → start ≤ other → start + 1 ≤ other := by
        intro other boundary after
        have different : start ≠ other := by
          rintro rfl
          exact here boundary
        omega
      obtain ⟨first, found, known, after, least⟩ :=
        inductionHypothesis (start + 1) (later stop boundary behind) (by omega)
      refine ⟨first, ?_, known, by omega, fun other boundary after =>
        least other boundary (later other boundary after)⟩
      rw [boundaryFrom, if_neg here, found]

example : boundaryFrom "né" 4 2 = some 3 := by decide +kernel

/-- A text weighs what its characters do. -/
theorem utf8_total_chars (chars : List Char) :
    (String.ofList chars).utf8ByteSize = total Char.utf8Size chars := by
  induction chars with
  | nil => rfl
  | cons char chars inductionHypothesis =>
    rw [← List.singleton_append, String.ofList_append, String.utf8ByteSize_append,
      inductionHypothesis, total_append, total_cons, total_nil, ← String.singleton_eq_ofList,
      String.utf8ByteSize_singleton, Nat.add_zero]

/-- The size of a text is the sum over its characters, so the library on sums of sizes applies. -/
theorem utf8_total (text : String) : text.utf8ByteSize = total Char.utf8Size text.toList := by
  rw [← utf8_total_chars, String.ofList_toList]

/-- From any index the next boundary is less than four bytes away, since no character is longer than
four. -/
theorem boundary_near (text : String) (start : Nat) (inside : start ≤ text.utf8ByteSize) :
    ∃ stop, isCharBoundary text stop = true ∧ start ≤ stop ∧ stop < start + 4 := by
  rw [utf8_total] at inside
  obtain ⟨front, back, same, behind, near⟩ :=
    exists_cut Char.utf8Size_le_four (by decide) text.toList start inside
  refine ⟨total Char.utf8Size front, ?_, behind, near⟩
  refine (char_boundary_iff text _).mpr
    ⟨String.ofList front, String.ofList back, ?_, utf8_total_chars front⟩
  rw [← String.ofList_append, same, String.ofList_toList]

/-- The longest end of the history that begins between two characters and has at most
so many bytes. -/
structure LongestSuffix (limit : Nat) (history suffix : String) : Prop where
  ends : ∃ front, front ++ suffix = history
  within : suffix.utf8ByteSize ≤ limit
  longest : ∀ front other, front ++ other = history → other.utf8ByteSize ≤ limit →
    other.utf8ByteSize ≤ suffix.utf8ByteSize

/-- An end of a text is an end of its characters. -/
theorem suffix_iff (history suffix : String) :
    (∃ front, front ++ suffix = history) ↔ suffix.toList <:+ history.toList := by
  constructor
  · rintro ⟨front, rfl⟩
    rw [String.toList_append]
    exact List.suffix_append _ _
  · rintro ⟨front, same⟩
    refine ⟨String.ofList front, ?_⟩
    rw [← String.toList_inj, String.toList_append, String.toList_ofList, same]

/-- The longest suffix is the longest tail of the characters. A suffix of a text is a tail of its
characters, and the bytes of the text are their weights together. -/
theorem longest_suffix_iff (limit : Nat) (history suffix : String) :
    LongestSuffix limit history suffix ↔
      LongestTail Char.utf8Size limit history.toList suffix.toList := by
  constructor
  · intro kept
    refine .of_heaviest Char.utf8Size_pos ((suffix_iff history suffix).mp kept.ends) ?_ ?_
    · rw [← utf8_total]
      exact kept.within
    · intro other ends within
      obtain ⟨front, same⟩ := (suffix_iff history (String.ofList other)).mpr
        (by rwa [String.toList_ofList])
      rw [← utf8_total_chars] at within ⊢
      rw [← utf8_total]
      exact kept.longest front _ same within
  · intro kept
    refine ⟨(suffix_iff history suffix).mpr kept.suffix, ?_, ?_⟩
    · rw [utf8_total]
      exact kept.within
    · intro front other same within
      rw [utf8_total] at within ⊢
      rw [utf8_total]
      exact kept.heaviest ((suffix_iff history other).mp ⟨front, same⟩) within

namespace LongestSuffix

variable {limit : Nat} {history suffix other : String}

/-- A text within the limit is its own longest end. -/
theorem whole (within : history.utf8ByteSize ≤ limit) : LongestSuffix limit history history where
  ends := ⟨"", String.empty_append⟩
  within := within
  longest front other joined _ := by
    rw [← joined, String.utf8ByteSize_append]
    exact Nat.le_add_left _ _

/-- There is only one longest end: of two ends, one is an end of the other. -/
theorem unique (first : LongestSuffix limit history suffix)
    (second : LongestSuffix limit history other) : suffix = other :=
  String.toList_inj.mp (((longest_suffix_iff ..).mp first).unique ((longest_suffix_iff ..).mp second))

/-- Cutting what was kept and has grown is cutting the whole history. -/
theorem extended {message : String} (before : LongestSuffix limit history suffix)
    (after : LongestSuffix limit (suffix ++ message) other) :
    LongestSuffix limit (history ++ message) other := by
  rw [longest_suffix_iff] at before after ⊢
  rw [String.toList_append] at after ⊢
  exact before.extended after

end LongestSuffix

/-- What the search finds is where the longest suffix begins. A character has at most four bytes, so
four turns reach the next boundary, and slicing there does not panic. -/
theorem append_cut (turns : Nat) (log message : String) :
    ∃ next, append (turns + 4) log message = .ok next ∧
      LongestSuffix maxLogBytes (log ++ message) next := by
  unfold append
  generalize log ++ message = text
  by_cases long : text.utf8ByteSize > maxLogBytes
  · obtain ⟨stop, boundary, behind, near⟩ :=
      boundary_near text (text.utf8ByteSize - maxLogBytes) (Nat.sub_le _ _)
    obtain ⟨start, found, known, after, least⟩ :=
      boundary_from_first boundary (turns + 4) (text.utf8ByteSize - maxLogBytes) behind (by omega)
    obtain ⟨front, next, same, size⟩ := (char_boundary_iff text start).mp known
    have sliced : sliceFrom text start = some next :=
      (slice_from_iff text next start).mpr ⟨front, same, size⟩
    have cut : text.utf8ByteSize = start + next.utf8ByteSize := by
      rw [← same, String.utf8ByteSize_append, size]
    refine ⟨next, by simp only [long, if_true, found, sliced], ⟨front, same⟩, by omega, ?_⟩
    -- Any other end within the limit begins at a boundary behind the bytes that are too many.
    rintro earlier other rfl within
    rw [String.utf8ByteSize_append] at cut least
    have boundary' := (char_boundary_iff _ _).mpr ⟨earlier, other, rfl, rfl⟩
    have later := least earlier.utf8ByteSize boundary' (by omega)
    omega
  · exact ⟨text, by simp only [long, if_false], .whole (Nat.le_of_not_gt long)⟩

/-- Every message is appended without a panic after four turns of the search at most, and the panel
then shows the longest end of the whole history that fits.

One message at a time: the longest end of the history behind it is the longest end of the panel with
the message appended, since what the panel has lost would not fit any more. The search ends within
four bytes, as no character is longer. -/
theorem log_keeps_longest_suffix (messages : List String) (turns : Nat) :
    ∃ log, messages.foldlM (append (turns + 4)) "" = .ok log ∧
      LongestSuffix maxLogBytes (String.join messages) log ∧
      ∀ other, LongestSuffix maxLogBytes (String.join messages) other → other = log := by
  have kept : ∃ log, messages.foldlM (append (turns + 4)) "" = .ok log ∧
      LongestSuffix maxLogBytes (String.join messages) log := by
    induction messages using List.reverseRecOn with
    | nil => exact ⟨"", rfl, .whole (Nat.zero_le _)⟩
    | append_singleton messages message inductionHypothesis =>
      obtain ⟨log, shown, before⟩ := inductionHypothesis
      obtain ⟨next, appended, after⟩ := append_cut turns log message
      refine ⟨next, ?_, ?_⟩
      · rw [List.foldlM_append, shown]
        show List.foldlM (append (turns + 4)) log [message] = .ok next
        rw [List.foldlM_cons, appended]
        rfl
      · have joined : String.join (messages ++ [message]) = String.join messages ++ message := by
          rw [String.join_append, String.join_cons, String.join_nil, String.append_empty]
        rw [joined]
        exact before.extended after
  obtain ⟨log, shown, kept⟩ := kept
  exact ⟨log, shown, kept, fun other also => also.unique kept⟩

end CheshireLane.LogSink
