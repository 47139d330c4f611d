import CheshireLane.GameData
import Mathlib.Data.List.TakeWhile

/-!
# Command ids in generated code

A comment of the message definitions names the command id. It comes out of the
generator as a doc line of the struct; the build script turns it into an attribute,
and the derive macro turns the attribute into the constant.
-/

namespace CheshireLane

/-- A line of source text, as its characters. -/
abbrev Line := List Char

/-- `str::contains`. -/
def containsText (marker : Line) : Line → Bool
  | [] => marker.isEmpty
  | char :: rest => marker.isPrefixOf (char :: rest) || containsText marker rest

/-- `str::split`. The first argument counts the characters of a marker that are still
to be skipped, the second one is the piece read so far. -/
def splitPieces (marker : Line) : Nat → Line → Line → List Line
  | _, piece, [] => [piece]
  | skipped + 1, piece, _ :: rest => splitPieces marker skipped piece rest
  | 0, piece, char :: rest =>
    if marker.isPrefixOf (char :: rest) then
      piece :: splitPieces marker (marker.length - 1) [] rest
    else splitPieces marker 0 (piece ++ [char]) rest

/-- The attribute line inserted. -/
def cmdIdAttr (cmdId : UInt32) : Line :=
  "#[cmdid(".toList ++ (decimal cmdId).toList ++ ")]".toList

/-- `make_cmd_id_attr`: the first digits behind the first marker. -/
def makeCmdIdAttr (line : Line) : Option Line := do
  let marker := if containsText "cmd_id".toList line then "cmd_id".toList else "cmdid".toList
  let piece ← (splitPieces marker 0 [] line)[1]?
  let digits := (piece.dropWhile fun char => !char.isDigit).takeWhile Char.isDigit
  let cmdId ← parseU32 (String.ofList digits)
  return cmdIdAttr cmdId

/-- `str::trim_start`. -/
def trimStart (line : Line) : Line := line.dropWhile isWhitespace

/-- The test of the loop for a comment that carries a command id. It looks at the line in lower
case, wherever in the comment the marker stands. -/
def isCmdIdComment (lineLower : Line) : Bool :=
  "///".toList.isPrefixOf (trimStart lineLower) &&
    (containsText "cmdid".toList lineLower || containsText "cmd_id".toList lineLower)

/-- `str::to_lowercase`. Characters of ASCII are mapped one by one, and white space has
no lower case. What becomes of other characters is left open. -/
structure Lowercase where
  toLowercase : Line → Line
  front : ∀ front rest, (∀ char ∈ front, char.toNat < 128 ∨ isWhitespace char) →
    ∃ later, toLowercase (front ++ rest) = front.map Char.toLower ++ later ∧
      (rest = [] → later = [])

/-- The loop of `implement_cmd_id`. The attribute pending is inserted behind the next
line that is kept; at the end of the file it is dropped. -/
def implementLoop (lowercase : Lowercase) : Option Line → List Line → List Line
  | _, [] => []
  | cmdIdAttr, line :: lines =>
    let lineLower := lowercase.toLowercase line
    if isCmdIdComment lineLower then
      match makeCmdIdAttr lineLower with
      | some attr => implementLoop lowercase (some attr) lines
      | none => line :: implementLoop lowercase cmdIdAttr lines
    else line :: cmdIdAttr.toList ++ implementLoop lowercase none lines

/-- `implement_cmd_id` on the lines of a file. -/
def implementCmdId (lowercase : Lowercase) (lines : List Line) : List Line :=
  implementLoop lowercase none lines

/-- `syn::Meta`: what stands behind the path of an attribute. Only the tokens of a list are read. -/
inductive Meta where
  | path
  | list (tokens : String)
  | nameValue
  deriving DecidableEq

/-- `syn::Attribute`: its path and its content. -/
structure Attribute where
  path : String
  content : Meta
  deriving DecidableEq

/-- How an attribute line is parsed. The line inserted is a `cmdid` attribute. -/
structure Syn where
  parseAttribute : Line → Attribute
  cmdid : ∀ cmdId, parseAttribute (cmdIdAttr cmdId) = ⟨"cmdid", .list (decimal cmdId)⟩

/-- `cmd_id_derive`: the constant derived. `none` is a panic of the macro. -/
def cmdIdDerive (attrs : List Attribute) : Option UInt16 :=
  match attrs.find? fun attr => attr.path = "cmdid" with
  | some ⟨_, .list tokens⟩ =>
    (parseU32 tokens).map fun cmdId => if cmdId < 65535 then UInt16.ofNat cmdId.toNat else 0
  | some _ => none
  | none => some 0

/-- A line with a doc comment. -/
def isDoc (line : Line) : Bool := "///".toList.isPrefixOf (trimStart line)

/-- A line with an attribute. -/
def isAttribute (line : Line) : Bool := "#[".toList.isPrefixOf (trimStart line)

/-- The line at which a generated struct begins. -/
def isStruct (line : Line) : Bool := "pub struct ".toList.isPrefixOf (trimStart line)

/-- The doc and attribute lines in front of each struct of a text. -/
def structHeaders : List Line → List Line → List (List Line)
  | _, [] => []
  | header, line :: lines =>
    if isDoc line || isAttribute line then structHeaders (header ++ [line]) lines
    else if isStruct line then header :: structHeaders [] lines
    else structHeaders [] lines

/-- The ids of the structs of a text. Doc lines are attributes as well, but no `cmdid`
attributes. -/
def cmdIds (syn : Syn) (lines : List Line) : List (Option UInt16) :=
  (structHeaders [] lines).map fun header =>
    cmdIdDerive ((header.filter isAttribute).map syn.parseAttribute)

/-- A doc line that names a command id. -/
structure IdLine where
  indent : Line
  digits : Line
  blank : ∀ char ∈ indent, isWhitespace char
  nonempty : digits ≠ []
  decimal : ∀ char ∈ digits, char.isDigit
  small : digitsValue digits ≤ 65535

/-- The line as prost copies it from the comment of the message. -/
def IdLine.line (id : IdLine) : Line := id.indent ++ "/// cmd_id = ".toList ++ id.digits

/-- A generated message: doc lines, attributes, and the struct. No other doc line
mentions a command id, in whatever case, and no other attribute is `cmdid`. -/
structure Block (lowercase : Lowercase) (syn : Syn) where
  before : List Line
  id : Option IdLine
  after : List Line
  attributes : List Line
  struct : Line
  body : List Line
  documented : ∀ line ∈ before ++ after, isDoc line ∧ ¬ isCmdIdComment (lowercase.toLowercase line)
  attributed : attributes ≠ []
  ordinary : ∀ line ∈ attributes, isAttribute line ∧ (syn.parseAttribute line).path ≠ "cmdid"
  named : isStruct struct
  fields : ∀ line ∈ body, ¬ isStruct line ∧ ¬ isCmdIdComment (lowercase.toLowercase line)
  closed : ∀ line ∈ body.getLast?, ¬ isDoc line ∧ ¬ isAttribute line

namespace Block

variable {lowercase : Lowercase} {syn : Syn}

/-- The lines of a block as prost generates them: documentation with at most one id, attributes, the
struct and its body. -/
def lines (block : Block lowercase syn) : List Line :=
  block.before ++ (block.id.map IdLine.line).toList ++ block.after ++ block.attributes ++
    block.struct :: block.body

/-- The lines that do not name the id. -/
def otherLines (block : Block lowercase syn) : List Line :=
  block.before ++ block.after ++ block.attributes ++ block.struct :: block.body

/-- The id the block is meant to get. -/
def cmdId (block : Block lowercase syn) : UInt16 :=
  (block.id.map fun id => UInt16.ofNat (digitsValue id.digits)).getD 0

end Block

/-- White space and digits have no lower case. -/
theorem to_lower_kept {char : Char} (kept : isWhitespace char ∨ char.isDigit) : char.toLower = char := by
  refine dif_neg fun upper => ?_
  have low : 65 ≤ char.toNat := upper.1
  have high : char.toNat ≤ 90 := upper.2
  rcases kept with space | digit
  · simp [isWhitespace] at space
    omega
  · have top : char.toNat ≤ 57 := (Char.isDigit_iff_toNat.mp digit).2
    omega

/-- A decimal digit is an ASCII character, so lower case leaves it alone. -/
theorem digit_ascii {char : Char} (digit : char.isDigit) : char.toNat < 128 := by
  have top : char.toNat ≤ 57 := (Char.isDigit_iff_toNat.mp digit).2
  omega

/-- A marker is found wherever it stands, by skipping the characters in front of it one by one. -/
theorem contains_at (marker front rest : Line) (nonempty : marker ≠ []) :
    containsText marker (front ++ (marker ++ rest)) = true := by
  induction front with
  | nil =>
    cases marker with
    | nil => exact absurd rfl nonempty
    | cons char marker => simp [containsText]
  | cons char front inductionHypothesis =>
    rw [List.cons_append, containsText, inductionHypothesis, Bool.or_true]

/-- Where the first character of the marker does not occur, nothing is split. -/
theorem split_skip (head : Char) (marker piece front rest : Line) (absent : head ∉ front) :
    splitPieces (head :: marker) 0 piece (front ++ rest) =
      splitPieces (head :: marker) 0 (piece ++ front) rest := by
  induction front generalizing piece with
  | nil => rw [List.nil_append, List.append_nil]
  | cons char front inductionHypothesis =>
    obtain ⟨different, absent⟩ := not_or.mp (mt List.mem_cons.mpr absent)
    rw [List.cons_append, splitPieces, if_neg (by simp [different])]
    rw [inductionHypothesis _ absent, List.append_assoc, List.singleton_append]

namespace IdLine

variable (id : IdLine)

/-- An id in a comment is a 32-bit number, which is what the build script parses. -/
theorem digit_value_small : digitsValue id.digits < 4294967296 :=
  Nat.lt_of_le_of_lt id.small (by decide)

/-- The line is its own lower case. Every character of it is ASCII or white space and its own lower
case, so no context of the mapping reaches it. -/
theorem lower (lowercase : Lowercase) : lowercase.toLowercase id.line = id.line := by
  have lowered : ("/// cmd_id = ".toList.all fun char =>
      decide (char.toNat < 128 ∧ char.toLower = char)) = true := by decide
  have literal : ∀ char ∈ "/// cmd_id = ".toList, char.toNat < 128 ∧ char.toLower = char :=
    fun char member => of_decide_eq_true (List.all_eq_true.mp lowered char member)
  have known : ∀ char ∈ id.line, (char.toNat < 128 ∨ isWhitespace char) ∧ char.toLower = char := by
    simp only [line, List.forall_mem_append]
    refine ⟨⟨fun char blank => ?_, fun char member => ?_⟩, fun char member => ?_⟩
    · exact ⟨.inr (id.blank char blank), to_lower_kept (.inl (id.blank char blank))⟩
    · exact ⟨.inl (literal char member).1, (literal char member).2⟩
    · have digit := id.decimal char member
      exact ⟨.inl (digit_ascii digit), to_lower_kept (.inr digit)⟩
  obtain ⟨later, mapped, none⟩ := lowercase.front id.line [] fun char member => (known char member).1
  rw [none rfl, List.append_nil, List.append_nil,
    List.map_congr_left fun char member => (known char member).2, List.map_id'] at mapped
  exact mapped

/-- The pieces of an id line around the marker that the build script splits it at. -/
theorem line_split : id.line =
    (id.indent ++ "/// ".toList) ++ ("cmd_id".toList ++ (" = ".toList ++ id.digits)) := by
  simp [line]

/-- An id line contains the marker. -/
theorem marked : containsText "cmd_id".toList id.line = true := by
  rw [line_split]
  exact contains_at _ _ _ (by decide)

/-- An id line is recognised as one. Lower case does not change it, because all its characters are
ASCII. -/
theorem comment : isCmdIdComment id.line = true := by
  have trimmed : trimStart id.line = "/// cmd_id = ".toList ++ id.digits := by
    unfold trimStart IdLine.line
    rw [List.append_assoc, List.dropWhile_append_of_pos id.blank]
    rfl
  unfold isCmdIdComment
  rw [trimmed, id.marked, Bool.or_true, Bool.and_true]
  rfl

/-- The second piece of the line holds the number. -/
theorem second_piece :
    (splitPieces "cmd_id".toList 0 [] id.line)[1]? = some (" = ".toList ++ id.digits) := by
  have blank : 'c' ∉ id.indent ++ "/// ".toList := by
    refine fun member => (List.mem_append.mp member).elim (fun space => ?_) (by decide)
    exact absurd (id.blank 'c' space) (by decide)
  have decimal : 'c' ∉ " = ".toList ++ id.digits := by
    refine fun member => (List.mem_append.mp member).elim (by decide) (fun digit => ?_)
    exact absurd (id.decimal 'c' digit) (by decide)
  have last := split_skip 'c' "md_id".toList [] _ [] decimal
  rw [List.append_nil] at last
  rw [line_split]
  refine (congrArg (·[1]?) (split_skip 'c' "md_id".toList [] _ _ blank)).trans ?_
  show (splitPieces "cmd_id".toList 0 [] (" = ".toList ++ id.digits))[0]? = _
  exact congrArg (·[0]?) last

/-- Behind the equals sign only the digits are left, whatever blanks stand in front of them. -/
theorem number_found :
    ((" = ".toList ++ id.digits).dropWhile fun char => !char.isDigit).takeWhile Char.isDigit =
      id.digits := by
  have skipped : (" = ".toList ++ id.digits).dropWhile (fun char => !char.isDigit) = id.digits := by
    show id.digits.dropWhile (fun char => !char.isDigit) = id.digits
    cases digits : id.digits with
    | nil => rfl
    | cons first rest =>
      have digit := id.decimal first (digits ▸ List.mem_cons_self)
      exact List.dropWhile_cons_of_neg (by simp [digit])
  rw [skipped]
  exact List.takeWhile_eq_self_iff.mpr id.decimal

/-- The attribute made of the line names its number. -/
theorem attr : makeCmdIdAttr id.line = some (cmdIdAttr (UInt32.ofNat (digitsValue id.digits))) := by
  have parsed : parseU32 (String.ofList id.digits) = some (UInt32.ofNat (digitsValue id.digits)) := by
    rw [parse_digits id.digits id.nonempty id.decimal, if_pos id.digit_value_small]
  simp only [makeCmdIdAttr, id.marked, ↓reduceIte, second_piece, number_found, parsed, Option.bind_eq_bind,
    Option.bind_some, pure]

end IdLine

/-- A line that starts with another character is no comment. The character is ASCII and stays in
front when the line is lowered, and a comment starts with a slash. -/
theorem not_comment (lowercase : Lowercase) {line rest : Line} {char : Char}
    (trimmed : trimStart line = char :: rest) (ascii : char.toNat < 128)
    (kept : char.toLower = char) (other : char ≠ '/') :
    isCmdIdComment (lowercase.toLowercase line) = false := by
  have visible : ¬ isWhitespace char := by
    have head := List.head?_dropWhile_not isWhitespace line
    unfold trimStart at trimmed
    simpa [trimmed] using head
  have blank : ∀ char ∈ line.takeWhile isWhitespace, isWhitespace char :=
    fun char member => List.mem_takeWhile_imp member
  have front : ∀ other ∈ line.takeWhile isWhitespace ++ [char],
      (other.toNat < 128 ∨ isWhitespace other) ∧ other.toLower = other := by
    intro other member
    rcases List.mem_append.mp member with space | same
    · exact ⟨.inr (blank other space), to_lower_kept (.inl (blank other space))⟩
    · obtain rfl := List.mem_singleton.mp same
      exact ⟨.inl ascii, kept⟩
  have split : line = (line.takeWhile isWhitespace ++ [char]) ++ rest := by
    rw [List.append_assoc, List.singleton_append, ← trimmed]
    exact (List.takeWhile_append_dropWhile).symm
  obtain ⟨later, mapped, _⟩ := lowercase.front _ rest fun other member => (front other member).1
  rw [← split, List.map_congr_left fun other member => (front other member).2, List.map_id',
    List.append_assoc] at mapped
  have start : trimStart (lowercase.toLowercase line) = char :: later := by
    rw [mapped, trimStart, List.dropWhile_append_of_pos blank]
    exact List.dropWhile_cons_of_neg visible
  have slash : "///".toList.isPrefixOf (char :: later) = false := by
    show ('/' == char && _) = false
    rw [beq_false_of_ne other.symm, Bool.false_and]
  rw [isCmdIdComment, start, slash, Bool.false_and]

/-- An attribute line is never taken for an id: it begins with `#`, also in lower case. -/
theorem attribute_not_comment (lowercase : Lowercase) {line : Line} (opens : isAttribute line) :
    isCmdIdComment (lowercase.toLowercase line) = false := by
  obtain ⟨rest, trimmed⟩ := List.isPrefixOf_iff_prefix.mp opens
  exact not_comment lowercase trimmed.symm (by decide) (by decide) (by decide)

/-- The line of a struct is never taken for an id: it begins with `pub`, also in lower case. -/
theorem struct_not_comment (lowercase : Lowercase) {line : Line} (opens : isStruct line) :
    isCmdIdComment (lowercase.toLowercase line) = false := by
  obtain ⟨rest, trimmed⟩ := List.isPrefixOf_iff_prefix.mp opens
  exact not_comment lowercase trimmed.symm (by decide) (by decide) (by decide)

/-- Put a line behind the first one. -/
def annotate (attr : Line) : List Line → List Line
  | [] => []
  | line :: lines => line :: attr :: lines

section loop

variable (lowercase : Lowercase)

/-- A line without id is written, and the attribute that was held back for it comes right behind. -/
theorem loop_plain (pending : Option Line) {line : Line} (lines : List Line)
    (plain : isCmdIdComment (lowercase.toLowercase line) = false) :
    implementLoop lowercase pending (line :: lines) =
      line :: pending.toList ++ implementLoop lowercase none lines := by
  simp only [implementLoop, plain, Bool.false_eq_true, ↓reduceIte]

/-- Without an id pending other lines are copied. -/
theorem loop_copy (run lines : List Line)
    (plain : ∀ line ∈ run, isCmdIdComment (lowercase.toLowercase line) = false) :
    implementLoop lowercase none (run ++ lines) = run ++ implementLoop lowercase none lines := by
  induction run with
  | nil => rfl
  | cons line run inductionHypothesis =>
    obtain ⟨first, others⟩ := List.forall_mem_cons.mp plain
    rw [List.cons_append, loop_plain lowercase none _ first, inductionHypothesis others]
    rfl

/-- An id pending is inserted behind the next line. -/
theorem loop_pending (attr : Line) (run lines : List Line) (nonempty : run ≠ [])
    (plain : ∀ line ∈ run, isCmdIdComment (lowercase.toLowercase line) = false) :
    implementLoop lowercase (some attr) (run ++ lines) =
      annotate attr run ++ implementLoop lowercase none lines := by
  cases run with
  | nil => exact absurd rfl nonempty
  | cons line run =>
    obtain ⟨first, others⟩ := List.forall_mem_cons.mp plain
    rw [List.cons_append, loop_plain lowercase _ _ first, loop_copy lowercase run lines others]
    rfl

/-- An id line is not written. Its attribute is held back for the next line. -/
theorem loop_id (id : IdLine) (pending : Option Line) (lines : List Line) :
    implementLoop lowercase pending (id.line :: lines) =
      implementLoop lowercase (some (cmdIdAttr (UInt32.ofNat (digitsValue id.digits)))) lines := by
  simp only [implementLoop, id.lower, id.comment, id.attr, ↓reduceIte]

end loop

/-- Writing an attribute into a run of lines loses none of them. -/
theorem annotate_sublist (attr : Line) (run : List Line) : run.Sublist (annotate attr run) := by
  cases run with
  | nil => exact List.Sublist.refl _
  | cons line run => exact (List.sublist_cons_self attr run).cons_cons line

/-- Writing an attribute into a run of lines adds exactly one line. -/
theorem annotate_length (attr : Line) {run : List Line} (nonempty : run ≠ []) :
    (annotate attr run).length = run.length + 1 := by
  cases run with
  | nil => exact absurd rfl nonempty
  | cons line run => rfl

/-- The lines in front of a struct end where it begins. -/
theorem headers_open (header run lines : List Line)
    (opens : ∀ line ∈ run, isDoc line ∨ isAttribute line) :
    structHeaders header (run ++ lines) = structHeaders (header ++ run) lines := by
  induction run generalizing header with
  | nil => rw [List.nil_append, List.append_nil]
  | cons line run inductionHypothesis =>
    obtain ⟨first, others⟩ := List.forall_mem_cons.mp opens
    rw [List.cons_append, structHeaders, if_pos (by simpa using first), inductionHypothesis _ others,
      List.append_assoc, List.singleton_append]

/-- Lines without a struct are passed over, if the last one closes the header. By induction on the
lines: each one either grows the header in vain or closes it. -/
theorem headers_skip (header body lines : List Line) (fields : ∀ line ∈ body, ¬ isStruct line)
    (closed : ∀ line ∈ body.getLast?, ¬ isDoc line ∧ ¬ isAttribute line) (nonempty : body ≠ []) :
    structHeaders header (body ++ lines) = structHeaders [] lines := by
  induction body generalizing header with
  | nil => exact absurd rfl nonempty
  | cons line body inductionHypothesis =>
    obtain ⟨first, others⟩ := List.forall_mem_cons.mp fields
    cases body with
    | nil =>
      have last := closed line rfl
      simp [structHeaders, first, last.1, last.2]
    | cons next body =>
      rw [List.cons_append, structHeaders]
      split
      · exact inductionHypothesis _ others closed nofun
      · exact inductionHypothesis _ others closed nofun

/-- A line is not both documentation and an attribute, since the two begin differently. -/
theorem doc_not_attribute {line : Line} (opens : isDoc line) : ¬ isAttribute line := by
  obtain ⟨rest, trimmed⟩ := List.isPrefixOf_iff_prefix.mp opens
  unfold isAttribute
  rw [← trimmed]
  exact Bool.false_ne_true

/-- Without an id attribute the derive gives zero. -/
theorem derive_nothing {attrs : List Attribute} (others : ∀ attr ∈ attrs, attr.path ≠ "cmdid") :
    cmdIdDerive attrs = some 0 := by
  have absent : attrs.find? (fun attr => attr.path = "cmdid") = none :=
    List.find?_eq_none.mpr fun attr member => by simpa using others attr member
  rw [cmdIdDerive, absent]

/-- The derive takes the first id attribute, and turns ids from 65535 on into zero. -/
theorem derive_inserted (front rest : List Attribute) (cmdId : UInt32)
    (others : ∀ attr ∈ front, attr.path ≠ "cmdid") :
    cmdIdDerive (front ++ ⟨"cmdid", .list (decimal cmdId)⟩ :: rest) =
      some (if cmdId < 65535 then UInt16.ofNat cmdId.toNat else 0) := by
  have absent : front.find? (fun attr => attr.path = "cmdid") = none :=
    List.find?_eq_none.mpr fun attr member => by simpa using others attr member
  have found : (front ++ ⟨"cmdid", .list (decimal cmdId)⟩ :: rest).find?
      (fun attr => attr.path = "cmdid") = some ⟨"cmdid", .list (decimal cmdId)⟩ := by
    rw [List.find?_append, absent]
    rfl
  rw [cmdIdDerive, found]
  simp only [parse_decimal, Option.map_some]

/-- A struct line ends the run of documentation and attributes in front of it. -/
theorem struct_opens {line : Line} (opens : isStruct line) : ¬ (isDoc line || isAttribute line) := by
  obtain ⟨rest, trimmed⟩ := List.isPrefixOf_iff_prefix.mp opens
  unfold isDoc isAttribute
  rw [← trimmed]
  exact Bool.false_ne_true

namespace Block

variable {lowercase : Lowercase} {syn : Syn}

/-- The doc and attribute lines after the insertion. -/
def header (block : Block lowercase syn) : List Line :=
  match block.id with
  | some id =>
    block.before ++ annotate (cmdIdAttr (UInt32.ofNat (digitsValue id.digits)))
      (block.after ++ block.attributes)
  | none => block.before ++ block.after ++ block.attributes

/-- The lines of a block behind the build script. -/
def output (block : Block lowercase syn) : List Line := block.header ++ block.struct :: block.body

variable (block : Block lowercase syn)

/-- Only the id line is a comment that names an id. -/
theorem plain : ∀ line ∈ block.otherLines, isCmdIdComment (lowercase.toLowercase line) = false := by
  have documented : ∀ line ∈ block.before ++ block.after,
      isCmdIdComment (lowercase.toLowercase line) = false :=
    fun line member => Bool.eq_false_iff.mpr (block.documented line member).2
  unfold otherLines
  rw [List.forall_mem_append, List.forall_mem_append, List.forall_mem_cons]
  exact ⟨⟨documented, fun line member => attribute_not_comment lowercase (block.ordinary line member).1⟩,
    struct_not_comment lowercase block.named,
    fun line member => Bool.eq_false_iff.mpr (block.fields line member).2⟩

/-- Each block is rewritten on its own. Lines that are no comment are copied. The comment with the
id is dropped and kept pending, and the next line that is copied takes the attribute behind it. -/
theorem loop (lines : List Line) :
    implementLoop lowercase none (block.lines ++ lines) =
      block.output ++ implementLoop lowercase none lines := by
  have plain := block.plain
  unfold otherLines at plain
  simp only [List.forall_mem_append] at plain
  obtain ⟨⟨⟨before, after⟩, attributes⟩, body⟩ := plain
  have front : ∀ line ∈ block.after ++ block.attributes,
      isCmdIdComment (lowercase.toLowercase line) = false := List.forall_mem_append.mpr ⟨after, attributes⟩
  have some : block.after ++ block.attributes ≠ [] := List.append_ne_nil_of_right_ne_nil _ block.attributed
  unfold Block.lines output header
  cases block.id with
  | none =>
    have copied := loop_copy lowercase _ lines block.plain
    simpa only [otherLines, Option.map_none, Option.toList_none, List.append_nil] using copied
  | some id =>
    simp only [Option.map_some, Option.toList_some, List.append_assoc, List.singleton_append]
    rw [loop_copy lowercase _ _ before, List.cons_append, loop_id, ← List.append_assoc block.after,
      loop_pending lowercase _ _ _ some front, loop_copy lowercase _ _ body]

/-- The id derived for the block. -/
def derived (block : Block lowercase syn) : UInt16 :=
  (block.id.map fun id =>
    if digitsValue id.digits < 65535 then UInt16.ofNat (digitsValue id.digits) else 0).getD 0

/-- All lines in front of the struct still belong to it. An attribute that was inserted is an
attribute, so the lines in front of the struct stay one run. -/
theorem header_opens : ∀ line ∈ block.header, isDoc line ∨ isAttribute line := by
  have documented : ∀ line ∈ block.before ++ block.after, isDoc line ∨ isAttribute line :=
    fun line member => .inl (block.documented line member).1
  have ordinary : ∀ line ∈ block.attributes, isDoc line ∨ isAttribute line :=
    fun line member => .inr (block.ordinary line member).1
  obtain ⟨before, after⟩ := List.forall_mem_append.mp documented
  have run := List.forall_mem_append.mpr ⟨after, ordinary⟩
  unfold header
  cases block.id with
  | none => exact List.forall_mem_append.mpr ⟨documented, ordinary⟩
  | some id =>
    refine List.forall_mem_append.mpr ⟨before, ?_⟩
    cases lines : block.after ++ block.attributes with
    | nil => exact fun _ member => nomatch member
    | cons line others =>
      rw [lines] at run
      obtain ⟨first, others⟩ := List.forall_mem_cons.mp run
      exact List.forall_mem_cons.mpr ⟨first, List.forall_mem_cons.mpr ⟨.inr rfl, others⟩⟩

/-- The rewritten block is read as one struct with its header. -/
theorem output_headers (lines : List Line) :
    structHeaders [] (block.output ++ lines) = block.header :: structHeaders [] lines := by
  unfold output
  rw [List.append_assoc, headers_open [] _ _ block.header_opens, List.nil_append, List.cons_append,
    structHeaders, if_neg (struct_opens block.named), if_pos block.named]
  congr 1
  cases body : block.body with
  | nil => rfl
  | cons line rest =>
    rw [← body]
    exact headers_skip [] _ lines (fun line member => (block.fields line member).1) block.closed
      (body ▸ nofun)

/-- The attributes of the generator are no `cmdid` attributes. -/
theorem parsed_others {lines : List Line}
    (inside : ∀ line ∈ lines, line ∈ block.before ++ block.after ++ block.attributes) :
    ∀ attr ∈ (lines.filter isAttribute).map syn.parseAttribute, attr.path ≠ "cmdid" := by
  intro attr member
  obtain ⟨line, kept, rfl⟩ := List.mem_map.mp member
  obtain ⟨member, opens⟩ := List.mem_filter.mp kept
  rcases List.mem_append.mp (inside line member) with documented | ordinary
  · exact absurd opens (doc_not_attribute (block.documented line documented).1)
  · exact (block.ordinary line ordinary).2

/-- The derive macro finds the attribute inserted, and no other. The attribute stands behind the
first line, and no line in front of it is one; what the macro makes of it depends on the size of the
id alone. -/
theorem header_id :
    cmdIdDerive ((block.header.filter isAttribute).map syn.parseAttribute) = some block.derived := by
  unfold header derived
  cases block.id with
  | none => exact derive_nothing (block.parsed_others fun _ member => member)
  | some id =>
    simp only [Option.map_some, Option.getD_some]
    have some : block.after ++ block.attributes ≠ [] := List.append_ne_nil_of_right_ne_nil _ block.attributed
    cases run : block.after ++ block.attributes with
    | nil => exact absurd run some
    | cons first rest =>
      have front : ∀ line ∈ block.before ++ [first],
          line ∈ block.before ++ block.after ++ block.attributes := by
        have first : [first].Sublist (first :: rest) := List.singleton_sublist.mpr List.mem_cons_self
        rw [List.append_assoc, run]
        exact fun line member => (first.append_left _).subset member
      have split : block.before ++ annotate (cmdIdAttr (UInt32.ofNat (digitsValue id.digits)))
          (first :: rest) = (block.before ++ [first]) ++
            cmdIdAttr (UInt32.ofNat (digitsValue id.digits)) :: rest := by
        simp [annotate]
      have small : UInt32.ofNat (digitsValue id.digits) < 65535 ↔ digitsValue id.digits < 65535 := by
        rw [UInt32.lt_iff_toNat_lt, UInt32.toNat_ofNat_of_lt' id.digit_value_small]
        rfl
      rw [split, List.filter_append, List.filter_cons_of_pos rfl, List.map_append, List.map_cons,
        syn.cmdid, derive_inserted _ _ _ (block.parsed_others front)]
      simp only [small, UInt32.toNat_ofNat_of_lt' id.digit_value_small]

/-- The build script keeps every line of a block but the one with the id. -/
theorem others_sublist : block.otherLines.Sublist block.output := by
  unfold otherLines output header
  refine List.Sublist.append ?_ (List.Sublist.refl _)
  cases block.id with
  | none => exact List.Sublist.refl _
  | some id =>
    rw [List.append_assoc]
    exact List.Sublist.append (List.Sublist.refl _) (annotate_sublist _ _)

/-- For the line taken out one is put in. -/
theorem output_length : block.output.length = block.lines.length := by
  unfold output Block.lines header
  cases block.id with
  | none => simp
  | some id =>
    have some : block.after ++ block.attributes ≠ [] := List.append_ne_nil_of_right_ne_nil _ block.attributed
    simp only [List.length_append, annotate_length _ some, Option.map_some, Option.toList_some,
      List.length_singleton]
    omega

/-- The id derived is the one meant, unless that is the largest one. -/
theorem derived_meant :
    block.derived = block.cmdId ↔ ∀ id, block.id = some id → digitsValue id.digits ≠ 65535 := by
  unfold derived cmdId
  cases block.id with
  | none => simp
  | some id =>
    simp only [Option.map_some, Option.getD_some, Option.some.injEq, forall_eq']
    by_cases largest : digitsValue id.digits = 65535
    · simp [largest]
    · have small := id.small
      simp [largest, show digitsValue id.digits < 65535 by omega]

end Block

variable {lowercase : Lowercase} {syn : Syn}

/-- The build script works block by block: nothing is held back from one block to the next, since a
block does not end with an id. -/
theorem implement_blocks (blocks : List (Block lowercase syn)) :
    implementCmdId lowercase (blocks.flatMap Block.lines) = blocks.flatMap Block.output := by
  unfold implementCmdId
  induction blocks with
  | nil => rfl
  | cons block blocks inductionHypothesis =>
    rw [List.flatMap_cons, List.flatMap_cons, block.loop, inductionHypothesis]

/-- The derive finds for each struct of the output the id that was written in front of it. By
induction on the blocks, with one step for each run of lines. -/
theorem output_ids (blocks : List (Block lowercase syn)) :
    cmdIds syn (blocks.flatMap Block.output) = blocks.map fun block => some block.derived := by
  unfold cmdIds
  induction blocks with
  | nil => rfl
  | cons block blocks inductionHypothesis =>
    rw [List.flatMap_cons, block.output_headers, List.map_cons, List.map_cons, block.header_id,
      inductionHypothesis]

/-- Every struct gets the id its doc lines name, and zero without one, and all other lines are kept,
if and only if no block names the largest id.

The build script works block by block, so the output is the blocks with an attribute each. Then the
ids agree just when they agree in each block, and the derive turns only the largest one into zero.
-/
theorem command_ids_survive_iff (blocks : List (Block lowercase syn)) :
    let text := blocks.flatMap Block.lines
    let output := implementCmdId lowercase text
    (cmdIds syn output = blocks.map (fun block => some block.cmdId) ∧
        (blocks.flatMap Block.otherLines).Sublist output ∧ output.length = text.length) ↔
      ∀ block ∈ blocks, ∀ id, block.id = some id → digitsValue id.digits ≠ 65535 := by
  intro text output
  have rewritten : output = blocks.flatMap Block.output := implement_blocks blocks
  have kept : (blocks.flatMap Block.otherLines).Sublist output := by
    rw [rewritten]
    clear text output rewritten
    induction blocks with
    | nil => exact List.Sublist.refl _
    | cons block blocks inductionHypothesis =>
      exact List.Sublist.append block.others_sublist inductionHypothesis
  have length : output.length = text.length := by
    rw [rewritten, List.length_flatMap, List.length_flatMap]
    simp only [Block.output_length]
  have ids : cmdIds syn output = blocks.map (fun block => some block.cmdId) ↔
      ∀ block ∈ blocks, block.derived = block.cmdId := by
    rw [rewritten, output_ids, List.map_inj_left]
    simp only [Option.some.injEq]
  simp only [ids, kept, length, and_true, Block.derived_meant]

/-- The lower case of texts in ASCII. -/
def Lowercase.ascii : Lowercase where
  toLowercase := List.map Char.toLower
  front front rest _ := ⟨rest.map Char.toLower, List.map_append, by rintro rfl; rfl⟩

/-- Attributes told apart by their beginning. -/
def Syn.byPrefix : Syn where
  parseAttribute line :=
    if "#[cmdid(".toList.isPrefixOf line then
      ⟨"cmdid", .list (String.ofList (line.drop 8).dropLast.dropLast)⟩
    else ⟨"derive", .path⟩
  cmdid cmdId := by
    have opens : "#[cmdid(".toList.isPrefixOf (cmdIdAttr cmdId) = true := rfl
    have tokens : ((cmdIdAttr cmdId).drop 8).dropLast.dropLast = (decimal cmdId).toList := by
      have behind : (cmdIdAttr cmdId).drop 8 = (decimal cmdId).toList ++ [')'] ++ [']'] := by
        have close : ")]".toList = [')'] ++ [']'] := rfl
        have length : "#[cmdid(".toList.length = 8 := rfl
        unfold cmdIdAttr
        generalize (decimal cmdId).toList = digits
        rw [List.append_assoc, List.drop_left' length, close, ← List.append_assoc]
      rw [behind, List.dropLast_concat, List.dropLast_concat]
    rw [if_pos opens, tokens, String.ofList_toList]

/-- A message with the largest id. -/
def Block.largest : Block .ascii .byPrefix where
  before := ["/// A message.".toList]
  id := some ⟨[], "65535".toList, nofun, by decide, List.all_eq_true.mp (by decide), by decide⟩
  after := []
  attributes := ["#[derive(proto_derive::CmdID)]".toList]
  struct := "pub struct Cs65535 \x7b".toList
  body := ["\x7d".toList]
  documented := by decide
  attributed := by decide
  ordinary := by decide
  named := by decide
  fields := by decide
  closed := by decide

/-- The largest id is derived as zero. -/
theorem largest_id_lost :
    Block.largest.lines = ["/// A message.".toList, "/// cmd_id = 65535".toList,
        "#[derive(proto_derive::CmdID)]".toList, "pub struct Cs65535 \x7b".toList, "\x7d".toList] ∧
      Block.largest.cmdId = 65535 ∧
      cmdIds .byPrefix (implementCmdId .ascii Block.largest.lines) = [some 0] := by
  have ids := output_ids [Block.largest]
  rw [← implement_blocks, List.flatMap_singleton] at ids
  exact ⟨by decide, by decide, ids⟩

end CheshireLane
