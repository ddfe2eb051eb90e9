import MotionControl.Proofs.Toml.Token
import MotionControl.Proofs.Toml.Text
import MotionControl.Toml.Document

/-!
# Documents of plain entries

The simplest documents have one entry on each line: a bare key and a number, a truth value
or a string, with blanks wherever they may stand and perhaps a comment.  Such a document
is read as the list of its entries, in order, provided that no key comes twice.

A line carries the proofs that it is well-formed, so that nothing has to be assumed about
the text of a document beyond its being made of lines.
-/

namespace MotionControl
namespace Toml

/-- A text that stands for a value by itself: a number, a truth value, or a string in any of
its forms. -/
inductive Denotes : List Char → Value → Prop where
  | integer {token : List Char} {n : ℤ} (read : integer? token = some n) :
      Denotes token (.integer n)
  | float {token : List Char} {x : Float} (read : float? token = some x) :
      Denotes token (.float x)
  | boolean (truth : Bool) : Denotes (if truth then "true" else "false").toList (.boolean truth)
  | string {text content : List Char} (read : readString? text = some (content, [])) :
      Denotes text (.string (String.ofList content))

/-- Blanks, as they may stand between the parts of a line. -/
abbrev Blanks :=
  {text : List Char // ∀ c ∈ text, isBlank c = true}

/-- A line with a bare key and its value. -/
structure EntryLine where
  indent : Blanks
  key : String
  key_nonempty : key.toList ≠ []
  key_bare : ∀ c ∈ key.toList, isBareKeyChar c = true
  beforeEquals : Blanks
  afterEquals : Blanks
  text : List Char
  value : Value
  denotes : Denotes text value
  trailing : Blanks
  /-- The words after the number sign of a comment. -/
  comment : Option (List Char)
  comment_text : ∀ words ∈ comment, ∀ c ∈ words, isTextChar c = true
  /-- The line ends in a carriage return and a line feed, not in a line feed alone. -/
  carriageReturn : Bool

namespace EntryLine

def lineBreak (line : EntryLine) : List Char :=
  if line.carriageReturn then ['\r', '\n'] else ['\n']

/-- What stands after the value. -/
def ending (line : EntryLine) : List Char :=
  line.trailing.val ++ (line.comment.elim [] ('#' :: ·) ++ line.lineBreak)

def chars (line : EntryLine) : List Char :=
  line.indent.val ++ (line.key.toList ++ (line.beforeEquals.val ++
    '=' :: (line.afterEquals.val ++ (line.text ++ line.ending))))

/-- What the line says. -/
def entry (line : EntryLine) : String × Value :=
  (line.key, line.value)

end EntryLine

/-- The text of a document. -/
def EntryLine.document (lines : List EntryLine) : String :=
  String.ofList (lines.flatMap EntryLine.chars)

/-! ## Values -/

/-- Characters that neither go on a token nor a string. -/
structure EndsValue (c : Char) : Prop where
  notToken : isTokenChar c = false
  notQuote : c ≠ '"' ∧ c ≠ '\''

/-- A value is a token or a string. -/
theorem Denotes.isValueToken_or_string {text : List Char} {value : Value}
    (denotes : Denotes text value) : IsValueToken text value ∨
      ∃ content, readString? text = some (content, []) ∧ value = .string (String.ofList content) := by
  cases denotes with
  | integer read => exact .inl (isValueToken_integer read)
  | float read => exact .inl (isValueToken_float read)
  | boolean truth => exact .inl (isValueToken_boolean truth)
  | string read => exact .inr ⟨_, read, rfl⟩

theorem readValue_string {text content rest : List Char}
    (read : readString? text = some (content, [])) (ends : ∀ c ∈ rest.head?, EndsValue c)
    (depth : ℕ) :
    readValue depth (text ++ rest) = some (.string (String.ofList content), rest) := by
  have whole : readString? (text ++ rest) = some (content, rest) :=
    readString?_append (fun c member => (ends c member).notQuote) read
  obtain ⟨quote, later, rfl, rfl | rfl⟩ := exists_quote_of_readString? read
  · rw [List.cons_append] at whole ⊢
    rw [readValue, whole]
    rfl
  · rw [List.cons_append] at whole ⊢
    rw [readValue, whole]
    rfl

/-- A value is read up to the end of its text. -/
theorem Denotes.readValue {text rest : List Char} {value : Value} (denotes : Denotes text value)
    (ends : ∀ c ∈ rest.head?, EndsValue c) (depth : ℕ) :
    readValue depth (text ++ rest) = some (value, rest) := by
  rcases denotes.isValueToken_or_string with valueToken | ⟨content, read, rfl⟩
  · exact valueToken.readValue_append (fun c member => (ends c member).notToken) depth
  · exact readValue_string read ends depth

/-- A value does not begin with a blank. -/
theorem Denotes.exists_cons {text : List Char} {value : Value} (denotes : Denotes text value) :
    ∃ c rest, text = c :: rest ∧ isBlank c = false := by
  rcases denotes.isValueToken_or_string with valueToken | ⟨content, read, rfl⟩
  · obtain ⟨c, rest, rfl⟩ := List.exists_cons_of_ne_nil valueToken.nonempty
    refine ⟨c, rest, rfl, ?_⟩
    by_contra blank
    have first := valueToken.isToken c List.mem_cons_self
    rcases eq_of_isBlank (Bool.not_eq_false _ ▸ blank) with rfl | rfl
    · cases first
    · cases first
  · obtain ⟨quote, later, rfl, rfl | rfl⟩ := exists_quote_of_readString? read
    · exact ⟨_, _, rfl, rfl⟩
    · exact ⟨_, _, rfl, rfl⟩

/-! ## Lines -/

theorem head?_append_cases {p : Char → Prop} {first last : List Char} (all : ∀ c ∈ first, p c)
    (next : ∀ c ∈ last.head?, p c) : ∀ c ∈ (first ++ last).head?, p c := by
  cases first with
  | nil => exact next
  | cons d rest =>
      rintro c ⟨⟩
      exact all d List.mem_cons_self

theorem skipBlanks_append (blanks : Blanks) {rest : List Char}
    (stops : ∀ c ∈ rest.head?, isBlank c = false) : skipBlanks (blanks.val ++ rest) = rest :=
  dropWhile_append_of_stops blanks.property stops

namespace EntryLine

variable (line : EntryLine)

theorem key_notBlank (c : Char) (member : c ∈ line.key.toList) : isBlank c = false := by
  by_contra blank
  have bare := line.key_bare c member
  rcases eq_of_isBlank (Bool.not_eq_false _ ▸ blank) with rfl | rfl
  · cases bare
  · cases bare

theorem key_cons : ∃ c rest, line.key.toList = c :: rest ∧ isBareKeyChar c = true := by
  obtain ⟨c, rest, equal⟩ := List.exists_cons_of_ne_nil line.key_nonempty
  refine ⟨c, rest, equal, line.key_bare c ?_⟩
  rw [equal]
  exact List.mem_cons_self

theorem key_head_notBlank (rest : List Char) :
    ∀ c ∈ (line.key.toList ++ rest).head?, isBlank c = false := by
  obtain ⟨c, later, equal, _⟩ := line.key_cons
  intro d member
  rw [equal] at member
  cases member
  apply line.key_notBlank
  rw [equal]
  exact List.mem_cons_self

/-- A bare key ends at the first character that none has. -/
theorem readName_key {rest : List Char} (stops : ∀ c ∈ rest.head?, isBareKeyChar c = false) :
    readName (line.key.toList ++ rest) = some (line.key, rest) := by
  obtain ⟨c, later, equal, bare⟩ := line.key_cons
  have noQuote {quote : Char} (other : isBareKeyChar quote = false) (others : List Char) :
      line.key.toList ++ rest ≠ quote :: others := by
    intro quoted
    rw [equal, List.cons_append] at quoted
    rw [(List.cons.inj quoted).1, other] at bare
    cases bare
  have nonempty : line.key.toList.isEmpty = false := by
    rw [equal]
    rfl
  rw [readName, takeWhile_append_of_stops line.key_bare stops,
    dropWhile_append_of_stops line.key_bare stops, nonempty, String.ofList_toList]
  · rfl
  · exact noQuote rfl
  · exact noQuote rfl

/-- The key, up to the equals sign. -/
theorem readKey_key (rest : List Char) :
    readKey (line.key.toList ++ (line.beforeEquals.val ++ '=' :: rest)) =
      some (⟨[], line.key⟩, '=' :: rest) := by
  have blanks : skipBlanks (line.key.toList ++ (line.beforeEquals.val ++ '=' :: rest)) =
      line.key.toList ++ (line.beforeEquals.val ++ '=' :: rest) :=
    skipBlanks_append ⟨[], nofun⟩ (line.key_head_notBlank _)
  have stops : ∀ c ∈ (line.beforeEquals.val ++ '=' :: rest).head?, isBareKeyChar c = false := by
    apply head?_append_cases
    · intro c member
      rcases eq_of_isBlank (line.beforeEquals.property c member) with rfl | rfl
      · rfl
      · rfl
    · rintro c ⟨⟩
      rfl
  have equals : skipBlanks (line.beforeEquals.val ++ '=' :: rest) = '=' :: rest :=
    skipBlanks_append line.beforeEquals (by rintro c ⟨⟩; rfl)
  have single : readNames (depthLimit - 1)
      (line.key.toList ++ (line.beforeEquals.val ++ '=' :: rest)) =
        some ([line.key], '=' :: rest) := by
    change readNames (78 + 1) _ = _
    rw [readNames, blanks, line.readName_key stops]
    simp only [Option.bind_eq_bind, Option.bind_some, equals, pure]
    rfl
  rw [readKey, single]
  rfl

/-- The break is neither text nor blank. -/
theorem lineBreak_head (rest : List Char) :
    ∀ c ∈ (line.lineBreak ++ rest).head?, c = '\r' ∨ c = '\n' := by
  rw [lineBreak]
  split
  · rintro c ⟨⟩
    exact .inl rfl
  · rintro c ⟨⟩
    exact .inr rfl

theorem afterLineBreak?_lineBreak (rest : List Char) :
    afterLineBreak? (line.lineBreak ++ rest) = some rest := by
  rw [lineBreak]
  split
  · rfl
  · rfl

/-- The end of a line is left behind, with its comment. -/
theorem afterLine?_ending (rest : List Char) : afterLine? (line.ending ++ rest) = some rest := by
  have notBlank (c : Char) (member : c ∈ (line.lineBreak ++ rest).head?) : isBlank c = false := by
    rcases line.lineBreak_head rest c member with rfl | rfl
    · rfl
    · rfl
  have notText (c : Char) (member : c ∈ (line.lineBreak ++ rest).head?) :
      isTextChar c = false := by
    rcases line.lineBreak_head rest c member with rfl | rfl
    · rfl
    · rfl
  have done : (if (line.lineBreak ++ rest).isEmpty then some []
      else afterLineBreak? (line.lineBreak ++ rest)) = some rest := by
    rw [line.afterLineBreak?_lineBreak, lineBreak]
    split
    · rfl
    · rfl
  cases words : line.comment with
  | none =>
      have blanks : skipBlanks (line.ending ++ rest) = line.lineBreak ++ rest := by
        rw [ending, List.append_assoc, words]
        exact skipBlanks_append line.trailing notBlank
      rw [afterLine?, blanks]
      split
      · rename_i later equal
        rcases line.lineBreak_head rest '#' (by rw [equal]; rfl) with mark | mark
        · cases mark
        · cases mark
      · exact done
  | some words' =>
      have blanks : skipBlanks (line.ending ++ rest) =
          '#' :: (words' ++ (line.lineBreak ++ rest)) := by
        rw [ending, List.append_assoc, List.append_assoc, words]
        exact skipBlanks_append line.trailing (by rintro c ⟨⟩; rfl)
      have comment : (words' ++ (line.lineBreak ++ rest)).dropWhile isTextChar =
          line.lineBreak ++ rest :=
        dropWhile_append_of_stops (line.comment_text words' words) notText
      rw [afterLine?, blanks]
      simp only [comment]
      exact done

theorem endsValue_ending (rest : List Char) :
    ∀ c ∈ (line.ending ++ rest).head?, EndsValue c := by
  rw [ending, List.append_assoc, List.append_assoc]
  apply head?_append_cases
  · intro c member
    rcases eq_of_isBlank (line.trailing.property c member) with rfl | rfl
    · exact ⟨rfl, by decide, by decide⟩
    · exact ⟨rfl, by decide, by decide⟩
  · cases line.comment with
    | none =>
        intro c member
        rcases line.lineBreak_head rest c member with rfl | rfl
        · exact ⟨rfl, by decide, by decide⟩
        · exact ⟨rfl, by decide, by decide⟩
    | some words =>
        rintro c ⟨⟩
        exact ⟨rfl, by decide, by decide⟩

/-- The entry, up to the end of its line. -/
theorem readExpression_entry (rest : List Char) :
    readExpression (skipBlanks (line.chars ++ rest)) =
      some (some (.entry ⟨[], line.key⟩ line.value), line.ending ++ rest) := by
  have shape : line.chars ++ rest = line.indent.val ++ (line.key.toList ++
      (line.beforeEquals.val ++ '=' :: (line.afterEquals.val ++ (line.text ++
        (line.ending ++ rest))))) := by
    simp [chars]
  have value : skipBlanks (line.afterEquals.val ++ (line.text ++ (line.ending ++ rest))) =
      line.text ++ (line.ending ++ rest) := by
    apply skipBlanks_append
    obtain ⟨c, later, equal, other⟩ := line.denotes.exists_cons
    rw [equal]
    rintro d ⟨⟩
    exact other
  obtain ⟨c, later, equal, bare⟩ := line.key_cons
  have other (mark : Char) (notBare : isBareKeyChar mark = false) : c ≠ mark := by
    rintro rfl
    rw [bare] at notBare
    cases notBare
  rw [shape, skipBlanks_append line.indent (line.key_head_notBlank _), equal, List.cons_append,
    readExpression, ← List.cons_append, ← equal, readEntry, line.readKey_key]
  · simp only [Option.bind_eq_bind, Option.bind_some, value,
      line.denotes.readValue (line.endsValue_ending rest)]
    rfl
  · exact fun equal => absurd equal (List.cons_ne_nil _ _)
  · exact fun _ equal => other '#' rfl (List.cons.inj equal).1
  · exact fun _ equal => other '\n' rfl (List.cons.inj equal).1
  · exact fun _ equal => other '\r' rfl (List.cons.inj equal).1
  · exact fun _ equal => other '[' rfl (List.cons.inj equal).1
  · exact fun _ equal => other '[' rfl (List.cons.inj equal).1

end EntryLine

/-- Lines are read one after the other. -/
theorem readLines_chars (lines : List EntryLine) {fuel : ℕ} (enough : lines.length ≤ fuel) :
    readLines fuel (lines.flatMap EntryLine.chars) =
      some (lines.map fun line => .entry ⟨[], line.key⟩ line.value) := by
  induction lines generalizing fuel with
  | nil =>
      cases fuel with
      | zero => rfl
      | succ fuel => rfl
  | cons line lines inductionHypothesis =>
      cases fuel with
      | zero => exact absurd enough (Nat.not_succ_le_zero _)
      | succ fuel =>
          have rest := inductionHypothesis (Nat.le_of_succ_le_succ enough)
          have notEmpty : (line.chars ++ lines.flatMap EntryLine.chars).isEmpty = false := by
            simp [EntryLine.chars]
          rw [List.flatMap_cons, readLines, notEmpty, if_neg Bool.false_ne_true,
            line.readExpression_entry]
          simp only [Option.bind_eq_bind, Option.bind_some, line.afterLine?_ending, rest]
          rfl

/-! ## The table of a document -/

theorem find?_eq_none {entries : Entries} {key : String} (absent : key ∉ entries.map Prod.fst) :
    entries.find? key = none := by
  rw [Entries.find?, List.lookup_eq_none_iff]
  intro entry member
  rw [bne_iff_ne]
  rintro rfl
  exact absent (List.mem_map_of_mem member)

theorem add_entry {before : Entries} {key : String} (absent : key ∉ before.map Prod.fst)
    (value : Value) :
    Builder.add ⟨before, []⟩ (.entry ⟨[], key⟩ value) = some ⟨before ++ [(key, value)], []⟩ := by
  have added : before.addNew? key value = some (before ++ [(key, value)]) := by
    rw [Entries.addNew?, find?_eq_none absent]
  simp only [Builder.add, Entries.alter, Entries.addEntry, TableKind.isDotted, List.isEmpty_nil,
    Bool.false_eq_true, if_false, added, Option.bind_eq_bind, Option.bind_some, pure]

/-- Entries with different keys do not collide. -/
theorem foldlM_add (lines : List EntryLine) (before : Entries)
    (distinct : (before.map Prod.fst ++ lines.map EntryLine.key).Nodup) :
    (lines.map fun line => Expression.entry ⟨[], line.key⟩ line.value).foldlM Builder.add
      ⟨before, []⟩ = some ⟨before ++ lines.map EntryLine.entry, []⟩ := by
  induction lines generalizing before with
  | nil =>
      rw [List.map_nil, List.map_nil, List.append_nil]
      rfl
  | cons line lines inductionHypothesis =>
      have absent : line.key ∉ before.map Prod.fst := by
        intro member
        exact (List.nodup_append.mp distinct).2.2 _ member _ List.mem_cons_self rfl
      have next := inductionHypothesis (before ++ [line.entry]) (by
        rw [List.map_append, List.append_assoc]
        exact distinct)
      rw [List.map_cons, List.foldlM_cons, add_entry absent, List.map_cons]
      rw [List.append_assoc] at next
      exact next

/-- A document is read as its entries, in order. -/
theorem read?_document (lines : List EntryLine) (distinct : (lines.map EntryLine.key).Nodup) :
    read? (EntryLine.document lines) = some (lines.map EntryLine.entry) := by
  have first : ∀ c ∈ (lines.flatMap EntryLine.chars).head?, c ≠ '\uFEFF' := by
    cases lines with
    | nil => rintro c ⟨⟩
    | cons line lines =>
        rw [List.flatMap_cons, EntryLine.chars, List.append_assoc]
        apply head?_append_cases
        · intro c member
          rcases eq_of_isBlank (line.indent.property c member) with rfl | rfl
          · decide
          · decide
        · obtain ⟨d, later, equal, bare⟩ := line.key_cons
          rw [equal]
          rintro c ⟨⟩ rfl
          cases bare
  have noMark : withoutMark (lines.flatMap EntryLine.chars) = lines.flatMap EntryLine.chars := by
    rw [withoutMark]
    intro rest equal
    exact first '\uFEFF' (by rw [equal]; rfl) rfl
  have enough : lines.length ≤ (lines.flatMap EntryLine.chars).length + 1 := by
    apply Nat.le_succ_of_le
    rw [List.length_flatMap, ← List.length_map (fun line : EntryLine => line.chars.length)]
    apply List.length_le_sum_of_one_le
    intro length member
    obtain ⟨line, _, rfl⟩ := List.mem_map.mp member
    simp [EntryLine.chars]
    omega
  have table := foldlM_add lines [] (by simpa using distinct)
  rw [read?, EntryLine.document, String.toList_ofList]
  simp only [noMark, readLines_chars lines enough, Option.bind_eq_bind, Option.bind_some]
  rw [ofExpressions?, table]
  rfl

end Toml
end MotionControl
