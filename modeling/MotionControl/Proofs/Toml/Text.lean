import Mathlib.Tactic.Common
import MotionControl.Toml.Text

/-!
# What a reader of strings looks at

A basic string is read piece by piece, a character or an escape at a time, in either of
its forms.  No reader looks further than it must: whatever follows a string, apart from a
quote, is left as it is, so that it is enough to know how a string is read by itself.
-/

namespace MotionControl
namespace Toml

/-! ## One character -/

/-- A backslash with what follows it, for one character. -/
inductive Escape : Char → List Char → Prop where
  | short {a b c d e : Char} (code : codePoint? [a, b, c, d] = some e) :
      Escape e ['\\', 'u', a, b, c, d]
  | long {a b c d e f g h i : Char} (code : codePoint? [a, b, c, d, e, f, g, h] = some i) :
      Escape i ['\\', 'U', a, b, c, d, e, f, g, h]
  | letter {letter c : Char} (escape : escaped? letter = some c) : Escape c ['\\', letter]

/-- What may stand for a character between the quotes of a basic string. -/
inductive Piece : Char → List Char → Prop where
  | escape {c : Char} {written : List Char} (escape : Escape c written) : Piece c written
  | plain {c : Char} (textChar : isTextChar c = true) (noEscape : c ≠ '\\') (noQuote : c ≠ '"') :
      Piece c [c]

theorem ne_of_escaped? {letter c : Char} (escape : escaped? letter = some c) :
    letter ≠ 'u' ∧ letter ≠ 'U' := by
  constructor
  · rintro rfl
    cases escape
  · rintro rfl
    cases escape

theorem eq_of_isBlank {c : Char} (blank : isBlank c = true) : c = ' ' ∨ c = '\t' := by
  rwa [isBlank, Bool.or_eq_true, beq_iff_eq, beq_iff_eq] at blank

theorem ne_of_isTextChar {c : Char} (textChar : isTextChar c = true) : c ≠ '\n' ∧ c ≠ '\r' := by
  constructor
  · rintro rfl
    cases textChar
  · rintro rfl
    cases textChar

theorem readBasic_escape {c : Char} {written : List Char} (escape : Escape c written)
    (rest : List Char) : readBasic (written ++ rest) = consText c (readBasic rest) := by
  cases escape with
  | short code =>
      simp only [List.cons_append, List.nil_append, readBasic, code, Option.bind_eq_bind,
        Option.bind_some]
  | long code =>
      simp only [List.cons_append, List.nil_append, readBasic, code, Option.bind_eq_bind,
        Option.bind_some]
  | letter escape =>
      have noCode := ne_of_escaped? escape
      rw [List.cons_append, List.cons_append, List.nil_append, readBasic, escape]
      · rfl
      · exact fun _ _ _ _ _ equal => absurd equal noCode.1
      · exact fun _ _ _ _ _ _ _ _ _ equal => absurd equal noCode.2

theorem readBasic_piece {c : Char} {written : List Char} (piece : Piece c written)
    (rest : List Char) : readBasic (written ++ rest) = consText c (readBasic rest) := by
  cases piece with
  | escape escape => exact readBasic_escape escape rest
  | plain textChar noEscape noQuote =>
      rw [List.cons_append, List.nil_append, readBasic, textChar, decide_eq_true noEscape]
      · rfl
      · exact noQuote
      · exact fun _ _ _ _ _ equal => absurd equal noEscape
      · exact fun _ _ _ _ _ _ _ _ _ equal => absurd equal noEscape
      · exact fun _ _ equal => absurd equal noEscape

theorem endsLine_of_escaped? {letter c : Char} (escape : escaped? letter = some c)
    (rest : List Char) : endsLine (letter :: rest) = false := by
  revert escape
  fun_cases escaped? letter with
  | case1 | case2 | case3 | case4 | case5 | case6 | case7 => exact fun _ => rfl
  | case8 => rintro ⟨⟩

/-- A quote that does not close, or any other character that may stand for itself. -/
theorem readBasicLines_text {skipping : Bool} {c : Char} {rest : List Char}
    (kept : (skipping && isBlank c) = false) (textChar : isTextChar c = true) (noEscape : c ≠ '\\')
    (noClose : ∀ later, c = '"' → rest ≠ '"' :: '"' :: later) :
    readBasicLines skipping (c :: rest) = consText c (readBasicLines false rest) := by
  have noBreak := ne_of_isTextChar textChar
  rw [readBasicLines, kept, textChar, decide_eq_true noEscape]
  · rfl
  · exact fun later quote equal => noClose later quote equal
  · exact fun _ equal => absurd equal noBreak.2
  · exact noBreak.1
  · exact fun _ _ _ _ _ equal => absurd equal noEscape
  · exact fun _ _ _ _ _ _ _ _ _ equal => absurd equal noEscape
  · exact fun _ _ equal => absurd equal noEscape

theorem readBasicLines_escape (skipping : Bool) {c : Char} {written : List Char}
    (escape : Escape c written) (rest : List Char) :
    readBasicLines skipping (written ++ rest) = consText c (readBasicLines false rest) := by
  cases escape with
  | short code =>
      simp only [List.cons_append, List.nil_append, readBasicLines, code, Option.bind_eq_bind,
        Option.bind_some]
  | long code =>
      simp only [List.cons_append, List.nil_append, readBasicLines, code, Option.bind_eq_bind,
        Option.bind_some]
  | letter escape =>
      have noCode := ne_of_escaped? escape
      rw [List.cons_append, List.cons_append, List.nil_append, readBasicLines,
        endsLine_of_escaped? escape, escape]
      · rfl
      · exact fun _ _ _ _ _ equal => absurd equal noCode.1
      · exact fun _ _ _ _ _ _ _ _ _ equal => absurd equal noCode.2

theorem readBasicLines_piece {c : Char} {written : List Char} (piece : Piece c written)
    (rest : List Char) :
    readBasicLines false (written ++ rest) = consText c (readBasicLines false rest) := by
  cases piece with
  | escape escape => exact readBasicLines_escape false escape rest
  | plain textChar noEscape noQuote =>
      exact readBasicLines_text rfl textChar noEscape fun _ equal => absurd equal noQuote

theorem readBasicLines_blank {c : Char} (blank : isBlank c = true) (rest : List Char) :
    readBasicLines true (c :: rest) = readBasicLines true rest := by
  rcases eq_of_isBlank blank with rfl | rfl
  · rfl
  · rfl

/-- A backslash at the end of a line. -/
theorem readBasicLines_ends (skipping : Bool) {c : Char} {rest : List Char}
    (ends : endsLine (c :: rest) = true) :
    readBasicLines skipping ('\\' :: c :: rest) = readBasicLines true (c :: rest) := by
  have noCode (letter : Char) (stays : endsLine (letter :: rest) = false) : c ≠ letter := by
    rintro rfl
    rw [ends] at stays
    cases stays
  rw [readBasicLines, if_pos ends]
  · exact fun _ _ _ _ _ equal => absurd equal (noCode 'u' rfl)
  · exact fun _ _ _ _ _ _ _ _ _ equal => absurd equal (noCode 'U' rfl)

/-! ## What follows a string -/

section Following

variable {text content rest more : List Char}

theorem consText_eq_some_iff {c : Char} {result : Option (List Char × List Char)} :
    consText c result = some (content, rest) ↔
      ∃ later, result = some (later, rest) ∧ content = c :: later := by
  rw [consText, Option.map_eq_some_iff]
  constructor
  · rintro ⟨⟨later, others⟩, read, equal⟩
    cases equal
    exact ⟨later, read, rfl⟩
  · rintro ⟨later, read, rfl⟩
    exact ⟨(later, rest), read, rfl⟩

/-- If the text after a character is read up to what follows, so is the whole. -/
theorem consText_append {c : Char} {before after : Option (List Char × List Char)}
    (next : ∀ {content}, before = some (content, rest) → after = some (content, rest ++ more))
    (read : consText c before = some (content, rest)) :
    consText c after = some (content, rest ++ more) := by
  obtain ⟨later, readLater, rfl⟩ := consText_eq_some_iff.mp read
  exact consText_eq_some_iff.mpr ⟨later, next readLater, rfl⟩

theorem readLiteral_append (read : readLiteral text = some (content, rest)) :
    readLiteral (text ++ more) = some (content, rest ++ more) := by
  fun_induction readLiteral text generalizing content with
  | case1 => cases read
  | case2 later =>
      cases read
      rfl
  | case3 c later notQuote textChar inductionHypothesis =>
      rw [List.cons_append, readLiteral, if_pos textChar]
      · exact consText_append inductionHypothesis read
      · exact notQuote
  | case4 => cases read

theorem readBasic_append (read : readBasic text = some (content, rest)) :
    readBasic (text ++ more) = some (content, rest ++ more) := by
  fun_induction readBasic text generalizing content with
  | case1 => cases read
  | case2 later =>
      cases read
      rfl
  | case3 a b c d later inductionHypothesis =>
      obtain ⟨e, code, read⟩ := Option.bind_eq_some_iff.mp read
      exact (readBasic_escape (.short code) (later ++ more)).trans
        (consText_append inductionHypothesis read)
  | case4 a b c d e f g h later inductionHypothesis =>
      obtain ⟨i, code, read⟩ := Option.bind_eq_some_iff.mp read
      exact (readBasic_escape (.long code) (later ++ more)).trans
        (consText_append inductionHypothesis read)
  | case5 letter later short long inductionHypothesis =>
      obtain ⟨c, escape, read⟩ := Option.bind_eq_some_iff.mp read
      exact (readBasic_escape (.letter escape) (later ++ more)).trans
        (consText_append inductionHypothesis read)
  | case6 c later notQuote short long notEscape textChar inductionHypothesis =>
      rw [Bool.and_eq_true, decide_eq_true_eq] at textChar
      exact (readBasic_piece (.plain textChar.2 textChar.1 notQuote) (later ++ more)).trans
        (consText_append inductionHypothesis read)
  | case7 => cases read

/-- Two quotes do not come about by what is not one. -/
theorem append_ne_quotes {quote : Char} (stops : ∀ c ∈ more.head?, c ≠ quote)
    (noQuotes : ∀ later, text ≠ quote :: quote :: later) (later : List Char) :
    text ++ more ≠ quote :: quote :: later := by
  intro equal
  match text with
  | [] =>
      rw [List.nil_append] at equal
      exact stops quote (by rw [equal]; rfl) rfl
  | [c] =>
      rw [List.cons_append, List.nil_append] at equal
      exact stops quote (by rw [(List.cons.inj equal).2]; rfl) rfl
  | c :: d :: others =>
      obtain ⟨rfl, equal⟩ := List.cons.inj equal
      obtain ⟨rfl, _⟩ := List.cons.inj equal
      exact noQuotes others rfl

theorem closing_append {quote : Char} (stops : ∀ c ∈ more.head?, c ≠ quote) (text : List Char) :
    closing quote (text ++ more) =
      ((closing quote text).1, (closing quote text).2 ++ more) := by
  fun_cases closing quote text with
  | case1 later => simp [closing]
  | case2 b later other => simp [closing, other]
  | case3 a b later other => simp [closing, other]
  | case4 =>
      cases more with
      | nil => simp [closing]
      | cons c later => simp [closing, stops c rfl]
  | case5 a other =>
      cases more with
      | nil => simp [closing, other]
      | cons c later => simp [closing, other]
  | case6 =>
      match more with
      | [] => simp [closing]
      | [c] => simp [closing, stops c rfl]
      | c :: d :: later => simp [closing, stops c rfl]

theorem readLiteralLines_text {c : Char} {rest : List Char} (textChar : isTextChar c = true)
    (noClose : ∀ later, c = '\'' → rest ≠ '\'' :: '\'' :: later) :
    readLiteralLines (c :: rest) = consText c (readLiteralLines rest) := by
  have noBreak := ne_of_isTextChar textChar
  rw [readLiteralLines, if_pos textChar]
  · exact fun later quote equal => noClose later quote equal
  · exact fun _ equal => absurd equal noBreak.2
  · exact noBreak.1

theorem readLiteralLines_append (stops : ∀ c ∈ more.head?, c ≠ '\'')
    (read : readLiteralLines text = some (content, rest)) :
    readLiteralLines (text ++ more) = some (content, rest ++ more) := by
  fun_induction readLiteralLines text generalizing content with
  | case1 => cases read
  | case2 later =>
      have closed : closing '\'' later = (content, rest) := Option.some.inj read
      change some (closing '\'' (later ++ more)) = _
      rw [closing_append stops, closed]
  | case3 later inductionHypothesis => exact consText_append inductionHypothesis read
  | case4 later inductionHypothesis => exact consText_append inductionHypothesis read
  | case5 c later noClose _ _ textChar inductionHypothesis =>
      refine (readLiteralLines_text textChar fun others quote => ?_).trans
        (consText_append inductionHypothesis read)
      exact append_ne_quotes stops (fun others => noClose others quote) others
  | case6 => cases read

theorem afterLineBreak?_append (broken : afterLineBreak? text = some rest) :
    afterLineBreak? (text ++ more) = some (rest ++ more) := by
  revert broken
  fun_cases afterLineBreak? text with
  | case1 later =>
      rintro ⟨⟩
      rfl
  | case2 later =>
      rintro ⟨⟩
      rfl
  | case3 => rintro ⟨⟩

theorem endsLine_append (more : List Char) (ends : endsLine text = true) :
    endsLine (text ++ more) = true := by
  obtain ⟨rest, broken⟩ := Option.isSome_iff_exists.mp ends
  have reached : (text.dropWhile isBlank).isEmpty = false := by
    cases blanks : text.dropWhile isBlank with
    | nil =>
        rw [blanks] at broken
        cases broken
    | cons c later => rfl
  rw [endsLine, List.dropWhile_append, reached, if_neg Bool.false_ne_true,
    afterLineBreak?_append broken]
  rfl

theorem readBasicLines_append {skipping : Bool} (stops : ∀ c ∈ more.head?, c ≠ '"')
    (read : readBasicLines skipping text = some (content, rest)) :
    readBasicLines skipping (text ++ more) = some (content, rest ++ more) := by
  fun_induction readBasicLines skipping text generalizing content with
  | case1 => cases read
  | case2 skipping later =>
      have closed : closing '"' later = (content, rest) := Option.some.inj read
      change some (closing '"' (later ++ more)) = _
      rw [closing_append stops, closed]
  | case3 later inductionHypothesis => exact inductionHypothesis read
  | case4 skipping later keeps inductionHypothesis =>
      rw [List.cons_append, List.cons_append, readBasicLines, if_neg keeps]
      exact consText_append inductionHypothesis read
  | case5 later inductionHypothesis => exact inductionHypothesis read
  | case6 skipping later keeps inductionHypothesis =>
      rw [List.cons_append, readBasicLines, if_neg keeps]
      exact consText_append inductionHypothesis read
  | case7 skipping a b c d later inductionHypothesis =>
      obtain ⟨e, code, read⟩ := Option.bind_eq_some_iff.mp read
      exact (readBasicLines_escape skipping (.short code) (later ++ more)).trans
        (consText_append inductionHypothesis read)
  | case8 skipping a b c d e f g h later inductionHypothesis =>
      obtain ⟨i, code, read⟩ := Option.bind_eq_some_iff.mp read
      exact (readBasicLines_escape skipping (.long code) (later ++ more)).trans
        (consText_append inductionHypothesis read)
  | case9 skipping letter later short long ends inductionHypothesis =>
      exact (readBasicLines_ends skipping (endsLine_append more ends)).trans
        (inductionHypothesis read)
  | case10 skipping letter later short long stays inductionHypothesis =>
      obtain ⟨c, escape, read⟩ := Option.bind_eq_some_iff.mp read
      exact (readBasicLines_escape skipping (.letter escape) (later ++ more)).trans
        (consText_append inductionHypothesis read)
  | case11 skipping c later noClose noReturn noBreak short long noEscape skips inductionHypothesis =>
      obtain ⟨rfl, blank⟩ := Bool.and_eq_true_iff.mp skips
      exact (readBasicLines_blank blank (later ++ more)).trans (inductionHypothesis read)
  | case12 skipping c later noClose noReturn noBreak short long noEscape kept textChar
      inductionHypothesis =>
      rw [Bool.not_eq_true] at kept
      rw [Bool.and_eq_true, decide_eq_true_eq] at textChar
      refine (readBasicLines_text kept textChar.2 textChar.1 fun others quote => ?_).trans
        (consText_append inductionHypothesis read)
      exact append_ne_quotes stops (fun others => noClose others quote) others
  | case13 => cases read

/-- A break at the beginning is seen unless its second half is missing. -/
theorem trimFirstBreak_append (more : List Char) (nonempty : text ≠ []) (noReturn : text ≠ ['\r']) :
    trimFirstBreak (text ++ more) = trimFirstBreak text ++ more := by
  cases broken : afterLineBreak? text with
  | some rest =>
      rw [trimFirstBreak, trimFirstBreak, broken, afterLineBreak?_append broken]
      rfl
  | none =>
      have unbroken : afterLineBreak? (text ++ more) = none := by
        match text with
        | c :: rest =>
            rw [List.cons_append, afterLineBreak?]
            · rintro later equal
              rw [(List.cons.inj equal).1] at broken
              cases broken
            · rintro later equal
              obtain ⟨rfl, next⟩ := List.cons.inj equal
              cases rest with
              | nil => exact noReturn rfl
              | cons d others =>
                  rw [List.cons_append] at next
                  obtain ⟨rfl, _⟩ := List.cons.inj next
                  cases broken
      rw [trimFirstBreak, trimFirstBreak, broken, unbroken]
      rfl

/-- A string is read in the same way whatever follows it, as long as it is no quote. -/
theorem readString?_append (stops : ∀ c ∈ more.head?, c ≠ '"' ∧ c ≠ '\'')
    (read : readString? text = some (content, rest)) :
    readString? (text ++ more) = some (content, rest ++ more) := by
  have noDouble := fun c member => (stops c member).1
  have noSingle := fun c member => (stops c member).2
  revert read
  fun_cases readString? text with
  | case1 later =>
      intro read
      change readBasicLines false (trimFirstBreak (later ++ more)) = _
      rw [trimFirstBreak_append more]
      · exact readBasicLines_append noDouble read
      · rintro rfl
        cases read
      · rintro rfl
        cases read
  | case2 later noTriple =>
      intro read
      rw [List.cons_append, readString?, readBasic_append read]
      exact append_ne_quotes noDouble noTriple
  | case3 later =>
      intro read
      change readLiteralLines (trimFirstBreak (later ++ more)) = _
      rw [trimFirstBreak_append more]
      · exact readLiteralLines_append noSingle read
      · rintro rfl
        cases read
      · rintro rfl
        cases read
  | case4 later noTriple =>
      intro read
      rw [List.cons_append, readString?, readLiteral_append read]
      exact append_ne_quotes noSingle noTriple
  | case5 => rintro ⟨⟩

/-- A string begins with a quote. -/
theorem exists_quote_of_readString? (read : readString? text = some (content, rest)) :
    ∃ quote later, text = quote :: later ∧ (quote = '"' ∨ quote = '\'') := by
  revert read
  fun_cases readString? text with
  | case1 later | case2 later => exact fun _ => ⟨_, _, rfl, .inl rfl⟩
  | case3 later | case4 later => exact fun _ => ⟨_, _, rfl, .inr rfl⟩
  | case5 => rintro ⟨⟩

end Following

end Toml
end MotionControl
