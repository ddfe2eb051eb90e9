import MotionControl.Proofs.Toml.Text
import MotionControl.Toml.Writer

/-!
# Strings are read as they were written

Every text is read back from the form that is chosen for it.  What makes this more than a
copy are the ends: quotes at the end of a content over several lines run into the closing
ones, and a break at its beginning would be left out.
-/

namespace MotionControl
namespace Toml

/-! ## The written forms -/

theorem isTextChar_of_not_isControl {c : Char} (noControl : isControl c = false)
    (noBreak : c ≠ '\n') : isTextChar c = true := by
  by_cases tab : c = '\t'
  · rw [tab]
    rfl
  · simp only [isControl, ne_eq, tab, noBreak, not_false_eq_true, decide_true, Bool.true_and,
      Bool.or_eq_false_iff, decide_eq_false_iff_not, Nat.not_lt] at noControl
    simp [isTextChar, noControl]

theorem codePoint?_fourHexDigits {c : Char} (small : c.toNat < 128) :
    codePoint? (fourHexDigits c.toNat) = some c := by
  have all : ∀ n < 128, codePoint? (fourHexDigits n) = some (Char.ofNat n) := by decide
  rw [all _ small, Char.ofNat_toNat]

theorem toNat_lt_of_isControl {c : Char} (control : isControl c = true) : c.toNat < 128 := by
  simp only [isControl, Bool.and_eq_true, Bool.or_eq_true, decide_eq_true_eq] at control
  omega

/-- Every character but the two that are written by their own rules. -/
theorem writeChar_isPiece {c : Char} (noQuote : c ≠ '"') (noBreak : c ≠ '\n') :
    Piece c (writeChar c) := by
  fun_cases writeChar c with
  | case1 equal => exact .escape (.letter (by rw [equal]; rfl))
  | case2 _ equal => exact .escape (.letter (by rw [equal]; rfl))
  | case3 _ _ equal => exact .escape (.letter (by rw [equal]; rfl))
  | case4 _ _ _ equal => exact .escape (.letter (by rw [equal]; rfl))
  | case5 _ _ _ _ equal => exact .escape (.letter (by rw [equal]; rfl))
  | case6 _ _ _ _ _ control =>
      exact .escape (.short (codePoint?_fourHexDigits (toNat_lt_of_isControl control)))
  | case7 _ _ _ _ noEscape noControl =>
      rw [Bool.not_eq_true] at noControl
      exact .plain (isTextChar_of_not_isControl noControl noBreak) noEscape noQuote

/-- No written form of a character begins with a quote, or with half of a line break. -/
theorem Piece.exists_cons {c : Char} {written : List Char} (piece : Piece c written) :
    ∃ d rest, written = d :: rest ∧ d ≠ '"' ∧ d ≠ '\n' ∧ d ≠ '\r' := by
  cases piece with
  | escape escape =>
      cases escape with
      | short | long | letter => exact ⟨_, _, rfl, by decide, by decide, by decide⟩
  | plain textChar noEscape noQuote =>
      exact ⟨_, _, rfl, noQuote, ne_of_isTextChar textChar⟩

theorem writeBasic_cons_isPiece (c : Char) (rest : List Char) :
    ∃ written, Piece c written ∧ writeBasic (c :: rest) = written ++ writeBasic rest := by
  by_cases quote : c = '"'
  · rw [quote]
    exact ⟨_, .escape (.letter rfl), rfl⟩
  · by_cases lineFeed : c = '\n'
    · rw [lineFeed]
      exact ⟨_, .escape (.letter rfl), rfl⟩
    · refine ⟨_, writeChar_isPiece quote lineFeed, ?_⟩
      rw [writeBasic, if_neg quote, if_neg lineFeed]

theorem readBasic_writeBasic (text : List Char) :
    readBasic (writeBasic text ++ ['"']) = some (text, []) := by
  induction text with
  | nil => rfl
  | cons c rest inductionHypothesis =>
      obtain ⟨written, piece, equal⟩ := writeBasic_cons_isPiece c rest
      rw [equal, List.append_assoc, readBasic_piece piece, inductionHypothesis]
      rfl

/-- A text that goes on with another character than a quote, or after two quotes. -/
theorem exists_writeBasicLines_cons {run : ℕ} {c : Char} (rest : List Char)
    (other : c ≠ '"' ∨ run = 2) :
    ∃ d later, writeBasicLines run (c :: rest) = d :: later ∧ d ≠ '"' := by
  rw [writeBasicLines]
  split
  · rename_i quote
    rw [if_pos (other.resolve_left (not_not_intro quote))]
    exact ⟨_, _, rfl, by decide⟩
  · rename_i noQuote
    split
    · exact ⟨_, _, rfl, by decide⟩
    · rename_i noBreak
      obtain ⟨d, later, written, first, _⟩ := (writeChar_isPiece noQuote noBreak).exists_cons
      rw [written]
      exact ⟨_, _, rfl, first⟩

/-- Two quotes at the beginning, after another one, are the end of the content. -/
theorem writeBasicLines_ne_quotes {run : ℕ} {text more : List Char} (few : run ≤ 1)
    (nonempty : text ≠ []) (last : run = 0 → text ≠ ['"']) (later : List Char) :
    writeBasicLines (run + 1) text ++ more ≠ '"' :: '"' :: later := by
  intro equal
  obtain ⟨c, rest, rfl⟩ := List.exists_cons_of_ne_nil nonempty
  by_cases other : c ≠ '"' ∨ run + 1 = 2
  · obtain ⟨d, others, written, first⟩ := exists_writeBasicLines_cons rest other
    rw [written, List.cons_append] at equal
    exact first (List.cons.inj equal).1
  · obtain ⟨rfl, none⟩ : c = '"' ∧ run = 0 := by
      rw [not_or, not_not] at other
      exact ⟨other.1, by omega⟩
    subst none
    have written : writeBasicLines 1 ('"' :: rest) = '"' :: writeBasicLines 2 rest := rfl
    have further : rest ≠ [] := fun none => last rfl (by rw [none])
    obtain ⟨e, rest, rfl⟩ := List.exists_cons_of_ne_nil further
    obtain ⟨d, others, written', first⟩ := exists_writeBasicLines_cons (c := e) rest (.inr rfl)
    rw [written, written', List.cons_append, List.cons_append] at equal
    exact first (List.cons.inj (List.cons.inj equal).2).1

/-- Quotes at the end of the content come out with the closing ones; before the end, no
three are in a row. -/
theorem readBasicLines_writeBasicLines {run : ℕ} (text : List Char) (few : run ≤ 2) :
    readBasicLines false (writeBasicLines run text ++ ['"', '"', '"']) = some (text, []) := by
  induction text generalizing run with
  | nil => rfl
  | cons c rest inductionHypothesis =>
      have next := inductionHypothesis (Nat.zero_le 2)
      rw [writeBasicLines]
      split
      · rename_i quote
        subst quote
        split
        · exact (readBasicLines_escape false (.letter rfl) _).trans (congrArg (consText '"') next)
        · rename_i notFull
          by_cases nonempty : rest = []
          · rw [nonempty]
            rfl
          · by_cases last : run = 0 ∧ rest = ['"']
            · rw [last.1, last.2]
              rfl
            · have fewer : run ≤ 1 := by omega
              refine (readBasicLines_text rfl rfl (by decide) fun later _ => ?_).trans
                (congrArg (consText '"') (inductionHypothesis (Nat.succ_le_succ fewer)))
              exact writeBasicLines_ne_quotes fewer nonempty
                (fun none single => last ⟨none, single⟩) later
      · rename_i noQuote
        rw [List.append_assoc]
        split
        · rename_i lineFeed
          rw [lineFeed, List.singleton_append, readBasicLines, if_neg Bool.false_ne_true, next]
          rfl
        · rename_i noBreak
          rw [readBasicLines_piece (writeChar_isPiece noQuote noBreak), next]
          rfl

theorem hasRun_cons {c d : Char} {count seen : ℕ} {rest : List Char}
    (noRun : hasRun c count seen (d :: rest) = false) :
    hasRun c count (if d = c then seen + 1 else 0) rest = false := by
  rw [hasRun, Bool.or_eq_false_iff] at noRun
  exact noRun.2

/-- After one quote, two further ones make a run, unless they are among the closing ones. -/
theorem append_ne_quotes_of_hasRun {quote : Char} {seen : ℕ} {text more : List Char}
    (noRun : hasRun quote 3 seen (quote :: text) = false) (nonempty : text ≠ [])
    (several : text ≠ [quote]) (later : List Char) : text ++ more ≠ quote :: quote :: later := by
  intro equal
  match text with
  | [c] =>
      obtain ⟨rfl, _⟩ := List.cons.inj equal
      exact several rfl
  | c :: d :: rest =>
      obtain ⟨rfl, next⟩ := List.cons.inj equal
      obtain ⟨rfl, _⟩ := List.cons.inj next
      have three := hasRun_cons (hasRun_cons (hasRun_cons noRun))
      simp only [if_true] at three
      cases rest with
      | nil => simp [hasRun] at three
      | cons e others => simp [hasRun] at three

/-- Without a run of three quotes, three quotes ahead are the closing ones. -/
theorem readLiteralLines_closed {seen : ℕ} (text : List Char)
    (noControl : ∀ c ∈ text, isControl c = false) (noRun : hasRun '\'' 3 seen text = false) :
    readLiteralLines (text ++ ['\'', '\'', '\'']) = some (text, []) := by
  induction text generalizing seen with
  | nil => rfl
  | cons c rest inductionHypothesis =>
      have next := inductionHypothesis (fun d member => noControl d (List.mem_cons_of_mem _ member))
        (hasRun_cons noRun)
      by_cases lineFeed : c = '\n'
      · rw [lineFeed, List.cons_append, readLiteralLines, next]
        rfl
      · have textChar := isTextChar_of_not_isControl (noControl c List.mem_cons_self) lineFeed
        by_cases quote : c = '\''
        · subst quote
          by_cases nonempty : rest = []
          · rw [nonempty]
            rfl
          · by_cases several : rest = ['\'']
            · rw [several]
              rfl
            · exact (readLiteralLines_text textChar fun later _ =>
                append_ne_quotes_of_hasRun noRun nonempty several later).trans
                (congrArg (consText '\'') next)
        · exact (readLiteralLines_text textChar fun _ equal => absurd equal quote).trans
            (congrArg (consText c) next)

theorem readLiteral_closed {text : List Char} (textChars : ∀ c ∈ text, isTextChar c = true)
    (noQuote : '\'' ∉ text) : readLiteral (text ++ ['\'']) = some (text, []) := by
  induction text with
  | nil => rfl
  | cons c rest inductionHypothesis =>
      have next := inductionHypothesis (fun d member => textChars d (List.mem_cons_of_mem _ member))
        fun member => noQuote (List.mem_cons_of_mem _ member)
      rw [List.cons_append, readLiteral, if_pos (textChars c List.mem_cons_self), next]
      · rfl
      · rintro rfl
        exact noQuote List.mem_cons_self

/-! ## The choice of a form -/

/-- The forms without escapes hold fewer texts. -/
def StringForm.Holds (text : List Char) : StringForm → Prop
  | .basic | .basicLines => True
  | .literal => (∀ c ∈ text, isTextChar c = true) ∧ '\'' ∉ text
  | .literalLines => (∀ c ∈ text, isControl c = false) ∧ hasRun '\'' 3 0 text = false

theorem StringForm.choose_holds (text : List Char) : (choose text).Holds text := by
  simp only [choose]
  split
  · trivial
  · split
    · rename_i plain
      simp only [Bool.and_eq_true, Bool.not_eq_true', List.any_eq_false, Bool.not_eq_true,
        List.contains_eq_mem, decide_eq_false_iff_not] at plain
      obtain ⟨⟨noControl, noBreak⟩, noQuote⟩ := plain
      refine ⟨fun c member => isTextChar_of_not_isControl (noControl c member) ?_, noQuote⟩
      rintro rfl
      exact noBreak member
    · split
      · trivial
      · split
        · rename_i plain
          simp only [Bool.and_eq_true, Bool.not_eq_true', List.any_eq_false,
            Bool.not_eq_true] at plain
          exact plain
        · split
          · trivial
          · trivial

theorem afterLineBreak?_of_ne {c : Char} {rest : List Char} (noBreak : c ≠ '\n')
    (noReturn : c ≠ '\r') : afterLineBreak? (c :: rest) = none := by
  rw [afterLineBreak?]
  · exact fun later equal => noBreak (List.cons.inj equal).1
  · exact fun later equal => noReturn (List.cons.inj equal).1

/-- What is written for a text without line breaks does not begin with one. -/
theorem afterLineBreak?_writeBasicLines {text more : List Char} (noBreak : '\n' ∉ text)
    (unbroken : afterLineBreak? more = none) :
    afterLineBreak? (writeBasicLines 0 text ++ more) = none := by
  cases text with
  | nil => exact unbroken
  | cons c rest =>
      have other : c ≠ '\n' := by
        rintro rfl
        exact noBreak List.mem_cons_self
      by_cases quote : c = '"'
      · rw [quote]
        exact afterLineBreak?_of_ne (by decide) (by decide)
      · obtain ⟨d, later, written, _, first, second⟩ := (writeChar_isPiece quote other).exists_cons
        rw [writeBasicLines, if_neg quote, if_neg other, written]
        exact afterLineBreak?_of_ne first second

/-- The line break that stands first is the only one that is left out. -/
theorem trimFirstBreak_openingBreak {text written : List Char}
    (first : '\n' ∉ text → afterLineBreak? written = none) :
    trimFirstBreak (openingBreak text ++ written) = written := by
  rw [openingBreak]
  split
  · rfl
  · rename_i noBreak
    rw [List.nil_append, trimFirstBreak, first (by simpa using noBreak)]
    rfl

/-- A text is read from any form that holds it. -/
theorem readString?_writeForm {text : List Char} {form : StringForm} (holds : form.Holds text) :
    readString? (writeForm text form) = some (text, []) := by
  cases form with
  | basic =>
      have content := readBasic_writeBasic text
      cases text with
      | nil => rfl
      | cons c rest =>
          obtain ⟨written, piece, equal⟩ := writeBasic_cons_isPiece c rest
          obtain ⟨d, later, rfl, noQuote, _⟩ := piece.exists_cons
          rw [writeForm, List.cons_append, readString?, content]
          rintro others quotes
          rw [equal, List.append_assoc, List.cons_append] at quotes
          exact noQuote (List.cons.inj quotes).1
  | literal =>
      obtain ⟨textChars, noQuote⟩ := holds
      have content := readLiteral_closed textChars noQuote
      cases text with
      | nil => rfl
      | cons c rest =>
          rw [writeForm, List.cons_append, readString?, content]
          rintro others quotes
          obtain ⟨rfl, _⟩ := List.cons.inj quotes
          exact noQuote List.mem_cons_self
  | basicLines =>
      rw [writeForm, List.append_assoc, List.append_assoc]
      change readBasicLines false (trimFirstBreak (openingBreak text ++ _)) = _
      rw [trimFirstBreak_openingBreak fun noBreak => afterLineBreak?_writeBasicLines noBreak rfl]
      exact readBasicLines_writeBasicLines text (Nat.zero_le 2)
  | literalLines =>
      obtain ⟨noControl, noRun⟩ := holds
      rw [writeForm, List.append_assoc, List.append_assoc]
      change readLiteralLines (trimFirstBreak (openingBreak text ++ _)) = _
      rw [trimFirstBreak_openingBreak]
      · exact readLiteralLines_closed text noControl noRun
      · intro noBreak
        cases text with
        | nil => rfl
        | cons c rest =>
            have other : c ≠ '\n' := by
              rintro rfl
              exact noBreak List.mem_cons_self
            exact afterLineBreak?_of_ne other
              (ne_of_isTextChar (isTextChar_of_not_isControl (noControl c List.mem_cons_self) other)).2

/-- A text is read from what is written for it. -/
theorem readString?_writeString (text : String) :
    readString? (writeString text) = some (text.toList, []) :=
  readString?_writeForm (StringForm.choose_holds text.toList)

end Toml
end MotionControl
