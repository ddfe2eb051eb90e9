import MotionControl.Proofs.Toml.Number

/-!
# Tokens

A number of a document is a token: it has only characters of tokens, so the reader cuts
it off where it ends.  The kinds of tokens exclude each other.  An integer is no float,
and a date or a time, which begins with digits and a mark that no number has there, is
neither.
-/

namespace MotionControl
namespace Toml

/-- Characters of tokens only. -/
def IsToken (text : List Char) : Prop :=
  ∀ c ∈ text, isTokenChar c = true

/-! ## The characters of numbers -/

theorem isTokenChar_of_isAlphanum {c : Char} (letter : c.isAlphanum = true) :
    isTokenChar c = true := by
  simp [isTokenChar, letter]

theorem isTokenChar_of_isDigit {c : Char} (digit : c.isDigit = true) : isTokenChar c = true := by
  apply isTokenChar_of_isAlphanum
  rw [Char.isAlphanum, digit, Bool.or_true]

theorem isTokenChar_of_isHexDigit {c : Char} (digit : isHexDigit c = true) :
    isTokenChar c = true := by
  simp only [isHexDigit, Bool.or_eq_true, Bool.and_eq_true, decide_eq_true_eq] at digit
  rcases digit with (decimal | lower) | upper
  · exact isTokenChar_of_isDigit decimal
  · have letter : c.isLower = true := Bool.and_eq_true_iff.mpr ⟨decide_eq_true lower.1,
      decide_eq_true (UInt32.le_trans lower.2 (by decide : 'f'.val ≤ 'z'.val))⟩
    have alpha : c.isAlpha = true := Bool.or_eq_true_iff.mpr (.inr letter)
    exact isTokenChar_of_isAlphanum (Bool.or_eq_true_iff.mpr (.inl alpha))
  · have letter : c.isUpper = true := decide_eq_true
      ⟨upper.1, UInt32.le_trans upper.2 (by decide : 'F'.val ≤ 'Z'.val)⟩
    have alpha : c.isAlpha = true := Bool.or_eq_true_iff.mpr (.inl letter)
    exact isTokenChar_of_isAlphanum (Bool.or_eq_true_iff.mpr (.inl alpha))

/-- A run has only digits and underscores. -/
theorem mem_of_digitRun? {isDigit : Char → Bool} {run ds : List Char}
    (read : digitRun? isDigit run = some ds) {c : Char} (member : c ∈ run) :
    isDigit c = true ∨ c = '_' := by
  fun_induction digitRun? isDigit run generalizing ds with
  | case1 => cases read
  | case2 c digit =>
      rw [List.mem_singleton.mp member]
      exact .inl digit
  | case3 c _ => cases read
  | case4 d rest digit inductionHypothesis =>
      obtain ⟨later, readLater, rfl⟩ := Option.map_eq_some_iff.mp read
      rcases List.mem_cons.mp member with rfl | member
      · exact .inl digit
      · rcases List.mem_cons.mp member with rfl | member
        · exact .inr rfl
        · exact inductionHypothesis readLater member
  | case5 => cases read
  | case6 d rest _ _ digit inductionHypothesis =>
      obtain ⟨later, readLater, rfl⟩ := Option.map_eq_some_iff.mp read
      rcases List.mem_cons.mp member with rfl | member
      · exact .inl digit
      · exact inductionHypothesis readLater member
  | case7 => cases read

theorem isToken_of_digitRun? {isDigit : Char → Bool} {run ds : List Char}
    (digits : ∀ c, isDigit c = true → isTokenChar c = true)
    (read : digitRun? isDigit run = some ds) : IsToken run := by
  intro c member
  rcases mem_of_digitRun? read member with digit | rfl
  · exact digits c digit
  · rfl

theorem digitRun?_of_decimalRun? {run ds : List Char} (read : decimalRun? run = some ds) :
    digitRun? Char.isDigit run = some ds := by
  rw [decimalRun?] at read
  split at read
  · cases read
  · exact read

theorem isToken_cons {c : Char} {text : List Char} (first : isTokenChar c = true)
    (token : IsToken text) : IsToken (c :: text) := by
  intro d member
  rcases List.mem_cons.mp member with rfl | member
  · exact first
  · exact token d member

theorem isToken_append {first last : List Char} (token : IsToken first) (token' : IsToken last) :
    IsToken (first ++ last) := by
  intro c member
  rcases List.mem_append.mp member with member | member
  · exact token c member
  · exact token' c member

theorem isToken_of_splitSign {text : List Char} (rest : IsToken (splitSign text).2) :
    IsToken text := by
  revert rest
  fun_cases splitSign text with
  | case1 later => exact isToken_cons rfl
  | case2 later => exact isToken_cons rfl
  | case3 => exact id

theorem isToken_of_wholeNumber? {token : List Char} {n : ℤ} (read : wholeNumber? token = some n) :
    IsToken token := by
  have marked {mark : Char} {run ds : List Char} {isDigit : Char → Bool}
      (letter : isTokenChar mark = true) (digits : ∀ c, isDigit c = true → isTokenChar c = true)
      (read : digitRun? isDigit run = some ds) : IsToken ('0' :: mark :: run) :=
    isToken_cons rfl (isToken_cons letter (isToken_of_digitRun? digits read))
  revert read
  fun_cases wholeNumber? token with
  | case1 run =>
      intro read
      obtain ⟨ds, digits, _⟩ := Option.map_eq_some_iff.mp read
      exact marked rfl (fun _ => isTokenChar_of_isHexDigit) digits
  | case2 run =>
      intro read
      obtain ⟨ds, digits, _⟩ := Option.map_eq_some_iff.mp read
      refine marked rfl (fun c digit => isTokenChar_of_isDigit ?_) digits
      rw [Bool.and_eq_true, decide_eq_true_eq, decide_eq_true_eq] at digit
      rw [Char.isDigit, Bool.and_eq_true, decide_eq_true_eq, decide_eq_true_eq]
      exact ⟨digit.1, UInt32.le_trans digit.2 (by decide : '7'.val ≤ '9'.val)⟩
  | case3 run =>
      intro read
      obtain ⟨ds, digits, _⟩ := Option.map_eq_some_iff.mp read
      refine marked rfl (fun c digit => ?_) digits
      rcases Bool.or_eq_true_iff.mp digit with zero | one
      · rw [beq_iff_eq.mp zero]
        rfl
      · rw [beq_iff_eq.mp one]
        rfl
  | case4 _ _ _ _ negative run split =>
      intro read
      obtain ⟨ds, digits, _⟩ := Option.map_eq_some_iff.mp read
      apply isToken_of_splitSign
      rw [split]
      exact isToken_of_digitRun? (fun _ => isTokenChar_of_isDigit) (digitRun?_of_decimalRun? digits)

theorem isToken_of_exponent? {text : List Char} {n : ℤ} (read : exponent? text = some n) :
    IsToken text := by
  cases text with
  | nil =>
      intro c member
      cases member
  | cons c rest =>
      rw [exponent?] at read
      split at read
      · rename_i mark
        obtain ⟨ds, digits, _⟩ := Option.map_eq_some_iff.mp read
        apply isToken_cons
        · rcases Bool.or_eq_true_iff.mp mark with lower | upper
          · rw [beq_iff_eq.mp lower]
            rfl
          · rw [beq_iff_eq.mp upper]
            rfl
        · exact isToken_of_splitSign (isToken_of_digitRun? (fun _ => isTokenChar_of_isDigit) digits)
      · cases read

theorem isToken_of_isRunChar {text : List Char} (run : ∀ c ∈ text, isRunChar c = true) :
    IsToken text := by
  intro c member
  rcases Bool.or_eq_true_iff.mp (run c member) with digit | underscore
  · exact isTokenChar_of_isDigit digit
  · rw [beq_iff_eq.mp underscore]
    rfl

theorem isToken_takeWhile (text : List Char) : IsToken (text.takeWhile isRunChar) :=
  isToken_of_isRunChar (List.all_eq_true.mp List.all_takeWhile)

theorem isToken_of_decimal? {text : List Char} {d : Decimal} (read : decimal? text = some d) :
    IsToken text := by
  rw [← List.takeWhile_append_dropWhile (p := isRunChar) (l := text)]
  apply isToken_append (isToken_takeWhile text)
  obtain ⟨whole, _, read⟩ := Option.bind_eq_some_iff.mp read
  revert read
  split
  · rename_i rest split
    intro read
    obtain ⟨places, _, read⟩ := Option.bind_eq_some_iff.mp read
    obtain ⟨exponent, last, _⟩ := Option.bind_eq_some_iff.mp read
    rw [split, ← List.takeWhile_append_dropWhile (p := isRunChar) (l := rest)]
    exact isToken_cons rfl (isToken_append (isToken_takeWhile rest) (isToken_of_exponent? last))
  · intro read
    split at read
    · cases read
    · obtain ⟨exponent, last, _⟩ := Option.bind_eq_some_iff.mp read
      exact isToken_of_exponent? last

/-- What a float can be: a word, or a decimal. -/
theorem float?_cases {token : List Char} {x : Float} (read : float? token = some x) :
    (splitSign token).2 = "inf".toList ∨ (splitSign token).2 = "nan".toList ∨
      ∃ d, decimal? (splitSign token).2 = some d := by
  by_cases infinite : (splitSign token).2 = "inf".toList
  · exact .inl infinite
  · by_cases notNumber : (splitSign token).2 = "nan".toList
    · exact .inr (.inl notNumber)
    · rw [float?] at read
      simp only [if_neg infinite, if_neg notNumber] at read
      obtain ⟨d, decimal, _⟩ := Option.bind_eq_some_iff.mp read
      exact .inr (.inr ⟨d, decimal⟩)

theorem isToken_of_float? {token : List Char} {x : Float} (read : float? token = some x) :
    IsToken token := by
  apply isToken_of_splitSign
  rcases float?_cases read with word | word | ⟨d, decimal⟩
  · rw [word]
    exact List.all_eq_true.mp rfl
  · rw [word]
    exact List.all_eq_true.mp rfl
  · exact isToken_of_decimal? decimal

/-! ## Kinds of tokens -/

theorem float?_eq_none {token rest : List Char} {c : Char} (split : (splitSign token).2 = c :: rest)
    (first : isRunChar c = true) (noDecimal : decimal? (c :: rest) = none) :
    float? token = none := by
  cases read : float? token with
  | none => rfl
  | some x =>
      rw [← split] at noDecimal
      have noWord {word : List Char} (letter : ∃ d ∈ word.head?, isRunChar d = false) :
          (splitSign token).2 ≠ word := by
        rintro rfl
        obtain ⟨d, member, other⟩ := letter
        rw [split] at member
        cases member
        rw [first] at other
        cases other
      rcases float?_cases read with word | word | ⟨d, decimal⟩
      · exact absurd word (noWord ⟨'i', rfl, rfl⟩)
      · exact absurd word (noWord ⟨'n', rfl, rfl⟩)
      · rw [noDecimal] at decimal
        cases decimal

theorem decimal?_of_isRunChar {text : List Char} (run : ∀ c ∈ text, isRunChar c = true) :
    decimal? text = none := by
  rw [decimal?, takeWhile_eq_self run, dropWhile_eq_nil run]
  cases decimalRun? text with
  | none => rfl
  | some ds => rfl

/-- Neither a point nor an exponent follows the digits. -/
structure IsMark (mark : Char) : Prop where
  notRunChar : isRunChar mark = false
  notPoint : mark ≠ '.'
  notExponent : (mark == 'e' || mark == 'E') = false

theorem decimal?_of_isMark {ds rest : List Char} {mark : Char}
    (run : ∀ c ∈ ds, isRunChar c = true) (isMark : IsMark mark) :
    decimal? (ds ++ mark :: rest) = none := by
  have after : (ds ++ mark :: rest).dropWhile isRunChar = mark :: rest := by
    rw [List.dropWhile_append_of_pos run, List.dropWhile_cons_of_neg]
    rw [isMark.notRunChar]
    exact Bool.false_ne_true
  have last : exponent? (mark :: rest) = none := by
    rw [exponent?, isMark.notExponent]
    rfl
  rw [decimal?, after]
  cases decimalRun? ((ds ++ mark :: rest).takeWhile isRunChar) with
  | none => rfl
  | some whole =>
      rw [Option.bind_eq_bind, Option.bind_some]
      split
      · rename_i later point
        exact absurd (List.cons.inj point).1 isMark.notPoint
      · rw [last]
        rfl

theorem wholeNumber?_of_integer? {token : List Char} {n : ℤ} (read : integer? token = some n) :
    wholeNumber? token = some n :=
  (Option.filter_eq_some_iff.mp read).1

theorem float?_of_integer? {token : List Char} {n : ℤ} (read : integer? token = some n) :
    float? token = none := by
  have whole := wholeNumber?_of_integer? read
  have marked {mark : Char} (isMark : IsMark mark) (run : List Char) :
      float? ('0' :: mark :: run) = none := by
    have split : splitSign ('0' :: mark :: run) = (false, '0' :: mark :: run) := rfl
    have digit : ∀ c ∈ ['0'], isRunChar c = true := List.all_eq_true.mp rfl
    exact float?_eq_none (congrArg Prod.snd split) rfl (decimal?_of_isMark digit isMark)
  revert whole
  fun_cases wholeNumber? token with
  | case1 run => exact fun _ => marked ⟨rfl, by decide, rfl⟩ run
  | case2 run => exact fun _ => marked ⟨rfl, by decide, rfl⟩ run
  | case3 run => exact fun _ => marked ⟨rfl, by decide, rfl⟩ run
  | case4 _ _ _ _ negative run split =>
      intro whole
      obtain ⟨ds, digits, _⟩ := Option.map_eq_some_iff.mp whole
      have digits := digitRun?_of_decimalRun? digits
      have all : ∀ c ∈ run, isRunChar c = true := by
        intro c member
        rcases mem_of_digitRun? digits member with digit | rfl
        · exact isRunChar_of_isDigit digit
        · rfl
      cases run with
      | nil => cases digits
      | cons c rest =>
          exact float?_eq_none (congrArg Prod.snd split) (all c List.mem_cons_self)
            (decimal?_of_isRunChar all)

/-! ## Dates and times -/

/-- At least two digits, and then a mark that has no place behind them in a number. -/
structure IsMarked (token ds : List Char) (mark : Char) : Prop where
  begins : ds ++ [mark] <+: token
  several : 2 ≤ ds.length
  digits : ∀ c ∈ ds, c.isDigit = true
  mark_eq : mark = ':' ∨ mark = '-'

theorem IsMarked.of_prefix {text token ds : List Char} {mark : Char} (marked : IsMarked text ds mark)
    (start : text <+: token) : IsMarked token ds mark :=
  ⟨marked.begins.trans start, marked.several, marked.digits, marked.mark_eq⟩

theorem isDigit_of_twoDigits? {a b : Char} {n : ℕ} (read : twoDigits? [a, b] = some n) :
    ∀ c ∈ [a, b], c.isDigit = true := by
  rw [twoDigits?] at read
  split at read
  · rename_i digits
    rw [Bool.and_eq_true] at digits
    simp [digits.1, digits.2]
  · cases read

theorem exists_isMarked_of_isHourMinute {text : List Char} (time : isHourMinute text = true) :
    ∃ ds mark, IsMarked text ds mark := by
  unfold isHourMinute at time
  split at time
  · rename_i h₁ h₂ m₁ m₂
    split at time
    · rename_i hour _ read _
      exact ⟨[h₁, h₂], ':', ⟨[m₁, m₂], rfl⟩, le_rfl, isDigit_of_twoDigits? read, .inl rfl⟩
    · cases time
  · cases time

theorem exists_isMarked_of_isDate {text : List Char} (date : isDate text = true) :
    ∃ ds mark, IsMarked text ds mark := by
  unfold isDate at date
  split at date
  · rename_i y₁ y₂ y₃ y₄ m₁ m₂ d₁ d₂
    have year := (Bool.and_eq_true_iff.mp date).1
    exact ⟨[y₁, y₂, y₃, y₄], '-', ⟨[m₁, m₂, '-', d₁, d₂], rfl⟩, Nat.le_add_left 2 2,
      List.all_eq_true.mp year, .inr rfl⟩
  · cases date

theorem exists_isMarked_of_isDateTime {token : List Char} (dateTime : isDateTime token = true) :
    ∃ ds mark, IsMarked token ds mark := by
  rw [isDateTime, Bool.or_eq_true, Bool.or_eq_true] at dateTime
  rcases dateTime with (time | date) | both
  · rw [isTime, Bool.and_eq_true] at time
    obtain ⟨ds, mark, marked⟩ := exists_isMarked_of_isHourMinute time.1
    exact ⟨ds, mark, marked.of_prefix (List.take_prefix 5 token)⟩
  · exact exists_isMarked_of_isDate date
  · rw [Bool.and_eq_true] at both
    obtain ⟨ds, mark, marked⟩ := exists_isMarked_of_isDate both.1
    exact ⟨ds, mark, marked.of_prefix (List.take_prefix 10 token)⟩

theorem IsMarked.isMark {token ds : List Char} {mark : Char} (marked : IsMarked token ds mark) :
    IsMark mark := by
  rcases marked.mark_eq with rfl | rfl
  · exact ⟨rfl, by decide, rfl⟩
  · exact ⟨rfl, by decide, rfl⟩

/-- The token from its first two digits on. -/
theorem IsMarked.exists_eq {token ds : List Char} {mark : Char} (marked : IsMarked token ds mark) :
    ∃ a b later rest, ds = a :: b :: later ∧ token = a :: b :: (later ++ mark :: rest) := by
  obtain ⟨rest, equal⟩ := marked.begins
  obtain ⟨a, b, later, rfl⟩ : ∃ a b later, ds = a :: b :: later := by
    match ds, marked.several with
    | a :: b :: later, _ => exact ⟨a, b, later, rfl⟩
  exact ⟨a, b, later, rest, rfl, by simp [← equal]⟩

theorem IsMarked.splitSign {token ds : List Char} {mark : Char} (marked : IsMarked token ds mark) :
    splitSign token = (false, token) := by
  obtain ⟨a, b, later, rest, digits, rfl⟩ := marked.exists_eq
  apply splitSign_of_isDigit
  intro c member
  cases member
  apply marked.digits
  rw [digits]
  exact List.mem_cons_self

theorem IsMarked.wholeNumber? {token ds : List Char} {mark : Char} (marked : IsMarked token ds mark) :
    wholeNumber? token = none := by
  obtain ⟨a, b, later, rest, digits, rfl⟩ := marked.exists_eq
  have second : b.isDigit = true := by
    apply marked.digits
    rw [digits]
    exact List.mem_cons_of_mem _ List.mem_cons_self
  have noBase {letter : Char} (other : letter.isDigit = false) (run : List Char) :
      a :: b :: (later ++ mark :: rest) ≠ '0' :: letter :: run := by
    intro equal
    exact ne_of_isDigit second other (List.cons.inj (List.cons.inj equal).2).1
  have noRun : decimalRun? (a :: b :: (later ++ mark :: rest)) = none := by
    cases run : decimalRun? (a :: b :: (later ++ mark :: rest)) with
    | none => rfl
    | some ds =>
        have member : mark ∈ a :: b :: (later ++ mark :: rest) := by simp
        have outside := marked.isMark.notRunChar
        rcases mem_of_digitRun? (digitRun?_of_decimalRun? run) member with digit | rfl
        · rw [isRunChar_of_isDigit digit] at outside
          cases outside
        · cases outside
  rw [Toml.wholeNumber?, marked.splitSign]
  · simp only [noRun, Option.map_none]
  · exact noBase rfl
  · exact noBase rfl
  · exact noBase rfl

theorem IsMarked.float? {token ds : List Char} {mark : Char} (marked : IsMarked token ds mark) :
    float? token = none := by
  obtain ⟨a, b, later, rest, digits, rfl⟩ := marked.exists_eq
  have run (c : Char) (member : c ∈ a :: b :: later) : isRunChar c = true := by
    rw [← digits] at member
    exact isRunChar_of_isDigit (marked.digits c member)
  exact float?_eq_none (congrArg Prod.snd marked.splitSign) (run a List.mem_cons_self)
    (decimal?_of_isMark run marked.isMark)

theorem isDateTime_of_integer? {token : List Char} {n : ℤ} (read : integer? token = some n) :
    isDateTime token = false := by
  by_contra dateTime
  obtain ⟨ds, mark, marked⟩ := exists_isMarked_of_isDateTime (Bool.not_eq_false _ ▸ dateTime)
  have whole := wholeNumber?_of_integer? read
  rw [marked.wholeNumber?] at whole
  cases whole

theorem isDateTime_of_float? {token : List Char} {x : Float} (read : float? token = some x) :
    isDateTime token = false := by
  by_contra dateTime
  obtain ⟨ds, mark, marked⟩ := exists_isMarked_of_isDateTime (Bool.not_eq_false _ ▸ dateTime)
  rw [marked.float?] at read
  cases read

theorem isDate_of_not_isDateTime {token : List Char} (other : isDateTime token = false) :
    isDate token = false := by
  rw [isDateTime, Bool.or_eq_false_iff, Bool.or_eq_false_iff] at other
  exact other.1.2

/-! ## Values -/

/-- A token that stands for a value, and that a time cannot follow. -/
structure IsValueToken (token : List Char) (value : Value) : Prop where
  isToken : IsToken token
  nonempty : token ≠ []
  read : tokenValue? token = some value
  noDate : isDate token = false

theorem isValueToken_integer {token : List Char} {n : ℤ} (read : integer? token = some n) :
    IsValueToken token (.integer n) where
  isToken := isToken_of_wholeNumber? (wholeNumber?_of_integer? read)
  nonempty := by
    rintro rfl
    cases read
  read := by
    have noWord {word : List Char} (none : integer? word = none) : token ≠ word := by
      rintro rfl
      rw [read] at none
      cases none
    rw [tokenValue?, if_neg (noWord rfl), if_neg (noWord rfl), isDateTime_of_integer? read, read]
    rfl
  noDate := isDate_of_not_isDateTime (isDateTime_of_integer? read)

theorem isValueToken_float {token : List Char} {x : Float} (read : float? token = some x) :
    IsValueToken token (.float x) where
  isToken := isToken_of_float? read
  nonempty := by
    rintro rfl
    cases read
  read := by
    have noWord {word : List Char} (none : float? word = none) : token ≠ word := by
      rintro rfl
      rw [read] at none
      cases none
    have noInteger : integer? token = none := by
      cases whole : integer? token with
      | none => rfl
      | some n =>
          rw [float?_of_integer? whole] at read
          cases read
    rw [tokenValue?, if_neg (noWord rfl), if_neg (noWord rfl), isDateTime_of_float? read, noInteger,
      read]
    rfl
  noDate := isDate_of_not_isDateTime (isDateTime_of_float? read)

theorem isValueToken_boolean (truth : Bool) :
    IsValueToken (if truth then "true" else "false").toList (.boolean truth) := by
  cases truth with
  | false => exact ⟨List.all_eq_true.mp rfl, by decide, rfl, rfl⟩
  | true => exact ⟨List.all_eq_true.mp rfl, by decide, rfl, rfl⟩

/-- A token is read up to the character that does not belong to it. -/
theorem IsValueToken.readToken_append {token rest : List Char} {value : Value}
    (valueToken : IsValueToken token value) (stops : ∀ c ∈ rest.head?, isTokenChar c = false) :
    readToken (token ++ rest) = some (value, rest) := by
  rw [readToken, takeWhile_append_of_stops valueToken.isToken stops,
    dropWhile_append_of_stops valueToken.isToken stops, valueToken.read]
  simp only [valueToken.noDate, Bool.false_and, Bool.false_eq_true, if_false]
  split
  · -- a blank after the token begins no time, because the token is no date
    rename_i joined
    split at joined
    · cases joined
    · cases joined
  · rfl

/-- Strings, arrays and tables begin with other characters. -/
theorem IsValueToken.readValue_append {token rest : List Char} {value : Value}
    (valueToken : IsValueToken token value) (stops : ∀ c ∈ rest.head?, isTokenChar c = false)
    (depth : ℕ) : readValue depth (token ++ rest) = some (value, rest) := by
  have tokenRead := valueToken.readToken_append stops
  obtain ⟨c, later, rfl⟩ := List.exists_cons_of_ne_nil valueToken.nonempty
  have first := valueToken.isToken c List.mem_cons_self
  have other (d : Char) (noToken : isTokenChar d = false) : c ≠ d := by
    rintro rfl
    rw [first] at noToken
    cases noToken
  rw [List.cons_append] at tokenRead ⊢
  rw [readValue, tokenRead]
  · exact fun _ equal => other '[' rfl (List.cons.inj equal).1
  · exact fun _ equal => other '{' rfl (List.cons.inj equal).1
  · exact fun _ equal => other '"' rfl (List.cons.inj equal).1
  · exact fun _ equal => other '\'' rfl (List.cons.inj equal).1

end Toml
end MotionControl
