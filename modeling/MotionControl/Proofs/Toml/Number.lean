import Mathlib.Tactic.Common
import MotionControl.Proofs.Decimal.Value
import MotionControl.Toml.Reader
import MotionControl.Toml.Writer

/-!
# Numbers are read as they were written

A whole number and a finite double are read back from what is written for them.  A double
is written as digits on either side of a point, in one of three layouts, and each layout
shows the number of the shortest decimal; the reader then rounds that number to the
double that it came from.

The other half concerns any number of a document: it is a token of its own, it is no date,
and no token is both an integer and a float.
-/

namespace MotionControl
namespace Toml

open Decimal (digits)

/-! ## Runs of characters -/

theorem rest_stops_nil (p : Char → Bool) : ∀ c ∈ ([] : List Char).head?, p c = false :=
  nofun

section Runs

variable {p : Char → Bool} {text rest : List Char}

theorem takeWhile_append_of_stops (all : ∀ c ∈ text, p c = true)
    (stops : ∀ c ∈ rest.head?, p c = false) : (text ++ rest).takeWhile p = text := by
  rw [List.takeWhile_append_of_pos all]
  cases rest with
  | nil => exact List.append_nil text
  | cons c later =>
      have stop := stops c rfl
      rw [List.takeWhile_cons_of_neg (by rw [stop]; exact Bool.false_ne_true), List.append_nil]

theorem dropWhile_append_of_stops (all : ∀ c ∈ text, p c = true)
    (stops : ∀ c ∈ rest.head?, p c = false) : (text ++ rest).dropWhile p = rest := by
  rw [List.dropWhile_append_of_pos all]
  cases rest with
  | nil => rfl
  | cons c later =>
      have stop := stops c rfl
      rw [List.dropWhile_cons_of_neg (by rw [stop]; exact Bool.false_ne_true)]

theorem takeWhile_eq_self (all : ∀ c ∈ text, p c = true) : text.takeWhile p = text := by
  have whole := takeWhile_append_of_stops all (rest_stops_nil p)
  rwa [List.append_nil] at whole

theorem dropWhile_eq_nil (all : ∀ c ∈ text, p c = true) : text.dropWhile p = [] := by
  have whole := dropWhile_append_of_stops all (rest_stops_nil p)
  rwa [List.append_nil] at whole

end Runs

/-! ## Runs of digits -/

theorem ofDigits_append (base : ℕ) (first last : List Char) :
    ofDigits base (first ++ last) = ofDigits base first * base ^ last.length + ofDigits base last := by
  have shifted (n : ℕ) : last.foldl (fun n c => n * base + digitValue c) n =
      n * base ^ last.length + ofDigits base last := by
    induction last generalizing n with
    | nil => simp [ofDigits]
    | cons c rest inductionHypothesis =>
        rw [ofDigits, List.foldl_cons, List.foldl_cons, inductionHypothesis,
          inductionHypothesis (0 * base + digitValue c), List.length_cons, pow_succ]
        ring
  rw [ofDigits, List.foldl_append, shifted]
  rfl

theorem ofDigits_zero (base : ℕ) : ofDigits base ['0'] = 0 := by
  simp [ofDigits, digitValue]

theorem ofDigits_zeros (base count : ℕ) : ofDigits base (List.replicate count '0') = 0 := by
  induction count with
  | zero => rfl
  | succ count inductionHypothesis =>
      rw [List.replicate_succ', ofDigits_append, inductionHypothesis, ofDigits_zero,
        Nat.zero_mul]

theorem isDigit_of_mem_digits {n : ℕ} {c : Char} (member : c ∈ digits n) : c.isDigit = true :=
  Nat.isDigit_of_mem_toDigits (by norm_num) (by norm_num) member

theorem digitValue_of_isDigit {c : Char} (digit : c.isDigit = true) :
    digitValue c = c.toNat - '0'.toNat :=
  if_pos digit

/-- On digits the reader computes what the library computes. -/
theorem ofDigits_eq {ds : List Char} (digits : ∀ c ∈ ds, c.isDigit = true) :
    ofDigits 10 ds = Nat.ofDigitChars 10 ds 0 := by
  apply List.foldl_ext
  intro n c member
  rw [digitValue_of_isDigit (digits c member), Nat.mul_comm]

/-- The digits of a number stand for it. -/
theorem ofDigits_digits (n : ℕ) : ofDigits 10 (digits n) = n := by
  rw [ofDigits_eq fun c => isDigit_of_mem_digits]
  exact Nat.ofDigitChars_toDigits (by norm_num) (by norm_num)

theorem digitValue_lt {c : Char} (digit : c.isDigit = true) : digitValue c < 10 := by
  have bounds : c.toNat ≤ 57 := (Char.isDigit_iff_toNat.mp digit).2
  have zero : '0'.toNat = 48 := rfl
  rw [digitValue_of_isDigit digit, zero]
  omega

theorem ofDigits_lt {ds : List Char} (digits : ∀ c ∈ ds, c.isDigit = true) :
    ofDigits 10 ds < 10 ^ ds.length := by
  induction ds with
  | nil => exact Nat.one_pos
  | cons c rest inductionHypothesis =>
      have first := digitValue_lt (digits c List.mem_cons_self)
      have later := inductionHypothesis fun d member => digits d (List.mem_cons_of_mem _ member)
      have single : ofDigits 10 [c] = digitValue c := by simp [ofDigits]
      rw [← List.singleton_append, ofDigits_append, single]
      calc digitValue c * 10 ^ rest.length + ofDigits 10 rest
          < digitValue c * 10 ^ rest.length + 10 ^ rest.length := Nat.add_lt_add_left later _
        _ = (digitValue c + 1) * 10 ^ rest.length := (Nat.succ_mul _ _).symm
        _ ≤ 10 * 10 ^ rest.length := Nat.mul_le_mul_right _ first
        _ = 10 ^ (c :: rest).length := (pow_succ' 10 rest.length).symm

/-- Digits without underscores, and without a zero in front of others. -/
structure IsWhole (run : List Char) : Prop where
  nonempty : run ≠ []
  digits : ∀ c ∈ run, c.isDigit = true
  leading : ∀ c rest, run ≠ '0' :: c :: rest

theorem ne_of_isDigit {c d : Char} (digit : c.isDigit = true) (other : d.isDigit = false) :
    c ≠ d := by
  rintro rfl
  rw [digit] at other
  cases other

/-- Digits are a run of digits. -/
theorem digitRun?_of_digits {run : List Char} (nonempty : run ≠ [])
    (digits : ∀ c ∈ run, c.isDigit = true) : digitRun? Char.isDigit run = some run := by
  induction run with
  | nil => exact absurd rfl nonempty
  | cons c rest inductionHypothesis =>
      have first := digits c List.mem_cons_self
      cases rest with
      | nil => rw [digitRun?, if_pos first]
      | cons d later =>
          have others (c : Char) (member : c ∈ d :: later) := digits c (List.mem_cons_of_mem _ member)
          have notUnderscore : d ≠ '_' := ne_of_isDigit (others d List.mem_cons_self) rfl
          rw [digitRun?, if_pos first, inductionHypothesis (List.cons_ne_nil _ _) others,
            Option.map_some]
          · exact (List.cons_ne_nil _ _)
          · rintro run equal
            exact notUnderscore (List.cons.inj equal).1

theorem IsWhole.decimalRun? {run : List Char} (whole : IsWhole run) :
    decimalRun? run = some run := by
  rw [Toml.decimalRun?, digitRun?_of_digits whole.nonempty whole.digits]
  split
  · rename_i c rest equal
    exact absurd (Option.some.inj equal) (whole.leading c rest)
  · rfl

/-- The digits of a number have no needless zero, because fewer digits would do. -/
theorem digits_isWhole (n : ℕ) : IsWhole (digits n) where
  nonempty := Nat.toDigits_ne_nil
  digits _ := isDigit_of_mem_digits
  leading c rest equal := by
    have others : ∀ d ∈ c :: rest, d.isDigit = true := by
      intro d member
      apply isDigit_of_mem_digits (n := n)
      rw [equal]
      exact List.mem_cons_of_mem _ member
    have small : n < 10 ^ (c :: rest).length := by
      have counted := ofDigits_digits n
      rw [equal, ← List.singleton_append, ofDigits_append, ofDigits_zero, Nat.zero_mul,
        Nat.zero_add] at counted
      rw [← counted]
      exact ofDigits_lt others
    have shorter : (digits n).length ≤ (c :: rest).length :=
      (Nat.length_toDigits_le_iff (by norm_num) (Nat.succ_pos _)).mpr small
    rw [equal] at shorter
    exact absurd shorter (Nat.not_succ_le_self _)

/-! ## Whole numbers -/

theorem splitSign_of_isDigit {text : List Char} (digits : ∀ c ∈ text.head?, c.isDigit = true) :
    splitSign text = (false, text) := by
  cases text with
  | nil => rfl
  | cons c rest =>
      have first := digits c rfl
      rw [splitSign]
      · rintro later equal
        exact ne_of_isDigit first rfl (List.cons.inj equal).1
      · rintro later equal
        exact ne_of_isDigit first rfl (List.cons.inj equal).1

theorem IsWhole.head_isDigit {run : List Char} (whole : IsWhole run) :
    ∀ c ∈ run.head?, c.isDigit = true :=
  fun c member => whole.digits c (List.mem_of_mem_head? member)

/-- No base is marked in digits alone. -/
theorem IsWhole.wholeNumber? {run : List Char} (whole : IsWhole run) :
    wholeNumber? run = some (ofDigits 10 run) := by
  have unmarked (mark : Char) (letter : mark.isDigit = false) (rest : List Char) :
      run = '0' :: mark :: rest → False := by
    intro equal
    exact whole.leading mark rest equal
  rw [Toml.wholeNumber?, splitSign_of_isDigit whole.head_isDigit]
  · simp only [whole.decimalRun?, Option.map_some, Bool.false_eq_true, if_false]
    rfl
  · exact unmarked 'x' rfl
  · exact unmarked 'o' rfl
  · exact unmarked 'b' rfl

theorem integer?_writeNat {n : ℕ} (bounded : n < 2 ^ 63) : integer? (writeNat n) = some n := by
  have below : (n : ℤ) < integerBound := Int.ofNat_lt.mpr bounded
  have above : -integerBound ≤ n :=
    (neg_nonpos.mpr (Int.natCast_nonneg _)).trans (Int.natCast_nonneg n)
  rw [integer?, writeNat, (digits_isWhole n).wholeNumber?, ofDigits_digits]
  refine Option.filter_eq_some_iff.mpr ⟨rfl, ?_⟩
  rw [decide_eq_true above, decide_eq_true below, Bool.and_self]

/-! ## Doubles -/

/-- A decimal is shown by digits on either side of a point. -/
structure IsShownBy (d : Decimal) (whole places : List Char) : Prop where
  whole_isWhole : IsWhole whole
  places_ne_nil : places ≠ []
  places_digits : ∀ c ∈ places, c.isDigit = true
  value_eq : (⟨ofDigits 10 (whole ++ places), -places.length⟩ : Decimal).value = d.value

theorem isRunChar_of_isDigit {c : Char} (digit : c.isDigit = true) : isRunChar c = true := by
  rw [isRunChar, digit, Bool.true_or]

/-- What stands before and after the point is taken apart again. -/
theorem IsShownBy.decimal? {d : Decimal} {whole places : List Char}
    (shown : IsShownBy d whole places) :
    decimal? (whole ++ '.' :: places) =
      some ⟨ofDigits 10 (whole ++ places), -places.length⟩ := by
  have run (c : Char) (member : c ∈ whole) :=
    isRunChar_of_isDigit (shown.whole_isWhole.digits c member)
  have run' (c : Char) (member : c ∈ places) := isRunChar_of_isDigit (shown.places_digits c member)
  have stops : ∀ c ∈ ('.' :: places).head?, isRunChar c = false := by
    rintro c ⟨⟩
    rfl
  rw [Toml.decimal?, takeWhile_append_of_stops run stops, dropWhile_append_of_stops run stops,
    shown.whole_isWhole.decimalRun?]
  simp only [takeWhile_eq_self run', dropWhile_eq_nil run',
    digitRun?_of_digits shown.places_ne_nil shown.places_digits, exponent?, zero_sub,
    Option.bind_eq_bind, Option.bind_some, pure]

/-- Zeros after the digits of a number multiply it by a power of ten. -/
theorem ofDigits_append_zeros (n count : ℕ) :
    ofDigits 10 (digits n ++ List.replicate count '0') = n * 10 ^ count := by
  rw [ofDigits_append, ofDigits_digits, ofDigits_zeros, List.length_replicate, Nat.add_zero]

theorem isDigit_of_mem_zeros {count : ℕ} {c : Char} (member : c ∈ List.replicate count '0') :
    c.isDigit = true := by
  rw [List.eq_of_mem_replicate member]
  rfl

/-- A number that is not zero does not begin with a zero. -/
theorem digits_head {n : ℕ} (positive : 0 < n) (rest : List Char) : digits n ≠ '0' :: rest := by
  intro equal
  cases rest with
  | nil =>
      have none := ofDigits_digits n
      rw [equal, ofDigits_zero] at none
      exact positive.ne none
  | cons c later => exact (digits_isWhole n).leading c later equal

/-- Digits that begin the digits of a number other than zero. -/
theorem isWhole_of_digits_prefix {n : ℕ} (positive : 0 < n) {whole rest : List Char}
    (split : digits n = whole ++ rest) (nonempty : whole ≠ []) : IsWhole whole where
  nonempty := nonempty
  digits c member := by
    apply isDigit_of_mem_digits (n := n)
    rw [split]
    exact List.mem_append_left _ member
  leading c later equal := by
    apply digits_head positive (c :: later ++ rest)
    rw [split, equal]
    rfl

/-- A whole number ends in a point and a zero. -/
theorem isShownBy_whole {d : Decimal} (normal : d.IsNormal) {n : ℕ} (whole : d.exponent = n) :
    IsShownBy d (digits d.coefficient ++ List.replicate n '0') ['0'] where
  whole_isWhole := by
    rcases Nat.eq_zero_or_pos d.coefficient with zero | positive
    · have none : n = 0 := by
        have exponents := congrArg Decimal.exponent (normal.eq_zero zero)
        rw [whole] at exponents
        exact Int.natCast_eq_zero.mp exponents
      rw [none, List.replicate_zero, List.append_nil]
      exact digits_isWhole _
    · refine ⟨List.append_ne_nil_of_left_ne_nil Nat.toDigits_ne_nil _, ?_, ?_⟩
      · intro c member
        rcases List.mem_append.mp member with digit | zero
        · exact isDigit_of_mem_digits digit
        · exact isDigit_of_mem_zeros zero
      · intro c rest equal
        cases first : digits d.coefficient with
        | nil => exact Nat.toDigits_ne_nil first
        | cons a later =>
            rw [first, List.cons_append, List.cons.injEq] at equal
            exact digits_head positive later (first.trans (congrArg (· :: later) equal.1))
  places_ne_nil := List.cons_ne_nil _ _
  places_digits := List.all_eq_true.mp rfl
  value_eq := by
    rw [Decimal.value, Decimal.value, ofDigits_append, ofDigits_append_zeros, ofDigits_zero, whole]
    simp

/-- The point falls between the digits. -/
theorem isShownBy_split {d : Decimal} {places : ℕ} (fraction : d.exponent = -places)
    (positive : 0 < places) (shorter : places < (digits d.coefficient).length) :
    IsShownBy d ((digits d.coefficient).take ((digits d.coefficient).length - places))
      ((digits d.coefficient).drop ((digits d.coefficient).length - places)) where
  whole_isWhole := by
    have several : d.coefficient ≠ 0 := by
      intro zero
      rw [zero] at shorter
      exact absurd shorter (not_lt.mpr positive)
    apply isWhole_of_digits_prefix (Nat.pos_of_ne_zero several) (List.take_append_drop _ _).symm
    apply List.ne_nil_of_length_pos
    rw [List.length_take]
    omega
  places_ne_nil := by
    apply List.ne_nil_of_length_pos
    rw [List.length_drop]
    omega
  places_digits c member := isDigit_of_mem_digits (List.mem_of_mem_drop member)
  value_eq := by
    rw [List.take_append_drop, ofDigits_digits, List.length_drop, Nat.sub_sub_self shorter.le,
      ← fraction]

/-- Zeros stand between the point and the digits. -/
theorem isShownBy_fraction {d : Decimal} {places : ℕ} (fraction : d.exponent = -places)
    (longer : (digits d.coefficient).length ≤ places) :
    IsShownBy d ['0'] (List.replicate (places - (digits d.coefficient).length) '0' ++
      digits d.coefficient) where
  whole_isWhole := ⟨List.cons_ne_nil _ _, List.all_eq_true.mp rfl, by rintro c rest ⟨⟩⟩
  places_ne_nil := List.append_ne_nil_of_right_ne_nil _ Nat.toDigits_ne_nil
  places_digits c member := by
    rcases List.mem_append.mp member with zero | digit
    · exact isDigit_of_mem_zeros zero
    · exact isDigit_of_mem_digits digit
  value_eq := by
    rw [List.length_append, List.length_replicate, Nat.sub_add_cancel longer, ← fraction,
      ofDigits_append, ofDigits_zero, Nat.zero_mul, Nat.zero_add, ofDigits_append, ofDigits_zeros,
      Nat.zero_mul, Nat.zero_add, ofDigits_digits]

/-- Each layout of a decimal, with the point that a whole number gets, shows it. -/
theorem exists_isShownBy {d : Decimal} (normal : d.IsNormal) :
    ∃ whole places, d.positional ++ (if 0 ≤ d.exponent then ['.', '0'] else []) =
      whole ++ '.' :: places ∧ IsShownBy d whole places := by
  by_cases isWhole : 0 ≤ d.exponent
  · obtain ⟨n, exponent⟩ := Int.eq_ofNat_of_zero_le isWhole
    refine ⟨_, _, ?_, isShownBy_whole normal exponent⟩
    rw [Decimal.positional, if_pos isWhole, if_pos isWhole, exponent, Int.toNat_natCast]
  · obtain ⟨places, positive, exponent⟩ : ∃ places : ℕ, 0 < places ∧ d.exponent = -places :=
      ⟨(-d.exponent).toNat, by omega, by omega⟩
    rw [Decimal.positional, if_neg isWhole, if_neg isWhole, List.append_nil, exponent, neg_neg,
      Int.toNat_natCast]
    by_cases shorter : places < (digits d.coefficient).length
    · exact ⟨_, _, if_pos shorter, isShownBy_split exponent positive shorter⟩
    · exact ⟨_, _, if_neg shorter, isShownBy_fraction exponent (not_lt.mp shorter)⟩

theorem splitSign_minus (negative : Bool) {text : List Char}
    (digits : ∀ c ∈ text.head?, c.isDigit = true) :
    splitSign ((if negative then ['-'] else []) ++ text) = (negative, text) := by
  cases negative with
  | false => exact splitSign_of_isDigit digits
  | true => rfl

/-- What is written for a decimal, with its sign. -/
theorem IsShownBy.float? {d : Decimal} {whole places : List Char}
    (shown : IsShownBy d whole places) {negative : Bool} {x : Float} (read : d.toFloat negative = x)
    (finite : x.isFinite = true) :
    float? ((if negative then ['-'] else []) ++ (whole ++ '.' :: places)) = some x := by
  have first : ∀ c ∈ (whole ++ '.' :: places).head?, c.isDigit = true := by
    intro c member
    rw [List.head?_append_of_ne_nil _ shown.whole_isWhole.nonempty] at member
    exact shown.whole_isWhole.head_isDigit c member
  have noWord (word : String) (letter : ∃ c ∈ word.toList.head?, c.isDigit = false) :
      whole ++ '.' :: places ≠ word.toList := by
    intro equal
    obtain ⟨c, member, other⟩ := letter
    rw [← equal] at member
    exact ne_of_isDigit (first c member) other rfl
  rw [Toml.float?, splitSign_minus negative first]
  simp only [if_neg (noWord "inf" ⟨'i', rfl, rfl⟩), if_neg (noWord "nan" ⟨'n', rfl, rfl⟩),
    shown.decimal?, Decimal.toFloat_congr shown.value_eq, read, finite, Option.bind_eq_bind,
    Option.bind_some, Bool.not_true, Bool.and_false, Bool.false_eq_true, if_false]

/-- A finite double is read from the text that is written for it. -/
theorem float?_writeFloat {x : Float} (finite : x.isFinite = true) :
    float? (writeFloat x) = some x := by
  obtain ⟨negative, mantissa, exponent, stored, normal, read⟩ :=
    Decimal.exists_toFloat_shortest finite
  obtain ⟨whole, places, layout, shown⟩ := exists_isShownBy normal
  have written : writeFloat x = (if negative then ['-'] else []) ++ (whole ++ '.' :: places) := by
    rw [← layout, writeFloat, Decimal.Style.render, stored]
    simp [Decimal.Style.toml]
  rw [written, shown.float? read finite]

end Toml
end MotionControl
