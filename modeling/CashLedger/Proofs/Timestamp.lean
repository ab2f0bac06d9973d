import CashLedger.Proofs.Calendar
import CashLedger.Proofs.Text.UpperCase
import CashLedger.Timestamp.Text

/-!
# Moments read back

A moment of a year with four digits is read back from its text, to the nanosecond and also within
a leap second.  Each part of the text is read off the front, so that each lemma says what a reader
makes of what its writer left, whatever follows.
-/

namespace CashLedger.Timestamp

section Digits

variable {width n : Nat} {c mark : Char} {rest : List Char}

/-- The character of the last decimal digit. -/
theorem toNat_lastDigit (n : Nat) : (Char.ofNat (0x30 + n % 10)).toNat = 0x30 + n % 10 := by
  have hvalid : (0x30 + n % 10).isValidChar := by
    unfold Nat.isValidChar
    omega
  rw [Char.toNat_ofNat, if_pos hvalid]

theorem isDigit_iff : isDigit c = true ↔ 0x30 ≤ c.toNat ∧ c.toNat ≤ 0x39 := by
  rw [isDigit, Bool.and_eq_true, decide_eq_true_eq, decide_eq_true_eq]
  exact Iff.rfl

theorem isDigit_lastDigit (n : Nat) : isDigit (Char.ofNat (0x30 + n % 10)) = true := by
  rw [isDigit_iff, toNat_lastDigit]
  omega

theorem isBlank_of_isDigit (hdigit : isDigit c = true) : Text.isBlank c = false := by
  rw [isDigit_iff] at hdigit
  simp only [Text.isBlank, Text.blankRanges, List.any_cons, List.any_nil, Bool.or_false,
    Bool.or_eq_false_iff, Bool.and_eq_false_iff, decide_eq_false_iff_not]
  omega

theorem length_decimalDigits (width n : Nat) : (decimalDigits width n).length = width := by
  induction width generalizing n with
  | zero => rfl
  | succ width ih => simp [decimalDigits, ih]

theorem isDigit_of_mem_decimalDigits (hc : c ∈ decimalDigits width n) : isDigit c = true := by
  induction width generalizing n with
  | zero => simp [decimalDigits] at hc
  | succ width ih =>
    rw [decimalDigits, List.mem_append, List.mem_singleton] at hc
    rcases hc with hc | rfl
    · exact ih hc
    · exact isDigit_lastDigit n

theorem exists_decimalDigits_cons (hwidth : 0 < width) (n : Nat) :
    ∃ c digits, decimalDigits width n = c :: digits ∧ isDigit c = true := by
  have hne : decimalDigits width n ≠ [] := by
    apply List.ne_nil_of_length_pos
    rw [length_decimalDigits]
    exact hwidth
  obtain ⟨c, digits, hdigits⟩ := List.exists_cons_of_ne_nil hne
  refine ⟨c, digits, hdigits, ?_⟩
  apply @isDigit_of_mem_decimalDigits width n
  rw [hdigits]
  exact List.mem_cons_self

theorem decimalDigits_ne_nil (hwidth : 0 < width) (n : Nat) : decimalDigits width n ≠ [] := by
  obtain ⟨c, digits, hdigits, -⟩ := exists_decimalDigits_cons hwidth n
  rw [hdigits]
  exact List.cons_ne_nil c digits

theorem digitsValue_append_singleton (digits : List Char) (c : Char) :
    digitsValue (digits ++ [c]) = 10 * digitsValue digits + (c.toNat - 0x30) := by
  rw [digitsValue, List.foldl_append]
  rfl

theorem digitsValue_decimalDigits (width n : Nat) :
    digitsValue (decimalDigits width n) = n % 10 ^ width := by
  induction width generalizing n with
  | zero => rw [pow_zero, Nat.mod_one]; rfl
  | succ width ih =>
    rw [decimalDigits, digitsValue_append_singleton, ih, toNat_lastDigit, Nat.add_sub_cancel_left,
      pow_succ', Nat.mod_mul]
    omega

theorem digitsValue_append_zeros (digits : List Char) (count : Nat) :
    digitsValue (digits ++ List.replicate count '0') = digitsValue digits * 10 ^ count := by
  induction count with
  | zero => simp
  | succ count ih =>
    rw [List.replicate_succ', ← List.append_assoc, digitsValue_append_singleton, ih, pow_succ]
    simp only [Char.reduceToNat]
    ring

theorem skipBlanks_cons (hc : Text.isBlank c = false) : skipBlanks (c :: rest) = c :: rest := by
  rw [skipBlanks, List.dropWhile_cons_of_neg (by rw [hc]; exact Bool.false_ne_true)]

theorem skipBlanks_decimalDigits (hwidth : 0 < width) :
    skipBlanks (decimalDigits width n ++ rest) = decimalDigits width n ++ rest := by
  obtain ⟨c, digits, hdigits, hc⟩ := exists_decimalDigits_cons hwidth n
  rw [hdigits, List.cons_append, skipBlanks_cons (isBlank_of_isDigit hc)]

/-- A number is read back from as many digits as may be read. -/
theorem readNumber?_decimalDigits (hwidth : 0 < width) (hn : n < 10 ^ width) :
    readNumber? width (decimalDigits width n ++ rest) = some (n, rest) := by
  have htake : (decimalDigits width n ++ rest).take width = decimalDigits width n :=
    List.take_left' (length_decimalDigits width n)
  have hdigits : (decimalDigits width n).takeWhile isDigit = decimalDigits width n :=
    List.takeWhile_eq_self_iff.mpr fun c => isDigit_of_mem_decimalDigits
  have hdrop : (decimalDigits width n ++ rest).drop (decimalDigits width n).length = rest :=
    List.drop_left
  simp only [readNumber?, htake, hdigits, decimalDigits_ne_nil hwidth n, if_false, hdrop,
    digitsValue_decimalDigits, Nat.mod_eq_of_lt hn]

theorem readPart?_decimalDigits (hn : n < 100) :
    readPart? (decimalDigits 2 n ++ rest) = some (n, rest) := by
  rw [readPart?, skipBlanks_decimalDigits (by decide), readNumber?_decimalDigits (by decide) hn]

theorem readMark?_cons (hmark : Text.isBlank mark = false) :
    readMark? mark (mark :: rest) = some rest := by
  rw [readMark?, skipBlanks_cons hmark]
  exact if_pos rfl

/-- What begins with digits does not begin with a mark. -/
theorem decimalDigits_append_ne_cons (hwidth : 0 < width) (hmark : isDigit mark = false)
    (others : List Char) : decimalDigits width n ++ rest ≠ mark :: others := by
  intro hcons
  obtain ⟨c, digits, hdigits, hc⟩ := exists_decimalDigits_cons hwidth n
  rw [hdigits, List.cons_append] at hcons
  rw [(List.cons.inj hcons).1, hmark] at hc
  exact Bool.false_ne_true hc

/-- A year without a sign is read from its four digits. -/
theorem readYear?_yearText {year : Int} (hlow : 0 ≤ year) (hhigh : year ≤ 9999) :
    readYear? (yearText year ++ rest) = some (year, rest) := by
  have hyear : ((year.toNat : Nat) : Int) = year := Int.toNat_of_nonneg hlow
  rw [yearText, if_pos ⟨hlow, hhigh⟩, readYear?, skipBlanks_decimalDigits (by decide)]
  split
  · next others hminus =>
    exact absurd hminus (decimalDigits_append_ne_cons (by decide) (by decide) others)
  · next others hplus =>
    exact absurd hplus (decimalDigits_append_ne_cons (by decide) (by decide) others)
  · rw [readNumber?_decimalDigits (by decide) (by omega), Option.map_some]
    simp only [hyear]

/-- A day of the calendar is read back, if its year needs no sign. -/
theorem readDate?_text {date : Date} (hlow : 0 ≤ date.year) (hhigh : date.year ≤ 9999)
    (hvalid : date.isValid = true) (hcovers : Date.covers date.toDays = true) :
    readDate? (yearText date.year ++ '-' :: (decimalDigits 2 date.month ++ '-' ::
      (decimalDigits 2 date.day ++ rest))) = some (date, rest) := by
  have hmonth : date.month < 100 := (Date.month_le_of_isValid hvalid).trans_lt (by decide)
  have hday : date.day < 100 := (Date.day_le_of_isValid hvalid).trans_lt (by decide)
  simp only [readDate?, readYear?_yearText hlow hhigh, Option.bind_eq_bind, Option.bind_some,
    readMark?_cons (show Text.isBlank '-' = false by decide), readPart?_decimalDigits hmonth,
    readPart?_decimalDigits hday, hvalid, hcovers, Bool.and_self, if_true]

/-- Digits that are missing at the end of a fraction are zeros. -/
theorem fractionNanos_decimalDigits (hwidth : width ≤ 9) (hn : n < 10 ^ width) :
    fractionNanos (decimalDigits width n) = n * 10 ^ (9 - width) := by
  have hdigits : (decimalDigits width n ++ List.replicate 9 '0').take 9 =
      decimalDigits width n ++ List.replicate (9 - width) '0' := by
    rw [List.take_append, length_decimalDigits, List.take_replicate, min_eq_left (by omega),
      List.take_of_length_le (by rw [length_decimalDigits]; exact hwidth)]
  rw [fractionNanos, hdigits, digitsValue_append_zeros, digitsValue_decimalDigits,
    Nat.mod_eq_of_lt hn]

theorem readFraction?_digits (hwidth : 0 < width) (hwidth9 : width ≤ 9) (hn : n < 10 ^ width) :
    readFraction? ('.' :: decimalDigits width n ++ 'Z' :: rest) =
      some (n * 10 ^ (9 - width), 'Z' :: rest) := by
  have htake : (decimalDigits width n ++ 'Z' :: rest).takeWhile isDigit =
      decimalDigits width n := by
    rw [List.takeWhile_append_of_pos fun c => isDigit_of_mem_decimalDigits,
      List.takeWhile_cons_of_neg (by decide), List.append_nil]
  have hdrop : (decimalDigits width n ++ 'Z' :: rest).dropWhile isDigit = 'Z' :: rest := by
    rw [List.dropWhile_append_of_pos fun c => isDigit_of_mem_decimalDigits,
      List.dropWhile_cons_of_neg (by decide)]
  simp only [List.cons_append, readFraction?, htake, hdrop, decimalDigits_ne_nil hwidth n, if_false,
    fractionNanos_decimalDigits hwidth9 hn]

/-- A fraction of a second is read back from the fewest digits that were exact. -/
theorem readFraction?_fractionText {nanos : Nat} (hnanos : nanos < 1000000000) :
    readFraction? (fractionText nanos ++ 'Z' :: rest) = some (nanos, 'Z' :: rest) := by
  unfold fractionText
  split
  · next hzero =>
    rw [hzero]
    rfl
  · split
    · next hmillis =>
      rw [readFraction?_digits (by decide) (by decide) (by omega)]
      congr 2
      omega
    · split
      · next hmicros =>
        rw [readFraction?_digits (by decide) (by decide) (by omega)]
        congr 2
        omega
      · rw [readFraction?_digits (by decide) (by decide) hnanos, Nat.sub_self, pow_zero, mul_one]

/-- A time of day is read back up to the letter of its zone. -/
theorem readClock?_text {hour minute second nanos : Nat} (hhour : hour < 24) (hminute : minute < 60)
    (hsecond : second < 100) (hnanos : nanos < 1000000000) :
    readClock? (decimalDigits 2 hour ++ ':' :: (decimalDigits 2 minute ++ ':' ::
      (decimalDigits 2 second ++ (fractionText nanos ++ 'Z' :: rest)))) =
        some (hour * 60 + minute, second, nanos, 'Z' :: rest) := by
  simp only [readClock?, Option.bind_eq_bind, Option.bind_some,
    readMark?_cons (show Text.isBlank ':' = false by decide),
    readPart?_decimalDigits (show hour < 100 by omega),
    readPart?_decimalDigits (show minute < 100 by omega), readPart?_decimalDigits hsecond,
    readFraction?_fractionText hnanos, hhour, hminute, and_self, if_true]

end Digits

/-- The year that a moment lies in. -/
def year (moment : Timestamp) : Int := (Date.ofDays (moment.seconds / 86400)).year

/-- Years of up to four digits are written without a sign. -/
def HasShortYear (moment : Timestamp) : Prop := 0 ≤ moment.year ∧ moment.year ≤ 9999

instance (moment : Timestamp) : Decidable moment.HasShortYear :=
  inferInstanceAs (Decidable (0 ≤ moment.year ∧ moment.year ≤ 9999))

/-- The second of the minute and its fraction say which moment of the minute it is, also in a leap
second. -/
theorem inMinute?_second (moment : Timestamp) :
    inMinute? (moment.seconds / 60)
      ((moment.seconds % 86400).toNat % 60 + moment.nanos / 1000000000)
      (moment.nanos % 1000000000) = some moment := by
  obtain ⟨seconds, nanos, hnanos, hleap⟩ := moment
  dsimp only
  rw [inMinute?, dif_pos (Nat.mod_lt nanos (by decide))]
  by_cases hsecond : nanos < 1000000000
  · rw [if_pos (by omega), Option.some.injEq, Timestamp.mk.injEq]
    omega
  · have hlast := hleap (Nat.le_of_not_lt hsecond)
    rw [if_neg (by omega), if_pos (by omega), Option.some.injEq, Timestamp.mk.injEq]
    omega

/-- A moment of a year with four digits is read back from its text. -/
theorem parse?_toText {moment : Timestamp} (hyear : moment.HasShortYear) :
    parse? moment.toText = some moment := by
  obtain ⟨hlow, hhigh⟩ := hyear
  have hcovers := Date.covers_of_year_mem hlow hhigh
  have hdate : ∀ rest, readDate? (yearText (Date.ofDays (moment.seconds / 86400)).year ++ '-' ::
      (decimalDigits 2 (Date.ofDays (moment.seconds / 86400)).month ++ '-' ::
        (decimalDigits 2 (Date.ofDays (moment.seconds / 86400)).day ++ rest))) =
          some (Date.ofDays (moment.seconds / 86400), rest) := by
    intro rest
    apply readDate?_text hlow hhigh (Date.isValid_ofDays _)
    rw [Date.toDays_ofDays]
    exact hcovers
  have hhour : (moment.seconds % 86400).toNat / 3600 < 24 := by omega
  have hminute : (moment.seconds % 86400).toNat / 60 % 60 < 60 := Nat.mod_lt _ (by decide)
  have hsecond : (moment.seconds % 86400).toNat % 60 + moment.nanos / 1000000000 < 100 := by
    have hnanos := moment.nanos_lt
    omega
  have hnanos : moment.nanos % 1000000000 < 1000000000 := Nat.mod_lt _ (by decide)
  have hinDay : moment.seconds / 86400 * 1440 + (((moment.seconds % 86400).toNat / 3600 * 60 +
      (moment.seconds % 86400).toNat / 60 % 60 : Nat) : Int) - 0 = moment.seconds / 60 := by
    omega
  have hzone : readZone? (skipBlanks ['Z']) = some (0, []) := by decide
  rw [parse?, toText, String.toList_ofList, parseChars?, toChars]
  simp only [hdate, Option.bind_eq_bind, Option.bind_some, readDivider?,
    readClock?_text hhour hminute hsecond hnanos, hzone, Date.toDays_ofDays, hinDay,
    inMinute?_second, hcovers]
  rfl

example : parse? "2016-12-31T23:59:60.500Z" =
    some ⟨1483228799, 1500000000, by decide, by decide⟩ := by
  decide

end CashLedger.Timestamp
