/-!
# Amounts in minor units

An amount is a signed 64-bit count of minor units. Sums and differences are exact or
missing; only negation wraps, at the smallest amount.
-/

namespace CashLedger

abbrev Amount := Int64

namespace Amount

def lowest : Int := -9223372036854775808

def highest : Int := 9223372036854775807

/-- The amount of an integer that fits into 64 bits. -/
def ofInt? (n : Int) : Option Amount :=
  if lowest ≤ n ∧ n ≤ highest then some (Int64.ofInt n) else none

def add? (a b : Amount) : Option Amount := ofInt? (a.toInt + b.toInt)

def sub? (a b : Amount) : Option Amount := ofInt? (a.toInt - b.toInt)

/-- The difference, or the end of the range that it lies beyond. -/
def subClamped (a b : Amount) : Amount :=
  Int64.ofInt (max lowest (min highest (a.toInt - b.toInt)))

def toText (a : Amount) : String :=
  String.ofList ((if a.toInt < 0 then ['-'] else []) ++ Nat.toDigits 10 a.toInt.natAbs)

/-- Digits with a point before the last `places` of them and at least one before the
point. -/
def pointed (places : Nat) (digits : List Char) : List Char :=
  if places = 0 then digits
  else
    let padded := List.replicate (places + 1 - digits.length) '0' ++ digits
    padded.take (padded.length - places) ++ '.' :: padded.drop (padded.length - places)

/-- The amount in major units of which `places` decimal places are minor units. -/
def toMajor (a : Amount) (places : Nat) : String :=
  String.ofList ((if a.toInt < 0 then ['-'] else []) ++
    pointed places (Nat.toDigits 10 a.toInt.natAbs))

theorem toInt_ofInt {n : Int} (low : lowest ≤ n) (high : n ≤ highest) :
    (Int64.ofInt n).toInt = n :=
  Int64.toInt_ofInt_of_le low (Int.lt_add_one_of_le high)

theorem ofInt?_eq_some_iff {n : Int} {a : Amount} : ofInt? n = some a ↔ a.toInt = n := by
  unfold ofInt?
  constructor
  · intro h
    split at h
    · next range =>
      cases h
      exact toInt_ofInt range.1 range.2
    · cases h
  · rintro rfl
    have low := Int64.le_toInt a
    have high := Int64.toInt_lt a
    rw [if_pos ⟨low, Int.le_of_lt_add_one high⟩, Int64.ofInt_toInt]

end Amount

end CashLedger
