import CashLedger.Id
import Mathlib

/-!
# Identifiers read back

An identifier is read back from its 32 hex digits in hyphenated groups.
-/

namespace CashLedger

namespace Uuid

theorem hexValue?_hexDigit {n : Nat} (hn : n < 16) : hexValue? (hexDigit n) = some n := by
  revert n
  decide

theorem length_hexDigits (count n : Nat) : (hexDigits count n).length = count := by
  induction count generalizing n with
  | zero => rfl
  | succ count ih => simp [hexDigits, ih]

theorem readHex?_append_singleton (digits : List Char) (c : Char) :
    readHex? (digits ++ [c]) =
      (readHex? digits).bind fun n => (hexValue? c).map (16 * n + ·) := by
  simp [readHex?, List.foldlM_append]

theorem readHex?_hexDigits (count n : Nat) :
    readHex? (hexDigits count n) = some (n % 16 ^ count) := by
  induction count generalizing n with
  | zero => rw [pow_zero, Nat.mod_one]; rfl
  | succ count ih =>
    rw [hexDigits, readHex?_append_singleton, ih, Option.bind_some,
      hexValue?_hexDigit (Nat.mod_lt n (by decide)), Option.map_some, pow_succ', Nat.mod_mul,
      Nat.add_comm]

theorem unhyphenate?_groups {a b c d e : List Char} (ha : a.length = 8) (hb : b.length = 4)
    (hc : c.length = 4) (hd : d.length = 4) (he : e.length = 12) :
    unhyphenate? (a ++ '-' :: (b ++ '-' :: (c ++ '-' :: (d ++ '-' :: e)))) =
      some (a ++ (b ++ (c ++ (d ++ e)))) := by
  simp [unhyphenate?, List.drop_append, List.drop_eq_nil_of_le, ha, hb, hc, hd,
    he]

/-- The hyphens between the groups of 32 characters are taken out again. -/
theorem unhyphenate?_hyphenate {digits : List Char} (hlength : digits.length = 32) :
    unhyphenate? (hyphenate digits) = some digits := by
  have hdrop : ∀ start count, (digits.drop start).take count ++ digits.drop (start + count) =
      digits.drop start := by
    intro start count
    rw [← List.drop_drop, List.take_append_drop]
  rw [hyphenate, unhyphenate?_groups (by simp [hlength]) (by simp [hlength]) (by simp [hlength])
    (by simp [hlength]) (by simp [hlength])]
  rw [hdrop 16 4, hdrop 12 4, hdrop 8 4, List.take_append_drop]

theorem length_hyphenate {digits : List Char} (hlength : digits.length = 32) :
    (hyphenate digits).length = 36 := by
  simp [hyphenate, hlength]

/-- An identifier is read back from its text. -/
theorem parse?_toText (id : Uuid) : parse? id.toText = some id := by
  have hlength := length_hexDigits 32 id.value.toNat
  have hdigits : digits? (hyphenate (hexDigits 32 id.value.toNat)) =
      some (hexDigits 32 id.value.toNat) := by
    rw [digits?, length_hyphenate hlength, if_neg (by decide), if_pos rfl,
      unhyphenate?_hyphenate hlength]
  have hvalue : id.value.toNat < 16 ^ 32 := id.value.isLt
  rw [parse?, toText, String.toList_ofList, hdigits, Option.bind_some, readHex?_hexDigits,
    Option.map_some, Nat.mod_eq_of_lt hvalue, BitVec.ofNat_toNat, BitVec.setWidth_eq]

end Uuid

theorem Id.parse?_toText {kind : IdKind} (id : Id kind) : Id.parse? id.toText = some id := by
  rw [Id.parse?, Id.toText, Uuid.parse?_toText, Option.map_some]

end CashLedger
