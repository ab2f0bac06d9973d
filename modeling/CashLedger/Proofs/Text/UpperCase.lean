import CashLedger.Money
import Mathlib

/-!
# Upper case settles

What the upper case of a character is made of is its own upper case, and it is not
blank unless the character is.  So a text that was trimmed and put into upper case
stays as it is when the same is done again.  That no character of an upper case has
another upper case is a fact about the table of characters: the numbers of both kinds
of characters, taken as the bits of two numbers, have no bit in common.
-/

namespace CashLedger.Text

/-! ## Sets of numbers as bits -/

/-- The number that has these bits. -/
def bits (codes : List Nat) : Nat := codes.foldr (fun code mask => 2 ^ code ||| mask) 0

theorem testBit_bits {codes : List Nat} {code : Nat} :
    (bits codes).testBit code = true ↔ code ∈ codes := by
  induction codes with
  | nil => simp [bits]
  | cons head rest ih =>
    change (2 ^ head ||| bits rest).testBit code = true ↔ _
    rw [Nat.testBit_or, Nat.testBit_two_pow, Bool.or_eq_true, decide_eq_true_eq, ih,
      List.mem_cons, eq_comm]

theorem disjoint_of_bits {left right : List Nat} (hbits : bits left &&& bits right = 0) :
    left.Disjoint right := by
  intro code hleft hright
  have hboth : (bits left &&& bits right).testBit code = true := by
    rw [Nat.testBit_and, testBit_bits.mpr hleft, testBit_bits.mpr hright, Bool.and_self]
  rw [hbits, Nat.zero_testBit] at hboth
  cases hboth

/-! ## The table of characters -/

namespace CaseRun

/-- The characters of a run. -/
def lowers (run : CaseRun) : List Nat :=
  (List.range run.count).map fun i => run.first + i * run.step

/-- What their upper case is. -/
def uppers (run : CaseRun) : List Nat :=
  run.lowers.map fun (code : Nat) => (code + run.shift).toNat

theorem upper?_eq_some {run : CaseRun} {code upper : Nat} (hupper : run.upper? code = some upper) :
    code ∈ run.lowers ∧ upper = (code + run.shift).toNat := by
  simp only [upper?] at hupper
  split at hupper
  · next hrun =>
    obtain ⟨hfirst, hstep, hcount⟩ := hrun
    refine ⟨List.mem_map.mpr ⟨(code - run.first) / run.step, List.mem_range.mpr hcount, ?_⟩,
      (Option.some.inj hupper).symm⟩
    rw [Nat.div_mul_cancel (Nat.dvd_of_mod_eq_zero hstep)]
    omega
  · cases hupper

end CaseRun

/-- All characters that have an upper case. -/
def lowers : List Nat := longUpperCases.map Prod.fst ++ caseRuns.flatMap CaseRun.lowers

/-- All characters that an upper case is made of. -/
def uppers : List Nat := longUpperCases.flatMap Prod.snd ++ caseRuns.flatMap CaseRun.uppers

/-- All blank characters. -/
def blanks : List Nat :=
  blankRanges.flatMap fun range => (List.range (range.2 + 1 - range.1)).map (range.1 + ·)

theorem disjoint_lowers_uppers : lowers.Disjoint uppers :=
  disjoint_of_bits (by decide +kernel)

theorem disjoint_blanks_uppers : blanks.Disjoint uppers :=
  disjoint_of_bits (by decide +kernel)

theorem mem_blanks_of_isBlank {c : Char} (hblank : isBlank c = true) : c.toNat ∈ blanks := by
  simp only [isBlank, List.any_eq_true, Bool.and_eq_true, decide_eq_true_eq] at hblank
  obtain ⟨range, hrange, hlow, hhigh⟩ := hblank
  refine List.mem_flatMap.mpr ⟨range, hrange, List.mem_map.mpr ⟨c.toNat - range.1, ?_, ?_⟩⟩
  · rw [List.mem_range]
    omega
  · omega

theorem upperCodes_eq_self {code : Nat} (hcode : code ∉ lowers) : upperCodes code = [code] := by
  rw [lowers, List.mem_append, not_or] at hcode
  have hlong : longUpperCases.lookup code = none := by
    rw [List.lookup_eq_none_iff]
    intro entry hentry
    rw [bne_iff_ne]
    rintro rfl
    exact hcode.1 (List.mem_map_of_mem hentry)
  have hrun : caseRuns.findSome? (·.upper? code) = none := by
    rw [List.findSome?_eq_none_iff]
    intro run hmem
    cases hupper : run.upper? code with
    | none => rfl
    | some upper =>
      have hlower := (CaseRun.upper?_eq_some hupper).1
      exact absurd (List.mem_flatMap.mpr ⟨run, hmem, hlower⟩) hcode.2
  rw [upperCodes, hlong, hrun]

theorem mem_upperCodes {code out : Nat} (hout : out ∈ upperCodes code) :
    upperCodes code = [code] ∨ out ∈ uppers := by
  unfold upperCodes at hout ⊢
  split at hout
  · next codes hlong =>
    obtain ⟨before, after, hsplit, -⟩ := List.lookup_eq_some_iff.mp hlong
    refine .inr (List.mem_append_left _ (List.mem_flatMap.mpr ⟨(code, codes), ?_, hout⟩))
    rw [hsplit]
    simp
  · split at hout
    · next upper hfind =>
      obtain ⟨run, hmem, hupper⟩ := List.exists_of_findSome?_eq_some hfind
      obtain ⟨hlower, rfl⟩ := CaseRun.upper?_eq_some hupper
      rw [List.mem_singleton.mp hout]
      refine .inr (List.mem_append_right _ (List.mem_flatMap.mpr ⟨run, hmem, ?_⟩))
      exact List.mem_map_of_mem hlower
    · exact .inl rfl

/-! ## Characters -/

/-- Among the first 128 characters upper case is a matter of arithmetic. -/
theorem toUpper_ascii : ∀ code < 0x80,
    (Char.ofNat code).toUpper.toNat < 0x80 ∧
      (Char.ofNat code).toUpper.toUpper = (Char.ofNat code).toUpper ∧
      (isBlank (Char.ofNat code) = false → isBlank (Char.ofNat code).toUpper = false) ∧
      (code ∉ CaseRun.lowers ⟨0x61, 26, 1, -32⟩ → (Char.ofNat code).toUpper = Char.ofNat code) := by
  decide +kernel

theorem isValidChar_uppers : ∀ code ∈ uppers, code.isValidChar := by decide +kernel

theorem toNat_ofNat_of_mem_uppers {code : Nat} (hcode : code ∈ uppers) :
    (Char.ofNat code).toNat = code := by
  rw [Char.toNat_ofNat, if_pos (isValidChar_uppers code hcode)]

theorem upperChar_eq_self {c : Char} (hc : c.toNat ∉ lowers) : upperChar c = [c] := by
  rw [upperChar]
  split
  · next hascii =>
    have hrun : c.toNat ∉ CaseRun.lowers ⟨0x61, 26, 1, -32⟩ := fun hlower =>
      hc (List.mem_append_right _ (List.mem_flatMap.mpr ⟨_, List.mem_cons_self, hlower⟩))
    have hself := (toUpper_ascii c.toNat hascii).2.2.2 hrun
    rw [Char.ofNat_toNat] at hself
    rw [hself]
  · rw [upperCodes_eq_self hc, List.map_singleton, Char.ofNat_toNat]

/-- The upper case of a character is one of the first 128, or the character itself, or it is
made of characters of the table. -/
theorem mem_upperChar {c out : Char} (hout : out ∈ upperChar c) :
    c.toNat < 0x80 ∧ out = c.toUpper ∨ upperChar c = [c] ∨ out.toNat ∈ uppers := by
  unfold upperChar at hout ⊢
  split at hout
  · next hascii => exact .inl ⟨hascii, List.mem_singleton.mp hout⟩
  · next hbeyond =>
    obtain ⟨code, hcode, rfl⟩ := List.mem_map.mp hout
    right
    rcases mem_upperCodes hcode with hself | hupper
    · left
      rw [if_neg hbeyond, hself, List.map_singleton, Char.ofNat_toNat]
    · right
      rwa [toNat_ofNat_of_mem_uppers hupper]

/-- What an upper case is made of is its own upper case. -/
theorem upperChar_of_mem {c out : Char} (hout : out ∈ upperChar c) : upperChar out = [out] := by
  rcases mem_upperChar hout with ⟨hascii, rfl⟩ | hself | hupper
  · obtain ⟨hlt, htwice, -⟩ := toUpper_ascii c.toNat hascii
    rw [Char.ofNat_toNat] at hlt htwice
    rw [upperChar, if_pos hlt, htwice]
  · rw [hself, List.mem_singleton] at hout
    rw [hout, hself]
  · exact upperChar_eq_self fun hlower => disjoint_lowers_uppers hlower hupper

theorem isBlank_of_mem_upperChar {c out : Char} (hout : out ∈ upperChar c)
    (hc : isBlank c = false) : isBlank out = false := by
  rcases mem_upperChar hout with ⟨hascii, rfl⟩ | hself | hupper
  · have hkept := (toUpper_ascii c.toNat hascii).2.2.1
    rw [Char.ofNat_toNat] at hkept
    exact hkept hc
  · rw [hself, List.mem_singleton] at hout
    rwa [hout]
  · refine Bool.eq_false_iff.mpr fun hblank => ?_
    exact disjoint_blanks_uppers (mem_blanks_of_isBlank hblank) hupper

theorem upperChar_ne_nil (c : Char) : upperChar c ≠ [] := by
  unfold upperChar upperCodes
  split
  · exact List.cons_ne_nil _ _
  · rw [Ne, List.map_eq_nil_iff]
    split
    · next codes hlong =>
      obtain ⟨before, after, hsplit, -⟩ := List.lookup_eq_some_iff.mp hlong
      have hlongs : ∀ entry ∈ longUpperCases, entry.2 ≠ [] := by decide +kernel
      exact hlongs (c.toNat, codes) (by rw [hsplit]; simp)
    · split <;> exact List.cons_ne_nil _ _

/-! ## Texts -/

theorem flatMap_upperChar_flatMap (cs : List Char) :
    (cs.flatMap upperChar).flatMap upperChar = cs.flatMap upperChar := by
  rw [List.flatMap_assoc]
  congr 1
  funext c
  calc
    (upperChar c).flatMap upperChar = (upperChar c).flatMap fun out => [out] :=
      List.flatMap_congr fun out hout => upperChar_of_mem hout
    _ = upperChar c := List.flatMap_singleton' _

/-- Neither the first nor the last character is blank. -/
def IsTrim (cs : List Char) : Prop :=
  (∀ c ∈ cs.head?, isBlank c = false) ∧ ∀ c ∈ cs.getLast?, isBlank c = false

theorem dropWhile_isBlank_eq_self {cs : List Char} (hfirst : ∀ c ∈ cs.head?, isBlank c = false) :
    cs.dropWhile isBlank = cs := by
  cases cs with
  | nil => rfl
  | cons c rest => exact List.dropWhile_cons_of_neg (by simp [hfirst c rfl])

theorem isBlank_head?_dropWhile {cs : List Char} :
    ∀ c ∈ (cs.dropWhile isBlank).head?, isBlank c = false := by
  intro c hc
  have hhead := List.head?_dropWhile_not isBlank cs
  rw [Option.mem_def.mp hc] at hhead
  exact hhead

theorem isTrim_trimChars (cs : List Char) : IsTrim (trimChars cs) := by
  constructor
  · -- Nothing is taken off at the front once the front is in order.
    intro c hc
    obtain ⟨blank, hkept⟩ : trimChars cs <+: cs.dropWhile isBlank :=
      List.rdropWhile_prefix isBlank (cs.dropWhile isBlank)
    apply @isBlank_head?_dropWhile cs c
    rw [← hkept, List.head?_append, Option.mem_def.mp hc, Option.some_or]
    rfl
  · rw [trimChars, List.getLast?_reverse]
    exact isBlank_head?_dropWhile

theorem IsTrim.trimChars_eq {cs : List Char} (htrim : IsTrim cs) : trimChars cs = cs := by
  obtain ⟨hfirst, hlast⟩ := htrim
  rw [trimChars, dropWhile_isBlank_eq_self hfirst, dropWhile_isBlank_eq_self, List.reverse_reverse]
  rwa [List.head?_reverse]

theorem IsTrim.upper {cs : List Char} (htrim : IsTrim cs) : IsTrim (cs.flatMap upperChar) := by
  obtain ⟨hfirst, hlast⟩ := htrim
  constructor
  · cases cs with
    | nil => exact nofun
    | cons c rest =>
      intro out hout
      rw [List.flatMap_cons, List.head?_append_of_ne_nil _ (upperChar_ne_nil c)] at hout
      exact isBlank_of_mem_upperChar (List.mem_of_head? hout) (hfirst c rfl)
  · rcases cs.eq_nil_or_concat with rfl | ⟨rest, c, rfl⟩
    · exact nofun
    · intro out hout
      rw [List.concat_eq_append] at hout hlast
      rw [List.flatMap_append, List.flatMap_singleton,
        List.getLast?_append_of_ne_nil _ (upperChar_ne_nil c)] at hout
      exact isBlank_of_mem_upperChar (List.mem_of_getLast? hout) (hlast c (by simp))

end CashLedger.Text

/-- A code that was tidied once is tidy. -/
theorem CashLedger.Currency.ofText_ofText (text : String) :
    Currency.ofText (Currency.ofText text).code = Currency.ofText text := by
  have htrim := (Text.isTrim_trimChars text.toList).upper
  simp only [ofText, Text.upper, Text.trim, String.toList_ofList, htrim.trimChars_eq,
    Text.flatMap_upperChar_flatMap]
