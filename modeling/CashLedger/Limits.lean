import CashLedger.Amount

/-!
# Limits and the environment

What the engine allows at most, and how such numbers are read from the environment: a
variable that is missing or no number leaves the value as it was.
-/

namespace CashLedger

/-- Variables by name. -/
abbrev Environment := String → Option String

/-- An unsigned number of decimal digits, with or without a plus sign before them. -/
def readUnsigned? (bound : Nat) (text : String) : Option Nat :=
  let digits := match text.toList with
    | '+' :: rest => rest
    | all => all
  if digits ≠ [] ∧ digits.all (fun c => '0' ≤ c && c ≤ '9') then
    let n := digits.foldl (fun n c => 10 * n + (c.toNat - 0x30)) 0
    if n ≤ bound then some n else none
  else
    none

def Environment.unsigned (env : Environment) (name : String) (bound default : Nat) : Nat :=
  ((env name).bind (readUnsigned? bound)).getD default

structure Limits where
  /-- Legs on one debt. -/
  maxDebtLegs : Nat := 8
  /-- Characters of free text. -/
  maxDetailsLen : Nat := 1024
  deriving DecidableEq

namespace Limits

def standard : Limits := {}

def largest : Nat := 18446744073709551615

def ofEnvironment (env : Environment) : Limits where
  maxDebtLegs := env.unsigned "LEDGER_MAX_DEBT_LEGS" largest standard.maxDebtLegs
  maxDetailsLen := env.unsigned "LEDGER_MAX_DETAILS_LEN" largest standard.maxDetailsLen

def validate (limits : Limits) : Except String Unit :=
  if limits.maxDebtLegs = 0 then .error "Max debt legs cannot be 0"
  else if limits.maxDetailsLen = 0 then .error "Max details length cannot be 0"
  else .ok ()

end Limits

end CashLedger
