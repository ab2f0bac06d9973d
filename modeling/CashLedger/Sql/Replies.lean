import CashLedger.Sql.Server

/-!
# Replies as JSON

The replies of a scripted server, written as JSON: a list of rows, the number of rows that
were changed, or an error. A value has the type of its column, unless it says that it
comes with another one.
-/

namespace CashLedger.Sql

/-- A value of a type. One that does not fit becomes a cell that nobody reads. -/
def Cell.ofJson (type : Option CellType) (json : Json) : Cell :=
  let fitting : Option Cell := match type, json with
    | _, .null => some .null
    | some .uuid, .string words => (Uuid.parse? words).map .uuid
    | some .int8, .number n 0 => (Amount.ofInt? n).map .int
    | some .text, .string words => some (.text words)
    | some .timestamptz, .string words => (Timestamp.parse? words).map Column.toCell
    | some .jsonb, value => some (.json value)
    | _, _ => none
  fitting.getD .alien

namespace Row

def readCell (name : String) (json : Json) : Cell :=
  match json.get? "as", json.get? "v" with
  | some (.string word), some value => Cell.ofJson (CellType.ofWord? word) value
  | _, _ => Cell.ofJson (some (columnType name)) json

/-- A row of the given columns; what the object lacks is null. -/
def ofJson (names : List String) (json : Json) : Row :=
  names.map fun name => (name, readCell name ((json.get? name).getD .null))

end Row

namespace Reply

def refusal? (json : Json) : Option Reply := do
  let code ← json.member? "code"
  let text ← json.member? "message"
  return refused code text

/-- The columns of a list of rows are those of its first row. -/
def ofJson : Json → Reply
  | .array [] => rows []
  | .array (.object fields :: rest) =>
    rows ((.object fields :: rest).map (Row.ofJson (fields.map Prod.fst)))
  | .number n 0 => affected n.toNat
  | json => ((json.get? "error").bind refusal?).getD (affected 0)

end Reply

end CashLedger.Sql
