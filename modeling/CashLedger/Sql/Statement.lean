import CashLedger.Sql.Cell
import CashLedger.Sql.Schema

/-!
# Statements

The statements that the ledger sends to a database. Each has a text with numbered
parameters and the values for them.
-/

namespace CashLedger.Sql

inductive Statement where
  /-- A row, with a value for each column. -/
  | insert (relation : Relation) (values : List Cell)
  /-- The rows with the given values, sorted by some columns. -/
  | select (relation : Relation) (keys : List (String × Cell)) (order : List String)
  /-- New values in the row of an identifier. -/
  | update (relation : Relation) (id : Uuid) (changes : List (String × Cell))
  /-- New values in the row of an identifier if it still has a version, which is raised;
  gives the row back. -/
  | revise (relation : Relation) (id : Uuid) (version : Int64)
      (changes : List (String × Cell))
  | delete (relation : Relation) (column : String) (id : Uuid)

namespace Statement

def parameters : Statement → List Cell
  | insert _ values => values
  | select _ keys _ => keys.map Prod.snd
  | update _ id changes => .uuid id :: changes.map Prod.snd
  | revise _ id version changes => .uuid id :: changes.map Prod.snd ++ [.int version]
  | delete _ _ id => [.uuid id]

def placeholder (n : Nat) : String := "$" ++ toString n

/-- Each name set equal to a parameter, numbered from `start`. -/
def assign (start : Nat) (names : List String) : List String :=
  (names.zipIdx start).map fun (name, n) => name ++ " = " ++ placeholder n

def commas (items : List String) : String := String.intercalate ", " items

def insertText (relation : Relation) (count : Nat) : String :=
  "INSERT INTO " ++ relation.name ++ " (" ++ commas relation.columns ++ ") VALUES ("
    ++ commas ((List.range' 1 count).map placeholder) ++ ")"

def selectText (relation : Relation) (keys order : List String) : String :=
  "SELECT " ++ commas relation.columns ++ " FROM " ++ relation.name
    ++ (if keys.isEmpty then "" else " WHERE " ++ String.intercalate " AND " (assign 1 keys))
    ++ (if order.isEmpty then "" else " ORDER BY " ++ commas order)

def updateText (relation : Relation) (changes : List String) : String :=
  "UPDATE " ++ relation.name ++ " SET " ++ commas (assign 2 changes) ++ " WHERE id = $1"

def reviseText (relation : Relation) (changes : List String) : String :=
  "UPDATE " ++ relation.name ++ " SET "
    ++ commas (assign 2 changes ++ ["version = version + 1"])
    ++ " WHERE id = $1 AND version = " ++ placeholder (changes.length + 2)
    ++ " RETURNING " ++ commas relation.columns

def text : Statement → String
  | insert relation values => insertText relation values.length
  | select relation keys order => selectText relation (keys.map Prod.fst) order
  | update relation _ changes => updateText relation (changes.map Prod.fst)
  | revise relation _ _ changes => reviseText relation (changes.map Prod.fst)
  | delete relation column _ =>
    "DELETE FROM " ++ relation.name ++ " WHERE " ++ column ++ " = $1"

end Statement

end CashLedger.Sql
