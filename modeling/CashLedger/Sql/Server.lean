import CashLedger.Error
import CashLedger.Sql.Statement

/-!
# Database servers

What is sent to a database server and what comes back. A scripted server replies to
statements from a list, keeps no rows and remembers what was sent.
-/

namespace CashLedger.Sql

inductive Message where
  | begin
  | commit
  | rollback
  /-- Statements without parameters, run as one. -/
  | script (text : String)
  | run (statement : Statement)

def Message.text : Message → String
  | begin => "BEGIN"
  | commit => "COMMIT"
  | rollback => "ROLLBACK"
  | script text => text
  | run statement => statement.text

def Message.parameters : Message → List Cell
  | run statement => statement.parameters
  | _ => []

inductive Reply where
  | rows (found : List Row)
  | affected (count : Nat)
  /-- An error, by its five-character code and in the words of the server. -/
  | refused (code text : String)

namespace Reply

def toRows : Reply → Except LedgerError (List Row)
  | rows found => .ok found
  | affected _ => .ok []
  | refused _ text => .error (.database (.foreign text))

/-- How many rows a statement changed; rows that it gives back count. -/
def toCount : Reply → Except LedgerError Nat
  | rows found => .ok found.length
  | affected count => .ok count
  | refused _ text => .error (.database (.foreign text))

def toUnit (reply : Reply) : Except LedgerError Unit := reply.toCount.map fun _ => ()

end Reply

/-- A server with state `S`. -/
structure Server (S : Type) where
  /-- Whether it can be reached under an address. -/
  accepts : S → String → Bool
  schema : S → SchemaState
  send : Message → S → Reply × S

/-- What a scripted server does. -/
structure Script where
  address : String
  isOpen : Bool := true
  schema : SchemaState := .missing
  /-- For the next statements, in order. -/
  replies : List Reply := []
  /-- How the messages other than statements are refused, if they are. -/
  refusal : Message → Option Reply := fun _ => none
  /-- In the order in which it was sent. -/
  sent : List Message := []

namespace Script

/-- The reply to the next statement: no rows when none is left. -/
def next (script : Script) : Reply × Script :=
  match script.replies with
  | [] => (.affected 0, script)
  | reply :: rest => (reply, { script with replies := rest })

def send (message : Message) (script : Script) : Reply × Script :=
  let script := { script with sent := script.sent ++ [message] }
  match message with
  | .run _ => script.next
  | other => ((script.refusal other).getD (.affected 0), script)

def server : Server Script where
  accepts script address := script.isOpen && address == script.address
  schema := Script.schema
  send := send

end Script

end CashLedger.Sql
