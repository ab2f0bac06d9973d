import CashLedger.Json
import CashLedger.Log

/-!
# Log lines

An event as a JSON object: its level, its fields with the message as the first, and the
path of the component.
-/

namespace CashLedger

def LogValue.toJson : LogValue → Json
  | int n => .int n
  | text words => .string words
  | error cause => .string cause.message

def LogFields.toJson (fields : LogFields) : List (String × Json) :=
  fields.map fun (name, value) => (name, value.toJson)

def Event.toJson : Event → Json
  | .span _ name fields => .object [("span", .string name), ("fields", .object fields.toJson)]
  | .entry level component message fields => .object
      [("level", .string level.word),
       ("fields", .object (("message", .string message) :: fields.toJson)),
       ("target", .string component.path)]

def Event.line (event : Event) : String := event.toJson.render

end CashLedger
