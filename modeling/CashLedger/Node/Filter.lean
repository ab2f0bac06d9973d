import CashLedger.Node.Filter.Rule

/-!
# Log filters

A filter is a list of rules with commas between them. Of the rules that fit an event the
closest one decides, and what no rule fits is not shown. Inside a span, the rules that fit
the span show events beside.
-/

namespace CashLedger.Node

abbrev Filter := List Rule

namespace Filter

def parts (text : String) : List String := (text.splitOn ",").filter (· ≠ "")

/-- A filter without any rule shows errors. Rules that make no sense are left out. -/
def ofText (text : String) : Filter :=
  match (parts text).filterMap fun part => (Rule.read part).toOption with
  | [] => [{ threshold := some .error }]
  | rules => rules

/-- What is said about the rules that make no sense. -/
def complaints (text : String) : List String :=
  (parts text).filterMap fun part =>
    match Rule.read part with
    | .ok _ => none
    | .error misrule => some ("ignoring `" ++ part ++ "`: " ++ misrule.message)

/-- Of two rules that are as close as each other the later one. -/
def closer (best : Option Rule) (rule : Rule) : Option Rule :=
  match best with
  | none => some rule
  | some other => if rule.isAsClose other then some rule else some other

def ruleFor? (filter : Filter) (component : Component) (fields : LogFields) : Option Rule :=
  (filter.filter fun rule => rule.fitsEvent component fields).foldl closer none

def shows (filter : Filter) (level : Level) (component : Component) (fields : LogFields) :
    Bool :=
  (filter.ruleFor? component fields).any fun rule => rule.threshold.shows level

/-- The rules that no later rule takes the place of. -/
def lasting : Filter → Filter
  | [] => []
  | rule :: rest => if rest.any rule.sameScope then lasting rest else rule :: lasting rest

/-- The level of all spans. -/
def spanLevel : Level := .info

/-- Spans are opened if any rule shows their level, or if a rule wants a value, which only an
open span can tell. -/
def opensSpans (filter : Filter) : Bool :=
  filter.any fun rule => rule.threshold.shows spanLevel || rule.wantsValue

/-- The rules that hold inside a span. -/
def inside (filter : Filter) (component : Component) (name : String) (fields : LogFields) :
    List Rule :=
  if filter.opensSpans then filter.lasting.filter (·.fitsSpan component name fields) else []

/-- What is shown of a log, given the rules of the span around it. Spans are not shown by
themselves, and what the node itself says is outside of all spans. -/
def shownInside (filter : Filter) : List Rule → List Event → List Event
  | _, [] => []
  | _, .span component name fields :: rest =>
    filter.shownInside (filter.inside component name fields) rest
  | around, .entry level component message fields :: rest =>
    let around := if component = .node then [] else around
    let shown := filter.shownInside around rest
    if around.any (·.threshold.shows level) || filter.shows level component fields then
      .entry level component message fields :: shown
    else shown

def shown (filter : Filter) (log : List Event) : List Event := filter.shownInside [] log

end Filter

end CashLedger.Node
