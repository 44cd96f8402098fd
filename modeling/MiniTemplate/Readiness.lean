import MiniTemplate.Template.Node

/-!
# Elements that have to wait

Some elements fire events while they are mounted, before their handlers are known, and have to be
held back until the first render. Which ones these are is said by a rule: a table from tags to the
bindings that matter, or a function that decides element by element.
-/

namespace MiniTemplate

inductive TriggerKind where
  | on
  | bind
deriving DecidableEq

def TriggerKind.directive : TriggerKind → String
  | on => "on"
  | bind => "bind"

/-- Directives of one kind with one of the arguments. -/
structure Trigger where
  kind : TriggerKind
  args : List String
deriving DecidableEq

/-- When the elements of a tag have to wait: always, or when a property matches a trigger. -/
inductive Delay where
  | always
  | whenAny (triggers : List Trigger)
deriving DecidableEq

/-- The delays by tag. No tag stands in it twice. -/
abbrev DelayTable := List (String × Delay)

def Trigger.covers (t : Trigger) : Property → Bool
  | .attribute _ => false
  | .directive d => d.name == t.kind.directive && d.argContent?.any t.args.contains

def Delay.applies (h : Head) : Delay → Bool
  | always => true
  | whenAny triggers => h.props.any fun p => triggers.any (·.covers p)

namespace DelayTable

/-- The table with another entry for a tag, in place of one that it had. -/
def insert (t : DelayTable) (tag : String) (d : Delay) : DelayTable :=
  t.filter (·.1 != tag) ++ [(tag, d)]

def applies (t : DelayTable) (h : Head) : Bool := (t.lookup h.tag).any (Delay.applies h)

end DelayTable

/-- What a deciding function says of one element. -/
inductive DelayAnswer where
  | flag (b : Bool)
  | table (t : DelayTable)

inductive DelayRule where
  | table (t : DelayTable)
  | byElement (answer : Element → DelayAnswer)

def DelayRule.applies (e : Element) : DelayRule → Bool
  | table t => t.applies e.toHead
  | byElement answer =>
    match answer e with
    | .flag b => b
    | .table t => t.applies e.toHead

end MiniTemplate
