import MiniTemplate.Template.Property

/-!
# Faults of a template

Why a template has no markup. A fault names the directive and the tag that it was found on.
-/

namespace MiniTemplate

/-- What an event binding lacks. -/
inductive EventPart where
  | name
  | handler
deriving DecidableEq

/-- The reasons why a template cannot be compiled. -/
inductive Fault where
  /-- A directive that has no form in the markup. -/
  | unknownDirective (directive tag : String)
  | malformedEvent (directive tag : String) (missing : EventPart)
  | expression (e : ExpressionError)
deriving DecidableEq

def EventPart.message : EventPart → String
  | name => "event name"
  | handler => "handler"

def Fault.message : Fault → String
  | unknownDirective directive tag => s!"unknown directive `{directive}` on <{tag}>"
  | malformedEvent directive tag missing =>
    s!"event binding `{directive}` on <{tag}> is missing its {missing.message}"
  | expression e => e.message

end MiniTemplate
