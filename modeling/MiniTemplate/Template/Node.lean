import MiniTemplate.Template.Property

/-!
# Template trees

A template is a list of nodes: elements, conditional groups, texts and interpolations. What an
element says about itself (tag, role, properties, condition, repetition) is its `Head`; an `Element`
is a head with children. Every rule that does not look below the element is a rule about heads.
-/

namespace MiniTemplate

inductive Role where
  | plain
  | slotOutlet
  | component
  | template
deriving DecidableEq

/-- The place of an element in a conditional chain. -/
inductive Branch where
  | when (condition : String)
  | elseWhen (condition : String)
  | otherwise
deriving DecidableEq

/-- A repetition over `source`, which is already in the syntax of the target. -/
structure Loop where
  source : String
  item : Option String := none
  index : Option String := none
deriving DecidableEq

/-- All that an element says about itself. -/
structure Head where
  tag : String
  role : Role := .plain
  props : List Property := []
  selfClosing : Bool := false
  branch : Option Branch := none
  loop : Option Loop := none
deriving DecidableEq

mutual

structure Element extends Head where
  children : List Node

/-- A node of a template. A group is a conditional chain, whose elements carry their own
conditions. -/
inductive Node where
  | element (e : Element)
  | group (branches : List Element)
  | text (s : String)
  | interpolation (e : Expression)

end

structure Template where
  nodes : List Node := []

namespace Head

def propIdx? (h : Head) (name : String) (dynamicOnly : Bool) : Option Nat :=
  h.props.findIdx? (·.sets name dynamicOnly)

/-- The first property that sets `name`. -/
def prop? (h : Head) (name : String) (dynamicOnly : Bool) : Option Property :=
  h.props.find? (·.sets name dynamicOnly)

/-- The expression bound to `name` by the first binding of it. -/
def bound? (h : Head) (name : String) : Option Expression := h.props.findSome? (·.bound? name)

/-- The head has no properties, no condition and no repetition. -/
def isBare (h : Head) : Bool := h.props.isEmpty && h.branch.isNone && h.loop.isNone

end Head

namespace Element

/-- A plain element without anything in it. -/
def ofTag (tag : String) : Element := { tag, children := [] }

def withRole (e : Element) (role : Role) : Element := { e with role }

def withProp (e : Element) (p : Property) : Element := { e with props := e.props ++ [p] }

def withChild (e : Element) (n : Node) : Element := { e with children := e.children ++ [n] }

def withBranch (e : Element) (b : Branch) : Element := { e with branch := some b }

def withLoop (e : Element) (l : Loop) : Element := { e with loop := some l }

/-- The element closed in its opening tag. -/
def closed (e : Element) : Element := { e with selfClosing := true }

end Element

end MiniTemplate
