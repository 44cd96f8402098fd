/-!
# Expressions of a template

An expression is a piece of script text. A simple expression is one such text, marked static when
it is a literal (`tap` in `@tap`) and dynamic otherwise. A compound expression is a sequence of
literal texts and simple expressions. The text of an expression in markup is decided by a
serializer; `Expression.raw` is the one that changes nothing.
-/

namespace MiniTemplate

structure Atom where
  content : String
  isStatic : Bool := false
deriving DecidableEq

inductive Part where
  | text (s : String)
  | atom (a : Atom)
deriving DecidableEq

inductive Expression where
  | simple (a : Atom)
  | compound (parts : List Part)
deriving DecidableEq

structure ExpressionError where
  expression : String
  reason : String
deriving DecidableEq

def ExpressionError.message (e : ExpressionError) : String :=
  s!"cannot serialize expression `{e.expression}`: {e.reason}"

/-- A serializer gives an expression its text in the markup, or refuses it. -/
abbrev Serializer := Expression → Except ExpressionError String

namespace Part

def content : Part → String
  | text s => s
  | atom a => a.content

end Part

namespace Expression

/-- A bound expression, such as the `count` of `:value="count"`. -/
def dynamic (content : String) : Expression := simple ⟨content, false⟩

/-- A literal, such as the `tap` of `@tap`. -/
def literal (content : String) : Expression := simple ⟨content, true⟩

def atom? : Expression → Option Atom
  | simple a => some a
  | compound _ => none

/-- Only simple expressions can be static. -/
def isStatic (e : Expression) : Bool := e.atom?.any (·.isStatic)

/-- The expression's own text: the parts of a compound expression stand side by side. -/
def text : Expression → String
  | simple a => a.content
  | compound parts => String.join (parts.map Part.content)

/-- The serializer that writes every expression as it stands. -/
def raw : Serializer := fun e => .ok e.text

end Expression

end MiniTemplate
