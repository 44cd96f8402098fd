import MiniTemplate.Template.Expression

/-!
# Properties of an element

A property is a plain attribute or a directive. A directive `v-name:arg.mod="exp"` has a name, an
argument (itself an expression), an expression and modifiers. The `bind` directive with a static
argument is the dynamic counterpart of an attribute, and most questions about properties accept
both.
-/

namespace MiniTemplate

/-- A plain attribute. Without a value it is written bare. -/
structure Attribute where
  name : String
  value : Option String := none
deriving DecidableEq

/-- A directive. `slotName` is the projection name that a slot outlet's `:name` binding stands
for. -/
structure Directive where
  name : String
  arg : Option Expression := none
  exp : Option Expression := none
  modifiers : List String := []
  slotName : Option String := none
deriving DecidableEq

inductive Property where
  | attribute (a : Attribute)
  | directive (d : Directive)
deriving DecidableEq

namespace Directive

/-- The text of a simple argument, static or dynamic. -/
def argContent? (d : Directive) : Option String :=
  (d.arg.bind Expression.atom?).map Atom.content

def hasStaticArg (d : Directive) (name : String) : Bool :=
  d.arg == some (Expression.literal name)

def hasModifier (d : Directive) (modifier : String) : Bool := d.modifiers.contains modifier

def describeArg : Option Expression → String
  | none => ""
  | some (.simple a) => if a.isStatic then ":" ++ a.content else ":[" ++ a.content ++ "]"
  | some (.compound _) => ":[..]"

/-- The directive as it would be written in a template, for diagnostics: `v-name:arg.mod`. -/
def describe (d : Directive) : String :=
  "v-" ++ d.name ++ describeArg d.arg ++ String.join (d.modifiers.map ("." ++ ·))

end Directive

namespace Property

def attr (name value : String) : Property := .attribute ⟨name, some value⟩

/-- An attribute without a value. -/
def bare (name : String) : Property := .attribute ⟨name, none⟩

/-- The binding `:name="exp"`. -/
def bind (name exp : String) : Property :=
  .directive { name := "bind", arg := some (.literal name), exp := some (.dynamic exp) }

/-- The expression bound to `name`: that of a `bind` directive whose static argument is `name`. -/
def bound? (name : String) : Property → Option Expression
  | .attribute _ => none
  | .directive d => if d.name = "bind" ∧ d.hasStaticArg name then d.exp else none

/-- The property sets `name`: as an attribute with a value, unless only bindings count, or as a
binding. -/
def sets (name : String) (dynamicOnly : Bool) : Property → Bool
  | .attribute a => !dynamicOnly && a.name == name && a.value.isSome
  | p@(.directive _) => (p.bound? name).isSome

end Property

end MiniTemplate
