import MiniTemplate.Json.Decoder
import MiniTemplate.Template.Node

/-!
# Templates from JSON

The decoders of all parts of a template. Unknown keys are skipped. Properties and expressions have
to be readable throughout, also in what is skipped, since their form is only known once they have
been read. An expression is simple if it can be, and compound otherwise: `["a"]` is the simple
expression `a`, `["a", "b"]` is compound.
-/

namespace MiniTemplate

open Json (required withDefault optional)

/-! ## Expressions -/

def Atom.decode? (j : Json) : Option Atom :=
  match j.fields? ["content", "isStatic"] with
  | some [content, isStatic] => do
    let content ← required Json.string? content
    let isStatic ← withDefault false Json.bool? isStatic
    some { content, isStatic }
  | _ => none

/-- A part of a compound expression: a text or a simple expression. -/
def Part.decode? : Json → Option Part
  | .string s => some (.text s)
  | j => (Atom.decode? j).map .atom

def Expression.decode? (j : Json) : Option Expression :=
  if j.isReadable then
    match Atom.decode? j with
    | some a => some (.simple a)
    | none => (j.items?.bind (·.mapM Part.decode?)).map .compound
  else
    none

/-! ## Properties -/

def Attribute.decode? (j : Json) : Option Attribute :=
  match j.fields? ["name", "value"] with
  | some [name, value] => do
    let name ← required Json.string? name
    let value ← optional Json.string? value
    some { name, value }
  | _ => none

def Directive.decode? (j : Json) : Option Directive :=
  match j.fields? ["name", "arg", "exp", "modifiers", "slotName"] with
  | some [name, arg, exp, modifiers, slotName] => do
    let name ← required Json.string? name
    let arg ← optional Expression.decode? arg
    let exp ← optional Expression.decode? exp
    let modifiers ← withDefault [] Json.strings? modifiers
    let slotName ← optional Json.string? slotName
    some { name, arg, exp, modifiers, slotName }
  | _ => none

/-- A property, which tells its `kind`. -/
def Property.decode? (j : Json) : Option Property :=
  if j.isReadable then
    match j.tagged? "kind" with
    | some ("attribute", fields) => (Attribute.decode? fields).map .attribute
    | some ("directive", fields) => (Directive.decode? fields).map .directive
    | _ => none
  else
    none

/-! ## Elements and nodes -/

def Role.decode? (j : Json) : Option Role :=
  match j.unitVariant? with
  | some "plain" => some .plain
  | some "slotOutlet" => some .slotOutlet
  | some "component" => some .component
  | some "template" => some .template
  | _ => none

/-- A place in a conditional chain: `if` or `else-if` with a condition, or `else`. -/
def Branch.decode? (j : Json) : Option Branch :=
  match j.variant? with
  | some ("if", some (.string c)) => some (.when c)
  | some ("else-if", some (.string c)) => some (.elseWhen c)
  | some ("else", none) => some .otherwise
  | some ("else", some .null) => some .otherwise
  | _ => none

def Loop.decode? (j : Json) : Option Loop :=
  match j.fields? ["source", "valueAlias", "indexAlias"] with
  | some [source, item, index] => do
    let source ← required Json.string? source
    let item ← optional Json.string? item
    let index ← optional Json.string? index
    some { source, item, index }
  | _ => none

/-- The fields of an element, in the order of its array form. -/
def Element.fieldNames : List String :=
  ["tag", "role", "props", "children", "selfClosing", "vIf", "vFor"]

mutual

def Element.decode? (j : Json) : Option Element :=
  match _hj : j.fields? Element.fieldNames with
  | some [tag, role, props, children, selfClosing, branch, loop] => do
    let tag ← required Json.string? tag
    let role ← withDefault .plain Role.decode? role
    let props ← withDefault [] (fun p => p.items?.bind (·.mapM Property.decode?)) props
    let children ← match _hc : children with
      | none => some []
      | some (.array items) => Node.decodeAll? items
      | some _ => none
    let selfClosing ← withDefault false Json.bool? selfClosing
    let branch ← optional Branch.decode? branch
    let loop ← optional Loop.decode? loop
    some { tag, role, props, children, selfClosing, branch, loop }
  | _ => none
termination_by sizeOf j
decreasing_by
  have := Json.sizeOf_lt_of_fields? _hj (v := .array items) (by simp [_hc])
  simp at this
  omega

def Node.decode? (j : Json) : Option Node :=
  match _hj : j.variant? with
  | some ("element", some e) => (Element.decode? e).map .element
  | some ("if", some g) =>
    match _hg : g.fields? ["branches"] with
    | some [some (.array items)] => (Element.decodeAll? items).map .group
    | _ => none
  | some ("text", some (.string s)) => some (.text s)
  | some ("interpolation", some e) => (Expression.decode? e).map .interpolation
  | _ => none
termination_by sizeOf j
decreasing_by
  · exact Json.sizeOf_lt_of_variant? _hj
  · have h₁ := Json.sizeOf_lt_of_variant? _hj
    have h₂ := Json.sizeOf_lt_of_fields? _hg (v := .array items) (by simp)
    simp at h₂
    omega

def Node.decodeAll? (items : List Json) : Option (List Node) :=
  match items with
  | [] => some []
  | j :: rest => do
    let n ← Node.decode? j
    let ns ← Node.decodeAll? rest
    some (n :: ns)
termination_by sizeOf items

def Element.decodeAll? (items : List Json) : Option (List Element) :=
  match items with
  | [] => some []
  | j :: rest => do
    let e ← Element.decode? j
    let es ← Element.decodeAll? rest
    some (e :: es)
termination_by sizeOf items

end

def Node.decodeGroup? (j : Json) : Option (List Element) :=
  match j.fields? ["branches"] with
  | some [some (.array items)] => Element.decodeAll? items
  | _ => none

def Template.decode? (j : Json) : Option Template :=
  match j.fields? ["children"] with
  | some [children] => do
    let nodes ← withDefault [] (fun c => c.items?.bind Node.decodeAll?) children
    some { nodes }
  | _ => none

end MiniTemplate
