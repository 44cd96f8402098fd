import MiniTemplate.Json.Value
import MiniTemplate.Template.Node

/-!
# Templates as JSON

The full form of every part of a template: an object with all its fields, where `null` stands for
what is absent.
-/

namespace MiniTemplate

def Json.ofString? : Option String → Json
  | none => .null
  | some s => .string s

def Json.ofStrings (ss : List String) : Json := .array (ss.map .string)

def Atom.toJson (a : Atom) : Json :=
  .object [("content", .string a.content), ("isStatic", .bool a.isStatic)]

def Part.toJson : Part → Json
  | text s => .string s
  | atom a => a.toJson

def Expression.toJson : Expression → Json
  | simple a => a.toJson
  | compound parts => .array (parts.map Part.toJson)

def Expression.toJson? : Option Expression → Json
  | none => .null
  | some e => e.toJson

def Property.toJson : Property → Json
  | .attribute a => .object [
      ("kind", .string "attribute"),
      ("name", .string a.name),
      ("value", .ofString? a.value)]
  | .directive d => .object [
      ("kind", .string "directive"),
      ("name", .string d.name),
      ("arg", Expression.toJson? d.arg),
      ("exp", Expression.toJson? d.exp),
      ("modifiers", .ofStrings d.modifiers),
      ("slotName", .ofString? d.slotName)]

def Role.name : Role → String
  | plain => "plain"
  | slotOutlet => "slotOutlet"
  | component => "component"
  | template => "template"

def Branch.toJson : Branch → Json
  | when c => .object [("if", .string c)]
  | elseWhen c => .object [("else-if", .string c)]
  | otherwise => .string "else"

def Branch.toJson? : Option Branch → Json
  | none => .null
  | some b => b.toJson

def Loop.toJson (l : Loop) : Json :=
  .object [
    ("source", .string l.source),
    ("valueAlias", .ofString? l.item),
    ("indexAlias", .ofString? l.index)]

def Loop.toJson? : Option Loop → Json
  | none => .null
  | some l => l.toJson

mutual

def Element.toJson : Element → Json
  | ⟨h, children⟩ => .object [
      ("tag", .string h.tag),
      ("role", .string h.role.name),
      ("props", .array (h.props.map Property.toJson)),
      ("children", .array (Node.toJsons children)),
      ("selfClosing", .bool h.selfClosing),
      ("vIf", Branch.toJson? h.branch),
      ("vFor", Loop.toJson? h.loop)]

def Node.toJson : Node → Json
  | .element e => .object [("element", Element.toJson e)]
  | .group branches => .object [("if", .object [("branches", .array (Element.toJsons branches))])]
  | .text s => .object [("text", .string s)]
  | .interpolation e => .object [("interpolation", e.toJson)]

def Node.toJsons : List Node → List Json
  | [] => []
  | n :: rest => Node.toJson n :: Node.toJsons rest

def Element.toJsons : List Element → List Json
  | [] => []
  | e :: rest => Element.toJson e :: Element.toJsons rest

end

def Template.toJson (t : Template) : Json := .object [("children", .array (Node.toJsons t.nodes))]

end MiniTemplate
