import MiniTemplate.Markup
import MiniTemplate.Options

/-!
# Repetition attributes

A repeated element carries the source of the repetition, the name of the item and, when the item is
called `index` and would hide the implicit index, a name for the index. A `:key` binding on the same
element is consumed: it becomes the last of the repetition attributes.
-/

namespace MiniTemplate

/-- The attributes that the repetition itself asks for. -/
def Loop.attrs (l : Loop) : List Attr :=
  .loop .source l.source ::
    (match l.item with
    | none => []
    | some item =>
      .loop .item item :: if item = "index" then [.loop .index (l.index.getD "")] else [])

/-- What follows the first dot, or the whole text if it has none: the key `item.id` is `id`. -/
def keyText (s : String) : String :=
  match s.toList.dropWhile (· != '.') with
  | [] => s
  | _ :: rest => String.ofList rest

/-- The first binding of `name` and the properties without it. -/
def takeBound (name : String) : List Property → Option (Expression × List Property)
  | [] => none
  | p :: rest =>
    match p.bound? name with
    | some exp => some (exp, rest)
    | none => (takeBound name rest).map fun (exp, others) => (exp, p :: others)

/-- The attributes of a repeated element, and the properties that are left for it. -/
structure Repetition where
  attrs : List Attr
  props : List Property

/-- The repetition of a head. A key that has no text leaves the properties as they were. -/
def Options.repetition (o : Options) (h : Head) : Repetition :=
  match h.loop with
  | none => ⟨[], h.props⟩
  | some l =>
    match takeBound "key" h.props with
    | none => ⟨l.attrs, h.props⟩
    | some (exp, others) =>
      match o.serialize exp with
      | .ok key => ⟨l.attrs ++ [.loop .key (keyText key)], others⟩
      | .error e => ⟨l.attrs ++ [.fault (.expression e)], h.props⟩

end MiniTemplate
