import MiniTemplate.Proofs.Rewriting
import MiniTemplate.Template.Decode
import MiniTemplate.Template.Dump

/-!
# Reading back what was dumped

Decoding the full form of a template gives the template back, with one exception. Records may be
written as arrays, and an expression is taken for a simple one wherever that is possible; so the
compound expression of a single text, dumped as `["a"]`, comes back as the simple expression `a`.
No other list of parts can be mistaken (`Atom.decode?_parts`).

    Template.decode? t.toJson = some (t.mapExpressions Expression.simplified)

The part of the decoder that all records share is settled once (`Json.fields?_object`): an object
with the declared keys, each once, has the declared fields.
-/

namespace MiniTemplate

/-! ## Expressions of a template -/

/-- A compound expression of a single text as the simple expression that it reads like. -/
def Expression.simplified : Expression → Expression
  | .compound [.text s] => .dynamic s
  | exp => exp

namespace Property

/-- The property with other expressions in place of its own. -/
def mapExpressions (f : Expression → Expression) : Property → Property
  | .attribute a => .attribute a
  | .directive d => .directive { d with arg := d.arg.map f, exp := d.exp.map f }

def expressions : Property → List Expression
  | .attribute _ => []
  | .directive d => d.arg.toList ++ d.exp.toList

end Property

/-- Puts other expressions in place of all expressions of a template. -/
def mapping (f : Expression → Expression) : Rewriting where
  head h := { h with props := h.props.map (Property.mapExpressions f) }
  interpolation := f

/-- The expressions of a node itself, or of the elements that it puts side by side. -/
def Node.expressions : Node → List Expression
  | .interpolation exp => [exp]
  | n => n.elements.flatMap fun e => e.props.flatMap Property.expressions

namespace Template

def mapExpressions (f : Expression → Expression) (t : Template) : Template :=
  ⟨t.nodes.map (Node.rewrite (mapping f))⟩

def expressions (t : Template) : List Expression :=
  (Node.withinAll t.nodes).flatMap Node.expressions

end Template

/-! ## Records -/

namespace Json

theorem lookup_of_mem {entries : List (String × Json)} (h : (entries.map Prod.fst).Nodup)
    {entry : String × Json} (hmem : entry ∈ entries) :
    entries.lookup entry.1 = some entry.2 := by
  induction entries with
  | nil => cases hmem
  | cons first rest ih =>
    rw [List.map_cons, List.nodup_cons] at h
    obtain ⟨hfirst, hrest⟩ := h
    rcases List.mem_cons.mp hmem with rfl | hmem
    · rw [List.lookup_cons, beq_self_eq_true]
    · have hne : (entry.1 == first.1) = false := by
        rw [beq_eq_false_iff_ne]
        rintro heq
        exact hfirst (heq ▸ List.mem_map_of_mem hmem)
      rw [List.lookup_cons, hne]
      exact ih hrest hmem

/-- An object with exactly the declared keys, each once, has the declared fields. -/
theorem fields?_object {names : List String} {entries : List (String × Json)}
    (hnames : entries.map Prod.fst = names) (h : names.Nodup) :
    (object entries).fields? names = some (entries.map fun e => some e.2) := by
  subst hnames
  have honce : ∀ n, (entries.filter (·.1 == n)).length ≤ 1 := by
    intro n
    have hcount := List.nodup_iff_count.mp h n
    rwa [List.count, List.countP_map, List.countP_eq_length_filter] at hcount
  have hlookup : (entries.map Prod.fst).map (fun n => entries.lookup n) =
      entries.map fun e => some e.2 := by
    rw [List.map_map]
    exact List.map_congr_left fun entry hentry => lookup_of_mem h hentry
  simp only [fields?, honce, decide_true, List.all_eq_true, implies_true, if_true, hlookup]

/-- A value other than `null` is taken as given. -/
theorem optional_of_ne_null {α : Type} (decode : Json → Option α) {j : Json} (h : j ≠ null) :
    optional decode (some j) = (decode j).map some := by
  cases j with
  | null => exact absurd rfl h
  | _ => rfl

/-- What all values of a type are dumped to is decoded item by item. -/
theorem mapM_decode {α β : Type} {dump : α → Json} {decode : Json → Option β} {g : α → β}
    (h : ∀ a, decode (dump a) = some (g a)) (items : List α) :
    (items.map dump).mapM decode = some (items.map g) := by
  have hcomp : decode ∘ dump = fun a => pure (g a) := funext h
  rw [List.mapM_map, hcomp, List.mapM_pure]
  rfl

@[simp] theorem optional_ofString? (s : Option String) :
    optional string? (some (ofString? s)) = some s := by
  cases s <;> rfl

@[simp] theorem strings?_ofStrings (ss : List String) : strings? (ofStrings ss) = some ss := by
  have hstring : ∀ s, string? (string s) = some (id s) := fun _ => rfl
  have hitems := mapM_decode hstring ss
  rwa [List.map_id] at hitems

end Json

/-! ## Leaves -/

open Json (required withDefault optional)

theorem Atom.decode?_toJson (a : Atom) : Atom.decode? a.toJson = some a := by
  have hfields : a.toJson.fields? ["content", "isStatic"] =
      some [some (.string a.content), some (.bool a.isStatic)] :=
    Json.fields?_object rfl (by decide)
  rw [Atom.decode?, hfields]
  rfl

theorem Part.decode?_toJson (p : Part) : Part.decode? p.toJson = some p := by
  cases p with
  | text s => rfl
  | atom a =>
    have hatom : Part.decode? a.toJson = (Atom.decode? a.toJson).map .atom := rfl
    rw [toJson, hatom, a.decode?_toJson]
    rfl

/-- A list of parts is taken for a simple expression only if it is a single text. In the array form
of a simple expression the text comes first and a truth value may follow, but no part is dumped as
a truth value. -/
theorem Atom.decode?_parts (parts : List Part) :
    Atom.decode? (.array (parts.map Part.toJson)) =
      match parts with
      | [.text s] => some ⟨s, false⟩
      | _ => none := by
  match parts with
  | [] => rfl
  | [.text s] => rfl
  | [.atom a] => rfl
  | [.text s, .text s'] => rfl
  | [.text s, .atom a] => rfl
  | [.atom a, p] => rfl
  | p :: p' :: p'' :: rest =>
    have hlong : ¬ rest.length + 1 + 1 + 1 ≤ 2 := by omega
    simp [Atom.decode?, Json.fields?, hlong]

namespace Json

/-- An expression in full form has no unreadable part. -/
theorem isReadable_expression (exp : Expression) : exp.toJson.isReadable = true := by
  cases exp with
  | simple a => rfl
  | compound parts =>
    rw [Expression.toJson, isReadable]
    induction parts with
    | nil => rfl
    | cons p rest ih =>
      rw [List.map_cons, allReadable, ih, Bool.and_true]
      cases p <;> rfl

theorem isReadable_expression? (exp : Option Expression) :
    (Expression.toJson? exp).isReadable = true := by
  cases exp with
  | none => rfl
  | some e => exact isReadable_expression e

theorem isReadable_ofStrings (ss : List String) : (ofStrings ss).isReadable = true := by
  rw [ofStrings, isReadable]
  induction ss with
  | nil => rfl
  | cons s rest ih =>
    rw [List.map_cons, allReadable, ih]
    rfl

theorem isReadable_ofString? (s : Option String) : (ofString? s).isReadable = true := by
  cases s <;> rfl

end Json

/-- An expression is read back, but a single text in an array reads as a simple expression. -/
theorem Expression.decode?_toJson (exp : Expression) :
    Expression.decode? exp.toJson = some exp.simplified := by
  rw [Expression.decode?, if_pos (Json.isReadable_expression exp)]
  cases exp with
  | simple a =>
    rw [toJson, a.decode?_toJson]
    rfl
  | compound parts =>
    have hparts : (parts.map Part.toJson).mapM Part.decode? = some parts := by
      rw [Json.mapM_decode (g := id) Part.decode?_toJson, List.map_id]
    have hitems : ((toJson (.compound parts)).items?.bind (·.mapM Part.decode?)).map
        Expression.compound = some (.compound parts) := by
      rw [toJson, Json.items?, Option.bind_some, hparts]
      rfl
    rw [hitems, toJson, Atom.decode?_parts]
    -- a single text is the only list of parts that is not kept
    match parts with
    | [] => rfl
    | [.text s] => rfl
    | [.atom a] => rfl
    | p :: p' :: rest => cases p <;> rfl

example : Expression.decode? (Expression.toJson (.compound [.text "a"])) = some (.dynamic "a") :=
  rfl

theorem Expression.optional_toJson? (exp : Option Expression) :
    optional Expression.decode? (some (Expression.toJson? exp)) =
      some (exp.map Expression.simplified) := by
  cases exp with
  | none => rfl
  | some e =>
    have hne : e.toJson ≠ .null := by
      cases e <;> simp [toJson, Atom.toJson]
    rw [toJson?, Json.optional_of_ne_null _ hne, e.decode?_toJson]
    rfl

theorem Attribute.decode?_fields (a : Attribute) :
    Attribute.decode? (.object [("name", .string a.name), ("value", .ofString? a.value)]) =
      some a := by
  simp [Attribute.decode?, Json.fields?_object, required, Json.string?]

/-- The fields of a directive are read back with their expressions simplified. -/
theorem Directive.decode?_fields (d : Directive) :
    Directive.decode? (.object [("name", .string d.name), ("arg", Expression.toJson? d.arg),
      ("exp", Expression.toJson? d.exp), ("modifiers", .ofStrings d.modifiers),
      ("slotName", .ofString? d.slotName)]) =
      some { d with
        arg := d.arg.map Expression.simplified
        exp := d.exp.map Expression.simplified } := by
  simp [Directive.decode?, Json.fields?_object, required, withDefault, Json.string?,
    Expression.optional_toJson?]

/-- A property is read back with its expressions simplified. -/
theorem Property.decode?_toJson (p : Property) :
    Property.decode? p.toJson = some (p.mapExpressions Expression.simplified) := by
  have hreadable : p.toJson.isReadable = true := by
    match p with
    | .attribute a =>
      simp [toJson, Json.isReadable, Json.entriesReadable, Json.isReadable_ofString?]
    | .directive d =>
      simp [toJson, Json.isReadable, Json.entriesReadable, Json.isReadable_ofString?,
        Json.isReadable_expression?, Json.isReadable_ofStrings]
  rw [Property.decode?, if_pos hreadable]
  match p with
  | .attribute a =>
    have htagged : (Property.attribute a).toJson.tagged? "kind" = some ("attribute",
        .object [("name", .string a.name), ("value", .ofString? a.value)]) := rfl
    rw [htagged]
    simp only [Attribute.decode?_fields]
    rfl
  | .directive d =>
    have htagged : (Property.directive d).toJson.tagged? "kind" = some ("directive",
        .object [("name", .string d.name), ("arg", Expression.toJson? d.arg),
          ("exp", Expression.toJson? d.exp), ("modifiers", .ofStrings d.modifiers),
          ("slotName", .ofString? d.slotName)]) := rfl
    rw [htagged]
    simp only [Directive.decode?_fields]
    rfl

theorem Role.decode?_name (role : Role) : Role.decode? (.string role.name) = some role := by
  cases role <;> rfl

theorem Branch.optional_toJson? (b : Option Branch) :
    optional Branch.decode? (some (Branch.toJson? b)) = some b := by
  match b with
  | none => rfl
  | some (.when c) => rfl
  | some (.elseWhen c) => rfl
  | some .otherwise => rfl

theorem Loop.optional_toJson? (l : Option Loop) :
    optional Loop.decode? (some (Loop.toJson? l)) = some l := by
  cases l with
  | none => rfl
  | some l =>
    have hdecode : Loop.decode? l.toJson = some l := by
      simp [Loop.decode?, toJson, Json.fields?_object, required, Json.string?]
    have hne : l.toJson ≠ .null := by simp [toJson]
    rw [toJson?, Json.optional_of_ne_null _ hne, hdecode]
    rfl

/-! ## Elements and nodes -/

/-- The step of the recursion: an element comes back if its children do. -/
theorem Element.decode?_toJson {e : Element}
    (hchildren : Node.decodeAll? (Node.toJsons e.children) =
      some (e.children.map (Node.rewrite (mapping Expression.simplified)))) :
    Element.decode? e.toJson = some (e.rewrite (mapping Expression.simplified)) := by
  obtain ⟨h, children⟩ := e
  have hfields : (Element.toJson ⟨h, children⟩).fields? Element.fieldNames =
      some [some (.string h.tag), some (.string h.role.name),
        some (.array (h.props.map Property.toJson)), some (.array (Node.toJsons children)),
        some (.bool h.selfClosing), some (Branch.toJson? h.branch),
        some (Loop.toJson? h.loop)] := by
    rw [toJson]
    exact Json.fields?_object rfl (by decide)
  have hprops : (h.props.map Property.toJson).mapM Property.decode? =
      some (h.props.map (Property.mapExpressions Expression.simplified)) :=
    Json.mapM_decode Property.decode?_toJson h.props
  rw [Element.decode?]
  split
  · next heq =>
    rw [hfields] at heq
    cases heq
    simp only [required, withDefault, Json.string?, Json.bool?, Json.items?, Role.decode?_name,
      Branch.optional_toJson?, Loop.optional_toJson?, Option.bind_some, hprops, hchildren]
    rw [rewrite, Node.rewriteAll_eq_map]
    rfl
  · next hne => exact absurd hfields (hne _ _ _ _ _ _ _)

/-- The elements of a group are read back if each of them is. -/
theorem Element.decodeAll?_toJsons {branches : List Element}
    (h : ∀ e ∈ branches, Element.decode? e.toJson =
      some (e.rewrite (mapping Expression.simplified))) :
    Element.decodeAll? (Element.toJsons branches) =
      some (branches.map (Element.rewrite (mapping Expression.simplified))) := by
  induction branches with
  | nil => rw [toJsons, decodeAll?, List.map_nil]
  | cons e rest ih =>
    rw [toJsons, decodeAll?, h e (List.mem_cons_self ..),
      ih fun e he => h e (List.mem_cons_of_mem _ he)]
    rfl

/-- Nodes come back, with all compound expressions of a single text made simple. -/
theorem Node.decodeAll?_toJsons (nodes : List Node) :
    Node.decodeAll? (Node.toJsons nodes) =
      some (nodes.map (Node.rewrite (mapping Expression.simplified))) := by
  -- a list comes back if its first node and its rest do
  have hcons : ∀ (n : Node) (rest : List Node),
      Node.decode? n.toJson = some (n.rewrite (mapping Expression.simplified)) →
      Node.decodeAll? (Node.toJsons rest) =
        some (rest.map (Node.rewrite (mapping Expression.simplified))) →
      Node.decodeAll? (Node.toJsons (n :: rest)) =
        some ((n :: rest).map (Node.rewrite (mapping Expression.simplified))) := by
    intro n rest hn hrest
    rw [toJsons, decodeAll?, hn, hrest]
    rfl
  refine tree_induction
    (Q := fun e => Element.decode? e.toJson =
      some (e.rewrite (mapping Expression.simplified)))
    ?nil ?text ?interpolation ?element ?group ?step nodes
  case nil => rw [toJsons, decodeAll?, List.map_nil]
  case text =>
    intro s rest ih
    refine hcons _ _ ?_ ih
    rw [toJson, decode?, rewrite]
    rfl
  case interpolation =>
    intro exp rest ih
    refine hcons _ _ ?_ ih
    have hdecode : Node.decode? (toJson (.interpolation exp)) =
        (Expression.decode? exp.toJson).map .interpolation := by
      rw [toJson, decode?]
      rfl
    rw [hdecode, exp.decode?_toJson, rewrite_interpolation]
    rfl
  case element =>
    intro e rest he ih
    refine hcons _ _ ?_ ih
    have hdecode : Node.decode? (toJson (.element e)) =
        (Element.decode? e.toJson).map .element := by
      rw [toJson, decode?]
      rfl
    rw [hdecode, he, rewrite_element]
    rfl
  case group =>
    intro branches rest hbranches ih
    refine hcons _ _ ?_ ih
    have hdecode : Node.decode? (toJson (.group branches)) =
        (Element.decodeAll? (Element.toJsons branches)).map .group := by
      rw [toJson, decode?]
      rfl
    rw [hdecode, Element.decodeAll?_toJsons hbranches, rewrite_group]
    rfl
  case step =>
    intro e ih
    exact Element.decode?_toJson ih

/-- Decoding undoes dumping, up to the compound expressions of a single text. -/
theorem Template.decode?_toJson (t : Template) :
    Template.decode? t.toJson = some (t.mapExpressions Expression.simplified) := by
  have hfields : t.toJson.fields? ["children"] = some [some (.array (Node.toJsons t.nodes))] :=
    Json.fields?_object rfl (by decide)
  simp only [Template.decode?, hfields, withDefault, Json.items?, Option.bind_some,
    Node.decodeAll?_toJsons]
  rfl

/-! ## What stays the same -/

theorem Expression.simplified_eq_self_iff (exp : Expression) :
    exp.simplified = exp ↔ ∀ s, exp ≠ .compound [.text s] := by
  constructor
  · rintro hself s rfl
    simp [simplified, Expression.dynamic] at hself
  · intro hne
    match exp with
    | .simple a => rfl
    | .compound [] => rfl
    | .compound [.text s] => exact absurd rfl (hne s)
    | .compound [.atom a] => rfl
    | .compound (p :: p' :: rest) => cases p <;> rfl

theorem map_eq_self_iff {α : Type} {f : α → α} {items : List α} :
    items.map f = items ↔ ∀ a ∈ items, f a = a := by
  simpa using List.map_inj_left (f := f) (g := id) (l := items)

section Mapping

variable {f : Expression → Expression}

theorem Property.mapExpressions_eq_self_iff (p : Property) :
    p.mapExpressions f = p ↔ ∀ exp ∈ p.expressions, f exp = exp := by
  match p with
  | .attribute a => simp [mapExpressions, expressions]
  | .directive ⟨name, arg, exp, modifiers, slotName⟩ =>
    cases arg <;> cases exp <;> simp [mapExpressions, expressions]

theorem Element.rewrite_mapping_eq_self_iff (e : Element) :
    e.rewrite (mapping f) = e ↔
      (∀ exp ∈ e.props.flatMap Property.expressions, f exp = exp) ∧
        e.children.map (Node.rewrite (mapping f)) = e.children := by
  obtain ⟨h, children⟩ := e
  have hprops : h.props.map (Property.mapExpressions f) = h.props ↔
      ∀ exp ∈ h.props.flatMap Property.expressions, f exp = exp := by
    simp only [map_eq_self_iff, Property.mapExpressions_eq_self_iff, List.forall_mem_flatMap]
  have hhead : { h with props := h.props.map (Property.mapExpressions f) } = h ↔
      h.props.map (Property.mapExpressions f) = h.props := by
    cases h
    simp
  rw [rewrite, Node.rewriteAll_eq_map, Element.mk.injEq, ← hprops, ← hhead]
  rfl

/-- Nodes stay the same exactly if each expression is its own replacement. -/
theorem Node.map_rewrite_mapping_eq_self_iff (nodes : List Node) :
    nodes.map (rewrite (mapping f)) = nodes ↔
      Every (fun n => ∀ exp ∈ n.expressions, f exp = exp) nodes := by
  refine tree_induction
    (Q := fun e => e.rewrite (mapping f) = e ↔
      (∀ exp ∈ e.props.flatMap Property.expressions, f exp = exp) ∧
        Every (fun n => ∀ exp ∈ n.expressions, f exp = exp) e.children)
    ?nil ?text ?interpolation ?element ?group ?step nodes
  case nil => simp [Every, withinAll]
  case text =>
    intro s rest ih
    rw [List.map_cons, rewrite_text, List.cons.injEq, ih, every_text_iff]
    simp [expressions, elements]
  case interpolation =>
    intro exp rest ih
    rw [List.map_cons, rewrite_interpolation, List.cons.injEq, ih, every_interpolation_iff]
    simp [expressions, mapping]
  case element =>
    intro e rest he ih
    rw [List.map_cons, rewrite_element, List.cons.injEq, ih, every_element_iff, element.injEq, he,
      and_assoc]
    simp [expressions, elements]
  case group =>
    intro branches rest hbranches ih
    have hown : (∀ exp ∈ (Node.group branches).expressions, f exp = exp) ↔
        ∀ e ∈ branches, ∀ exp ∈ e.props.flatMap Property.expressions, f exp = exp :=
      List.forall_mem_flatMap
    rw [List.map_cons, rewrite_group, List.cons.injEq, ih, every_group_iff, group.injEq,
      map_eq_self_iff, forall₂_congr hbranches, forall₂_and, hown, and_assoc]
  case step =>
    intro e ih
    rw [e.rewrite_mapping_eq_self_iff, ih]

end Mapping

/-- A template is left unchanged exactly if each of its expressions is. -/
theorem Template.mapExpressions_eq_self_iff (t : Template) (f : Expression → Expression) :
    t.mapExpressions f = t ↔ ∀ exp ∈ t.expressions, f exp = exp := by
  obtain ⟨nodes⟩ := t
  rw [mapExpressions, Template.mk.injEq, Node.map_rewrite_mapping_eq_self_iff]
  exact List.forall_mem_flatMap.symm

/-- **Decoding undoes dumping.** The full form of every template is accepted. It is read as the
template with all compound expressions of a single text made simple and nothing else changed, so as
the template itself exactly if it has no such expression. -/
theorem dump_is_read_back (t : Template) :
    Template.decode? t.toJson = some (t.mapExpressions Expression.simplified) ∧
      (Template.decode? t.toJson = some t ↔
        ∀ exp ∈ t.expressions, ∀ s, exp ≠ .compound [.text s]) := by
  refine ⟨t.decode?_toJson, ?_⟩
  rw [t.decode?_toJson, Option.some.injEq, t.mapExpressions_eq_self_iff]
  simp only [Expression.simplified_eq_self_iff]

end MiniTemplate
