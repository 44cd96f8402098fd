import Mathlib.Data.List.Basic
import MiniTemplate.Proofs.WellFormed

/-!
# Rewriting templates

A rewriting changes a template from the leaves up: the expressions of interpolations, the head of
every element, and the list of its children once these have been rewritten. It never looks at what
is around an element.

`lowerNodes_rewrite` says when the lowering does not see a rewriting, possibly under different
options before and after. It asks for one equation at each site and one for each list of children;
that the rewritten template has the same sites follows from what the rewriting keeps of a head.
-/

namespace MiniTemplate

/-- What is done to the parts of a template. -/
structure Rewriting where
  head : Head → Head := id
  /-- The new list of children of an element, from its old head and its rewritten children. -/
  children : Head → List Node → List Node := fun _ nodes => nodes
  interpolation : Expression → Expression := id

mutual

def Node.rewrite (r : Rewriting) : Node → Node
  | .element e => .element (Element.rewrite r e)
  | .group branches => .group (Element.rewriteAll r branches)
  | .text s => .text s
  | .interpolation exp => .interpolation (r.interpolation exp)

def Element.rewrite (r : Rewriting) : Element → Element
  | ⟨h, children⟩ => ⟨r.head h, r.children h (Node.rewriteAll r children)⟩

def Node.rewriteAll (r : Rewriting) : List Node → List Node
  | [] => []
  | n :: rest => Node.rewrite r n :: Node.rewriteAll r rest

def Element.rewriteAll (r : Rewriting) : List Element → List Element
  | [] => []
  | e :: rest => Element.rewrite r e :: Element.rewriteAll r rest

end

variable {r : Rewriting}

theorem Node.rewriteAll_eq_map (r : Rewriting) (nodes : List Node) :
    rewriteAll r nodes = nodes.map (rewrite r) := by
  induction nodes with
  | nil => rw [rewriteAll, List.map_nil]
  | cons n rest ih => rw [rewriteAll, ih, List.map_cons]

theorem Element.rewriteAll_eq_map (r : Rewriting) (branches : List Element) :
    rewriteAll r branches = branches.map (rewrite r) := by
  induction branches with
  | nil => rw [rewriteAll, List.map_nil]
  | cons e rest ih => rw [rewriteAll, ih, List.map_cons]

@[simp] theorem Element.rewrite_toHead (r : Rewriting) (e : Element) :
    (e.rewrite r).toHead = r.head e.toHead := by
  obtain ⟨h, children⟩ := e
  rw [rewrite]

@[simp] theorem Element.rewrite_children (r : Rewriting) (e : Element) :
    (e.rewrite r).children = r.children e.toHead (e.children.map (Node.rewrite r)) := by
  obtain ⟨h, children⟩ := e
  rw [rewrite, Node.rewriteAll_eq_map]

@[simp] theorem Node.rewrite_element (r : Rewriting) (e : Element) :
    rewrite r (.element e) = .element (e.rewrite r) := by
  rw [rewrite]

@[simp] theorem Node.rewrite_group (r : Rewriting) (branches : List Element) :
    rewrite r (.group branches) = .group (branches.map (Element.rewrite r)) := by
  rw [rewrite, Element.rewriteAll_eq_map]

@[simp] theorem Node.rewrite_text (r : Rewriting) (s : String) :
    rewrite r (.text s) = .text s := by
  rw [rewrite]

@[simp] theorem Node.rewrite_interpolation (r : Rewriting) (exp : Expression) :
    rewrite r (.interpolation exp) = .interpolation (r.interpolation exp) := by
  rw [rewrite]

/-- Elements come from elements. -/
theorem Node.exists_of_element_mem_map_rewrite {e : Element} {nodes : List Node}
    (he : .element e ∈ nodes.map (rewrite r)) :
    ∃ source, .element source ∈ nodes ∧ e = source.rewrite r := by
  obtain ⟨n, hn, heq⟩ := List.mem_map.mp he
  match n with
  | .element source =>
    rw [rewrite_element] at heq
    cases heq
    exact ⟨source, hn, rfl⟩
  | .group _ => rw [rewrite_group] at heq; cases heq
  | .text _ => rw [rewrite_text] at heq; cases heq
  | .interpolation _ => rw [rewrite_interpolation] at heq; cases heq

/-! ## Recursion from child to parent -/

/-- A property of node lists by recursion over the tree: what is to be shown of an element follows
from what holds of its children. -/
@[elab_as_elim]
theorem tree_induction {P : List Node → Prop} {Q : Element → Prop} (nil : P [])
    (text : ∀ s rest, P rest → P (.text s :: rest))
    (interpolation : ∀ exp rest, P rest → P (.interpolation exp :: rest))
    (element : ∀ e rest, Q e → P rest → P (.element e :: rest))
    (group : ∀ branches rest, (∀ e ∈ branches, Q e) → P rest → P (.group branches :: rest))
    (step : ∀ e : Element, P e.children → Q e) : ∀ nodes, P nodes := by
  refine nodes_induction nil text interpolation element group fun e ih => ?_
  cases hand : e.handedOn? with
  | none =>
    rw [e.site_of_handedOn?_eq_none hand] at ih
    exact step e ih
  | some p =>
    -- the children at the site are those of the only child
    obtain ⟨child, hchildren, -⟩ := e.handedOn?_eq_some hand
    rw [e.site_of_handedOn?_eq_some hand hchildren] at ih
    refine step e ?_
    rw [hchildren]
    exact element child [] (step child ih) nil

/-! ## Sites of a rewritten template -/

/-- The rewriting keeps all that decides whether a template gives way to its only child. -/
structure Rewriting.KeepsSites (r : Rewriting) : Prop where
  role : ∀ h, (r.head h).role = h.role
  loop : ∀ h, (r.head h).loop = h.loop
  carrier : ∀ h, h.role = .template → (r.head h).carrier? = h.carrier?
  children : ∀ h nodes, h.role = .template → h.carrier?.isSome = true → r.children h nodes = nodes

namespace Element

/-- What a template needs in order to hand on a property is a template with a carrier. -/
theorem handedOn?_eq_none_of_not_carrying {e : Element}
    (h : ¬ (e.role = .template ∧ e.carrier?.isSome = true)) : e.handedOn? = none := by
  cases hand : e.handedOn? with
  | none => rfl
  | some p =>
    obtain ⟨_, -, hrole, hcarrier, -⟩ := handedOn?_eq_some hand
    exact absurd ⟨hrole, by rw [hcarrier]; rfl⟩ h

/-- A rewritten template gives way to its child if it did before. -/
theorem handedOn?_rewrite (hr : r.KeepsSites) (e : Element) :
    (e.rewrite r).handedOn? = e.handedOn? := by
  by_cases hcarrying : e.role = .template ∧ e.carrier?.isSome = true
  · obtain ⟨h, children⟩ := e
    obtain ⟨hrole, hcarrier⟩ := hcarrying
    rw [rewrite, hr.children h _ hrole hcarrier, Node.rewriteAll_eq_map]
    -- the list of children has the same shape, and an only child the same role and repetition
    match children with
    | [.element child] =>
      simp [handedOn?, hr.role, hr.loop, hr.carrier h hrole]
    | [] => rfl
    | [.text _] => simp [handedOn?]
    | [.interpolation _] => simp [handedOn?]
    | [.group _] => simp [handedOn?]
    | _ :: _ :: _ => simp [handedOn?]
  · rw [handedOn?_eq_none_of_not_carrying hcarrying]
    apply handedOn?_eq_none_of_not_carrying
    rw [rewrite_toHead, hr.role]
    rintro ⟨hrole, hcarrier⟩
    rw [hr.carrier _ hrole] at hcarrier
    exact hcarrying ⟨hrole, hcarrier⟩

/-- A rewritten element leads to the rewritten site. -/
theorem site_rewrite (hr : r.KeepsSites) (e : Element) :
    (e.rewrite r).site = ⟨e.site.element.rewrite r, e.site.carrier⟩ := by
  have hrewritten := e.handedOn?_rewrite hr
  cases hand : e.handedOn? with
  | none =>
    rw [hand] at hrewritten
    rw [site_of_handedOn?_eq_none hand, site_of_handedOn?_eq_none hrewritten]
  | some p =>
    rw [hand] at hrewritten
    obtain ⟨child, hchildren, hrole, hcarrier, -⟩ := handedOn?_eq_some hand
    have honly : (e.rewrite r).children = [.element (child.rewrite r)] := by
      rw [rewrite_children, hr.children _ _ hrole (by rw [hcarrier]; rfl), hchildren]
      simp
    rw [site_of_handedOn?_eq_some hand hchildren, site_of_handedOn?_eq_some hrewritten honly]

end Element

/-- Only a property that passes content to a slot is handed on. -/
theorem Element.isCarrier_of_site {e : Element} {p : Property} (h : e.site.carrier = some p) :
    Head.isCarrier p = true := by
  cases hand : e.handedOn? with
  | none =>
    rw [e.site_of_handedOn?_eq_none hand] at h
    cases h
  | some q =>
    obtain ⟨child, hchildren, -, hcarrier, -⟩ := e.handedOn?_eq_some hand
    rw [e.site_of_handedOn?_eq_some hand hchildren] at h
    cases h
    exact List.find?_some hcarrier

/-! ## Rewritings that the lowering does not see -/

/-- The lowering under `o'` makes the same of a rewritten template as the lowering under `o` makes
of the template itself, as far as single elements with the property `p` go. -/
structure Rewriting.Unseen (r : Rewriting) (o o' : Options) (p : Element → Prop) : Prop
    extends r.KeepsSites where
  interpolation : ∀ exp,
    lowerNode o' (.interpolation (r.interpolation exp)) = lowerNode o (.interpolation exp)
  site : ∀ s : Site, (∀ c, s.carrier = some c → Head.isCarrier c = true) → p s.element →
    ∀ kids, Site.lower o' ⟨s.element.rewrite r, s.carrier⟩ kids = s.lower o kids
  list : ∀ (h : Head) (nodes : List Node), (∀ e, .element e ∈ nodes → p e) →
    lowerNodes o' (r.children h (nodes.map (Node.rewrite r))) =
      lowerNodes o' (nodes.map (Node.rewrite r))

/-- The elements that a node puts side by side have the property. -/
def Node.EachElement (p : Element → Prop) (n : Node) : Prop := ∀ e ∈ n.elements, p e

section Unseen

variable {o o' : Options} {p : Element → Prop}

/-- What holds of an element and of all below it holds at its site. -/
theorem Element.property_of_site {e : Element} (he : p e)
    (hbelow : Node.Every (Node.EachElement p) e.children) : p e.site.element := by
  cases hand : e.handedOn? with
  | none =>
    rw [e.site_of_handedOn?_eq_none hand]
    exact he
  | some c =>
    obtain ⟨child, hchildren, -⟩ := e.handedOn?_eq_some hand
    rw [e.site_of_handedOn?_eq_some hand hchildren]
    rw [hchildren] at hbelow
    exact (Node.every_element_iff.mp hbelow).1 child (List.mem_singleton_self _)

/-- The step of the recursion: an element whose children are seen alike is seen alike. -/
theorem lowerElement_rewrite (hr : r.Unseen o o' p) {e : Element} (he : p e)
    (hbelow : Node.Every (Node.EachElement p) e.children)
    (ih : lowerNodes o' (e.site.element.children.map (Node.rewrite r)) =
      lowerNodes o e.site.element.children) :
    lowerElement o' (e.rewrite r) = lowerElement o e := by
  have hlist : ∀ child, .element child ∈ e.site.element.children → p child := by
    intro child hchild
    have hnode := Node.every_of_mem (every_site_children hbelow) hchild
    exact hnode child (List.mem_singleton_self _)
  rw [lowerElement_eq, lowerElement_eq, e.site_rewrite hr.toKeepsSites, Element.rewrite_children,
    hr.list _ _ hlist, ih]
  exact hr.site e.site (fun c => Element.isCarrier_of_site) (Element.property_of_site he hbelow) _

/-- A rewriting that is not seen at any site and in any list of children is not seen at all. -/
theorem lowerNodes_rewrite (hr : r.Unseen o o' p) (nodes : List Node)
    (hp : Node.Every (Node.EachElement p) nodes) :
    lowerNodes o' (nodes.map (Node.rewrite r)) = lowerNodes o nodes := by
  revert hp
  refine nodes_induction
    (Q := fun e => p e → Node.Every (Node.EachElement p) e.children →
      lowerElement o' (e.rewrite r) = lowerElement o e)
    ?nil ?text ?interpolation ?element ?group ?step nodes
  case nil =>
    intro _
    rw [List.map_nil, lowerNodes_nil, lowerNodes_nil]
  case text =>
    intro s rest ih hp
    rw [List.map_cons, Node.rewrite_text, lowerNodes_text, lowerNodes_text,
      ih (Node.every_text_iff.mp hp).2]
  case interpolation =>
    intro exp rest ih hp
    rw [List.map_cons, Node.rewrite_interpolation, lowerNodes, lowerNodes, hr.interpolation,
      ih (Node.every_interpolation_iff.mp hp).2]
  case element =>
    intro e rest he ih hp
    obtain ⟨hnode, hbelow, hrest⟩ := Node.every_element_iff.mp hp
    rw [List.map_cons, Node.rewrite_element, lowerNodes_element, lowerNodes_element, ih hrest,
      he (hnode e (List.mem_singleton_self _)) hbelow]
  case group =>
    intro branches rest hbranches ih hp
    obtain ⟨hnode, hbelow, hrest⟩ := Node.every_group_iff.mp hp
    rw [List.map_cons, Node.rewrite_group, lowerNodes_group, lowerNodes_group, ih hrest,
      List.flatMap_map]
    congr 1
    exact List.flatMap_congr fun e he => hbranches e he (hnode e he) (hbelow e he)
  case step =>
    intro e ih he hbelow
    exact lowerElement_rewrite hr he hbelow (ih (every_site_children hbelow))

end Unseen

/-! ## Delays that do not look below an element -/

/-- Elements are delayed by a table, if at all. -/
def Options.DelaysByTable (o : Options) : Prop :=
  o.delay = none ∨ ∃ table, o.delay = some (.table table)

/-- A table looks only at the head of an element. -/
theorem Options.DelaysByTable.isDelayed_congr {o : Options} (ho : o.DelaysByTable)
    {e e' : Element} (h : e.toHead = e'.toHead) : o.isDelayed e = o.isDelayed e' := by
  rcases ho with hnone | ⟨table, htable⟩
  · rw [isDelayed, isDelayed, hnone]
    rfl
  · rw [isDelayed, isDelayed, htable, Option.any_some, Option.any_some, DelayRule.applies,
      DelayRule.applies, h]

end MiniTemplate
