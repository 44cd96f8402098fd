import MiniTemplate.Proofs.Reading

/-!
# Well-formed templates

The conditions of a template are in order when its groups are chains, `if` first, then any number of
`else if` and at most one `else`, and no element outside of groups continues a chain.
`Node.withinAll` lists the nodes of a template at all depths, so that what is asked of every node is
asked once (`Node.Every`) and is passed on to the parts that the lowering recurs into.
-/

namespace MiniTemplate

/-- An element at this place belongs to no chain before it. -/
def Branch.opens : Option Branch → Bool
  | none => true
  | some (.when _) => true
  | some _ => false

/-- The later places of a chain: `else if`, with an `else` in last place only. -/
def Branch.continues : List (Option Branch) → Bool
  | [] => true
  | [some .otherwise] => true
  | some (.elseWhen _) :: rest => continues rest
  | _ => false

/-- The places of a chain, which begins with an `if`. -/
def Branch.isChain : List (Option Branch) → Bool
  | [] => true
  | some (.when _) :: rest => continues rest
  | _ => false

mutual

/-- A node and the nodes below it. The elements of a group are no nodes of their own. -/
def Node.within : Node → List Node
  | .element ⟨h, children⟩ => .element ⟨h, children⟩ :: Node.withinAll children
  | .group branches => .group branches :: Element.belowAll branches
  | .text s => [.text s]
  | .interpolation exp => [.interpolation exp]

def Node.withinAll : List Node → List Node
  | [] => []
  | n :: rest => Node.within n ++ Node.withinAll rest

/-- The nodes below the elements of a group. -/
def Element.belowAll : List Element → List Node
  | [] => []
  | ⟨_, children⟩ :: rest => Node.withinAll children ++ Element.belowAll rest

end

def Node.elements : Node → List Element
  | .element e => [e]
  | .group branches => branches
  | _ => []

/-- The conditions at a node are in order: a group is a chain, and an element outside of groups
continues none. -/
def Node.isChained : Node → Bool
  | .element e => Branch.opens e.branch
  | .group branches => Branch.isChain (branches.map (·.branch))
  | _ => true

namespace Template

def elements (t : Template) : List Element := (Node.withinAll t.nodes).flatMap Node.elements

/-- The groups of the template are chains, and an element closed in its opening tag is empty. -/
structure IsWellFormed (t : Template) : Prop where
  chained : ∀ n ∈ Node.withinAll t.nodes, n.isChained = true
  closed_empty : ∀ e ∈ t.elements, e.selfClosing = true → e.children = []

end Template

/-- Every node among and below the nodes has the property. -/
def Node.Every (p : Node → Prop) (nodes : List Node) : Prop := ∀ n ∈ withinAll nodes, p n

namespace Node

theorem withinAll_append (xs ys : List Node) :
    withinAll (xs ++ ys) = withinAll xs ++ withinAll ys := by
  induction xs with
  | nil =>
    rw [withinAll]
    rfl
  | cons n rest ih => rw [List.cons_append, withinAll, withinAll, ih, List.append_assoc]

theorem mem_within_self (n : Node) : n ∈ n.within := by
  match n with
  | .element ⟨h, children⟩ => simp [within]
  | .group branches => simp [within]
  | .text s => simp [within]
  | .interpolation exp => simp [within]

theorem mem_belowAll_iff {branches : List Element} {n : Node} :
    n ∈ Element.belowAll branches ↔ ∃ e ∈ branches, n ∈ withinAll e.children := by
  induction branches with
  | nil => simp [Element.belowAll]
  | cons e rest ih =>
    obtain ⟨h, children⟩ := e
    simp [Element.belowAll, ih]

variable {p : Node → Prop}

theorem every_append_iff {xs ys : List Node} : Every p (xs ++ ys) ↔ Every p xs ∧ Every p ys := by
  simp only [Every, withinAll_append, List.mem_append, or_imp, forall_and]

theorem every_rest {n : Node} {rest : List Node} (h : Every p (n :: rest)) : Every p rest := by
  rw [← List.singleton_append, every_append_iff] at h
  exact h.2

theorem every_text_iff {s : String} {rest : List Node} :
    Every p (.text s :: rest) ↔ p (.text s) ∧ Every p rest := by
  rw [← List.singleton_append, every_append_iff]
  simp [Every, withinAll, within]

theorem every_interpolation_iff {exp : Expression} {rest : List Node} :
    Every p (.interpolation exp :: rest) ↔ p (.interpolation exp) ∧ Every p rest := by
  rw [← List.singleton_append, every_append_iff]
  simp [Every, withinAll, within]

/-- Every node at and below an element: itself, those below it, and the rest. -/
theorem every_element_iff {e : Element} {rest : List Node} :
    Every p (.element e :: rest) ↔ p (.element e) ∧ Every p e.children ∧ Every p rest := by
  have hsingle : Every p [.element e] ↔ p (.element e) ∧ Every p e.children := by
    obtain ⟨h, children⟩ := e
    simp [Every, withinAll, within]
  rw [← List.singleton_append, every_append_iff, hsingle, and_assoc]

/-- Every node at and below a group: itself, those below its elements, and the rest. -/
theorem every_group_iff {branches : List Element} {rest : List Node} :
    Every p (.group branches :: rest) ↔
      p (.group branches) ∧ (∀ e ∈ branches, Every p e.children) ∧ Every p rest := by
  have hsingle : Every p [.group branches] ↔
      p (.group branches) ∧ ∀ e ∈ branches, Every p e.children := by
    simp only [Every, withinAll, within, List.append_nil, List.mem_cons, forall_eq_or_imp,
      mem_belowAll_iff]
    exact and_congr_right fun _ =>
      ⟨fun h e he n hn => h n ⟨e, he, hn⟩, fun h n ⟨e, he, hn⟩ => h e he n hn⟩
  rw [← List.singleton_append, every_append_iff, hsingle, and_assoc]

/-- What holds at all depths holds of the nodes themselves. -/
theorem every_of_mem {nodes : List Node} (h : Every p nodes) {n : Node} (hn : n ∈ nodes) :
    p n := by
  induction nodes with
  | nil => cases hn
  | cons first rest ih =>
    rcases List.mem_cons.mp hn with rfl | hn
    · apply h
      rw [withinAll]
      exact List.mem_append_left _ n.mem_within_self
    · exact ih (every_rest h) hn

end Node

/-- What holds below an element holds below its site. -/
theorem every_site_children {p : Node → Prop} {e : Element} (h : Node.Every p e.children) :
    Node.Every p e.site.element.children := by
  cases hand : e.handedOn? with
  | none =>
    rw [e.site_of_handedOn?_eq_none hand]
    exact h
  | some carrier =>
    obtain ⟨child, hchildren, -⟩ := e.handedOn?_eq_some hand
    rw [e.site_of_handedOn?_eq_some hand hchildren]
    rw [hchildren] at h
    exact (Node.every_element_iff.mp h).2.1

end MiniTemplate
