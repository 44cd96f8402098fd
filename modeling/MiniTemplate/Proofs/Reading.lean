import MiniTemplate.Lowering.Element

/-!
# The reading of a template

Not everything in a template is written. A template that passes its only child to a slot gives way
to the child, and what stands inside an element closed in its opening tag is left out. The *reading*
of a template lists what is left, in document order: the elements that are written, each at its
`Site`, and the texts and interpolations, each as a `Leaf`.

Two facts make the recursion over a template simple. An element is lowered from its site alone
(`lowerElement_eq`), with the markup of the site's children as the only thing taken from below. And
what a rule can do at a site is one of five forms (`Site.lowered`), so that a property of the markup
is shown for `Options.assemble` and for blocks around it.
-/

namespace MiniTemplate

inductive Leaf where
  | text (s : String)
  | interpolation (exp : Expression)
deriving DecidableEq

/-- An element where it is written. With a carrier it stands in place of the template around it and
takes over that property from it; otherwise the rule for its role applies. -/
structure Site where
  element : Element
  carrier : Option Property

inductive Item where
  | leaf (l : Leaf)
  | site (s : Site)

namespace Element

/-- The property that a template hands on to its only child, which then stands in its place. -/
def handedOn? : Element → Option Property
  | ⟨h, [.element child]⟩ =>
    if h.role = .template ∧ h.loop = none ∧ child.loop = none ∧ child.role ≠ .slotOutlet then
      h.carrier?
    else
      none
  | _ => none

/-- The site that an element leads to: its own, or that of the child it gives way to. -/
def site (e : Element) : Site :=
  match e.handedOn?, e.children with
  | some p, [.element child] => ⟨child, some p⟩
  | _, _ => ⟨e, none⟩

end Element

/-- The condition that a component is put under, its own or a readiness guard. -/
def Options.componentCondition (o : Options) (h : Head) : Option Branch :=
  if o.syncProperties || h.branch.isSome || h.loop.isSome then h.branch
  else if o.isNative h.tag then some (.when readyCondition)
  else
    match h.bound? "u-p" with
    | none => none
    | some exp =>
      match o.serialize exp with
      | .ok condition => some (.when condition)
      | .error _ => none

namespace Site

/-- The markup of a site, from the markup of its children. -/
def lower (o : Options) (s : Site) (kids : List Markup) : List Markup :=
  match s.carrier with
  | some p => o.assemble { s.element.toHead with props := s.element.props ++ [p] } kids
  | none =>
    match s.element.role with
    | .slotOutlet => o.lowerOutlet s.element.toHead (!s.element.children.isEmpty) kids
    | .component => o.lowerComponent s.element.toHead kids
    | .template => o.assemble s.element.grouped kids
    | .plain =>
      if o.isDelayed s.element then o.lowerDelayed s.element.toHead kids
      else o.assemble s.element.toHead kids

/-- A slot outlet whose fallback content becomes a block of its own beside it. -/
def dividesFallback (o : Options) (s : Site) : Bool :=
  s.carrier.isNone && s.element.role == .slotOutlet && !s.element.children.isEmpty &&
    !o.slotFallback

/-- The head that the element is put together from, once the rule for its role has been applied. -/
def head (o : Options) (s : Site) : Head :=
  match s.carrier with
  | some p => { s.element.toHead with props := s.element.props ++ [p] }
  | none =>
    match s.element.role with
    | .slotOutlet =>
      if s.dividesFallback o then s.element.outlet.withBranch none else s.element.outlet
    | .component => s.element.toHead.withBranch (o.componentCondition s.element.toHead)
    | .template => s.element.grouped
    | .plain =>
      if o.isDelayed s.element && s.element.branch == some .otherwise then
        s.element.toHead.withBranch (some (.when readyCondition))
      else
        s.element.toHead

/-- The properties that the element is put together with: a slot outlet keeps those that concern its
name, and one that is taken over from a template comes last. -/
def given (s : Site) : List Property :=
  match s.carrier with
  | some p => s.element.props ++ [p]
  | none =>
    if s.element.role = .slotOutlet then s.element.props.filter Head.isNameProp
    else s.element.props

/-- The children of the element are left out: it is closed in its opening tag, and neither is it a
group without a tag of its own, nor is its fallback content written beside it. -/
def prunes (o : Options) (s : Site) : Bool :=
  s.element.selfClosing && !(s.head o).isTransparent && !s.dividesFallback o

end Site

mutual

/-- The reading of a node. A carrier is what the template around an only child hands on to it. -/
def Node.reading (o : Options) (carrier : Option Property) : Node → List Item
  | .element e => Element.reading o carrier e
  | .group branches => Element.readings o branches
  | .text s => [.leaf (.text s)]
  | .interpolation exp => [.leaf (.interpolation exp)]

/-- The reading of an element: that of its only child if it gives way to it, else the element and,
unless they are left out, its children. -/
def Element.reading (o : Options) (carrier : Option Property) : Element → List Item
  | ⟨h, children⟩ =>
    match carrier, Element.handedOn? ⟨h, children⟩ with
    | none, some p => Node.readings o (some p) children
    | _, _ =>
      .site ⟨⟨h, children⟩, carrier⟩ ::
        if Site.prunes o ⟨⟨h, children⟩, carrier⟩ then [] else Node.readings o none children

def Node.readings (o : Options) (carrier : Option Property) : List Node → List Item
  | [] => []
  | n :: rest => Node.reading o carrier n ++ Node.readings o carrier rest

def Element.readings (o : Options) : List Element → List Item
  | [] => []
  | e :: rest => Element.reading o none e ++ Element.readings o rest

end

/-- What a reading lists below a site. -/
def Site.below (o : Options) (s : Site) : List Item :=
  if s.prunes o then [] else Node.readings o none s.element.children

namespace Item

def leaf? : Item → Option Leaf
  | leaf l => some l
  | site _ => none

def site? : Item → Option Site
  | leaf _ => none
  | site s => some s

end Item

namespace Template

def reading (o : Options) (t : Template) : List Item := Node.readings o none t.nodes

/-- The texts and interpolations that are written, in document order. -/
def leaves (o : Options) (t : Template) : List Leaf := (t.reading o).filterMap Item.leaf?

/-- The elements that are written, in document order. -/
def sites (o : Options) (t : Template) : List Site := (t.reading o).filterMap Item.site?

end Template

/-! ## Lowering by sites -/

namespace Element

/-- A template without a child to give way to, and any other element, is at its own site. -/
theorem site_of_handedOn?_eq_none {e : Element} (h : e.handedOn? = none) : e.site = ⟨e, none⟩ := by
  rw [site, h]

/-- What a template needs in order to give way to its only child. -/
theorem handedOn?_eq_some {e : Element} {p : Property} (h : e.handedOn? = some p) :
    ∃ child, e.children = [.element child] ∧ e.role = .template ∧ e.carrier? = some p ∧
      e.loop = none ∧ child.loop = none ∧ child.role ≠ .slotOutlet := by
  unfold handedOn? at h
  split at h
  · next head child =>
    split at h
    · next hc =>
      obtain ⟨hrole, hloop, hchild, hout⟩ := hc
      exact ⟨child, rfl, hrole, h, hloop, hchild, hout⟩
    · cases h
  · cases h

/-- Only templates give way. -/
theorem site_of_role_ne_template {e : Element} (h : e.role ≠ .template) : e.site = ⟨e, none⟩ := by
  cases hand : e.handedOn? with
  | none => exact site_of_handedOn?_eq_none hand
  | some p =>
    obtain ⟨-, -, htemplate, -⟩ := handedOn?_eq_some hand
    exact absurd htemplate h

theorem site_of_handedOn?_eq_some {e child : Element} {p : Property} (h : e.handedOn? = some p)
    (hchild : e.children = [.element child]) : e.site = ⟨child, some p⟩ := by
  rw [site, h, hchild]

end Element

/-- The template gives way to its only child under the same circumstances in which that child's
head is put in its place. -/
theorem Head.spliced?_eq (h : Head) (children : List Node) (hrole : h.role = .template) :
    h.spliced? children =
      match Element.handedOn? ⟨h, children⟩, children with
      | some p, [.element child] => some { child.toHead with props := child.props ++ [p] }
      | _, _ => none := by
  match children with
  | [.element child] =>
    simp only [spliced?, Element.handedOn?, hrole]
    cases hc : h.carrier? <;> cases hl : h.loop <;> cases hcl : child.loop <;>
      by_cases hout : child.role = .slotOutlet <;> simp [hout, hcl]
  | [] => simp [spliced?]
  | .text _ :: _ => simp [spliced?]
  | .interpolation _ :: _ => simp [spliced?]
  | .group _ :: _ => simp [spliced?]
  | .element _ :: _ :: _ => simp [spliced?]

/-- An element is lowered from its site, and from below only the markup of the site's children
counts. -/
theorem lowerElement_eq (o : Options) (e : Element) :
    lowerElement o e = e.site.lower o (lowerNodes o e.site.element.children) := by
  obtain ⟨h, children⟩ := e
  rw [lowerElement]
  cases hand : Element.handedOn? ⟨h, children⟩ with
  | some p =>
    obtain ⟨⟨_, _⟩, hchildren, hrole, -, -, -, -⟩ := Element.handedOn?_eq_some hand
    simp only at hchildren hrole
    subst hchildren
    rw [Element.site_of_handedOn?_eq_some hand rfl]
    simp only [hrole, h.spliced?_eq _ hrole, hand, Site.lower]
    rw [lowerGrandchildren]
  | none =>
    rw [Element.site_of_handedOn?_eq_none hand]
    cases hrole : h.role with
    | template => simp only [Site.lower, hrole, h.spliced?_eq _ hrole, hand]
    | _ => simp only [Site.lower, hrole]

/-! ## What the rules do at a site -/

/-- The markup in a block under the condition, if there is one. -/
def Markup.under : Option Branch → List Markup → List Markup
  | none, forest => forest
  | some b, forest => [.block b forest]

/-- An outlet beside its fallback content: it is shown if its slot is filled, and the fallback
content otherwise. -/
def Options.choice (o : Options) (h : Head) (kids : List Markup) : List Markup :=
  [.block (.when ("$slots." ++ h.outlet.outletName)) (o.assemble (h.outlet.withBranch none) []),
    .block .otherwise kids]

namespace Site

/-- The condition on the block that a delayed element is put into. -/
def waiting (o : Options) (s : Site) : Option Branch :=
  if s.carrier.isNone && s.element.role == .plain && o.isDelayed s.element then
    match s.element.branch with
    | none => some (.when readyCondition)
    | some .otherwise => some .otherwise
    | some _ => none
  else
    none

/-- An outlet is divided unless the test of its rule holds. -/
theorem dividesFallback_outlet (o : Options) {e : Element} (hrole : e.role = .slotOutlet) :
    dividesFallback o ⟨e, none⟩ = !(!!e.children.isEmpty || o.slotFallback) := by
  simp [dividesFallback, hrole]

/-- The outlets whose fallback content goes beside them. -/
theorem dividesFallback_eq_true_iff (o : Options) (s : Site) :
    s.dividesFallback o = true ↔
      s.carrier = none ∧ s.element.role = .slotOutlet ∧ s.element.children ≠ [] ∧
        o.slotFallback = false := by
  simp [dividesFallback, and_assoc]

/-- What becomes of an outlet whose fallback content stands beside it. Its own condition goes to a
block around both. -/
theorem lower_of_divided {o : Options} {s : Site} (hdiv : s.dividesFallback o = true)
    (kids : List Markup) :
    s.lower o kids = Markup.under s.element.branch (o.choice s.element.toHead kids) := by
  obtain ⟨e, carrier⟩ := s
  obtain ⟨rfl, hrole, -, -⟩ := (dividesFallback_eq_true_iff ..).mp hdiv
  have htest : (!!e.children.isEmpty || o.slotFallback) = false := by
    rw [← Bool.not_eq_true', ← dividesFallback_outlet o hrole, hdiv]
  simp only at hrole
  simp only [lower, hrole, Options.lowerOutlet, htest, Bool.false_eq_true, if_false]
  cases e.branch <;> rfl

theorem head_of_divided {o : Options} {s : Site} (hdiv : s.dividesFallback o = true) :
    s.head o = s.element.outlet.withBranch none := by
  obtain ⟨e, carrier⟩ := s
  obtain ⟨rfl, hrole, -, -⟩ := (dividesFallback_eq_true_iff ..).mp hdiv
  simp only at hrole
  simp [head, hrole, hdiv]

/-- A component is put together under its condition, unless there is no text for a guard. Which of
the two it is does not depend on what it holds. -/
theorem lower_component (o : Options) {e : Element} (hrole : e.role = .component) :
    (∀ kids, lower o ⟨e, none⟩ kids = o.assemble (head o ⟨e, none⟩) kids) ∨
    ∃ exp err, o.serialize exp = .error err ∧
      ∀ kids, lower o ⟨e, none⟩ kids = [.fault (.expression err)] := by
  have hhead : head o ⟨e, none⟩ = e.toHead.withBranch (o.componentCondition e.toHead) := by
    simp only [head, hrole]
  rw [hhead]
  simp only [lower, hrole, Options.lowerComponent, Options.componentCondition]
  by_cases hheld : (o.syncProperties || e.branch.isSome || e.loop.isSome) = true
  · exact .inl fun kids => by simp only [hheld, if_true]; rfl
  · have hnone : e.branch = none := by
      cases hb : e.branch <;> simp_all
    simp only [hheld, if_false, Bool.false_eq_true]
    by_cases hnative : o.isNative e.tag = true
    · exact .inl fun kids => by simp only [hnative, if_true]
    · simp only [hnative, if_false, Bool.false_eq_true]
      cases e.bound? "u-p" with
      | none =>
        left
        intro kids
        show o.assemble e.toHead kids = o.assemble (e.toHead.withBranch none) kids
        rw [← hnone]
        rfl
      | some exp =>
        cases hser : o.serialize exp with
        | ok condition => exact .inl fun kids => by simp only [hser]
        | error err => exact .inr ⟨exp, err, hser, fun kids => by simp only [hser]⟩

/-- A plain element that has to wait is put into a block. -/
theorem lower_plain (o : Options) {e : Element} (hrole : e.role = .plain) (kids : List Markup) :
    lower o ⟨e, none⟩ kids =
      Markup.under (waiting o ⟨e, none⟩) (o.assemble (head o ⟨e, none⟩) kids) := by
  simp only [lower, waiting, head, hrole]
  cases hdelayed : o.isDelayed e with
  | false => rfl
  | true =>
    simp only [Options.lowerDelayed]
    cases e.branch with
    | none => rfl
    | some b => cases b <;> rfl

/-- An element that stays undivided is put together, in a block if it is delayed. -/
theorem lower_of_role_ne_component {o : Options} {s : Site} (hdiv : s.dividesFallback o = false)
    (hrole : s.element.role ≠ .component) (kids : List Markup) :
    s.lower o kids = Markup.under (s.waiting o) (o.assemble (s.head o) kids) := by
  obtain ⟨e, carrier⟩ := s
  cases carrier with
  | some p => rfl
  | none =>
    cases hr : e.role with
    | plain => exact lower_plain o hr kids
    | component => exact absurd hr hrole
    | template =>
      simp only [lower, waiting, head, hr]
      rfl
    | slotOutlet =>
      rw [dividesFallback_outlet o hr, Bool.not_eq_false'] at hdiv
      simp only [lower, waiting, head, hr, Options.lowerOutlet, dividesFallback_outlet o hr, hdiv]
      rfl

/-- What becomes of any other element: it is put together, in a block if it is delayed. -/
theorem lower_of_not_divided {o : Options} {s : Site} (hdiv : s.dividesFallback o = false) :
    (∀ kids, s.lower o kids = Markup.under (s.waiting o) (o.assemble (s.head o) kids)) ∨
    ∃ exp err, o.serialize exp = .error err ∧
      ∀ kids, s.lower o kids = [.fault (.expression err)] := by
  by_cases hrole : s.element.role = .component
  · obtain ⟨e, carrier⟩ := s
    cases carrier with
    | some p => exact .inl fun _ => rfl
    | none =>
      have hcomponent : e.role = .component := hrole
      have hwaiting : waiting o ⟨e, none⟩ = none := by simp [waiting, hcomponent]
      rw [hwaiting]
      exact lower_component o hcomponent
  · exact .inl (lower_of_role_ne_component hdiv hrole)

end Site

/-- The forms that the markup of a site can take. -/
inductive Site.Lowered (o : Options) (s : Site) (kids : List Markup) : List Markup → Prop
  | direct : s.dividesFallback o = false → Lowered o s kids (o.assemble (s.head o) kids)
  | delayed (b : Branch) : s.dividesFallback o = false →
      Lowered o s kids [.block b (o.assemble (s.head o) kids)]
  | divided (slot : String) : s.dividesFallback o = true →
      Lowered o s kids
        [.block (.when slot) (o.assemble (s.head o) []), .block .otherwise kids]
  | dividedUnder (b : Branch) (slot : String) : s.dividesFallback o = true →
      Lowered o s kids
        [.block b [.block (.when slot) (o.assemble (s.head o) []), .block .otherwise kids]]
  | fault {exp : Expression} {e : ExpressionError} : o.serialize exp = .error e →
      Lowered o s kids [.fault (.expression e)]

/-- The forms of the markup, where it does not matter which conditions the rules put around it. -/
theorem Site.lowered (o : Options) (s : Site) (kids : List Markup) :
    Lowered o s kids (s.lower o kids) := by
  cases hdiv : s.dividesFallback o with
  | true =>
    rw [lower_of_divided hdiv, Options.choice, ← head_of_divided hdiv]
    cases s.element.branch with
    | none => exact .divided _ hdiv
    | some b => exact .dividedUnder b _ hdiv
  | false =>
    rcases lower_of_not_divided hdiv with heq | ⟨exp, err, herror, heq⟩
    · rw [heq]
      cases s.waiting o with
      | none => exact .direct hdiv
      | some b => exact .delayed b hdiv
    · rw [heq]
      exact .fault herror

/-! ## What the rules leave as it is -/

namespace Site

/-- The rules may change the tag, the role and the condition of an element and choose among its
properties. The rest stays. -/
theorem head_fields (o : Options) (s : Site) :
    (s.head o).selfClosing = s.element.selfClosing ∧ (s.head o).loop = s.element.loop ∧
      (s.head o).props = s.given := by
  obtain ⟨e, carrier⟩ := s
  cases carrier with
  | some p => exact ⟨rfl, rfl, rfl⟩
  | none =>
    cases hrole : e.role with
    | slotOutlet =>
      simp only [head, given, hrole, if_pos]
      split <;> exact ⟨rfl, rfl, rfl⟩
    | plain =>
      simp only [head, given, hrole]
      split <;> exact ⟨rfl, rfl, rfl⟩
    | component =>
      simp only [head, given, hrole]
      exact ⟨rfl, rfl, rfl⟩
    | template =>
      simp only [head, given, hrole]
      exact ⟨rfl, rfl, rfl⟩

theorem head_selfClosing (o : Options) (s : Site) :
    (s.head o).selfClosing = s.element.selfClosing :=
  (s.head_fields o).1

theorem head_loop (o : Options) (s : Site) : (s.head o).loop = s.element.loop :=
  (s.head_fields o).2.1

theorem head_props (o : Options) (s : Site) : (s.head o).props = s.given :=
  (s.head_fields o).2.2

theorem below_of_prunes {o : Options} {s : Site} (h : s.prunes o = true) : s.below o = [] :=
  if_pos h

theorem below_of_keeps {o : Options} {s : Site} (h : s.prunes o = false) :
    s.below o = Node.readings o none s.element.children :=
  if_neg (by simp [h])

end Site

/-! ## Recursion over a template

A list of nodes is taken apart from the left. What is to be shown of an element follows from what
holds of the children at its site, so that the case of a template that gives way to its only child
does not come up again. -/

/-- Giving way to a child goes down in the template. -/
theorem Element.sizeOf_site_children_lt (e : Element) :
    sizeOf e.site.element.children < sizeOf e := by
  obtain ⟨h, children⟩ := e
  cases hand : handedOn? ⟨h, children⟩ with
  | none =>
    rw [site_of_handedOn?_eq_none hand, mk.sizeOf_spec]
    simp only
    omega
  | some p =>
    obtain ⟨⟨childHead, grandchildren⟩, hchildren, -⟩ := handedOn?_eq_some hand
    simp only at hchildren
    subst hchildren
    rw [site_of_handedOn?_eq_some hand rfl]
    simp only [mk.sizeOf_spec, Node.element.sizeOf_spec, List.cons.sizeOf_spec,
      List.nil.sizeOf_spec]
    omega

/-- Induction over nodes. What is to be shown of an element, `Q`, follows from what holds of the
children at its site. -/
@[elab_as_elim]
theorem nodes_induction {P : List Node → Prop} {Q : Element → Prop} (nil : P [])
    (text : ∀ s rest, P rest → P (.text s :: rest))
    (interpolation : ∀ exp rest, P rest → P (.interpolation exp :: rest))
    (element : ∀ e rest, Q e → P rest → P (.element e :: rest))
    (group : ∀ branches rest, (∀ e ∈ branches, Q e) → P rest → P (.group branches :: rest))
    (step : ∀ e : Element, P e.site.element.children → Q e) : ∀ nodes, P nodes := by
  have hrest (n : Node) (rest : List Node) : sizeOf rest < sizeOf (n :: rest) := by
    rw [List.cons.sizeOf_spec]
    omega
  intro nodes
  induction hn : sizeOf nodes using Nat.strongRecOn generalizing nodes with
  | _ n ih =>
    subst hn
    match nodes with
    | [] => exact nil
    | .text s :: rest => exact text s rest (ih _ (hrest ..) rest rfl)
    | .interpolation exp :: rest => exact interpolation exp rest (ih _ (hrest ..) rest rfl)
    | .element e :: rest =>
      -- the children at the site may be grandchildren, out of reach for a structural recursion
      have hsite := e.sizeOf_site_children_lt
      refine element e rest (step e (ih _ ?_ _ rfl)) (ih _ (hrest ..) rest rfl)
      simp only [List.cons.sizeOf_spec, Node.element.sizeOf_spec]
      omega
    | .group branches :: rest =>
      refine group branches rest (fun e he => step e (ih _ ?_ _ rfl)) (ih _ (hrest ..) rest rfl)
      have hsite := e.sizeOf_site_children_lt
      have hmem := List.sizeOf_lt_of_mem he
      simp only [List.cons.sizeOf_spec, Node.group.sizeOf_spec]
      omega

/-! ## Readings and markup, one node at a time -/

theorem lowerElements_eq_flatMap (o : Options) (branches : List Element) :
    lowerElements o branches = branches.flatMap (lowerElement o) := by
  induction branches with
  | nil => rw [lowerElements]; rfl
  | cons e rest ih => rw [lowerElements, ih, List.flatMap_cons]

@[simp] theorem lowerNodes_nil (o : Options) : lowerNodes o [] = [] := by rw [lowerNodes]

@[simp] theorem lowerNodes_text (o : Options) (s : String) (rest : List Node) :
    lowerNodes o (.text s :: rest) = .text s :: lowerNodes o rest := by
  rw [lowerNodes, lowerNode]
  rfl

@[simp] theorem lowerNodes_element (o : Options) (e : Element) (rest : List Node) :
    lowerNodes o (.element e :: rest) = lowerElement o e ++ lowerNodes o rest := by
  rw [lowerNodes, lowerNode]

@[simp] theorem lowerNodes_group (o : Options) (branches : List Element) (rest : List Node) :
    lowerNodes o (.group branches :: rest) =
      branches.flatMap (lowerElement o) ++ lowerNodes o rest := by
  rw [lowerNodes, lowerNode, lowerElements_eq_flatMap]

theorem lowerNodes_append (o : Options) (xs ys : List Node) :
    lowerNodes o (xs ++ ys) = lowerNodes o xs ++ lowerNodes o ys := by
  induction xs with
  | nil =>
    rw [lowerNodes_nil]
    rfl
  | cons n rest ih => rw [List.cons_append, lowerNodes, lowerNodes, ih, List.append_assoc]

/-- The reading of an element begins with its site. -/
theorem Element.reading_eq (o : Options) (e : Element) :
    e.reading o none = .site e.site :: e.site.below o := by
  obtain ⟨h, children⟩ := e
  cases hand : Element.handedOn? ⟨h, children⟩ with
  | none =>
    rw [site_of_handedOn?_eq_none hand]
    simp only [Element.reading, hand, Site.below]
  | some p =>
    obtain ⟨⟨childHead, grandchildren⟩, hchildren, -⟩ := handedOn?_eq_some hand
    simp only at hchildren
    subst hchildren
    rw [site_of_handedOn?_eq_some hand rfl]
    simp only [Element.reading, hand, Node.readings, Node.reading, List.append_nil, Site.below]

theorem Element.readings_eq_flatMap (o : Options) (branches : List Element) :
    Element.readings o branches = branches.flatMap (Element.reading o none) := by
  induction branches with
  | nil => rw [Element.readings]; rfl
  | cons e rest ih => rw [Element.readings, ih, List.flatMap_cons]

theorem Node.readings_append (o : Options) (carrier : Option Property) (xs ys : List Node) :
    Node.readings o carrier (xs ++ ys) =
      Node.readings o carrier xs ++ Node.readings o carrier ys := by
  induction xs with
  | nil =>
    rw [Node.readings]
    rfl
  | cons n rest ih =>
    rw [List.cons_append, Node.readings, Node.readings, ih, List.append_assoc]

/-- The reading of an element is its site and what is below it. -/
theorem Node.readings_element (o : Options) (e : Element) :
    Node.readings o none [.element e] = .site e.site :: e.site.below o := by
  rw [Node.readings, Node.reading, Node.readings, List.append_nil, Element.reading_eq]

/-- A group is read as its elements, one after the other. -/
theorem Node.readings_group (o : Options) (branches : List Element) :
    Node.readings o none [.group branches] = Node.readings o none (branches.map .element) := by
  rw [Node.readings, Node.reading, Node.readings, List.append_nil, Element.readings_eq_flatMap]
  induction branches with
  | nil =>
    rw [List.map_nil, Node.readings]
    rfl
  | cons e rest ih => rw [List.flatMap_cons, ih, List.map_cons, Node.readings, Node.reading]

/-- Nodes and their markup, taken together. A relation that is kept when nodes are put side by side
holds between all nodes and their markup if it holds for each kind of node. A group counts as its
elements, and what is to be shown of an element follows from what holds at its site. -/
theorem lowerNodes_induction (o : Options) {P : List Node → List Markup → Prop} (nil : P [] [])
    (append : ∀ xs ys f g, P xs f → P ys g → P (xs ++ ys) (f ++ g))
    (text : ∀ s, P [.text s] [.text s])
    (interpolation : ∀ exp code, o.serialize exp = .ok code →
      P [.interpolation exp] [.interpolation code])
    (refused : ∀ exp e, o.serialize exp = .error e →
      P [.interpolation exp] [.fault (.expression e)])
    (group : ∀ branches f, P (branches.map .element) f → P [.group branches] f)
    (element : ∀ e : Element, P e.site.element.children (lowerNodes o e.site.element.children) →
      P [.element e] (e.site.lower o (lowerNodes o e.site.element.children))) :
    ∀ nodes, P nodes (lowerNodes o nodes) := by
  refine nodes_induction (Q := fun e => P [.element e] (lowerElement o e))
    ?nil ?text ?interpolation ?element ?group ?step
  case nil =>
    rw [lowerNodes_nil]
    exact nil
  case text =>
    intro s rest ih
    rw [lowerNodes_text]
    exact append [_] rest [_] _ (text s) ih
  case interpolation =>
    intro exp rest ih
    rw [lowerNodes, lowerNode]
    refine append [_] rest _ _ ?_ ih
    cases hser : o.serialize exp with
    | ok code => exact interpolation exp code hser
    | error e => exact refused exp e hser
  case element =>
    intro e rest he ih
    rw [lowerNodes_element]
    exact append [_] rest _ _ he ih
  case group =>
    intro branches rest hbranches ih
    rw [lowerNodes_group]
    refine append [_] rest _ _ (group branches _ ?_) ih
    clear ih
    induction branches with
    | nil => exact nil
    | cons e branches ihb =>
      rw [List.map_cons, List.flatMap_cons]
      exact append [_] _ _ _ (hbranches e (List.mem_cons_self ..))
        (ihb fun e he => hbranches e (List.mem_cons_of_mem _ he))
  case step =>
    intro e ih
    rw [lowerElement_eq]
    exact element e ih

end MiniTemplate
