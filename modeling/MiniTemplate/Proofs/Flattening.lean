import MiniTemplate.Proofs.Assembly
import MiniTemplate.Proofs.Rewriting

/-!
# Bare groups

A *bare group* is an element that only holds other nodes together: a `block`, a `template` or an
element in the role of a template, without properties, condition and repetition. In most lists of
nodes it can be replaced by its children, at any depth and all at once, without a trace in the
markup. `Template.flat` does so until no such group is left (`isFlat_flat`).

There are two kinds of lists where it matters whether a group is there. A slot outlet asks whether
it has fallback content at all, and a template that is given to a slot asks whether it has an only
child. These lists are kept as they are, and only what stands below their elements is flattened.
-/

namespace MiniTemplate

namespace Head

/-- The element only holds its children together. -/
def isBareGroup (h : Head) : Bool :=
  h.isBare && (h.role == .template || h.role == .plain && (h.tag == "block" || h.tag == "template"))

/-- No rule looks at the list of the element's children. -/
def flattens (h : Head) : Bool :=
  match h.role with
  | .plain => true
  | .component => true
  | .template => h.carrier?.isNone
  | .slotOutlet => false

end Head

/-- The children of a bare group in its place, and any other node itself. -/
def Node.ungrouped : Node → List Node
  | .element e => if e.isBareGroup then e.children else [.element e]
  | n => [n]

/-- Takes the bare groups out of all lists of children in which they can be missed. -/
def flattening : Rewriting where
  children h nodes := if h.flattens then nodes.flatMap Node.ungrouped else nodes

/-- The template without bare groups, wherever these can be missed. -/
def Template.flat (t : Template) : Template :=
  ⟨(t.nodes.map (Node.rewrite flattening)).flatMap Node.ungrouped⟩

/-- No bare group is a child of the element, unless the list of its children has to be kept. -/
def Element.IsFlat (e : Element) : Prop :=
  e.flattens = true → ∀ child, .element child ∈ e.children → child.isBareGroup = false

/-- No bare group is left where it can be missed. -/
structure Template.IsFlat (t : Template) : Prop where
  top : ∀ e, .element e ∈ t.nodes → e.isBareGroup = false
  below : ∀ e ∈ t.elements, e.IsFlat

/-! ## Bare groups leave no markup -/

namespace Head

variable {h : Head}

theorem props_of_isBare (hbare : h.isBare = true) : h.props = [] := by
  simp only [isBare, Bool.and_eq_true, List.isEmpty_iff] at hbare
  exact hbare.1.1

theorem carrier?_of_isBare (hbare : h.isBare = true) : h.carrier? = none := by
  rw [carrier?, props_of_isBare hbare, List.find?_nil]

/-- A bare group has no properties and is a template, or it is a plain element under the name of a
group. -/
theorem isBareGroup_cases (hgroup : h.isBareGroup = true) :
    h.isBare = true ∧
      (h.role = .template ∨ h.role = .plain ∧ (h.tag = "block" ∨ h.tag = "template")) := by
  simpa [isBareGroup] using hgroup

/-- The children of a bare group may be changed: they end up in the list around it. -/
theorem flattens_of_isBareGroup (hgroup : h.isBareGroup = true) : h.flattens = true := by
  obtain ⟨hbare, hrole | ⟨hrole, -⟩⟩ := isBareGroup_cases hgroup
  · simp [flattens, hrole, carrier?_of_isBare hbare]
  · simp [flattens, hrole]

theorem isTransparent_grouped_of_isBare (hbare : h.isBare = true) :
    h.grouped.isTransparent = true := by
  have hgrouped : h.grouped.isBare = true := hbare
  have htag : h.grouped.resolvedTag = "block" := by
    simp [resolvedTag, grouped, carrier?_of_isBare hbare]
  rw [isTransparent, hgrouped, htag]
  rfl

theorem isTransparent_of_isBare (hbare : h.isBare = true)
    (htag : h.tag = "block" ∨ h.tag = "template") : h.isTransparent = true := by
  rcases htag with htag | htag
  · simp [isTransparent, hbare, resolvedTag, htag]
  · simp [isTransparent, hbare, resolvedTag, htag, prop?, props_of_isBare hbare]

end Head

/-- The element is no bare group that has to wait. Only plain elements can have to. -/
def Element.IsNoDelayedGroup (o : Options) (e : Element) : Prop :=
  e.isBareGroup = true → e.role = .plain → o.isDelayed e = false

/-- A bare group that does not have to wait is lowered to the markup of its children, whether or not
it is closed in its opening tag. -/
theorem lowerElement_of_isBareGroup {o : Options} {e : Element} (hgroup : e.isBareGroup = true)
    (he : e.IsNoDelayedGroup o) : lowerElement o e = lowerNodes o e.children := by
  obtain ⟨hbare, hcases⟩ := Head.isBareGroup_cases hgroup
  have hhand : e.handedOn? = none := by
    apply e.handedOn?_eq_none_of_not_carrying
    simp [Head.carrier?_of_isBare hbare]
  rw [lowerElement_eq, e.site_of_handedOn?_eq_none hhand]
  rcases hcases with hrole | ⟨hrole, htag⟩
  · simp only [Site.lower, hrole]
    exact o.assemble_of_isTransparent (Head.isTransparent_grouped_of_isBare hbare) _
  · simp only [Site.lower, hrole, he hgroup hrole, Bool.false_eq_true, if_false]
    exact o.assemble_of_isTransparent (Head.isTransparent_of_isBare hbare htag) _

/-- Bare groups that do not have to wait can be replaced by their children. -/
theorem lowerNodes_flatMap_ungrouped {o : Options} (nodes : List Node)
    (hnodes : ∀ e, .element e ∈ nodes → e.IsNoDelayedGroup o) :
    lowerNodes o (nodes.flatMap Node.ungrouped) = lowerNodes o nodes := by
  induction nodes with
  | nil => rw [List.flatMap_nil]
  | cons n rest ih =>
    have hrest := ih fun e he => hnodes e (List.mem_cons_of_mem _ he)
    rw [List.flatMap_cons, lowerNodes_append, hrest, ← List.singleton_append, lowerNodes_append]
    congr 1
    match n with
    | .element e =>
      rw [Node.ungrouped]
      split
      · next hgroup =>
        rw [lowerNodes_element, lowerNodes_nil, List.append_nil]
        exact (lowerElement_of_isBareGroup hgroup (hnodes e (List.mem_cons_self ..))).symm
      · rfl
    | .group branches => rfl
    | .text s => rfl
    | .interpolation exp => rfl

/-! ## Flattening is not seen -/

/-- The lowering of a site looks at the children only by their markup and, if it is a slot outlet,
by whether there are any. -/
theorem Site.lower_congr {o : Options} {e e' : Element} (hhead : e'.toHead = e.toHead)
    (hempty : e.role = .slotOutlet → e'.children.isEmpty = e.children.isEmpty)
    (hdelayed : o.isDelayed e' = o.isDelayed e) (carrier : Option Property)
    (kids : List Markup) :
    Site.lower o ⟨e', carrier⟩ kids = Site.lower o ⟨e, carrier⟩ kids := by
  cases carrier with
  | some p => simp only [lower, hhead]
  | none =>
    cases hrole : e.role with
    | slotOutlet => simp only [lower, hhead, hrole, hempty hrole]
    | component => simp only [lower, hhead, hrole]
    | template => simp only [lower, hhead, hrole]
    | plain => simp only [lower, hhead, hrole, hdelayed]

theorem Element.rewrite_flattening_toHead (e : Element) :
    (e.rewrite flattening).toHead = e.toHead :=
  e.rewrite_toHead flattening

theorem Element.IsNoDelayedGroup.rewrite {o : Options} (ho : o.DelaysByTable) {e : Element}
    (he : e.IsNoDelayedGroup o) : (e.rewrite flattening).IsNoDelayedGroup o := by
  intro hgroup hrole
  rw [e.rewrite_flattening_toHead] at hgroup hrole
  rw [ho.isDelayed_congr e.rewrite_flattening_toHead]
  exact he hgroup hrole

/-- No rule sees that bare groups were taken out. -/
theorem flattening_unseen {o : Options} (ho : o.DelaysByTable) :
    flattening.Unseen o o (Element.IsNoDelayedGroup o) where
  role _ := rfl
  loop _ := rfl
  carrier _ _ := rfl
  children h nodes hrole hcarrier := by
    have hkept : h.flattens = false := by
      rw [Head.flattens, hrole]
      simpa using hcarrier
    simp [flattening, hkept]
  interpolation _ := rfl
  site := by
    rintro ⟨e, carrier⟩ - - kids
    have hhead := e.rewrite_flattening_toHead
    refine Site.lower_congr hhead ?_ (ho.isDelayed_congr hhead) carrier kids
    intro hrole
    simp [flattening, Head.flattens, hrole]
  list h nodes hnodes := by
    simp only [flattening]
    split
    · refine lowerNodes_flatMap_ungrouped _ fun e he => ?_
      obtain ⟨source, hsource, rfl⟩ := Node.exists_of_element_mem_map_rewrite he
      exact (hnodes source hsource).rewrite ho
    · rfl

/-! ## Nothing is left to flatten -/

namespace Node

variable {q : Node → Prop}

/-- What holds of all nodes of a list holds of them without bare groups. -/
theorem every_flatMap_ungrouped {nodes : List Node} (h : Every q nodes) :
    Every q (nodes.flatMap ungrouped) := by
  induction nodes with
  | nil => exact h
  | cons n rest ih =>
    rw [← List.singleton_append, every_append_iff] at h
    rw [List.flatMap_cons, every_append_iff]
    refine ⟨?_, ih h.2⟩
    match n with
    | .element e =>
      rw [ungrouped]
      split
      · exact (every_element_iff.mp h.1).2.1
      · exact h.1
    | .group _ => exact h.1
    | .text _ => exact h.1
    | .interpolation _ => exact h.1

/-- A list whose elements are flat has no bare group left once its own are taken out. -/
theorem isBareGroup_of_mem_flatMap_ungrouped {nodes : List Node}
    (h : Every (EachElement Element.IsFlat) nodes) {e : Element}
    (he : .element e ∈ nodes.flatMap ungrouped) : e.isBareGroup = false := by
  obtain ⟨n, hn, he⟩ := List.mem_flatMap.mp he
  match n with
  | .element source =>
    have hflat : source.IsFlat := every_of_mem h hn source (List.mem_singleton_self _)
    rw [ungrouped] at he
    split at he
    · next hgroup => exact hflat (Head.flattens_of_isBareGroup hgroup) e he
    · next hgroup =>
      cases List.mem_singleton.mp he
      simpa using hgroup
  | .group _ => cases List.mem_singleton.mp he
  | .text _ => cases List.mem_singleton.mp he
  | .interpolation _ => cases List.mem_singleton.mp he

end Node

/-- The step of the recursion: with flat children, an element becomes flat by taking out the bare
groups among them. -/
theorem Element.isFlat_rewrite {e : Element}
    (h : Node.Every (Node.EachElement Element.IsFlat) (e.children.map (Node.rewrite flattening))) :
    (e.rewrite flattening).IsFlat ∧
      Node.Every (Node.EachElement Element.IsFlat) (e.rewrite flattening).children := by
  rw [IsFlat, rewrite_flattening_toHead, rewrite_children]
  simp only [flattening]
  cases hflattens : e.flattens with
  | true =>
    rw [if_pos rfl]
    exact ⟨fun _ child => Node.isBareGroup_of_mem_flatMap_ungrouped h,
      Node.every_flatMap_ungrouped h⟩
  | false =>
    rw [if_neg Bool.false_ne_true]
    exact ⟨fun htrue => absurd htrue Bool.false_ne_true, h⟩

/-- After flattening, every list of children that may be changed is without bare groups. -/
theorem every_isFlat_rewrite (nodes : List Node) :
    Node.Every (Node.EachElement Element.IsFlat) (nodes.map (Node.rewrite flattening)) := by
  refine tree_induction
    (Q := fun e => (e.rewrite flattening).IsFlat ∧
      Node.Every (Node.EachElement Element.IsFlat) (e.rewrite flattening).children)
    ?nil ?text ?interpolation ?element ?group ?step nodes
  case nil => simp [Node.Every, Node.withinAll]
  case text =>
    intro s rest ih
    rw [List.map_cons, Node.rewrite_text, Node.every_text_iff]
    exact ⟨List.forall_mem_nil _, ih⟩
  case interpolation =>
    intro exp rest ih
    rw [List.map_cons, Node.rewrite_interpolation, Node.every_interpolation_iff]
    exact ⟨List.forall_mem_nil _, ih⟩
  case element =>
    intro e rest he ih
    rw [List.map_cons, Node.rewrite_element, Node.every_element_iff]
    refine ⟨fun child hchild => ?_, he.2, ih⟩
    cases List.mem_singleton.mp hchild
    exact he.1
  case group =>
    intro branches rest hbranches ih
    rw [List.map_cons, Node.rewrite_group, Node.every_group_iff]
    refine ⟨fun e he => ?_, fun e he => ?_, ih⟩
    · obtain ⟨source, hsource, rfl⟩ := List.mem_map.mp he
      exact (hbranches source hsource).1
    · obtain ⟨source, hsource, rfl⟩ := List.mem_map.mp he
      exact (hbranches source hsource).2
  case step =>
    intro e ih
    exact Element.isFlat_rewrite ih

theorem Template.isFlat_flat (t : Template) : t.flat.IsFlat where
  top _ := Node.isBareGroup_of_mem_flatMap_ungrouped (every_isFlat_rewrite t.nodes)
  below e he := by
    obtain ⟨n, hn, he⟩ := List.mem_flatMap.mp he
    exact Node.every_flatMap_ungrouped (every_isFlat_rewrite t.nodes) n hn e he

/-- **Bare groups are transparent.** Let no function decide on delays, and let no bare group of the
template have to wait. Then the template without bare groups, at any depth where they can be missed,
compiles to the same text or to the same fault; and indeed none is left there. -/
theorem bare_groups_are_transparent (o : Options) (t : Template) (hdelay : o.DelaysByTable)
    (hgroups : ∀ e ∈ t.elements, e.isBareGroup = true → e.role = .plain →
      o.isDelayed e = false) :
    compile o t.flat = compile o t ∧ t.flat.IsFlat := by
  have hevery : Node.Every (Node.EachElement (Element.IsNoDelayedGroup o)) t.nodes :=
    fun n hn e he => hgroups e (List.mem_flatMap.mpr ⟨n, hn, he⟩)
  have htop : ∀ e, .element e ∈ t.nodes.map (Node.rewrite flattening) →
      e.IsNoDelayedGroup o := by
    intro e he
    obtain ⟨source, hsource, rfl⟩ := Node.exists_of_element_mem_map_rewrite he
    have hnode := Node.every_of_mem hevery hsource
    exact (hnode source (List.mem_singleton_self _)).rewrite hdelay
  have hsame : lowerNodes o t.flat.nodes = lowerNodes o t.nodes := by
    rw [Template.flat, lowerNodes_flatMap_ungrouped _ htop,
      lowerNodes_rewrite (flattening_unseen hdelay) t.nodes hevery]
  exact ⟨by rw [compile, compile, hsame], t.isFlat_flat⟩

/-- The outer group and the closed one in it go. The group that is all the fallback content of the
outlet stays, as does the only child of the template that is given to a slot; only the groups inside
these two go. -/
theorem bare_groups_are_transparent_kept :
    Template.flat
      ⟨[.element ⟨{ tag := "block" },
          [.element ⟨{ tag := "template", selfClosing := true }, [.text "a"]⟩,
            .element ⟨{ tag := "slot", role := .slotOutlet },
              [.element ⟨{ tag := "block" }, [.element ⟨{ tag := "block" }, [.text "b"]⟩]⟩]⟩]⟩,
        .element
          ⟨{ tag := "template", role := .template, props := [.directive { name := "slot" }] },
          [.element ⟨{ tag := "block" }, [.element ⟨{ tag := "block" }, [.text "c"]⟩]⟩]⟩]⟩ =
      ⟨[.text "a",
        .element ⟨{ tag := "slot", role := .slotOutlet },
          [.element ⟨{ tag := "block" }, [.text "b"]⟩]⟩,
        .element
          ⟨{ tag := "template", role := .template, props := [.directive { name := "slot" }] },
          [.element ⟨{ tag := "block" }, [.text "c"]⟩]⟩]⟩ ∧
    compile
      { fileName := "t.wxml", mark := "wx:",
        delay := some (.table [("block", .whenAny [⟨.on, ["tap"]⟩]), ("view", .always)]) }
      ⟨[.element ⟨{ tag := "block" },
          [.element ⟨{ tag := "template", selfClosing := true }, [.text "a"]⟩,
            .element ⟨{ tag := "slot", role := .slotOutlet },
              [.element ⟨{ tag := "block" }, [.element ⟨{ tag := "block" }, [.text "b"]⟩]⟩]⟩]⟩,
        .element
          ⟨{ tag := "template", role := .template, props := [.directive { name := "slot" }] },
          [.element ⟨{ tag := "block" }, [.element ⟨{ tag := "block" }, [.text "c"]⟩]⟩]⟩]⟩ =
      .ok ("a<block wx:if=\"\x7b\x7b$slots.d\x7d\x7d\"><slot></slot></block>" ++
        "<block wx:else>b</block><block>c</block>") :=
  ⟨rfl, ((bare_groups_are_transparent _ _ (.inr ⟨_, rfl⟩) (by decide)).1.symm).trans rfl⟩

end MiniTemplate
