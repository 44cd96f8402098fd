import MiniTemplate.Proofs.Placement

/-!
# Nothing is lost, nothing is made up

The text of a compiled template is that of a forest of properly nested tags. Every tag in it is the
tag of one element of the template, or a block that the rules put around others; every attribute is
a control attribute or comes from one property; and the leaves are those of the template, in
document order and each of them once, except for what stands inside an element that leaves its
children out (`Site.prunes`).
-/

namespace MiniTemplate

open Markup

/-- The node belongs to one of the sites. A tag is either a block under one condition or the tag of
an element, and then each of its attributes is a condition, part of the element's repetition, or
made from one of its properties. -/
def Markup.Sourced (o : Options) (sites : List Site) : Markup → Prop
  | .text _ => True
  | .interpolation _ => True
  | .tag name attrs _ _ =>
    (name = "block" ∧ ∃ b, attrs = [.branch b]) ∨
      ∃ s ∈ sites, name = o.tagName (s.head o) ∧
        ∀ a ∈ attrs, (∃ b, a = .branch b) ∨ a ∈ (o.repetition (s.head o)).attrs ∨
          ∃ p ∈ (s.head o).props,
            a ∈ o.propertyAttrs (s.head o) (o.isUserComponent (s.head o) && o.mergeVirtualHost) p
  | .fault _ => False

/-- Where a node has its place tells where all that is on it comes from. -/
theorem sourced_of_placed {o : Options} {sites : List Site} {m : Markup} (h : m.Placed o sites) :
    m.Sourced o sites := by
  cases h with
  | text s => trivial
  | interpolation code => trivial
  | block b kids => exact .inl ⟨rfl, b, rfl⟩
  | @own s hs kids =>
    refine .inr ⟨s, hs, rfl, ?_⟩
    intro a ha
    rcases List.mem_append.mp ha with ha | ha
    · exact .inl (Head.exists_of_mem_control ha)
    · exact .inr (o.mem_ownAttrs ha)

/-- Every written node that is not at fault belongs to a site of the reading. -/
theorem sourced_lowerNodes (o : Options) (nodes : List Node) :
    ∀ m ∈ written (lowerNodes o nodes), m.IsSound →
      m.Sourced o ((Node.readings o none nodes).filterMap Item.site?) := by
  intro m hm hsound
  exact sourced_of_placed (allPlaced_lowerNodes o nodes m hm hsound)

/-! ## The text of a template -/

/-- **Conservation.** The text of a template is that of a forest without faults. Each of its tags is
a block under one condition or the tag of one written element, with attributes that are control
attributes or come from one property of it, and its leaves are, one by one and in document order,
the texts and interpolations of the template outside of what is left out. -/
theorem compile_conserves (o : Options) (t : Template) (code : String)
    (h : compile o t = .ok code) :
    ∃ forest : List Markup,
      code = renderForest o.mark forest ∧ Sound forest ∧
      (∀ m ∈ written forest, m.Sourced o (t.sites o)) ∧
      List.Forall₂ (Leaf.WrittenAs o) (t.leaves o) (Markup.leaves forest) := by
  obtain ⟨hsound, hcode⟩ := (compile_eq_ok_iff o t code).mp h
  refine ⟨lowerNodes o t.nodes, hcode, hsound, ?_, ?_⟩
  · intro m hm
    exact sourced_lowerNodes o t.nodes m hm (hsound m hm)
  · exact (arranged_lowerNodes o t.nodes hsound).leaves fun _ _ => And.right

/-- An outlet with fallback content is written as two blocks, with the fallback text in the second;
the text inside the closed `input` is left out. -/
theorem compile_conserves_fallback :
    ∃ forest : List Markup,
      "<view id=\"v\">a\x7b\x7bx\x7d\x7d</view>" ++
        "<block wx:if=\"\x7b\x7b$slots.d\x7d\x7d\"><slot></slot></block>" ++
        "<block wx:else>b</block><input/>" = renderForest "wx:" forest ∧
      Sound forest ∧
      (∀ m ∈ written forest, m.Sourced { fileName := "t.wxml", mark := "wx:" }
        [⟨⟨{ tag := "view", props := [.attr "id" "v"] },
            [.text "a", .interpolation (.dynamic "x")]⟩, none⟩,
          ⟨⟨{ tag := "slot", role := .slotOutlet }, [.text "b"]⟩, none⟩,
          ⟨⟨{ tag := "input", selfClosing := true }, [.text "c"]⟩, none⟩]) ∧
      List.Forall₂ (Leaf.WrittenAs { fileName := "t.wxml", mark := "wx:" })
        [.text "a", .interpolation (.dynamic "x"), .text "b"] (Markup.leaves forest) :=
  compile_conserves { fileName := "t.wxml", mark := "wx:" } ⟨[
    .element ⟨{ tag := "view", props := [.attr "id" "v"] },
      [.text "a", .interpolation (.dynamic "x")]⟩,
    .element ⟨{ tag := "slot", role := .slotOutlet }, [.text "b"]⟩,
    .element ⟨{ tag := "input", selfClosing := true }, [.text "c"]⟩]⟩ _ rfl

end MiniTemplate
