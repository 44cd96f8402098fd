import MiniTemplate.Proofs.Arrangement

/-!
# Where the nodes of a forest come from

A node of the markup of a template has one of three origins. It is a leaf, or a block that a rule
has put under a condition, or the own tag of an element at its site, with the condition that the
element leaves on its tag and with its own attributes. `allPlaced_lowerNodes` shows this of every
node that is written and not at fault, so that what is to hold of all tags of a compiled template is
shown for blocks and for own tags.
-/

namespace MiniTemplate

open Markup

/-- The origin of a written node. -/
inductive Markup.Placed (o : Options) (sites : List Site) : Markup → Prop
  | text (s : String) : Placed o sites (.text s)
  | interpolation (code : String) : Placed o sites (.interpolation code)
  | block (b : Branch) (kids : List Markup) : Placed o sites (.block b kids)
  | own {s : Site} (hs : s ∈ sites) (kids : List Markup) :
      Placed o sites (o.ownTag (s.head o) (s.head o).control kids)

theorem Markup.Placed.mono {o : Options} {sites sites' : List Site} {m : Markup}
    (h : m.Placed o sites) (hsub : sites ⊆ sites') : m.Placed o sites' := by
  cases h with
  | text s => exact .text s
  | interpolation code => exact .interpolation code
  | block b kids => exact .block b kids
  | own hs kids => exact .own (hsub hs) kids

/-- All written nodes that are not at fault have their origin at the sites. -/
def AllPlaced (o : Options) (sites : List Site) (forest : List Markup) : Prop :=
  ∀ m ∈ written forest, m.IsSound → m.Placed o sites

namespace AllPlaced

variable {o : Options} {sites : List Site} {s : Site} {kids : List Markup}

theorem nil : AllPlaced o sites [] := by
  intro m hm
  cases hm

theorem append {f g : List Markup} (hf : AllPlaced o sites f) (hg : AllPlaced o sites g) :
    AllPlaced o sites (f ++ g) := by
  intro m hm
  rw [written_append] at hm
  rcases List.mem_append.mp hm with hm | hm
  · exact hf m hm
  · exact hg m hm

theorem mono {sites' : List Site} {forest : List Markup} (h : AllPlaced o sites forest)
    (hsub : sites ⊆ sites') : AllPlaced o sites' forest := by
  intro m hm hsound
  exact (h m hm hsound).mono hsub

theorem leaf {m : Markup} (hm : m.Placed o sites) (hleaf : within m = [m]) :
    AllPlaced o sites [m] := by
  intro n hn _
  rw [written_cons, hleaf] at hn
  rw [List.mem_singleton.mp hn]
  exact hm

theorem block (b : Branch) (hkids : AllPlaced o sites kids) :
    AllPlaced o sites [.block b kids] := by
  intro m hm hsound
  have hcases : m = .block b kids ∨ m ∈ written kids := by
    simpa [Markup.block, within] using hm
  rcases hcases with rfl | hm
  · exact .block b kids
  · exact hkids m hm hsound

theorem ownTag (hs : s ∈ sites) (hkids : (s.head o).selfClosing = false → AllPlaced o sites kids) :
    AllPlaced o sites [o.ownTag (s.head o) (s.head o).control kids] := by
  intro m hm hsound
  have hcases : m = o.ownTag (s.head o) (s.head o).control kids ∨
      (s.head o).selfClosing = false ∧ m ∈ written kids := by
    cases hsc : (s.head o).selfClosing <;> simp_all [Options.ownTag, within]
  rcases hcases with rfl | ⟨hsc, hm⟩
  · exact .own hs kids
  · exact hkids hsc m hm hsound

/-- The run of a site: its own tag is placed, and so are the children if they are written. -/
theorem assemble (hs : s ∈ sites)
    (hkids : ((s.head o).selfClosing && !(s.head o).isTransparent) = false →
      AllPlaced o sites kids) :
    AllPlaced o sites (o.assemble (s.head o) kids) := by
  have htag : (s.head o).isTransparent = false →
      AllPlaced o sites [o.ownTag (s.head o) (s.head o).control kids] := by
    intro ht
    exact ownTag hs fun hsc => hkids (by rw [hsc]; rfl)
  rcases o.assemble_cases (s.head o) kids with ⟨ht, heq⟩ | ⟨ht, heq | ⟨b, heq⟩⟩
  · rw [heq]
    exact hkids (by simp [ht])
  · rw [heq]
    exact htag ht
  · rw [heq]
    exact block b (htag ht)

/-- The markup of a site is placed if that of its children is, unless these are left out. -/
theorem lower (hs : s ∈ sites) (hkids : s.prunes o = false → AllPlaced o sites kids) :
    AllPlaced o sites (s.lower o kids) := by
  have hdirect (hdiv : s.dividesFallback o = false) :
      AllPlaced o sites (o.assemble (s.head o) kids) := by
    refine assemble hs fun hopen => hkids ?_
    rw [Site.head_selfClosing] at hopen
    simp [Site.prunes, hdiv, hopen]
  -- the outlet has no children of its own here, they are all in the second block
  have hdivided (slot : String) (hdiv : s.dividesFallback o = true) :
      AllPlaced o sites
        [.block (.when slot) (o.assemble (s.head o) []), .block .otherwise kids] := by
    refine append (f := [_]) (block _ (assemble hs fun _ => nil)) (block _ (hkids ?_))
    simp [Site.prunes, hdiv]
  have hform := s.lowered o kids
  generalize s.lower o kids = run at hform ⊢
  cases hform with
  | direct hdiv => exact hdirect hdiv
  | delayed b hdiv => exact block b (hdirect hdiv)
  | divided slot hdiv => exact hdivided slot hdiv
  | dividedUnder b slot hdiv => exact block b (hdivided slot hdiv)
  | fault _ =>
    intro m hm hsound
    rw [List.mem_singleton.mp hm] at hsound
    exact hsound.elim

end AllPlaced

/-- Every written node that is not at fault has its origin at a site of the reading. -/
theorem allPlaced_lowerNodes (o : Options) (nodes : List Node) :
    AllPlaced o ((Node.readings o none nodes).filterMap Item.site?) (lowerNodes o nodes) := by
  refine lowerNodes_induction o
    (P := fun nodes forest =>
      AllPlaced o ((Node.readings o none nodes).filterMap Item.site?) forest)
    ?nil ?append ?text ?interpolation ?refused ?group ?element nodes
  case nil => exact .nil
  case append =>
    intro xs ys f g hf hg
    rw [Node.readings_append, List.filterMap_append]
    exact (hf.mono (List.subset_append_left _ _)).append (hg.mono (List.subset_append_right _ _))
  case text =>
    intro s
    exact .leaf (.text s) rfl
  case interpolation =>
    intro exp code _
    exact .leaf (.interpolation code) rfl
  case refused =>
    intro exp e _ m hm hsound
    rw [List.mem_singleton.mp hm] at hsound
    exact hsound.elim
  case group =>
    intro branches f h
    rw [Node.readings_group]
    exact h
  case element =>
    intro e ih
    rw [Node.readings_element]
    refine AllPlaced.lower (List.mem_cons_self ..) fun hkeeps => ?_
    rw [Site.below_of_keeps hkeeps]
    exact ih.mono (List.subset_cons_self _ _)

end MiniTemplate
