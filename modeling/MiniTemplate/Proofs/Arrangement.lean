import Mathlib.Data.List.Forall2
import MiniTemplate.Proofs.Assembly

/-!
# Markup arranged by a reading

A forest is *arranged* by a reading when it can be taken apart along it. Every leaf of the reading
is a node of its own. Every site has a run of neighbouring nodes to itself: what the rules make of
the site around the markup of what the reading lists below it, and of that only. Runs side by side
are those of items side by side, so that no two items of a reading share a node, unless one stands
inside the run of the other.

* `arranged_lowerNodes`: a sound forest is arranged by the reading of the nodes it was made from,
  and the run of a site is the markup that the rules make of it.
* `Arranged.leaves`: the leaves of the forest are then those of the reading, one by one.
-/

namespace MiniTemplate

open Markup

/-- How a leaf appears in the markup. -/
inductive Leaf.WrittenAs (o : Options) : Leaf → Markup → Prop
  | text (s : String) : WrittenAs o (.text s) (.text s)
  | interpolation {exp : Expression} {code : String} (h : o.serialize exp = .ok code) :
      WrittenAs o (.interpolation exp) (.interpolation code)

/-- The forest is arranged by the reading, and every run of a site satisfies `G`. -/
inductive Arranged (o : Options) (G : Site → List Markup → Prop) :
    List Item → List Markup → Prop
  | nil : Arranged o G [] []
  | append {items others : List Item} {f g : List Markup} :
      Arranged o G items f → Arranged o G others g → Arranged o G (items ++ others) (f ++ g)
  | leaf {l : Leaf} {m : Markup} : l.WrittenAs o m → Arranged o G [.leaf l] [m]
  | site {s : Site} {kids : List Markup} : G s (s.lower o kids) → Arranged o G (s.below o) kids →
      Arranged o G (.site s :: s.below o) (s.lower o kids)

/-- What holds of every run may be weakened. -/
theorem Arranged.mono {o : Options} {G G' : Site → List Markup → Prop}
    (hG : ∀ s run, G s run → G' s run) {items : List Item} {forest : List Markup}
    (h : Arranged o G items forest) : Arranged o G' items forest := by
  induction h with
  | nil => exact .nil
  | append _ _ ih₁ ih₂ => exact .append ih₁ ih₂
  | leaf hl => exact .leaf hl
  | site hs _ ih => exact .site (hG _ _ hs) ih

namespace Site

/-- The faults at a site are those of the element's own attributes and then those of its children,
unless these are left out or the rule has no text for an expression of its own. -/
theorem faults_lower_cases (o : Options) (s : Site) (kids : List Markup) :
    faults (s.lower o kids) =
      (o.ownAttrs (s.head o)).filterMap Attr.fault? ++ (if s.prunes o then [] else faults kids) ∨
    ∃ exp e, o.serialize exp = .error e ∧ s.lower o kids = [.fault (.expression e)] := by
  -- an outlet that is divided is empty, and what it would hold is in the block beside it
  have hempty : faults (o.assemble (s.head o) []) =
      (o.ownAttrs (s.head o)).filterMap Attr.fault? := by
    simp [o.faults_assemble]
  have hform := s.lowered o kids
  generalize s.lower o kids = run at hform
  cases hform with
  | direct hdiv =>
    left
    simp [o.faults_assemble, prunes, hdiv, s.head_selfClosing]
  | delayed b hdiv =>
    left
    simp [o.faults_assemble, prunes, hdiv, s.head_selfClosing]
  | divided slot hdiv =>
    left
    rw [faults_cons]
    simp [hempty, prunes, hdiv]
  | dividedUnder b slot hdiv =>
    left
    rw [faults_block, faults_cons]
    simp [hempty, prunes, hdiv]
  | @fault exp e herror => exact .inr ⟨exp, e, herror, rfl⟩

/-- The markup of a site is sound only if that of its children is, unless these are left out. -/
theorem sound_kids_of_lower {o : Options} {kids : List Markup} (s : Site)
    (hs : Sound (s.lower o kids)) (hkeeps : s.prunes o = false) : Sound kids := by
  rcases s.faults_lower_cases o kids with heq | ⟨exp, e, -, heq⟩
  · rw [← faults_eq_nil_iff, heq, hkeeps] at hs
    exact (faults_eq_nil_iff kids).mp (List.append_eq_nil_iff.mp hs).2
  · rw [heq] at hs
    exact absurd hs (not_sound_fault _)

/-- What a site leaves out has no influence on its markup. -/
theorem lower_of_prunes {o : Options} {s : Site} (h : s.prunes o = true) (kids : List Markup) :
    s.lower o kids = s.lower o [] := by
  obtain ⟨⟨hclosed, htag⟩, hdiv⟩ : (s.element.selfClosing = true ∧
      (s.head o).isTransparent = false) ∧ s.dividesFallback o = false := by
    simpa [prunes] using h
  rcases lower_of_not_divided hdiv with heq | ⟨_, _, -, heq⟩
  · have hsame : o.assemble (s.head o) kids = o.assemble (s.head o) [] := by
      simp [Options.assemble, htag, s.head_selfClosing, hclosed]
    rw [heq, heq, hsame]
  · rw [heq, heq]

end Site

/-- The run of nodes is what the rules make of the site. -/
def Site.IsMarkup (o : Options) (s : Site) (run : List Markup) : Prop :=
  run = s.lower o (lowerNodes o s.element.children)

/-- A sound forest is arranged by the reading of the nodes that it was made from, and all its runs
are sound. -/
theorem arranged_lowerNodes (o : Options) (nodes : List Node) :
    Sound (lowerNodes o nodes) →
      Arranged o (fun s run => s.IsMarkup o run ∧ Sound run) (Node.readings o none nodes)
        (lowerNodes o nodes) := by
  refine lowerNodes_induction o
    (P := fun nodes forest => Sound forest →
      Arranged o (fun s run => s.IsMarkup o run ∧ Sound run) (Node.readings o none nodes) forest)
    ?nil ?append ?text ?interpolation ?refused ?group ?element nodes
  case nil =>
    intro _
    rw [Node.readings]
    exact .nil
  case append =>
    intro xs ys f g hf hg hs
    rw [Node.readings_append]
    obtain ⟨hsf, hsg⟩ := (sound_append ..).mp hs
    exact .append (hf hsf) (hg hsg)
  case text =>
    intro s _
    rw [Node.readings, Node.reading, Node.readings, List.append_nil]
    exact .leaf (.text s)
  case interpolation =>
    intro exp code hser _
    rw [Node.readings, Node.reading, Node.readings, List.append_nil]
    exact .leaf (.interpolation hser)
  case refused =>
    intro exp e _ hs
    exact absurd hs (not_sound_fault _)
  case group =>
    intro branches f h
    rw [Node.readings_group]
    exact h
  case element =>
    intro e ih hs
    -- reading and lowering both start from the site, and leave its children out in the same cases
    rw [Node.readings_element]
    cases hprunes : e.site.prunes o with
    | false =>
      refine .site ⟨rfl, hs⟩ ?_
      rw [Site.below_of_keeps hprunes]
      exact ih (e.site.sound_kids_of_lower hs hprunes)
    | true =>
      have hrun := Site.lower_of_prunes hprunes (lowerNodes o e.site.element.children)
      rw [hrun] at hs ⊢
      refine .site ⟨hrun.symm, hs⟩ ?_
      rw [Site.below_of_prunes hprunes]
      exact .nil

/-! ## Leaves -/

namespace Markup

def isLeaf : Markup → Bool
  | .text _ => true
  | .interpolation _ => true
  | _ => false

/-- The leaves of a forest that are written, in document order. -/
def leaves (forest : List Markup) : List Markup := (written forest).filter isLeaf

theorem leaves_append (f g : List Markup) : leaves (f ++ g) = leaves f ++ leaves g := by
  rw [leaves, written_append, List.filter_append]
  rfl

@[simp] theorem leaves_tag (name : String) (attrs : List Attr) (closed : Bool)
    (kids : List Markup) :
    leaves [.tag name attrs closed kids] = if closed then [] else leaves kids := by
  cases closed <;> simp [leaves, within, isLeaf]

@[simp] theorem leaves_block (b : Branch) (kids : List Markup) :
    leaves [.block b kids] = leaves kids := by
  rw [block, leaves_tag]
  rfl

end Markup

/-- An assembled element holds the leaves of its children, unless it has a tag and the tag is
closed. -/
theorem Options.leaves_assemble (o : Options) (h : Head) (kids : List Markup) :
    leaves (o.assemble h kids) =
      if h.selfClosing && !h.isTransparent then [] else leaves kids := by
  rcases o.assemble_cases h kids with ⟨ht, heq⟩ | ⟨ht, heq | ⟨b, heq⟩⟩
  · simp [heq, ht]
  · cases hsc : h.selfClosing <;> simp [heq, ht, ownTag, hsc]
  · cases hsc : h.selfClosing <;> simp [heq, ht, ownTag, hsc]

/-- The markup of a site holds the leaves of its children, unless these are left out. -/
theorem Site.leaves_lower {o : Options} {s : Site} {kids : List Markup}
    (hs : Sound (s.lower o kids)) :
    leaves (s.lower o kids) = if s.prunes o then [] else leaves kids := by
  -- an outlet that is divided is empty, and what it would hold is in the block beside it
  have hempty : leaves (o.assemble (s.head o) []) = [] := by
    rw [o.leaves_assemble]
    exact ite_self _
  -- only the form of the run matters from here on, not the rule that made it
  have hform := s.lowered o kids
  generalize s.lower o kids = run at hs hform ⊢
  cases hform with
  | direct hdiv => simp [o.leaves_assemble, prunes, hdiv, s.head_selfClosing]
  | delayed b hdiv => simp [o.leaves_assemble, prunes, hdiv, s.head_selfClosing]
  | divided slot hdiv =>
    rw [← List.singleton_append, leaves_append]
    simp [hempty, prunes, hdiv]
  | dividedUnder b slot hdiv =>
    rw [leaves_block, ← List.singleton_append, leaves_append]
    simp [hempty, prunes, hdiv]
  | fault _ => exact absurd hs (not_sound_fault _)

/-- The leaves of an arranged forest, if its runs are sound, are those of its reading. -/
theorem Arranged.leaves {o : Options} {G : Site → List Markup → Prop}
    (hG : ∀ s run, G s run → Sound run) {items : List Item} {forest : List Markup}
    (h : Arranged o G items forest) :
    List.Forall₂ (Leaf.WrittenAs o) (items.filterMap Item.leaf?) (Markup.leaves forest) := by
  induction h with
  | nil => exact .nil
  | append _ _ ih₁ ih₂ =>
    rw [List.filterMap_append, leaves_append]
    exact List.rel_append ih₁ ih₂
  | leaf hl => cases hl <;> exact .cons (by constructor <;> assumption) .nil
  | @site s kids hs _ ih =>
    rw [Site.leaves_lower (hG _ _ hs)]
    cases hprunes : s.prunes o with
    | false => exact ih
    | true =>
      rw [Site.below_of_prunes hprunes]
      exact .nil

end MiniTemplate
