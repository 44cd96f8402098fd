import MiniTemplate.Proofs.AttributeOrder

/-!
# The scope of repetitions

A leaf of a template may speak of the items of the repetitions around it. `Template.leavesIn` lists
the leaves that are written, each with the elements around it, and `Markup.leavesIn` lists the
leaves of a forest, each with the attributes of the tags around it. Leaf by leaf, the repetitions on
the tags should be those of the elements.

They are, but for one rule. An outlet whose fallback content becomes a block beside it keeps its
repetition to itself:

    <slot v-for="x in xs">{{x}}</slot>
      ↦  <block if="$slots.d"><slot for="xs"/></block><block else>{{x}}</block>

So the repetitions around a leaf are those of all elements around it except for divided outlets
(`Options.keptLoops`), and none is lost exactly if no outlet around the leaf is both divided and
repeated.
-/

namespace MiniTemplate

open Markup

/-! ## Leaves of a template with the elements around them -/

mutual

/-- The leaves of a node that are written, each with the elements around it from the outside in. -/
def Node.leavesIn (o : Options) (carrier : Option Property) (around : List Element) :
    Node → List (Leaf × List Element)
  | .element e => Element.leavesIn o carrier around e
  | .group branches => Element.leavesInAll o around branches
  | .text s => [(.text s, around)]
  | .interpolation exp => [(.interpolation exp, around)]
termination_by structural n => n

/-- The leaves of an element. They are those of its only child if it gives way to it, and none if
the children are left out. -/
def Element.leavesIn (o : Options) (carrier : Option Property) (around : List Element) :
    Element → List (Leaf × List Element)
  | ⟨h, children⟩ =>
    match carrier, Element.handedOn? ⟨h, children⟩ with
    | none, some p => Node.leavesInAll o (some p) (around ++ [⟨h, children⟩]) children
    | _, _ =>
      if Site.prunes o ⟨⟨h, children⟩, carrier⟩ then []
      else Node.leavesInAll o none (around ++ [⟨h, children⟩]) children
termination_by structural e => e

def Node.leavesInAll (o : Options) (carrier : Option Property) (around : List Element) :
    List Node → List (Leaf × List Element)
  | [] => []
  | n :: rest => Node.leavesIn o carrier around n ++ Node.leavesInAll o carrier around rest
termination_by structural nodes => nodes

def Element.leavesInAll (o : Options) (around : List Element) :
    List Element → List (Leaf × List Element)
  | [] => []
  | e :: rest => Element.leavesIn o none around e ++ Element.leavesInAll o around rest
termination_by structural branches => branches

end

/-- The leaves of a template that are written, each with the elements around it. -/
def Template.leavesIn (o : Options) (t : Template) : List (Leaf × List Element) :=
  Node.leavesInAll o none [] t.nodes

/-! ## Leaves of a forest with the tags around them -/

namespace Markup

mutual

/-- The leaves of a node that are written, each with the attributes of the tags around it from the
outside in. -/
def leavesIn (around : List (List Attr)) : Markup → List (Markup × List (List Attr))
  | text s => [(text s, around)]
  | interpolation code => [(interpolation code, around)]
  | tag _ _ true _ => []
  | tag _ attrs false kids => forestLeavesIn (around ++ [attrs]) kids
  | fault _ => []

def forestLeavesIn (around : List (List Attr)) : List Markup → List (Markup × List (List Attr))
  | [] => []
  | m :: rest => leavesIn around m ++ forestLeavesIn around rest

end

end Markup

/-! ## Repetitions -/

/-- The attribute is a part of a repetition, other than its key. -/
def Attr.isRepetition : Attr → Bool
  | .loop part _ => part != .key
  | _ => false

/-- The repetitions on the tags with these attributes, one list for each tag that is repeated. -/
def Attr.repetitions (around : List (List Attr)) : List (List Attr) :=
  (around.map (·.filter isRepetition)).filter (!·.isEmpty)

namespace Options

/-- The repetitions of the elements, apart from those of outlets that are divided. -/
def keptLoops (o : Options) (around : List Element) : List Loop :=
  (around.filter fun e => !Site.dividesFallback o ⟨e, none⟩).filterMap (·.loop)

end Options

/-- A leaf of a template and the leaf of the markup that it is written as. The repetitions on the
tags are those of the elements apart from divided outlets, so that they are those of all elements
exactly if no divided outlet is repeated, and an item is known wherever its repetition is kept. -/
structure InScope (o : Options) (source : Leaf × List Element)
    (target : Markup × List (List Attr)) : Prop where
  leaf : source.1.WrittenAs o target.1
  repetitions : Attr.repetitions target.2 = (o.keptLoops source.2).map Loop.attrs
  preserved_iff :
    Attr.repetitions target.2 = (source.2.filterMap (·.loop)).map Loop.attrs ↔
      ∀ e ∈ source.2, Site.dividesFallback o ⟨e, none⟩ = true → e.loop = none
  item_bound : ∀ l ∈ o.keptLoops source.2, ∀ item, l.item = some item →
    ∃ attrs ∈ target.2, .loop .item item ∈ attrs

/-! ## Lists of leaves, one node at a time -/

namespace Node

variable (o : Options) (around : List Element)

theorem leavesInAll_append (carrier : Option Property) (xs ys : List Node) :
    leavesInAll o carrier around (xs ++ ys) =
      leavesInAll o carrier around xs ++ leavesInAll o carrier around ys := by
  induction xs with
  | nil => rfl
  | cons n rest ih =>
    rw [List.cons_append, leavesInAll, leavesInAll, ih, List.append_assoc]

theorem leavesInAll_group (branches : List Element) :
    leavesInAll o none around [.group branches] =
      leavesInAll o none around (branches.map .element) := by
  rw [leavesInAll, leavesIn, leavesInAll, List.append_nil]
  induction branches with
  | nil => rfl
  | cons e rest ih => rw [Element.leavesInAll, ih, List.map_cons, leavesInAll, leavesIn]

end Node

/-- The elements that an element puts around the leaves at its site: itself, and the child that it
gives way to. -/
def Element.enclosing (e : Element) : List Element :=
  match e.handedOn? with
  | none => [e]
  | some _ => [e, e.site.element]

/-- The leaves below an element have it, and a child that it gives way to, around them. -/
theorem Node.leavesInAll_element (o : Options) (around : List Element) (e : Element) :
    Node.leavesInAll o none around [.element e] =
      if e.site.prunes o then []
      else Node.leavesInAll o none (around ++ e.enclosing) e.site.element.children := by
  rw [leavesInAll, leavesIn, leavesInAll, List.append_nil]
  obtain ⟨h, children⟩ := e
  cases hand : Element.handedOn? ⟨h, children⟩ with
  | none =>
    rw [Element.enclosing, Element.site_of_handedOn?_eq_none hand, hand]
    simp only [Element.leavesIn, hand]
  | some p =>
    obtain ⟨⟨childHead, grandchildren⟩, hchildren, -⟩ := Element.handedOn?_eq_some hand
    simp only at hchildren
    subst hchildren
    rw [Element.enclosing, Element.site_of_handedOn?_eq_some hand rfl, hand]
    simp only [Element.leavesIn, hand, leavesInAll, leavesIn, List.append_nil, List.append_assoc,
      List.cons_append, List.nil_append]

namespace Markup

variable (around : List (List Attr))

theorem forestLeavesIn_append (f g : List Markup) :
    forestLeavesIn around (f ++ g) = forestLeavesIn around f ++ forestLeavesIn around g := by
  induction f with
  | nil => rfl
  | cons m rest ih =>
    rw [List.cons_append, forestLeavesIn, forestLeavesIn, ih, List.append_assoc]

theorem forestLeavesIn_block (b : Branch) (kids : List Markup) :
    forestLeavesIn around [.block b kids] = forestLeavesIn (around ++ [[.branch b]]) kids := by
  rw [forestLeavesIn, forestLeavesIn, List.append_nil, Markup.block, leavesIn]

/-- The leaves inside a tag have its attributes around them; a closed tag has none. -/
theorem forestLeavesIn_ownTag (o : Options) (h : Head) (control : List Attr) (kids : List Markup) :
    forestLeavesIn around [o.ownTag h control kids] =
      if h.selfClosing then []
      else forestLeavesIn (around ++ [control ++ o.ownAttrs h]) kids := by
  rw [forestLeavesIn, forestLeavesIn, List.append_nil, Options.ownTag]
  cases h.selfClosing <;> rfl

end Markup

/-! ## Repetitions of elements and of tags -/

namespace Attr

theorem repetitions_append (xs ys : List (List Attr)) :
    repetitions (xs ++ ys) = repetitions xs ++ repetitions ys := by
  rw [repetitions, List.map_append, List.filter_append]
  rfl

theorem filter_isRepetition_eq_nil {attrs : List Attr} (h : ∀ a ∈ attrs, a.isRepetition = false) :
    attrs.filter isRepetition = [] := by
  rw [List.filter_eq_nil_iff]
  intro a ha
  simp [h a ha]

end Attr

/-- Without the key, the attributes of a repetition are those of its loop. -/
theorem Loop.filter_isRepetition_group (l : Loop) (key : Option String) :
    (l.group key).filter Attr.isRepetition = l.attrs := by
  have hattrs : l.attrs.filter Attr.isRepetition = l.attrs := by
    rw [List.filter_eq_self]
    intro a ha
    obtain ⟨part, _, rfl, hpart⟩ := exists_of_mem_attrs ha
    exact bne_iff_ne.mpr hpart
  have hkey : (key.toList.map (Attr.loop .key)).filter Attr.isRepetition = [] := by
    cases key <;> rfl
  rw [group_eq, List.filter_append, hattrs, hkey, List.append_nil]

/-- On the tag of an element without a fault stands the repetition of the element. -/
theorem Options.repetitions_ownAttrs {o : Options} {h : Head}
    (hsound : ∀ f, .fault f ∉ o.ownAttrs h) :
    Attr.repetitions [h.control ++ o.ownAttrs h] = h.loop.toList.map Loop.attrs := by
  have hcontrol : h.control.filter Attr.isRepetition = [] := by
    apply Attr.filter_isRepetition_eq_nil
    intro a ha
    obtain ⟨b, rfl⟩ := Head.exists_of_mem_control ha
    rfl
  have hgiven : (o.fragments h).filter Attr.isRepetition = [] := by
    apply Attr.filter_isRepetition_eq_nil
    intro a ha
    have hplain := isControl_of_mem_fragments ha
    cases a <;> simp_all [Attr.isControl, Attr.isRepetition]
  have hrepetitions : ∀ attrs, Attr.repetitions [attrs] =
      [attrs.filter Attr.isRepetition].filter (!·.isEmpty) := fun _ => rfl
  rw [hrepetitions, List.filter_append, hcontrol, List.nil_append]
  cases hl : h.loop with
  | none =>
    rw [ownAttrs_eq_fragments hl, hgiven]
    rfl
  | some l =>
    obtain ⟨key, -, hown⟩ := ownAttrs_of_loop_eq_some hl (exists_key_text hl hsound)
    rw [hown, List.filter_append, Loop.filter_isRepetition_group, hgiven, List.append_nil]
    rfl

namespace Options

variable (o : Options)

theorem keptLoops_append (xs ys : List Element) :
    o.keptLoops (xs ++ ys) = o.keptLoops xs ++ o.keptLoops ys := by
  rw [keptLoops, List.filter_append, List.filterMap_append]
  rfl

/-- What an element adds to the repetitions around the leaves at its site. -/
theorem keptLoops_enclosing (e : Element) :
    o.keptLoops e.enclosing =
      if e.site.dividesFallback o then [] else e.site.element.loop.toList := by
  cases hand : e.handedOn? with
  | none =>
    rw [Element.enclosing, hand, Element.site_of_handedOn?_eq_none hand]
    cases hdiv : Site.dividesFallback o ⟨e, none⟩ <;> cases hl : e.loop <;>
      simp [keptLoops, hdiv, hl]
  | some p =>
    -- neither the template nor the child is repeated
    obtain ⟨child, hchildren, -, -, hloop, hchild, -⟩ := Element.handedOn?_eq_some hand
    have hsite := Element.site_of_handedOn?_eq_some hand hchildren
    have hdiv : e.site.dividesFallback o = false := by simp [hsite, Site.dividesFallback]
    rw [Element.enclosing, hand, hdiv, hsite]
    simp [keptLoops, List.filterMap_filter, hloop, hchild]

/-- No repetition is missing exactly if no outlet that is divided is repeated. -/
theorem map_keptLoops_eq_iff (around : List Element) :
    (o.keptLoops around).map Loop.attrs = (around.filterMap (·.loop)).map Loop.attrs ↔
      ∀ e ∈ around, Site.dividesFallback o ⟨e, none⟩ = true → e.loop = none := by
  have hle : ∀ xs : List Element, (o.keptLoops xs).length ≤ (xs.filterMap (·.loop)).length :=
    fun xs => (List.filter_sublist.filterMap _).length_le
  induction around with
  | nil => simp [keptLoops]
  | cons e rest ih =>
    have hcons : o.keptLoops (e :: rest) =
        (if Site.dividesFallback o ⟨e, none⟩ then [] else e.loop.toList) ++ o.keptLoops rest := by
      cases hdiv : Site.dividesFallback o ⟨e, none⟩ <;> cases hl : e.loop <;>
        simp [keptLoops, hdiv, hl]
    have hall : (e :: rest).filterMap (·.loop) = e.loop.toList ++ rest.filterMap (·.loop) := by
      cases hl : e.loop <;> simp [hl]
    rw [hcons, hall, List.map_append, List.map_append, List.forall_mem_cons]
    refine Iff.trans ?_ (and_congr_right' ih)
    cases hdiv : Site.dividesFallback o ⟨e, none⟩ with
    | false => simp
    | true =>
      cases hl : e.loop with
      | none => simp
      | some l =>
        -- what is kept of the rest is too short to make up for the repetition that is lost
        refine iff_of_false (fun heq => ?_) (by simp)
        have hlength := congrArg List.length heq
        simp only [if_true, List.map_nil, List.nil_append, Option.toList_some, List.map_cons,
          List.cons_append, List.length_cons, List.length_map] at hlength
        have hrest := hle rest
        omega

end Options

/-! ## Sites -/

section Sites

variable {o : Options}

/-- An assembled element puts its repetition, and no other, around the leaves of its children. -/
theorem exists_around_assemble {h : Head} {kids : List Markup} (hs : Sound (o.assemble h kids)) :
    ∃ tags, Attr.repetitions tags = h.loop.toList.map Loop.attrs ∧
      ∀ around, forestLeavesIn around (o.assemble h kids) =
        if h.selfClosing && !h.isTransparent then [] else forestLeavesIn (around ++ tags) kids := by
  rcases o.assemble_cases h kids with ⟨ht, heq⟩ | ⟨ht, heq | ⟨b, heq⟩⟩
  · have hl : h.loop = none := by simp_all [Head.isTransparent, Head.isBare]
    refine ⟨[], by rw [hl]; rfl, fun around => ?_⟩
    simp [heq, ht]
  · rw [heq] at hs
    have hattrs := hs _ (mem_written_self _)
    refine ⟨_, Options.repetitions_ownAttrs fun f hf => hattrs f (List.mem_append_right _ hf), ?_⟩
    intro around
    rw [heq, forestLeavesIn_ownTag, ht, Bool.not_false, Bool.and_true]
  · rw [heq] at hs
    have hattrs := (sound_block ..).mp hs _ (mem_written_self _)
    refine ⟨[[.branch b], h.control ++ o.ownAttrs h], ?_, fun around => ?_⟩
    · exact Options.repetitions_ownAttrs fun f hf => hattrs f (List.mem_append_right _ hf)
    · rw [heq, forestLeavesIn_block, forestLeavesIn_ownTag, ht, Bool.not_false, Bool.and_true,
        List.append_assoc]
      rfl

/-- A site puts the repetition of its element around the leaves of its children, unless it is an
outlet that is divided. -/
theorem exists_around_lower {s : Site} {kids : List Markup} (hs : Sound (s.lower o kids)) :
    ∃ tags,
      Attr.repetitions tags =
        (if s.dividesFallback o then [] else s.element.loop.toList).map Loop.attrs ∧
      ∀ around, forestLeavesIn around (s.lower o kids) =
        if s.prunes o then [] else forestLeavesIn (around ++ tags) kids := by
  -- a block does not add to the repetitions
  have hdivided (slot : String) (hdiv : s.dividesFallback o = true)
      (hsound : Sound [.block (.when slot) (o.assemble (s.head o) []), .block .otherwise kids])
      (around : List (List Attr)) :
      forestLeavesIn around
          [.block (.when slot) (o.assemble (s.head o) []), .block .otherwise kids] =
        if s.prunes o then [] else forestLeavesIn (around ++ [[.branch .otherwise]]) kids := by
    obtain ⟨hfilled, -⟩ := (sound_cons ..).mp hsound
    obtain ⟨tags, -, hleaves⟩ := exists_around_assemble ((sound_block ..).mp hfilled)
    have houtlet : forestLeavesIn (around ++ [[.branch (.when slot)]])
        (o.assemble (s.head o) []) = [] := by
      rw [hleaves, forestLeavesIn, ite_self]
    have hkeeps : s.prunes o = false := by simp [Site.prunes, hdiv]
    have happend := forestLeavesIn_append around
      [.block (.when slot) (o.assemble (s.head o) [])] [.block .otherwise kids]
    rw [forestLeavesIn_block, houtlet, forestLeavesIn_block] at happend
    rw [hkeeps, if_neg Bool.false_ne_true]
    exact happend
  have hform := s.lowered o kids
  generalize s.lower o kids = run at hs hform ⊢
  cases hform with
  | direct hdiv =>
    obtain ⟨tags, htags, hleaves⟩ := exists_around_assemble hs
    rw [Site.head_loop] at htags
    rw [Site.head_selfClosing] at hleaves
    refine ⟨tags, by rw [hdiv]; exact htags, fun around => ?_⟩
    rw [hleaves]
    simp [Site.prunes, hdiv]
  | delayed b hdiv =>
    obtain ⟨tags, htags, hleaves⟩ := exists_around_assemble ((sound_block ..).mp hs)
    rw [Site.head_loop] at htags
    rw [Site.head_selfClosing] at hleaves
    refine ⟨[.branch b] :: tags, by rw [hdiv]; exact htags, fun around => ?_⟩
    rw [forestLeavesIn_block, hleaves, List.append_assoc]
    simp [Site.prunes, hdiv]
  | divided slot hdiv =>
    refine ⟨[[.branch .otherwise]], by rw [hdiv]; rfl, ?_⟩
    exact hdivided slot hdiv hs
  | dividedUnder b slot hdiv =>
    refine ⟨[[.branch b], [.branch .otherwise]], by rw [hdiv]; rfl, fun around => ?_⟩
    rw [forestLeavesIn_block, hdivided slot hdiv ((sound_block ..).mp hs), List.append_assoc]
    rfl
  | fault _ => exact absurd hs (not_sound_fault _)

/-- The leaves of nodes and of their markup go together, each pair with the same repetitions around
it as far as they are kept. -/
theorem forall₂_leavesIn (nodes : List Node) (hs : Sound (lowerNodes o nodes))
    (elements : List Element) (tags : List (List Attr))
    (hscope : Attr.repetitions tags = (o.keptLoops elements).map Loop.attrs) :
    List.Forall₂
      (fun source target => source.1.WrittenAs o target.1 ∧
        Attr.repetitions target.2 = (o.keptLoops source.2).map Loop.attrs)
      (Node.leavesInAll o none elements nodes) (forestLeavesIn tags (lowerNodes o nodes)) := by
  revert hs elements tags
  refine lowerNodes_induction o
    (P := fun nodes forest => Sound forest → ∀ elements tags,
      Attr.repetitions tags = (o.keptLoops elements).map Loop.attrs →
      List.Forall₂
        (fun source target => source.1.WrittenAs o target.1 ∧
          Attr.repetitions target.2 = (o.keptLoops source.2).map Loop.attrs)
        (Node.leavesInAll o none elements nodes) (forestLeavesIn tags forest))
    ?nil ?append ?text ?interpolation ?refused ?group ?element nodes
  case nil =>
    intro _ elements tags _
    exact .nil
  case append =>
    intro xs ys f g hf hg hs elements tags hscope
    obtain ⟨hsf, hsg⟩ := (sound_append ..).mp hs
    rw [Node.leavesInAll_append, forestLeavesIn_append]
    exact List.rel_append (hf hsf elements tags hscope) (hg hsg elements tags hscope)
  case text =>
    intro s _ elements tags hscope
    exact .cons ⟨.text s, hscope⟩ .nil
  case interpolation =>
    intro exp code hser _ elements tags hscope
    exact .cons ⟨.interpolation hser, hscope⟩ .nil
  case refused =>
    intro exp e _ hs
    exact absurd hs (not_sound_fault _)
  case group =>
    intro branches f h hs elements tags hscope
    rw [Node.leavesInAll_group]
    exact h hs elements tags hscope
  case element =>
    intro e ih hs elements tags hscope
    obtain ⟨inner, hinner, hleaves⟩ := exists_around_lower hs
    rw [Node.leavesInAll_element, hleaves]
    cases hprunes : e.site.prunes o with
    | true => exact .nil
    | false =>
      -- the site adds the same repetition on both sides
      apply ih (e.site.sound_kids_of_lower hs hprunes)
      rw [Attr.repetitions_append, o.keptLoops_append, List.map_append, hscope, hinner,
        o.keptLoops_enclosing]

end Sites

/-! ## Whole templates -/

/-- What the kept repetitions say about all repetitions and about single items. -/
theorem inScope_of_repetitions_eq {o : Options} {source : Leaf × List Element}
    {target : Markup × List (List Attr)} (hleaf : source.1.WrittenAs o target.1)
    (hkept : Attr.repetitions target.2 = (o.keptLoops source.2).map Loop.attrs) :
    InScope o source target := by
  refine ⟨hleaf, hkept, ?_, ?_⟩
  · rw [hkept]
    exact o.map_keptLoops_eq_iff source.2
  · intro l hl item hitem
    have hmem : l.attrs ∈ Attr.repetitions target.2 := by
      rw [hkept]
      exact List.mem_map_of_mem hl
    obtain ⟨attrs, hattrs, heq⟩ := List.mem_map.mp (List.mem_of_mem_filter hmem)
    have hbound : .loop .item item ∈ attrs.filter Attr.isRepetition := by
      rw [heq]
      simp [Loop.attrs, hitem]
    exact ⟨attrs, hattrs, List.mem_of_mem_filter hbound⟩

/-- **Repetitions keep their leaves.** The leaves of a compiled template stand, one by one, inside
the repetitions of the elements around them, except for those of outlets that are divided. So no
leaf leaves a repetition exactly if no outlet around it is both divided and repeated. -/
theorem leaves_in_scope (o : Options) (t : Template) (code : String) (h : compile o t = .ok code) :
    code = renderForest o.mark (lowerNodes o t.nodes) ∧
    List.Forall₂ (InScope o) (t.leavesIn o) (forestLeavesIn [] (lowerNodes o t.nodes)) := by
  obtain ⟨hsound, hcode⟩ := (compile_eq_ok_iff o t code).mp h
  refine ⟨hcode, (forall₂_leavesIn t.nodes hsound [] [] rfl).imp ?_⟩
  rintro source target ⟨hleaf, hkept⟩
  exact inScope_of_repetitions_eq hleaf hkept

/-- An outlet with fallback content in a repeated `view`: the fallback content is in a block of its
own, but still inside the repetition. -/
theorem leaves_in_scope_fallback :
    List.Forall₂ (InScope { fileName := "t.wxml", mark := "wx:" })
      [(.interpolation (.dynamic "x"),
        [⟨{ tag := "view", loop := some { source := "xs", item := some "x" } },
            [.element ⟨{ tag := "slot", role := .slotOutlet }, [.interpolation (.dynamic "x")]⟩]⟩,
          ⟨{ tag := "slot", role := .slotOutlet }, [.interpolation (.dynamic "x")]⟩])]
      [(.interpolation "x",
        [[.loop .source "xs", .loop .item "x"], [.branch .otherwise]])] :=
  (leaves_in_scope { fileName := "t.wxml", mark := "wx:" }
    ⟨[.element ⟨{ tag := "view", loop := some { source := "xs", item := some "x" } },
      [.element ⟨{ tag := "slot", role := .slotOutlet },
        [.interpolation (.dynamic "x")]⟩]⟩]⟩ _ rfl).2

/-- The fallback content of a repeated outlet is written outside of the repetition. -/
theorem fallback_leaves_repetition :
    compile { fileName := "t.wxml", mark := "wx:" }
        ⟨[.element ⟨{ tag := "slot", role := .slotOutlet,
                      loop := some { source := "xs", item := some "x" } },
          [.interpolation (.dynamic "x")]⟩]⟩ =
      .ok ("<block wx:if=\"\x7b\x7b$slots.d\x7d\x7d\">" ++
        "<slot wx:for=\"xs\" wx:for-item=\"x\"></slot></block>" ++
        "<block wx:else>\x7b\x7bx\x7d\x7d</block>") ∧
    Template.leavesIn { fileName := "t.wxml", mark := "wx:" }
        ⟨[.element ⟨{ tag := "slot", role := .slotOutlet,
                      loop := some { source := "xs", item := some "x" } },
          [.interpolation (.dynamic "x")]⟩]⟩ =
      [(.interpolation (.dynamic "x"),
        [⟨{ tag := "slot", role := .slotOutlet,
            loop := some { source := "xs", item := some "x" } },
          [.interpolation (.dynamic "x")]⟩])] ∧
    forestLeavesIn []
        (lowerNodes { fileName := "t.wxml", mark := "wx:" }
          [.element ⟨{ tag := "slot", role := .slotOutlet,
                       loop := some { source := "xs", item := some "x" } },
            [.interpolation (.dynamic "x")]⟩]) =
      [(.interpolation "x", [[.branch .otherwise]])] ∧
    Attr.repetitions [[.branch .otherwise]] ≠
      [Loop.attrs { source := "xs", item := some "x" }] :=
  ⟨rfl, rfl, rfl, by decide⟩

end MiniTemplate
