import MiniTemplate.Proofs.Visibility

/-!
# Templates that give way to their only child

A template that passes its only child to a slot could be written as a `view` around the child. It is
not: the child takes over the property that names the slot and stands in its place.

    <view slot="a"><text>hi</text></view>      ↦      <text slot="a">hi</text>

`SplicedFrom` says, of the two forests alone, that nothing else is different: the wrapper had no
other attributes, its condition is found on the child, and the child is shown in the same cases.
This does not hold of every template. The template's own condition and its other properties are
dropped, and the child is written without the guard that it may have asked for.
`splice_faithful_iff` says for which templates nothing is lost.
-/

namespace MiniTemplate

open Markup

/-- The spliced forest is the wrapped one without the wrapper, with the attributes `onChild` on the
child in place of the attributes `onWrapper` on the wrapper. The wrapper's condition is still there,
and the child is shown where it was shown inside the wrapper. -/
def SplicedFrom (onWrapper onChild : List Attr) (wrapped spliced : List Markup) : Prop :=
  ∃ (outer : List Attr) (name : String) (inner : List Attr) (closed : Bool) (kids : List Markup),
    wrapped = [.tag "view" outer false [.tag name inner closed kids]] ∧
    Attr.unconditional outer = onWrapper ∧
    spliced = [.tag name (inner ++ onChild) closed kids] ∧
    (∀ b, .branch b ∈ outer → .branch b ∈ inner ++ onChild) ∧
    ∀ r shown, Attr.shows r shown (inner ++ onChild) =
      (Attr.shows r shown outer && Attr.shows r false inner)

def Branch.attrs (b : Option Branch) : List Attr := b.toList.map .branch

/-- The child as a template gives way to it: with the template's property in last place. -/
def Head.carrying (h : Head) (p : Property) : Head := { h with props := h.props ++ [p] }

namespace Options

/-- By itself the child would be written as one tag, under its own condition only, and of the name
that it has in place of the template. -/
def StandsAlone (o : Options) (child : Element) (p : Property) : Prop :=
  lowerElement o child =
    [.tag (o.tagName (child.carrying p)) (Branch.attrs child.branch ++ o.ownAttrs child.toHead)
      child.selfClosing (if child.selfClosing then [] else lowerNodes o child.children)]

/-- The element gets a readiness guard when a rule meets it by itself. -/
def waits (o : Options) (e : Element) : Bool :=
  match e.role with
  | .plain => o.isDelayed e && (e.branch == none || e.branch == some .otherwise)
  | .component =>
    !(o.syncProperties || e.branch.isSome || e.loop.isSome) &&
      (o.isNative e.tag || (e.bound? "u-p").isSome)
  | _ => false

/-! ## The two forests -/

/-- The property that is taken over comes behind the child's own. -/
theorem ownAttrs_carrying (o : Options) {h : Head} (hloop : h.loop = none) (p : Property) :
    o.ownAttrs (h.carrying p) = o.ownAttrs h ++ o.ownPropertyAttrs h p := by
  have howner : o.ownPropertyAttrs (h.carrying p) = o.ownPropertyAttrs h := by
    funext q
    exact o.propertyAttrs_congr rfl rfl _ q
  rw [o.ownAttrs_of_loop_eq_none hloop, o.ownAttrs_of_loop_eq_none (h := h.carrying p) hloop,
    howner]
  show (h.props ++ [p]).flatMap _ = _
  rw [List.flatMap_append, List.flatMap_singleton]

/-- An element that is not repeated and leaves a tag behind is this tag under its condition. -/
theorem assemble_of_not_repeated (o : Options) {h : Head} (ht : h.isTransparent = false)
    (hloop : h.loop = none) (kids : List Markup) :
    o.assemble h kids = [o.ownTag h (Branch.attrs h.branch) kids] := by
  cases hb : h.branch with
  | none => exact o.assemble_of_branch_eq_none ht hb kids
  | some b => exact o.assemble_of_loop_eq_none hb hloop kids

theorem isTransparent_carrying (h : Head) (p : Property) :
    (h.carrying p).isTransparent = false := by
  simp [Head.carrying, Head.isTransparent, Head.isBare]

end Options

section Forests

variable {o : Options} {e child : Element} {p : Property}

/-- A template that passes its content to a slot, written as a `view` around its only child. -/
theorem assemble_grouped_only_child (hcarrier : e.carrier? = some p) (hloop : e.loop = none)
    (hchildren : e.children = [.element child]) :
    o.assemble e.grouped (lowerNodes o e.children) =
      [.tag "view" (Branch.attrs e.branch ++ o.ownAttrs e.grouped) e.selfClosing
        (if e.selfClosing then [] else lowerElement o child)] := by
  have htag : e.grouped.tag = "view" := by simp [Head.grouped, hcarrier]
  have hresolved : e.grouped.resolvedTag = "view" := by simp [Head.resolvedTag, htag]
  have ht : e.grouped.isTransparent = false := by simp [Head.isTransparent, hresolved]
  have hname : o.tagName e.grouped = "view" := by
    rw [o.tagName_grouped, hcarrier, Option.isSome_some, if_pos rfl]
  rw [o.assemble_of_not_repeated ht hloop, Options.ownTag, hname, hchildren, lowerNodes_element,
    lowerNodes_nil, List.append_nil]
  rfl

/-- The child in place of the template. -/
theorem lowerElement_of_gives_way (hrole : e.role = .template) (hcarrier : e.carrier? = some p)
    (hloop : e.loop = none) (hchildren : e.children = [.element child])
    (hchild : child.loop = none) (hout : child.role ≠ .slotOutlet) :
    lowerElement o e =
      [.tag (o.tagName (child.carrying p))
        (Branch.attrs child.branch ++ o.ownAttrs child.toHead ++ o.ownPropertyAttrs child.toHead p)
        child.selfClosing (if child.selfClosing then [] else lowerNodes o child.children)] := by
  have hand : e.handedOn? = some p := by
    obtain ⟨h, children⟩ := e
    simp only at hchildren
    subst hchildren
    rw [Element.handedOn?, if_pos ⟨hrole, hloop, hchild, hout⟩]
    exact hcarrier
  rw [lowerElement_eq, Element.site_of_handedOn?_eq_some hand hchildren]
  show o.assemble (child.carrying p) (lowerNodes o child.children) = _
  rw [o.assemble_of_not_repeated (Options.isTransparent_carrying _ p) hchild, Options.ownTag,
    o.ownAttrs_carrying hchild, List.append_assoc]
  rfl

end Forests

/-! ## Conditions on a tag -/

section Conditions

variable {attrs : List Attr} (hattrs : ∀ b, .branch b ∉ attrs)
include hattrs

theorem condition?_branchAttrs (b : Option Branch) :
    Attr.condition? (Branch.attrs b ++ attrs) = b := by
  cases b with
  | none => exact Attr.condition?_eq_none hattrs
  | some b => rfl

theorem unconditional_branchAttrs (b : Option Branch) :
    Attr.unconditional (Branch.attrs b ++ attrs) = attrs := by
  cases b with
  | none => exact Attr.unconditional_eq_self hattrs
  | some b => exact Attr.unconditional_eq_self hattrs

theorem mem_branchAttrs_iff (b : Option Branch) (place : Branch) :
    .branch place ∈ Branch.attrs b ++ attrs ↔ b = some place := by
  cases b with
  | none => simp [Branch.attrs, hattrs]
  | some b => simp [Branch.attrs, hattrs, eq_comm]

end Conditions

/-- A tag inside a wrapper keeps the wrapper's condition, and is shown in the same cases, if it has
the same condition, or if the wrapper has none and the tag opens a chain of its own. -/
theorem Branch.keeps_iff (outer inner : Option Branch) :
    ((∀ b, outer = some b → inner = some b) ∧
      ∀ r shown, inner.all (Branch.holds r shown) =
        (outer.all (Branch.holds r shown) && inner.all (Branch.holds r false))) ↔
      inner = outer ∨ outer = none ∧ ∃ c, inner = some (.when c) := by
  constructor
  · rintro ⟨hkept, hshows⟩
    match outer, inner with
    | some b, _ => exact .inl (hkept b rfl)
    | none, none => exact .inl rfl
    | none, some (.when c) => exact .inr ⟨rfl, c, rfl⟩
    -- after a tag that was shown, an `else` on its own is not
    | none, some (.elseWhen c) =>
      have hfalse : false = true := hshows (fun _ => true) true
      cases hfalse
    | none, some .otherwise =>
      have hfalse : false = true := hshows (fun _ => true) true
      cases hfalse
  · rintro (rfl | ⟨rfl, c, rfl⟩)
    · refine ⟨fun b hb => hb, fun r shown => ?_⟩
      match inner with
      | none => rfl
      | some (.when c) => simp [Branch.holds]
      | some (.elseWhen c) => simp [Branch.holds]
      | some .otherwise => simp [Branch.holds]
    · refine ⟨?_, fun r shown => rfl⟩
      intro b hb
      cases hb

/-- A tag inside a wrapper, and a tag in place of both: when the one is spliced from the other. -/
theorem splicedFrom_tags_iff {wrapper own onWrapper onChild : List Attr}
    (hwrapper : ∀ b, .branch b ∉ wrapper) (hown : ∀ b, .branch b ∉ own)
    (hchild : ∀ b, .branch b ∉ onChild) {outer inner : Option Branch} {name : String}
    {shut closed : Bool} {inside kids : List Markup} :
    SplicedFrom onWrapper onChild [.tag "view" (Branch.attrs outer ++ wrapper) shut inside]
        [.tag name (Branch.attrs inner ++ own ++ onChild) closed kids] ↔
      shut = false ∧ wrapper = onWrapper ∧
      (inner = outer ∨ outer = none ∧ ∃ c, inner = some (.when c)) ∧
      inside = [.tag name (Branch.attrs inner ++ own) closed kids] := by
  have hboth : ∀ b, .branch b ∉ own ++ onChild := by
    intro b hb
    rcases List.mem_append.mp hb with hb | hb
    · exact hown b hb
    · exact hchild b hb
  have hshows : ∀ r shown,
      Attr.shows r shown (Branch.attrs inner ++ own ++ onChild) =
          (Attr.shows r shown (Branch.attrs outer ++ wrapper) &&
            Attr.shows r false (Branch.attrs inner ++ own)) ↔
        inner.all (Branch.holds r shown) =
          (outer.all (Branch.holds r shown) && inner.all (Branch.holds r false)) := by
    intro r shown
    rw [List.append_assoc, Attr.shows, Attr.shows, Attr.shows, condition?_branchAttrs hboth,
      condition?_branchAttrs hown, condition?_branchAttrs hwrapper]
  have hkept : ∀ b, (.branch b ∈ Branch.attrs outer ++ wrapper →
      .branch b ∈ Branch.attrs inner ++ own ++ onChild) ↔ (outer = some b → inner = some b) := by
    intro b
    rw [List.append_assoc, mem_branchAttrs_iff hwrapper, mem_branchAttrs_iff hboth]
  rw [← Branch.keeps_iff]
  constructor
  · rintro ⟨outer', name', inner', closed', kids', hwrapped, huncond, hspliced, hmem, hseen⟩
    -- the wrapper holds the child's tag, and cancelling what was moved gives the child its form
    simp only [List.cons.injEq, Markup.tag.injEq, true_and, and_true] at hwrapped hspliced
    obtain ⟨rfl, hshut, hinside⟩ := hwrapped
    obtain ⟨rfl, hinner, rfl, rfl⟩ := hspliced
    obtain rfl := List.append_cancel_right hinner
    rw [unconditional_branchAttrs hwrapper] at huncond
    refine ⟨hshut, huncond, ⟨?_, ?_⟩, hinside⟩
    · exact fun b => (hkept b).mp (hmem b)
    · exact fun r shown => (hshows r shown).mp (hseen r shown)
  · rintro ⟨rfl, rfl, ⟨hmem, hseen⟩, rfl⟩
    refine ⟨_, _, _, _, _, rfl, unconditional_branchAttrs hwrapper _, rfl, ?_, ?_⟩
    · exact fun b => (hkept b).mpr (hmem b)
    · exact fun r shown => (hshows r shown).mpr (hseen r shown)

/-- What a list gives is what one of its members gives exactly if the others give nothing. -/
theorem flatMap_eq_iff_erase {α β : Type} [DecidableEq α] {f : α → List β} {l : List α} {a : α}
    (ha : a ∈ l) : l.flatMap f = f a ↔ ∀ b ∈ l.erase a, f b = [] := by
  obtain ⟨front, back, -, hl, herase⟩ := List.exists_erase_eq ha
  rw [herase, ← List.flatMap_eq_nil_iff, List.flatMap_append, List.append_eq_nil_iff, hl,
    List.flatMap_append, List.flatMap_cons]
  constructor
  · intro h
    have hlength := congrArg List.length h
    rw [List.length_append, List.length_append] at hlength
    constructor
    · apply List.eq_nil_of_length_eq_zero
      omega
    · apply List.eq_nil_of_length_eq_zero
      omega
  · rintro ⟨hfront, hback⟩
    rw [hfront, hback, List.nil_append, List.append_nil]

/-! ## Children that stand alone -/

namespace Options

variable {o : Options} {h : Head} {kids : List Markup}

theorem tagName_carrying (htag : h.tag ≠ "template") (p : Property) :
    o.tagName (h.carrying p) = o.tagName h := by
  have hresolved : (h.carrying p).resolvedTag = h.resolvedTag := by
    simp [Head.resolvedTag, Head.carrying, htag]
  have huser : o.isUserComponent (h.carrying p) = o.isUserComponent h := rfl
  rw [tagName, tagName, hresolved, huser]

/-- A block around an element's tag is not that tag, not even if the element is a block itself: the
kids of the tag are not a forest with the tag in it. -/
theorem block_ownTag_ne (b : Branch) (control control' : List Attr) :
    [.block b [o.ownTag h control kids]] ≠ [o.ownTag h control' kids] := by
  intro heq
  simp only [Markup.block, ownTag, List.cons.injEq, Markup.tag.injEq, and_true] at heq
  obtain ⟨-, -, hclosed, hkids⟩ := heq
  rw [← hclosed, if_neg Bool.false_ne_true] at hkids
  have hsize := congrArg sizeOf hkids
  simp only [List.cons.sizeOf_spec, List.nil.sizeOf_spec, Markup.tag.sizeOf_spec] at hsize
  omega

/-- A tag with a condition is another one than the same tag without. -/
theorem ownTag_branch_ne (b : Branch) : [o.ownTag h [.branch b] kids] ≠ [o.ownTag h [] kids] := by
  intro heq
  simp only [ownTag, List.cons.injEq, Markup.tag.injEq] at heq
  have hlength := congrArg List.length heq.1.2.1
  simp at hlength

theorem lowerElement_of_role_ne_template {e : Element} (hrole : e.role ≠ .template) :
    lowerElement o e = Site.lower o ⟨e, none⟩ (lowerNodes o e.children) := by
  rw [lowerElement_eq, e.site_of_role_ne_template hrole]

/-- A plain element is its tag alone unless it waits. -/
theorem lowerDelayed_eq_ownTag_iff (ht : h.isTransparent = false) (hloop : h.loop = none) :
    o.lowerDelayed h kids = [o.ownTag h (Branch.attrs h.branch) kids] ↔
      (h.branch == none || h.branch == some .otherwise) = false := by
  match hb : h.branch with
  | none =>
    simp only [lowerDelayed, hb, o.assemble_of_branch_eq_none ht hb]
    exact iff_of_false (block_ownTag_ne _ _ _) (by decide)
  | some .otherwise =>
    have htag := o.assemble_of_loop_eq_none (h := h.withBranch (some (.when readyCondition)))
      rfl hloop kids
    simp only [lowerDelayed, hb, htag, ownTag_withBranch]
    exact iff_of_false (block_ownTag_ne _ _ _) (by decide)
  | some (.when c) =>
    simp only [lowerDelayed, hb, o.assemble_of_loop_eq_none hb hloop]
    exact iff_of_true rfl (by simp)
  | some (.elseWhen c) =>
    simp only [lowerDelayed, hb, o.assemble_of_loop_eq_none hb hloop]
    exact iff_of_true rfl (by simp)

/-- A component is its tag alone unless it waits. -/
theorem lowerComponent_eq_ownTag_iff (ht : h.isTransparent = false) (hloop : h.loop = none) :
    o.lowerComponent h kids = [o.ownTag h (Branch.attrs h.branch) kids] ↔
      (!(o.syncProperties || h.branch.isSome || h.loop.isSome) &&
        (o.isNative h.tag || (h.bound? "u-p").isSome)) = false := by
  have hguard : ∀ c, h.branch = none →
      o.assemble (h.withBranch (some (.when c))) kids ≠
        [o.ownTag h (Branch.attrs h.branch) kids] := by
    intro c hb
    have htag := o.assemble_of_loop_eq_none (h := h.withBranch (some (.when c))) rfl hloop kids
    rw [htag, ownTag_withBranch, hb]
    exact ownTag_branch_ne _
  rw [lowerComponent]
  split
  · next hskip =>
    rw [o.assemble_of_not_repeated ht hloop, hskip]
    exact iff_of_true rfl rfl
  · next hskip =>
    have hb : h.branch = none := by
      cases hb : h.branch with
      | none => rfl
      | some b => simp [hb] at hskip
    rw [Bool.not_eq_true] at hskip
    rw [hskip]
    split
    · next hnative => exact iff_of_false (hguard _ hb) (by simp [hnative])
    · next hnative =>
      rw [Bool.not_eq_true] at hnative
      rw [hnative]
      split
      · next hbound =>
        rw [o.assemble_of_not_repeated ht hloop, hbound]
        exact iff_of_true rfl rfl
      · next exp hbound =>
        rw [hbound]
        split
        · exact iff_of_false (hguard _ hb) (by simp)
        · exact iff_of_false (by simp [ownTag]) (by simp)

/-- A child that leaves a tag behind, neither a template nor an outlet, stands alone unless it
waits. -/
theorem standsAlone_iff {child : Element} (hrole : child.role ≠ .template)
    (hout : child.role ≠ .slotOutlet) (htag : child.tag ≠ "template")
    (ht : child.isTransparent = false) (hloop : child.loop = none) (p : Property) :
    o.StandsAlone child p ↔ o.waits child = false := by
  have halone : o.StandsAlone child p ↔ Site.lower o ⟨child, none⟩ (lowerNodes o child.children) =
      [o.ownTag child.toHead (Branch.attrs child.branch) (lowerNodes o child.children)] := by
    rw [StandsAlone, lowerElement_of_role_ne_template hrole, tagName_carrying htag]
    rfl
  rw [halone, waits]
  cases hr : child.role with
  | template => exact absurd hr hrole
  | slotOutlet => exact absurd hr hout
  | component =>
    simp only [Site.lower, hr]
    exact lowerComponent_eq_ownTag_iff ht hloop
  | plain =>
    simp only [Site.lower, hr]
    cases hd : o.isDelayed child with
    | true =>
      rw [if_pos rfl, Bool.true_and]
      exact lowerDelayed_eq_ownTag_iff ht hloop
    | false =>
      rw [if_neg Bool.false_ne_true, o.assemble_of_not_repeated ht hloop]
      exact iff_of_true rfl rfl

end Options

/-! ## What is lost -/

/-- **When a template can give way.** Nothing is lost when a template gives way to its only child
exactly if the template is not closed in its opening tag, its other properties have nothing to
write, its condition is also the child's or it has none and the child opens a chain, and the child
stands alone. For an ordinary child with a tag of its own the last means that it does not wait. -/
theorem splice_faithful_iff (o : Options) (e child : Element) (p : Property)
    (hrole : e.role = .template) (hcarrier : e.carrier? = some p) (hloop : e.loop = none)
    (hchildren : e.children = [.element child]) (hchild : child.loop = none)
    (hout : child.role ≠ .slotOutlet) :
    (SplicedFrom (o.ownPropertyAttrs e.grouped p) (o.ownPropertyAttrs child.toHead p)
        (o.assemble e.grouped (lowerNodes o e.children)) (lowerElement o e) ↔
      e.selfClosing = false ∧
      (∀ q ∈ e.props.erase p, o.ownPropertyAttrs e.grouped q = []) ∧
      (child.branch = e.branch ∨ e.branch = none ∧ ∃ c, child.branch = some (.when c)) ∧
      o.StandsAlone child p) ∧
    (child.role ≠ .template → child.tag ≠ "template" → child.isTransparent = false →
      (o.StandsAlone child p ↔ o.waits child = false)) := by
  refine ⟨?_, fun hplain htag ht => Options.standsAlone_iff hplain hout htag ht hchild p⟩
  have hprops : o.ownAttrs e.grouped = o.ownPropertyAttrs e.grouped p ↔
      ∀ q ∈ e.props.erase p, o.ownPropertyAttrs e.grouped q = [] := by
    rw [o.ownAttrs_of_loop_eq_none (h := e.grouped) hloop]
    exact flatMap_eq_iff_erase (List.mem_of_find?_eq_some hcarrier)
  have hmoved : ∀ b, .branch b ∉ o.ownPropertyAttrs child.toHead p :=
    o.branch_not_mem_propertyAttrs _ _ p
  rw [assemble_grouped_only_child hcarrier hloop hchildren,
    lowerElement_of_gives_way hrole hcarrier hloop hchildren hchild hout,
    splicedFrom_tags_iff (o.branch_not_mem_ownAttrs e.grouped)
      (o.branch_not_mem_ownAttrs child.toHead) hmoved, hprops]
  refine and_congr_right fun hopen => ?_
  rw [hopen, if_neg Bool.false_ne_true]
  rfl

/-- Nothing is lost when a template gives way to a child that has a condition of its own. -/
theorem splice_faithful_own_condition :
    SplicedFrom [.assign "slot" "a"] [.assign "slot" "a"]
      [.tag "view" [.assign "slot" "a"] false
        [.tag "text" [.branch (.when "ok")] false [.text "hi"]]]
      [.tag "text" [.branch (.when "ok"), .assign "slot" "a"] false [.text "hi"]] :=
  (splice_faithful_iff { fileName := "t.wxml", mark := "wx:" }
    ⟨{ tag := "template", role := .template,
       props := [.directive { name := "slot", arg := some (.literal "a") }] },
      [.element ⟨{ tag := "text", branch := some (.when "ok") }, [.text "hi"]⟩]⟩
    ⟨{ tag := "text", branch := some (.when "ok") }, [.text "hi"]⟩
    (.directive { name := "slot", arg := some (.literal "a") })
    rfl rfl rfl rfl rfl (by decide)).1.mpr
    ⟨rfl, by decide, .inr ⟨rfl, "ok", rfl⟩, rfl⟩

/-- The condition of a template is lost when it gives way to its child. -/
theorem splice_loses_condition :
    lowerElement { fileName := "t.wxml", mark := "wx:" }
      ⟨{ tag := "template", role := .template, branch := some (.when "ok"),
         props := [.directive { name := "slot", arg := some (.literal "a") }] },
        [.element ⟨{ tag := "text" }, [.text "hi"]⟩]⟩ =
      [.tag "text" [.assign "slot" "a"] false [.text "hi"]] ∧
    ¬ SplicedFrom [.assign "slot" "a"] [.assign "slot" "a"]
      [.tag "view" [.branch (.when "ok"), .assign "slot" "a"] false
        [.tag "text" [] false [.text "hi"]]]
      [.tag "text" [.assign "slot" "a"] false [.text "hi"]] := by
  refine ⟨rfl, ?_⟩
  rintro ⟨outer, name, inner, closed, kids, hwrapped, -, -, hkept, -⟩
  cases hwrapped
  have hmem := hkept (.when "ok") (List.mem_cons_self ..)
  simp at hmem

end MiniTemplate
