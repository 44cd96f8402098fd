import MiniTemplate.Proofs.Visibility

/-!
# Outlets beside their fallback content

Where the platform has no fallback content, an outlet with children becomes a choice between two
blocks, and its own condition goes to a block around them:

    <slot v-if="a" name="n">…</slot>  ↦
      <block if="a"><block if="$slots.n"><slot name="n"></slot></block><block else>…</block></block>

The two blocks make one chain of their own. What is inside of them is a list of siblings by itself,
so that a chain in the fallback content neither continues nor is continued by them: whatever the two
hold, the slot alone decides between them (`visibleForest_choice`). `outlet_is_exclusive_choice`
puts this together for every outlet.

The slot is asked for by the name on the outlet. Content is given to a slot under a name that the
runtime knows, which is not always the name in the template: `default` is known as `d`. The name on
an outlet is not translated, and `outlet_asks_for_registered_slot_iff` says for which names the two
agree.
-/

namespace MiniTemplate

open Markup

/-! ## The name properties of an outlet -/

namespace Head

/-- A property that concerns the name binds nothing else. -/
theorem bound?_of_isNameProp {p : Property} (hp : isNameProp p = true) {name : String}
    (hname : name ≠ "name") : p.bound? name = none := by
  match p with
  | .attribute a => rfl
  | .directive d =>
    rw [Property.bound?, if_neg]
    rintro ⟨-, harg⟩
    rw [Directive.hasStaticArg, beq_iff_eq] at harg
    have hcontent : d.argContent? = some name := by simp [Directive.argContent?, harg,
      Expression.literal, Expression.atom?]
    rw [isNameProp, hcontent, beq_iff_eq, Option.some.injEq] at hp
    exact hname hp

/-- An outlet has no key, since a key does not concern its name. -/
theorem bound?_key_outlet (h : Head) : h.outlet.bound? "key" = none := by
  rw [bound?, List.findSome?_eq_none_iff]
  intro p hp
  exact bound?_of_isNameProp (List.mem_filter.mp hp).2 (by decide)

/-- What sets the name of an outlet concerns its name. -/
theorem isNameProp_of_sets {p : Property} (hp : p.sets "name" false = true) :
    isNameProp p = true := by
  match p with
  | .attribute a =>
    simp only [Property.sets, Bool.and_eq_true] at hp
    exact hp.1.2
  | .directive d =>
    rw [Property.sets, Property.bound?] at hp
    split at hp
    · next hbind =>
      have harg := hbind.2
      rw [Directive.hasStaticArg, beq_iff_eq] at harg
      simp [isNameProp, Directive.argContent?, harg, Expression.literal, Expression.atom?]
    · cases hp

/-- The filter on the properties of an outlet keeps the one that names it. -/
theorem prop?_name_outlet (h : Head) : h.outlet.prop? "name" false = h.prop? "name" false := by
  rw [prop?, outlet, List.find?_filter, prop?]
  congr 1
  funext p
  cases hp : p.sets "name" false with
  | false => simp
  | true => simp [isNameProp_of_sets hp]

end Head

/-! ## The outlet's own tag -/

/-- The tag of an outlet beside its fallback content. It is empty and bears the repetition of the
outlet and what the properties that concern its name give. -/
def Options.outletTag (o : Options) (e : Element) : Markup :=
  .tag e.tag
    (e.loop.toList.flatMap Loop.attrs ++
      (e.props.filter Head.isNameProp).flatMap (o.propertyAttrs e.toHead false))
    e.selfClosing []

section Outlet

variable {o : Options} {e : Element}

/-- Only the repetition and the properties that concern the name are left of an outlet. -/
theorem ownAttrs_outlet (hrole : e.role = .slotOutlet) :
    o.ownAttrs e.outlet =
      e.loop.toList.flatMap Loop.attrs ++
        (e.props.filter Head.isNameProp).flatMap (o.propertyAttrs e.toHead false) := by
  have huser : o.isUserComponent e.outlet = false := by
    simp [Options.isUserComponent, Head.outlet, hrole]
  have howner : o.propertyAttrs e.outlet false = o.propertyAttrs e.toHead false := by
    funext p
    exact o.propertyAttrs_congr rfl rfl false p
  have hrepetition : o.repetition e.outlet =
      ⟨e.loop.toList.flatMap Loop.attrs, e.props.filter Head.isNameProp⟩ := by
    cases hl : e.loop with
    | none =>
      rw [Options.repetition, show e.outlet.loop = none from hl]
      rfl
    | some l =>
      rw [o.repetition_of_loop (show e.outlet.loop = some l from hl), Head.bound?_key_outlet]
      simp [Head.outlet]
  rw [Options.ownAttrs, huser, hrepetition, ← howner]
  rfl

/-- An outlet that leaves a tag behind is its own tag. -/
theorem assemble_outlet (hrole : e.role = .slotOutlet) (hblock : e.tag ≠ "block")
    (htemplate : e.tag ≠ "template") :
    o.assemble (e.outlet.withBranch none) [] = [o.outletTag e] := by
  have hresolved : (e.outlet.withBranch none).resolvedTag = e.tag := by
    rw [Head.resolvedTag, if_neg]
    · rfl
    · exact htemplate
  have ht : (e.outlet.withBranch none).isTransparent = false := by
    simp [Head.isTransparent, hresolved, hblock]
  have huser : o.isUserComponent (e.outlet.withBranch none) = false := by
    simp [Options.isUserComponent, Head.withBranch, Head.outlet, hrole]
  have hname : o.tagName (e.outlet.withBranch none) = e.tag := by
    rw [Options.tagName, huser, if_neg Bool.false_ne_true, hresolved]
  rw [o.assemble_of_branch_eq_none ht rfl, Options.ownTag, hname, Options.ownAttrs_withBranch,
    ownAttrs_outlet hrole, ite_self]
  rfl

theorem branch_not_mem_outletTag (hrole : e.role = .slotOutlet) (b : Branch) :
    .branch b ∉ (o.outletTag e).tagAttrs := by
  show .branch b ∉ e.loop.toList.flatMap Loop.attrs ++ _
  rw [← ownAttrs_outlet hrole]
  exact o.branch_not_mem_ownAttrs _ b

/-- The tag of an outlet is seen as it is. -/
theorem visible_outletTag (hrole : e.role = .slotOutlet) (hblock : e.tag ≠ "block")
    (r : String → Bool) (shown : Bool) : visible r shown (o.outletTag e) = [o.outletTag e] := by
  have hnone := branch_not_mem_outletTag (o := o) hrole
  rw [Options.outletTag, tagAttrs] at hnone
  rw [Options.outletTag, visible, Attr.shows, Attr.condition?_eq_none hnone,
    Attr.unconditional_eq_self hnone, Option.all_none, if_pos rfl, ungroup,
    if_neg fun h => hblock h.1, visibleForest_nil, ite_self]

/-! ## The choice -/

/-- An outlet with children becomes a choice, where the platform has no fallback content. -/
theorem lowerElement_outlet (hfallback : o.slotFallback = false) (hrole : e.role = .slotOutlet)
    (hchildren : e.children ≠ []) :
    lowerElement o e = under e.branch (o.choice e.toHead (lowerNodes o e.children)) := by
  have hdiv : Site.dividesFallback o ⟨e, none⟩ = true :=
    (Site.dividesFallback_eq_true_iff ..).mpr ⟨rfl, hrole, hchildren, hfallback⟩
  rw [lowerElement_eq, e.site_of_role_ne_template (by simp [hrole]), Site.lower_of_divided hdiv]

/-- The run of an outlet beside its fallback content. -/
theorem lowerNode_outlet (hfallback : o.slotFallback = false) (hrole : e.role = .slotOutlet)
    (hblock : e.tag ≠ "block") (htemplate : e.tag ≠ "template") (hchildren : e.children ≠ []) :
    lowerNode o (.element e) =
      under e.branch
        [.block (.when ("$slots." ++ e.outlet.outletName)) [o.outletTag e],
          .block .otherwise (lowerNodes o e.children)] := by
  rw [lowerNode, lowerElement_outlet hfallback hrole hchildren, Options.choice,
    assemble_outlet hrole hblock htemplate]

end Outlet

namespace Markup

variable {r : String → Bool}

/-- Two blocks, the second in place of the first: the condition alone decides which of them is seen,
and what is seen of it is seen of the same list by itself. -/
theorem visibleForest_choice (c : String) (shown : Bool) (inner others : List Markup) :
    visibleForest r shown [.block (.when c) inner, .block .otherwise others] =
      if r c then visibleForest r false inner else visibleForest r false others := by
  rw [visibleForest_cons, visibleForest_singleton, visible_block, visible_block, after_block,
    Branch.holds, Branch.holds, Branch.after]
  cases r c <;> simp

/-- A forest under a condition is seen if the condition holds. -/
theorem visibleForest_under (b : Option Branch) (shown : Bool) (forest : List Markup)
    (h : ∀ shown', visibleForest r shown' forest = visibleForest r false forest) :
    visibleForest r shown (under b forest) =
      if b.all (Branch.holds r shown) then visibleForest r false forest else [] := by
  cases b with
  | none => exact h shown
  | some b => exact visible_block shown b forest ▸ visibleForest_singleton shown _

end Markup

/-- **An outlet is an exclusive choice.** An outlet with children that has a tag of its own is
written as two blocks side by side, in one more block if it has a condition. If its condition lets
it be seen, then it is seen as its own empty tag where its slot is filled, and as what is seen of
its children otherwise; if not, nothing is seen of it. Which of the two is seen does not depend on
anything inside of them. -/
theorem outlet_is_exclusive_choice (o : Options) (e : Element) (code : String)
    (hfallback : o.slotFallback = false) (hrole : e.role = .slotOutlet) (hblock : e.tag ≠ "block")
    (htemplate : e.tag ≠ "template") (hchildren : e.children ≠ [])
    (hwritten : (o.writeMarkup code (lowerNode o (.element e))).fault = none) :
    lowerNode o (.element e) =
      under e.branch
        [.block (.when ("$slots." ++ e.outlet.outletName)) [o.outletTag e],
          .block .otherwise (lowerNodes o e.children)] ∧
    o.writeMarkup code (lowerNode o (.element e)) =
      ⟨code ++ renderForest o.mark (lowerNode o (.element e)), none⟩ ∧
    (∀ b, .branch b ∉ (o.outletTag e).tagAttrs) ∧
    (∀ r shown, visibleForest r shown (lowerNode o (.element e)) =
      if e.branch.all (Branch.holds r shown) then
        if r ("$slots." ++ e.outlet.outletName) then [o.outletTag e]
        else visibleForest r false (lowerNodes o e.children)
      else []) ∧
    ∀ r shown inner others,
      visibleForest r shown
          [.block (.when ("$slots." ++ e.outlet.outletName)) inner, .block .otherwise others] =
        if r ("$slots." ++ e.outlet.outletName) then visibleForest r false inner
        else visibleForest r false others := by
  have hforest := lowerNode_outlet hfallback hrole hblock htemplate hchildren
  have hsound := (o.writeMarkup_fault_eq_none_iff ..).mp hwritten
  refine ⟨hforest, o.writeMarkup_of_sound code hsound, branch_not_mem_outletTag hrole, ?_, ?_⟩
  · intro r shown
    -- both blocks make a chain of their own, so that the chain before them does not matter
    rw [hforest, visibleForest_under, visibleForest_choice, visibleForest_singleton,
      visible_outletTag hrole hblock]
    intro shown'
    rw [visibleForest_choice, visibleForest_choice]
  · intro r shown inner others
    exact visibleForest_choice _ shown inner others

/-- An outlet in second place of a chain. It is repeated, and two of its three properties concern
its name. Its fallback content begins with a chain of its own and holds another outlet. -/
def Element.guestOutlet : Element :=
  ⟨{ tag := "slot", role := .slotOutlet, branch := some (.elseWhen "a"),
     loop := some { source := "xs", item := some "x" },
     props := [.attr "class" "c", .bare "name", .attr "name" "guest"] },
    [.group
      [⟨{ tag := "view", branch := some (.when "p") }, [.text "yes"]⟩,
        ⟨{ tag := "view", branch := some .otherwise }, [.text "no"]⟩],
      .element ⟨{ tag := "slot", role := .slotOutlet, selfClosing := true }, []⟩]⟩

theorem outlet_is_exclusive_choice_guest :
    (Options.writeMarkup { fileName := "t.wxml", mark := "wx:" } ""
        (lowerNode { fileName := "t.wxml", mark := "wx:" } (.element .guestOutlet))).code =
      "<block wx:elif=\"\x7b\x7ba\x7d\x7d\"><block wx:if=\"\x7b\x7b$slots.guest\x7d\x7d\">" ++
        "<slot wx:for=\"xs\" wx:for-item=\"x\" name name=\"guest\"></slot></block>" ++
        "<block wx:else><view wx:if=\"\x7b\x7bp\x7d\x7d\">yes</view><view wx:else>no</view>" ++
        "<slot/></block></block>" ∧
    visibleForest (fun c => c == "a") false
        (lowerNode { fileName := "t.wxml", mark := "wx:" } (.element .guestOutlet)) =
      [.tag "view" [] false [.text "no"], .tag "slot" [] true []] ∧
    visibleForest (fun _ => true) false
        (lowerNode { fileName := "t.wxml", mark := "wx:" } (.element .guestOutlet)) =
      [.tag "slot"
        [.loop .source "xs", .loop .item "x", .bare "name", .assign "name" "guest"] false []] ∧
    visibleForest (fun _ => true) true
        (lowerNode { fileName := "t.wxml", mark := "wx:" } (.element .guestOutlet)) = [] := by
  obtain ⟨-, hwritten, -, hseen, -⟩ :=
    outlet_is_exclusive_choice { fileName := "t.wxml", mark := "wx:" } .guestOutlet "" rfl rfl
      (by decide) (by decide) (List.cons_ne_nil _ _) rfl
  refine ⟨(congrArg Written.code hwritten).trans ?_, (hseen _ _).trans ?_, (hseen _ _).trans ?_,
    (hseen _ _).trans ?_⟩
  · decide +kernel
  all_goals rfl

/-! ## The name that is asked for -/

/-- The slot that the run of an outlet asks for before it shows the outlet. -/
def Markup.presence? : List Markup → Option String
  | [.tag _ [.branch (.when c)] _ _, .tag _ [.branch .otherwise] _ _] => some c
  | [.tag _ [.branch _] _ [.tag _ [.branch (.when c)] _ _, .tag _ [.branch .otherwise] _ _]] =>
    some c
  | _ => none

/-- The name under which the runtime registers content with these attributes. -/
def Attr.registeredSlot (attrs : List Attr) : String :=
  (attrs.findSome? fun
    | .assign name value => if name = "slot" then some value else none
    | _ => none).getD defaultSlot

/-- An outlet with fallback content asks for the slot that it stands for. -/
theorem presence?_lowerElement {o : Options} {e : Element} (hfallback : o.slotFallback = false)
    (hrole : e.role = .slotOutlet) (hchildren : e.children ≠ []) :
    presence? (lowerElement o e) = some ("$slots." ++ e.outlet.outletName) := by
  rw [lowerElement_outlet hfallback hrole hchildren]
  rcases e.branch with _ | (_ | _ | _) <;> rfl

theorem Head.outletName_of_attribute {h : Head} {name : String} (hname : name ≠ "")
    (hprop : h.prop? "name" false = some (.attribute ⟨"name", some name⟩)) :
    h.outlet.outletName = name := by
  rw [outletName, prop?_name_outlet, hprop]
  exact if_neg hname

theorem Head.outletName_of_unnamed {h : Head} (hprop : h.prop? "name" false = none) :
    h.outlet.outletName = defaultSlot := by
  rw [outletName, prop?_name_outlet, hprop]

/-- Content that is given to a slot by a static name is registered under the runtime's name for
it. -/
theorem registeredSlot_of_static (o : Options) (owner : Head) (virtualHost : Bool) {d : Directive}
    {name : String} (hslot : d.name = "slot") (harg : d.arg = some (.literal name))
    (hser : o.serialize (.literal name) = .ok name) :
    Attr.registeredSlot (o.propertyAttrs owner virtualHost (.directive d)) = slotKey name := by
  have hattrs : o.propertyAttrs owner virtualHost (.directive d) =
      if slotKey name = defaultSlot then [] else [.assign "slot" (slotKey name)] := by
    have hstatic : (Expression.literal name).isStatic = true := rfl
    simp [Options.propertyAttrs, Options.directiveAttrs, hslot, Options.slotAttrs, harg,
      Options.withText, hser, hstatic]
  rw [hattrs]
  split
  · next hdefault =>
    rw [hdefault]
    rfl
  · rfl

/-- The runtime registers every slot but `default` under its own name. -/
theorem slotKey_eq_self_iff (name : String) : slotKey name = name ↔ name ≠ "default" := by
  unfold slotKey
  split
  · next hdefault =>
    subst hdefault
    decide
  · next hother => exact iff_of_true rfl hother

/-- **Outlets ask for the slot of their name.** An outlet with fallback content asks for the slot of
the name that an attribute gives it, and without a name for the default slot as the runtime knows
it. Content that is given to a slot by a static name is registered under the runtime's name for it.
This is the one that an outlet of the same name asks for exactly if the name is not `default`. -/
theorem outlet_asks_for_registered_slot_iff (o : Options) (e : Element) (name : String)
    (hfallback : o.slotFallback = false) (hrole : e.role = .slotOutlet)
    (hchildren : e.children ≠ []) (hname : name ≠ "")
    (hprop : e.prop? "name" false = some (.attribute ⟨"name", some name⟩)) :
    presence? (lowerElement o e) = some ("$slots." ++ name) ∧
    (∀ e' : Element, e'.role = .slotOutlet → e'.children ≠ [] → e'.prop? "name" false = none →
      presence? (lowerElement o e') = some ("$slots." ++ slotKey "default")) ∧
    (∀ (d : Directive) (owner : Head) (virtualHost : Bool), d.name = "slot" →
      d.arg = some (.literal name) → o.serialize (.literal name) = .ok name →
      Attr.registeredSlot (o.propertyAttrs owner virtualHost (.directive d)) = slotKey name) ∧
    (presence? (lowerElement o e) = some ("$slots." ++ slotKey name) ↔ name ≠ "default") := by
  have hasks : presence? (lowerElement o e) = some ("$slots." ++ name) := by
    rw [presence?_lowerElement hfallback hrole hchildren, Head.outletName_of_attribute hname hprop]
  refine ⟨hasks, ?_, ?_, ?_⟩
  · intro e' hrole' hchildren' hunnamed
    rw [presence?_lowerElement hfallback hrole' hchildren', Head.outletName_of_unnamed hunnamed]
    rfl
  · intro d owner virtualHost hslot harg hser
    exact registeredSlot_of_static o owner virtualHost hslot harg hser
  · rw [hasks, Option.some.injEq, ← slotKey_eq_self_iff, eq_comm, String.append_right_inj]

/-- The outlet has a condition, and a property in front of its name that does not concern it.
Content for the slot `header` is registered under the name that it asks for. -/
theorem outlet_asks_for_registered_slot_iff_header :
    presence?
        (lowerElement { fileName := "t.wxml", mark := "wx:" }
          ⟨{ tag := "slot", role := .slotOutlet, branch := some (.when "a"),
             props := [.attr "class" "c", .attr "name" "header"] }, [.text "f"]⟩) =
      some ("$slots." ++
        Attr.registeredSlot
          (Options.propertyAttrs { fileName := "t.wxml", mark := "wx:" } { tag := "view" } false
            (.directive { name := "slot", arg := some (.literal "header") }))) := by
  obtain ⟨-, -, hregistered, hagree⟩ :=
    outlet_asks_for_registered_slot_iff { fileName := "t.wxml", mark := "wx:" }
      ⟨{ tag := "slot", role := .slotOutlet, branch := some (.when "a"),
         props := [.attr "class" "c", .attr "name" "header"] }, [.text "f"]⟩
      "header" rfl rfl (List.cons_ne_nil _ _) (by decide) rfl
  rw [hregistered _ _ _ rfl rfl rfl]
  exact hagree.mpr (by decide)

/-- An outlet named `default` asks for a slot that no content is registered under, and not for the
one that an outlet without a name asks for. -/
theorem outlet_named_default_asks_for_other_slot :
    compile { fileName := "t.wxml", mark := "wx:" }
        ⟨[.element ⟨{ tag := "slot", role := .slotOutlet, props := [.attr "name" "default"] },
          [.text "f"]⟩]⟩ =
      .ok ("<block wx:if=\"\x7b\x7b$slots.default\x7d\x7d\"><slot name=\"default\"></slot>" ++
        "</block><block wx:else>f</block>") ∧
    compile { fileName := "t.wxml", mark := "wx:" }
        ⟨[.element ⟨{ tag := "slot", role := .slotOutlet }, [.text "f"]⟩]⟩ =
      .ok ("<block wx:if=\"\x7b\x7b$slots.d\x7d\x7d\"><slot></slot></block>" ++
        "<block wx:else>f</block>") ∧
    slotKey "default" = "d" :=
  ⟨rfl, rfl, rfl⟩

end MiniTemplate
