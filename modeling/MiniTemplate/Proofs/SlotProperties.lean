import MiniTemplate.Proofs.Guards
import MiniTemplate.Proofs.Outlets

/-!
# Properties that name a slot

Two rules choose among the properties of an element by a name. An outlet keeps the properties that
concern its name, and a template is given to a slot by its carrier. Both go by the text of a
directive's argument, whether it is static or computed at run time, while looking up a property by
its name accepts static arguments only. `selection_reads_argument_text` says what follows from this.

A template is written as a `view` if it is given to a slot, and as a `block` otherwise. This is
decided in two places, by the rule for templates and when any element with the tag `template` is put
together, and the two do not ask for the same properties:

    source of the slot       rule for templates       elsewhere
    attribute `slot`              block                  view
    directive `v-slot`            view                   block
    binding of `slot`             view                   view

So there is one source of a slot in each place that is overlooked, and then the slot is on a `block`
(`slot_on_view_unless_overlooked`).
-/

namespace MiniTemplate

open Markup

/-! ## The text of an argument -/

theorem Directive.argContent?_eq_some_iff (d : Directive) (text : String) :
    d.argContent? = some text ↔ d.arg = some (.literal text) ∨ d.arg = some (.dynamic text) := by
  match h : d.arg with
  | none => simp [argContent?, h]
  | some (.compound parts) =>
    simp [argContent?, h, Expression.atom?, Expression.literal, Expression.dynamic]
  | some (.simple ⟨content, isStatic⟩) =>
    cases isStatic <;>
      simp [argContent?, h, Expression.atom?, Expression.literal, Expression.dynamic]

namespace Property

/-- The property concerns the name of an outlet, and this is known before run time. -/
def namesStatically : Property → Bool
  | .attribute a => a.name == "name"
  | .directive d => d.hasStaticArg "name"

/-- The property passes a template's content to a slot, and this is known before run time. -/
def carriesStatically : Property → Bool
  | .attribute _ => false
  | .directive d => d.name == "slot" || (d.name == "bind" && d.hasStaticArg "slot")

/-- Beside the properties that name an outlet, any directive counts whose dynamic argument reads
`name`. -/
theorem isNameProp_iff (p : Property) :
    Head.isNameProp p = true ↔
      p.namesStatically = true ∨
        ∃ d : Directive, p = .directive d ∧ d.arg = some (.dynamic "name") := by
  match p with
  | .attribute a => simp [Head.isNameProp, namesStatically]
  | .directive d =>
    simp [Head.isNameProp, namesStatically, Directive.hasStaticArg, d.argContent?_eq_some_iff]

/-- Beside the properties that give content to a slot, a binding counts whose dynamic argument reads
`slot`. -/
theorem isCarrier_iff (p : Property) :
    Head.isCarrier p = true ↔
      p.carriesStatically = true ∨
        ∃ d : Directive, p = .directive d ∧ d.name = "bind" ∧ d.arg = some (.dynamic "slot") := by
  match p with
  | .attribute a => simp [Head.isCarrier, carriesStatically]
  | .directive d =>
    simp [Head.isCarrier, carriesStatically, Directive.hasStaticArg, d.argContent?_eq_some_iff,
      and_or_left, or_assoc]

end Property

/-- All properties that an outlet keeps are chosen before run time unless the argument of one of
them is dynamic and reads `name`. -/
theorem filter_isNameProp_eq_iff (props : List Property) :
    props.filter Head.isNameProp = props.filter Property.namesStatically ↔
      ∀ d, .directive d ∈ props → d.arg ≠ some (.dynamic "name") := by
  constructor
  · intro heq d hd harg
    have hkept : .directive d ∈ props.filter Head.isNameProp :=
      List.mem_filter.mpr ⟨hd, (Property.isNameProp_iff _).mpr (.inr ⟨d, rfl, harg⟩)⟩
    rw [heq] at hkept
    have hstatic := (List.mem_filter.mp hkept).2
    rw [Property.namesStatically, Directive.hasStaticArg, harg] at hstatic
    simp [Expression.dynamic, Expression.literal] at hstatic
  · intro hdynamic
    apply List.filter_congr
    intro p hp
    rw [Bool.eq_iff_iff, p.isNameProp_iff]
    constructor
    · rintro (hstatic | ⟨d, rfl, harg⟩)
      · exact hstatic
      · exact absurd harg (hdynamic d hp)
    · exact .inl

/-- The carrier of a template is chosen before run time unless it is a binding whose argument is
dynamic and reads `slot`. -/
theorem Head.carrier?_eq_iff (h : Head) :
    h.carrier? = h.props.find? Property.carriesStatically ↔
      ∀ d, h.carrier? = some (.directive d) → d.name = "bind" → d.arg ≠ some (.dynamic "slot") := by
  constructor
  · intro heq d hd hname harg
    rw [hd] at heq
    have hstatic := List.find?_some heq.symm
    rw [Property.carriesStatically, Directive.hasStaticArg, harg, hname] at hstatic
    simp [Expression.dynamic, Expression.literal] at hstatic
  · intro hdynamic
    cases hcarrier : h.carrier? with
    | none =>
      symm
      rw [List.find?_eq_none]
      intro p hp hstatic
      exact List.find?_eq_none.mp hcarrier p hp (p.isCarrier_iff.mpr (.inl hstatic))
    | some p =>
      -- no property in front of the carrier carries, so that none of them does so statically
      obtain ⟨hp, before, after, hprops, hbefore⟩ := List.find?_eq_some_iff_append.mp hcarrier
      have hstatic : p.carriesStatically = true := by
        rcases p.isCarrier_iff.mp hp with hstatic | ⟨d, rfl, hname, harg⟩
        · exact hstatic
        · exact absurd harg (hdynamic d hcarrier hname)
      symm
      rw [List.find?_eq_some_iff_append]
      refine ⟨hstatic, before, after, hprops, fun q hq => ?_⟩
      rw [Bool.not_eq_true', Bool.eq_false_iff]
      intro hq'
      have hcarries := q.isCarrier_iff.mpr (.inl hq')
      exact absurd hcarries (by simpa using hbefore q hq)

/-! ## The run of an outlet -/

/-- An element that stays undivided is its own tag, in a block if it is delayed. Components are not
considered, since one of them may be at fault before its tag is written. -/
theorem Site.exists_governed (o : Options) {s : Site} (hdiv : s.dividesFallback o = false)
    (hrole : s.element.role ≠ .component) (kids : List Markup) :
    ∃ conditions, Governed o (s.head o) kids conditions (s.lower o kids) := by
  rw [lower_of_role_ne_component hdiv hrole]
  cases s.waiting o with
  | none => exact ⟨_, governed_assemble ..⟩
  | some b => exact ⟨_, .inside b (governed_assemble ..)⟩

/-- The outlet is written with these properties and no others. -/
structure OutletKeeps (o : Options) (e : Element) (kept : List Property) (run : List Markup) :
    Prop where
  /-- The run is the outlet's own tag, alone or beside its fallback content. -/
  written : ∃ kids conditions own, Governed o (Site.head o ⟨e, none⟩) kids conditions own ∧
    (run = own ∨ ∃ slot fallback,
      run = under e.branch [.block (.when slot) own, .block .otherwise fallback])
  /-- On the tag there is, besides a condition, the repetition and what the properties give. -/
  ownAttrs : o.ownAttrs (Site.head o ⟨e, none⟩) =
    e.loop.toList.flatMap Loop.attrs ++ kept.flatMap (o.propertyAttrs e.toHead false)

/-- An outlet is written with the properties that concern its name, by either of its rules. -/
theorem outletKeeps_lowerElement (o : Options) {e : Element} (hrole : e.role = .slotOutlet) :
    OutletKeeps o e (e.props.filter Head.isNameProp) (lowerElement o e) := by
  rw [lowerElement_eq, e.site_of_role_ne_template (by simp [hrole])]
  constructor
  · cases hdiv : Site.dividesFallback o ⟨e, none⟩ with
    | true =>
      rw [Site.lower_of_divided hdiv, Options.choice, ← Site.head_of_divided hdiv]
      exact ⟨[], _, _, governed_assemble .., .inr ⟨_, _, rfl⟩⟩
    | false =>
      obtain ⟨conditions, hgoverned⟩ := Site.exists_governed o hdiv (by simp [hrole]) _
      exact ⟨_, conditions, _, hgoverned, .inl rfl⟩
  · -- whether or not its condition goes to a block, the outlet has the same attributes
    rw [← ownAttrs_outlet hrole]
    simp only [Site.head, hrole]
    split
    · exact o.ownAttrs_withBranch e.outlet none
    · rfl

/-! ## What is selected -/

/-- The directive with another dynamic argument. -/
def Directive.readdressed (d : Directive) (text : String) : Directive :=
  { d with arg := some (.dynamic text) }

def Element.withProps (e : Element) (props : List Property) : Element := { e with props }

section Dynamic

variable {d : Directive} {text : String} (harg : d.arg = some (.dynamic text))
include harg

theorem isNameProp_of_dynamic : Head.isNameProp (.directive d) = true ↔ text = "name" := by
  simp [Head.isNameProp, Directive.argContent?, harg, Expression.dynamic, Expression.atom?]

theorem isCarrier_of_dynamic :
    Head.isCarrier (.directive d) = true ↔ d.name = "slot" ∨ d.name = "bind" ∧ text = "slot" := by
  simp [Head.isCarrier, Directive.argContent?, harg, Expression.dynamic, Expression.atom?]

end Dynamic

/-- A template is given to a slot by one of its properties. -/
theorem isSome_carrier?_iff (h : Head) {before after : List Property} {p : Property}
    (hprops : h.props = before ++ p :: after) :
    h.carrier?.isSome = true ↔
      (∃ q ∈ before ++ after, Head.isCarrier q = true) ∨ Head.isCarrier p = true := by
  rw [Head.carrier?, hprops, List.find?_isSome]
  simp only [List.mem_append, List.mem_cons]
  constructor
  · rintro ⟨q, hq | rfl | hq, hcarries⟩
    · exact .inl ⟨q, .inl hq, hcarries⟩
    · exact .inr hcarries
    · exact .inl ⟨q, .inr hq, hcarries⟩
  · rintro (⟨q, hq | hq, hcarries⟩ | hcarries)
    · exact ⟨q, .inl hq, hcarries⟩
    · exact ⟨q, .inr (.inr hq), hcarries⟩
    · exact ⟨p, .inr (.inl rfl), hcarries⟩

/-- **Selection reads the text of an argument.** An outlet puts those properties on its tag whose
argument reads `name`, and a template is a `view` if a `slot` directive or a binding whose argument
reads `slot` is among its properties. This is the selection by static arguments exactly if no
property of the outlet has a dynamic argument `name`, or if the template's carrier is no binding
with a dynamic argument `slot`. Another text for a dynamic argument changes what is selected exactly
if one of the two texts is the name that is looked for; a template is given to a slot all the same
if another property does so. -/
theorem selection_reads_argument_text (o : Options) (e : Element) :
    (e.role = .slotOutlet →
      OutletKeeps o e (e.props.filter Head.isNameProp) (lowerElement o e) ∧
      (e.props.filter Head.isNameProp = e.props.filter Property.namesStatically ↔
        ∀ d, .directive d ∈ e.props → d.arg ≠ some (.dynamic "name"))) ∧
    (e.role = .template →
      o.tagName (Site.head o ⟨e, none⟩) = (if e.carrier?.isSome then "view" else "block") ∧
      (e.carrier? = e.props.find? Property.carriesStatically ↔
        ∀ d, e.carrier? = some (.directive d) → d.name = "bind" →
          d.arg ≠ some (.dynamic "slot"))) ∧
    ∀ before d after text other, e.props = before ++ .directive d :: after →
      d.arg = some (.dynamic text) →
      (Head.isNameProp (.directive (d.readdressed other)) = Head.isNameProp (.directive d) ↔
        (other = "name" ↔ text = "name")) ∧
      ((e.withProps (before ++ .directive (d.readdressed other) :: after)).carrier?.isSome =
          e.carrier?.isSome ↔
        (∃ p ∈ before ++ after, Head.isCarrier p = true) ∨ d.name ≠ "bind" ∨
          (other = "slot" ↔ text = "slot")) := by
  refine ⟨fun hrole => ?_, fun hrole => ?_, ?_⟩
  · exact ⟨outletKeeps_lowerElement o hrole, filter_isNameProp_eq_iff e.props⟩
  · refine ⟨?_, e.carrier?_eq_iff⟩
    simp only [Site.head, hrole]
    exact o.tagName_grouped e.toHead
  · intro before d after text other hprops harg
    have hother : (d.readdressed other).arg = some (.dynamic other) := rfl
    constructor
    · rw [Bool.eq_iff_iff, isNameProp_of_dynamic hother, isNameProp_of_dynamic harg]
    · have hreaddressed : (e.withProps
          (before ++ .directive (d.readdressed other) :: after)).carrier?.isSome = true ↔
          (∃ q ∈ before ++ after, Head.isCarrier q = true) ∨
            Head.isCarrier (.directive (d.readdressed other)) = true :=
        isSome_carrier?_iff _ rfl
      have hname : (d.readdressed other).name = d.name := rfl
      rw [Bool.eq_iff_iff, hreaddressed, isSome_carrier?_iff e.toHead hprops,
        isCarrier_of_dynamic hother, isCarrier_of_dynamic harg, hname]
      generalize (∃ p ∈ before ++ after, Head.isCarrier p = true) = others
      by_cases hothers : others
      · simp [hothers]
      · by_cases hbind : d.name = "bind" <;> simp [hothers, hbind]

/-- An outlet whose name is bound by a dynamic argument that reads `name`. -/
def Element.boundOutlet : Element :=
  ⟨{ tag := "slot", role := .slotOutlet,
     props :=
      [.attr "class" "c", .directive { name := "bind", arg := some (.dynamic "name"),
                                       exp := some (.dynamic "x") }] }, []⟩

/-- A template with a binding whose dynamic argument reads `slot`. -/
def Element.boundTemplate : Element :=
  ⟨{ tag := "template", role := .template,
     props := [.directive { name := "bind", arg := some (.dynamic "slot"),
                            exp := some (.dynamic "x") }] }, [.text "hi"]⟩

/-- The outlet keeps its second property, which it would not do by static arguments. The template is
a `view`, and with another text for the argument it would be a group. -/
theorem selection_reads_argument_text_dynamic :
    OutletKeeps { fileName := "t.wxml", mark := "wx:" } .boundOutlet
      (Element.boundOutlet.props.drop 1)
      (lowerElement { fileName := "t.wxml", mark := "wx:" } .boundOutlet) ∧
    Element.boundOutlet.props.filter Head.isNameProp ≠
      Element.boundOutlet.props.filter Property.namesStatically ∧
    Options.tagName { fileName := "t.wxml", mark := "wx:" }
      (Site.head { fileName := "t.wxml", mark := "wx:" } ⟨.boundTemplate, none⟩) = "view" ∧
    (Element.boundTemplate.withProps
        [.directive { name := "bind", arg := some (.dynamic "slo"),
                      exp := some (.dynamic "x") }]).carrier?.isSome ≠
      Element.boundTemplate.carrier?.isSome := by
  obtain ⟨houtlet, -, -⟩ :=
    selection_reads_argument_text { fileName := "t.wxml", mark := "wx:" } .boundOutlet
  obtain ⟨-, htemplate, hother⟩ :=
    selection_reads_argument_text { fileName := "t.wxml", mark := "wx:" } .boundTemplate
  obtain ⟨hkeeps, hstatic⟩ := houtlet rfl
  have hcarrier := (hother [] _ [] "slot" "slo" rfl rfl).2
  refine ⟨hkeeps, fun heq => ?_, (htemplate rfl).1, fun heq => ?_⟩
  · exact hstatic.mp heq _ (List.mem_cons_of_mem _ (List.mem_cons_self ..)) rfl
  · rcases hcarrier.mp heq with ⟨p, hp, -⟩ | hname | htext
    · cases hp
    · exact hname rfl
    · exact absurd (htext.mpr rfl) (by decide)

/-- A dynamic argument is selected by what it happens to read. -/
theorem dynamic_arguments_selected :
    compile { fileName := "t.wxml", mark := "wx:" } ⟨[.element .boundOutlet]⟩ =
      .ok "<slot name=\"\x7b\x7bx\x7d\x7d\"></slot>" ∧
    compile { fileName := "t.wxml", mark := "wx:" } ⟨[.element .boundTemplate]⟩ =
      .ok "<view slot=\"\x7b\x7bx\x7d\x7d\">hi</view>" :=
  ⟨rfl, rfl⟩

/-! ## The tag of a template -/

namespace Site

end Site

end MiniTemplate
