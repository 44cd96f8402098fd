import MiniTemplate.Proofs.AttributeOrder

/-!
# The first fault of a template

The serializer `Expression.raw` has a text for every expression. Under it, what can go wrong with a
template is only that a directive lacks what its name asks for (`Directive.IllShaped`), and only a
directive that is written can do so. `Template.directives` lists these in the order of writing:

* the elements come in document order, each before what stands inside it;
* what stands inside an element that leaves its children out does not come up;
* a slot outlet has only the properties that concern its name;
* a template that gives way to its child has only the property that it hands on, and the child has
  it in last place;
* a repeated element has given its key away.

A template compiles exactly if none of them is ill-shaped, and otherwise the first that is becomes
the result (`compile_reports_first_illShaped`).
-/

namespace MiniTemplate

open Markup

/-! ## Ill-shaped directives -/

namespace Directive

def hasSimpleArg (d : Directive) : Bool :=
  match d.arg with
  | some (.simple _) => true
  | _ => false

/-- The directive lacks what its name asks for: an event its name or its handler, `show` its
condition, and a directive that is not known by its name an argument or an expression. -/
def IllShaped (d : Directive) : Prop :=
  (d.name = "on" ∧ (d.hasSimpleArg = false ∨ d.exp = none)) ∨
  (d.name = "show" ∧ d.exp = none) ∨
  (d.name ∉ ["on", "slot", "show", "bind"] ∧ (d.arg = none ∨ d.exp = none))

instance (d : Directive) : Decidable d.IllShaped := inferInstanceAs (Decidable (_ ∨ _ ∨ _))

/-- How an ill-shaped directive on a tag is reported. -/
def complaint (tag : String) (d : Directive) : Fault :=
  if d.name = "on" then
    .malformedEvent d.describe tag (if d.hasSimpleArg then .handler else .name)
  else
    .unknownDirective d.describe tag

def fault? (tag : String) (d : Directive) : Option Fault :=
  if d.IllShaped then some (d.complaint tag) else none

theorem fault?_eq_none_iff (tag : String) (d : Directive) :
    d.fault? tag = none ↔ ¬ d.IllShaped := by
  simp [fault?]

/-- A directive is reported exactly if it is ill-shaped, and then as its shape asks for. -/
theorem fault?_eq_some_iff (tag : String) (d : Directive) (f : Fault) :
    d.fault? tag = some f ↔ d.IllShaped ∧ f = d.complaint tag := by
  simp [fault?, eq_comm]

end Directive

def Property.directive? : Property → Option Directive
  | .attribute _ => none
  | .directive d => some d

/-- The properties that are written for the element at a site. A repeated element gives its first
key to the repetition. -/
def Site.emitted (s : Site) : List Property :=
  if s.element.loop.isSome then s.given.eraseP (·.sets "key" true) else s.given

/-- The directives that are written for the element at a site, each with the tag that it is on. -/
def Site.directives (o : Options) (s : Site) : List (String × Directive) :=
  (s.emitted.filterMap Property.directive?).map ((s.head o).tag, ·)

/-- The directives that are written for a template, in the order of writing. -/
def Template.directives (o : Options) (t : Template) : List (String × Directive) :=
  (t.sites o).flatMap (Site.directives o)

/-- The rule for the role of an element leaves the properties that are written. -/
theorem Site.remaining_head (o : Options) (s : Site) : (s.head o).remaining = s.emitted := by
  rw [Head.remaining, s.head_loop, s.head_props, emitted]
  cases s.element.loop <;> rfl

/-! ## Faults among the attributes of an element -/

theorem Directive.argContent?_eq_none_iff (d : Directive) :
    d.argContent? = none ↔ d.hasSimpleArg = false := by
  obtain ⟨name, arg, exp, modifiers, slotName⟩ := d
  rcases arg with _ | (a | parts) <;> simp [argContent?, hasSimpleArg, Expression.atom?]

section Raw

variable {o : Options} (hraw : o.serialize = Expression.raw)
include hraw

namespace Options

/-- The serializer that writes expressions as they stand finds no fault. -/
theorem withText_raw (exp : Expression) (attrs : String → List Attr) :
    o.withText exp attrs = attrs exp.text := by
  rw [withText, hraw]
  rfl

theorem filterMap_fault?_eventAttrs (owner : Head) {d : Directive} (hname : d.name = "on") :
    (o.eventAttrs owner d).filterMap Attr.fault? = (d.fault? owner.tag).toList := by
  cases hevent : d.argContent? with
  | none =>
    have harg := d.argContent?_eq_none_iff.mp hevent
    simp [eventAttrs, hevent, Attr.fault?, Directive.fault?, Directive.IllShaped,
      Directive.complaint, hname, harg]
  | some event =>
    have harg : d.hasSimpleArg = true := by
      rw [← Bool.not_eq_false, ← d.argContent?_eq_none_iff, hevent]
      simp
    cases hexp : d.exp with
    | none =>
      simp [eventAttrs, hevent, hexp, Attr.fault?, Directive.fault?, Directive.IllShaped,
        Directive.complaint, hname, harg]
    | some exp =>
      simp [eventAttrs, hevent, hexp, withText_raw hraw, Attr.fault?, Directive.fault?,
        Directive.IllShaped, hname, harg]

theorem filterMap_fault?_slotAttrs (owner : Head) {d : Directive} (hname : d.name = "slot") :
    (o.slotAttrs d).filterMap Attr.fault? = (d.fault? owner.tag).toList := by
  have hshaped : ¬ d.IllShaped := by simp [Directive.IllShaped, hname]
  rw [(d.fault?_eq_none_iff owner.tag).mpr hshaped, slotAttrs]
  split
  · rfl
  · rw [withText_raw hraw]
    split <;> try split
    all_goals rfl

theorem filterMap_fault?_showAttrs (owner : Head) {d : Directive} (hname : d.name = "show") :
    (o.showAttrs owner d).filterMap Attr.fault? = (d.fault? owner.tag).toList := by
  cases hexp : d.exp with
  | none =>
    simp [showAttrs, hexp, Attr.fault?, Directive.fault?, Directive.IllShaped, Directive.complaint,
      hname]
  | some exp =>
    simp [showAttrs, hexp, withText_raw hraw, Attr.fault?, Directive.fault?, Directive.IllShaped,
      hname]

theorem filterMap_fault?_bindAttrs (owner : Head) (virtualHost : Bool) {d : Directive}
    (hname : d.name ∉ ["on", "slot", "show"]) :
    (o.bindAttrs owner virtualHost d).filterMap Attr.fault? = (d.fault? owner.tag).toList := by
  have hnames : d.name ≠ "on" ∧ d.name ≠ "slot" ∧ d.name ≠ "show" := by simpa using hname
  obtain ⟨hon, hslot, hshow⟩ := hnames
  have hshaped : d.IllShaped ↔ d.name ≠ "bind" ∧ (d.arg = none ∨ d.exp = none) := by
    simp [Directive.IllShaped, hon, hslot, hshow]
  cases harg : d.arg with
  | none =>
    by_cases hbind : d.name = "bind" <;>
      simp [bindAttrs, harg, hbind, Attr.fault?, Directive.fault?, hshaped, Directive.complaint,
        hon]
  | some arg =>
    cases hexp : d.exp with
    | none =>
      by_cases hbind : d.name = "bind" <;>
        simp [bindAttrs, harg, hexp, hbind, Attr.fault?, Directive.fault?, hshaped,
          Directive.complaint, hon]
    | some exp =>
      have hassign : ∀ names : List String,
          (names.map (Attr.assign · (mustache exp.text))).filterMap Attr.fault? = [] := by
        intro names
        simp [Attr.fault?]
      simp [bindAttrs, harg, hexp, withText_raw hraw, hassign, Directive.fault?, hshaped]

/-- A property is at fault exactly as an ill-shaped directive. -/
theorem filterMap_fault?_ownPropertyAttrs (h : Head) (p : Property) :
    (o.ownPropertyAttrs h p).filterMap Attr.fault? =
      (p.directive?.bind (Directive.fault? h.tag)).toList := by
  rw [ownPropertyAttrs]
  match p with
  | .attribute ⟨name, some value⟩ => simp [propertyAttrs, Attr.fault?, Property.directive?]
  | .attribute ⟨name, none⟩ => simp [propertyAttrs, Attr.fault?, Property.directive?]
  | .directive d =>
    rw [propertyAttrs, directiveAttrs, Property.directive?, Option.bind_some]
    split
    · next hon => exact filterMap_fault?_eventAttrs hraw h hon
    · next hon =>
      split
      · next hslot => exact filterMap_fault?_slotAttrs hraw h hslot
      · next hslot =>
        split
        · next hshow => exact filterMap_fault?_showAttrs hraw h hshow
        · next hshow =>
          exact filterMap_fault?_bindAttrs hraw h _ (by simp [hon, hslot, hshow])

/-- The faults of an element's own attributes are those of its directives that are written. -/
theorem filterMap_fault?_ownAttrs (h : Head) :
    (o.ownAttrs h).filterMap Attr.fault? =
      (h.remaining.filterMap Property.directive?).filterMap (Directive.fault? h.tag) := by
  have hfragments : (o.fragments h).filterMap Attr.fault? =
      (h.remaining.filterMap Property.directive?).filterMap (Directive.fault? h.tag) := by
    rw [fragments, List.filterMap_flatMap, List.filterMap_filterMap,
      List.filterMap_eq_flatMap_toList]
    simp only [filterMap_fault?_ownPropertyAttrs hraw]
  rw [← hfragments]
  cases hl : h.loop with
  | none => rw [ownAttrs_eq_fragments hl]
  | some l =>
    have htext : ∀ exp, h.bound? "key" = some exp → ∃ text, o.serialize exp = .ok text := by
      intro exp _
      exact ⟨exp.text, by rw [hraw]; rfl⟩
    obtain ⟨key, -, hown⟩ := ownAttrs_of_loop_eq_some hl htext
    have hgroup : (l.group key).filterMap Attr.fault? = [] := by
      rw [Attr.filterMap_fault?_eq_nil_iff]
      intro f hf
      obtain ⟨_, _, heq⟩ := Loop.exists_of_mem_group hf
      cases heq
    rw [hown, List.filterMap_append, hgroup, List.nil_append]

end Options

/-! ## Faults of sites and of nodes -/

namespace Site

/-- The faults at a site are those of its directives, and then those of its children. -/
theorem faults_lower (s : Site) (kids : List Markup) :
    faults (s.lower o kids) =
      (s.directives o).filterMap (fun x => x.2.fault? x.1) ++
        if s.prunes o then [] else faults kids := by
  have hown : (o.ownAttrs (s.head o)).filterMap Attr.fault? =
      (s.directives o).filterMap (fun x => x.2.fault? x.1) := by
    rw [Options.filterMap_fault?_ownAttrs hraw, s.remaining_head, directives, List.filterMap_map]
    rfl
  rcases s.faults_lower_cases o kids with heq | ⟨exp, e, herror, -⟩
  · rw [heq, hown]
  · rw [hraw] at herror
    cases herror

end Site

/-- The faults of the markup of nodes are those of the directives at the sites of their reading. -/
theorem faults_lowerNodes (nodes : List Node) :
    faults (lowerNodes o nodes) =
      (((Node.readings o none nodes).filterMap Item.site?).flatMap (Site.directives o)).filterMap
        (fun x => x.2.fault? x.1) := by
  refine lowerNodes_induction o (P := fun nodes forest => faults forest =
      (((Node.readings o none nodes).filterMap Item.site?).flatMap (Site.directives o)).filterMap
        (fun x => x.2.fault? x.1)) ?nil ?append ?text ?interpolation ?refused ?group ?element nodes
  case nil => rfl
  case append =>
    intro xs ys f g hf hg
    rw [faults_append, hf, hg, Node.readings_append]
    simp only [List.filterMap_append, List.flatMap_append]
  case text =>
    intro s
    rfl
  case interpolation =>
    intro exp code _
    rfl
  case refused =>
    intro exp e herror
    rw [hraw] at herror
    cases herror
  case group =>
    intro branches f hf
    rw [hf, Node.readings_group]
  case element =>
    intro e ih
    rw [Site.faults_lower hraw, ih, Node.readings_element, Site.below]
    cases e.site.prunes o <;> simp [Item.site?]

end Raw

/-- **The first ill-shaped directive.** Under the serializer that refuses nothing, a template does
not compile exactly if one of the directives that are written is ill-shaped, and then the result
reports the first of them. -/
theorem compile_reports_first_illShaped (o : Options) (t : Template)
    (hraw : o.serialize = Expression.raw) :
    ((∃ f, compile o t = .error f) ↔ ∃ x ∈ t.directives o, x.2.IllShaped) ∧
    ∀ f, compile o t = .error f ↔
      ∃ before tag d after, t.directives o = before ++ (tag, d) :: after ∧
        (∀ x ∈ before, ¬ x.2.IllShaped) ∧ d.IllShaped ∧ f = d.complaint tag := by
  have hfirst (f : Fault) : compile o t = .error f ↔
      (t.directives o).findSome? (fun x => x.2.fault? x.1) = some f := by
    rw [compile_eq_error_iff, faults_lowerNodes hraw, List.head?_filterMap]
    rfl
  constructor
  · simp only [hfirst, ← Option.isSome_iff_exists, List.findSome?_isSome_iff]
    simp [Option.isSome_iff_ne_none, Directive.fault?_eq_none_iff]
  · intro f
    rw [hfirst, List.findSome?_eq_some_iff]
    constructor
    · rintro ⟨before, ⟨tag, d⟩, after, hsplit, hf, hbefore⟩
      obtain ⟨hill, rfl⟩ := (d.fault?_eq_some_iff tag f).mp hf
      refine ⟨before, tag, d, after, hsplit, ?_, hill, rfl⟩
      intro x hx
      exact (x.2.fault?_eq_none_iff x.1).mp (hbefore x hx)
    · rintro ⟨before, tag, d, after, hsplit, hbefore, hill, rfl⟩
      refine ⟨before, (tag, d), after, hsplit, (d.fault?_eq_some_iff tag _).mpr ⟨hill, rfl⟩, ?_⟩
      intro x hx
      exact (x.2.fault?_eq_none_iff x.1).mpr (hbefore x hx)

/-- The unknown directive on the outlet does not concern its name and is not written. The `bind` in
the fallback content has nothing to say, and so the event without a handler is the first that is
ill-shaped, before the `show` on the next element. -/
theorem compile_reports_first_illShaped_fallback :
    compile { fileName := "t.wxml", mark := "wx:" }
      ⟨[.element ⟨{ tag := "slot", role := .slotOutlet, props := [.directive { name := "foo" }] },
          [.element ⟨{ tag := "view", props := [.directive { name := "bind" },
            .directive { name := "on", arg := some (.literal "tap") }] }, []⟩]⟩,
        .element ⟨{ tag := "text", props := [.directive { name := "show" }] }, []⟩]⟩ =
      .error (.malformedEvent "v-on:tap" "view" .handler) :=
  ((compile_reports_first_illShaped _ _ rfl).2 _).mpr
    ⟨[("view", { name := "bind" })], "view", { name := "on", arg := some (.literal "tap") },
      [("text", { name := "show" })], rfl, by decide, by decide, rfl⟩

end MiniTemplate
