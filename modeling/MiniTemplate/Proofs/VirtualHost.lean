import MiniTemplate.Proofs.FirstFault
import MiniTemplate.Proofs.Rewriting

/-!
# Virtual hosts as a matter of the template

Where a platform has virtual hosts, `style` and `class` of a component are written twice, the second
time under the name that the host knows. The same markup comes from writing everything once, if the
template says it twice: `Template.desugared` puts after each such property a *twin* for the host.

    compile (o.merging c true) t = compile (o.merging c false) (t.desugared o)

A twin must not be mistaken for something else. No rule looks for a property by one of the names of
a host, so that the key of a repetition, the condition of a component and the slot of a template are
found where they were; and whatever is taken away or handed on has no twin.
-/

namespace MiniTemplate

/-! ## Twins -/

/-- The name under which the host knows an attribute of its component. -/
def hostName? (name : String) : Option String :=
  if name = "style" then some "virtualHostStyle"
  else if name = "class" then some "virtualHostClass"
  else none

namespace Property

/-- The property that says the same to the host: an attribute with a value, or a directive that
binds its expression to its argument. -/
def hostTwin? : Property → Option Property
  | .attribute ⟨name, some value⟩ => (hostName? name).map fun host => .attribute ⟨host, some value⟩
  | .attribute ⟨_, none⟩ => none
  | .directive d =>
    if d.name ∈ ["on", "slot", "show"] then none
    else
      match d.arg, d.exp with
      | some arg, some _ =>
        (hostName? arg.text).map fun host => .directive { d with arg := some (.literal host) }
      | _, _ => none

/-- The property, followed by its twin if it has one. -/
def withTwin (p : Property) : List Property := p :: p.hostTwin?.toList

end Property

/-- The head of a component of the project with the twins of its properties. -/
def Head.desugared (o : Options) (h : Head) : Head :=
  if o.isUserComponent h then { h with props := h.props.flatMap Property.withTwin } else h

/-- The template with twins on all components of the project, at any depth. -/
def Template.desugared (o : Options) (t : Template) : Template :=
  ⟨t.nodes.map (Node.rewrite { head := Head.desugared o })⟩

/-- The options with a treatment of components that repeats, or does not repeat, `style` and `class`
on the virtual host. -/
def Options.merging (o : Options) (c : ComponentOptions) (merge : Bool) : Options :=
  { o with component := some { c with mergeVirtualHost := merge } }

/-! ## What is found among properties with twins -/

theorem hostName?_eq_some {name host : String} (h : hostName? name = some host) :
    host = "virtualHostStyle" ∨ host = "virtualHostClass" := by
  unfold hostName? at h
  split at h
  · cases h
    exact .inl rfl
  · split at h
    · cases h
      exact .inr rfl
    · cases h

/-- On a virtual host an attribute is written under its own name and that of the host. -/
theorem hostNames_true (name : String) : hostNames true name = name :: (hostName? name).toList := by
  unfold hostNames hostName?
  by_cases hstyle : name = "style"
  · simp [hstyle]
  · by_cases hclass : name = "class" <;> simp [hstyle, hclass]

namespace Property

/-- A twin sets one of the names of the host, and no other. -/
theorem sets_of_hostTwin? {p twin : Property} (ht : p.hostTwin? = some twin) {name : String}
    (hstyle : name ≠ "virtualHostStyle") (hclass : name ≠ "virtualHostClass")
    (dynamicOnly : Bool) : twin.sets name dynamicOnly = false := by
  have hne : ∀ {key host : String}, hostName? key = some host → host ≠ name := by
    intro key host hhost
    rcases hostName?_eq_some hhost with rfl | rfl
    · exact hstyle.symm
    · exact hclass.symm
  unfold hostTwin? at ht
  split at ht
  · obtain ⟨host, hhost, rfl⟩ := Option.map_eq_some_iff.mp ht
    simp [sets, hne hhost]
  · cases ht
  · split at ht
    · cases ht
    · split at ht
      · obtain ⟨host, hhost, rfl⟩ := Option.map_eq_some_iff.mp ht
        simp [sets, bound?, Directive.hasStaticArg, Expression.literal, hne hhost]
      · cases ht

/-- A twin binds no name but that of the host. -/
theorem bound?_of_hostTwin? {p twin : Property} (ht : p.hostTwin? = some twin) {name : String}
    (hstyle : name ≠ "virtualHostStyle") (hclass : name ≠ "virtualHostClass") :
    twin.bound? name = none := by
  have hsets := sets_of_hostTwin? ht hstyle hclass true
  rwa [sets_eq_isSome_bound?, Option.isSome_eq_false_iff, Option.isNone_iff_eq_none] at hsets

/-- What is bound to a name that the host does not know has no twin. -/
theorem hostTwin?_of_bound? {p : Property} {name : String} (hhost : hostName? name = none)
    (hp : (p.bound? name).isSome = true) : p.hostTwin? = none := by
  match p with
  | .attribute _ => cases hp
  | .directive d =>
    rw [bound?] at hp
    split at hp
    · next hbind =>
      obtain ⟨hname, harg⟩ := hbind
      rw [Directive.hasStaticArg, beq_iff_eq] at harg
      obtain ⟨exp, hexp⟩ := Option.isSome_iff_exists.mp hp
      simp [hostTwin?, hname, harg, hexp, Expression.literal, Expression.text, hhost]
    · cases hp

/-- What passes content to a slot has no twin. -/
theorem hostTwin?_of_isCarrier {p : Property} (hp : Head.isCarrier p = true) :
    p.hostTwin? = none := by
  match p with
  | .attribute _ => cases hp
  | .directive d =>
    obtain ⟨name, arg, exp, modifiers, slotName⟩ := d
    simp only [Head.isCarrier, Bool.or_eq_true, beq_iff_eq, Bool.and_eq_true] at hp
    rcases hp with hslot | ⟨hbind, harg⟩
    · simp [hostTwin?, hslot]
    · -- only a simple argument can read `slot`, and this is its text
      match arg with
      | some (.simple a) =>
        have hcontent : a.content = "slot" := by
          simpa [Directive.argContent?, Expression.atom?] using harg
        cases exp <;> simp [hostTwin?, hbind, Expression.text, hcontent, hostName?]
      | some (.compound parts) => simp [Directive.argContent?, Expression.atom?] at harg
      | none => simp [Directive.argContent?] at harg

/-- A search that no twin answers finds the same with twins and without. -/
theorem findSome?_flatMap_withTwin {α : Type} (f : Property → Option α)
    (hf : ∀ p twin : Property, p.hostTwin? = some twin → f twin = none) (props : List Property) :
    (props.flatMap withTwin).findSome? f = props.findSome? f := by
  induction props with
  | nil => rfl
  | cons p rest ih =>
    rw [List.flatMap_cons, withTwin, List.cons_append, List.findSome?_cons, List.findSome?_cons]
    cases ht : p.hostTwin? with
    | none => simp [ih]
    | some twin => simp [ih, hf p twin ht]

/-- A property that is taken out takes no twin with it, and no twin is taken out. -/
theorem eraseP_flatMap_withTwin (q : Property → Bool)
    (htwin : ∀ p twin : Property, p.hostTwin? = some twin → q twin = false)
    (hq : ∀ p : Property, q p = true → p.hostTwin? = none) (props : List Property) :
    (props.flatMap withTwin).eraseP q = (props.eraseP q).flatMap withTwin := by
  induction props with
  | nil => rfl
  | cons p rest ih =>
    rw [List.flatMap_cons, withTwin, List.cons_append, List.eraseP_cons, List.eraseP_cons]
    cases hp : q p with
    | true => simp [hq p hp]
    | false =>
      have htwins : ∀ t ∈ p.hostTwin?.toList, ¬ q t = true := by
        intro t ht
        rw [htwin p t (Option.mem_toList.mp ht)]
        exact Bool.false_ne_true
      simp only [cond_false, List.flatMap_cons, withTwin, List.cons_append]
      rw [List.eraseP_append_right _ htwins, ih]

end Property

/-! ## Heads with twins -/

namespace Head

variable (o : Options) (h : Head)

/-- Twins change nothing but the properties of a head. -/
theorem desugared_eq :
    h.desugared o = { h with props := (h.desugared o).props } := by
  unfold desugared
  split <;> rfl

@[simp] theorem desugared_tag : (h.desugared o).tag = h.tag := by rw [desugared_eq]

@[simp] theorem desugared_role : (h.desugared o).role = h.role := by rw [desugared_eq]

@[simp] theorem desugared_loop : (h.desugared o).loop = h.loop := by rw [desugared_eq]

@[simp] theorem desugared_branch : (h.desugared o).branch = h.branch := by rw [desugared_eq]

@[simp] theorem desugared_selfClosing : (h.desugared o).selfClosing = h.selfClosing := by
  rw [desugared_eq]

variable {o h}

theorem desugared_of_role_ne (hrole : h.role ≠ .component) : h.desugared o = h := by
  rw [desugared, if_neg (by simp [Options.isUserComponent, hrole])]

theorem desugared_withBranch (b : Option Branch) :
    (h.withBranch b).desugared o = (h.desugared o).withBranch b := by
  have huser : o.isUserComponent (h.withBranch b) = o.isUserComponent h := rfl
  simp only [desugared, huser]
  split <;> rfl

/-- A property without a twin is carried along. -/
theorem desugared_carrying {p : Property} (hp : p.hostTwin? = none) :
    desugared o { h with props := h.props ++ [p] } =
      { h.desugared o with props := (h.desugared o).props ++ [p] } := by
  have huser : o.isUserComponent { h with props := h.props ++ [p] } = o.isUserComponent h := rfl
  simp only [desugared, huser]
  split
  · simp [Property.withTwin, hp]
  · rfl

/-- A lookup that no twin answers has the same answer as without twins. -/
theorem findSome?_desugared {α : Type} (f : Property → Option α)
    (hf : ∀ p twin : Property, p.hostTwin? = some twin → f twin = none) :
    (h.desugared o).props.findSome? f = h.props.findSome? f := by
  unfold desugared
  split
  · exact Property.findSome?_flatMap_withTwin f hf h.props
  · rfl

/-- Twins do not answer for the names that rules ask for. -/
theorem bound?_desugared {name : String} (hstyle : name ≠ "virtualHostStyle")
    (hclass : name ≠ "virtualHostClass") : (h.desugared o).bound? name = h.bound? name :=
  findSome?_desugared _ fun _ _ ht => Property.bound?_of_hostTwin? ht hstyle hclass

theorem prop?_desugared {name : String} (hstyle : name ≠ "virtualHostStyle")
    (hclass : name ≠ "virtualHostClass") (dynamicOnly : Bool) :
    (h.desugared o).prop? name dynamicOnly = h.prop? name dynamicOnly := by
  simp only [prop?, List.find?_eq_findSome?_guard]
  apply findSome?_desugared
  intro p twin ht
  simp [Option.guard, Property.sets_of_hostTwin? ht hstyle hclass]

@[simp] theorem resolvedTag_desugared : (h.desugared o).resolvedTag = h.resolvedTag := by
  have hslot : (h.desugared o).prop? "slot" false = h.prop? "slot" false :=
    prop?_desugared (by decide) (by decide) false
  simp only [resolvedTag, desugared_tag, hslot]

@[simp] theorem isTransparent_desugared : (h.desugared o).isTransparent = h.isTransparent := by
  have hempty : (h.desugared o).props.isEmpty = h.props.isEmpty := by
    unfold desugared
    split
    · cases h.props <;> simp [Property.withTwin]
    · rfl
  simp only [isTransparent, isBare, resolvedTag_desugared, hempty, desugared_branch,
    desugared_loop]

end Head

/-! ## Elements of the two templates -/

namespace Options

variable {o : Options} {c : ComponentOptions}

/-- Only bindings look at whether there is a virtual host. -/
theorem directiveAttrs_of_not_bind (o : Options) (owner : Head) {d : Directive}
    (hname : d.name ∈ ["on", "slot", "show"]) (virtualHost : Bool) :
    o.directiveAttrs owner virtualHost d = o.directiveAttrs owner false d := by
  simp only [List.mem_cons, List.not_mem_nil, or_false] at hname
  rcases hname with hname | hname | hname <;> simp [directiveAttrs, hname]

/-- A directive that is not known by its name is written as a binding, under the names of its
argument. -/
theorem directiveAttrs_of_bind (o : Options) (hraw : o.serialize = Expression.raw) (owner : Head)
    {d : Directive} {arg exp : Expression} (hname : d.name ∉ ["on", "slot", "show"])
    (harg : d.arg = some arg) (hexp : d.exp = some exp) (virtualHost : Bool) :
    o.directiveAttrs owner virtualHost d =
      (hostNames virtualHost arg.text).map (.assign · (mustache exp.text)) := by
  have hnames : d.name ≠ "on" ∧ d.name ≠ "slot" ∧ d.name ≠ "show" := by simpa using hname
  obtain ⟨hon, hslot, hshow⟩ := hnames
  rw [directiveAttrs, if_neg hon, if_neg hslot, if_neg hshow, bindAttrs, harg, hexp]
  simp only [withText_raw hraw]

theorem directiveAttrs_of_incomplete (o : Options) (owner : Head) {d : Directive}
    (h : d.arg = none ∨ d.exp = none) (virtualHost : Bool) :
    o.directiveAttrs owner virtualHost d = o.directiveAttrs owner false d := by
  have hbind : o.bindAttrs owner virtualHost d = o.bindAttrs owner false d := by
    rcases h with h | h
    · simp [bindAttrs, h]
    · cases harg : d.arg <;> simp [bindAttrs, h, harg]
  simp only [directiveAttrs, hbind]

/-- On a virtual host a property is written as the property and its twin are written elsewhere. -/
theorem propertyAttrs_true (o : Options) (hraw : o.serialize = Expression.raw) (owner : Head)
    (p : Property) :
    o.propertyAttrs owner true p = p.withTwin.flatMap (o.propertyAttrs owner false) := by
  match p with
  | .attribute ⟨name, none⟩ => rfl
  | .attribute ⟨name, some value⟩ =>
    simp only [propertyAttrs, Property.withTwin, Property.hostTwin?, hostNames_true]
    cases hostName? name <;> simp [propertyAttrs, hostNames]
  | .directive d =>
    -- a directive without a twin is written alike on and off a virtual host
    have halone : (Property.directive d).hostTwin? = none →
        o.directiveAttrs owner true d = o.directiveAttrs owner false d →
        o.propertyAttrs owner true (.directive d) =
          (Property.directive d).withTwin.flatMap (o.propertyAttrs owner false) := by
      intro htwin heq
      simp [Property.withTwin, htwin, propertyAttrs, heq]
    by_cases hname : d.name ∈ ["on", "slot", "show"]
    · refine halone ?_ (o.directiveAttrs_of_not_bind owner hname true)
      rw [Property.hostTwin?, if_pos hname]
    · cases harg : d.arg with
      | none =>
        refine halone ?_ (o.directiveAttrs_of_incomplete owner (.inl harg) true)
        simp [Property.hostTwin?, harg]
      | some arg =>
        cases hexp : d.exp with
        | none =>
          refine halone ?_ (o.directiveAttrs_of_incomplete owner (.inr hexp) true)
          simp [Property.hostTwin?, harg, hexp]
        | some exp =>
          have hown := o.directiveAttrs_of_bind hraw owner hname harg hexp
          have htwin : (Property.directive d).hostTwin? = (hostName? arg.text).map fun host =>
              .directive { d with arg := some (.literal host) } := by
            simp [Property.hostTwin?, hname, harg, hexp]
          cases hhost : hostName? arg.text with
          | none =>
            refine halone (by rw [htwin, hhost]; rfl) ?_
            rw [hown, hown, hostNames_true, hhost]
            rfl
          | some host =>
            have hhostAttrs := o.directiveAttrs_of_bind hraw owner
              (d := { d with arg := some (.literal host) }) hname rfl hexp false
            rw [Property.withTwin, htwin, hhost, propertyAttrs, hown, hostNames_true, hhost]
            simp only [Option.map_some, Option.toList_some, List.flatMap_cons, List.flatMap_nil,
              propertyAttrs, hown, hhostAttrs]
            rfl

/-! ### Assembling -/

/-- The repetition of a component takes its key from among the properties and leaves the twins of
all others. -/
theorem repetition_desugared (o : Options) (h : Head) (huser : o.isUserComponent h = true) :
    o.repetition (h.desugared o) =
      ⟨(o.repetition h).attrs, (o.repetition h).props.flatMap Property.withTwin⟩ := by
  have hprops : (h.desugared o).props = h.props.flatMap Property.withTwin := by
    rw [Head.desugared, if_pos huser]
  cases hl : h.loop with
  | none => simp [repetition, hl, hprops]
  | some l =>
    have hkey : (h.desugared o).bound? "key" = h.bound? "key" :=
      Head.bound?_desugared (by decide) (by decide)
    have herase : (h.desugared o).props.eraseP (·.sets "key" true) =
        (h.props.eraseP (·.sets "key" true)).flatMap Property.withTwin := by
      rw [hprops]
      refine Property.eraseP_flatMap_withTwin _ ?_ ?_ _
      · exact fun p twin ht => Property.sets_of_hostTwin? ht (by decide) (by decide) true
      · intro p hp
        rw [p.sets_eq_isSome_bound?] at hp
        exact Property.hostTwin?_of_bound? (by decide) hp
    rw [o.repetition_of_loop hl, o.repetition_of_loop (l := l) (by simp [hl]), hkey,
      herase]
    cases h.bound? "key" with
    | none => simp [hprops]
    | some exp => cases hser : o.serialize exp <;> simp [hprops, hser]

/-- What is repeated on the virtual host is what the twins say. -/
theorem ownAttrs_merging (hraw : o.serialize = Expression.raw) (h : Head) :
    (o.merging c false).ownAttrs (h.desugared o) = (o.merging c true).ownAttrs h := by
  have hflag : ∀ merge h, ((o.merging c merge).isUserComponent h &&
      (o.merging c merge).mergeVirtualHost) = (o.isUserComponent h && merge) := fun _ _ => rfl
  have huser : o.isUserComponent (h.desugared o) = o.isUserComponent h := by
    simp only [isUserComponent, Head.desugared_role, Head.desugared_tag]
  have hrep : (o.merging c true).repetition h = (o.merging c false).repetition h := rfl
  have howner : (o.merging c false).propertyAttrs (h.desugared o) false =
      (o.merging c true).propertyAttrs h false := by
    funext p
    exact propertyAttrs_congr _ (h.desugared_tag o) (h.desugared_role o) false p
  simp only [ownAttrs, hflag, huser, hrep, propertiesAttrs, Bool.and_true, Bool.and_false, howner]
  cases hcomponent : o.isUserComponent h with
  | false => rw [Head.desugared, if_neg (by simp [hcomponent])]
  | true =>
    have hdesugared : (o.merging c false).repetition (h.desugared o) = _ :=
      (o.merging c false).repetition_desugared h hcomponent
    rw [hdesugared, List.flatMap_assoc]
    congr 2
    funext p
    exact ((o.merging c true).propertyAttrs_true hraw h p).symm

/-- An element with twins is put together as the element without them on a virtual host. -/
theorem assemble_merging (hraw : o.serialize = Expression.raw) (h : Head) (kids : List Markup) :
    (o.merging c false).assemble (h.desugared o) kids = (o.merging c true).assemble h kids := by
  have hname : (o.merging c false).tagName (h.desugared o) = (o.merging c true).tagName h := by
    have huser : (o.merging c false).isUserComponent (h.desugared o) =
        (o.merging c true).isUserComponent h := by
      simp only [isUserComponent, Head.desugared_role, Head.desugared_tag]
      rfl
    simp only [tagName, huser, Head.resolvedTag_desugared]
    rfl
  simp only [assemble, Head.isTransparent_desugared, hname, ownAttrs_merging hraw,
    Head.desugared_selfClosing, Head.desugared_branch, Head.desugared_loop]

/-- No virtual host is involved in an element that is no component. -/
theorem assemble_merging_of_role_ne (hraw : o.serialize = Expression.raw) {h : Head}
    (hrole : h.role ≠ .component) (kids : List Markup) :
    (o.merging c false).assemble h kids = (o.merging c true).assemble h kids := by
  have hassemble := assemble_merging (c := c) hraw h kids
  rwa [Head.desugared_of_role_ne hrole] at hassemble

theorem lowerOutlet_merging (hraw : o.serialize = Expression.raw) {h : Head}
    (hrole : h.role = .slotOutlet) (hasFallback : Bool) (kids : List Markup) :
    (o.merging c false).lowerOutlet h hasFallback kids =
      (o.merging c true).lowerOutlet h hasFallback kids := by
  have houtlet : ∀ b kids, (o.merging c false).assemble (h.outlet.withBranch b) kids =
      (o.merging c true).assemble (h.outlet.withBranch b) kids := by
    intro b kids
    exact assemble_merging_of_role_ne hraw (by simp [Head.withBranch, Head.outlet, hrole]) kids
  have hown := houtlet h.branch kids
  simp only [lowerOutlet, houtlet]
  rw [show (o.merging c false).assemble h.outlet kids =
    (o.merging c true).assemble h.outlet kids from hown]
  rfl

theorem lowerDelayed_merging (hraw : o.serialize = Expression.raw) {h : Head}
    (hrole : h.role = .plain) (kids : List Markup) :
    (o.merging c false).lowerDelayed h kids = (o.merging c true).lowerDelayed h kids := by
  have hassemble := assemble_merging_of_role_ne (c := c) hraw (h := h) (by simp [hrole]) kids
  have hguarded := assemble_merging_of_role_ne (c := c) hraw
    (h := h.withBranch (some (.when readyCondition))) (by simp [Head.withBranch, hrole]) kids
  simp only [lowerDelayed, hassemble, hguarded]

/-- A component with twins is written without merging as it is written with merging by itself. -/
theorem lowerComponent_merging (hraw : o.serialize = Expression.raw) (h : Head)
    (kids : List Markup) :
    (o.merging c false).lowerComponent (h.desugared o) kids =
      (o.merging c true).lowerComponent h kids := by
  have hguarded : ∀ b, (o.merging c false).assemble ((h.desugared o).withBranch b) kids =
      (o.merging c true).assemble (h.withBranch b) kids := by
    intro b
    rw [← Head.desugared_withBranch, assemble_merging hraw]
  have hbound : (h.desugared o).bound? "u-p" = h.bound? "u-p" :=
    Head.bound?_desugared (by decide) (by decide)
  simp only [lowerComponent, Head.desugared_branch, Head.desugared_loop, Head.desugared_tag,
    hbound, assemble_merging hraw, hguarded]
  rfl

end Options

/-! ## Whole templates -/

/-- A component with twins is lowered as the component without them on a virtual host, and other
elements as they are. -/
theorem Site.lower_merging {o : Options} (c : ComponentOptions)
    (hraw : o.serialize = Expression.raw) (hdelay : o.DelaysByTable) {e e' : Element}
    (hhead : e'.toHead = e.toHead.desugared o)
    (hempty : e'.children.isEmpty = e.children.isEmpty) (kids : List Markup) :
    Site.lower (o.merging c false) ⟨e', none⟩ kids =
      Site.lower (o.merging c true) ⟨e, none⟩ kids := by
  -- only components are changed, and the rules for them look at nothing but the head
  have hkeep : e.role ≠ .component → e'.toHead = e.toHead := fun hrole =>
    hhead.trans (Head.desugared_of_role_ne hrole)
  cases hrole : e.role with
  | slotOutlet =>
    simp only [lower, hkeep (by simp [hrole]), hrole, hempty]
    exact Options.lowerOutlet_merging hraw hrole _ kids
  | component =>
    simp only [lower, hhead, Head.desugared_role, hrole]
    exact Options.lowerComponent_merging hraw e.toHead kids
  | template =>
    simp only [lower, hkeep (by simp [hrole]), hrole]
    exact Options.assemble_merging_of_role_ne hraw (by simp [Head.grouped]) kids
  | plain =>
    have hdelayed : (o.merging c false).isDelayed e' = (o.merging c true).isDelayed e :=
      hdelay.isDelayed_congr (hkeep (by simp [hrole]))
    simp only [lower, hkeep (by simp [hrole]), hrole, hdelayed]
    split
    · exact Options.lowerDelayed_merging hraw hrole kids
    · exact Options.assemble_merging_of_role_ne hraw (by simp [hrole]) kids

/-- Twins are not seen: what the markup gains by them, it gains on a virtual host without them. -/
theorem desugaring_unseen {o : Options} (c : ComponentOptions)
    (hraw : o.serialize = Expression.raw) (hdelay : o.DelaysByTable) :
    Rewriting.Unseen { head := Head.desugared o } (o.merging c true) (o.merging c false)
      (fun _ => True) where
  role h := h.desugared_role o
  loop h := h.desugared_loop o
  carrier h hrole := congrArg Head.carrier? (Head.desugared_of_role_ne (by simp [hrole]))
  children _ _ _ _ := rfl
  interpolation exp := by
    rw [lowerNode, lowerNode]
    rfl
  list _ _ _ := rfl
  site := by
    rintro ⟨e, carrier⟩ hcarrier - kids
    cases carrier with
    | none =>
      refine Site.lower_merging c hraw hdelay (e.rewrite_toHead _) ?_ kids
      rw [Element.rewrite_children, List.isEmpty_map]
    | some p =>
      have htwin := Property.hostTwin?_of_isCarrier (hcarrier p rfl)
      simp only [Site.lower, Element.rewrite_toHead]
      rw [← Head.desugared_carrying htwin, Options.assemble_merging hraw]

/-- **Virtual hosts by desugaring.** Where expressions are written as they stand and no function
decides on delays, a template compiles on virtual hosts to the text, or the fault, to which it
compiles without them once every `style` and `class` of a component of the project, at any depth, is
followed by its twin for the host. -/
theorem virtual_host_by_desugaring (o : Options) (c : ComponentOptions)
    (hraw : o.serialize = Expression.raw) (hdelay : o.DelaysByTable) (t : Template) :
    compile (o.merging c true) t = compile (o.merging c false) (t.desugared o) := by
  have hsame := lowerNodes_rewrite (desugaring_unseen c hraw hdelay) t.nodes
    (fun _ _ _ _ => trivial)
  have hwrite : (o.merging c false).writeMarkup = (o.merging c true).writeMarkup := rfl
  rw [compile, compile, Template.desugared, hsame, hwrite]

/-- The component stands in place of a template and is given to the slot `a`. Its `class` is an
attribute, its `style` is bound to an argument in two parts, and the `class` of the text inside is
none of a component. -/
theorem virtual_host_by_desugaring_card :
    compile (Options.merging { fileName := "t.axml", mark := "a:" } {} true)
      ⟨[.element ⟨
        { tag := "template", role := .template,
          props := [.directive { name := "slot", arg := some (.literal "a") }] },
        [.element ⟨
          { tag := "MyCard", role := .component,
            props := [.attr "class" "c",
              .directive
                { name := "bind", arg := some (.compound [.text "sty", .text "le"]),
                  exp := some (.dynamic "s") }] },
          [.element
            ⟨{ tag := "text", props := [.attr "class" "d"], selfClosing := true }, []⟩]⟩]⟩]⟩ =
      .ok ("<my-card class=\"c\" virtualHostClass=\"c\" style=\"\x7b\x7bs\x7d\x7d\"" ++
        " virtualHostStyle=\"\x7b\x7bs\x7d\x7d\" slot=\"a\"><text class=\"d\"/></my-card>") :=
  (virtual_host_by_desugaring { fileName := "t.axml", mark := "a:" } {} rfl (.inl rfl) _).trans rfl

end MiniTemplate
