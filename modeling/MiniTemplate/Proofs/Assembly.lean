import MiniTemplate.Proofs.Reading
import MiniTemplate.Proofs.Rendering

/-!
# Elements put together

`Options.assemble` either leaves no tag behind or makes exactly one tag of the element's own, with a
block around it where a condition and a repetition meet. `Options.ownTag` is that tag; the four
equations below say when it appears in which company, and everything else here follows from them.

An element's own attributes come from its repetition and from its properties. No property becomes a
control attribute, so that the conditions and repetitions in a forest are exactly those that were
put there.
-/

namespace MiniTemplate

/-- The attribute is a condition or a part of a repetition. -/
def Attr.isControl : Attr → Bool
  | .branch _ => true
  | .loop _ _ => true
  | _ => false

/-- The condition that stands on the element's own tag. That of a repeated element stands on a block
around it. -/
def Head.control (h : Head) : List Attr :=
  match h.loop with
  | none => h.branch.toList.map .branch
  | some _ => []

theorem Head.exists_of_mem_control {h : Head} {a : Attr} (ha : a ∈ h.control) :
    ∃ b, a = .branch b := by
  unfold control at ha
  split at ha
  · obtain ⟨b, -, hb⟩ := List.mem_map.mp ha
    exact ⟨b, hb.symm⟩
  · cases ha

namespace Options

/-- The tag of an element itself, with control attributes in front of its own. -/
def ownTag (o : Options) (h : Head) (control : List Attr) (kids : List Markup) : Markup :=
  .tag (o.tagName h) (control ++ o.ownAttrs h) h.selfClosing (if h.selfClosing then [] else kids)

/-- The attributes of one property of an element. -/
def ownPropertyAttrs (o : Options) (h : Head) (p : Property) : List Attr :=
  o.propertyAttrs h (o.isUserComponent h && o.mergeVirtualHost) p

/-! ## The four outcomes -/

/-- An element without a tag of its own is only what it holds. -/
theorem assemble_of_isTransparent (o : Options) {h : Head} (ht : h.isTransparent = true)
    (kids : List Markup) : o.assemble h kids = kids := by
  rw [assemble, if_pos ht]

theorem assemble_of_branch_eq_none (o : Options) {h : Head} (ht : h.isTransparent = false)
    (hb : h.branch = none) (kids : List Markup) : o.assemble h kids = [o.ownTag h [] kids] := by
  rw [assemble, if_neg (by simp [ht]), hb]
  rfl

/-- A condition has to stand somewhere, so that an element with one has a tag. -/
theorem isTransparent_eq_false_of_branch {h : Head} {b : Branch} (hb : h.branch = some b) :
    h.isTransparent = false := by
  simp [Head.isTransparent, Head.isBare, hb]

/-- The condition of an element that is not repeated is on its own tag. -/
theorem assemble_of_loop_eq_none (o : Options) {h : Head} {b : Branch} (hb : h.branch = some b)
    (hl : h.loop = none) (kids : List Markup) :
    o.assemble h kids = [o.ownTag h [.branch b] kids] := by
  rw [assemble, if_neg (by simp [isTransparent_eq_false_of_branch hb]), hb, hl]
  rfl

/-- The condition of a repeated element is on a block around its tag. -/
theorem assemble_of_loop_eq_some (o : Options) {h : Head} {b : Branch} {l : Loop}
    (hb : h.branch = some b) (hl : h.loop = some l) (kids : List Markup) :
    o.assemble h kids = [.block b [o.ownTag h [] kids]] := by
  rw [assemble, if_neg (by simp [isTransparent_eq_false_of_branch hb]), hb, hl]
  rfl

/-- An element that leaves a tag behind has this tag alone, or in a block under its condition if it
is repeated. -/
theorem assemble_cases (o : Options) (h : Head) (kids : List Markup) :
    (h.isTransparent = true ∧ o.assemble h kids = kids) ∨
    (h.isTransparent = false ∧
      (o.assemble h kids = [o.ownTag h h.control kids] ∨
        ∃ b, o.assemble h kids = [.block b [o.ownTag h h.control kids]])) := by
  cases ht : h.isTransparent with
  | true => exact .inl ⟨rfl, o.assemble_of_isTransparent ht kids⟩
  | false =>
    refine .inr ⟨rfl, ?_⟩
    cases hb : h.branch with
    | none =>
      have hcontrol : h.control = [] := by
        cases hl : h.loop <;> simp [Head.control, hl, hb]
      rw [hcontrol]
      exact .inl (o.assemble_of_branch_eq_none ht hb kids)
    | some b =>
      cases hl : h.loop with
      | none =>
        have hcontrol : h.control = [.branch b] := by simp [Head.control, hl, hb]
        rw [hcontrol]
        exact .inl (o.assemble_of_loop_eq_none hb hl kids)
      | some l =>
        have hcontrol : h.control = [] := by simp [Head.control, hl]
        rw [hcontrol]
        exact .inr ⟨b, o.assemble_of_loop_eq_some hb hl kids⟩

/-! ## The condition of a head does not reach its tag name and its own attributes -/

@[simp] theorem tagName_withBranch (o : Options) (h : Head) (b : Option Branch) :
    o.tagName (h.withBranch b) = o.tagName h := rfl

/-- The rule for templates goes by the carrier. -/
theorem tagName_grouped (o : Options) (h : Head) :
    o.tagName h.grouped = if h.carrier?.isSome then "view" else "block" := by
  have hplain : o.isUserComponent h.grouped = false := rfl
  rw [tagName, hplain, if_neg Bool.false_ne_true, Head.resolvedTag, if_neg]
  · rfl
  · simp only [Head.grouped]
    split <;> decide

/-- Who owns a property matters only by its tag and by being a component of the project. -/
theorem propertyAttrs_congr (o : Options) {h h' : Head} (htag : h.tag = h'.tag)
    (hrole : h.role = h'.role) (virtualHost : Bool) (p : Property) :
    o.propertyAttrs h virtualHost p = o.propertyAttrs h' virtualHost p := by
  have huser : o.isUserComponent h = o.isUserComponent h' := by
    simp only [isUserComponent, htag, hrole]
  match p with
  | .attribute ⟨name, some value⟩ => rfl
  | .attribute ⟨name, none⟩ => rfl
  | .directive d =>
    simp only [propertyAttrs, directiveAttrs, eventAttrs, eventFlags, showAttrs, showAttribute,
      bindAttrs, huser, htag]

/-- Of its owner, a property asks only for the tag and the role. -/
theorem propertiesAttrs_congr (o : Options) {h h' : Head} (htag : h.tag = h'.tag)
    (hrole : h.role = h'.role) (virtualHost : Bool) (props : List Property) :
    o.propertiesAttrs h virtualHost props = o.propertiesAttrs h' virtualHost props := by
  simp only [propertiesAttrs]
  congr 1
  funext p
  exact o.propertyAttrs_congr htag hrole virtualHost p

@[simp] theorem ownAttrs_withBranch (o : Options) (h : Head) (b : Option Branch) :
    o.ownAttrs (h.withBranch b) = o.ownAttrs h := by
  have hrep : o.repetition (h.withBranch b) = o.repetition h := rfl
  have huser : o.isUserComponent (h.withBranch b) = o.isUserComponent h := rfl
  have hprops : o.propertiesAttrs (h.withBranch b) = o.propertiesAttrs h := by
    funext virtualHost props
    exact o.propertiesAttrs_congr rfl rfl virtualHost props
  simp only [ownAttrs, hrep, huser, hprops]

@[simp] theorem ownTag_withBranch (o : Options) (h : Head) (b : Option Branch)
    (control : List Attr) (kids : List Markup) :
    o.ownTag (h.withBranch b) control kids = o.ownTag h control kids := by
  simp only [ownTag, tagName_withBranch, ownAttrs_withBranch]
  rfl

end Options

/-! ## Where an element's own attributes come from -/

theorem Property.sets_eq_isSome_bound? (name : String) (p : Property) :
    p.sets name true = (p.bound? name).isSome := by
  cases p <;> rfl

/-- The first binding is taken out, and all other properties stay in their order. -/
theorem takeBound_eq (name : String) (props : List Property) :
    takeBound name props =
      (props.findSome? (·.bound? name)).map fun exp =>
        (exp, props.eraseP (·.sets name true)) := by
  induction props with
  | nil => rfl
  | cons p rest ih =>
    rw [takeBound, List.findSome?_cons, List.eraseP_cons, p.sets_eq_isSome_bound?]
    cases hp : p.bound? name with
    | some exp => rfl
    | none =>
      rw [ih]
      cases rest.findSome? (·.bound? name) <;> rfl

/-- The key is not among what the repetition itself asks for. -/
theorem Loop.exists_of_mem_attrs {l : Loop} {a : Attr} (ha : a ∈ l.attrs) :
    ∃ part value, a = .loop part value ∧ part ≠ .key := by
  simp only [attrs, List.mem_cons] at ha
  rcases ha with rfl | ha
  · exact ⟨_, _, rfl, by decide⟩
  · split at ha
    · cases ha
    · rcases List.mem_cons.mp ha with rfl | ha
      · exact ⟨_, _, rfl, by decide⟩
      · split at ha
        · exact ⟨_, _, List.mem_singleton.mp ha, by decide⟩
        · cases ha

namespace Options

/-- A repetition takes the first key among the properties and leaves all others. -/
theorem repetition_of_loop (o : Options) {h : Head} {l : Loop} (hl : h.loop = some l) :
    o.repetition h =
      match h.bound? "key" with
      | none => ⟨l.attrs, h.props⟩
      | some exp =>
        match o.serialize exp with
        | .ok key =>
          ⟨l.attrs ++ [.loop .key (keyText key)], h.props.eraseP (·.sets "key" true)⟩
        | .error e => ⟨l.attrs ++ [.fault (.expression e)], h.props⟩ := by
  have hbound : h.props.findSome? (·.bound? "key") = h.bound? "key" := rfl
  rw [repetition, hl]
  simp only [takeBound_eq, hbound]
  cases h.bound? "key" <;> rfl

/-- A repetition leaves only properties that the head had. -/
theorem mem_props_of_mem_repetition (o : Options) {h : Head} {p : Property}
    (hp : p ∈ (o.repetition h).props) : p ∈ h.props := by
  cases hl : h.loop with
  | none =>
    rw [repetition, hl] at hp
    exact hp
  | some l =>
    rw [o.repetition_of_loop hl] at hp
    split at hp
    · exact hp
    · split at hp
      · exact List.mem_of_mem_eraseP hp
      · exact hp

/-- An element's own attribute belongs to its repetition or to one of its properties. -/
theorem mem_ownAttrs (o : Options) {h : Head} {a : Attr} (ha : a ∈ o.ownAttrs h) :
    a ∈ (o.repetition h).attrs ∨
      ∃ p ∈ h.props, a ∈ o.propertyAttrs h (o.isUserComponent h && o.mergeVirtualHost) p := by
  rcases List.mem_append.mp ha with ha | ha
  · exact .inl ha
  · obtain ⟨p, hp, ha⟩ := List.mem_flatMap.mp ha
    exact .inr ⟨p, o.mem_props_of_mem_repetition hp, ha⟩

/-- The attributes of an element that is not repeated are those of its properties, one after the
other. -/
theorem ownAttrs_of_loop_eq_none (o : Options) {h : Head} (hloop : h.loop = none) :
    o.ownAttrs h = h.props.flatMap (o.ownPropertyAttrs h) := by
  rw [ownAttrs, repetition, hloop]
  rfl

/-- An element that leaves no tag behind has nothing to write on one. -/
theorem ownAttrs_of_isTransparent (o : Options) {h : Head} (ht : h.isTransparent = true) :
    o.ownAttrs h = [] := by
  simp only [Head.isTransparent, Head.isBare, Bool.and_eq_true, List.isEmpty_iff,
    Option.isNone_iff_eq_none] at ht
  obtain ⟨-, ⟨hprops, -⟩, hloop⟩ := ht
  simp [ownAttrs, repetition, propertiesAttrs, hprops, hloop]

/-- An expression without a text gives a fault, which is no control attribute either. -/
theorem isControl_of_mem_withText (o : Options) {exp : Expression} {attrs : String → List Attr}
    (h : ∀ text, ∀ a ∈ attrs text, a.isControl = false) :
    ∀ a ∈ o.withText exp attrs, a.isControl = false := by
  unfold withText
  split
  · exact h _
  · simp [Attr.isControl]

/-- No property becomes a control attribute. -/
theorem isControl_of_mem_propertyAttrs (o : Options) (owner : Head) (virtualHost : Bool)
    (p : Property) : ∀ a ∈ o.propertyAttrs owner virtualHost p, a.isControl = false := by
  match p with
  | .attribute ⟨name, some value⟩ => simp [propertyAttrs, Attr.isControl]
  | .attribute ⟨name, none⟩ => simp [propertyAttrs, Attr.isControl]
  | .directive d =>
    rw [propertyAttrs, directiveAttrs]
    split
    · rw [eventAttrs]
      split
      · simp [Attr.isControl]
      · split
        · simp [Attr.isControl]
        · exact o.isControl_of_mem_withText fun _ => by simp [Attr.isControl]
    · split
      · rw [slotAttrs]
        split
        · simp
        · refine o.isControl_of_mem_withText fun _ => ?_
          split <;> try split
          all_goals simp [Attr.isControl]
      · split
        · rw [showAttrs]
          split
          · simp [Attr.isControl]
          · exact o.isControl_of_mem_withText fun _ => by simp [Attr.isControl]
        · rw [bindAttrs]
          split
          · refine o.isControl_of_mem_withText fun _ => ?_
            exact o.isControl_of_mem_withText fun _ => by simp [Attr.isControl]
          · split <;> simp [Attr.isControl]

theorem branch_not_mem_propertyAttrs (o : Options) (owner : Head) (virtualHost : Bool)
    (p : Property) (b : Branch) : .branch b ∉ o.propertyAttrs owner virtualHost p := by
  intro hb
  have hcontrol := o.isControl_of_mem_propertyAttrs owner virtualHost p _ hb
  cases hcontrol

theorem branch_not_mem_repetition (o : Options) (h : Head) (b : Branch) :
    .branch b ∉ (o.repetition h).attrs := by
  have hloop : ∀ l : Loop, .branch b ∉ l.attrs := by
    intro l hmem
    obtain ⟨_, _, heq, -⟩ := Loop.exists_of_mem_attrs hmem
    cases heq
  unfold repetition
  split
  · simp
  · split
    · exact hloop _
    · split <;> simp [hloop]

/-- The condition of an element is not among the attributes that are its own. -/
theorem branch_not_mem_ownAttrs (o : Options) (h : Head) (b : Branch) :
    .branch b ∉ o.ownAttrs h := by
  intro hb
  rcases o.mem_ownAttrs hb with hb | ⟨p, -, hb⟩
  · exact o.branch_not_mem_repetition h b hb
  · exact o.branch_not_mem_propertyAttrs h _ p b hb

/-! ## Faults of elements -/

/-- The faults of a tag: first those on it, then those inside, unless it is closed. -/
theorem faults_ownTag (o : Options) (h : Head) (kids : List Markup) :
    Markup.faults [o.ownTag h h.control kids] =
      (o.ownAttrs h).filterMap Attr.fault? ++ if h.selfClosing then [] else Markup.faults kids := by
  have hcontrol : h.control.filterMap Attr.fault? = [] := by
    rw [Attr.filterMap_fault?_eq_nil_iff]
    intro f hf
    obtain ⟨b, hb⟩ := Head.exists_of_mem_control hf
    cases hb
  cases hsc : h.selfClosing <;> simp [ownTag, hsc, hcontrol]

/-- The faults of an element's own attributes come before those of its children. -/
theorem faults_assemble (o : Options) (h : Head) (kids : List Markup) :
    Markup.faults (o.assemble h kids) =
      (o.ownAttrs h).filterMap Attr.fault? ++
        if h.selfClosing && !h.isTransparent then [] else Markup.faults kids := by
  rcases o.assemble_cases h kids with ⟨ht, heq⟩ | ⟨ht, heq | ⟨b, heq⟩⟩
  · simp [heq, ht, o.ownAttrs_of_isTransparent ht]
  · simp [heq, ht, faults_ownTag]
  · simp [heq, ht, faults_ownTag]

end Options

end MiniTemplate
