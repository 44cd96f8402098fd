import MiniTemplate.Proofs.Arrangement
import MiniTemplate.Proofs.QuoteFree

/-!
# Quotes stand only around values

A quote that comes in from a template would break the markup around it. The texts that reach the
markup are of two kinds. Expressions go through the serializer, which is asked to return no quotes.
All others are written as they stand: `Template.verbatim` lists them, for the elements and leaves
that are written. If there is no quote among these either, then a quote in the text of the template
is always one of the two around a value (`quotes_only_around_values`).

The texts are followed from the head of an element to its tag, through the rules at its site, and
from there over the whole template. What the rules themselves write, such as `$slots.` in front of
the name of a slot, has no quotes in it.
-/

namespace MiniTemplate

open Markup

/-! ## Texts that are written as they stand -/

/-- The texts of a repetition. The name of the index is written only where it is needed. -/
def Loop.verbatim (l : Loop) : List String :=
  l.source :: (l.item.toList ++ if l.item = some "index" then l.index.toList else [])

/-- The texts of a property that do not go through the serializer: those of an attribute, and the
event of an event binding. -/
def Property.verbatim : Property → List String
  | .attribute a => a.name :: a.value.toList
  | .directive d => if d.name = "on" then d.argContent?.toList else []

def Head.verbatim (h : Head) : List String :=
  h.tag :: (h.branch.toList.flatMap Branch.texts ++ h.loop.toList.flatMap Loop.verbatim ++
    h.props.flatMap Property.verbatim)

/-- The texts that are written at a site without going through the serializer. A template is written
under another tag than its own, and an outlet beside its fallback content asks for its slot by
name. -/
def Site.verbatim (o : Options) (s : Site) : List String :=
  (if s.carrier.isNone && s.element.role == .template then [] else [s.element.tag]) ++
    s.element.branch.toList.flatMap Branch.texts ++ s.element.loop.toList.flatMap Loop.verbatim ++
    s.given.flatMap Property.verbatim ++
    (if s.dividesFallback o then [s.element.outlet.outletName] else [])

def Leaf.verbatim : Leaf → List String
  | .text s => [s]
  | .interpolation _ => []

def Item.verbatim (o : Options) : Item → List String
  | .leaf l => l.verbatim
  | .site s => s.verbatim o

/-- The texts of a template that are written without going through the serializer, in document
order. -/
def Template.verbatim (o : Options) (t : Template) : List String :=
  (t.reading o).flatMap (Item.verbatim o)

/-- Under these options there are no quotes but those that the template itself brings in: the
serializer returns none, event names are in one of the two styles of the library, the hook on tag
names keeps names free of quotes, and so are the mark and the name that hides components. -/
structure Options.KeepsQuotesOut (o : Options) : Prop where
  serialize : ∀ exp text, o.serialize exp = .ok text → QuoteFree text
  event : o.event = .standard ∨ o.event = .camel
  normalizeName : ∀ c normalize, o.component = some c → c.normalizeName = some normalize →
    ∀ name, QuoteFree name → QuoteFree (normalize name)
  mark : QuoteFree o.mark
  showAttribute : ∀ c name, o.component = some c → c.showAttribute = some name → QuoteFree name

/-! ## From heads to tags -/

namespace Options

variable {o : Options}

theorem KeepsQuotesOut.quoteFree_format (ho : o.KeepsQuotesOut) {event : String}
    (h : QuoteFree event) (flags : EventFlags) : QuoteFree (o.event.format event flags) := by
  rcases ho.event with heq | heq
  · rw [heq]
    exact EventName.quoteFree_standard h flags
  · rw [heq]
    exact EventName.quoteFree_camel h flags

theorem KeepsQuotesOut.quoteFree_showAttribute (ho : o.KeepsQuotesOut) (owner : Head) :
    QuoteFree (o.showAttribute owner) := by
  have hhidden : QuoteFree "hidden" := by decide
  unfold Options.showAttribute
  split
  · next custom hcustom =>
    obtain ⟨c, hc, hname⟩ := Option.bind_eq_some_iff.mp hcustom
    split
    · exact ho.showAttribute c custom hc hname
    · exact hhidden
  · exact hhidden

theorem KeepsQuotesOut.quoteFree_tagName (ho : o.KeepsQuotesOut) {h : Head}
    (htag : QuoteFree h.tag) : QuoteFree (o.tagName h) := by
  have hresolved : QuoteFree h.resolvedTag := by
    unfold Head.resolvedTag
    split
    · split <;> decide
    · exact htag
  unfold tagName
  split
  · have hname := Text.quoteFree_hyphenate hresolved
    dsimp only
    split
    · next normalize hnormalize =>
      obtain ⟨c, hc, hhook⟩ := Option.bind_eq_some_iff.mp hnormalize
      exact ho.normalizeName c normalize hc hhook _ hname
    · exact hname
  · exact hresolved

/-- What is made from the text of an expression has no quotes if the text has none. -/
theorem allQuoteFree_withText (ho : o.KeepsQuotesOut) {exp : Expression}
    {attrs : String → List Attr}
    (h : ∀ text, QuoteFree text → AllQuoteFree ((attrs text).flatMap Attr.texts)) :
    AllQuoteFree ((o.withText exp attrs).flatMap Attr.texts) := by
  unfold withText
  split
  · next text htext => exact h text (ho.serialize exp text htext)
  · simp [Attr.texts]

/-- An attribute that is repeated on the virtual host brings no quote of its own. -/
theorem allQuoteFree_hostNames {name value : String} (hname : QuoteFree name)
    (hvalue : QuoteFree value) (virtualHost : Bool) :
    AllQuoteFree (((hostNames virtualHost name).map (Attr.assign · value)).flatMap Attr.texts) := by
  have hstyle : QuoteFree "virtualHostStyle" := by decide
  have hclass : QuoteFree "virtualHostClass" := by decide
  unfold hostNames
  split
  · simp [Attr.texts, hname, hvalue, hstyle]
  · split <;> simp [Attr.texts, hname, hvalue, hclass]

theorem quoteFree_slotKey {name : String} (h : QuoteFree name) : QuoteFree (slotKey name) := by
  unfold slotKey
  split
  · decide
  · exact h

/-! The event of an event binding is the only text of a directive that does not go through the
serializer. -/

theorem allQuoteFree_eventAttrs (ho : o.KeepsQuotesOut) (owner : Head) {d : Directive}
    (h : AllQuoteFree d.argContent?.toList) :
    AllQuoteFree ((o.eventAttrs owner d).flatMap Attr.texts) := by
  unfold eventAttrs
  split
  · simp [Attr.texts]
  · next event hevent =>
    have hname : QuoteFree event := by simpa [hevent] using h
    split
    · simp [Attr.texts]
    · refine allQuoteFree_withText ho fun handler hhandler => ?_
      have hvalue : ∀ static : Bool, QuoteFree (if static then handler else mustache handler) := by
        intro static
        cases static <;> simp [hhandler]
      simp [Attr.texts, ho.quoteFree_format hname, hvalue]

theorem allQuoteFree_slotAttrs (ho : o.KeepsQuotesOut) (d : Directive) :
    AllQuoteFree ((o.slotAttrs d).flatMap Attr.texts) := by
  have hslot : QuoteFree "slot" := by decide
  unfold slotAttrs
  split
  · simp
  · refine allQuoteFree_withText ho fun name hname => ?_
    split
    · split <;> simp [Attr.texts, hslot, quoteFree_slotKey hname]
    · simp [Attr.texts, hslot, hname]

theorem allQuoteFree_showAttrs (ho : o.KeepsQuotesOut) (owner : Head) (d : Directive) :
    AllQuoteFree ((o.showAttrs owner d).flatMap Attr.texts) := by
  have hbang : QuoteFree "!" := by decide
  unfold showAttrs
  split
  · simp [Attr.texts]
  · refine allQuoteFree_withText ho fun text htext => ?_
    simp [Attr.texts, ho.quoteFree_showAttribute, hbang, htext]

/-- All that a binding writes goes through the serializer. -/
theorem allQuoteFree_bindAttrs (ho : o.KeepsQuotesOut) (owner : Head) (virtualHost : Bool)
    (d : Directive) : AllQuoteFree ((o.bindAttrs owner virtualHost d).flatMap Attr.texts) := by
  unfold bindAttrs
  split
  · refine allQuoteFree_withText ho fun name hname => ?_
    refine allQuoteFree_withText ho fun text htext => ?_
    exact allQuoteFree_hostNames hname (quoteFree_mustache.mpr htext) virtualHost
  · split <;> simp [Attr.texts]

theorem allQuoteFree_directiveAttrs (ho : o.KeepsQuotesOut) (owner : Head) (virtualHost : Bool)
    (d : Directive) (h : AllQuoteFree (Property.directive d).verbatim) :
    AllQuoteFree ((o.directiveAttrs owner virtualHost d).flatMap Attr.texts) := by
  unfold directiveAttrs
  split
  · next hon =>
    rw [Property.verbatim, if_pos hon] at h
    exact allQuoteFree_eventAttrs ho owner h
  · split
    · exact allQuoteFree_slotAttrs ho d
    · split
      · exact allQuoteFree_showAttrs ho owner d
      · exact allQuoteFree_bindAttrs ho owner virtualHost d

theorem allQuoteFree_propertyAttrs (ho : o.KeepsQuotesOut) (owner : Head) (virtualHost : Bool)
    (p : Property) (h : AllQuoteFree p.verbatim) :
    AllQuoteFree ((o.propertyAttrs owner virtualHost p).flatMap Attr.texts) := by
  match p with
  | .attribute ⟨name, some value⟩ =>
    obtain ⟨hname, hvalue⟩ : QuoteFree name ∧ QuoteFree value := by
      simpa [Property.verbatim] using h
    exact allQuoteFree_hostNames hname hvalue virtualHost
  | .attribute ⟨name, none⟩ => simpa [Property.verbatim, propertyAttrs, Attr.texts] using h
  | .directive d => exact allQuoteFree_directiveAttrs ho owner virtualHost d h

theorem allQuoteFree_loopAttrs {l : Loop} (h : AllQuoteFree l.verbatim) :
    AllQuoteFree (l.attrs.flatMap Attr.texts) := by
  have hempty : QuoteFree "" := by decide
  unfold Loop.attrs
  unfold Loop.verbatim at h
  cases hitem : l.item with
  | none => simp_all [Attr.texts]
  | some item =>
    by_cases hindex : item = "index"
    · cases hname : l.index <;> simp_all [Attr.texts]
    · simp_all [Attr.texts]

/-- The key of a repetition is cut out of a serialized expression. -/
theorem allQuoteFree_repetition (ho : o.KeepsQuotesOut) {h : Head}
    (hloop : AllQuoteFree (h.loop.toList.flatMap Loop.verbatim)) :
    AllQuoteFree ((o.repetition h).attrs.flatMap Attr.texts) := by
  cases hl : h.loop with
  | none => simp [repetition, hl]
  | some l =>
    have hattrs : AllQuoteFree (l.attrs.flatMap Attr.texts) := by
      apply allQuoteFree_loopAttrs
      simpa [hl] using hloop
    rw [o.repetition_of_loop hl]
    split
    · exact hattrs
    · split
      · next key hkey =>
        have htext := quoteFree_keyText (ho.serialize _ _ hkey)
        simp [Attr.texts, hattrs, htext]
      · simp [Attr.texts, hattrs]

theorem allQuoteFree_ownAttrs (ho : o.KeepsQuotesOut) {h : Head} (hh : AllQuoteFree h.verbatim) :
    AllQuoteFree ((o.ownAttrs h).flatMap Attr.texts) := by
  simp only [Head.verbatim, allQuoteFree_cons, allQuoteFree_append] at hh
  obtain ⟨-, ⟨-, hloop⟩, hprops⟩ := hh
  rw [allQuoteFree_flatMap] at hprops ⊢
  intro a ha
  rcases o.mem_ownAttrs ha with ha | ⟨p, hp, ha⟩
  · exact allQuoteFree_flatMap.mp (allQuoteFree_repetition ho hloop) a ha
  · exact allQuoteFree_flatMap.mp (allQuoteFree_propertyAttrs ho h _ p (hprops p hp)) a ha

/-- An element's own tag has no quote in its texts if its head and the condition on it have none. -/
theorem allQuoteFree_ownTag (ho : o.KeepsQuotesOut) {h : Head} (hh : AllQuoteFree h.verbatim)
    {control : List Attr} (hcontrol : AllQuoteFree (control.flatMap Attr.texts))
    {kids : List Markup} (hkids : h.selfClosing = false → AllQuoteFree (texts kids)) :
    AllQuoteFree (texts [o.ownTag h control kids]) := by
  have hname := ho.quoteFree_tagName (allQuoteFree_cons.mp hh).1
  have hown := allQuoteFree_ownAttrs ho hh
  cases hsc : h.selfClosing with
  | true => simp [ownTag, hsc, hname, hown, hcontrol]
  | false => simp [ownTag, hsc, hname, hown, hcontrol, hkids hsc]

/-- An element is free of quotes if its head and the children that are written are. -/
theorem allQuoteFree_assemble (ho : o.KeepsQuotesOut) {h : Head} (hh : AllQuoteFree h.verbatim)
    {kids : List Markup}
    (hkids : (h.selfClosing && !h.isTransparent) = false → AllQuoteFree (texts kids)) :
    AllQuoteFree (texts (o.assemble h kids)) := by
  have hopen : h.selfClosing = false → AllQuoteFree (texts kids) := by
    intro hsc
    exact hkids (by rw [hsc]; rfl)
  have hfree : AllQuoteFree (([] : List Attr).flatMap Attr.texts) := allQuoteFree_nil
  cases ht : h.isTransparent with
  | true =>
    rw [o.assemble_of_isTransparent ht]
    exact hkids (by simp [ht])
  | false =>
    cases hb : h.branch with
    | none =>
      rw [o.assemble_of_branch_eq_none ht hb]
      exact allQuoteFree_ownTag ho hh hfree hopen
    | some b =>
      have hbranch : AllQuoteFree b.texts := by
        simp only [Head.verbatim, allQuoteFree_cons, allQuoteFree_append] at hh
        simpa [hb] using hh.2.1.1
      cases hl : h.loop with
      | none =>
        rw [o.assemble_of_loop_eq_none hb hl]
        exact allQuoteFree_ownTag ho hh (by simpa [Attr.texts] using hbranch) hopen
      | some l =>
        rw [o.assemble_of_loop_eq_some hb hl]
        exact allQuoteFree_block.mpr ⟨hbranch, allQuoteFree_ownTag ho hh hfree hopen⟩

end Options

/-! ## From sites to templates -/

theorem Markup.allQuoteFree_under {b : Option Branch} {forest : List Markup}
    (hb : AllQuoteFree (b.toList.flatMap Branch.texts)) (h : AllQuoteFree (texts forest)) :
    AllQuoteFree (texts (under b forest)) := by
  cases b with
  | none => exact h
  | some b => exact allQuoteFree_block.mpr ⟨by simpa using hb, h⟩

/-- The condition of a component is its own or a guard made of a serialized expression. -/
theorem Options.allQuoteFree_componentCondition {o : Options} (ho : o.KeepsQuotesOut) {h : Head}
    (hb : AllQuoteFree (h.branch.toList.flatMap Branch.texts)) :
    AllQuoteFree ((o.componentCondition h).toList.flatMap Branch.texts) := by
  have hready : QuoteFree readyCondition := by decide
  unfold componentCondition
  split
  · exact hb
  · split
    · simp [Branch.texts, hready]
    · split
      · simp
      · next exp _ =>
        cases hser : o.serialize exp with
        | ok condition => simp [Branch.texts, ho.serialize exp condition hser]
        | error e => simp

namespace Site

variable {o : Options} {s : Site}

/-- The rules bring no quote into the head of an element. -/
theorem allQuoteFree_head (ho : o.KeepsQuotesOut) (h : AllQuoteFree (s.verbatim o)) :
    AllQuoteFree (s.head o).verbatim := by
  simp only [verbatim, allQuoteFree_append] at h
  obtain ⟨⟨⟨⟨htag, hbranch⟩, hloop⟩, hgiven⟩, -⟩ := h
  have hready : QuoteFree readyCondition := by decide
  have hview : QuoteFree "view" := by decide
  have hblock : QuoteFree "block" := by decide
  rw [Head.verbatim, s.head_loop, s.head_props]
  suffices hhead : QuoteFree (s.head o).tag ∧
      AllQuoteFree ((s.head o).branch.toList.flatMap Branch.texts) by
    simp only [allQuoteFree_cons, allQuoteFree_append]
    exact ⟨hhead.1, ⟨hhead.2, hloop⟩, hgiven⟩
  obtain ⟨e, carrier⟩ := s
  cases carrier with
  | some p =>
    have hown : QuoteFree e.tag := by simpa using htag
    exact ⟨hown, hbranch⟩
  | none =>
    cases hrole : e.role with
    | slotOutlet =>
      have hown : QuoteFree e.tag := by simpa [hrole] using htag
      simp only [head, hrole]
      split
      · exact ⟨hown, allQuoteFree_nil⟩
      · exact ⟨hown, hbranch⟩
    | component =>
      have hown : QuoteFree e.tag := by simpa [hrole] using htag
      simp only [head, hrole]
      exact ⟨hown, Options.allQuoteFree_componentCondition ho hbranch⟩
    | template =>
      simp only [head, hrole]
      refine ⟨?_, hbranch⟩
      unfold Head.grouped
      dsimp only
      split
      · exact hview
      · exact hblock
    | plain =>
      have hown : QuoteFree e.tag := by simpa [hrole] using htag
      simp only [head, hrole]
      split
      · exact ⟨hown, by simp [Head.withBranch, Branch.texts, hready]⟩
      · exact ⟨hown, hbranch⟩

theorem allQuoteFree_waiting (o : Options) (s : Site) :
    AllQuoteFree ((s.waiting o).toList.flatMap Branch.texts) := by
  have hready : QuoteFree readyCondition := by decide
  unfold waiting
  split
  · split <;> simp [Branch.texts, hready]
  · simp

/-- The markup of a site has no quote in its texts if the element has none in what is written as it
stands and the children have none, unless these are left out. -/
theorem allQuoteFree_lower (ho : o.KeepsQuotesOut) (h : AllQuoteFree (s.verbatim o))
    {kids : List Markup} (hkids : s.prunes o = false → AllQuoteFree (texts kids)) :
    AllQuoteFree (texts (s.lower o kids)) := by
  have hhead := allQuoteFree_head ho h
  cases hdiv : s.dividesFallback o with
  | true =>
    -- the name of the slot is the only text that is not on the tag of the outlet as well
    have hdollar : QuoteFree "$slots." := by decide
    simp only [verbatim, allQuoteFree_append, hdiv, if_true, allQuoteFree_cons] at h
    obtain ⟨⟨⟨⟨-, hbranch⟩, -⟩, -⟩, hname, -⟩ := h
    rw [lower_of_divided hdiv]
    apply allQuoteFree_under hbranch
    rw [Options.choice, texts_cons, allQuoteFree_append, allQuoteFree_block, allQuoteFree_block,
      ← head_of_divided hdiv]
    have hfilled : AllQuoteFree (texts (o.assemble (s.head o) [])) :=
      Options.allQuoteFree_assemble ho hhead fun _ => allQuoteFree_nil
    have hfallback : AllQuoteFree (texts kids) := hkids (by simp [prunes, hdiv])
    exact ⟨⟨by simp [Branch.texts, hdollar, hname], hfilled⟩, allQuoteFree_nil, hfallback⟩
  | false =>
    rcases lower_of_not_divided hdiv with heq | ⟨exp, err, -, heq⟩
    · rw [heq]
      -- the kids are asked for only if the tag is open, since only then they are written
      apply allQuoteFree_under (allQuoteFree_waiting o s)
      refine Options.allQuoteFree_assemble ho hhead fun hopen => hkids ?_
      rw [s.head_selfClosing] at hopen
      simp [prunes, hdiv, hopen]
    · rw [heq]
      exact allQuoteFree_nil

end Site

/-- The forest of a template has no quote in its texts if nothing that is written as it stands has
one. -/
theorem allQuoteFree_lowerNodes {o : Options} (ho : o.KeepsQuotesOut) (nodes : List Node) :
    AllQuoteFree ((Node.readings o none nodes).flatMap (Item.verbatim o)) →
      AllQuoteFree (texts (lowerNodes o nodes)) := by
  refine lowerNodes_induction o
    (P := fun nodes forest =>
      AllQuoteFree ((Node.readings o none nodes).flatMap (Item.verbatim o)) →
        AllQuoteFree (texts forest))
    ?nil ?append ?text ?interpolation ?refused ?group ?element nodes
  case nil =>
    intro _
    exact allQuoteFree_nil
  case append =>
    intro xs ys f g hf hg h
    rw [Node.readings_append, List.flatMap_append, allQuoteFree_append] at h
    rw [texts_append, allQuoteFree_append]
    exact ⟨hf h.1, hg h.2⟩
  case text =>
    intro s h
    rw [Node.readings, Node.reading, Node.readings] at h
    exact h
  case interpolation =>
    intro exp code hcode _
    exact allQuoteFree_cons.mpr ⟨ho.serialize exp code hcode, allQuoteFree_nil⟩
  case refused =>
    intro exp e _ _
    exact allQuoteFree_nil
  case group =>
    intro branches f h hverbatim
    rw [Node.readings_group] at hverbatim
    exact h hverbatim
  case element =>
    intro e ih h
    rw [Node.readings_element, List.flatMap_cons, allQuoteFree_append] at h
    refine Site.allQuoteFree_lower ho h.1 fun hkeeps => ih ?_
    rw [Site.below_of_keeps hkeeps] at h
    exact h.2

/-- **Quotes stand only around values.** If no quote comes in through the options, and none through
a text that is written as it stands, then the text of a template has two quotes for every attribute
that has a value, and each of these attributes is a name and a value in quotes, without a quote in
either of them. -/
theorem quotes_only_around_values (o : Options) (t : Template) (code : String)
    (ho : o.KeepsQuotesOut) (ht : AllQuoteFree (t.verbatim o)) (h : compile o t = .ok code) :
    code = renderForest o.mark (lowerNodes o t.nodes) ∧
    code.toList.count '"' =
      2 * ((attributes (lowerNodes o t.nodes)).filterMap (Attr.assignment? o.mark)).length ∧
    ∀ a ∈ attributes (lowerNodes o t.nodes), ∀ name value,
      a.assignment? o.mark = some (name, value) →
        a.render o.mark = " " ++ name ++ "=\"" ++ value ++ "\"" ∧
          QuoteFree name ∧ QuoteFree value := by
  obtain ⟨-, hcode⟩ := (compile_eq_ok_iff o t code).mp h
  have htexts := allQuoteFree_lowerNodes ho t.nodes ht
  refine ⟨hcode, ?_, ?_⟩
  · rw [hcode]
    exact quotes_renderForest ho.mark _ htexts
  · intro a ha name value hassign
    have hattr : AllQuoteFree a.texts := by
      obtain ⟨m, hm, ham⟩ := List.mem_flatMap.mp ha
      have hown := allQuoteFree_flatMap.mp htexts m hm
      cases m with
      | tag tagName attrs closed kids =>
        exact allQuoteFree_flatMap.mp (allQuoteFree_cons.mp hown).2 a ham
      | _ => cases ham
    refine ⟨?_, Attr.quoteFree_of_assignment? ho.mark hattr hassign⟩
    rw [Attr.render_of_assignment? hassign, quoted, show "=\"" = "=" ++ "\"" from rfl]
    simp only [String.append_assoc]

/-- The serializer that writes an expression without its quotes. -/
def Expression.unquoted : Serializer := fun e =>
  .ok (String.ofList (e.text.toList.filter (· != '"')))

theorem Expression.quoteFree_of_unquoted {exp : Expression} {text : String}
    (h : unquoted exp = .ok text) : QuoteFree text := by
  cases h
  simp [QuoteFree]

def Options.dequoting : Options where
  fileName := "t.wxml"
  mark := "wx:"
  event := .camel
  serialize := Expression.unquoted
  component := some { normalizeName := some ("x-" ++ ·), showAttribute := some "hide" }

theorem Options.keepsQuotesOut_dequoting : dequoting.KeepsQuotesOut where
  serialize _ _ := Expression.quoteFree_of_unquoted
  event := .inr rfl
  normalizeName := by
    rintro c normalize ⟨⟩ ⟨⟩ name hname
    exact quoteFree_append.mpr ⟨by decide, hname⟩
  mark := by decide
  showAttribute := by
    rintro c name ⟨⟩ ⟨⟩
    decide

/-- A component with quotes in its handler, in its key and in what is bound to its `style`. It
stands in an outlet whose `class` has quotes too, but is not written. -/
def Template.quotedCard : Template :=
  ⟨[.element ⟨{ tag := "slot", role := .slotOutlet, props := [.attr "class" "\"c\""] },
    [.element ⟨
      { tag := "MyCard", role := .component, selfClosing := true, loop := some { source := "xs" },
        props := [.bind "key" "id\"",
          .directive
            { name := "on", arg := some (.literal "tap"), exp := some (.dynamic "f(\"a\")") },
          .bind "style" "\"s\"",
          .directive { name := "show", exp := some (.dynamic "v") },
          .bare "plain"] }, []⟩]⟩]⟩

theorem quotes_only_around_values_card :
    compile .dequoting .quotedCard =
      .ok ("<block wx:if=\"\x7b\x7b$slots.d\x7d\x7d\"><slot></slot></block><block wx:else>" ++
        "<x-my-card wx:for=\"xs\" wx:key=\"id\" onTap=\"\x7b\x7bf(a)\x7d\x7d\"" ++
        " style=\"\x7b\x7bs\x7d\x7d\" hide=\"\x7b\x7b!v\x7d\x7d\" plain/></block>") ∧
    (renderForest "wx:" (lowerNodes .dequoting Template.quotedCard.nodes)).toList.count '"' =
      2 * 6 := by
  obtain ⟨hcode, hquotes, -⟩ :=
    quotes_only_around_values .dequoting .quotedCard _ Options.keepsQuotesOut_dequoting
      (by decide) rfl
  exact ⟨rfl, hcode ▸ hquotes⟩

end MiniTemplate
