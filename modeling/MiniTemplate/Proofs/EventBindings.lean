import Mathlib.Data.List.TakeDrop
import Mathlib.Data.List.TakeWhile
import MiniTemplate.Proofs.Assembly

/-!
# Event attributes and what they tell

In the standard style, the name of an event attribute is a word for how the binding listens, a
colon, and the event:

    capture-catch:tap

An event may be any text. It may have colons and hyphens, or begin with one of the words, and still
there is only one way to read a name: none of the four words has a colon, so that the word ends at
the first one, and all behind it is the event. `EventBinding.ofName?` reads names in this way, and
it accepts exactly those that are written (`EventBinding.ofName?_eq_some_iff`).

So an element has two attributes of one name only where two directives bind the same event, as the
platform knows it, and listen to it in the same way.
-/

namespace MiniTemplate

/-- How a binding listens to its event. -/
structure ListenMode where
  isCatch : Bool
  isCapture : Bool
deriving DecidableEq

namespace ListenMode

/-- What stands in front of the colon. -/
def word (m : ListenMode) : String :=
  (if m.isCapture then "capture-" else "") ++ if m.isCatch then "catch" else "bind"

def ofWord? : String → Option ListenMode
  | "bind" => some ⟨false, false⟩
  | "catch" => some ⟨true, false⟩
  | "capture-bind" => some ⟨false, true⟩
  | "capture-catch" => some ⟨true, true⟩
  | _ => none

theorem ofWord?_eq_some_iff {word : String} {m : ListenMode} :
    ofWord? word = some m ↔ word = m.word := by
  constructor
  · unfold ofWord?
    split <;> rintro ⟨⟩ <;> rfl
  · rintro rfl
    obtain ⟨isCatch, isCapture⟩ := m
    cases isCatch <;> cases isCapture <;> rfl

theorem colon_not_mem_word (m : ListenMode) : ':' ∉ m.word.toList := by
  obtain ⟨isCatch, isCapture⟩ := m
  cases isCatch <;> cases isCapture <;> decide

end ListenMode

/-- What the name of an event attribute tells: the event as the platform knows it, and how the
binding listens. -/
structure EventBinding where
  mode : ListenMode
  event : String
deriving DecidableEq

namespace EventBinding

def of (event : String) (flags : EventFlags) : EventBinding where
  mode := ⟨flags.isCatch, flags.isCapture⟩
  event := EventName.platform event flags.isComponent

def name (b : EventBinding) : String := b.mode.word ++ ":" ++ b.event

def ofName? (name : String) : Option EventBinding :=
  match name.toList.span (· != ':') with
  | (_, []) => none
  | (word, _ :: event) =>
    (ListenMode.ofWord? (String.ofList word)).map fun mode => ⟨mode, String.ofList event⟩

/-- The standard style names attributes by their bindings. -/
theorem standard_eq_name (event : String) (flags : EventFlags) :
    EventName.standard event flags = (of event flags).name := rfl

/-! ## Reading names -/

/-- A list is cut at the first `x`. -/
theorem span_bne_eq_iff {x c : Char} {cs front rest : List Char} :
    cs.span (· != x) = (front, c :: rest) ↔ x ∉ front ∧ c = x ∧ cs = front ++ x :: rest := by
  rw [List.span_eq_takeWhile_dropWhile, Prod.mk.injEq]
  constructor
  · rintro ⟨rfl, hdrop⟩
    have hfront : x ∉ cs.takeWhile (· != x) := by
      intro hmem
      simpa using List.mem_takeWhile_imp hmem
    have hhead := List.head_dropWhile_not (· != x) (l := cs) (by simp [hdrop])
    obtain rfl : c = x := by simpa [hdrop] using hhead
    refine ⟨hfront, rfl, ?_⟩
    rw [← hdrop, List.takeWhile_append_dropWhile]
  · rintro ⟨hfront, rfl, rfl⟩
    have hother : ∀ d ∈ front, (d != c) = true := by
      intro d hd
      simpa using ne_of_mem_of_not_mem hd hfront
    rw [List.takeWhile_append_of_pos hother, List.dropWhile_append_of_pos hother,
      List.takeWhile_cons_of_neg (by simp), List.dropWhile_cons_of_neg (by simp), List.append_nil]
    exact ⟨rfl, rfl⟩

/-- Reading accepts exactly what is written. -/
theorem ofName?_eq_some_iff {name : String} {b : EventBinding} :
    ofName? name = some b ↔ name = b.name := by
  constructor
  · intro hread
    unfold ofName? at hread
    split at hread
    · cases hread
    · next word c event hspan =>
      obtain ⟨mode, hmode, rfl⟩ := Option.map_eq_some_iff.mp hread
      obtain ⟨-, -, hname⟩ := span_bne_eq_iff.mp hspan
      apply String.toList_injective
      rw [hname, EventBinding.name, ← ListenMode.ofWord?_eq_some_iff.mp hmode]
      simp
  · rintro rfl
    have hspan : b.name.toList.span (· != ':') = (b.mode.word.toList, ':' :: b.event.toList) :=
      span_bne_eq_iff.mpr ⟨b.mode.colon_not_mem_word, rfl, by simp [EventBinding.name]⟩
    simp only [ofName?, hspan, String.ofList_toList, ListenMode.ofWord?_eq_some_iff.mpr rfl,
      Option.map_some]

/-- Two bindings with the same name are the same: the name can be read back. -/
theorem name_injective : Function.Injective name := by
  intro b b' hname
  have hread : ofName? b.name = some b' := ofName?_eq_some_iff.mpr hname
  exact Option.some.inj ((ofName?_eq_some_iff.mpr rfl).symm.trans hread)

/-- Every binding can be asked for, since components know all events by their own names. -/
theorem exists_of_eq (b : EventBinding) : ∃ event flags, of event flags = b :=
  ⟨b.event, { isCatch := b.mode.isCatch, isCapture := b.mode.isCapture, isComponent := true }, rfl⟩

end EventBinding

namespace EventName

theorem platform_of_ne_click {event : String} {isComponent : Bool}
    (h : event ≠ "click" ∨ isComponent = true) : platform event isComponent = event := by
  rcases h with h | h <;> simp [platform, h]

/-- Names in the standard style agree exactly if the bindings do. -/
theorem standard_eq_iff {e₁ e₂ : String} {f₁ f₂ : EventFlags} :
    standard e₁ f₁ = standard e₂ f₂ ↔
      f₁.isCatch = f₂.isCatch ∧ f₁.isCapture = f₂.isCapture ∧
        platform e₁ f₁.isComponent = platform e₂ f₂.isComponent := by
  rw [EventBinding.standard_eq_name, EventBinding.standard_eq_name,
    EventBinding.name_injective.eq_iff]
  simp [EventBinding.of, and_assoc]

end EventName

/-! ## Event directives -/

namespace Options

/-- An event directive gives no attribute but that of the event in its argument. -/
theorem name_of_mem_eventAttrs {o : Options} {h : Head} {d : Directive} {name value : String}
    (hmem : .assign name value ∈ o.eventAttrs h d) :
    ∃ event, d.argContent? = some event ∧ name = o.event.format event (o.eventFlags h d) := by
  unfold eventAttrs at hmem
  split at hmem
  · simp at hmem
  · next event hevent =>
    split at hmem
    · simp at hmem
    · unfold withText at hmem
      split at hmem
      · simp only [List.mem_singleton, Attr.assign.injEq] at hmem
        exact ⟨event, hevent, hmem.1⟩
      · simp at hmem

/-- An event directive gives no attributes but that of its event. -/
theorem name_of_mem_ownPropertyAttrs {o : Options} (ho : o.event = .standard) {h : Head}
    {d : Directive} (hd : d.name = "on") {name value : String}
    (hmem : .assign name value ∈ o.ownPropertyAttrs h (.directive d)) :
    ∃ event, d.argContent? = some event ∧ name = EventName.standard event (o.eventFlags h d) := by
  rw [ownPropertyAttrs, propertyAttrs, directiveAttrs, if_pos hd] at hmem
  obtain ⟨event, hevent, hname⟩ := name_of_mem_eventAttrs hmem
  rw [ho] at hname
  exact ⟨event, hevent, hname⟩

end Options

namespace EventName

/-- **Event names are uniquely decodable.** A name in the standard style can be read in one way
only, whatever the event is. Two of them are the same iff the bindings listen in the same way to
the same event of the platform, where `click` is a `tap` unless a component is bound, and any other
event is itself. This is also the only way in which two event directives on one element come to
attributes of the same name. -/
theorem standard_uniquely_decodable :
    (∀ name b, EventBinding.ofName? name = some b ↔
      ∃ event flags, standard event flags = name ∧ EventBinding.of event flags = b) ∧
    (∀ e₁ e₂ f₁ f₂, standard e₁ f₁ = standard e₂ f₂ ↔
      f₁.isCatch = f₂.isCatch ∧ f₁.isCapture = f₂.isCapture ∧
        platform e₁ f₁.isComponent = platform e₂ f₂.isComponent) ∧
    (platform "click" false = "tap" ∧
      ∀ event isComponent, event ≠ "click" ∨ isComponent = true →
        platform event isComponent = event) ∧
    ∀ (o : Options) (h : Head) (d₁ d₂ : Directive) (name₁ value₁ name₂ value₂ : String),
      o.event = .standard → d₁.name = "on" → d₂.name = "on" →
      .assign name₁ value₁ ∈ o.ownPropertyAttrs h (.directive d₁) →
      .assign name₂ value₂ ∈ o.ownPropertyAttrs h (.directive d₂) →
      ∃ e₁ e₂, d₁.argContent? = some e₁ ∧ d₂.argContent? = some e₂ ∧
        (name₁ = name₂ ↔
          (o.eventFlags h d₁).isCatch = (o.eventFlags h d₂).isCatch ∧
          (o.eventFlags h d₁).isCapture = (o.eventFlags h d₂).isCapture ∧
          platform e₁ (o.isUserComponent h) = platform e₂ (o.isUserComponent h)) := by
  refine ⟨fun name b => ?_, fun _ _ _ _ => standard_eq_iff,
    ⟨rfl, fun _ _ => platform_of_ne_click⟩, ?_⟩
  · rw [EventBinding.ofName?_eq_some_iff]
    constructor
    · rintro rfl
      obtain ⟨event, flags, rfl⟩ := b.exists_of_eq
      exact ⟨event, flags, rfl, rfl⟩
    · rintro ⟨event, flags, rfl, rfl⟩
      rfl
  · intro o h d₁ d₂ name₁ value₁ name₂ value₂ ho hd₁ hd₂ hmem₁ hmem₂
    obtain ⟨e₁, harg₁, rfl⟩ := Options.name_of_mem_ownPropertyAttrs ho hd₁ hmem₁
    obtain ⟨e₂, harg₂, rfl⟩ := Options.name_of_mem_ownPropertyAttrs ho hd₂ hmem₂
    exact ⟨e₁, e₂, harg₁, harg₂, standard_eq_iff⟩

end EventName

/-- The directive `v-on:event.modifier="handler"`. -/
def Directive.listener (event modifier handler : String) : Directive :=
  { name := "on", arg := some (.literal event), exp := some (.dynamic handler),
    modifiers := [modifier] }

/-- Two directives on a `view` that bind the same event of the platform, and an event that begins
with a word for a mode. -/
theorem EventName.standard_uniquely_decodable_tap :
    Attr.assign "catch:tap" (mustache "f") ∈
      Options.ownPropertyAttrs { fileName := "t.wxml", mark := "wx:" } { tag := "view" }
        (.directive (.listener "click" "stop" "f")) ∧
    Attr.assign "catch:tap" (mustache "g") ∈
      Options.ownPropertyAttrs { fileName := "t.wxml", mark := "wx:" } { tag := "view" }
        (.directive (.listener "tap" "prevent" "g")) ∧
    platform "click" false = platform "tap" false ∧
    EventBinding.ofName? "catch:bind:a-b" = some ⟨⟨true, false⟩, "bind:a-b"⟩ := by
  have hclick : Attr.assign "catch:tap" (mustache "f") ∈
      Options.ownPropertyAttrs { fileName := "t.wxml", mark := "wx:" } { tag := "view" }
        (.directive (.listener "click" "stop" "f")) := by decide
  have htap : Attr.assign "catch:tap" (mustache "g") ∈
      Options.ownPropertyAttrs { fileName := "t.wxml", mark := "wx:" } { tag := "view" }
        (.directive (.listener "tap" "prevent" "g")) := by decide
  obtain ⟨hread, -, ⟨-, hplatform⟩, hdirectives⟩ := standard_uniquely_decodable
  obtain ⟨_, _, hevent₁, hevent₂, hsame⟩ :=
    hdirectives _ _ _ _ _ _ _ _ rfl rfl rfl hclick htap
  cases hevent₁
  cases hevent₂
  have hname : EventBinding.of "bind:a-b" { isCatch := true } = ⟨⟨true, false⟩, "bind:a-b"⟩ := by
    rw [EventBinding.of, hplatform _ _ (.inl (by decide))]
  exact ⟨hclick, htap, (hsame.mp rfl).2.2,
    (hread _ _).mpr ⟨"bind:a-b", { isCatch := true }, by decide, hname⟩⟩

end MiniTemplate
