import Mathlib.Data.Set.Function
import MiniTemplate.Lowering.Element
import MiniTemplate.Proofs.CamelCase

/-!
# Names of components

Components are named with capitals, but tags are written in small letters. Hyphenation leaves no
capital, and so nothing for a second time (`isUpper_of_mem_hyphenate`, `hyphenate_hyphenate`). By
that alone, two components could still end up under one tag. They do not, because each capital
behind the first character leaves a hyphen, and the first character is a capital anyway:

    UIList2_Item  ↦  u-i-list2_-item  ↦  UIList2_Item

The way back is camel case as it is used for events (`camelFrom_hyphenate`): a hyphen can only come
from a capital, since a component's name has none of its own. Where the first character may be
small, the way back is lost: `myButton` and `MyButton` have the same hyphenated form.
-/

namespace MiniTemplate

namespace Text

open EventName

/-- A capital followed by letters, digits and underscores, all of them ASCII. -/
def isComponentName (name : String) : Bool :=
  match name.toList with
  | [] => false
  | c :: rest => c.isUpper && rest.all isWordChar

theorem isComponentName_iff {name : String} :
    isComponentName name = true ↔
      ∃ c rest, name.toList = c :: rest ∧ c.isUpper = true ∧ ∀ d ∈ rest, isWordChar d = true := by
  unfold isComponentName
  split
  · next hchars => simp [hchars]
  · next c rest hchars => simp [hchars]

/-! ## Hyphenating once is enough -/

/-- Hyphenation leaves no capital behind. -/
theorem isUpper_of_mem_hyphenate {name : String} {c : Char} (hc : c ∈ (hyphenate name).toList) :
    c.isUpper = false := by
  rw [hyphenate, String.toList_ofList] at hc
  rcases mem_hyphenateFrom hc with rfl | ⟨d, -, rfl⟩
  · rfl
  · exact isUpper_toLower d

/-- A hyphenated name is hyphenated already. -/
theorem hyphenate_hyphenate (name : String) : hyphenate (hyphenate name) = hyphenate name := by
  apply String.toList_injective
  rw [hyphenate, String.toList_ofList]
  exact hyphenateFrom_of_not_isUpper (fun _ => isUpper_of_mem_hyphenate) false

/-! ## Hyphenation can be undone -/

/-- Camel case gives a component's name back. -/
theorem camelFrom_hyphenate {name : String} (hname : isComponentName name = true) :
    String.ofList (camelFrom true (hyphenate name).toList) = name := by
  obtain ⟨c, rest, hchars, hupper, hrest⟩ := isComponentName_iff.mp hname
  have hword : isWordChar c = true :=
    isUpper_induction (P := fun c => isWordChar c = true) (by decide) hupper
  apply String.toList_injective
  rw [String.toList_ofList, toList_hyphenate hchars hword, camelFrom_true_toLower hupper,
    camelFrom_hyphenateFrom hrest, hchars]

/-- Different component names stay different, since camel case brings back what hyphenation lowered.
-/
theorem hyphenate_injOn : Set.InjOn hyphenate {name | isComponentName name = true} := by
  intro a ha b hb hab
  calc a = String.ofList (camelFrom true (hyphenate a).toList) := (camelFrom_hyphenate ha).symm
    _ = String.ofList (camelFrom true (hyphenate b).toList) := by rw [hab]
    _ = b := camelFrom_hyphenate hb

end Text

open Text

/-! ## Tags of components -/

/-- A component's name is no `template`, which would be resolved first. -/
theorem Head.resolvedTag_of_isComponentName {h : Head} (htag : isComponentName h.tag = true) :
    h.resolvedTag = h.tag := by
  have hne : h.tag ≠ "template" := by
    intro heq
    rw [heq] at htag
    exact absurd htag (by decide)
  rw [resolvedTag, if_neg hne]

/-- Apart from a hook that gives one name to different tags, hyphenation alone decides which
components share a tag. -/
theorem Options.hyphenate_eq_of_tagName_eq {o : Options} {h h' : Head}
    (hhook : ∀ normalize ∈ o.component.bind (·.normalizeName), Function.Injective normalize)
    (huser : o.isUserComponent h = true) (huser' : o.isUserComponent h' = true)
    (hname : o.tagName h = o.tagName h') :
    hyphenate h.resolvedTag = hyphenate h'.resolvedTag := by
  rw [tagName, tagName, if_pos huser, if_pos huser'] at hname
  cases hnormalize : o.component.bind (·.normalizeName) with
  | none => simpa only [hnormalize] using hname
  | some normalize =>
    simp only [hnormalize] at hname
    exact hhook normalize hnormalize hname

/-- **Hyphenation keeps components apart.** A hyphenated name has no capitals, and hyphenating it
again changes nothing. For a capital followed by letters, digits and underscores it can be undone:
raise the first character and those behind a hyphen, and drop the hyphens. So such names have
different hyphenated forms, and components with such names have different tags, unless the hook on
tag names takes two of them together. -/
theorem hyphenation_keeps_components_apart :
    (∀ name, hyphenate (hyphenate name) = hyphenate name ∧
      ∀ c ∈ (hyphenate name).toList, c.isUpper = false) ∧
    (∀ name, isComponentName name = true →
      String.ofList (EventName.camelFrom true (hyphenate name).toList) = name) ∧
    (∀ a b, isComponentName a = true → isComponentName b = true → hyphenate a = hyphenate b →
      a = b) ∧
    ∀ (o : Options) (h h' : Head),
      (∀ normalize ∈ o.component.bind (·.normalizeName), Function.Injective normalize) →
      o.isUserComponent h = true → o.isUserComponent h' = true →
      isComponentName h.tag = true → isComponentName h'.tag = true →
      o.tagName h = o.tagName h' → h.tag = h'.tag := by
  refine ⟨fun name => ⟨hyphenate_hyphenate name, fun _ => isUpper_of_mem_hyphenate⟩,
    fun _ => camelFrom_hyphenate, fun _ _ ha hb => hyphenate_injOn ha hb, ?_⟩
  intro o h h' hhook huser huser' htag htag' hname
  have hsame := Options.hyphenate_eq_of_tagName_eq hhook huser huser' hname
  rw [Head.resolvedTag_of_isComponentName htag, Head.resolvedTag_of_isComponentName htag'] at hsame
  exact hyphenate_injOn htag htag' hsame

/-- Options under which the tags of components get a mark of their own. -/
def Options.renaming : Options :=
  { fileName := "t.wxml", mark := "wx:", component := some { normalizeName := some ("x-" ++ ·) } }

/-- A name with a run of capitals, and a capital behind an underscore. That another name, which
differs in the case of one letter, has another tag follows from the names alone. -/
theorem hyphenation_keeps_components_apart_list :
    hyphenate "UIList2_Item" = "u-i-list2_-item" ∧
    String.ofList (EventName.camelFrom true "u-i-list2_-item".toList) = "UIList2_Item" ∧
    Options.renaming.tagName { tag := "UIList2_Item", role := .component } ≠
      Options.renaming.tagName { tag := "UiList2_Item", role := .component } := by
  obtain ⟨-, hrecover, -, htags⟩ := hyphenation_keeps_components_apart
  refine ⟨by decide, hrecover "UIList2_Item" (by decide), fun hname => ?_⟩
  have hhook : ∀ normalize ∈ Options.renaming.component.bind (·.normalizeName),
      Function.Injective normalize := by
    rintro _ ⟨⟩ a b hab
    exact (String.append_right_inj "x-").mp hab
  exact absurd (htags _ _ _ hhook rfl rfl (by decide) (by decide) hname) (by decide)

-- a small first letter is not recovered
example : hyphenate "myButton" = hyphenate "MyButton" := by decide

end MiniTemplate
