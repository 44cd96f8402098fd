import MiniTemplate.EventName
import MiniTemplate.Text.Hyphenation

/-!
# Camel case and hyphens

The camel-case style reads a name once and remembers whether the next character is to be raised.
Seen as a whole, the name is cut at its hyphens and each segment begins with a capital:

    touch-start  ↦  touch, start  ↦  TouchStart

A segment may be empty, at an end of the name or between two hyphens, and then adds nothing
(`camelFrom_true`).

Hyphenation goes the other way: it puts a hyphen and a small letter in place of a capital. For a
name that begins with a small letter and goes on with letters and digits, both spellings give the
same attribute (`camel_hyphenate`). The table of compound names does not interfere, because all
names in it are in small letters: hyphenation keeps such a name as it is, and makes no other name
into one of them.
-/

namespace MiniTemplate

namespace EventName

def segments (name : String) : List (List Char) := name.toList.splitOn '-'

def capitalized : List Char → List Char
  | [] => []
  | c :: rest => Text.uppercase c ++ rest

/-- A small letter followed by letters and digits, all of them ASCII. -/
def isCamelName (name : String) : Bool :=
  match name.toList with
  | [] => false
  | c :: rest => c.isLower && rest.all Char.isAlphanum

/-! ## Segments -/

/-- The first segment begins with a capital only if the character before it asks for one. -/
theorem camelFrom_eq (raise : Bool) (cs : List Char) :
    ∃ first rest, cs.splitOn '-' = first :: rest ∧
      camelFrom raise cs = (if raise then capitalized first else first) ++
        rest.flatMap capitalized := by
  induction cs generalizing raise with
  | nil => exact ⟨[], [], rfl, by cases raise <;> rfl⟩
  | cons c cs ih =>
    rw [List.splitOn_cons_eq_if_modifyHead, camelFrom]
    by_cases hc : c = '-'
    · obtain ⟨first, rest, hsplit, hcamel⟩ := ih true
      refine ⟨[], first :: rest, by simp [hc, hsplit], ?_⟩
      rw [if_pos hc, hcamel, List.flatMap_cons]
      cases raise <;> rfl
    · obtain ⟨first, rest, hsplit, hcamel⟩ := ih false
      refine ⟨c :: first, rest, by simp [hc, hsplit], ?_⟩
      rw [if_neg hc, hcamel]
      cases raise <;> simp [capitalized]

/-- Camel case puts the segments side by side, each with its first character raised. -/
theorem camelFrom_true (cs : List Char) :
    camelFrom true cs = (cs.splitOn '-').flatMap capitalized := by
  obtain ⟨first, rest, hsplit, hcamel⟩ := camelFrom_eq true cs
  rw [hcamel, hsplit, List.flatMap_cons, if_pos rfl]

/-! ## Names outside of the table -/

/-- All compound names are in small letters. -/
theorem compound_of_not_lower {event : String} (h : event.toList.all Char.isLower = false) :
    compound event = event := by
  unfold compound
  split
  case h_12 => rfl
  all_goals exact absurd h (by decide)

/-- The one event with another name on the platform is all small letters. -/
theorem platform_of_not_lower {event : String} (h : event.toList.all Char.isLower = false)
    (isComponent : Bool) : platform event isComponent = event := by
  unfold platform
  split
  · next hclick =>
    have hevent : event = "click" := by simp_all
    subst hevent
    exact absurd h (by decide)
  · rfl

/-- A name that has not only small letters is put in camel case as it stands. -/
theorem camel_of_mem {event : String} {c : Char} (hc : c ∈ event.toList)
    (hother : c.isLower = false) (flags : EventFlags) :
    camel event flags =
      (if flags.isCatch then "catch" else "on") ++ String.ofList (camelFrom true event.toList) := by
  have hall : event.toList.all Char.isLower = false :=
    List.all_eq_false.mpr ⟨c, hc, by simp [hother]⟩
  rw [camel, platform_of_not_lower hall, compound_of_not_lower hall]

end EventName

/-! ## Hyphenated names -/

namespace Text

/-- There are only so many capitals, so that what is to be shown of them is shown of each. -/
theorem isUpper_induction {P : Char → Prop} (letters : ∀ n < 26, P (Char.ofNat (65 + n))) {c : Char}
    (hc : c.isUpper = true) : P c := by
  have hbounds : 65 ≤ c.toNat ∧ c.toNat ≤ 90 := of_decide_eq_true hc
  obtain ⟨n, hn⟩ := Nat.exists_eq_add_of_le hbounds.1
  have hletter := letters n (by omega)
  rwa [← hn, Char.ofNat_toNat] at hletter

/-- Raising a lowered capital gives it back. -/
theorem uppercase_toLower {c : Char} (hc : c.isUpper = true) : uppercase c.toLower = [c] :=
  isUpper_induction (P := fun c => uppercase c.toLower = [c]) (by decide +kernel) hc

theorem isAlphanum_toLower_of_isUpper {c : Char} (hc : c.isUpper = true) :
    c.toLower.isAlphanum = true :=
  isUpper_induction (P := fun c => c.toLower.isAlphanum = true) (by decide) hc

theorem isLower_of_isUpper {c : Char} (hc : c.isUpper = true) : c.isLower = false :=
  isUpper_induction (P := fun c => c.isLower = false) (by decide) hc

theorem isUpper_of_isLower {c : Char} (hc : c.isLower = true) : c.isUpper = false := by
  cases hupper : c.isUpper with
  | false => rfl
  | true =>
    rw [isLower_of_isUpper hupper] at hc
    cases hc

/-- Only capitals are lowered. -/
theorem toLower_of_not_isUpper {c : Char} (hc : c.isUpper = false) : c.toLower = c :=
  dif_neg (of_decide_eq_false hc)

theorem isUpper_toLower (c : Char) : c.toLower.isUpper = false := by
  cases hc : c.isUpper with
  | false => rw [toLower_of_not_isUpper hc, hc]
  | true => exact isUpper_induction (P := fun c => c.toLower.isUpper = false) (by decide) hc

theorem isWordChar_of_isAlphanum {c : Char} (hc : c.isAlphanum = true) : isWordChar c = true := by
  simp [isWordChar, hc]

theorem ne_hyphen_of_isWordChar {c : Char} (hc : isWordChar c = true) : c ≠ '-' := by
  rintro rfl
  cases hc

/-- The first character is only lowered. -/
theorem toList_hyphenate {name : String} {c : Char} {rest : List Char}
    (hname : name.toList = c :: rest) (hc : isWordChar c = true) :
    (hyphenate name).toList = c.toLower :: hyphenateFrom true rest := by
  rw [hyphenate, String.toList_ofList, hname, hyphenateFrom, Bool.and_false,
    if_neg Bool.false_ne_true, hc]

/-- Without capitals there is nothing to hyphenate. -/
theorem hyphenateFrom_of_not_isUpper {cs : List Char} (hcs : ∀ c ∈ cs, c.isUpper = false)
    (afterWord : Bool) : hyphenateFrom afterWord cs = cs := by
  induction cs generalizing afterWord with
  | nil => rfl
  | cons c cs ih =>
    obtain ⟨hc, hcs⟩ := List.forall_mem_cons.mp hcs
    rw [hyphenateFrom, hc, Bool.false_and, if_neg Bool.false_ne_true, ih hcs,
      toLower_of_not_isUpper hc]

/-- A capital after a word character leaves a hyphen. -/
theorem hyphen_mem_hyphenateFrom {cs : List Char} (hcs : ∀ c ∈ cs, c.isAlphanum = true) {c : Char}
    (hc : c ∈ cs) (hupper : c.isUpper = true) : '-' ∈ hyphenateFrom true cs := by
  induction cs with
  | nil => cases hc
  | cons d cs ih =>
    obtain ⟨hd, hcs⟩ := List.forall_mem_cons.mp hcs
    rw [hyphenateFrom, isWordChar_of_isAlphanum hd, Bool.and_true]
    split
    · exact List.mem_cons_self ..
    · next hlower =>
      have hmem : c ∈ cs := by
        rcases List.mem_cons.mp hc with rfl | hmem
        · exact absurd hupper hlower
        · exact hmem
      exact List.mem_cons_of_mem _ (ih hcs hmem)

end Text

namespace EventName

open Text

/-- Raising a lowered capital gives the capital back. -/
theorem camelFrom_true_toLower {c : Char} (hc : c.isUpper = true) (cs : List Char) :
    camelFrom true (c.toLower :: cs) = c :: camelFrom false cs := by
  have hne : c.toLower ≠ '-' :=
    ne_hyphen_of_isWordChar (isWordChar_of_isAlphanum (isAlphanum_toLower_of_isUpper hc))
  rw [camelFrom, if_neg hne, if_pos rfl, uppercase_toLower hc]
  rfl

/-- Without a hyphen there is nothing to drop or to raise. -/
theorem camelFrom_of_isWordChar {cs : List Char} (hcs : ∀ c ∈ cs, isWordChar c = true) :
    camelFrom false cs = cs := by
  induction cs with
  | nil => rfl
  | cons c cs ih =>
    obtain ⟨hc, hcs⟩ := List.forall_mem_cons.mp hcs
    rw [camelFrom, if_neg (ne_hyphen_of_isWordChar hc), if_neg Bool.false_ne_true, ih hcs]

/-- Camel case takes back what hyphenation does to word characters behind a word character. -/
theorem camelFrom_hyphenateFrom {cs : List Char} (hcs : ∀ c ∈ cs, isWordChar c = true) :
    camelFrom false (hyphenateFrom true cs) = cs := by
  induction cs with
  | nil => rfl
  | cons c cs ih =>
    obtain ⟨hc, hcs⟩ := List.forall_mem_cons.mp hcs
    rw [hyphenateFrom, hc, Bool.and_true]
    split
    · next hupper =>
      -- the hyphen asks for a capital, which is the one that was lowered
      rw [camelFrom, if_pos rfl, camelFrom_true_toLower hupper, ih hcs]
    · next hlower =>
      rw [toLower_of_not_isUpper (by simpa using hlower), camelFrom,
        if_neg (ne_hyphen_of_isWordChar hc), if_neg Bool.false_ne_true, ih hcs]

/-- Camel case does not tell a name from its hyphenated form. -/
theorem camel_hyphenate {name : String} (hname : isCamelName name = true) (flags : EventFlags) :
    camel (hyphenate name) flags = camel name flags := by
  unfold isCamelName at hname
  split at hname
  · cases hname
  · next c rest hchars =>
    rw [Bool.and_eq_true, List.all_eq_true] at hname
    obtain ⟨hlower, hrest⟩ := hname
    have hword : isWordChar c = true := by
      show (c.isUpper || c.isLower || c.isDigit || c == '_') = true
      rw [hlower, Bool.or_true, Bool.true_or, Bool.true_or]
    have hhyphenated : (hyphenate name).toList = c :: hyphenateFrom true rest := by
      rw [toList_hyphenate hchars hword, toLower_of_not_isUpper (isUpper_of_isLower hlower)]
    by_cases hcapital : ∃ d ∈ rest, d.isUpper = true
    · -- one spelling has a capital and the other a hyphen, so that none of them is in the table
      obtain ⟨d, hd, hdupper⟩ := hcapital
      have hhyphen : '-' ∈ (hyphenate name).toList := by
        rw [hhyphenated]
        exact List.mem_cons_of_mem _ (hyphen_mem_hyphenateFrom hrest hd hdupper)
      have hmem : d ∈ name.toList := by
        rw [hchars]
        exact List.mem_cons_of_mem _ hd
      rw [camel_of_mem hhyphen rfl, camel_of_mem hmem (isLower_of_isUpper hdupper), hhyphenated,
        hchars]
      have hne : c ≠ '-' := ne_hyphen_of_isWordChar hword
      have hwords : ∀ e ∈ rest, isWordChar e = true :=
        fun e he => isWordChar_of_isAlphanum (hrest e he)
      rw [camelFrom, if_neg hne, if_pos rfl, camelFrom, if_neg hne, if_pos rfl,
        camelFrom_hyphenateFrom hwords, camelFrom_of_isWordChar hwords]
    · have hsame : hyphenate name = name := by
        apply String.toList_injective
        rw [hhyphenated, hchars, hyphenateFrom_of_not_isUpper]
        simpa using hcapital
      rw [hsame]

/-- **Camel case undoes hyphenation.** The attribute of an event is `catch` or `on` and then the
segments of the event's name, as the platform knows it, each with its first character raised. So a
name that begins with a small letter and goes on with letters and digits has the same attribute as
its hyphenated form. -/
theorem camel_undoes_hyphenation (flags : EventFlags) :
    (∀ event, camel event flags =
      (if flags.isCatch then "catch" else "on") ++
        String.ofList
          ((segments (compound (platform event flags.isComponent))).flatMap capitalized)) ∧
    ∀ name, isCamelName name = true → camel (hyphenate name) flags = camel name flags := by
  refine ⟨fun event => ?_, fun name hname => camel_hyphenate hname flags⟩
  rw [camel, camelFrom_true]
  rfl

/-- A name with a run of capitals, and a digit in front of the last of them. -/
theorem camel_undoes_hyphenation_longUITap :
    camel "long-u-i-tap2-end" { isCatch := true } = camel "longUITap2End" { isCatch := true } ∧
    camel "longUITap2End" { isCatch := true } = "catchLongUITap2End" :=
  ⟨(camel_undoes_hyphenation { isCatch := true }).2 "longUITap2End" (by decide), by decide⟩

-- hyphens at the ends and side by side, and a character whose upper case has two characters
example : camel "-touch--ßx-" {} = "onTouchSSx" := by decide

end EventName

end MiniTemplate
