import MiniTemplate.Proofs.Assembly

/-!
# Texts without quotes

Values are put in double quotes, and nothing in them is escaped. A quote inside of a value, or in
any other text of the markup, would be taken for one that begins or ends a value.

A text passes through many hands before it is written: tags are hyphenated, events are renamed and
put in camel case, keys are cut out of expressions. None of these makes a quote out of anything
else. And if there is no quote in any text of a forest (`Markup.texts`), then the quotes in what is
written are two for every attribute that has a value (`quotes_renderForest`).
-/

namespace MiniTemplate

open Markup

/-! ## Texts without quotes -/

def QuoteFree (s : String) : Prop := '"' ∉ s.toList

instance (s : String) : Decidable (QuoteFree s) := inferInstanceAs (Decidable ('"' ∉ s.toList))

def quotes (s : String) : Nat := s.toList.count '"'

def AllQuoteFree (texts : List String) : Prop := ∀ s ∈ texts, QuoteFree s

instance (texts : List String) : Decidable (AllQuoteFree texts) :=
  inferInstanceAs (Decidable (∀ s ∈ texts, QuoteFree s))

section Texts

variable {s t : String} {xs ys : List String}

@[simp] theorem quoteFree_append : QuoteFree (s ++ t) ↔ QuoteFree s ∧ QuoteFree t := by
  simp [QuoteFree, String.toList_append, not_or]

@[simp] theorem quoteFree_mustache : QuoteFree (mustache s) ↔ QuoteFree s := by
  have hopen : QuoteFree "\x7b\x7b" := by decide
  have hclose : QuoteFree "\x7d\x7d" := by decide
  simp [mustache, hopen, hclose]

@[simp] theorem quotes_append : quotes (s ++ t) = quotes s + quotes t := by
  simp [quotes, String.toList_append]

theorem QuoteFree.quotes_eq (h : QuoteFree s) : quotes s = 0 := List.count_eq_zero.mpr h

/-- A value without quotes is written between exactly two. -/
theorem quotes_quoted (h : QuoteFree s) : quotes (quoted s) = 2 := by
  have hquote : quotes "\"" = 1 := by decide
  simp [quoted, hquote, h.quotes_eq]

@[simp] theorem allQuoteFree_nil : AllQuoteFree [] := by simp [AllQuoteFree]

@[simp] theorem allQuoteFree_cons :
    AllQuoteFree (s :: xs) ↔ QuoteFree s ∧ AllQuoteFree xs := by
  simp [AllQuoteFree]

@[simp] theorem allQuoteFree_append :
    AllQuoteFree (xs ++ ys) ↔ AllQuoteFree xs ∧ AllQuoteFree ys := by
  simp [AllQuoteFree, or_imp, forall_and]

theorem allQuoteFree_flatMap {α : Type} {l : List α} {f : α → List String} :
    AllQuoteFree (l.flatMap f) ↔ ∀ a ∈ l, AllQuoteFree (f a) := by
  simp only [AllQuoteFree, List.mem_flatMap]
  exact ⟨fun h a ha s hs => h s ⟨a, ha, hs⟩, fun h s ⟨a, ha, hs⟩ => h a ha s hs⟩

end Texts

/-! ## Names -/

namespace Text

/-- A lowered capital lies above all capitals, and a quote below them. -/
theorem eq_quote_of_toLower {c : Char} (h : c.toLower = '"') : c = '"' := by
  unfold Char.toLower at h
  split at h
  · next hupper =>
    have hval : c.val + 32 = 34 := congrArg Char.val h
    have hlow : 65 ≤ c.val := hupper.1
    have hhigh : c.val ≤ 90 := hupper.2
    grind
  · exact h

theorem quoteFree_hyphenate {name : String} (h : QuoteFree name) : QuoteFree (hyphenate name) := by
  rw [QuoteFree, hyphenate, String.toList_ofList]
  intro hquote
  rcases mem_hyphenateFrom hquote with hhyphen | ⟨c, hc, hlowered⟩
  · cases hhyphen
  · exact h (eq_quote_of_toLower hlowered.symm ▸ hc)

theorem eq_of_ofNat_eq_quote {n : Nat} (h : Char.ofNat n = '"') : n = 0x22 := by
  by_cases hn : n.isValidChar
  · rw [Char.ofNat, dif_pos hn] at h
    exact congrArg Char.toNat h
  · rw [Char.ofNat, dif_neg hn] at h
    cases h

/-- No character but the quote itself has a quote in its upper-case form. -/
theorem eq_quote_of_mem_uppercase {c : Char} (h : '"' ∈ uppercase c) : c = '"' := by
  -- both tables are finite, and neither of them leads to a quote
  have hlong : ∀ entry ∈ longUppercase, 0x22 ∉ entry.2 := by decide
  have hruns : ∀ run ∈ caseRuns, 0x22 < run.image := by decide +kernel
  unfold uppercase at h
  split at h
  · next image hlookup =>
    obtain ⟨n, hn, heq⟩ := List.mem_map.mp h
    rw [eq_of_ofNat_eq_quote heq] at hn
    obtain ⟨before, after, hsplit, -⟩ := List.lookup_eq_some_iff.mp hlookup
    exact absurd hn (hlong (c.toNat, image) (by simp [hsplit]))
  · split at h
    · next image himage =>
      obtain ⟨run, hrun, heq⟩ := List.exists_of_findSome?_eq_some himage
      have hquote := eq_of_ofNat_eq_quote (List.mem_singleton.mp h).symm
      have hlt := hruns run hrun
      unfold CaseRun.image? at heq
      split at heq
      · simp only [Option.some.injEq] at heq
        omega
      · cases heq
    · exact (List.mem_singleton.mp h).symm

end Text

namespace EventName

theorem quoteFree_platform {event : String} (h : QuoteFree event) (isComponent : Bool) :
    QuoteFree (platform event isComponent) := by
  unfold platform
  split
  · decide
  · exact h

theorem quoteFree_compound {event : String} (h : QuoteFree event) : QuoteFree (compound event) := by
  unfold compound
  split
  -- only the last case keeps the event, the others are fixed names
  case h_12 => exact h
  all_goals decide

theorem quoteFree_camelFrom (cs : List Char) (hcs : '"' ∉ cs) (raise : Bool) :
    '"' ∉ camelFrom raise cs := by
  induction cs generalizing raise with
  | nil => simp [camelFrom]
  | cons c rest ih =>
    obtain ⟨hc, hrest⟩ := not_or.mp (mt List.mem_cons.mpr hcs)
    have hupper : '"' ∉ Text.uppercase c := fun h => hc (Text.eq_quote_of_mem_uppercase h).symm
    rw [camelFrom]
    split
    · exact ih hrest true
    · split
      · simp [hupper, ih hrest]
      · simp [hc, ih hrest]

theorem quoteFree_standard {event : String} (h : QuoteFree event) (flags : EventFlags) :
    QuoteFree (standard event flags) := by
  have hplatform := quoteFree_platform h flags.isComponent
  have hcapture : QuoteFree (if flags.isCapture then "capture-" else "") := by split <;> decide
  have hcatch : QuoteFree (if flags.isCatch then "catch" else "bind") := by split <;> decide
  have hcolon : QuoteFree ":" := by decide
  simp [standard, hplatform, hcapture, hcatch, hcolon]

/-- Names in camel case have no quotes that the event had not: raising a character gives none. -/
theorem quoteFree_camel {event : String} (h : QuoteFree event) (flags : EventFlags) :
    QuoteFree (camel event flags) := by
  have hcompound := quoteFree_compound (quoteFree_platform h flags.isComponent)
  have hcatch : QuoteFree (if flags.isCatch then "catch" else "on") := by split <;> decide
  rw [camel, quoteFree_append]
  refine ⟨hcatch, ?_⟩
  rw [QuoteFree, String.toList_ofList]
  exact quoteFree_camelFrom _ hcompound true

end EventName

theorem quoteFree_keyText {s : String} (h : QuoteFree s) : QuoteFree (keyText s) := by
  unfold keyText
  split
  · exact h
  · next c rest hdrop =>
    rw [QuoteFree, String.toList_ofList]
    intro hmem
    apply h
    apply (List.dropWhile_sublist (· != '.')).subset
    rw [hdrop]
    exact List.mem_cons_of_mem c hmem

/-! ## Texts of a forest -/

def Branch.texts : Branch → List String
  | .when c => [c]
  | .elseWhen c => [c]
  | .otherwise => []

def Attr.texts : Attr → List String
  | .branch b => b.texts
  | .loop _ value => [value]
  | .bare name => [name]
  | .assign name value => [name, value]
  | .fault _ => []

namespace Markup

def ownTexts : Markup → List String
  | text s => [s]
  | interpolation code => [code]
  | tag name attrs _ _ => name :: attrs.flatMap Attr.texts
  | fault _ => []

/-- The texts of a forest that are written, in document order. -/
def texts (forest : List Markup) : List String := (written forest).flatMap ownTexts

@[simp] theorem texts_nil : texts [] = [] := rfl

@[simp] theorem texts_append (f g : List Markup) : texts (f ++ g) = texts f ++ texts g := by
  rw [texts, written_append, List.flatMap_append]
  rfl

theorem texts_cons (m : Markup) (rest : List Markup) :
    texts (m :: rest) = texts [m] ++ texts rest :=
  texts_append [m] rest

@[simp] theorem texts_open (name : String) (attrs : List Attr) (kids : List Markup) :
    texts [tag name attrs false kids] = name :: (attrs.flatMap Attr.texts ++ texts kids) := by
  simp [texts, within, ownTexts]

@[simp] theorem texts_closed (name : String) (attrs : List Attr) (kids : List Markup) :
    texts [tag name attrs true kids] = name :: attrs.flatMap Attr.texts := by
  simp [texts, within, ownTexts]

theorem allQuoteFree_block {b : Branch} {kids : List Markup} :
    AllQuoteFree (texts [block b kids]) ↔ AllQuoteFree b.texts ∧ AllQuoteFree (texts kids) := by
  have hblock : QuoteFree "block" := by decide
  simp [block, Attr.texts, hblock]

end Markup

/-! ## Counting quotes -/

namespace Attr

/-- The name and the value of an attribute that has a value. -/
def assignment? (mark : String) : Attr → Option (String × String)
  | .branch (.when c) => some (mark ++ "if", mustache c)
  | .branch (.elseWhen c) => some (mark ++ "elif", mustache c)
  | .loop part value => some (mark ++ part.name, value)
  | .assign name value => some (name, value)
  | _ => none

theorem quoteFree_part (part : LoopPart) : QuoteFree part.name := by
  cases part <;> decide

variable {mark : String} {a : Attr}

/-- An attribute with a value is written as its name and the quoted value. -/
theorem render_of_assignment? {name value : String} (h : a.assignment? mark = some (name, value)) :
    a.render mark = " " ++ name ++ "=" ++ quoted value := by
  cases a with
  | branch b => cases b <;> cases h <;> simp [render, String.append_assoc]
  | loop part value => cases h; simp [render, String.append_assoc]
  | assign name value => cases h; rfl
  | _ => cases h

/-- Neither the name nor the value of an attribute has a quote that its texts and the mark do not
have. -/
theorem quoteFree_of_assignment? (hmark : QuoteFree mark) (ha : AllQuoteFree a.texts)
    {name value : String} (h : a.assignment? mark = some (name, value)) :
    QuoteFree name ∧ QuoteFree value := by
  have hif : QuoteFree "if" := by decide
  have helif : QuoteFree "elif" := by decide
  cases a with
  | branch b => cases b <;> cases h <;> simp_all [texts, Branch.texts]
  | loop part value => cases h; simp_all [texts, quoteFree_part]
  | assign name value => cases h; simp_all [texts]
  | _ => cases h

/-- An attribute has the two quotes around its value, if it has one. -/
theorem quotes_render (hmark : QuoteFree mark) (ha : AllQuoteFree a.texts) :
    quotes (a.render mark) = 2 * (a.assignment? mark).toList.length := by
  have hblank : quotes " " = 0 := by decide
  cases hassign : a.assignment? mark with
  | some assignment =>
    obtain ⟨name, value⟩ := assignment
    have hequals : quotes "=" = 0 := by decide
    obtain ⟨hname, hvalue⟩ := quoteFree_of_assignment? hmark ha hassign
    rw [render_of_assignment? hassign]
    simp [hblank, hequals, hname.quotes_eq, quotes_quoted hvalue]
  | none =>
    cases a with
    | branch b =>
      cases b with
      | otherwise =>
        have helse : quotes "else" = 0 := by decide
        simp [render, hblank, helse, hmark.quotes_eq]
      | _ => cases hassign
    | bare name =>
      obtain ⟨hname, -⟩ := allQuoteFree_cons.mp ha
      simp [render, hblank, hname.quotes_eq]
    | fault f => rfl
    | _ => cases hassign

/-- Attributes have two quotes for each value and no others. -/
theorem quotes_renderAll (hmark : QuoteFree mark) {attrs : List Attr}
    (h : AllQuoteFree (attrs.flatMap texts)) :
    quotes (renderAll mark attrs) = 2 * (attrs.filterMap (assignment? mark)).length := by
  induction attrs with
  | nil => rfl
  | cons a attrs ih =>
    rw [List.flatMap_cons, allQuoteFree_append] at h
    rw [renderAll, quotes_append, quotes_render hmark h.1, ih h.2, List.filterMap_cons]
    cases a.assignment? mark with
    | none => simp
    | some assignment =>
      simp only [Option.toList_some, List.length_cons, List.length_nil]
      omega

end Attr

/-- If no text of a forest has a quote, then all quotes in its rendering are around values. -/
theorem quotes_renderForest {mark : String} (hmark : QuoteFree mark) (forest : List Markup)
    (h : AllQuoteFree (texts forest)) :
    quotes (renderForest mark forest) =
      2 * ((attributes forest).filterMap (Attr.assignment? mark)).length := by
  have hless : quotes "<" = 0 := by decide
  have hgreater : quotes ">" = 0 := by decide
  have hend : quotes "</" = 0 := by decide
  have hclosed : quotes "/>" = 0 := by decide
  induction forest using forest_induction with
  | nil => rfl
  | text s forest ih =>
    rw [texts_cons, allQuoteFree_append] at h
    have hs : QuoteFree s := h.1 s (List.mem_singleton_self s)
    rw [renderForest, quotes_append, render, hs.quotes_eq, ih h.2, attributes_cons]
    simp
  | interpolation code forest ih =>
    rw [texts_cons, allQuoteFree_append] at h
    have hcode : QuoteFree code := h.1 code (List.mem_singleton_self code)
    rw [renderForest, quotes_append, render, (quoteFree_mustache.mpr hcode).quotes_eq, ih h.2,
      attributes_cons]
    simp
  | tag name attrs closed kids forest ihk ih =>
    rw [texts_cons, allQuoteFree_append] at h
    obtain ⟨htag, hforest⟩ := h
    cases closed with
    | true =>
      rw [texts_closed, allQuoteFree_cons] at htag
      obtain ⟨hname, hattrs⟩ := htag
      rw [renderForest, attributes_cons]
      simp only [render, quotes_append, hless, hclosed, hname.quotes_eq,
        Attr.quotes_renderAll hmark hattrs, ih hforest, attributes_closed, List.filterMap_append,
        List.length_append]
      omega
    | false =>
      rw [texts_open, allQuoteFree_cons, allQuoteFree_append] at htag
      obtain ⟨hname, hattrs, hkids⟩ := htag
      rw [renderForest, attributes_cons]
      simp only [render, quotes_append, hless, hgreater, hend, hname.quotes_eq,
        Attr.quotes_renderAll hmark hattrs, ihk hkids, ih hforest, attributes_open,
        List.filterMap_append, List.length_append]
      omega
  | fault f forest ih =>
    rw [texts_cons, allQuoteFree_append] at h
    exact ih h.2

end MiniTemplate
