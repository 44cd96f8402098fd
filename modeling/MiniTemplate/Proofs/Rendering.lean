import MiniTemplate.Compile

/-!
# The text of a forest

Compiling writes a forest piece by piece and stops at the first fault. Here the text of a forest is
given in one go, tag by tag, and the two are tied together:

    compile o t = .ok code ↔
      Sound (lowerNodes o t.nodes) ∧ code = renderForest o.mark (lowerNodes o t.nodes)

`Markup.written` lists the nodes of a forest in document order, each tag before what stands inside
it. What a self-closed tag holds is never written and is not listed. A forest is *sound* when no
written node is at fault. Otherwise the first of its faults is the result:

    compile o t = .error f ↔ (faults (lowerNodes o t.nodes)).head? = some f
-/

namespace MiniTemplate

/-! ## Text of attributes and nodes -/

/-- The text of an attribute, with the blank in front of it. -/
def Attr.render (mark : String) : Attr → String
  | .branch (.when c) => " " ++ mark ++ "if=" ++ quoted (mustache c)
  | .branch (.elseWhen c) => " " ++ mark ++ "elif=" ++ quoted (mustache c)
  | .branch .otherwise => " " ++ mark ++ "else"
  | .loop part value => " " ++ mark ++ part.name ++ "=" ++ quoted value
  | .bare name => " " ++ name
  | .assign name value => " " ++ name ++ "=" ++ quoted value
  | .fault _ => ""

def Attr.renderAll (mark : String) : List Attr → String
  | [] => ""
  | a :: rest => a.render mark ++ renderAll mark rest

namespace Markup

mutual

def render (mark : String) : Markup → String
  | text s => s
  | interpolation code => mustache code
  | tag name attrs true _ => "<" ++ name ++ Attr.renderAll mark attrs ++ "/>"
  | tag name attrs false kids =>
    "<" ++ name ++ Attr.renderAll mark attrs ++ ">" ++ renderForest mark kids ++
      "</" ++ name ++ ">"
  | fault _ => ""

def renderForest (mark : String) : List Markup → String
  | [] => ""
  | m :: rest => render mark m ++ renderForest mark rest

end

mutual

/-- The node and all that is written inside it, in document order. -/
def within : Markup → List Markup
  | text s => [text s]
  | interpolation code => [interpolation code]
  | tag name attrs true kids => [tag name attrs true kids]
  | tag name attrs false kids => tag name attrs false kids :: written kids
  | fault f => [fault f]

/-- The nodes of a forest that are written, in document order. -/
def written : List Markup → List Markup
  | [] => []
  | m :: rest => within m ++ written rest

end

/-- The node is not at fault itself, whatever stands inside it. -/
def IsSound : Markup → Prop
  | fault _ => False
  | tag _ attrs _ _ => ∀ f, Attr.fault f ∉ attrs
  | _ => True

/-- No node of the forest that is written is at fault. -/
def Sound (forest : List Markup) : Prop := ∀ m ∈ written forest, m.IsSound

/-! ## Forests by cases

`Markup` nests lists of itself, so that the plain `induction` tactic does not apply. A property of
forests is shown for the empty forest and for a forest with one more node in front. -/

/-- Induction over a forest: the first node, what it holds, and the rest. -/
theorem forest_induction {P : List Markup → Prop} (nil : P [])
    (text : ∀ s rest, P rest → P (text s :: rest))
    (interpolation : ∀ code rest, P rest → P (interpolation code :: rest))
    (tag : ∀ name attrs closed kids rest, P kids → P rest → P (tag name attrs closed kids :: rest))
    (fault : ∀ f rest, P rest → P (fault f :: rest)) : ∀ forest, P forest
  | [] => nil
  | .text s :: rest => text s rest (forest_induction nil text interpolation tag fault rest)
  | .interpolation code :: rest =>
    interpolation code rest (forest_induction nil text interpolation tag fault rest)
  | .tag name attrs closed kids :: rest =>
    tag name attrs closed kids rest (forest_induction nil text interpolation tag fault kids)
      (forest_induction nil text interpolation tag fault rest)
  | .fault f :: rest => fault f rest (forest_induction nil text interpolation tag fault rest)

@[simp] theorem written_nil : written [] = [] := rfl

@[simp] theorem written_cons (m : Markup) (rest : List Markup) :
    written (m :: rest) = within m ++ written rest := rfl

@[simp] theorem written_append (f g : List Markup) :
    written (f ++ g) = written f ++ written g := by
  induction f with
  | nil => rfl
  | cons m rest ih => simp only [List.cons_append, written_cons, ih, List.append_assoc]

theorem mem_written_self (m : Markup) : m ∈ written [m] := by
  cases m with
  | tag name attrs closed kids => cases closed <;> simp [within]
  | _ => simp [within]

@[simp] theorem sound_nil : Sound [] := by
  intro m hm
  cases hm

@[simp] theorem sound_append (f g : List Markup) : Sound (f ++ g) ↔ Sound f ∧ Sound g := by
  simp only [Sound, written_append, List.mem_append, or_imp, forall_and]

theorem sound_cons (m : Markup) (rest : List Markup) :
    Sound (m :: rest) ↔ Sound [m] ∧ Sound rest :=
  sound_append [m] rest

/-- A tag is sound if no attribute of it is a fault and what it holds is sound. -/
@[simp] theorem sound_open (name : String) (attrs : List Attr) (kids : List Markup) :
    Sound [tag name attrs false kids] ↔ (∀ f, Attr.fault f ∉ attrs) ∧ Sound kids := by
  simp [Sound, within, IsSound]

@[simp] theorem sound_closed (name : String) (attrs : List Attr) (kids : List Markup) :
    Sound [tag name attrs true kids] ↔ ∀ f, Attr.fault f ∉ attrs := by
  simp [Sound, within, IsSound]

@[simp] theorem sound_text (s : String) : Sound [text s] := by
  simp [Sound, within, IsSound]

@[simp] theorem sound_interpolation (code : String) : Sound [interpolation code] := by
  simp [Sound, within, IsSound]

@[simp] theorem not_sound_fault (f : Fault) : ¬ Sound [fault f] := by
  simp [Sound, within, IsSound]

@[simp] theorem sound_block (b : Branch) (kids : List Markup) :
    Sound [block b kids] ↔ Sound kids := by
  simp [block]

end Markup

/-! ## Faults of a forest -/

def Attr.fault? : Attr → Option Fault
  | .fault f => some f
  | _ => none

theorem Attr.filterMap_fault?_eq_nil_iff (attrs : List Attr) :
    attrs.filterMap fault? = [] ↔ ∀ f, .fault f ∉ attrs := by
  rw [List.filterMap_eq_nil_iff]
  constructor
  · intro h f hf
    cases h _ hf
  · intro h a ha
    cases a with
    | fault f => exact absurd ha (h f)
    | _ => rfl

namespace Markup

def ownFaults : Markup → List Fault
  | tag _ attrs _ _ => attrs.filterMap Attr.fault?
  | fault f => [f]
  | _ => []

def faults (forest : List Markup) : List Fault := (written forest).flatMap ownFaults

@[simp] theorem faults_nil : faults [] = [] := rfl

@[simp] theorem faults_append (f g : List Markup) : faults (f ++ g) = faults f ++ faults g := by
  rw [faults, written_append, List.flatMap_append]
  rfl

theorem faults_cons (m : Markup) (rest : List Markup) :
    faults (m :: rest) = faults [m] ++ faults rest :=
  faults_append [m] rest

@[simp] theorem faults_open (name : String) (attrs : List Attr) (kids : List Markup) :
    faults [tag name attrs false kids] = attrs.filterMap Attr.fault? ++ faults kids := by
  simp [faults, within, ownFaults]

@[simp] theorem faults_closed (name : String) (attrs : List Attr) (kids : List Markup) :
    faults [tag name attrs true kids] = attrs.filterMap Attr.fault? := by
  simp [faults, within, ownFaults]

@[simp] theorem faults_block (b : Branch) (kids : List Markup) :
    faults [block b kids] = faults kids := by
  simp [block, Attr.fault?]

/-- A node without faults of its own is not at fault. -/
theorem ownFaults_eq_nil_iff (m : Markup) : m.ownFaults = [] ↔ m.IsSound := by
  cases m with
  | tag name attrs closed kids => exact Attr.filterMap_fault?_eq_nil_iff attrs
  | _ => simp [ownFaults, IsSound]

/-- A forest is sound exactly if it has no faults. -/
theorem faults_eq_nil_iff (forest : List Markup) : faults forest = [] ↔ Sound forest := by
  simp only [faults, List.flatMap_eq_nil_iff, ownFaults_eq_nil_iff, Sound]

end Markup

/-! ## Attributes of a forest -/

namespace Markup

def tagAttrs : Markup → List Attr
  | tag _ attrs _ _ => attrs
  | _ => []

/-- The attributes on the tags of a forest, in the order of writing. -/
def attributes (forest : List Markup) : List Attr := (written forest).flatMap tagAttrs

@[simp] theorem attributes_nil : attributes [] = [] := rfl

@[simp] theorem attributes_append (f g : List Markup) :
    attributes (f ++ g) = attributes f ++ attributes g := by
  rw [attributes, written_append, List.flatMap_append]
  rfl

theorem attributes_cons (m : Markup) (rest : List Markup) :
    attributes (m :: rest) = attributes [m] ++ attributes rest :=
  attributes_append [m] rest

@[simp] theorem attributes_open (name : String) (attrs : List Attr) (kids : List Markup) :
    attributes [tag name attrs false kids] = attrs ++ attributes kids := by
  simp [attributes, within, tagAttrs]

@[simp] theorem attributes_closed (name : String) (attrs : List Attr) (kids : List Markup) :
    attributes [tag name attrs true kids] = attrs := by
  simp [attributes, within, tagAttrs]

@[simp] theorem attributes_text (s : String) : attributes [text s] = [] := rfl

@[simp] theorem attributes_interpolation (code : String) : attributes [interpolation code] = [] :=
  rfl

end Markup

/-! ## Writing a forest -/

namespace Piece

def fault? : Piece → Option Fault
  | fault f => some f
  | _ => none

@[simp] theorem filterMap_fault?_text (s : String) (rest : List Piece) :
    (.text s :: rest).filterMap fault? = rest.filterMap fault? := rfl

@[simp] theorem write_text (mark code s : String) (rest : List Piece) :
    write mark code (.text s :: rest) = write mark (code ++ s) rest := rfl

@[simp] theorem write_mark (mark code : String) (rest : List Piece) :
    write mark code (.mark :: rest) = write mark (code ++ mark) rest := rfl

/-- Writing ends at the first fault among the pieces. -/
theorem write_fault (mark : String) (pieces : List Piece) (code : String) :
    (write mark code pieces).fault = (pieces.filterMap fault?).head? := by
  induction pieces generalizing code with
  | nil => rfl
  | cons p rest ih =>
    cases p with
    | text s => exact ih (code ++ s)
    | mark => exact ih (code ++ mark)
    | fault f => rfl

end Piece

namespace Attr

theorem write_pieces (mark code : String) (a : Attr) (h : ∀ f, a ≠ .fault f)
    (rest : List Piece) :
    Piece.write mark code (a.pieces ++ rest) = Piece.write mark (code ++ a.render mark) rest := by
  cases a with
  | branch b => cases b <;> simp [pieces, branchPieces, render, String.append_assoc]
  | loop part value => simp [pieces, render, String.append_assoc]
  | bare name => simp [pieces, render]
  | assign name value => simp [pieces, render]
  | fault f => exact absurd rfl (h f)

/-- Attributes without a fault are written in full, and the writing goes on. -/
theorem write_flatMap_pieces (mark : String) (attrs : List Attr) (h : ∀ f, .fault f ∉ attrs)
    (code : String) (rest : List Piece) :
    Piece.write mark code (attrs.flatMap pieces ++ rest) =
      Piece.write mark (code ++ renderAll mark attrs) rest := by
  induction attrs generalizing code with
  | nil => simp [renderAll]
  | cons a attrs ih =>
    have ha : ∀ f, a ≠ .fault f := by
      rintro f rfl
      exact h f (List.mem_cons_self ..)
    have hrest : ∀ f, .fault f ∉ attrs := fun f hf => h f (List.mem_cons_of_mem _ hf)
    rw [List.flatMap_cons, List.append_assoc, write_pieces mark code a ha, ih hrest, renderAll,
      String.append_assoc]

theorem filterMap_fault?_pieces (a : Attr) : a.pieces.filterMap Piece.fault? = a.fault?.toList := by
  cases a with
  | branch b => cases b <;> rfl
  | _ => rfl

/-- Attributes bring no faults with them but those that they are. -/
theorem filterMap_fault?_flatMap_pieces (attrs : List Attr) :
    (attrs.flatMap pieces).filterMap Piece.fault? = attrs.filterMap fault? := by
  induction attrs with
  | nil => rfl
  | cons a rest ih =>
    rw [List.flatMap_cons, List.filterMap_append, ih, filterMap_fault?_pieces, List.filterMap_cons]
    cases a.fault? <;> rfl

end Attr

namespace Markup

/-- A sound forest is written as its text. -/
theorem write_forestPieces (mark : String) (forest : List Markup) (h : Sound forest)
    (code : String) (rest : List Piece) :
    Piece.write mark code (forestPieces forest ++ rest) =
      Piece.write mark (code ++ renderForest mark forest) rest := by
  induction forest using forest_induction generalizing code rest with
  | nil => simp [forestPieces, renderForest]
  | text s forest ih =>
    obtain ⟨-, hforest⟩ := (sound_cons ..).mp h
    simp [forestPieces, pieces, renderForest, render, ih hforest, String.append_assoc]
  | interpolation c forest ih =>
    obtain ⟨-, hforest⟩ := (sound_cons ..).mp h
    simp [forestPieces, pieces, renderForest, render, ih hforest, String.append_assoc]
  | tag name attrs closed kids forest ihk ih =>
    obtain ⟨htag, hforest⟩ := (sound_cons ..).mp h
    cases closed with
    | true =>
      have hattrs := (sound_closed ..).mp htag
      simp only [forestPieces, pieces, renderForest, render, List.cons_append, List.append_assoc,
        Piece.write_text, Attr.write_flatMap_pieces mark attrs hattrs, List.nil_append,
        ih hforest, String.append_assoc]
    | false =>
      obtain ⟨hattrs, hkids⟩ := (sound_open ..).mp htag
      simp only [forestPieces, pieces, renderForest, render, List.cons_append, List.append_assoc,
        Piece.write_text, Attr.write_flatMap_pieces mark attrs hattrs, List.nil_append, ihk hkids,
        ih hforest, String.append_assoc]
  | fault f forest ih => exact absurd ((sound_cons ..).mp h).1 (not_sound_fault f)

/-- The faults among the pieces are those of the written nodes, in the same order. -/
theorem filterMap_fault?_forestPieces (forest : List Markup) :
    (forestPieces forest).filterMap Piece.fault? = faults forest := by
  induction forest using forest_induction with
  | nil => rfl
  | text s rest ih =>
    rw [faults_cons, ← ih]
    rfl
  | interpolation c rest ih =>
    rw [faults_cons, ← ih]
    rfl
  | tag name attrs closed kids rest ihk ih =>
    rw [faults_cons, ← ih]
    cases closed with
    | true =>
      simp [forestPieces, pieces, Attr.filterMap_fault?_flatMap_pieces]
    | false =>
      simp [forestPieces, pieces, Attr.filterMap_fault?_flatMap_pieces, ihk]
  | fault f rest ih =>
    rw [faults_cons, ← ih]
    rfl

end Markup

/-- Writing a forest ends at its first fault. -/
theorem Options.writeMarkup_fault (o : Options) (code : String) (forest : List Markup) :
    (o.writeMarkup code forest).fault = (Markup.faults forest).head? := by
  rw [writeMarkup, Piece.write_fault, Markup.filterMap_fault?_forestPieces]

/-- Writing a forest comes to its end exactly if the forest is sound. -/
theorem Options.writeMarkup_fault_eq_none_iff (o : Options) (code : String)
    (forest : List Markup) : (o.writeMarkup code forest).fault = none ↔ Markup.Sound forest := by
  rw [o.writeMarkup_fault, List.head?_eq_none_iff, Markup.faults_eq_nil_iff]

/-- A sound forest is written as its text, after what was there before. -/
theorem Options.writeMarkup_of_sound (o : Options) (code : String) {forest : List Markup}
    (h : Markup.Sound forest) :
    o.writeMarkup code forest = ⟨code ++ Markup.renderForest o.mark forest, none⟩ := by
  have hwrite := Markup.write_forestPieces o.mark forest h code []
  rw [List.append_nil] at hwrite
  exact hwrite

open Markup in
/-- A template compiles exactly when its forest is sound, and then to the text of the forest. -/
theorem compile_eq_ok_iff (o : Options) (t : Template) (code : String) :
    compile o t = .ok code ↔
      Sound (lowerNodes o t.nodes) ∧ code = renderForest o.mark (lowerNodes o t.nodes) := by
  constructor
  · intro h
    rw [compile, Written.result] at h
    split at h
    · next hnone =>
      have hsound := (o.writeMarkup_fault_eq_none_iff ..).mp hnone
      rw [o.writeMarkup_of_sound _ hsound, String.empty_append] at h
      cases h
      exact ⟨hsound, rfl⟩
    · cases h
  · rintro ⟨hsound, rfl⟩
    rw [compile, o.writeMarkup_of_sound _ hsound, String.empty_append, Written.result]

/-- A template that does not compile is at fault where its forest is first. -/
theorem compile_eq_error_iff (o : Options) (t : Template) (f : Fault) :
    compile o t = .error f ↔ (Markup.faults (lowerNodes o t.nodes)).head? = some f := by
  rw [compile, Written.result, ← o.writeMarkup_fault ""]
  split
  · next hnone => simp [hnone]
  · next g hsome => simp [hsome]

/-- A template compiles to some text exactly when its forest is sound. -/
theorem exists_compile_eq_ok_iff (o : Options) (t : Template) :
    (∃ code, compile o t = .ok code) ↔ Markup.Sound (lowerNodes o t.nodes) := by
  simp [compile_eq_ok_iff]

end MiniTemplate
