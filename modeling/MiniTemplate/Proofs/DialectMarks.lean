import Mathlib.Data.List.Forall2
import MiniTemplate.Proofs.Assembly

/-!
# One text for all dialects

Dialects differ in the mark in front of their control attributes. A template has one text for all of
them, with a gap wherever the mark goes:

    <view ␣if="{{a}}" class="b"><text ␣for="xs">…

No rule looks at the mark, so that the forest is the same for every dialect
(`lowerNodes_relabel`). Writing the forest fills the gaps of one `Gapped` text
(`Piece.write_eq_fill`), and behind every gap stands one of the control attributes of the forest, in
their order (`leads_forestPieces`). What is written up to a fault has gaps as well, but the fault
itself has none.
-/

namespace MiniTemplate

open Markup

/-! ## Texts with gaps -/

/-- A text with gaps that are all filled alike. -/
structure Gapped where
  /-- What stands before the first gap. -/
  first : String
  /-- What follows each gap, up to the next one. -/
  rest : List String

namespace Gapped

def fill (g : Gapped) (mark : String) : String := mark.intercalate (g.first :: g.rest)

def behind (s : String) (g : Gapped) : Gapped := ⟨s ++ g.first, g.rest⟩

def behindGap (g : Gapped) : Gapped := ⟨"", g.first :: g.rest⟩

theorem fill_behind (s : String) (g : Gapped) (mark : String) :
    (g.behind s).fill mark = s ++ g.fill mark :=
  String.intercalate_cons_append

theorem fill_behindGap (g : Gapped) (mark : String) :
    g.behindGap.fill mark = mark ++ g.fill mark := by
  rw [fill, behindGap, String.intercalate_cons_cons, String.empty_append]
  rfl

end Gapped

namespace Piece

/-- The pieces up to the first fault, with a gap for every mark. -/
def gapped : List Piece → Gapped
  | [] => ⟨"", []⟩
  | text s :: rest => (gapped rest).behind s
  | mark :: rest => (gapped rest).behindGap
  | fault _ :: _ => ⟨"", []⟩

/-- Writing pieces fills their gaps. Which fault ends it is settled before the mark is known. -/
theorem write_eq_fill (m code : String) (pieces : List Piece) :
    write m code pieces = ⟨code ++ (gapped pieces).fill m, (pieces.filterMap fault?).head?⟩ := by
  have hcode : (write m code pieces).code = code ++ (gapped pieces).fill m := by
    induction pieces generalizing code with
    | nil => simp [write, gapped, Gapped.fill]
    | cons p rest ih =>
      cases p with
      | text s => rw [write_text, ih, gapped, Gapped.fill_behind, String.append_assoc]
      | mark => rw [write_mark, ih, gapped, Gapped.fill_behindGap, String.append_assoc]
      | fault f => simp [write, gapped, Gapped.fill]
  rw [← hcode, ← write_fault m pieces code]

end Piece

/-! ## What stands behind the gaps -/

namespace Attr

/-- What a control attribute says behind the mark. -/
def controlText : Attr → String
  | .branch (.when c) => "if=" ++ quoted (mustache c)
  | .branch (.elseWhen c) => "elif=" ++ quoted (mustache c)
  | .branch .otherwise => "else"
  | .loop part value => part.name ++ "=" ++ quoted value
  | _ => ""

/-- The text begins with what the control attribute says. -/
def Leads (a : Attr) (text : String) : Prop := ∃ tail, text = a.controlText ++ tail

/-- A control attribute makes one gap and stands behind it. -/
theorem gapped_of_isControl {a : Attr} (h : a.isControl = true) (more : List Piece) :
    Piece.gapped (a.pieces ++ more) =
      ⟨" ", (a.controlText ++ (Piece.gapped more).first) :: (Piece.gapped more).rest⟩ := by
  cases a with
  | branch b => cases b <;> rfl
  | loop part value => rfl
  | _ => cases h

/-- Any other attribute makes none. -/
theorem gapped_rest_of_not_isControl {a : Attr} (h : a.isControl = false) (hf : ∀ f, a ≠ .fault f)
    (more : List Piece) :
    (Piece.gapped (a.pieces ++ more)).rest = (Piece.gapped more).rest := by
  cases a with
  | bare name => rfl
  | assign name value => rfl
  | fault f => exact absurd rfl (hf f)
  | _ => cases h

variable {more : List Piece} {controls : List Attr}

/-- Each control attribute of a tag opens a gap, and the text behind the gap begins with what the
attribute says. -/
theorem leads_flatMap_pieces {attrs : List Attr} (h : ∀ f, .fault f ∉ attrs)
    (hmore : List.Forall₂ Leads controls (Piece.gapped more).rest) :
    List.Forall₂ Leads (attrs.filter isControl ++ controls)
      (Piece.gapped (attrs.flatMap pieces ++ more)).rest := by
  induction attrs with
  | nil => exact hmore
  | cons a attrs ih =>
    have hrest := ih fun f hf => h f (List.mem_cons_of_mem _ hf)
    rw [List.flatMap_cons, List.append_assoc]
    cases hc : a.isControl with
    | true =>
      rw [gapped_of_isControl hc, List.filter_cons_of_pos hc]
      exact .cons ⟨_, rfl⟩ hrest
    | false =>
      have ha : ∀ f, a ≠ .fault f := by
        rintro f rfl
        exact h f (List.mem_cons_self ..)
      rw [gapped_rest_of_not_isControl hc ha, List.filter_cons_of_neg (by simp [hc])]
      exact hrest

end Attr

/-- The gaps of a sound forest are those of its control attributes, one by one. -/
theorem leads_forestPieces (forest : List Markup) (h : Sound forest) (more : List Piece)
    (controls : List Attr) (hmore : List.Forall₂ Attr.Leads controls (Piece.gapped more).rest) :
    List.Forall₂ Attr.Leads ((attributes forest).filter Attr.isControl ++ controls)
      (Piece.gapped (forestPieces forest ++ more)).rest := by
  -- what follows a tag is part of the pieces behind it, hence the general `more`
  induction forest using forest_induction generalizing more controls with
  | nil => exact hmore
  | text s forest ih =>
    obtain ⟨-, hforest⟩ := (sound_cons ..).mp h
    exact ih hforest more controls hmore
  | interpolation code forest ih =>
    obtain ⟨-, hforest⟩ := (sound_cons ..).mp h
    exact ih hforest more controls hmore
  | tag name attrs closed kids forest ihk ih =>
    obtain ⟨htag, hforest⟩ := (sound_cons ..).mp h
    have hrest := ih hforest more controls hmore
    rw [attributes_cons, List.filter_append, List.append_assoc, forestPieces, List.append_assoc]
    cases closed with
    | true =>
      have hattrs := (sound_closed ..).mp htag
      rw [attributes_closed, pieces, List.cons_append, List.append_assoc]
      exact Attr.leads_flatMap_pieces hattrs hrest
    | false =>
      obtain ⟨hattrs, hkids⟩ := (sound_open ..).mp htag
      rw [attributes_open, List.filter_append, List.append_assoc, pieces, List.cons_append,
        List.append_assoc, List.cons_append, List.append_assoc]
      exact Attr.leads_flatMap_pieces hattrs (ihk hkids _ _ hrest)
  | fault f forest ih => exact absurd ((sound_cons ..).mp h).1 (not_sound_fault f)

/-! ## Rules do not look at the mark -/

/-- Options that make the same of every expression and of every site lower all nodes alike. -/
theorem lowerNodes_congr (o o' : Options) (hser : o'.serialize = o.serialize)
    (hlower : ∀ (s : Site) (kids : List Markup), s.lower o' kids = s.lower o kids)
    (nodes : List Node) : lowerNodes o' nodes = lowerNodes o nodes := by
  refine lowerNodes_induction o (P := fun nodes forest => lowerNodes o' nodes = forest)
    ?nil ?append ?text ?interpolation ?refused ?group ?element nodes
  case nil => exact lowerNodes_nil o'
  case append =>
    rintro xs ys f g rfl rfl
    exact lowerNodes_append o' xs ys
  case text =>
    intro s
    rw [lowerNodes_text, lowerNodes_nil]
  case interpolation =>
    intro exp code hexp
    rw [lowerNodes, lowerNode, hser, hexp, lowerNodes_nil]
    rfl
  case refused =>
    intro exp e hexp
    rw [lowerNodes, lowerNode, hser, hexp, lowerNodes_nil]
    rfl
  case group =>
    rintro branches f rfl
    rw [lowerNodes_group, lowerNodes_nil, List.append_nil]
    induction branches with
    | nil => rw [List.flatMap_nil, List.map_nil, lowerNodes_nil]
    | cons e rest ih => rw [List.flatMap_cons, List.map_cons, lowerNodes_element, ih]
  case element =>
    intro e ih
    rw [lowerNodes_element, lowerNodes_nil, List.append_nil, lowerElement_eq, ih, hlower]

/-- The mark, the name of the file and the scope do not reach the forest. -/
theorem lowerNodes_relabel (o : Options) (mark fileName : String) (scopeId : Option String)
    (nodes : List Node) :
    lowerNodes { o with mark, fileName, scopeId } nodes = lowerNodes o nodes :=
  lowerNodes_congr o { o with mark, fileName, scopeId } rfl (fun _ _ => rfl) nodes

/-- A template is compiled by filling the gaps of its forest with the mark. -/
theorem compile_eq_fill (o : Options) (t : Template) :
    compile o t =
      Written.result
        ⟨(Piece.gapped (forestPieces (lowerNodes o t.nodes))).fill o.mark,
          (faults (lowerNodes o t.nodes)).head?⟩ := by
  rw [compile, Options.writeMarkup, Piece.write_eq_fill, filterMap_fault?_forestPieces,
    String.empty_append]

/-- **One text for all dialects.** Under all marks a template has the same fault, or there is one
text with gaps such that every mark gives the text with this mark in all the gaps. The gaps belong,
one by one and in their order, to the control attributes of the forest that is written, each of
which stands right behind its gap. The name of the file and the scope make no difference. -/
theorem compile_fills_gaps (o : Options) (t : Template) :
    ((∃ f, ∀ mark, compile { o with mark } t = .error f) ∨
      ∃ first rest,
        (∀ mark, compile { o with mark } t = .ok (String.intercalate mark (first :: rest))) ∧
        (∀ mark, renderForest mark (lowerNodes o t.nodes) =
          String.intercalate mark (first :: rest)) ∧
        rest.length = ((attributes (lowerNodes o t.nodes)).filter Attr.isControl).length ∧
        List.Forall₂ Attr.Leads ((attributes (lowerNodes o t.nodes)).filter Attr.isControl)
          rest) ∧
    ∀ fileName scopeId, compile { o with fileName, scopeId } t = compile o t := by
  have hforest (mark : String) :
      lowerNodes { o with mark } t.nodes = lowerNodes o t.nodes :=
    lowerNodes_relabel o mark o.fileName o.scopeId t.nodes
  constructor
  · cases hfault : (faults (lowerNodes o t.nodes)).head? with
    | some f =>
      left
      refine ⟨f, fun mark => ?_⟩
      rw [compile_eq_fill, hforest, hfault]
      rfl
    | none =>
      right
      have hsound : Sound (lowerNodes o t.nodes) := by
        rw [← faults_eq_nil_iff]
        exact List.head?_eq_none_iff.mp hfault
      have hcompile (mark : String) : compile { o with mark } t =
          .ok ((Piece.gapped (forestPieces (lowerNodes o t.nodes))).fill mark) := by
        rw [compile_eq_fill, hforest, hfault]
        rfl
      have hleads := leads_forestPieces (lowerNodes o t.nodes) hsound [] [] .nil
      rw [List.append_nil, List.append_nil] at hleads
      refine ⟨_, _, hcompile, fun mark => ?_, hleads.length_eq.symm, hleads⟩
      obtain ⟨-, htext⟩ := (compile_eq_ok_iff ..).mp (hcompile mark)
      rw [hforest mark] at htext
      exact htext.symm
  · intro fileName scopeId
    rw [compile_eq_fill, compile_eq_fill]
    rw [show lowerNodes { o with fileName, scopeId } t.nodes = lowerNodes o t.nodes from
      lowerNodes_relabel o o.mark fileName scopeId t.nodes]

end MiniTemplate
