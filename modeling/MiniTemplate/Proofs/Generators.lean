import MiniTemplate.Compile
import MiniTemplate.Generator

/-!
# Generating and lowering

Compiling goes through markup: a template is lowered to a forest, and the forest is written. A
generator does both at once. Here the two are shown to be the same, part by part:

    pushNode o n = o.pushForest (lowerNode o n)

where `pushForest` writes the pieces of a forest. Both sides are generators, so that they agree on
every buffer, on the fault that they stop with and on what is left on the buffer then. For each rule
of lowering one lemma says that the generator follows it; `pushNodes_eq` puts them together along
the recursion over a template.
-/

namespace MiniTemplate

namespace Generator

/-- Nothing is generated behind a fault. -/
@[simp] theorem throw_bind {α β : Type} (f : Fault) (next : α → Generator β) :
    (throw f : Generator α) >>= next = throw f :=
  rfl

theorem push_append (s t : String) : push (s ++ t) = push s >>= fun _ => push t := by
  funext code
  exact congrArg (Prod.mk _) String.append_assoc.symm

end Generator

open Generator

/-! ## Pieces -/

/-- Pieces from left to right, up to the first fault. -/
def Piece.push (mark : String) : List Piece → Generator Unit
  | [] => pure ()
  | .text s :: rest => do
    Generator.push s
    push mark rest
  | .mark :: rest => do
    Generator.push mark
    push mark rest
  | .fault f :: _ => throw f

namespace Piece

theorem push_append (mark : String) (pieces others : List Piece) :
    push mark (pieces ++ others) = push mark pieces >>= fun _ => push mark others := by
  induction pieces with
  | nil => rfl
  | cons p rest ih =>
    cases p with
    | text s => simp only [List.cons_append, push, ih, bind_assoc]
    | mark => simp only [List.cons_append, push, ih, bind_assoc]
    | fault f => rfl

/-- Pieces leave on the buffer what they are written as. -/
theorem write_push (mark code : String) (pieces : List Piece) :
    (push mark pieces).write code = write mark code pieces := by
  induction pieces generalizing code with
  | nil => rfl
  | cons p rest ih =>
    cases p with
    | text s => exact ih (code ++ s)
    | mark => exact ih (code ++ mark)
    | fault f => rfl

end Piece

theorem Markup.forestPieces_append (f g : List Markup) :
    forestPieces (f ++ g) = forestPieces f ++ forestPieces g := by
  induction f with
  | nil => rfl
  | cons m rest ih => rw [List.cons_append, forestPieces, forestPieces, ih, List.append_assoc]

namespace Options

def pushAttrs (o : Options) (attrs : List Attr) : Generator Unit :=
  Piece.push o.mark (attrs.flatMap Attr.pieces)

def pushForest (o : Options) (forest : List Markup) : Generator Unit :=
  Piece.push o.mark (Markup.forestPieces forest)

variable (o : Options)

/-- Pushing a forest writes it. -/
theorem write_pushForest (forest : List Markup) (code : String) :
    (o.pushForest forest).write code = o.writeMarkup code forest :=
  Piece.write_push ..

/-! ## Attributes -/

@[simp] theorem pushAttrs_nil : o.pushAttrs [] = pure () := rfl

theorem pushAttrs_append (attrs others : List Attr) :
    o.pushAttrs (attrs ++ others) = o.pushAttrs attrs >>= fun _ => o.pushAttrs others := by
  rw [pushAttrs, List.flatMap_append, Piece.push_append]
  rfl

theorem pushAttrs_cons (a : Attr) (attrs : List Attr) :
    o.pushAttrs (a :: attrs) = o.pushAttrs [a] >>= fun _ => o.pushAttrs attrs :=
  o.pushAttrs_append [a] attrs

@[simp] theorem pushAttrs_assign (name value : String) :
    o.pushAttrs [.assign name value] = pushAssign name value :=
  bind_pure_unit

@[simp] theorem pushAttrs_bare (name : String) : o.pushAttrs [.bare name] = push (" " ++ name) :=
  bind_pure_unit

@[simp] theorem pushAttrs_fault (f : Fault) : o.pushAttrs [.fault f] = throw f := rfl

/-- A control attribute is written in three pieces and generated as one. -/
theorem push_control (rest : String) :
    push (" " ++ o.mark ++ rest) = Piece.push o.mark [.text " ", .mark, .text rest] := by
  simp only [Piece.push, bind_pure_unit, Generator.push_append, bind_assoc]

theorem pushAssign_control (name value : String) :
    pushAssign (o.mark ++ name) value =
      Piece.push o.mark [.text " ", .mark, .text (name ++ "=" ++ quoted value)] := by
  rw [← push_control, pushAssign]
  simp only [String.append_assoc]

@[simp] theorem pushAttrs_loop (part : LoopPart) (value : String) :
    o.pushAttrs [.loop part value] = o.pushLoopPart part value :=
  (o.pushAssign_control ..).symm

@[simp] theorem pushAttrs_branch (b : Branch) : o.pushAttrs [.branch b] = o.pushBranch b := by
  cases b with
  | «when» c => exact (o.pushAssign_control "if" (mustache c)).symm
  | elseWhen c => exact (o.pushAssign_control "elif" (mustache c)).symm
  | otherwise => exact (o.push_control "else").symm

theorem pushLoop_eq (l : Loop) : o.pushLoop l = o.pushAttrs l.attrs := by
  unfold pushLoop Loop.attrs
  rw [pushAttrs_cons, pushAttrs_loop]
  cases l.item with
  | none => rfl
  | some item =>
    dsimp only
    rw [pushAttrs_cons, pushAttrs_loop]
    split
    · rw [pushAttrs_loop]
    · rfl

/-- What is made from the text of an expression is generated once the text is there. -/
theorem textOf_bind (exp : Expression) (attrs : String → List Attr) :
    (o.textOf exp >>= fun text => o.pushAttrs (attrs text)) =
      o.pushAttrs (o.withText exp attrs) := by
  unfold textOf withText
  cases o.serialize exp <;> rfl

/-- The repetition is generated, and the properties that are left come back, unless its key has no
text. -/
theorem pushRepetition_eq (h : Head) :
    o.pushRepetition h = o.pushAttrs (o.repetition h).attrs >>= fun _ =>
      pure (o.repetition h).props := by
  unfold pushRepetition repetition
  cases h.loop with
  | none => rfl
  | some l =>
    dsimp only
    rw [pushLoop_eq]
    rcases takeBound "key" h.props with _ | ⟨exp, others⟩
    · rfl
    · dsimp only
      unfold textOf
      cases o.serialize exp with
      | ok key => simp only [pushAttrs_append, pushAttrs_loop, pure_bind, bind_assoc]
      | error e => simp only [pushAttrs_append, pushAttrs_fault, throw_bind, bind_assoc]

theorem pushHostNames_eq (virtualHost : Bool) (name value : String) :
    pushHostNames virtualHost name value =
      o.pushAttrs ((hostNames virtualHost name).map (.assign · value)) := by
  unfold pushHostNames
  induction hostNames virtualHost name with
  | nil => rfl
  | cons host rest ih =>
    rw [List.forM_cons, List.map_cons, pushAttrs_cons, pushAttrs_assign, ih]

theorem pushEvent_eq (owner : Head) (d : Directive) :
    o.pushEvent owner d = o.pushAttrs (o.eventAttrs owner d) := by
  unfold pushEvent eventAttrs
  cases d.argContent? with
  | none => rfl
  | some event =>
    cases d.exp with
    | none => rfl
    | some exp => simp only [← textOf_bind, pushAttrs_assign]

theorem pushSlot_eq (d : Directive) : o.pushSlot d = o.pushAttrs (o.slotAttrs d) := by
  unfold pushSlot slotAttrs
  cases d.arg with
  | none => rfl
  | some arg =>
    dsimp only
    rw [← textOf_bind]
    congr 1
    funext name
    split
    · split
      · rfl
      · rw [pushAttrs_assign]
    · rw [pushAttrs_assign]

theorem pushShow_eq (owner : Head) (d : Directive) :
    o.pushShow owner d = o.pushAttrs (o.showAttrs owner d) := by
  unfold pushShow showAttrs
  cases d.exp with
  | none => rfl
  | some exp => simp only [← textOf_bind, pushAttrs_assign]

theorem pushBind_eq (owner : Head) (virtualHost : Bool) (d : Directive) :
    o.pushBind owner virtualHost d = o.pushAttrs (o.bindAttrs owner virtualHost d) := by
  have hlacking : (if d.name = "bind" then pure ()
      else throw (.unknownDirective d.describe owner.tag) : Generator Unit) =
      o.pushAttrs (if d.name = "bind" then []
        else [.fault (.unknownDirective d.describe owner.tag)]) := by
    split <;> rfl
  unfold pushBind bindAttrs
  rcases d.arg with _ | arg
  · exact hlacking
  · rcases d.exp with _ | exp
    · exact hlacking
    · simp only [← textOf_bind, ← pushHostNames_eq]

theorem pushDirective_eq (owner : Head) (virtualHost : Bool) (d : Directive) :
    o.pushDirective owner virtualHost d = o.pushAttrs (o.directiveAttrs owner virtualHost d) := by
  unfold pushDirective directiveAttrs
  rw [pushEvent_eq, pushSlot_eq, pushShow_eq, pushBind_eq]
  split
  · rfl
  · split
    · rfl
    · split <;> rfl

theorem pushProperty_eq (owner : Head) (virtualHost : Bool) (p : Property) :
    o.pushProperty owner virtualHost p = o.pushAttrs (o.propertyAttrs owner virtualHost p) := by
  rcases p with ⟨name, _ | value⟩ | d
  · exact (o.pushAttrs_bare name).symm
  · exact o.pushHostNames_eq ..
  · exact o.pushDirective_eq ..

theorem pushProperties_eq (owner : Head) (virtualHost : Bool) (props : List Property) :
    o.pushProperties owner virtualHost props =
      o.pushAttrs (o.propertiesAttrs owner virtualHost props) := by
  unfold pushProperties propertiesAttrs
  induction props with
  | nil => rfl
  | cons p rest ih =>
    rw [List.forM_cons, List.flatMap_cons, pushAttrs_append, pushProperty_eq, ih]

/-! ## Elements -/

@[simp] theorem pushForest_nil : o.pushForest [] = pure () := rfl

theorem pushForest_append (f g : List Markup) :
    o.pushForest (f ++ g) = o.pushForest f >>= fun _ => o.pushForest g := by
  rw [pushForest, Markup.forestPieces_append, Piece.push_append]
  rfl

/-- A tag is generated in the order that it is written in. -/
theorem pushForest_tag (name : String) (attrs : List Attr) (closed : Bool) (kids : List Markup) :
    o.pushForest [.tag name attrs closed kids] = (do
      push ("<" ++ name)
      o.pushAttrs attrs
      if closed then push "/>"
      else
        push ">"
        o.pushForest kids
        push ("</" ++ name ++ ">")) := by
  cases closed <;>
    simp [pushForest, pushAttrs, Markup.forestPieces, Markup.pieces, Piece.push, Piece.push_append]

theorem pushForest_block (b : Branch) (kids : List Markup) :
    o.pushForest [.block b kids] = o.pushBlock b (o.pushForest kids) := by
  rw [Markup.block, pushForest_tag, pushAttrs_branch]
  rfl

/-- The tag of an element, with its condition in front of its own attributes. -/
theorem pushTag_eq (h : Head) (branch : Option Branch) (kids : List Markup) :
    o.pushTag h branch (o.pushForest kids) =
      o.pushForest [.tag (o.tagName h) (branch.toList.map .branch ++ o.ownAttrs h) h.selfClosing
        (if h.selfClosing then [] else kids)] := by
  have hbranch : branch.forM o.pushBranch = o.pushAttrs (branch.toList.map .branch) := by
    cases branch with
    | none => rfl
    | some b => exact (o.pushAttrs_branch b).symm
  rw [pushForest_tag, pushTag, hbranch, pushRepetition_eq, ownAttrs]
  simp only [pushAttrs_append, pushProperties_eq, bind_assoc, pure_bind]
  cases h.selfClosing <;> rfl

/-- An element is generated as it is assembled, if what it holds is generated as its markup. -/
theorem pushAssembled_eq (h : Head) (kids : List Markup) :
    o.pushAssembled h (o.pushForest kids) = o.pushForest (o.assemble h kids) := by
  unfold pushAssembled assemble
  split
  · rfl
  · rcases h.branch with _ | b
    · exact o.pushTag_eq h none kids
    · rcases h.loop with _ | l
      · exact o.pushTag_eq h (some b) kids
      · dsimp only
        rw [pushForest_block, pushTag_eq]
        rfl

/-- An outlet is pushed as it is lowered, also where its fallback content goes beside it. -/
theorem pushOutlet_eq (h : Head) (hasFallback : Bool) (kids : List Markup) :
    o.pushOutlet h hasFallback (o.pushForest kids) =
      o.pushForest (o.lowerOutlet h hasFallback kids) := by
  unfold pushOutlet lowerOutlet
  split
  · exact o.pushAssembled_eq ..
  · -- the outlet itself holds nothing here: its children are the fallback content beside it
    have hshown := o.pushAssembled_eq (h.outlet.withBranch none) []
    have hchoice := o.pushForest_append
      [.block (.when ("$slots." ++ h.outlet.outletName))
        (o.assemble (h.outlet.withBranch none) [])] [.block .otherwise kids]
    rw [pushForest_block, pushForest_block, ← hshown] at hchoice
    rcases h.branch with _ | b
    · exact hchoice.symm
    · dsimp only
      rw [pushForest_block]
      exact congrArg (o.pushBlock b) hchoice.symm

/-- A component is pushed as it is lowered. Where the expression that it waits for has no text,
neither writes anything. -/
theorem pushComponent_eq (h : Head) (kids : List Markup) :
    o.pushComponent h (o.pushForest kids) = o.pushForest (o.lowerComponent h kids) := by
  unfold pushComponent lowerComponent
  split
  · exact o.pushAssembled_eq ..
  · split
    · exact o.pushAssembled_eq ..
    · rcases h.bound? "u-p" with _ | exp
      · exact o.pushAssembled_eq ..
      · dsimp only
        unfold textOf
        cases o.serialize exp with
        | ok condition => exact o.pushAssembled_eq ..
        | error e => rfl

theorem pushDelayed_eq (h : Head) (kids : List Markup) :
    o.pushDelayed h (o.pushForest kids) = o.pushForest (o.lowerDelayed h kids) := by
  unfold pushDelayed lowerDelayed
  rcases h.branch with _ | _ | _ | _ <;> simp only [pushForest_block, pushAssembled_eq]

end Options

/-! ## Nodes -/

mutual

/-- A node is generated by pushing its markup. The proof is one induction over nodes, elements and
their lists, in the shape of the recursion that they share. -/
theorem pushNode_eq (o : Options) : ∀ n : Node, pushNode o n = o.pushForest (lowerNode o n)
  | .element e => by rw [pushNode, lowerNode, pushElement_eq o e]
  | .group branches => by rw [pushNode, lowerNode, pushElements_eq o branches]
  | .text s => by
    rw [pushNode, lowerNode]
    exact bind_pure_unit.symm
  | .interpolation exp => by
    rw [pushNode, lowerNode, Options.textOf]
    cases o.serialize exp with
    | ok code => exact bind_pure_unit.symm
    | error e => rfl

theorem pushElement_eq (o : Options) :
    ∀ e : Element, pushElement o e = o.pushForest (lowerElement o e)
  | ⟨h, children⟩ => by
    have hkids := pushNodes_eq o children
    have hgrand := pushGrandchildren_eq o children
    rw [pushElement, lowerElement]
    cases h.role with
    | slotOutlet => rw [hkids, o.pushOutlet_eq]
    | component => rw [hkids, o.pushComponent_eq]
    | template =>
      cases h.spliced? children with
      | some child => dsimp only; rw [hgrand, o.pushAssembled_eq]
      | none => dsimp only; rw [hkids, o.pushAssembled_eq]
    | plain =>
      dsimp only
      rw [hkids, o.pushDelayed_eq, o.pushAssembled_eq]
      split <;> rfl

theorem pushGrandchildren_eq (o : Options) :
    ∀ nodes : List Node, pushGrandchildren o nodes = o.pushForest (lowerGrandchildren o nodes)
  | [] => rfl
  | .element ⟨_, children⟩ :: [] => pushNodes_eq o children
  | .element ⟨_, _⟩ :: _ :: _ => rfl
  | .group _ :: _ => rfl
  | .text _ :: _ => rfl
  | .interpolation _ :: _ => rfl

theorem pushNodes_eq (o : Options) :
    ∀ nodes : List Node, pushNodes o nodes = o.pushForest (lowerNodes o nodes)
  | [] => by
    rw [pushNodes, lowerNodes]
    rfl
  | n :: rest => by
    rw [pushNodes, lowerNodes, o.pushForest_append, pushNode_eq o n, pushNodes_eq o rest]

theorem pushElements_eq (o : Options) :
    ∀ branches : List Element, pushElements o branches = o.pushForest (lowerElements o branches)
  | [] => by
    rw [pushElements, lowerElements]
    rfl
  | e :: rest => by
    rw [pushElements, lowerElements, o.pushForest_append, pushElement_eq o e,
      pushElements_eq o rest]

end

end MiniTemplate
