import MiniTemplate.Proofs.Generators

/-!
# Writing on one buffer

Everything is written at the end of one text, and nothing that is written looks at what stands there
already. A fault ends only the part that it was found in: what this part has written so far stays,
and the next part goes on behind it.

A generator *appends* if the text that it adds and the result that it comes to are the same on every
buffer. Pieces do, one after the other, and so does all that is generated as pieces: every emission
(`Emission.appends_generator`) and, step by step, any sequence of emissions on one buffer. Compiling
is the special case where the nodes of a template are generated on an empty buffer up to the first
fault (`compile_eq_write`), so that templates side by side compile to their texts side by side.
-/

namespace MiniTemplate

namespace Generator

/-- What the generator adds to the buffer, also where it stops with a fault, and what it comes to do
not depend on the buffer. -/
def Appends {α : Type} (g : Generator α) : Prop :=
  ∃ result text, ∀ code, g.run.run code = (result, code ++ text)

theorem appends_pure {α : Type} (a : α) : Appends (pure a) :=
  ⟨.ok a, "", fun code => by rw [String.append_empty]; rfl⟩

theorem appends_throw {α : Type} (f : Fault) : Appends (throw f : Generator α) :=
  ⟨.error f, "", fun code => by rw [String.append_empty]; rfl⟩

theorem appends_push (s : String) : Appends (push s) := ⟨.ok (), s, fun _ => rfl⟩

/-- A generator that stops with a fault keeps those after it from writing. -/
theorem run_bind {α β : Type} (g : Generator α) (next : α → Generator β) (code : String) :
    (g >>= next).run.run code =
      match g.run.run code with
      | (.ok a, code) => (next a).run.run code
      | (.error f, code) => (.error f, code) := by
  show StateT.run (ExceptT.run (g >>= next)) code = _
  rw [ExceptT.run_bind, StateT.run_bind]
  rcases g.run.run code with ⟨_ | _, _⟩ <;> rfl

/-- Two generators append one after the other, and the first one alone if it stops. -/
theorem Appends.bind {α β : Type} {g : Generator α} {next : α → Generator β} (hg : g.Appends)
    (hnext : ∀ a, (next a).Appends) : (g >>= next).Appends := by
  obtain ⟨result, text, hrun⟩ := hg
  cases result with
  | error f => exact ⟨.error f, text, fun code => by rw [run_bind, hrun]⟩
  | ok a =>
    obtain ⟨result, more, hmore⟩ := hnext a
    refine ⟨result, text ++ more, fun code => ?_⟩
    rw [run_bind, hrun]
    dsimp only
    rw [hmore, String.append_assoc]

end Generator

open Generator

/-- Pieces do not look at what was written before them. -/
theorem Piece.appends_push (mark : String) (pieces : List Piece) : (push mark pieces).Appends := by
  induction pieces with
  | nil => exact appends_pure ()
  | cons p rest ih =>
    cases p with
    | text s => exact (Generator.appends_push s).bind fun _ => ih
    | mark => exact (Generator.appends_push mark).bind fun _ => ih
    | fault f => exact appends_throw f

/-! ## Emissions -/

namespace Emission

/-- What the part is lowered to, as it is written. -/
def pieces (o : Options) : Emission → List Piece
  | text s => [.text s]
  | when c => (Attr.branch (.when c)).pieces
  | elseWhen c => (Attr.branch (.elseWhen c)).pieces
  | otherwise => (Attr.branch .otherwise).pieces
  | branch b => (Attr.branch b).pieces
  | repetition h => (o.repetition h).attrs.flatMap Attr.pieces
  | properties h virtualHost => (o.propertiesAttrs h virtualHost h.props).flatMap Attr.pieces
  | element e => Markup.forestPieces (o.assemble e.toHead (lowerNodes o e.children))
  | node n => Markup.forestPieces (lowerNode o n)

/-- Every part is generated as what it is lowered to. -/
theorem generator_eq (o : Options) (e : Emission) :
    e.generator o = Piece.push o.mark (e.pieces o) := by
  have hbranch (b : Branch) : o.pushBranch b = Piece.push o.mark (Attr.branch b).pieces := by
    rw [← o.pushAttrs_branch, Options.pushAttrs, List.flatMap_singleton]
  cases e with
  | text s => exact bind_pure_unit.symm
  | «when» c => exact hbranch (.when c)
  | elseWhen c => exact hbranch (.elseWhen c)
  | otherwise => exact hbranch .otherwise
  | branch b => exact hbranch b
  | repetition h =>
    rw [generator, o.pushRepetition_eq, bind_assoc]
    exact bind_pure_unit
  | properties h virtualHost => exact o.pushProperties_eq ..
  | element e =>
    rw [generator, pushNodes_eq, o.pushAssembled_eq]
    rfl
  | node n => exact pushNode_eq o n

/-- Every part is generated by pushing pieces, which were chosen without the buffer. -/
theorem appends_generator (o : Options) (e : Emission) : (e.generator o).Appends := by
  rw [generator_eq]
  exact Piece.appends_push ..

/-- What a sequence of emissions adds, and what each of them comes to, is settled before it is known
what stands in front. -/
theorem generateAll_appends (o : Options) (emissions : List Emission) :
    ∃ results text, ∀ code, (generateAll o emissions).run code = (results, code ++ text) := by
  induction emissions with
  | nil => exact ⟨[], "", fun code => by rw [String.append_empty]; rfl⟩
  | cons e rest ih =>
    obtain ⟨result, text, hrun⟩ := e.appends_generator o
    obtain ⟨results, more, hmore⟩ := ih
    refine ⟨result :: results, text ++ more, fun code => ?_⟩
    rw [generateAll, StateT.run_bind, hrun]
    show StateT.run (generateAll o rest >>= _) _ = _
    rw [StateT.run_bind, hmore, String.append_assoc]
    rfl

end Emission

/-- The key of a repetition is taken from the properties in the same way on every buffer. -/
theorem Options.appends_pushRepetition (o : Options) (h : Head) : (o.pushRepetition h).Appends := by
  rw [pushRepetition_eq]
  exact (Piece.appends_push ..).bind fun _ => appends_pure _

/-! ## Templates side by side -/

/-- Generating nodes side by side is generating some of them and then the others. -/
theorem pushNodes_append (o : Options) (xs ys : List Node) :
    pushNodes o (xs ++ ys) = pushNodes o xs >>= fun _ => pushNodes o ys := by
  induction xs with
  | nil => rfl
  | cons n rest ih => rw [List.cons_append, pushNodes, pushNodes, ih, bind_assoc]

/-- A template is compiled by generating its nodes on an empty buffer, up to the first fault. -/
theorem compile_eq_write (o : Options) (t : Template) :
    compile o t = ((pushNodes o t.nodes).write "").result := by
  rw [pushNodes_eq, Options.write_pushForest]
  rfl

/-- Nodes side by side compile to their texts side by side; the first part at fault gives its fault
to the whole. -/
theorem compile_append (o : Options) (xs ys : List Node) :
    compile o ⟨xs ++ ys⟩ = do
      let a ← compile o ⟨xs⟩
      let c ← compile o ⟨ys⟩
      return a ++ c := by
  have happends (nodes : List Node) : (pushNodes o nodes).Appends := by
    rw [pushNodes_eq]
    exact Piece.appends_push ..
  obtain ⟨first, a, hxs⟩ := happends xs
  obtain ⟨second, c, hys⟩ := happends ys
  simp only [compile_eq_write, pushNodes_append, write, run_bind, hxs, hys]
  cases first with
  | error f => rfl
  | ok u =>
    cases second with
    | error f => rfl
    | ok v =>
      show Except.ok ("" ++ a ++ c) = Except.ok ("" ++ a ++ ("" ++ c))
      rw [String.empty_append, String.empty_append]

/-- **The buffer only grows.** Whatever is generated, a single part or any sequence of parts, adds a
text to the end of the buffer. Which text this is and where the generator is at fault does not
depend on the buffer, also where a fault leaves a part half written, and neither do the properties
that a repetition leaves. What is added is what the part is lowered to, and a template is compiled
by generating its nodes on an empty buffer. Of two lists of nodes side by side, the texts are put
side by side, unless one of them is at fault: then the first that is gives its fault to the whole.
-/
theorem buffer_only_grows (o : Options) :
    (∀ e : Emission, (e.generator o).Appends) ∧
    (∀ h : Head, (o.pushRepetition h).Appends) ∧
    (∀ emissions : List Emission, ∃ results text, ∀ code,
      (Emission.generateAll o emissions).run code = (results, code ++ text)) ∧
    (∀ (e : Emission) (code : String),
      (e.generator o).write code = Piece.write o.mark code (e.pieces o)) ∧
    (∀ t : Template, compile o t = ((pushNodes o t.nodes).write "").result) ∧
    ∀ xs ys : List Node, compile o ⟨xs ++ ys⟩ = do
      let a ← compile o ⟨xs⟩
      let c ← compile o ⟨ys⟩
      return a ++ c := by
  refine ⟨Emission.appends_generator o, o.appends_pushRepetition, Emission.generateAll_appends o,
    fun e code => ?_, compile_eq_write o, compile_append o⟩
  rw [e.generator_eq, Piece.write_push]

end MiniTemplate
