import MiniTemplate.Lowering.Element

/-!
# Compiling a template

A template is compiled by lowering it to markup and writing the markup. The result is the whole
text, or the first fault in the order of writing.
-/

namespace MiniTemplate

/-- The text, if nothing stopped the writing. -/
def Written.result (w : Written) : Except Fault String :=
  match w.fault with
  | none => .ok w.code
  | some f => .error f

namespace Options

def writeAttrs (o : Options) (code : String) (attrs : List Attr) : Written :=
  Piece.write o.mark code (attrs.flatMap Attr.pieces)

def writeMarkup (o : Options) (code : String) (forest : List Markup) : Written :=
  Piece.write o.mark code (Markup.forestPieces forest)

end Options

/-- The markup text of a template, or its first fault. -/
def compile (o : Options) (t : Template) : Except Fault String :=
  (o.writeMarkup "" (lowerNodes o t.nodes)).result

end MiniTemplate
