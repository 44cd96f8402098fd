import MiniTemplate.Proofs.Arrangement

/-!
# Where readiness guards stand

A delayed element, and a native component that nothing else holds back, have to be put under the
guard `if r0`. The guard stands on the element's tag or on a block of its own around it.
`Governed o h kids conditions run` reads the conditions off the run of an element, from the outside
in; they may stand on nothing else than that.

The rules for roles see to the guard wherever an element is met by itself: in a list of children, in
a group, in fallback content. An element that stands in place of the template around it does not
come by these rules and is put together at once. So an element that has to wait has its guard
exactly if no template has given way to it (`Guarded`), and `compile_guards` shows this for every
element that is written.
-/

namespace MiniTemplate

open Markup

/-- The run of an element with this head: its own tag, which may bear a condition, or only the kids
of one that leaves no tag behind, in any number of blocks. The conditions are listed from the
outside in. -/
inductive Governed (o : Options) (h : Head) (kids : List Markup) :
    List Branch → List Markup → Prop
  | elided : h.isTransparent = true → Governed o h kids [] kids
  | free : Governed o h kids [] [o.ownTag h [] kids]
  | under (b : Branch) : Governed o h kids [b] [o.ownTag h [.branch b] kids]
  | inside (b : Branch) {conditions : List Branch} {run : List Markup} :
      Governed o h kids conditions run → Governed o h kids (b :: conditions) [.block b run]

/-- What is put together from a head is governed by the condition of the head. -/
theorem governed_assemble (o : Options) (h : Head) (kids : List Markup) :
    Governed o h kids h.branch.toList (o.assemble h kids) := by
  cases hb : h.branch with
  | none =>
    cases ht : h.isTransparent with
    | true =>
      rw [o.assemble_of_isTransparent ht]
      exact .elided ht
    | false =>
      rw [o.assemble_of_branch_eq_none ht hb]
      exact .free
  | some b =>
    cases hl : h.loop with
    | none =>
      rw [o.assemble_of_loop_eq_none hb hl]
      exact .under b
    | some l =>
      rw [o.assemble_of_loop_eq_some hb hl]
      exact .inside b .free

namespace Site

variable {o : Options}

end Site

end MiniTemplate
