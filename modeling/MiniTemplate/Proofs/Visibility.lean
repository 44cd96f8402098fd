import MiniTemplate.Proofs.Assembly

/-!
# What is seen of a forest

Under a valuation of the conditions, siblings are gone through from left to right. A tag with `if`
opens a chain and is shown if its condition holds; one with `elif` or `else` belongs to the chain
before it and is shown only if that chain has shown nothing so far. Anything else ends the chain.
Tags that are not shown are gone, those that are shown lose their condition, and a `block` without
attributes is nothing but what is seen of its kids.

`visibleForest r shown forest` is what is seen of the forest when `shown` says whether the chain
that the forest may continue has shown a tag. The state after a forest is `chainAfter`, so that both
go together over an append (`visibleForest_append`).
-/

namespace MiniTemplate

/-- A tag with this place in a chain is shown, where `shown` says whether the chain has shown a tag
before. -/
def Branch.holds (r : String → Bool) (shown : Bool) : Branch → Bool
  | .when c => r c
  | .elseWhen c => !shown && r c
  | .otherwise => !shown

/-- The chain has shown a tag, up to and with the one at this place. -/
def Branch.after (r : String → Bool) (shown : Bool) : Branch → Bool
  | .when c => r c
  | .elseWhen c => shown || r c
  | .otherwise => true

namespace Attr

def branch? : Attr → Option Branch
  | .branch b => some b
  | _ => none

def condition? (attrs : List Attr) : Option Branch := attrs.findSome? branch?

def unconditional (attrs : List Attr) : List Attr := attrs.filter (·.branch?.isNone)

def shows (r : String → Bool) (shown : Bool) (attrs : List Attr) : Bool :=
  (condition? attrs).all (Branch.holds r shown)

end Attr

namespace Markup

/-- The state of the chain after a node: only a tag under a condition leaves a chain behind. -/
def after (r : String → Bool) (shown : Bool) : Markup → Bool
  | tag _ attrs _ _ => (Attr.condition? attrs).any (Branch.after r shown)
  | _ => false

def chainAfter (r : String → Bool) (shown : Bool) (forest : List Markup) : Bool :=
  forest.foldl (after r) shown

/-- A tag as it is seen: a block without attributes is only what it holds. -/
def ungroup (name : String) (attrs : List Attr) (closed : Bool) (kids : List Markup) :
    List Markup :=
  if name = "block" ∧ attrs = [] then kids else [tag name attrs closed kids]

mutual

def visible (r : String → Bool) (shown : Bool) : Markup → List Markup
  | text s => [text s]
  | interpolation code => [interpolation code]
  | tag name attrs closed kids =>
    if Attr.shows r shown attrs then
      ungroup name (Attr.unconditional attrs) closed
        (if closed then [] else visibleForest r false kids)
    else
      []
  | fault f => [fault f]

def visibleForest (r : String → Bool) (shown : Bool) : List Markup → List Markup
  | [] => []
  | m :: rest => visible r shown m ++ visibleForest r (after r shown m) rest

end

variable {r : String → Bool}

@[simp] theorem visibleForest_nil (shown : Bool) : visibleForest r shown [] = [] := rfl

theorem visibleForest_cons (shown : Bool) (m : Markup) (rest : List Markup) :
    visibleForest r shown (m :: rest) =
      visible r shown m ++ visibleForest r (after r shown m) rest := rfl

@[simp] theorem visibleForest_singleton (shown : Bool) (m : Markup) :
    visibleForest r shown [m] = visible r shown m := by
  rw [visibleForest_cons, visibleForest_nil, List.append_nil]

@[simp] theorem chainAfter_singleton (shown : Bool) (m : Markup) :
    chainAfter r shown [m] = after r shown m := rfl

/-- What is seen of a forest depends on what the chain before it has shown. -/
theorem visibleForest_append (shown : Bool) (f g : List Markup) :
    visibleForest r shown (f ++ g) =
      visibleForest r shown f ++ visibleForest r (chainAfter r shown f) g := by
  induction f generalizing shown with
  | nil => rfl
  | cons m rest ih =>
    rw [List.cons_append, visibleForest_cons, visibleForest_cons, ih, List.append_assoc]
    rfl

theorem chainAfter_append (shown : Bool) (f g : List Markup) :
    chainAfter r shown (f ++ g) = chainAfter r (chainAfter r shown f) g :=
  List.foldl_append

/-! ## Blocks and own tags -/

/-- A block is seen as what it holds, if its condition lets it. -/
theorem visible_block (shown : Bool) (b : Branch) (kids : List Markup) :
    visible r shown (block b kids) =
      if b.holds r shown then visibleForest r false kids else [] := by
  simp [block, visible, Attr.shows, Attr.condition?, Attr.branch?, Attr.unconditional, ungroup]

theorem after_block (shown : Bool) (b : Branch) (kids : List Markup) :
    after r shown (block b kids) = b.after r shown := by
  simp [block, after, Attr.condition?, Attr.branch?]

end Markup

namespace Attr

/-- A list of attributes without a condition. -/
theorem condition?_eq_none {attrs : List Attr} (h : ∀ b, .branch b ∉ attrs) :
    condition? attrs = none := by
  rw [condition?, List.findSome?_eq_none_iff]
  intro a ha
  cases a with
  | branch b => exact absurd ha (h b)
  | _ => rfl

theorem unconditional_eq_self {attrs : List Attr} (h : ∀ b, .branch b ∉ attrs) :
    unconditional attrs = attrs := by
  rw [unconditional, List.filter_eq_self]
  intro a ha
  cases a with
  | branch b => exact absurd ha (h b)
  | _ => rfl

end Attr

namespace Options

open Markup

variable {r : String → Bool}

/-- What is seen of an element's own tag when it is shown. -/
def seenTag (o : Options) (r : String → Bool) (h : Head) (kids : List Markup) : List Markup :=
  ungroup (o.tagName h) (o.ownAttrs h) h.selfClosing
    (if h.selfClosing then [] else visibleForest r false kids)

theorem visible_ownTag (o : Options) (h : Head) (shown : Bool) (kids : List Markup) :
    visible r shown (o.ownTag h [] kids) = o.seenTag r h kids := by
  have hnone := o.branch_not_mem_ownAttrs h
  cases hsc : h.selfClosing <;>
    simp [ownTag, seenTag, visible, Attr.shows, Attr.condition?_eq_none hnone,
      Attr.unconditional_eq_self hnone, hsc]

theorem after_ownTag (o : Options) (h : Head) (shown : Bool) (kids : List Markup) :
    after r shown (o.ownTag h [] kids) = false := by
  simp [ownTag, after, Attr.condition?_eq_none (o.branch_not_mem_ownAttrs h)]

/-- A tag under a condition is seen if the condition holds at its place in the chain. -/
theorem visible_ownTag_branch (o : Options) (h : Head) (b : Branch) (shown : Bool)
    (kids : List Markup) :
    visible r shown (o.ownTag h [.branch b] kids) =
      if b.holds r shown then o.seenTag r h kids else [] := by
  have huncond : Attr.unconditional (.branch b :: o.ownAttrs h) = o.ownAttrs h :=
    Attr.unconditional_eq_self (o.branch_not_mem_ownAttrs h)
  have hcond : Attr.condition? (.branch b :: o.ownAttrs h) = some b := rfl
  cases hsc : h.selfClosing <;>
    simp [ownTag, seenTag, visible, Attr.shows, hcond, huncond, hsc]

theorem after_ownTag_branch (o : Options) (h : Head) (b : Branch) (shown : Bool)
    (kids : List Markup) : after r shown (o.ownTag h [.branch b] kids) = b.after r shown := rfl

/-- An element under a condition is seen as its tag, if the condition lets it. Whether the condition
is on the tag or on a block around it makes no difference. -/
theorem visible_assemble_of_branch (o : Options) {h : Head} {b : Branch} (hb : h.branch = some b)
    (shown : Bool) (kids : List Markup) :
    visibleForest r shown (o.assemble h kids) =
      if b.holds r shown then o.seenTag r h kids else [] := by
  cases hl : h.loop with
  | none =>
    rw [o.assemble_of_loop_eq_none hb hl, visibleForest_singleton, visible_ownTag_branch]
  | some l =>
    -- the block bears the condition and is gone once it is shown
    rw [o.assemble_of_loop_eq_some hb hl, visibleForest_singleton, visible_block,
      visibleForest_singleton, visible_ownTag]

/-- An element leaves the chain as its condition does, wherever the condition is written. -/
theorem chainAfter_assemble_of_branch (o : Options) {h : Head} {b : Branch}
    (hb : h.branch = some b) (shown : Bool) (kids : List Markup) :
    chainAfter r shown (o.assemble h kids) = b.after r shown := by
  cases hl : h.loop with
  | none =>
    rw [o.assemble_of_loop_eq_none hb hl, chainAfter_singleton, after_ownTag_branch]
  | some l =>
    rw [o.assemble_of_loop_eq_some hb hl, chainAfter_singleton, after_block]

/-- An element without a condition is seen as its tag and ends a chain, or is only its kids. -/
theorem visible_assemble_of_none (o : Options) {h : Head} (ht : h.isTransparent = false)
    (hb : h.branch = none) (shown : Bool) (kids : List Markup) :
    visibleForest r shown (o.assemble h kids) = o.seenTag r h kids := by
  rw [o.assemble_of_branch_eq_none ht hb, visibleForest_singleton, visible_ownTag]

theorem chainAfter_assemble_of_none (o : Options) {h : Head} (ht : h.isTransparent = false)
    (hb : h.branch = none) (shown : Bool) (kids : List Markup) :
    chainAfter r shown (o.assemble h kids) = false := by
  rw [o.assemble_of_branch_eq_none ht hb, chainAfter_singleton, after_ownTag]

end Options

end MiniTemplate
