import Mathlib.Data.List.TakeWhile
import MiniTemplate.Proofs.Assembly

/-!
# The key of a repetition

A repeated element takes its key from its properties. The key is the first binding of `key`; it is
written as the last attribute of the repetition, without what stands in front of its first dot, and
it is not written again with the other properties:

    <view v-for="x in xs" class="row" :key="x.id">  ↦
      <view for="xs" for-item="x" key="id" class="row">

Much looks like a key and is none: an attribute `key`, a binding whose argument only happens to
read `key` at run time, a binding without an expression, a second key. All of these are left to the
other properties (`repetition_takes_first_key`). If the key has no text, then the properties are as
before, and the repetition has been written as far as the key.
-/

namespace MiniTemplate

/-- The property binds the expression to `key`. -/
def Property.BindsKey (exp : Expression) (p : Property) : Prop :=
  ∃ d : Directive, p = .directive d ∧ d.name = "bind" ∧ d.arg = some (.literal "key") ∧
    d.exp = some exp

/-- The second text is what stands behind the first dot of the first one, or all of it if there is
no dot. -/
inductive BehindFirstDot : String → String → Prop
  | whole {text : String} : '.' ∉ text.toList → BehindFirstDot text text
  | rest {front rest : String} : '.' ∉ front.toList → BehindFirstDot (front ++ "." ++ rest) rest

def controlText (mark name value : String) : String := " " ++ mark ++ name ++ "=" ++ quoted value

/-- A repetition as it is written, without its key. -/
def Loop.text (mark : String) (l : Loop) : String :=
  controlText mark "for" l.source ++
    (match l.item with
    | none => ""
    | some item => controlText mark "for-item" item) ++
    if l.item = some "index" then controlText mark "for-index" (l.index.getD "") else ""

/-! ## The text of a key -/

/-- The text of a key is cut at its first dot. -/
theorem behindFirstDot_keyText (text : String) : BehindFirstDot text (keyText text) := by
  have hfront : '.' ∉ text.toList.takeWhile (· != '.') := by
    intro hmem
    simpa using List.mem_takeWhile_imp hmem
  have hsplit := List.takeWhile_append_dropWhile (p := (· != '.')) (l := text.toList)
  unfold keyText
  split
  · next hdrop =>
    rw [hdrop, List.append_nil] at hsplit
    exact .whole (hsplit ▸ hfront)
  · next c rest hdrop =>
    -- the first character that stays is the dot
    have hdot : c = '.' := by
      have hhead := List.head_dropWhile_not (· != '.') (l := text.toList) (by simp [hdrop])
      simpa [hdrop] using hhead
    have htext : text =
        String.ofList (text.toList.takeWhile (· != '.')) ++ "." ++ String.ofList rest := by
      apply String.toList_injective
      rw [hdrop, hdot] at hsplit
      simp only [String.toList_append, String.toList_ofList, List.append_assoc]
      exact hsplit.symm
    have hbehind : BehindFirstDot
        (String.ofList (text.toList.takeWhile (· != '.')) ++ "." ++ String.ofList rest)
        (String.ofList rest) :=
      .rest (by rwa [String.toList_ofList])
    rwa [← htext] at hbehind

/-! ## The first key -/

theorem Property.bound?_key_iff (p : Property) (exp : Expression) :
    p.bound? "key" = some exp ↔ p.BindsKey exp := by
  match p with
  | .attribute a => simp [bound?, BindsKey]
  | .directive d =>
    simp only [bound?, BindsKey, Directive.hasStaticArg, beq_iff_eq, Property.directive.injEq,
      exists_eq_left']
    split
    · next hbind => simp [hbind]
    · next hbind =>
      refine iff_of_false (by simp) ?_
      rintro ⟨hname, harg, -⟩
      exact hbind ⟨hname, harg⟩

theorem Property.bound?_key_eq_none_iff (p : Property) :
    p.bound? "key" = none ↔ ∀ exp, ¬ p.BindsKey exp := by
  simp only [← bound?_key_iff, Option.eq_none_iff_forall_ne_some]

section FirstKey

variable {h : Head} {before after : List Property} {key : Property} {exp : Expression}
  (hprops : h.props = before ++ key :: after) (hkey : key.BindsKey exp)
  (hfirst : ∀ p ∈ before, ∀ exp, ¬ p.BindsKey exp)
include hprops hkey hfirst

theorem Head.bound?_of_first_key : h.bound? "key" = some exp := by
  rw [bound?, List.findSome?_eq_some_iff]
  refine ⟨before, key, after, hprops, (key.bound?_key_iff exp).mpr hkey, fun p hp => ?_⟩
  exact p.bound?_key_eq_none_iff.mpr (hfirst p hp)

/-- The key is taken out where it was found. -/
theorem Head.eraseP_of_first_key : h.props.eraseP (·.sets "key" true) = before ++ after := by
  have hother : ∀ p ∈ before, ¬ p.sets "key" true = true := by
    intro p hp
    rw [p.sets_eq_isSome_bound?, p.bound?_key_eq_none_iff.mpr (hfirst p hp)]
    exact Bool.false_ne_true
  have hsets : key.sets "key" true = true := by
    rw [key.sets_eq_isSome_bound?, (key.bound?_key_iff exp).mpr hkey]
    rfl
  rw [hprops, List.eraseP_append_right _ hother, List.eraseP_cons_of_pos hsets]

end FirstKey

/-! ## The text of a repetition -/

namespace Loop

theorem fault_not_mem_attrs (l : Loop) (f : Fault) : .fault f ∉ l.attrs := by
  intro hmem
  obtain ⟨_, _, heq, -⟩ := exists_of_mem_attrs hmem
  cases heq

/-- The attributes of a repetition are written as its text. -/
theorem renderAll_attrs (mark : String) (l : Loop) : Attr.renderAll mark l.attrs = l.text mark := by
  have hpart (part : LoopPart) (value : String) :
      Attr.render mark (.loop part value) = controlText mark part.name value := rfl
  cases hi : l.item with
  | none => simp [attrs, text, hi, Attr.renderAll, hpart, LoopPart.name]
  | some item =>
    by_cases hx : item = "index" <;>
      simp [attrs, text, hi, hx, Attr.renderAll, hpart, LoopPart.name, String.append_assoc]

end Loop

/-- A repetition comes first on its tag, whatever follows it. -/
theorem Options.writeAttrs_loop (o : Options) (code : String) (l : Loop) (attrs : List Attr) :
    o.writeAttrs code (l.attrs ++ attrs) = o.writeAttrs (code ++ l.text o.mark) attrs := by
  rw [writeAttrs, List.flatMap_append, Attr.write_flatMap_pieces _ _ l.fault_not_mem_attrs,
    l.renderAll_attrs]
  rfl

/-- **A repetition takes the first key.** If no property binds a key, then the repetition is written
without one and the properties stay. Otherwise the first such property is the key: what stands
behind the first dot of its text is written as the last attribute of the repetition, and this one
property is taken out. A key that has no text is the fault of the repetition; the properties stay,
and all in front of the key has been written. -/
theorem repetition_takes_first_key (o : Options) (h : Head) (l : Loop) (hl : h.loop = some l) :
    ((∀ p ∈ h.props, ∀ exp, ¬ p.BindsKey exp) →
      (o.repetition h).props = h.props ∧
      ∀ code, o.writeAttrs code (o.repetition h).attrs = ⟨code ++ l.text o.mark, none⟩) ∧
    ∀ before key exp after, h.props = before ++ key :: after → key.BindsKey exp →
      (∀ p ∈ before, ∀ exp, ¬ p.BindsKey exp) →
      (∀ text, o.serialize exp = .ok text →
        (o.repetition h).props = before ++ after ∧
        ∃ rest, BehindFirstDot text rest ∧
          ∀ code, o.writeAttrs code (o.repetition h).attrs =
            ⟨code ++ l.text o.mark ++ controlText o.mark "key" rest, none⟩) ∧
      ∀ e, o.serialize exp = .error e →
        (o.repetition h).props = h.props ∧
        ∀ code, o.writeAttrs code (o.repetition h).attrs =
          ⟨code ++ l.text o.mark, some (.expression e)⟩ := by
  constructor
  · intro hnone
    have hbound : h.bound? "key" = none := by
      rw [Head.bound?, List.findSome?_eq_none_iff]
      intro p hp
      exact p.bound?_key_eq_none_iff.mpr (hnone p hp)
    have hrepetition : o.repetition h = ⟨l.attrs, h.props⟩ := by
      simp only [o.repetition_of_loop hl, hbound]
    rw [hrepetition]
    refine ⟨rfl, fun code => ?_⟩
    have hwritten := o.writeAttrs_loop code l []
    rwa [List.append_nil] at hwritten
  · intro before key exp after hprops hkey hfirst
    have hbound := Head.bound?_of_first_key hprops hkey hfirst
    constructor
    · intro text hser
      have hrepetition : o.repetition h =
          ⟨l.attrs ++ [.loop .key (keyText text)], before ++ after⟩ := by
        simp only [o.repetition_of_loop hl, hbound, hser,
          Head.eraseP_of_first_key hprops hkey hfirst]
      rw [hrepetition]
      refine ⟨rfl, keyText text, behindFirstDot_keyText text, fun code => ?_⟩
      rw [o.writeAttrs_loop]
      exact Attr.write_pieces o.mark _ (.loop .key (keyText text)) (by simp) []
    · intro e hser
      have hrepetition : o.repetition h = ⟨l.attrs ++ [.fault (.expression e)], h.props⟩ := by
        simp only [o.repetition_of_loop hl, hbound, hser]
      rw [hrepetition]
      exact ⟨rfl, fun code => o.writeAttrs_loop code l _⟩

/-- The head of a repeated `view` with a key among properties that only look like one: an attribute,
a dynamic argument, a binding without an expression, and a second key. -/
def Head.keyedRow : Head :=
  { tag := "view", loop := some { source := "xs", item := some "index", index := some "i" },
    props :=
      [.attr "key" "x", .directive { name := "bind", arg := some (.dynamic "key"),
                                     exp := some (.dynamic "x.a") },
        .directive { name := "bind", arg := some (.literal "key") }, .bind "key" "index.id.raw",
        .attr "class" "row", .bind "key" "index.other"] }

theorem repetition_takes_first_key_row :
    ∃ rest, BehindFirstDot "index.id.raw" rest ∧
      (Options.repetition { fileName := "t.wxml", mark := "wx:" } .keyedRow).props =
        Head.keyedRow.props.eraseIdx 3 ∧
      Options.writeAttrs { fileName := "t.wxml", mark := "wx:" } "<view"
          (Options.repetition { fileName := "t.wxml", mark := "wx:" } .keyedRow).attrs =
        ⟨"<view wx:for=\"xs\" wx:for-item=\"index\" wx:for-index=\"i\"" ++
          controlText "wx:" "key" rest, none⟩ := by
  have hfirst : ∀ p ∈ Head.keyedRow.props.take 3, ∀ exp, ¬ p.BindsKey exp := by
    simp only [← Property.bound?_key_eq_none_iff]
    decide
  obtain ⟨hprops, rest, hrest, hwritten⟩ :=
    ((repetition_takes_first_key { fileName := "t.wxml", mark := "wx:" } .keyedRow _ rfl).2 _ _
      (.dynamic "index.id.raw") _ rfl ⟨_, rfl, rfl, rfl, rfl⟩ hfirst).1 "index.id.raw" rfl
  exact ⟨rest, hrest, hprops, hwritten "<view"⟩

end MiniTemplate
