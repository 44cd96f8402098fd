import MiniTemplate.Proofs.Arrangement

/-!
# One tag for every place in a chain

An `else` works only next to the `if` that it belongs to, so that an element with a place in a chain
must come out as exactly one tag, with its condition on it. The rules move this condition about: an
outlet hands it to the block around its two choices, a repeated element to the block around its
repetition, a delayed `else` to the block around its guard.

`Site.lower_of_branch` says where each rule leaves the condition. Either the element is put together
under it, or the rule makes one block under it and puts all the rest inside. Both ways lead to one
tag that bears the condition (`Markup.Bears`), and `conditions_lead` carries this to what is written
for an element and for a whole group.
-/

namespace MiniTemplate

open Markup

/-- The node is a tag under this condition: it is the first of its attributes and the only condition
among them. Whatever else stands on the tag comes from a property of its owner. -/
def Markup.Bears (o : Options) (owner : Head) (b : Branch) : Markup → Prop
  | .tag _ attrs _ _ =>
    ∃ rest, attrs = .branch b :: rest ∧ (∀ c, .branch c ∉ rest) ∧
      ∀ a ∈ rest, ∃ p ∈ owner.props, a ∈ o.ownPropertyAttrs owner p
  | _ => False

/-- The element is written as this one tag, which bears the element's condition and has everything
inside that is read of the element. -/
structure Element.LedBy (o : Options) (e : Element) (tag : Markup) : Prop where
  bears : ∃ b, e.branch = some b ∧ tag.Bears o (e.site.head o) b
  holds : Arranged o (Site.IsMarkup o) (e.reading o none) [tag]

/-! ## Tags that bear a condition -/

section Tags

variable {o : Options} {h : Head} {b : Branch}

theorem bears_block (kids : List Markup) : (Markup.block b kids).Bears o h b :=
  ⟨[], rfl, by simp, by simp⟩

/-- An element that is not repeated bears its condition on its own tag. -/
theorem bears_ownTag (hloop : h.loop = none) (kids : List Markup) :
    (o.ownTag h [.branch b] kids).Bears o h b := by
  refine ⟨o.ownAttrs h, rfl, o.branch_not_mem_ownAttrs h, ?_⟩
  intro a ha
  rw [o.ownAttrs_of_loop_eq_none hloop] at ha
  exact List.mem_flatMap.mp ha

/-- What is put together under a condition is one tag that bears it. -/
theorem exists_bears_assemble (hb : h.branch = some b) (kids : List Markup) :
    ∃ tag : Markup, tag.Bears o h b ∧ o.assemble h kids = [tag] := by
  cases hl : h.loop with
  | none => exact ⟨_, bears_ownTag hl kids, o.assemble_of_loop_eq_none hb hl kids⟩
  | some l => exact ⟨_, bears_block _, o.assemble_of_loop_eq_some hb hl kids⟩

end Tags

/-! ## Where the rules leave a condition -/

namespace Site

variable {o : Options} {e : Element} {b : Branch}

/-- An element with a condition that comes by the rules is put together under this condition, or
all that is made of it goes into one block under it. -/
theorem lower_of_branch (hb : e.branch = some b) (kids : List Markup) :
    ((head o ⟨e, none⟩).branch = some b ∧
      lower o ⟨e, none⟩ kids = o.assemble (head o ⟨e, none⟩) kids) ∨
    ∃ inner, lower o ⟨e, none⟩ kids = [.block b inner] := by
  cases hrole : e.role with
  | slotOutlet =>
    cases htest : (!!e.children.isEmpty || o.slotFallback) with
    | true =>
      have hdiv : dividesFallback o ⟨e, none⟩ = false := by
        rw [dividesFallback_outlet o hrole, htest]
        rfl
      have hhead : head o ⟨e, none⟩ = e.outlet := by simp [head, hrole, hdiv]
      refine .inl ⟨by rw [hhead]; exact hb, ?_⟩
      simp only [lower, hrole, Options.lowerOutlet, htest, if_true, hhead]
    | false =>
      simp only [lower, hrole, Options.lowerOutlet, htest, Bool.false_eq_true, if_false, hb]
      exact .inr ⟨_, rfl⟩
  | component =>
    -- a component that has a condition gets no guard
    have hskip : (o.syncProperties || e.branch.isSome || e.loop.isSome) = true := by simp [hb]
    have hcond : o.componentCondition e.toHead = e.branch := by
      rw [Options.componentCondition, if_pos hskip]
    have hhead : head o ⟨e, none⟩ = e.toHead := by
      simp only [head, hrole, hcond]
      rfl
    refine .inl ⟨by rw [hhead]; exact hb, ?_⟩
    simp only [lower, hrole, Options.lowerComponent, hskip, if_true, hhead]
  | template =>
    have hhead : head o ⟨e, none⟩ = e.grouped := by simp only [head, hrole]
    refine .inl ⟨by rw [hhead]; exact hb, ?_⟩
    simp only [lower, hrole, hhead]
  | plain =>
    by_cases hother : o.isDelayed e = true ∧ b = .otherwise
    · obtain ⟨hdelayed, rfl⟩ := hother
      simp only [lower, hrole, hdelayed, if_true, Options.lowerDelayed, hb]
      exact .inr ⟨_, rfl⟩
    · have hhead : head o ⟨e, none⟩ = e.toHead := by
        simp only [head, hrole]
        rw [if_neg]
        simpa [hb] using hother
      refine .inl ⟨by rw [hhead]; exact hb, ?_⟩
      rw [hhead]
      simp only [lower, hrole]
      cases hdelayed : o.isDelayed e with
      | false => rfl
      | true =>
        -- `if` and `else if` wait for their own condition
        rw [if_pos rfl, Options.lowerDelayed, hb]
        cases b with
        | when c => rfl
        | elseWhen c => rfl
        | otherwise => exact absurd ⟨hdelayed, rfl⟩ hother

/-- Whatever its role, an element with a condition is written as one tag that bears it. -/
theorem exists_bears_lower (hb : e.branch = some b) (kids : List Markup) :
    ∃ tag : Markup, tag.Bears o (head o ⟨e, none⟩) b ∧ lower o ⟨e, none⟩ kids = [tag] := by
  rcases lower_of_branch (o := o) hb kids with ⟨hbranch, heq⟩ | ⟨inner, heq⟩
  · rw [heq]
    exact exists_bears_assemble hbranch kids
  · exact ⟨_, bears_block inner, heq⟩

end Site

/-! ## Elements and groups -/

section Written

variable {o : Options}

/-- A sound element with a condition, unless it gives way to its child, is led by one tag. -/
theorem Element.exists_ledBy {e : Element} (hb : e.branch ≠ none) (hand : e.handedOn? = none)
    (hs : Sound (lowerElement o e)) : ∃ tag, e.LedBy o tag ∧ lowerElement o e = [tag] := by
  obtain ⟨b, hb⟩ := Option.ne_none_iff_exists'.mp hb
  have hsite := e.site_of_handedOn?_eq_none hand
  obtain ⟨tag, hbears, hlower⟩ := Site.exists_bears_lower (o := o) hb (lowerNodes o e.children)
  have htag : lowerElement o e = [tag] := by rw [lowerElement_eq, hsite, hlower]
  refine ⟨tag, ⟨⟨b, hb, by rw [hsite]; exact hbears⟩, ?_⟩, htag⟩
  have hnodes : lowerNodes o [.element e] = [tag] := by
    rw [lowerNodes_element, lowerNodes_nil, htag]
    rfl
  have harranged := arranged_lowerNodes o [.element e]
  rw [hnodes, Node.readings_element, ← Element.reading_eq] at harranged
  rw [htag] at hs
  exact (harranged hs).mono fun _ _ => And.left

/-- The elements of a group, each with a condition, are led by as many tags side by side. -/
theorem exists_forall₂_ledBy {branches : List Element}
    (h : ∀ e ∈ branches, e.branch ≠ none ∧ e.handedOn? = none)
    (hs : Sound (branches.flatMap (lowerElement o))) :
    ∃ tags, List.Forall₂ (Element.LedBy o) branches tags ∧
      branches.flatMap (lowerElement o) = tags := by
  induction branches with
  | nil => exact ⟨[], .nil, rfl⟩
  | cons e rest ih =>
    rw [List.flatMap_cons] at hs ⊢
    obtain ⟨hfirst, hrest⟩ := (sound_append ..).mp hs
    obtain ⟨hb, hand⟩ := h e (List.mem_cons_self ..)
    obtain ⟨tag, hled, htag⟩ := Element.exists_ledBy hb hand hfirst
    obtain ⟨tags, hall, htags⟩ := ih (fun e he => h e (List.mem_cons_of_mem _ he)) hrest
    exact ⟨tag :: tags, .cons hled hall, by rw [htag, htags]; rfl⟩

end Written

/-- **Conditions lead.** An element with a condition that does not give way to its child is written
as one tag, whose first attribute is the condition. A group of such elements is written as one tag
for each, side by side and in their order. -/
theorem conditions_lead (o : Options) (code : String) :
    (∀ e : Element, e.branch ≠ none → e.handedOn? = none →
      (o.writeMarkup code (lowerNode o (.element e))).fault = none →
      ∃ tag, e.LedBy o tag ∧
        o.writeMarkup code (lowerNode o (.element e)) = ⟨code ++ tag.render o.mark, none⟩) ∧
    (∀ branches : List Element, (∀ e ∈ branches, e.branch ≠ none ∧ e.handedOn? = none) →
      (o.writeMarkup code (lowerNode o (.group branches))).fault = none →
      ∃ tags, List.Forall₂ (Element.LedBy o) branches tags ∧
        o.writeMarkup code (lowerNode o (.group branches)) =
          ⟨code ++ renderForest o.mark tags, none⟩) := by
  constructor
  · intro e hb hand hwritten
    have hsound := (o.writeMarkup_fault_eq_none_iff ..).mp hwritten
    rw [lowerNode] at hsound ⊢
    obtain ⟨tag, hled, htag⟩ := Element.exists_ledBy hb hand hsound
    refine ⟨tag, hled, ?_⟩
    rw [o.writeMarkup_of_sound code hsound, htag, renderForest, renderForest, String.append_empty]
  · intro branches hall hwritten
    have hsound := (o.writeMarkup_fault_eq_none_iff ..).mp hwritten
    rw [lowerNode, lowerElements_eq_flatMap] at hsound ⊢
    obtain ⟨tags, hled, htags⟩ := exists_forall₂_ledBy hall hsound
    refine ⟨tags, hled, ?_⟩
    rw [o.writeMarkup_of_sound code hsound, htags]

/-- A repeated outlet with fallback content, a repeated `view` and a delayed `input` make a chain of
three blocks. -/
theorem conditions_lead_blocks :
    ∃ tags,
      List.Forall₂
        (Element.LedBy
          { fileName := "t.wxml", mark := "wx:", delay := some (.table [("input", .always)]) })
        [⟨{ tag := "slot", role := .slotOutlet, branch := some (.when "a"),
            loop := some { source := "xs" } }, [.text "f"]⟩,
          ⟨{ tag := "view", branch := some (.elseWhen "b"), loop := some { source := "ys" } }, []⟩,
          ⟨{ tag := "input", branch := some .otherwise, selfClosing := true }, []⟩] tags ∧
      "<view>" ++
        ("<block wx:if=\"\x7b\x7ba\x7d\x7d\"><block wx:if=\"\x7b\x7b$slots.d\x7d\x7d\">" ++
          "<slot wx:for=\"xs\"></slot></block><block wx:else>f</block></block>" ++
          "<block wx:elif=\"\x7b\x7bb\x7d\x7d\"><view wx:for=\"ys\"></view></block>" ++
          "<block wx:else><input wx:if=\"\x7b\x7br0\x7d\x7d\"/></block>") =
        "<view>" ++ renderForest "wx:" tags := by
  obtain ⟨tags, hled, hwritten⟩ :=
    (conditions_lead
      { fileName := "t.wxml", mark := "wx:", delay := some (.table [("input", .always)]) }
      "<view>").2
      [⟨{ tag := "slot", role := .slotOutlet, branch := some (.when "a"),
          loop := some { source := "xs" } }, [.text "f"]⟩,
        ⟨{ tag := "view", branch := some (.elseWhen "b"), loop := some { source := "ys" } }, []⟩,
        ⟨{ tag := "input", branch := some .otherwise, selfClosing := true }, []⟩]
      (by decide) rfl
  refine ⟨tags, hled, Eq.trans ?_ (congrArg Written.code hwritten)⟩
  decide +kernel

end MiniTemplate
