import MiniTemplate.Proofs.Visibility
import MiniTemplate.Proofs.WellFormed

/-!
# Readiness guards do not show

Delayed elements and components are put under readiness guards. Once every guard holds, they make no
difference to what is seen: the markup of a template and the markup that it has under options
without guards are seen as the same forest.

    lowerNodes o nodes             ──visibleForest r──▶  seen
    lowerNodes o.unguarded nodes   ──visibleForest r──▶  seen

The guards come in three forms: a block around the element, a block in an `else` branch with the
guard inside, a condition on the tag itself. Each could capture or cut off the chain of a neighbour,
so the proof keeps account of chains. `Seen r f g b` says what has to agree between the two runs for
an element at the place `b` of a chain: for one outside of chains only what is seen, whatever chain
stands before it; for one that opens a chain also the state that it leaves behind; for a later one
both, from the same state on.
-/

namespace MiniTemplate

open Markup

/-! ## Options without guards -/

/-- The options without readiness guards: no element is delayed and components need not wait. -/
def Options.unguarded (o : Options) : Options :=
  { o with
    delay := none
    component := some { o.component.getD {} with syncProperties := true } }

namespace Options

@[simp] theorem tagName_unguarded (o : Options) (h : Head) :
    o.unguarded.tagName h = o.tagName h := by
  obtain ⟨_, _, _, _, _, _, component, _, _, _⟩ := o
  cases component <;> rfl

@[simp] theorem ownAttrs_unguarded (o : Options) (h : Head) :
    o.unguarded.ownAttrs h = o.ownAttrs h := by
  obtain ⟨_, _, _, _, _, _, component, _, _, _⟩ := o
  cases component <;> rfl

@[simp] theorem assemble_unguarded (o : Options) (h : Head) (kids : List Markup) :
    o.unguarded.assemble h kids = o.assemble h kids := by
  simp only [assemble, tagName_unguarded, ownAttrs_unguarded]

theorem lowerOutlet_unguarded (o : Options) (h : Head) (hasFallback : Bool)
    (kids : List Markup) :
    o.unguarded.lowerOutlet h hasFallback kids = o.lowerOutlet h hasFallback kids := by
  have hsame : o.unguarded.slotFallback = o.slotFallback := rfl
  simp only [lowerOutlet, assemble_unguarded, hsame]

/-- Without guards a component is put together as it stands. -/
theorem lowerComponent_unguarded (o : Options) (h : Head) (kids : List Markup) :
    o.unguarded.lowerComponent h kids = o.assemble h kids := by
  have hsync : o.unguarded.syncProperties = true := rfl
  rw [lowerComponent, hsync, Bool.true_or, Bool.true_or, if_pos rfl, assemble_unguarded]

theorem isDelayed_unguarded (o : Options) (e : Element) : o.unguarded.isDelayed e = false := rfl

/-- Whether an element is free of faults does not depend on its condition. -/
theorem sound_assemble_iff (o : Options) {h : Head} {kids : List Markup}
    (hclosed : h.selfClosing = true → kids = []) :
    Sound (o.assemble h kids) ↔ (∀ f, .fault f ∉ o.ownAttrs h) ∧ Sound kids := by
  have hkids : (if h.selfClosing && !h.isTransparent then [] else faults kids) = faults kids := by
    cases hsc : h.selfClosing with
    | true => simp [hclosed hsc]
    | false => rfl
  rw [← faults_eq_nil_iff, o.faults_assemble, hkids, List.append_eq_nil_iff,
    Attr.filterMap_fault?_eq_nil_iff, faults_eq_nil_iff]

end Options

/-! ## What has to agree between two runs -/

/-- From the states `shown` and `shown'` on, the same is seen of both forests and the same state is
left behind. -/
def Agrees (r : String → Bool) (shown shown' : Bool) (f g : List Markup) : Prop :=
  visibleForest r shown f = visibleForest r shown' g ∧ chainAfter r shown f = chainAfter r shown' g

/-- What has to agree for the markup of an element, by its place in a chain. -/
def Seen (r : String → Bool) (f g : List Markup) : Option Branch → Prop
  | none => ∀ shown shown', visibleForest r shown f = visibleForest r shown' g
  | some (.when _) => ∀ shown shown', Agrees r shown shown' f g
  | some _ => ∀ shown, Agrees r shown shown f g

/-- Two forests are alike if both are sound or none of them is, and what has to agree does. -/
structure Alike (r : String → Bool) (b : Option Branch) (f g : List Markup) : Prop where
  sound_iff : Sound f ↔ Sound g
  seen : Sound f → Seen r f g b

namespace Alike

variable {r : String → Bool} {f g f' g' : List Markup} {b : Option Branch}

/-- Forests that agree whatever chain stands before them do so at any place. -/
theorem of_agrees (hsound : Sound f ↔ Sound g)
    (h : Sound f → ∀ shown shown', Agrees r shown shown' f g) : Alike r b f g where
  sound_iff := hsound
  seen hf := by
    match b with
    | none => exact fun shown shown' => (h hf shown shown').1
    | some (.when _) => exact h hf
    | some (.elseWhen _) => exact fun shown => h hf shown shown
    | some .otherwise => exact fun shown => h hf shown shown

/-- What opens a chain can be looked at by itself. -/
theorem alone (hb : Branch.opens b = true) (h : Alike r b f g) : Alike r none f g where
  sound_iff := h.sound_iff
  seen hf := by
    match b, h.seen hf with
    | none, hseen => exact hseen
    | some (.when _), hseen => exact fun shown shown' => (hseen shown shown').1

/-- Forests that are alike may stand side by side if none of them is part of a chain. -/
theorem append (h : Alike r none f g) (h' : Alike r none f' g') :
    Alike r none (f ++ f') (g ++ g') where
  sound_iff := by rw [sound_append, sound_append, h.sound_iff, h'.sound_iff]
  seen hf shown shown' := by
    rw [sound_append] at hf
    rw [visibleForest_append, visibleForest_append, h.seen hf.1 shown shown', h'.seen hf.2]

/-- The markup of two elements at the same place of a chain agrees if each is seen, when its place
lets it, as the same forest. -/
theorem seen_of_holds {place : Branch} (seen : List Markup)
    (hf : ∀ shown, visibleForest r shown f = if place.holds r shown then seen else [])
    (hg : ∀ shown, visibleForest r shown g = if place.holds r shown then seen else [])
    (hf' : ∀ shown, chainAfter r shown f = place.after r shown)
    (hg' : ∀ shown, chainAfter r shown g = place.after r shown) : Seen r f g (some place) := by
  cases place with
  | when c =>
    intro shown shown'
    exact ⟨by rw [hf, hg]; rfl, by rw [hf', hg']; rfl⟩
  | elseWhen c => exact fun shown => ⟨by rw [hf, hg], by rw [hf', hg']⟩
  | otherwise => exact fun shown => ⟨by rw [hf, hg], by rw [hf', hg']⟩

/-- Blocks at the same place in a chain are alike if what they hold is. -/
theorem block (place : Branch) (h : Alike r none f g) :
    Alike r (some place) [block place f] [block place g] where
  sound_iff := by rw [sound_block, sound_block, h.sound_iff]
  seen hf := by
    rw [sound_block] at hf
    refine seen_of_holds (visibleForest r false f) ?_ ?_ ?_ ?_
    · intro shown
      rw [visibleForest_singleton, visible_block]
    · intro shown
      rw [visibleForest_singleton, visible_block, ← h.seen hf false false]
    · exact fun shown => after_block shown place f
    · exact fun shown => after_block shown place g

/-- Fallback content in an `else` block, beside the same markup in both runs. -/
theorem choice (c : String) (outlet : List Markup) (h : Alike r none f g) :
    Alike r none [.block (.when c) outlet, .block .otherwise f]
      [.block (.when c) outlet, .block .otherwise g] where
  sound_iff := by
    rw [sound_cons _ [.block .otherwise f], sound_cons _ [.block .otherwise g],
      (h.block .otherwise).sound_iff]
  seen hf shown shown' := by
    rw [sound_cons] at hf
    have hfallback := (h.block .otherwise).seen hf.2 (r c)
    rw [visibleForest_cons, visibleForest_cons, visible_block, visible_block, after_block,
      after_block]
    exact congrArg _ hfallback.1

end Alike

/-! ## The rules at a site, with and without guards

In each rule the markup of the children may come from different runs. -/

namespace Options

theorem seenTag_congr (o : Options) {r : String → Bool} (h : Head) {kids kids' : List Markup}
    (hkids : visibleForest r false kids = visibleForest r false kids') :
    o.seenTag r h kids = o.seenTag r h kids' := by
  rw [seenTag, seenTag, hkids]

@[simp] theorem seenTag_withBranch (o : Options) (r : String → Bool) (h : Head)
    (b : Option Branch) (kids : List Markup) :
    o.seenTag r (h.withBranch b) kids = o.seenTag r h kids := by
  simp only [seenTag, tagName_withBranch, ownAttrs_withBranch]
  rfl

section Rules

variable (o : Options) {r : String → Bool} {h : Head} {kids kids' : List Markup}

/-- A condition brings no fault and hides none. -/
theorem sound_assemble_withBranch_iff (b : Option Branch)
    (hclosed : h.selfClosing = true → kids = []) :
    Sound (o.assemble (h.withBranch b) kids) ↔ Sound (o.assemble h kids) := by
  rw [o.sound_assemble_iff hclosed, o.sound_assemble_iff (h := h.withBranch b) hclosed,
    ownAttrs_withBranch]

theorem sound_assemble_congr (hclosed : h.selfClosing = true → kids = [] ∧ kids' = [])
    (hkids : Sound kids ↔ Sound kids') :
    Sound (o.assemble h kids) ↔ Sound (o.assemble h kids') := by
  rw [o.sound_assemble_iff fun hsc => (hclosed hsc).1,
    o.sound_assemble_iff fun hsc => (hclosed hsc).2, hkids]

/-- Elements put together from forests that are alike are alike. -/
theorem alike_assemble (hclosed : h.selfClosing = true → kids = [] ∧ kids' = [])
    (hkids : Alike r none kids kids') :
    Alike r h.branch (o.assemble h kids) (o.assemble h kids') where
  sound_iff := o.sound_assemble_congr hclosed hkids.sound_iff
  seen hf := by
    have hseen := hkids.seen ((o.sound_assemble_iff fun hsc => (hclosed hsc).1).mp hf).2
    have htag := o.seenTag_congr h (hseen false false)
    cases hb : h.branch with
    | some place =>
      refine Alike.seen_of_holds (o.seenTag r h kids) ?_ ?_ ?_ ?_
      · exact fun shown => o.visible_assemble_of_branch hb shown kids
      · intro shown
        rw [o.visible_assemble_of_branch hb shown kids', htag]
      · exact fun shown => o.chainAfter_assemble_of_branch hb shown kids
      · exact fun shown => o.chainAfter_assemble_of_branch hb shown kids'
    | none =>
      intro shown shown'
      cases ht : h.isTransparent with
      | true =>
        rw [o.assemble_of_isTransparent ht, o.assemble_of_isTransparent ht]
        exact hseen shown shown'
      | false =>
        rw [o.visible_assemble_of_none ht hb, o.visible_assemble_of_none ht hb, htag]

/-- An element that leaves a tag behind and belongs to no chain before it is alike at any place. -/
theorem alike_assemble_anywhere (hclosed : h.selfClosing = true → kids = [] ∧ kids' = [])
    (ht : h.isTransparent = false) (hopens : Branch.opens h.branch = true)
    (hkids : Alike r none kids kids') (b : Option Branch) :
    Alike r b (o.assemble h kids) (o.assemble h kids') := by
  have halike := o.alike_assemble hclosed hkids
  refine .of_agrees halike.sound_iff fun hf shown shown' => ?_
  have hseen := halike.seen hf
  match hb : h.branch, hopens, hseen with
  | none, _, hseen =>
    refine ⟨hseen shown shown', ?_⟩
    rw [o.chainAfter_assemble_of_none ht hb, o.chainAfter_assemble_of_none ht hb]
  | some (.when _), _, hseen => exact hseen shown shown'

/-- A guard on the tag itself does not show. A group without anything on it gets a tag for the
guard, which must then be a block. -/
theorem alike_guarded {c : String} (hclosed : h.selfClosing = true → kids = [] ∧ kids' = [])
    (hb : h.branch = none) (hc : r c = true)
    (hname : h.isTransparent = true → o.tagName h = "block") (hkids : Alike r none kids kids') :
    Alike r none (o.assemble (h.withBranch (some (.when c))) kids) (o.assemble h kids') where
  sound_iff := by
    rw [o.sound_assemble_withBranch_iff _ fun hsc => (hclosed hsc).1,
      o.sound_assemble_congr hclosed hkids.sound_iff]
  seen hf shown shown' := by
    rw [o.sound_assemble_withBranch_iff _ fun hsc => (hclosed hsc).1] at hf
    have hseen := hkids.seen ((o.sound_assemble_iff fun hsc => (hclosed hsc).1).mp hf).2
    rw [o.visible_assemble_of_branch rfl, Branch.holds, hc, if_pos rfl, seenTag_withBranch,
      o.seenTag_congr h (hseen false false)]
    cases ht : h.isTransparent with
    | false => rw [o.visible_assemble_of_none ht hb]
    | true =>
      rw [o.assemble_of_isTransparent ht, seenTag, ungroup,
        if_pos ⟨hname ht, o.ownAttrs_of_isTransparent ht⟩, ← hseen false shown',
        ← hseen false false]
      cases hsc : h.selfClosing with
      | false => rfl
      | true => rw [(hclosed hsc).1]; rfl

theorem alike_lowerOutlet (hasFallback : Bool)
    (hclosed : h.selfClosing = true → kids = [] ∧ kids' = []) (hkids : Alike r none kids kids') :
    Alike r h.branch (o.lowerOutlet h hasFallback kids) (o.lowerOutlet h hasFallback kids') := by
  rw [lowerOutlet, lowerOutlet]
  split
  · exact o.alike_assemble (h := h.outlet) hclosed hkids
  · have hchoice := hkids.choice ("$slots." ++ h.outlet.outletName)
      (o.assemble (h.outlet.withBranch none) [])
    cases hb : h.branch with
    | none => exact hchoice
    | some place => exact hchoice.block place

/-- From the first render on, the guard of a delayed element is not seen. -/
theorem alike_lowerDelayed (hready : r readyCondition = true)
    (hclosed : h.selfClosing = true → kids = [] ∧ kids' = []) (hkids : Alike r none kids kids') :
    Alike r h.branch (o.lowerDelayed h kids) (o.assemble h kids') := by
  have halike := o.alike_assemble hclosed hkids
  match hb : h.branch with
  | none =>
    rw [hb] at halike
    simp only [lowerDelayed, hb]
    refine ⟨?_, fun hf shown shown' => ?_⟩
    · rw [sound_block, halike.sound_iff]
    · rw [sound_block] at hf
      rw [visibleForest_singleton, visible_block, Branch.holds, hready, if_pos rfl]
      exact halike.seen hf false shown'
  | some .otherwise =>
    -- the guard moves inside, so that the element still closes the chain of its neighbours
    have hguard := o.sound_assemble_withBranch_iff (some (.when readyCondition))
      fun hsc => (hclosed hsc).1
    simp only [lowerDelayed, hb]
    refine ⟨?_, fun hf => ?_⟩
    · rw [sound_block, hguard, halike.sound_iff]
    · rw [sound_block, hguard] at hf
      have hseen := hkids.seen ((o.sound_assemble_iff fun hsc => (hclosed hsc).1).mp hf).2
      refine Alike.seen_of_holds (o.seenTag r h kids') ?_ ?_ ?_ ?_
      · intro shown
        rw [visibleForest_singleton, visible_block, o.visible_assemble_of_branch rfl,
          show Branch.holds r false (.when readyCondition) = true from hready, if_pos rfl,
          seenTag_withBranch, o.seenTag_congr h (hseen false false)]
      · exact fun shown => o.visible_assemble_of_branch hb shown kids'
      · intro shown
        rw [chainAfter_singleton, after_block]
      · exact fun shown => o.chainAfter_assemble_of_branch hb shown kids'
  | some (.when c) =>
    simp only [lowerDelayed, hb]
    exact hb ▸ halike
  | some (.elseWhen c) =>
    simp only [lowerDelayed, hb]
    exact hb ▸ halike

/-- What is bound to an element that is not repeated is written on its tag, so that an expression
without a text is a fault there. -/
theorem exists_fault_mem_ownAttrs {name : String} {exp : Expression} {e : ExpressionError}
    (hloop : h.loop = none) (hbound : h.bound? name = some exp)
    (herror : o.serialize exp = .error e) : ∃ f, .fault f ∈ o.ownAttrs h := by
  obtain ⟨p, hp, hpbound⟩ := List.exists_of_findSome?_eq_some hbound
  suffices hfault : ∀ virtualHost, ∃ f, .fault f ∈ o.propertyAttrs h virtualHost p by
    obtain ⟨f, hf⟩ := hfault (o.isUserComponent h && o.mergeVirtualHost)
    refine ⟨f, List.mem_append_right _ (List.mem_flatMap.mpr ⟨p, ?_, hf⟩)⟩
    rw [repetition, hloop]
    exact hp
  intro virtualHost
  rcases p with a | d
  · cases hpbound
  · rw [Property.bound?] at hpbound
    split at hpbound
    · next hbind =>
      obtain ⟨hname, harg⟩ := hbind
      rw [Directive.hasStaticArg, beq_iff_eq] at harg
      simp only [propertyAttrs, directiveAttrs, hname, bindAttrs, harg, hpbound, withText, herror]
      cases o.serialize (.literal name) <;> simp
    · cases hpbound

/-- Once its guard holds, a component is seen as if it had none. -/
theorem alike_lowerComponent (hready : r readyCondition = true)
    (hbound : ∀ exp c, h.bound? "u-p" = some exp → o.serialize exp = .ok c → r c = true)
    (hname : o.syncProperties = false → o.isNative h.tag = true → h.isTransparent = true →
      o.tagName h = "block")
    (hclosed : h.selfClosing = true → kids = [] ∧ kids' = []) (hkids : Alike r none kids kids') :
    Alike r h.branch (o.lowerComponent h kids) (o.assemble h kids') := by
  rw [lowerComponent]
  split
  · exact o.alike_assemble hclosed hkids
  · next hskip =>
    simp only [Bool.or_eq_true, not_or, Bool.not_eq_true, Option.isSome_eq_false_iff,
      Option.isNone_iff_eq_none] at hskip
    obtain ⟨⟨hsync, hb⟩, hloop⟩ := hskip
    split
    · next hnative =>
      rw [hb]
      exact o.alike_guarded hclosed hb hready (hname hsync hnative) hkids
    · split
      · exact o.alike_assemble hclosed hkids
      · next exp hexp =>
        split
        · next c hok =>
          have hprops : h.isTransparent = false := by
            have hne : h.props ≠ [] := by
              intro hnil
              rw [Head.bound?, hnil] at hexp
              cases hexp
            simp [Head.isTransparent, Head.isBare, hne]
          rw [hb]
          refine o.alike_guarded hclosed hb (hbound exp c hexp hok) ?_ hkids
          rw [hprops]
          intro htrue
          cases htrue
        · next e herror =>
          -- both runs are at fault: the expression is written on the tag of the other
          obtain ⟨f, hf⟩ := o.exists_fault_mem_ownAttrs hloop hexp herror
          refine ⟨⟨fun hsound => absurd hsound (not_sound_fault _), fun hsound => ?_⟩,
            fun hsound => absurd hsound (not_sound_fault _)⟩
          rw [o.sound_assemble_iff fun hsc => (hclosed hsc).2] at hsound
          exact absurd hf (hsound.1 f)

end Rules

end Options

/-! ## Chains -/

theorem Branch.continues_cons {b : Option Branch} {rest : List (Option Branch)}
    (h : Branch.continues (b :: rest) = true) :
    (∃ place, b = some place) ∧ Branch.continues rest = true := by
  match b, rest, h with
  | some .otherwise, [], _ => exact ⟨⟨_, rfl⟩, rfl⟩
  | some (.elseWhen c), rest, h =>
    rw [Branch.continues] at h
    exact ⟨⟨_, rfl⟩, h⟩

namespace Alike

variable {r : String → Bool} {F G : Element → List Markup}

/-- What is alike at some place of a chain agrees from the same state on. -/
theorem agrees {place : Branch} {f g : List Markup} (h : Alike r (some place) f g)
    (hf : Sound f) (shown : Bool) : Agrees r shown shown f g := by
  cases place with
  | when c => exact h.seen hf shown shown
  | elseWhen c => exact h.seen hf shown
  | otherwise => exact h.seen hf shown

/-- The later elements of a chain agree from the same state on. -/
theorem continues {branches : List Element}
    (hchain : Branch.continues (branches.map (·.branch)) = true)
    (h : ∀ e ∈ branches, Alike r e.branch (F e) (G e)) :
    (Sound (branches.flatMap F) ↔ Sound (branches.flatMap G)) ∧
      (Sound (branches.flatMap F) →
        ∀ shown, Agrees r shown shown (branches.flatMap F) (branches.flatMap G)) := by
  induction branches with
  | nil => exact ⟨.rfl, fun _ shown => ⟨rfl, rfl⟩⟩
  | cons e rest ih =>
    obtain ⟨⟨place, hplace⟩, hrest⟩ := Branch.continues_cons hchain
    have he : Alike r (some place) (F e) (G e) := hplace ▸ h e (List.mem_cons_self ..)
    obtain ⟨hsound, hagrees⟩ := ih hrest fun e he => h e (List.mem_cons_of_mem _ he)
    rw [List.flatMap_cons, List.flatMap_cons, sound_append, sound_append]
    refine ⟨by rw [he.sound_iff, hsound], fun hf shown => ?_⟩
    -- the first element leaves the same state behind in both runs, from which the others go on
    obtain ⟨hvisible, hafter⟩ := he.agrees hf.1 shown
    obtain ⟨hvisible', hafter'⟩ := hagrees hf.2 (chainAfter r shown (G e))
    constructor
    · rw [visibleForest_append, visibleForest_append, hvisible, hafter, hvisible']
    · rw [chainAfter_append, chainAfter_append, hafter, hafter']

/-- A chain as a whole is alike, whatever stands before it. -/
theorem chain {branches : List Element}
    (hchain : Branch.isChain (branches.map (·.branch)) = true)
    (h : ∀ e ∈ branches, Alike r e.branch (F e) (G e)) :
    Alike r none (branches.flatMap F) (branches.flatMap G) := by
  match branches, hchain with
  | [], _ => exact ⟨.rfl, fun _ shown shown' => rfl⟩
  | e :: rest, hchain =>
    match hb : e.branch, hchain with
    | some (.when c), hchain =>
      have hrest : Branch.continues (rest.map (·.branch)) = true := by
        rwa [List.map_cons, hb] at hchain
      have he : Alike r (some (.when c)) (F e) (G e) := hb ▸ h e (List.mem_cons_self ..)
      obtain ⟨hsound, hagrees⟩ := continues hrest fun e he => h e (List.mem_cons_of_mem _ he)
      rw [List.flatMap_cons, List.flatMap_cons]
      refine ⟨?_, fun hf shown shown' => ?_⟩
      · rw [sound_append, sound_append, he.sound_iff, hsound]
      · rw [sound_append] at hf
        obtain ⟨hvisible, hafter⟩ := he.seen hf.1 shown shown'
        rw [visibleForest_append, visibleForest_append, hvisible, hafter, (hagrees hf.2 _).1]
    | none, hchain => simp [Branch.isChain, hb] at hchain
    | some (.elseWhen c), hchain => simp [Branch.isChain, hb] at hchain
    | some .otherwise, hchain => simp [Branch.isChain, hb] at hchain

end Alike

/-! ## Whole templates -/

/-- The element is empty if it is closed in its opening tag, and the guards that it can be put under
hold. A group that would get a tag only for the guard must get that of a block. -/
structure Element.IsSettled (o : Options) (r : String → Bool) (e : Element) : Prop where
  closed_empty : e.selfClosing = true → e.children = []
  bound : e.role = .component → ∀ exp c, e.bound? "u-p" = some exp → o.serialize exp = .ok c →
    r c = true
  named : e.role = .component → o.syncProperties = false → o.isNative e.tag = true →
    e.isTransparent = true → o.tagName e.toHead = "block"

/-- The conditions at the node are in order and its elements are settled. -/
structure Node.IsSettled (o : Options) (r : String → Bool) (n : Node) : Prop where
  chained : n.isChained = true
  elements : ∀ e ∈ n.elements, e.IsSettled o r

section Settled

variable {o : Options} {r : String → Bool}

theorem Element.IsSettled.kids_eq_nil {e : Element} (he : e.IsSettled o r)
    (hclosed : e.selfClosing = true) :
    lowerNodes o e.children = [] ∧ lowerNodes o.unguarded e.children = [] := by
  rw [he.closed_empty hclosed]
  exact ⟨lowerNodes_nil _, lowerNodes_nil _⟩

/-- The step of the recursion: an element is alike in both runs if its children are. -/
theorem alike_lowerElement {e : Element} (hready : r readyCondition = true)
    (he : e.IsSettled o r) (hbelow : Node.Every (Node.IsSettled o r) e.children)
    (hkids : Alike r none (lowerNodes o e.site.element.children)
      (lowerNodes o.unguarded e.site.element.children)) :
    Alike r e.branch (lowerElement o e) (lowerElement o.unguarded e) := by
  rw [lowerElement_eq, lowerElement_eq]
  cases hand : e.handedOn? with
  | some carrier =>
    obtain ⟨child, hchildren, -⟩ := Element.handedOn?_eq_some hand
    rw [Element.site_of_handedOn?_eq_some hand hchildren] at hkids ⊢
    rw [hchildren] at hbelow
    -- the child stands in no group, so it is alike at the place of the template it stands for
    obtain ⟨hchild, -, -⟩ := Node.every_element_iff.mp hbelow
    have hsettled := hchild.elements child (List.mem_singleton_self _)
    simp only [Site.lower, Options.assemble_unguarded]
    refine o.alike_assemble_anywhere (h := { child.toHead with props := child.props ++ [carrier] })
      hsettled.kids_eq_nil ?_ hchild.chained hkids _
    simp [Head.isTransparent, Head.isBare]
  | none =>
    rw [Element.site_of_handedOn?_eq_none hand] at hkids ⊢
    have hclosed := he.kids_eq_nil
    cases hrole : e.role with
    | slotOutlet =>
      simp only [Site.lower, hrole, Options.lowerOutlet_unguarded]
      exact o.alike_lowerOutlet _ hclosed hkids
    | component =>
      simp only [Site.lower, hrole, Options.lowerComponent_unguarded]
      exact o.alike_lowerComponent hready (he.bound hrole) (he.named hrole) hclosed hkids
    | template =>
      simp only [Site.lower, hrole, Options.assemble_unguarded]
      exact o.alike_assemble (h := e.grouped) hclosed hkids
    | plain =>
      simp only [Site.lower, hrole, Options.isDelayed_unguarded, Options.assemble_unguarded,
        Bool.false_eq_true, if_false]
      split
      · exact o.alike_lowerDelayed hready hclosed hkids
      · exact o.alike_assemble hclosed hkids

/-- The markup of settled nodes is alike with and without guards. -/
theorem alike_lowerNodes (hready : r readyCondition = true) (nodes : List Node)
    (hsettled : Node.Every (Node.IsSettled o r) nodes) :
    Alike r none (lowerNodes o nodes) (lowerNodes o.unguarded nodes) := by
  revert hsettled
  refine nodes_induction
    (Q := fun e => e.IsSettled o r → Node.Every (Node.IsSettled o r) e.children →
      Alike r e.branch (lowerElement o e) (lowerElement o.unguarded e))
    ?nil ?text ?interpolation ?element ?group ?step nodes
  case nil =>
    intro _
    rw [lowerNodes_nil, lowerNodes_nil]
    exact ⟨.rfl, fun _ shown shown' => rfl⟩
  case text =>
    intro s rest ih hsettled
    rw [lowerNodes_text, lowerNodes_text]
    exact Alike.append (f := [.text s]) ⟨.rfl, fun _ shown shown' => rfl⟩
      (ih (Node.every_rest hsettled))
  case interpolation =>
    intro exp rest ih hsettled
    rw [lowerNodes, lowerNodes]
    refine Alike.append ?_ (ih (Node.every_rest hsettled))
    have hsame : lowerNode o.unguarded (.interpolation exp) = lowerNode o (.interpolation exp) := by
      rw [lowerNode, lowerNode]
      rfl
    rw [hsame, lowerNode]
    cases o.serialize exp <;> exact ⟨.rfl, fun _ shown shown' => rfl⟩
  case element =>
    intro e rest he ih hsettled
    obtain ⟨hnode, hbelow, hrest⟩ := Node.every_element_iff.mp hsettled
    rw [lowerNodes_element, lowerNodes_element]
    refine Alike.append ?_ (ih hrest)
    exact (he (hnode.elements e (List.mem_singleton_self _)) hbelow).alone hnode.chained
  case group =>
    intro branches rest hbranches ih hsettled
    obtain ⟨hnode, hbelow, hrest⟩ := Node.every_group_iff.mp hsettled
    rw [lowerNodes_group, lowerNodes_group]
    refine Alike.append ?_ (ih hrest)
    exact Alike.chain hnode.chained
      fun e he => hbranches e he (hnode.elements e he) (hbelow e he)
  case step =>
    intro e ih he hbelow
    exact alike_lowerElement hready he hbelow (ih (every_site_children hbelow))

end Settled

/-- **Readiness guards do not show.** Let the groups of a template be chains, its closed elements be
empty and all guards hold. Then the template has a text under the options exactly if it has one
without guards, and the same is seen of both forests. A component without anything on it that gets a
tag only for its guard has to get that of a block. -/
theorem guards_do_not_show (o : Options) (t : Template) (r : String → Bool)
    (hwf : t.IsWellFormed) (hready : r readyCondition = true)
    (hbound : ∀ e ∈ t.elements, e.role = .component →
      ∀ exp c, e.bound? "u-p" = some exp → o.serialize exp = .ok c → r c = true)
    (hnamed : ∀ e ∈ t.elements, e.role = .component → o.syncProperties = false →
      o.isNative e.tag = true → e.isTransparent = true → o.tagName e.toHead = "block") :
    ((∃ code, compile o t = .ok code) ↔ ∃ code, compile o.unguarded t = .ok code) ∧
    ∀ code, compile o t = .ok code →
      code = renderForest o.mark (lowerNodes o t.nodes) ∧
      compile o.unguarded t = .ok (renderForest o.mark (lowerNodes o.unguarded t.nodes)) ∧
      visibleForest r false (lowerNodes o t.nodes) =
        visibleForest r false (lowerNodes o.unguarded t.nodes) := by
  have hsettled : Node.Every (Node.IsSettled o r) t.nodes := by
    intro n hn
    refine ⟨hwf.chained n hn, fun e he => ?_⟩
    have hmem : e ∈ t.elements := List.mem_flatMap.mpr ⟨n, hn, he⟩
    exact ⟨hwf.closed_empty e hmem, hbound e hmem, hnamed e hmem⟩
  have halike := alike_lowerNodes hready t.nodes hsettled
  refine ⟨?_, fun code hcode => ?_⟩
  · rw [exists_compile_eq_ok_iff, exists_compile_eq_ok_iff, halike.sound_iff]
  · obtain ⟨hsound, hrender⟩ := (compile_eq_ok_iff o t code).mp hcode
    refine ⟨hrender, ?_, halike.seen hsound false false⟩
    exact (compile_eq_ok_iff ..).mpr ⟨halike.sound_iff.mp hsound, rfl⟩

/-- The guard of a delayed `input` goes inside its `else` block, that of the native `map` on its
tag, and `user` waits for what is bound to it. Where nothing but the guards holds, these three are
seen, as they are without guards. -/
theorem guards_do_not_show_else :
    visibleForest ["r0", "p"].contains false
      (lowerNodes
        { fileName := "t.wxml", mark := "wx:", isNative := (· == "map"),
          delay := some (.table [("input", .always)]) }
        [.group [⟨{ tag := "view", branch := some (.when "a") }, []⟩,
            ⟨{ tag := "input", branch := some .otherwise, selfClosing := true }, []⟩],
          .element ⟨{ tag := "map", role := .component }, [.text "x"]⟩,
          .element ⟨{ tag := "user", role := .component, props := [.bind "u-p" "p"] }, []⟩]) =
      [.tag "input" [] true [], .tag "map" [] false [.text "x"],
        .tag "user" [.assign "u-p" (mustache "p")] false []] := by
  refine Eq.trans ((guards_do_not_show _ ⟨_⟩ _ ⟨?_, ?_⟩ ?_ ?_ ?_).2 _ rfl).2.2 ?_
  · decide
  · decide
  · decide
  · intro e he _ exp c hexp hc
    simp only [Template.elements, Node.withinAll, Node.within, Element.belowAll, Node.elements,
      List.append_nil, List.nil_append, List.cons_append, List.flatMap_cons, List.flatMap_nil,
      List.mem_cons, List.not_mem_nil, or_false] at he
    rcases he with rfl | rfl | rfl | rfl
    all_goals cases hexp
    cases hc
    decide
  · decide
  · rfl

/-- A native component `block` without anything on it gets a tag only for its guard, under a name
that the hook for names has changed, and this tag is seen. -/
theorem guard_shows_on_renamed_block :
    Template.IsWellFormed ⟨[.element ⟨{ tag := "block", role := .component }, [.text "hi"]⟩]⟩ ∧
    compile
        { fileName := "t.wxml", mark := "wx:", isNative := (· == "block"),
          component := some { normalizeName := some ("x-" ++ ·) } }
        ⟨[.element ⟨{ tag := "block", role := .component }, [.text "hi"]⟩]⟩ =
      .ok "<x-block wx:if=\"\x7b\x7br0\x7d\x7d\">hi</x-block>" ∧
    visibleForest (fun _ => true) false
        (lowerNodes
          { fileName := "t.wxml", mark := "wx:", isNative := (· == "block"),
            component := some { normalizeName := some ("x-" ++ ·) } }
          [.element ⟨{ tag := "block", role := .component }, [.text "hi"]⟩]) =
      [.tag "x-block" [] false [.text "hi"]] ∧
    visibleForest (fun _ => true) false
        (lowerNodes
          (Options.unguarded
            { fileName := "t.wxml", mark := "wx:", isNative := (· == "block"),
              component := some { normalizeName := some ("x-" ++ ·) } })
          [.element ⟨{ tag := "block", role := .component }, [.text "hi"]⟩]) =
      [.text "hi"] :=
  ⟨⟨by decide, by decide⟩, rfl, rfl, rfl⟩

end MiniTemplate
