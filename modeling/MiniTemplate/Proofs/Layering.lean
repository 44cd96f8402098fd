import MiniTemplate.Config

/-!
# Configurations as layers

A configuration lies on the options of a dialect. What it sets is in force, what it does not mention
shows through from below, and the two lists of components are its own in any case. `Config.Over`
says this setting by setting; there is exactly one way to put a configuration on options, and it is
the one of the library (`Config.over_iff`).
-/

namespace MiniTemplate

/-- The value of a setting: what the upper layer sets, or else that of the lower one. -/
inductive Layer {α : Type} : Option α → α → α → Prop
  | set (lower upper : α) : Layer (some upper) lower upper
  | kept (lower : α) : Layer none lower lower

/-- A layer has one value. -/
theorem layer_iff {α : Type} {upper : Option α} {lower value : α} :
    Layer upper lower value ↔ value = upper.getD lower := by
  constructor
  · rintro (_ | _) <;> rfl
  · rintro rfl
    cases upper with
    | none => exact .kept lower
    | some upper => exact .set lower upper

/-- A setting that may be missing is set to be there. -/
theorem layer_some_iff {α : Type} {upper lower value : Option α} :
    Layer (upper.map some) lower value ↔ value = upper.or lower := by
  rw [layer_iff]
  cases upper <;> rfl

/-- The treatment of components is that of the overrides on top of another one. -/
structure ComponentConfig.Over (c : ComponentConfig) (lower k : ComponentOptions) : Prop where
  syncProperties : Layer c.syncProperties lower.syncProperties k.syncProperties
  mergeVirtualHost : Layer c.mergeVirtualHost lower.mergeVirtualHost k.mergeVirtualHost
  showAttribute : Layer (c.showAttribute.map some) lower.showAttribute k.showAttribute
  normalizeName : k.normalizeName = lower.normalizeName

/-- Overrides on top of a treatment of components give this treatment and no other. -/
theorem ComponentConfig.over_iff (c : ComponentConfig) (lower k : ComponentOptions) :
    c.Over lower k ↔ k = c.apply lower := by
  constructor
  · rintro ⟨hsync, hmerge, hshow, hnormalize⟩
    rw [layer_iff] at hsync hmerge
    rw [layer_some_iff] at hshow
    rw [apply, ← hsync, ← hmerge, ← hshow, ← hnormalize]
  · rintro rfl
    exact ⟨layer_iff.2 rfl, layer_iff.2 rfl, layer_some_iff.2 rfl, rfl⟩

/-- The options are those of the configuration on top of others. -/
structure Config.Over (c : Config) (lower o : Options) : Prop where
  mark : Layer c.mark lower.mark o.mark
  scopeId : Layer (c.scopeId.map some) lower.scopeId o.scopeId
  slotFallback : Layer c.slotFallback lower.slotFallback o.slotFallback
  delay : Layer ((c.delay.map DelayRule.table).map some) lower.delay o.delay
  /-- The overrides lie on the treatment of components below, or on the one that is used by
  default. -/
  component : ∀ cc, c.component = some cc →
    ∃ k, o.component = some k ∧ cc.Over (lower.component.getD {}) k
  componentKept : c.component = none → o.component = lower.component
  builtin : ∀ tag, o.isBuiltin tag = true ↔ tag ∈ c.builtin
  native : ∀ tag, o.isNative tag = true ↔ tag ∈ c.native
  fileName : o.fileName = lower.fileName
  event : o.event = lower.event
  serialize : o.serialize = lower.serialize

theorem eq_tagSet_iff {p : String → Bool} {tags : List String} :
    p = tagSet tags ↔ ∀ tag, p tag = true ↔ tag ∈ tags := by
  constructor
  · rintro rfl tag
    simp [tagSet]
  · intro h
    funext tag
    rw [Bool.eq_iff_iff, h, tagSet, List.contains_iff_mem]

/-- **Layering.** A configuration on top of options gives these options and no others: each of its
overrides is in force, and all else is kept. -/
theorem Config.over_iff (c : Config) (lower o : Options) : c.Over lower o ↔ o = c.apply lower := by
  constructor
  · intro h
    have hcomponent : o.component = (c.apply lower).component := by
      rw [apply]
      cases hc : c.component with
      | none => exact h.componentKept hc
      | some cc =>
        obtain ⟨k, hk, hover⟩ := h.component cc hc
        rw [hk, (cc.over_iff _ _).1 hover]
    have hmark := layer_iff.1 h.mark
    have hscope := layer_some_iff.1 h.scopeId
    have hfallback := layer_iff.1 h.slotFallback
    have hdelay := layer_some_iff.1 h.delay
    have hbuiltin := eq_tagSet_iff.2 h.builtin
    have hnative := eq_tagSet_iff.2 h.native
    obtain ⟨-, -, -, -, -, -, -, -, hfile, hevent, hserialize⟩ := h
    cases o
    simp_all [apply]
  · rintro rfl
    refine ⟨layer_iff.2 rfl, layer_some_iff.2 rfl, layer_iff.2 rfl, layer_some_iff.2 rfl, ?_, ?_,
      eq_tagSet_iff.1 rfl, eq_tagSet_iff.1 rfl, rfl, rfl, rfl⟩
    · intro cc hc
      exact ⟨cc.apply (lower.component.getD {}), by rw [apply, hc], (cc.over_iff _ _).2 rfl⟩
    · intro hc
      rw [apply, hc]

end MiniTemplate
