import MiniTemplate.Proofs.Placement

/-!
# The order of attributes on a tag

The attributes of a tag stand in a fixed order: a condition, then a repetition, then what the
properties of the element give, one property after the other. A repetition is one group, of which
the key is the last part, and the key is taken from the properties.

    <view wx:for="list" wx:for-item="it" wx:key="id" class="row" bind:tap="go">

No tag has both a condition and a repetition. `Attr.InOrder` says this of the attributes of a tag,
by what the head of its element has: the two never meet, because the condition of a repeated element
goes to a block, whose only child is the repeated tag (`HoistsCondition`).
-/

namespace MiniTemplate

open Markup

/-- The attributes of a repetition: `for`, `for-item`, `for-index` and `key`, in this order and as
far as there are any. -/
def Loop.group (l : Loop) (key : Option String) : List Attr :=
  .loop .source l.source ::
    (l.item.toList.map (.loop .item) ++
      (if l.item = some "index" then [.loop .index (l.index.getD "")] else []) ++
      key.toList.map (.loop .key))

/-- The properties that become attributes of their own. A repeated element gives its first key to
the repetition. -/
def Head.remaining (h : Head) : List Property :=
  match h.loop with
  | none => h.props
  | some _ => h.props.eraseP (·.sets "key" true)

/-- The attributes made from the remaining properties, one property after the other. -/
def Options.fragments (o : Options) (h : Head) : List Attr :=
  h.remaining.flatMap (o.ownPropertyAttrs h)

namespace Loop

/-- The key comes after what the repetition itself asks for. -/
theorem group_eq (l : Loop) (key : Option String) :
    l.group key = l.attrs ++ key.toList.map (.loop .key) := by
  cases hi : l.item with
  | none => simp [group, attrs, hi]
  | some item => by_cases hx : item = "index" <;> simp [group, attrs, hi, hx]

theorem exists_of_mem_group {l : Loop} {key : Option String} {a : Attr} (ha : a ∈ l.group key) :
    ∃ part value, a = .loop part value := by
  rw [group_eq] at ha
  rcases List.mem_append.mp ha with ha | ha
  · obtain ⟨part, value, heq, -⟩ := exists_of_mem_attrs ha
    exact ⟨part, value, heq⟩
  · obtain ⟨value, -, rfl⟩ := List.mem_map.mp ha
    exact ⟨_, _, rfl⟩

end Loop

namespace Options

variable {o : Options} {h : Head}

theorem isControl_of_mem_fragments {a : Attr} (ha : a ∈ o.fragments h) : a.isControl = false := by
  obtain ⟨p, -, ha⟩ := List.mem_flatMap.mp ha
  exact o.isControl_of_mem_propertyAttrs h _ p a ha

/-- Without a repetition nothing stands in front of what the properties give. -/
theorem ownAttrs_eq_fragments (hl : h.loop = none) : o.ownAttrs h = o.fragments h := by
  rw [o.ownAttrs_of_loop_eq_none hl, fragments, Head.remaining, hl]

/-- Without a key there is nothing to take from the properties. -/
theorem eraseP_key_eq_self (hkey : h.bound? "key" = none) :
    h.props.eraseP (·.sets "key" true) = h.props := by
  apply List.eraseP_of_forall_not
  intro p hp
  rw [p.sets_eq_isSome_bound?, List.findSome?_eq_none_iff.mp hkey p hp]
  simp

/-- A repeated element whose key has a text has the group of its repetition and then what the
remaining properties give. -/
theorem ownAttrs_of_loop_eq_some {l : Loop} (hl : h.loop = some l)
    (htext : ∀ exp, h.bound? "key" = some exp → ∃ text, o.serialize exp = .ok text) :
    ∃ key : Option String, key.isSome = (h.bound? "key").isSome ∧
      o.ownAttrs h = l.group key ++ o.fragments h := by
  have hown : o.ownAttrs h =
      (o.repetition h).attrs ++ (o.repetition h).props.flatMap (o.ownPropertyAttrs h) := rfl
  have hremaining : h.remaining = h.props.eraseP (·.sets "key" true) := by
    rw [Head.remaining, hl]
  rw [hown, o.repetition_of_loop hl, fragments, hremaining]
  cases hkey : h.bound? "key" with
  | none =>
    refine ⟨none, rfl, ?_⟩
    rw [eraseP_key_eq_self hkey, Loop.group_eq]
    simp
  | some exp =>
    obtain ⟨text, hser⟩ := htext exp hkey
    refine ⟨some (keyText text), rfl, ?_⟩
    rw [Loop.group_eq]
    simp [hser]

/-- The key of a repeated element without a fault has a text, since otherwise it is itself a fault
on the tag. -/
theorem exists_key_text {l : Loop} (hl : h.loop = some l)
    (hsound : ∀ f, .fault f ∉ o.ownAttrs h) (exp : Expression) (hkey : h.bound? "key" = some exp) :
    ∃ text, o.serialize exp = .ok text := by
  cases hser : o.serialize exp with
  | ok text => exact ⟨text, rfl⟩
  | error e =>
    refine absurd ?_ (hsound (.expression e))
    simp [ownAttrs, o.repetition_of_loop hl, hkey, hser]

end Options

end MiniTemplate
