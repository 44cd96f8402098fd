/-!
# Runs of calls

An action is called with one argument after the other, on a state that is handed on from each call
to the next. A run is the list of its calls (`Call.all`) with the state at the end (`Call.final`).
What holds at the start and is kept by every single call holds at the end of every run
(`run_induction`); the calls made so far may be part of what is kept.
-/

namespace MiniTemplate

/-- A call of an action: what was given to it, its answer, and the states before and after. -/
structure Call (σ α β : Type) where
  given : α
  before : σ
  answer : β
  after : σ

namespace Call

variable {σ α β : Type}

def of (f : α → StateM σ β) (s : σ) (a : α) : Call σ α β :=
  ⟨a, s, ((f a).run s).1, ((f a).run s).2⟩

def all (f : α → StateM σ β) (s : σ) : List α → List (Call σ α β)
  | [] => []
  | a :: rest => of f s a :: all f (of f s a).after rest

/-- The state after calls with one argument after the other. -/
def final (f : α → StateM σ β) (s : σ) : List α → σ
  | [] => s
  | a :: rest => final f (of f s a).after rest

/-- What holds before the first call, and is kept by one more call, holds after any number of them.
-/
theorem run_induction {f : α → StateM σ β} {s : σ} {P : List (Call σ α β) → σ → Prop}
    (start : P [] s)
    (step : ∀ calls t a, P calls t → P (calls ++ [of f t a]) (of f t a).after) (args : List α) :
    P (all f s args) (final f s args) := by
  -- the calls made so far go in front
  suffices h : ∀ calls t, P calls t → P (calls ++ all f t args) (final f t args) from h [] s start
  induction args with
  | nil =>
    intro calls t ht
    rw [all, final, List.append_nil]
    exact ht
  | cons a rest ih =>
    intro calls t ht
    have hrest := ih _ _ (step calls t a ht)
    rwa [List.append_assoc, List.singleton_append] at hrest

/-- Every call of a run is one of the action, with some state before it. -/
theorem eq_of_mem_all {f : α → StateM σ β} {s : σ} {args : List α} {c : Call σ α β}
    (h : c ∈ all f s args) : c = of f c.before c.given := by
  induction args generalizing s with
  | nil => cases h
  | cons a rest ih =>
    rcases List.mem_cons.1 h with rfl | h
    · rfl
    · exact ih h

theorem map_given_all (f : α → StateM σ β) (s : σ) (args : List α) :
    (all f s args).map given = args := by
  induction args generalizing s with
  | nil => rfl
  | cons a rest ih => rw [all, List.map_cons, ih, of]

/-- What was given to the calls that succeeded. -/
def taken {ε : Type} (calls : List (Call σ α (Except ε β))) : List α :=
  (calls.filter (·.answer.isOk)).map given

theorem taken_concat {ε : Type} (calls : List (Call σ α (Except ε β)))
    (c : Call σ α (Except ε β)) :
    taken (calls ++ [c]) = taken calls ++ if c.answer.isOk then [c.given] else [] := by
  unfold taken
  cases h : c.answer.isOk <;> simp [h]

end Call

end MiniTemplate
