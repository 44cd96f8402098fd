import MiniTemplate.Files.Path

/-!
# Names of paths

The steps of a path are what counts on the way to it. Joining paths puts their steps side by side
(`steps_join`), and the parent of a path has the steps without the last one that leads somewhere
(`parent?_steps`); both start where the path starts. A path without idle names at its end is *tidy*,
and parents always are.
-/

namespace MiniTemplate

namespace Path

/-- The name leads to no new place: it stays where it is or goes back. -/
def isTurn (name : Name) : Bool := name == "." || name == ".."

/-- The system takes the path as it was written: it has no end of text inside and is not too
long. -/
structure Admissible (p : Path) : Prop where
  noNul : 0 ∉ p.bytes
  short : p.bytes.length < 4096

/-- No idle name stands at the end, unless nothing else is there. -/
def Tidy (p : Path) : Prop := trim p.rest = p.rest ∨ p.steps = []

theorem isTurn_eq_false_iff {name : Name} : isTurn name = false ↔ name ≠ "." ∧ name ≠ ".." := by
  simp [isTurn]

theorem isTurn_iff {name : Name} : isTurn name = true ↔ name = "." ∨ name = ".." := by
  simp [isTurn]

theorem turn_cases (name : Name) : name = "." ∨ name = ".." ∨ isTurn name = false := by
  grind [isTurn]

theorem isIdle_eq_false_iff {name : Name} : isIdle name = false ↔ name ≠ "" ∧ name ≠ "." := by
  simp [isIdle]

@[simp] theorem isStep_iff {name : Name} : isStep name = true ↔ name ≠ "" := by
  simp [isStep]

@[simp] theorem isStep_eq_false_iff {name : Name} : isStep name = false ↔ name = "" := by
  simp [isStep]

theorem isAbsolute_iff {p : Path} : p.isAbsolute = true ↔ p.first = "" ∧ p.rest ≠ [] := by
  simp [isAbsolute]

theorem isEmpty_iff {p : Path} : p.isEmpty = true ↔ p.first = "" ∧ p.rest = [] := by
  simp [isEmpty]

/-! ## Trimming -/

theorem trim_of_rest {name : Name} {rest : List Name} (h : trim rest ≠ []) :
    trim (name :: rest) = name :: trim rest := by
  rw [trim]
  split
  · contradiction
  · rfl

/-- What is trimmed is idle, and stands at the end. -/
theorem trim_append (names : List Name) :
    ∃ idle, names = trim names ++ idle ∧ ∀ name ∈ idle, isIdle name = true := by
  induction names with
  | nil => exact ⟨[], rfl, by simp⟩
  | cons name rest ih =>
    obtain ⟨idle, hrest, hidle⟩ := ih
    by_cases ht : trim rest = []
    · rw [ht, List.nil_append] at hrest
      subst hrest
      cases hname : isIdle name with
      | true => exact ⟨name :: rest, by simp [trim, ht, hname], by simpa [hname] using hidle⟩
      | false => exact ⟨rest, by simp [trim, ht, hname], hidle⟩
    · refine ⟨idle, ?_, hidle⟩
      rw [trim_of_rest ht, List.cons_append, ← hrest]

theorem trim_concat {name : Name} (h : isIdle name = false) (names : List Name) :
    trim (names ++ [name]) = names ++ [name] := by
  induction names with
  | nil => simp [trim, h]
  | cons first rest ih =>
    rw [List.cons_append, trim_of_rest (by simp [ih]), ih]

theorem trim_trim (names : List Name) : trim (trim names) = trim names := by
  by_cases h : trim names = []
  · simp [h, trim]
  · rw [← List.dropLast_concat_getLast h]
    exact trim_concat (getLast_trim h) _

/-! ## Steps -/

theorem steps_eq (p : Path) :
    p.steps = (if p.first = "" then [] else [p.first]) ++ p.rest.filter isStep := by
  unfold steps
  by_cases h : p.first = "" <;> simp [h]

theorem steps_of_isEmpty {p : Path} (h : p.isEmpty = true) : p.steps = [] := by
  obtain ⟨hfirst, hrest⟩ := isEmpty_iff.1 h
  simp [steps_eq, hfirst, hrest]

theorem isEmpty_of_steps_ne_nil {p : Path} (h : p.steps ≠ []) : p.isEmpty = false := by
  cases hempty : p.isEmpty with
  | false => rfl
  | true => exact absurd (steps_of_isEmpty hempty) h

theorem eq_dot_of_mem_filter {idle : List Name} (h : ∀ name ∈ idle, isIdle name = true) :
    ∀ name ∈ idle.filter isStep, name = "." := by
  intro name hname
  obtain ⟨hmem, hne⟩ := List.mem_filter.1 hname
  have hidle := h name hmem
  simp_all [isIdle]

theorem filter_withoutFinalSlash (names : List Name) :
    (withoutFinalSlash names).filter isStep = names.filter isStep := by
  fun_induction withoutFinalSlash names with
  | case1 => rfl
  | case2 => rfl
  | case3 name h => rfl
  | case4 name rest h ih => rw [List.filter_cons, List.filter_cons, ih]

/-- The steps of a path as seen from a directory come after those of the directory. -/
theorem steps_join {p : Path} (h : p.isAbsolute = false) (dir : Path) :
    (dir.join p).steps = dir.steps ++ p.steps := by
  unfold join
  cases hdir : dir.isEmpty with
  | true =>
    obtain ⟨hfirst, hrest⟩ := isEmpty_iff.1 hdir
    simp [steps_eq dir, hfirst, hrest]
  | false =>
    rw [h]
    simp only [Bool.or_self, Bool.false_eq_true, if_false]
    rw [steps_eq, steps_eq dir]
    simp only [List.filter_append, filter_withoutFinalSlash, List.append_assoc]
    rfl

/-- A path inside a directory is absolute if the directory is. -/
theorem isAbsolute_join {p : Path} (h : p.isAbsolute = false) (dir : Path) :
    (dir.join p).isAbsolute = dir.isAbsolute := by
  unfold join
  rw [h, Bool.false_or]
  cases hdir : dir.isEmpty with
  | true =>
    obtain ⟨-, hrest⟩ := isEmpty_iff.1 hdir
    rw [if_pos rfl, h, isAbsolute, hrest]
    simp
  | false =>
    have hsome : dir.first = "" → dir.rest ≠ [] := by simpa [isEmpty] using hdir
    rw [if_neg (by simp), Bool.eq_iff_iff, isAbsolute_iff, isAbsolute_iff]
    exact ⟨fun ⟨hfirst, _⟩ => ⟨hfirst, hsome hfirst⟩, fun ⟨hfirst, _⟩ => ⟨hfirst, by simp⟩⟩

/-! ## Parents -/

/-- What the path above another one can be: the empty path, the root, or the names up to one that
leads somewhere. -/
theorem parent?_cases {p q : Path} (h : p.parent? = some q) :
    (p.first ≠ "" ∧ trim p.rest = [] ∧ q = empty) ∨
    ∃ up idle name, trim p.rest = up ++ idle ++ [name] ∧ isIdle name = false ∧
      (∀ n ∈ idle, isIdle n = true) ∧ trim up = up ∧
      q = if up = [] then (if p.first = "" then ⟨"", [""]⟩ else ⟨p.first, []⟩)
        else ⟨p.first, up⟩ := by
  unfold parent? at h
  split at h
  · next ht =>
    split at h
    · cases h
    · next hfirst =>
      cases h
      exact .inl ⟨hfirst, ht, rfl⟩
  · next name more ht =>
    right
    rw [← ht] at h
    have hne : trim p.rest ≠ [] := by simp [ht]
    obtain ⟨idle, hsplit, hidle⟩ := trim_append (trim p.rest).dropLast
    refine ⟨trim (trim p.rest).dropLast, idle, (trim p.rest).getLast hne, ?_, getLast_trim hne,
      hidle, trim_trim _, ?_⟩
    · rw [← hsplit, List.dropLast_concat_getLast]
    · split at h
      · next hup =>
        cases h
        rw [if_pos hup]
      · next up hup =>
        cases h
        rw [if_neg hup]

/-- A parent starts where the path starts. -/
theorem isAbsolute_parent? {p q : Path} (h : p.parent? = some q) :
    q.isAbsolute = p.isAbsolute := by
  obtain ⟨hfirst, -, rfl⟩ | ⟨up, idle, name, htrim, -, -, -, rfl⟩ := parent?_cases h
  · simp [isAbsolute, empty, hfirst]
  · have hrest : p.rest ≠ [] := by
      intro hnil
      simp [hnil, trim] at htrim
    rw [Bool.eq_iff_iff, isAbsolute_iff, isAbsolute_iff]
    by_cases hup : up = [] <;> by_cases hfirst : p.first = "" <;> simp [hup, hfirst, hrest]

/-- A path above another one has no idle names at its end. -/
theorem tidy_parent? {p q : Path} (h : p.parent? = some q) : q.Tidy := by
  obtain ⟨-, -, rfl⟩ | ⟨up, idle, name, -, -, -, hup, rfl⟩ := parent?_cases h
  · exact .inl rfl
  · by_cases hnil : up = []
    · rw [if_pos hnil]
      by_cases hfirst : p.first = ""
      · rw [if_pos hfirst]
        exact .inr rfl
      · rw [if_neg hfirst]
        exact .inl rfl
    · rw [if_neg hnil]
      exact .inl hup

/-- Between the steps of a parent and the last step of the path only idle names stand, and behind
the last step too. -/
theorem parent?_steps {p q : Path} (h : p.parent? = some q) :
    ∃ (idle : List Name) (name : Name) (behind : List Name),
      p.steps = q.steps ++ idle ++ name :: behind ∧
      (∀ n ∈ idle, n = ".") ∧ (∀ n ∈ behind, n = ".") ∧ (trim p.rest = p.rest → behind = []) := by
  obtain ⟨tail, hrest, htail⟩ := trim_append p.rest
  have hbehind : trim p.rest = p.rest → tail.filter isStep = [] := by
    intro htidy
    rw [htidy] at hrest
    have hnil : tail = [] := List.append_right_eq_self.1 hrest.symm
    simp [hnil]
  obtain ⟨hfirst, htrim, rfl⟩ | ⟨up, idle, name, htrim, hname, hidle, -, rfl⟩ := parent?_cases h
  · refine ⟨[], p.first, tail.filter isStep, ?_, by simp, eq_dot_of_mem_filter htail, hbehind⟩
    rw [htrim, List.nil_append] at hrest
    rw [steps_eq, if_neg hfirst, hrest]
    rfl
  · refine ⟨idle.filter isStep, name, tail.filter isStep, ?_, eq_dot_of_mem_filter hidle,
      eq_dot_of_mem_filter htail, hbehind⟩
    have hkept : isStep name = true := isStep_iff.2 (isIdle_eq_false_iff.1 hname).1
    rw [steps_eq p, hrest, htrim]
    by_cases hup : up = [] <;> by_cases hfirst : p.first = "" <;>
      simp [steps_eq, hup, hfirst, hkept]

/-- Every step of a parent comes before the last step of the path. -/
theorem steps_parent?_isPrefix {p q : Path} (h : p.parent? = some q) :
    q.steps <+: p.steps.dropLast := by
  obtain ⟨idle, name, behind, hsteps, -, -, -⟩ := parent?_steps h
  rw [hsteps, List.dropLast_append_of_ne_nil (by simp), List.append_assoc]
  exact List.prefix_append _ _

theorem steps_parent?_subset {p q : Path} (h : p.parent? = some q) : q.steps ⊆ p.steps :=
  List.Subset.trans (steps_parent?_isPrefix h).subset (List.dropLast_subset _)

/-- A tidy path has the steps of its parent, perhaps idle names, and one more step. -/
theorem Tidy.dropLast_steps {p q : Path} (ht : p.Tidy) (h : p.parent? = some q) :
    ∃ idle : List Name, p.steps.dropLast = q.steps ++ idle ∧ ∀ n ∈ idle, n = "." := by
  obtain ⟨idle, name, behind, hsteps, hidle, -, hbehind⟩ := parent?_steps h
  rcases ht with ht | ht
  · refine ⟨idle, ?_, hidle⟩
    rw [hsteps, hbehind ht, List.dropLast_concat]
  · simp [ht] at hsteps

theorem Tidy.steps_of_parent?_eq_none {p : Path} (ht : p.Tidy) (h : p.parent? = none) :
    p.steps = [] := by
  rcases ht with ht | ht
  · unfold parent? at h
    split at h
    · next hnil =>
      split at h
      · next hfirst =>
        rw [ht] at hnil
        simp [steps_eq, hfirst, hnil]
      · cases h
    · split at h <;> cases h
  · exact ht

/-! ## Bytes -/

/-- A path is kept as it was written. -/
theorem bytes_ofBytes (bytes : List UInt8) : (ofBytes bytes).bytes = bytes := by
  have h : (names bytes).1 ++ (names bytes).2.flatMap (Name.slash :: ·) = bytes := by
    induction bytes with
    | nil => rfl
    | cons b bytes ih =>
      rw [names]
      by_cases hb : b = Name.slash
      · simpa [hb] using ih
      · simpa [hb] using ih
  rw [Path.bytes, ofBytes, List.flatMap_map]
  exact h

/-- A parent is written with bytes of the path. -/
theorem bytes_parent?_sublist {p q : Path} (h : p.parent? = some q) :
    q.bytes.Sublist p.bytes := by
  obtain ⟨-, -, rfl⟩ | ⟨up, idle, name, htrim, -, -, -, rfl⟩ := parent?_cases h
  · exact List.nil_sublist _
  · obtain ⟨tail, hrest, -⟩ := trim_append p.rest
    rw [htrim, List.append_assoc, List.append_assoc] at hrest
    by_cases hup : up = []
    · rw [if_pos hup]
      split
      · next hfirst =>
        -- only the slash at the front is left
        have hne : p.rest ≠ [] := by simp [hrest]
        obtain ⟨next, more, hmore⟩ := List.exists_cons_of_ne_nil hne
        simp [bytes, hfirst, hmore, Name.ofText]
      · simp [bytes]
    · rw [if_neg hup]
      simp [bytes, hrest]

/-- The system takes a parent, if it takes the path. -/
theorem Admissible.parent? {p q : Path} (hp : p.Admissible) (h : p.parent? = some q) :
    q.Admissible := by
  have hsub := bytes_parent?_sublist h
  exact ⟨fun hmem => hp.noNul (hsub.subset hmem), Nat.lt_of_le_of_lt hsub.length_le hp.short⟩

/-- Names are cut at slashes, so that none is left in them. -/
theorem noSlash_of_mem_names (bytes : List UInt8) :
    Name.slash ∉ (names bytes).1 ∧ ∀ name ∈ (names bytes).2, Name.slash ∉ name := by
  induction bytes with
  | nil => simp [names]
  | cons b rest ih =>
    obtain ⟨hfirst, hrest⟩ := ih
    rw [names]
    by_cases hb : b = Name.slash
    · simp only [hb, if_true]
      exact ⟨by simp, by simpa using ⟨hfirst, hrest⟩⟩
    · simp only [hb, if_false]
      exact ⟨by simpa [eq_comm, hfirst] using hb, hrest⟩

/-- The names of a path that was written have no slash in them. -/
theorem noSlash_ofBytes (bytes : List UInt8) :
    ∀ name ∈ (ofBytes bytes).first :: (ofBytes bytes).rest, Name.slash ∉ name.bytes := by
  obtain ⟨hfirst, hrest⟩ := noSlash_of_mem_names bytes
  intro name hname
  rcases List.mem_cons.1 hname with rfl | hname
  · exact hfirst
  · obtain ⟨other, hother, rfl⟩ := List.mem_map.1 hname
    exact hrest other hother

/-- Bytes without a slash are a single name. -/
theorem ofBytes_of_noSlash {bytes : List UInt8} (h : Name.slash ∉ bytes) :
    ofBytes bytes = ⟨⟨bytes⟩, []⟩ := by
  have hnames : names bytes = (bytes, []) := by
    induction bytes with
    | nil => rfl
    | cons b rest ih =>
      obtain ⟨hb, hrest⟩ : Name.slash ≠ b ∧ Name.slash ∉ rest := by simpa using h
      rw [names, ih hrest]
      simp [hb.symm]
  simp [ofBytes, hnames]

/-! ## File names -/

/-- A path that ends with a name, and with no slash after it, has this name in the last place. -/
theorem last_cases {p : Path} {name : Name} (hlast : p.steps.getLast? = some name)
    (hturn : isTurn name = false) (hslash : p.endsWithSlash = false) :
    isIdle name = false ∧
      ((p.rest = [] ∧ p.first = name) ∨ ∃ init, p.rest = init ++ [name]) := by
  have hne : name ≠ "" := by
    have hmem := List.mem_of_getLast? hlast
    simpa using (List.mem_filter.1 hmem).2
  refine ⟨isIdle_eq_false_iff.2 ⟨hne, (isTurn_eq_false_iff.1 hturn).1⟩, ?_⟩
  rcases List.eq_nil_or_concat p.rest with hrest | ⟨init, final, hrest⟩
  · left
    by_cases hf : p.first = "" <;> simp_all [steps_eq]
  · right
    rw [List.concat_eq_append] at hrest
    have hfinal : final ≠ "" := by simpa [endsWithSlash, hrest] using hslash
    have hname : final = name := by simpa [steps_eq, hrest, hfinal] using hlast
    exact ⟨init, hname ▸ hrest⟩

/-- A path that ends with the name of something is tidy. -/
theorem tidy_of_getLast? {p : Path} {name : Name} (hlast : p.steps.getLast? = some name)
    (hturn : isTurn name = false) (hslash : p.endsWithSlash = false) : p.Tidy := by
  obtain ⟨hidle, ⟨hrest, -⟩ | ⟨init, hrest⟩⟩ := last_cases hlast hturn hslash
  · exact .inl (by rw [hrest, trim])
  · exact .inl (by rw [hrest, trim_concat hidle])

/-- The last step of a path that can be that of a file is its file name. -/
theorem fileName?_of_getLast? {p : Path} {name : Name} (hlast : p.steps.getLast? = some name)
    (hturn : isTurn name = false) (hslash : p.endsWithSlash = false) :
    p.fileName? = some name ∧ name ∈ p.first :: p.rest := by
  have hdots := (isTurn_eq_false_iff.1 hturn).2
  obtain ⟨hidle, ⟨hrest, hfirst⟩ | ⟨init, hrest⟩⟩ := last_cases hlast hturn hslash
  · simp [fileName?, hrest, trim, hfirst, hidle, hdots]
  · simp [fileName?, hrest, trim_concat hidle, hdots]

theorem beforeLastDot?_sublist {bytes before : List UInt8}
    (h : beforeLastDot? bytes = some before) : before.Sublist bytes := by
  induction bytes generalizing before with
  | nil => simp [beforeLastDot?] at h
  | cons b rest ih =>
    rw [beforeLastDot?] at h
    split at h
    · next found hfound =>
      cases h
      exact (ih hfound).cons_cons b
    · split at h <;> cases h
      exact List.nil_sublist _

theorem stem_sublist (name : Name) : (stem name).bytes.Sublist name.bytes := by
  unfold stem
  split
  · exact List.Sublist.refl _
  · exact List.Sublist.refl _
  · next before hbefore => exact beforeLastDot?_sublist hbefore

end Path

end MiniTemplate
