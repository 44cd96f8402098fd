import MiniTemplate.Files.Disk
import MiniTemplate.Proofs.Paths

/-!
# Where paths lead

Without links, the names of a path settle where it leads, whatever is on the disk: `.` stays, `..`
goes up and every other name goes down (`Disk.location`). What is on the disk decides only whether
the path can be walked: the locations that it goes down to, its *way*, have to be directories, the
last one apart (`Disk.Open`).

* `walk_eq_ok_iff`: names can be walked exactly if the way is open, and then they lead to where the
  names say.
* `resolve_eq_name_iff`, `isDir_iff`, `makeDir_eq_ok_iff`, `write_eq_ok_iff`, `read_eq_ok_iff`: when
  an operation succeeds, and what it does then. All later proofs go through these.
-/

namespace MiniTemplate

namespace Location

def step (l : Location) (name : Name) : Location :=
  if name = "." then l else if name = ".." then l.tail else name :: l

def follow (l : Location) (names : List Name) : Location := names.foldl step l

/-- The locations that names go down to, one after the other. -/
def way (l : Location) : List Name → List Location
  | [] => []
  | name :: rest =>
    if Path.isTurn name then way (step l name) rest else (name :: l) :: way (name :: l) rest

theorem step_of_not_turn {name : Name} (h : Path.isTurn name = false) (l : Location) :
    step l name = name :: l := by
  have hname := Path.isTurn_eq_false_iff.1 h
  rw [step, if_neg hname.1, if_neg hname.2]

theorem follow_append (l : Location) (names more : List Name) :
    follow l (names ++ more) = follow (follow l names) more :=
  List.foldl_append

theorem follow_concat (l : Location) (names : List Name) (name : Name) :
    follow l (names ++ [name]) = step (follow l names) name :=
  follow_append l names [name]

/-- A way goes on from where its first part leads. -/
theorem way_append (l : Location) (names more : List Name) :
    way l (names ++ more) = way l names ++ way (follow l names) more := by
  induction names generalizing l with
  | nil => rfl
  | cons name rest ih =>
    rw [List.cons_append, way, way]
    by_cases h : Path.isTurn name
    · rw [if_pos h, if_pos h, ih]
      rfl
    · rw [if_neg h, if_neg h, ih, List.cons_append]
      have hstep := step_of_not_turn (by simpa using h) l
      rw [follow, follow, List.foldl_cons, hstep]

/-- Names that end by going down go down to where they lead, last of all. -/
theorem way_of_getLast? {names : List Name} {last : Name} (hlast : names.getLast? = some last)
    (hturn : Path.isTurn last = false) (l : Location) :
    way l names = way l names.dropLast ++ [follow l names] := by
  obtain ⟨init, rfl⟩ := List.getLast?_eq_some_iff.1 hlast
  rw [List.dropLast_concat, way_append, follow_concat, step_of_not_turn hturn, way,
    if_neg (by simp [hturn]), way]

theorem way_subset_of_prefix {names more : List Name} (h : names <+: more) (l : Location) :
    way l names ⊆ way l more := by
  obtain ⟨rest, rfl⟩ := h
  rw [way_append]
  exact List.subset_append_left _ _

/-- Names that stay where they are can be left out. -/
theorem way_append_of_idle {idle : List Name} (h : ∀ name ∈ idle, name = ".") (l : Location)
    (names : List Name) : way l (names ++ idle) = way l names := by
  rw [way_append]
  suffices hway : ∀ l, way l idle = [] by rw [hway, List.append_nil]
  induction idle with
  | nil => exact fun l => rfl
  | cons name rest ih =>
    intro l
    obtain rfl := h name List.mem_cons_self
    exact ih (fun n hn => h n (List.mem_cons_of_mem _ hn)) l

end Location

namespace Disk

/-! ## Entries -/

theorem get?_insert {k : Location} (hk : k ≠ []) (d : Disk) (l : Location) (e : Entry) :
    (d.insert k e).get? l = if l = k then some e else d.get? l := by
  unfold get? insert
  by_cases hl : l = k
  · subst hl
    simp [hk]
  · rw [if_neg hl]
    by_cases hroot : l.isEmpty
    · rw [if_pos hroot, if_pos hroot]
    · have hne : (l == k) = false := by simpa using hl
      rw [if_neg hroot, if_neg hroot, List.lookup_cons, hne]
      induction d.entries with
      | nil => rfl
      | cons x rest ih =>
        by_cases hx : x.1 = k
        · have hlx : (l == x.1) = false := by simpa [hx] using hl
          rw [List.filter_cons_of_neg (by simp [hx]), List.lookup_cons, hlx]
          exact ih
        · rw [List.filter_cons_of_pos (by simp [hx]), List.lookup_cons, List.lookup_cons]
          cases l == x.1 with
          | true => rfl
          | false => exact ih

def location (d : Disk) (p : Path) : Location := (d.origin p).follow p.steps

/-- The locations that a path goes down to, one after the other. -/
def wayTo (d : Disk) (p : Path) : List Location := (d.origin p).way p.steps

/-- The locations that a path goes down to before its last name. -/
def wayAbove (d : Disk) (p : Path) : List Location := (d.origin p).way p.steps.dropLast

theorem origin_congr {d d' : Disk} (h : d'.workDir = d.workDir) (p : Path) :
    d'.origin p = d.origin p := by
  rw [origin, origin, h]

/-! ## Walking -/

/-- Names can be walked from a location: each is short enough, and all that they go down to are
directories. -/
structure Open (d : Disk) (l : Location) (names : List Name) : Prop where
  short : ∀ name ∈ names, isTooLong name = false
  directories : ∀ m ∈ l.way names, d.get? m = some .directory

theorem isTooLong_of_turn {name : Name} (h : Path.isTurn name = true) :
    isTooLong name = false := by
  rcases Path.isTurn_iff.1 h with rfl | rfl <;> decide

theorem open_nil (d : Disk) (l : Location) : d.Open l [] :=
  ⟨by simp, by simp [Location.way]⟩

/-- Names can be walked if the first of them can, and then the others from where these lead. -/
theorem open_append_iff {d : Disk} {l : Location} {names more : List Name} :
    d.Open l (names ++ more) ↔ d.Open l names ∧ d.Open (l.follow names) more := by
  constructor
  · intro h
    obtain ⟨hshort, hdirs⟩ := h
    rw [Location.way_append] at hdirs
    exact ⟨⟨fun n hn => hshort n (List.mem_append_left _ hn),
        fun m hm => hdirs m (List.mem_append_left _ hm)⟩,
      ⟨fun n hn => hshort n (List.mem_append_right _ hn),
        fun m hm => hdirs m (List.mem_append_right _ hm)⟩⟩
  · rintro ⟨⟨hshort, hdirs⟩, ⟨hshort', hdirs'⟩⟩
    constructor
    · intro n hn
      exact (List.mem_append.1 hn).elim (hshort n) (hshort' n)
    · intro m hm
      rw [Location.way_append] at hm
      exact (List.mem_append.1 hm).elim (hdirs m) (hdirs' m)

theorem open_turn {name : Name} (h : Path.isTurn name = true) (d : Disk) (l : Location) :
    d.Open l [name] := by
  refine ⟨?_, ?_⟩
  · intro n hn
    obtain rfl := List.mem_singleton.1 hn
    exact isTooLong_of_turn h
  · simp [Location.way, h]

/-- A name can be walked if it leads to a directory. -/
theorem open_name_iff {name : Name} (h : Path.isTurn name = false) (d : Disk) (l : Location) :
    d.Open l [name] ↔ isTooLong name = false ∧ d.get? (name :: l) = some .directory := by
  constructor
  · intro ho
    exact ⟨ho.short name List.mem_cons_self, ho.directories _ (by simp [Location.way, h])⟩
  · rintro ⟨hshort, hdir⟩
    exact ⟨by simpa using hshort, by simpa [Location.way, h] using hdir⟩

/-- A way stays open as long as no directory goes away. -/
theorem Open.mono {d d' : Disk} {l : Location} {names : List Name} (ho : d.Open l names)
    (h : ∀ m, d.get? m = some .directory → d'.get? m = some .directory) : d'.Open l names :=
  ⟨ho.short, fun m hm => h m (ho.directories m hm)⟩

theorem Open.append_idle {d : Disk} {l : Location} {names idle : List Name}
    (ho : d.Open l names) (h : ∀ name ∈ idle, name = ".") : d.Open l (names ++ idle) := by
  refine ⟨fun name hname => ?_, ?_⟩
  · rcases List.mem_append.1 hname with hname | hname
    · exact ho.short name hname
    · rw [h name hname]
      exact isTooLong_of_turn rfl
  · rw [Location.way_append_of_idle h]
    exact ho.directories

theorem enter_eq_ok_iff {d : Disk} {l next : Location} {name : Name} :
    d.enter l name = .ok next ↔ d.Open l [name] ∧ next = l.step name := by
  rcases Path.turn_cases name with rfl | rfl | hturn
  · simp [enter, Location.step, open_turn, Path.isTurn, eq_comm]
  · simp [enter, Location.step, open_turn, Path.isTurn, eq_comm]
  · have hname := Path.isTurn_eq_false_iff.1 hturn
    rw [open_name_iff hturn, Location.step_of_not_turn hturn, enter, if_neg hname.1,
      if_neg hname.2, child?]
    cases hlong : isTooLong name with
    | true => simp
    | false =>
      rcases hget : d.get? (name :: l) with _ | ⟨_ | content⟩ <;> simp [eq_comm]

/-- Walking names succeeds exactly where they can be walked, and leads where they lead. -/
theorem walk_eq_ok_iff {d : Disk} {l m : Location} {names : List Name} :
    d.walk l names = .ok m ↔ d.Open l names ∧ m = l.follow names := by
  induction names generalizing l with
  | nil => simp [walk, open_nil, Location.follow, eq_comm]
  | cons name rest ih =>
    rw [walk, ← List.singleton_append, open_append_iff, Location.follow_append]
    have hfollow : l.follow [name] = l.step name := rfl
    rw [hfollow]
    cases hstep : d.enter l name with
    | ok next =>
      obtain ⟨ho, rfl⟩ := enter_eq_ok_iff.1 hstep
      simp only [ih, ho, true_and]
    | error f =>
      have hclosed : ¬ d.Open l [name] := by
        intro ho
        have hok := enter_eq_ok_iff.2 ⟨ho, rfl⟩
        rw [hstep] at hok
        cases hok
      simp [hclosed]

/-! ## What operations do -/

/-- A path that leads somewhere has a text that the system takes. -/
theorem admissible_of_resolve {d : Disk} {p : Path} {t : Target} (h : d.resolve p = .ok t) :
    p.Admissible ∧ p.isEmpty = false := by
  unfold resolve at h
  split at h
  · cases h
  · next hnul =>
    split at h
    · cases h
    · next hlong =>
      split at h
      · cases h
      · next hempty => exact ⟨⟨by simpa using hnul, by omega⟩, by simpa using hempty⟩

/-- A path that the system takes is resolved by walking all names but the last. -/
theorem resolve_of_admissible {p : Path} (hp : p.Admissible) (hne : p.isEmpty = false)
    (d : Disk) :
    d.resolve p =
      match p.steps.getLast? with
      | none => .ok (.directory (d.origin p))
      | some last =>
        match d.walk (d.origin p) p.steps.dropLast with
        | .error f => .error f
        | .ok l =>
          if last = "." then .ok (.directory l)
          else if last = ".." then .ok (.directory l.tail)
          else .ok (.name l last) := by
  obtain ⟨hnul, hshort⟩ := hp
  have hshort : ¬ 4096 ≤ p.bytes.length := Nat.not_le.2 hshort
  unfold resolve
  exact (if_neg (by simpa using hnul)).trans ((if_neg hshort).trans (if_neg (by simp [hne])))

/-- A path leads to a name in a directory exactly if it ends with that name and everything before
can be walked. -/
theorem resolve_eq_name_iff {d : Disk} {p : Path} {l : Location} {name : Name} :
    d.resolve p = .ok (.name l name) ↔
      p.Admissible ∧ p.steps.getLast? = some name ∧ Path.isTurn name = false ∧
      d.Open (d.origin p) p.steps.dropLast ∧ l = (d.origin p).follow p.steps.dropLast := by
  constructor
  · intro h
    obtain ⟨hp, hne⟩ := admissible_of_resolve h
    rw [resolve_of_admissible hp hne] at h
    split at h
    · cases h
    · next last hlast =>
      split at h
      · cases h
      · next up hwalk =>
        obtain ⟨ho, hup⟩ := walk_eq_ok_iff.1 hwalk
        split at h
        · cases h
        · next hdot =>
          split at h
          · cases h
          · next hdots =>
            cases h
            exact ⟨hp, hlast, by simp [Path.isTurn, hdot, hdots], ho, hup⟩
  · rintro ⟨hp, hlast, hturn, ho, rfl⟩
    have hsteps : p.steps ≠ [] := by
      intro hnil
      simp [hnil] at hlast
    have hwalk := walk_eq_ok_iff.2 ⟨ho, rfl⟩
    have hname := Path.isTurn_eq_false_iff.1 hturn
    rw [resolve_of_admissible hp (Path.isEmpty_of_steps_ne_nil hsteps)]
    simp [hlast, hwalk, hname]

/-- A path goes on to lead to its name as long as no directory goes away. -/
theorem resolve_mono {d d' : Disk} {p : Path} {l : Location} {name : Name}
    (h : d.resolve p = .ok (.name l name)) (hwork : d'.workDir = d.workDir)
    (hdirs : ∀ m, d.get? m = some .directory → d'.get? m = some .directory) :
    d'.resolve p = .ok (.name l name) := by
  obtain ⟨hadm, hlast, hturn, ho, hl⟩ := resolve_eq_name_iff.1 h
  rw [← origin_congr hwork] at ho hl
  exact resolve_eq_name_iff.2 ⟨hadm, hlast, hturn, ho.mono hdirs, hl⟩

theorem location_of_resolve {d : Disk} {p : Path} {l : Location} {name : Name}
    (h : d.resolve p = .ok (.name l name)) : d.location p = name :: l := by
  obtain ⟨-, hlast, hturn, -, rfl⟩ := resolve_eq_name_iff.1 h
  obtain ⟨init, hinit⟩ := List.getLast?_eq_some_iff.1 hlast
  rw [location, hinit, Location.follow_concat, Location.step_of_not_turn hturn,
    List.dropLast_concat]

/-- A path that ends with a name can be walked exactly if it can be walked up to that name, and the
name is that of a directory. -/
theorem open_steps_iff {p : Path} {name : Name} (hlast : p.steps.getLast? = some name)
    (hturn : Path.isTurn name = false) (d : Disk) :
    d.Open (d.origin p) p.steps ↔
      d.Open (d.origin p) p.steps.dropLast ∧ isTooLong name = false ∧
        d.get? (d.location p) = some .directory := by
  obtain ⟨init, hinit⟩ := List.getLast?_eq_some_iff.1 hlast
  rw [location, hinit, Location.follow_concat, Location.step_of_not_turn hturn,
    List.dropLast_concat, open_append_iff, open_name_iff hturn]

/-- There is a directory at a path exactly if the whole path can be walked. -/
theorem isDir_of_admissible {p : Path} (hp : p.Admissible) (hne : p.isEmpty = false) (d : Disk) :
    d.isDir p = true ↔ d.Open (d.origin p) p.steps := by
  rw [isDir, resolve_of_admissible hp hne]
  rcases hlast : p.steps.getLast? with _ | last
  · have hsteps := List.getLast?_eq_none_iff.1 hlast
    simp [hsteps, open_nil]
  · obtain ⟨init, hinit⟩ := List.getLast?_eq_some_iff.1 hlast
    simp only [hinit, List.dropLast_concat, open_append_iff]
    cases hwalk : d.walk (d.origin p) init with
    | error f =>
      have hclosed : ¬ d.Open (d.origin p) init := by
        intro ho
        rw [walk_eq_ok_iff.2 ⟨ho, rfl⟩] at hwalk
        cases hwalk
      simp [hclosed]
    | ok l =>
      obtain ⟨ho, rfl⟩ := walk_eq_ok_iff.1 hwalk
      simp only [ho, true_and]
      rcases Path.turn_cases last with rfl | rfl | hturn
      · simp [open_turn, Path.isTurn]
      · simp [open_turn, Path.isTurn]
      · have hname := Path.isTurn_eq_false_iff.1 hturn
        rw [open_name_iff hturn]
        simp only [hname, if_false, child?]
        cases hlong : isTooLong last with
        | true => simp
        | false =>
          rcases hget : d.get? (last :: (d.origin p).follow init) with _ | ⟨_ | content⟩ <;> simp

/-- There is a directory at a path exactly if the whole path can be walked. -/
theorem isDir_iff {d : Disk} {p : Path} :
    d.isDir p = true ↔ p.isEmpty = false ∧ p.Admissible ∧ d.Open (d.origin p) p.steps := by
  constructor
  · intro hdir
    have hresolved : ∃ t, d.resolve p = .ok t := by
      cases h : d.resolve p with
      | ok t => exact ⟨t, rfl⟩
      | error f => simp [isDir, h] at hdir
    obtain ⟨t, ht⟩ := hresolved
    obtain ⟨hp, hne⟩ := admissible_of_resolve ht
    exact ⟨hne, hp, (isDir_of_admissible hp hne d).1 hdir⟩
  · rintro ⟨hne, hp, ho⟩
    exact (isDir_of_admissible hp hne d).2 ho

/-- A directory can be made where a name in a directory leads to nothing. -/
theorem makeDir_eq_ok_iff {d d' : Disk} {p : Path} :
    d.makeDir p = .ok d' ↔
      ∃ l name, d.resolve p = .ok (.name l name) ∧ isTooLong name = false ∧
        d.get? (name :: l) = none ∧ d' = d.insert (name :: l) .directory := by
  constructor
  · intro h
    unfold makeDir child? at h
    split at h
    · cases h
    · cases h
    · next l name hp =>
      cases hlong : isTooLong name with
      | true => simp [hlong] at h
      | false =>
        cases hget : d.get? (name :: l) with
        | some e => simp [hlong, hget] at h
        | none => exact ⟨l, name, hp, hlong, hget, by simpa [hlong, hget, eq_comm] using h⟩
  · rintro ⟨l, name, hp, hlong, hget, rfl⟩
    simp [makeDir, child?, hp, hlong, hget]

/-- A file can be written where a name in a directory does not lead to a directory. -/
theorem write_eq_ok_iff {d d' : Disk} {p : Path} {content : ByteArray} :
    d.write p content = .ok d' ↔
      p.endsWithSlash = false ∧
      ∃ l name, d.resolve p = .ok (.name l name) ∧ isTooLong name = false ∧
        d.get? (name :: l) ≠ some .directory ∧ d' = d.insert (name :: l) (.file content) := by
  constructor
  · intro h
    unfold write child? at h
    split at h
    · cases h
    · cases h
    · next l name hp =>
      split at h
      · cases h
      · next hslash =>
        refine ⟨by simpa using hslash, l, name, hp, ?_⟩
        cases hlong : isTooLong name with
        | true => simp [hlong] at h
        | false =>
          rcases hget : d.get? (name :: l) with _ | ⟨_ | old⟩ <;> simp_all
  · rintro ⟨hslash, l, name, hp, hlong, hget, rfl⟩
    rcases hold : d.get? (name :: l) with _ | ⟨_ | old⟩ <;> simp_all [write, child?]

/-- A file can be read where a name in a directory leads to a file. -/
theorem read_eq_ok_iff {d : Disk} {p : Path} {content : ByteArray} :
    d.read p = .ok content ↔
      p.endsWithSlash = false ∧
      ∃ l name, d.resolve p = .ok (.name l name) ∧ isTooLong name = false ∧
        d.get? (name :: l) = some (.file content) := by
  constructor
  · intro h
    unfold read child? at h
    split at h
    · cases h
    · cases h
    · next l name hp =>
      cases hlong : isTooLong name with
      | true => simp [hlong] at h
      | false =>
        rcases hget : d.get? (name :: l) with _ | ⟨_ | old⟩
        · simp [hlong, hget] at h
        · simp [hlong, hget] at h
        · cases hslash : p.endsWithSlash with
          | true => simp [hlong, hget, hslash] at h
          | false => exact ⟨rfl, l, name, hp, hlong, by simp_all⟩
  · rintro ⟨hslash, l, name, hp, hlong, hget⟩
    simp [read, child?, hp, hlong, hget, hslash]

/-- A text is read as it was written. -/
theorem readText_of_read {d : Disk} {p : Path} {text : String}
    (h : d.read p = .ok text.toUTF8) : d.readText p = .ok text := by
  have hvalid : text.toUTF8.IsValidUTF8 := text.isValidUTF8
  have htext : String.fromUTF8? text.toUTF8 = some text := by
    rw [String.fromUTF8?, dif_pos hvalid]
    rfl
  simp only [readText, h, htext]

end Disk

end MiniTemplate
