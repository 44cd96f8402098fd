import MiniTemplate.Proofs.Locations

/-!
# Making directories

Whatever comes of it, making a directory and those above it only adds directories to the disk, and
only on the way to it (`makeDirs_spec`); if it succeeds, the whole way is open. It does succeed
unless a file is in the way or a name cannot be used (`makeDirs_eq_ok`).
-/

namespace MiniTemplate

namespace Disk

/-! ## Disks with more directories -/

/-- The second disk has more directories, all of them at the given locations, and is otherwise the
same. -/
structure Grows (d d' : Disk) (ls : List Location) : Prop where
  workDir : d'.workDir = d.workDir
  entries : ∀ l, d'.get? l = d.get? l ∨
    (l ∈ ls ∧ d.get? l = none ∧ d'.get? l = some .directory)

namespace Grows

variable {d d' d'' : Disk} {ls : List Location}

theorem refl (d : Disk) (ls : List Location) : d.Grows d ls := ⟨rfl, fun _ => .inl rfl⟩

theorem mono (h : d.Grows d' ls) {more : List Location} (hsub : ls ⊆ more) : d.Grows d' more := by
  refine ⟨h.workDir, fun l => ?_⟩
  rcases h.entries l with hl | ⟨hmem, hnone, hdir⟩
  · exact .inl hl
  · exact .inr ⟨hsub hmem, hnone, hdir⟩

/-- Two growths at the same locations, one after the other, are one. -/
theorem trans (h : d.Grows d' ls) (h' : d'.Grows d'' ls) : d.Grows d'' ls := by
  refine ⟨h'.workDir.trans h.workDir, fun l => ?_⟩
  rcases h'.entries l with hl' | ⟨hmem, hnone, hdir⟩
  · rw [hl']
    exact h.entries l
  · rcases h.entries l with hl | ⟨-, -, hdir'⟩
    · exact .inr ⟨hmem, hl ▸ hnone, hdir⟩
    · rw [hdir'] at hnone
      cases hnone

/-- What was on the disk is still there. -/
theorem kept (h : d.Grows d' ls) {l : Location} {e : Entry} (he : d.get? l = some e) :
    d'.get? l = some e := by
  rcases h.entries l with hl | ⟨-, hnone, -⟩
  · rw [hl, he]
  · rw [he] at hnone
    cases hnone

/-- A file on the grown disk was on the disk before. -/
theorem file (h : d.Grows d' ls) {l : Location} {content : ByteArray}
    (hfile : d'.get? l = some (.file content)) : d.get? l = some (.file content) := by
  rcases h.entries l with hl | ⟨-, -, hdir⟩
  · rw [← hl, hfile]
  · rw [hfile] at hdir
    cases hdir

theorem origin (h : d.Grows d' ls) (p : Path) : d'.origin p = d.origin p :=
  origin_congr h.workDir p

end Grows

theorem wayTo_congr {d d' : Disk} (h : d'.workDir = d.workDir) (p : Path) :
    d'.wayTo p = d.wayTo p := by
  rw [wayTo, wayTo, origin_congr h]

theorem origin_join {p : Path} (h : p.isAbsolute = false) (dir : Path) (d : Disk) :
    d.origin (dir.join p) = d.origin dir := by
  rw [origin, origin, Path.isAbsolute_join h]

/-- Going up changes nothing about where the way of a path starts. -/
theorem origin_parent? {p q : Path} (h : p.parent? = some q) (d : Disk) :
    d.origin q = d.origin p := by
  rw [origin, origin, Path.isAbsolute_parent? h]

/-- The way to a parent is part of the way above the path. -/
theorem wayTo_parent?_subset {p q : Path} (h : p.parent? = some q) (d : Disk) :
    d.wayTo q ⊆ d.wayAbove p := by
  rw [wayTo, wayAbove, origin_parent? h]
  exact Location.way_subset_of_prefix (Path.steps_parent?_isPrefix h) _

theorem wayAbove_subset_wayTo (d : Disk) (p : Path) : d.wayAbove p ⊆ d.wayTo p :=
  Location.way_subset_of_prefix (List.dropLast_prefix _) _

/-- The way to the path above is part of the way to the path. -/
theorem wayTo_parent?_subset_wayTo {p q : Path} (h : p.parent? = some q) (d : Disk) :
    d.wayTo q ⊆ d.wayTo p :=
  List.Subset.trans (wayTo_parent?_subset h d) (wayAbove_subset_wayTo d p)

theorem location_mem_wayTo {d : Disk} {p : Path} {name : Name}
    (hlast : p.steps.getLast? = some name) (hturn : Path.isTurn name = false) :
    d.location p ∈ d.wayTo p := by
  rw [location, wayTo, Location.way_of_getLast? hlast hturn]
  simp

/-! ## One directory -/

/-- A directory that was made is on the way to its path, and the whole path can be walked
afterwards. -/
theorem makeDir_spec {d d' : Disk} {p : Path} (h : d.makeDir p = .ok d') :
    d.Grows d' (d.wayTo p) ∧ d'.Open (d.origin p) p.steps := by
  obtain ⟨l, name, hp, hlong, hnone, rfl⟩ := makeDir_eq_ok_iff.1 h
  obtain ⟨-, hlast, hturn, ho, -⟩ := resolve_eq_name_iff.1 hp
  have hloc := location_of_resolve hp
  rw [← hloc] at hnone ⊢
  have hget := get?_insert (show d.location p ≠ [] by simp [hloc]) d
  have hgrows : d.Grows (d.insert (d.location p) .directory) (d.wayTo p) := by
    refine ⟨rfl, fun l => ?_⟩
    rw [hget]
    by_cases hl : l = d.location p
    · rw [if_pos hl, hl]
      exact .inr ⟨location_mem_wayTo hlast hturn, hnone, rfl⟩
    · rw [if_neg hl]
      exact .inl rfl
  refine ⟨hgrows, (open_steps_iff hlast hturn (d.insert _ _)).2 ⟨?_, hlong, ?_⟩⟩
  · exact ho.mono fun m hm => hgrows.kept hm
  · exact (hget _ _).trans (if_pos rfl)

theorem makeDir_run (p : Path) (d : Disk) :
    (FileSystem.makeDir p : StateM Disk _).run d =
      match d.makeDir p with
      | .ok d' => (.ok (), d')
      | .error f => (.error f, d) :=
  rfl

theorem isDir_run (p : Path) (d : Disk) :
    (FileSystem.isDir p : StateM Disk _).run d = (d.isDir p, d) :=
  rfl

/-- A directory that cannot be made may already be there. -/
theorem ensureDir_run (p : Path) (d : Disk) :
    (FileSystem.ensureDir p : StateM Disk _).run d =
      match d.makeDir p with
      | .ok d' => (.ok (), d')
      | .error f => (if d.isDir p then .ok () else .error f, d) := by
  rw [FileSystem.ensureDir, StateT.run_bind, makeDir_run]
  cases d.makeDir p with
  | ok d' => rfl
  | error f =>
    show StateT.run (FileSystem.isDir p >>= _) d = _
    rw [StateT.run_bind, isDir_run]
    cases hdir : d.isDir p <;> rfl

/-- One round of making directories: the path itself, or else the one above it and the path again.
-/
theorem makeDirs_run (p : Path) (d : Disk) :
    (FileSystem.makeDirs p : StateM Disk _).run d =
      if p.isEmpty then (.ok (), d)
      else
        match d.makeDir p with
        | .ok d' => (.ok (), d')
        | .error .notFound =>
          match p.parent? with
          | none => (.error (.other "failed to create whole tree"), d)
          | some q =>
            match (FileSystem.makeDirs q : StateM Disk _).run d with
            | (.ok (), d') => (FileSystem.ensureDir p : StateM Disk _).run d'
            | (.error f, d') => (.error f, d')
        | .error f => (if d.isDir p then .ok () else .error f, d) := by
  rw [FileSystem.makeDirs]
  by_cases hempty : p.isEmpty
  · rw [if_pos hempty, if_pos hempty]
    rfl
  · rw [if_neg hempty, if_neg hempty, StateT.run_bind, makeDir_run]
    cases hmake : d.makeDir p with
    | ok d' => rfl
    | error f =>
      cases f with
      | notFound =>
        show StateT.run _ d = _
        dsimp only
        split
        · next hq =>
          rw [hq]
          rfl
        · next q hq =>
          rw [hq, StateT.run_bind]
          dsimp only
          rcases (FileSystem.makeDirs q : StateM Disk _).run d with ⟨_ | _, d'⟩ <;> rfl
      | _ =>
        show StateT.run (FileSystem.isDir p >>= _) d = _
        rw [StateT.run_bind, isDir_run]
        cases hdir : d.isDir p <;> rfl

/-- Ensuring a directory makes none but on the way to it, and if it succeeds the path can be walked.
-/
theorem ensureDir_spec (p : Path) (d : Disk) :
    d.Grows ((FileSystem.ensureDir p : StateM Disk _).run d).2 (d.wayTo p) ∧
    (((FileSystem.ensureDir p : StateM Disk _).run d).1 = .ok () →
      ((FileSystem.ensureDir p : StateM Disk _).run d).2.Open (d.origin p) p.steps) := by
  rw [ensureDir_run]
  cases hmake : d.makeDir p with
  | ok d' =>
    obtain ⟨hgrows, ho⟩ := makeDir_spec hmake
    exact ⟨hgrows, fun _ => ho⟩
  | error f =>
    refine ⟨Grows.refl d _, fun hok => ?_⟩
    cases hdir : d.isDir p with
    | true => exact (isDir_iff.1 hdir).2.2
    | false => simp [hdir] at hok

/-! ## A directory and those above it -/

/-- **What making directories does.** New directories stand on the way only, everything else stays,
and after a success the whole way is open. -/
theorem makeDirs_spec (p : Path) (d : Disk) :
    d.Grows ((FileSystem.makeDirs p : StateM Disk _).run d).2 (d.wayTo p) ∧
    (((FileSystem.makeDirs p : StateM Disk _).run d).1 = .ok () →
      ((FileSystem.makeDirs p : StateM Disk _).run d).2.Open (d.origin p) p.steps) := by
  induction p using FileSystem.makeDirs.induct generalizing d with
  | case1 p hempty =>
    rw [makeDirs_run, if_pos hempty, Path.steps_of_isEmpty hempty]
    exact ⟨Grows.refl d _, fun _ => open_nil _ _⟩
  | case2 p hempty ih =>
    rw [makeDirs_run, if_neg hempty]
    split
    · next d' hmake =>
      obtain ⟨hgrows, ho⟩ := makeDir_spec hmake
      exact ⟨hgrows, fun _ => ho⟩
    · split
      · exact ⟨Grows.refl d _, fun hok => by cases hok⟩
      · next q hq =>
        obtain ⟨hup, -⟩ := ih q hq d
        replace hup := hup.mono (wayTo_parent?_subset_wayTo hq d)
        split
        · next d' hrun =>
          rw [hrun] at hup
          obtain ⟨hgrows, ho⟩ := ensureDir_spec p d'
          rw [wayTo_congr hup.workDir] at hgrows
          rw [hup.origin] at ho
          exact ⟨hup.trans hgrows, ho⟩
        · next f d' hrun =>
          rw [hrun] at hup
          exact ⟨hup, fun hok => by cases hok⟩
    · refine ⟨Grows.refl d _, fun hok => ?_⟩
      cases hdir : d.isDir p with
      | true => exact (isDir_iff.1 hdir).2.2
      | false => simp [hdir] at hok

/-! ## When directories can be made -/

/-- There is no file at any of the locations. -/
def Free (d : Disk) (ls : List Location) : Prop :=
  ∀ l ∈ ls, ∀ content, d.get? l ≠ some (.file content)

theorem Free.mono {d : Disk} {ls more : List Location} (h : d.Free more) (hsub : ls ⊆ more) :
    d.Free ls :=
  fun l hl => h l (hsub hl)

theorem Free.grows {d d' : Disk} {ls more : List Location} (h : d.Free ls) (hg : d.Grows d' more) :
    d'.Free ls :=
  fun l hl content hfile => h l hl content (hg.file hfile)

/-- Where no file is in the way, names lead to their end unless something is missing. -/
theorem walk_of_free {d : Disk} {l : Location} {names : List Name}
    (hshort : ∀ name ∈ names, isTooLong name = false) (hfree : d.Free (l.way names)) :
    d.Open l names ∨ d.walk l names = .error .notFound := by
  induction names generalizing l with
  | nil => exact .inl (open_nil d l)
  | cons name rest ih =>
    have hfollow : l.follow [name] = l.step name := rfl
    rw [← List.singleton_append, Location.way_append, hfollow] at hfree
    have hrest := ih (fun n hn => hshort n (List.mem_cons_of_mem _ hn))
      (hfree.mono (List.subset_append_right _ _))
    by_cases hname : d.Open l [name]
    · have hstep := enter_eq_ok_iff.2 ⟨hname, rfl⟩
      rcases hrest with ho | hwalk
      · exact .inl (open_append_iff.2 ⟨hname, ho⟩)
      · right
        rw [walk, hstep]
        exact hwalk
    · right
      have hturn : Path.isTurn name = false := by
        cases h : Path.isTurn name with
        | true => exact absurd (open_turn h d l) hname
        | false => rfl
      have hlong := hshort name List.mem_cons_self
      have hne := Path.isTurn_eq_false_iff.1 hturn
      have hmissing : d.get? (name :: l) = none := by
        rcases hget : d.get? (name :: l) with _ | ⟨_ | content⟩
        · rfl
        · exact absurd ((open_name_iff hturn d l).2 ⟨hlong, hget⟩) hname
        · exact absurd hget (hfree _ (by simp [Location.way, hturn]) content)
      simp [walk, enter, child?, hne, hlong, hmissing]

/-- Where no file is in the way, a directory is made, or is there, or has none above it yet. -/
theorem makeDir_of_free {d : Disk} {p : Path} (hp : p.Admissible) (hne : p.isEmpty = false)
    (hshort : ∀ name ∈ p.steps, isTooLong name = false) (hfree : d.Free (d.wayTo p)) :
    (∃ d', d.makeDir p = .ok d') ∨
    (d.makeDir p = .error .alreadyExists ∧ d.isDir p = true) ∨
    (d.makeDir p = .error .notFound ∧ ¬ d.Open (d.origin p) p.steps.dropLast) := by
  rcases hlast : p.steps.getLast? with _ | name
  · have hsteps := List.getLast?_eq_none_iff.1 hlast
    have hp' := resolve_of_admissible hp hne d
    rw [hlast] at hp'
    exact .inr (.inl ⟨by simp [makeDir, hp'], isDir_iff.2 ⟨hne, hp, hsteps ▸ open_nil _ _⟩⟩)
  · have hsub := wayAbove_subset_wayTo d p
    have hinit := fun n hn => hshort n (List.dropLast_subset _ hn)
    rcases walk_of_free hinit (hfree.mono hsub) with ho | hwalk
    · cases hturn : Path.isTurn name with
      | true =>
        obtain ⟨init, hsteps⟩ := List.getLast?_eq_some_iff.1 hlast
        have hdir : d.Open (d.origin p) p.steps := by
          rw [hsteps, List.dropLast_concat] at ho
          rw [hsteps]
          exact open_append_iff.2 ⟨ho, open_turn hturn d _⟩
        refine .inr (.inl ⟨?_, isDir_iff.2 ⟨hne, hp, hdir⟩⟩)
        have hwalk := walk_eq_ok_iff.2 ⟨ho, rfl⟩
        rw [makeDir, resolve_of_admissible hp hne, hlast]
        rcases Path.isTurn_iff.1 hturn with rfl | rfl <;> simp [hwalk]
      | false =>
        have hp' := resolve_eq_name_iff.2 ⟨hp, hlast, hturn, ho, rfl⟩
        have hlong := hshort name (List.mem_of_getLast? hlast)
        have hloc := location_of_resolve hp'
        rcases hget : d.get? (d.location p) with _ | ⟨_ | content⟩
        · exact .inl ⟨_, makeDir_eq_ok_iff.2 ⟨_, _, hp', hlong, hloc ▸ hget, rfl⟩⟩
        · refine .inr (.inl ⟨?_, isDir_iff.2 ⟨hne, hp, ?_⟩⟩)
          · rw [hloc] at hget
            simp [makeDir, hp', child?, hlong, hget]
          · exact (open_steps_iff hlast hturn d).2 ⟨ho, hlong, hget⟩
        · exact absurd hget (hfree _ (location_mem_wayTo hlast hturn) content)
    · refine .inr (.inr ⟨?_, fun ho => ?_⟩)
      · rw [makeDir, resolve_of_admissible hp hne, hlast]
        simp [hwalk]
      · rw [walk_eq_ok_iff.2 ⟨ho, rfl⟩] at hwalk
        cases hwalk

theorem ensureDir_of_open {d : Disk} {p : Path} (hp : p.Admissible) (hne : p.isEmpty = false)
    (hshort : ∀ name ∈ p.steps, isTooLong name = false) (hfree : d.Free (d.wayTo p))
    (ho : d.Open (d.origin p) p.steps.dropLast) :
    ((FileSystem.ensureDir p : StateM Disk _).run d).1 = .ok () := by
  rw [ensureDir_run]
  rcases makeDir_of_free hp hne hshort hfree with ⟨d', hmake⟩ | ⟨hmake, hdir⟩ | ⟨-, hclosed⟩
  · rw [hmake]
  · rw [hmake]
    simp [hdir]
  · exact absurd ho hclosed

/-- **When directories can be made.** Nothing but a file in the way or a name that cannot be used
keeps a directory and those above it from being made. -/
theorem makeDirs_eq_ok {d : Disk} {p : Path} (hp : p.Admissible) (ht : p.Tidy)
    (hshort : ∀ name ∈ p.steps, isTooLong name = false) (hfree : d.Free (d.wayTo p)) :
    ((FileSystem.makeDirs p : StateM Disk _).run d).1 = .ok () := by
  induction p using FileSystem.makeDirs.induct generalizing d with
  | case1 p hempty => rw [makeDirs_run, if_pos hempty]
  | case2 p hempty ih =>
    have hne : p.isEmpty = false := by simpa using hempty
    rw [makeDirs_run, if_neg hempty]
    rcases makeDir_of_free hp hne hshort hfree with ⟨d', hmake⟩ | ⟨hmake, hdir⟩ | ⟨hmake, hclosed⟩
    · rw [hmake]
    · rw [hmake]
      simp [hdir]
    · rw [hmake]
      -- something is missing above the path, so that there is a parent to be made first
      rcases hq : p.parent? with _ | q
      · rw [ht.steps_of_parent?_eq_none hq] at hclosed
        exact absurd (open_nil _ _) hclosed
      · have hup := ih q hq (d := d) (hp.parent? hq) (Path.tidy_parent? hq)
          (fun n hn => hshort n (Path.steps_parent?_subset hq hn))
          (hfree.mono (wayTo_parent?_subset_wayTo hq d))
        obtain ⟨hgrows, hopen⟩ := makeDirs_spec q d
        dsimp only
        rcases hrun : (FileSystem.makeDirs q : StateM Disk _).run d with ⟨r, d'⟩
        rw [hrun] at hup hgrows hopen
        obtain rfl : r = .ok () := hup
        apply ensureDir_of_open hp hne hshort
        · rw [wayTo_congr hgrows.workDir]
          exact hfree.grows hgrows
        · obtain ⟨idle, hsteps, hidle⟩ := ht.dropLast_steps hq
          rw [hsteps, hgrows.origin, ← origin_parent? hq]
          exact (hopen rfl).append_idle hidle

end Disk

end MiniTemplate
