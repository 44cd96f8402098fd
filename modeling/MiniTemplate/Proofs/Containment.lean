import MiniTemplate.Proofs.Emission

/-!
# Staying below the output directory

An asset is emitted to the file that its name leads to from the output directory. The name is taken
as it is: it may be absolute, and it may climb. Everything that an emission makes or writes stands
on the way of this file, so nothing outside of the directory is touched as long as the name goes
down before it goes up (`Path.staysBelow`). No other name is safe: one that can be that of a file
at all escapes on some disk (`changedBelow_iff_staysBelow`).
-/

namespace MiniTemplate

namespace Path

/-- Names that are followed from some depth below a place never lead above that place. -/
def staysFrom : Nat → List Name → Bool
  | _, [] => true
  | depth, name :: rest =>
    if name = "." then staysFrom depth rest
    else if name = ".." then depth != 0 && staysFrom (depth - 1) rest
    else staysFrom (depth + 1) rest

/-- The path starts where it is seen from and never leads above that place. -/
def staysBelow (p : Path) : Bool := !p.isAbsolute && staysFrom 0 p.steps

/-- The last of some names is the first one, if it is the only one, or the last of the others. -/
theorem getLast?_cases {name last : Name} {rest : List Name}
    (h : (name :: rest).getLast? = some last) :
    (rest = [] ∧ name = last) ∨ rest.getLast? = some last := by
  cases rest with
  | nil => exact .inl ⟨rfl, by simpa using h⟩
  | cons next more => exact .inr (by simpa using h)

theorem staysFrom_of_not_turn {name : Name} (h : isTurn name = false) (depth : Nat)
    (rest : List Name) : staysFrom depth (name :: rest) = staysFrom (depth + 1) rest := by
  have hname := isTurn_eq_false_iff.1 h
  rw [staysFrom, if_neg hname.1, if_neg hname.2]

/-- A path that is not the place it is seen from, and does not end with a slash, has a name of its
own at its end. -/
theorem getLast?_steps_of_join {p dir : Path} {name : Name} (h : p.isAbsolute = false)
    (hlast : (dir.join p).steps.getLast? = some name)
    (hslash : (dir.join p).endsWithSlash = false) :
    p.steps.getLast? = some name := by
  rw [steps_join h, List.getLast?_append] at hlast
  cases hp : p.steps.getLast? with
  | some last => simpa [hp] using hlast
  | none =>
    -- only the empty path has no steps, and after a directory it ends with a slash
    have hsteps := List.getLast?_eq_none_iff.1 hp
    have hfirst : p.first = "" := by
      by_cases hne : p.first = ""
      · exact hne
      · simp [steps_eq, hne] at hsteps
    have hrest : p.rest = [] := by simpa [isAbsolute, hfirst] using h
    by_cases hdir : dir.isEmpty
    · simp [steps_of_isEmpty hdir, hp] at hlast
    · simp [join, hdir, h, endsWithSlash, hfirst, hrest] at hslash

end Path

namespace Location

theorem way_of_not_turn {name : Name} (h : Path.isTurn name = false) (l : Location)
    (rest : List Name) : way l (name :: rest) = (name :: l) :: way (name :: l) rest := by
  rw [way, if_neg (by simp [h])]

/-- Names that stay below a place go down to locations below it only. -/
theorem below_of_staysFrom {names : List Name} (under base : Location)
    (h : Path.staysFrom under.length names = true) :
    ∀ l ∈ way (under ++ base) names, ∃ below, below ≠ [] ∧ l = below ++ base := by
  induction names generalizing under with
  | nil =>
    intro l hl
    cases hl
  | cons name rest ih =>
    intro l hl
    rcases Path.turn_cases name with rfl | rfl | hname
    · exact ih under h l hl
    · cases under with
      | nil => cases h
      | cons top under => exact ih under h l hl
    · rw [Path.staysFrom_of_not_turn hname] at h
      rw [way_of_not_turn hname] at hl
      rcases List.mem_cons.1 hl with rfl | hl
      · exact ⟨name :: under, by simp, rfl⟩
      · exact ih (name :: under) h l hl

/-- Names that end by going down go down somewhere, after they went up so many times. -/
theorem exists_mem_way {names : List Name} {last : Name} (hlast : names.getLast? = some last)
    (hturn : Path.isTurn last = false) :
    ∃ name ups, ∀ l : Location, name :: l.drop ups ∈ way l names := by
  induction names with
  | nil => cases hlast
  | cons name rest ih =>
    rcases Path.getLast?_cases hlast with ⟨rfl, rfl⟩ | hrest
    · exact ⟨name, 0, fun l => by simp [way_of_not_turn hturn]⟩
    · obtain ⟨down, ups, hdown⟩ := ih hrest
      rcases Path.turn_cases name with rfl | rfl | hname
      · exact ⟨down, ups, hdown⟩
      · refine ⟨down, ups + 1, fun l => ?_⟩
        rw [← List.drop_tail]
        exact hdown l.tail
      · exact ⟨name, 0, fun l => by simp [way_of_not_turn hname]⟩

/-- Names that lead above a place, and end by going down, go down to a location that is not below
the place. -/
theorem exists_mem_way_of_climbs {names : List Name} {last : Name}
    (hlast : names.getLast? = some last) (hturn : Path.isTurn last = false) {depth : Nat}
    (h : Path.staysFrom depth names = false) :
    ∃ name ups, ∀ under base : Location, under.length = depth →
      name :: base.drop (ups + 1) ∈ way (under ++ base) names := by
  induction names generalizing depth with
  | nil => cases hlast
  | cons name rest ih =>
    rcases Path.getLast?_cases hlast with ⟨rfl, rfl⟩ | hrest
    · rw [Path.staysFrom_of_not_turn hturn] at h
      cases h
    · rcases Path.turn_cases name with rfl | rfl | hname
      · exact ih hrest h
      · cases depth with
        | zero =>
          -- this is the step above the place: from here on any way down will do
          obtain ⟨down, ups, hdown⟩ := exists_mem_way hrest hturn
          refine ⟨down, ups, fun under base hlen => ?_⟩
          obtain rfl := List.length_eq_zero_iff.1 hlen
          rw [← List.drop_tail]
          exact hdown base.tail
        | succ above =>
          obtain ⟨down, ups, hdown⟩ := ih hrest h
          refine ⟨down, ups, fun under base hlen => ?_⟩
          obtain ⟨top, under, rfl⟩ := List.exists_cons_of_length_eq_add_one hlen
          exact hdown under base (by simpa using hlen)
      · rw [Path.staysFrom_of_not_turn hname] at h
        obtain ⟨down, ups, hdown⟩ := ih hrest h
        refine ⟨down, ups, fun under base hlen => ?_⟩
        rw [way_of_not_turn hname]
        exact List.mem_cons_of_mem _ (hdown (name :: under) base (by simp [hlen]))

end Location

/-- The disk after an asset was emitted to an output directory, or the attempt to do so. -/
def OutputDir.diskAfter (out : OutputDir) (a : Asset) (d : Disk) : Disk :=
  (((OutputDir.emit a : StateT OutputDir (StateM Disk) _).run out).run d).2

theorem Path.empty_join (p : Path) : Path.empty.join p = p := by
  simp [join, isEmpty, empty]

namespace Disk

theorem location_empty (d : Disk) : d.location .empty = d.workDir := rfl

/-- A disk that holds a working directory only: its directories are those that it is in. -/
theorem get?_ofWorkDir (l m : Location) :
    (ofWorkDir l).get? m = if m <:+ l then some .directory else none := by
  induction l with
  | nil => cases m <;> simp [get?, ofWorkDir]
  | cons name up ih =>
    rw [get?] at ih ⊢
    by_cases hm : m = name :: up
    · simp [hm, ofWorkDir]
    · have hne : (m == name :: up) = false := beq_false_of_ne hm
      simp only [List.suffix_cons_iff, hm, false_or, ← ih, ofWorkDir, List.lookup_cons, hne]

/-- Nothing has changed but below a directory, and directories on the way to it may be new. -/
def ChangedBelow (d d' : Disk) (dir : Path) : Prop :=
  ∀ l, d'.get? l = d.get? l ∨ (∃ below, below ≠ [] ∧ l = below ++ d.location dir) ∨
    (l ∈ d.wayTo dir ∧ d.get? l = none ∧ d'.get? l = some .directory)

/-- The way to a relative path goes through the directory that it is seen from. -/
theorem wayTo_join {p : Path} (h : p.isAbsolute = false) (dir : Path) (d : Disk) :
    d.wayTo (dir.join p) = d.wayTo dir ++ (d.location dir).way p.steps := by
  rw [wayTo, origin_join h, Path.steps_join h, Location.way_append]
  rfl

/-- A path inside a directory leads on from the location of the directory. -/
theorem location_join {p : Path} (h : p.isAbsolute = false) (dir : Path) (d : Disk) :
    d.location (dir.join p) = (d.location dir).follow p.steps := by
  rw [location, origin_join h, Path.steps_join h, Location.follow_append]
  rfl

end Disk

namespace OutputDir

variable {a : Asset} {out : OutputDir} {d : Disk}

/-- An emission changes nothing but the file and the directories that are missing above it. -/
theorem get?_diskAfter (a : Asset) (out : OutputDir) (d : Disk) (l : Location) :
    (out.diskAfter a d).get? l = d.get? l ∨
    (l = d.location (a.fileIn out.dir) ∧ (a.fileIn out.dir).NamesFile) ∨
    (l ∈ d.wayAbove (a.fileIn out.dir) ∧ d.get? l = none ∧
      (out.diskAfter a d).get? l = some .directory) := by
  have hok := emit_eq_ok_iff a out d
  rw [diskAfter]
  rcases emit_spec a out d with ⟨d', hrun, hstored⟩ | ⟨cause, d', hrun, hgrows⟩
  · rw [hrun] at hok ⊢
    by_cases hl : l = d.location (a.fileIn out.dir)
    · exact .inr (.inl ⟨hl, (hok.1 rfl).named⟩)
    · exact (hstored.others l hl).imp_right .inr
  · rw [hrun]
    exact (hgrows.entries l).imp_right .inr

/-- Names that stay below the directory are emitted below it. -/
theorem diskAfter_changedBelow (h : (Path.ofString a.fileName).staysBelow = true)
    (out : OutputDir) (d : Disk) : d.ChangedBelow (out.diskAfter a d) out.dir := by
  obtain ⟨hrel, hstays⟩ : (Path.ofString a.fileName).isAbsolute = false ∧
      Path.staysFrom 0 (Path.ofString a.fileName).steps = true := by
    simpa [Path.staysBelow] using h
  have hbelow := Location.below_of_staysFrom [] (d.location out.dir) hstays
  intro l
  rcases get?_diskAfter a out d l with heq | ⟨rfl, hname⟩ | ⟨hl, hnone, hdir⟩
  · exact .inl heq
  · obtain ⟨-, -, hslash, last, hlast, hturn⟩ := hname
    have hlast := Path.getLast?_steps_of_join hrel hlast hslash
    refine .inr (.inl (hbelow _ ?_))
    rw [Asset.fileIn, Disk.location_join hrel, List.nil_append,
      Location.way_of_getLast? hlast hturn]
    simp
  · have hl := d.wayAbove_subset_wayTo _ hl
    rw [Asset.fileIn, Disk.wayTo_join hrel] at hl
    rcases List.mem_append.1 hl with hl | hl
    · exact .inr (.inr ⟨hl, hnone, hdir⟩)
    · exact .inr (.inl (hbelow l hl))

/-- Where no file is in the way, all the locations on the way to the file are there afterwards. -/
theorem get?_diskAfter_ne_none (hname : (a.fileIn out.dir).NamesFile)
    (hfree : d.Free (d.wayAbove (a.fileIn out.dir))) :
    ∀ l ∈ d.wayTo (a.fileIn out.dir), (out.diskAfter a d).get? l ≠ none := by
  have hgrows := makeParent_grows (a.fileIn out.dir) d
  have hok := emit_eq_ok_iff a out d
  obtain ⟨d₁, hparent, ho⟩ := makeParent_of_free hname hfree
  obtain ⟨last, hlast, hturn⟩ := hname.named
  rw [hparent] at hgrows
  rw [emit_run, hparent] at hok
  rw [diskAfter, emit_run, hparent]
  dsimp only at hok ⊢
  intro l hl
  rw [Disk.wayTo, Location.way_of_getLast? hlast hturn] at hl
  rcases hwrite : d₁.write (a.fileIn out.dir) a.source.toUTF8 with cause | d'
  · rw [hwrite] at hok
    have hrefused : ¬ d.Accepts (a.fileIn out.dir) := by simp [← hok]
    rcases List.mem_append.1 hl with hl | hl
    · simp [ho.directories l hl]
    · -- the file was refused, so there is a directory in its place
      obtain rfl : l = d.location (a.fileIn out.dir) := List.mem_singleton.1 hl
      by_cases hmem : d.location (a.fileIn out.dir) ∈ d.wayAbove (a.fileIn out.dir)
      · simp [ho.directories _ hmem]
      · by_cases hdir : d.get? (d.location (a.fileIn out.dir)) = some .directory
        · simp [hgrows.kept hdir]
        · exact absurd ⟨hname, hfree, hmem, hdir⟩ hrefused
  · have hstored := Disk.stored_of_write (.refl d₁ _) hwrite
    rcases List.mem_append.1 hl with hl | hl
    · simp [hstored.kept_directory (ho.directories l hl)]
    · obtain rfl : l = d.location (a.fileIn out.dir) := List.mem_singleton.1 hl
      rw [← Disk.location_congr hgrows.workDir]
      simp [hstored.holds]

/-- A name that does not stay below goes down to a location at the root, as seen from a directory
at the root. -/
theorem exists_mem_wayTo_of_climbs {p : Path} (hp : p.NamesFile) (h : p.staysBelow = false) :
    ∃ name, ∀ (d : Disk) (dirName : Name), d.workDir = [dirName] → [name] ∈ d.wayTo p := by
  obtain ⟨last, hlast, hturn⟩ := hp.named
  cases habs : p.isAbsolute with
  | true =>
    obtain ⟨name, ups, hmem⟩ := Location.exists_mem_way hlast hturn
    refine ⟨name, fun d dirName hwork => ?_⟩
    rw [Disk.wayTo, Disk.origin, if_pos habs]
    simpa using hmem []
  | false =>
    have hclimbs : Path.staysFrom 0 p.steps = false := by simpa [Path.staysBelow, habs] using h
    obtain ⟨name, ups, hmem⟩ := Location.exists_mem_way_of_climbs hlast hturn hclimbs
    refine ⟨name, fun d dirName hwork => ?_⟩
    rw [Disk.wayTo, Disk.origin, if_neg (by simp [habs]), hwork]
    simpa using hmem [] [dirName] rfl

/-- A file name that does not stay below the directory escapes from the working directory of some
disk. -/
theorem exists_not_changedBelow (hname : (Path.ofString a.fileName).NamesFile)
    (h : (Path.ofString a.fileName).staysBelow = false) :
    ∃ (d : Disk) (out : OutputDir), ¬ d.ChangedBelow (out.diskAfter a d) out.dir := by
  obtain ⟨name, hmem⟩ := exists_mem_wayTo_of_climbs hname h
  obtain ⟨dirName, hne⟩ : ∃ dirName, name ≠ dirName := by
    by_cases hx : name = "x"
    · exact ⟨"y", by simp [hx]⟩
    · exact ⟨"x", hx⟩
  obtain ⟨d, hwork, hget⟩ : ∃ d : Disk, d.workDir = [dirName] ∧
      ∀ l, d.get? l = if l <:+ [dirName] then some .directory else none :=
    ⟨.ofWorkDir [dirName], rfl, Disk.get?_ofWorkDir _⟩
  obtain ⟨out, hdir⟩ : ∃ out : OutputDir, out.dir = .empty := ⟨⟨.empty, []⟩, rfl⟩
  have hfile : a.fileIn out.dir = Path.ofString a.fileName := by
    rw [Asset.fileIn, hdir, Path.empty_join]
  have hfree : d.Free (d.wayAbove (a.fileIn out.dir)) := by
    intro l hl content
    grind
  refine ⟨d, out, fun hchanged => ?_⟩
  have hthere : (out.diskAfter a d).get? [name] ≠ none := by
    apply get?_diskAfter_ne_none _ hfree
    · rw [hfile]
      exact hmem d dirName hwork
    · rw [hfile]
      exact hname
  rcases hchanged [name] with heq | ⟨below, hbelow, heq⟩ | ⟨hway, -⟩
  · rw [heq, hget, if_neg (by simp [List.suffix_cons_iff, hne])] at hthere
    exact hthere rfl
  · have hpos := List.length_pos_iff.2 hbelow
    have hlen := congrArg List.length heq
    rw [hdir, Disk.location_empty, hwork, List.length_append] at hlen
    simp only [List.length_singleton] at hlen
    omega
  · rw [hdir] at hway
    cases hway

/-- **What an emission can touch.** Whatever the name of the asset, nothing changes but the file
that the name leads to from the output directory and missing directories on the way to it. So
nothing outside of the output directory changes, except for directories on the way to the directory
itself that were missing, if the name stays below it; and a file name that does not stay below it
escapes from some output directory on some disk. -/
theorem changedBelow_iff_staysBelow (a : Asset) :
    (∀ (d : Disk) (out : OutputDir) (l : Location),
      (out.diskAfter a d).get? l = d.get? l ∨ l = d.location (a.fileIn out.dir) ∨
      (l ∈ d.wayAbove (a.fileIn out.dir) ∧ d.get? l = none ∧
        (out.diskAfter a d).get? l = some .directory)) ∧
    ((Path.ofString a.fileName).staysBelow = true →
      ∀ (d : Disk) (out : OutputDir), d.ChangedBelow (out.diskAfter a d) out.dir) ∧
    ((Path.ofString a.fileName).NamesFile →
      (∀ (d : Disk) (out : OutputDir), d.ChangedBelow (out.diskAfter a d) out.dir) →
      (Path.ofString a.fileName).staysBelow = true) := by
  refine ⟨fun d out l => ?_, fun h d out => diskAfter_changedBelow h out d, fun hname hsafe => ?_⟩
  · rcases get?_diskAfter a out d l with heq | ⟨hl, -⟩ | hnew
    · exact .inl heq
    · exact .inr (.inl hl)
    · exact .inr (.inr hnew)
  · cases h : (Path.ofString a.fileName).staysBelow with
    | true => rfl
    | false =>
      obtain ⟨d, out, hescape⟩ := exists_not_changedBelow hname h
      exact absurd (hsafe d out) hescape

/-- A name may climb as long as it went down before: this one is safe everywhere. -/
theorem changedBelow_of_detour :
    (Path.ofString "pages/../index.wxml").NamesFile ∧
    (Path.ofString "pages/../index.wxml").staysBelow = true ∧
    ∀ (d : Disk) (out : OutputDir),
      d.ChangedBelow (out.diskAfter ⟨"pages/../index.wxml", "<view/>"⟩ d) out.dir := by
  have hname : (Path.ofString "pages/../index.wxml").NamesFile :=
    ⟨⟨by decide, by decide⟩, by decide, by decide, "index.wxml", by decide⟩
  have hiff := changedBelow_iff_staysBelow ⟨"pages/../index.wxml", "<view/>"⟩
  have hsafe := hiff.2.1 (by decide)
  exact ⟨hname, hiff.2.2 hname hsafe, hsafe⟩

/-- A name that climbs first is emitted beside the directory and not below it. -/
theorem not_changedBelow_of_climb :
    ¬ (Disk.ofWorkDir ["work", "home"]).ChangedBelow
      (OutputDir.diskAfter ⟨.ofString "out", []⟩ ⟨"../x", "y"⟩ (.ofWorkDir ["work", "home"]))
      (.ofString "out") := by
  intro h
  have hnew : ((OutputDir.diskAfter ⟨.ofString "out", []⟩ ⟨"../x", "y"⟩
      (.ofWorkDir ["work", "home"])).get? ["x", "work", "home"]).isSome = true := by
    decide +kernel
  rcases h ["x", "work", "home"] with heq | ⟨below, hbelow, heq⟩ | ⟨hway, -⟩
  · rw [heq] at hnew
    cases hnew
  · have hlen := congrArg List.length heq
    have hpos := List.length_pos_iff.2 hbelow
    rw [List.length_append] at hlen
    change 3 = below.length + 3 at hlen
    omega
  · revert hway
    decide

end OutputDir

end MiniTemplate
