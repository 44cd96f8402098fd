import MiniTemplate.OutputDir
import MiniTemplate.Proofs.Directories
import MiniTemplate.Proofs.Runs

/-!
# Emitting to an output directory

An emission makes the directories for a file and then writes the file. It ends in one of two ways
(`emit_spec`): the file holds the source, or there are at most some more directories on the way to
it. Which of the two it is can be told beforehand (`emit_eq_ok_iff`): the path must be one that can
name a file, no file may stand where a directory is needed, and no directory where the file goes.
The last is not only about directories that are there: in `a/../a` the file is to go where the
directory `a` is made first.
-/

namespace MiniTemplate

/-- The file for an asset in a directory. -/
def Asset.fileIn (dir : Path) (a : Asset) : Path := dir.join (.ofString a.fileName)

namespace Path

/-- The path can be that of a file: the system takes its text and its names, and it ends with a
name. -/
structure NamesFile (p : Path) : Prop where
  admissible : p.Admissible
  short : ∀ name ∈ p.steps, Disk.isTooLong name = false
  noSlash : p.endsWithSlash = false
  named : ∃ name, p.steps.getLast? = some name ∧ isTurn name = false

end Path

namespace Disk

/-- The second disk holds a file with the content at the path, and has perhaps more directories on
the way to it; everything else is the same. -/
structure Stored (d d' : Disk) (file : Path) (content : ByteArray) : Prop where
  workDir : d'.workDir = d.workDir
  reads : d'.read file = .ok content
  holds : d'.get? (d.location file) = some (.file content)
  noDirectory : d.get? (d.location file) ≠ some .directory
  others : ∀ l, l ≠ d.location file → d'.get? l = d.get? l ∨
    (l ∈ d.wayAbove file ∧ d.get? l = none ∧ d'.get? l = some .directory)

/-- A file can be written to the path once the directories for it are made: no file stands where a
directory is needed, and no directory is, or is to be made, where the file goes. -/
structure Accepts (d : Disk) (file : Path) : Prop where
  named : file.NamesFile
  free : d.Free (d.wayAbove file)
  apart : d.location file ∉ d.wayAbove file
  noDirectory : d.get? (d.location file) ≠ some .directory

theorem location_congr {d d' : Disk} (h : d'.workDir = d.workDir) (p : Path) :
    d'.location p = d.location p := by
  rw [location, location, origin_congr h]

/-- A path that could be read is read anew, with what is there now, as long as no directory went
away. -/
theorem read_of_read {d d' : Disk} {p : Path} {content content' : ByteArray}
    (h : d.read p = .ok content) (hwork : d'.workDir = d.workDir)
    (hdirs : ∀ m, d.get? m = some .directory → d'.get? m = some .directory)
    (hget : d'.get? (d.location p) = some (.file content')) : d'.read p = .ok content' := by
  obtain ⟨hslash, l, name, hp, hlong, -⟩ := read_eq_ok_iff.1 h
  rw [location_of_resolve hp] at hget
  exact read_eq_ok_iff.2 ⟨hslash, l, name, resolve_mono hp hwork hdirs, hlong, hget⟩

theorem get?_location_of_read {d : Disk} {p : Path} {content : ByteArray}
    (h : d.read p = .ok content) : d.get? (d.location p) = some (.file content) := by
  obtain ⟨-, l, name, hp, -, hget⟩ := read_eq_ok_iff.1 h
  rw [location_of_resolve hp, hget]

/-- Making directories on the way and then writing stores the file. -/
theorem stored_of_write {d d₁ d' : Disk} {file : Path} {content : ByteArray}
    (hgrows : d.Grows d₁ (d.wayAbove file)) (hwrite : d₁.write file content = .ok d') :
    d.Stored d' file content := by
  obtain ⟨hslash, l, name, hp, hlong, hnodir, rfl⟩ := write_eq_ok_iff.1 hwrite
  have hloc : name :: l = d.location file := by
    rw [← location_of_resolve hp, location_congr hgrows.workDir]
  have hget := get?_insert (List.cons_ne_nil name l) d₁
  have hholds := (hget (name :: l) (.file content)).trans (if_pos rfl)
  refine ⟨hgrows.workDir, ?_, ?_, ?_, ?_⟩
  · refine read_eq_ok_iff.2 ⟨hslash, l, name, resolve_mono hp rfl fun m hm => ?_, hlong, hholds⟩
    rw [hget, if_neg]
    · exact hm
    · rintro rfl
      exact hnodir hm
  · rw [← hloc]
    exact hholds
  · intro hdir
    rw [← hloc] at hdir
    exact hnodir (hgrows.kept hdir)
  · intro m hm
    rw [hget, if_neg (hloc ▸ hm)]
    exact hgrows.entries m

namespace Stored

variable {d d' : Disk} {file : Path} {content : ByteArray}

/-- What was on the disk is still there, except for the file. -/
theorem kept (h : d.Stored d' file content) {l : Location} {e : Entry}
    (hne : l ≠ d.location file) (he : d.get? l = some e) : d'.get? l = some e := by
  rcases h.others l hne with heq | ⟨-, hnone, -⟩
  · rw [heq, he]
  · rw [he] at hnone
    cases hnone

/-- Storing a file takes no directory away. -/
theorem kept_directory (h : d.Stored d' file content) {l : Location}
    (hdir : d.get? l = some .directory) : d'.get? l = some .directory := by
  apply h.kept _ hdir
  intro heq
  exact h.noDirectory (heq ▸ hdir)

end Stored

end Disk

namespace OutputDir

theorem makeParent_run (file : Path) (d : Disk) :
    (makeParent file : StateM Disk _).run d =
      match file.parent? with
      | none => (.ok (), d)
      | some dir =>
        match (FileSystem.makeDirs dir : StateM Disk _).run d with
        | (.ok (), d') => (.ok (), d')
        | (.error cause, d') => (.error (.makeDir dir cause), d') := by
  rw [makeParent]
  cases file.parent? with
  | none => rfl
  | some dir =>
    dsimp only
    rw [StateT.run_bind]
    rcases (FileSystem.makeDirs dir : StateM Disk _).run d with ⟨_ | _, d'⟩ <;> rfl

/-- The directories that are made for a file are on the way above it. -/
theorem makeParent_grows (file : Path) (d : Disk) :
    d.Grows ((makeParent file : StateM Disk _).run d).2 (d.wayAbove file) := by
  rw [makeParent_run]
  cases hparent : file.parent? with
  | none => exact .refl d _
  | some dir =>
    have hgrows := (Disk.makeDirs_spec dir d).1.mono (Disk.wayTo_parent?_subset hparent d)
    dsimp only
    rcases hrun : (FileSystem.makeDirs dir : StateM Disk _).run d with ⟨_ | _, d'⟩ <;>
      rwa [hrun] at hgrows

theorem writeText_run (file : Path) (text : String) (d : Disk) :
    (FileSystem.writeText file text : StateM Disk _).run d =
      match d.write file text.toUTF8 with
      | .ok d' => (.ok (), d')
      | .error f => (.error f, d) :=
  rfl

/-- Emitting an asset: directories first, then the file, which is listed if it was written. -/
theorem emit_run (a : Asset) (out : OutputDir) (d : Disk) :
    ((emit a : StateT OutputDir (StateM Disk) _).run out).run d =
      match (makeParent (a.fileIn out.dir) : StateM Disk _).run d with
      | (.error cause, d') => ((.error cause, out), d')
      | (.ok (), d') =>
        match d'.write (a.fileIn out.dir) a.source.toUTF8 with
        | .error cause => ((.error (.write (a.fileIn out.dir) cause), out), d')
        | .ok d'' =>
          ((.ok (), { out with written := out.written ++ [a.fileIn out.dir] }), d'') := by
  show StateT.run (makeParent (a.fileIn out.dir) >>= _) d = _
  rw [StateT.run_bind]
  rcases (makeParent (a.fileIn out.dir) : StateM Disk _).run d with ⟨_ | _, d'⟩
  · rfl
  · show StateT.run (FileSystem.writeText (a.fileIn out.dir) a.source >>= _) d' = _
    rw [StateT.run_bind, writeText_run]
    dsimp only
    cases d'.write (a.fileIn out.dir) a.source.toUTF8 <;> rfl

/-- **What an emission does.** It writes the source to the file of the asset and notes the file, or
it fails and has at most made directories on the way to the file. -/
theorem emit_spec (a : Asset) (out : OutputDir) (d : Disk) :
    (∃ d', ((emit a : StateT OutputDir (StateM Disk) _).run out).run d =
        ((.ok (), { out with written := out.written ++ [a.fileIn out.dir] }), d') ∧
      d.Stored d' (a.fileIn out.dir) a.source.toUTF8) ∨
    ∃ cause d', ((emit a : StateT OutputDir (StateM Disk) _).run out).run d =
        ((.error cause, out), d') ∧
      d.Grows d' (d.wayAbove (a.fileIn out.dir)) := by
  have hgrows := makeParent_grows (a.fileIn out.dir) d
  rw [emit_run]
  rcases hparent : (makeParent (a.fileIn out.dir) : StateM Disk _).run d with ⟨cause | _, d₁⟩
  · rw [hparent] at hgrows
    exact .inr ⟨cause, d₁, rfl, hgrows⟩
  · rw [hparent] at hgrows
    dsimp only
    cases hwrite : d₁.write (a.fileIn out.dir) a.source.toUTF8 with
    | error cause => exact .inr ⟨_, d₁, rfl, hgrows⟩
    | ok d' => exact .inl ⟨d', rfl, Disk.stored_of_write hgrows hwrite⟩

end OutputDir

namespace Disk

/-! ## When a file is accepted -/

/-- What was written could be written. -/
theorem accepts_of_write {d d₁ d' : Disk} {file : Path} {content : ByteArray}
    (hgrows : d.Grows d₁ (d.wayAbove file)) (hwrite : d₁.write file content = .ok d') :
    d.Accepts file := by
  obtain ⟨hslash, l, name, hp, hlong, hnodir, -⟩ := write_eq_ok_iff.1 hwrite
  obtain ⟨hadm, hlast, hturn, ho, hl⟩ := resolve_eq_name_iff.1 hp
  have hloc : d.location file = name :: l := by
    rw [← location_of_resolve hp, location_congr hgrows.workDir]
  rw [hgrows.origin] at ho
  obtain ⟨init, hinit⟩ := List.getLast?_eq_some_iff.1 hlast
  refine ⟨⟨hadm, ?_, hslash, name, hlast, hturn⟩, ?_, ?_, ?_⟩
  · intro n hn
    have hshort := ho.short
    rw [hinit] at hn hshort
    rw [List.dropLast_concat] at hshort
    rcases List.mem_append.1 hn with hn | hn
    · exact hshort n hn
    · rw [List.mem_singleton.1 hn, hlong]
  · intro m hm content hfile
    have hdir := ho.directories m hm
    rw [hgrows.kept hfile] at hdir
    cases hdir
  · intro hmem
    exact hnodir (hloc ▸ ho.directories _ hmem)
  · intro hdir
    exact hnodir (hloc ▸ hgrows.kept hdir)

/-- What can be written is written, whatever its content. -/
theorem exists_write_of_accepts {d d₁ : Disk} {file : Path} (h : d.Accepts file)
    (hgrows : d.Grows d₁ (d.wayAbove file)) (ho : d₁.Open (d.origin file) file.steps.dropLast)
    (content : ByteArray) : ∃ d', d₁.write file content = .ok d' := by
  obtain ⟨⟨hadm, hshort, hslash, name, hlast, hturn⟩, -, hapart, hnodir⟩ := h
  rw [← hgrows.origin] at ho
  have hp := resolve_eq_name_iff.2 ⟨hadm, hlast, hturn, ho, rfl⟩
  have hnodir₁ : d₁.get? (d₁.location file) ≠ some .directory := by
    rw [location_congr hgrows.workDir]
    rcases hgrows.entries (d.location file) with heq | ⟨hmem, -⟩
    · rwa [heq]
    · exact absurd hmem hapart
  rw [location_of_resolve hp] at hnodir₁
  have hlong := hshort name (List.mem_of_getLast? hlast)
  exact ⟨_, write_eq_ok_iff.2 ⟨hslash, _, _, hp, hlong, hnodir₁, rfl⟩⟩

end Disk

namespace OutputDir

/-- Where no file is in the way, the directories for a file can be made. -/
theorem makeParent_of_free {d : Disk} {file : Path} (h : file.NamesFile)
    (hfree : d.Free (d.wayAbove file)) :
    ∃ d₁, (makeParent file : StateM Disk _).run d = (.ok (), d₁) ∧
      d₁.Open (d.origin file) file.steps.dropLast := by
  obtain ⟨hadm, hshort, hslash, name, hlast, hturn⟩ := h
  have htidy := Path.tidy_of_getLast? hlast hturn hslash
  rw [makeParent_run]
  rcases hparent : file.parent? with _ | dir
  · rw [htidy.steps_of_parent?_eq_none hparent] at hlast
    simp at hlast
  · have hdir : ∀ n ∈ dir.steps, Disk.isTooLong n = false := fun n hn =>
      hshort n (Path.steps_parent?_subset hparent hn)
    have hok := Disk.makeDirs_eq_ok (hadm.parent? hparent) (Path.tidy_parent? hparent) hdir
      (hfree.mono (Disk.wayTo_parent?_subset hparent d))
    have hopen := (Disk.makeDirs_spec dir d).2 hok
    dsimp only
    rcases hrun : (FileSystem.makeDirs dir : StateM Disk _).run d with ⟨r, d₁⟩
    rw [hrun] at hok hopen
    obtain rfl : r = .ok () := hok
    obtain ⟨idle, hsteps, hidle⟩ := htidy.dropLast_steps hparent
    refine ⟨d₁, rfl, ?_⟩
    rw [hsteps, ← Disk.origin_parent? hparent]
    exact hopen.append_idle hidle

/-- **When an emission succeeds**: exactly if the disk accepts the file of the asset. -/
theorem emit_eq_ok_iff (a : Asset) (out : OutputDir) (d : Disk) :
    (((emit a : StateT OutputDir (StateM Disk) _).run out).run d).1.1 = .ok () ↔
      d.Accepts (a.fileIn out.dir) := by
  have hgrows := makeParent_grows (a.fileIn out.dir) d
  rw [emit_run]
  constructor
  · intro h
    rcases hparent : (makeParent (a.fileIn out.dir) : StateM Disk _).run d with ⟨cause | _, d₁⟩
    · simp [hparent] at h
    · rw [hparent] at hgrows
      simp only [hparent] at h
      cases hwrite : d₁.write (a.fileIn out.dir) a.source.toUTF8 with
      | error cause =>
        rw [hwrite] at h
        cases h
      | ok d' => exact Disk.accepts_of_write hgrows hwrite
  · intro h
    obtain ⟨d₁, hparent, ho⟩ := makeParent_of_free h.named h.free
    rw [hparent] at hgrows ⊢
    obtain ⟨d', hwrite⟩ := Disk.exists_write_of_accepts h hgrows ho a.source.toUTF8
    dsimp only
    rw [hwrite]

end OutputDir

end MiniTemplate
