import MiniTemplate.Proofs.Emission

/-!
# What an output directory has written

Assets may share a file, also under different names, and one may need a directory where another has
its file. Through all of this the list of written files stays exact: it names the files of the
emissions that succeeded, in their order, and each of them holds what was last written to it
(`written_files_hold_last_sources`).

The state of a run is compared with the assets taken so far (`OutputDir.Kept`). A single emission
keeps this up (`kept_emission`): files and directories stay what they are, except for the one file
that is written.
-/

namespace MiniTemplate

namespace OutputDir

/-- Emits an asset, with the output directory and the disk as one state. -/
def emission (a : Asset) : StateM (OutputDir × Disk) (Except EmitFault Unit) := fun s =>
  let r := ((emit a : StateT OutputDir (StateM Disk) _).run s.1).run s.2
  (r.1.1, r.1.2, r.2)

/-- Of the assets, `a` is the last one whose file is at the location. -/
def LastAt (d : Disk) (dir : Path) (assets : List Asset) (l : Location) (a : Asset) : Prop :=
  ∃ before after, assets = before ++ a :: after ∧ d.location (a.fileIn dir) = l ∧
    ∀ b ∈ after, d.location (b.fileIn dir) ≠ l

/-- The state after the assets were taken: their files are listed, and each file holds the source of
the last asset that went there. -/
structure Kept (dir : Path) (assets : List Asset) (s : OutputDir × Disk) : Prop where
  dir_eq : s.1.dir = dir
  written : s.1.written = assets.map (·.fileIn dir)
  holds : ∀ a ∈ assets, ∃ b, LastAt s.2 dir assets (s.2.location (a.fileIn dir)) b ∧
    s.2.read (a.fileIn dir) = .ok b.source.toUTF8

/-- More directories take no file away. -/
theorem Kept.of_grows {dir : Path} {assets : List Asset} {out : OutputDir} {d d' : Disk}
    {ls : List Location} (h : Kept dir assets (out, d)) (hgrows : d.Grows d' ls) :
    Kept dir assets (out, d') := by
  refine ⟨h.dir_eq, h.written, fun a ha => ?_⟩
  obtain ⟨b, hlast, hread⟩ := h.holds a ha
  have hloc := Disk.location_congr hgrows.workDir
  refine ⟨b, ?_, ?_⟩
  · simp only [LastAt, hloc]
    exact hlast
  · exact Disk.read_of_read hread hgrows.workDir (fun m hm => hgrows.kept hm)
      (hgrows.kept (Disk.get?_location_of_read hread))

/-- Storing one more asset replaces at most the content of its own file. -/
theorem Kept.of_stored {dir : Path} {assets : List Asset} {out : OutputDir} {d d' : Disk}
    {a : Asset} (h : Kept dir assets (out, d))
    (hstored : d.Stored d' (a.fileIn dir) a.source.toUTF8) :
    Kept dir (assets ++ [a]) ({ out with written := out.written ++ [a.fileIn dir] }, d') := by
  obtain ⟨hdir, hwritten, hholds⟩ := h
  dsimp only at hdir hwritten hholds
  have hloc := Disk.location_congr hstored.workDir
  have hdirs : ∀ m, d.get? m = some .directory → d'.get? m = some .directory :=
    fun m hm => hstored.kept_directory hm
  refine ⟨hdir, by simp [hwritten], fun b hb => ?_⟩
  simp only [LastAt, hloc]
  by_cases hsame : d.location (b.fileIn dir) = d.location (a.fileIn dir)
  · -- the file of `b` is the one that was just written
    refine ⟨a, ⟨assets, [], rfl, hsame.symm, by simp⟩, ?_⟩
    rcases List.mem_append.1 hb with hb | hb
    · obtain ⟨c, -, hread⟩ := hholds b hb
      apply Disk.read_of_read hread hstored.workDir hdirs
      rw [hsame]
      exact hstored.holds
    · rw [List.mem_singleton.1 hb]
      exact hstored.reads
  · have hb : b ∈ assets := by
      rcases List.mem_append.1 hb with hb | hb
      · exact hb
      · rw [List.mem_singleton.1 hb] at hsame
        exact absurd rfl hsame
    obtain ⟨c, ⟨before, after, hassets, hc, hafter⟩, hread⟩ := hholds b hb
    refine ⟨c, ⟨before, after ++ [a], by simp [hassets], hc, ?_⟩, ?_⟩
    · intro e he
      rcases List.mem_append.1 he with he | he
      · exact hafter e he
      · rw [List.mem_singleton.1 he]
        exact fun heq => hsame heq.symm
    · apply Disk.read_of_read hread hstored.workDir hdirs
      exact hstored.kept hsame (Disk.get?_location_of_read hread)

/-- One emission either writes the file of the asset, or fails and only adds directories. -/
theorem emission_cases (s : OutputDir × Disk) (a : Asset) :
    (∃ d', Call.of emission s a =
        ⟨a, s, .ok (), ({ s.1 with written := s.1.written ++ [a.fileIn s.1.dir] }, d')⟩ ∧
      s.2.Accepts (a.fileIn s.1.dir) ∧
      s.2.Stored d' (a.fileIn s.1.dir) a.source.toUTF8) ∨
    ∃ cause d', Call.of emission s a = ⟨a, s, .error cause, (s.1, d')⟩ ∧
      ¬ s.2.Accepts (a.fileIn s.1.dir) ∧
      s.2.Grows d' (s.2.wayAbove (a.fileIn s.1.dir)) := by
  have hcall : Call.of emission s a = ⟨a, s, ((emission a).run s).1, ((emission a).run s).2⟩ := rfl
  have hrun : (emission a).run s =
      ((((emit a : StateT OutputDir (StateM Disk) _).run s.1).run s.2).1.1,
        (((emit a : StateT OutputDir (StateM Disk) _).run s.1).run s.2).1.2,
        (((emit a : StateT OutputDir (StateM Disk) _).run s.1).run s.2).2) := rfl
  have haccepts := emit_eq_ok_iff a s.1 s.2
  rcases emit_spec a s.1 s.2 with ⟨d', hemit, hstored⟩ | ⟨cause, d', hemit, hgrows⟩
  · rw [hemit] at hrun haccepts
    rw [hcall, hrun]
    exact .inl ⟨d', rfl, haccepts.1 rfl, hstored⟩
  · rw [hemit] at hrun haccepts
    rw [hcall, hrun]
    exact .inr ⟨cause, d', rfl, fun h => (nomatch haccepts.2 h), hgrows⟩

/-- One more emission keeps the state in line with the assets that were taken. -/
theorem kept_emission {dir : Path} {assets : List Asset} {s : OutputDir × Disk}
    (h : Kept dir assets s) (a : Asset) :
    Kept dir (assets ++ if (Call.of emission s a).answer.isOk then [a] else [])
      (Call.of emission s a).after := by
  obtain rfl : s.1.dir = dir := h.dir_eq
  rcases emission_cases s a with ⟨d', hcall, -, hstored⟩ | ⟨cause, d', hcall, -, hgrows⟩
  · rw [hcall]
    exact h.of_stored hstored
  · rw [hcall]
    simp only [Except.isOk, Except.toBool, Bool.false_eq_true, if_false, List.append_nil]
    exact h.of_grows hgrows

theorem kept_nil (dir : Path) (d : Disk) : Kept dir [] ({ dir }, d) :=
  ⟨rfl, rfl, fun a ha => by cases ha⟩

/-- Whatever calls failed in between, the files of those that succeeded are listed and hold the last
source. -/
theorem kept_run (dir : Path) (d : Disk) (assets : List Asset) :
    Kept dir (Call.taken (Call.all emission ({ dir }, d) assets))
      (Call.final emission ({ dir }, d) assets) := by
  apply Call.run_induction (P := fun calls s => Kept dir (Call.taken calls) s)
  · exact kept_nil dir d
  · intro calls s a h
    rw [Call.taken_concat]
    exact kept_emission h a

/-- What is true of the state of a run is read off the disk: a written file leads to a name that
holds the source of the last asset taken that leads there too. -/
theorem Kept.resolved {dir : Path} {assets : List Asset} {s : OutputDir × Disk}
    (h : Kept dir assets s) {file : Path} (hfile : file ∈ s.1.written) :
    ∃ l name before a after, assets = before ++ a :: after ∧
      s.2.resolve file = .ok (.name l name) ∧
      s.2.resolve (a.fileIn dir) = .ok (.name l name) ∧
      (∀ b ∈ after, s.2.resolve (b.fileIn dir) ≠ .ok (.name l name)) ∧
      s.2.get? (name :: l) = some (.file a.source.toUTF8) ∧
      s.2.readText file = .ok a.source := by
  rw [h.written] at hfile
  obtain ⟨c, hc, rfl⟩ := List.mem_map.1 hfile
  obtain ⟨a, ⟨before, after, hassets, hloc, hafter⟩, hread⟩ := h.holds c hc
  obtain ⟨-, l, name, hp, -, hget⟩ := Disk.read_eq_ok_iff.1 hread
  rw [Disk.location_of_resolve hp] at hloc hafter
  refine ⟨l, name, before, a, after, hassets, hp, ?_, ?_, hget, Disk.readText_of_read hread⟩
  · have ha : a ∈ assets := by simp [hassets]
    obtain ⟨b, -, hread'⟩ := h.holds a ha
    obtain ⟨-, l', name', hp', -, -⟩ := Disk.read_eq_ok_iff.1 hread'
    rw [Disk.location_of_resolve hp'] at hloc
    cases hloc
    exact hp'
  · intro b hb hp'
    exact hafter b hb (Disk.location_of_resolve hp')

theorem dir_of_mem_run (dir : Path) (d : Disk) (assets : List Asset) :
    ∀ c ∈ Call.all emission ({ dir }, d) assets, c.before.1.dir = dir := by
  have h := Call.run_induction (f := emission) (s := (({ dir } : OutputDir), d))
    (P := fun calls s => s.1.dir = dir ∧ ∀ c ∈ calls, c.before.1.dir = dir)
    ⟨rfl, fun c hc => by cases hc⟩ ?_ assets
  · exact h.2
  · rintro calls s a ⟨hs, hcalls⟩
    refine ⟨?_, fun c hc => ?_⟩
    · rcases emission_cases s a with ⟨d', hcall, -, -⟩ | ⟨cause, d', hcall, -, -⟩ <;>
        rw [hcall] <;> exact hs
    · rcases List.mem_append.1 hc with hc | hc
      · exact hcalls c hc
      · rw [List.mem_singleton.1 hc]
        exact hs

/-- **Written files hold what was last written to them.** Over a run of emissions, the files that
are listed are those of the calls that succeeded, in their order. Each of them is there at the end,
and holds the source of the last asset that was taken and leads to the same place. A call succeeds
exactly if the disk accepts its file; if it fails, the list is as it was, and so is the disk but
for new directories. -/
theorem written_files_hold_last_sources (d : Disk) (dir : Path) (assets : List Asset) :
    let calls := Call.all emission ({ dir }, d) assets
    let final := Call.final emission ({ dir }, d) assets
    calls.map (·.given) = assets ∧
    final.1.written = (Call.taken calls).map (·.fileIn dir) ∧
    (∀ file ∈ final.1.written, ∃ l name before a after, Call.taken calls = before ++ a :: after ∧
      final.2.resolve file = .ok (.name l name) ∧
      final.2.resolve (a.fileIn dir) = .ok (.name l name) ∧
      (∀ b ∈ after, final.2.resolve (b.fileIn dir) ≠ .ok (.name l name)) ∧
      final.2.get? (name :: l) = some (.file a.source.toUTF8) ∧
      final.2.readText file = .ok a.source) ∧
    ∀ c ∈ calls,
      (c.answer.isOk = true ↔ c.before.2.Accepts (c.given.fileIn dir)) ∧
      (c.answer.isOk = false → c.after.1 = c.before.1 ∧
        ∀ l, c.after.2.get? l = c.before.2.get? l ∨
          (c.before.2.get? l = none ∧ c.after.2.get? l = some .directory)) := by
  intro calls final
  have hkept := kept_run dir d assets
  refine ⟨Call.map_given_all _ _ _, hkept.written, fun file hfile => hkept.resolved hfile, ?_⟩
  intro c hc
  have hdir := dir_of_mem_run dir d assets c hc
  have hof := Call.eq_of_mem_all hc
  rw [← hdir]
  rcases emission_cases c.before c.given with
    ⟨d', hcall, hacc, -⟩ | ⟨cause, d', hcall, hacc, hgrows⟩
  · have hanswer : c.answer = .ok () := congrArg Call.answer (hof.trans hcall)
    rw [hanswer]
    exact ⟨iff_of_true rfl hacc, fun hfail => nomatch hfail⟩
  · have hanswer : c.answer = .error cause := congrArg Call.answer (hof.trans hcall)
    have hafter : c.after = (c.before.1, d') := congrArg Call.after (hof.trans hcall)
    rw [hanswer, hafter]
    refine ⟨iff_of_false nofun hacc, fun _ => ⟨rfl, fun l => ?_⟩⟩
    rcases hgrows.entries l with heq | ⟨-, hnone, hnew⟩
    · exact .inl heq
    · exact .inr ⟨hnone, hnew⟩

/-- Two assets share a file, and between them comes one that needs a directory in its place. -/
theorem written_files_hold_last_sources_shared :
    let d := Disk.ofWorkDir ["work"]
    let dir := Path.ofString "out"
    let assets : List Asset := [⟨"a", "1"⟩, ⟨"a/b", "2"⟩, ⟨"./a", "3"⟩]
    let final := Call.final emission ({ dir }, d) assets
    final.1.written = [.ofString "out/a", .ofString "out/./a"] ∧
    final.2.readText (.ofString "out/a") = .ok "3" := by
  intro d dir assets final
  have hwritten : final.1.written = [.ofString "out/a", .ofString "out/./a"] := by decide +kernel
  have hthree : (final.2.readText (.ofString "out/a")).toOption = some "3" := by decide +kernel
  clear_value d dir assets
  obtain ⟨-, -, hholds, -⟩ := written_files_hold_last_sources d dir assets
  have hmem : .ofString "out/a" ∈ final.1.written := by
    rw [hwritten]
    exact List.mem_cons_self
  obtain ⟨l, name, before, a, after, -, -, -, -, -, hread⟩ := hholds _ hmem
  refine ⟨hwritten, hread.trans ?_⟩
  rw [hread] at hthree
  exact congrArg _ (Option.some.inj hthree)

end OutputDir

end MiniTemplate
