import MiniTemplate.Build
import MiniTemplate.Proofs.Emission
import MiniTemplate.Proofs.Layering

/-!
# What a build does

The faults of a request are what can be wrong with it before anything is written: that the template
or the configuration cannot be read or has not the right form, and that the template does not
compile (`BuildRequest.faults`). Several can be there at once. A build looks for them in a fixed
order and stops at the first (`run_cases`), so it has done nothing then. Without a fault it emits
the markup to the output directory, and what emissions do is known: the file is written, and all
that is new beside it are directories on the way to the output directory, since the name of the
file is one name and goes down once (`outputFile_spec`).

The file is named after the input. A name on the disk need not spell a text, though, and the name of
the markup has to: an input whose name spells none is compiled to `component`.
-/

namespace MiniTemplate

namespace Disk

variable {α : Type} (d : Disk) (file : Path)

def unread? : Option BuildError :=
  match d.readText file with
  | .error cause => some (.unreadable file cause)
  | .ok _ => none

/-- The file can be read, and what it holds is not of the right form. -/
def undecoded? (decode? : Json → Option α) (invalid : BuildError) : Option BuildError :=
  match d.readText file with
  | .error _ => none
  | .ok text => if ((Json.readDocument? text).bind decode?).isSome then none else some invalid

/-- What a file holds, if it is of the right form. -/
def document? (decode? : Json → Option α) : Option α :=
  (d.readText file).toOption.bind fun text => (Json.readDocument? text).bind decode?

/-- The file can be read, and what it holds is a document of the right form. -/
def Documents (decode? : Json → Option α) (x : α) : Prop :=
  ∃ text json, d.readText file = .ok text ∧ Json.readDocument? text = some json ∧
    decode? json = some x

theorem documents_of_document? {decode? : Json → Option α} {x : α}
    (h : d.document? file decode? = some x) : d.Documents file decode? x := by
  obtain ⟨text, htext, h⟩ := Option.bind_eq_some_iff.1 h
  obtain ⟨json, hjson, h⟩ := Option.bind_eq_some_iff.1 h
  cases hread : d.readText file with
  | error cause =>
    rw [hread] at htext
    cases htext
  | ok read =>
    rw [hread] at htext
    cases htext
    exact ⟨_, json, hread, hjson, h⟩

end Disk

namespace BuildRequest

variable (r : BuildRequest) (d : Disk)

def template? : Option Template := d.document? r.input Template.decode?

/-- The configuration that is asked for. Where there is none, nothing is configured. -/
def config? : Option Config :=
  match r.config with
  | none => some {}
  | some file => d.document? file Config.decode?

/-- The configuration of the build: that of the file which is asked for, or one that sets
nothing. -/
def Configured (c : Config) : Prop :=
  (r.config = none ∧ c = {}) ∨ ∃ file, r.config = some file ∧ d.Documents file Config.decode? c

theorem configured_of_config? {c : Config} (h : r.config? d = some c) : r.Configured d c := by
  unfold config? at h
  split at h
  · next hnone =>
    cases h
    exact .inl ⟨hnone, rfl⟩
  · next file hsome => exact .inr ⟨file, hsome, d.documents_of_document? file h⟩

/-- What the template compiles to, if it and the configuration are there. -/
def markup? : Option (Except Fault String) :=
  (r.template? d).bind fun t => (r.config? d).map fun c => compile (r.options c) t

/-- The template has a fault under the options of the build. -/
def uncompiled? : Option BuildError :=
  match r.markup? d with
  | some (.error f) => some (.notGenerated r.input (.template f))
  | _ => none

def outputFile : Path := r.outputDir.join (.ofString r.fileName)

/-- All that is wrong with a request, in the order in which it is looked for. -/
def faults : List BuildError :=
  [d.unread? r.input,
    d.undecoded? r.input Template.decode? (.invalidTemplate r.input),
    r.config.bind d.unread?,
    r.config.bind fun file => d.undecoded? file Config.decode? (.invalidConfig file),
    r.uncompiled? d].filterMap id

/-- What is wrong with the template, as far as it can be told without the configuration. -/
def inputFaults : List BuildError :=
  [d.unread? r.input, d.undecoded? r.input Template.decode? (.invalidTemplate r.input)].filterMap id

def configFaults : List BuildError :=
  [r.config.bind d.unread?,
    r.config.bind fun file => d.undecoded? file Config.decode? (.invalidConfig file)].filterMap id

/-- What a build answers, by what came of emitting the markup: the file that was written. -/
def answer : (Except EmitFault Unit × OutputDir) × Disk → Except BuildError Path × Disk
  | ((.ok (), out), d) =>
    (match out.written.head? with
      | some file => .ok file
      | none => .error (.nothingEmitted r.input), d)
  | ((.error cause, _), d) => (.error (.notGenerated r.input (.emit r.fileName cause)), d)

/-- The faults in the order in which a build looks for them. -/
theorem faults_eq :
    r.faults d = r.inputFaults d ++ r.configFaults d ++ (r.uncompiled? d).toList := by
  have h : (r.uncompiled? d).toList = [r.uncompiled? d].filterMap id := by
    cases r.uncompiled? d <;> rfl
  rw [h, inputFaults, configFaults, ← List.filterMap_append, ← List.filterMap_append]
  rfl

end BuildRequest

namespace Build

section

variable {α : Type} (parse? : String → Option α) {decode? : Json → Option α}

/-- Reading a document leaves the disk as it is. -/
theorem load_run (invalid : Path → BuildError) (file : Path) (d : Disk) :
    (load parse? invalid file : StateM Disk _).run d =
      (match d.readText file with
        | .error cause => .error (.unreadable file cause)
        | .ok text =>
          match parse? text with
          | none => .error (invalid file)
          | some x => .ok x, d) := by
  have hread : (FileSystem.readText file : StateM Disk _).run d = (d.readText file, d) := rfl
  rw [load, StateT.run_bind, hread]
  cases d.readText file with
  | error cause => rfl
  | ok text =>
    show StateT.run (match parse? text with
      | none => pure (.error (invalid file))
      | some x => pure (.ok x) : StateM Disk (Except BuildError α)) d = _
    dsimp only
    cases parse? text <;> rfl

/-- A document is read, or the one thing that is wrong with it is found. -/
theorem load_cases (hparse : ∀ text, parse? text = (Json.readDocument? text).bind decode?)
    (invalid : Path → BuildError) (file : Path) (d : Disk) :
    (∃ x, (load parse? invalid file : StateM Disk _).run d = (.ok x, d) ∧
      d.document? file decode? = some x ∧
      [d.unread? file, d.undecoded? file decode? (invalid file)].filterMap id = []) ∨
    (∃ e, (load parse? invalid file : StateM Disk _).run d = (.error e, d) ∧
      d.document? file decode? = none ∧
      [d.unread? file, d.undecoded? file decode? (invalid file)].filterMap id = [e]) := by
  rw [load_run]
  unfold Disk.document? Disk.unread? Disk.undecoded?
  cases d.readText file with
  | error cause => exact .inr ⟨_, rfl, rfl, rfl⟩
  | ok text =>
    dsimp only [Except.toOption, Option.bind_some]
    rw [hparse]
    cases (Json.readDocument? text).bind decode? with
    | none => exact .inr ⟨_, rfl, rfl, rfl⟩
    | some x => exact .inl ⟨x, rfl, rfl, rfl⟩

end

/-- A configuration is there, also if none is asked for, or the one thing that is wrong with it is
found. -/
theorem loadConfig_cases (r : BuildRequest) (d : Disk) :
    (∃ c, (loadConfig r.config : StateM Disk _).run d = (.ok c, d) ∧ r.config? d = some c ∧
      r.configFaults d = []) ∨
    (∃ e, (loadConfig r.config : StateM Disk _).run d = (.error e, d) ∧ r.config? d = none ∧
      r.configFaults d = [e]) := by
  unfold BuildRequest.config? BuildRequest.configFaults
  cases r.config with
  | none => exact .inl ⟨{}, rfl, rfl, rfl⟩
  | some file => exact load_cases Config.parse? (fun _ => rfl) .invalidConfig file d

/-- The output directory takes the markup under the file name of the build. -/
theorem generate_run (o : Options) (t : Template) (out : OutputDir) (d : Disk) :
    ((generate OutputDir.emit o t : StateT OutputDir (StateM Disk) _).run out).run d =
      match compile o t with
      | .error f => ((.error (.template f), out), d)
      | .ok code =>
        match ((OutputDir.emit ⟨o.fileName, code⟩ : StateT OutputDir (StateM Disk) _).run out).run d
        with
        | ((.ok (), out'), d') => ((.ok (), out'), d')
        | ((.error cause, out'), d') => ((.error (.emit o.fileName cause), out'), d') := by
  rw [generate]
  cases compile o t with
  | error f => rfl
  | ok code =>
    dsimp only
    rw [StateT.run_bind, StateT.run_bind]
    rcases ((OutputDir.emit ⟨o.fileName, code⟩ : StateT OutputDir (StateM Disk) _).run out).run d
      with ⟨⟨_ | _, out'⟩, d'⟩ <;> rfl

section

variable {r : BuildRequest} {d : Disk} {t : Template} {c : Config} {e : BuildError}

theorem run_of_input_fault
    (hinput : (load Template.parse? .invalidTemplate r.input : StateM Disk _).run d =
      (.error e, d)) :
    (run r : StateM Disk _).run d = (.error e, d) := by
  rw [run, StateT.run_bind, hinput]
  rfl

theorem run_of_config_fault
    (hinput : (load Template.parse? .invalidTemplate r.input : StateM Disk _).run d = (.ok t, d))
    (hconfig : (loadConfig r.config : StateM Disk _).run d = (.error e, d)) :
    (run r : StateM Disk _).run d = (.error e, d) := by
  rw [run, StateT.run_bind, hinput]
  show StateT.run (loadConfig r.config >>= _) d = _
  rw [StateT.run_bind, hconfig]
  rfl

/-- What a build does once both documents are there: it compiles the template and emits the markup.
-/
theorem run_of_loaded
    (hinput : (load Template.parse? .invalidTemplate r.input : StateM Disk _).run d = (.ok t, d))
    (hconfig : (loadConfig r.config : StateM Disk _).run d = (.ok c, d)) :
    (run r : StateM Disk _).run d =
      match compile (r.options c) t with
      | .error f => (.error (.notGenerated r.input (.template f)), d)
      | .ok code =>
        r.answer (((OutputDir.emit ⟨r.fileName, code⟩ : StateT OutputDir (StateM Disk) _).run
          { dir := r.outputDir }).run d) := by
  rw [run, StateT.run_bind, hinput]
  show StateT.run (loadConfig r.config >>= _) d = _
  rw [StateT.run_bind, hconfig]
  show StateT.run ((generate OutputDir.emit (r.options c) t).run { dir := r.outputDir } >>= _) d = _
  rw [StateT.run_bind, generate_run]
  cases compile (r.options c) t with
  | error f => rfl
  | ok code =>
    dsimp only
    have hname : (r.options c).fileName = r.fileName := rfl
    rw [hname]
    rcases ((OutputDir.emit ⟨r.fileName, code⟩ : StateT OutputDir (StateM Disk) _).run
      { dir := r.outputDir }).run d with ⟨⟨_ | _, ⟨dir, _ | _⟩⟩, d'⟩ <;> rfl

end

/-- A build stops at the first fault, or hands the markup over to the output directory. -/
theorem run_cases (r : BuildRequest) (d : Disk) :
    (∃ e, (r.faults d).head? = some e ∧ (run r : StateM Disk _).run d = (.error e, d)) ∨
    (∃ code, r.faults d = [] ∧ r.markup? d = some (.ok code) ∧
      (run r : StateM Disk _).run d =
        r.answer (((OutputDir.emit ⟨r.fileName, code⟩ : StateT OutputDir (StateM Disk) _).run
          { dir := r.outputDir }).run d)) := by
  have hfaults := r.faults_eq d
  rw [BuildRequest.inputFaults] at hfaults
  rcases load_cases Template.parse? (fun _ => rfl) .invalidTemplate r.input d with
    ⟨t, hinput, ht, hsound⟩ | ⟨e, hinput, -, hfault⟩
  · rw [hsound, List.nil_append] at hfaults
    rcases loadConfig_cases r d with ⟨c, hconfig, hc, hsound⟩ | ⟨e, hconfig, -, hfault⟩
    · have hmarkup : r.markup? d = some (compile (r.options c) t) := by
        rw [BuildRequest.markup?, BuildRequest.template?, ht, hc]
        rfl
      have hrun := run_of_loaded hinput hconfig
      rw [hsound, List.nil_append] at hfaults
      unfold BuildRequest.uncompiled? at hfaults
      rw [hmarkup] at hfaults
      cases hcompile : compile (r.options c) t with
      | error f =>
        rw [hcompile] at hfaults hrun
        exact .inl ⟨_, congrArg List.head? hfaults, hrun⟩
      | ok code =>
        rw [hcompile] at hfaults hmarkup hrun
        exact .inr ⟨code, hfaults, hmarkup, hrun⟩
    · rw [hfault] at hfaults
      exact .inl ⟨e, congrArg List.head? hfaults, run_of_config_fault hinput hconfig⟩
  · rw [hfault] at hfaults
    exact .inl ⟨e, congrArg List.head? hfaults, run_of_input_fault hinput⟩

end Build

/-! ## The file for the markup -/

/-- A file that can be read has a stem. -/
theorem Path.exists_fileStem?_of_read {bytes : List UInt8} {d : Disk} {content : ByteArray}
    (h : d.read (ofBytes bytes) = .ok content) :
    ∃ stem, (ofBytes bytes).fileStem? = some stem ∧ Name.slash ∉ stem.bytes := by
  obtain ⟨hslash, l, name, hp, -, -⟩ := Disk.read_eq_ok_iff.1 h
  obtain ⟨-, hlast, hturn, -, -⟩ := Disk.resolve_eq_name_iff.1 hp
  obtain ⟨hname, hmem⟩ := fileName?_of_getLast? hlast hturn hslash
  refine ⟨stem name, by rw [fileStem?, hname, Option.map_some], fun hc => ?_⟩
  exact noSlash_ofBytes bytes name hmem ((stem_sublist name).subset hc)

/-- The text that a stem gives to the name of the markup: its own, if it spells one. -/
inductive Name.Titles (stem : Name) : String → Prop
  | text (text : String) : stem = .ofText text → Titles stem text
  | component : (∀ text, stem ≠ .ofText text) → Titles stem "component"

/-- A stem gives its own text or, if it spells none, the title `component`. -/
theorem Name.titles_getD (stem : Name) : stem.Titles (stem.text?.getD "component") := by
  cases htext : stem.text? with
  | some text => exact .text text (text?_eq_some_iff.1 htext)
  | none =>
    refine .component fun text heq => ?_
    rw [text?_eq_some_iff.2 heq] at htext
    cases htext

theorem Name.Titles.noSlash {stem : Name} {title : String} (h : stem.Titles title)
    (hstem : slash ∉ stem.bytes) : slash ∉ (ofText title).bytes := by
  cases h with
  | text text heq => rwa [← heq]
  | component _ => decide

namespace Disk

/-- The way above a file in a directory is the way to the directory. -/
theorem wayAbove_join_name {name : String} (hslash : Name.slash ∉ (Name.ofText name).bytes)
    (hne : name ≠ "") (dir : Path) (d : Disk) :
    d.wayAbove (dir.join (.ofString name)) = d.wayTo dir := by
  have hname : Path.ofString name = ⟨name, []⟩ := Path.ofBytes_of_noSlash hslash
  have hrel : (Path.mk name []).isAbsolute = false := by simp [Path.isAbsolute]
  have hsteps : (Path.mk name []).steps = [.ofText name] := by simp [Path.steps, hne]
  rw [hname, wayAbove, origin_join hrel, Path.steps_join hrel, hsteps, List.dropLast_concat, wayTo]

end Disk

namespace BuildRequest

variable {r : BuildRequest} {d : Disk}

/-- There is markup only of an input that can be read. -/
theorem exists_read_of_markup? {result : Except Fault String} (h : r.markup? d = some result) :
    ∃ content, d.read r.input = .ok content := by
  obtain ⟨t, ht, -⟩ := Option.bind_eq_some_iff.1 h
  cases hread : d.read r.input with
  | ok content => exact ⟨content, rfl⟩
  | error cause =>
    rw [template?, Disk.document?, Disk.readText, hread] at ht
    cases ht

/-- Where a build has markup to write. -/
theorem outputFile_spec {bytes : List UInt8} (hinput : r.input = .ofBytes bytes)
    {result : Except Fault String} (h : r.markup? d = some result) :
    (∃ stem title, r.input.fileStem? = some stem ∧ stem.Titles title ∧ r.outputFile =
      r.outputDir.join (.ofString (title ++ "." ++ r.target.extension))) ∧
    d.wayAbove r.outputFile = d.wayTo r.outputDir := by
  obtain ⟨content, hread⟩ := exists_read_of_markup? h
  rw [hinput] at hread
  obtain ⟨stem, hstem, hslash⟩ := Path.exists_fileStem?_of_read hread
  have htitle := stem.titles_getD
  have hname : r.fileName = stem.text?.getD "component" ++ "." ++ r.target.extension := by
    rw [fileName, hinput, hstem, Option.bind_some]
  have hext : Name.slash ∉ (Name.ofText ("." ++ r.target.extension)).bytes := by
    cases r.target <;> decide
  refine ⟨⟨stem, _, by rw [hinput, hstem], htitle, by rw [outputFile, hname]⟩, ?_⟩
  apply Disk.wayAbove_join_name
  · rw [hname, String.append_assoc, Name.bytes_ofText_append]
    exact fun hmem => (List.mem_append.1 hmem).elim (htitle.noSlash hslash) hext
  · intro hempty
    have hlen := congrArg String.length hempty
    simp [hname] at hlen

/-- The build has written its file: the file is named after the input, it holds what the template in
the input compiles to under the options of the dialect with the configuration on top, and beside it
only directories on the way to the output directory are new. -/
structure Built (r : BuildRequest) (d d' : Disk) (file : Path) : Prop where
  named : ∃ stem title, r.input.fileStem? = some stem ∧ stem.Titles title ∧
    file = r.outputDir.join (.ofString (title ++ "." ++ r.target.extension))
  holds : ∃ t c o code, d.Documents r.input Template.decode? t ∧ r.Configured d c ∧
    c.Over (.ofDialect r.target r.fileName) o ∧ compile o t = .ok code ∧
    d'.read file = .ok code.toUTF8 ∧ d'.get? (d.location file) = some (.file code.toUTF8)
  others : ∀ l, l ≠ d.location file → d'.get? l = d.get? l ∨
    (l ∈ d.wayTo r.outputDir ∧ d.get? l = none ∧ d'.get? l = some .directory)

/-- Once the markup is stored in its file, the build is done. -/
theorem built_of_stored {bytes : List UInt8} (hinput : r.input = .ofBytes bytes) {code : String}
    (h : r.markup? d = some (.ok code)) {d' : Disk}
    (hstored : d.Stored d' r.outputFile code.toUTF8) : r.Built d d' r.outputFile := by
  obtain ⟨hnamed, hway⟩ := outputFile_spec hinput h
  obtain ⟨t, ht, hc⟩ := Option.bind_eq_some_iff.1 h
  obtain ⟨c, hc, hcompile⟩ := Option.map_eq_some_iff.1 hc
  refine ⟨hnamed, ⟨t, c, _, code, d.documents_of_document? r.input ht, r.configured_of_config? d hc,
    (c.over_iff _ _).2 rfl, hcompile, hstored.reads, hstored.holds⟩, ?_⟩
  rw [← hway]
  exact hstored.others

end BuildRequest

/-- The output directory did not take the markup. -/
def BuildError.isEmission : BuildError → Bool
  | notGenerated _ (.emit _ _) => true
  | _ => false

namespace Build

theorem command_run (r : BuildRequest) (d : Disk) :
    (command r : StateM Disk _).run d =
      match (run r : StateM Disk _).run d with
      | (.ok file, d') => (⟨.ok file, report file⟩, d')
      | (.error e, d') => (⟨.error e, ""⟩, d') := by
  rw [command, StateT.run_bind]
  rcases (run r : StateM Disk _).run d with ⟨_ | _, d'⟩ <;> rfl

/-- A build reports the first fault and has done nothing; or it has none, and writes its file if the
disk accepts it, or else makes at most directories. -/
theorem command_cases {r : BuildRequest} {bytes : List UInt8} (hinput : r.input = .ofBytes bytes)
    (d : Disk) :
    (∃ e, (r.faults d).head? = some e ∧
      (command r : StateM Disk _).run d = (⟨.error e, ""⟩, d)) ∨
    (r.faults d = [] ∧ d.Accepts r.outputFile ∧ ∃ d',
      (command r : StateM Disk _).run d = (⟨.ok r.outputFile, report r.outputFile⟩, d') ∧
      r.Built d d' r.outputFile) ∨
    (r.faults d = [] ∧ ¬ d.Accepts r.outputFile ∧ ∃ cause d',
      (command r : StateM Disk _).run d =
        (⟨.error (.notGenerated r.input (.emit r.fileName cause)), ""⟩, d') ∧
      d.Grows d' (d.wayTo r.outputDir)) := by
  rw [command_run]
  rcases run_cases r d with ⟨e, hfault, hrun⟩ | ⟨code, hsound, hmarkup, hrun⟩
  · rw [hrun]
    exact .inl ⟨e, hfault, rfl⟩
  · have haccepts := OutputDir.emit_eq_ok_iff ⟨r.fileName, code⟩ { dir := r.outputDir } d
    have hfile : Asset.fileIn r.outputDir ⟨r.fileName, code⟩ = r.outputFile := rfl
    rcases OutputDir.emit_spec ⟨r.fileName, code⟩ { dir := r.outputDir } d with
      ⟨d', hemit, hstored⟩ | ⟨cause, d', hemit, hgrows⟩
    · rw [hemit] at haccepts hrun
      rw [hrun]
      exact .inr (.inl ⟨hsound, haccepts.1 rfl, d', rfl,
        BuildRequest.built_of_stored hinput hmarkup hstored⟩)
    · rw [hemit] at haccepts hrun
      rw [hrun]
      refine .inr (.inr ⟨hsound, fun h => (nomatch haccepts.2 h), cause, d', rfl, ?_⟩)
      rw [← (BuildRequest.outputFile_spec hinput hmarkup).2]
      exact hgrows

theorem eq_ok_of_toOption {ε α : Type} {x : Except ε α} {a : α} (h : x.toOption = some a) :
    x = .ok a := by
  cases x with
  | error e => cases h
  | ok b => exact congrArg _ (Option.some.inj h)

/-- **What a build does.** If it succeeds, the file that it names holds the markup, and all else is
as it was, but for new directories on the way to the output directory; and the file is reported. If
it fails, nothing is printed, and nothing has changed, unless the output directory did not take the
markup: then at most directories on the way to it were made. Any other error is the first fault of
the request. A build succeeds exactly if the request has no fault and the disk accepts the file. -/
theorem command_writes_only_output (input : List UInt8) (outDir : Option Path) (target : Dialect)
    (config : Option Path) (d : Disk) :
    let r : BuildRequest := { input := .ofBytes input, outDir, target, config }
    let outcome := ((command r : StateM Disk _).run d).1
    let d' := ((command r : StateM Disk _).run d).2
    (∀ file, outcome.result = .ok file → r.Built d d' file ∧ outcome.stdout = report file) ∧
    (∀ e, outcome.result = .error e → outcome.stdout = "" ∧ (e.isEmission = false → d' = d) ∧
      (e.isEmission = true → d.Grows d' (d.wayTo r.outputDir))) ∧
    (∀ e, e.isEmission = false → (outcome.result = .error e ↔ (r.faults d).head? = some e)) ∧
    ((∃ file, outcome.result = .ok file) ↔ r.faults d = [] ∧ d.Accepts r.outputFile) := by
  intro r
  have hinput : r.input = .ofBytes input := rfl
  clear_value r
  dsimp only
  rcases command_cases hinput d with ⟨e, hfault, hrun⟩ | ⟨hsound, haccepts, d', hrun, hbuilt⟩ |
    ⟨hsound, hrefuses, cause, d', hrun, hgrows⟩
  · have hfaulty : r.faults d ≠ [] := by
      intro hsound
      rw [hsound] at hfault
      cases hfault
    rw [hrun, hfault]
    refine ⟨fun file h => (nomatch h), fun e' _ => ⟨rfl, fun _ => rfl, fun _ => .refl d _⟩, ?_, ?_⟩
    · intro e' _
      simp
    · simp [hfaulty]
  · rw [hrun, hsound]
    refine ⟨?_, fun e h => (nomatch h), fun e _ => by simp, by simp [haccepts]⟩
    intro file h
    obtain rfl : r.outputFile = file := Except.ok.inj h
    exact ⟨hbuilt, rfl⟩
  · rw [hrun, hsound]
    refine ⟨fun file h => (nomatch h), ?_, ?_, by simp [hrefuses]⟩
    · intro e h
      cases h
      exact ⟨rfl, fun hne => (nomatch hne), fun _ => hgrows⟩
    · intro e hne
      constructor
      · intro h
        cases h
        cases hne
      · intro h
        cases h

/-- A build with a configuration, to a directory that is not there yet; and one of which neither the
template nor the configuration is there: the first of the two faults is reported. -/
theorem command_writes_only_output_configured :
    let template := "\x7b\"children\":[\x7b\"element\":" ++
      "\x7b\"tag\":\"map\",\"role\":\"component\",\"selfClosing\":true\x7d\x7d]\x7d"
    let config := "\x7b\"directive\":\"my:\",\"miniProgramComponents\":[\"map\"]\x7d"
    let d : Disk := ((Disk.ofWorkDir ["work"]).insert ["a.json", "work"]
      (.file template.toUTF8)).insert ["c.json", "work"] (.file config.toUTF8)
    let r : BuildRequest := { input := .ofString "a.json", config := some (.ofString "c.json") }
    let r' : BuildRequest := { input := .ofString "b.json", config := some (.ofString "e.json") }
    let file : Path := .ofString "target/mptpl-gen/a.wxml"
    let missing (name : String) : BuildError := .unreadable (.ofString name) .notFound
    (r.Built d ((command r : StateM Disk _).run d).2 file ∧
      ((command r : StateM Disk _).run d).2.readText file =
        .ok "<map my:if=\"\x7b\x7br0\x7d\x7d\"/>" ∧
      ((command r : StateM Disk _).run d).1.stdout = "Generated: target/mptpl-gen/a.wxml\n") ∧
    r'.faults d = [missing "b.json", missing "e.json"] ∧
    ((command r' : StateM Disk _).run d).1.result = .error (missing "b.json") ∧
    ((command r' : StateM Disk _).run d).2 = d := by
  intro template config d r r' file missing
  have hok : ((command r : StateM Disk _).run d).1.result.toOption = some file := by decide +kernel
  have hread : (((command r : StateM Disk _).run d).2.readText file).toOption =
      some "<map my:if=\"\x7b\x7br0\x7d\x7d\"/>" := by decide +kernel
  have hfaults : r'.faults d = [missing "b.json", missing "e.json"] := by decide +kernel
  clear_value d
  obtain ⟨hbuilt, hreport⟩ := (command_writes_only_output (Name.ofText "a.json").bytes none .weixin
    (some (.ofString "c.json")) d).1 file (eq_ok_of_toOption hok)
  obtain ⟨-, hkept, hfirst, -⟩ := command_writes_only_output (Name.ofText "b.json").bytes none
    .weixin (some (.ofString "e.json")) d
  have hmissing := (hfirst (missing "b.json") rfl).2 (congrArg List.head? hfaults)
  exact ⟨⟨hbuilt, eq_ok_of_toOption hread, hreport.trans (by decide +kernel)⟩, hfaults, hmissing,
    (hkept _ hmissing).2.1 rfl⟩

/-- The name of this input, the byte `ff` before its ending, spells no text. It is compiled, and the
file does not get the stem of the input. -/
theorem command_of_unspelled_input :
    let name : Name := ⟨0xff :: (Name.ofText ".json").bytes⟩
    let d : Disk := (Disk.ofWorkDir ["work"]).insert [name, "work"]
      (.file "\x7b\"children\":[\x7b\"text\":\"hi\"\x7d]\x7d".toUTF8)
    let r : BuildRequest := { input := .ofBytes name.bytes }
    r.input.fileStem? = some ⟨[0xff]⟩ ∧
    ((command r : StateM Disk _).run d).1.result.toOption =
      some (.ofString "target/mptpl-gen/component.wxml") ∧
    Path.ofString "target/mptpl-gen/component.wxml" ≠
      r.outputDir.join (.ofBytes (0xff :: (Name.ofText ".wxml").bytes)) := by
  decide +kernel

end Build

end MiniTemplate
