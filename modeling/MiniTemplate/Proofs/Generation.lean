import MiniTemplate.Proofs.WrittenFiles

/-!
# Handing templates over

Templates are handed over one after the other, each with its own options, to one emitter. The
emitter is asked exactly once for each template that compiles, with its file name and its markup,
and never for one that does not (`serve_recorded`, for an emitter that keeps a record of what it is
asked). So nothing of a faulty template gets to the emitter or to a later template, and an emitter
that holds what it takes holds at the end the assets of the templates that were handed over.

What it means to hold assets is left to the emitter (`Emitter.Holds`): its state may change also
when it refuses an asset, as long as it goes on to hold what it held. It may refuse an asset and
take it when it is asked again (`Emitter.scripted`), and an output directory that could not write a
file may have made directories for it (`OutputDir.holds_emission`).
-/

namespace MiniTemplate

/-- The asset that a template is handed over as, if it compiles. -/
def Asset.compiled? (job : Options × Template) : Option Asset :=
  (compile job.1 job.2).toOption.map (⟨job.1.fileName, ·⟩)

namespace Emitter

variable {σ : Type}

def serve (emit : Emitter (StateM σ)) (job : Options × Template) :
    StateM σ (Except GenerateError Unit) :=
  generate emit job.1 job.2

/-- The emitter, with a record of all assets that it was asked to take. -/
def recorded (emit : Emitter (StateM σ)) : Emitter (StateM (σ × List Asset)) := fun a (s, log) =>
  let (answer, s') := (emit a).run s
  (answer, (s', log ++ [a]))

/-- The emitter holds the assets that it takes, and goes on to hold what it held when it refuses
one. -/
structure Holds (emit : Emitter (StateM σ)) (holds : List Asset → σ → Prop) : Prop where
  takes : ∀ {assets a s s'}, holds assets s → (emit a).run s = (.ok (), s') →
    holds (assets ++ [a]) s'
  refuses : ∀ {assets a s s' cause}, holds assets s → (emit a).run s = (.error cause, s') →
    holds assets s'

/-- An emitter is not asked for a template that does not compile. -/
theorem serve_of_fault {job : Options × Template} {f : Fault}
    (h : compile job.1 job.2 = .error f) (emit : Emitter (StateM σ)) (s : σ) :
    (emit.serve job).run s = (.error (.template f), s) := by
  rw [serve, generate, h]
  rfl

theorem serve_of_compile {job : Options × Template} {source : String}
    (h : compile job.1 job.2 = .ok source) (emit : Emitter (StateM σ)) (s : σ) :
    (emit.serve job).run s =
      match (emit ⟨job.1.fileName, source⟩).run s with
      | (.ok (), s') => (.ok (), s')
      | (.error cause, s') => (.error (.emit job.1.fileName cause), s') := by
  rw [serve, generate, h]
  dsimp only
  rw [StateT.run_bind]
  rcases (emit ⟨job.1.fileName, source⟩).run s with ⟨_ | _, s'⟩ <;> rfl

/-- The record of what the emitter is asked changes nothing else, and grows by the asset of the
template if it compiles. -/
theorem serve_recorded (emit : Emitter (StateM σ)) (job : Options × Template) (s : σ)
    (log : List Asset) :
    (emit.recorded.serve job).run (s, log) =
      (((emit.serve job).run s).1,
        (((emit.serve job).run s).2, log ++ (Asset.compiled? job).toList)) := by
  rw [Asset.compiled?]
  cases h : compile job.1 job.2 with
  | error f =>
    rw [serve_of_fault h, serve_of_fault h]
    simp [Except.toOption]
  | ok source =>
    have hask : (emit.recorded ⟨job.1.fileName, source⟩).run (s, log) =
        (((emit ⟨job.1.fileName, source⟩).run s).1,
          (((emit ⟨job.1.fileName, source⟩).run s).2, log ++ [⟨job.1.fileName, source⟩])) := rfl
    rw [serve_of_compile h, serve_of_compile h, hask]
    rcases (emit ⟨job.1.fileName, source⟩).run s with ⟨_ | _, s'⟩ <;> rfl

/-- After a run, the record has the assets of the templates that compile, in order. -/
theorem final_recorded (emit : Emitter (StateM σ)) (jobs : List (Options × Template)) (s : σ)
    (log : List Asset) :
    Call.final emit.recorded.serve (s, log) jobs =
      (Call.final emit.serve s jobs, log ++ jobs.filterMap Asset.compiled?) := by
  induction jobs generalizing s log with
  | nil => simp [Call.final]
  | cons job rest ih =>
    have hafter : (Call.of emit.recorded.serve (s, log) job).after =
        ((Call.of emit.serve s job).after, log ++ (Asset.compiled? job).toList) := by
      rw [Call.of, serve_recorded]
      rfl
    rw [Call.final, Call.final, hafter, ih, List.append_assoc]
    cases h : Asset.compiled? job <;> simp [h]

/-- What comes of a call that hands a template over to an emitter that holds assets. -/
structure Served (emit : Emitter (StateM σ)) (holds : List Asset → σ → Prop)
    (c : Call σ (Options × Template) (Except GenerateError Unit)) : Prop where
  /-- The emitter is asked once for what the template compiles to, and for nothing else. -/
  asked : ∀ log, (emit.recorded.serve c.given).run (c.before, log) =
    (c.answer, (c.after, log ++ (Asset.compiled? c.given).toList))
  faulty : ∀ f, compile c.given.1 c.given.2 = .error f →
    c.answer = .error (.template f) ∧ c.after = c.before
  refused : ∀ source cause s', compile c.given.1 c.given.2 = .ok source →
    (emit ⟨c.given.1.fileName, source⟩).run c.before = (.error cause, s') →
    c.answer = .error (.emit c.given.1.fileName cause) ∧ c.after = s' ∧
      ∀ assets, holds assets c.before → holds assets c.after
  taken : ∀ source s', compile c.given.1 c.given.2 = .ok source →
    (emit ⟨c.given.1.fileName, source⟩).run c.before = (.ok (), s') →
    c.answer = .ok () ∧ c.after = s' ∧
      ∀ assets, holds assets c.before →
        holds (assets ++ [⟨c.given.1.fileName, source⟩]) c.after

namespace Holds

variable {emit : Emitter (StateM σ)} {holds : List Asset → σ → Prop}

/-- What a single call does, whatever state the emitter is in. -/
theorem served (h : emit.Holds holds) (s : σ) (job : Options × Template) :
    Served emit holds (Call.of emit.serve s job) := by
  rw [Call.of]
  refine ⟨serve_recorded emit job s, ?_, ?_, ?_⟩
  · intro f hcompile
    dsimp only at hcompile ⊢
    rw [serve_of_fault hcompile]
    exact ⟨rfl, rfl⟩
  · intro source cause s' hcompile hask
    dsimp only at hcompile hask ⊢
    rw [serve_of_compile hcompile, hask]
    exact ⟨rfl, rfl, fun assets hs => h.refuses hs hask⟩
  · intro source s' hcompile hask
    dsimp only at hcompile hask ⊢
    rw [serve_of_compile hcompile, hask]
    exact ⟨rfl, rfl, fun assets hs => h.takes hs hask⟩

/-- One more call adds the asset of its template to what is held if it succeeds, and nothing
otherwise. -/
theorem holds_serve (h : emit.Holds holds) {s : σ} {assets : List Asset} (hs : holds assets s)
    (job : Options × Template) :
    ∃ new, holds (assets ++ new) (Call.of emit.serve s job).after ∧
      new.map some =
        if (Call.of emit.serve s job).answer.isOk then [Asset.compiled? job] else [] := by
  obtain ⟨-, hfaulty, hrefused, htaken⟩ := h.served s job
  cases hcompile : compile job.1 job.2 with
  | error f =>
    obtain ⟨hanswer, hafter⟩ := hfaulty f hcompile
    rw [hanswer, hafter]
    exact ⟨[], by rwa [List.append_nil], rfl⟩
  | ok source =>
    rcases hask : (emit ⟨job.1.fileName, source⟩).run s with ⟨cause | _, s'⟩
    · obtain ⟨hanswer, -, hkept⟩ := hrefused source cause s' hcompile hask
      rw [hanswer]
      exact ⟨[], by rw [List.append_nil]; exact hkept assets hs, rfl⟩
    · obtain ⟨hanswer, -, hadded⟩ := htaken source s' hcompile hask
      rw [hanswer, Asset.compiled?, hcompile]
      exact ⟨[⟨job.1.fileName, source⟩], hadded assets hs, rfl⟩

/-- The assets held after a run are those from before it and those of the calls that succeeded. -/
theorem holds_run (h : emit.Holds holds) {s : σ} {assets : List Asset} (hs : holds assets s)
    (jobs : List (Options × Template)) :
    ∃ new, holds (assets ++ new) (Call.final emit.serve s jobs) ∧
      new.map some = (Call.taken (Call.all emit.serve s jobs)).map Asset.compiled? := by
  apply Call.run_induction (P := fun calls t => ∃ new, holds (assets ++ new) t ∧
    new.map some = (Call.taken calls).map Asset.compiled?)
  case start => exact ⟨[], by rwa [List.append_nil], rfl⟩
  case step =>
    rintro calls t job ⟨before, hbefore, hcalls⟩
    obtain ⟨new, hnew, hcall⟩ := h.holds_serve hbefore job
    refine ⟨before ++ new, by rw [← List.append_assoc]; exact hnew, ?_⟩
    rw [List.map_append, hcalls, hcall, Call.taken_concat, List.map_append]
    show _ ++ _ = _ ++ List.map _ (if (Call.of emit.serve t job).answer.isOk then [job] else [])
    split <;> rfl

end Holds

/-- **Handing over a run of templates.** Each call asks the emitter for what its template compiles
to, once, and for nothing if it does not compile. A call answers with the fault of its template,
and then the emitter is as it was; with the file name and the cause of a refusal, and then the
emitter holds what it held; or that the asset was taken. So the emitter was asked for the templates
that compile, in order, and holds in addition the assets of the calls that succeeded. -/
theorem generate_hands_over_run (emit : Emitter (StateM σ)) (holds : List Asset → σ → Prop)
    (h : emit.Holds holds) (assets : List Asset) (s : σ) (hs : holds assets s)
    (jobs : List (Options × Template)) :
    (∀ c ∈ Call.all emit.serve s jobs, Served emit holds c) ∧
    Call.final emit.recorded.serve (s, []) jobs =
      (Call.final emit.serve s jobs, jobs.filterMap Asset.compiled?) ∧
    ∃ new, holds (assets ++ new) (Call.final emit.serve s jobs) ∧
      new.map some = (Call.taken (Call.all emit.serve s jobs)).map Asset.compiled? := by
  refine ⟨?_, ?_, h.holds_run hs jobs⟩
  · intro c hc
    rw [Call.eq_of_mem_all hc]
    exact h.served c.before c.given
  · rw [final_recorded, List.nil_append]

/-- An emitter that holds assets in memory and refuses one whenever its script says so. -/
def scripted : Emitter (StateM (List (Option String) × List Asset)) := fun a (script, held) =>
  match script with
  | some reason :: rest => (.error (.refused reason), (rest, held))
  | _ => (.ok (), (script.tail, held ++ [a]))

theorem holds_scripted : scripted.Holds fun assets s => s.2 = assets := by
  constructor
  · rintro assets a ⟨_ | ⟨_ | reason, rest⟩, held⟩ s' rfl hrun <;> cases hrun <;> rfl
  · rintro assets a ⟨_ | ⟨_ | reason, rest⟩, held⟩ s' cause rfl hrun <;> cases hrun
    rfl

/-- The emitter is busy at first and takes the same template the second time; between the two comes
a faulty one. It was asked twice, and holds the template once. -/
theorem generate_hands_over_when_asked_again :
    let named (fileName : String) : Options := { fileName, mark := "wx:" }
    let shown : Element := ⟨{ tag := "text", props := [.directive { name := "show" }] }, []⟩
    let jobs : List (Options × Template) :=
      [(named "a.wxml", ⟨[.text "a"]⟩), (named "b.wxml", ⟨[.text "b", .element shown]⟩),
        (named "a.wxml", ⟨[.text "a"]⟩)]
    scripted.Holds (fun assets s => s.2 = assets) ∧
    (∀ c ∈ Call.all scripted.serve ([some "busy"], []) jobs,
      Served scripted (fun assets s => s.2 = assets) c) ∧
    (Call.all scripted.serve ([some "busy"], []) jobs).map (·.answer) =
      [.error (.emit "a.wxml" (.refused "busy")),
        .error (.template (.unknownDirective "v-show" "text")), .ok ()] ∧
    Call.final scripted.recorded.serve (([some "busy"], []), []) jobs =
      (([], [⟨"a.wxml", "a"⟩]), [⟨"a.wxml", "a"⟩, ⟨"a.wxml", "a"⟩]) := by
  intro named shown jobs
  obtain ⟨hserved, hasked, -⟩ := generate_hands_over_run scripted _ holds_scripted []
    ([some "busy"], []) rfl jobs
  exact ⟨holds_scripted, hserved, rfl, hasked.trans rfl⟩

end Emitter

/-! ## Output directories -/

namespace OutputDir

/-- An output directory holds the assets that it takes, in their files. When it fails to write one
there may be more directories than before. -/
theorem holds_emission (dir : Path) : Emitter.Holds emission (Kept dir) := by
  constructor
  · intro assets a s s' h hrun
    have hkept := kept_emission h a
    rw [Call.of, hrun] at hkept
    exact hkept
  · intro assets a s s' cause h hrun
    have hkept := kept_emission h a
    rw [Call.of, hrun] at hkept
    simpa [Except.isOk, Except.toBool] using hkept

/-- Templates that are handed over to an output directory are in their files afterwards, each file
with the markup of the last template that went there. -/
theorem kept_generate (dir : Path) (d : Disk) (jobs : List (Options × Template)) :
    ∃ assets, Kept dir assets (Call.final (Emitter.serve emission) ({ dir }, d) jobs) ∧
      assets.map some =
        (Call.taken (Call.all (Emitter.serve emission) ({ dir }, d) jobs)).map Asset.compiled? :=
  (holds_emission dir).holds_run (kept_nil dir d) jobs

end OutputDir

end MiniTemplate
