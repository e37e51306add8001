import ClientGen.Proofs.Distinct
import ClientGen.Proofs.Files.SuccessfulWrite
import ClientGen.Run

/-!
In which order a run calls its plugins, and when it touches files. A run makes the calls of a fixed
schedule up to the first one that fails, and until the files are rendered it does nothing else.
-/

set_option autoImplicit false

namespace ClientGen

/-! ## Registered plugins -/

namespace Registry

variable {given : List Plugin} {plugin : Plugin} {id : String}

/-- The registry after plugins were registered one after the other. -/
def ofPlugins (given : List Plugin) : Registry :=
  given.foldl (fun registry plugin => registry.register plugin) {}

/-- One plugin for each identifier, in the order in which these were given first. Of several plugins
with one identifier, it is the last one that was given. -/
def lastGiven (given : List Plugin) : List Plugin :=
  (given.map (·.id)).eraseDups.filterMap fun id => given.reverse.find? (·.id = id)

theorem find?_reverse_concat (given : List Plugin) (plugin : Plugin) (id : String) :
    (given ++ [plugin]).reverse.find? (·.id = id) =
      if plugin.id = id then some plugin else given.reverse.find? (·.id = id) := by
  rw [List.reverse_append, List.reverse_singleton, List.singleton_append, List.find?_cons]
  by_cases same : plugin.id = id <;> simp [same]

theorem place_filterMap {find : String → Option Plugin} {ids : List String} (distinct : ids.Nodup)
    (named : ∀ id ∈ ids, ∃ found, find id = some found ∧ found.id = id) (plugin : Plugin) :
    place plugin (ids.filterMap find) =
      (if plugin.id ∈ ids then ids else ids ++ [plugin.id]).filterMap fun id =>
        if plugin.id = id then some plugin else find id := by
  induction ids with
  | nil => simp [place]
  | cons id rest ih =>
      obtain ⟨found, here, rfl⟩ := named id (.head _)
      obtain ⟨absent, distinct⟩ := List.nodup_cons.mp distinct
      rw [List.filterMap_cons_some here, place]
      split
      · next same =>
          -- No identifier occurs twice, so that the new plugin comes to one place only.
          have others : rest.filterMap (fun id => if plugin.id = id then some plugin else find id) =
              rest.filterMap find := by
            refine List.filterMap_congr fun other member => if_neg ?_
            rintro rfl
            exact absent (same ▸ member)
          simp [same, others]
      · next other =>
          have elsewhere : plugin.id ≠ found.id := Ne.symm other
          rw [ih distinct fun id member => named id (.tail _ member)]
          by_cases member : plugin.id ∈ rest <;> simp [elsewhere, member, here]

theorem exists_given (member : id ∈ given.map (·.id)) :
    ∃ found, given.reverse.find? (·.id = id) = some found ∧ found.id = id := by
  obtain ⟨plugin, there, rfl⟩ := List.mem_map.mp member
  have some : (given.reverse.find? (·.id = plugin.id)).isSome := by
    rw [List.find?_isSome]
    exact ⟨plugin, List.mem_reverse.mpr there, by simp⟩
  obtain ⟨found, here⟩ := Option.isSome_iff_exists.mp some
  exact ⟨found, here, by simpa using List.find?_some here⟩

theorem place_lastGiven (given : List Plugin) (plugin : Plugin) :
    place plugin (lastGiven given) = lastGiven (given ++ [plugin]) := by
  have named : ∀ id ∈ (given.map (·.id)).eraseDups,
      ∃ found, given.reverse.find? (·.id = id) = some found ∧ found.id = id :=
    fun id member => exists_given (List.mem_eraseDups.mp member)
  rw [lastGiven, place_filterMap (nodup_eraseDups _) named, lastGiven, List.map_append,
    List.map_singleton, eraseDups_concat]
  simp only [List.mem_eraseDups, find?_reverse_concat]

/-- Registering keeps one plugin for each identifier, the last one, in the place of the first. -/
theorem plugins_ofPlugins (given : List Plugin) : (ofPlugins given).plugins = lastGiven given := by
  induction given using List.reverseRecOn with
  | nil => rfl
  | append_singleton given plugin ih =>
      rw [ofPlugins, List.foldl_append]
      exact (congrArg (place plugin) ih).trans (place_lastGiven given plugin)

theorem find?_place (plugin : Plugin) (plugins : List Plugin) (id : String) :
    (place plugin plugins).find? (·.id = id) =
      if plugin.id = id then some plugin else plugins.find? (·.id = id) := by
  induction plugins with
  | nil => by_cases same : plugin.id = id <;> simp [place, same]
  | cons other rest ih =>
      rw [place]
      split
      · next same => by_cases here : plugin.id = id <;> simp [same, here]
      · next different =>
          rw [List.find?_cons, List.find?_cons, ih]
          by_cases here : other.id = id
          · have elsewhere : plugin.id ≠ id := fun there => different (here.trans there.symm)
            simp [here, elsewhere]
          · simp [here]

theorem get?_ofPlugins (given : List Plugin) (id : String) :
    (ofPlugins given).get? id = given.reverse.find? (·.id = id) := by
  induction given using List.reverseRecOn with
  | nil => rfl
  | append_singleton given plugin ih =>
      rw [find?_reverse_concat, ← ih, ofPlugins, List.foldl_append]
      exact find?_place plugin _ id

/-! ## Calls -/

/-- The registry after some more calls were made. -/
def after (registry : Registry) (calls : List (Plugin × Call)) : Registry :=
  { registry with calls := registry.calls ++ calls.map fun entry => (entry.1.id, entry.2) }

/-- The answer to the next call. -/
def answer (registry : Registry) (next : Plugin × Call) : Except PluginError Output :=
  next.1.answer (registry.callsOf next.1.id) next.2

/-- All of some calls are answered, if they are made one after the other. -/
def Answers : Registry → List (Plugin × Call) → Prop
  | _, [] => True
  | registry, next :: rest =>
      (∃ output, registry.answer next = .ok output) ∧ (registry.after [next]).Answers rest

/-- Some calls are made one after the other, as far as the first that fails. -/
inductive Makes {Value : Type} (registry : Registry) (calls : List (Plugin × Call)) :
    Except PluginError Value × Registry → Prop where
  | answered (value : Value) : registry.Answers calls →
      Makes registry calls (.ok value, registry.after calls)
  | failed {done next rest error} : calls = done ++ next :: rest → registry.Answers done →
      (registry.after done).answer next = .error error →
      Makes registry calls (.error error, registry.after (done ++ [next]))

variable {registry : Registry} {calls more : List (Plugin × Call)} {next : Plugin × Call}

theorem after_nil (registry : Registry) : registry.after [] = registry := by
  simp [after]

theorem after_append (registry : Registry) (calls more : List (Plugin × Call)) :
    registry.after (calls ++ more) = (registry.after calls).after more := by
  simp [after]

theorem answers_append : registry.Answers (calls ++ more) ↔
    registry.Answers calls ∧ (registry.after calls).Answers more := by
  induction calls generalizing registry with
  | nil => simp [Answers, after_nil]
  | cons next rest ih =>
      rw [List.cons_append, Answers, ih, ← after_append, List.singleton_append, Answers, and_assoc]

theorem Makes.append {Value : Type} {outcome : Except PluginError Value × Registry}
    (answers : registry.Answers calls) (later : Makes (registry.after calls) more outcome) :
    Makes registry (calls ++ more) outcome := by
  cases later with
  | answered value others =>
      rw [← after_append]
      exact .answered value (answers_append.mpr ⟨answers, others⟩)
  | @failed done next rest error split others fails =>
      subst split
      rw [← after_append] at fails
      rw [← after_append, ← List.append_assoc calls done [next]]
      exact .failed (List.append_assoc ..).symm (answers_append.mpr ⟨answers, others⟩) fails

theorem Makes.extend {Value Other : Type} {error : PluginError} {last : Registry}
    (fails : Makes registry calls ((.error error, last) : Except PluginError Value × Registry))
    (more : List (Plugin × Call)) :
    Makes registry (calls ++ more)
      ((.error error, last) : Except PluginError Other × Registry) := by
  cases fails with
  | failed split answers fails =>
      subst split
      exact .failed (List.append_assoc ..) answers fails

theorem call_eq (registry : Registry) (plugin : Plugin) (call : Call) :
    registry.call plugin call =
      (registry.answer (plugin, call), registry.after [(plugin, call)]) := rfl

theorem makes_call (registry : Registry) (plugin : Plugin) (call : Call) :
    Makes registry [(plugin, call)] (registry.call plugin call) := by
  cases answer : registry.answer (plugin, call) with
  | ok output =>
      have answers : registry.Answers [(plugin, call)] := ⟨⟨output, answer⟩, trivial⟩
      have called := Makes.answered output answers
      rwa [← answer] at called
  | error error =>
      have start : (registry.after []).answer (plugin, call) = .error error := by
        rw [after_nil, answer]
      have called : @Makes Output registry [(plugin, call)]
          (.error error, registry.after [(plugin, call)]) :=
        .failed (List.nil_append _).symm trivial start
      rwa [← answer] at called

theorem makes_setupEach (settings : Settings) (plugins : List Plugin) (registry : Registry) :
    Makes registry (plugins.map fun plugin => (plugin, .setup settings))
      (setupEach settings plugins registry) := by
  induction plugins generalizing registry with
  | nil =>
      have made : Makes registry [] ((.ok (), registry.after []) : Except PluginError Unit × _) :=
        .answered () trivial
      rwa [after_nil] at made
  | cons plugin rest ih =>
      have first := makes_call registry plugin (.setup settings)
      rw [setupEach, List.map_cons, ← List.singleton_append]
      generalize registry.call plugin (.setup settings) = outcome at first ⊢
      obtain ⟨error | output, last⟩ := outcome
      · exact first.extend _
      · cases first with
        | answered _ answers => exact Makes.append answers (ih _)

end Registry

/-! ## Steps that make calls -/

section Steps

open Registry (Makes)

variable {Step : Type → Type} [Monad Step]

/-- A step makes some calls, as far as the first that fails, and does nothing else. -/
def MakesOnly {Value : Type} (registry : Registry) (calls : List (Plugin × Call))
    (step : RunStep Step Value) : Prop :=
  ∃ outcome, Makes registry calls outcome ∧
    step.run.run registry = pure (outcome.1.mapError .plugin, outcome.2)

variable [LawfulMonad Step] {Value Next : Type} {registry : Registry}
variable {calls more : List (Plugin × Call)}

theorem run_bind_of_ok {step : RunStep Step Value} {next : Value → RunStep Step Next}
    {value : Value} {last : Registry} (first : step.run.run registry = pure (.ok value, last)) :
    (step >>= next).run.run registry = (next value).run.run last := by
  rw [ExceptT.run_bind, StateT.run_bind, first, pure_bind]

theorem run_bind_of_error {step : RunStep Step Value} {next : Value → RunStep Step Next}
    {error : RunError} {last : Registry}
    (first : step.run.run registry = pure (.error error, last)) :
    (step >>= next).run.run registry = pure (.error error, last) := by
  rw [ExceptT.run_bind, StateT.run_bind, first, pure_bind]
  rfl

theorem MakesOnly.bind {step : RunStep Step Value} {next : Value → RunStep Step Next}
    (first : MakesOnly registry calls step)
    (second : ∀ value, MakesOnly (registry.after calls) more (next value)) :
    MakesOnly registry (calls ++ more) (step >>= next) := by
  obtain ⟨⟨error | value, last⟩, made, ran⟩ := first
  · exact ⟨_, made.extend more, run_bind_of_error ran⟩
  · cases made with
    | answered _ answers =>
        obtain ⟨outcome, later, ranLater⟩ := second value
        exact ⟨outcome, .append answers later, (run_bind_of_ok ran).trans ranLater⟩

theorem run_get (registry : Registry) :
    (get : RunStep Step Registry).run.run registry = pure (.ok registry, registry) := by
  change (ExceptT.lift (get : StateT Registry Step Registry)).run.run registry = _
  simp

theorem run_set (registry last : Registry) :
    (set last : RunStep Step PUnit).run.run registry = pure (.ok ⟨⟩, last) := by
  change (ExceptT.lift (set last : StateT Registry Step PUnit)).run.run registry = _
  simp

theorem run_lift_bind (step : Step Value) (next : Value → RunStep Step Next)
    (registry : Registry) : ((step : RunStep Step Value) >>= next).run.run registry =
      step >>= fun value => (next value).run.run registry := by
  have lifted : (step : RunStep Step Value).run.run registry =
      step >>= fun value => pure (.ok value, registry) := by
    change (ExceptT.lift (StateT.lift step : StateT Registry Step Value)).run.run registry = _
    simp
  rw [ExceptT.run_bind, StateT.run_bind, lifted, bind_assoc]
  simp only [pure_bind]

theorem run_call (registry : Registry) (plugin : Plugin) (call : Call) :
    (Run.call plugin call : RunStep Step Output).run.run registry =
      pure ((registry.answer (plugin, call)).mapError .plugin,
        registry.after [(plugin, call)]) := by
  have called := Registry.call_eq registry plugin call
  unfold Run.call
  rw [run_bind_of_ok (run_get registry), called]
  cases registry.answer (plugin, call) with
  | ok output => exact run_bind_of_ok (run_set registry _)
  | error error => exact run_bind_of_ok (run_set registry _)

theorem makesOnly_call (registry : Registry) (plugin : Plugin) (call : Call) :
    MakesOnly registry [(plugin, call)] (Run.call plugin call : RunStep Step Output) :=
  ⟨_, Registry.makes_call registry plugin call, run_call registry plugin call⟩

theorem makesOnly_setup (registry : Registry) (settings : Settings) :
    MakesOnly registry (registry.plugins.map fun plugin => (plugin, .setup settings))
      (Run.setup settings : RunStep Step Unit) := by
  refine ⟨_, Registry.makes_setupEach settings registry.plugins registry, ?_⟩
  unfold Run.setup
  rw [run_bind_of_ok (run_get registry), Registry.setupAll]
  generalize Registry.setupEach settings registry.plugins registry = outcome
  obtain ⟨error | output, last⟩ := outcome
  · exact run_bind_of_ok (run_set registry last)
  · exact run_bind_of_ok (run_set registry last)

theorem run_selected (settings : Settings) (registry : Registry) :
    (Run.selected settings : RunStep Step Plugin).run.run registry =
      pure (match registry.get? settings.plugin with
        | some plugin => .ok plugin
        | none => .error (.unknownPlugin settings.plugin registry.ids), registry) := by
  unfold Run.selected
  rw [run_bind_of_ok (run_get registry)]
  cases registry.get? settings.plugin <;> rfl

/-- The calls of a run up to the rendering: all plugins are set up, and the selected one is told
about the document. -/
def introduction (settings : Settings) (document : Document) (model : ApiModel)
    (plugins : List Plugin) (selected : Plugin) : List (Plugin × Call) :=
  plugins.map (fun plugin => (plugin, .setup settings)) ++
    [(selected, .load document), (selected, .definitions model.definitions),
      (selected, .endpoints model.endpoints)]

/-- The steps of a run up to the rendering. -/
def introduce (settings : Settings) (document : Document) (model : ApiModel) (selected : Plugin) :
    RunStep Step Output := do
  Run.setup settings
  let _ ← Run.call selected (.load document)
  let _ ← Run.call selected (.definitions model.definitions)
  Run.call selected (.endpoints model.endpoints)

theorem makesOnly_introduce (settings : Settings) (document : Document) (model : ApiModel)
    (selected : Plugin) (registry : Registry) :
    MakesOnly registry (introduction settings document model registry.plugins selected)
      (introduce settings document model selected : RunStep Step Output) := by
  refine (makesOnly_setup registry settings).bind fun _ => ?_
  rw [← List.singleton_append]
  refine (makesOnly_call _ selected _).bind fun _ => ?_
  rw [← List.singleton_append]
  exact (makesOnly_call _ selected _).bind fun _ => makesOnly_call _ selected _

end Steps

/-! ## Runs -/

/-- A document is refused only for its filter. -/
theorem ApiModel.rules_of_ofLoaded {options : PathOptions} {document : Reported Document}
    {error : FilterError} (refused : ApiModel.ofLoaded options document = .error error) :
    options.rules = .error error := by
  unfold ApiModel.ofLoaded at refused
  cases rules : options.rules with
  | error other =>
      rw [rules] at refused
      cases refused
      rfl
  | ok sound =>
      rw [rules] at refused
      cases refused

section Runs

open Registry (Makes)

variable {Step : Type → Type} [Monad Step] [FileStore Step]

/-- What comes of the files that a plugin rendered: only after all of them were written, the plugin
is called for the last time. -/
def conclusion (settings : Settings) (model : Reported ApiModel) (output : Output)
    (selected : Plugin) (registry : Registry) : Step (Except RunError RunReport × Registry) := do
  match ← writeAll settings.output output.files with
  | .error error => return (.error (.write error), registry)
  | .ok _ =>
      let written := output.files.map fun file => PathText.join settings.output file.path
      match registry.answer (selected, .finish) with
      | .error error => return (.error (.plugin error), registry.after [(selected, .finish)])
      | .ok _ => return (.ok { model, written }, registry.after [(selected, .finish)])

/-- How the conclusion ends on a tree of files. Only after all files are where they belong, the plugin
is called for the last time; the report lists their paths, in order. -/
inductive Concludes (settings : Settings) (model : Reported ApiModel) (output : Output)
    (selected : Plugin) (registry : Registry) (tree : FileTree) :
    (Except RunError RunReport × Registry) × FileTree → Prop where
  | unwritten {error left} :
      (writeAll settings.output output.files : StateM FileTree _) tree = (.error error, left) →
      Concludes settings model output selected registry tree
        ((.error (.write error), registry), left)
  | unfinished {error left} : HoldsFiles settings.output output.files tree left →
      registry.answer (selected, .finish) = .error error →
      Concludes settings model output selected registry tree
        ((.error (.plugin error), registry.after [(selected, .finish)]), left)
  | finished {last left} : HoldsFiles settings.output output.files tree left →
      registry.answer (selected, .finish) = .ok last →
      Concludes settings model output selected registry tree
        ((.ok { model, written := output.files.map fun file =>
            PathText.join settings.output file.path },
          registry.after [(selected, .finish)]), left)

theorem concludes_conclusion (settings : Settings) (model : Reported ApiModel) (output : Output)
    (selected : Plugin) (registry : Registry) (tree : FileTree) :
    Concludes settings model output selected registry tree
      ((conclusion settings model output selected registry : StateM FileTree _) tree) := by
  unfold conclusion
  rw [run_bind]
  cases written : (writeAll settings.output output.files : StateM FileTree _) tree with
  | mk answer left =>
      cases answer with
      | error error => exact .unwritten written
      | ok paths =>
          have holds := writeAll_leaves written
          cases answer : registry.answer (selected, .finish) with
          | error error => exact .unfinished holds answer
          | ok last => exact .finished holds answer

/-- The courses that a run can take on a document. As long as it ends before the files are written,
it does nothing besides the calls. -/
inductive Course (settings : Settings) (document : Reported Document) (registry : Registry) :
    Step (Except RunError RunReport × Registry) → Prop where
  | unknown : registry.get? settings.plugin = none →
      Course settings document registry
        (pure (.error (.unknownPlugin settings.plugin registry.ids), registry))
  | invalid {selected error} : registry.get? settings.plugin = some selected →
      settings.paths.rules = .error error →
      Course settings document registry (pure (.error (.filter error), registry))
  | failed {selected model told error last} : registry.get? settings.plugin = some selected →
      ApiModel.ofLoaded settings.paths document = .ok model →
      told = introduction settings document.value model.value registry.plugins selected →
      Makes registry (told ++ [(selected, .transform model.value)])
        ((.error error, last) : Except PluginError Output × Registry) →
      Course settings document registry (pure (.error (.plugin error), last))
  | rendered {selected model output told} : registry.get? settings.plugin = some selected →
      ApiModel.ofLoaded settings.paths document = .ok model →
      told = introduction settings document.value model.value registry.plugins selected →
      registry.Answers told →
      (registry.after told).answer (selected, .transform model.value) = .ok output →
      Course settings document registry (conclusion settings model output selected
        (registry.after (told ++ [(selected, .transform model.value)])))

variable [LawfulMonad Step]

theorem run_conclusion (settings : Settings) (model : Reported ApiModel) (output : Output)
    (selected : Plugin) (registry : Registry) :
    (do
      let written ← Run.write settings output.files
      let _ ← Run.call selected .finish
      return { model, written } : RunStep Step RunReport).run.run registry =
      conclusion settings model output selected registry := by
  unfold Run.write
  rw [bind_assoc, run_lift_bind]
  -- What a write answers is known before it is made, so that the report can be, too.
  refine (writeAll_yields settings.output output.files).bind_congr _ _ fun answer paths => ?_
  cases answer with
  | error error => exact run_bind_of_error rfl
  | ok written =>
      cases paths written rfl
      have called : (Run.call selected .finish : RunStep Step Output).run.run registry = _ :=
        run_call registry selected .finish
      simp only [pure_bind]
      cases answer : registry.answer (selected, .finish) with
      | error error =>
          rw [answer] at called
          exact run_bind_of_error called
      | ok last =>
          rw [answer] at called
          exact run_bind_of_ok called

/-- The steps of a run from the rendering on. -/
def renderAndWrite (settings : Settings) (model : Reported ApiModel) (selected : Plugin) :
    RunStep Step RunReport := do
  let output ← Run.call selected (.transform model.value)
  let written ← Run.write settings output.files
  let _ ← Run.call selected .finish
  return { model, written }

theorem run_renderAndWrite (settings : Settings) (model : Reported ApiModel) (selected : Plugin)
    (registry : Registry) :
    (renderAndWrite settings model selected : RunStep Step RunReport).run.run registry =
      match registry.answer (selected, .transform model.value) with
      | .error error =>
          pure (.error (.plugin error), registry.after [(selected, .transform model.value)])
      | .ok output => conclusion settings model output selected
          (registry.after [(selected, .transform model.value)]) := by
  have called : (Run.call selected (.transform model.value) : RunStep Step Output).run.run
      registry = _ := run_call ..
  unfold renderAndWrite
  cases answer : registry.answer (selected, .transform model.value) with
  | error error =>
      rw [answer] at called
      exact run_bind_of_error called
  | ok output =>
      rw [answer] at called
      rw [run_bind_of_ok called, run_conclusion]

/-- The calls before the rendering are one step: wherever it fails, the run ends alike. -/
theorem run_onDocument {settings : Settings} {document : Reported Document} {registry : Registry}
    {selected : Plugin} {model : Reported ApiModel}
    (found : registry.get? settings.plugin = some selected)
    (loaded : ApiModel.ofLoaded settings.paths document = .ok model) :
    (Run.onDocument settings document : RunStep Step RunReport).run.run registry =
      (introduce settings document.value model.value selected >>= fun _ =>
        renderAndWrite settings model selected).run.run registry := by
  have selects : (Run.selected settings : RunStep Step Plugin).run.run registry = _ :=
    run_selected settings registry
  rw [found] at selects
  unfold Run.onDocument
  rw [run_bind_of_ok selects, loaded]
  simp only [introduce, renderAndWrite, bind_assoc]

theorem course_onDocument (settings : Settings) (document : Reported Document)
    (registry : Registry) : Course settings document registry
      ((Run.onDocument settings document : RunStep Step RunReport).run.run registry) := by
  have selects : (Run.selected settings : RunStep Step Plugin).run.run registry = _ :=
    run_selected settings registry
  cases found : registry.get? settings.plugin with
  | none =>
      rw [found] at selects
      unfold Run.onDocument
      rw [run_bind_of_error selects]
      exact .unknown found
  | some selected =>
      cases loaded : ApiModel.ofLoaded settings.paths document with
      | error error =>
          rw [found] at selects
          unfold Run.onDocument
          rw [run_bind_of_ok selects, loaded]
          exact .invalid found (ApiModel.rules_of_ofLoaded loaded)
      | ok model =>
          have introduced : MakesOnly registry _ (introduce settings document.value model.value
              selected : RunStep Step Output) :=
            makesOnly_introduce settings document.value model.value selected registry
          generalize same : introduction settings document.value model.value registry.plugins
            selected = told at introduced
          rw [run_onDocument found loaded]
          obtain ⟨⟨error | _, last⟩, made, ran⟩ := introduced
          · rw [run_bind_of_error ran]
            exact .failed found loaded same.symm (made.extend _)
          · cases made with
            | answered _ answers =>
                rw [run_bind_of_ok ran, run_renderAndWrite, ← Registry.after_append]
                have made := Registry.makes_call (registry.after told) selected
                  (.transform model.value)
                rw [Registry.call_eq] at made
                cases answer : (registry.after told).answer (selected, .transform model.value) with
                | error error =>
                    rw [answer] at made
                    rw [Registry.after_append]
                    exact .failed found loaded same.symm (.append answers made)
                | ok output => exact .rendered found loaded same.symm answers answer

theorem run_all (settings : Settings) (registry : Registry) :
    (Run.all settings : RunStep Step RunReport).run.run registry =
      match registry.get? settings.plugin with
      | none => pure (.error (.unknownPlugin settings.plugin registry.ids), registry)
      | some _ => Document.load settings.input >>= fun
          | .error error => pure (.error (.load error), registry)
          | .ok document =>
              (Run.onDocument settings document : RunStep Step RunReport).run.run registry := by
  have selects : (Run.selected settings : RunStep Step Plugin).run.run registry = _ :=
    run_selected settings registry
  unfold Run.all
  cases found : registry.get? settings.plugin with
  | none =>
      rw [found] at selects
      exact run_bind_of_error selects
  | some selected =>
      rw [found] at selects
      rw [run_bind_of_ok selects, run_lift_bind]
      refine bind_congr fun loaded => ?_
      cases loaded <;> rfl

/-- Whatever plugins were registered and whatever calls were made to them before, there is one plugin
for each identifier, and a run on a document calls them in the order of its schedule. A whole run
reads its document only if it knows the plugin that is to render it. On a tree of files the conclusion
leaves all files in their places before the last call. -/
theorem run_follows_protocol (given : List Plugin) (calls : List (String × Call))
    (settings : Settings) :
    let registry : Registry := { Registry.ofPlugins given with calls }
    registry.plugins = Registry.lastGiven given ∧
      (∀ id, registry.get? id = given.reverse.find? (·.id = id)) ∧
      (∀ document, Course settings document registry
        ((Run.onDocument settings document : RunStep Step RunReport).run.run registry)) ∧
      (∀ model output selected last tree, Concludes settings model output selected last tree
        ((conclusion settings model output selected last : StateM FileTree _) tree)) ∧
      (Run.all settings : RunStep Step RunReport).run.run registry =
        match registry.get? settings.plugin with
        | none => pure (.error (.unknownPlugin settings.plugin registry.ids), registry)
        | some _ => Document.load settings.input >>= fun
            | .error error => pure (.error (.load error), registry)
            | .ok document =>
                (Run.onDocument settings document : RunStep Step RunReport).run.run registry := by
  intro registry
  exact ⟨Registry.plugins_ofPlugins given, Registry.get?_ofPlugins given,
    fun document => course_onDocument settings document registry,
    concludes_conclusion settings, run_all settings registry⟩

/-- A plugin that was replaced answers no call. -/
theorem run_follows_protocol_replaced :
    let registry := Registry.ofPlugins [⟨"pets", fun _ _ => .error (.notReady "pets")⟩,
      ⟨"toys", fun _ _ => .ok {}⟩, ⟨"pets", fun _ _ => .ok {}⟩]
    LawfulMonad (StateM FileTree) ∧ registry.ids = ["pets", "toys"] ∧
      Course { plugin := "pets" } { value := {} } registry ((Run.onDocument { plugin := "pets" }
        { value := {} } : RunStep (StateM FileTree) RunReport).run.run registry) := by
  intro registry
  have protocol := @run_follows_protocol (StateM FileTree) _ _ _
    [⟨"pets", fun _ _ => .error (.notReady "pets")⟩, ⟨"toys", fun _ _ => .ok {}⟩,
      ⟨"pets", fun _ _ => .ok {}⟩] [] { plugin := "pets" }
  exact ⟨inferInstance, by decide, protocol.2.2.1 { value := {} }⟩

end Runs

end ClientGen
