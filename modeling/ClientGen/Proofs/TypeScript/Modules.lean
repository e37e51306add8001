import ClientGen.Proofs.Distinct
import ClientGen.Proofs.Files.SuccessfulWrite
import ClientGen.Proofs.Text.Unmarked
import ClientGen.TypeScript.Plugin
import Mathlib.Data.List.Nodup

/-!
The files of a client, and when no two of them share a path. Module names come from tags by a case
conversion that forgets how a tag was written, and stand beside the three names that every client
has.
-/

set_option autoImplicit false

namespace ClientGen

/-! ## Operations by tag -/

namespace Endpoint

variable {endpoints : Entries Endpoint}

/-- The tags of some operations, once for each of these. -/
def tags (endpoints : Entries Endpoint) : List String := endpoints.map fun entry => entry.2.tag

def tagged (endpoints : Entries Endpoint) (tag : String) : Entries Endpoint :=
  endpoints.filter fun entry => entry.2.tag = tag

theorem mem_tagged {entry : String × Endpoint} (member : entry ∈ endpoints) :
    entry ∈ tagged endpoints entry.2.tag := by
  simp [tagged, member]

theorem mem_tags {entry : String × Endpoint} (member : entry ∈ endpoints) :
    entry.2.tag ∈ tags endpoints :=
  List.mem_map_of_mem member

theorem tagged_of_not_mem {tag : String} (absent : tag ∉ tags endpoints) :
    tagged endpoints tag = [] := by
  refine List.filter_eq_nil_iff.mpr fun entry member same => absent ?_
  exact of_decide_eq_true same ▸ mem_tags member

/-- Each tag has all its operations, in their order. -/
theorem byTag_eq (endpoints : Entries Endpoint) :
    byTag endpoints = Entries.tabulate (tagged endpoints) (tags endpoints).eraseDups := by
  induction endpoints using List.reverseRecOn with
  | nil => rfl
  | append_singleton before entry ih =>
      have grouped : ((Entries.tabulate (tagged before) (tags before).eraseDups).get?
          entry.2.tag).getD [] = tagged before entry.2.tag := by
        rw [Entries.get?_tabulate]
        split
        · rfl
        · next absent =>
            exact (tagged_of_not_mem fun member => absent (List.mem_eraseDups.mpr member)).symm
      have now : tagged before entry.2.tag ++ [entry] =
          tagged (before ++ [entry]) entry.2.tag := by
        simp [tagged]
      have elsewhere : ∀ tag ∈ (tags before).eraseDups, tag ≠ entry.2.tag →
          tagged (before ++ [entry]) tag = tagged before tag := by
        intro tag _ different
        simp [tagged, Ne.symm different]
      have keys : (tags (before ++ [entry])).eraseDups =
          if entry.2.tag ∈ (tags before).eraseDups then (tags before).eraseDups
          else (tags before).eraseDups ++ [entry.2.tag] := by
        simp only [tags, List.map_append, List.map_singleton, eraseDups_concat, List.mem_eraseDups]
      rw [byTag, List.foldl_append, List.foldl_cons, List.foldl_nil, ← byTag, ih, grouped, now,
        Entries.insert_tabulate (nodup_eraseDups _) elsewhere, keys]

end Endpoint

namespace TypeScript

open Endpoint (tags tagged mem_tags mem_tagged)

variable {definitions : Definitions} {endpoints : Entries Endpoint}

theorem modules_eq (definitions : Definitions) (endpoints : Entries Endpoint) :
    modules definitions endpoints = (tags endpoints).eraseDups.map fun tag =>
      Module.ofEndpoints (definitions.names.map Names.base) tag (tagged endpoints tag) := by
  rw [modules, Endpoint.byTag_eq, Entries.tabulate, List.map_map]
  rfl

theorem mem_modules {entry : String × Endpoint} (member : entry ∈ endpoints) :
    Module.ofEndpoints (definitions.names.map Names.base) entry.2.tag
      (tagged endpoints entry.2.tag) ∈ modules definitions endpoints := by
  rw [modules_eq]
  exact List.mem_map.mpr ⟨entry.2.tag, List.mem_eraseDups.mpr (mem_tags member), rfl⟩

theorem exists_tag_of_mem {module : Module} (isModule : module ∈ modules definitions endpoints) :
    ∃ tag ∈ tags endpoints, module =
      Module.ofEndpoints (definitions.names.map Names.base) tag (tagged endpoints tag) := by
  rw [modules_eq] at isModule
  obtain ⟨tag, listed, rfl⟩ := List.mem_map.mp isModule
  exact ⟨tag, List.mem_eraseDups.mp listed, rfl⟩

theorem ofEndpoints_parts (exported : List String) (tag : String)
    (endpoints : Entries Endpoint) :
    (Module.ofEndpoints exported tag endpoints).tag = tag ∧
      (Module.ofEndpoints exported tag endpoints).name = moduleName tag ∧
      (Module.ofEndpoints exported tag endpoints).functions =
        endpoints.map (fun entry => Function.ofEndpoint entry.1 entry.2) ∧
      (Module.ofEndpoints exported tag endpoints).interfaces =
        (localsOf exported endpoints).map fun entry => (entry.1, entry.2.map Member.ofField) := by
  simp only [Module.ofEndpoints, and_self]

/-- An operation has a function in the module for its tag. -/
theorem exists_module (definitions : Definitions) {entry : String × Endpoint} (member : entry ∈ endpoints) :
    ∃ module ∈ modules definitions endpoints, module.tag = entry.2.tag ∧
      module.name = moduleName entry.2.tag ∧
      Function.ofEndpoint entry.1 entry.2 ∈ module.functions := by
  obtain ⟨tag, name, functions, -⟩ := ofEndpoints_parts (definitions.names.map Names.base)
    entry.2.tag (tagged endpoints entry.2.tag)
  refine ⟨_, mem_modules member, tag, name, ?_⟩
  rw [functions]
  exact List.mem_map.mpr ⟨entry, mem_tagged member, rfl⟩

theorem infix_join {texts : List String} {text : String} (member : text ∈ texts) :
    text.toList <:+: (String.join texts).toList := by
  obtain ⟨before, after, rfl⟩ := List.append_of_mem member
  refine ⟨(String.join before).toList, (String.join after).toList, ?_⟩
  simp

/-- The text of each function is part of that of its module. -/
theorem render_infix {module : Module} {function : Function}
    (member : function ∈ module.functions) :
    function.render.toList <:+: module.render.toList := by
  have ends : ∃ head, module.render = head ++ String.join (module.functions.map Function.render) :=
    ⟨_, rfl⟩
  obtain ⟨head, render⟩ := ends
  rw [render, String.toList_append]
  exact (infix_join (List.mem_map_of_mem member)).trans (List.suffix_append _ _).isInfix

/-- The text of a function up to its arguments. -/
def Function.opening (function : Function) : String :=
  "\n" ++
    (if function.parameters.isEmpty then ""
      else renderInterface function.parametersName function.parameters ++ "\n") ++
    function.comment ++ "export function " ++ function.name ++ "("

/-- The text of a function up to its URL. -/
def Function.beforeUrl (function : Function) : String :=
  function.opening ++ function.argument ++
    "init?: RequestInit): Promise<" ++ function.response ++ "> \x7b\n" ++
    "  return request<" ++ function.response ++ ">(\n" ++ "    \x7b\n" ++
    "      method: \"" ++ function.method ++ "\",\n"

theorem Function.render_eq (function : Function) : function.render =
    function.beforeUrl ++ "      url: `" ++ function.template ++ "`,\n" ++
      keyedObject "query" function.query ++ keyedObject "headers" function.headers ++
      keyedObject "form" function.form ++ function.bodyLine ++ function.contentLine ++
      "    \x7d,\n    init,\n  );\n\x7d\n" := rfl

theorem Function.exists_opening (function : Function) :
    ∃ after, function.render = function.opening ++ after := by
  rw [render_eq, beforeUrl]
  simp only [String.append_assoc]
  exact ⟨_, rfl⟩

theorem Function.exists_export (function : Function) : ∃ before after,
    function.render = before ++ ("export function " ++ function.name ++ "(") ++ after := by
  obtain ⟨after, render⟩ := function.exists_opening
  have exported : ∃ before, function.opening =
      before ++ "export function " ++ function.name ++ "(" := ⟨_, rfl⟩
  obtain ⟨before, opening⟩ := exported
  rw [render, opening]
  exact ⟨before, after, by simp only [String.append_assoc]⟩

/-- The text of an operation exports a function of its name. -/
theorem export_infix (name : String) (endpoint : Endpoint) :
    ("export function " ++ name ++ "(").toList <:+:
      (Function.ofEndpoint name endpoint).render.toList := by
  obtain ⟨before, after, render⟩ := (Function.ofEndpoint name endpoint).exists_export
  have named : (Function.ofEndpoint name endpoint).name = name := rfl
  rw [render, named]
  exact ⟨before.toList, after.toList, by simp only [String.toList_append]⟩

/-! ## Paths -/

/-- The names of the files that every client has. -/
def fixedNames : List String := ["definitions", "client", "index"]

/-- The names of the files of a client, in their order. -/
def fileNames (endpoints : Entries Endpoint) : List String :=
  "definitions" :: "client" :: (tags endpoints).eraseDups.map moduleName ++ ["index"]

theorem paths_output (title baseUrl : String) (model : ApiModel) :
    (output title baseUrl model).files.map (·.path) =
      (fileNames model.endpoints).map (· ++ ".ts") := by
  simp [Output.files, output, definitionFiles, actionFiles, modules_eq, fileNames, Module.file,
    Module.ofEndpoints, Function.comp_def]

/-- Whether the modules of different tags have different names, none of which is one that every
client has. -/
structure ModulesApart (endpoints : Entries Endpoint) : Prop where
  distinct : ∀ first ∈ tags endpoints, ∀ second ∈ tags endpoints,
    moduleName first = moduleName second → first = second
  free : ∀ tag ∈ tags endpoints, moduleName tag ∉ fixedNames

theorem fileNames_perm (endpoints : Entries Endpoint) :
    (fileNames endpoints).Perm (fixedNames ++ (tags endpoints).eraseDups.map moduleName) :=
  List.Perm.append_left ["definitions", "client"] List.perm_append_comm

theorem nodup_fileNames_iff (endpoints : Entries Endpoint) :
    (fileNames endpoints).Nodup ↔ ModulesApart endpoints := by
  rw [(fileNames_perm endpoints).nodup_iff, List.nodup_append,
    List.nodup_map_iff_inj_on (nodup_eraseDups _)]
  simp only [List.mem_eraseDups]
  constructor
  · intro distinct
    obtain ⟨-, modules, free⟩ := distinct
    refine ⟨modules, fun tag member fixed => ?_⟩
    exact free _ fixed _ (List.mem_map_of_mem (List.mem_eraseDups.mpr member)) rfl
  · intro apart
    refine ⟨by decide, apart.distinct, fun name fixed other listed same => ?_⟩
    obtain ⟨tag, member, rfl⟩ := List.mem_map.mp listed
    exact apart.free tag (List.mem_eraseDups.mp member) (same ▸ fixed)

theorem nodup_paths_iff (title baseUrl : String) (model : ApiModel) :
    ((output title baseUrl model).files.map (·.path)).Nodup ↔ ModulesApart model.endpoints := by
  have injective : Function.Injective fun name : String => name ++ ".ts" := by
    intro first second same
    simpa using same
  rw [paths_output, List.nodup_map_iff injective, nodup_fileNames_iff]

/-! ## Files after a write -/

theorem slash_not_mem_moduleName (tag : String) : '/' ∉ (moduleName tag).toList := by
  intro slash
  simp only [moduleName] at slash
  split at slash
  · revert slash
    decide
  · rcases Text.kebabCase_plain tag slash with dash | plain
    · cases dash
    · revert plain
      decide

/-- The path of each file of a client is a single component. -/
theorem path_of_mem_output {title baseUrl : String} {model : ApiModel} {file : GeneratedFile}
    (member : file ∈ (output title baseUrl model).files) :
    PathText.LeadsDown file.path ∧ PathText.components file.path = [file.path] := by
  have listed : file.path ∈ (fileNames model.endpoints).map (· ++ ".ts") := by
    rw [← paths_output title baseUrl]
    exact List.mem_map_of_mem member
  obtain ⟨name, isName, path⟩ := List.mem_map.mp listed
  have plainName : '/' ∉ name.toList := by
    have fixed : ∀ name ∈ fixedNames, '/' ∉ name.toList := by decide
    rcases List.mem_append.mp ((fileNames_perm _).mem_iff.mp isName) with isFixed | isModule
    · exact fixed name isFixed
    · obtain ⟨tag, -, rfl⟩ := List.mem_map.mp isModule
      exact slash_not_mem_moduleName tag
  have plain : '/' ∉ file.path.toList := by
    rw [← path]
    simpa using plainName
  have long : 3 ≤ file.path.toList.length := by
    rw [← path, String.toList_append, List.length_append]
    exact Nat.le_add_left 3 _
  have nonempty : file.path ≠ "" := by
    intro empty
    simp [empty] at long
  have components := PathText.components_of_plain nonempty plain
  refine ⟨⟨nonempty, ?_, ?_, ?_⟩, components⟩
  · by_contra absolute
    rw [Bool.not_eq_false, PathText.isAbsolute, decide_eq_true_eq] at absolute
    exact plain (List.mem_of_head? absolute)
  · rw [components, List.mem_singleton]
    intro point
    rw [← point] at long
    revert long
    decide
  · rw [components, List.mem_singleton]
    intro points
    rw [← points] at long
    revert long
    decide

end TypeScript

theorem lastFile?_of_distinct {files : List GeneratedFile}
    (distinct : (files.map (·.path)).Nodup)
    (single : ∀ file ∈ files, PathText.components file.path = [file.path]) {file : GeneratedFile}
    (member : file ∈ files) : lastFile? (PathText.components file.path) files = some file := by
  cases found : lastFile? (PathText.components file.path) files with
  | none =>
      have none := List.find?_eq_none.mp found file (List.mem_reverse.mpr member)
      simp at none
  | some last =>
      have isLast := List.mem_reverse.mp (List.mem_of_find?_eq_some found)
      have components : PathText.components last.path = PathText.components file.path := by
        simpa using List.find?_some found
      rw [single last isLast, single file member, List.singleton_inj] at components
      rw [List.inj_on_of_nodup_map distinct isLast member components]

namespace TypeScript

/-- The files of a client have different paths exactly if the modules of different tags have
different names that no other file has. Then, after the files are written, the file of the module
for the tag of an operation holds the function of this operation, which is exported under its name. -/
theorem paths_distinct_iff (title baseUrl : String) (model : ApiModel) :
    (((output title baseUrl model).files.map (·.path)).Nodup ↔ ModulesApart model.endpoints) ∧
      (ModulesApart model.endpoints → ∀ (base : String) (tree left : FileTree)
        (written : List String),
        (writeAll base (output title baseUrl model).files : StateM FileTree _) tree =
            (.ok written, left) →
          ∀ entry ∈ model.endpoints,
            ∃ module ∈ modules model.definitions model.endpoints, module.tag = entry.2.tag ∧
              left.readText (PathText.join base (moduleName entry.2.tag ++ ".ts")) =
                .ok module.render ∧
              (Function.ofEndpoint entry.1 entry.2).render.toList <:+: module.render.toList ∧
              ("export function " ++ entry.1 ++ "(").toList <:+:
                (Function.ofEndpoint entry.1 entry.2).render.toList) := by
  refine ⟨nodup_paths_iff title baseUrl model, ?_⟩
  intro apart base tree left written ok entry member
  obtain ⟨module, isModule, tag, name, isFunction⟩ :=
    exists_module model.definitions member
  have isFile : module.file ∈ (output title baseUrl model).files := by
    refine List.mem_append_right _ ?_
    exact List.mem_append_left _ (.tail _ (List.mem_map_of_mem isModule))
  obtain ⟨last, isLast, text, -⟩ :=
    writeAll_listed (fun file listed => (path_of_mem_output listed).1) ok isFile
  have distinct := (nodup_paths_iff title baseUrl model).mpr apart
  rw [lastFile?_of_distinct distinct (fun file listed => (path_of_mem_output listed).2) isFile]
    at isLast
  cases isLast
  refine ⟨module, isModule, tag, ?_, render_infix isFunction, export_infix entry.1 entry.2⟩
  rw [← name]
  exact text

/-- The model with one operation, whose tag is `index`. -/
def indexModel : ApiModel where
  endpoints := [("listPets", { url := "/pets", method := .get, tag := "index" })]

/-- The index of all modules takes the place of the module for the tag `index`, and the operation is
not mentioned in the file that is left. -/
theorem index_module_overwritten :
    (output "" "" indexModel).files.map (·.path) =
        ["definitions.ts", "client.ts", "index.ts", "index.ts"] ∧
      moduleName "index" ++ ".ts" = "index.ts" ∧
      (((writeAll "out" (output "" "" indexModel).files : StateM FileTree _) {}).2.readText
          "out/index.ts").toOption = some (indexFile ["index"]) ∧
      ∀ name ∈ indexModel.endpoints.keys, ¬ name.toList <:+: (indexFile ["index"]).toList := by
  refine ⟨?_, ?_, ?_, ?_⟩ <;> decide +kernel

end TypeScript

end ClientGen
