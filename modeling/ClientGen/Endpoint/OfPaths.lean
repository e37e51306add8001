import ClientGen.Diagnostic
import ClientGen.Endpoint.OfOperation
import ClientGen.Endpoint.Url
import ClientGen.Glob.Filter

/-!
The operations of a document, named and tagged. Names that the document gives are set aside first,
so that no name that is made from a path takes one of them, wherever the two stand.
-/

set_option autoImplicit false

namespace ClientGen

/-- How operations are chosen, tagged and named. -/
structure PathOptions where
  filter : List String := []
  tagIndex : Option Nat := none
  conjunction : String := "By"
  deriving DecidableEq, Repr

def PathOptions.encode (options : PathOptions) : Json :=
  .obj [("filter", .strings options.filter),
    ("tag_index", match options.tagIndex with
      | some index => .nat index
      | none => .null),
    ("conjunction", .str options.conjunction)]

/-- The options with their filter made ready. -/
structure PathRules where
  filter : PathFilter := {}
  tagIndex : Option Nat := none
  conjunction : String := "By"

def PathOptions.rules (options : PathOptions) : Except FilterError PathRules :=
  match PathFilter.parse options.filter with
  | .ok filter => .ok ⟨filter, options.tagIndex, options.conjunction⟩
  | .error error => .error error

/-- An operation that passed the filter, before it is named. -/
structure Candidate where
  rawUrl : String
  path : String
  query : Option String
  method : Method
  operation : Operation

namespace Candidate

def subject (candidate : Candidate) : String := candidate.method.verb ++ " " ++ candidate.rawUrl

def explicitId? (candidate : Candidate) : Option String :=
  match candidate.operation.operationId with
  | none => none
  | some identifier =>
      let name := Text.trim identifier
      if name.isEmpty then none else some name

def ofPath (url : String) (item : PathItem) : List Candidate :=
  let (path, query) := Url.splitQuery url
  item.operations.map fun entry => ⟨url, path, query, entry.1, entry.2⟩

def ofPaths (filter : PathFilter) (paths : Entries PathItem) : List Candidate :=
  paths.flatMap fun entry =>
    if filter.accepts (Url.splitQuery entry.1).1 then ofPath entry.1 entry.2 else []

def explicitIds (candidates : List Candidate) : List String := candidates.filterMap explicitId?

/-- Drops the operations whose given name is that of an earlier one. -/
def dropRepeated (seen : List String) : List Candidate → Reported (List Candidate)
  | [] => pure []
  | candidate :: rest =>
      match candidate.explicitId? with
      | none => do
          let others ← dropRepeated seen rest
          return candidate :: others
      | some name =>
          if seen.contains name then do
            Reported.note .error candidate.subject
              ("duplicate operationId `" ++ name ++ "`, operation dropped")
            dropRepeated seen rest
          else do
            let others ← dropRepeated (name :: seen) rest
            return candidate :: others

/-- The tag of the operation: a segment of the path if the rules say so, else the first tag that is
not blank. -/
def tag? (rules : PathRules) (candidate : Candidate) : Option String :=
  match rules.tagIndex with
  | some index => ((Url.segments candidate.path.toList)[index]?).map String.ofList
  | none => (candidate.operation.tags.map Text.trim).find? fun tag => !tag.isEmpty

/-- The name that the path gives to the operation, after its method unless it begins with one. Empty
if the path gives none. -/
def derivedName (rules : PathRules) (candidate : Candidate) : String :=
  let derived := Url.operationName candidate.path candidate.query rules.conjunction
  if derived.isEmpty || Names.startsWithMethod derived then derived
  else candidate.method.key ++ Text.upperFirst derived

/-- The name of the operation, none if there is no way to name it. `taken` are the names that the
path may not give. -/
def chooseName (rules : PathRules) (taken : List String) (candidate : Candidate) :
    Reported (Option String) :=
  match candidate.explicitId? with
  | some name => pure (some name)
  | none =>
      let name := candidate.derivedName rules
      if name.isEmpty then
        ⟨none, [⟨.error, candidate.subject, "cannot derive an operation name, skipped"⟩]⟩
      else if taken.contains name then
        let unique := Names.firstFree taken name
        ⟨some unique, [⟨.warning, candidate.subject,
          "operation name `" ++ name ++ "` already used, renamed to `" ++ unique ++ "`"⟩]⟩
      else pure (some name)

def describe (candidate : Candidate) (name tag : String) : Reported Endpoint := do
  let operation := candidate.operation
  let owner := Text.pascalCase name
  let response ← operation.reply owner candidate.subject
  return {
    url := candidate.path
    method := candidate.method
    parameters := operation.buckets owner
    requestHeaders := operation.consumes
    responseHeaders := operation.produces
    response := response
    summary := operation.summary.getD ""
    description := operation.description.getD ""
    tag := tag
    deprecated := operation.deprecated.getD false }

/-- Resolves operations one after the other. `taken` are the names given by the document and those
made so far. -/
def resolveAll (rules : PathRules) (taken : List String) (done : Entries Endpoint) :
    List Candidate → Reported (Entries Endpoint)
  | [] => pure done
  | candidate :: rest =>
      match candidate.tag? rules with
      | none => do
          Reported.note .error candidate.subject "operation has no tag, excluded"
          resolveAll rules taken done rest
      | some tag => do
          match ← candidate.chooseName rules taken with
          | none => resolveAll rules taken done rest
          | some name =>
              let endpoint ← candidate.describe name tag
              resolveAll rules (name :: taken) (done.insert name endpoint) rest

end Candidate

namespace Endpoint

def ofPaths (rules : PathRules) (paths : Entries PathItem) : Reported (Entries Endpoint) := do
  let candidates := Candidate.ofPaths rules.filter paths
  let kept ← Candidate.dropRepeated [] candidates
  Candidate.resolveAll rules (Candidate.explicitIds candidates) [] kept

end Endpoint

end ClientGen
