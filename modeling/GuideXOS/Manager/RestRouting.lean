import GuideXOS.Core.Text
import GuideXOS.Lib.Substrings

/-!
# `RestRouting` — when a request reaches the machine and the operation it names

A target names a machine, an operation and a query, and `reaches` is the handler it asks for. The server looks for
operations anywhere in the path and in a fixed order: a target is served as it asks for if and only if no operation
that is looked for earlier occurs in it (`Routable`), and for `GET` and `DELETE` only if there is nothing behind the
identifier.
-/

/-!
## From a request's path to a handler

A request is routed by its method and by what its path contains, to one of the server's handlers (`Call`). A handler
either hands a request to the API handler, which acts on the machines, or answers by itself (`Call.apiRequest`).
-/

namespace GuideXOS.Manager.Rest
open Core (Text text)
open Lib.Substrings

structure HTTPRequest where
  method : Text
  path : Text
  body : Text := []

/-- A map from names to values, as a list without order. -/
abbrev Parameters := List (Text × Text)

/-- `params[key] = value`. -/
def Parameters.set (params : Parameters) (key value : Text) : Parameters :=
  params.filter (·.1 ≠ key) ++ [(key, value)]

/-! ## Handlers -/

/-- The handlers, with what they are called with. Those that read the request's body have it from there. -/
inductive Call
  | handleCreateVM
  | handleDeleteVM (vmId : Text)
  | handleStartVM (vmId : Text)
  | handleStopVM (vmId : Text)
  | handlePauseVM (vmId : Text)
  | handleResumeVM (vmId : Text)
  | handleSnapshot (vmId : Text)
  | handleListVMs
  | handleGetVMInfo (vmId : Text)
  | handleGetVMLogs (vmId : Text) (params : Parameters)
  | handleGetConsoleOutput (vmId : Text) (params : Parameters)
  | handleOPTIONS
  | createJSONResponse (code : Nat) (body : Text)
  | createErrorResponse (code : Nat) (message : Text)
  deriving DecidableEq

inductive VMOperation
  | CREATE | DELETE | START | STOP | PAUSE | RESUME | SNAPSHOT | LIST | GET_INFO | GET_LOGS
  deriving DecidableEq

structure APIRequest where
  operation : VMOperation
  parameters : Parameters := []
  body : Text := []
  deriving DecidableEq

/-- What most handlers ask for: an operation on a machine. -/
def vmRequest (operation : VMOperation) (vmId : Text) : APIRequest :=
  { operation := operation, parameters := [(text "vmId", vmId)] }

/-- A parameter of the query may take the place of the identifier. -/
def logParameters (vmId : Text) (params : Parameters) : Parameters :=
  params.foldl (fun all param => all.set param.1 param.2) [(text "vmId", vmId)]

/-- What a handler hands to the API handler, with the status codes for its success and for anything else. The other
handlers read, or answer by themselves. -/
def Call.apiRequest (body : Text) : Call → Option (APIRequest × Nat × Nat)
  | .handleCreateVM => some ({ operation := .CREATE, body := body }, 201, 400)
  | .handleDeleteVM vmId => some (vmRequest .DELETE vmId, 200, 404)
  | .handleStartVM vmId => some (vmRequest .START vmId, 200, 400)
  | .handleStopVM vmId => some (vmRequest .STOP vmId, 200, 400)
  | .handlePauseVM vmId => some (vmRequest .PAUSE vmId, 200, 400)
  | .handleResumeVM vmId => some (vmRequest .RESUME vmId, 200, 400)
  | .handleSnapshot vmId => some ({ vmRequest .SNAPSHOT vmId with body := body }, 201, 400)
  | .handleListVMs => some ({ operation := .LIST }, 200, 500)
  | .handleGetVMInfo vmId => some (vmRequest .GET_INFO vmId, 200, 404)
  | .handleGetVMLogs vmId params =>
      some ({ operation := .GET_LOGS, parameters := logParameters vmId params }, 200, 404)
  | .handleGetConsoleOutput _ _ | .handleOPTIONS | .createJSONResponse _ _ | .createErrorResponse _ _ => none

def notFound : Call := .createErrorResponse 404 (text "Not Found")

/-! ## Reading the path -/

/-- **`extractPathParameter`.** -/
def extractPathParameter (path pattern : Text) : Text :=
  match find? (text "(") pattern, find? (text ")") pattern with
  | some patternStart, some patternEnd =>
      let before := pattern.take patternStart
      let suffix := pattern.drop (patternEnd + 1)
      if find? before path ≠ some 0 then []
      else
        let rest := path.drop before.length
        let paramEnd := if suffix ≠ [] then (find? suffix rest).getD rest.length else rest.length
        rest.take paramEnd
  | _, _ => []

/-- The parts between separators, as `getline` reads them: nothing after the last separator is no part. -/
def parts (separator : UInt8) (current : Text) : Text → List Text
  | [] => if current = [] then [] else [current]
  | c :: rest => if c = separator then current :: parts separator [] rest else parts separator (current ++ [c]) rest

/-- One part of a query string. -/
def setPair (params : Parameters) (pair : Text) : Parameters :=
  match find? (text "=") pair with
  | none => params
  | some eqPos => params.set (pair.take eqPos) (pair.drop (eqPos + 1))

/-- **`parseQueryString`.** -/
def parseQueryString (query : Text) : Parameters :=
  match find? (text "?") query with
  | none => []
  | some queryStart => (parts 38 [] (query.drop (queryStart + 1))).foldl setPair []

/-! ## Routing -/

def vmsPath : Text := text "/api/v1/vms"

def vmPrefix : Text := text "/api/v1/vms/"

/-- `path.find(needle) != npos`. -/
def contains (needle path : Text) : Bool := (find? needle path).isSome

/-- The path names a machine. -/
def namesVM (path : Text) : Bool := find? vmPrefix path == some 0

def handlePOST (path : Text) : Call :=
  if path = vmsPath then .handleCreateVM
  else if namesVM path ∧ contains (text "/snapshot") path then
    .handleSnapshot (extractPathParameter path (text "/api/v1/vms/(.*)/snapshot"))
  else if namesVM path ∧ contains (text "/start") path then
    .handleStartVM (extractPathParameter path (text "/api/v1/vms/(.*)/start"))
  else if namesVM path ∧ contains (text "/stop") path then
    .handleStopVM (extractPathParameter path (text "/api/v1/vms/(.*)/stop"))
  else if namesVM path ∧ contains (text "/pause") path then
    .handlePauseVM (extractPathParameter path (text "/api/v1/vms/(.*)/pause"))
  else if namesVM path ∧ contains (text "/resume") path then
    .handleResumeVM (extractPathParameter path (text "/api/v1/vms/(.*)/resume"))
  else notFound

def healthy : Text := text "\x7b\"status\":\"healthy\",\"version\":\"1.0.0\"\x7d"

def handleGET (path : Text) : Call :=
  if path = vmsPath then .handleListVMs
  else if namesVM path then
    let vmId := extractPathParameter path (text "/api/v1/vms/([^/]+)")
    if contains (text "/console") path then .handleGetConsoleOutput vmId (parseQueryString path)
    else if contains (text "/logs") path then .handleGetVMLogs vmId (parseQueryString path)
    else .handleGetVMInfo vmId
  else if path = text "/api/v1/health" then .createJSONResponse 200 healthy
  else notFound

def handleDELETE (path : Text) : Call :=
  if namesVM path then .handleDeleteVM (extractPathParameter path (text "/api/v1/vms/([^/]+)")) else notFound

/-- **`routeRequest`.** -/
def routeRequest (request : HTTPRequest) : Call :=
  if request.method = text "POST" then handlePOST request.path
  else if request.method = text "GET" then handleGET request.path
  else if request.method = text "PUT" then .createErrorResponse 501 (text "Not Implemented")
  else if request.method = text "DELETE" then handleDELETE request.path
  else if request.method = text "OPTIONS" then .handleOPTIONS
  else .createErrorResponse 405 (text "Method Not Allowed")

/-! ## Targets -/

def slash : UInt8 := 47

def questionMark : UInt8 := 63

/-- What a request is for: a machine, an operation on it and parameters. -/
structure Target where
  id : Text
  operation : Option Text
  query : Option Text
  id_noSlash : slash ∉ id

namespace Target

variable (t : Target)

def operationPart : Text :=
  match t.operation with
  | none => []
  | some operation => slash :: operation

def queryPart : Text :=
  match t.query with
  | none => []
  | some query => questionMark :: query

/-- The identifier and what follows it. -/
def rest : Text := t.id ++ (t.operationPart ++ t.queryPart)

def path : Text := vmPrefix ++ t.rest

end Target

/-- The methods that have operations on a machine. -/
inductive Method
  | POST | GET | DELETE

def Method.name : Method → Text
  | .POST => text "POST"
  | .GET => text "GET"
  | .DELETE => text "DELETE"

/-- The operations of `POST`, in the order in which the server looks for them. -/
def postOperations : List (Text × (Text → Call)) :=
  [(text "snapshot", .handleSnapshot), (text "start", .handleStartVM), (text "stop", .handleStopVM),
    (text "pause", .handlePauseVM), (text "resume", .handleResumeVM)]

/-- What a method has for an operation. -/
def lookup (operation : Option Text) : List (Text × (Text → Call)) → Option (Text → Call)
  | [] => none
  | entry :: entries => if operation = some entry.1 then some entry.2 else lookup operation entries

/-- **The handler a target asks for**, with its identifier and parameters; an operation that the method does not have is
not found. -/
def reaches (method : Method) (t : Target) : Call :=
  match method with
  | .POST => ((lookup t.operation postOperations).map (· t.id)).getD notFound
  | .GET =>
      match t.operation with
      | none => .handleGetVMInfo t.id
      | some operation =>
          if operation = text "console" then .handleGetConsoleOutput t.id (parseQueryString t.queryPart)
          else if operation = text "logs" then .handleGetVMLogs t.id (parseQueryString t.queryPart)
          else notFound
  | .DELETE => if t.operation = none then .handleDeleteVM t.id else notFound

/-- The server finds an operation of this name: at the beginning of the identifier, or behind a slash. -/
def Occurs (name : Text) (t : Target) : Prop :=
  name <+: t.id ∨ slash :: name <:+: t.operationPart ∨ slash :: name <:+: t.queryPart

/-- The operations of `POST` that are looked for before the target's own. -/
def earlier (t : Target) (entries : List (Text × (Text → Call))) : List Text :=
  (entries.map Prod.fst).takeWhile fun name => t.operation ≠ some name

/-- **The targets that are served as they ask for.** -/
def Routable (method : Method) (t : Target) : Prop :=
  match method with
  | .POST => ∀ name ∈ earlier t postOperations, ¬ Occurs name t
  | .GET => t.operation = none ∧ t.query = none ∧ ¬ text "console" <+: t.id ∧ ¬ text "logs" <+: t.id
  | .DELETE => t.operation = none ∧ t.query = none

/-! ## What the server finds in a path -/

/-- A name of an operation, apart from the segments that every path begins with. -/
structure IsOperation (name : Text) : Prop where
  noSlash : slash ∉ name
  noQuestion : questionMark ∉ name
  notFirst : ∀ segment ∈ [text "api", text "v1", text "vms"], ¬ name <+: segment

theorem vmPrefix_append (rest : Text) :
    vmPrefix ++ rest = slash :: (text "api" ++ slash :: (text "v1" ++ slash :: (text "vms" ++ slash :: rest))) := rfl

section Paths
variable {name : Text} {t : Target}

/-- A segment that does not begin with the name. -/
theorem infix_segment {segment after : Text} (hname : slash ∉ name) (hsegment : slash ∉ segment)
    (h : ¬ name <+: segment) :
    slash :: name <:+: slash :: (segment ++ slash :: after) ↔ slash :: name <:+: slash :: after := by
  rw [marked_infix_cons, prefix_append_cons hname, marked_infix_append hsegment]
  exact ⟨fun hor => hor.resolve_left h, .inr⟩

theorem prefix_rest_iff (h : IsOperation name) : name <+: t.rest ↔ name <+: t.id := by
  unfold Target.rest Target.operationPart Target.queryPart
  cases t.operation with
  | some operation => exact prefix_append_cons h.noSlash
  | none =>
      cases t.query with
      | some query => exact prefix_append_cons h.noQuestion
      | none => rw [List.nil_append, List.append_nil]

theorem infix_rest_iff (h : IsOperation name) :
    slash :: name <:+: t.rest ↔ slash :: name <:+: t.operationPart ∨ slash :: name <:+: t.queryPart := by
  have hmark : questionMark ∉ slash :: name := by
    rw [List.mem_cons, not_or]
    exact ⟨by decide, h.noQuestion⟩
  rw [Target.rest, marked_infix_append t.id_noSlash]
  unfold Target.queryPart
  cases t.query with
  | some query =>
      have hquery := @infix_append_cons _ (slash :: name) [] query questionMark hmark
      dsimp only
      rw [infix_append_cons hmark, ← List.nil_append (questionMark :: query), hquery, List.infix_nil]
      simp
  | none => simp

/-- **Where the server finds an operation.** -/
theorem contains_path_iff (h : IsOperation name) : contains (slash :: name) t.path = true ↔ Occurs name t := by
  have hsegment : ∀ segment ∈ [text "api", text "v1", text "vms"], slash ∉ segment := by decide
  rw [contains, find?_isSome_iff, Target.path, vmPrefix_append,
    infix_segment h.noSlash (hsegment _ (by simp)) (h.notFirst _ (by simp)),
    infix_segment h.noSlash (hsegment _ (by simp)) (h.notFirst _ (by simp)),
    infix_segment h.noSlash (hsegment _ (by simp)) (h.notFirst _ (by simp)), marked_infix_cons, prefix_rest_iff h,
    infix_rest_iff h, Occurs]

theorem namesVM_path (t : Target) : namesVM t.path = true := by
  rw [namesVM, Target.path, find?_of_prefix (List.prefix_append _ _)]
  rfl

theorem path_ne (t : Target) : t.path ≠ vmsPath := by
  intro h
  have hlength := congrArg List.length h
  have hleads : vmPrefix.length = 12 := rfl
  have hvms : vmsPath.length = 11 := rfl
  rw [Target.path, List.length_append, hleads, hvms] at hlength
  omega

/-- The identifier is read up to the operation, where the target names that operation. -/
theorem extract_of_suffix {pattern : Text} (hopen : find? (text "(") pattern = some 12)
    (hclose : find? (text ")") pattern = some 15) (hbefore : pattern.take 12 = vmPrefix)
    (hsuffix : pattern.drop 16 = slash :: name) (h : t.operation = some name) :
    extractPathParameter t.path pattern = t.id := by
  have hfound : find? (slash :: name) t.rest = some t.id.length := by
    refine find?_marked t.id_noSlash ?_
    rw [Target.operationPart, h]
    exact List.prefix_append _ _
  have hleads : find? vmPrefix t.path = some 0 := find?_of_prefix (List.prefix_append _ _)
  have hdrop : t.path.drop vmPrefix.length = t.rest := List.drop_left
  unfold extractPathParameter
  rw [hopen, hclose]
  dsimp only
  rw [hbefore, hsuffix, if_neg (by rw [hleads]; simp), hdrop, if_pos (List.cons_ne_nil _ _), hfound, Option.getD_some,
    Target.rest, List.take_left]

/-- Without an operation behind it, the identifier is all the rest. -/
theorem extract_whole (t : Target) :
    extractPathParameter t.path (text "/api/v1/vms/([^/]+)") = t.rest := by
  have hopen : find? (text "(") (text "/api/v1/vms/([^/]+)") = some 12 := by decide
  have hclose : find? (text ")") (text "/api/v1/vms/([^/]+)") = some 18 := by decide
  have hbefore : (text "/api/v1/vms/([^/]+)").take 12 = vmPrefix := by decide
  have hsuffix : (text "/api/v1/vms/([^/]+)").drop 19 = [] := by decide
  have hleads : find? vmPrefix t.path = some 0 := find?_of_prefix (List.prefix_append _ _)
  have hdrop : t.path.drop vmPrefix.length = t.rest := List.drop_left
  unfold extractPathParameter
  rw [hopen, hclose]
  dsimp only
  rw [hbefore, hsuffix, if_neg (by rw [hleads]; simp), hdrop, if_neg (by simp), List.take_length]

end Paths

/-! ## `POST` -/

/-- The pattern of an operation. -/
def patternOf (name : Text) : Text := text "/api/v1/vms/(.*)/" ++ name

/-- The search for an operation, in order. -/
def serveFirst (path : Text) : List (Text × (Text → Call)) → Call
  | [] => notFound
  | entry :: entries =>
      if namesVM path ∧ contains (slash :: entry.1) path then entry.2 (extractPathParameter path (patternOf entry.1))
      else serveFirst path entries

theorem handlePOST_eq {path : Text} (h : path ≠ vmsPath) : handlePOST path = serveFirst path postOperations := by
  rw [handlePOST, if_neg h]
  rfl

/-- The search can be told by its results: each operation has a handler of its own. -/
structure Told (entries : List (Text × (Text → Call))) : Prop where
  operations : ∀ entry ∈ entries, IsOperation entry.1
  found : ∀ entry ∈ entries, ∀ vmId, entry.2 vmId ≠ notFound
  distinct : entries.Pairwise fun entry other => ∀ vmId vmId', entry.2 vmId ≠ other.2 vmId'

theorem extract_patternOf {name : Text} {t : Target} (h : t.operation = some name) :
    extractPathParameter t.path (patternOf name) = t.id := by
  have hopen : find? (text "(") (patternOf name) = some 12 := rfl
  have hclose : find? (text ")") (patternOf name) = some 15 := rfl
  exact extract_of_suffix hopen hclose rfl rfl h

variable {entries : List (Text × (Text → Call))}

theorem lookup_mem {operation : Option Text} {call : Text → Call} (h : lookup operation entries = some call) :
    ∃ entry ∈ entries, entry.2 = call := by
  induction entries with
  | nil => cases h
  | cons entry entries ih =>
      rw [lookup] at h
      split at h
      · cases h
        exact ⟨entry, List.mem_cons_self, rfl⟩
      · obtain ⟨other, hmem, hcall⟩ := ih h
        exact ⟨other, List.mem_cons_of_mem _ hmem, hcall⟩

variable (t : Target)

/-- **The search in order** serves a target as it asks for if and only if it finds nothing before. -/
theorem serveFirst_iff (h : Told entries) :
    serveFirst t.path entries = ((lookup t.operation entries).map (· t.id)).getD notFound ↔
      ∀ name ∈ earlier t entries, ¬ Occurs name t := by
  induction entries with
  | nil => exact ⟨fun _ name hname => (nomatch hname), fun _ => rfl⟩
  | cons entry entries ih =>
      obtain ⟨hdistinct, hrest⟩ := List.pairwise_cons.mp h.distinct
      have htold : Told entries :=
        ⟨fun e he => h.operations e (List.mem_cons_of_mem _ he), fun e he => h.found e (List.mem_cons_of_mem _ he), hrest⟩
      have hname := h.operations entry List.mem_cons_self
      have htest : (namesVM t.path ∧ contains (slash :: entry.1) t.path) ↔ Occurs entry.1 t := by
        rw [contains_path_iff hname]
        exact ⟨And.right, fun hoccurs => ⟨namesVM_path t, hoccurs⟩⟩
      rw [serveFirst, lookup, earlier, List.map_cons, List.takeWhile_cons]
      by_cases hown : t.operation = some entry.1
      · -- the target's own operation is found where it stands
        have hoccurs : Occurs entry.1 t := by
          refine .inr (.inl ?_)
          rw [Target.operationPart, hown]
        rw [if_pos (htest.mpr hoccurs), if_pos hown, extract_patternOf hown]
        simp [hown]
      · rw [if_neg hown]
        have hnext : (if decide (t.operation ≠ some entry.1) = true then
            entry.1 :: (entries.map Prod.fst).takeWhile (fun name => t.operation ≠ some name) else []) =
              entry.1 :: earlier t entries := if_pos (decide_eq_true hown)
        rw [hnext, List.forall_mem_cons]
        by_cases hoccurs : Occurs entry.1 t
        · -- another one is found before it
          rw [if_pos (htest.mpr hoccurs)]
          refine ⟨fun hserved => ?_, fun hclear => absurd hoccurs hclear.1⟩
          cases hlookup : lookup t.operation entries with
          | none =>
              rw [hlookup] at hserved
              exact absurd hserved (h.found entry List.mem_cons_self _)
          | some call =>
              obtain ⟨other, hmem, rfl⟩ := lookup_mem hlookup
              rw [hlookup] at hserved
              exact absurd hserved (hdistinct other hmem _ _)
        · rw [if_neg fun htested => hoccurs (htest.mp htested), ih htold]
          exact ⟨fun hclear => ⟨hoccurs, hclear⟩, And.right⟩

theorem told_postOperations : Told postOperations where
  operations := by
    have hall : ∀ entry ∈ postOperations, slash ∉ entry.1 ∧ questionMark ∉ entry.1 ∧
        ∀ segment ∈ [text "api", text "v1", text "vms"], ¬ entry.1 <+: segment := by decide
    intro entry hentry
    obtain ⟨hslash, hquestion, hfirst⟩ := hall entry hentry
    exact ⟨hslash, hquestion, hfirst⟩
  found := by simp [postOperations, notFound]
  distinct := by simp [postOperations]

/-! ## `GET` and `DELETE` -/

/-- What follows the identifier makes the rest longer. -/
theorem rest_eq_id_iff : t.rest = t.id ↔ t.operation = none ∧ t.query = none := by
  constructor
  · intro h
    have hlength := congrArg List.length h
    rw [Target.rest, List.length_append, List.length_append, Target.operationPart, Target.queryPart] at hlength
    cases hoperation : t.operation with
    | some operation =>
        simp [hoperation] at hlength
    | none =>
        cases hquery : t.query with
        | some query => simp [hoperation, hquery] at hlength
        | none => exact ⟨rfl, rfl⟩
  · rintro ⟨hoperation, hquery⟩
    rw [Target.rest, Target.operationPart, Target.queryPart, hoperation, hquery, List.nil_append, List.append_nil]

theorem isOperation_console : IsOperation (text "console") := ⟨by decide, by decide, by decide⟩

theorem isOperation_logs : IsOperation (text "logs") := ⟨by decide, by decide, by decide⟩

theorem handleGET_path :
    handleGET t.path = if contains (text "/console") t.path then
        .handleGetConsoleOutput t.rest (parseQueryString t.path)
      else if contains (text "/logs") t.path then .handleGetVMLogs t.rest (parseQueryString t.path)
      else .handleGetVMInfo t.rest := by
  rw [handleGET, if_neg (path_ne t), if_pos (namesVM_path t), extract_whole]

theorem handleDELETE_path : handleDELETE t.path = .handleDeleteVM t.rest := by
  rw [handleDELETE, if_pos (namesVM_path t), extract_whole]

/-- Nothing behind the identifier: an operation occurs only at its beginning. -/
theorem occurs_of_bare {t : Target} (hoperation : t.operation = none) (hquery : t.query = none) (name : Text) :
    Occurs name t ↔ name <+: t.id := by
  rw [Occurs, Target.operationPart, Target.queryPart, hoperation, hquery]
  simp

theorem handleGET_iff : handleGET t.path = reaches .GET t ↔ Routable .GET t := by
  have hconsole : contains (text "/console") t.path = true ↔ Occurs (text "console") t :=
    contains_path_iff isOperation_console
  have hlogs : contains (text "/logs") t.path = true ↔ Occurs (text "logs") t := contains_path_iff isOperation_logs
  rw [handleGET_path, reaches, Routable]
  by_cases hbare : t.operation = none ∧ t.query = none
  · obtain ⟨hoperation, hquery⟩ := hbare
    rw [occurs_of_bare hoperation hquery] at hconsole hlogs
    rw [(rest_eq_id_iff t).mpr ⟨hoperation, hquery⟩, hoperation]
    by_cases hc : text "console" <+: t.id
    · simp [hconsole.mpr hc, hc]
    · by_cases hl : text "logs" <+: t.id
      · simp [hlogs.mpr hl, hl, Bool.eq_false_iff.mpr fun htrue => hc (hconsole.mp htrue)]
      · simp [hc, hl, hquery, Bool.eq_false_iff.mpr fun htrue => hc (hconsole.mp htrue),
          Bool.eq_false_iff.mpr fun htrue => hl (hlogs.mp htrue)]
  · -- the identifier takes all that follows with it
    have hne : t.rest ≠ t.id := fun hrest => hbare ((rest_eq_id_iff t).mp hrest)
    refine ⟨fun hserved => ?_, fun hroutable => absurd ⟨hroutable.1, hroutable.2.1⟩ hbare⟩
    exfalso
    revert hserved
    cases t.operation with
    | none =>
        dsimp only
        split
        · simp
        split <;> simp [hne]
    | some operation =>
        dsimp only
        split
        · split
          · simp [hne]
          split <;> simp [notFound]
        split
        · split
          · simp
          split <;> simp [notFound, hne]
        · split
          · simp
          split <;> simp [notFound]

theorem handleDELETE_iff : handleDELETE t.path = reaches .DELETE t ↔ Routable .DELETE t := by
  rw [handleDELETE_path, reaches, Routable, ← rest_eq_id_iff]
  split
  case isTrue hoperation => simp
  case isFalse hoperation =>
    refine ⟨fun hserved => (nomatch hserved), fun hrest => absurd ((rest_eq_id_iff t).mp hrest).1 hoperation⟩

/-! ## Requests -/

/-- The other methods have no operation on a machine. -/
theorem apiRequest_other {method : Text} (h : ∀ m : Method, method ≠ m.name) (path body : Text) :
    (routeRequest { method := method, path := path, body := body }).apiRequest body = none := by
  have hpost : method ≠ text "POST" := h .POST
  have hget : method ≠ text "GET" := h .GET
  have hdelete : method ≠ text "DELETE" := h .DELETE
  rw [routeRequest, if_neg hpost, if_neg hget, if_neg hdelete]
  split
  · rfl
  split <;> rfl

/-- **Routing.** A request reaches the machine and the operation it names if and only if the target is one of those that
are served as they ask for. Neither not-found nor a method without operations hands anything to the API handler. -/
theorem restRouting_iff (method : Method) (t : Target) (body : Text) :
    (routeRequest { method := method.name, path := t.path, body := body } = reaches method t ↔ Routable method t) ∧
      notFound.apiRequest body = none ∧
      ∀ other, (∀ m : Method, other ≠ m.name) →
        (routeRequest { method := other, path := t.path, body := body }).apiRequest body = none := by
  refine ⟨?_, rfl, fun other hother => apiRequest_other hother t.path body⟩
  cases method with
  | POST =>
      show handlePOST t.path = _ ↔ _
      rw [handlePOST_eq (path_ne t)]
      exact serveFirst_iff t told_postOperations
  | GET => exact handleGET_iff t
  | DELETE => exact handleDELETE_iff t

/-- A machine called `snapshots` cannot be started, and the logs of no machine can be read. -/
theorem restRouting_misroutes :
    handlePOST (text "/api/v1/vms/snapshots/start") = .handleSnapshot (text "snapshots/start") ∧
      handleGET (text "/api/v1/vms/a/logs") = .handleGetVMLogs (text "a/logs") [] ∧
      ¬ ∀ method (t : Target) body,
        routeRequest { method := method.name, path := t.path, body := body } = reaches method t := by
  refine ⟨by decide +kernel, by decide +kernel, fun h => ?_⟩
  have hstart := h .POST { id := text "snapshots", operation := some (text "start"), query := none, id_noSlash := by decide } []
  exact absurd hstart (by decide +kernel)

end GuideXOS.Manager.Rest
