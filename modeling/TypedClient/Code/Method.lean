import TypedClient.Code.Parameters
import TypedClient.Code.Responses
import TypedClient.Text.Replace

/-!
Code for operations. The type of a method is its signature, its codec the body.
-/

set_option autoImplicit false

namespace TypedClient.Code

open Api (Verb Operation PathItem SimpleParameter BodyParameter)

def definitionsRelative : String := "../definitions/"

def clientModule : String := "../client/client"

/-- Puts the encoded argument for its name in braces. -/
def substitute (url : List Char) (a : Argument) : List Char :=
  Text.replaceAll ('\x7b' :: a.name.toList ++ ['\x7d'])
    ("$\x7bencodeURIComponent(" ++ a.fragment.codec ++ ".toString())\x7d").toList url

def url (path : String) (arguments : List Argument) : String :=
  "`" ++ String.ofList (arguments.foldl substitute path.toList) ++ "`"

/-- Nothing in a line may end the comment. -/
def commentLine (line : List Char) : String :=
  "\t * " ++ String.ofList (Text.replaceAll ['*', '/'] ['*', '\\', '/'] line) ++ "\n"

def comment (texts : List String) : String :=
  if texts.isEmpty then ""
  else
    "\t/**\n" ++ String.join ((texts.flatMap fun t => Text.lines t.toList).map commentLine) ++
      "\t */\n"

/-- The parameters of an operation that its method takes. -/
structure Inputs where
  path : List SimpleParameter
  query : List SimpleParameter
  body : List BodyParameter

namespace Inputs

def of (o : Operation) : Inputs := ⟨o.parametersAt .path, o.parametersAt .query, o.bodyParameters⟩

def hasQuery (i : Inputs) : Bool := !i.query.isEmpty

def hasBody (i : Inputs) : Bool := !i.body.isEmpty

def hasParameters (i : Inputs) : Bool := i.hasQuery || i.hasBody

def isOptional (i : Inputs) : Bool := i.hasParameters && !anyRequired i.query i.body

end Inputs

def docs (o : Operation) (i : Inputs) : List String :=
  (if o.isDeprecated then ["@deprecated"] else []) ++ o.summary.toList ++ i.path.map argumentDoc ++
    (parametersDoc? i.query i.body).toList

structure Parts where
  arguments : List Argument
  query : Fragment
  body : Fragment
  response : Fragment

def Parts.of (s : Scope) (o : Operation) (i : Inputs) : Parts :=
  ⟨i.path.map argument, (queryBag i.query).fragment, (bodyBag s i.body).fragment,
    responses s o.responses⟩

def argumentNames (i : Inputs) : List String :=
  i.path.map SimpleParameter.name ++ (if i.hasParameters then ["parameters"] else [])

def parameterFields (i : Inputs) (p : Parts) : List String :=
  (if i.hasQuery then [s!"query: {p.query.type}"] else []) ++
    (if i.hasBody then [s!"body: {p.body.type}"] else [])

def argumentTypes (i : Inputs) (p : Parts) : List String :=
  let marker := if i.isOptional then "?" else ""
  p.arguments.map (fun a => a.fragment.type) ++
    (if i.hasParameters then
      ["parameters" ++ marker ++ ": \x7b " ++ "; ".intercalate (parameterFields i p) ++ " \x7d"]
    else [])

def signature (name : String) (i : Inputs) (p : Parts) : String :=
  "\treadonly " ++ name ++ ": (" ++ ", ".intercalate (argumentTypes i p) ++
    ") => LiveData<TAPIError, " ++ p.response.type ++ ">;\n"

def encodeStatement (name codec : String) (optional : Bool) : String :=
  let guard := if optional then "parameters === undefined ? undefined : " else ""
  "\t\tconst " ++ name ++ " = " ++ guard ++ codec ++ ".encode(parameters." ++ name ++ ");\n"

def statements (i : Inputs) (p : Parts) : String :=
  (if i.hasQuery then encodeStatement "query" p.query.codec i.isOptional else "") ++
    (if i.hasBody then encodeStatement "body" p.body.codec i.isOptional else "")

def requestFields (path : String) (verb : Verb) (i : Inputs) (p : Parts) : String :=
  "\t\t\t\turl: " ++ url path p.arguments ++ ",\n\t\t\t\tmethod: '" ++ verb.name ++ "',\n" ++
    (if i.hasQuery then "\t\t\t\tquery,\n" else "") ++
    (if i.hasBody then "\t\t\t\tbody,\n" else "")

def implementation (path : String) (verb : Verb) (name : String) (i : Inputs) (p : Parts) :
    String :=
  "\t" ++ name ++ ": (" ++ ", ".intercalate (argumentNames i) ++ ") => \x7b\n" ++
    statements i p ++
    "\t\treturn e.apiClient\n" ++
    "\t\t\t.request(\x7b\n" ++
    requestFields path verb i p ++
    "\t\t\t\x7d)\n" ++
    "\t\t\t.pipe(map(data => data.chain(value => fromEither(" ++ p.response.codec ++
    ".decode(value).mapLeft(ResponseValidationError.create))))),\n" ++
    "\t\x7d,\n"

def methodImports : List Import :=
  [⟨"map", "rxjs/operators"⟩, ⟨"fromEither", "@devexperts/remote-data-ts"⟩,
    ⟨"ResponseValidationError", clientModule⟩, ⟨"TAPIError", clientModule⟩,
    ⟨"LiveData", "@devexperts/rx-utils/dist/rd/live-data.utils"⟩]

def imports (i : Inputs) (p : Parts) : List Import :=
  methodImports ++ p.response.imports ++ p.arguments.flatMap (fun a => a.fragment.imports) ++
    (if i.hasQuery then p.query.imports else []) ++ (if i.hasBody then p.body.imports else [])

def method (path : String) (verb : Verb) (o : Operation) (root : String) (noDocs : Bool) :
    Fragment :=
  let i := Inputs.of o
  let p := Parts.of ⟨definitionsRelative, root⟩ o i
  let doc := if noDocs then "" else comment (docs o i)
  ⟨doc ++ signature (o.name verb) i p, implementation path verb (o.name verb) i p, imports i p,
    .empty⟩

/-- The methods for a path, in the order of the verbs. -/
def methods (path : String) (item : PathItem) (root : String) (noDocs : Bool) : Fragment :=
  combineAll (item.operations.map fun (verb, o) => method path verb o root noDocs)

end TypedClient.Code
