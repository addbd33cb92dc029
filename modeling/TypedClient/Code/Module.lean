import TypedClient.Code.Method
import TypedClient.Text.WordCase

set_option autoImplicit false

namespace TypedClient.Code

open Api (Schema PathItem)

/-- The beginning of a module; every line of imports ends, and so does the head. -/
def moduleHead (imports : List Import) : String :=
  "import * as t from 'io-ts';\n" ++ String.join ((importLines imports).map (· ++ "\n")) ++ "\n"

def definitionScope (name : String) : Scope := ⟨"./", name⟩

def definitionModule (name : String) (s : Schema) : String :=
  let f := schema (definitionScope name) s
  moduleHead f.imports ++ s!"export type {name} = {f.type};\nexport const {codecName name} = " ++
    s!"{f.codec};"

def controllerName (group : String) : String := group ++ "Controller"

def controllerImports : List Import := [⟨"asks", "fp-ts/lib/Reader"⟩, ⟨"TAPIClient", clientModule⟩]

def controllerMethods (name : String) (paths : OrderedMap PathItem) (noDocs : Bool) : Fragment :=
  combineAll (paths.entries.map fun (path, item) => methods path item name noDocs)

def controllerModule (group : String) (paths : OrderedMap PathItem) (noDocs : Bool) : String :=
  let name := controllerName group
  let f := controllerMethods name paths noDocs
  moduleHead (f.imports ++ controllerImports) ++ s!"export type {name} = \x7b\n" ++ f.type ++
    "\x7d;\n\n" ++
    s!"export const {Text.camelCase name} = asks((e: \x7b apiClient: TAPIClient \x7d): {name} => (" ++
    "\x7b\n" ++ f.codec ++ "\x7d));"

def clientModuleText : String :=
  "import \x7b LiveData \x7d from '@devexperts/rx-utils/dist/rd/live-data.utils';\n" ++
  "import \x7b Errors, mixed \x7d from 'io-ts';\n" ++
  "\n" ++
  "export type TAPIRequest = \x7b\n" ++
  "\turl: string;\n" ++
  "\tquery?: object;\n" ++
  "\tbody?: object;\n" ++
  "\x7d;\n" ++
  "\n" ++
  "export type TFullAPIRequest = TAPIRequest & \x7b\n" ++
  "\tmethod: 'GET' | 'POST' | 'PUT' | 'DELETE' | 'PATCH' | 'HEAD' | 'OPTIONS';\n" ++
  "\x7d;\n" ++
  "\n" ++
  "// Alias of the global Error, so a definition named `Error` cannot shadow it in controllers.\n" ++
  "export type TAPIError = Error;\n" ++
  "\n" ++
  "export type TAPIClient = \x7b\n" ++
  "\treadonly request: (request: TFullAPIRequest) => LiveData<TAPIError, mixed>;\n" ++
  "\x7d;\n" ++
  "\n" ++
  "export class ResponseValidationError extends Error \x7b\n" ++
  "\tstatic create(errors: Errors): ResponseValidationError \x7b\n" ++
  "\t\treturn new ResponseValidationError(errors);\n" ++
  "\t\x7d\n" ++
  "\n" ++
  "\tconstructor(readonly errors: Errors) \x7b\n" ++
  "\t\tsuper('ResponseValidationError');\n" ++
  "\t\tObject.setPrototypeOf(this, ResponseValidationError.prototype);\n" ++
  "\t\x7d\n" ++
  "\x7d\n"

end TypedClient.Code
