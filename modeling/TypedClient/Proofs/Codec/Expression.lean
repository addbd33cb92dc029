import TypedClient.Code.Fragment

set_option autoImplicit false

namespace TypedClient.Code

inductive StaticType where
  | string
  | boolean
  | number
  | unknown
  | date
  | named (name : String)
  | literal (text : String)
  | union (members : List StaticType)
  | array (item : StaticType)
  | map (value : StaticType)
  | record (fields : List (String × StaticType))
  | option (value : StaticType)

inductive Codec where
  | string
  | boolean
  | number
  | unknown
  | date
  | reference (name : String)
  | literal (text : String)
  | union (members : List Codec)
  | array (item : Codec)
  | dictionary (value : Codec)
  | record (fields : List (String × Codec))
  | option (value : Codec)
  | recursion (root : String) (body : Codec)

def braced (fields : List String) (separator : String) : String :=
  match fields with
  | [] => "\x7b\x7d"
  | fs => "\x7b " ++ separator.intercalate fs ++ " \x7d"

def call (function argument : String) : String := function ++ "(" ++ argument ++ ")"

def applied (type argument : String) : String := type ++ "<" ++ argument ++ ">"

def labelled (key value : String) : String := Text.Quoted.key key ++ ": " ++ value

namespace StaticType

mutual

def text : StaticType → String
  | .string => "string"
  | .boolean => "boolean"
  | .number => "number"
  | .unknown => "unknown"
  | .date => "Date"
  | .named name => name
  | .literal v => Text.Quoted.quote v
  | .union ts => " | ".intercalate (texts ts)
  | .array t => applied "Array" (text t)
  | .map t => braced ["[key: string]: " ++ text t] "; "
  | .record fs => braced (fieldTexts fs) "; "
  | .option t => applied "Option" (text t)

def texts : List StaticType → List String
  | [] => []
  | t :: ts => text t :: texts ts

def fieldTexts : List (String × StaticType) → List String
  | [] => []
  | (key, t) :: fs => labelled key (text t) :: fieldTexts fs

end

end StaticType

namespace Codec

mutual

/-- The type of the values that a codec gives. -/
def static : Codec → StaticType
  | .string => .string
  | .boolean => .boolean
  | .number => .number
  | .unknown => .unknown
  | .date => .date
  | .reference name => .named name
  | .literal v => .literal v
  | .union cs => .union (statics cs)
  | .array c => .array (static c)
  | .dictionary c => .map (static c)
  | .record fs => .record (staticFields fs)
  | .option c => .option (static c)
  | .recursion _ c => static c

def statics : List Codec → List StaticType
  | [] => []
  | c :: cs => static c :: statics cs

def staticFields : List (String × Codec) → List (String × StaticType)
  | [] => []
  | (key, c) :: fs => (key, static c) :: staticFields fs

end

mutual

def text : Codec → String
  | .string => "t.string"
  | .boolean => "t.boolean"
  | .number => "t.number"
  | .unknown => "t.unknown"
  | .date => "DateFromISOString"
  | .reference name => codecName name
  | .literal v => call "t.literal" (Text.Quoted.quote v)
  | .union cs => call "t.union" ("[" ++ ", ".intercalate (texts cs) ++ "]")
  | .array c => call "t.array" (text c)
  | .dictionary c => call "t.dictionary" ("t.string, " ++ text c)
  | .record fs => call "t.type" (braced (fieldTexts fs) ", ")
  | .option c => call "createOptionFromNullable" (text c)
  | .recursion root c =>
    call (applied "t.recursion" root)
      ("'" ++ codecName root ++ "', " ++ codecName root ++ " => " ++ text c)

def texts : List Codec → List String
  | [] => []
  | c :: cs => text c :: texts cs

def fieldTexts : List (String × Codec) → List String
  | [] => []
  | (key, c) :: fs => labelled key (text c) :: fieldTexts fs

end

mutual

/-- An expression and all that it is made of, the parts of a thing before the thing. -/
def parts : Codec → List Codec
  | .union cs => memberParts cs ++ [.union cs]
  | .array c => parts c ++ [.array c]
  | .dictionary c => parts c ++ [.dictionary c]
  | .record fs => fieldParts fs ++ [.record fs]
  | .option c => parts c ++ [.option c]
  | .recursion root c => parts c ++ [.recursion root c]
  | c => [c]

def memberParts : List Codec → List Codec
  | [] => []
  | c :: cs => parts c ++ memberParts cs

def fieldParts : List (String × Codec) → List Codec
  | [] => []
  | (_, c) :: fs => parts c ++ fieldParts fs

end

def collect {α : Type} (own : Codec → List α) (c : Codec) : List α := c.parts.flatMap own

def ownNames : Codec → List String
  | .reference name => [name]
  | _ => []

def ownRecursions : Codec → List String
  | .recursion root _ => [root]
  | _ => []

def ownImports (s : String → List Import) : Codec → List Import
  | .date => [⟨"DateFromISOString", "io-ts-types"⟩]
  | .reference name => s name
  | .option _ => Import.option
  | _ => []

def names : Codec → List String := collect ownNames

/-- The names to which the recursions in an expression tie it. -/
def recursions : Codec → List String := collect ownRecursions

def imports (s : String → List Import) : Codec → List Import := collect (ownImports s)

theorem statics_eq (cs : List Codec) : statics cs = cs.map static := by
  induction cs with
  | nil => rfl
  | cons c cs ih => rw [statics, ih, List.map_cons]

theorem staticFields_eq (fs : List (String × Codec)) :
    staticFields fs = fs.map fun f => (f.1, f.2.static) := by
  induction fs with
  | nil => rfl
  | cons f fs ih => rw [staticFields, ih, List.map_cons]

theorem texts_eq (cs : List Codec) : texts cs = cs.map text := by
  induction cs with
  | nil => rfl
  | cons c cs ih => rw [texts, ih, List.map_cons]

theorem fieldTexts_eq (fs : List (String × Codec)) :
    fieldTexts fs = fs.map fun f => labelled f.1 f.2.text := by
  induction fs with
  | nil => rfl
  | cons f fs ih => rw [fieldTexts, ih, List.map_cons]

theorem memberParts_eq (cs : List Codec) : memberParts cs = cs.flatMap parts := by
  induction cs with
  | nil => rfl
  | cons c cs ih => rw [memberParts, ih, List.flatMap_cons]

theorem fieldParts_eq (fs : List (String × Codec)) :
    fieldParts fs = fs.flatMap fun f => f.2.parts := by
  induction fs with
  | nil => rfl
  | cons f fs ih => rw [fieldParts, ih, List.flatMap_cons]

section Collect

variable {α : Type} (own : Codec → List α)

theorem collect_union (cs : List Codec) :
    (union cs).collect own = cs.flatMap (collect own) ++ own (.union cs) := by
  simp only [collect, parts, memberParts_eq, List.flatMap_append, List.flatMap_assoc,
    List.flatMap_singleton]
  rfl

theorem collect_array (c : Codec) :
    (array c).collect own = c.collect own ++ own (.array c) := by
  simp [collect, parts]

theorem collect_dictionary (c : Codec) :
    (dictionary c).collect own = c.collect own ++ own (.dictionary c) := by
  simp [collect, parts]

theorem collect_record (fs : List (String × Codec)) :
    (record fs).collect own = (fs.flatMap fun f => f.2.collect own) ++ own (.record fs) := by
  simp [collect, parts, fieldParts_eq, List.flatMap_assoc]

theorem collect_option (c : Codec) :
    (option c).collect own = c.collect own ++ own (.option c) := by
  simp [collect, parts]

theorem collect_recursion (root : String) (c : Codec) :
    (recursion root c).collect own = c.collect own ++ own (.recursion root c) := by
  simp [collect, parts]

end Collect

end Codec

namespace StaticType

theorem texts_eq (ts : List StaticType) : texts ts = ts.map text := by
  induction ts with
  | nil => rfl
  | cons t ts ih => rw [texts, ih, List.map_cons]

theorem fieldTexts_eq (fs : List (String × StaticType)) :
    fieldTexts fs = fs.map fun f => labelled f.1 f.2.text := by
  induction fs with
  | nil => rfl
  | cons f fs ih => rw [fieldTexts, ih, List.map_cons]

end StaticType

end TypedClient.Code
