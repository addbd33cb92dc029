import TypedClient.Json
import TypedClient.Decode.Problem

set_option autoImplicit false

namespace TypedClient.Decode.Resolved

open Source (Content Number)

def text : Content → Result String
  | .text s => .ok s
  | c => wrongType (.ofContent c) "a string"

def bool : Content → Result Bool
  | .bool b => .ok b
  | c => wrongType (.ofContent c) "a boolean"

def option {α : Type} (read : Content → Result α) : Content → Result (Option α)
  | .null => .ok none
  | c => (read c).map some

def list {α : Type} (read : Content → Result α) : Content → Result (List α)
  | .sequence xs => xs.mapM read
  | c => wrongType (.ofContent c) "a sequence"

def index? : Content → Option Nat
  | .number (.integer i) => if 0 ≤ i then some i.toNat else none
  | _ => none

def variant {α : Type} (variants : List (String × α)) : Content → Result α
  | .text s =>
    match variants.lookup s with
    | some v => .ok v
    | none => fail (.unknownVariant s (variants.map Prod.fst))
  | c =>
    match index? c with
    | some i =>
      match variants[i]? with
      | some (_, v) => .ok v
      | none => fail (.wrongIndex i variants.length)
    | none => wrongType (.ofContent c) "variant identifier"

/-- The field that a key stands for, by its name or by its place; none when no field has it. -/
def fieldName (fields : List String) : Content → Result (Option String)
  | .text s => .ok (if fields.contains s then some s else none)
  | c =>
    match index? c with
    | some i => .ok fields[i]?
    | none => wrongType (.ofContent c) "field identifier"

def isText (s : String) : Content → Bool
  | .text t => s == t
  | _ => false

def takeTag {σ α : Type} (value : σ → Content) (tag : String) (variants : List (String × α)) :
    Option α → List (Content × σ) → Result (Option α × List (Content × σ))
  | found, [] => .ok (found, [])
  | found, (k, x) :: ms =>
    if isText tag k then
      match found with
      | some _ => fail (.duplicateField tag)
      | none => do
        let v ← variant variants (value x)
        takeTag value tag variants (some v) ms
    else do
      let (found, rest) ← takeTag value tag variants found ms
      return (found, (k, x) :: rest)

/-- The variant that the members name, and the members beside the tag. -/
def tagged {σ α : Type} (value : σ → Content) (tag : String) (variants : List (String × α))
    (ms : List (Content × σ)) : Result (α × List (Content × σ)) := do
  match ← takeTag value tag variants none ms with
  | (some v, rest) => return (v, rest)
  | (none, _) => fail (.missingField tag)

def known {σ : Type} (fields : List String) :
    List (Content × σ) → Result (List (String × σ))
  | [] => .ok []
  | (k, x) :: ms => do
    match ← fieldName fields k with
    | none => known fields ms
    | some f =>
      let rest ← known fields ms
      if (rest.lookup f).isSome then fail (.duplicateField f)
      return (f, x) :: rest

def positional {σ : Type} (fields : List String) (xs : List σ) : Result (List (String × σ)) :=
  if xs.length = fields.length then .ok (fields.zip xs)
  else fail (.wrongLength xs.length s!"{elements fields.length} in sequence")

mutual

def json : Content → Result Json
  | .null => .ok .null
  | .bool b => .ok (.bool b)
  | .number (.integer i) => .ok (.integer i)
  | .number (.float x) => .ok (.float x)
  | .number .unbounded => .ok .null
  | .text s => .ok (.text s)
  | .sequence xs => do return .list (← jsonItems xs)
  | .mapping ms => do return .sorted (← jsonMembers ms)

def jsonItems : List Content → Result (List Json)
  | [] => .ok []
  | x :: xs => do
    let v ← json x
    let vs ← jsonItems xs
    return v :: vs

def jsonMembers : List (Content × Content) → Result (List (String × Json))
  | [] => .ok []
  | (k, x) :: ms => do
    let k ← text k
    let v ← json x
    let es ← jsonMembers ms
    return (k, v) :: es

end

end TypedClient.Decode.Resolved
