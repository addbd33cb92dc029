import TypedClient.Source.Plain
import TypedClient.Decode.Problem
import TypedClient.OrderedMap

/-!
Readers of the tree of a document. A reader visits the parts of a node in the order of the text and
stops at the first problem.
-/

set_option autoImplicit false

namespace TypedClient.Decode

open Source (Node Scalar Content Ending Fault)

/-- Visiting nodes, the state being how many aliases may still be followed. -/
abbrev Visit (α : Type) := StateT Nat Result α

/-- How many levels may still be entered, and whether a record may be written as the sequence of its
fields. -/
structure Place where
  depth : Nat
  positional : Bool
  deriving DecidableEq, Repr

def Place.enter (p : Place) : Result Place :=
  match p.depth with
  | 0 => .error (.fault .malformed)
  | d + 1 => .ok { p with depth := d }

def Ending.check : Ending → Result Unit
  | .closed => .ok ()
  | .stopped read _ => .error (.fault read)

/-- Counts an alias that is about to be followed. -/
def follow : Visit Unit := do
  match ← get with
  | 0 => throw (.fault .malformed)
  | n + 1 => set n

mutual

def skip : Node → Result Unit
  | .scalar _ => .ok ()
  | .alias _ => .ok ()
  | .refused _ => .ok ()
  | .broken _ skipped => .error (.fault skipped)
  | .sequence _ xs e => do skipItems xs; skipEnding e
  | .mapping _ ms e => do skipMembers ms; skipEnding e

def skipItems : List Node → Result Unit
  | [] => .ok ()
  | x :: xs => do skip x; skipItems xs

def skipMembers : List (Node × Node) → Result Unit
  | [] => .ok ()
  | (k, x) :: ms => do skip k; skip x; skipMembers ms

def skipEnding : Ending → Result Unit
  | .closed => .ok ()
  | .stopped _ skipped => .error (.fault skipped)

end

mutual

def content (p : Place) : Node → Visit Content
  | .scalar s =>
    match s.content? with
    | some c => return c
    | none => fail .unresolved
  | .alias target => do
    follow
    content p target
  | .refused f => throw (.fault f)
  | .broken read _ => throw (.fault read)
  | .sequence labelled xs e => do
    if labelled then fail .unresolved
    let xs ← contents (← p.enter) xs
    Ending.check e
    return .sequence xs
  | .mapping labelled ms e => do
    if labelled then fail .unresolved
    let ms ← memberContents (← p.enter) ms
    Ending.check e
    return .mapping ms

def contents (p : Place) : List Node → Visit (List Content)
  | [] => return []
  | x :: xs => do
    let x ← content p x
    let xs ← contents p xs
    return x :: xs

def memberContents (p : Place) : List (Node × Node) → Visit (List (Content × Content))
  | [] => return []
  | (k, x) :: ms => do
    let k ← content p k
    let x ← content p x
    let ms ← memberContents p ms
    return (k, x) :: ms

end

def readScalar {α : Type} (view : Scalar → Option α) (expected : String) : Node → Visit α
  | .scalar s =>
    match view s with
    | some v => return v
    | none => wrongType (.ofScalar s) expected
  | .alias target => do
    follow
    readScalar view expected target
  | .refused f => throw (.fault f)
  | .broken read _ => throw (.fault read)
  | .sequence .. => wrongType .sequence expected
  | .mapping .. => wrongType .mapping expected

def readText : Node → Visit String := readScalar Scalar.text? "a string"

def readBool : Node → Visit Bool := readScalar Scalar.bool? "a boolean"

def readOption {α : Type} (read : Node → Visit α) : Node → Visit (Option α)
  | .scalar s =>
    match s.isPresent? with
    | some true => some <$> read (.scalar s)
    | some false => return none
    | none => fail .unresolved
  | .alias target => do
    follow
    readOption read target
  | n => some <$> read n

def readVariant {α : Type} (variants : List (String × α)) (n : Node) : Visit α := do
  let name ← readScalar Scalar.text? "variant identifier" n
  match variants.lookup name with
  | some v => return v
  | none => fail (.unknownVariant name (variants.map Prod.fst))

def enterSequence (p : Place) : Node → Visit (Place × List Node × Ending)
  | .sequence _ xs e => do return (← p.enter, xs, e)
  | .scalar s => if s.isBlank then return (p, [], .closed) else wrongType (.ofScalar s) "a sequence"
  | .alias target => do
    follow
    enterSequence p target
  | .refused f => throw (.fault f)
  | .broken read _ => throw (.fault read)
  | .mapping .. => wrongType .mapping "a sequence"

def readItems {α : Type} (read : Node → Visit α) : List Node → Visit (List α)
  | [] => return []
  | x :: xs => do
    let v ← read x
    let vs ← readItems read xs
    return v :: vs

def readList {α : Type} (read : Place → Node → Visit α) (p : Place) (n : Node) :
    Visit (List α) := do
  let (p, xs, e) ← enterSequence p n
  let vs ← readItems (read p) xs
  Ending.check e
  return vs

def enterMapping (p : Place) : Node → Visit (Place × List (Node × Node) × Ending)
  | .mapping _ ms e => do return (← p.enter, ms, e)
  | .scalar s => if s.isBlank then return (p, [], .closed) else wrongType (.ofScalar s) "a map"
  | .alias target => do
    follow
    enterMapping p target
  | .refused f => throw (.fault f)
  | .broken read _ => throw (.fault read)
  | .sequence .. => wrongType .sequence "a map"

def readEntries {α : Type} (read : Node → Visit α) :
    List (Node × Node) → Visit (List (String × α))
  | [] => return []
  | (k, x) :: ms => do
    let k ← readText k
    let v ← read x
    let es ← readEntries read ms
    return (k, v) :: es

/-- A key that comes again gives its value to the place where it came first. -/
def readMap {α : Type} (read : Place → Node → Visit α) (p : Place) (n : Node) :
    Visit (OrderedMap α) := do
  let (p, ms, e) ← enterMapping p n
  let es ← readEntries (read p) ms
  Ending.check e
  return OrderedMap.ofList es

/-- How a record of type `α` is read: its fields in order, each with whether a sequence may end
before it; a draft `δ` that takes one field at a time; and what makes the record of the draft. -/
structure Record (δ α : Type) where
  name : String
  fields : List (String × Bool)
  start : δ
  step : Place → δ → String → Node → Visit δ
  finish : δ → Result α

def once {m : Type → Type} [Monad m] [MonadLiftT Result m] {α : Type} (name : String)
    (slot : Option α) (read : m α) : m (Option α) :=
  if slot.isSome then fail (.duplicateField name) else some <$> read

def need {α : Type} (name : String) (slot : Option α) : Result α :=
  match slot with
  | some v => .ok v
  | none => fail (.missingField name)

namespace Record

variable {δ α : Type}

def expected (r : Record δ α) : String := "struct " ++ r.name

def ofMembers (r : Record δ α) (p : Place) : δ → List (Node × Node) → Visit δ
  | d, [] => return d
  | d, (k, x) :: ms => do
    let k ← readText k
    let d ← r.step p d k x
    r.ofMembers p d ms

/-- Gives the items to the fields in turn; answers also the items that no field took. -/
def ofItems (r : Record δ α) (p : Place) (e : Ending) :
    List (String × Bool) → Nat → δ → List Node → Visit (δ × List Node)
  | [], _, d, xs => return (d, xs)
  | (_, optional) :: fs, i, d, [] => do
    Ending.check e
    if optional then r.ofItems p e fs (i + 1) d []
    else fail (.wrongLength i s!"{r.expected} with {elements r.fields.length}")
  | (f, _) :: fs, i, d, x :: xs => do
    let d ← r.step p d f x
    r.ofItems p e fs (i + 1) d xs

def read (r : Record δ α) (p : Place) : Node → Visit α
  | .mapping _ ms e => do
    let d ← r.ofMembers (← p.enter) r.start ms
    Ending.check e
    r.finish d
  | .sequence _ xs e =>
    if p.positional then do
      let (d, left) ← r.ofItems (← p.enter) e r.fields 0 r.start xs
      let v ← r.finish d
      if left.isEmpty then Ending.check e else throw (.fault .malformed)
      return v
    else wrongType .sequence r.expected
  | .scalar s => if s.isBlank then r.finish r.start else wrongType (.ofScalar s) r.expected
  | .alias target => do
    follow
    r.read p target
  | .refused f => throw (.fault f)
  | .broken read _ => throw (.fault read)

end Record

end TypedClient.Decode
