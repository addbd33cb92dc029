import TypedClient.OrderedMap
import TypedClient.Source.Yaml.Token

set_option autoImplicit false

namespace TypedClient.Source.Yaml

/-- Anchors go by numbers: how many names were in use when the anchor was met. -/
inductive Tree where
  | alias (anchor : Nat)
  | scalar (anchor : Option Nat) (style : Style) (tag : Option Tag) (text : String)
  | sequence (anchor : Option Nat) (tag : Option Tag) (items : List Tree)
  | mapping (anchor : Option Nat) (tag : Option Tag) (members : List (Tree × Tree))

def Tree.blank : Tree := .scalar none .plain none ""

abbrev Handles := List (String × Address)

def defaultHandles : Handles := [("!", bareTag.suffix), ("!!", Tag.core.bytes)]

def isSupported (major minor : Nat) : Bool := major == 1 && (minor == 1 || minor == 2)

def declared? : Bool → Handles → List Directive → Option Handles
  | _, handles, [] => some handles
  | versioned, handles, .version major minor :: ds =>
    if versioned || !isSupported major minor then none else declared? true handles ds
  | versioned, handles, .tag handle expansion :: ds =>
    if (handles.lookup handle).isSome then none
    else declared? versioned (handles ++ [(handle, expansion)]) ds

def TagName.resolve? (handles : Handles) (t : TagName) : Option Tag :=
  if t.handle.isEmpty then some ⟨t.suffix.ended⟩
  else (handles.lookup t.handle).map fun a => ⟨a.ended ++ t.suffix.ended⟩

structure BuildState where
  tokens : List Token
  anchors : List (String × Nat)

abbrev Build := StateT BuildState Option

def peek : Build (Option Token) := do return (← get).tokens.head?

def skip : Build Unit := modify fun s => { s with tokens := s.tokens.drop 1 }

def register : Option String → Build (Option Nat)
  | none => return none
  | some name => do
    let s ← get
    let id := s.anchors.length
    set { s with anchors := Entries.put name id s.anchors }
    return some id

def aliased (name : String) : Build Tree := do
  match Entries.get? name (← get).anchors with
  | some id => return .alias id
  | none => failure

def anchorName : Build (Option String) := do
  match ← peek with
  | some (.anchor name) => skip; return some name
  | _ => return none

def tagName : Build (Option TagName) := do
  match ← peek with
  | some (.tag t) => skip; return some t
  | _ => return none

def properties : Build (Option String × Option TagName) := do
  match ← anchorName with
  | some name => return (some name, ← tagName)
  | none =>
    match ← tagName with
    | some t => return (← anchorName, some t)
    | none => return (none, none)

def resolveTag (handles : Handles) : Option TagName → Build (Option Tag)
  | none => return none
  | some t => do
    match t.resolve? handles with
    | some tag => return some tag
    | none => failure

def leavesBlank (marks : List Token) : Build Bool := do
  match ← peek with
  | some t => return marks.contains t
  | none => return false

mutual

/-- A node. `block` admits block collections, `indentless` sequences that are not indented. -/
def node (handles : Handles) : Nat → Bool → Bool → Build Tree
  | 0, _, _ => failure
  | fuel + 1, block, indentless => do
    match ← peek with
    | some (.alias name) => skip; aliased name
    | _ =>
      let (name, t) ← properties
      let tag ← resolveTag handles t
      match ← peek, block, indentless with
      | some .blockEntry, _, true =>
        let anchor ← register name
        return .sequence anchor tag (← indentlessItems handles fuel)
      | some (.scalar style text), _, _ =>
        skip
        return .scalar (← register name) style tag text
      | some .flowSequenceStart, _, _ =>
        skip
        let anchor ← register name
        return .sequence anchor tag (← flowItems handles fuel true)
      | some .flowMappingStart, _, _ =>
        skip
        let anchor ← register name
        return .mapping anchor tag (← flowMembers handles fuel true)
      | some .blockSequenceStart, true, _ =>
        skip
        let anchor ← register name
        return .sequence anchor tag (← blockItems handles fuel)
      | some .blockMappingStart, true, _ =>
        skip
        let anchor ← register name
        return .mapping anchor tag (← blockMembers handles fuel)
      | _, _, _ =>
        if name.isNone && tag.isNone then failure
        else return .scalar (← register name) .plain tag ""

def blockItems (handles : Handles) : Nat → Build (List Tree)
  | 0 => failure
  | fuel + 1 => do
    match ← peek with
    | some .blockEntry =>
      skip
      let x ← if ← leavesBlank [.blockEntry, .blockEnd] then pure .blank
        else node handles fuel true false
      return x :: (← blockItems handles fuel)
    | some .blockEnd => skip; return []
    | _ => failure

def indentlessItems (handles : Handles) : Nat → Build (List Tree)
  | 0 => failure
  | fuel + 1 => do
    match ← peek with
    | some .blockEntry =>
      skip
      let x ← if ← leavesBlank [.blockEntry, .key, .value, .blockEnd] then pure .blank
        else node handles fuel true false
      return x :: (← indentlessItems handles fuel)
    | _ => return []

def blockMembers (handles : Handles) : Nat → Build (List (Tree × Tree))
  | 0 => failure
  | fuel + 1 => do
    match ← peek with
    | some .key =>
      skip
      let k ← blockPart handles fuel
      let x ← blockValue handles fuel
      return (k, x) :: (← blockMembers handles fuel)
    | some .blockEnd => skip; return []
    | _ => failure

def blockPart (handles : Handles) : Nat → Build Tree
  | 0 => failure
  | fuel + 1 => do
    if ← leavesBlank [.key, .value, .blockEnd] then return .blank
    else node handles fuel true true

def blockValue (handles : Handles) : Nat → Build Tree
  | 0 => failure
  | fuel + 1 => do
    match ← peek with
    | some .value => skip; blockPart handles fuel
    | _ => return .blank

def flowItems (handles : Handles) : Nat → Bool → Build (List Tree)
  | 0, _ => failure
  | fuel + 1, first => do
    match ← peek, first with
    | some .flowSequenceEnd, _ => skip; return []
    | some .flowEntry, false =>
      skip
      match ← peek with
      | some .flowSequenceEnd => skip; return []
      | _ => flowItem handles fuel
    | _, true => flowItem handles fuel
    | _, false => failure

def flowItem (handles : Handles) : Nat → Build (List Tree)
  | 0 => failure
  | fuel + 1 => do
    match ← peek with
    | some .key =>
      skip
      let pair ← flowPair handles fuel
      return .mapping none none [pair] :: (← flowItems handles fuel false)
    | _ =>
      let x ← node handles fuel false false
      return x :: (← flowItems handles fuel false)

/-- A single member among the items of a sequence. Where its key is left out, one more token goes
with it. -/
def flowPair (handles : Handles) : Nat → Build (Tree × Tree)
  | 0 => failure
  | fuel + 1 => do
    let k ← if ← leavesBlank [.value, .flowEntry, .flowSequenceEnd] then do skip; pure .blank
      else node handles fuel false false
    match ← peek with
    | some .value =>
      skip
      if ← leavesBlank [.flowEntry, .flowSequenceEnd] then return (k, .blank)
      else return (k, ← node handles fuel false false)
    | _ => return (k, .blank)

def flowMembers (handles : Handles) : Nat → Bool → Build (List (Tree × Tree))
  | 0, _ => failure
  | fuel + 1, first => do
    match ← peek, first with
    | some .flowMappingEnd, _ => skip; return []
    | some .flowEntry, false =>
      skip
      match ← peek with
      | some .flowMappingEnd => skip; return []
      | _ => flowMember handles fuel
    | _, true => flowMember handles fuel
    | _, false => failure

def flowMember (handles : Handles) : Nat → Build (List (Tree × Tree))
  | 0 => failure
  | fuel + 1 => do
    match ← peek with
    | some .key =>
      skip
      let k ← if ← leavesBlank [.value, .flowEntry, .flowMappingEnd] then pure .blank
        else node handles fuel false false
      let x ← flowValue handles fuel
      return (k, x) :: (← flowMembers handles fuel false)
    | _ =>
      let k ← node handles fuel false false
      return (k, .blank) :: (← flowMembers handles fuel false)

def flowValue (handles : Handles) : Nat → Build Tree
  | 0 => failure
  | fuel + 1 => do
    match ← peek with
    | some .value =>
      skip
      if ← leavesBlank [.flowEntry, .flowMappingEnd] then return .blank
      else node handles fuel false false
    | _ => return .blank

end

def directives : List Token → List Directive × List Token
  | .directive d :: ts =>
    let (ds, rest) := directives ts
    (d :: ds, rest)
  | ts => ([], ts)

def isVacant : List Token → Bool
  | [] => true
  | .directive _ :: _ => true
  | .documentStart :: _ => true
  | .documentEnd :: _ => true
  | _ => false

def treeWith? (handles : Handles) (ts : List Token) : Option Tree := do
  let (t, s) ← (node handles (4 * ts.length + 4) true false).run ⟨ts, []⟩
  if s.tokens.all (· == .documentEnd) then some t else none

/-- The tree of the only document of a text; `none` inside for a text without one. -/
def Tree.ofTokens? (ts : List Token) : Option (Option Tree) :=
  match ts with
  | [] => some none
  | _ =>
    match directives ts with
    | (ds, .documentStart :: rest) => do
      let declared ← declared? false [] ds
      let handles := declared ++ defaultHandles
      if isVacant rest then
        if rest.all (· == .documentEnd) then some (some .blank) else none
      else some (← treeWith? handles rest)
    | ([], ts) => (treeWith? defaultHandles ts).map some
    | _ => none

end TypedClient.Source.Yaml
