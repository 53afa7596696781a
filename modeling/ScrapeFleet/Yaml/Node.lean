/-
# ScrapeFleet.Yaml.Node — from tokens to a tree

The tree of a document as its author wrote it, with anchors and aliases in place. Each function below
reads one form from the front of the tokens and returns what follows; a form that the tokens do not
have is an error. An entry without a key or without a value has an empty scalar there.
-/
import ScrapeFleet.Document.Doc
import ScrapeFleet.Yaml.Token

namespace ScrapeFleet.Yaml

/-- A part of a document. -/
inductive Node where
  | scalar (anchor : Option String) (s : Scalar)
  | sequence (anchor tag : Option String) (items : List Node)
  | mapping (anchor tag : Option String) (entries : List (Node × Node))
  | alias (name : String)
deriving Repr, Inhabited

namespace Node

/-- The node of an absent key or value. -/
def blank : Node := .scalar none ⟨"", .plain, none⟩

end Node

/-- What the handles of tags stand for. -/
abbrev TagHandles := List (String × String)

/-- The handles that need no directive. -/
def defaultHandles : TagHandles := [("!", "!"), ("!!", "tag:yaml.org,2002:")]

/-- What stands before a node's content. -/
structure Properties where
  anchor : Option String := none
  tag : Option String := none

/-- A tag in full. -/
def fullTag? (handles : TagHandles) (handle suffix : String) : Option String :=
  if handle.isEmpty then some suffix else (handles.lookup handle).map (· ++ suffix)

/-- Reads an anchor and a tag, in any order, each at most once. -/
def readProperties (handles : TagHandles) : List Token → Option (Properties × List Token)
  | .anchor a :: .tag h s :: ts => (fullTag? handles h s).map fun t => (⟨some a, some t⟩, ts)
  | .tag h s :: .anchor a :: ts => (fullTag? handles h s).map fun t => (⟨some a, some t⟩, ts)
  | .anchor a :: ts => some (⟨some a, none⟩, ts)
  | .tag h s :: ts => (fullTag? handles h s).map fun t => (⟨none, some t⟩, ts)
  | ts => some ({}, ts)

/-- The node of a scalar token. A tag that is only a mark says nothing. -/
def scalarNode (p : Properties) (text : String) (form : ScalarForm) : Node :=
  let style : ScalarStyle := match form with
    | .plain => .plain
    | .literal => .literal
    | _ => .quoted
  let tag := if p.tag == some "!" then none else p.tag
  .scalar p.anchor ⟨text, style, tag⟩

/-- The front tokens at which a block's key or value is absent. -/
def endsBlockPart : List Token → Bool
  | .key :: _ | .value :: _ | .blockEnd :: _ => true
  | _ => false

/-- The front tokens at which a block list's item is absent. -/
def endsBlockItem : List Token → Bool
  | .blockEntry :: _ | .blockEnd :: _ => true
  | _ => false

/-- The front tokens at which the item of a list that is not indented is absent. -/
def endsUnindentedItem : List Token → Bool
  | .blockEntry :: _ | .key :: _ | .value :: _ | .blockEnd :: _ => true
  | _ => false

/-- The front tokens at which a flow mapping's key is absent. -/
def endsFlowKey : List Token → Bool
  | .value :: _ | .flowEntry :: _ | .flowMappingEnd :: _ => true
  | _ => false

/-- The front tokens at which a flow mapping's value is absent. -/
def endsFlowPair : List Token → Bool
  | .flowEntry :: _ | .flowMappingEnd :: _ => true
  | _ => false

/-- The front tokens at which the value of a pair in a flow list is absent. -/
def endsFlowItem : List Token → Bool
  | .flowEntry :: _ | .flowSequenceEnd :: _ => true
  | _ => false

mutual

/-- Reads a node. Only where a `block` may stand does a block start; only under a key may a list be
`unindented`. -/
def readNode (handles : TagHandles) (block unindented : Bool) (ts : List Token) :
    Option (Node × List Token) :=
  match ts with
  | .alias name :: rest => some (.alias name, rest)
  | ts =>
    match readProperties handles ts with
    | none => none
    | some (p, body) =>
      if _h : body.length ≤ ts.length then
        match body with
        | .blockEntry :: rest =>
          if unindented then
            match readUnindented handles [] (.blockEntry :: rest) with
            | some (items, rest) => some (.sequence p.anchor p.tag items, rest)
            | none => none
          else if p.anchor.isSome || p.tag.isSome then
            some (.scalar p.anchor ⟨"", .plain, p.tag⟩, .blockEntry :: rest)
          else none
        | .scalar text form :: rest => some (scalarNode p text form, rest)
        | .flowSequenceStart :: rest =>
          match readFlowItems handles true [] rest with
          | some (items, rest) => some (.sequence p.anchor p.tag items, rest)
          | none => none
        | .flowMappingStart :: rest =>
          match readFlowPairs handles true [] rest with
          | some (entries, rest) => some (.mapping p.anchor p.tag entries, rest)
          | none => none
        | .blockSequenceStart :: rest =>
          if block then
            match readBlockItems handles [] rest with
            | some (items, rest) => some (.sequence p.anchor p.tag items, rest)
            | none => none
          else if p.anchor.isSome || p.tag.isSome then
            some (.scalar p.anchor ⟨"", .plain, p.tag⟩, body)
          else none
        | .blockMappingStart :: rest =>
          if block then
            match readBlockPairs handles [] rest with
            | some (entries, rest) => some (.mapping p.anchor p.tag entries, rest)
            | none => none
          else if p.anchor.isSome || p.tag.isSome then
            some (.scalar p.anchor ⟨"", .plain, p.tag⟩, body)
          else none
        | _ =>
          if p.anchor.isSome || p.tag.isSome then some (.scalar p.anchor ⟨"", .plain, p.tag⟩, body)
          else none
      else none
termination_by (ts.length, 1)
decreasing_by
  all_goals
    simp only [List.length_cons, Prod.lex_def] at *
    omega

/-- Reads the items of a block list up to its end; `out` are those so far, latest first. -/
def readBlockItems (handles : TagHandles) (out : List Node) (ts : List Token) :
    Option (List Node × List Token) :=
  match ts with
  | .blockEnd :: rest => some (out.reverse, rest)
  | .blockEntry :: rest =>
    if endsBlockItem rest then readBlockItems handles (.blank :: out) rest
    else
      match readNode handles true false rest with
      | none => none
      | some (n, after) =>
        if _h : after.length ≤ rest.length then readBlockItems handles (n :: out) after else none
  | _ => none
termination_by (ts.length, 0)

/-- Reads the items of a list that is not indented; it ends where no item follows. -/
def readUnindented (handles : TagHandles) (out : List Node) (ts : List Token) :
    Option (List Node × List Token) :=
  match ts with
  | .blockEntry :: rest =>
    if endsUnindentedItem rest then readUnindented handles (.blank :: out) rest
    else
      match readNode handles true false rest with
      | none => none
      | some (n, after) =>
        if _h : after.length ≤ rest.length then readUnindented handles (n :: out) after else none
  | ts => some (out.reverse, ts)
termination_by (ts.length, 0)

/-- Reads the value of a block entry, or none. -/
def readBlockValue (handles : TagHandles) (ts : List Token) : Option (Node × List Token) :=
  match ts with
  | .value :: rest =>
    if endsBlockPart rest then some (.blank, rest) else readNode handles true true rest
  | ts => some (.blank, ts)
termination_by (ts.length, 0)

/-- Reads the entries of a block mapping up to its end. -/
def readBlockPairs (handles : TagHandles) (out : List (Node × Node)) (ts : List Token) :
    Option (List (Node × Node) × List Token) :=
  match ts with
  | .blockEnd :: rest => some (out.reverse, rest)
  | .key :: rest =>
    let key : Option (Node × List Token) :=
      if endsBlockPart rest then some (.blank, rest) else readNode handles true true rest
    match key with
    | none => none
    | some (k, after) =>
      if _h : after.length ≤ rest.length then
        match readBlockValue handles after with
        | none => none
        | some (v, onward) =>
          if _h' : onward.length ≤ after.length then readBlockPairs handles ((k, v) :: out) onward
          else none
      else none
  | _ => none
termination_by (ts.length, 1)

/-- Reads the rest of a pair in a flow list, behind its key mark. -/
def readFlowItemPair (handles : TagHandles) (ts : List Token) :
    Option ((Node × Node) × List Token) :=
  let key : Option (Node × List Token) :=
    match ts with
    | .value :: rest | .flowEntry :: rest | .flowSequenceEnd :: rest => some (.blank, rest)
    | ts => readNode handles false false ts
  match key with
  | none => none
  | some (k, after) =>
    if _h : after.length ≤ ts.length then
      match after with
      | .value :: rest =>
        if endsFlowItem rest then some ((k, .blank), rest)
        else (readNode handles false false rest).map fun (v, onward) => ((k, v), onward)
      | after => some ((k, .blank), after)
    else none
termination_by (ts.length, 2)

/-- Reads the items of a flow list up to its end; a comma stands between them. -/
def readFlowItems (handles : TagHandles) (first : Bool) (out : List Node) (ts : List Token) :
    Option (List Node × List Token) :=
  match ts with
  | .flowSequenceEnd :: rest => some (out.reverse, rest)
  | ts =>
    let item : Option (List Token) :=
      if first then some ts
      else
        match ts with
        | .flowEntry :: rest => some rest
        | _ => none
    match item with
    | none => none
    | some body =>
      if _h : body.length ≤ ts.length then
        match body with
        | .flowSequenceEnd :: rest => some (out.reverse, rest)
        | .key :: rest =>
          match readFlowItemPair handles rest with
          | none => none
          | some (e, after) =>
            if _h' : after.length < ts.length then
              readFlowItems handles false (.mapping none none [e] :: out) after
            else none
        | body =>
          match readNode handles false false body with
          | none => none
          | some (n, after) =>
            if _h' : after.length < ts.length then readFlowItems handles false (n :: out) after
            else none
      else none
termination_by (ts.length, 3)
decreasing_by
  all_goals
    simp only [List.length_cons, Prod.lex_def] at *
    omega

/-- Reads the value of a flow entry, or none. -/
def readFlowValue (handles : TagHandles) (ts : List Token) : Option (Node × List Token) :=
  match ts with
  | .value :: rest =>
    if endsFlowPair rest then some (.blank, rest) else readNode handles false false rest
  | ts => some (.blank, ts)
termination_by (ts.length, 2)

/-- Reads the entries of a flow mapping up to its end; a comma stands between them. A part without a
key mark is a key without a value. -/
def readFlowPairs (handles : TagHandles) (first : Bool) (out : List (Node × Node))
    (ts : List Token) : Option (List (Node × Node) × List Token) :=
  match ts with
  | .flowMappingEnd :: rest => some (out.reverse, rest)
  | ts =>
    let entry : Option (List Token) :=
      if first then some ts
      else
        match ts with
        | .flowEntry :: rest => some rest
        | _ => none
    match entry with
    | none => none
    | some body =>
      if _h : body.length ≤ ts.length then
        match body with
        | .flowMappingEnd :: rest => some (out.reverse, rest)
        | .key :: rest =>
          let key : Option (Node × List Token) :=
            if endsFlowKey rest then some (.blank, rest) else readNode handles false false rest
          match key with
          | none => none
          | some (k, after) =>
            if _h' : after.length < ts.length then
              match readFlowValue handles after with
              | none => none
              | some (v, onward) =>
                if _h'' : onward.length ≤ after.length then
                  readFlowPairs handles false ((k, v) :: out) onward
                else none
            else none
        | body =>
          match readNode handles false false body with
          | none => none
          | some (n, after) =>
            if _h' : after.length < ts.length then
              readFlowPairs handles false ((n, .blank) :: out) after
            else none
      else none
termination_by (ts.length, 3)
decreasing_by
  all_goals
    simp only [List.length_cons, Prod.lex_def] at *
    omega

end

/-! ## Documents -/

/-- Reads the directives before a document: at most one version, 1.1 or 1.2, and handles that do not
repeat. -/
def readDirectives (version : Bool) (handles : TagHandles) :
    List Token → Option (TagHandles × List Token)
  | .version major minor :: ts =>
    if version || major != 1 || (minor != 1 && minor != 2) then none
    else readDirectives true handles ts
  | .tagDirective handle expansion :: ts =>
    if (handles.lookup handle).isSome then none
    else readDirectives version (handles ++ [(handle, expansion)]) ts
  | ts => some (handles ++ defaultHandles, ts)

/-- The tokens at which an explicit document has no content. -/
def endsDocument : List Token → Bool
  | .version _ _ :: _ | .tagDirective _ _ :: _ | .documentStart :: _ | .documentEnd :: _
  | .streamEnd :: _ => true
  | _ => false

/-- Nothing but ends of documents follows. -/
def isFinished : List Token → Bool
  | .documentEnd :: ts => isFinished ts
  | [.streamEnd] => true
  | _ => false

/-- The only document of a stream. An empty stream is an empty document. -/
def readDocument (ts : List Token) : Option Node :=
  match ts with
  | [.streamEnd] => some .blank
  | ts =>
    let start : Option (TagHandles × List Token) :=
      match ts with
      | .version _ _ :: _ | .tagDirective _ _ :: _ | .documentStart :: _ =>
        match readDirectives false [] ts with
        | some (handles, .documentStart :: rest) => some (handles, rest)
        | _ => none
      | ts => some (defaultHandles, ts)
    match start with
    | none => none
    | some (handles, body) =>
      if endsDocument body && body.length < ts.length then if isFinished body then some .blank else none
      else
        match readNode handles true false body with
        | some (n, rest) => if isFinished rest then some n else none
        | none => none

end ScrapeFleet.Yaml
