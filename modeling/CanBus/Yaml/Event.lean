import CanBus.Yaml.Scanner

namespace CanBus.Yaml

inductive Event
  | documentStart
  | documentEnd
  | streamEnd
  | alias (name : List Char)
  | scalar (anchor : Option (List Char)) (text : List Char) (style : Style)
  | sequenceStart (anchor : Option (List Char))
  | sequenceEnd
  | mappingStart (anchor : Option (List Char))
  | mappingEnd
deriving DecidableEq

def Event.nothing : Event := .scalar none [] .plain

inductive Place
  | firstDocument
  | laterDocument
  | content
  | blockNode
  | documentEnd
  | sequenceFirst
  | sequenceItem
  | bareItem
  | mappingFirst
  | mappingKey
  | mappingValue
  | flowSequenceFirst
  | flowSequenceItem
  | pairKey
  | pairValue
  | pairEnd
  | flowMappingFirst
  | flowMappingKey
  | flowMappingValue
  | flowMappingNoValue
deriving DecidableEq

structure Reader where
  tokens : List Token
  place : Place
  later : List Place
deriving DecidableEq

namespace Reader

def start (tokens : List Token) : Reader := ⟨tokens, .firstDocument, []⟩

def skip (r : Reader) : Reader := { r with tokens := r.tokens.drop 1 }

def go (place : Place) (r : Reader) : Reader := { r with place := place }

def enter (back : Place) (r : Reader) : Reader := { r with later := back :: r.later }

def leave (r : Reader) : Reader :=
  match r.later with
  | [] => r
  | place :: later => { r with place := place, later := later }

/-- The node that begins here. Block collections may begin only in a block; where `bare` is set a
sequence may stand without indentation of its own. -/
def node? (block bare : Bool) (r : Reader) : Option (Event × Reader) :=
  match r.tokens with
  | .alias name :: _ => some (.alias name, r.skip.leave)
  | .anchor name :: _ => content (some name) r.skip
  | _ => content none r
where
  content (anchor : Option (List Char)) (r : Reader) : Option (Event × Reader) :=
    match r.tokens with
    | [] => none
    | .scalar text style :: _ => some (.scalar anchor text style, r.skip.leave)
    | .flowSequenceStart :: _ => some (.sequenceStart anchor, r.go .flowSequenceFirst)
    | .flowMappingStart :: _ => some (.mappingStart anchor, r.go .flowMappingFirst)
    | .blockEntry :: _ =>
      if bare then some (.sequenceStart anchor, r.go .bareItem) else missing anchor r
    | .blockSequenceStart :: _ =>
      if block then some (.sequenceStart anchor, r.go .sequenceFirst) else missing anchor r
    | .blockMappingStart :: _ =>
      if block then some (.mappingStart anchor, r.go .mappingFirst) else missing anchor r
    | _ => missing anchor r
  /-- Only an anchor may stand without a node of its own. -/
  missing (anchor : Option (List Char)) (r : Reader) : Option (Event × Reader) :=
    match anchor with
    | some _ => some (.scalar anchor [] .plain, r.leave)
    | none => none

def optional? (stops : Token → Bool) (block bare : Bool) (here back : Place) (r : Reader) :
    Option (Event × Reader) :=
  match r.tokens with
  | [] => none
  | token :: _ =>
    if stops token then some (.nothing, r.go here) else (r.enter back).node? block bare

def isBlockStop (token : Token) : Bool :=
  token == .key || token == .value || token == .blockEnd

def document? (first : Bool) (r : Reader) : Option (Event × Reader) :=
  let r := if first then r else { r with tokens := r.tokens.dropWhile (· == .documentEnd) }
  match r.tokens with
  | [] => none
  | .streamEnd :: _ => some (.streamEnd, r.skip)
  | .documentStart :: _ => some (.documentStart, (r.skip.enter .documentEnd).go .content)
  | _ =>
    if first then some (.documentStart, (r.enter .documentEnd).go .blockNode) else none

def sequenceItem? (r : Reader) : Option (Event × Reader) :=
  match r.tokens with
  | .blockEntry :: _ =>
    r.skip.optional? (fun token => token == .blockEntry || token == .blockEnd) true false
      .sequenceItem .sequenceItem
  | .blockEnd :: _ => some (.sequenceEnd, r.skip.leave)
  | _ => none

def bareItem? (r : Reader) : Option (Event × Reader) :=
  match r.tokens with
  | [] => none
  | .blockEntry :: _ =>
    r.skip.optional? (fun token => token == .blockEntry || isBlockStop token) true false
      .bareItem .bareItem
  | _ => some (.sequenceEnd, r.leave)

def mappingKey? (r : Reader) : Option (Event × Reader) :=
  match r.tokens with
  | .key :: _ => r.skip.optional? isBlockStop true true .mappingValue .mappingValue
  | .blockEnd :: _ => some (.mappingEnd, r.skip.leave)
  | _ => none

def mappingValue? (r : Reader) : Option (Event × Reader) :=
  match r.tokens with
  | [] => none
  | .value :: _ => r.skip.optional? isBlockStop true true .mappingKey .mappingKey
  | _ => some (.nothing, r.go .mappingKey)

def comma? (first : Bool) (r : Reader) : Option Reader :=
  if first then some r
  else match r.tokens with
    | .flowEntry :: _ => some r.skip
    | _ => none

def flowSequenceItem? (first : Bool) (r : Reader) : Option (Event × Reader) :=
  match r.tokens with
  | [] => none
  | .flowSequenceEnd :: _ => some (.sequenceEnd, r.skip.leave)
  | _ =>
    (r.comma? first).bind fun r =>
      match r.tokens with
      | [] => none
      | .key :: _ => some (.mappingStart none, r.skip.go .pairKey)
      | .flowSequenceEnd :: _ => some (.sequenceEnd, r.skip.leave)
      | _ => (r.enter .flowSequenceItem).node? false false

/-- The key of a pair inside a sequence. If it is left out, the token after it is passed over. -/
def pairKey? (r : Reader) : Option (Event × Reader) :=
  match r.tokens with
  | [] => none
  | .value :: _ | .flowEntry :: _ | .flowSequenceEnd :: _ => some (.nothing, r.skip.go .pairValue)
  | _ => (r.enter .pairValue).node? false false

def pairValue? (r : Reader) : Option (Event × Reader) :=
  match r.tokens with
  | [] => none
  | .value :: _ =>
    r.skip.optional? (fun token => token == .flowEntry || token == .flowSequenceEnd) false false
      .pairEnd .pairEnd
  | _ => some (.nothing, r.go .pairEnd)

def isFlowMappingStop (token : Token) : Bool :=
  token == .flowEntry || token == .flowMappingEnd

def flowMappingKey? (first : Bool) (r : Reader) : Option (Event × Reader) :=
  match r.tokens with
  | [] => none
  | .flowMappingEnd :: _ => some (.mappingEnd, r.skip.leave)
  | _ =>
    (r.comma? first).bind fun r =>
      match r.tokens with
      | [] => none
      | .key :: _ =>
        r.skip.optional? (fun token => token == .value || isFlowMappingStop token) false false
          .flowMappingValue .flowMappingValue
      | .flowMappingEnd :: _ => some (.mappingEnd, r.skip.leave)
      | _ => (r.enter .flowMappingNoValue).node? false false

def flowMappingValue? (r : Reader) : Option (Event × Reader) :=
  match r.tokens with
  | [] => none
  | .value :: _ =>
    r.skip.optional? isFlowMappingStop false false .flowMappingKey .flowMappingKey
  | _ => some (.nothing, r.go .flowMappingKey)

def next? (r : Reader) : Option (Event × Reader) :=
  match r.place with
  | .firstDocument => r.document? true
  | .laterDocument => r.document? false
  | .content =>
    match r.tokens with
    | [] => none
    | .documentStart :: _ | .documentEnd :: _ | .streamEnd :: _ => some (.nothing, r.leave)
    | _ => r.node? true false
  | .blockNode => r.node? true false
  | .documentEnd =>
    match r.tokens with
    | [] => none
    | .documentEnd :: _ => some (.documentEnd, r.skip.go .laterDocument)
    | _ => some (.documentEnd, r.go .laterDocument)
  | .sequenceFirst => r.skip.sequenceItem?
  | .sequenceItem => r.sequenceItem?
  | .bareItem => r.bareItem?
  | .mappingFirst => r.skip.mappingKey?
  | .mappingKey => r.mappingKey?
  | .mappingValue => r.mappingValue?
  | .flowSequenceFirst => r.skip.flowSequenceItem? true
  | .flowSequenceItem => r.flowSequenceItem? false
  | .pairKey => r.pairKey?
  | .pairValue => r.pairValue?
  | .pairEnd => if r.tokens.isEmpty then none else some (.mappingEnd, r.go .flowSequenceItem)
  | .flowMappingFirst => r.skip.flowMappingKey? true
  | .flowMappingKey => r.flowMappingKey? false
  | .flowMappingValue => r.flowMappingValue?
  | .flowMappingNoValue =>
    if r.tokens.isEmpty then none else some (.nothing, r.go .flowMappingKey)

def run : (steps : Nat) → Reader → List Event × Bool
  | 0, _ => ([], false)
  | steps + 1, r =>
    match r.next? with
    | none => ([], false)
    | some (.streamEnd, _) => ([.streamEnd], true)
    | some (event, r) =>
      let (events, complete) := run steps r
      (event :: events, complete)

end Reader

/-- The events of a text, and whether they go up to its end. A token stands for at most a few
events, so the bound on their number is never reached. -/
def events (text : List Char) : List Event × Bool :=
  let found := (tokens text).1
  Reader.run (8 * (found.length + 2)) (Reader.start found)

end CanBus.Yaml
