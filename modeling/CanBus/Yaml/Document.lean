import CanBus.Yaml.Event

namespace CanBus.Yaml

inductive Node
  | scalar (text : List Char) (style : Style)
  | alias (anchor : Nat)
  | sequenceStart
  | sequenceEnd
  | mappingStart
  | mappingEnd
deriving DecidableEq

structure Document where
  nodes : List Node
  anchors : List (Nat × Nat)
  /-- Whether nothing but the stream's end comes after these nodes. -/
  complete : Bool
deriving DecidableEq

abbrev AnchorNames := List (List Char × Nat)

namespace AnchorNames

def add (names : AnchorNames) (name : List Char) : AnchorNames :=
  (name, names.length) :: names.filter (·.1 != name)

end AnchorNames

namespace Document

/-- The node of an event, with its anchor's name. An alias must name an anchor that came before
it. -/
def node? (names : AnchorNames) : Event → Option (Node × Option (List Char))
  | .alias name => (names.lookup name).map fun number => (.alias number, none)
  | .scalar anchor text style => some (.scalar text style, anchor)
  | .sequenceStart anchor => some (.sequenceStart, anchor)
  | .sequenceEnd => some (.sequenceEnd, none)
  | .mappingStart anchor => some (.mappingStart, anchor)
  | .mappingEnd => some (.mappingEnd, none)
  | .documentStart | .documentEnd | .streamEnd => none

def collect (position : Nat) (names : AnchorNames) (anchors : List (Nat × Nat)) :
    List Event → Document
  | [] => ⟨[], anchors, false⟩
  | .documentEnd :: rest => ⟨[], anchors, rest == [.streamEnd]⟩
  | event :: rest =>
    match node? names event with
    | none => ⟨[], anchors, false⟩
    | some (node, none) =>
      let document := collect (position + 1) names anchors rest
      { document with nodes := node :: document.nodes }
    | some (node, some name) =>
      let document :=
        collect (position + 1) (names.add name) ((names.length, position) :: anchors) rest
      { document with nodes := node :: document.nodes }

/-- The document of a stream. A stream without documents counts as one with an empty node. -/
def ofEvents : List Event → Document
  | [.streamEnd] => ⟨[.scalar [] .plain], [], true⟩
  | .documentStart :: rest => collect 0 [] [] rest
  | _ => ⟨[], [], false⟩

def resolve (document : Document) (node : Node) : Option Node :=
  match node with
  | .alias number => (document.anchors.lookup number).bind (document.nodes[·]?)
  | node => some node

def skipFrom (depth : Nat) : List Node → Option (List Node)
  | [] => none
  | .sequenceStart :: rest | .mappingStart :: rest => skipFrom (depth + 1) rest
  | .sequenceEnd :: rest | .mappingEnd :: rest =>
    if depth ≤ 1 then some rest else skipFrom (depth - 1) rest
  | _ :: rest => if depth = 0 then some rest else skipFrom depth rest

def skipNode? (nodes : List Node) : Option (List Node) := skipFrom 0 nodes

theorem skipFrom_shorter {depth : Nat} {nodes rest : List Node}
    (h : skipFrom depth nodes = some rest) : rest.length < nodes.length := by
  fun_induction skipFrom depth nodes <;> grind

end Document

def document (text : List Char) : Document := Document.ofEvents (events text).1

end CanBus.Yaml
