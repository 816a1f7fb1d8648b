import CanBus.Config.Field
import CanBus.Yaml.Document
import CanBus.Yaml.Number

namespace CanBus.Config

open Yaml (Node Document)

/-- The value that a node gives a field. Any scalar is text, only plain ones are numbers. -/
def yamlPlain? (field : Field) : Node → Option Plain
  | .scalar text style =>
    match field.kind with
    | .text => some (.text (String.ofList text))
    | .signed => if style = .plain then (Yaml.signed? text).map .number else none
    | .unsigned => if style = .plain then (Yaml.unsigned? text).map .number else none
  | _ => none

def yamlKey? (document : Document) (node : Node) : Option (List Char) :=
  match document.resolve node with
  | some (.scalar text _) => some text
  | _ => none

def yamlValue? (document : Document) (draft : Draft) (field : Option Field) (nodes : List Node) :
    Option (Draft × List Node) :=
  match field, nodes with
  | some field, node :: rest =>
    (((document.resolve node).bind (yamlPlain? field)).bind (draft.put? field)).map (·, rest)
  | some _, [] => none
  | none, nodes => (Document.skipNode? nodes).map (draft, ·)

theorem yamlValue?_shorter {document : Document} {draft draft' : Draft} {field : Option Field}
    {nodes rest : List Node} (h : yamlValue? document draft field nodes = some (draft', rest)) :
    rest.length < nodes.length := by
  unfold yamlValue? at h
  split at h
  · rename_i field node more
    cases found : ((document.resolve node).bind (yamlPlain? field)).bind (draft.put? field) with
    | none => simp [found] at h
    | some after =>
      simp [found] at h
      grind
  · simp at h
  · simp only [Option.map_eq_some_iff, Prod.mk.injEq] at h
    obtain ⟨after, found, _, rfl⟩ := h
    exact Document.skipFrom_shorter found

def endingDocument (document : Document) (result : Except ReadError Config) :
    Except ReadError Config :=
  match result with
  | .error error => .error error
  | .ok config => if document.complete then .ok config else .error .malformed

def ofYamlMembers (document : Document) (draft : Draft) (nodes : List Node) :
    Except ReadError Config :=
  match nodes with
  | [] => .error .malformed
  | .mappingEnd :: _ => endingDocument document draft.finish
  | node :: rest =>
    match yamlKey? document node with
    | none => .error .malformed
    | some key =>
      let field := Field.ofName? (String.ofList key)
      match field.filter draft.has with
      | some field => .error (.duplicate field)
      | none =>
        match found : yamlValue? document draft field rest with
        | none => .error .malformed
        | some (draft, rest) =>
          have := yamlValue?_shorter found
          ofYamlMembers document draft rest
termination_by nodes.length
decreasing_by simp_all; omega

def ofDocument (document : Document) : Except ReadError Config :=
  match document.nodes with
  | .mappingStart :: rest => ofYamlMembers document Draft.empty rest
  | [.scalar [] .plain] => endingDocument document Draft.empty.finish
  | _ => .error .malformed

def ofYaml (text : List Char) : Except ReadError Config := ofDocument (Yaml.document text)

end CanBus.Config
