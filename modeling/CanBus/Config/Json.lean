import CanBus.Config.Field
import CanBus.Json.Skip

namespace CanBus.Config

open Json (Lexeme)

def jsonMember (field : Field) (value : List Char) : List Char :=
  Json.quote field.name.toList ++ [':'] ++ value

def toJson (c : Config) : String :=
  String.ofList (['\x7b']
    ++ jsonMember .interface (Json.quote c.interface.toList) ++ [',']
    ++ jsonMember .protocol (Text.signedDecimal c.protocol.toInt) ++ [',']
    ++ jsonMember .filterMask (Text.signedDecimal c.filterMask.toNat) ++ [',']
    ++ jsonMember .senderId (Text.signedDecimal c.senderId.toNat) ++ [',']
    ++ jsonMember .waitTimeout (Text.signedDecimal c.waitTimeoutMillis.toNat) ++ [',']
    ++ jsonMember .batchDelay (Text.signedDecimal c.batchDelayMillis.toNat)
    ++ ['\x7d'])

def jsonPlain? : Lexeme → Option Plain
  | .text s => some (.text (String.ofList s))
  | .integer n => some (.number n)
  | _ => none

def jsonValue? (draft : Draft) (field : Field) : List Lexeme → Option (Draft × List Lexeme)
  | [] => none
  | lexeme :: rest => ((jsonPlain? lexeme).bind (draft.put? field)).map (·, rest)

def jsonMember? (draft : Draft) (field : Option Field) :
    List Lexeme → Except ReadError (Draft × List Lexeme)
  | .colon :: rest =>
    let after :=
      match field with
      | some field => jsonValue? draft field rest
      | none => (Json.skipValue? rest).map (draft, ·)
    match after with
    | some after => .ok after
    | none => .error .malformed
  | _ => .error .malformed

theorem jsonMember?_shorter {draft draft' : Draft} {field : Option Field}
    {lexemes rest : List Lexeme} (h : jsonMember? draft field lexemes = .ok (draft', rest)) :
    rest.length < lexemes.length := by
  unfold jsonMember? at h
  split at h
  · rename_i more
    cases field with
    | none =>
      cases found : Json.skipValue? more with
      | none => simp [found] at h
      | some after =>
        have := Json.skipFrom_shorter found
        simp [found] at h
        grind
    | some field =>
      cases more with
      | nil => simp [jsonValue?] at h
      | cons lexeme more =>
        cases found : (jsonPlain? lexeme).bind (draft.put? field) with
        | none => simp [jsonValue?, found] at h
        | some after =>
          simp [jsonValue?, found] at h
          grind
  · simp at h

def endingHere (result : Except ReadError Config) (rest : List Lexeme) : Except ReadError Config :=
  match result with
  | .error error => .error error
  | .ok config => if rest.isEmpty then .ok config else .error .malformed

/-- Reads members from a key on. A known key is refused as soon as it is met again. -/
def ofJsonMembers (draft : Draft) (lexemes : List Lexeme) : Except ReadError Config :=
  match lexemes with
  | .text key :: rest =>
    let field := Field.ofName? (String.ofList key)
    match field.filter draft.has with
    | some field => .error (.duplicate field)
    | none =>
      match found : jsonMember? draft field rest with
      | .error error => .error error
      | .ok (draft, .comma :: more) =>
        have := jsonMember?_shorter found
        ofJsonMembers draft more
      | .ok (draft, .closeObject :: more) => endingHere draft.finish more
      | .ok _ => .error .malformed
  | _ => .error .malformed
termination_by lexemes.length
decreasing_by simp_all; omega

/-- The end of an array. One without elements names no field at all, so none is missing. -/
def ofJsonArray (draft : Draft) (rest : List Lexeme) : Except ReadError Config :=
  match draft.finish with
  | .error _ => .error .malformed
  | .ok config => endingHere (.ok config) rest

def ofJsonElements (draft : Draft) : List Field → List Lexeme → Except ReadError Config
  | _, .closeArray :: rest => ofJsonArray draft rest
  | field :: fields, .comma :: rest =>
    match jsonValue? draft field rest with
    | some (draft, rest) => ofJsonElements draft fields rest
    | none => .error .malformed
  | _, _ => .error .malformed

def ofJsonLexemes : List Lexeme → Except ReadError Config
  | .openObject :: .closeObject :: rest => endingHere Draft.empty.finish rest
  | .openObject :: rest => ofJsonMembers Draft.empty rest
  | .openArray :: rest =>
    match jsonValue? Draft.empty .interface rest with
    | some (draft, rest) => ofJsonElements draft (Field.all.drop 1) rest
    | none => .error .malformed
  | _ => .error .malformed

def ofJson (text : List Char) : Except ReadError Config := ofJsonLexemes (Json.lexemes text)

end CanBus.Config
