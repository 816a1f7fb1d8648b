import CanBus.Config.Json
import CanBus.Proofs.Config.Settings
import CanBus.Proofs.Json.Grammar

namespace CanBus.Config

open Json (Blank Ends Lexeme Phrase Spells lexemes)

inductive Written : Plain → List Char → Prop
  | text {value : String} {body : List Char} (spells : Spells value.toList body) :
      Written (.text value) ('"' :: (body ++ ['"']))
  | number (n : Int) : Written (.number n) (Text.signedDecimal n)

inductive Valued : Setting → List Char → Prop
  | intro {s : Setting} {before text after : List Char} (blankBefore : Blank before)
      (written : Written s.plain text) (blankAfter : Blank after) :
      Valued s (before ++ (text ++ after))

/-- One member and the setting in it, if its key is a field's name. -/
inductive Member : List Setting → List Char → Prop
  | setting {s : Setting} {before key after value : List Char} (blankBefore : Blank before)
      (named : Spells s.field.name.toList key) (blankAfter : Blank after) (valued : Valued s value) :
      Member [s] (before ++ '"' :: (key ++ '"' :: (after ++ ':' :: value)))
  | other {name : String} {before key after value : List Char} (blankBefore : Blank before)
      (named : Spells name.toList key) (unknown : ∀ field : Field, field.name ≠ name)
      (blankAfter : Blank after) (element : Phrase .element value) :
      Member [] (before ++ '"' :: (key ++ '"' :: (after ++ ':' :: value)))

inductive Members : List Setting → List Char → Prop
  | last {settings : List Setting} {text : List Char} (member : Member settings text) :
      Members settings text
  | next {first others : List Setting} {text more : List Char} (member : Member first text)
      (members : Members others more) : Members (first ++ others) (text ++ ',' :: more)

/-- An object and its settings in the order of the text. -/
inductive ObjectText : List Setting → List Char → Prop
  | empty {before gap after : List Char} (blankBefore : Blank before) (blank : Blank gap)
      (blankAfter : Blank after) : ObjectText [] (before ++ '{' :: (gap ++ '}' :: after))
  | members {settings : List Setting} {before text after : List Char} (blankBefore : Blank before)
      (members : Members settings text) (blankAfter : Blank after) :
      ObjectText settings (before ++ '{' :: (text ++ '}' :: after))

inductive Elements : List Setting → List Char → Prop
  | last {s : Setting} {text : List Char} (valued : Valued s text) : Elements [s] text
  | next {s : Setting} {others : List Setting} {text more : List Char} (valued : Valued s text)
      (elements : Elements others more) : Elements (s :: others) (text ++ ',' :: more)

inductive ArrayText : List Setting → List Char → Prop
  | elements {settings : List Setting} {before text after : List Char} (blankBefore : Blank before)
      (elements : Elements settings text) (blankAfter : Blank after) :
      ArrayText settings (before ++ '[' :: (text ++ ']' :: after))

theorem Written.lexeme {plain : Plain} {text rest : List Char} (written : Written plain text)
    (ends : Ends rest) :
    ∃ lexeme, lexemes (text ++ rest) = lexeme :: lexemes rest ∧ jsonPlain? lexeme = some plain := by
  cases written with
  | @text value body spells =>
    refine ⟨.text value.toList, ?_, by rw [jsonPlain?, String.ofList_toList]⟩
    rw [List.cons_append, List.append_assoc, List.singleton_append]
    exact Json.lexemes_text spells rest
  | number n => exact ⟨.integer n, Json.lexemes_integer n ends, rfl⟩

theorem Valued.read {s : Setting} {text rest : List Char} (valued : Valued s text)
    (ends : Ends rest) (draft : Draft) :
    jsonValue? draft s.field (lexemes (text ++ rest)) = some (draft.enter s, lexemes rest) := by
  obtain ⟨blankBefore, written, blankAfter⟩ := valued
  obtain ⟨lexeme, first, plain⟩ := written.lexeme (Json.ends_blank blankAfter ends)
  rw [List.append_assoc, List.append_assoc, Json.lexemes_blank blankBefore, first,
    Json.lexemes_blank blankAfter, jsonValue?, plain, Option.bind_some, Draft.put?_plain,
    Option.map_some]

theorem Field.ofName?_name (field : Field) : Field.ofName? field.name = some field := by
  cases field <;> decide

theorem Field.ofName?_unknown {name : String} (unknown : ∀ field : Field, field.name ≠ name) :
    Field.ofName? name = none := by
  rw [Field.ofName?, List.find?_eq_none]
  intro field _ same
  exact unknown field (beq_iff_eq.mp same)

def resumeMembers (draft : Draft) : List Lexeme → Except ReadError Config
  | .comma :: more => ofJsonMembers draft more
  | .closeObject :: more => endingHere draft.finish more
  | _ => .error .malformed

theorem ofJsonMembers_refused {draft : Draft} {key : List Char} {field : Field}
    (named : Field.ofName? (String.ofList key) = some field) (present : draft.has field = true)
    (rest : List Lexeme) :
    ofJsonMembers draft (.text key :: rest) = .error (.duplicate field) := by
  rw [ofJsonMembers.eq_def]
  simp only [named, Option.filter_some, present, if_true]

theorem ofJsonMembers_read {draft entered : Draft} {key : List Char} {field : Option Field}
    {rest more : List Lexeme} (named : Field.ofName? (String.ofList key) = field)
    (unmet : field.filter draft.has = none)
    (read : jsonMember? draft field rest = .ok (entered, more)) :
    ofJsonMembers draft (.text key :: rest) = resumeMembers entered more := by
  subst named
  rw [ofJsonMembers.eq_def]
  simp only [unmet]
  split
  · rename_i failed
    cases failed.symm.trans read
  · rename_i same
    cases same.symm.trans read
    rfl
  · rename_i same
    cases same.symm.trans read
    rfl
  · rename_i comma brace same
    cases same.symm.trans read
    rw [resumeMembers]
    · exact fun _ next => comma _ _ (Prod.ext rfl next)
    · exact fun _ next => brace _ _ (Prod.ext rfl next)

theorem Member.read {settings : List Setting} {text rest : List Char}
    (member : Member settings text) (ends : Ends rest) (draft : Draft) :
    ofJsonMembers draft (lexemes (text ++ rest)) =
      match draft.enterAll settings with
      | .error error => .error error
      | .ok draft => resumeMembers draft (lexemes rest) := by
  cases member with
  | @setting s before key after value blankBefore named blankAfter valued =>
    have known : Field.ofName? (String.ofList s.field.name.toList) = some s.field := by
      rw [String.ofList_toList, Field.ofName?_name]
    simp only [List.append_assoc, List.cons_append]
    rw [Json.lexemes_blank blankBefore, Json.lexemes_text named]
    cases present : draft.has s.field with
    | true => simp only [ofJsonMembers_refused known present, Draft.enterAll, present, if_true]
    | false =>
      have unmet : (some s.field).filter draft.has = none := by
        rw [Option.filter_some, present, if_neg Bool.false_ne_true]
      have entered : jsonMember? draft (some s.field) (lexemes (after ++ ':' :: (value ++ rest))) =
          .ok (draft.enter s, lexemes rest) := by
        rw [Json.lexemes_blank blankAfter, Json.lexemes_colon, jsonMember?, valued.read ends]
      rw [ofJsonMembers_read known unmet entered]
      simp only [Draft.enterAll, present, Bool.false_eq_true, if_false]
  | @other name before key after value blankBefore named unknown blankAfter element =>
    have unnamed : Field.ofName? (String.ofList name.toList) = none := by
      rw [String.ofList_toList, Field.ofName?_unknown unknown]
    have passed : jsonMember? draft none (lexemes (after ++ ':' :: (value ++ rest))) =
        .ok (draft, lexemes rest) := by
      rw [Json.lexemes_blank blankAfter, Json.lexemes_colon, jsonMember?]
      simp only [Json.skipValue?_element element ends, Option.map_some]
    simp only [List.append_assoc, List.cons_append]
    rw [Json.lexemes_blank blankBefore, Json.lexemes_text named, ofJsonMembers_read unnamed rfl passed]
    rfl

theorem Members.read {settings : List Setting} {text : List Char}
    (members : Members settings text) (rest : List Char) (draft : Draft) :
    ofJsonMembers draft (lexemes (text ++ '}' :: rest)) =
      match draft.enterAll settings with
      | .error error => .error error
      | .ok draft => endingHere draft.finish (lexemes rest) := by
  induction members generalizing draft with
  | last member =>
    rw [member.read (Json.ends_of_mem (by decide)), Json.lexemes_closeObject]
    rfl
  | @next first others text more member members ih =>
    rw [List.append_assoc, List.cons_append, member.read (Json.ends_of_mem (by decide)),
      Json.lexemes_comma]
    cases member with
    | @setting s =>
      simp only [Draft.enterAll, List.singleton_append]
      cases draft.has s.field with
      | true => rfl
      | false => exact ih _
    | other => exact ih draft

-- An empty object is told from others by what follows its brace.
theorem Members.begin {settings : List Setting} {text : List Char}
    (members : Members settings text) (rest : List Char) :
    ∃ key more, lexemes (text ++ rest) = .text key :: more := by
  have begins {settings : List Setting} {text rest : List Char} (member : Member settings text) :
      ∃ key more, lexemes (text ++ rest) = .text key :: more := by
    cases member with
    | setting blankBefore named =>
      simp only [List.append_assoc, List.cons_append]
      rw [Json.lexemes_blank blankBefore, Json.lexemes_text named]
      exact ⟨_, _, rfl⟩
    | other blankBefore named =>
      simp only [List.append_assoc, List.cons_append]
      rw [Json.lexemes_blank blankBefore, Json.lexemes_text named]
      exact ⟨_, _, rfl⟩
  cases members with
  | last member => exact begins member
  | next member members =>
    rw [List.append_assoc]
    exact begins member

theorem endingHere_nil (result : Except ReadError Config) : endingHere result [] = result := by
  cases result <;> rfl

/-- What an object means: its settings, entered in the order of the text. -/
theorem ObjectText.read {settings : List Setting} {text : List Char}
    (object : ObjectText settings text) : ofJson text = Draft.read settings := by
  cases object with
  | empty blankBefore blank blankAfter =>
    rw [ofJson, Json.lexemes_blank blankBefore, Json.lexemes_openObject, Json.lexemes_blank blank,
      Json.lexemes_closeObject, Json.lexemes_only_blank blankAfter]
    rfl
  | @members settings before inner after blankBefore members blankAfter =>
    have read := members.read after Draft.empty
    obtain ⟨key, more, begins⟩ := members.begin ('}' :: after)
    rw [begins, Json.lexemes_only_blank blankAfter] at read
    rw [ofJson, Json.lexemes_blank blankBefore, Json.lexemes_openObject, begins, ofJsonLexemes, read,
      Draft.read]
    · cases Draft.empty.enterAll settings with
      | error error => rfl
      | ok draft => exact endingHere_nil _
    · simp

theorem Elements.read {settings : List Setting} {text : List Char}
    (elements : Elements settings text) {field : Field} {fields : List Field}
    (inOrder : settings.map Setting.field <+: field :: fields) (rest : List Char) (draft : Draft) :
    (match jsonValue? draft field (lexemes (text ++ ']' :: rest)) with
      | some (draft, rest) => ofJsonElements draft fields rest
      | none => .error .malformed) =
      ofJsonArray (settings.foldl Draft.enter draft) (lexemes rest) := by
  induction elements generalizing field fields draft with
  | @last s text valued =>
    obtain ⟨rfl, _⟩ := List.cons_prefix_cons.mp inOrder
    rw [valued.read (Json.ends_of_mem (by decide)), Json.lexemes_closeArray]
    simp only [ofJsonElements, List.foldl_cons, List.foldl_nil]
  | @next s others text more valued elements ih =>
    obtain ⟨rfl, further⟩ := List.cons_prefix_cons.mp inOrder
    rw [List.append_assoc, List.cons_append, valued.read (Json.ends_of_mem (by decide)),
      Json.lexemes_comma]
    cases fields with
    | nil => cases elements <;> simp at further
    | cons field fields =>
      simp only [ofJsonElements]
      exact ih further (draft.enter s)

theorem ArrayText.read {settings : List Setting} {text : List Char} {interface : String}
    (array : ArrayText settings text) (inOrder : settings.map Setting.field <+: Field.all)
    (given : .interface interface ∈ settings) : ofJson text = .ok (built interface settings) := by
  cases array with
  | @elements before inner after blankBefore elements blankAfter =>
    have read := elements.read inOrder after Draft.empty
    rw [Json.lexemes_only_blank blankAfter, ofJsonArray, Draft.finish_foldl_enter given] at read
    rw [ofJson, Json.lexemes_blank blankBefore, Json.lexemes_openArray]
    exact read

def Plain.spelled : Plain → List Char
  | .text value => Json.quote value.toList
  | .number n => Text.signedDecimal n

theorem written_spelled (plain : Plain) : Written plain plain.spelled := by
  cases plain with
  | text value => exact .text (Json.spells_flatMap_escaped _)
  | number n => exact .number n

theorem valued_spelled (s : Setting) : Valued s s.plain.spelled := by
  have valued := Valued.intro Json.blank_nil (written_spelled s.plain) Json.blank_nil
  rwa [List.append_nil, List.nil_append] at valued

theorem member_named {s : Setting} {value : List Char} (valued : Valued s value) :
    Member [s] (jsonMember s.field value) := by
  have named := Json.spells_flatMap_escaped s.field.name.toList
  have member := Member.setting Json.blank_nil named Json.blank_nil valued
  simpa only [jsonMember, Json.quote, List.nil_append, List.cons_append, List.append_assoc]
    using member

/-- The settings decide what is read, and nothing else about the text does. It is what the builder
makes of them: they and, for each field without one, its default. -/
theorem json_agrees_with_builder :
    (∀ {given settings : List Setting} {interface : String} {text : List Char},
      ObjectText given text → given.Perm settings → (settings.map Setting.field).Nodup →
      .interface interface ∈ settings →
      ofJson text = .ok (built interface settings) ∧
        ∀ s, s ∈ (built interface settings).settings ↔
          s ∈ settings ∨ s.field ∉ settings.map Setting.field ∧
            s ∈ [.protocol 1, .filterMask 0, .senderId 0, .waitTimeout 3000, .batchDelay 20]) ∧
    (∀ {count : Nat} {settings : List Setting} {interface : String} {text : List Char},
      1 ≤ count → count ≤ 6 → settings.map Setting.field = Field.all.take count →
      .interface interface ∈ settings → ArrayText settings text →
      ofJson text = .ok (built interface settings) ∧
        ∀ {given : List Setting} {object : List Char}, given.Perm settings →
          ObjectText given object → ofJson object = ofJson text) ∧
    (∀ {settings : List Setting} {text : List Char}, ObjectText settings text →
      (settings.map Setting.field).Nodup → .interface ∉ settings.map Setting.field →
      ∃ error, ofJson text = .error error ∧ error.text? = some "missing field `interface`") ∧
    (∀ {settings : List Setting} {text : List Char}, ObjectText settings text →
      ¬ (settings.map Setting.field).Nodup →
      ∃ field error, List.Duplicate field (settings.map Setting.field) ∧
        ofJson text = .error error ∧
        error.text? = some ("duplicate field `" ++ field.name ++ "`")) := by
  have objects {given settings : List Setting} {interface : String} {text : List Char}
      (object : ObjectText given text) (same : given.Perm settings)
      (apart : (settings.map Setting.field).Nodup) (named : .interface interface ∈ settings) :
      ofJson text = .ok (built interface settings) := by
    have apartHere : (given.map Setting.field).Nodup := (same.map Setting.field).nodup_iff.mpr apart
    rw [object.read, Draft.read_built apartHere (same.mem_iff.mpr named),
      built_perm interface same apartHere]
  refine ⟨?_, ?_, ?_, ?_⟩
  · intro given settings interface text object same apart named
    exact ⟨objects object same apart named, mem_settings_built apart named⟩
  · intro count settings interface text _ _ inOrder named array
    have firsts : settings.map Setting.field <+: Field.all := inOrder ▸ List.take_prefix _ _
    have distinct : Field.all.Nodup := by decide
    have apart : (settings.map Setting.field).Nodup := distinct.sublist firsts.sublist
    have read := array.read firsts named
    refine ⟨read, fun same object => ?_⟩
    rw [read, objects object same apart named]
  · intro settings text object apart absent
    exact ⟨.missing .interface, by rw [object.read, Draft.read_missing apart absent], rfl⟩
  · intro settings text object repeated
    obtain ⟨field, twice, refused⟩ := Draft.read_duplicate repeated
    exact ⟨field, .duplicate field, twice, by rw [object.read, refused], rfl⟩

theorem json_agrees_with_builder_shuffled :
    ofJson " \x7b\"x\":[\x7b \x7d,true],\"protocol\":-7,\"interface\":\"can0\"\x7d".toList =
        .ok (built "can0" [.interface "can0", .protocol (-7)]) ∧
      .waitTimeout 3000 ∈ (built "can0" [.interface "can0", .protocol (-7)]).settings ∧
      ofJson "[\"can0\",-7]".toList = .ok (built "can0" [.interface "can0", .protocol (-7)]) ∧
      (∃ error, ofJson "\x7b\"protocol\":-7\x7d".toList = .error error ∧
        error.text? = some "missing field `interface`") ∧
      ∃ field error, List.Duplicate field [Field.protocol, Field.protocol] ∧
        ofJson "\x7b\"protocol\":-7,\"protocol\":1\x7d".toList = .error error ∧
        error.text? = some ("duplicate field `" ++ field.name ++ "`") := by
  obtain ⟨object, array, missing, duplicate⟩ := json_agrees_with_builder
  have space : Blank [' '] := by simp [Blank, Json.isBlank]
  have nothing : Blank [] := Json.blank_nil
  have nested : Phrase .value "[\x7b \x7d,true]".toList :=
    have brace : Phrase .element "\x7b \x7d".toList := .element nothing (.emptyObject space) nothing
    have word : Phrase .element "true".toList :=
      .element nothing (@Phrase.literal "true" (by decide)) nothing
    .array (.nextElement brace (.lastElement word))
  have unknown : ∀ field : Field, field.name ≠ "x" := by
    intro field
    cases field <;> decide
  have other : Member [] "\"x\":[\x7b \x7d,true]".toList :=
    @Member.other "x" [] ['x'] [] _ nothing (Json.spells_flatMap_escaped ['x']) unknown nothing
      (.element nothing nested nothing)
  have interface : Member [.interface "can0"] "\"interface\":\"can0\"".toList :=
    member_named (valued_spelled (.interface "can0"))
  have minus : Text.signedDecimal (-7) = "-7".toList := by
    change '-' :: Text.digits 10 Text.lowerDigit 7 = _
    rw [Text.digits_small _ (by decide)]
    rfl
  have one : Text.signedDecimal 1 = "1".toList := Text.digits_small _ (by decide)
  have seventh : Valued (.protocol (-7)) "-7".toList := minus ▸ valued_spelled (.protocol (-7))
  have protocol : Member [.protocol (-7)] "\"protocol\":-7".toList :=
    member_named seventh
  have first : Valued (.protocol 1) "1".toList := one ▸ valued_spelled (.protocol 1)
  have again : Member [.protocol 1] "\"protocol\":1".toList := member_named first
  have both : (([.interface "can0", .protocol (-7)] : List Setting).map Setting.field).Nodup := by
    decide
  have named : .interface "can0" ∈ ([.interface "can0", .protocol (-7)] : List Setting) :=
    List.mem_cons_self
  obtain ⟨read, defaults⟩ :=
    object (.members space (.next other (.next protocol (.last interface))) nothing)
      (List.Perm.swap _ _ _) both named
  refine ⟨read, ?_, ?_, ?_, ?_⟩
  · exact (defaults (.waitTimeout 3000)).mpr (.inr (by decide))
  · have elements : Elements [.interface "can0", .protocol (-7)] "\"can0\",-7".toList :=
      .next (valued_spelled (.interface "can0")) (.last seventh)
    have taken : ([.interface "can0", .protocol (-7)] : List Setting).map Setting.field =
        Field.all.take 2 := rfl
    exact (array (by decide) (by decide) taken named (.elements nothing elements nothing)).1
  · exact missing (.members nothing (.last protocol) nothing) (by decide) (by decide)
  · exact duplicate (.members nothing (.next protocol (.last again)) nothing) (by decide)

end CanBus.Config
