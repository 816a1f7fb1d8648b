import CanBus.Proofs.Config.RoundTrip
import CanBus.Proofs.Yaml.Scanning

namespace CanBus.Config

open Yaml (Document Found Node Place Reader Scanner Shown Style Token)

def Plain.content : Plain → List Char
  | .text value => value.toList
  | .number n => Text.signedDecimal n

def Plain.style : Plain → Style
  | .text _ => .doubleQuoted
  | .number _ => .plain

def Plain.Ascii : Plain → Prop
  | .text value => ∀ c ∈ value.toList, c.toNat < 127
  | .number _ => True

def Setting.tokens (s : Setting) : List Token :=
  [.key, .scalar s.field.name.toList .doubleQuoted, .value, .scalar s.plain.content s.plain.style]

def lineTokens : List Setting → List Token
  | [] => []
  | s :: settings => s.tokens ++ settings.flatMap fun t => .flowEntry :: t.tokens

theorem shown_quote {text : List Char} (ascii : ∀ c ∈ text, c.toNat < 127) :
    ∀ c ∈ Json.quote text, Shown c := by
  intro c member
  simp only [Json.quote, List.mem_append, List.mem_cons, List.not_mem_nil, or_false,
    List.mem_flatMap] at member
  rcases member with (rfl | ⟨d, inside, member⟩) | rfl
  · decide
  · exact Yaml.escaped_shown (ascii d inside) c member
  · decide

theorem ascii_name (field : Field) : ∀ c ∈ field.name.toList, c.toNat < 127 := by
  have all : field.name.toList.all (fun c => decide (c.toNat < 127)) = true := by
    cases field <;> decide
  exact fun c member => of_decide_eq_true (List.all_eq_true.mp all c member)

theorem short_name (field : Field) : (Json.quote field.name.toList).length ≤ 1024 := by
  cases field <;> decide +kernel

theorem shown_spelled {plain : Plain} (ascii : plain.Ascii) : ∀ c ∈ plain.spelled, Shown c := by
  cases plain with
  | text value => exact shown_quote ascii
  | number n => exact fun c member => (Yaml.solid_signedDecimal n c member).1

theorem shown_compact {settings : List Setting} (ascii : ∀ s ∈ settings, s.plain.Ascii) :
    ∀ c ∈ compact settings, Shown c := by
  have each {s : Setting} (ascii : s.plain.Ascii) :
      ∀ c ∈ jsonMember s.field s.plain.spelled, Shown c := by
    intro c member
    simp only [jsonMember, List.mem_append, List.mem_singleton] at member
    rcases member with (named | rfl) | valued
    · exact shown_quote (ascii_name _) c named
    · decide
    · exact shown_spelled ascii c valued
  induction settings with
  | nil => simp [compact]
  | cons s settings ih =>
    obtain ⟨first, others⟩ := List.forall_mem_cons.mp ascii
    cases settings with
    | nil => exact each first
    | cons t settings =>
      intro c member
      rw [compact, List.mem_append, List.mem_cons] at member
      rcases member with early | rfl | late
      · exact each first c early
      · decide
      · exact ih others c late

theorem length_compact (s : Setting) (settings : List Setting) :
    4 * settings.length + 3 ≤ (compact (s :: settings)).length := by
  have each (s : Setting) : 3 ≤ (jsonMember s.field s.plain.spelled).length := by
    simp only [jsonMember, Json.quote, List.length_append, List.length_cons, List.length_nil]
    omega
  induction settings generalizing s with
  | nil => exact each s
  | cons t settings ih =>
    have := ih t
    have := each s
    simp only [compact, List.length_append, List.length_cons] at *
    omega

variable {n : Nat}

theorem next?_spelled {plain : Plain} (ascii : plain.Ascii) (positive : 0 < n) (found : Found)
    {stop : Char} (stops : stop = ',' ∨ stop = '}') (rest : List Char) :
    (Scanner.inside n (plain.spelled ++ stop :: rest) found none false).next? =
      some (Scanner.inside (n + plain.spelled.length) (stop :: rest)
        (found.push (.scalar plain.content plain.style)) none false) := by
  cases plain with
  | text value =>
    exact Scanner.next?_quoted ascii positive found false (fun keyed => nomatch keyed)
      (stop :: rest)
  | number m => exact Scanner.next?_integer m positive found stops rest

theorem run_member {s : Setting} (ascii : s.plain.Ascii) (positive : 0 < n) (found : Found)
    {stop : Char} (stops : stop = ',' ∨ stop = '}') (rest : List Char) (steps : Nat) :
    Scanner.run (steps + 3)
        (.inside n (jsonMember s.field s.plain.spelled ++ stop :: rest) found none true) =
      Scanner.run steps (.inside (n + (jsonMember s.field s.plain.spelled).length) (stop :: rest)
        (found.extend s.tokens) none false) := by
  have shape : jsonMember s.field s.plain.spelled ++ stop :: rest =
      Json.quote s.field.name.toList ++ ':' :: (s.plain.spelled ++ stop :: rest) := by
    simp [jsonMember]
  have size : n + (jsonMember s.field s.plain.spelled).length =
      n + (Json.quote s.field.name.toList).length + 1 + s.plain.spelled.length := by
    simp only [jsonMember, List.length_append, List.length_singleton]
    omega
  have key := Scanner.next?_quoted (ascii_name s.field) positive found true
    (fun _ => short_name s.field) (':' :: (s.plain.spelled ++ stop :: rest))
  have near := Nat.add_le_add_left (short_name s.field) n
  have colon := Scanner.next?_colon (Nat.add_pos_left positive _) near found
    (.scalar s.field.name.toList .doubleQuoted) (s.plain.spelled ++ stop :: rest)
  have value := next?_spelled ascii (Nat.succ_pos (n + (Json.quote s.field.name.toList).length))
    (((found.push .key).push (.scalar s.field.name.toList .doubleQuoted)).push .value) stops rest
  rw [shape, Scanner.run_step key rfl]
  refine (Scanner.run_step colon rfl _).trans ?_
  rw [Scanner.run_step value rfl, size]
  rfl

theorem run_compact {s : Setting} {settings : List Setting}
    (ascii : ∀ t ∈ s :: settings, t.plain.Ascii) (positive : 0 < n) (found : Found) (steps : Nat) :
    Scanner.run (steps + (4 * settings.length + 3))
        (.inside n (compact (s :: settings) ++ ['}']) found none true) =
      Scanner.run steps (.inside (n + (compact (s :: settings)).length) ['}']
        (found.extend (lineTokens (s :: settings))) none false) := by
  obtain ⟨first, others⟩ := List.forall_mem_cons.mp ascii
  -- Each member but the last takes a fourth step for its comma.
  induction settings generalizing s n found with
  | nil =>
    rw [lineTokens, List.flatMap_nil, List.append_nil]
    exact run_member first positive found (.inr rfl) [] steps
  | cons t settings ih =>
    obtain ⟨second, later⟩ := List.forall_mem_cons.mp others
    have parts : steps + (4 * (t :: settings).length + 3) =
        steps + (4 * settings.length + 3) + 1 + 3 := by
      rw [List.length_cons]
      omega
    have member := run_member first positive found (.inl rfl) (compact (t :: settings) ++ ['}'])
      (steps + (4 * settings.length + 3) + 1)
    have comma := Scanner.next?_comma
      (Nat.add_pos_left positive (jsonMember s.field s.plain.spelled).length)
      (found.extend s.tokens) false (compact (t :: settings) ++ ['}'])
    have size : n + (jsonMember s.field s.plain.spelled ++ ',' :: compact (t :: settings)).length =
        n + (jsonMember s.field s.plain.spelled).length + 1 + (compact (t :: settings)).length := by
      rw [List.length_append, List.length_cons]
      omega
    rw [parts, compact, List.append_assoc, List.cons_append, member, Scanner.run_step comma rfl,
      ih others (Nat.succ_pos _) _ second later, size, lineTokens, Found.extend_append]
    rfl

theorem tokens_compact {s : Setting} {settings : List Setting}
    (ascii : ∀ t ∈ s :: settings, t.plain.Ascii) :
    Yaml.tokens ('{' :: (compact (s :: settings) ++ ['}'])) =
      (.flowMappingStart :: (lineTokens (s :: settings) ++ [.flowMappingEnd, .streamEnd]), true) := by
  have shown : ∀ c ∈ '{' :: (compact (s :: settings) ++ ['}']), Shown c := by
    intro c member
    rw [List.mem_cons, List.mem_append, List.mem_singleton] at member
    rcases member with rfl | inside | rfl
    · decide
    · exact shown_compact ascii c inside
    · decide
  have long := length_compact s settings
  obtain ⟨spare, size⟩ : ∃ spare, ('{' :: (compact (s :: settings) ++ ['}'])).length + 1 =
      spare + 2 + (4 * settings.length + 3) + 1 := by
    refine ⟨(compact (s :: settings)).length - (4 * settings.length + 3), ?_⟩
    simp only [List.length_cons, List.length_append, List.length_nil]
    omega
  have opened := Scanner.next?_open (compact (s :: settings) ++ ['}'])
  have starts : (Found.empty.push .flowMappingStart).toList = [.flowMappingStart] := rfl
  rw [Yaml.tokens, Yaml.readable_shown shown]
  simp only []
  rw [size, Scanner.run_step opened rfl, run_compact ascii Nat.one_pos,
    Scanner.run_close (Nat.add_pos_left Nat.one_pos _), Found.toList_extend, starts,
    List.append_assoc, List.singleton_append]

def Setting.events (s : Setting) : List Yaml.Event :=
  [.scalar none s.field.name.toList .doubleQuoted, .scalar none s.plain.content s.plain.style]

def Setting.nodes (s : Setting) : List Node :=
  [.scalar s.field.name.toList .doubleQuoted, .scalar s.plain.content s.plain.style]

theorem run_event {r next : Reader} {event : Yaml.Event} (read : r.next? = some (event, next))
    (going : event ≠ .streamEnd) (steps : Nat) :
    (Reader.run (steps + 1) r).1 = event :: (Reader.run steps next).1 := by
  rw [Reader.run, read]
  cases event <;> first | rfl | exact absurd rfl going

theorem run_members (settings : List Setting) (tail : List Token) (later : List Place)
    (steps : Nat) :
    (Reader.run (steps + 2 * settings.length)
        ⟨settings.flatMap (fun t => .flowEntry :: t.tokens) ++ tail, .flowMappingKey, later⟩).1 =
      settings.flatMap Setting.events ++ (Reader.run steps ⟨tail, .flowMappingKey, later⟩).1 := by
  induction settings with
  | nil => rfl
  | cons s settings ih =>
    let rest := settings.flatMap (fun t => .flowEntry :: t.tokens) ++ tail
    have key : Reader.next? ⟨.flowEntry :: (s.tokens ++ rest), .flowMappingKey, later⟩ =
        some (.scalar none s.field.name.toList .doubleQuoted,
          ⟨s.tokens.drop 2 ++ rest, .flowMappingValue, later⟩) := rfl
    have value : Reader.next? ⟨s.tokens.drop 2 ++ rest, .flowMappingValue, later⟩ =
        some (.scalar none s.plain.content s.plain.style, ⟨rest, .flowMappingKey, later⟩) := rfl
    have count : steps + 2 * (s :: settings).length = steps + 2 * settings.length + 1 + 1 := by
      rw [List.length_cons]
      omega
    rw [List.flatMap_cons, List.append_assoc, List.cons_append, count, run_event key nofun,
      run_event value nofun, ih, List.flatMap_cons]
    rfl

theorem events_compact {s : Setting} {settings : List Setting}
    (ascii : ∀ t ∈ s :: settings, t.plain.Ascii) :
    (Yaml.events ('{' :: (compact (s :: settings) ++ ['}']))).1 =
      .documentStart :: .mappingStart none ::
        ((s :: settings).flatMap Setting.events ++ [.mappingEnd, .documentEnd, .streamEnd]) := by
  let rest : List Token :=
    settings.flatMap (fun t => .flowEntry :: t.tokens) ++ [.flowMappingEnd, .streamEnd]
  have first : Reader.next? (.start (.flowMappingStart :: (s.tokens ++ rest))) =
      some (.documentStart,
        ⟨.flowMappingStart :: (s.tokens ++ rest), .blockNode, [.documentEnd]⟩) := rfl
  have brace : Reader.next?
      ⟨.flowMappingStart :: (s.tokens ++ rest), .blockNode, [.documentEnd]⟩ =
      some (.mappingStart none,
        ⟨.flowMappingStart :: (s.tokens ++ rest), .flowMappingFirst, [.documentEnd]⟩) := rfl
  have key : Reader.next?
      ⟨.flowMappingStart :: (s.tokens ++ rest), .flowMappingFirst, [.documentEnd]⟩ =
      some (.scalar none s.field.name.toList .doubleQuoted,
        ⟨s.tokens.drop 2 ++ rest, .flowMappingValue, [.documentEnd]⟩) := rfl
  have value : Reader.next? ⟨s.tokens.drop 2 ++ rest, .flowMappingValue, [.documentEnd]⟩ =
      some (.scalar none s.plain.content s.plain.style,
        ⟨rest, .flowMappingKey, [.documentEnd]⟩) := rfl
  have ending (steps : Nat) :
      (Reader.run (steps + 3)
        ⟨[.flowMappingEnd, .streamEnd], .flowMappingKey, [.documentEnd]⟩).1 =
      [.mappingEnd, .documentEnd, .streamEnd] := rfl
  have tokens : (Yaml.tokens ('{' :: (compact (s :: settings) ++ ['}']))).1 =
      .flowMappingStart :: (s.tokens ++ rest) := by
    rw [tokens_compact ascii, lineTokens, List.append_assoc]
  have enough : settings.length ≤ rest.length := by
    have commas (settings : List Setting) : settings.length ≤
        (settings.flatMap fun t => Token.flowEntry :: t.tokens).length := by
      induction settings with
      | nil => exact Nat.le_refl 0
      | cons t settings ih =>
        simp only [List.flatMap_cons, List.length_append, List.length_cons]
        omega
    have := commas settings
    rw [List.length_append]
    omega
  obtain ⟨spare, count⟩ : ∃ spare,
      8 * ((Token.flowMappingStart :: (s.tokens ++ rest)).length + 2) =
        spare + 3 + 2 * settings.length + 1 + 1 + 1 + 1 := by
    refine ⟨8 * ((Token.flowMappingStart :: (s.tokens ++ rest)).length + 2) -
      (2 * settings.length + 7), ?_⟩
    simp only [List.length_cons, List.length_append]
    omega
  rw [Yaml.events, tokens, count, run_event first nofun, run_event brace nofun, run_event key nofun,
    run_event value nofun, run_members, ending, List.flatMap_cons]
  rfl

theorem collect_members (settings : List Setting) (position : Nat) (rest : List Yaml.Event) :
    Document.collect position [] [] (settings.flatMap Setting.events ++ rest) =
      { Document.collect (position + 2 * settings.length) [] [] rest with
        nodes := settings.flatMap Setting.nodes ++
          (Document.collect (position + 2 * settings.length) [] [] rest).nodes } := by
  induction settings generalizing position with
  | nil => rfl
  | cons s settings ih =>
    have count : position + 2 * (s :: settings).length = position + 1 + 1 + 2 * settings.length := by
      rw [List.length_cons]
      omega
    rw [count]
    simp only [List.flatMap_cons, Setting.events, List.cons_append, List.nil_append,
      Document.collect, Document.node?, ih, Setting.nodes]

theorem yamlPlain?_content (s : Setting) :
    yamlPlain? s.field (.scalar s.plain.content s.plain.style) = some s.plain := by
  have signed (n : Int32) := Yaml.signed?_signedDecimal n.toInt
  have unsigned (n : Nat) : Yaml.unsigned? (Text.signedDecimal n) = some (n : Int) :=
    Yaml.unsigned?_decimal n
  cases s <;>
    simp only [Setting.field, Setting.plain, Plain.content, Plain.style, yamlPlain?, Field.kind,
      String.ofList_toList, if_true, signed, unsigned, Option.map_some]

theorem yamlValue?_member (document : Document) (draft : Draft) (s : Setting) (rest : List Node) :
    yamlValue? document draft (some s.field)
        (.scalar s.plain.content s.plain.style :: rest) = some (draft.enter s, rest) := by
  have itself : document.resolve (.scalar s.plain.content s.plain.style) =
      some (.scalar s.plain.content s.plain.style) := rfl
  rw [yamlValue?, itself, Option.bind_some, yamlPlain?_content, Option.bind_some,
    Draft.put?_plain, Option.map_some]

theorem ofYamlMembers_read (document : Document) (settings : List Setting) (draft : Draft)
    (rest : List Node) :
    ofYamlMembers document draft (settings.flatMap Setting.nodes ++ .mappingEnd :: rest) =
      match draft.enterAll settings with
      | .error error => .error error
      | .ok draft => endingDocument document draft.finish := by
  induction settings generalizing draft with
  | nil =>
    rw [List.flatMap_nil, List.nil_append, ofYamlMembers]
    rfl
  | cons s settings ih =>
    have known : Field.ofName? (String.ofList s.field.name.toList) = some s.field := by
      rw [String.ofList_toList, Field.ofName?_name]
    have key : yamlKey? document (.scalar s.field.name.toList .doubleQuoted) =
        some s.field.name.toList := rfl
    rw [List.flatMap_cons, List.append_assoc, Setting.nodes, ofYamlMembers.eq_def, Draft.enterAll]
    simp only [List.cons_append, List.nil_append, key, known, Option.filter_some]
    cases present : draft.has s.field with
    | true => rfl
    | false =>
      simp only [Bool.false_eq_true, if_false]
      have value := yamlValue?_member document draft s
        (settings.flatMap Setting.nodes ++ .mappingEnd :: rest)
      rw [← known] at value
      split
      · rename_i missing
        cases missing.symm.trans value
      · rename_i read
        cases read.symm.trans value
        exact ih (draft.enter s)

/-- What the other reader makes of the line, too, depends on its settings only. -/
theorem ofYaml_compact {s : Setting} {settings : List Setting}
    (ascii : ∀ t ∈ s :: settings, t.plain.Ascii) :
    ofYaml ('{' :: (compact (s :: settings) ++ ['}'])) = Draft.read (s :: settings) := by
  have document : Yaml.document ('{' :: (compact (s :: settings) ++ ['}'])) =
      ⟨.mappingStart :: ((s :: settings).flatMap Setting.nodes ++ [.mappingEnd]), [], true⟩ := by
    have collected := collect_members (s :: settings) 1 [.mappingEnd, .documentEnd, .streamEnd]
    rw [Yaml.document, events_compact ascii, Document.ofEvents, Document.collect]
    · simp only [Document.node?, collected]
      rfl
    · nofun
  rw [ofYaml, document, ofDocument]
  simp only [ofYamlMembers_read, Draft.read]
  cases Draft.empty.enterAll (s :: settings) with
  | error error => rfl
  | ok draft => cases finished : draft.finish <;> simp [endingDocument, finished]

theorem ofYaml_toJson {c : Config} (ascii : ∀ d ∈ c.interface.toList, d.toNat < 127) :
    ofYaml (toJson c).toList = .ok c := by
  have plain : ∀ s ∈ c.settings, s.plain.Ascii := by
    simp only [settings, List.forall_mem_cons, List.not_mem_nil, false_imp_iff, implies_true,
      and_true]
    exact ⟨ascii, trivial, trivial, trivial, trivial, trivial⟩
  rw [toJson_compact, settings, ofYaml_compact plain, ← settings, read_settings]

/-- The name of the file decides which reader it is, but not what comes of it. -/
theorem formats_agree {c : Config} (ascii : ∀ d ∈ c.interface.toList, d.toNat < 127) :
    (∀ path, (NamesYaml path → formatOf path = .yaml) ∧
      (¬ NamesYaml path → formatOf path = .json)) ∧
    parse .yaml (toJson c) = .ok c ∧ parse .json (toJson c) = .ok c ∧
    ∀ path, (c.senderId ≤ extendedMax → load path (.bytes (toJson c).toUTF8) = .ok c) ∧
      (¬ c.senderId ≤ extendedMax → ∃ error,
        load path (.bytes (toJson c).toUTF8) = .error error ∧
        error.text = "validating channel config: " ++ path ∧
        error.cause? = some (ChannelError.senderTooLarge c.senderId).text) := by
  have yaml : parse .yaml (toJson c) = .ok c := ofYaml_toJson ascii
  have json : parse .json (toJson c) = .ok c := ofJson_toJson c
  refine ⟨fun path => ⟨formatOf_yaml, formatOf_json⟩, yaml, json, fun path => ?_⟩
  have parsed : parse (formatOf path) (toJson c) = .ok c := by
    cases formatOf path with
    | json => exact json
    | yaml => exact yaml
  refine ⟨fun inside => ?_, fun outside => ?_⟩
  · rw [load_parsed parsed, if_pos inside]
  · exact ⟨_, by rw [load_parsed parsed, if_neg outside], rfl, rfl⟩

theorem formats_agree_escaped :
    load "a.yaml" (.bytes (toJson (ofInterface "\"\\ \t")).toUTF8) = .ok (ofInterface "\"\\ \t") ∧
    load "a.json" (.bytes (toJson (ofInterface "\"\\ \t")).toUTF8) = .ok (ofInterface "\"\\ \t") ∧
    formatOf "a.yaml" = .yaml ∧ formatOf "a.json" = .json ∧
    ∃ error, load "a.yaml"
        (.bytes (toJson ((ofInterface "can0").withSenderId 0x20000000)).toUTF8) = .error error ∧
      error.text = "validating channel config: " ++ "a.yaml" ∧
      error.cause? = some (ChannelError.senderTooLarge 0x20000000).text := by
  have named : NamesYaml "a.yaml" := ⟨"yaml".toList, by decide, .inr rfl⟩
  have other : ¬ NamesYaml "a.json" := by
    have extension : (Path.lastComponent? "a.json".toList).bind Path.extension? =
        some "json".toList := by decide
    rw [NamesYaml, extension]
    decide
  have escaped : ∀ d ∈ (ofInterface "\"\\ \t").interface.toList, d.toNat < 127 := by
    simp [ofInterface]
  have plain : ∀ d ∈ ((ofInterface "can0").withSenderId 0x20000000).interface.toList,
      d.toNat < 127 := by simp [ofInterface, withSenderId]
  obtain ⟨formats, _, _, loads⟩ := formats_agree escaped
  obtain ⟨_, _, _, refused⟩ := formats_agree plain
  exact ⟨(loads _).1 (by decide), (loads _).1 (by decide), (formats _).1 named, (formats _).2 other,
    (refused _).2 (by decide)⟩

end CanBus.Config
