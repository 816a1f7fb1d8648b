import CanBus.Config.File
import CanBus.Proofs.Config.Members
import CanBus.Proofs.Construction

namespace CanBus

theorem Identifier.ofNumber?_eq_none {number : UInt32} :
    ofNumber? number = none ↔ ¬ number ≤ extendedMax := by
  by_cases short : number ≤ standardMax
  · have inside : number ≤ extendedMax := UInt32.le_trans short (by decide)
    simp [ofNumber?, standard?, short, inside]
  · by_cases inside : number ≤ extendedMax <;> simp [ofNumber?, extended?, short, inside]

namespace Config

theorem sender_valid {c : Config} (inside : c.senderId ≤ extendedMax) :
    ∃ sender, c.sender = .ok sender := by
  rw [sender]
  cases numbered : Identifier.ofNumber? c.senderId with
  | none => exact absurd inside (Identifier.ofNumber?_eq_none.mp numbered)
  | some id => exact ⟨id, rfl⟩

theorem sender_invalid {c : Config} (outside : ¬ c.senderId ≤ extendedMax) :
    c.sender = .error (.senderTooLarge c.senderId) := by
  rw [sender, Identifier.ofNumber?_eq_none.mpr outside]

theorem senderId_le {c : Config} {id : Identifier} (named : c.sender = .ok id) :
    c.senderId ≤ extendedMax := by
  by_contra outside
  rw [sender_invalid outside] at named
  contradiction

def NamesYaml (path : String) : Prop :=
  ∃ extension ∈ (Path.lastComponent? path.toList).bind Path.extension?,
    extension = "yml".toList ∨ extension = "yaml".toList

theorem formatOf_yaml {path : String} (named : NamesYaml path) : formatOf path = .yaml := by
  obtain ⟨extension, found, ending⟩ := named
  simp only [formatOf, Option.mem_def.mp found, if_pos ending]

theorem formatOf_json {path : String} (other : ¬ NamesYaml path) : formatOf path = .json := by
  unfold formatOf
  split
  · rename_i extension found
    exact if_neg fun ending => other ⟨extension, found, ending⟩
  · rfl

theorem load_toUTF8 (path text : String) :
    load path (.bytes text.toUTF8) = loadText path text := by
  have decoded : String.fromUTF8? text.toUTF8 = some text := by
    simp only [String.fromUTF8?, String.toUTF8_eq_toByteArray, dif_pos text.isValidUTF8]
    rfl
  simp only [load, decoded]

theorem load_parsed {path text : String} {c : Config} (parsed : parse (formatOf path) text = .ok c) :
    load path (.bytes text.toUTF8) =
      if c.senderId ≤ extendedMax then .ok c
      else .error (.invalid path (.senderTooLarge c.senderId)) := by
  rw [load_toUTF8, loadText, parsed]
  by_cases inside : c.senderId ≤ extendedMax
  · obtain ⟨sender, valid⟩ := sender_valid inside
    simp only [valid, if_pos inside]
  · simp only [sender_invalid inside, if_neg inside]

theorem load_valid {path : String} {source : Source} {c : Config} (loaded : load path source = .ok c) :
    ∃ sender, c.sender = .ok sender := by
  unfold load loadText at loaded
  split at loaded
  · cases loaded
  · split at loaded
    · cases loaded
    · split at loaded
      · cases loaded
      · split at loaded
        · cases loaded
        · rename_i sender valid
          cases loaded
          exact ⟨sender, valid⟩

end Config

namespace Channel

section

variable {σ : Type} {layer : Layer σ} {host after : Host σ} {error : ChannelError}

theorem setup_error {c made : Channel} (failed : c.setup layer host = (.error error, made, after)) :
    ∃ step fault, error = .setupFailed step fault := by
  rcases opened : layer.openSocket c.protocol host.net with ⟨fault | handle, first⟩
  · rw [setup_unopened opened] at failed
    cases failed
    exact ⟨_, fault, rfl⟩
  rcases resolved : layer.interfaceIndex handle c.interface first with ⟨fault | index, second⟩
  · rw [setup_unresolved opened resolved] at failed
    cases failed
    exact ⟨_, fault, rfl⟩
  rcases unblocked : layer.setNonblocking handle second with ⟨fault | _, third⟩
  · rw [setup_blocking opened resolved unblocked] at failed
    cases failed
    exact ⟨_, fault, rfl⟩
  rcases filtered : layer.setFilter handle ⟨c.sender.raw, c.filterMask⟩ third with
    ⟨fault | _, fourth⟩
  · rw [setup_unfiltered opened resolved unblocked filtered] at failed
    cases failed
    exact ⟨_, fault, rfl⟩
  rcases bound : layer.bind handle index fourth with ⟨fault | _, fifth⟩
  · rw [setup_unbound opened resolved unblocked filtered bound] at failed
    cases failed
    exact ⟨_, fault, rfl⟩
  rw [setup_complete opened resolved unblocked filtered bound] at failed
  cases failed

theorem ofConfig_error {config : Config} {sender : Identifier} (valid : config.sender = .ok sender)
    (failed : ofConfig layer config host = (.error error, after)) :
    ∃ step fault, error = .setupFailed step fault := by
  simp only [ofConfig, valid, create] at failed
  rcases ran : (fresh config.interface config.protocol config.filterMask sender).setup layer host
    with ⟨stopped | _, made, left⟩
  · rw [ran] at failed
    cases failed
    exact setup_error ran
  · rw [ran] at failed
    cases failed

end

end Channel

namespace ChannelError

theorem head?_append {a b : String} {c : Char} (first : a.toList.head? = some c) :
    (a ++ b).toList.head? = some c := by
  rw [String.toList_append, List.head?_append, first, Option.some_or]

theorem head?_setupStep (step : SetupStep) : step.text.toList.head? = some 'F' := by
  have first (rest : String) : ("FAILED" ++ rest).toList.head? = some 'F' :=
    head?_append (by simp)
  cases step with
  | create => exact first " to initialise socketcan"
  | resolve => exact head?_append (first " to resolve interface ")
  | unblock => exact head?_append (head?_append (first " to set socket "))
  | filter => exact head?_append (head?_append (head?_append (first " to set CAN filter mask ")))
  | bind => exact head?_append (first " to bind to ")

theorem setupFailed_ne_senderTooLarge (step : SetupStep) (fault : Fault) (number : UInt32) :
    setupFailed step fault ≠ senderTooLarge number := by
  intro same
  have failed : (step.text ++ ": " ++ fault.described).toList.head? = some 'F' :=
    head?_append (head?_append (head?_setupStep step))
  have tooLarge : ("default sender id " ++ Text.hexLiteral number.toNat
      ++ " exceeds 29 bits").toList.head? = some 'd' :=
    head?_append (head?_append (by simp))
  rw [(ChannelError.setup.inj same).1, tooLarge] at failed
  exact absurd failed (by decide)

end ChannelError

namespace Config

def compact : List Setting → List Char
  | [] => []
  | [s] => jsonMember s.field s.plain.spelled
  | s :: t :: settings => jsonMember s.field s.plain.spelled ++ ',' :: compact (t :: settings)

theorem members_compact (s : Setting) (settings : List Setting) :
    Members (s :: settings) (compact (s :: settings)) := by
  induction settings generalizing s with
  | nil => exact .last (member_named (valued_spelled s))
  | cons t settings ih => exact .next (member_named (valued_spelled s)) (ih t)

theorem toJson_compact (c : Config) :
    (toJson c).toList = '{' :: (compact c.settings ++ ['}']) := by
  simp only [toJson, String.toList_ofList, settings, compact, Setting.field, Setting.plain,
    Plain.spelled, List.append_assoc, List.cons_append, List.nil_append]

theorem toJson_object (c : Config) : ObjectText c.settings (toJson c).toList := by
  rw [toJson_compact]
  exact .members Json.blank_nil (members_compact _ _) Json.blank_nil

theorem ofJson_toJson (c : Config) : ofJson (toJson c).toList = .ok c := by
  rw [(toJson_object c).read, read_settings]

theorem saved_config_loads :
    (∀ c : Config, ofJson (toJson c).toList = .ok c) ∧
    Function.Injective toJson ∧
    (∀ {path : String} (c : Config), ¬ NamesYaml path →
      (c.senderId ≤ extendedMax → load path (.bytes (toJson c).toUTF8) = .ok c) ∧
        (¬ c.senderId ≤ extendedMax → ∃ error, load path (.bytes (toJson c).toUTF8) = .error error ∧
          error.text = "validating channel config: " ++ path ∧
          error.cause? = some (ChannelError.senderTooLarge c.senderId).text)) ∧
    ∀ {path : String} {source : Source} {c : Config}, load path source = .ok c →
      c.senderId ≤ extendedMax ∧
        ∀ {σ : Type} {layer : Layer σ} {host after : Host σ} {error : ChannelError},
          Channel.ofConfig layer c host = (.error error, after) →
          ∀ number, error ≠ .senderTooLarge number := by
  refine ⟨ofJson_toJson, ?_, ?_, ?_⟩
  · intro c d same
    have read := ofJson_toJson c
    rw [same, ofJson_toJson d] at read
    exact (Except.ok.inj read).symm
  · intro path c other
    have parsed : parse (formatOf path) (toJson c) = .ok c := by
      rw [formatOf_json other]
      exact ofJson_toJson c
    refine ⟨fun inside => ?_, fun outside => ?_⟩
    · rw [load_parsed parsed, if_pos inside]
    · exact ⟨_, by rw [load_parsed parsed, if_neg outside], rfl, rfl⟩
  · intro path source c loaded
    obtain ⟨sender, valid⟩ := load_valid loaded
    refine ⟨senderId_le valid, ?_⟩
    intro σ layer host after error failed number
    obtain ⟨step, fault, rfl⟩ := Channel.ofConfig_error valid failed
    exact ChannelError.setupFailed_ne_senderTooLarge step fault number

theorem saved_config_opens :
    load "a.json" (.bytes (toJson (ofInterface "can0")).toUTF8) = .ok (ofInterface "can0") ∧
    (∃ error, load "a.json"
        (.bytes (toJson ((ofInterface "can0").withSenderId 0x20000000)).toUTF8) = .error error ∧
      error.text = "validating channel config: " ++ "a.json" ∧
      error.cause? = some (ChannelError.senderTooLarge 0x20000000).text) ∧
    (ofInterface "can0").senderId ≤ extendedMax ∧
    ∀ number, ChannelError.setupFailed (.resolve "can0") (.noDevice "can0") ≠
      .senderTooLarge number := by
  obtain ⟨_, _, loads, opens⟩ := saved_config_loads
  have other : ¬ NamesYaml "a.json" := by
    have extension : (Path.lastComponent? "a.json".toList).bind Path.extension? =
        some "json".toList := by decide
    rw [NamesYaml, extension]
    decide
  have loaded := (loads (ofInterface "can0") other).1 (by decide)
  have failed : Channel.ofConfig Simulator.layer (ofInterface "can0")
      ⟨Simulator.start, Counters.zero, []⟩ =
      (.error (.setupFailed (.resolve "can0") (.noDevice "can0")), _) := rfl
  exact ⟨loaded, (loads _ other).2 (by decide), (opens loaded).1, (opens loaded).2 failed⟩

end Config

end CanBus
