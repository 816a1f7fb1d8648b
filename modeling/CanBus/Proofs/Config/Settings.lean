import CanBus.Config.Field
import Mathlib.Data.List.Duplicate
import Mathlib.Data.List.Perm.Basic

namespace CanBus.Config

theorem withWaitTimeout_ofMillis (millis : UInt64) (c : Config) :
    c.withWaitTimeout (Duration.ofMillis millis) = { c with waitTimeoutMillis := millis } := by
  rw [withWaitTimeout, Duration.toMillis_ofMillis]

theorem withBatchDelay_ofMillis (millis : UInt64) (c : Config) :
    c.withBatchDelay (Duration.ofMillis millis) = { c with batchDelayMillis := millis } := by
  rw [withBatchDelay, Duration.toMillis_ofMillis]

inductive Setting
  | interface (value : String)
  | protocol (value : Int32)
  | filterMask (value : UInt32)
  | senderId (value : UInt32)
  | waitTimeout (millis : UInt64)
  | batchDelay (millis : UInt64)
deriving DecidableEq

namespace Setting

def field : Setting → Field
  | interface _ => .interface
  | protocol _ => .protocol
  | filterMask _ => .filterMask
  | senderId _ => .senderId
  | waitTimeout _ => .waitTimeout
  | batchDelay _ => .batchDelay

def plain : Setting → Plain
  | interface value => .text value
  | protocol value => .number value.toInt
  | filterMask value => .number value.toNat
  | senderId value => .number value.toNat
  | waitTimeout millis => .number millis.toNat
  | batchDelay millis => .number millis.toNat

def apply (c : Config) : Setting → Config
  | interface value => { c with interface := value }
  | protocol value => c.withProtocol value
  | filterMask value => c.withFilterMask value
  | senderId value => c.withSenderId value
  | waitTimeout millis => c.withWaitTimeout (Duration.ofMillis millis)
  | batchDelay millis => c.withBatchDelay (Duration.ofMillis millis)

theorem apply_comm (c : Config) {s t : Setting} (apart : s.field ≠ t.field) :
    apply (apply c s) t = apply (apply c t) s := by
  cases s <;> cases t <;>
    first
    | exact (apart rfl).elim
    | simp only [apply, withProtocol, withFilterMask, withSenderId, withWaitTimeout_ofMillis,
        withBatchDelay_ofMillis]

end Setting

/-- The builder's configuration for an interface with these settings replaced. -/
def built (interface : String) (settings : List Setting) : Config :=
  settings.foldl Setting.apply (ofInterface interface)

theorem built_perm (interface : String) {settings others : List Setting}
    (same : settings.Perm others) (apart : (settings.map Setting.field).Nodup) :
    built interface settings = built interface others := by
  apply same.foldl_eq'
  intro s first t second c
  by_cases again : s.field = t.field
  · rw [List.inj_on_of_nodup_map apart first second again]
  · exact Setting.apply_comm c again

def settings (c : Config) : List Setting :=
  [.interface c.interface, .protocol c.protocol, .filterMask c.filterMask, .senderId c.senderId,
    .waitTimeout c.waitTimeoutMillis, .batchDelay c.batchDelayMillis]

theorem fields_settings (c : Config) : c.settings.map Setting.field = Field.all := rfl

theorem built_settings (c : Config) : built c.interface c.settings = c := by
  simp only [built, settings, List.foldl_cons, List.foldl_nil, Setting.apply, withProtocol,
    withFilterMask, withSenderId, withWaitTimeout_ofMillis, withBatchDelay_ofMillis]

theorem mem_settings_apply (c : Config) (s t : Setting) :
    t ∈ (Setting.apply c s).settings ↔ t = s ∨ t ∈ c.settings ∧ t.field ≠ s.field := by
  cases s <;> cases t <;>
    simp [Setting.apply, Setting.field, settings, withProtocol, withFilterMask, withSenderId,
      withWaitTimeout_ofMillis, withBatchDelay_ofMillis]

theorem mem_settings_foldl {settings : List Setting} (apart : (settings.map Setting.field).Nodup)
    (c : Config) (t : Setting) :
    t ∈ (settings.foldl Setting.apply c).settings ↔
      t ∈ settings ∨ t ∈ c.settings ∧ t.field ∉ settings.map Setting.field := by
  induction settings generalizing c with
  | nil => simp
  | cons s rest ih =>
    rw [List.map_cons, List.nodup_cons] at apart
    obtain ⟨unmet, apart⟩ := apart
    rw [List.foldl_cons, ih apart, mem_settings_apply, List.mem_cons, List.map_cons, List.mem_cons,
      not_or]
    by_cases same : t = s
    · subst same
      simp [unmet]
    · simp only [same, false_or, and_assoc]

/-- Besides the settings that it was given a configuration has the default of each other field. -/
theorem mem_settings_built {settings : List Setting} {interface : String}
    (apart : (settings.map Setting.field).Nodup) (given : .interface interface ∈ settings)
    (s : Setting) :
    s ∈ (built interface settings).settings ↔
      s ∈ settings ∨ s.field ∉ settings.map Setting.field ∧
        s ∈ [.protocol 1, .filterMask 0, .senderId 0, .waitTimeout 3000, .batchDelay 20] := by
  have named : Setting.field (.interface interface) ∈ settings.map Setting.field :=
    List.mem_map_of_mem given
  have defaults : (ofInterface interface).settings = [.interface interface, .protocol 1,
      .filterMask 0, .senderId 0, .waitTimeout 3000, .batchDelay 20] := rfl
  rw [built, mem_settings_foldl apart, defaults, List.mem_cons, and_comm]
  refine or_congr_right (and_congr_right fun unset => or_iff_right ?_)
  rintro rfl
  exact unset named

namespace Draft

theorem int32?_toInt (n : Int32) : int32? n.toInt = some n := by
  have least := n.minValue_le_toInt
  have most := n.toInt_le
  rw [int32?, if_pos ⟨least, most⟩, Int32.ofInt_toInt]

theorem uint32?_toNat (n : UInt32) : uint32? n.toNat = some n := by
  have bound := n.toNat_lt_size
  rw [uint32?, if_pos ⟨Int.natCast_nonneg _, by omega⟩, Int.toNat_natCast, UInt32.ofNat_toNat]

theorem uint64?_toNat (n : UInt64) : uint64? n.toNat = some n := by
  have bound := n.toNat_lt_size
  rw [uint64?, if_pos ⟨Int.natCast_nonneg _, by omega⟩, Int.toNat_natCast, UInt64.ofNat_toNat]

def enter (draft : Draft) : Setting → Draft
  | .interface value => { draft with interface := some value }
  | .protocol value => { draft with protocol := some value }
  | .filterMask value => { draft with filterMask := some value }
  | .senderId value => { draft with senderId := some value }
  | .waitTimeout millis => { draft with waitTimeout := some millis }
  | .batchDelay millis => { draft with batchDelay := some millis }

theorem put?_plain (draft : Draft) (s : Setting) :
    draft.put? s.field s.plain = some (draft.enter s) := by
  cases s <;>
    simp only [Setting.field, Setting.plain, put?, enter, int32?_toInt, uint32?_toNat,
      uint64?_toNat, Option.map_some]

theorem has_enter (draft : Draft) (s : Setting) (field : Field) :
    (draft.enter s).has field = (field == s.field || draft.has field) := by
  cases s <;> cases field <;> rfl

/-- Enters settings in turn. A field that is there already is refused. -/
def enterAll (draft : Draft) : List Setting → Except ReadError Draft
  | [] => .ok draft
  | s :: settings =>
    if draft.has s.field then .error (.duplicate s.field) else (draft.enter s).enterAll settings

/-- Every setting is entered, or one is refused whose field is in the draft or occurs twice. -/
theorem enterAll_cases (settings : List Setting) (draft : Draft) :
    ((∀ s ∈ settings, draft.has s.field = false) ∧ (settings.map Setting.field).Nodup ∧
      draft.enterAll settings = .ok (settings.foldl enter draft)) ∨
    ∃ field ∈ settings.map Setting.field, draft.enterAll settings = .error (.duplicate field) ∧
      (draft.has field = true ∨ List.Duplicate field (settings.map Setting.field)) := by
  -- The draft is general: every setting is checked against those that were entered before it.
  induction settings generalizing draft with
  | nil => exact .inl ⟨by simp, by simp, rfl⟩
  | cons s settings ih =>
    rw [enterAll]
    cases present : draft.has s.field with
    | true => exact .inr ⟨s.field, by simp, if_pos rfl, .inl present⟩
    | false =>
      rw [if_neg Bool.false_ne_true]
      rcases ih (draft.enter s) with ⟨unset, apart, entered⟩ | ⟨field, member, refused, twice⟩
      · left
        have others : ∀ t ∈ settings, t.field ≠ s.field ∧ draft.has t.field = false := by
          intro t member
          have absent := unset t member
          rwa [has_enter, Bool.or_eq_false_iff, beq_eq_false_iff_ne] at absent
        refine ⟨List.forall_mem_cons.mpr ⟨present, fun t member => (others t member).2⟩, ?_, entered⟩
        rw [List.map_cons, List.nodup_cons]
        refine ⟨fun again => ?_, apart⟩
        obtain ⟨t, member, same⟩ := List.mem_map.mp again
        exact (others t member).1 same
      · right
        refine ⟨field, List.mem_cons_of_mem _ member, refused, ?_⟩
        rw [has_enter, Bool.or_eq_true, beq_iff_eq] at twice
        rcases twice with (rfl | earlier) | later
        · exact .inr (List.Mem.duplicate_cons_self member)
        · exact .inl earlier
        · exact .inr (later.duplicate_cons _)

theorem has_empty (field : Field) : empty.has field = false := by cases field <;> rfl

theorem has_foldl_enter (settings : List Setting) (draft : Draft) (field : Field) :
    (settings.foldl enter draft).has field =
      (draft.has field || (settings.map Setting.field).contains field) := by
  induction settings generalizing draft with
  | nil => simp
  | cons s settings ih =>
    rw [List.foldl_cons, ih, has_enter, List.map_cons, List.contains_cons, Bool.or_comm (field == _),
      Bool.or_assoc]

/-- What a draft comes to if the interface, too, had a default. -/
def completed (interface : String) (draft : Draft) : Config where
  interface := draft.interface.getD interface
  protocol := draft.protocol.getD defaultProtocol
  filterMask := draft.filterMask.getD 0
  senderId := draft.senderId.getD 0
  waitTimeoutMillis := draft.waitTimeout.getD defaultWaitTimeoutMillis
  batchDelayMillis := draft.batchDelay.getD defaultBatchDelayMillis

/-- The reader's defaults are the builder's. -/
theorem completed_empty (interface : String) : empty.completed interface = ofInterface interface :=
  rfl

theorem completed_enter (interface : String) (draft : Draft) (s : Setting) :
    (draft.enter s).completed interface = Setting.apply (draft.completed interface) s := by
  cases s <;>
    simp only [enter, completed, Setting.apply, Option.getD_some, withProtocol, withFilterMask,
      withSenderId, withWaitTimeout_ofMillis, withBatchDelay_ofMillis]

theorem completed_foldl_enter (interface : String) (settings : List Setting) (draft : Draft) :
    (settings.foldl enter draft).completed interface =
      settings.foldl Setting.apply (draft.completed interface) := by
  induction settings generalizing draft with
  | nil => rfl
  | cons s settings ih => rw [List.foldl_cons, ih, completed_enter, List.foldl_cons]

theorem finish_completed (interface : String) {draft : Draft}
    (present : draft.has .interface = true) : draft.finish = .ok (draft.completed interface) := by
  obtain ⟨name, known⟩ := Option.isSome_iff_exists.mp present
  simp only [finish, completed, known, Option.getD_some]

theorem finish_missing {draft : Draft} (absent : draft.has .interface = false) :
    draft.finish = .error (.missing .interface) := by
  have unknown : draft.interface = none := Option.not_isSome_iff_eq_none.mp (by
    rw [← has, absent]
    exact Bool.false_ne_true)
  simp only [finish, unknown]

theorem finish_foldl_enter {settings : List Setting} {interface : String}
    (given : .interface interface ∈ settings) :
    (settings.foldl enter empty).finish = .ok (built interface settings) := by
  have present : (settings.foldl enter empty).has .interface = true := by
    rw [has_foldl_enter, has_empty, Bool.false_or, List.contains_iff_mem]
    exact List.mem_map_of_mem (f := Setting.field) given
  rw [finish_completed interface present, completed_foldl_enter, completed_empty, built]

def read (settings : List Setting) : Except ReadError Config :=
  match empty.enterAll settings with
  | .error error => .error error
  | .ok draft => draft.finish

theorem enterAll_empty (settings : List Setting) :
    ((settings.map Setting.field).Nodup ∧
      empty.enterAll settings = .ok (settings.foldl enter empty)) ∨
    ∃ field, List.Duplicate field (settings.map Setting.field) ∧
      empty.enterAll settings = .error (.duplicate field) := by
  rcases enterAll_cases settings empty with
    ⟨_, apart, entered⟩ | ⟨field, _, refused, earlier | twice⟩
  · exact .inl ⟨apart, entered⟩
  · rw [has_empty] at earlier
    contradiction
  · exact .inr ⟨field, twice, refused⟩

theorem read_entered {settings : List Setting} (apart : (settings.map Setting.field).Nodup) :
    read settings = (settings.foldl enter empty).finish := by
  rcases enterAll_empty settings with ⟨_, entered⟩ | ⟨field, twice, _⟩
  · simp only [read, entered]
  · exact absurd apart twice.not_nodup

theorem read_built {settings : List Setting} {interface : String}
    (apart : (settings.map Setting.field).Nodup) (given : .interface interface ∈ settings) :
    read settings = .ok (built interface settings) := by
  rw [read_entered apart, finish_foldl_enter given]

theorem read_missing {settings : List Setting} (apart : (settings.map Setting.field).Nodup)
    (absent : .interface ∉ settings.map Setting.field) :
    read settings = .error (.missing .interface) := by
  rw [read_entered apart]
  apply finish_missing
  rw [has_foldl_enter, has_empty, Bool.false_or]
  simpa using absent

theorem read_duplicate {settings : List Setting}
    (repeated : ¬ (settings.map Setting.field).Nodup) :
    ∃ field, List.Duplicate field (settings.map Setting.field) ∧
      read settings = .error (.duplicate field) := by
  rcases enterAll_empty settings with ⟨apart, _⟩ | ⟨field, twice, refused⟩
  · contradiction
  · exact ⟨field, twice, by simp only [read, refused]⟩

end Draft

theorem read_settings (c : Config) : Draft.read c.settings = .ok c := by
  have apart : (c.settings.map Setting.field).Nodup := by
    rw [fields_settings]
    decide
  have given : .interface c.interface ∈ c.settings := List.mem_cons_self
  rw [Draft.read_built apart given, built_settings]

end CanBus.Config
