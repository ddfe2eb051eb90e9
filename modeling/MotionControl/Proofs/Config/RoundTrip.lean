import MotionControl.Config.Document
import MotionControl.Proofs.Config.Check
import MotionControl.Proofs.Toml.Document
import MotionControl.Proofs.Toml.Quoting

/-!
# Configurations survive their documents

A configuration that checks is read back from its own document, down to the last bit of
every number and the last character of every name.  More than that holds: its lines may
stand in any order, some of them may be missing, in which case the defaults take their
place, and lines under names of no field may stand among them.

The argument has two halves.  The document is a list of plain entries, whatever they are
about; and what a field is decoded from depends on the entry under its name alone.
-/

namespace MotionControl

open Toml (Denotes EntryLine Entries Value)

/-! ## The names of the fields -/

theorem ConfigField.find?_name (field : ConfigField) :
    Config.writtenFields.find? (fun other => other.name == field.name) = some field := by
  cases field with
  | robotBaseLink | endEffectorLink | interface | iterations | internalPeriodSecs | maxAngle
  | maxDistance | errorScale | warnThrottleSecs => decide

theorem ConfigField.name_injective {first second : ConfigField} (same : first.name = second.name) :
    first = second := by
  have found := first.find?_name
  rw [same, second.find?_name] at found
  exact (Option.some.inj found).symm

theorem ConfigField.name_isBare (field : ConfigField) :
    field.name.toList ≠ [] ∧ ∀ c ∈ field.name.toList, Toml.isBareKeyChar c = true := by
  cases field with
  | robotBaseLink | endEffectorLink | interface | iterations | internalPeriodSecs | maxAngle
  | maxDistance | errorScale | warnThrottleSecs =>
      exact ⟨by decide, List.all_eq_true.mp rfl⟩

theorem ConfigField.mem_writtenFields (field : ConfigField) : field ∈ Config.writtenFields :=
  List.mem_of_find?_eq_some field.find?_name

namespace Config

/-! ## Fields from two configurations -/

/-- A configuration with the given fields taken from another one. -/
def overlay {α : Type} (base other : Config α) (fields : List ConfigField) : Config α :=
  let pick {β : Type} (field : ConfigField) (value : Config α → β) : β :=
    if field ∈ fields then value other else value base
  { robotBaseLink := pick .robotBaseLink robotBaseLink
    endEffectorLink := pick .endEffectorLink endEffectorLink
    interface := pick .interface interface
    iterations := pick .iterations iterations
    internalPeriodSecs := pick .internalPeriodSecs internalPeriodSecs
    maxAngle := pick .maxAngle maxAngle
    maxDistance := pick .maxDistance maxDistance
    errorScale := pick .errorScale errorScale
    warnThrottleSecs := pick .warnThrottleSecs warnThrottleSecs }

theorem overlay_accepts {α : Type} [Scalar α] {base other : Config α} (fields : List ConfigField)
    (baseAccepted : ∀ field, base.Accepts field) (otherAccepted : ∀ field, other.Accepts field)
    (field : ConfigField) : (base.overlay other fields).Accepts field := by
  have fromBase := baseAccepted field
  have fromOther := otherAccepted field
  by_cases member : field ∈ fields
  · cases field with
    | endEffectorLink | interface => trivial
    | robotBaseLink | iterations | internalPeriodSecs | maxAngle | maxDistance | errorScale
    | warnThrottleSecs => simpa only [Accepts, overlay, if_pos member] using fromOther
  · cases field with
    | endEffectorLink | interface => trivial
    | robotBaseLink | iterations | internalPeriodSecs | maxAngle | maxDistance | errorScale
    | warnThrottleSecs => simpa only [Accepts, overlay, if_neg member] using fromBase

theorem overlay_all {α : Type} (base other : Config α) :
    base.overlay other writtenFields = other := by
  simp only [overlay, if_pos (ConfigField.mem_writtenFields _)]

theorem standard_accepts (field : ConfigField) : (standard : Config Float).Accepts field :=
  (validate_eq_ok_iff_accepts _).mp rfl field

/-! ## What is written for a field -/

/-- The value of a field in a document. -/
def fieldValue (config : Config Float) : ConfigField → Value
  | .robotBaseLink => .string config.robotBaseLink
  | .endEffectorLink => .string config.endEffectorLink
  | .interface => .string config.interface.name
  | .iterations => .integer config.iterations.toNat
  | .internalPeriodSecs => .float config.internalPeriodSecs
  | .maxAngle => .float config.maxAngle
  | .maxDistance => .float config.maxDistance
  | .errorScale => .float config.errorScale
  | .warnThrottleSecs => .float config.warnThrottleSecs

theorem denotes_writeString (text : String) : Denotes (Toml.writeString text) (.string text) := by
  have string := Denotes.string (Toml.readString?_writeString text)
  rwa [String.ofList_toList] at string

theorem denotes_writeFloat {x : Float} (finite : Scalar.isFinite x = true) :
    Denotes (Toml.writeFloat x) (.float x) :=
  .float (Toml.float?_writeFloat finite)

theorem isFinite_of_checkPositive {field : ConfigField} {x : Float}
    (accepted : checkPositive field x = .ok ()) : Scalar.isFinite x = true :=
  ((accept_eq_ok_iff _ _ _).mp accepted).1

theorem isFinite_of_checkNonNegative {field : ConfigField} {x : Float}
    (accepted : checkNonNegative field x = .ok ()) : Scalar.isFinite x = true :=
  ((accept_eq_ok_iff _ _ _).mp accepted).1

/-- What is written for a field that checks stands for its value. -/
theorem denotes_writtenValue {config : Config Float} {field : ConfigField}
    (accepts : config.Accepts field) :
    Denotes (config.writtenValue field) (config.fieldValue field) := by
  cases field with
  | robotBaseLink => exact denotes_writeString config.robotBaseLink
  | endEffectorLink => exact denotes_writeString config.endEffectorLink
  | interface => exact denotes_writeString config.interface.name
  | iterations =>
      have small := config.iterations.toNat_lt
      exact .integer (Toml.integer?_writeNat (small.trans (by norm_num)))
  | internalPeriodSecs => exact denotes_writeFloat (isFinite_of_checkPositive accepts.1)
  | maxAngle => exact denotes_writeFloat (isFinite_of_checkPositive accepts)
  | maxDistance => exact denotes_writeFloat (isFinite_of_checkPositive accepts)
  | errorScale => exact denotes_writeFloat (isFinite_of_checkNonNegative accepts)
  | warnThrottleSecs => exact denotes_writeFloat (isFinite_of_checkNonNegative accepts.1)

/-- The line that is written for a field. -/
def fieldLine (config : Config Float) (accepts : ∀ field, config.Accepts field)
    (field : ConfigField) : EntryLine where
  indent := ⟨[], nofun⟩
  key := field.name
  key_nonempty := field.name_isBare.1
  key_bare := field.name_isBare.2
  beforeEquals := ⟨[' '], List.all_eq_true.mp rfl⟩
  afterEquals := ⟨[' '], List.all_eq_true.mp rfl⟩
  text := config.writtenValue field
  value := config.fieldValue field
  denotes := denotes_writtenValue (accepts field)
  trailing := ⟨[], nofun⟩
  comment := none
  comment_text := nofun
  carriageReturn := false

theorem fieldLine_chars (config : Config Float) (accepts : ∀ field, config.Accepts field)
    (field : ConfigField) : (config.fieldLine accepts field).chars =
      Toml.writeEntry field.name (config.writtenValue field) := by
  simp [fieldLine, EntryLine.chars, EntryLine.ending, EntryLine.lineBreak, Toml.writeEntry]

/-! ## What a document is decoded to -/

/-- The entries of the given fields, possibly among others, with the values of a configuration. -/
structure Gives (entries : Entries) (config : Config Float) (fields : List ConfigField) : Prop where
  present : ∀ field ∈ fields, entries.find? field.name = some (config.fieldValue field)
  absent : ∀ field, field ∉ fields → entries.find? field.name = none

theorem Gives.field {entries : Entries} {config : Config Float} {fields : List ConfigField}
    (gives : Gives entries config fields) (name : ConfigField) {β : Type} (default value : β)
    (decode : Value → Option β) (decodes : decode (config.fieldValue name) = some value) :
    Config.field entries name default decode =
      some (if name ∈ fields then value else default) := by
  by_cases member : name ∈ fields
  · rw [Config.field, gives.present name member, if_pos member]
    exact decodes
  · rw [Config.field, gives.absent name member, if_neg member]

theorem natural?_natCast {bound n : ℕ} (below : n < bound) :
    (Value.integer n).natural? bound = some n := by
  have above : (0 : ℤ) ≤ n := Int.natCast_nonneg n
  have below : (n : ℤ) < bound := Int.ofNat_lt.mpr below
  simp only [Value.natural?, above, below, decide_true, Bool.and_self, if_true, Int.toNat_natCast]

/-- Whatever else is in a table, its fields are put over the defaults. -/
theorem Gives.ofEntries? {entries : Entries} {config : Config Float} {fields : List ConfigField}
    (gives : Gives entries config fields) :
    ofEntries? entries = some (standard.overlay config fields) := by
  have count : ((config.fieldValue .iterations).natural? UInt32.size).map UInt32.ofNat =
      some config.iterations := by
    rw [fieldValue, natural?_natCast config.iterations.toNat_lt, Option.map_some,
      UInt32.ofNat_toNat]
  have float (name : ConfigField) (default value : Float)
      (same : config.fieldValue name = .float value) :
      Config.field entries name default Value.number? =
        some (if name ∈ fields then value else default) :=
    gives.field name default value Value.number? (by rw [same]; rfl)
  rw [Config.ofEntries?, gives.field .robotBaseLink _ config.robotBaseLink Value.string? rfl,
    gives.field .endEffectorLink _ config.endEffectorLink Value.string? rfl,
    gives.field .interface _ config.interface Value.interface? (Interface.ofName?_name _),
    gives.field .iterations _ config.iterations
      (fun value => (value.natural? UInt32.size).map UInt32.ofNat) count,
    float .internalPeriodSecs _ config.internalPeriodSecs rfl,
    float .maxAngle _ config.maxAngle rfl, float .maxDistance _ config.maxDistance rfl,
    float .errorScale _ config.errorScale rfl,
    float .warnThrottleSecs _ config.warnThrottleSecs rfl]
  rfl

/-! ## Documents -/

/-- A line of a document: one that is written for a field, or another entry. -/
inductive DocumentLine where
  | field (name : ConfigField)
  | other (line : EntryLine)

namespace DocumentLine

def key : DocumentLine → String
  | .field name => name.name
  | .other line => line.key

def field? : DocumentLine → Option ConfigField
  | .field name => some name
  | .other _ => none

/-- The text of a line in a document about a configuration. -/
def chars (config : Config Float) : DocumentLine → List Char
  | .field name => Toml.writeEntry name.name (config.writtenValue name)
  | .other line => line.chars

/-- The line as an entry, given that the fields check. -/
def entryLine (config : Config Float) (accepts : ∀ field, config.Accepts field) :
    DocumentLine → EntryLine
  | .field name => config.fieldLine accepts name
  | .other line => line

end DocumentLine

/-- The document with the given lines. -/
def document (config : Config Float) (lines : List DocumentLine) : String :=
  String.ofList (lines.flatMap (DocumentLine.chars config))

/-- No key comes twice, and the other entries are about no field, written or not. -/
structure AreDistinct (lines : List DocumentLine) : Prop where
  nodup : (lines.map DocumentLine.key).Nodup
  foreign : ∀ line, DocumentLine.other line ∈ lines → ∀ field : ConfigField, line.key ≠ field.name

theorem writeFields_eq_document (config : Config Float) (fields : List ConfigField) :
    config.writeFields fields = config.document (fields.map DocumentLine.field) := by
  rw [writeFields, Toml.writeEntries, document, List.map_map, List.flatMap_map]
  rfl

section Reading

variable {config : Config Float} (accepts : ∀ field, config.Accepts field)
  {lines : List DocumentLine}

theorem document_eq : config.document lines =
    EntryLine.document (lines.map (DocumentLine.entryLine config accepts)) := by
  rw [document, EntryLine.document, List.flatMap_map]
  apply congrArg
  apply List.flatMap_congr
  intro line _
  cases line with
  | field name => exact (config.fieldLine_chars accepts name).symm
  | other line => rfl

theorem map_key_entryLine :
    (lines.map (DocumentLine.entryLine config accepts)).map EntryLine.key =
      lines.map DocumentLine.key := by
  rw [List.map_map]
  apply List.map_congr_left
  intro line _
  cases line with
  | field name => rfl
  | other line => rfl

theorem find?_of_mem {entries : Entries} {key : String} {value : Value}
    (distinct : (entries.map Prod.fst).Nodup) (member : (key, value) ∈ entries) :
    entries.find? key = some value := by
  obtain ⟨before, after, rfl⟩ := List.append_of_mem member
  rw [Entries.find?, List.lookup_eq_some_iff]
  refine ⟨before, after, rfl, fun entry earlier => ?_⟩
  rw [List.map_append, List.nodup_append] at distinct
  rw [bne_iff_ne]
  exact (distinct.2.2 _ (List.mem_map_of_mem earlier) _ List.mem_cons_self).symm

theorem map_fst_entry (entries : List EntryLine) :
    (entries.map EntryLine.entry).map Prod.fst = entries.map EntryLine.key := by
  rw [List.map_map]
  rfl

/-- The document gives its fields. -/
theorem AreDistinct.gives (distinct : AreDistinct lines) :
    Gives ((lines.map (DocumentLine.entryLine config accepts)).map EntryLine.entry) config
      (lines.filterMap DocumentLine.field?) where
  present name member := by
    obtain ⟨line, member, named⟩ := List.mem_filterMap.mp member
    cases line with
    | other line => cases named
    | field name =>
        cases named
        apply find?_of_mem
        · rw [map_fst_entry, map_key_entryLine]
          exact distinct.nodup
        · exact List.mem_map_of_mem (List.mem_map_of_mem member)
  absent name missing := by
    apply Toml.find?_eq_none
    rw [map_fst_entry, map_key_entryLine]
    intro member
    obtain ⟨line, member, same⟩ := List.mem_map.mp member
    cases line with
    | field other =>
        rw [ConfigField.name_injective same] at member
        exact missing (List.mem_filterMap.mpr ⟨_, member, rfl⟩)
    | other line => exact distinct.foreign line member name same

include accepts in
/-- The document of a configuration that checks gives it, as far as it has its fields. -/
theorem AreDistinct.ofToml (distinct : AreDistinct lines) :
    Config.ofToml (config.document lines) =
      .ok (standard.overlay config (lines.filterMap DocumentLine.field?)) := by
  have keys : ((lines.map (DocumentLine.entryLine config accepts)).map EntryLine.key).Nodup := by
    rw [map_key_entryLine]
    exact distinct.nodup
  have read : Config.read? (config.document lines) =
      some (standard.overlay config (lines.filterMap DocumentLine.field?)) := by
    rw [Config.read?, document_eq accepts, Toml.read?_document _ keys, Option.bind_some]
    exact (distinct.gives accepts).ofEntries?
  have valid := (validate_eq_ok_iff_accepts _).mpr
    (overlay_accepts (lines.filterMap DocumentLine.field?) standard_accepts accepts)
  rw [Config.ofToml, read]
  simp only [valid]

end Reading

/-- What is kept when a configuration is written as a document and read back. -/
structure SurvivesDocuments (config : Config Float) : Prop where
  /-- The document with all fields gives the configuration. -/
  whole : ofToml config.toToml = .ok config
  /-- Any of the fields, in any order, are put over the defaults. -/
  part : ∀ fields : List ConfigField, fields.Nodup →
    ofToml (config.writeFields fields) = .ok (standard.overlay config fields)
  /-- Other entries make no difference, wherever they stand. -/
  among : ∀ lines : List DocumentLine, AreDistinct lines →
    ofToml (config.document lines) =
      .ok (standard.overlay config (lines.filterMap DocumentLine.field?))

theorem ofToml_isFaithful {config : Config Float} (accepted : config.validate = .ok ()) :
    config.SurvivesDocuments := by
  have accepts := (validate_eq_ok_iff_accepts config).mp accepted
  have part (fields : List ConfigField) (nodup : fields.Nodup) :
      ofToml (config.writeFields fields) = .ok (standard.overlay config fields) := by
    have distinct : AreDistinct (fields.map DocumentLine.field) := by
      refine ⟨?_, ?_⟩
      · rw [List.map_map]
        exact nodup.map fun first second same => ConfigField.name_injective same
      · intro line member
        obtain ⟨field, _, equal⟩ := List.mem_map.mp member
        cases equal
    have read := distinct.ofToml accepts
    rw [← writeFields_eq_document, List.filterMap_map] at read
    have all : fields.filterMap (DocumentLine.field? ∘ DocumentLine.field) = fields :=
      List.filterMap_some
    rwa [all] at read
  exact {
    whole := by
      have read := part writtenFields (by decide)
      rwa [overlay_all] at read
    part := part
    among := fun lines distinct => distinct.ofToml accepts }

/-- Names with quotes at either end, line breaks and a control character, the largest count,
a negative zero and the smallest number. -/
def quoted : Config Float where
  robotBaseLink := "say \"\"\"base\\link'''\n"
  endEffectorLink := "\n\x01tool\"\""
  interface := .velocity
  iterations := 4294967295
  internalPeriodSecs := 1e-9
  maxAngle := 1e300
  maxDistance := 0.1
  errorScale := -0.0
  warnThrottleSecs := 5e-324

/-- An indented entry with a comment, whose string ends in two quotes. -/
def remark : EntryLine where
  indent := ⟨['\t'], List.all_eq_true.mp rfl⟩
  key := "remark-1"
  key_nonempty := by decide
  key_bare := List.all_eq_true.mp rfl
  beforeEquals := ⟨[], nofun⟩
  afterEquals := ⟨[' '], List.all_eq_true.mp rfl⟩
  text := "'''# it''s '''''".toList
  value := .string "# it''s ''"
  denotes := .string (show Toml.readString? _ = some ("# it''s ''".toList, []) from rfl)
  trailing := ⟨[' '], List.all_eq_true.mp rfl⟩
  comment := some " a comment".toList
  comment_text := by
    rintro words ⟨⟩
    exact List.all_eq_true.mp rfl
  carriageReturn := true

theorem ofToml_isFaithful_quoted :
    quoted.validate = .ok () ∧ ofToml quoted.toToml = .ok quoted ∧
      ofToml (quoted.document [.other remark, .field .endEffectorLink]) =
        .ok { standard with endEffectorLink := quoted.endEffectorLink } := by
  have accepted : quoted.validate = .ok () := by decide +kernel
  have survives := ofToml_isFaithful accepted
  refine ⟨accepted, survives.whole, survives.among [.other remark, .field .endEffectorLink] ?_⟩
  refine ⟨by decide, fun line member field => ?_⟩
  have single : line = remark := by simpa using member
  rw [single]
  cases field with
  | robotBaseLink | endEffectorLink | interface | iterations | internalPeriodSecs | maxAngle
  | maxDistance | errorScale | warnThrottleSecs => decide

end Config
end MotionControl
