import Mathlib.Data.List.Nodup
import PatternSearch.Document.Form
import PatternSearch.Proofs.Document.Record

/-!
# Settings are read from any document that names some of them

A document of settings may leave out any of them, name the others in any order, and hold further
members that name none. Each setting that is named is read as it was written, and each other one is
the usual one.
-/

namespace PatternSearch

open Document

/-- What is written for fragments stands for them. -/
theorem Fragment.ofItems_writeAll (fragments : List Fragment) :
    Fragment.ofItems (Fragment.writeAll fragments) = fragments := by
  simp [Fragment.ofItems, Fragment.writeAll, Value.texts, Value.toList, Fragment.form, Value.toText,
    Function.comp_def]

theorem Fragment.reads_writeAll (fragments : List Fragment) :
    Reads Fragment.readAll (Fragment.writeAll fragments) (Fragment.writeAll fragments) := by
  refine reads_list (List.forall₂_same.mpr fun item mem => ?_)
  obtain ⟨source, -, rfl⟩ := List.mem_map.mp mem
  exact reads_text source

namespace Settings

/-- No number is greater than what its reader takes. -/
structure Fits (s : Settings) : Prop where
  maxCount : s.maxCount ≤ 0xFFFFFFFF
  maxGenerations : s.maxGenerations ≤ maxUnsigned
  keep : s.keep ≤ maxUnsigned

/-- One of the settings. -/
inductive Field where
  | seeds
  | extensions
  | maxCount
  | maxGenerations
  | keep
  deriving DecidableEq

namespace Field

def all : List Field := [seeds, extensions, maxCount, maxGenerations, keep]

def name : Field → String
  | seeds => "seed_fragments"
  | extensions => "extension_fragments"
  | maxCount => "max_specialization_bound"
  | maxGenerations => "max_generations"
  | keep => "survivor_count"

def value (s : Settings) : Field → Value
  | seeds => Fragment.writeAll s.seeds
  | extensions => Fragment.writeAll s.extensions
  | maxCount => .ofNat s.maxCount
  | maxGenerations => .ofNat s.maxGenerations
  | keep => .ofNat s.keep

def read : Field → Reader
  | seeds | extensions => Fragment.readAll
  | maxCount => Reader.unsigned32
  | maxGenerations | keep => Reader.size

/-- A field that is missing is the usual one. -/
def slot (field : Field) : Reader.Slot := ⟨field.name, field.read, .given (field.value {})⟩

@[simp] theorem slot_name (field : Field) : field.slot.name = field.name := rfl

theorem name_injective : Function.Injective name := by
  intro a b
  cases a <;> cases b <;> decide

theorem find?_slots (field : Field) :
    slots.find? (·.name == field.name) = some field.slot := by
  cases field <;> rfl

theorem mem_slots {slot : Reader.Slot} (mem : slot ∈ slots) : ∃ field : Field, slot = field.slot := by
  have same : slots = all.map Field.slot := rfl
  rw [same] at mem
  obtain ⟨field, -, rfl⟩ := List.mem_map.mp mem
  exact ⟨field, rfl⟩

theorem member_write (s : Settings) (field : Field) : s.write.member field.name = field.value s := by
  cases field <;> rfl

theorem reads {s : Settings} (fits : s.Fits) (field : Field) :
    Reads field.read (field.value s) (field.value s) := by
  cases field with
  | seeds => exact Fragment.reads_writeAll s.seeds
  | extensions => exact Fragment.reads_writeAll s.extensions
  | maxCount => exact reads_ofNat fits.maxCount (by decide) "u32"
  | maxGenerations => exact reads_ofNat fits.maxGenerations (Nat.le_refl _) "usize"
  | keep => exact reads_ofNat fits.keep (Nat.le_refl _) "usize"

end Field

/-- The settings in `fields` are those of `s`, the others are the usual ones. -/
def only (s : Settings) (fields : List Field) : Settings :=
  let usual : Settings := {}
  { seeds := if .seeds ∈ fields then s.seeds else usual.seeds
    extensions := if .extensions ∈ fields then s.extensions else usual.extensions
    maxCount := if .maxCount ∈ fields then s.maxCount else usual.maxCount
    maxGenerations := if .maxGenerations ∈ fields then s.maxGenerations else usual.maxGenerations
    keep := if .keep ∈ fields then s.keep else usual.keep }

theorem Field.value_only (s : Settings) (fields : List Field) (field : Field) :
    field.value (s.only fields) = if field ∈ fields then field.value s else field.value {} := by
  cases field <;> simp only [Field.value, only] <;> split <;> rfl

/-- The members that name some of the settings. -/
def members (s : Settings) (fields : List Field) : List (String × Value) :=
  fields.map fun field => (field.name, field.value s)

theorem map_fst_members (s : Settings) (fields : List Field) :
    (s.members fields).map Prod.fst = fields.map Field.name := by
  simp [members, Function.comp_def]

/-- A member of a document of settings. -/
inductive Entry where
  | setting (field : Field)
  | other (name text : String)

namespace Entry

def member (s : Settings) : Entry → String × Value
  | setting field => (field.name, field.value s)
  | other name text => (name, .text text)

def field? : Entry → Option Field
  | setting field => some field
  | other _ _ => none

end Entry

/-- The settings that a document names. -/
def named (entries : List Entry) : List Field := entries.filterMap Entry.field?

/-- Members of a document, each setting once at most, and no other under the name of a setting. -/
structure WellNamed (entries : List Entry) : Prop where
  apart : (named entries).Nodup
  others : ∀ name text, .other name text ∈ entries → ∀ field : Field, field.name ≠ name

theorem kept_named {s : Settings} (fits : s.Fits) {entries : List Entry}
    (others : ∀ name text, .other name text ∈ entries → ∀ field : Field, field.name ≠ name) :
    Reader.Kept slots (entries.map (·.member s)) (s.members (named entries)) := by
  induction entries with
  | nil => exact .nil
  | cons entry entries ih =>
    have more := ih fun name text mem => others name text (List.mem_cons_of_mem entry mem)
    cases entry with
    | setting field => exact .found field.find?_slots (Field.reads fits field) more
    | other name text =>
      refine .other (List.find?_eq_none.mpr ?_) (skips_text text) more
      intro slot mem
      obtain ⟨field, rfl⟩ := Field.mem_slots mem
      simpa using others name text List.mem_cons_self field

theorem meaning_write (s : Settings) : form.meaning s.write = s := by
  have meant : form.meaning s.write = ⟨Fragment.ofItems (Fragment.writeAll s.seeds),
      Fragment.ofItems (Fragment.writeAll s.extensions), s.maxCount, s.maxGenerations, s.keep⟩ := rfl
  rw [meant, Fragment.ofItems_writeAll, Fragment.ofItems_writeAll]

/-- The slots are filled by the settings that are named, and by the usual ones for the rest. -/
theorem filled_only (s : Settings) (fields : List Field) (slot : Reader.Slot) (mem : slot ∈ slots) :
    Reader.Filled (s.members fields) (fun slot => (s.only fields).write.member slot.name) slot := by
  obtain ⟨field, rfl⟩ := Field.mem_slots mem
  have value := Field.value_only s fields field
  simp only [Reader.Filled, Field.slot_name, Field.member_write, map_fst_members]
  by_cases mem : field ∈ fields
  · rw [value, if_pos mem]
    exact Or.inl (List.mem_map_of_mem mem)
  · rw [value, if_neg mem]
    exact Or.inr ⟨fun named => mem ((List.mem_map_of_injective Field.name_injective).mp named), rfl⟩

theorem decode_spelled {s : Settings} (fits : s.Fits) {entries : List Entry}
    (fine : WellNamed entries) {document : String}
    (spelled : Spelled (.record (entries.map (·.member s))) document) :
    form.decode document = .ok (s.only (named entries)) := by
  have apart : ((s.members (named entries)).map Prod.fst).Nodup := by
    rw [map_fst_members]
    exact fine.apart.map Field.name_injective
  have reads := reads_record (kept_named fits fine.others) apart (filled_only s (named entries))
    "SearchConfig"
  have written : Value.record (slots.map fun slot =>
      (slot.name, (s.only (named entries)).write.member slot.name)) =
        (s.only (named entries)).write := rfl
  rw [Form.decode, form, readAll_eq_ok reads spelled, written]
  exact congrArg Except.ok (meaning_write _)

/-- All settings, in the order in which they are written: none is left to the usual ones. -/
theorem decode_spelled_write {s : Settings} (fits : s.Fits) {document : String}
    (spelled : Spelled s.write document) : form.decode document = .ok s := by
  have fine : WellNamed (Field.all.map Entry.setting) := by
    refine ⟨by decide, fun name text mem => ?_⟩
    obtain ⟨field, -, same⟩ := List.mem_map.mp mem
    cases same
  exact decode_spelled fits fine spelled

/-- Settings are read back from every document that names some of them, in any order and among other
members, and from both encodings of all of them. -/
theorem decode_document (s : Settings) (fits : s.Fits) :
    (∀ (entries : List Entry) (document : String), WellNamed entries →
      Spelled (.record (entries.map (·.member s))) document →
        form.decode document = .ok (s.only (named entries))) ∧
    form.decode (form.encode s) = .ok s ∧ form.decode s.write.toPretty = .ok s :=
  ⟨fun _ _ fine spelled => decode_spelled fits fine spelled,
    decode_spelled_write fits (spelled_toCompact s.write),
    decode_spelled_write fits (spelled_toPretty s.write)⟩

/-- Two settings in the other order, and a member between them that names none. -/
theorem decode_document_two :
    let s : Settings := { seeds := [⟨"\\d+\"\x01é"⟩], extensions := [], maxCount := 9, keep := 7 }
    let entries : List Entry := [.setting .keep, .other "note" "[", .setting .seeds]
    let document := "\x7b\"survivor_count\":7,\"note\":\"[\"," ++
      "\"seed_fragments\":[\"\\\\d+\\\"\\u0001é\"]\x7d"
    s.Fits ∧ WellNamed entries ∧ Spelled (.record (entries.map (·.member s))) document ∧
      form.decode document = .ok { seeds := [⟨"\\d+\"\x01é"⟩], keep := 7 } := by
  intro s entries document
  have fits : s.Fits := ⟨by decide, by decide, by decide⟩
  have fine : WellNamed entries := by
    refine ⟨by decide, fun name text mem field => ?_⟩
    obtain ⟨rfl, -⟩ : name = "note" ∧ text = "[" := by simpa [entries] using mem
    cases field <;> decide
  have spelled : Spelled (.record (entries.map (·.member s))) document := by
    have same : (Value.record (entries.map (·.member s))).toCompact = document := by decide
    rw [← same]
    exact spelled_toCompact _
  exact ⟨fits, fine, spelled, (decode_document s fits).1 entries document fine spelled⟩

end Settings

end PatternSearch
