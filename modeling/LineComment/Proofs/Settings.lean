import LineComment.Config.File
import Mathlib.Logic.Basic

namespace LineComment

section Results

variable {α β ε : Type} {x : Except ε α} {f : α → Except ε β} {b : β}

theorem exists_error_iff : (∃ error, x = .error error) ↔ ¬∃ a, x = .ok a := by
  cases x <;> simp

theorem bind_eq_ok_iff : x >>= f = .ok b ↔ ∃ a, x = .ok a ∧ f a = .ok b := by
  cases x <;> simp [bind, Except.bind]

end Results

namespace Json

variable {json : Json} {items : List Json} {text : Wide} {texts : List Wide}

theorem string?_eq_some_iff : json.string? = some text ↔ json = .string text := by
  cases json <;> simp [string?]

theorem mapM_string?_eq_some_iff : items.mapM string? = some texts ↔ items = texts.map .string := by
  induction items generalizing texts with
  | nil => cases texts <;> simp
  | cons item items ih =>
    cases texts <;>
      simp [List.mapM_cons, Option.bind_eq_bind, Option.bind_eq_some_iff, string?_eq_some_iff, ih]

theorem strings?_eq_some_iff : json.strings? = some texts ↔ json = .array (texts.map .string) := by
  cases json <;> simp [strings?, mapM_string?_eq_some_iff]

end Json

namespace Config

def Field.Takes (field : Field) (value : Json) : Prop :=
  match field with
  | .extensions | .exclude | .markers | .trivialPhrases =>
    ∃ texts : List Wide, value = .array (texts.map .string)
  | .shortCommentLength | .headerLines =>
    ∃ number count, value = .number number ∧ number.toWhole? = some count

def Field.Fits (field : Field) (members : List (Wide × Json)) : Prop :=
  ∀ value, Json.member? field.name members = some value → field.Takes value

inductive Wrong : Json → Prop
  | notObject {json : Json} (h : ∀ members, json ≠ .object members) : Wrong json
  | field {members : List (Wide × Json)} {field : Field} {value : Json}
      (h : Json.member? field.name members = some value) (wrong : ¬field.Takes value) :
      Wrong (.object members)

/-- What may be wrong with a file of settings, given by its path or by mistake by something else. A
file that is not required may be missing. -/
inductive Unusable (disk : Disk) (required : Bool) : Named → Prop
  | notPath (found : NotPath) : Unusable disk required (.other found)
  | missing {path : String} (h : disk.read (Path.resolve disk.here path) = .error .missing)
      (demanded : required = true) : Unusable disk required (.path path)
  | unreadable {path : String} {fault : Fault}
      (h : disk.read (Path.resolve disk.here path) = .error fault) (present : fault ≠ .missing) :
      Unusable disk required (.path path)
  | malformed {path : String} {content : ByteArray}
      (h : disk.read (Path.resolve disk.here path) = .ok content)
      (garbled : Json.parse (Json.stripComments (Text.Utf8.decode content.data.toList)) = none) :
      Unusable disk required (.path path)
  | wrong {path : String} {content : ByteArray} {json : Json}
      (h : disk.read (Path.resolve disk.here path) = .ok content)
      (parsed : Json.parse (Json.stripComments (Text.Utf8.decode content.data.toList)) = some json)
      (wrong : Wrong json) : Unusable disk required (.path path)

variable {json : Json} {members members' : List (Wide × Json)} {field : Field} {path : String}
  {disk : Disk} {required : Bool}

theorem readField_eq_ok_iff {α : Type} {read : Json → Option α} {invalid : Field → Invalid}
    {found : Option α} : readField members field read invalid = .ok found ↔
      Option.Rel (fun value a => read value = some a) (Json.member? field.name members) found := by
  rw [readField]
  cases Json.member? field.name members with
  | none => cases found <;> simp
  | some value => cases found <;> cases h : read value <;> simp [h]

theorem exists_readField_iff {α : Type} {read : Json → Option α} {invalid : Field → Invalid}
    (takes : ∀ value, (∃ found, read value = some found) ↔ field.Takes value) :
    (∃ found, readField members field read invalid = .ok found) ↔ field.Fits members := by
  rw [Field.Fits, readField]
  cases Json.member? field.name members with
  | none => simp
  | some value =>
    simp only [Option.some.injEq, forall_eq', ← takes]
    cases read value <;> simp

theorem readField_congr {α : Type} (read : Json → Option α) (invalid : Field → Invalid)
    (h : Json.member? field.name members' = Json.member? field.name members) :
    readField members' field read invalid = readField members field read invalid := by
  rw [readField, readField, h]

theorem ofJson_congr
    (h : ∀ field : Field, Json.member? field.name members' = Json.member? field.name members) :
    Layer.ofJson (.object members') = Layer.ofJson (.object members) := by
  simp only [Layer.ofJson, readField_congr _ _ (h _)]

theorem exists_strings?_iff (value : Json) :
    (∃ texts, value.strings? = some texts) ↔
      ∃ texts : List Wide, value = .array (texts.map .string) := by
  simp only [Json.strings?_eq_some_iff]

theorem exists_count?_iff (value : Json) :
    (∃ count, value.count? = some count) ↔
      ∃ number count, value = .number number ∧ number.toWhole? = some count := by
  cases value with
  | number number =>
    simp only [Json.count?, Option.map_eq_some_iff, Json.number.injEq]
    constructor
    · rintro ⟨_, count, hcount, rfl⟩
      exact ⟨number, count, rfl, hcount⟩
    · rintro ⟨_, count, rfl, hcount⟩
      exact ⟨count, count, hcount, rfl⟩
  | null | bool | string | array | object => simp [Json.count?]

theorem Field.forall_iff {P : Field → Prop} :
    (∀ field, P field) ↔ P .extensions ∧ P .exclude ∧ P .markers ∧ P .trivialPhrases ∧
      P .shortCommentLength ∧ P .headerLines := by
  constructor
  · intro h
    exact ⟨h _, h _, h _, h _, h _, h _⟩
  · rintro ⟨hextensions, hexclude, hmarkers, hphrases, hlength, hlines⟩ field
    cases field <;> assumption

theorem exists_ofJson_iff :
    (∃ layer, Layer.ofJson (.object members) = .ok layer) ↔
      ∀ field : Field, field.Fits members := by
  have htexts (field : Field) (takes : ∀ value, (∃ texts, value.strings? = some texts) ↔
      field.Takes value) := @exists_readField_iff members field _ _ .notStrings takes
  have hcount (field : Field) (takes : ∀ value, (∃ count, value.count? = some count) ↔
      field.Takes value) := @exists_readField_iff members field _ _ .notCount takes
  rw [Field.forall_iff, ← htexts .extensions exists_strings?_iff,
    ← htexts .exclude exists_strings?_iff, ← htexts .markers exists_strings?_iff,
    ← htexts .trivialPhrases exists_strings?_iff, ← hcount .shortCommentLength exists_count?_iff,
    ← hcount .headerLines exists_count?_iff]
  simp only [Layer.ofJson, bind_eq_ok_iff, pure, Except.pure]
  grind

theorem wrong_iff : (∃ reason, Layer.ofJson json = .error reason) ↔ Wrong json := by
  cases json with
  | object members =>
    rw [exists_error_iff, exists_ofJson_iff]
    constructor
    · intro h
      simp only [Field.Fits, not_forall] at h
      obtain ⟨field, value, hvalue, hwrong⟩ := h
      exact .field hvalue hwrong
    · intro h
      cases h with
      | notObject h => exact absurd rfl (h members)
      | field hvalue hwrong => exact fun hfits => hwrong (hfits _ _ hvalue)
  | null | bool | number | string | array =>
    exact ⟨fun _ => .notObject (by simp), fun _ => ⟨.notObject, rfl⟩⟩

theorem exists_decode_iff {content : ByteArray} :
    (∃ error, decode path content = .error error) ↔
      Json.parse (Json.stripComments (Text.Utf8.decode content.data.toList)) = none ∨
      ∃ json, Json.parse (Json.stripComments (Text.Utf8.decode content.data.toList)) = some json ∧
        Wrong json := by
  rw [decode]
  cases Json.parse (Json.stripComments (Text.Utf8.decode content.data.toList)) with
  | none => simp
  | some json =>
    simp only [reduceCtorEq, false_or, Option.some.injEq, exists_eq_left', ← wrong_iff]
    cases Layer.ofJson json with
    | error reason => exact ⟨fun _ => ⟨reason, rfl⟩, fun _ => ⟨.invalid reason path, rfl⟩⟩
    | ok layer => constructor <;> rintro ⟨_, ⟨⟩⟩

theorem load_of_read {result : Except Fault ByteArray} :
    disk.read (Path.resolve disk.here path) = result →
      load disk path required =
        match result with
        | .ok content => decode path content
        | .error .missing => if required then .error (.notFound path) else .ok {}
        | .error fault => .error (.unreadable fault (Path.resolve disk.here path)) := by
  intro h
  -- The equation that `rw` would use is found by running the look-up, which is far too long.
  delta load
  dsimp only
  generalize disk.read (Path.resolve disk.here path) = found at h
  subst h
  rfl

theorem load_of_fault {fault : Fault} (h : disk.read (Path.resolve disk.here path) = .error fault)
    (present : fault ≠ .missing) :
    load disk path required = .error (.unreadable fault (Path.resolve disk.here path)) := by
  rw [load_of_read h]
  cases fault with
  | missing => cases present rfl
  | nullByte | notDirectory | nameTooLong | isDirectory => rfl

theorem exists_load_iff :
    (∃ error, load disk path required = .error error) ↔ Unusable disk required (.path path) := by
  constructor
  · rintro ⟨error, h⟩
    cases hread : disk.read (Path.resolve disk.here path) with
    | ok content =>
      simp only [load_of_read hread] at h
      obtain hgarbled | ⟨json, hparsed, hwrong⟩ := exists_decode_iff.1 ⟨error, h⟩
      · exact .malformed hread hgarbled
      · exact .wrong hread hparsed hwrong
    | error fault =>
      by_cases hmissing : fault = .missing
      · subst hmissing
        cases required with
        | false => simp [load_of_read hread] at h
        | true => exact .missing hread rfl
      · exact .unreadable hread hmissing
  · intro h
    cases h with
    | missing hread hdemanded => exact ⟨_, by simp only [load_of_read hread, if_pos hdemanded]; rfl⟩
    | unreadable hread hpresent => exact ⟨_, load_of_fault hread hpresent⟩
    | malformed hread hgarbled =>
      simp only [load_of_read hread]
      exact exists_decode_iff.2 (.inl hgarbled)
    | wrong hread hparsed hwrong =>
      simp only [load_of_read hread]
      exact exists_decode_iff.2 (.inr ⟨_, hparsed, hwrong⟩)

end Config

end LineComment
