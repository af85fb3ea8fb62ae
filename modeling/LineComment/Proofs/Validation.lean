import LineComment.Proofs.Layering

namespace LineComment

namespace Json

variable {json : Json} {name : Wide} {value : Json} {members members' : List (Wide × Json)}

inductive IsCount : Json → Int → Prop
  | number {x : Decimal} {d : Double} {count : Int} (rounds : d.Rounds x.value)
      (whole : d.value = count) (nonneg : 0 ≤ count) : IsCount (.number x) count

theorem count?_eq_some_iff {count : Int} : json.count? = some count ↔ json.IsCount count := by
  cases json with
  | number x =>
    rw [count?, Option.map_eq_some_iff]
    constructor
    · rintro ⟨k, hk, rfl⟩
      obtain ⟨d, hrounds, hvalue⟩ := (x.toWhole?_eq_some_iff k).1 hk
      exact .number hrounds (by simpa using hvalue) (Int.natCast_nonneg k)
    · rintro ⟨hrounds, hvalue, hnonneg⟩
      obtain ⟨k, rfl⟩ := Int.eq_ofNat_of_zero_le hnonneg
      exact ⟨k, (x.toWhole?_eq_some_iff k).2 ⟨_, hrounds, by simpa using hvalue⟩, rfl⟩
  | null | bool | string | array | object =>
    constructor <;> rintro ⟨⟩

theorem member?_eq_some_iff (nodup : (members.map Prod.fst).Nodup) :
    member? name members = some value ↔ (name, value) ∈ members := by
  induction members generalizing value with
  | nil => simp [member?]
  | cons member members ih =>
    obtain ⟨name', value'⟩ := member
    obtain ⟨hnew, hnodup⟩ := List.nodup_cons.1 nodup
    rw [member?_cons, List.mem_cons, Option.or_eq_some_iff, ih hnodup]
    by_cases hname : name = name'
    · subst hname
      have habsent (found : Json) : (name, found) ∉ members := fun hmem =>
        hnew (List.mem_map.2 ⟨_, hmem, rfl⟩)
      have hnone : member? name members = none :=
        Option.eq_none_iff_forall_ne_some.2 fun found hfound => habsent found ((ih hnodup).1 hfound)
      simp [hnone, habsent, eq_comm]
    · simp [hname]

theorem member?_perm (h : members.Perm members') (nodup : (members.map Prod.fst).Nodup) :
    member? name members' = member? name members := by
  have nodup' : (members'.map Prod.fst).Nodup := (h.map Prod.fst).nodup_iff.1 nodup
  ext value
  rw [member?_eq_some_iff nodup, member?_eq_some_iff nodup', h.mem_iff]

theorem member?_filter {keep : Wide × Json → Bool} (h : ∀ value, keep (name, value) = true)
    (members : List (Wide × Json)) :
    member? name (members.filter keep) = member? name members := by
  induction members with
  | nil => rfl
  | cons member members ih =>
    obtain ⟨name', value⟩ := member
    rw [member?_cons, List.filter_cons]
    split
    next => rw [member?_cons, ih]
    next hdropped =>
      have hname : name ≠ name' := by
        rintro rfl
        exact hdropped (h value)
      rw [ih, if_neg hname, Option.or_none]

end Json

namespace Config

section First

variable {α : Type} {P Q : α → Prop} {a : α} {l : List α}

inductive First (P : α → Prop) : List α → α → Prop
  | here {a : α} {l : List α} (h : P a) : First P (a :: l) a
  | later {a b : α} {l : List α} (h : ¬P a) (rest : First P l b) : First P (a :: l) b

theorem exists_first_nil_iff : (∃ a, First P [] a ∧ Q a) ↔ False := by
  constructor
  · rintro ⟨_, ⟨⟩, -⟩
  · exact False.elim

theorem exists_first_cons_iff :
    (∃ b, First P (a :: l) b ∧ Q b) ↔ P a ∧ Q a ∨ ¬P a ∧ ∃ b, First P l b ∧ Q b := by
  constructor
  · rintro ⟨b, hfirst, hb⟩
    cases hfirst with
    | here ha => exact .inl ⟨ha, hb⟩
    | later ha hrest => exact .inr ⟨ha, b, hrest, hb⟩
  · rintro (⟨ha, hb⟩ | ⟨ha, b, hrest, hb⟩)
    · exact ⟨a, .here ha, hb⟩
    · exact ⟨b, .later ha hrest, hb⟩

end First

def Field.Allows (field : Field) (value : Json) : Prop :=
  match field with
  | .extensions | .exclude | .markers | .trivialPhrases => ∃ texts, value = .ofStrings texts
  | .shortCommentLength | .headerLines => ∃ count, value.IsCount count

def Field.Offends (field : Field) (members : List (Wide × Json)) : Prop :=
  ∃ value, Json.member? field.name members = some value ∧ ¬field.Allows value

def Field.fault (field : Field) : Invalid :=
  match field with
  | .extensions | .exclude | .markers | .trivialPhrases => .notStrings field
  | .shortCommentLength | .headerLines => .notCount field

def Field.demand : Field → String
  | .extensions | .exclude | .markers | .trivialPhrases => "an array of strings"
  | .shortCommentLength | .headerLines => "a non-negative integer"

structure Layer.Mirrors (layer : Layer) (members : List (Wide × Json)) : Prop where
  extensions : Option.Rel
    (fun value texts => ∃ given, value = .ofStrings given ∧ texts = given.map dotted)
    (Json.member? Field.extensions.name members) layer.extensions
  exclude : Option.Rel (fun value texts => value = .ofStrings texts)
    (Json.member? Field.exclude.name members) layer.exclude
  markers : Option.Rel (fun value texts => value = .ofStrings texts)
    (Json.member? Field.markers.name members) layer.markers
  trivialPhrases : Option.Rel (fun value texts => value = .ofStrings texts)
    (Json.member? Field.trivialPhrases.name members) layer.trivialPhrases
  shortCommentLength : Option.Rel Json.IsCount
    (Json.member? Field.shortCommentLength.name members) layer.shortCommentLength
  headerLines : Option.Rel Json.IsCount
    (Json.member? Field.headerLines.name members) layer.headerLines

def known (member : Wide × Json) : Bool :=
  Field.all.any fun field => member.1 = Wide.ofString field.name

variable {members members' : List (Wide × Json)} {field : Field} {fields : List Field}
  {layer : Layer} {reason : Invalid}

theorem Field.takes_iff_allows {value : Json} : field.Takes value ↔ field.Allows value := by
  have hcount : (∃ x k, value = .number x ∧ x.toWhole? = some k) ↔ ∃ count, value.IsCount count := by
    rw [← exists_count?_iff]
    exact exists_congr fun count => Json.count?_eq_some_iff
  cases field with
  | extensions | exclude | markers | trivialPhrases => exact Iff.rfl
  | shortCommentLength | headerLines => exact hcount

theorem Field.fits_iff : field.Fits members ↔ ¬field.Offends members := by
  simp only [Fits, Offends, takes_iff_allows, not_exists, not_and, not_not]

theorem known_name (field : Field) (value : Json) : known (field.name, value) = true :=
  List.any_eq_true.2 ⟨field, field.mem_all, by simp⟩

section Reading

variable {α : Type} {read : Json → Option α} {invalid : Field → Invalid}
  {rest : Option α → Except Invalid Layer}

theorem readField_eq_error_iff (takes : ∀ value, (∃ a, read value = some a) ↔ field.Takes value) :
    readField members field read invalid = .error reason ↔
      field.Offends members ∧ reason = invalid field := by
  simp only [Field.Offends, ← Field.takes_iff_allows, ← takes]
  rw [readField]
  cases Json.member? field.name members with
  | none => simp
  | some value => cases h : read value <;> simp [h, eq_comm]

theorem bind_readField_eq_error_iff
    (takes : ∀ value, (∃ a, read value = some a) ↔ field.Takes value)
    (hinvalid : invalid field = field.fault)
    (hrest : ∀ found, rest found = .error reason ↔
      ∃ field, First (Field.Offends · members) fields field ∧ reason = field.fault) :
    readField members field read invalid >>= rest = .error reason ↔
      ∃ field', First (Field.Offends · members) (field :: fields) field' ∧
        reason = field'.fault := by
  rw [exists_first_cons_iff, ← hinvalid, ← readField_eq_error_iff takes, ← Field.fits_iff,
    ← exists_readField_iff takes]
  cases readField members field read invalid with
  | error reason' => simp [bind, Except.bind]
  | ok found => simp [bind, Except.bind, hrest]

end Reading

theorem ofJson_eq_error_iff : Layer.ofJson (.object members) = .error reason ↔
    ∃ field, First (Field.Offends · members) Field.all field ∧ reason = field.fault := by
  -- The fields are read in the order in which they are listed, one step for each.
  refine bind_readField_eq_error_iff exists_strings?_iff rfl fun _ => ?_
  refine bind_readField_eq_error_iff exists_strings?_iff rfl fun _ => ?_
  refine bind_readField_eq_error_iff exists_strings?_iff rfl fun _ => ?_
  refine bind_readField_eq_error_iff exists_strings?_iff rfl fun _ => ?_
  refine bind_readField_eq_error_iff exists_count?_iff rfl fun _ => ?_
  refine bind_readField_eq_error_iff exists_count?_iff rfl fun _ => ?_
  rw [exists_first_nil_iff, iff_false]
  rintro ⟨⟩

theorem exists_rel_map_iff {α β γ : Type} {r : α → β → Prop} {f : β → γ} {a : Option α}
    {c : Option γ} : (∃ b, Option.Rel r a b ∧ c = b.map f) ↔
      Option.Rel (fun a c => ∃ b, r a b ∧ c = f b) a c := by
  constructor
  · rintro ⟨b, hrel, rfl⟩
    cases hrel with
    | some h => exact .some ⟨_, h, rfl⟩
    | none => exact .none
  · intro hrel
    cases hrel with
    | some h =>
      obtain ⟨b, hb, rfl⟩ := h
      exact ⟨some b, .some hb, rfl⟩
    | none => exact ⟨none, .none, rfl⟩

theorem ofJson_eq_ok_iff : Layer.ofJson (.object members) = .ok layer ↔ layer.Mirrors members := by
  simp only [Layer.ofJson, bind_eq_ok_iff, readField_eq_ok_iff, Json.strings?_eq_some_iff,
    Json.count?_eq_some_iff, pure, Except.pure, Except.ok.injEq]
  constructor
  · rintro ⟨extensions, hextensions, exclude, hexclude, markers, hmarkers, phrases, hphrases, length,
      hlength, lines, hlines, rfl⟩
    exact ⟨exists_rel_map_iff.1 ⟨extensions, hextensions, rfl⟩, hexclude, hmarkers, hphrases,
      hlength, hlines⟩
  · intro h
    obtain ⟨extensions, hextensions, heq⟩ := exists_rel_map_iff.2 h.extensions
    exact ⟨extensions, hextensions, _, h.exclude, _, h.markers, _, h.trivialPhrases, _,
      h.shortCommentLength, _, h.headerLines, by rw [← heq]⟩

theorem exists_ofJson_iff_not_offends :
    (∃ layer, Layer.ofJson (.object members) = .ok layer) ↔
      ∀ field : Field, ¬field.Offends members := by
  rw [exists_ofJson_iff]
  exact forall_congr' fun field => Field.fits_iff

theorem fault_message (field : Field) : field.fault.message =
    "Invalid field: " ++ field.name ++ " (must be " ++ field.demand ++ ")" := by
  cases field <;> decide

/-- A value that is no object holds no settings, and an object holds them if no field offends. The
first of the fields that do is blamed. The settings are those that the members hold. Members that are
no field do not matter, nor does the order of the members. -/
theorem ofJson_first_fault :
    (∀ raw : Json, (∀ members, raw ≠ .object members) →
      Layer.ofJson raw = .error .notObject) ∧
    (∀ members reason, Layer.ofJson (.object members) = .error reason ↔
      ∃ field, First (Field.Offends · members) Field.all field ∧ reason = field.fault) ∧
    Invalid.notObject.message = "Config must be a JSON object" ∧
    (∀ field : Field, field.fault.message =
      "Invalid field: " ++ field.name ++ " (must be " ++ field.demand ++ ")") ∧
    (∀ members, (∃ layer, Layer.ofJson (.object members) = .ok layer) ↔
      ∀ field : Field, ¬field.Offends members) ∧
    (∀ members layer, Layer.ofJson (.object members) = .ok layer ↔ layer.Mirrors members) ∧
    (∀ members members', members'.filter known = members.filter known →
      Layer.ofJson (.object members') = Layer.ofJson (.object members)) ∧
    ∀ members members', members.Perm members' → (members.map Prod.fst).Nodup →
      Layer.ofJson (.object members') = Layer.ofJson (.object members) := by
  refine ⟨fun raw h => ?_, fun _ _ => ofJson_eq_error_iff, rfl, fault_message,
    fun _ => exists_ofJson_iff_not_offends, fun _ _ => ofJson_eq_ok_iff, fun members members' h => ?_,
    fun members members' hperm nodup => ?_⟩
  · cases raw with
    | object members => exact absurd rfl (h members)
    | null | bool | number | string | array => rfl
  · refine ofJson_congr fun field => ?_
    rw [← Json.member?_filter (known_name field) members', h,
      Json.member?_filter (known_name field)]
  · exact ofJson_congr fun field => Json.member?_perm hperm nodup

def faultyMembers : List (Wide × Json) :=
  [("headerLines", .number ⟨false, 25, -1⟩), ("extra", .null), ("extensions", .ofStrings ["rs"]),
    ("exclude", .array [.string "gen", .null])]

def soundMembers : List (Wide × Json) :=
  [("headerLines", .number ⟨false, 9007199254740993, 0⟩), ("extra", .null),
    ("extensions", .ofStrings ["rs", ".ts"])]

theorem ofJson_first_fault_faulty :
    Layer.ofJson (.array []) = .error .notObject ∧
      (∃ field, First (Field.Offends · faultyMembers) Field.all field ∧
        Invalid.notStrings .exclude = field.fault) ∧
      (∀ field : Field, ¬field.Offends soundMembers) ∧
      Layer.Mirrors { extensions := some [".rs", ".ts"], headerLines := some 9007199254740992 }
        soundMembers ∧
      Layer.ofJson (.object (soundMembers.filter known)) = Layer.ofJson (.object soundMembers) ∧
      Layer.ofJson (.object soundMembers.reverse) = Layer.ofJson (.object soundMembers) := by
  have hfaulty : Layer.ofJson (.object faultyMembers) = .error (.notStrings .exclude) := by
    decide +kernel
  have hsound : Layer.ofJson (.object soundMembers) = .ok
      { extensions := some [".rs", ".ts"], headerLines := some 9007199254740992 } := by
    decide +kernel
  obtain ⟨hobject, herror, -, -, hoffends, hmirrors, hknown, hperm⟩ := ofJson_first_fault
  exact ⟨hobject _ (by simp), (herror _ _).1 hfaulty, (hoffends _).1 ⟨_, hsound⟩,
    (hmirrors _ _).1 hsound, hknown _ _ (by simp [List.filter_filter]),
    hperm _ _ soundMembers.reverse_perm.symm (by decide)⟩

end Config

end LineComment
