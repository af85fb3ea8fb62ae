import LineComment.Proofs.Decimals
import LineComment.Proofs.Settings

namespace LineComment

namespace Json

variable {json value : Json} {name name' : Wide} {texts : List Wide} {count : Int}

def ofStrings (texts : List Wide) : Json :=
  .array (texts.map .string)

def ofCount (count : Int) : Json :=
  .number ⟨count < 0, count.natAbs, 0⟩

@[simp] theorem strings?_ofStrings (texts : List Wide) : (ofStrings texts).strings? = some texts :=
  strings?_eq_some_iff.2 rfl

theorem count?_ofCount (h : json.count? = some count) : (ofCount count).count? = some count := by
  cases json with
  | number number =>
    obtain ⟨whole, hwhole, rfl⟩ := Option.map_eq_some_iff.1 h
    have hpositive : decide (Int.ofNat whole < 0) = false := by simp
    rw [ofCount, count?, hpositive]
    exact congrArg _ (Decimal.toWhole?_of_toWhole? hwhole)
  | null | bool | string | array | object => cases h

theorem member?_cons (name name' : Wide) (value : Json) (members : List (Wide × Json)) :
    member? name ((name', value) :: members) =
      (member? name members).or (if name = name' then some value else none) := by
  rw [member?, member?, List.reverse_cons, List.lookup_append]
  by_cases h : name = name'
  · simp [h]
  · have away : (name == name') = false := by simpa using h
    simp [List.lookup_cons, h, away]

end Json

namespace Config

def layer (config : Config) : Layer where
  extensions := config.extensions
  exclude := config.exclude
  markers := config.markers
  trivialPhrases := config.trivialPhrases
  shortCommentLength := config.shortCommentLength
  headerLines := config.headerLines

section Layers

def normal (config : Config) : Config :=
  { config with extensions := config.extensions.map dotted }

theorem resolve_eq (layers : List Layer) : resolve layers = (layers.foldl lay {}).normal := rfl

@[simp] theorem normal_normal (config : Config) : config.normal.normal = config.normal := by
  simp [normal]

@[simp] theorem lay_layer (config config' : Config) : config.lay config'.layer = config' := rfl

theorem normal_lay (config : Config) (layer : Layer) :
    (config.normal.lay layer).normal = (config.lay layer).normal := by
  cases h : layer.extensions <;> simp [normal, lay, h]

theorem normal_foldl_lay (config : Config) (layers : List Layer) :
    (layers.foldl lay config.normal).normal = (layers.foldl lay config).normal := by
  induction layers generalizing config with
  | nil => exact config.normal_normal
  | cons layer layers ih =>
    rw [List.foldl_cons, List.foldl_cons, ← ih, normal_lay, ih]

theorem resolve_append (layers layers' : List Layer) :
    resolve (layers ++ layers') = resolve ((resolve layers).layer :: layers') := by
  rw [resolve_eq, resolve_eq, List.foldl_append, List.foldl_cons, lay_layer, resolve_eq,
    normal_foldl_lay]

def lastSaid {α : Type} (say : Layer → Option α) (layers : List Layer) : Option α :=
  layers.reverse.findSome? say

theorem foldl_lay_eq {α : Type} (say : Layer → Option α) (get : Config → α)
    (h : ∀ config layer, get (lay config layer) = (say layer).getD (get config)) (config : Config)
    (layers : List Layer) :
    get (layers.foldl lay config) = (lastSaid say layers).getD (get config) := by
  induction layers generalizing config with
  | nil => rfl
  | cons layer layers ih =>
    rw [List.foldl_cons, ih, h, lastSaid, lastSaid, List.reverse_cons, List.findSome?_append]
    cases layers.reverse.findSome? say <;> cases hsay : say layer <;> simp [hsay]

theorem resolve_eq_last (layers : List Layer) :
    resolve layers =
      { extensions := ((lastSaid Layer.extensions layers).getD [".rs"]).map dotted
        exclude := (lastSaid Layer.exclude layers).getD []
        markers := (lastSaid Layer.markers layers).getD ({} : Policy).markers
        trivialPhrases := (lastSaid Layer.trivialPhrases layers).getD ({} : Policy).trivialPhrases
        shortCommentLength := (lastSaid Layer.shortCommentLength layers).getD 15
        headerLines := (lastSaid Layer.headerLines layers).getD 5 } := by
  have hfield {α : Type} (say : Layer → Option α) (get : Config → α)
      (h : ∀ config layer, get (lay config layer) = (say layer).getD (get config)) :=
    foldl_lay_eq say get h {} layers
  rw [resolve_eq, normal, ← hfield Layer.extensions Config.extensions fun _ _ => rfl,
    ← hfield Layer.exclude Config.exclude fun _ _ => rfl,
    ← hfield Layer.markers (fun config => config.markers) fun _ _ => rfl,
    ← hfield Layer.trivialPhrases (fun config => config.trivialPhrases) fun _ _ => rfl,
    ← hfield Layer.shortCommentLength (fun config => config.shortCommentLength) fun _ _ => rfl,
    ← hfield Layer.headerLines (fun config => config.headerLines) fun _ _ => rfl]

end Layers

section Writing

def Field.all : List Field :=
  [.extensions, .exclude, .markers, .trivialPhrases, .shortCommentLength, .headerLines]

theorem Field.mem_all (field : Field) : field ∈ all := by
  cases field <;> decide

theorem Field.name_inj {field field' : Field} :
    Wide.ofString field.name = Wide.ofString field'.name ↔ field = field' := by
  cases field <;> cases field' <;> decide

def Layer.value? (layer : Layer) : Field → Option Json
  | .extensions => layer.extensions.map .ofStrings
  | .exclude => layer.exclude.map .ofStrings
  | .markers => layer.markers.map .ofStrings
  | .trivialPhrases => layer.trivialPhrases.map .ofStrings
  | .shortCommentLength => layer.shortCommentLength.map .ofCount
  | .headerLines => layer.headerLines.map .ofCount

def Layer.members (layer : Layer) (fields : List Field) : List (Wide × Json) :=
  fields.filterMap fun field => (layer.value? field).map (Wide.ofString field.name, ·)

def Layer.toJson (layer : Layer) : Json :=
  .object (layer.members Field.all)

theorem Layer.member?_members (layer : Layer) (field : Field) (fields : List Field) :
    Json.member? field.name (layer.members fields) =
      if field ∈ fields then layer.value? field else none := by
  induction fields with
  | nil => rfl
  | cons field' fields ih =>
    cases hvalue : layer.value? field' with
    | none =>
      have hmembers : layer.members (field' :: fields) = layer.members fields :=
        List.filterMap_cons_none (by rw [hvalue]; rfl)
      rw [hmembers, ih]
      by_cases hfield : field = field' <;> simp [hfield, hvalue]
    | some value =>
      have hmembers : layer.members (field' :: fields) =
          (Wide.ofString field'.name, value) :: layer.members fields :=
        List.filterMap_cons_some (by rw [hvalue]; rfl)
      rw [hmembers, Json.member?_cons, ih]
      by_cases hfield : field = field'
      · by_cases hmem : field' ∈ fields <;> simp [hfield, hvalue, hmem]
      · simp [Field.name_inj, hfield]

theorem Layer.member?_all (layer : Layer) (field : Field) :
    Json.member? field.name (layer.members Field.all) = layer.value? field := by
  rw [member?_members, if_pos field.mem_all]

structure Layer.Readable (layer : Layer) : Prop where
  dotted : ∀ texts, layer.extensions = some texts → texts.map dotted = texts
  shortCommentLength : ∀ count, layer.shortCommentLength = some count →
    ∃ json : Json, json.count? = some count
  headerLines : ∀ count, layer.headerLines = some count → ∃ json : Json, json.count? = some count

variable {α : Type} {layer : Layer} {json : Json} {members : List (Wide × Json)} {field : Field}
  {read : Json → Option α} {invalid : Field → Invalid} {found : Option α}

theorem read_of_readField (h : readField members field read invalid = .ok found) {value : α}
    (hfound : found = some value) : ∃ json, read json = some value := by
  rw [readField_eq_ok_iff, hfound] at h
  generalize Json.member? field.name members = member at h
  cases h with
  | some hread => exact ⟨_, hread⟩

theorem readField_of_write {write : α → Json}
    (h : Json.member? field.name members = found.map write)
    (hread : ∀ value, found = some value → read (write value) = some value) :
    readField members field read invalid = .ok found := by
  rw [readField_eq_ok_iff, h]
  cases found with
  | none => exact .none
  | some value => exact .some (hread value rfl)

theorem Layer.readable_of_ofJson (h : Layer.ofJson json = .ok layer) : layer.Readable := by
  cases json with
  | object members =>
    simp only [Layer.ofJson, bind_eq_ok_iff, pure, Except.pure] at h
    obtain ⟨extensions, -, exclude, -, markers, -, phrases, -, length, hlength, lines, hlines, h⟩ := h
    obtain rfl := Except.ok.inj h
    constructor
    case dotted =>
      intro texts htexts
      obtain ⟨texts, -, rfl⟩ := Option.map_eq_some_iff.1 htexts
      simp
    case shortCommentLength => exact fun count => read_of_readField hlength
    case headerLines => exact fun count => read_of_readField hlines
  | null | bool | number | string | array => cases h

theorem Layer.ofJson_toJson (h : layer.Readable) : Layer.ofJson layer.toJson = .ok layer := by
  have htexts (field : Field) {found : Option (List Wide)}
      (hfound : layer.value? field = found.map .ofStrings) :
      readField (layer.members Field.all) field Json.strings? .notStrings = .ok found :=
    readField_of_write ((layer.member?_all field).trans hfound) fun texts _ =>
      Json.strings?_ofStrings texts
  have hcount (field : Field) {found : Option Int} (hfound : layer.value? field = found.map .ofCount)
      (hread : ∀ count, found = some count → ∃ json : Json, json.count? = some count) :
      readField (layer.members Field.all) field Json.count? .notCount = .ok found :=
    readField_of_write ((layer.member?_all field).trans hfound) fun count hfound =>
      Json.count?_ofCount (hread count hfound).choose_spec
  have hdotted : layer.extensions.map (·.map dotted) = layer.extensions := by
    cases hextensions : layer.extensions with
    | none => rfl
    | some texts => rw [Option.map_some, h.dotted texts hextensions]
  rw [toJson, ofJson, htexts .extensions rfl, htexts .exclude rfl,
    htexts .markers rfl, htexts .trivialPhrases rfl,
    hcount .shortCommentLength rfl h.shortCommentLength,
    hcount .headerLines rfl h.headerLines]
  simp only [bind, Except.bind, pure, Except.pure, hdotted]

theorem readable_default : ({} : Config).layer.Readable where
  dotted := by
    rintro _ ⟨⟩
    decide
  shortCommentLength := by
    rintro _ ⟨⟩
    exact ⟨.number ⟨false, 15, 0⟩, by decide⟩
  headerLines := by
    rintro _ ⟨⟩
    exact ⟨.number ⟨false, 5, 0⟩, by decide⟩

theorem of_getD {P : α → Prop} {value : α} (hvalue : P value)
    (hfound : ∀ value, found = some value → P value) : P (found.getD value) := by
  cases found with
  | none => exact hvalue
  | some value => exact hfound value rfl

theorem Layer.Readable.lay {config : Config} (h : config.layer.Readable) (hlayer : layer.Readable) :
    (config.lay layer).layer.Readable := by
  constructor
  case dotted =>
    rintro _ ⟨⟩
    exact of_getD (P := fun texts : List Wide => texts.map Config.dotted = texts) (h.dotted _ rfl)
      hlayer.dotted
  case shortCommentLength =>
    rintro _ ⟨⟩
    exact of_getD (P := fun count => ∃ json : Json, json.count? = some count)
      (h.shortCommentLength _ rfl) hlayer.shortCommentLength
  case headerLines =>
    rintro _ ⟨⟩
    exact of_getD (P := fun count => ∃ json : Json, json.count? = some count)
      (h.headerLines _ rfl) hlayer.headerLines

theorem Layer.Readable.normal {config : Config} (h : config.layer.Readable) :
    config.normal = config := by
  rw [Config.normal, h.dotted config.extensions rfl]

theorem readable_resolve {layers : List Layer} (h : ∀ layer ∈ layers, layer.Readable) :
    (resolve layers).layer.Readable := by
  have hfold (config : Config) (hconfig : config.layer.Readable) :
      (layers.foldl lay config).layer.Readable := by
    induction layers generalizing config with
    | nil => exact hconfig
    | cons layer layers ih =>
      obtain ⟨hlayer, hlayers⟩ := List.forall_mem_cons.1 h
      exact ih hlayers _ (hconfig.lay hlayer)
  have hconfig := hfold {} readable_default
  rw [resolve_eq, hconfig.normal]
  exact hconfig

/-- Layers can be put together step by step, and each field is the one of the last layer that defines
it. A layer that is read from a value comes back from where it is written down, and so do the
settings that it makes up, as a file of settings that makes up the same ones. -/
theorem resolve_layers :
    (∀ layers layers' : List Layer,
      resolve (layers ++ layers') = resolve ((resolve layers).layer :: layers')) ∧
    (∀ layers : List Layer, resolve layers =
      { extensions := ((lastSaid Layer.extensions layers).getD [".rs"]).map dotted
        exclude := (lastSaid Layer.exclude layers).getD []
        markers := (lastSaid Layer.markers layers).getD ({} : Policy).markers
        trivialPhrases := (lastSaid Layer.trivialPhrases layers).getD ({} : Policy).trivialPhrases
        shortCommentLength := (lastSaid Layer.shortCommentLength layers).getD 15
        headerLines := (lastSaid Layer.headerLines layers).getD 5 }) ∧
    ∀ raw layer, Layer.ofJson raw = .ok layer →
      Layer.ofJson layer.toJson = .ok layer ∧
      Layer.ofJson (resolve [layer]).layer.toJson = .ok (resolve [layer]).layer ∧
      resolve [(resolve [layer]).layer] = resolve [layer] ∧
      ∀ (disk : Disk) path required content,
        disk.read (Path.resolve disk.here path) = .ok content →
        Json.parse (Json.stripComments (Text.Utf8.decode content.data.toList)) =
          some (resolve [layer]).layer.toJson →
        load disk path required = .ok (resolve [layer]).layer := by
  refine ⟨resolve_append, resolve_eq_last, fun raw layer h => ?_⟩
  have hread := Layer.readable_of_ofJson h
  have hwritten := Layer.ofJson_toJson
    (readable_resolve fun _ hlayer => (List.mem_singleton.1 hlayer) ▸ hread)
  refine ⟨Layer.ofJson_toJson hread, hwritten, (resolve_append [layer] []).symm, ?_⟩
  intro disk path required content hcontent hparsed
  simp only [load_of_read hcontent, decode, hparsed, hwritten]
  rfl

def sparseJson : Json :=
  .object [("extensions", .ofStrings ["rs", ""]), ("markers", .ofStrings []),
    ("trivialPhrases", .ofStrings []), ("headerLines", .number ⟨false, 15, 1⟩)]

def writtenDisk : Disk where
  here := []
  entries := [(["c.json"], .file (String.toUTF8
    "\x7b\"extensions\": [\".rs\", \".\"], \"exclude\": [], \"markers\": [], \"trivialPhrases\": [],
      \"shortCommentLength\": 15, \"headerLines\": 150\x7d"))]

set_option maxRecDepth 2000 in
theorem resolve_layers_sparse :
    Layer.ofJson sparseJson = .ok
        { extensions := some [".rs", "."], markers := some [], trivialPhrases := some []
          headerLines := some 150 } ∧
      load writtenDisk "c.json" true = .ok
        { extensions := some [".rs", "."], exclude := some [], markers := some []
          trivialPhrases := some [], shortCommentLength := some 15, headerLines := some 150 } := by
  have hlayer : Layer.ofJson sparseJson = .ok
      { extensions := some [".rs", "."], markers := some [], trivialPhrases := some []
        headerLines := some 150 } := by decide +kernel
  obtain ⟨-, -, hround⟩ := resolve_layers
  obtain ⟨-, -, -, hload⟩ := hround sparseJson _ hlayer
  refine ⟨hlayer, (hload writtenDisk "c.json" true _ rfl rfl).trans ?_⟩
  decide +kernel

end Writing

end Config

end LineComment
