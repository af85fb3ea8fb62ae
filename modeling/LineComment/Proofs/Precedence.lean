import LineComment.Proofs.Layering
import LineComment.Proofs.Progress
import LineComment.Proofs.Scope

namespace LineComment

namespace Config

variable {members members' : List (Wide × Json)} {field : Field} {layer : Layer}

def Given {α : Type} (members : List (Wide × Json)) (field : Field) (read : Json → Option α)
    (default value : α) : Prop :=
  match Json.member? field.name members with
  | none => value = default
  | some json => read json = some value

theorem given_of_readField {α : Type} {read : Json → Option α} {invalid : Field → Invalid}
    {found : Option α} (h : readField members field read invalid = .ok found) (default : α) :
    Given members field read default (found.getD default) := by
  rw [readField_eq_ok_iff] at h
  rw [Given]
  generalize Json.member? field.name members = member at h ⊢
  cases h with
  | some hread => exact hread
  | none => rfl

theorem head?_dotted (extension : Wide) : (dotted extension).units.head? = some '.'.toNat := by
  unfold dotted
  split
  next h => exact h
  next => rfl

end Config

namespace Request

open Config

/-- The members that the file of settings holds. A file that is missing and that is not named holds
none. -/
inductive Holds (request : Request) (disk : Disk) : List (Wide × Json) → Prop
  | missing {path : String} (h : request.configPath = .path path)
      (gone : disk.read (Path.resolve disk.here path) = .error .missing)
      (unnamed : request.configFile = none) : Holds request disk []
  | file {path : String} {content : ByteArray} {members : List (Wide × Json)}
      (h : request.configPath = .path path)
      (found : disk.read (Path.resolve disk.here path) = .ok content)
      (parsed : Json.parse (Json.stripComments (Text.Utf8.decode content.data.toList)) =
        some (.object members)) : Holds request disk members

structure Governs (request : Request) (members : List (Wide × Json)) (config : Config) : Prop where
  markers : Given members .markers Json.strings? ({} : Policy).markers config.markers
  trivialPhrases :
    Given members .trivialPhrases Json.strings? ({} : Policy).trivialPhrases config.trivialPhrases
  shortCommentLength :
    Given members .shortCommentLength Json.count? 15 config.shortCommentLength
  headerLines : Given members .headerLines Json.count? 5 config.headerLines
  extensions : ∃ extensions,
    (if request.extensions = [] then Given members .extensions Json.strings? [".rs"] extensions
      else extensions = request.extensions) ∧
    config.extensions = extensions.map dotted
  dotted : ∀ extension ∈ config.extensions, extension.units.head? = some '.'.toNat
  exclude : ∃ exclude, Given members .exclude Json.strings? [] exclude ∧
    config.exclude = exclude ++ request.exclude

variable {request : Request} {setup : Setup} {disk disk' : Disk} {layer : Layer}
  {members members' : List (Wide × Json)} {path : String} {files : List String}

theorem governs_setup (h : Layer.ofJson (.object members) = .ok layer) (request : Request) :
    request.Governs members (request.setup layer).config := by
  simp only [Layer.ofJson, bind_eq_ok_iff, pure, Except.pure] at h
  obtain ⟨extensions, hextensions, exclude, hexclude, markers, hmarkers, phrases, hphrases, length,
    hlength, lines, hlines, h⟩ := h
  obtain rfl := Except.ok.inj h
  constructor
  case markers => exact given_of_readField hmarkers _
  case trivialPhrases => exact given_of_readField hphrases _
  case shortCommentLength => exact given_of_readField hlength _
  case headerLines => exact given_of_readField hlines _
  case extensions =>
    by_cases hnone : request.extensions = []
    · refine ⟨extensions.getD [".rs"], ?_, ?_⟩
      · rw [if_pos hnone]
        exact given_of_readField hextensions _
      · cases extensions <;> simp [setup, resolve, lay, Request.layer, hnone]
    · refine ⟨request.extensions, by rw [if_neg hnone], ?_⟩
      simp [setup, resolve, lay, Request.layer, hnone]
  case dotted =>
    intro extension hextension
    obtain ⟨extension, -, rfl⟩ := List.mem_map.1 hextension
    exact head?_dotted extension
  case exclude => exact ⟨_, given_of_readField hexclude _, rfl⟩

theorem load_of_holds (h : request.Holds disk members) (hpath : request.configPath = .path path) :
    Config.load disk path request.configFile.isSome =
      (Layer.ofJson (.object members)).mapError (.invalid · path) := by
  cases h with
  | missing h gone unnamed =>
    obtain rfl := Named.path.inj (hpath.symm.trans h)
    rw [load_of_read gone, unnamed]
    rfl
  | file h found parsed =>
    obtain rfl := Named.path.inj (hpath.symm.trans h)
    simp only [load_of_read found, decode, parsed]

theorem Holds.exists_path (h : request.Holds disk members) :
    ∃ path, request.configPath = .path path := by
  cases h with
  | missing h | file h => exact ⟨_, h⟩

theorem loadConfig_congr (h : request.Holds disk members) (h' : request.Holds disk' members')
    (same : ∀ field : Field, Json.member? field.name members' = Json.member? field.name members) :
    request.loadConfig disk' = request.loadConfig disk := by
  obtain ⟨path, hpath⟩ := h.exists_path
  simp only [loadConfig, hpath, load_of_holds h hpath, load_of_holds h' hpath, ofJson_congr same]

theorem exists_holds_of_loadConfig (h : (request.loadConfig disk).1 = .ok layer) :
    ∃ members, request.Holds disk members ∧ Layer.ofJson (.object members) = .ok layer := by
  rw [loadConfig] at h
  cases hpath : request.configPath with
  | other found =>
    rw [hpath] at h
    cases h
  | path path =>
    simp only [hpath] at h
    cases hread : disk.read (Path.resolve disk.here path) with
    | ok content =>
      simp only [load_of_read hread, decode] at h
      cases hparse : Json.parse (Json.stripComments (Text.Utf8.decode content.data.toList)) with
      | none => simp [hparse] at h
      | some json =>
        simp only [hparse] at h
        cases hlayer : Layer.ofJson json with
        | error reason =>
          rw [hlayer] at h
          cases h
        | ok found =>
          rw [hlayer] at h
          obtain rfl := Except.ok.inj h
          cases json with
          | object members => exact ⟨members, .file hpath hread hparse, hlayer⟩
          | null | bool | number | string | array => cases hlayer
    | error fault =>
      by_cases hmissing : fault = .missing
      · subst hmissing
        rw [load_of_read hread] at h
        cases hnamed : request.configFile with
        | some named => simp [hnamed] at h
        | none =>
          rw [hnamed] at h
          obtain rfl := Except.ok.inj h
          exact ⟨[], .missing hpath hread hnamed, rfl⟩
      · rw [load_of_fault hread hmissing] at h
        cases h

theorem prepare_of_loaded (h : (request.loadConfig disk).1 = .ok layer) :
    (request.prepare disk).1 = match ((request.setup layer).select disk request.paths).1 with
      | .error error => .error (.selection error)
      | .ok selection => .ok (request.setup layer, selection.files) := by
  rw [prepare]
  generalize request.loadConfig disk = loaded at h
  obtain ⟨file, loading⟩ := loaded
  obtain rfl := h
  rfl

end Request

def Path.lacks (parts : List Wide) (path : String) : Bool :=
  !parts.any fun part => Text.occurs part.units (Text.units path.toList)

theorem Path.lacks_iff {parts : List Wide} {path : String} :
    lacks parts path = true ↔ ∀ part ∈ parts, ¬part.units <:+: Text.units path.toList := by
  simp [lacks, ← Text.occurs_iff]

def Selection.without (selection : Selection) (parts : List Wide) : Selection :=
  { selection with files := selection.files.filter (Path.lacks parts) }

namespace Setup

variable {setup : Setup} {disk : Disk} {parts : List Wide}

def excluding (setup : Setup) (parts : List Wide) : Setup :=
  { setup with config.exclude := setup.config.exclude ++ parts }

theorem excludes_excluding (setup : Setup) (parts : List Wide) (file : String) :
    (setup.excluding parts).excludes file = (setup.excludes file || !Path.lacks parts file) := by
  simp [excludes, excluding, Path.lacks]

theorem inspect_excluding (setup : Setup) (parts : List Wide) (disk : Disk) (path : String) :
    (setup.excluding parts).inspect disk path = setup.inspect disk path := rfl

theorem gather_excluding (setup : Setup) (parts : List Wide) (selection : Selection)
    (found : List String) :
    ((setup.excluding parts).gather (selection.without parts) found).1 =
      (setup.gather selection found).1.without parts := by
  induction found generalizing selection with
  | nil => rfl
  | cons path found ih =>
    have hadd : path ∈ (selection.without parts).files ↔
        path ∈ selection.files ∧ Path.lacks parts path = true := List.mem_filter
    simp only [gather, excludes_excluding]
    by_cases hexcluded : setup.excludes path = true
    · simp [hexcluded, ih]
    · by_cases hlacks : Path.lacks parts path = true
      · -- The path is gathered in both cases, or in both cases for the second time.
        have hkept : ({ selection with files := selection.files ++ [path] } : Selection).without parts =
            { selection.without parts with
              files := (selection.without parts).files ++ [path] } := by
          simp [Selection.without, hlacks]
        by_cases hmem : path ∈ selection.files
        · simp [hexcluded, hlacks, hadd, hmem, ih]
        · simp [hexcluded, hlacks, hadd, hmem, ← ih, hkept]
      · have hkept : ({ selection with files := selection.files ++ [path] } : Selection).without parts =
            selection.without parts := by
          simp [Selection.without, hlacks]
        by_cases hmem : path ∈ selection.files
        · simp [hexcluded, hlacks, hmem, ih]
        · simp [hexcluded, hlacks, hmem, ← ih, hkept]

theorem selectFrom_excluding (setup : Setup) (parts : List Wide) (disk : Disk) (selection : Selection)
    (paths : List String) :
    ((setup.excluding parts).selectFrom disk (selection.without parts) paths).1 =
      (setup.selectFrom disk selection paths).1.map (·.without parts) := by
  induction paths generalizing selection with
  | nil => rfl
  | cons path paths ih =>
    simp only [selectFrom, inspect_excluding]
    cases setup.inspect disk path with
    | error error => rfl
    | ok finding =>
      cases finding with
      | skip reason => exact ih { selection with skipped := selection.skipped ++ [(path, reason)] }
      | files found =>
        dsimp only
        rw [gather_excluding, ih]

theorem map_path_stripFiles (setup : Setup) (disk : Disk) (files : List String) :
    ((setup.stripFiles disk files).2.filterMap Event.report?).map FileReport.path = files := by
  refine List.ext_getElem? fun i => ?_
  rw [List.getElem?_map, getElem?_reports_stripFiles, Option.map_map]
  cases files[i]? with
  | none => rfl
  | some path => exact congrArg some (setup.path_stripFile _ path)

end Setup

namespace Request

open Config

variable {request : Request} {disk : Disk}

def processed (request : Request) (disk : Disk) : Except SessionError (List String) :=
  (request.prepare disk).1.map fun (setup, files) =>
    ((setup.stripFiles disk files).2.filterMap Event.report?).map FileReport.path

theorem setup_excluding (request : Request) (exclude : List Wide) (layer : Layer) :
    ({ request with exclude } : Request).setup layer =
      (({ request with exclude := [] } : Request).setup layer).excluding exclude := by
  simp [setup, Setup.excluding, Request.layer, resolve, lay]

theorem processed_of_loaded {layer : Layer} (h : (request.loadConfig disk).1 = .ok layer) :
    request.processed disk = match ((request.setup layer).select disk request.paths).1 with
      | .error error => .error (.selection error)
      | .ok selection => .ok selection.files := by
  rw [processed, prepare_of_loaded h]
  cases ((request.setup layer).select disk request.paths).1 with
  | error error => rfl
  | ok selection => exact congrArg Except.ok (Setup.map_path_stripFiles _ disk selection.files)

theorem processed_of_error {error : LoadError} (h : (request.loadConfig disk).1 = .error error) :
    request.processed disk = .error (.config error) := by
  rw [processed, prepare]
  generalize request.loadConfig disk = loaded at h
  obtain ⟨file, loading⟩ := loaded
  obtain rfl := h
  rfl

theorem processed_exclude (request : Request) (exclude : List Wide) (disk : Disk) :
    ({ request with exclude } : Request).processed disk =
      (({ request with exclude := [] } : Request).processed disk).map
        (List.filter (Path.lacks exclude)) := by
  have hload : ({ request with exclude } : Request).loadConfig disk =
      ({ request with exclude := [] } : Request).loadConfig disk := by
    simp only [loadConfig, configPath]
  cases h : (({ request with exclude := [] } : Request).loadConfig disk).1 with
  | error error =>
    have h' : (({ request with exclude } : Request).loadConfig disk).1 = .error error := by
      rw [hload, h]
    rw [processed_of_error h, processed_of_error h']
    rfl
  | ok layer =>
    have h' : (({ request with exclude } : Request).loadConfig disk).1 = .ok layer := by
      rw [hload, h]
    have hselect : (((({ request with exclude := [] } : Request).setup layer).excluding
          exclude).select disk request.paths).1 =
        ((({ request with exclude := [] } : Request).setup layer).select disk request.paths).1.map
          (·.without exclude) :=
      Setup.selectFrom_excluding _ exclude disk {} request.paths
    rw [processed_of_loaded h, processed_of_loaded h', setup_excluding]
    dsimp only
    rw [hselect]
    generalize ((({ request with exclude := [] } : Request).setup layer).select disk
      request.paths).1 = selected
    cases selected <;> rfl

end Request

structure Disk.AgreesOff (after disk : Disk) (location : Location) : Prop where
  shape : after.shape = disk.shape
  refusal : after.refusal = disk.refusal
  get? : ∀ found, found ≠ location → after.get? found = disk.get? found

theorem Disk.agreesOff_put {disk : Disk} {location : Location} {entry : Entry}
    (h : (disk.get? location).map Entry.shape = some entry.shape) (hroot : location ≠ []) :
    (disk.put location entry).AgreesOff disk location where
  shape := shape_put h hroot
  refusal := rfl
  get? _ hne := get?_put_of_ne hne disk entry

namespace Setup

open Policy

variable {setup : Setup} {disk after : Disk} {location : Location} {path : String}
  {files : List String}

theorem shape_stripFile (setup : Setup) (disk : Disk) (path : String) :
    (setup.stripFile disk path).1.shape = disk.shape := by
  obtain hkept | hsettled := setup.stripFile_fst_eq_or disk path
  · rw [hkept]
  · rw [hsettled, shape_settle]

theorem refusal_stripFile (setup : Setup) (disk : Disk) (path : String) :
    (setup.stripFile disk path).1.refusal = disk.refusal := by
  obtain hkept | hsettled := setup.stripFile_fst_eq_or disk path
  · rw [hkept]
  · rw [hsettled, refusal_settle]

theorem readsAs_of_agreesOff (h : after.AgreesOff disk location)
    (away : ∀ path ∈ files, disk.locate path ≠ .ok location) : after.ReadsAs disk files where
  shape := h.shape
  refusal := h.refusal
  get? path hmem found hlocate := h.get? found fun hsame => away path hmem (hsame ▸ hlocate)

theorem agreesOff_stripFile (h : after.AgreesOff disk location) (setup : Setup) (path : String) :
    (setup.stripFile after path).1.AgreesOff (setup.stripFile disk path).1 location where
  shape := by rw [shape_stripFile, shape_stripFile, h.shape]
  refusal := by rw [refusal_stripFile, refusal_stripFile, h.refusal]
  get? found hfound := by
    by_cases hlocate : disk.locate path = .ok found
    · have away : ∀ path' ∈ [path], disk.locate path' ≠ .ok location := by
        refine List.forall_mem_singleton.2 fun hsame => hfound ?_
        exact Except.ok.inj (hlocate.symm.trans hsame)
      exact get?_stripFile_congr (readsAs_of_agreesOff h away) hlocate
    · have hlocate' : after.locate path ≠ .ok found := by rwa [Disk.locate_congr h.shape]
      rw [get?_stripFile_of_ne hlocate, get?_stripFile_of_ne hlocate', h.get? found hfound]

theorem shape_stripFiles (setup : Setup) (disk : Disk) (files : List String) :
    (setup.stripFiles disk files).1.shape = disk.shape := by
  have hfoldl : (setup.stripFiles disk files).1 =
      files.foldl (fun disk path => (setup.stripFile disk path).1) disk :=
    setup.stripFrom_fst_eq_foldl disk files.length 0 files
  rw [hfoldl]
  clear hfoldl
  induction files generalizing disk with
  | nil => rfl
  | cons path files ih => rw [List.foldl_cons, ih, shape_stripFile]

theorem agreesOff_stripFiles (h : after.AgreesOff disk location) (setup : Setup)
    (files : List String) :
    (setup.stripFiles after files).1.AgreesOff (setup.stripFiles disk files).1 location := by
  have hfoldl (disk : Disk) : (setup.stripFiles disk files).1 =
      files.foldl (fun disk path => (setup.stripFile disk path).1) disk :=
    setup.stripFrom_fst_eq_foldl disk files.length 0 files
  rw [hfoldl, hfoldl]
  clear hfoldl
  induction files generalizing after disk with
  | nil => exact h
  | cons path files ih => exact ih (agreesOff_stripFile h setup path)

theorem getElem?_reports_congr (h : after.AgreesOff disk location) (setup : Setup) {i : Nat}
    (hpath : files[i]? = some path) (away : disk.locate path ≠ .ok location) :
    ((setup.stripFiles after files).2.filterMap Event.report?)[i]? =
      ((setup.stripFiles disk files).2.filterMap Event.report?)[i]? := by
  have hbefore := agreesOff_stripFiles h setup (files.take i)
  have hlocate : (setup.stripFiles disk (files.take i)).1.locate path = disk.locate path :=
    Disk.locate_congr (setup.shape_stripFiles disk (files.take i)) path
  have haway : ∀ path' ∈ [path],
      (setup.stripFiles disk (files.take i)).1.locate path' ≠ .ok location :=
    List.forall_mem_singleton.2 (hlocate ▸ away)
  rw [getElem?_reports_stripFiles, getElem?_reports_stripFiles, hpath, Option.map_some,
    Option.map_some, stripFile_snd_congr (readsAs_of_agreesOff hbefore haway)]

theorem stripFrom_snd_congr (h : after.AgreesOff disk location) (setup : Setup) (total done : Nat)
    (away : ∀ path ∈ files, disk.locate path ≠ .ok location) :
    (setup.stripFrom after total done files).2 = (setup.stripFrom disk total done files).2 := by
  induction files generalizing after disk done with
  | nil => rfl
  | cons path files ih =>
    have haway : ∀ path' ∈ files, (setup.stripFile disk path).1.locate path' ≠ .ok location := by
      intro path' hmem
      rw [locate_stripFile]
      exact away path' (List.mem_cons_of_mem path hmem)
    rw [stripFrom_cons, stripFrom_cons, stripFile_snd_congr (readsAs_of_agreesOff h away),
      ih (agreesOff_stripFile h setup path) _ haway]

theorem stripFiles_snd_congr (h : after.AgreesOff disk location) (setup : Setup)
    (away : ∀ path ∈ files, disk.locate path ≠ .ok location) :
    (setup.stripFiles after files).2 = (setup.stripFiles disk files).2 :=
  congrArg (Event.progress ⟨setup.label, 0, files.length⟩ :: ·)
    (stripFrom_snd_congr h setup files.length 0 away)

end Setup

namespace Request

open Config

variable {request : Request} {disk disk' : Disk} {location : Location}
  {members members' : List (Wide × Json)} {named : Option String} {seconds : String}

theorem prepare_congr (hload : request.loadConfig disk' = request.loadConfig disk)
    (hshape : disk'.shape = disk.shape) : request.prepare disk' = request.prepare disk := by
  rw [prepare, prepare, hload]
  generalize request.loadConfig disk = loaded
  obtain ⟨file, loading⟩ := loaded
  cases file with
  | error error => rfl
  | ok layer => simp only [Setup.select_congr hshape]

theorem output_congr (h : request.prepare disk' = request.prepare disk)
    (hevents : ∀ setup files, (request.prepare disk).1 = .ok (setup, files) →
      (setup.stripFiles disk' files).2 = (setup.stripFiles disk files).2) :
    (request.run named seconds disk').output = (request.run named seconds disk).output := by
  rw [output_run, output_run, transcript, transcript, h]
  generalize request.prepare disk = prepared at hevents
  obtain ⟨result, log⟩ := prepared
  cases result with
  | error error => rfl
  | ok ready => simp only [hevents ready.1 ready.2 rfl]

theorem agreesOff_run (h : disk'.AgreesOff disk location)
    (hprepare : request.prepare disk' = request.prepare disk) :
    (request.run named seconds disk').disk.AgreesOff (request.run named seconds disk).disk
      location := by
  rw [disk_run, disk_run, hprepare]
  cases (request.prepare disk).1 with
  | error error => exact h
  | ok ready => exact Setup.agreesOff_stripFiles h ready.1 ready.2

theorem get?_run (hprepare : request.prepare disk' = request.prepare disk)
    (hshape : disk'.shape = disk.shape)
    (away : ∀ setup files, (request.prepare disk).1 = .ok (setup, files) →
      ∀ path ∈ files, disk.locate path ≠ .ok location) :
    (request.run named seconds disk').disk.get? location = disk'.get? location := by
  rw [disk_run, hprepare]
  cases hready : (request.prepare disk).1 with
  | error error => rfl
  | ok ready =>
    refine Setup.get?_stripFrom_of_ne fun path hmem => ?_
    rw [Disk.locate_congr hshape]
    exact away ready.1 ready.2 hready path hmem

/-- The settings of a session are those of the flags, or else of the file of settings, or else the
defaults, but what the flags exclude is excluded beside what the file does. So such flags take files
from those that are processed without them, and change nothing else about these. Fields that are not
known have no say: trees that differ only in them make the same settings, files and messages. What
becomes of the files is the same as well, except that the file of settings may be processed itself. -/
theorem prepare_precedence (request : Request) (disk : Disk) :
    (∀ layer, (request.loadConfig disk).1 = .ok layer →
      (∃ members, request.Holds disk members ∧
        request.Governs members (request.setup layer).config) ∧
      (request.setup layer).dryRun = request.dryRun ∧
      (request.setup layer).skipMissing = request.skipMissing ∧
      ∀ setup files, (request.prepare disk).1 = .ok (setup, files) →
        setup = request.setup layer) ∧
    (∀ exclude : List Wide, ({ request with exclude } : Request).processed disk =
      (({ request with exclude := [] } : Request).processed disk).map
        (List.filter (Path.lacks exclude))) ∧
    (∀ (exclude : List Wide) (path : String), Path.lacks exclude path = true ↔
      ∀ part ∈ exclude, ¬part.units <:+: Text.units path.toList) ∧
    ∀ disk' location members members', disk'.AgreesOff disk location →
      request.Holds disk members → request.Holds disk' members' →
      (∀ field : Field, Json.member? field.name members' = Json.member? field.name members) →
      request.prepare disk' = request.prepare disk ∧
      (∀ setup files, (request.prepare disk).1 = .ok (setup, files) →
        ∀ (i : Nat) (path : String), files[i]? = some path → disk.locate path ≠ .ok location →
          ((setup.stripFiles disk' files).2.filterMap Event.report?)[i]? =
            ((setup.stripFiles disk files).2.filterMap Event.report?)[i]?) ∧
      ∀ named seconds,
        let report := request.run named seconds disk
        let report' := request.run named seconds disk'
        report'.exitCode = report.exitCode ∧ report'.disk.AgreesOff report.disk location ∧
          ((∀ setup files, (request.prepare disk).1 = .ok (setup, files) →
              ∀ path ∈ files, disk.locate path ≠ .ok location) →
            report'.output = report.output ∧ report'.disk.get? location = disk'.get? location) := by
  refine ⟨fun layer h => ⟨?_, rfl, rfl, ?_⟩, fun exclude => request.processed_exclude exclude disk,
    fun _ _ => Path.lacks_iff, ?_⟩
  · obtain ⟨members, hholds, hlayer⟩ := exists_holds_of_loadConfig h
    exact ⟨members, hholds, governs_setup hlayer request⟩
  · intro setup files hready
    rw [prepare_of_loaded h] at hready
    split at hready
    next => cases hready
    next => exact (Prod.mk.inj (Except.ok.inj hready)).1.symm
  · intro disk' location members members' hagrees hholds hholds' hsame
    have hprepare := prepare_congr (loadConfig_congr hholds hholds' hsame) hagrees.shape
    refine ⟨hprepare, fun setup files _ i path => Setup.getElem?_reports_congr hagrees setup, ?_⟩
    intro named seconds report report'
    refine ⟨?_, agreesOff_run hagrees hprepare, fun away => ⟨?_, ?_⟩⟩
    · rw [exitCode_run, exitCode_run, hprepare]
    · exact output_congr hprepare fun setup files hready =>
        Setup.stripFiles_snd_congr hagrees setup (away setup files hready)
    · exact get?_run hprepare hagrees.shape away

def settledFile (extra : String) : Entry :=
  .file ("\x7b\"exclude\": [\"gen\"], \"headerLines\": 2, \"extra\": " ++ extra ++ "\x7d").toUTF8

def settledDisk (extra : String) : Disk where
  here := []
  entries := [(["c.json"], settledFile extra), (["a.rs"], .file "x // y\n".toUTF8),
    (["b.rs"], .file ByteArray.empty), (["gen.rs"], .file ByteArray.empty)]

def settledRequest : Request where
  paths := ["b.rs", "gen.rs", "a.rs"]
  configFile := some (.path "c.json")

set_option maxRecDepth 2000 in
theorem prepare_precedence_extra :
    (settledRequest.loadConfig (settledDisk "1")).1 =
        .ok { exclude := some ["gen"], headerLines := some 2 } ∧
      (settledRequest.setup { exclude := some ["gen"], headerLines := some 2 }).dryRun = false ∧
      ({ settledRequest with exclude := ["b"] } : Request).processed (settledDisk "1") =
        .ok ["a.rs"] ∧
      settledRequest.prepare (settledDisk "[]") = settledRequest.prepare (settledDisk "1") ∧
      (settledRequest.run none "0.01" (settledDisk "[]")).output =
        (settledRequest.run none "0.01" (settledDisk "1")).output := by
  have hlayer : (settledRequest.loadConfig (settledDisk "1")).1 =
      .ok { exclude := some ["gen"], headerLines := some 2 } := by decide +kernel
  have hready : (settledRequest.prepare (settledDisk "1")).1 =
      .ok (settledRequest.setup { exclude := some ["gen"], headerLines := some 2 },
        ["b.rs", "a.rs"]) := by decide +kernel
  have hprocessed : ({ settledRequest with exclude := [] } : Request).processed (settledDisk "1") =
      .ok ["b.rs", "a.rs"] := by decide +kernel
  have hput : (settledDisk "1").put ["c.json"] (settledFile "[]") = settledDisk "[]" := rfl
  have hagrees : (settledDisk "[]").AgreesOff (settledDisk "1") ["c.json"] :=
    hput ▸ Disk.agreesOff_put rfl (by decide)
  have hholds : settledRequest.Holds (settledDisk "1")
      [("exclude", .array [.string "gen"]), ("headerLines", .number ⟨false, 2, 0⟩),
        ("extra", .number ⟨false, 1, 0⟩)] := .file rfl rfl rfl
  have hholds' : settledRequest.Holds (settledDisk "[]")
      [("exclude", .array [.string "gen"]), ("headerLines", .number ⟨false, 2, 0⟩),
        ("extra", .array [])] := .file rfl rfl rfl
  obtain ⟨hsettings, hexclude, -, hunknown⟩ := prepare_precedence settledRequest (settledDisk "1")
  obtain ⟨-, hdry, -⟩ := hsettings _ hlayer
  obtain ⟨hprepare, -, hrun⟩ := hunknown _ _ _ _ hagrees hholds hholds' fun field => by
    cases field <;> rfl
  obtain ⟨-, -, hoff⟩ := hrun none "0.01"
  refine ⟨hlayer, hdry, (hexclude ["b"]).trans ?_, hprepare, (hoff fun setup files h => ?_).1⟩
  · rw [hprocessed]
    decide +kernel
  · obtain ⟨-, rfl⟩ := Prod.mk.inj (Except.ok.inj (hready.symm.trans h))
    decide +kernel

end Request

end LineComment
