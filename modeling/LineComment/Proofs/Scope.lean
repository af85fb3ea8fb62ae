import LineComment.Proofs.Spelling

namespace LineComment

theorem Disk.mem_filesBelow {disk : Disk} {location : Location} {entry : String} :
    entry ∈ disk.filesBelow location ↔
      ∃ names content, (location ++ names, .file content) ∈ disk.entries ∧ names ≠ [] ∧
        (∀ name ∈ names, isHidden name = false) ∧ "/".intercalate names = entry := by
  rw [filesBelow, List.mem_filterMap]
  constructor
  · rintro ⟨⟨found, held⟩, hheld, hentry⟩
    cases held with
    | directory | device => cases hentry
    | file content =>
      simp only [Option.ite_none_right_eq_some, Bool.and_eq_true,
        List.isPrefixOf_iff_prefix] at hentry
      obtain ⟨⟨⟨⟨names, rfl⟩, hne⟩, hvisible⟩, hentry⟩ := hentry
      rw [List.drop_left] at hne hvisible hentry
      exact ⟨names, content, hheld, by simpa using hne, by simpa using hvisible,
        Option.some.inj hentry⟩
  · rintro ⟨names, content, hheld, hne, hvisible, rfl⟩
    exact ⟨_, hheld, by simpa [hne] using hvisible⟩

namespace Setup

variable {setup : Setup} {disk : Disk} {selection result : Selection} {path file : String}
  {paths found : List String} {reason : SkipReason} {i : Nat}

/-- A given path yields the file that it leads to, or the visible files at any depth below the
directory that it leads to. All must have a wanted extension. -/
inductive Yields (setup : Setup) (disk : Disk) (path : String) : String → Prop
  | itself {location : Location} {content : ByteArray} (h : disk.locate path = .ok location)
      (isFile : disk.get? location = some (.file content))
      (wanted : Wide.ofString (Path.extension path) ∈ setup.config.extensions) :
      Yields setup disk path path
  | below {location names : Location} {content : ByteArray} (h : disk.locate path = .ok location)
      (isDirectory : disk.get? location = some .directory)
      (held : (location ++ names, .file content) ∈ disk.entries) (inside : names ≠ [])
      (visible : ∀ name ∈ names, Disk.isHidden name = false)
      (wanted : Wide.ofString (Path.extension ("/".intercalate names)) ∈ setup.config.extensions) :
      Yields setup disk path (Path.join path ("/".intercalate names))

inductive Skips (setup : Setup) (disk : Disk) (path : String) : SkipReason → Prop
  | extension {location : Location} {content : ByteArray} (h : disk.locate path = .ok location)
      (isFile : disk.get? location = some (.file content))
      (other : Wide.ofString (Path.extension path) ∉ setup.config.extensions) :
      Skips setup disk path (.extension setup.config.extensions)
  | missing {fault : Fault} (h : disk.locate path = .error fault)
      (gone : fault = .missing ∨ fault = .notDirectory) (lenient : setup.skipMissing = true) :
      Skips setup disk path (.absent .missing)
  | neither {location : Location} (h : disk.locate path = .ok location)
      (noFile : ∀ content, disk.get? location ≠ some (.file content))
      (noDirectory : disk.get? location ≠ some .directory) (lenient : setup.skipMissing = true) :
      Skips setup disk path (.absent .neither)

def FirstYields (setup : Setup) (disk : Disk) (paths : List String) (i : Nat) (file : String) :
    Prop :=
  ∃ path, paths[i]? = some path ∧ setup.Yields disk path file ∧
    ∀ earlier ∈ paths.take i, ¬setup.Yields disk earlier file

def Precedes (setup : Setup) (disk : Disk) (paths : List String) (file file' : String) : Prop :=
  ∃ i j, setup.FirstYields disk paths i file ∧ setup.FirstYields disk paths j file' ∧
    (i < j ∨ i = j ∧ Text.unitsLe file file' = true)

section Paths

theorem excludes_eq_false_iff :
    setup.excludes file = false ↔
      ∀ part ∈ setup.config.exclude, ¬part.units <:+: Text.units file.toList := by
  simp [excludes, ← Text.occurs_iff]

theorem wants_iff :
    setup.wants path = true ↔ Wide.ofString (Path.extension path) ∈ setup.config.extensions := by
  simp [wants]

theorem inspect_of_file {location : Location} {content : ByteArray}
    (h : disk.locate path = .ok location) (isFile : disk.get? location = some (.file content)) :
    setup.inspect disk path = .ok (if setup.wants path then .files [path]
      else .skip (.extension setup.config.extensions)) := by
  simp only [inspect, h, isFile]

theorem inspect_of_gone {fault : Fault} (h : disk.locate path = .error fault)
    (gone : fault = .missing ∨ fault = .notDirectory) :
    setup.inspect disk path = setup.passOver path .missing := by
  obtain rfl | rfl := gone <;> simp only [inspect, h]

theorem inspect_of_neither {location : Location} (h : disk.locate path = .ok location)
    (noFile : ∀ content, disk.get? location ≠ some (.file content))
    (noDirectory : disk.get? location ≠ some .directory) :
    setup.inspect disk path = setup.passOver path .neither := by
  rw [inspect, h]
  dsimp only
  split
  next content hget => exact absurd hget (noFile content)
  next hget => exact absurd hget noDirectory
  next => rfl
  next => rfl

theorem yields_iff :
    setup.Yields disk path file ↔
      ∃ found, setup.inspect disk path = .ok (.files found) ∧ file ∈ found := by
  constructor
  · rintro (⟨h, hfile, hwanted⟩ |
      @⟨location, _, _, h, hdirectory, hheld, hinside, hvisible, hwanted⟩)
    · refine ⟨[path], ?_, List.mem_singleton_self path⟩
      rw [inspect_of_file h hfile, if_pos (wants_iff.2 hwanted)]
    · refine ⟨setup.listing disk path location, by simp only [inspect, h, hdirectory], ?_⟩
      exact mem_listing.2
        ⟨_, Disk.mem_filesBelow.2 ⟨_, _, hheld, hinside, hvisible, rfl⟩, wants_iff.2 hwanted, rfl⟩
  · rintro ⟨found, hfound, hmem⟩
    obtain ⟨location, h, ⟨content, hfile, hwants, rfl⟩ | ⟨hdirectory, rfl⟩⟩ :=
      found_of_inspect hfound
    · obtain rfl := List.mem_singleton.1 hmem
      exact .itself h hfile (wants_iff.1 hwants)
    · obtain ⟨entry, hentry, hwants, rfl⟩ := mem_listing.1 hmem
      obtain ⟨names, content, hheld, hinside, hvisible, rfl⟩ := Disk.mem_filesBelow.1 hentry
      exact .below h hdirectory hheld hinside hvisible (wants_iff.1 hwants)

theorem passOver_eq_skip_iff {absence : Absence} :
    setup.passOver path absence = .ok (.skip reason) ↔
      setup.skipMissing = true ∧ .absent absence = reason := by
  rw [passOver]
  split <;> simp_all

theorem skips_iff :
    setup.Skips disk path reason ↔ setup.inspect disk path = .ok (.skip reason) := by
  constructor
  · rintro (⟨h, hfile, hother⟩ | ⟨h, hgone, hlenient⟩ | ⟨h, hfile, hdirectory, hlenient⟩)
    · rw [inspect_of_file h hfile, if_neg (mt wants_iff.1 hother)]
    · rw [inspect_of_gone h hgone]
      exact passOver_eq_skip_iff.2 ⟨hlenient, rfl⟩
    · rw [inspect_of_neither h hfile hdirectory]
      exact passOver_eq_skip_iff.2 ⟨hlenient, rfl⟩
  · intro hskip
    cases hlocate : disk.locate path with
    | error fault =>
      rw [inspect, hlocate] at hskip
      cases fault with
      | missing | notDirectory =>
        obtain ⟨hlenient, rfl⟩ := passOver_eq_skip_iff.1 hskip
        exact .missing hlocate (by simp) hlenient
      | nullByte | nameTooLong | isDirectory => cases hskip
    | ok location =>
      rw [inspect, hlocate] at hskip
      dsimp only at hskip
      split at hskip
      next content hfile =>
        split at hskip
        next => cases hskip
        next hwants =>
          cases hskip
          exact .extension hlocate hfile (mt wants_iff.2 hwants)
      next => cases hskip
      all_goals
        obtain ⟨hlenient, rfl⟩ := passOver_eq_skip_iff.1 hskip
        exact .neither hlocate (by simp [*]) (by simp [*]) hlenient

end Paths

section Order

theorem mem_spelled :
    file ∈ setup.spelled disk path ↔
      setup.excludes file = false ∧ setup.Yields disk path file := by
  rw [yields_iff, spelled]
  split
  next found hfound => simp [hfound, and_comm]
  next reason hskip => simp [hskip]
  next error herror => simp [herror]

theorem mem_spellings :
    file ∈ setup.spellings disk paths ↔
      setup.excludes file = false ∧ ∃ path ∈ paths, setup.Yields disk path file := by
  simp only [spellings, List.mem_flatMap, mem_spelled]
  constructor
  · rintro ⟨path, hpath, hkept, hyields⟩
    exact ⟨hkept, path, hpath, hyields⟩
  · rintro ⟨hkept, path, hpath, hyields⟩
    exact ⟨path, hpath, hkept, hyields⟩

theorem pairwise_spelled (setup : Setup) (disk : Disk) (path : String) :
    (setup.spelled disk path).Pairwise fun file file' => Text.unitsLe file file' = true := by
  rw [spelled]
  split
  next found hfound =>
    refine List.Pairwise.filter _ ?_
    obtain ⟨location, _, ⟨_, _, _, rfl⟩ | ⟨_, rfl⟩⟩ := found_of_inspect hfound
    · exact List.pairwise_singleton _ path
    · exact @List.pairwise_mergeSort _ Text.unitsLe (fun _ _ _ => Text.unitsLe_trans)
        Text.unitsLe_total _
  all_goals exact .nil

theorem FirstYields.append (h : setup.FirstYields disk paths i file) (more : List String) :
    setup.FirstYields disk (paths ++ more) i file := by
  obtain ⟨path, hpath, hyields, hfirst⟩ := h
  have hi : i < paths.length := (List.getElem?_eq_some_iff.1 hpath).1
  refine ⟨path, by rw [List.getElem?_append_left hi, hpath], hyields, ?_⟩
  rwa [List.take_append_of_le_length hi.le]

theorem firstYields_concat (h : setup.Yields disk path file)
    (hfirst : ∀ earlier ∈ paths, ¬setup.Yields disk earlier file) :
    setup.FirstYields disk (paths ++ [path]) paths.length file :=
  ⟨path, List.getElem?_concat_length, h, by rwa [List.take_left]⟩

theorem exists_firstYields (h : ∃ path ∈ paths, setup.Yields disk path file) :
    ∃ i < paths.length, setup.FirstYields disk paths i file := by
  induction paths using List.reverseRecOn with
  | nil => simp at h
  | append_singleton paths path ih =>
    rw [List.length_append, List.length_singleton]
    by_cases hbefore : ∃ path ∈ paths, setup.Yields disk path file
    · obtain ⟨i, hi, hfirst⟩ := ih hbefore
      exact ⟨i, by omega, hfirst.append [path]⟩
    · simp only [not_exists, not_and] at hbefore
      have hlast : setup.Yields disk path file := by
        obtain ⟨other, hother, hyields⟩ := h
        obtain hother | rfl : other ∈ paths ∨ other = path := by simpa using hother
        · exact absurd hyields (hbefore other hother)
        · exact hyields
      exact ⟨paths.length, by omega, firstYields_concat hlast hbefore⟩

theorem firstYields_of_added
    (h : file ∈ (setup.spelled disk path).removeAll (setup.spellings disk paths)) :
    setup.FirstYields disk (paths ++ [path]) paths.length file := by
  simp only [List.removeAll, List.mem_filter, Bool.not_eq_eq_eq_not, Bool.not_true,
    List.elem_eq_contains, List.contains_eq_mem, decide_eq_false_iff_not] at h
  obtain ⟨hspelled, hnew⟩ := h
  obtain ⟨hkept, hyields⟩ := mem_spelled.1 hspelled
  refine firstYields_concat hyields fun earlier hearlier hyields => hnew ?_
  exact mem_spellings.2 ⟨hkept, earlier, hearlier, hyields⟩

/-- By induction on the paths from the left: what a path adds are files that no earlier one yields,
so it is the first for each. -/
theorem pairwise_precedes (setup : Setup) (disk : Disk) (paths : List String) :
    (setup.spellings disk paths).eraseDups.Pairwise (setup.Precedes disk paths) := by
  induction paths using List.reverseRecOn with
  | nil => exact .nil
  | append_singleton paths path ih =>
    have hconcat : setup.spellings disk (paths ++ [path]) =
        setup.spellings disk paths ++ setup.spelled disk path := by simp [spellings]
    rw [hconcat, List.eraseDups_append, List.pairwise_append]
    refine ⟨ih.imp ?_, ?_, ?_⟩
    · rintro file file' ⟨i, j, hfile, hfile', horder⟩
      exact ⟨i, j, hfile.append [path], hfile'.append [path], horder⟩
    · have hsublist : List.Sublist
          ((setup.spelled disk path).removeAll (setup.spellings disk paths)).eraseDups
          (setup.spelled disk path) := (eraseDups_sublist _).trans List.filter_sublist
      refine List.Pairwise.imp_of_mem ?_ ((setup.pairwise_spelled disk path).sublist hsublist)
      intro file file' hfile hfile' hle
      rw [List.mem_eraseDups] at hfile hfile'
      exact ⟨paths.length, paths.length, firstYields_of_added hfile, firstYields_of_added hfile',
        .inr ⟨rfl, hle⟩⟩
    · intro file hfile file' hfile'
      rw [List.mem_eraseDups] at hfile hfile'
      obtain ⟨i, hi, hfirst⟩ := exists_firstYields (mem_spellings.1 hfile).2
      exact ⟨i, paths.length, hfirst.append [path], firstYields_of_added hfile', .inl hi⟩

end Order

section Skipped

def skipped? (setup : Setup) (disk : Disk) (path : String) : Option (String × SkipReason) :=
  match setup.inspect disk path with
  | .ok (.skip reason) => some (path, reason)
  | .ok (.files _) | .error _ => none

theorem skipped?_eq_some_iff {path' : String} :
    setup.skipped? disk path = some (path', reason) ↔
      path = path' ∧ setup.Skips disk path reason := by
  rw [skips_iff, skipped?]
  split
  next reason' hskip => simp [hskip]
  next found hfound => simp [hfound]
  next error herror => simp [herror]

theorem skipped_gather (setup : Setup) (selection : Selection) (found : List String) :
    (setup.gather selection found).1.skipped = selection.skipped := by
  induction found generalizing selection with
  | nil => rfl
  | cons path found ih =>
    rw [gather]
    split
    next => exact ih selection
    next =>
      split
      next => exact ih selection
      next => exact ih _

theorem warnings_gather (setup : Setup) (selection : Selection) (found : List String) :
    (setup.gather selection found).2.filter (fun told => told.severity = .warn) = [] := by
  induction found generalizing selection with
  | nil => rfl
  | cons path found ih =>
    rw [gather]
    split
    next => simpa using ih selection
    next =>
      split
      next => exact ih selection
      next => exact ih _

theorem skipped_selectFrom (h : (setup.selectFrom disk selection paths).1 = .ok result) :
    result.skipped = selection.skipped ++ paths.filterMap (setup.skipped? disk) := by
  induction paths generalizing selection with
  | nil =>
    obtain rfl : selection = result := Except.ok.inj h
    simp
  | cons path paths ih =>
    rw [selectFrom] at h
    split at h
    next => cases h
    next reason hskip =>
      have hskipped := skipped?_eq_some_iff.2 ⟨rfl, skips_iff.2 hskip⟩
      rw [ih h, List.filterMap_cons_some hskipped, List.append_assoc, List.singleton_append]
    next found hfound =>
      have hskipped : setup.skipped? disk path = none := by rw [skipped?, hfound]
      rw [ih h, skipped_gather, List.filterMap_cons_none hskipped]

theorem warnings_selectFrom (h : (setup.selectFrom disk selection paths).1 = .ok result) :
    (setup.selectFrom disk selection paths).2.filter (fun told => told.severity = .warn) =
      (paths.filterMap (setup.skipped? disk)).map fun (path, reason) =>
        ⟨.warn, "Skipping " ++ path ++ ": " ++ reason.text⟩ := by
  induction paths generalizing selection with
  | nil => rfl
  | cons path paths ih =>
    rw [selectFrom] at h ⊢
    split at h
    next => cases h
    next reason hskip =>
      have hskipped := skipped?_eq_some_iff.2 ⟨rfl, skips_iff.2 hskip⟩
      simp [List.filterMap_cons_some hskipped, ih h]
    next found hfound =>
      have hskipped : setup.skipped? disk path = none := by rw [skipped?, hfound]
      simp [List.filterMap_cons_none hskipped, warnings_gather, ih h]

variable (h : (setup.select disk paths).1 = .ok result)
include h

theorem skipped_select : result.skipped = paths.filterMap (setup.skipped? disk) :=
  skipped_selectFrom h

theorem mem_skipped_select :
    (path, reason) ∈ result.skipped ↔ path ∈ paths ∧ setup.Skips disk path reason := by
  simp [skipped_select h, skipped?_eq_some_iff]

omit h in
theorem map_fst_filterMap_skipped? (setup : Setup) (disk : Disk) (paths : List String) :
    (paths.filterMap (setup.skipped? disk)).map Prod.fst =
      paths.filter fun path => (setup.skipped? disk path).isSome := by
  induction paths with
  | nil => rfl
  | cons path paths ih =>
    cases hskipped : setup.skipped? disk path with
    | none => simp [hskipped, ih]
    | some skip =>
      obtain ⟨path', reason⟩ := skip
      obtain ⟨rfl, _⟩ := skipped?_eq_some_iff.1 hskipped
      simp [hskipped, ih]

theorem mem_map_skipped_select :
    path ∈ result.skipped.map Prod.fst ↔
      path ∈ paths ∧ (setup.skipped? disk path).isSome = true := by
  rw [skipped_select h, map_fst_filterMap_skipped?, List.mem_filter]

theorem map_skipped_select :
    result.skipped.map Prod.fst = paths.filter (· ∈ result.skipped.map Prod.fst) := by
  have hsame : ∀ path ∈ paths, (setup.skipped? disk path).isSome =
      decide (path ∈ result.skipped.map Prod.fst) := by
    intro path hpath
    simp [-List.mem_map, mem_map_skipped_select h, hpath]
  calc result.skipped.map Prod.fst
      = paths.filter fun path => (setup.skipped? disk path).isSome := by
        rw [skipped_select h, map_fst_filterMap_skipped?]
    _ = paths.filter (· ∈ result.skipped.map Prod.fst) := List.filter_congr hsame

theorem spellings_filter_skipped :
    setup.spellings disk (paths.filter (· ∉ result.skipped.map Prod.fst)) =
      setup.spellings disk paths := by
  have hnone : ∀ path ∈ result.skipped.map Prod.fst, setup.spelled disk path = [] := by
    intro path hpath
    obtain ⟨skip, hskip⟩ := Option.isSome_iff_exists.1 ((mem_map_skipped_select h).1 hpath).2
    obtain ⟨rfl, hskips⟩ := skipped?_eq_some_iff.1 hskip
    rw [spelled, skips_iff.1 hskips]
  clear h
  induction paths with
  | nil => rfl
  | cons path paths ih =>
    by_cases hskipped : path ∈ result.skipped.map Prod.fst
    · rw [List.filter_cons_of_neg (by simpa using hskipped), ih]
      simp [spellings, hnone path hskipped]
    · rw [List.filter_cons_of_pos (by simpa using hskipped)]
      simpa [spellings] using ih

theorem select_filter_skipped :
    (setup.select disk (paths.filter (· ∉ result.skipped.map Prod.fst))).1 =
      .ok { files := result.files } := by
  have hinspect := exists_selectFrom_iff.1 ⟨result, h⟩
  obtain ⟨kept, hkept⟩ : ∃ kept,
      (setup.select disk (paths.filter (· ∉ result.skipped.map Prod.fst))).1 = .ok kept :=
    exists_selectFrom_iff.2 fun path hpath => hinspect path (List.mem_of_mem_filter hpath)
  have hfiles : kept.files = result.files := by
    rw [files_select hkept, files_select h, spellings_filter_skipped h]
  have hskipped : kept.skipped = [] := by
    rw [List.eq_nil_iff_forall_not_mem]
    rintro ⟨path, reason⟩ hmem
    obtain ⟨hpath, hskips⟩ := (mem_skipped_select hkept).1 hmem
    rw [List.mem_filter] at hpath
    have hgone : path ∈ result.skipped.map Prod.fst :=
      List.mem_map.2 ⟨(path, reason), (mem_skipped_select h).2 ⟨hpath.1, hskips⟩, rfl⟩
    exact absurd hgone (of_decide_eq_true hpath.2)
  rw [hkept, ← hfiles, ← hskipped]

end Skipped

/-- The files of a run are those in its scope, each once and in order, and the skipped paths are told
of one by one and take nothing away. -/
theorem select_scope (h : (setup.select disk paths).1 = .ok result) :
    (∀ file, file ∈ result.files ↔
        (∀ part ∈ setup.config.exclude, ¬part.units <:+: Text.units file.toList) ∧
          ∃ path ∈ paths, setup.Yields disk path file) ∧
      result.files.Nodup ∧
      result.files.Pairwise (setup.Precedes disk paths) ∧
      (∀ path reason, (path, reason) ∈ result.skipped ↔
        path ∈ paths ∧ setup.Skips disk path reason) ∧
      result.skipped.map Prod.fst = paths.filter (· ∈ result.skipped.map Prod.fst) ∧
      (setup.select disk paths).2.filter (fun told => told.severity = .warn) =
        result.skipped.map (fun (path, reason) =>
          ⟨.warn, "Skipping " ++ path ++ ": " ++ reason.text⟩) ∧
      (setup.select disk (paths.filter (· ∉ result.skipped.map Prod.fst))).1 =
        .ok { files := result.files } := by
  have hfiles := files_select h
  refine ⟨fun file => ?_, ?_, ?_, fun path reason => mem_skipped_select h, map_skipped_select h, ?_,
    select_filter_skipped h⟩
  · rw [hfiles, List.mem_eraseDups, mem_spellings, excludes_eq_false_iff]
  · rw [hfiles]
    exact nodup_eraseDups _
  · rw [hfiles]
    exact setup.pairwise_precedes disk paths
  · rw [skipped_select h]
    exact warnings_selectFrom h

def nestedDisk : Disk where
  here := []
  entries := [(["notes.md"], .file ByteArray.empty), (["src"], .directory),
    (["src", ".c.rs"], .file ByteArray.empty), (["src", "a.rs"], .file ByteArray.empty),
    (["src", "b.rs"], .file ByteArray.empty), (["src", "gen.rs"], .file ByteArray.empty)]

def nestedSetup : Setup where
  config.exclude := ["gen"]
  skipMissing := true

theorem select_scope_nested :
    (nestedSetup.select nestedDisk ["src/b.rs", "notes.md", "src", "gone", "notes.md"]).1 =
        .ok { files := ["src/b.rs", "src/a.rs"]
              skipped := [("notes.md", .extension [".rs"]), ("gone", .absent .missing),
                ("notes.md", .extension [".rs"])] } ∧
      (nestedSetup.select nestedDisk ["src/b.rs", "src"]).1 =
        .ok { files := ["src/b.rs", "src/a.rs"] } ∧
      nestedSetup.Precedes nestedDisk ["src/b.rs", "notes.md", "src", "gone", "notes.md"]
        "src/b.rs" "src/a.rs" := by
  have hlisting : nestedSetup.listing nestedDisk "src" ["src"] =
      ["src/a.rs", "src/b.rs", "src/gen.rs"] := List.mergeSort_of_pairwise (by decide +kernel)
  have hdirectory : nestedSetup.inspect nestedDisk "src" =
      .ok (.files ["src/a.rs", "src/b.rs", "src/gen.rs"]) :=
    congrArg (fun files => Except.ok (Finding.files files)) hlisting
  have hfile : nestedSetup.inspect nestedDisk "src/b.rs" = .ok (.files ["src/b.rs"]) := by
    decide +kernel
  have hother : nestedSetup.inspect nestedDisk "notes.md" = .ok (.skip (.extension [".rs"])) := by
    decide +kernel
  have hgone : nestedSetup.inspect nestedDisk "gone" = .ok (.skip (.absent .missing)) := by
    decide +kernel
  have returned :
      (nestedSetup.select nestedDisk ["src/b.rs", "notes.md", "src", "gone", "notes.md"]).1 =
        .ok { files := ["src/b.rs", "src/a.rs"]
              skipped := [("notes.md", .extension [".rs"]), ("gone", .absent .missing),
                ("notes.md", .extension [".rs"])] } := by
    simp only [select, selectFrom, hfile, hother, hdirectory, hgone]
    decide +kernel
  obtain ⟨_, _, hordered, _, _, _, hkept⟩ := select_scope returned
  exact ⟨returned, hkept, List.rel_of_pairwise_cons hordered (by simp)⟩

end Setup

end LineComment
