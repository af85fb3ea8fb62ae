import LineComment.Proofs.Lines
import LineComment.Proofs.Rewriting

namespace LineComment

namespace Path

variable {absolute : Bool} {part path directory : String} {here names before : List String}

structure IsName (part : String) : Prop where
  nonempty : part ≠ ""
  noCurrent : part ≠ "."
  noParent : part ≠ ".."
  noSlash : '/' ∉ part.toList

theorem push_of_isName (h : IsName part) (absolute : Bool) (before : List String) :
    push absolute before part = part :: before := by
  simp [push, h.nonempty, h.noCurrent, h.noParent]

theorem foldl_push_of_isName (h : ∀ name ∈ names, IsName name) (absolute : Bool)
    (before : List String) : names.foldl (push absolute) before = names.reverse ++ before := by
  induction names generalizing before with
  | nil => rfl
  | cons name names ih =>
    obtain ⟨hname, hnames⟩ := List.forall_mem_cons.1 h
    rw [List.foldl_cons, push_of_isName hname, ih hnames, List.reverse_cons, List.append_assoc,
      List.singleton_append]

theorem isName_push (hpart : '/' ∉ part.toList) (h : ∀ name ∈ before, IsName name) :
    ∀ name ∈ push true before part, IsName name := by
  unfold push
  split
  next => exact h
  next hstay =>
    split
    next =>
      cases before with
      | nil => simp
      | cons last rest =>
        obtain ⟨hlast, hrest⟩ := List.forall_mem_cons.1 h
        simpa [hlast.noParent] using hrest
    next hparent =>
      rw [not_or] at hstay
      exact List.forall_mem_cons.2 ⟨⟨hstay.1, hstay.2, hparent, hpart⟩, h⟩

theorem isName_foldl_push {parts : List String} (hparts : ∀ part ∈ parts, '/' ∉ part.toList)
    (h : ∀ name ∈ before, IsName name) : ∀ name ∈ parts.foldl (push true) before, IsName name := by
  induction parts generalizing before with
  | nil => exact h
  | cons part parts ih =>
    obtain ⟨hpart, hparts⟩ := List.forall_mem_cons.1 hparts
    exact ih hparts (isName_push hpart h)

theorem slash_not_mem_of_mem_parts (h : part ∈ parts path) : '/' ∉ part.toList := by
  obtain ⟨chars, hchars, rfl⟩ := List.mem_map.1 h
  simpa using not_mem_of_mem_splitOn hchars

theorem isName_of_mem_normalParts {name : String} (h : name ∈ normalParts true path) :
    IsName name :=
  isName_foldl_push (fun _ => slash_not_mem_of_mem_parts) (by simp) name (List.mem_reverse.1 h)

theorem parts_slash_append (path : String) : parts ("/" ++ path) = "" :: parts path := by
  have hsplit : ('/' :: path.toList).splitOn '/' = [] :: path.toList.splitOn '/' :=
    List.splitOn_append_cons_self [] path.toList
  simp [parts, String.toList_append, hsplit]

theorem normalParts_slash_append (absolute : Bool) (path : String) :
    normalParts absolute ("/" ++ path) = normalParts absolute path := by
  rw [normalParts, parts_slash_append, List.foldl_cons]
  rfl

theorem parts_intercalate (h : ∀ name ∈ names, IsName name) (hne : names ≠ []) :
    parts ("/".intercalate names) = names := by
  have hslash : ∀ chars ∈ names.map String.toList, '/' ∉ chars := by
    intro chars hchars
    obtain ⟨name, hname, rfl⟩ := List.mem_map.1 hchars
    exact (h name hname).noSlash
  have hsplit := List.splitOn_intercalate '/' hslash (by simpa using hne)
  have htext : "/".toList = ['/'] := rfl
  rw [parts, String.toList_intercalate, htext, hsplit, List.map_map]
  simp [Function.comp_def]

theorem normalParts_intercalate (h : ∀ name ∈ names, IsName name) (absolute : Bool) :
    normalParts absolute ("/".intercalate names) = names := by
  by_cases hne : names = []
  · subst hne
    rfl
  · rw [normalParts, parts_intercalate h hne, foldl_push_of_isName h]
    simp

theorem isAbsolute_slash_append (path : String) : isAbsolute ("/" ++ path) = true := by
  simp [isAbsolute, String.toList_append]

theorem resolve_slash_intercalate (here : List String) (h : ∀ name ∈ names, IsName name) :
    resolve here ("/" ++ "/".intercalate names) = "/" ++ "/".intercalate names := by
  rw [resolve, isAbsolute_slash_append, if_pos rfl, String.empty_append, normalParts_slash_append,
    normalParts_slash_append, normalParts_intercalate h]

theorem isAbsolute_of_resolve_eq (h : resolve here path = path) : isAbsolute path = true := by
  rw [← h]
  exact isAbsolute_slash_append _

theorem resolve_join (here : List String) (h : isAbsolute directory = true) (entry : String) :
    resolve here (join directory entry) = join directory entry := by
  have habsolute : isAbsolute (directory ++ "/" ++ entry) = true := by
    rw [isAbsolute, decide_eq_true_eq] at h ⊢
    obtain ⟨rest, hrest⟩ := List.head?_eq_some_iff.1 h
    simp [String.toList_append, hrest]
  rw [join, habsolute]
  exact resolve_slash_intercalate here fun _ => isName_of_mem_normalParts

end Path

section Repetition

theorem eraseDups_concat (files : List String) (file : String) :
    (files ++ [file]).eraseDups =
      if file ∈ files then files.eraseDups else files.eraseDups ++ [file] := by
  rw [List.eraseDups_append, List.cons_removeAll]
  by_cases h : file ∈ files
  · simp [h]
  · simp [h, List.eraseDups_cons]

theorem eraseDups_sublist (files : List String) : files.eraseDups.Sublist files := by
  induction files using List.reverseRecOn with
  | nil => exact .slnil
  | append_singleton files file ih =>
    rw [eraseDups_concat]
    split
    next => exact ih.trans (List.sublist_append_left files [file])
    next => exact ih.append_right [file]

theorem nodup_eraseDups (files : List String) : files.eraseDups.Nodup := by
  induction files using List.reverseRecOn with
  | nil => exact .nil
  | append_singleton files file ih =>
    rw [eraseDups_concat]
    split
    next => exact ih
    next hnew =>
      simpa [List.nodup_append, ih] using fun other hother => ne_of_mem_of_not_mem hother hnew

end Repetition

namespace Setup

variable {setup : Setup} {disk : Disk} {selection result : Selection} {path : String}
  {paths found seen : List String}

def spelled (setup : Setup) (disk : Disk) (path : String) : List String :=
  match setup.inspect disk path with
  | .ok (.files found) => found.filter fun file => !setup.excludes file
  | .ok (.skip _) | .error _ => []

def spellings (setup : Setup) (disk : Disk) (paths : List String) : List String :=
  paths.flatMap (setup.spelled disk)

theorem files_gather (h : selection.files = seen.eraseDups) (found : List String) :
    (setup.gather selection found).1.files =
      (seen ++ found.filter fun file => !setup.excludes file).eraseDups := by
  induction found generalizing selection seen with
  | nil => simpa [gather] using h
  | cons path found ih =>
    rw [gather]
    split
    next hexcluded => simpa [hexcluded] using ih h
    next hkept =>
      have hfilter : (path :: found).filter (fun file => !setup.excludes file) =
          [path] ++ found.filter fun file => !setup.excludes file := by simp [hkept]
      rw [hfilter, ← List.append_assoc]
      split
      next hold =>
        rw [h, List.mem_eraseDups] at hold
        exact ih (by rw [eraseDups_concat, if_pos hold, h])
      next hnew =>
        rw [h, List.mem_eraseDups] at hnew
        exact ih (by simp [eraseDups_concat, hnew, h])

theorem files_selectFrom (h : selection.files = seen.eraseDups)
    (hresult : (setup.selectFrom disk selection paths).1 = .ok result) :
    result.files = (seen ++ setup.spellings disk paths).eraseDups := by
  induction paths generalizing selection seen with
  | nil =>
    obtain rfl : selection = result := Except.ok.inj hresult
    simpa [spellings] using h
  | cons path paths ih =>
    rw [selectFrom] at hresult
    split at hresult
    next => cases hresult
    next reason hskip =>
      have hspelled : setup.spelled disk path = [] := by rw [spelled, hskip]
      rw [spellings, List.flatMap_cons, hspelled]
      exact @ih { selection with skipped := selection.skipped ++ [(path, reason)] } seen h hresult
    next found hfound =>
      have hspelled : setup.spelled disk path = found.filter fun file => !setup.excludes file := by
        rw [spelled, hfound]
      rw [spellings, List.flatMap_cons, hspelled, ← List.append_assoc]
      exact ih (files_gather h found) hresult

theorem found_of_inspect (h : setup.inspect disk path = .ok (.files found)) :
    ∃ location, disk.locate path = .ok location ∧
      ((∃ content, disk.get? location = some (.file content) ∧ setup.wants path = true ∧
          found = [path]) ∨
        disk.get? location = some .directory ∧ found = setup.listing disk path location) := by
  have hpass (absence : Absence) : setup.passOver path absence ≠ .ok (.files found) := by
    rw [passOver]
    split <;> simp
  rw [inspect] at h
  split at h
  next => exact absurd h (hpass .missing)
  next => exact absurd h (hpass .missing)
  next => cases h
  next location hlocate =>
    refine ⟨location, hlocate, ?_⟩
    split at h
    next content hfile =>
      split at h
      next hwants => exact .inl ⟨content, hfile, hwants, by simpa using h.symm⟩
      next => cases h
    next hdirectory => exact .inr ⟨hdirectory, by simpa using h.symm⟩
    next => exact absurd h (hpass .neither)
    next => exact absurd h (hpass .neither)

theorem mem_listing {location : Location} :
    file ∈ setup.listing disk path location ↔
      ∃ entry ∈ disk.filesBelow location, setup.wants entry = true ∧
        Path.join path entry = file := by
  simp [listing, List.mem_mergeSort, and_assoc]

theorem resolve_of_mem_spelled (h : Path.resolve disk.here path = path)
    (hfile : file ∈ setup.spelled disk path) : Path.resolve disk.here file = file := by
  rw [spelled] at hfile
  split at hfile
  next found hfound =>
    have hmem : file ∈ found := List.mem_of_mem_filter hfile
    obtain ⟨location, _, ⟨_, _, _, rfl⟩ | ⟨_, rfl⟩⟩ := found_of_inspect hfound
    · obtain rfl : file = path := List.mem_singleton.1 hmem
      exact h
    · obtain ⟨entry, _, _, rfl⟩ := mem_listing.1 hmem
      exact Path.resolve_join disk.here (Path.isAbsolute_of_resolve_eq h) entry
  all_goals cases hfile

theorem files_select (h : (setup.select disk paths).1 = .ok result) :
    result.files = (setup.spellings disk paths).eraseDups := by
  simpa using @files_selectFrom _ _ {} _ _ [] rfl h

theorem nodup_select_iff (h : (setup.select disk paths).1 = .ok result) :
    (result.files.map (Path.resolve disk.here)).Nodup ↔
      ∀ file ∈ setup.spellings disk paths, ∀ file' ∈ setup.spellings disk paths,
        Path.resolve disk.here file = Path.resolve disk.here file' → file = file' := by
  rw [files_select h, List.nodup_map_iff_inj_on (nodup_eraseDups _)]
  simp only [List.mem_eraseDups]

theorem nodup_select_of_normal (h : (setup.select disk paths).1 = .ok result)
    (hnormal : ∀ path ∈ paths, Path.resolve disk.here path = path) :
    (result.files.map (Path.resolve disk.here)).Nodup := by
  have hresolve : ∀ file ∈ setup.spellings disk paths, Path.resolve disk.here file = file := by
    intro file hfile
    obtain ⟨path, hpath, hspelled⟩ := List.mem_flatMap.1 hfile
    exact resolve_of_mem_spelled (hnormal path hpath) hspelled
  refine (nodup_select_iff h).2 fun file hfile file' hfile' hsame => ?_
  rwa [hresolve file hfile, hresolve file' hfile'] at hsame

/-- Each spelling of a file is listed once, where it comes up first. So a file that is processed
several times is one that was found under several spellings, and no such file exists where all
paths are given in the normal form. -/
theorem select_once (h : (setup.select disk paths).1 = .ok result) :
    result.files = (setup.spellings disk paths).eraseDups ∧
      ((result.files.map (Path.resolve disk.here)).Nodup ↔
        ∀ file ∈ setup.spellings disk paths, ∀ file' ∈ setup.spellings disk paths,
          Path.resolve disk.here file = Path.resolve disk.here file' → file = file') ∧
      ((∀ path ∈ paths, Path.resolve disk.here path = path) →
        (result.files.map (Path.resolve disk.here)).Nodup) :=
  ⟨files_select h, nodup_select_iff h, nodup_select_of_normal h⟩

theorem select_once_absolute :
    (({} : Setup).select (ofTexts [("a.rs", "x\n"), ("b.rs", "y\n")]) ["/b.rs", "/"]).1 =
        .ok { files := ["/b.rs", "/a.rs"] } ∧
      (["/b.rs", "/a.rs"].map (Path.resolve [])).Nodup := by
  have hlisting : ({} : Setup).listing (ofTexts [("a.rs", "x\n"), ("b.rs", "y\n")]) "/" [] =
      ["/a.rs", "/b.rs"] := List.mergeSort_of_pairwise (by decide +kernel)
  have hroot : ({} : Setup).inspect (ofTexts [("a.rs", "x\n"), ("b.rs", "y\n")]) "/" =
      .ok (.files ["/a.rs", "/b.rs"]) :=
    congrArg (fun files => Except.ok (Finding.files files)) hlisting
  have hfile : ({} : Setup).inspect (ofTexts [("a.rs", "x\n"), ("b.rs", "y\n")]) "/b.rs" =
      .ok (.files ["/b.rs"]) := by decide +kernel
  have returned : (({} : Setup).select (ofTexts [("a.rs", "x\n"), ("b.rs", "y\n")])
      ["/b.rs", "/"]).1 = .ok { files := ["/b.rs", "/a.rs"] } := by
    simp only [select, selectFrom, hfile, hroot]
    decide +kernel
  obtain ⟨_, _, hnormal⟩ := select_once returned
  exact ⟨returned, hnormal (by decide +kernel)⟩

/-- A file whose path is given with a current part and without one is listed twice. -/
theorem select_twice :
    (({} : Setup).select (ofTexts [("a.rs", "x // y\n")]) ["a.rs", "./a.rs"]).1 =
        .ok { files := ["a.rs", "./a.rs"] } ∧
      ¬(["a.rs", "./a.rs"].map (Path.resolve [])).Nodup := by
  decide +kernel

end Setup

end LineComment
