import LineComment.Proofs.SecondPass
import LineComment.Proofs.Tree
import LineComment.Run
import Mathlib.Data.List.Dedup
import Mathlib.Data.List.Perm.Basic

/-! Files that have a comment to remove, and the tree without it. Stripping a file a second time
changes nothing, and it does not matter which of two files comes first. -/

namespace LineComment

section Fold

variable {α β : Type} {step : β → α → β} {as as' : List α}

theorem foldl_step_of_mem {a : α} (comm : ∀ b a a', step (step b a) a' = step (step b a') a)
    (idem : ∀ b a, step (step b a) a = step b a) (h : a ∈ as) (b : β) :
    as.foldl step (step b a) = as.foldl step b := by
  induction as generalizing b with
  | nil => cases h
  | cons first as ih =>
    rw [List.foldl_cons, List.foldl_cons]
    obtain rfl | hmem := List.mem_cons.1 h
    · rw [idem]
    · rw [comm, ih hmem]

theorem foldl_dedup [DecidableEq α] (comm : ∀ b a a', step (step b a) a' = step (step b a') a)
    (idem : ∀ b a, step (step b a) a = step b a) (as : List α) (b : β) :
    as.dedup.foldl step b = as.foldl step b := by
  induction as generalizing b with
  | nil => rfl
  | cons a as ih =>
    by_cases h : a ∈ as
    · rw [List.dedup_cons_of_mem h, ih, List.foldl_cons, foldl_step_of_mem comm idem h]
    · rw [List.dedup_cons_of_notMem h, List.foldl_cons, List.foldl_cons, ih]

/-- Steps that commute, and of which a second one changes nothing, lead to a result that depends on
which steps they are only. -/
theorem foldl_eq_of_mem_iff [DecidableEq α] (comm : ∀ b a a', step (step b a) a' = step (step b a') a)
    (idem : ∀ b a, step (step b a) a = step b a) (same : ∀ a, a ∈ as' ↔ a ∈ as) (b : β) :
    as'.foldl step b = as.foldl step b := by
  have hperm : as'.dedup.Perm as.dedup := by
    rw [List.perm_ext_iff_of_nodup as'.nodup_dedup as.nodup_dedup]
    intro a
    rw [List.mem_dedup, List.mem_dedup, same]
  have hcomm : RightCommutative step := ⟨comm⟩
  rw [← foldl_dedup comm idem, hperm.foldl_eq, foldl_dedup comm idem]

end Fold

theorem fromUTF8?_toUTF8 (s : String) : String.fromUTF8? s.toUTF8 = some s := by
  rw [String.fromUTF8?, String.toUTF8_eq_toByteArray, dif_pos s.isValidUTF8]
  rfl

namespace Policy

variable {p : Policy} {content : List Char}

theorem Settled.changed_strip (h : p.Settled .initial (Source.ofChars content).lines) :
    (p.strip content).changed = false := by
  have hcount : (p.strip content).removedComments = 0 := h.countP_removes
  simp [Stripped.changed, hcount]

theorem changed_strip_nil (p : Policy) : (p.strip []).changed = false := by
  apply Settled.changed_strip
  exact settled_empty rfl

end Policy

theorem Setup.readText_eq_ok_iff {disk : Disk} {path text : String} :
    Setup.readText disk path = .ok text ↔
      ∃ content, disk.read path = .ok content ∧ String.fromUTF8? content = some text := by
  rw [Setup.readText]
  cases disk.read path with
  | error fault => simp
  | ok content => cases h : String.fromUTF8? content <;> simp [h]

namespace Policy

variable {p : Policy} {disk : Disk} {location location' : Location} {path text : String}
  {content : ByteArray} {files : List String}

structure Commented (p : Policy) (disk : Disk) (location : Location) (text : String) : Prop where
  file : ∃ content, disk.get? location = some (.file content) ∧ String.fromUTF8? content = some text
  changed : (p.strip text.toList).changed = true

def strippedBytes (p : Policy) (text : String) : ByteArray :=
  (String.ofList (p.strip text.toList).content).toUTF8

def modified (p : Policy) (path text : String) : FileReport :=
  let stripped := p.strip text.toList
  ⟨path, .modified stripped.removedComments stripped.removedLines⟩

theorem Commented.ne_root (h : p.Commented disk location text) : location ≠ [] := by
  rintro rfl
  obtain ⟨content, hfile, -⟩ := h.file
  cases hfile

theorem Commented.congr {disk' : Disk} (h : p.Commented disk location text)
    (same : disk'.get? location = disk.get? location) : p.Commented disk' location text := by
  obtain ⟨content, hfile, htext⟩ := h.file
  exact ⟨⟨content, same.trans hfile, htext⟩, h.changed⟩

theorem Commented.readText_eq (h : p.Commented disk location text)
    (hlocate : disk.locate path = .ok location) : Setup.readText disk path = .ok text := by
  obtain ⟨content, hfile, htext⟩ := h.file
  refine Setup.readText_eq_ok_iff.2 ⟨content, ?_, htext⟩
  rw [Disk.read_of_locate hlocate, hfile]

theorem exists_commented (hread : Setup.readText disk path = .ok text)
    (hchanged : (p.strip text.toList).changed = true) :
    ∃ location, disk.locate path = .ok location ∧ p.Commented disk location text := by
  obtain ⟨content, hread, htext⟩ := Setup.readText_eq_ok_iff.1 hread
  cases hlocate : disk.locate path with
  | error fault =>
    rw [Disk.read_of_error hlocate] at hread
    cases hread
  | ok location =>
    rw [Disk.read_of_locate hlocate] at hread
    refine ⟨location, rfl, ⟨content, ?_, htext⟩, hchanged⟩
    split at hread
    next hfile => rw [hfile, Except.ok.inj hread]
    next =>
      -- A device has no text, so no comment either.
      rw [← Except.ok.inj hread, show ByteArray.empty = "".toUTF8 from rfl, fromUTF8?_toUTF8] at htext
      obtain rfl := Option.some.inj htext
      rw [String.toList_empty, Policy.changed_strip_nil] at hchanged
      cases hchanged
    all_goals cases hread

theorem not_commented_put (h : p.Commented disk location text) (text' : String) :
    ¬p.Commented (disk.put location (.file (p.strippedBytes text))) location text' := by
  rintro ⟨⟨content, hfile, htext⟩, hchanged⟩
  rw [Disk.get?_put disk location location _ h.ne_root, if_pos rfl] at hfile
  obtain rfl : p.strippedBytes text = content := by simpa using hfile
  rw [strippedBytes, fromUTF8?_toUTF8] at htext
  obtain rfl := Option.some.inj htext
  rw [String.toList_ofList] at hchanged
  have hsettled := p.settled_ofChars_content_strip text.toList
  rw [hsettled.changed_strip] at hchanged
  cases hchanged

def rewrite? (p : Policy) (disk : Disk) (location : Location) : Option ByteArray :=
  match disk.get? location with
  | some (.file content) =>
    (String.fromUTF8? content).bind fun text =>
      if (p.strip text.toList).changed then some (p.strippedBytes text) else none
  | some .directory | some .device | none => none

theorem rewrite?_eq_some_iff :
    p.rewrite? disk location = some content ↔
      ∃ text, p.Commented disk location text ∧ p.strippedBytes text = content := by
  constructor
  · intro h
    rw [rewrite?] at h
    split at h
    next held hfile =>
      obtain ⟨text, htext, hbytes⟩ := Option.bind_eq_some_iff.1 h
      obtain ⟨hchanged, hbytes⟩ := Option.ite_none_right_eq_some.1 hbytes
      exact ⟨text, ⟨⟨held, hfile, htext⟩, hchanged⟩, Option.some.inj hbytes⟩
    all_goals cases h
  · rintro ⟨text, ⟨⟨held, hfile, htext⟩, hchanged⟩, rfl⟩
    simp [rewrite?, hfile, htext, hchanged]

theorem rewrite?_eq_none_iff :
    p.rewrite? disk location = none ↔ ∀ text, ¬p.Commented disk location text := by
  rw [Option.eq_none_iff_forall_ne_some]
  simp only [ne_eq, rewrite?_eq_some_iff]
  grind

theorem rewrite?_congr {disk' : Disk} (same : disk'.get? location = disk.get? location) :
    p.rewrite? disk' location = p.rewrite? disk location := by
  rw [rewrite?, rewrite?, same]

def settleAt (p : Policy) (disk : Disk) (location : Location) : Disk :=
  match p.rewrite? disk location with
  | some content => disk.put location (.file content)
  | none => disk

theorem settleAt_of_none (h : p.rewrite? disk location = none) :
    p.settleAt disk location = disk := by
  rw [settleAt, h]

theorem settleAt_of_commented (h : p.Commented disk location text) :
    p.settleAt disk location = disk.put location (.file (p.strippedBytes text)) := by
  rw [settleAt, rewrite?_eq_some_iff.2 ⟨text, h, rfl⟩]

theorem shape_settleAt (p : Policy) (disk : Disk) (location : Location) :
    (p.settleAt disk location).shape = disk.shape := by
  cases h : p.rewrite? disk location with
  | none => rw [settleAt_of_none h]
  | some content =>
    obtain ⟨text, hcommented, -⟩ := rewrite?_eq_some_iff.1 h
    obtain ⟨held, hfile, -⟩ := hcommented.file
    rw [settleAt_of_commented hcommented]
    exact Disk.shape_put (by simp [hfile, Entry.shape]) hcommented.ne_root

theorem refusal_settleAt (p : Policy) (disk : Disk) (location : Location) :
    (p.settleAt disk location).refusal = disk.refusal := by
  rw [settleAt]
  split <;> rfl

theorem get?_settleAt_of_ne (h : location' ≠ location) :
    (p.settleAt disk location).get? location' = disk.get? location' := by
  rw [settleAt]
  split
  next => exact Disk.get?_put_of_ne h disk _
  next => rfl

theorem rewrite?_settleAt_self (p : Policy) (disk : Disk) (location : Location) :
    p.rewrite? (p.settleAt disk location) location = none := by
  cases h : p.rewrite? disk location with
  | none => rw [settleAt_of_none h, h]
  | some content =>
    obtain ⟨text, hcommented, -⟩ := rewrite?_eq_some_iff.1 h
    rw [settleAt_of_commented hcommented, rewrite?_eq_none_iff]
    exact not_commented_put hcommented

theorem settleAt_comm (p : Policy) (disk : Disk) (location location' : Location) :
    p.settleAt (p.settleAt disk location) location' =
      p.settleAt (p.settleAt disk location') location := by
  by_cases hne : location = location'
  · rw [hne]
  · have haway' : p.rewrite? (p.settleAt disk location) location' =
        p.rewrite? disk location' := rewrite?_congr (get?_settleAt_of_ne (Ne.symm hne))
    have haway : p.rewrite? (p.settleAt disk location') location =
        p.rewrite? disk location := rewrite?_congr (get?_settleAt_of_ne hne)
    cases h : p.rewrite? disk location with
    | none => rw [settleAt_of_none h, settleAt_of_none (haway.trans h)]
    | some content =>
      cases h' : p.rewrite? disk location' with
      | none => rw [settleAt_of_none h', settleAt_of_none (haway'.trans h')]
      | some content' =>
        obtain ⟨text, hcommented, -⟩ := rewrite?_eq_some_iff.1 h
        obtain ⟨text', hcommented', -⟩ := rewrite?_eq_some_iff.1 h'
        have hsome := congrArg Option.isSome hcommented.file.choose_spec.1
        have hsome' := congrArg Option.isSome hcommented'.file.choose_spec.1
        rw [settleAt, haway', h', settleAt, h]
        rw [settleAt, haway, h, settleAt, h']
        exact Disk.put_comm hne hsome hsome' hcommented.ne_root hcommented'.ne_root

def settle (p : Policy) (disk : Disk) (path : String) : Disk :=
  match disk.locate path with
  | .ok location => p.settleAt disk location
  | .error _ => disk

theorem settle_of_locate (h : disk.locate path = .ok location) :
    p.settle disk path = p.settleAt disk location := by
  rw [settle, h]

theorem settle_of_error {fault : Fault} (h : disk.locate path = .error fault) :
    p.settle disk path = disk := by
  rw [settle, h]

theorem settle_eq_self (h : ∀ location text, disk.locate path = .ok location →
    ¬p.Commented disk location text) : p.settle disk path = disk := by
  rw [settle]
  split
  next location hlocate =>
    exact settleAt_of_none (rewrite?_eq_none_iff.2 fun text => h location text hlocate)
  next => rfl

theorem shape_settle (p : Policy) (disk : Disk) (path : String) :
    (p.settle disk path).shape = disk.shape := by
  rw [settle]
  split
  next location _ => exact p.shape_settleAt disk location
  next => rfl

theorem locate_settle (p : Policy) (disk : Disk) (path path' : String) :
    (p.settle disk path).locate path' = disk.locate path' :=
  Disk.locate_congr (p.shape_settle disk path) path'

theorem settle_settle (p : Policy) (disk : Disk) (path : String) :
    p.settle (p.settle disk path) path = p.settle disk path := by
  apply settle_eq_self
  intro location text hlocate
  rw [locate_settle] at hlocate
  rw [settle_of_locate hlocate]
  exact rewrite?_eq_none_iff.1 (p.rewrite?_settleAt_self disk location) text

theorem settle_comm (p : Policy) (disk : Disk) (path path' : String) :
    p.settle (p.settle disk path) path' = p.settle (p.settle disk path') path := by
  have hlocate := p.locate_settle disk path path'
  have hlocate' := p.locate_settle disk path' path
  cases h : disk.locate path with
  | error fault => rw [settle_of_error h, settle_of_error (hlocate'.trans h)]
  | ok location =>
    cases h' : disk.locate path' with
    | error fault => rw [settle_of_error h', settle_of_error (hlocate.trans h')]
    | ok location' =>
      rw [settle_of_locate (hlocate.trans h'), settle_of_locate (hlocate'.trans h),
        settle_of_locate h, settle_of_locate h', settleAt_comm]

theorem get?_settle (h : ∀ text, disk.locate path = .ok location →
    ¬p.Commented disk location text) :
    (p.settle disk path).get? location = disk.get? location := by
  cases hlocate : disk.locate path with
  | error fault => rw [settle_of_error hlocate]
  | ok location' =>
    by_cases hsame : location = location'
    · subst hsame
      rw [settle_of_locate hlocate, settleAt_of_none]
      exact rewrite?_eq_none_iff.2 fun text => h text hlocate
    · rw [settle_of_locate hlocate, get?_settleAt_of_ne hsame]

theorem Commented.of_settle (h : p.Commented (p.settle disk path) location text) :
    p.Commented disk location text := by
  refine h.congr (get?_settle fun text' hlocate _ => ?_).symm
  rw [settle_of_locate hlocate] at h
  exact rewrite?_eq_none_iff.1 (p.rewrite?_settleAt_self disk location) text h

theorem refusal_settle (p : Policy) (disk : Disk) (path : String) :
    (p.settle disk path).refusal = disk.refusal := by
  rw [settle]
  split
  next location _ => exact p.refusal_settleAt disk location
  next => rfl

theorem shape_foldl_settle (p : Policy) (disk : Disk) (files : List String) :
    (files.foldl p.settle disk).shape = disk.shape := by
  induction files generalizing disk with
  | nil => rfl
  | cons path files ih => rw [List.foldl_cons, ih, shape_settle]

theorem get?_foldl_settle (h : ∀ path ∈ files, ∀ text, disk.locate path = .ok location →
    ¬p.Commented disk location text) :
    (files.foldl p.settle disk).get? location = disk.get? location := by
  induction files generalizing disk with
  | nil => rfl
  | cons path files ih =>
    obtain ⟨hpath, hfiles⟩ := List.forall_mem_cons.1 h
    rw [List.foldl_cons, ih, get?_settle hpath]
    intro path' hmem text hlocate hcommented
    rw [locate_settle] at hlocate
    exact hfiles path' hmem text hlocate hcommented.of_settle

theorem foldl_settle_eq_of_mem_iff {files' : List String}
    (same : ∀ file, file ∈ files' ↔ file ∈ files) (disk : Disk) :
    files'.foldl p.settle disk = files.foldl p.settle disk :=
  foldl_eq_of_mem_iff p.settle_comm p.settle_settle same disk

theorem get?_foldl_settle_of_commented (hmem : path ∈ files)
    (hlocate : disk.locate path = .ok location) (h : p.Commented disk location text) :
    (files.foldl p.settle disk).get? location =
      some (.file (p.strippedBytes text)) := by
  have hagain : files.foldl p.settle disk =
      files.foldl p.settle (disk.put location (.file (p.strippedBytes text))) := by
    rw [← settleAt_of_commented h, ← settle_of_locate hlocate]
    exact (foldl_step_of_mem p.settle_comm p.settle_settle hmem disk).symm
  rw [hagain, get?_foldl_settle fun _ _ text' _ => not_commented_put h text',
    Disk.get?_put _ _ _ _ h.ne_root, if_pos rfl]

end Policy

end LineComment
