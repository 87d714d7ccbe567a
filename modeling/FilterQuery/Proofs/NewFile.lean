import FilterQuery.Proofs.Nameable
import FilterQuery.Proofs.Untouched

/-!
# A new settings file

What is written into a new settings file is a text for its reader: nearly all of it is
comments. It means the same as no file at all (`Settings.ofText?_template`).

Where it is written is found twice, and not with the same files. Whether the path leads
anywhere is asked first, then the directories around it are made, and then the path is
followed again. Directories only ever come to be (`FileSystem.Grows`), so a path that led
somewhere before still leads there, and a path that leads to a file goes on doing so for as
long as the file is there (`FileSystem.Holds`).
-/

namespace FilterQuery

/-! ## What it says -/

namespace Toml

variable {bound : Nat} {draft : Draft} {cs line rest : List Char}

/-- The text of a comment and the end of its line. -/
def endsComment : List Char → Bool
  | ['\n'] => true
  | c :: cs => isCommentChar c && endsComment cs
  | [] => false

/-- A line with a comment and nothing else. -/
def isCommentLine : List Char → Bool
  | '#' :: cs => endsComment cs
  | _ => false

theorem dropWhile_of_endsComment (h : endsComment cs) :
    (cs ++ rest).dropWhile isCommentChar = '\n' :: rest := by
  fun_induction endsComment cs with
  | case1 => rfl
  | case2 c cs _ ih =>
    rw [Bool.and_eq_true] at h
    rw [List.cons_append, List.dropWhile_cons_of_pos h.1, ih h.2]
  | case3 => cases h

theorem lines_newline :
    Draft.lines (bound + 1) draft ("\n".toList ++ rest) = Draft.lines bound draft rest :=
  rfl

theorem lines_of_isCommentLine (h : isCommentLine line) :
    Draft.lines (bound + 1) draft (line ++ rest) = Draft.lines bound draft rest := by
  unfold isCommentLine at h
  split at h
  case h_2 => cases h
  next cs =>
  have hrest : restOfLine? ('#' :: (cs ++ rest)) = some rest := by
    show lineEnd? ((cs ++ rest).dropWhile isCommentChar) = some rest
    rw [dropWhile_of_endsComment h]
    rfl
  show restOfLine? ('#' :: (cs ++ rest)) >>= Draft.lines bound draft = _
  rw [hrest]
  rfl

theorem lines_version :
    Draft.lines (bound + 1) ⟨[], []⟩ ("version = 1\n".toList ++ rest) =
      Draft.lines bound ⟨[("version", .value (.integer 1))], []⟩ rest := by
  have hkey : key ("version = 1\n".toList ++ rest) =
      some (([], "version"), '=' :: ' ' :: '1' :: '\n' :: rest) := rfl
  have hvalue (bound : Nat) : value (bound + 1) 0 (skipBlanks (' ' :: '1' :: '\n' :: rest)) =
      some (.integer 1, '\n' :: rest) := rfl
  have hline : Draft.keyLine ⟨[], []⟩ ("version = 1\n".toList ++ rest) =
      some (⟨[("version", .value (.integer 1))], []⟩, rest) := by
    simp only [Draft.keyLine, hkey, Option.bind_eq_bind, Option.bind_some, List.length_cons,
      hvalue]
    rfl
  show (Draft.keyLine ⟨[], []⟩ ("version = 1\n".toList ++ rest) >>= _) = _
  rw [hline]
  rfl

theorem lines_output :
    Draft.lines (bound + 1) ⟨[("version", .value (.integer 1))], []⟩
        ("[output]\n".toList ++ rest) =
      Draft.lines bound
        ⟨[("version", .value (.integer 1)), ("output", .table .header [])], ["output"]⟩
        rest := by
  have hkey : key ("output]\n".toList ++ rest) =
      some (([], "output"), ']' :: '\n' :: rest) := rfl
  show (Draft.tableHeader _ ("output]\n".toList ++ rest) >>= _) = _
  rw [Draft.tableHeader, hkey]
  rfl

end Toml

namespace Settings

open Toml

variable {fs : FileSystem} {path : Path}

theorem toList_template : template.toList =
    "# tfq - Twitch filter query checker configuration\n".toList ++ ("\n".toList ++
      ("# Config schema version (do not modify)\n".toList ++ ("version = 1\n".toList ++
      ("\n".toList ++ ("# Output preferences\n".toList ++ ("[output]\n".toList ++
      ("# color = true    # Enable colors (respects NO_COLOR env)\n".toList ++ ("\n".toList ++
      ("# Filters queries may reference in addition to the built-in ones.\n".toList ++
      ("# A filter with a built-in id replaces it. kind is \"numerical\" or \"text\".\n".toList ++
      ("# [[filters]]\n".toList ++ ("# id = \"reply_count\"\n".toList ++
      ("# kind = \"numerical\"\n".toList ++ []))))))))))))) := by
  unfold template
  repeat rw [String.toList_append]
  simp only [List.append_assoc, List.append_nil]

/-- The template is read line by line. All but two of its lines say nothing. -/
theorem lines_template (bound : Nat) :
    Draft.lines (bound + 15) ⟨[], []⟩ template.toList =
      some ⟨[("version", .value (.integer 1)), ("output", .table .header [])], ["output"]⟩ := by
  rw [toList_template, lines_of_isCommentLine (by rfl), lines_newline,
    lines_of_isCommentLine (by rfl), lines_version, lines_newline,
    lines_of_isCommentLine (by rfl), lines_output, lines_of_isCommentLine (by rfl),
    lines_newline]
  iterate 5 rw [lines_of_isCommentLine (by rfl)]
  rfl

theorem ofText?_template : ofText? template = some default := by
  obtain ⟨t, ht⟩ : ∃ t, template.toList = '#' :: t := by
    rw [toList_template]
    exact ⟨_, rfl⟩
  have hlong : 14 ≤ template.toList.length := by
    have hfirst : "# tfq - Twitch filter query checker configuration\n".toList.length = 50 := rfl
    rw [toList_template, List.length_append, hfirst]
    omega
  obtain ⟨bound, hbound⟩ := Nat.exists_eq_add_of_le' hlong
  have hlines := lines_template bound
  rw [ofText?, document?]
  rw [ht] at hbound hlines ⊢
  show (Draft.lines (('#' :: t).length + 1) ⟨[], []⟩ ('#' :: t)).map _ >>= _ = _
  rw [hbound, hlines]
  rfl

theorem ofText_template : ofText template = .ok default := by
  rw [ofText, ofText?_template]
  rfl

/-- A file that says what a new one says has the same effect as none. -/
theorem load_of_get_eq_template (h : fs.get path = .ok (.file template.toUTF8)) :
    load fs path = .ok default :=
  (load_of_get h).trans ofText_template

theorem load_of_contains_eq_false (h : fs.contains path = false) :
    load fs path = .ok default := by
  simp [load, h]

end Settings

/-! ## Where it stands -/

namespace FileSystem

variable {fs fs₁ fs₂ : FileSystem} {path : Path} {location other : Location} {entry : Entry}
  {content : ByteArray}

/-- Where there was a directory there still is one. -/
structure Grows (fs fs' : FileSystem) : Prop where
  workingDirectory_eq : fs'.workingDirectory = fs.workingDirectory
  lookup_eq : ∀ location, fs.lookup location = some .directory →
    fs'.lookup location = some .directory

theorem Grows.refl (fs : FileSystem) : fs.Grows fs :=
  ⟨rfl, fun _ h => h⟩

theorem Grows.trans (h : fs.Grows fs₁) (h₁ : fs₁.Grows fs₂) : fs.Grows fs₂ :=
  ⟨h₁.workingDirectory_eq.trans h.workingDirectory_eq,
    fun location hlookup => h₁.lookup_eq location (h.lookup_eq location hlookup)⟩

theorem grows_put (h : fs.lookup location ≠ some .directory) :
    fs.Grows (fs.put location entry) := by
  refine ⟨rfl, fun other hother => ?_⟩
  rw [lookup_put_of_ne, hother]
  rintro rfl
  exact h hother

theorem grows_makeParents (fs : FileSystem) (path : Path) :
    fs.Grows (fs.makeParents path).1 := by
  refine makeDirectories_induction .refl .trans (fun h => ?_) fs path.ancestors
  obtain ⟨place, hnone, rfl⟩ := exists_put_of_makeDirectory h
  exact grows_put (by simp [hnone])

theorem enter_eq_ok_iff : fs.enter location = .ok () ↔ fs.lookup location = some .directory := by
  unfold enter
  split <;> simp [*]

/-- Only directories are passed on the way along a path. -/
theorem Grows.walk {names : List String} {here : Location} (hgrows : fs.Grows fs₁)
    (h : fs.walk here names = .ok location) : fs₁.walk here names = .ok location := by
  induction names generalizing here with
  | nil => exact h
  | cons name names ih =>
    simp only [FileSystem.walk, FileSystem.step, bind, Except.bind] at h ⊢
    cases henter : fs.enter here with
    | error fault => simp [henter] at h
    | ok _ =>
      rw [henter] at h
      rw [enter_eq_ok_iff.mpr (hgrows.lookup_eq _ (enter_eq_ok_iff.mp henter))]
      dsimp only at h ⊢
      split
      next fault hstep => simp [hstep] at h
      next there hstep =>
        rw [hstep] at h
        exact ih h

theorem Grows.follow (hgrows : fs.Grows fs₁) (h : fs.follow path = .ok location) :
    fs₁.follow path = .ok location := by
  have hstart : fs₁.start path = fs.start path := by
    rw [start, start, hgrows.workingDirectory_eq]
  unfold FileSystem.follow at h ⊢
  cases hpath : checkPath path.text with
  | error fault => simp [hpath, bind, Except.bind] at h
  | ok _ =>
    rw [hpath] at h
    rw [hstart]
    exact hgrows.walk h

/-- The path leads to this location, where a file with this content stands. -/
structure Holds (fs : FileSystem) (path : Path) (location : Location) (content : ByteArray) :
    Prop where
  ends : path.ending = .name
  leads : fs.follow path = .ok location
  file?_eq : fs.file? location = some content

theorem lookup_eq_of_file? (h : fs.file? location = some content) :
    fs.lookup location = some (.file content) := by
  unfold file? at h
  cases hlookup : fs.lookup location with
  | none => simp [hlookup] at h
  | some entry =>
    cases entry with
    | file content' => simpa [hlookup, Entry.content?] using h
    | directory => simp [hlookup, Entry.content?] at h

theorem get_of_lookup (hends : path.ending = .name) (hleads : fs.follow path = .ok location)
    (hlookup : fs.lookup location = some entry) : fs.get path = .ok entry := by
  simp [get, hends, hleads, hlookup, bind, Except.bind]

theorem Holds.get_eq (h : fs.Holds path location content) : fs.get path = .ok (.file content) :=
  get_of_lookup h.ends h.leads (lookup_eq_of_file? h.file?_eq)

theorem Holds.of_grows (h : fs.Holds path location content) (hgrows : fs.Grows fs₁)
    (hfile : fs₁.file? location = some content) : fs₁.Holds path location content :=
  ⟨h.ends, hgrows.follow h.leads, hfile⟩

/-- A path that leads to a place and to nothing there. -/
theorem lookup_eq_none_of_contains (hends : path.ending = .name)
    (hleads : fs.follow path = .ok location) (h : fs.contains path = false) :
    fs.lookup location = none := by
  cases hlookup : fs.lookup location with
  | none => rfl
  | some entry =>
    simp [contains, get_of_lookup hends hleads hlookup, Except.isOk, Except.toBool] at h

/-- A file is written under a name where no directory stands. -/
theorem of_target_eq_ok (h : fs.target path = .ok location) :
    path.ending = .name ∧ fs.follow path = .ok location ∧
      fs.lookup location ≠ some .directory := by
  simp only [target, bind, Except.bind] at h
  cases hpath : checkPath path.text with
  | error fault => simp [hpath] at h
  | ok _ =>
    rw [hpath] at h
    dsimp only at h
    split at h
    case h_1 hends =>
      split at h
      · cases h
      next place hleads =>
      split at h
      · cases h
      next hplace =>
      cases h
      exact ⟨hends, hleads, hplace⟩
    all_goals
      split at h
      · cases h
      split at h <;> cases h

/-- After a file has been written its path leads to it, and all other files are as they
were. -/
theorem exists_holds_of_write (h : fs.write path content = .ok fs₁) :
    fs.Grows fs₁ ∧ ∃ location, fs₁.Holds path location content ∧
      ∀ other, other ≠ location → fs₁.file? other = fs.file? other := by
  unfold write at h
  cases htarget : fs.target path with
  | error fault => simp [htarget, bind, Except.bind] at h
  | ok location =>
    rw [htarget] at h
    cases h
    obtain ⟨hends, hleads, hplace⟩ := of_target_eq_ok htarget
    have hgrows : fs.Grows (fs.put location (.file content)) := grows_put hplace
    have hne : location ≠ [] := by
      rintro rfl
      exact hplace rfl
    refine ⟨hgrows, location, ⟨hends, hgrows.follow hleads, ?_⟩, fun other hother => ?_⟩
    · rw [file?, lookup_put_self hne]
      rfl
    · rw [file?, lookup_put_of_ne hother, file?]

end FileSystem

end FilterQuery
