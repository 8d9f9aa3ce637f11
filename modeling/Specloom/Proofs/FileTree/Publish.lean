import Mathlib.Tactic.SplitIfs
import Specloom.FileTree.Publish

/-!
# What publishing changes

A file that is published stands at the place of its path, and nothing else in the tree has changed
except that directories were made. A failure changes nothing but that.

## Main definitions

* `FileTree.Grows`: a change that only makes directories
* `FileTree.Keeps`: a change that neither removes anything nor turns a directory into a file
* `FileTree.Publishes`: what publishing files one after the other leaves

## Main results

* `FileTree.Keeps.walk`: paths keep leading to where they lead
* `FileTree.Publishes.append`: publishing more files
* `FileTree.publishes_of_publishOn`, `FileTree.grows_of_publishOn`: the tree after a file is
  published, and after a failure
-/

namespace Specloom.FileTree

variable {t t' t'' : FileTree} {host : Host} {path : String} {place target temp : Place}

/-! ## Growing by directories -/

/-- A place stays as it is, or a directory is made there where nothing was. -/
def GrowsAt (t t' : FileTree) (place : Place) : Prop :=
  t'.find? place = t.find? place ∨ t.find? place = none ∧ t'.find? place = some .directory

theorem GrowsAt.trans (h : t.GrowsAt t' place) (h' : t'.GrowsAt t'' place) :
    t.GrowsAt t'' place := by
  rcases h' with heq' | ⟨hnone', hdirectory'⟩
  · unfold GrowsAt
    rw [heq']
    exact h
  · rcases h with heq | ⟨-, hdirectory⟩
    · exact .inr ⟨heq ▸ hnone', hdirectory'⟩
    · rw [hdirectory] at hnone'
      cases hnone'

/-- All that changes is that directories are made. -/
def Grows (t t' : FileTree) : Prop :=
  ∀ place, t.GrowsAt t' place

theorem Grows.refl (t : FileTree) : t.Grows t :=
  fun _ => .inl rfl

theorem Grows.trans (h : t.Grows t') (h' : t'.Grows t'') : t.Grows t'' :=
  fun place => (h place).trans (h' place)

theorem ne_root (h : t.find? place ≠ some .directory) : place ≠ [] := by
  rintro rfl
  exact h rfl

theorem ne_root_of_free (h : t.find? place = none) : place ≠ [] := by
  rintro rfl
  cases h

theorem grows_put_directory (h : t.find? place = none) : t.Grows (t.put place .directory) := by
  intro other
  unfold GrowsAt
  rw [find?_put _ _ _ _ (ne_root_of_free h)]
  split_ifs with heq
  · rw [heq]
    exact .inr ⟨h, rfl⟩
  · exact .inl rfl

theorem grows_ensureDirectoryFrom (t : FileTree) (host : Host) (made : Bool) (place : Place)
    (names : List String) : t.Grows (t.ensureDirectoryFrom host made place names).1 := by
  induction names generalizing t made place with
  | nil => exact .refl t
  | cons name rest ih =>
    rw [ensureDirectoryFrom]
    split
    · exact ih t made place
    split
    · exact ih t made place.dropLast
    split
    · exact ih t made (place ++ [name])
    · exact .refl t
    · rename_i hnone
      split
      · exact .refl t
      · exact (grows_put_directory hnone).trans (ih _ true (place ++ [name]))

theorem grows_ensureDirectory (t : FileTree) (host : Host) (path : String) :
    t.Grows (t.ensureDirectory host path).1 :=
  grows_ensureDirectoryFrom t host false [] (names path)

/-! ## Paths in a changed tree -/

theorem isDirectory_iff : t.isDirectory place ↔ t.find? place = some .directory := by
  unfold isDirectory
  split <;> simp_all

theorem isDirectory_of_walkFrom {name : String} {rest : List String}
    (h : t.walkFrom place (name :: rest) = .ok target) : t.isDirectory place := by
  rw [walkFrom] at h
  split_ifs at h with hdirectory
  all_goals simpa using hdirectory

/-- A walk goes through directories, to something that exists: where these are, it leads to the same
place. -/
theorem walkFrom_of_directories {names : List String}
    (hdirectory : ∀ place, t.isDirectory place → t'.isDirectory place)
    (h : t.walkFrom place names = .ok target) (htarget : (t'.find? target).isSome) :
    t'.walkFrom place names = .ok target := by
  induction names generalizing place with
  | nil => exact h
  | cons name rest ih =>
    have hplace := hdirectory place (isDirectory_of_walkFrom h)
    rw [walkFrom, isDirectory_of_walkFrom h] at h
    rw [walkFrom, hplace]
    simp only [Bool.not_true, Bool.false_eq_true, if_false] at h ⊢
    split_ifs at h ⊢ with hidle hparent hgone
    · exact ih h
    · exact ih h
    · exact ih h
    -- the next place is gone: it is no directory, since those stay, nor the target
    · cases rest with
      | nil =>
        cases h
        exact absurd htarget hgone
      | cons next rest =>
        have hnext := isDirectory_iff.mp (hdirectory _ (isDirectory_of_walkFrom h))
        rw [hnext] at hgone
        exact absurd rfl hgone

theorem walkFrom_append (t : FileTree) (place : Place) (first second : List String) :
    t.walkFrom place (first ++ second) =
      (t.walkFrom place first).bind fun place => t.walkFrom place second := by
  induction first generalizing place with
  | nil => rfl
  | cons name rest ih =>
    rw [List.cons_append, walkFrom, walkFrom]
    split_ifs
    · rfl
    · exact ih place
    · exact ih place.dropLast
    · exact ih (place ++ [name])
    · rfl

/-- A walk leads from a place that exists, with all above it, to another such place. -/
theorem isSome_of_walkFrom {names : List String}
    (hplace : ∀ above, above <+: place → (t.find? above).isSome)
    (h : t.walkFrom place names = .ok target) {above : Place} (habove : above <+: target) :
    (t.find? above).isSome := by
  induction names generalizing place with
  | nil =>
    cases h
    exact hplace above habove
  | cons name rest ih =>
    rw [walkFrom] at h
    split_ifs at h with hdirectory hidle hparent hsome
    · exact ih hplace h
    · exact ih (fun above habove => hplace above (habove.trans place.dropLast_prefix)) h
    · refine ih (fun above habove => ?_) h
      rcases List.prefix_concat_iff.mp habove with rfl | habove
      · exact hsome
      · exact hplace above habove

theorem isSome_of_walk (h : t.walk path = .ok target) : (t.find? target).isSome := by
  unfold walk at h
  split_ifs at h
  refine isSome_of_walkFrom (fun above habove => ?_) h (List.prefix_refl target)
  rw [List.prefix_nil.mp habove]
  rfl

/-- What exists still exists, and directories are still directories. -/
structure Keeps (t t' : FileTree) : Prop where
  isSome : ∀ place, (t.find? place).isSome → (t'.find? place).isSome
  directory : ∀ place, t.find? place = some .directory → t'.find? place = some .directory

theorem Keeps.trans (h : t.Keeps t') (h' : t'.Keeps t'') : t.Keeps t'' where
  isSome place hsome := h'.isSome place (h.isSome place hsome)
  directory place hdirectory := h'.directory place (h.directory place hdirectory)

theorem Grows.keeps (h : t.Grows t') : t.Keeps t' where
  isSome place hsome := by
    rcases h place with heq | ⟨-, hdirectory⟩
    · rwa [heq]
    · rw [hdirectory]
      rfl
  directory place hdirectory := by
    rcases h place with heq | ⟨hnone, -⟩
    · rwa [heq]
    · rw [hdirectory] at hnone
      cases hnone

theorem Keeps.walk (hkeeps : t.Keeps t') (h : t.walk path = .ok target) :
    t'.walk path = .ok target := by
  have htarget := hkeeps.isSome target (isSome_of_walk h)
  unfold FileTree.walk at h ⊢
  split_ifs at h ⊢
  refine walkFrom_of_directories (fun place hplace => ?_) h htarget
  exact isDirectory_iff.mpr (hkeeps.directory place (isDirectory_iff.mp hplace))

/-! ## Publishing files one after the other -/

/-- What publishing files one after the other leaves. -/
structure Publishes (files : List (String × ByteArray)) (t t' : FileTree) : Prop where
  keeps : t.Keeps t'
  /-- A published path leads to the content last published there. -/
  content : ∀ before path bytes after, files = before ++ (path, bytes) :: after →
    ∃ place, t'.walk path = .ok place ∧
      ((∀ later ∈ after, t'.walk later.1 ≠ .ok place) → t'.find? place = some (.file bytes))
  /-- All that changes elsewhere is that directories are made. -/
  rest : ∀ place, (∀ file ∈ files, t'.walk file.1 ≠ .ok place) → t.GrowsAt t' place

theorem Grows.publishes (h : t.Grows t') : Publishes [] t t' where
  keeps := h.keeps
  content before path bytes after hfiles := by cases before <;> cases hfiles
  rest place _ := h place

/-- A file that is put at the place of a path, where no directory is. -/
theorem publishes_singleton {bytes : ByteArray} (htarget : t.find? target ≠ some .directory)
    (hwalk : t'.walk path = .ok target)
    (hview : ∀ place, t'.find? place =
      if place = target then some (.file bytes) else t.find? place) :
    Publishes [(path, bytes)] t t' where
  keeps.isSome place hsome := by
    rw [hview]
    split_ifs
    · rfl
    · exact hsome
  keeps.directory place hdirectory := by
    rw [hview, if_neg]
    · exact hdirectory
    · rintro rfl
      exact htarget hdirectory
  content before path' bytes' after hfiles := by
    cases before with
    | nil =>
      cases hfiles
      exact ⟨target, hwalk, fun _ => by rw [hview, if_pos rfl]⟩
    | cons file before => cases before <;> cases hfiles
  rest place hplace := by
    have hne : place ≠ target := by
      rintro rfl
      exact hplace (path, bytes) List.mem_cons_self hwalk
    exact .inl (by rw [hview, if_neg hne])

theorem Publishes.append {first second : List (String × ByteArray)} (h : Publishes first t t')
    (h' : Publishes second t' t'') : Publishes (first ++ second) t t'' where
  keeps := h.keeps.trans h'.keeps
  content before path bytes after hfiles := by
    rcases List.append_eq_append_iff.mp hfiles with
      ⟨between, -, hsecond⟩ | ⟨between, hfirst, hafter⟩
    · exact h'.content between path bytes after hsecond
    rcases List.cons_eq_append_iff.mp hafter with ⟨rfl, hsecond⟩ | ⟨between, rfl, rfl⟩
    · exact h'.content [] path bytes after hsecond
    obtain ⟨place, hwalk, hcontent⟩ := h.content before path bytes between hfirst
    refine ⟨place, h'.keeps.walk hwalk, fun hlater => ?_⟩
    have hfound := hcontent fun later hmem hwalk =>
      hlater later (List.mem_append_left _ hmem) (h'.keeps.walk hwalk)
    rcases h'.rest place fun later hmem => hlater later (List.mem_append_right _ hmem) with
      heq | ⟨hnone, -⟩
    · rw [heq, hfound]
    · rw [hfound] at hnone
      cases hnone
  rest place hplace := by
    refine (h.rest place fun file hfile hwalk => ?_).trans (h'.rest place fun file hfile => ?_)
    · exact hplace file (List.mem_append_left _ hfile) (h'.keeps.walk hwalk)
    · exact hplace file (List.mem_append_right _ hfile)

/-! ## Replacing a file -/

/-- A path with a place for a file ends with an ordinary name, behind what leads to a directory. -/
theorem placeFor_eq_ok (h : t.placeFor path = .ok target) :
    ∃ parents directory name, path ≠ "" ∧ names path = parents ++ [name] ∧
      (name ≠ "" ∧ name ≠ "." ∧ name ≠ "..") ∧ t.walkFrom [] parents = .ok directory ∧
      t.isDirectory directory ∧ target = directory ++ [name] := by
  unfold placeFor at h
  split_ifs at h with hpath
  split at h
  · cases h
  rename_i name before hnamed
  split at h
  · cases h
  rename_i directory hparents
  split_ifs at h with hdirectory hdots hslash
  cases h
  have hname : name ≠ "" := by
    have hfirst := List.head?_dropWhile_not (fun name => decide (name = "")) (names path).reverse
    simpa [hnamed] using hfirst
  have hnames : names path = before.reverse ++ [name] := by
    rw [← List.reverse_cons, ← Classical.not_not.mp hslash, List.reverse_reverse]
  rw [not_or] at hdots
  exact ⟨before.reverse, directory, name, hpath, hnames, ⟨hname, hdots⟩, hparents,
    by simpa using hdirectory, rfl⟩

/-- Where a tree has a place for a path, the path leads there in every tree that has its directories
and something at that place. -/
theorem walk_of_placeFor (h : t.placeFor path = .ok target)
    (hdirectory : ∀ place, t.isDirectory place → t'.isDirectory place)
    (htarget : (t'.find? target).isSome) : t'.walk path = .ok target := by
  obtain ⟨parents, directory, name, hpath, hnames, ⟨hname, hdot, hdots⟩, hparents, hplace, rfl⟩ :=
    placeFor_eq_ok h
  have hplace' := hdirectory directory hplace
  have hexists : (t'.find? directory).isSome := by
    rw [isDirectory_iff.mp hplace']
    rfl
  rw [walk, if_neg hpath, hnames, walkFrom_append,
    walkFrom_of_directories hdirectory hparents hexists]
  -- only the last name is left
  change t'.walkFrom directory [name] = _
  simp [walkFrom, hplace', hname, hdot, hdots, htarget]

theorem rename_eq_ok {source : Place} (h : t.rename host source path = .ok t') :
    ∃ target entry, t.placeFor path = .ok target ∧ t.find? source = some entry ∧
      t.find? target ≠ some .directory ∧ t' = (t.unlink source).put target entry := by
  unfold rename at h
  split at h
  · cases h
  rename_i target hplace
  split at h
  · cases h
  · cases h
  · cases h
  rename_i entry hentry _ hdirectory
  cases h
  exact ⟨target, entry, hplace, hentry, hdirectory, rfl⟩

/-- A temporary file that is put in the place of a path: all of its content is found there, and the
temporary file is gone. -/
theorem publishes_of_rename {bytes : ByteArray} (hfree : t.find? temp = none)
    (hview : ∀ place, t'.find? place = if place = temp then some (.file bytes) else t.find? place)
    (h : t'.rename host temp path = .ok t'') : Publishes [(path, bytes)] t t'' := by
  obtain ⟨target, entry, hplace, hentry, htarget, rfl⟩ := rename_eq_ok h
  obtain rfl : entry = .file bytes := by simpa [hview] using hentry.symm
  have hafter : ∀ place, ((t'.unlink temp).put target (.file bytes)).find? place =
      if place = target then some (.file bytes) else t.find? place := by
    intro place
    rw [find?_put _ _ _ _ (ne_root htarget), find?_unlink _ _ _ (ne_root_of_free hfree), hview]
    split_ifs with _ htemp
    · rfl
    · rw [htemp, hfree]
    · rfl
  refine publishes_singleton ?_ (walk_of_placeFor hplace ?_ (by simp [hafter])) hafter
  · rw [hview] at htarget
    split_ifs at htarget with htemp
    · simp [htemp, hfree]
    · exact htarget
  · -- a directory is neither the temporary file nor at the place of the path
    intro directory hdirectory
    rw [isDirectory_iff] at hdirectory ⊢
    have hne : directory ≠ target := by
      rintro rfl
      exact htarget hdirectory
    rw [hview] at hdirectory
    split_ifs at hdirectory
    · cases hdirectory
    · rwa [hafter, if_neg hne]

/-! ## Publishing a file -/

theorem createTemp_eq_ok (h : t.createTemp host place = .ok (t', temp)) :
    t.find? temp = none ∧
      ∀ other, t'.find? other = if other = temp then some (.file .empty) else t.find? other := by
  unfold createTemp at h
  dsimp only at h
  split at h
  · cases h
  · cases h
    have hfree := host.tempName_free t place
    exact ⟨hfree, fun other => find?_put _ _ _ _ (ne_root_of_free hfree)⟩

theorem commit_eq_ok {bytes : ByteArray} (h : t.commit host temp path (.ok bytes) = (t', .ok ())) :
    (t.put temp (.file bytes)).rename host temp path = .ok t' := by
  unfold commit at h
  dsimp only at h
  split at h
  · cases h
  · cases h
  rename_i _ content _ hcontent _
  cases hcontent
  split at h
  · rename_i hrename
    cases h
    exact hrename
  · cases h

/-- A failure changes nothing but the temporary file. -/
theorem find?_of_commit {content : Except String ByteArray} {fault : FileFault}
    (htemp : temp ≠ []) (h : t.commit host temp path content = (t', .error fault))
    (hplace : place ≠ temp) : t'.find? place = t.find? place := by
  unfold commit at h
  dsimp only at h
  split at h
  · cases h
    rfl
  · cases h
    rfl
  · split at h
    · cases h
    · cases h
      rw [find?_put _ _ _ _ htemp, if_neg hplace]

/-- Directories are made first, then a temporary file; then that is filled and put in place. -/
theorem exists_of_publishOn (t : FileTree) (host : Host) (path : String)
    (content : Except String ByteArray) : ∃ grown, t.Grows grown ∧
      ((∃ e, t.publishOn host path content = (grown, .error e)) ∨
        ∃ (created : FileTree) (temp : Place), grown.find? temp = none ∧
          (∀ other, created.find? other =
            if other = temp then some (.file .empty) else grown.find? other) ∧
          t.publishOn host path content =
            match created.commit host temp path content with
            | (t, .ok ()) => (t, .ok ())
            | (t, .error fault) => (t.unlink temp, .error (.notWritten path fault))) := by
  unfold publishOn
  dsimp only
  have hgrows := t.grows_ensureDirectory host (targetDirectory path)
  split
  · rename_i grown fault hensure
    rw [hensure] at hgrows
    exact ⟨grown, hgrows, .inl ⟨_, rfl⟩⟩
  rename_i grown place hensure
  rw [hensure] at hgrows
  refine ⟨grown, hgrows, ?_⟩
  split
  · exact .inl ⟨_, rfl⟩
  · rename_i created temp hcreate
    obtain ⟨hfree, hview⟩ := createTemp_eq_ok hcreate
    exact .inr ⟨created, temp, hfree, hview, rfl⟩

/-- **A published file is found whole** where its path leads, and nothing else changes except that
directories are made. -/
theorem publishes_of_publishOn {bytes : ByteArray}
    (h : t.publishOn host path (.ok bytes) = (t', .ok ())) : Publishes [(path, bytes)] t t' := by
  obtain ⟨grown, hgrows, ⟨e, herror⟩ | ⟨created, temp, hfree, hview, hcommit⟩⟩ :=
    t.exists_of_publishOn host path (.ok bytes)
  · rw [herror] at h
    cases h
  rw [hcommit] at h
  split at h
  · rename_i hcommit
    cases h
    refine hgrows.publishes.append (publishes_of_rename hfree (fun other => ?_)
      (commit_eq_ok hcommit))
    rw [find?_put _ _ _ _ (ne_root_of_free hfree), hview]
    split_ifs <;> rfl
  · cases h

/-- **A failure leaves no more than directories** that were made. -/
theorem grows_of_publishOn {content : Except String ByteArray} {e : Error}
    (h : t.publishOn host path content = (t', .error e)) : t.Grows t' := by
  obtain ⟨grown, hgrows, ⟨e', herror⟩ | ⟨created, temp, hfree, hview, hcommit⟩⟩ :=
    t.exists_of_publishOn host path content
  · rw [herror] at h
    cases h
    exact hgrows
  rw [hcommit] at h
  split at h
  · cases h
  rename_i left fault hfailed
  cases h
  have htemp := ne_root_of_free hfree
  -- without the temporary file, the tree is as it was before that was created
  refine hgrows.trans fun other => .inl ?_
  rw [find?_unlink _ _ _ htemp]
  split_ifs with hother
  · rw [hother, hfree]
  · rw [find?_of_commit htemp hfailed hother, hview, if_neg hother]

-- a directory stands where the file would be put, and the temporary file is gone again
example : (publish ⟨[(["d"], .directory)]⟩ "d" (.ok .empty)).2.isOk = false ∧
    (publish ⟨[(["d"], .directory)]⟩ "d" (.ok .empty)).1.entries.map (·.1) = [["d"]] := by
  decide +kernel

end Specloom.FileTree
