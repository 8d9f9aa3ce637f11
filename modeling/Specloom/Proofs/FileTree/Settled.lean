import Specloom.Proofs.Checked
import Specloom.Proofs.FileTree.Publish

/-!
# Publishing again

Where a file was published, it can be published again: its directory is there, its place holds a
file, and what the host has granted once it grants again. That makes no directory, so nothing
changes but the contents of files.

## Main definitions

* `Host.Steady`: a host that grants again what it has granted
* `FileTree.Settled`: a path whose file can be replaced
* `FileTree.Stays`, `FileTree.Rewrites`: changes under which files stay files and directories stay
  directories, and changes of the contents of files only

## Main results

* `FileTree.publishOn_eq_ok`: what it takes to publish a file
* `FileTree.settled_of_publishOn`, `FileTree.Settled.publishOn`: a published file can be replaced,
  and what replacing it changes
* `FileTree.Publishes.find?_eq`: publishing the same files again changes nothing
-/

namespace Specloom

/-- A host that judges a file by its directory and by the place that it is put in, not by its own
name nor by the time: what it has granted once it grants again. -/
structure Host.Steady (host : Host) : Prop where
  create (directory : Place) {t : FileTree} {name : String} :
    host.refusal? t (.create (directory ++ [name])) = none →
      ∀ t' name', host.refusal? t' (.create (directory ++ [name'])) = none
  write (directory : Place) {t : FileTree} {name : String} :
    host.refusal? t (.write (directory ++ [name])) = none →
      ∀ t' name', host.refusal? t' (.write (directory ++ [name'])) = none
  rename (directory target : Place) {t : FileTree} {name : String} :
    host.refusal? t (.rename (directory ++ [name]) target) = none →
      ∀ t' name', host.refusal? t' (.rename (directory ++ [name']) target) = none

theorem Host.steady_plain : Host.plain.Steady where
  create _ _ _ _ := fun _ _ => rfl
  write _ _ _ _ := fun _ _ => rfl
  rename _ _ _ _ _ := fun _ _ => rfl

namespace FileTree

variable {t t' t'' : FileTree} {host : Host} {path : String} {place directory temp target : Place}
  {bytes : ByteArray} {files : List (String × ByteArray)}

/-! ## Changes of contents -/

/-- Directories stay directories and files stay files. -/
structure Stays (t t' : FileTree) : Prop where
  directory : ∀ place, t.find? place = some .directory → t'.find? place = some .directory
  file : ∀ place bytes, t.find? place = some (.file bytes) →
    ∃ bytes', t'.find? place = some (.file bytes')

theorem Stays.isDirectory (h : t.Stays t') (hplace : t.isDirectory place) : t'.isDirectory place :=
  isDirectory_iff.mpr (h.directory place (isDirectory_iff.mp hplace))

/-- All that changes is what files hold. -/
def Rewrites (t t' : FileTree) : Prop :=
  ∀ place, t'.find? place = t.find? place ∨
    ∃ old new, t.find? place = some (.file old) ∧ t'.find? place = some (.file new)

theorem Rewrites.refl (t : FileTree) : t.Rewrites t :=
  fun _ => .inl rfl

theorem Rewrites.stays (h : t.Rewrites t') : t.Stays t' where
  directory place hdirectory := by
    rcases h place with heq | ⟨old, -, hold, -⟩
    · rwa [heq]
    · rw [hold] at hdirectory
      cases hdirectory
  file place bytes hfile := by
    rcases h place with heq | ⟨-, new, -, hnew⟩
    · exact ⟨bytes, by rwa [heq]⟩
    · exact ⟨new, hnew⟩

theorem Rewrites.trans (h : t.Rewrites t') (h' : t'.Rewrites t'') : t.Rewrites t'' := by
  intro place
  rcases h' place with heq' | ⟨old', new', hold', hnew'⟩
  · rw [heq']
    exact h place
  · rcases h place with heq | ⟨old, -, hold, -⟩
    · exact .inr ⟨old', new', heq ▸ hold', hnew'⟩
    · exact .inr ⟨old, new', hold, hnew'⟩

/-! ## What publishing leaves at a place -/

/-- The last element of a list with some property, if there is one. -/
theorem exists_last {α : Type} (p : α → Prop) (xs : List α) :
    (∀ x ∈ xs, ¬ p x) ∨
      ∃ before x after, xs = before ++ x :: after ∧ p x ∧ ∀ y ∈ after, ¬ p y := by
  induction xs with
  | nil => exact .inl (List.forall_mem_nil _)
  | cons x xs ih =>
    rcases ih with hnone | ⟨before, y, after, rfl, hy, hafter⟩
    · by_cases hx : p x
      · exact .inr ⟨[], x, xs, rfl, hx, hnone⟩
      · exact .inl (List.forall_mem_cons.mpr ⟨hx, hnone⟩)
    · exact .inr ⟨x :: before, y, after, rfl, hy, hafter⟩

/-- A place holds what was last published there, or it is no place of a published file and holds
what it held, or a directory that was made. -/
theorem Publishes.find?_cases (h : Publishes files t t') (place : Place) :
    (∃ before path bytes after, files = before ++ (path, bytes) :: after ∧
      t'.walk path = .ok place ∧ (∀ later ∈ after, t'.walk later.1 ≠ .ok place) ∧
      t'.find? place = some (.file bytes)) ∨ t.GrowsAt t' place := by
  rcases exists_last (fun file : String × ByteArray => t'.walk file.1 = .ok place) files with
    hnone | ⟨before, ⟨path, bytes⟩, after, hfiles, hwalk, hafter⟩
  · exact .inr (h.rest place hnone)
  · obtain ⟨place', hwalk', hcontent⟩ := h.content before path bytes after hfiles
    cases hwalk.symm.trans hwalk'
    exact .inl ⟨before, path, bytes, after, hfiles, hwalk, hafter, hcontent hafter⟩

theorem Publishes.stays (h : Publishes files t t') : t.Stays t' where
  directory := h.keeps.directory
  file place bytes hfile := by
    rcases h.find?_cases place with ⟨-, -, bytes', -, -, -, -, hfound⟩ | heq | ⟨hnone, -⟩
    · exact ⟨bytes', hfound⟩
    · exact ⟨bytes, by rwa [heq]⟩
    · rw [hfile] at hnone
      cases hnone

/-- **Publishing the same files again changes nothing**, if it makes no directory. -/
theorem Publishes.find?_eq (h : Publishes files t t') (h' : Publishes files t' t'')
    (hrewrites : t'.Rewrites t'') (place : Place) : t''.find? place = t'.find? place := by
  rcases h'.find?_cases place with
    ⟨before, path, bytes, after, hfiles, hwalk, hafter, hfound⟩ | heq | ⟨hnone, -⟩
  · -- the file that is last published at a place is the same in both runs
    obtain ⟨place', hwalk', hcontent⟩ := h.content before path bytes after hfiles
    cases hwalk.symm.trans (h'.keeps.walk hwalk')
    rw [hfound, hcontent fun later hmem hlater => hafter later hmem (h'.keeps.walk hlater)]
  · exact heq
  · rcases hrewrites place with heq | ⟨old, -, hold, -⟩
    · exact heq
    · rw [hnone] at hold
      cases hold

/-- A file that none of the published ones replaces is read as before. -/
theorem Publishes.readText (h : Publishes files t t') {text : String}
    (hread : t.readText path = .ok text) (hother : ∀ file ∈ files, t'.walk path ≠ t'.walk file.1) :
    t'.readText path = .ok text := by
  obtain ⟨content, hcontent, htext⟩ := bind_eq_ok.mp hread
  obtain ⟨place, hwalk, hfound⟩ := bind_eq_ok.mp hcontent
  have hwalk' := h.keeps.walk hwalk
  have hsame : t'.find? place = t.find? place := by
    rcases h.rest place fun file hfile hfile' => hother file hfile (hwalk'.trans hfile'.symm) with
      heq | ⟨hnone, -⟩
    · exact heq
    · rw [hnone] at hfound
      cases hfound
  refine bind_eq_ok.mpr ⟨content, bind_eq_ok.mpr ⟨place, hwalk', ?_⟩, htext⟩
  rw [hsame]
  exact hfound

/-! ## What it takes to publish a file -/

/-- The place of a temporary file in a directory. -/
def tempPlace (t : FileTree) (host : Host) (directory : Place) : Place :=
  directory ++ [host.tempName t directory]

theorem find?_tempPlace (t : FileTree) (host : Host) (directory : Place) :
    t.find? (t.tempPlace host directory) = none :=
  host.tempName_free t directory

/-- A tree in which a temporary file was created and filled. -/
def filled (t : FileTree) (temp : Place) (bytes : ByteArray) : FileTree :=
  (t.put temp (.file .empty)).put temp (.file bytes)

/-- A tree in which a temporary file was created, filled and put in another place. -/
def replaced (t : FileTree) (temp target : Place) (bytes : ByteArray) : FileTree :=
  ((t.filled temp bytes).unlink temp).put target (.file bytes)

theorem find?_filled (hfree : t.find? temp = none) (bytes : ByteArray) (place : Place) :
    (t.filled temp bytes).find? place =
      if place = temp then some (.file bytes) else t.find? place := by
  have htemp := ne_root_of_free hfree
  rw [filled, find?_put _ _ _ _ htemp, find?_put _ _ _ _ htemp]
  split_ifs <;> rfl

/-- A temporary file is at no place where something was before. -/
theorem find?_filled_of_some {entry : Entry} (hfree : t.find? temp = none) (bytes : ByteArray)
    (h : t.find? place = some entry) : (t.filled temp bytes).find? place = some entry := by
  rw [find?_filled hfree, if_neg]
  · exact h
  · rintro rfl
    rw [hfree] at h
    cases h

theorem find?_replaced (hfree : t.find? temp = none) (htarget : target ≠ []) (bytes : ByteArray)
    (place : Place) : (t.replaced temp target bytes).find? place =
      if place = target then some (.file bytes) else t.find? place := by
  rw [replaced, find?_put _ _ _ _ htarget, find?_unlink _ _ _ (ne_root_of_free hfree),
    find?_filled hfree]
  split_ifs with _ htemp
  · rfl
  · rw [htemp, hfree]
  · rfl

theorem createTemp_eq_ok_iff {created : FileTree} :
    t.createTemp host directory = .ok (created, temp) ↔
      host.refusal? t (.create (t.tempPlace host directory)) = none ∧
        temp = t.tempPlace host directory ∧ created = t.put temp (.file .empty) := by
  unfold createTemp tempPlace
  dsimp only
  constructor
  · intro h
    split at h
    · cases h
    · rename_i hrefusal
      cases h
      exact ⟨hrefusal, rfl, rfl⟩
  · rintro ⟨hrefusal, rfl, rfl⟩
    rw [hrefusal]

theorem commit_eq_ok_iff : t.commit host temp path (.ok bytes) = (t', .ok ()) ↔
    host.refusal? t (.write temp) = none ∧
      (t.put temp (.file bytes)).rename host temp path = .ok t' := by
  constructor
  · intro h
    refine ⟨?_, commit_eq_ok h⟩
    cases hrefusal : host.refusal? t (.write temp) with
    | none => rfl
    | some message =>
      unfold commit at h
      rw [hrefusal] at h
      cases h
  · rintro ⟨hrefusal, hrename⟩
    unfold commit
    simp only [hrefusal, hrename]

theorem rename_eq_ok_iff {source : Place} : t.rename host source path = .ok t' ↔
    ∃ target entry, t.placeFor path = .ok target ∧ t.find? source = some entry ∧
      t.find? target ≠ some .directory ∧ host.refusal? t (.rename source target) = none ∧
      t' = (t.unlink source).put target entry := by
  unfold rename
  constructor
  · intro h
    split at h
    · cases h
    rename_i target hplace
    split at h
    · cases h
    · cases h
    · cases h
    · rename_i entry hentry hrefusal hdirectory
      cases h
      exact ⟨target, entry, hplace, hentry, hdirectory, hrefusal, rfl⟩
  · rintro ⟨target, entry, hplace, hentry, htarget, hrefusal, rfl⟩
    simp only [hplace, hentry, hrefusal]

/-- **What it takes to publish a file**: its directory, which may have to be made, a place that
holds no directory, and the consent of the host to each step with the temporary file. -/
theorem publishOn_eq_ok : t.publishOn host path (.ok bytes) = (t', .ok ()) ↔
    ∃ grown directory temp target,
      t.ensureDirectory host (targetDirectory path) = (grown, .ok directory) ∧
      temp = grown.tempPlace host directory ∧
      host.refusal? grown (.create temp) = none ∧
      host.refusal? (grown.put temp (.file .empty)) (.write temp) = none ∧
      (grown.filled temp bytes).placeFor path = .ok target ∧
      (grown.filled temp bytes).find? target ≠ some .directory ∧
      host.refusal? (grown.filled temp bytes) (.rename temp target) = none ∧
      t' = grown.replaced temp target bytes := by
  rw [publishOn]
  constructor
  · intro h
    split at h
    · cases h
    rename_i grown directory hensure
    split at h
    · cases h
    rename_i created temp hcreate
    split at h
    · rename_i hcommit
      cases h
      obtain ⟨hcreated, rfl, rfl⟩ := createTemp_eq_ok_iff.mp hcreate
      obtain ⟨hwritten, hrename⟩ := commit_eq_ok_iff.mp hcommit
      obtain ⟨target, entry, hplaced, hentry, htarget, hrenamed, rfl⟩ := rename_eq_ok_iff.mp hrename
      change (grown.filled _ bytes).find? _ = _ at hentry
      rw [find?_filled (grown.find?_tempPlace host directory), if_pos rfl] at hentry
      cases hentry
      exact ⟨grown, directory, _, target, hensure, rfl, hcreated, hwritten, hplaced, htarget,
        hrenamed, rfl⟩
    · cases h
  · rintro ⟨grown, directory, temp, target, hensure, rfl, hcreated, hwritten, hplaced, htarget,
      hrenamed, rfl⟩
    have hfree := grown.find?_tempPlace host directory
    have hfilled := (find?_filled hfree bytes _).trans (if_pos rfl)
    have hcreate := createTemp_eq_ok_iff.mpr ⟨hcreated, rfl, rfl⟩
    have hcommit := commit_eq_ok_iff.mpr ⟨hwritten, rename_eq_ok_iff.mpr
      ⟨target, _, hplaced, hfilled, htarget, hrenamed, rfl⟩⟩
    simp only [hensure, hcreate, hcommit]
    rfl

/-! ## Paths whose files can be replaced -/

/-- Directories that were made are found again, so nothing is left to be made. -/
theorem ensureDirectoryFrom_again {made made' : Bool} {names : List String}
    (h : t.ensureDirectoryFrom host made place names = (t', .ok target))
    (hdirectory : ∀ place, t'.isDirectory place → t''.isDirectory place) :
    t''.ensureDirectoryFrom host made' place names = (t'', .ok target) := by
  induction names generalizing t made made' place with
  | nil =>
    cases h
    rfl
  | cons name rest ih =>
    rw [ensureDirectoryFrom] at h ⊢
    -- wherever the names lead through a directory, there is one in the end
    have hthrough {grown : FileTree} {made : Bool}
        (hnext : grown.find? (place ++ [name]) = some .directory)
        (hrest : grown.ensureDirectoryFrom host made (place ++ [name]) rest = (t', .ok target)) :
        t''.find? (place ++ [name]) = some .directory := by
      have hgrows := grown.grows_ensureDirectoryFrom host made (place ++ [name]) rest
      rw [hrest] at hgrows
      exact isDirectory_iff.mp
        (hdirectory _ (isDirectory_iff.mpr (hgrows.keeps.directory _ hnext)))
    by_cases hidle : name = "" ∨ name = "."
    · rw [if_pos hidle] at h ⊢
      exact ih h
    rw [if_neg hidle] at h ⊢
    by_cases hparent : name = ".."
    · rw [if_pos hparent] at h ⊢
      exact ih h
    rw [if_neg hparent] at h ⊢
    split at h
    · rename_i hnext
      rw [hthrough hnext h]
      exact ih h
    · cases h
    · split at h
      · cases h
      rename_i hnone _ _
      have hnext := find?_put t (place ++ [name]) (place ++ [name]) .directory
        (ne_root_of_free hnone)
      rw [if_pos rfl] at hnext
      rw [hthrough hnext h]
      exact ih h

/-- A place for a path is kept with the directories. -/
theorem placeFor_of_directories (h : t.placeFor path = .ok target)
    (hdirectory : ∀ place, t.isDirectory place → t'.isDirectory place) :
    t'.placeFor path = .ok target := by
  unfold placeFor at h ⊢
  split_ifs at h ⊢ with hpath
  cases hnames : (names path).reverse.dropWhile (· = "") with
  | nil =>
    rw [hnames] at h
    cases h
  | cons name before =>
    rw [hnames] at h
    dsimp only at h ⊢
    cases hparents : t.walkFrom [] before.reverse with
    | error fault =>
      rw [hparents] at h
      cases h
    | ok directory =>
      rw [hparents] at h
      dsimp only at h
      split_ifs at h with hplace hdots hslash
      have hplace' := hdirectory directory (by simpa using hplace)
      have hexists : (t'.find? directory).isSome := by
        rw [isDirectory_iff.mp hplace']
        rfl
      rw [walkFrom_of_directories hdirectory hparents hexists]
      simp only [hplace', hdots, hslash]
      exact h

/-- A host that lets a file of any name be created in a directory, filled and put in some place. -/
structure Consents (host : Host) (directory target : Place) : Prop where
  create : ∀ t name, host.refusal? t (.create (directory ++ [name])) = none
  write : ∀ t name, host.refusal? t (.write (directory ++ [name])) = none
  rename : ∀ t name, host.refusal? t (.rename (directory ++ [name]) target) = none

/-- A path whose file can be replaced: its directory is there, its place holds a file, and the host
consents. -/
structure Settled (t : FileTree) (host : Host) (path : String) (directory target : Place) :
    Prop where
  ensured : t.ensureDirectory host (targetDirectory path) = (t, .ok directory)
  placed : t.placeFor path = .ok target
  file : ∃ bytes, t.find? target = some (.file bytes)
  consents : Consents host directory target

theorem Settled.mono (h : t.Settled host path directory target) (hstays : t.Stays t') :
    t'.Settled host path directory target where
  ensured := ensureDirectoryFrom_again h.ensured fun _ => hstays.isDirectory
  placed := placeFor_of_directories h.placed fun _ => hstays.isDirectory
  file := by
    obtain ⟨bytes, hfile⟩ := h.file
    exact hstays.file target bytes hfile
  consents := h.consents

/-- **A file that was published can be replaced**, on a host that grants again what it has
granted. -/
theorem settled_of_publishOn (hsteady : host.Steady)
    (h : t.publishOn host path (.ok bytes) = (t', .ok ())) :
    ∃ directory target, t'.Settled host path directory target := by
  obtain ⟨grown, directory, temp, target, hensure, rfl, hcreated, hwritten, hplaced, htarget,
    hrenamed, rfl⟩ := publishOn_eq_ok.mp h
  have hfree := grown.find?_tempPlace host directory
  have hview := find?_replaced hfree (ne_root htarget) bytes
  -- a directory is neither the temporary file nor at the place of the path
  have hgrown (place : Place) (hplace : grown.isDirectory place) :
      (grown.replaced (grown.tempPlace host directory) target bytes).isDirectory place := by
    rw [isDirectory_iff] at hplace ⊢
    rw [hview, if_neg]
    · exact hplace
    · rintro rfl
      exact htarget (find?_filled_of_some hfree bytes hplace)
  have hfilled (place : Place)
      (hplace : (grown.filled (grown.tempPlace host directory) bytes).isDirectory place) :
      grown.isDirectory place := by
    rw [isDirectory_iff] at hplace ⊢
    rw [find?_filled hfree] at hplace
    split_ifs at hplace
    · cases hplace
    · exact hplace
  exact ⟨directory, target, {
    ensured := ensureDirectoryFrom_again hensure hgrown
    placed := placeFor_of_directories hplaced fun place hplace =>
      hgrown place (hfilled place hplace)
    file := ⟨bytes, by rw [hview, if_pos rfl]⟩
    consents := ⟨hsteady.create directory hcreated, hsteady.write directory hwritten,
      hsteady.rename directory target hrenamed⟩ }⟩

/-- **Replacing a file** succeeds and changes nothing but what files hold. -/
theorem Settled.publishOn (h : t.Settled host path directory target) (bytes : ByteArray) :
    ∃ t', t.publishOn host path (.ok bytes) = (t', .ok ()) ∧ t.Rewrites t' := by
  obtain ⟨old, hold⟩ := h.file
  have hfree := t.find?_tempPlace host directory
  have hplaced : (t.filled (t.tempPlace host directory) bytes).placeFor path = .ok target := by
    refine placeFor_of_directories h.placed fun place hplace => ?_
    rw [isDirectory_iff] at hplace ⊢
    exact find?_filled_of_some hfree bytes hplace
  have htarget : (t.filled (t.tempPlace host directory) bytes).find? target ≠ some .directory := by
    rw [find?_filled_of_some hfree bytes hold]
    rintro ⟨⟩
  refine ⟨_, publishOn_eq_ok.mpr ⟨t, directory, _, target, h.ensured, rfl, h.consents.create _ _,
    h.consents.write _ _, hplaced, htarget, h.consents.rename _ _, rfl⟩, fun place => ?_⟩
  rw [find?_replaced hfree (ne_root htarget)]
  split_ifs with hplace
  · exact .inr ⟨old, bytes, hplace ▸ hold, rfl⟩
  · exact .inl rfl

end FileTree

end Specloom
