import Mathlib.Tactic.SplitIfs
import Specloom.FileTree.Basic
import Specloom.FileTree.Path
import Specloom.Name
import Specloom.Proofs.Text.Split

/-!
# The place of a path

Wherever a path leads, it leads to the place that its names spell: an empty name and a dot mean
nothing, two dots go up, and any other name goes down.

## Main definitions

* `placeFrom`, `placeOf`: the place that names spell
* `IsName`: names that go down
* `EndsInSlash`: paths with slashes at their end

## Main results

* `FileTree.placeOf_of_walk`: a path leads nowhere else
* `names_slash`, `exists_names_joinPath`: the names of paths that are put together
* `names_append_cases`, `names_append_end_cases`: the names of a path that goes on behind the id of
  a module
-/

namespace Specloom

open FileTree (names)
open Text

/-! ## Places -/

/-- The place that names spell from a place on. -/
def placeFrom (place : Place) : List String → Place
  | [] => place
  | name :: rest =>
    if name = "" ∨ name = "." then placeFrom place rest
    else if name = ".." then placeFrom place.dropLast rest
    else placeFrom (place ++ [name]) rest

/-- The place that a path spells. -/
def placeOf (path : String) : Place :=
  placeFrom [] (names path)

/-- A name that goes down. -/
def IsName (name : String) : Prop :=
  name ∉ ["", ".", ".."]

instance : DecidablePred IsName := fun _ => inferInstanceAs (Decidable (¬ _))

theorem placeFrom_append (place : Place) (first second : List String) :
    placeFrom place (first ++ second) = placeFrom (placeFrom place first) second := by
  induction first generalizing place with
  | nil => rfl
  | cons name rest ih =>
    rw [List.cons_append, placeFrom, placeFrom]
    split_ifs
    · exact ih place
    · exact ih place.dropLast
    · exact ih (place ++ [name])

theorem placeFrom_replicate (place : Place) (count : Nat) :
    placeFrom place (List.replicate count "") = place := by
  induction count with
  | zero => rfl
  | succ count ih => exact ih

theorem placeFrom_singleton {name : String} (h : IsName name) (place : Place) :
    placeFrom place [name] = place ++ [name] := by
  simp only [IsName, List.mem_cons, List.not_mem_nil, or_false, not_or] at h
  simp [placeFrom, h]

/-- What goes on with more than two characters is a name. -/
theorem isName_append {tail : String} (h : 2 < tail.length) (name : String) :
    IsName (name ++ tail) := by
  have hlength (s : String) (hs : s.length ≤ 2) : name ++ tail ≠ s := by
    rintro rfl
    rw [String.length_append] at hs
    omega
  simp only [IsName, List.mem_cons, List.not_mem_nil, or_false, not_or]
  exact ⟨hlength _ (by decide), hlength _ (by decide), hlength _ (by decide)⟩

/-- Where a walk ends, the names spell the place. -/
theorem FileTree.placeFrom_of_walkFrom {t : FileTree} {place target : Place} {names : List String}
    (h : t.walkFrom place names = .ok target) : placeFrom place names = target := by
  induction names generalizing place with
  | nil =>
    cases h
    rfl
  | cons name rest ih =>
    rw [walkFrom] at h
    rw [placeFrom]
    split_ifs at h ⊢
    · exact ih h
    · exact ih h
    · exact ih h

/-- **A path leads to the place that it spells**, if it leads anywhere. -/
theorem FileTree.placeOf_of_walk {t : FileTree} {path : String} {target : Place}
    (h : t.walk path = .ok target) : placeOf path = target := by
  unfold walk at h
  split_ifs at h
  exact placeFrom_of_walkFrom h

/-! ## Names of paths -/

theorem names_slash (first second : String) :
    names (first ++ "/" ++ second) = names first ++ names second := by
  have hlist : (first ++ "/" ++ second).toList = first.toList ++ '/' :: second.toList := by
    simp [String.toList_append]
  rw [names, hlist, splitOn_append_cons, List.map_append]
  rfl

theorem names_of_not_mem {name : String} (h : '/' ∉ name.toList) : names name = [name] := by
  rw [names, splitOn_of_not_mem h, List.map_singleton, String.ofList_toList]

/-- A relative path is put behind a directory, with a slash unless it is there already. -/
theorem joinPath_of_relative (base : String) {path : String} (h : path.toList.head? ≠ some '/') :
    joinPath base path = match base.toList.getLast? with
      | none => path
      | some c => if c = '/' then base ++ path else base ++ "/" ++ path := by
  unfold joinPath
  split
  · exact absurd ‹_› h
  · rename_i hlast _
    rw [hlast]
  · rename_i hlast _
    rw [hlast]
    rfl
  · rename_i c hc hlast _
    rw [hlast]
    exact (if_neg hc).symm

/-- Relative paths keep their names behind a directory. -/
theorem exists_names_joinPath (base : String) : ∃ before, ∀ path : String,
    path.toList.head? ≠ some '/' → names (joinPath base path) = before ++ names path := by
  cases hlast : base.toList.getLast? with
  | none =>
    refine ⟨[], fun path h => ?_⟩
    rw [joinPath_of_relative base h, hlast]
    rfl
  | some c =>
    obtain ⟨front, hfront⟩ := List.getLast?_eq_some_iff.mp hlast
    by_cases hc : c = '/'
    · have hbase : base = String.ofList front ++ "/" := by
        rw [← String.toList_inj, String.toList_append, String.toList_ofList, hfront, hc]
        rfl
      refine ⟨names (String.ofList front), fun path h => ?_⟩
      rw [joinPath_of_relative base h, hlast]
      show names (if c = '/' then base ++ path else _) = _
      rw [if_pos hc, hbase, names_slash]
    · refine ⟨names base, fun path h => ?_⟩
      rw [joinPath_of_relative base h, hlast]
      show names (if c = '/' then _ else base ++ "/" ++ path) = _
      rw [if_neg hc, names_slash]

/-! ## Names of module paths -/

/-- A text without the separators at its end, and as many of them. -/
theorem exists_eq_append_replicate (sep : Char) (cs : List Char) : ∃ count,
    cs = (cs.reverse.dropWhile (· == sep)).reverse ++ List.replicate count sep := by
  refine ⟨(cs.reverse.takeWhile (· == sep)).length, ?_⟩
  have hseps : cs.reverse.takeWhile (· == sep) =
      List.replicate (cs.reverse.takeWhile (· == sep)).length sep := by
    rw [List.eq_replicate_iff]
    refine ⟨rfl, fun c hc => ?_⟩
    simpa using List.all_eq_true.mp List.all_takeWhile c hc
  rw [← List.reverse_inj, List.reverse_append, List.reverse_reverse, List.reverse_replicate,
    ← hseps, List.takeWhile_append_dropWhile]

/-- **A module path is made of** what stands before its id, the id, and slashes. -/
theorem exists_cut_ofPath (path : String) : ∃ front slashes,
    path.toList = front ++ (Name.ofPath path).toList ++ List.replicate slashes '/' ∧
      '/' ∉ (Name.ofPath path).toList ∧ (front = [] ∨ ∃ before, front = before ++ ['/']) := by
  obtain ⟨slashes, hpath⟩ := exists_eq_append_replicate '/' path.toList
  unfold Name.ofPath
  generalize (path.toList.reverse.dropWhile (· == '/')).reverse = trimmed at hpath ⊢
  dsimp only
  split
  · rename_i before id hcut
    obtain ⟨rfl, hid⟩ := splitLast?_eq_some_iff.mp hcut
    refine ⟨before ++ ['/'], slashes, ?_, ?_, .inr ⟨before, rfl⟩⟩
    · rw [hpath, String.toList_ofList, List.append_cons]
    · rwa [String.toList_ofList]
  · rename_i hcut
    refine ⟨[], slashes, ?_, ?_, .inl rfl⟩
    · rw [hpath, String.toList_ofList, List.nil_append]
    · rw [String.toList_ofList]
      exact splitLast?_eq_none_iff.mp hcut

theorem splitOn_replicate_append (sep : Char) (count : Nat) {tail : List Char} (h : sep ∉ tail) :
    splitOn sep (List.replicate count sep ++ tail) = List.replicate count [] ++ [tail] := by
  induction count with
  | zero => exact splitOn_of_not_mem h
  | succ count ih =>
    rw [List.replicate_succ, List.cons_append, List.replicate_succ, List.cons_append, ← ih]
    exact splitOn_append_cons sep [] _

/-- **The names of a module path that goes on**: behind an id without slashes, what follows goes on
with the id; behind slashes, it is a name of its own. -/
theorem names_append_cases (path : String) : ∃ before : List String,
    (∀ tail, '/' ∉ tail.toList → names (path ++ tail) = before ++ [Name.ofPath path ++ tail]) ∨
      ∃ slashes, ∀ tail, '/' ∉ tail.toList → names (path ++ tail) =
        before ++ Name.ofPath path :: (List.replicate slashes "" ++ [tail]) := by
  obtain ⟨front, slashes, hpath, hid, hfront⟩ := exists_cut_ofPath path
  have hbefore : ∃ before, ∀ cs, splitOn '/' (front ++ cs) = before ++ splitOn '/' cs := by
    rcases hfront with rfl | ⟨before, rfl⟩
    · exact ⟨[], fun _ => rfl⟩
    · refine ⟨splitOn '/' before, fun cs => ?_⟩
      rw [List.append_assoc, List.singleton_append, splitOn_append_cons]
  obtain ⟨before, hbefore⟩ := hbefore
  refine ⟨before.map String.ofList, ?_⟩
  cases slashes with
  | zero =>
    refine .inl fun tail htail => ?_
    have hmem : '/' ∉ (Name.ofPath path).toList ++ tail.toList := by
      simp [hid, htail]
    rw [names, String.toList_append, hpath, List.replicate_zero, List.append_nil,
      List.append_assoc, hbefore, splitOn_of_not_mem hmem, List.map_append, List.map_singleton,
      String.ofList_append, String.ofList_toList, String.ofList_toList]
  | succ slashes =>
    refine .inr ⟨slashes, fun tail htail => ?_⟩
    rw [names, String.toList_append, hpath, List.replicate_succ, List.append_assoc,
      List.append_assoc, hbefore, List.cons_append, splitOn_append_cons, splitOn_of_not_mem hid,
      splitOn_replicate_append '/' slashes htail]
    simp

/-- The place of a module path ends with the id, if that is a name. -/
theorem getLastD_placeFrom_names {path : String} (h : IsName (Name.ofPath path)) (place : Place) :
    (placeFrom place (names path)).getLastD "" = Name.ofPath path := by
  obtain ⟨before, hnames⟩ := names_append_cases path
  have hempty : '/' ∉ "".toList := List.not_mem_nil
  rcases hnames with hnames | ⟨slashes, hnames⟩
  · have hpath := hnames "" hempty
    rw [String.append_empty, String.append_empty] at hpath
    rw [hpath, placeFrom_append, placeFrom_singleton h, List.getLastD_concat]
  · have hpath := hnames "" hempty
    rw [String.append_empty, ← List.replicate_succ'] at hpath
    rw [hpath, placeFrom_append, ← List.singleton_append, placeFrom_append, placeFrom_replicate,
      placeFrom_singleton h, List.getLastD_concat]

/-! ## Paths with slashes at the end -/

/-- A path ends in a slash. -/
def EndsInSlash (path : String) : Prop :=
  path.toList.getLast? = some '/'

instance (path : String) : Decidable (EndsInSlash path) :=
  inferInstanceAs (Decidable (_ = _))

theorem endsInSlash_iff {path : String} : EndsInSlash path ↔ ∃ front, path = front ++ "/" := by
  rw [EndsInSlash, List.getLast?_eq_some_iff]
  constructor
  · rintro ⟨front, hfront⟩
    refine ⟨String.ofList front, ?_⟩
    rw [← String.toList_inj, String.toList_append, String.toList_ofList, hfront]
    rfl
  · rintro ⟨front, rfl⟩
    exact ⟨front.toList, by simp [String.toList_append]⟩

/-- The last name of a path with more names is empty exactly behind a slash. -/
theorem endsInSlash_iff_names {path : String} :
    EndsInSlash path ↔ ∃ before ≠ [], names path = before ++ [""] := by
  have hempty : names "" = [""] := names_of_not_mem List.not_mem_nil
  rw [endsInSlash_iff]
  constructor
  · rintro ⟨front, rfl⟩
    refine ⟨names front, ?_, ?_⟩
    · rw [names, Ne, List.map_eq_nil_iff]
      exact splitWhere_ne_nil _ _
    · rw [← String.append_empty (s := front ++ "/"), names_slash, hempty]
  · rintro ⟨before, hbefore, hnames⟩
    cases hcut : splitLast? '/' path.toList with
    | none =>
      -- a path without slashes is a single name
      rw [names_of_not_mem (splitLast?_eq_none_iff.mp hcut), ← List.nil_append [path]] at hnames
      obtain ⟨rfl, -⟩ := List.append_inj' hnames rfl
      exact absurd rfl hbefore
    | some cut =>
      obtain ⟨hpath, hlast⟩ := splitLast?_eq_some_iff.mp hcut
      have hpath : path = String.ofList cut.1 ++ "/" ++ String.ofList cut.2 := by
        rw [← String.toList_inj, hpath]
        simp [String.toList_append]
      have hlast : names (String.ofList cut.2) = [String.ofList cut.2] :=
        names_of_not_mem (by simpa using hlast)
      rw [hpath, names_slash, hlast] at hnames
      obtain ⟨-, hname⟩ := List.append_inj' hnames rfl
      exact ⟨String.ofList cut.1, by rw [hpath, List.singleton_inj.mp hname, String.append_empty]⟩

/-- **The names of a module path that goes on**, by its end: behind slashes, what follows is a name
of its own, and otherwise it goes on with the id. -/
theorem names_append_end_cases (path : String) : ∃ before : List String,
    ((EndsInSlash path → Name.ofPath path = "") ∧ ∀ tail, '/' ∉ tail.toList →
      names (path ++ tail) = before ++ [Name.ofPath path ++ tail]) ∨
    (EndsInSlash path ∧ ∃ slashes, ∀ tail, '/' ∉ tail.toList → names (path ++ tail) =
      before ++ Name.ofPath path :: (List.replicate slashes "" ++ [tail])) := by
  have hempty : '/' ∉ "".toList := List.not_mem_nil
  obtain ⟨before, hnames | ⟨slashes, hnames⟩⟩ := names_append_cases path
  · refine ⟨before, .inl ⟨fun hslash => ?_, hnames⟩⟩
    obtain ⟨before', -, hlast⟩ := endsInSlash_iff_names.mp hslash
    have hpath := hnames "" hempty
    rw [String.append_empty, String.append_empty, hlast] at hpath
    exact (List.singleton_inj.mp (List.append_inj' hpath rfl).2).symm
  · refine ⟨before, .inr ⟨?_, slashes, hnames⟩⟩
    have hpath := hnames "" hempty
    rw [String.append_empty] at hpath
    refine endsInSlash_iff_names.mpr
      ⟨before ++ Name.ofPath path :: List.replicate slashes "", by simp, ?_⟩
    rw [hpath, List.append_assoc, List.cons_append]

end Specloom
