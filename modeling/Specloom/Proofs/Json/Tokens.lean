import Mathlib.Data.List.Basic
import Specloom.Json.Tree

/-!
# JSON values as tokens

A value is written as tokens in one way. A text is read by a machine that keeps the lists and
objects that are open; at every moment the tokens that it has read are those of what is open. So a
text is read without a fault exactly if its tokens are those of a value that is not nested too deep,
and that is the value that is read.

## Main definitions

* `Node.tokens`, `Node.depth`: the tokens of a value, and how deep it is nested
* `IsTextOf`: a text is the text of a value
* `Opened`, `Reached`: the tokens that lead to what is open, and to a state of reading

## Main results

* `readFrom_tokens`: the tokens of a value are read as that value
* `Reached.step`, `Reached.readFrom`: a token, and the tokens of a document
* `read_eq_iff`: a text is read as a value exactly if it is the text of that value
-/

namespace Specloom.Json

/-! ## Values -/

mutual

/-- The tokens of a value. -/
def Node.tokens : Node → List Token
  | .null => [.null]
  | .bool b => [.bool b]
  | .number n => [.number n]
  | .string s => [.string s]
  | .list items _ =>
    .openList :: (List.intercalate [.comma] (tokensOfItems items) ++ [.closeList])
  | .object members _ =>
    .openObject :: (List.intercalate [.comma] (tokensOfMembers members) ++ [.closeObject])
  | .broken _ => []

/-- The tokens of each item of a list. -/
def tokensOfItems : List Node → List (List Token)
  | [] => []
  | v :: rest => v.tokens :: tokensOfItems rest

/-- The tokens of each member of an object. -/
def tokensOfMembers : List (String × Node) → List (List Token)
  | [] => []
  | (key, v) :: rest => (.string key :: .colon :: v.tokens) :: tokensOfMembers rest

end

mutual

/-- How deep lists and objects are inside each other. -/
def Node.depth : Node → Nat
  | .list items _ => depthOfItems items + 1
  | .object members _ => depthOfMembers members + 1
  | _ => 0

/-- The greatest depth among the items of a list. -/
def depthOfItems : List Node → Nat
  | [] => 0
  | v :: rest => max v.depth (depthOfItems rest)

/-- The greatest depth among the members of an object. -/
def depthOfMembers : List (String × Node) → Nat
  | [] => 0
  | (_, v) :: rest => max v.depth (depthOfMembers rest)

end

/-- A text is the text of a value: its tokens are those of the value, and the value is whole and not
nested too deep. -/
structure IsTextOf (text : String) (v : Node) : Prop where
  fault?_eq : v.fault? = none
  depth_le : v.depth ≤ maxDepth
  tokens_eq : tokens text.toList = v.tokens

theorem tokensOfItems_eq (items : List Node) : tokensOfItems items = items.map Node.tokens := by
  induction items with
  | nil => rfl
  | cons v items ih => rw [tokensOfItems, ih, List.map_cons]

theorem tokensOfMembers_eq (members : List (String × Node)) :
    tokensOfMembers members = members.map fun m => .string m.1 :: .colon :: m.2.tokens := by
  induction members with
  | nil => rfl
  | cons m members ih => rw [tokensOfMembers, ih, List.map_cons]

theorem depthOfItems_le_iff {items : List Node} {n : Nat} :
    depthOfItems items ≤ n ↔ ∀ v ∈ items, v.depth ≤ n := by
  induction items with
  | nil => simp [depthOfItems]
  | cons v items ih => rw [depthOfItems, Nat.max_le, ih, List.forall_mem_cons]

theorem depthOfMembers_le_iff {members : List (String × Node)} {n : Nat} :
    depthOfMembers members ≤ n ↔ ∀ m ∈ members, m.2.depth ≤ n := by
  induction members with
  | nil => simp [depthOfMembers]
  | cons m members ih => rw [depthOfMembers, Nat.max_le, ih, List.forall_mem_cons]

theorem itemsFault?_eq_none_iff {items : List Node} :
    itemsFault? items = none ↔ ∀ v ∈ items, v.fault? = none := by
  induction items with
  | nil => simp [itemsFault?]
  | cons v items ih => rw [itemsFault?, Option.or_eq_none_iff, ih, List.forall_mem_cons]

theorem membersFault?_eq_none_iff {members : List (String × Node)} :
    membersFault? members = none ↔ ∀ m ∈ members, m.2.fault? = none := by
  induction members with
  | nil => simp [membersFault?]
  | cons m members ih => rw [membersFault?, Option.or_eq_none_iff, ih, List.forall_mem_cons]

mutual

/-- Induction along items and members. -/
theorem Node.induction {motive : Node → Prop}
    (null : motive .null) (bool : ∀ b, motive (.bool b)) (number : ∀ n, motive (.number n))
    (string : ∀ s, motive (.string s))
    (list : ∀ items fault, (∀ v ∈ items, motive v) → motive (.list items fault))
    (object : ∀ members fault, (∀ m ∈ members, motive m.2) → motive (.object members fault))
    (broken : ∀ fault, motive (.broken fault)) : (v : Node) → motive v
  | .null => null
  | .bool b => bool b
  | .number n => number n
  | .string s => string s
  | .list items fault =>
    list items fault (inductionItems null bool number string list object broken items)
  | .object members fault =>
    object members fault (inductionMembers null bool number string list object broken members)
  | .broken fault => broken fault

theorem Node.inductionItems {motive : Node → Prop}
    (null : motive .null) (bool : ∀ b, motive (.bool b)) (number : ∀ n, motive (.number n))
    (string : ∀ s, motive (.string s))
    (list : ∀ items fault, (∀ v ∈ items, motive v) → motive (.list items fault))
    (object : ∀ members fault, (∀ m ∈ members, motive m.2) → motive (.object members fault))
    (broken : ∀ fault, motive (.broken fault)) : (items : List Node) → ∀ v ∈ items, motive v
  | [] => List.forall_mem_nil _
  | v :: items => List.forall_mem_cons.mpr
    ⟨Node.induction null bool number string list object broken v,
      inductionItems null bool number string list object broken items⟩

theorem Node.inductionMembers {motive : Node → Prop}
    (null : motive .null) (bool : ∀ b, motive (.bool b)) (number : ∀ n, motive (.number n))
    (string : ∀ s, motive (.string s))
    (list : ∀ items fault, (∀ v ∈ items, motive v) → motive (.list items fault))
    (object : ∀ members fault, (∀ m ∈ members, motive m.2) → motive (.object members fault))
    (broken : ∀ fault, motive (.broken fault)) :
    (members : List (String × Node)) → ∀ m ∈ members, motive m.2
  | [] => List.forall_mem_nil _
  | (_, v) :: members => List.forall_mem_cons.mpr
    ⟨Node.induction null bool number string list object broken v,
      inductionMembers null bool number string list object broken members⟩

end

/-! ## Reading the tokens of a value -/

/-- Reads on after a value. -/
def resume (v : Node) (frames : List Frame) (rest : List Token) : Document :=
  readFrom (afterValue v frames).1 (afterValue v frames).2 rest

/-- A value may be the first item of a list. -/
theorem readFrom_firstItem {v : Node} (hv : v.fault? = none) (frames : List Frame)
    (rest : List Token) : readFrom .firstItem frames (v.tokens ++ rest) =
      readFrom .value (.list [] :: frames) (v.tokens ++ rest) := by
  cases v with
  | broken fault => cases hv
  | _ => rfl

/-- A value may be an item of a list. -/
theorem readFrom_item {v : Node} (hv : v.fault? = none) (items : List Node) (frames : List Frame)
    (rest : List Token) : readFrom (.item items) frames (v.tokens ++ rest) =
      readFrom .value (.list items :: frames) (v.tokens ++ rest) := by
  cases v with
  | broken fault => cases hv
  | _ => rfl

/-- A value is read from its tokens, whatever follows. -/
def IsRead (v : Node) : Prop :=
  ∀ frames rest, frames.length + v.depth ≤ maxDepth →
    readFrom .value frames (v.tokens ++ rest) = resume v frames rest

variable {frames : List Frame}

/-- Items are read one after the other, up to the end of their list. -/
theorem readFrom_items {v : Node} {items : List Node} (hread : ∀ u ∈ v :: items, IsRead u)
    (hfault : ∀ u ∈ v :: items, u.fault? = none)
    (hdepth : ∀ u ∈ v :: items, frames.length + 1 + u.depth ≤ maxDepth) (done : List Node)
    (rest : List Token) :
    readFrom .value (.list done :: frames)
        (List.intercalate [.comma] ((v :: items).map Node.tokens) ++ .closeList :: rest) =
      resume (.list (done.reverse ++ v :: items) none) frames rest := by
  induction items generalizing v done with
  | nil =>
    rw [List.forall_mem_singleton] at hread hdepth
    rw [List.map_singleton, List.intercalate_singleton, hread (.list done :: frames) _ hdepth]
    show resume (.list (v :: done).reverse none) frames rest = _
    rw [List.reverse_cons]
  | cons w items ih =>
    rw [List.forall_mem_cons] at hread hfault hdepth
    have htail : List.intercalate [.comma] ((v :: w :: items).map Node.tokens) ++
          .closeList :: rest =
        v.tokens ++ .comma :: (List.intercalate [.comma] ((w :: items).map Node.tokens) ++
          .closeList :: rest) := by
      simp [List.intercalate_cons_cons]
    have hnext : ∃ more, List.intercalate [.comma] ((w :: items).map Node.tokens) ++
        .closeList :: rest = w.tokens ++ more := by
      cases items <;> simp [List.intercalate_cons_cons]
    obtain ⟨more, hmore⟩ := hnext
    have hitem := readFrom_item (hfault.2 w List.mem_cons_self) (v :: done) frames more
    rw [htail, hread.1 (.list done :: frames) _ hdepth.1]
    show readFrom (.item (v :: done)) frames _ = _
    rw [hmore, hitem, ← hmore, ih hread.2 hfault.2 hdepth.2, List.reverse_cons, List.append_assoc,
      List.singleton_append]

/-- Members are read one after the other, up to the end of their object. -/
theorem readFrom_members {m : String × Node} {members : List (String × Node)}
    (hread : ∀ n ∈ m :: members, IsRead n.2)
    (hdepth : ∀ n ∈ m :: members, frames.length + 1 + n.2.depth ≤ maxDepth)
    (done : List (String × Node)) (rest : List Token) :
    readFrom (.key done) frames (List.intercalate [.comma]
        ((m :: members).map fun n => .string n.1 :: .colon :: n.2.tokens) ++ .closeObject :: rest) =
      resume (.object (done.reverse ++ m :: members) none) frames rest := by
  induction members generalizing m done with
  | nil =>
    rw [List.forall_mem_singleton] at hread hdepth
    rw [List.map_singleton, List.intercalate_singleton]
    show readFrom .value (.object done m.1 :: frames) (m.2.tokens ++ .closeObject :: rest) = _
    rw [hread (.object done m.1 :: frames) _ hdepth]
    show resume (.object (m :: done).reverse none) frames rest = _
    rw [List.reverse_cons]
  | cons n members ih =>
    rw [List.forall_mem_cons] at hread hdepth
    have htail : List.intercalate [.comma]
          ((m :: n :: members).map fun n => .string n.1 :: .colon :: n.2.tokens) ++
          .closeObject :: rest =
        .string m.1 :: .colon :: (m.2.tokens ++ .comma :: (List.intercalate [.comma]
          ((n :: members).map fun n => .string n.1 :: .colon :: n.2.tokens) ++
          .closeObject :: rest)) := by
      simp [List.intercalate_cons_cons]
    rw [htail]
    show readFrom .value (.object done m.1 :: frames) _ = _
    rw [hread.1 (.object done m.1 :: frames) _ hdepth.1]
    show readFrom (.key (m :: done)) frames _ = _
    rw [ih hread.2 hdepth.2, List.reverse_cons, List.append_assoc, List.singleton_append]

/-- **The tokens of a value are read as that value**, unless it is nested too deep. -/
theorem readFrom_tokens {v : Node} (hv : v.fault? = none) : IsRead v := by
  induction v using Node.induction with
  | null => exact fun frames rest _ => rfl
  | bool b => exact fun frames rest _ => rfl
  | number n => exact fun frames rest _ => rfl
  | string s => exact fun frames rest _ => rfl
  | broken fault => cases hv
  | list items fault ih =>
    intro frames rest hdepth
    rw [Node.fault?, Option.or_eq_none_iff, itemsFault?_eq_none_iff] at hv
    obtain ⟨hfault, rfl⟩ := hv
    rw [Node.depth] at hdepth
    have hlength : frames.length < maxDepth := by omega
    have hopen (more : List Token) :
        readFrom .value frames (.openList :: more) = readFrom .firstItem frames more := by
      rw [readFrom, step, stepValue, if_pos hlength]
    rw [Node.tokens, tokensOfItems_eq, List.cons_append, List.append_assoc,
      List.singleton_append, hopen]
    cases items with
    | nil => rfl
    | cons v items =>
      have hdepths : ∀ u ∈ v :: items, frames.length + 1 + u.depth ≤ maxDepth := fun u hu => by
        have hle := depthOfItems_le_iff.mp (Nat.le_refl _) u hu
        omega
      obtain ⟨more, hmore⟩ : ∃ more, List.intercalate [.comma] ((v :: items).map Node.tokens) ++
          .closeList :: rest = v.tokens ++ more := by
        cases items <;> simp [List.intercalate_cons_cons]
      have hitems := readFrom_items (fun u hu => ih u hu (hfault u hu)) hfault hdepths [] rest
      rw [hmore] at hitems ⊢
      rw [readFrom_firstItem (hfault v List.mem_cons_self), hitems, List.reverse_nil,
        List.nil_append]
  | object members fault ih =>
    intro frames rest hdepth
    rw [Node.fault?, Option.or_eq_none_iff, membersFault?_eq_none_iff] at hv
    obtain ⟨hfault, rfl⟩ := hv
    rw [Node.depth] at hdepth
    have hlength : frames.length < maxDepth := by omega
    have hopen (more : List Token) :
        readFrom .value frames (.openObject :: more) = readFrom .firstKey frames more := by
      rw [readFrom, step, stepValue, if_pos hlength]
    rw [Node.tokens, tokensOfMembers_eq, List.cons_append, List.append_assoc,
      List.singleton_append, hopen]
    cases members with
    | nil => rfl
    | cons m members =>
      have hdepths : ∀ n ∈ m :: members, frames.length + 1 + n.2.depth ≤ maxDepth := fun n hn => by
        have hle := depthOfMembers_le_iff.mp (Nat.le_refl _) n hn
        omega
      have hmembers := readFrom_members (fun n hn => ih n hn (hfault n hn)) hdepths [] rest
      rw [List.reverse_nil, List.nil_append] at hmembers
      rw [← hmembers]
      -- the first key is read as any key is
      cases members <;> rfl

/-! ## The tokens that have been read -/

/-- The tokens of a list that is open, up to where an item must come. -/
def tokensOfOpenList (items : List Node) : List Token :=
  .openList :: items.reverse.flatMap fun v => v.tokens ++ [.comma]

/-- The tokens of an object that is open, up to where a key must come. -/
def tokensOfOpenObject (members : List (String × Node)) : List Token :=
  .openObject :: members.reverse.flatMap fun m => .string m.1 :: .colon :: (m.2.tokens ++ [.comma])

/-- A value has room inside a list or an object that stands in the given ones. -/
def HasRoom (frames : List Frame) (v : Node) : Prop :=
  frames.length + 1 + v.depth ≤ maxDepth

/-- Some tokens lead to where a value must come inside the given lists and objects. -/
inductive Opened : List Frame → List Token → Prop where
  | nil : Opened [] []
  | list {frames : List Frame} {ts : List Token} {items : List Node} (hopened : Opened frames ts)
    (hlength : frames.length < maxDepth) (hroom : ∀ v ∈ items, HasRoom frames v) :
    Opened (.list items :: frames) (ts ++ tokensOfOpenList items)
  | object {frames : List Frame} {ts : List Token} {members : List (String × Node)} {key : String}
    (hopened : Opened frames ts) (hlength : frames.length < maxDepth)
    (hroom : ∀ m ∈ members, HasRoom frames m.2) :
    Opened (.object members key :: frames)
      (ts ++ tokensOfOpenObject members ++ [.string key, .colon])

/-- Some tokens lead to a state of reading. -/
inductive Reached : Expected → List Frame → List Token → Prop where
  | value {frames : List Frame} {ts : List Token} (hopened : Opened frames ts) :
    Reached .value frames ts
  | firstItem {frames : List Frame} {ts : List Token} (hopened : Opened frames ts)
    (hlength : frames.length < maxDepth) : Reached .firstItem frames (ts ++ tokensOfOpenList [])
  | item {frames : List Frame} {ts : List Token} {items : List Node} (hopened : Opened frames ts)
    (hlength : frames.length < maxDepth) (hroom : ∀ v ∈ items, HasRoom frames v) :
    Reached (.item items) frames (ts ++ tokensOfOpenList items)
  | listSeparator {frames : List Frame} {ts : List Token} {v : Node} {items : List Node}
    (hopened : Opened frames ts) (hlength : frames.length < maxDepth)
    (hroom : ∀ u ∈ v :: items, HasRoom frames u) :
    Reached (.listSeparator (v :: items)) frames (ts ++ tokensOfOpenList items ++ v.tokens)
  | firstKey {frames : List Frame} {ts : List Token} (hopened : Opened frames ts)
    (hlength : frames.length < maxDepth) : Reached .firstKey frames (ts ++ tokensOfOpenObject [])
  | key {frames : List Frame} {ts : List Token} {members : List (String × Node)}
    (hopened : Opened frames ts) (hlength : frames.length < maxDepth)
    (hroom : ∀ m ∈ members, HasRoom frames m.2) :
    Reached (.key members) frames (ts ++ tokensOfOpenObject members)
  | colon {frames : List Frame} {ts : List Token} {members : List (String × Node)} {key : String}
    (hopened : Opened frames ts) (hlength : frames.length < maxDepth)
    (hroom : ∀ m ∈ members, HasRoom frames m.2) :
    Reached (.colon members key) frames (ts ++ tokensOfOpenObject members ++ [.string key])
  | objectSeparator {frames : List Frame} {ts : List Token} {key : String} {v : Node}
    {members : List (String × Node)} (hopened : Opened frames ts)
    (hlength : frames.length < maxDepth) (hroom : ∀ m ∈ (key, v) :: members, HasRoom frames m.2) :
    Reached (.objectSeparator ((key, v) :: members)) frames
      (ts ++ tokensOfOpenObject members ++ [.string key, .colon] ++ v.tokens)
  | nothing {v : Node} (hdepth : v.depth ≤ maxDepth) : Reached (.nothing v) [] v.tokens

theorem intercalate_append_singleton {α : Type} (sep : List α) (xs : List (List α)) (x : List α) :
    List.intercalate sep (xs ++ [x]) = xs.flatMap (· ++ sep) ++ x := by
  induction xs with
  | nil => simp
  | cons y ys ih =>
    have hcons : List.intercalate sep (y :: (ys ++ [x])) =
        y ++ sep ++ List.intercalate sep (ys ++ [x]) := by
      cases ys <;> simp [List.intercalate_cons_cons]
    rw [List.cons_append, hcons, ih, List.flatMap_cons, List.append_assoc, List.append_assoc,
      List.append_assoc]

/-- A list is closed after its last item. -/
theorem tokens_list (v : Node) (items : List Node) (fault : Option Fault) :
    (Node.list (v :: items).reverse fault).tokens =
      tokensOfOpenList items ++ v.tokens ++ [.closeList] := by
  rw [Node.tokens, tokensOfItems_eq, List.reverse_cons, List.map_append, List.map_singleton,
    intercalate_append_singleton, tokensOfOpenList, List.flatMap_map]
  simp

/-- An object is closed after its last member. -/
theorem tokens_object (key : String) (v : Node) (members : List (String × Node))
    (fault : Option Fault) : (Node.object ((key, v) :: members).reverse fault).tokens =
      tokensOfOpenObject members ++ [.string key, .colon] ++ v.tokens ++ [.closeObject] := by
  rw [Node.tokens, tokensOfMembers_eq, List.reverse_cons, List.map_append, List.map_singleton,
    intercalate_append_singleton, tokensOfOpenObject, List.flatMap_map]
  simp

theorem depth_list_le {items : List Node} (hlength : frames.length < maxDepth)
    (hroom : ∀ v ∈ items, HasRoom frames v) (fault : Option Fault) :
    frames.length + (Node.list items.reverse fault).depth ≤ maxDepth := by
  have hle : depthOfItems items.reverse ≤ maxDepth - frames.length - 1 :=
    depthOfItems_le_iff.mpr fun v hv => by
      have hv := hroom v (List.mem_reverse.mp hv)
      rw [HasRoom] at hv
      omega
  rw [Node.depth]
  omega

theorem depth_object_le {members : List (String × Node)} (hlength : frames.length < maxDepth)
    (hroom : ∀ m ∈ members, HasRoom frames m.2) (fault : Option Fault) :
    frames.length + (Node.object members.reverse fault).depth ≤ maxDepth := by
  have hle : depthOfMembers members.reverse ≤ maxDepth - frames.length - 1 :=
    depthOfMembers_le_iff.mpr fun m hm => by
      have hm := hroom m (List.mem_reverse.mp hm)
      rw [HasRoom] at hm
      omega
  rw [Node.depth]
  omega

theorem Opened.length_le {ts : List Token} (h : Opened frames ts) : frames.length ≤ maxDepth := by
  cases h with
  | nil => exact Nat.zero_le _
  | list _ hlength _ => exact hlength
  | object _ hlength _ => exact hlength

/-- A complete value is put into the innermost list or object, or it is the document. -/
theorem Reached.afterValue {ts : List Token} (h : Opened frames ts) {v : Node}
    (hdepth : frames.length + v.depth ≤ maxDepth) :
    Reached (afterValue v frames).1 (afterValue v frames).2 (ts ++ v.tokens) := by
  cases h with
  | nil => exact .nothing (by simpa using hdepth)
  | list hopened hlength hroom =>
    exact .listSeparator hopened hlength (List.forall_mem_cons.mpr ⟨hdepth, hroom⟩)
  | object hopened hlength hroom =>
    exact .objectSeparator hopened hlength (List.forall_mem_cons.mpr ⟨hdepth, hroom⟩)

/-- A token where a value must come. -/
theorem Reached.stepValue {ts : List Token} (h : Opened frames ts) {token : Token}
    {next : Expected} {frames' : List Frame}
    (hstep : stepValue frames token = .expect next frames') :
    Reached next frames' (ts ++ [token]) := by
  have hscalar {v : Node} (hdepth : v.depth = 0) (htokens : v.tokens = [token])
      (hcomplete : Step.complete v frames = .expect next frames') :
      Reached next frames' (ts ++ [token]) := by
    cases hcomplete
    rw [← htokens]
    exact .afterValue h (hdepth ▸ h.length_le)
  cases token with
  | null => exact hscalar rfl rfl hstep
  | bool b => exact hscalar rfl rfl hstep
  | number n => exact hscalar rfl rfl hstep
  | string s => exact hscalar rfl rfl hstep
  | openList =>
    rw [Json.stepValue] at hstep
    split at hstep
    · cases hstep
      exact .firstItem h ‹_›
    · cases hstep
  | openObject =>
    rw [Json.stepValue] at hstep
    split at hstep
    · cases hstep
      exact .firstKey h ‹_›
    · cases hstep
  | _ => cases hstep

/-- A token where a key must come. -/
theorem Reached.stepKey {ts : List Token} {members : List (String × Node)}
    (h : Opened frames ts) (hlength : frames.length < maxDepth)
    (hroom : ∀ m ∈ members, HasRoom frames m.2) {token : Token} {next : Expected}
    {frames' : List Frame} (hstep : stepKey members frames token = .expect next frames') :
    Reached next frames' (ts ++ tokensOfOpenObject members ++ [token]) := by
  cases token with
  | string s =>
    cases hstep
    exact .colon h hlength hroom
  | broken inString fault => cases inString <;> cases hstep
  | _ => cases hstep

theorem step_firstItem {token : Token} (h : token ≠ .closeList) :
    step .firstItem frames token = stepValue (.list [] :: frames) token := by
  cases token <;> first | rfl | exact absurd rfl h

theorem step_item {token : Token} (h : token ≠ .closeList) (items : List Node) :
    step (.item items) frames token = stepValue (.list items :: frames) token := by
  cases token <;> first | rfl | exact absurd rfl h

theorem step_firstKey {token : Token} (h : token ≠ .closeObject) :
    step .firstKey frames token = stepKey [] frames token := by
  cases token <;> first | rfl | exact absurd rfl h

theorem step_key {token : Token} (h : token ≠ .closeObject) (members : List (String × Node)) :
    step (.key members) frames token = stepKey members frames token := by
  cases token <;> first | rfl | exact absurd rfl h

/-- **A token joins the tokens that have been read.** -/
theorem Reached.step {expected : Expected} {ts : List Token} (h : Reached expected frames ts)
    {token : Token} {next : Expected} {frames' : List Frame}
    (hstep : step expected frames token = .expect next frames') :
    Reached next frames' (ts ++ [token]) := by
  cases h with
  | value hopened => exact .stepValue hopened hstep
  | @firstItem frames ts hopened hlength =>
    by_cases hclose : token = .closeList
    · subst hclose
      cases hstep
      have hempty := Reached.afterValue hopened (v := .list [] none) hlength
      simpa [Node.tokens, tokensOfItems, tokensOfOpenList] using hempty
    · rw [step_firstItem hclose] at hstep
      exact .stepValue (.list hopened hlength (List.forall_mem_nil _)) hstep
  | @item frames ts items hopened hlength hroom =>
    by_cases hclose : token = .closeList
    · subst hclose
      cases hstep
    · rw [step_item hclose] at hstep
      exact .stepValue (.list hopened hlength hroom) hstep
  | @listSeparator frames ts v items hopened hlength hroom =>
    cases token with
    | closeList =>
      cases hstep
      have hclosed := Reached.afterValue hopened (depth_list_le hlength hroom none)
      rwa [tokens_list, ← List.append_assoc, ← List.append_assoc] at hclosed
    | comma =>
      cases hstep
      have hnext := Reached.item hopened hlength hroom
      simpa [tokensOfOpenList] using hnext
    | _ => cases hstep
  | @firstKey frames ts hopened hlength =>
    by_cases hclose : token = .closeObject
    · subst hclose
      cases hstep
      have hempty := Reached.afterValue hopened (v := .object [] none) hlength
      simpa [Node.tokens, tokensOfMembers, tokensOfOpenObject] using hempty
    · rw [step_firstKey hclose] at hstep
      exact .stepKey hopened hlength (List.forall_mem_nil _) hstep
  | @key frames ts members hopened hlength hroom =>
    by_cases hclose : token = .closeObject
    · subst hclose
      cases hstep
    · rw [step_key hclose] at hstep
      exact .stepKey hopened hlength hroom hstep
  | @colon frames ts members key hopened hlength hroom =>
    cases token with
    | colon =>
      cases hstep
      have hnext : Reached .value (.object members key :: frames) _ :=
        .value (.object hopened hlength hroom)
      simpa using hnext
    | _ => cases hstep
  | @objectSeparator frames ts key v members hopened hlength hroom =>
    cases token with
    | closeObject =>
      cases hstep
      have hclosed := Reached.afterValue hopened (depth_object_le hlength hroom none)
      rw [tokens_object] at hclosed
      simpa using hclosed
    | comma =>
      cases hstep
      have hnext := Reached.key hopened hlength hroom
      simpa [tokensOfOpenObject] using hnext
    | _ => cases hstep
  | nothing hdepth => cases hstep

/-! ## Reading a document -/

theorem fault?_list_some (items : List Node) (fault : Fault) :
    (Node.list items (some fault)).fault? ≠ none := by
  simp [Node.fault?]

theorem fault?_object_some (members : List (String × Node)) (fault : Fault) :
    (Node.object members (some fault)).fault? ≠ none := by
  simp [Node.fault?]

theorem fault?_list_of_mem {v : Node} (hv : v.fault? ≠ none) {items : List Node} (h : v ∈ items)
    (fault : Option Fault) : (Node.list items fault).fault? ≠ none := by
  rw [Node.fault?, Ne, Option.or_eq_none_iff, itemsFault?_eq_none_iff]
  exact fun hnone => hv (hnone.1 v h)

theorem fault?_object_of_mem {m : String × Node} (hm : m.2.fault? ≠ none)
    {members : List (String × Node)} (h : m ∈ members) (fault : Option Fault) :
    (Node.object members fault).fault? ≠ none := by
  rw [Node.fault?, Ne, Option.or_eq_none_iff, membersFault?_eq_none_iff]
  exact fun hnone => hm (hnone.1 m h)

/-- Where the tree breaks off in a fault, it has a fault. -/
theorem fault?_breakOff {v : Node} (hv : v.fault? ≠ none) (frames : List Frame) :
    (breakOff frames v).fault? ≠ none := by
  induction frames generalizing v with
  | nil => exact hv
  | cons frame frames ih =>
    cases frame with
    | list items => exact ih (fault?_list_of_mem hv (by simp) none)
    | object members key => exact ih (fault?_object_of_mem (m := (key, v)) hv (by simp) none)

/-- A member whose value is missing. -/
theorem fault?_object_broken (key : String) (fault : Fault) (members : List (String × Node)) :
    (Node.object ((key, .broken fault) :: members).reverse none).fault? ≠ none :=
  fault?_object_of_mem (m := (key, .broken fault)) (by simp [Node.fault?]) (by simp) none

/-- The document breaks off in a fault, so that it has one. -/
theorem fault?_of_breakOff {v : Node} (hv : v.fault? ≠ none) {document : Document}
    (h : Step.breakOff frames v = .stop document) : document.root.fault? ≠ none := by
  cases h
  exact fault?_breakOff hv frames

theorem fault?_of_stepValue {token : Token} {document : Document}
    (hstep : stepValue frames token = .stop document) : document.root.fault? ≠ none := by
  have hbroken (fault : Fault) : (Node.broken fault).fault? ≠ none := by simp [Node.fault?]
  cases token with
  | openList =>
    rw [stepValue] at hstep
    split at hstep
    · cases hstep
    · exact fault?_of_breakOff (fault?_list_some _ _) hstep
  | openObject =>
    rw [stepValue] at hstep
    split at hstep
    · cases hstep
    · exact fault?_of_breakOff (fault?_object_some _ _) hstep
  | null | bool b | number n | string s => cases hstep
  | _ => exact fault?_of_breakOff (hbroken _) hstep

theorem fault?_of_stepKey {members : List (String × Node)} {token : Token} {document : Document}
    (hstep : stepKey members frames token = .stop document) : document.root.fault? ≠ none := by
  cases token with
  | string s => cases hstep
  | broken inString fault =>
    cases inString <;> exact fault?_of_breakOff (fault?_object_some _ _) hstep
  | _ => exact fault?_of_breakOff (fault?_object_some _ _) hstep

/-- A document that stops at a token has a fault, or the token stands after its end. -/
theorem fault?_of_stop {expected : Expected} {token : Token} {document : Document}
    (hstep : step expected frames token = .stop document) :
    document.root.fault? ≠ none ∨ document.trailing = true := by
  cases expected with
  | nothing root =>
    cases hstep
    exact Or.inr rfl
  | value => exact Or.inl (fault?_of_stepValue hstep)
  | firstItem =>
    by_cases hclose : token = .closeList
    · subst hclose
      cases hstep
    · exact Or.inl (fault?_of_stepValue (step_firstItem hclose ▸ hstep))
  | item items =>
    by_cases hclose : token = .closeList
    · subst hclose
      exact Or.inl (fault?_of_breakOff (fault?_list_some _ _) hstep)
    · exact Or.inl (fault?_of_stepValue (step_item hclose items ▸ hstep))
  | listSeparator items =>
    cases token with
    | closeList | comma => cases hstep
    | _ => exact Or.inl (fault?_of_breakOff (fault?_list_some _ _) hstep)
  | firstKey =>
    by_cases hclose : token = .closeObject
    · subst hclose
      cases hstep
    · exact Or.inl (fault?_of_stepKey (step_firstKey hclose ▸ hstep))
  | key members =>
    by_cases hclose : token = .closeObject
    · subst hclose
      exact Or.inl (fault?_of_breakOff (fault?_object_some _ _) hstep)
    · exact Or.inl (fault?_of_stepKey (step_key hclose members ▸ hstep))
  | colon members key =>
    cases token with
    | colon => cases hstep
    | _ => exact Or.inl (fault?_of_breakOff (fault?_object_broken _ _ _) hstep)
  | objectSeparator members =>
    cases token with
    | closeObject | comma => cases hstep
    | _ => exact Or.inl (fault?_of_breakOff (fault?_object_some _ _) hstep)

/-- A document that ends where something is expected has a fault. -/
theorem fault?_stepEnd {expected : Expected} (frames : List Frame)
    (h : ∀ v, expected ≠ .nothing v) : (stepEnd expected frames).root.fault? ≠ none := by
  cases expected with
  | nothing v => exact absurd rfl (h v)
  | value => exact fault?_breakOff (by simp [Node.fault?]) frames
  | firstItem | item items | listSeparator items =>
    exact fault?_breakOff (fault?_list_some _ _) frames
  | firstKey | key members | objectSeparator members =>
    exact fault?_breakOff (fault?_object_some _ _) frames
  | colon members key => exact fault?_breakOff (fault?_object_broken _ _ _) frames

/-- **The tokens of a document** that is read without a fault are those of its value. -/
theorem Reached.readFrom {expected : Expected} {ts more : List Token}
    (h : Reached expected frames ts) {v : Node} (hread : readFrom expected frames more = ⟨v, false⟩)
    (hv : v.fault? = none) : v.tokens = ts ++ more ∧ v.depth ≤ maxDepth := by
  induction more generalizing expected frames ts with
  | nil =>
    have hend : stepEnd expected frames = ⟨v, false⟩ := hread
    by_cases hnothing : ∃ u, expected = .nothing u
    · obtain ⟨u, rfl⟩ := hnothing
      cases h with
      | nothing hdepth =>
        cases hend
        exact ⟨(List.append_nil _).symm, hdepth⟩
    · have hfault := fault?_stepEnd frames fun u hu => hnothing ⟨u, hu⟩
      rw [hend] at hfault
      exact absurd hv hfault
  | cons token more ih =>
    rw [Json.readFrom] at hread
    cases hstep : Json.step expected frames token with
    | expect next frames' =>
      rw [hstep] at hread
      simpa using ih (h.step hstep) hread
    | stop document =>
      rw [hstep] at hread
      obtain rfl : document = ⟨v, false⟩ := hread
      exact absurd (fault?_of_stop hstep) (by simp [hv])

/-- **A text is read as a value**, without a fault and with nothing after it, exactly if it is the
text of that value. -/
theorem read_eq_iff {text : String} {v : Node} :
    Document.read text = ⟨v, false⟩ ∧ v.fault? = none ↔ IsTextOf text v := by
  constructor
  · rintro ⟨hread, hv⟩
    obtain ⟨htokens, hdepth⟩ := Reached.readFrom (.value .nil) hread hv
    exact ⟨hv, hdepth, htokens.symm⟩
  · rintro ⟨hv, hdepth, htokens⟩
    refine ⟨?_, hv⟩
    have hread := readFrom_tokens hv [] [] (by simpa using hdepth)
    rwa [List.append_nil, ← htokens] at hread

end Specloom.Json
