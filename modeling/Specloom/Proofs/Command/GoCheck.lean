import Specloom.Command.Compiled
import Specloom.Proofs.Go.Run

/-!
# Rules as statements of Go

What the generated code says of a rule is read as an `if` statement, and running that statement
checks the rule.

## Main definitions

* `Rule.statement`: the statement of a rule

## Main results

* `Rule.isStatement_goCheck`: the text of a rule is its statement
* `Rule.run?_statement`: the statement of a rule checks the rule
-/

namespace Specloom

open Go Text

/-- A rule as a statement on a member of the receiver. -/
def Rule.statement (name key regexp : String) : Rule → Go.Statement
  | .nonEmpty object =>
    ⟨.compare .equal (.member "x" name) (if object then .word "nil" else .text ""),
      .call (.word "fieldEmptyValidationError") [.text key]⟩
  | .maxLength limit =>
    let length : Go.Expr := .call (.member "utf8" "RuneCountInString") [.member "x" name]
    ⟨.compare .greater length (.word (toString limit)),
      .call (.word "fieldLengthValidationError") [.text key, .word (toString limit), length]⟩
  | .pattern source =>
    ⟨.and (.compare .differs (.member "x" name) (.text ""))
        (.not (.call (.member regexp "MatchString") [.member "x" name])),
      .call (.word "fieldPatternValidationError") [.text key, .text source]⟩
  | .singleLine =>
    ⟨.call (.member "strings" "ContainsAny") [.member "x" name, .text "\r\n"],
      .call (.word "noNewlinesValidationError") [.text key]⟩

/-! ## Reading -/

section Reading

variable {name key regexp : String}

theorem reads_goCheck {condition result : String} {tokens pending results : List Go.Token}
    {place : Go.Place} (hcondition : Reads (.between true) condition tokens place)
    (hplace : place.finish = some pending)
    (hresult : Reads (.between true) result results (.between true)) :
    Reads (.between false) (goCheck condition result)
      ([.word "if"] ++ tokens ++ (pending ++ [.symbol '{', .word "return"]) ++ results ++
        [.lineEnd, .symbol '}']) (.between true) := by
  have hif : Reads (.between false) "if " [.word "if"] (.between true) := rfl
  -- A word that the condition ends with is complete at the blank before the brace.
  have hreturn : Reads place " \x7b\n\t\treturn " (pending ++ [.symbol '{', .word "return"])
      (.between true) := by
    cases place with
    | between ends =>
      cases hplace
      cases ends <;> rfl
    | word read =>
      cases hplace
      rfl
    | text read => cases hplace
    | escape read => cases hplace
  have hend : Reads (.between true) "\n\t\x7d" [.lineEnd, .symbol '}'] (.between true) := rfl
  exact (((hif.append hcondition).append hreturn).append hresult).append hend

theorem reads_member (h : IsWord name) (ends : Bool) :
    Reads (.between ends) ("x." ++ name) [.word "x", .symbol '.'] (.word name.toList.reverse) := by
  have hx : Reads (.between ends) "x." [.word "x", .symbol '.'] (.between false) := rfl
  simpa using hx.append (reads_word h false)

theorem reads_length (h : IsWord name) (ends : Bool) :
    Reads (.between ends) ("utf8.RuneCountInString(" ++ ("x." ++ name) ++ ")")
      [.word "utf8", .symbol '.', .word "RuneCountInString", .symbol '(', .word "x", .symbol '.',
        .word name, .symbol ')'] (.between true) := by
  have hopen : Reads (.between ends) "utf8.RuneCountInString("
      [.word "utf8", .symbol '.', .word "RuneCountInString", .symbol '('] (.between false) := rfl
  exact (hopen.append (reads_member h false)).append_word fun _ => rfl

/-- **The text of a rule is its statement**, whatever the names and the texts in it. -/
theorem Rule.isStatement_goCheck (hname : IsWord name) (hregexp : IsWord regexp)
    (hkey : ∀ c ∈ key.toList, c ≠ '"' ∧ c ≠ '\\' ∧ c ≠ '\n') (r : Rule) :
    IsStatement (r.goCheck ("x." ++ name) key regexp) (r.statement name key regexp) := by
  -- The fixed parts of the text are read by computation; what they stand between is read by name.
  have hkey := reads_plain hkey
  have hclose : Reads (.between true) ")" [.symbol ')'] (.between true) := rfl
  have hcloseText : ∀ read, Reads (.text read) "\")"
      [.text (String.ofList read.reverse), .symbol ')'] (.between true) := fun _ => rfl
  have hcloseWord : ∀ read, Reads (.word read) ")"
      [.word (String.ofList read.reverse), .symbol ')'] (.between true) := fun _ => rfl
  have hcommaText : ∀ read, Reads (.text read) "\", "
      [.text (String.ofList read.reverse), .symbol ','] (.between false) := fun _ => rfl
  have hcommaWord : ∀ read, Reads (.word read) ", "
      [.word (String.ofList read.reverse), .symbol ','] (.between false) := fun _ => rfl
  cases r with
  | nonEmpty object =>
    have hequal : ∀ read, Reads (.word read) " == "
        [.word (String.ofList read.reverse), .symbol '=', .symbol '='] (.between false) :=
      fun _ => rfl
    have hopen : Reads (.between true) "fieldEmptyValidationError(\""
        [.word "fieldEmptyValidationError", .symbol '('] (.text []) := rfl
    have hleft := (reads_member hname true).append_word hequal
    have hresult := (hopen.append hkey).append_text hcloseText
    cases object with
    | true =>
      have hnil : Reads (.between false) "nil" [] (.word "nil".toList.reverse) := rfl
      exact ⟨_, reads_goCheck (hleft.append hnil) (finish_word _) hresult, fun _ => rfl⟩
    | false =>
      have hempty : Reads (.between false) "\"\"" [.text ""] (.between true) := rfl
      exact ⟨_, reads_goCheck (hleft.append hempty) rfl hresult, fun _ => rfl⟩
  | maxLength limit =>
    have hgreater : Reads (.between true) " > " [.symbol '>'] (.between false) := rfl
    have hopen : Reads (.between true) "fieldLengthValidationError(\""
        [.word "fieldLengthValidationError", .symbol '('] (.text []) := rfl
    have hlimit := reads_word (isWord_toString limit) false
    have hcond := ((reads_length hname true).append hgreater).append hlimit
    have hfault := ((hopen.append hkey).append_text hcommaText).append hlimit
    have hresult := (hfault.append_word hcommaWord).append (reads_length hname false)
    exact ⟨_, reads_goCheck hcond (finish_word _) (hresult.append hclose), fun _ => rfl⟩
  | pattern source =>
    have hdiffers : ∀ read, Reads (.word read) " != \"\" && !"
        [.word (String.ofList read.reverse), .symbol '!', .symbol '=', .text "", .symbol '&',
          .symbol '&', .symbol '!'] (.between false) := fun _ => rfl
    have hmatch : ∀ read, Reads (.word read) ".MatchString("
        [.word (String.ofList read.reverse), .symbol '.', .word "MatchString", .symbol '(']
        (.between false) := fun _ => rfl
    have hopen : Reads (.between true) "fieldPatternValidationError(\""
        [.word "fieldPatternValidationError", .symbol '('] (.text []) := rfl
    have hleft := ((reads_member hname true).append_word hdiffers).append (reads_word hregexp false)
    have hcond := ((hleft.append_word hmatch).append (reads_member hname false)).append_word
      hcloseWord
    have hfault := ((hopen.append hkey).append_text hcommaText).append (reads_literal source false)
    exact ⟨_, reads_goCheck hcond rfl (hfault.append hclose), fun _ => rfl⟩
  | singleLine =>
    have hcall : Reads (.between true) "strings.ContainsAny("
        [.word "strings", .symbol '.', .word "ContainsAny", .symbol '('] (.between false) := rfl
    have hends : ∀ read, Reads (.word read) ", \"\\r\\n\")"
        [.word (String.ofList read.reverse), .symbol ',', .text "\r\n", .symbol ')']
        (.between true) := fun _ => rfl
    have hopen : Reads (.between true) "noNewlinesValidationError(\""
        [.word "noNewlinesValidationError", .symbol '('] (.text []) := rfl
    have hcond := (hcall.append (reads_member hname false)).append_word hends
    exact ⟨_, reads_goCheck hcond rfl ((hopen.append hkey).append_text hcloseText), fun _ => rfl⟩

end Reading

/-! ## Running -/

section Running

variable {scope : Scope} {name key regexp : String} {value : Option Json.Node}
  {isMatch : String → Bool}

/-- An object is checked for being there. -/
theorem Rule.run?_object
    (hvalue : scope.member? name =
      some (if Json.Node.isAbsent value then .nil else .pointer)) :
    ((Rule.nonEmpty true).statement name key regexp).run? scope =
      some (Rule.check key isMatch value (.nonEmpty true)) := by
  -- `nil` equals the pointer exactly if the value is absent
  have hmember : (Go.Expr.member "x" name).eval? scope = _ := hvalue
  have hnil : (Go.Expr.word "nil").eval? scope = some .nil := rfl
  have hcond := eval?_compare .equal hmember hnil
  have hfault : (Rule.statement name key regexp (.nonEmpty true)).result.eval? scope =
    some (.fault (.empty key)) := rfl
  cases habsent : Json.Node.isAbsent value <;> rw [habsent] at hcond
  · rw [Go.Statement.run?_eq hcond hfault, Rule.check, habsent]
  · rw [Go.Statement.run?_eq hcond hfault, Rule.check, habsent]

theorem any_contains_lineEnds (cs : List Char) :
    cs.any "\r\n".toList.contains = (cs.contains '\r' || cs.contains '\n') := by
  rw [Bool.eq_iff_iff]
  simp [and_or_left, exists_or]

/-- A text is checked as it stands; a regular expression is looked up by its variable. -/
theorem Rule.run?_text
    (hvalue : scope.member? name = some (.text (Json.Node.textOrEmpty value))) {r : Rule}
    (hr : r ≠ .nonEmpty true) (hpattern : ∀ source, r = .pattern source → ∃ pattern,
      scope.pattern? regexp = some pattern ∧ pattern.isMatch = isMatch) :
    (r.statement name key regexp).run? scope = some (Rule.check key isMatch value r) := by
  have hmember : (Go.Expr.member "x" name).eval? scope =
    some (.text (Json.Node.textOrEmpty value)) := hvalue
  have hempty : (Go.Expr.text "").eval? scope = some (.text "") := rfl
  cases r with
  | nonEmpty object =>
    cases object with
    | true => exact absurd rfl hr
    | false =>
      have hcond := eval?_compare .equal hmember hempty
      have hfault : (Rule.statement name key regexp (.nonEmpty false)).result.eval? scope =
        some (.fault (.empty key)) := rfl
      rw [Go.Statement.run?_eq hcond hfault]
      simp [Rule.check]
  | maxLength limit =>
    have hlength : (Go.Expr.call (.member "utf8" "RuneCountInString")
        [.member "x" name]).eval? scope = some (.number (Json.Node.textOrEmpty value).length) :=
      eval?_call (.cons hmember .nil)
    have hcond := eval?_compare .greater hlength (eval?_toString limit)
    have hkey : (Go.Expr.text key).eval? scope = some (.text key) := rfl
    have hfault : (Rule.statement name key regexp (.maxLength limit)).result.eval? scope =
        some (.fault (.tooLong key limit (Json.Node.textOrEmpty value).length)) := by
      show (Go.Expr.call _ _).eval? scope = _
      exact eval?_call (.cons hkey (.cons (eval?_toString limit) (.cons hlength .nil)))
    rw [Go.Statement.run?_eq hcond hfault]
    simp [Rule.check]
  | pattern source =>
    -- an empty text is not matched on either side
    obtain ⟨pattern, hlookup, rfl⟩ := hpattern source rfl
    have hdiffers := eval?_compare .differs hmember hempty
    have hmatch : (Go.Expr.call (.member regexp "MatchString") [.member "x" name]).eval? scope =
        some (.truth (pattern.isMatch (Json.Node.textOrEmpty value))) := by
      rw [eval?_call (.cons hmember .nil), Scope.call?, if_pos rfl, hlookup]
      rfl
    have hfault : (Rule.statement name key regexp (.pattern source)).result.eval? scope =
      some (.fault (.patternMismatch key source)) := rfl
    rw [Go.Statement.run?_eq (eval?_and hdiffers (eval?_not hmatch)) hfault]
    simp [Rule.check]
  | singleLine =>
    have hends : (Go.Expr.text "\r\n").eval? scope = some (.text "\r\n") := rfl
    have hcond : (Rule.statement name key regexp .singleLine).condition.eval? scope =
        some (.truth ((Json.Node.textOrEmpty value).toList.any "\r\n".toList.contains)) := by
      show (Go.Expr.call _ _).eval? scope = _
      exact eval?_call (.cons hmember (.cons hends .nil))
    have hfault : (Rule.statement name key regexp .singleLine).result.eval? scope =
      some (.fault (.newlines key)) := rfl
    rw [Go.Statement.run?_eq hcond hfault, any_contains_lineEnds, Rule.check]

end Running

end Specloom
