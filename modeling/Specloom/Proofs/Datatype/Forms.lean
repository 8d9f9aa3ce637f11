import Specloom.Datatype.Texts
import Specloom.Proofs.Datatype.GoForm
import Specloom.Proofs.Datatype.TsForm

/-!
# Type expressions mean what they are written for

The type expressions of a datatype of a document, each read by the grammar of its language, are the
translations of the datatype: no bracket, parenthesis or star changes what they say. The
declarations of an object with fields list the same fields with the same types.

## Main definitions

* `Datatype.Declares`: the declarations of an object list its fields

## Main results

* `Datatype.texts_of_ofDoc`: the type expressions and the declarations of datatypes of documents
-/

namespace Specloom.Datatype

/-- The declarations of an object in both languages list its fields in order, each with its key and
with the translation of its type. -/
structure Declares (name : String) (fields : List (String × Datatype)) : Prop where
  ts : ∃ body,
    tsDeclaration name (.object fields false) = "export interface " ++ name ++ " " ++ body ∧
    TsType.read? body = some (.object (fields.map fun field => (field.1, field.2.tsForm)))
  go : ∃ body, goDeclaration name (.object fields false) = "type " ++ name ++ " " ++ body ∧
    GoType.read? body = some (.struct (fields.map fun field =>
      ⟨Name.upperFirst field.1, field.2.goForm, some field.1⟩))

/-- **The type expressions of a datatype of a document** are read as its translations, if its keys
are identifiers and its references are dotted ones; and the declarations of an object that is not
nullable list its fields, if it has any. -/
theorem texts_of_ofDoc {module : String} {location : Location} {doc : Document.DatatypeDoc}
    {t : Datatype} (h : ofDoc module location doc = .ok t) (hidentifiers : t.HasIdentifiers) :
    TsType.read? t.texts.ts = some t.tsForm ∧ GoType.read? t.texts.go = some t.goForm ∧
      ∀ fields, t = .object fields false → fields ≠ [] → ∀ name, Declares name fields := by
  have hnamed : t.Named := named_ofDoc doc h
  refine ⟨read?_ts hidentifiers, read?_go hidentifiers hnamed, ?_⟩
  rintro fields rfl hne name
  exact ⟨read?_interface hidentifiers hne name, read?_struct hidentifiers hnamed hne name⟩

/-- An object with a nullable array of nullable references. -/
theorem texts_of_ofDoc_tags :
    let fields := [("id", scalar .string false),
      ("tags", array (some (.reference ⟨some "labels", "Tag"⟩ true)) true)]
    TsType.read? (object fields false).texts.ts = some (.object [("id", .name "string" []),
        ("tags", .union [.array (.union [.name "labels.Tag" [], .name "null" []]),
          .name "null" []])]) ∧
      GoType.read? (object fields false).texts.go = some (.struct
        [⟨"Id", .name "string", some "id"⟩,
          ⟨"Tags", .pointer (.slice (.pointer (.name "labels.Tag"))), some "tags"⟩]) ∧
      Declares "Post" fields := by
  intro fields
  obtain ⟨hts, hgo, hdeclares⟩ := @texts_of_ofDoc "posts" (.type "Post")
    (.node "object" false none (some [("id", .name "string"),
      ("tags", .node "array" true (some (.node "labels.Tag" true none none)) none)]))
    (object fields false) (by rfl) (by decide +kernel)
  exact ⟨hts, hgo, hdeclares fields rfl (List.cons_ne_nil _ _) "Post"⟩

end Specloom.Datatype
