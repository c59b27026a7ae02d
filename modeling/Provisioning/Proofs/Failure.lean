import Provisioning.Proofs.Layout.Violations
import Provisioning.Proofs.Program.Preparation
import Provisioning.Proofs.Text.Quoted

/-! # What failures tell of text from outside

A project id that was refused, a path and a name in a layout may hold any characters, and a path octets that
belong to none. A message quotes them between words of its own, so it stays on one line, and from its text the
id or the path can be told. -/
namespace Provisioning

open Text (IsOneLine isOneLine_append)
open Text.Quoted (isOneLine_quote)

namespace Path

theorem isOneLine_quoted (p : Path) : IsOneLine p.quoted :=
  Text.Quoted.isOneLine_quoteOctets p.octets

theorem quoted_injective {p q : Path} (h : p.quoted = q.quoted) : p = q := by
  have hoctets := Text.Quoted.quoteOctets_injective (String.ofList_inj.1 h)
  cases p
  cases q
  cases hoctets
  rfl

end Path

/-! ## Messages on one line -/

namespace Layout

/-- Whatever is wrong with a layout, the names it gave are told between quotes. -/
theorem Check.Fails.isOneLine {layout : Layout} {check : Check} {violation : Violation}
    (h : Fails layout check violation) : IsOneLine violation.message := by
  cases h with
  | dataset | viewName | viewSource | tableName =>
    exact isOneLine_append.2 ⟨by decide, isOneLine_quote _⟩
  | someTable => decide
  | completeTable | newName | viewApart =>
    exact isOneLine_append.2 ⟨isOneLine_append.2 ⟨by decide, isOneLine_quote _⟩, by decide⟩

theorem isOneLine_of_validate {layout : Layout} {violation : Violation}
    (h : layout.validate = .error violation) : IsOneLine violation.message := by
  obtain ⟨check, hfails, -⟩ := validate_eq_error_iff.1 h
  exact hfails.isOneLine

namespace LoadError

theorem isOneLine_unreadable (path : Path) (cause : SystemError) :
    IsOneLine (unreadable path cause).message :=
  isOneLine_append.2 ⟨by decide, path.isOneLine_quoted⟩

theorem isOneLine_malformed (path : Path) (cause : Malformed) :
    IsOneLine (malformed path cause).message :=
  isOneLine_append.2 ⟨by decide, path.isOneLine_quoted⟩

theorem isOneLine_invalid {reason : String} (h : IsOneLine reason) :
    IsOneLine (invalid reason).message :=
  isOneLine_append.2 ⟨by decide, h⟩

end LoadError

theorem isOneLine_of_load {read : Path → Except SystemError (List UInt8)} {path : Path}
    {error : LoadError} (h : load read path = .error error) : IsOneLine error.message := by
  unfold load at h
  split at h
  · cases h
    exact LoadError.isOneLine_unreadable path _
  · split at h
    · cases h
      exact LoadError.isOneLine_malformed path _
    · obtain ⟨violation, hvalid, rfl⟩ := mapError_eq_error.1 h
      exact LoadError.isOneLine_invalid (isOneLine_of_validate hvalid)

end Layout

namespace Failure

theorem isOneLine_invalidProjectId (raw : String) : IsOneLine (invalidProjectId raw).message :=
  isOneLine_append.2 ⟨by decide, isOneLine_quote raw⟩

theorem isOneLine_schemaDirectoryMissing (path : Path) :
    IsOneLine (schemaDirectoryMissing path).message :=
  isOneLine_append.2 ⟨isOneLine_append.2 ⟨by decide, path.isOneLine_quoted⟩, by decide⟩

/-- Whatever keeps a plan from being made is told on one line. -/
theorem isOneLine_of_plan {σ : Type} {m : Machine σ} {s : σ} {o : Options} {failure : Failure}
    (h : Program.plan m s o = .error failure) : IsOneLine failure.message := by
  rcases (Program.plan_eq_error_iff ..).1 h with ⟨-, rfl⟩ | ⟨-, hlayout⟩
  · exact isOneLine_invalidProjectId _
  · obtain ⟨path, error, -, hload, rfl⟩ := (Program.layout_eq_error_iff ..).1 hlayout
    exact Layout.isOneLine_of_load hload

open Layout (LoadError)

/-- A project id that is refused, a path and what is wrong with a layout are told on one line, without control
characters, as is all else that keeps a plan from being made. No two project ids are told alike, and no two
paths by failures of one kind, whatever caused these. -/
theorem message_of_untrusted :
    ((∀ raw, IsOneLine (invalidProjectId raw).message) ∧
      (∀ path, IsOneLine (schemaDirectoryMissing path).message) ∧
      (∀ path cause, IsOneLine (LoadError.unreadable path cause).message) ∧
      (∀ path cause, IsOneLine (LoadError.malformed path cause).message) ∧
      (∀ (layout : Layout) violation, layout.validate = .error violation →
        IsOneLine (LoadError.invalid violation.message).message) ∧
      ∀ (σ : Type) (m : Machine σ) (s : σ) (o : Options) (failure : Failure),
        Program.plan m s o = .error failure → IsOneLine failure.message) ∧
    (∀ raw raw', raw ≠ raw' → (invalidProjectId raw).message ≠ (invalidProjectId raw').message) ∧
    ∀ path path', path ≠ path' →
      (schemaDirectoryMissing path).message ≠ (schemaDirectoryMissing path').message ∧
      (∀ cause cause', (LoadError.unreadable path cause).message ≠
        (LoadError.unreadable path' cause').message) ∧
      ∀ cause cause', (LoadError.malformed path cause).message ≠
        (LoadError.malformed path' cause').message := by
  refine ⟨⟨isOneLine_invalidProjectId, isOneLine_schemaDirectoryMissing,
    LoadError.isOneLine_unreadable, LoadError.isOneLine_malformed, fun layout violation h => ?_,
    fun σ m s o failure => isOneLine_of_plan⟩, fun raw raw' hne h => ?_, fun path path' hne => ?_⟩
  · exact LoadError.isOneLine_invalid (Layout.isOneLine_of_validate h)
  · exact hne (Text.Quoted.quote_injective ((String.append_right_inj _).1 h))
  · have hquoted (front : String) : front ++ path.quoted ≠ front ++ path'.quoted :=
      fun h => hne (Path.quoted_injective ((String.append_right_inj front).1 h))
    exact ⟨fun h => hquoted _ ((String.append_left_inj _).1 h), fun _ _ => hquoted _,
      fun _ _ => hquoted _⟩

/-- A line feed in a name and in a project id, a NUL against the escape that stands for one, and an octet of no
character against the escape that stands for it. -/
theorem message_of_untrusted_escapes :
    let layout : Layout := { Layout.standard with dataset := "swarm\ning" }
    let machine : Machine Unit := ⟨fun _ => {}, [], none, none, fun s _ _ _ => (.ok ⟨some 0⟩, s)⟩
    let path : Path := ⟨[0xFF]⟩
    let path' : Path := Path.ofString "\\xFF"
    (layout.validate = .error (.notIdentifier "dataset" "swarm\ning") ∧
      IsOneLine (LoadError.invalid
        (Layout.Violation.notIdentifier "dataset" "swarm\ning").message).message) ∧
    (Program.plan machine () ⟨none, none, false, "swarm\ndev"⟩ =
        .error (.invalidProjectId "swarm\ndev") ∧
      IsOneLine (invalidProjectId "swarm\ndev").message) ∧
    ("\x00" ≠ "\\0" ∧ (invalidProjectId "\x00").message ≠ (invalidProjectId "\\0").message) ∧
    path ≠ path' ∧ (schemaDirectoryMissing path).message ≠ (schemaDirectoryMissing path').message ∧
      (LoadError.unreadable path .notFound).message ≠ (LoadError.unreadable path' .notText).message ∧
      (LoadError.malformed path .document).message ≠ (LoadError.malformed path' .document).message := by
  intro layout machine path path'
  obtain ⟨⟨-, -, -, -, hinvalid, hplan⟩, hproject, hpath⟩ := message_of_untrusted
  have hlayout : layout.validate = .error (.notIdentifier "dataset" "swarm\ning") := by decide +kernel
  have hrefused : Program.plan machine () ⟨none, none, false, "swarm\ndev"⟩ =
      .error (.invalidProjectId "swarm\ndev") := rfl
  have hnul : "\x00" ≠ "\\0" := by decide
  have hoctet : path ≠ path' := by decide
  obtain ⟨hdirectory, hunreadable, hmalformed⟩ := hpath path path' hoctet
  exact ⟨⟨hlayout, hinvalid layout _ hlayout⟩, ⟨hrefused, hplan Unit machine () _ _ hrefused⟩,
    ⟨hnul, hproject _ _ hnul⟩, hoctet, hdirectory, hunreadable _ _, hmalformed _ _⟩

end Failure

end Provisioning
