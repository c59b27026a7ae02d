/-! # Project ids

The id of a Cloud project: a name of letters, digits and hyphens, which a domain and a colon may
precede. Ids stand in resource names between dots and colons, so an id that passes keeps those
names readable. -/
namespace Provisioning

/-- Whether a character may stand in the domain of a project id. -/
def ProjectId.isDomainChar (c : Char) : Bool :=
  c.isAlphanum || c == '-' || c == '.'

/-- Whether a character may stand in the name of a project id. -/
def ProjectId.isNameChar (c : Char) : Bool :=
  c.isAlphanum || c == '-'

/-- Whether some text is a name, or a domain, a colon and a name; the domain ends at the first
colon. -/
def ProjectId.isWellFormed (text : List Char) : Bool :=
  let domain := text.takeWhile (· != ':')
  match text.dropWhile (· != ':') with
  | [] => !text.isEmpty && text.all isNameChar
  | _ :: name =>
    !domain.isEmpty && domain.all isDomainChar && !name.isEmpty && name.all isNameChar

/-- The id of a Cloud project. -/
structure ProjectId where
  text : String
  wellFormed : ProjectId.isWellFormed text.toList = true
deriving DecidableEq

namespace ProjectId

/-- Reads a project id, which stands for itself. -/
def parse? (raw : String) : Option ProjectId :=
  if h : isWellFormed raw.toList = true then some ⟨raw, h⟩ else none

theorem parse?_eq_some_iff {raw : String} {p : ProjectId} : parse? raw = some p ↔ p.text = raw := by
  unfold parse?
  split
  · next h =>
    constructor
    · intro e
      cases e
      rfl
    · intro e
      cases p
      cases e
      rfl
  · next h =>
    constructor
    · intro e
      cases e
    · intro e
      cases e
      exact absurd p.wellFormed h

theorem parse?_text (p : ProjectId) : parse? p.text = some p :=
  parse?_eq_some_iff.2 rfl

instance : ToString ProjectId := ⟨ProjectId.text⟩

end ProjectId

end Provisioning
