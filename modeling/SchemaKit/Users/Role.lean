import SchemaKit.Text.Quoted

/-!
# Roles of users

A role is a tag. Three tags are known; a tag from elsewhere is kept as it is until it has to be
written or read.

## Main definitions

* `Role` — a tag.
* `Role.all` — the roles that are known.
* `Role.parse` — a known role from its tag, or the tag as unknown.
-/

namespace SchemaKit

/-- The tag of a role. -/
structure Role where
  tag : List Text.Piece
  deriving DecidableEq, Repr

/-- A tag that is none of the known ones. -/
structure UnknownRole where
  tag : List Text.Piece
  deriving DecidableEq, Repr

/-- The wording of an unknown tag. -/
def UnknownRole.message (u : UnknownRole) : String :=
  "unknown user role: " ++ Text.quotePieces u.tag

namespace Role

/-- The role with a tag that is well formed. -/
def ofText (tag : String) : Role := ⟨Text.piecesOf tag⟩

/-- May change everything. -/
def admin : Role := ofText "admin"

/-- May change content. -/
def editor : Role := ofText "editor"

/-- May look at content. -/
def viewer : Role := ofText "viewer"

/-- The known roles. -/
def all : List Role := [admin, editor, viewer]

/-- Whether a role is known. -/
def isValid (r : Role) : Bool := all.contains r

/-- The tag as text. -/
def text (r : Role) : String := String.ofList (r.tag.map Text.Piece.seen)

/-- A role that is known; other tags are refused. -/
def parse (tag : List Text.Piece) : Except UnknownRole Role :=
  if (Role.mk tag).isValid then .ok ⟨tag⟩ else .error ⟨tag⟩

/-- The text of a role for writing; unknown tags are refused. -/
def write (r : Role) : Except UnknownRole String :=
  if r.isValid then .ok r.text else .error ⟨r.tag⟩

end Role

end SchemaKit
