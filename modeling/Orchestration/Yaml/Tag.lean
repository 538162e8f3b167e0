import Orchestration.Text.Raw

/-!
# Tags

A tag says what a node is.  Its octets can be escaped one by one, so nothing keeps them from
spelling no Unicode at all; and it ends where an escaped zero stands.

* `Tag.joined` — a tag from what its handle stands for and what follows the handle;
* `Tag.common` — the tags of the common kinds;
* `Tag.isOwn`, `Tag.ownName?` — the tags of a document's own making, and the names they give;
* `Tag.sameName` — when two such names count as one.
-/

namespace Orchestration.Yaml

/-- A tag, its handle being replaced by what it stands for. -/
abbrev Tag := RawText

namespace Tag

/-- The part of a text before a zero. -/
def beforeZero (t : RawText) : RawText := t.takeWhile (· != .char (Char.ofNat 0))

/-- The tag that a handle and what follows it make together. -/
def joined (start suffix : RawText) : Tag := beforeZero start ++ beforeZero suffix

/-- The tag of a common kind. -/
def common (name : String) : Tag := RawText.ofString ("tag:yaml.org,2002:" ++ name)

/-- Whether a tag is of the document's own making: it begins with a mark. -/
def isOwn (tag : Tag) : Bool := tag.head? == some (.char '!')

/-- The name that a tag of the document's own making gives: what follows the mark, or the mark
itself if nothing does.  A tag that is not Unicode gives none. -/
def ownName? (tag : Tag) : Option String :=
  if !tag.isOwn then none
  else match RawText.strict? (if tag.length = 1 then tag else tag.drop 1) with
    | .ok name => some name
    | .error _ => none

/-- A name without a mark before it; a mark alone stays. -/
def withoutMark (name : String) : List Char :=
  match name.toList with
  | '!' :: c :: rest => c :: rest
  | cs => cs

/-- Whether two names count as one: a mark before a name does not matter. -/
def sameName (a b : String) : Bool := withoutMark a == withoutMark b

theorem isOwn_of_ownName? {tag : Tag} {name : String} (h : tag.ownName? = some name) :
    tag.isOwn = true := by
  cases hown : tag.isOwn with
  | true => rfl
  | false => simp [ownName?, hown] at h

theorem joined_nil (suffix : RawText) : joined [] suffix = beforeZero suffix := rfl

end Tag

end Orchestration.Yaml
