/-!
# HTML in pieces

Values are put into HTML as they are, without escapes, so a fragment keeps apart what comes from its
template and what comes from a value.

* `Html.Piece` and `Html`: a piece of either sort, and a fragment;
* `Html.toText`: the text of a fragment;
* `Html.values`: the values put into it, in order.
-/

namespace MailTemplate

/-- A piece of a fragment. -/
inductive Html.Piece
  /-- A piece that is the same whatever the values are. -/
  | markup (text : String)
  /-- A value. -/
  | value (text : String)
  deriving DecidableEq

/-- A fragment of HTML. -/
abbrev Html := List Html.Piece

namespace Html

/-- The text of a piece. -/
def Piece.text : Piece → String
  | markup s => s
  | value s => s

/-- The value that a piece is, if it is one. -/
def Piece.value? : Piece → Option String
  | markup _ => none
  | value s => some s

/-- The text of a fragment. -/
def toText (html : Html) : String := String.join (html.map Piece.text)

/-- The values put into a fragment, in order. -/
def values (html : Html) : List String := html.filterMap Piece.value?

end Html
end MailTemplate
