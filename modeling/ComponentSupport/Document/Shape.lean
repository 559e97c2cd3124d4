/-!
# Shapes

What form a document is expected to have. A notation in which the same writing can stand for several
values needs to know it before the values are read.
-/

namespace ComponentSupport

/-- The form of a part of a document. -/
inductive Shape where
  | text
  | list (items : Shape)
  /-- A record; it may have other fields, which mean nothing. -/
  | record (fields : List (String × Shape))

end ComponentSupport
