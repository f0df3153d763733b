/-!
# Markup text

Text within an attribute of a markup document. The five characters that mean something there are
replaced by entities, one after the other; the ampersand comes first, because entities hold one.
-/

namespace OperationLint.Markup

/-- The characters with their entities, in the order of replacement. -/
def entities : List (Char × List Char) :=
  [('&', "&amp;".toList), ('<', "&lt;".toList), ('>', "&gt;".toList), ('"', "&quot;".toList),
    ('\x27', "&#39;".toList)]

/-- Replaces every occurrence of a character. -/
def replace (c : Char) (entity text : List Char) : List Char :=
  text.flatMap fun x => if x = c then entity else [x]

/-- Replaces each of the five characters in turn. -/
def escapeChars (text : List Char) : List Char :=
  entities.foldl (fun done (c, entity) => replace c entity done) text

@[inherit_doc escapeChars]
def escape (text : String) : String := String.ofList (escapeChars text.toList)

end OperationLint.Markup
