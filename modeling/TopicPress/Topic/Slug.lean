/-!
# Topic identifiers from titles

The identifier of a topic is made of its title: ASCII letters in lower case, digits, hyphens and
underscores stay, every run of other characters becomes one underscore, and underscores at either
end are dropped.  What is left must be a name in XML, so one that begins with a digit or a hyphen
is given an underscore to begin with.
-/

namespace TopicPress.Slug

/-- Characters that an identifier may hold. -/
def isIdCharacter (c : Char) : Bool :=
  c.isLower || c.isUpper || c.isDigit || c == '-' || c == '_'

/-- The identifier's characters in the order of the title.  A run of characters that cannot stay
gives one underscore, unless nothing was kept before it (`kept` is false) or nothing comes after;
`waiting` says that such a run has been passed. -/
def join (kept waiting : Bool) : List Char → List Char
  | [] => []
  | c :: rest =>
    if isIdCharacter c then
      if waiting && kept then '_' :: c.toLower :: join true false rest
      else c.toLower :: join true false rest
    else join kept true rest

/-- Drop underscores at both ends. -/
def trimUnderscores (id : List Char) : List Char :=
  ((id.dropWhile (· == '_')).reverse.dropWhile (· == '_')).reverse

/-- Put an underscore in front of what does not begin with a letter. -/
def makeName : List Char → List Char
  | [] => []
  | c :: rest => if c.isAlpha then c :: rest else '_' :: c :: rest

def ofChars (title : List Char) : List Char :=
  makeName (trimUnderscores (join false false title))

end TopicPress.Slug

namespace TopicPress

/-- The identifier made of a title; it is empty when the title holds nothing to make one of. -/
def slugify (title : String) : String :=
  String.ofList (Slug.ofChars title.toList)

end TopicPress
