import SliceContract.Format.Network

/-!
# Identifiers of resources

A resource is identified by a scheme, an authority, a path and a query. A reference gives some of
these parts, and has the others from the identifier of the resource that it stands in.
-/

namespace SliceContract

/-- An identifier, or a reference to one, without a fragment. -/
structure Uri where
  scheme : Option (List Char)
  authority : Option (List Char)
  path : List Char
  query : Option (List Char)
  deriving DecidableEq, Repr

namespace Uri

/-- What stands before and after the first occurrence of a character. -/
def splitAt? (mark : Char) (text : List Char) : List Char × Option (List Char) :=
  let before := text.takeWhile (· ≠ mark)
  match text.drop before.length with
  | [] => (before, none)
  | _ :: after => (before, some after)

/-- A text with small letters. -/
def lowered (text : List Char) : List Char := text.map Char.toLower

/-- Percent escapes with capital digits; those of characters that need no escape are undone. -/
def normalized : List Char → List Char
  | '%' :: a :: b :: rest =>
    let c := Char.ofNat (Hex.number [a, b])
    if c.isAlphanum || "-._~".toList.contains c then c :: normalized rest
    else '%' :: a.toUpper :: b.toUpper :: normalized rest
  | c :: rest => c :: normalized rest
  | [] => []

/-- Resolve the segments that mean a step up or no step; the kept ones are in reverse order. -/
def withoutDots (kept : List (List Char)) : List (List Char) → List (List Char)
  | [] => kept.reverse
  | segment :: rest =>
    if segment = ['.'] then
      if rest.isEmpty then ([] :: kept).reverse else withoutDots kept rest
    else if segment = ['.', '.'] then
      if rest.isEmpty then ([] :: kept.tail).reverse else withoutDots kept.tail rest
    else withoutDots (segment :: kept) rest

/-- A path in which no segment means a step up or no step. -/
def straightened (path : List Char) : List Char :=
  let join (segments : List (List Char)) : List Char := ['/'].intercalate segments
  match path with
  | '/' :: rest => '/' :: join (withoutDots [] (rest.splitOn '/'))
  | _ => join (withoutDots [] (path.splitOn '/'))

/-- The parts of a text in front of a fragment. -/
def ofText (text : List Char) : Uri :=
  let (main, query) := splitAt? '?' text
  let (scheme, rest) := match splitAt? ':' main with
    | (scheme, some rest) =>
      if Network.isScheme scheme then (some (lowered scheme), rest) else (none, main)
    | (_, none) => (none, main)
  match rest with
  | '/' :: '/' :: rest =>
    let authority := rest.takeWhile (· ≠ '/')
    ⟨scheme, some (lowered (normalized authority)), normalized (rest.drop authority.length),
      query.map normalized⟩
  | _ => ⟨scheme, none, normalized rest, query.map normalized⟩

/-- The path of a reference behind the last slash of the path of a base. -/
def merged (base : Uri) (path : List Char) : List Char :=
  if base.authority.isSome && base.path.isEmpty then '/' :: path
  else (base.path.reverse.dropWhile (· ≠ '/')).reverse ++ path

/-- What a reference identifies in a resource with the base as its identifier. -/
def resolve (base reference : Uri) : Uri :=
  if reference.scheme.isSome then { reference with path := straightened reference.path }
  else if reference.authority.isSome then
    { reference with scheme := base.scheme, path := straightened reference.path }
  else if reference.path.isEmpty then
    { base with query := reference.query <|> base.query }
  else
    let path := if reference.path.head? = some '/' then reference.path
      else base.merged reference.path
    { base with path := straightened path, query := reference.query }

/-- What a text identifies in a resource with the base as its identifier. -/
def join (base : Uri) (text : List Char) : Uri := base.resolve (ofText text)

def text (uri : Uri) : String :=
  let scheme := match uri.scheme with
    | some scheme => scheme ++ [':']
    | none => []
  let authority := match uri.authority with
    | some authority => '/' :: '/' :: authority
    | none => []
  let query := match uri.query with
    | some query => '?' :: query
    | none => []
  String.ofList (scheme ++ authority ++ uri.path ++ query)

/-- The identifier of a document that gives none for itself. -/
def unnamed : Uri := ⟨some "json-schema".toList, some [], ['/'], none⟩

example : ((unnamed.join "a/b".toList).join "../c?d".toList).text = "json-schema:///c?d" ∧
    ((ofText "HTTP://Host/a/./b".toList).join "//other".toList).text = "http://other" := by
  decide

end Uri

end SliceContract
