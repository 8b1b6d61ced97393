import Observatory.Text.Split

/-! # Request targets

A request names what it is about by a target: a path, possibly with a query and a fragment behind it,
possibly with a scheme and an authority in front. An authority may also stand alone, and then there is
no path. Paths and queries are not decoded, but some characters may not stand in them.
-/

namespace Observatory.Net

/-- The character may stand in a path as it is. -/
def isPathChar (c : Char) : Bool :=
  let n := c.toNat
  n == 0x21 || n == 0x22 || (0x24 ≤ n && n ≤ 0x3B) || n == 0x3D || (0x40 ≤ n && n ≤ 0x5F) ||
    (0x61 ≤ n && n ≤ 0x7E) || 0x80 ≤ n

/-- The character may stand in a query as it is. -/
def isQueryChar (c : Char) : Bool :=
  let n := c.toNat
  n == 0x21 || (0x24 ≤ n && n ≤ 0x3B) || n == 0x3D || (0x3F ≤ n && n ≤ 0x7E) || 0x80 ≤ n

/-- The path in front of query and fragment. The fragment may be anything. -/
def pathOf? (text : List Char) : Option (List Char) :=
  let (path, rest) := text.span fun c => c ≠ '?' && c ≠ '#'
  let query :=
    match rest with
    | '?' :: query => query.takeWhile (· ≠ '#')
    | _ => []
  if path.all isPathChar && query.all isQueryChar then some path else none

/-! ## Authorities -/

def isAlphanumeric (c : Char) : Bool :=
  c.isAlpha || c.isDigit

/-- The character may stand in an authority as it is. -/
def isAuthorityChar (c : Char) : Bool :=
  isAlphanumeric c || c ∈ "!$&'()*+,-.:;=@[]_~".toList

/-- What has been seen of an authority. -/
structure Authority where
  /-- Colons and percent signs since the last `@` or `]`. -/
  colons : Nat
  hasPercent : Bool
  brackets : Nat
  endsInAt : Bool
deriving DecidableEq, Repr

namespace Authority

def empty : Authority := ⟨0, false, 0, false⟩

/-- Read one character. An address in brackets stands in at most one pair of them. -/
def read? (authority : Authority) (c : Char) : Option Authority :=
  let authority := { authority with endsInAt := c = '@' }
  if c = '%' then some { authority with hasPercent := true }
  else if !isAuthorityChar c then none
  else if c = ':' then
    if authority.colons < 8 then some { authority with colons := authority.colons + 1 } else none
  else if c = '[' then
    if authority.hasPercent || authority.brackets ≠ 0 then none else some { authority with brackets := 1 }
  else if c = ']' then
    if authority.brackets = 1 then some ⟨0, false, 2, false⟩ else none
  else if c = '@' then some { authority with colons := 0, hasPercent := false }
  else some authority

/-- The authority is complete: a host and at most a port. -/
def isComplete (authority : Authority) : Bool :=
  authority.brackets ≠ 1 && authority.colons ≤ 1 && !authority.endsInAt && !authority.hasPercent

/-- The text is an authority, possibly an empty one. -/
def isValid (text : List Char) : Bool :=
  match text.foldlM read? empty with
  | some authority => authority.isComplete
  | none => false

end Authority

/-! ## Targets -/

/-- What follows a scheme. -/
def afterScheme? (text : List Char) : Option (List Char) :=
  let (scheme, rest) := text.span fun c => isAlphanumeric c || c ∈ ['+', '-', '.', '~']
  match rest with
  | ':' :: '/' :: '/' :: rest => if scheme.length ≤ 64 then some rest else none
  | _ => none

/-- The path of a target, `none` if the text is no target. -/
def targetPath? (text : List Char) : Option (List Char) :=
  match text with
  | [] => none
  | ['*'] => some ['*']
  | '/' :: _ => pathOf? text
  | _ =>
      let isAuthorityEnd (c : Char) : Bool := c = '/' || c = '?' || c = '#'
      match afterScheme? text with
      | some rest =>
          let (authority, rest) := rest.span (!isAuthorityEnd ·)
          if !authority.isEmpty && Authority.isValid authority then
            (pathOf? rest).map fun path => if path.isEmpty then ['/'] else path
          else none
      | none => if !text.any isAuthorityEnd && Authority.isValid text then some [] else none

end Observatory.Net
