import Admissions.Url.Escape
import Admissions.Url.Ip

namespace Admissions

/-- The user information of a URL: a name and, when given, a password. -/
structure UserInfo where
  name : String
  password : Option String
  deriving BEq, Repr, Inhabited

/-- A URL in its parts: the path, the fragment and the user information unescaped,
with the escaped path and fragment kept when they differ from what escaping gives. -/
structure Url where
  scheme : String := ""
  /-- The rest of a URL with a scheme that does not go on with `/`. -/
  rootless : String := ""
  user : Option UserInfo := none
  host : String := ""
  path : String := ""
  rawPath : String := ""
  /-- A scheme followed by a path with no authority. -/
  omitHost : Bool := false
  /-- A query mark with no query after it. -/
  forceQuery : Bool := false
  rawQuery : String := ""
  fragment : String := ""
  rawFragment : String := ""
  deriving BEq, Repr, Inhabited

namespace Url

/-- The text before the first `sep` and, when there is one, the text after it. -/
def cut (cs : List Char) (sep : Char) : List Char × Option (List Char) :=
  match cs.findIdx? (· = sep) with
  | some i => (cs.take i, some (cs.drop (i + 1)))
  | none => (cs, none)

/-- The position of the last `c`. -/
def lastIndex (cs : List Char) (c : Char) : Option Nat :=
  (cs.zipIdx.filter (·.1 = c)).getLast?.map (·.2)

/-- Splits off a scheme: letters first, then letters, digits, `+`, `-` or `.`, up
to a colon. A text that does not start that way has no scheme. -/
def splitScheme (cs : List Char) : Except String (String × List Char) :=
  let rec go (acc : List Char) : List Char → Except String (String × List Char)
    | [] => .ok ("", cs)
    | c :: rest =>
      if c.isAlpha then go (acc ++ [c]) rest
      else if c.isDigit || c = '+' || c = '-' || c = '.' then
        if acc.isEmpty then .ok ("", cs) else go (acc ++ [c]) rest
      else if c = ':' then
        if acc.isEmpty then .error "missing protocol scheme" else .ok (String.ofList acc, rest)
      else .ok ("", cs)
  go [] cs

/-- Whether a text is empty or a colon followed by digits. -/
def isPort (cs : List Char) : Bool :=
  match cs with
  | [] => true
  | ':' :: digits => digits.all Char.isDigit
  | _ => false

/-- Reads a host, unescaped. A host with `[` starts with it and holds an IPv6
address (not an IPv4 one) in brackets, perhaps with a zone after `%25`, and then an
optional port; any other host may end in a port after its last colon. -/
def parseHost (host : String) : Except String String :=
  let cs := host.toList
  match lastIndex cs '[' with
  | some (_ + 1) => .error "invalid IP-literal"
  | some openAt =>
    match lastIndex cs ']' with
    | none => .error "missing ']' in host"
    | some closeAt =>
      let colonPort := cs.drop (closeAt + 1)
      if !isPort colonPort then
        .error ("invalid port " ++ Text.quote (String.ofList colonPort) ++ " after host")
      else
        match unescape (String.ofList colonPort) .host with
        | .error e => .error e
        | .ok port =>
          let name := (cs.take closeAt).drop (openAt + 1)
          let unescaped : Except String String :=
            match (List.range name.length).find? (fun i => (name.drop i).take 3 = ['%', '2', '5']) with
            | some z =>
              match unescape (String.ofList (name.take z)) .host,
                  unescape (String.ofList (name.drop z)) .zone with
              | .ok a, .ok b => .ok (a ++ b)
              | .error e, _ => .error e
              | _, .error e => .error e
            | none => unescape (String.ofList name) .host
          match unescaped with
          | .error e => .error e
          | .ok name =>
            match IpAddress.parse name with
            | .error e => .error ("invalid host: " ++ e)
            | .ok a =>
              if a.isV4 then .error "invalid IP-literal"
              else .ok ("[" ++ name ++ "]" ++ port)
  | none =>
    match lastIndex cs ':' with
    | some i =>
      if !isPort (cs.drop i) then
        .error ("invalid port " ++ Text.quote (String.ofList (cs.drop i)) ++ " after host")
      else unescape host .host
    | none => unescape host .host

/-- Whether user information holds only the characters it may. -/
def isUserInfo (cs : List Char) : Bool :=
  cs.all fun c => c.isAlphanum || "-._:~!$&'()*+,;=%@".toList.contains c

/-- Reads an authority: the user information before the last `@`, and the host. -/
def parseAuthority (authority : String) : Except String (Option UserInfo × String) :=
  let cs := authority.toList
  match lastIndex cs '@' with
  | none => (parseHost authority).map fun h => (none, h)
  | some i =>
    match parseHost (String.ofList (cs.drop (i + 1))) with
    | .error e => .error e
    | .ok host =>
      let info := cs.take i
      if !isUserInfo info then .error "net/url: invalid userinfo" else
      match cut info ':' with
      | (name, none) =>
        (unescape (String.ofList name) .userPassword).map fun n => (some ⟨n, none⟩, host)
      | (name, some password) =>
        match unescape (String.ofList name) .userPassword,
            unescape (String.ofList password) .userPassword with
        | .ok n, .ok p => .ok (some ⟨n, some p⟩, host)
        | .error e, _ => .error e
        | _, .error e => .error e

/-- Sets the path from its escaped text, keeping the text when escaping the path
would not give it back. -/
def withPath (u : Url) (p : String) : Except String Url :=
  (unescape p .path).map fun path =>
    { u with path, rawPath := if escape path .path == p then "" else p }

/-- Sets the fragment from its escaped text, keeping the text when escaping the
fragment would not give it back. -/
def withFragment (u : Url) (f : String) : Except String Url :=
  (unescape f .fragment).map fun fragment =>
    { u with fragment, rawFragment := if escape fragment .fragment == f then "" else f }

/-- Reads a URL without its fragment. -/
def parseBody (raw : String) : Except String Url := do
  if raw.toList.any fun c => c.toNat < 0x20 || c.toNat = 0x7F then
    throw "net/url: invalid control character in URL"
  if raw == "*" then return { path := "*" }
  let (scheme, rest) ← splitScheme raw.toList
  let scheme := String.ofList (scheme.toList.map Text.lowerChar)
  let (rest, rawQuery, forceQuery) :=
    if rest.getLast? = some '?' && (rest.filter (· = '?')).length = 1 then
      (rest.dropLast, [], true)
    else
      match cut rest '?' with
      | (r, some q) => (r, q, false)
      | (r, none) => (r, [], false)
  let url : Url := { scheme, rawQuery := String.ofList rawQuery, forceQuery }
  if rest.head? != some '/' then
    if scheme != "" then return { url with rootless := String.ofList rest }
    if (cut rest '/').1.contains ':' then throw "first path segment in URL cannot contain colon"
  let startsWith (p : String) := p.toList.isPrefixOf rest
  let (url, rest) ← do
    if (scheme != "" || !startsWith "///") && startsWith "//" then
      let (authority, path) := match (rest.drop 2).findIdx? (· = '/') with
        | some i => ((rest.drop 2).take i, (rest.drop 2).drop i)
        | none => (rest.drop 2, [])
      let (user, host) ← parseAuthority (String.ofList authority)
      pure ({ url with user, host }, path)
    else if scheme != "" && startsWith "/" then pure ({ url with omitHost := true }, rest)
    else pure (url, rest)
  url.withPath (String.ofList rest)

/-- Reads a URL; a refusal quotes the text and says what is wrong. -/
def parse (raw : String) : Except String Url :=
  let (body, frag) := cut raw.toList '#'
  let body := String.ofList body
  match parseBody body with
  | .error e => .error ("parse " ++ Text.quote body ++ ": " ++ e)
  | .ok url =>
    match frag with
    | none | some [] => .ok url
    | some f =>
      match url.withFragment (String.ofList f) with
      | .error e => .error ("parse " ++ Text.quote raw ++ ": " ++ e)
      | .ok url => .ok url

/-- The escaped path: the kept text when it is a valid escaping of the path, else
the path escaped. -/
def escapedPath (u : Url) : String :=
  if u.rawPath != "" && isEscaped u.rawPath .path &&
      (match unescape u.rawPath .path with | .ok p => p == u.path | .error _ => false) then
    u.rawPath
  else if u.path == "*" then "*"
  else escape u.path .path

def escapedFragment (u : Url) : String :=
  if u.rawFragment != "" && isEscaped u.rawFragment .fragment &&
      (match unescape u.rawFragment .fragment with | .ok f => f == u.fragment | .error _ => false) then
    u.rawFragment
  else escape u.fragment .fragment

def userText (i : UserInfo) : String :=
  escape i.name .userPassword ++ (i.password.map fun p => ":" ++ escape p .userPassword).getD ""

def toText (u : Url) : String :=
  let head := if u.scheme != "" then u.scheme ++ ":" else ""
  let body :=
    if u.rootless != "" then u.rootless
    else
      let authority :=
        if u.scheme != "" || u.host != "" || u.user.isSome then
          if u.omitHost && u.host == "" && u.user.isNone then ""
          else
            (if u.host != "" || u.path != "" || u.user.isSome then "//" else "") ++
            (u.user.map fun i => userText i ++ "@").getD "" ++
            (if u.host != "" then escape u.host .host else "")
        else ""
      let path := u.escapedPath
      let slash := if path != "" && path.front != '/' && u.host != "" then "/" else ""
      let dot :=
        if (head ++ authority ++ slash).isEmpty && ((cut path.toList '/').1.contains ':') then "./"
        else ""
      authority ++ slash ++ dot ++ path
  let query := if u.forceQuery || u.rawQuery != "" then "?" ++ u.rawQuery else ""
  let frag := if u.fragment != "" then "#" ++ u.escapedFragment else ""
  head ++ body ++ query ++ frag

/-- Applies the dot segments of a reference's path to a base path: `.` is dropped
and `..` drops the segment before it; the result starts with `/`. -/
def resolvePath (base ref : String) : String :=
  let full :=
    if ref.isEmpty then base
    else if ref.front != '/' then
      match lastIndex base.toList '/' with
      | some i => String.ofList (base.toList.take (i + 1)) ++ ref
      | none => ref
    else ref
  if full.isEmpty then "" else
  let segments := full.splitOn "/"
  let step (acc : String × Bool) (elem : String) : String × Bool :=
    let (dst, first) := acc
    if elem == "." then (dst, false)
    else if elem == ".." then
      let str := (dst.drop 1).toString
      match lastIndex str.toList '/' with
      | none => ("/", true)
      | some i => ("/" ++ String.ofList (str.toList.take i), first)
    else ((if first then dst else dst ++ "/") ++ elem, false)
  let (dst, _) := segments.foldl step ("/", true)
  let last := segments.getLast?.getD ""
  let dst := if last == "." || last == ".." then dst ++ "/" else dst
  if dst.length > 1 && dst.toList[1]? = some '/' then (dst.drop 1).toString else dst

/-- Sets the path from an escaped text, keeping the URL as it is when the text
does not unescape. -/
def withPathOrSame (u : Url) (p : String) : Url :=
  match u.withPath p with
  | .ok v => v
  | .error _ => u

def resolve (base ref : Url) : Url :=
  let url := if ref.scheme == "" then { ref with scheme := base.scheme } else ref
  if ref.scheme != "" || ref.host != "" || ref.user.isSome then
    url.withPathOrSame (resolvePath ref.escapedPath "")
  else if ref.rootless != "" then { url with user := none, host := "", path := "" }
  else
    let url :=
      if ref.path == "" && !ref.forceQuery && ref.rawQuery == "" then
        let url := { url with rawQuery := base.rawQuery }
        if ref.fragment == "" then
          { url with fragment := base.fragment, rawFragment := base.rawFragment }
        else url
      else url
    if ref.path == "" && base.rootless != "" then
      { url with rootless := base.rootless, user := none, host := "", path := "" }
    else
      { url with host := base.host, user := base.user }.withPathOrSame
        (resolvePath base.escapedPath ref.escapedPath)

end Url

end Admissions
