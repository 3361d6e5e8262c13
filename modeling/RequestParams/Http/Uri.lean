import RequestParams.Text.Utf8
import RequestParams.Text.Split

set_option autoImplicit false
set_option relaxedAutoImplicit false

/-!
The address of a request: a path with an optional query.  An address is a path, an asterisk, an
authority alone, or a scheme and an authority before a path; a fragment is dropped.
-/

namespace RequestParams.Http

structure Uri where
  path : String
  query : Option String
deriving DecidableEq

namespace Uri

def isPathChar (c : Char) : Bool :=
  c.isAlphanum || "!\"$%&'()*+,-./:;=@[\\]^_\x7b|\x7d~".toList.contains c || 0x7f < c.toNat

def isQueryChar (c : Char) : Bool :=
  isPathChar c && c ≠ '"' || c = '?' || c = '`'

def isSchemeChar (c : Char) : Bool := c.isAlphanum || "+-.~".toList.contains c

def isAuthorityChar (c : Char) : Bool :=
  c.isAlphanum || "!$&'()*+,-.:;=@[]_~".toList.contains c

def endsAuthority (c : Char) : Bool := c = '/' || c = '?' || c = '#'

def readPathAndQuery (text : List Char) : Option Uri :=
  let text := text.takeWhile (· ≠ '#')
  let path := text.takeWhile (· ≠ '?')
  let shown := if path.isEmpty then "/" else String.ofList path
  match text.dropWhile (· ≠ '?') with
  | [] => if path.all isPathChar then some ⟨shown, none⟩ else none
  | _ :: query =>
    if path.all isPathChar && query.all isQueryChar then some ⟨shown, some (String.ofList query)⟩
    else none

structure AuthorityScan where
  colons : Nat := 0
  opened : Bool := false
  closed : Bool := false
  escaped : Bool := false

def AuthorityScan.step (scan : AuthorityScan) (c : Char) : Option AuthorityScan :=
  if c = ':' then
    if 8 ≤ scan.colons then none else some { scan with colons := scan.colons + 1 }
  else if c = '[' then
    if scan.escaped || scan.opened then none else some { scan with opened := true }
  else if c = ']' then
    if !scan.opened || scan.closed then none
    else some { scan with closed := true, colons := 0, escaped := false }
  else if c = '@' then some { scan with colons := 0, escaped := false }
  else if c = '%' then some { scan with escaped := true }
  else if isAuthorityChar c then some scan
  else none

/-- Whether a text is an authority: a host with an optional port, behind an optional user. -/
def isAuthority (text : List Char) : Bool :=
  match text.foldlM AuthorityScan.step {} with
  | none => false
  | some scan =>
    scan.opened = scan.closed && scan.colons ≤ 1 && text.getLast? ≠ some '@' && !scan.escaped

def dropScheme (text : List Char) : Option (List Char) :=
  if (text.takeWhile isSchemeChar).length ≤ 64 then
    match text.dropWhile isSchemeChar with
    | ':' :: '/' :: '/' :: rest => some rest
    | _ => none
  else none

def read (text : String) : Option Uri :=
  if 65534 < text.utf8ByteSize then none
  else
    match text.toList with
    | [] => none
    | ['*'] => some ⟨"*", none⟩
    | '/' :: rest => readPathAndQuery ('/' :: rest)
    | text =>
      match dropScheme text with
      | some rest =>
        let authority := rest.takeWhile (!endsAuthority ·)
        if !authority.isEmpty && isAuthority authority then
          readPathAndQuery (rest.dropWhile (!endsAuthority ·))
        else none
      | none => if !text.any endsAuthority && isAuthority text then some ⟨"", none⟩ else none

def root : Uri := ⟨"/", none⟩

end Uri

/-!
### Queries

A query in form encoding is pieces between ampersands, each a key and a value around its first
equals sign.  A plus stands for a space and a percent sign with two hexadecimal digits for a byte;
any other percent sign stands for itself.
-/

namespace Query

def hexValue (c : Char) : Option Nat :=
  if '0' ≤ c ∧ c ≤ '9' then some (c.toNat - 48)
  else if 'a' ≤ c ∧ c ≤ 'f' then some (c.toNat - 87)
  else if 'A' ≤ c ∧ c ≤ 'F' then some (c.toNat - 55)
  else none

def hexByte (high low : Char) : Option UInt8 :=
  match hexValue high, hexValue low with
  | some high, some low => some (UInt8.ofNat (high * 16 + low))
  | _, _ => none

def plainBytes (c : Char) : List UInt8 := if c = '+' then [0x20] else String.utf8EncodeChar c

def decodeBytes : List Char → List UInt8
  | '%' :: high :: low :: rest =>
    match hexByte high low with
    | some byte => byte :: decodeBytes rest
    | none => plainBytes '%' ++ decodeBytes (high :: low :: rest)
  | c :: rest => plainBytes c ++ decodeBytes rest
  | [] => []

def decode (text : List Char) : String := String.ofList (Text.Utf8.decode (decodeBytes text))

/-- The key and the value of a piece; without an equals sign all of it is the key. -/
def readPiece (piece : List Char) : String × String :=
  match Text.splitFirst '=' piece with
  | some (key, value) => (decode key, decode value)
  | none => (decode piece, "")

/-- The keys and values of the pieces of a query, in order; empty pieces are none. -/
def pairs (query : String) : List (String × String) :=
  ((query.toList.splitOn '&').filter (!·.isEmpty)).map readPiece

def get? (query name : String) : Option String := (pairs query).lookup name

example : pairs "a=1&&b+c=%41%zz&d" = [("a", "1"), ("b c", "A%zz"), ("d", "")] := by
  decide +kernel

end Query

end RequestParams.Http
