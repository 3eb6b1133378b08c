import FieldCalc.Decimal.Numeral
import FieldCalc.Text.Encoding
import FieldCalc.Web.HostName
import FieldCalc.Web.HostNumber

/-!
Addresses. A request is sent to a path, before which a scheme and a place may stand, and after
which a query and a fragment. The place is a host, perhaps with a user before it and a number
after it. Blanks and control characters at the start of an address do not count, nor do tabs and
line ends anywhere. Nothing is ever sent to an address whose place cannot be one.
-/

namespace FieldCalc.Web

structure Address where
  scheme : Text
  place : Text
  path : Text
  deriving DecidableEq, Repr

inductive AddressError where
  /-- One of two square brackets is missing in the place. -/
  | lonelyBracket
  /-- A host in brackets is of no kind of number. -/
  | noNumber (host : Text)
  | shortNumber
  /-- A host in brackets starts like one of a later kind, but goes on differently. -/
  | badLaterKind
  /-- A place has characters that stand for those around it. -/
  | treacherous (place : Text)
  /-- A host's name cannot be written in ASCII. -/
  | unwritable (e : NameError)
  | unreadable (e : NameError)
  /-- What follows the colon after the host is no number. -/
  | notNumber (text : Text)
  | numberTooLarge
  | numberTooLong (digits : Nat)
  deriving DecidableEq, Repr

namespace AddressError

def message : AddressError → String
  | lonelyBracket => "Invalid IPv6 URL"
  | noNumber host =>
      String.ofList host.quoted ++ " does not appear to be an IPv4 or IPv6 address"
  | shortNumber => "An IPv4 address cannot be in brackets"
  | badLaterKind => "IPvFuture address is invalid"
  | treacherous place =>
      "netloc '" ++ String.ofList place
        ++ "' contains invalid characters under NFKC normalization"
  | unwritable e => e.writingMessage
  | unreadable e => e.readingMessage
  | notNumber text =>
      "Port could not be cast to integer value as " ++ String.ofList (Text.quoted text)
  | numberTooLarge => "Port out of range 0-65535"
  | numberTooLong digits => Numeral.tooLongMessage digits

end AddressError

/-! ## Places -/

structure Place where
  user : Text
  secret : Text
  host : Text
  number : Text
  deriving DecidableEq, Repr

namespace Place

def halves (mark : Char) (t : Text) : Text × Text := (t.takeWhile (· != mark), t.afterFirst mark)

/-- The place that a text gives. A host may stand in brackets, and is written in lower case up to
its zone. -/
def ofText (t : Text) : Place :=
  let owner := if t.contains '@' then (t.reverse.dropWhile (· != '@')).drop 1 |>.reverse else []
  let rest := t.afterLast '@'
  let (host, number) :=
    if rest.contains '[' then
      let (host, rest) := halves ']' (rest.afterFirst '[')
      (host, rest.afterFirst ':')
    else halves ':' rest
  let (name, zone) := (host.takeWhile (· != '%'), host.dropWhile (· != '%'))
  ⟨(halves ':' owner).1, (halves ':' owner).2, name.map Char.toLower ++ zone, number⟩

/-- The place as a text. What is empty is left out, and so is a number zero. -/
def text (p : Place) : Text :=
  let host := if p.host.contains ':' then '[' :: p.host ++ [']'] else p.host
  let number := Nat.ofDigitChars 10 p.number 0
  let place := if number = 0 then host else host ++ ':' :: (toString number).toList
  if p.user.isEmpty then place
  else
    let owner := if p.secret.isEmpty then p.user else p.user ++ ':' :: p.secret
    owner ++ '@' :: place

def treacherousCodes : List Nat := [
  0x2047, 0x2048, 0x2049, 0x2100, 0x2101, 0x2105, 0x2106, 0x2a74, 0xfe13, 0xfe16, 0xfe55,
  0xfe56, 0xfe5f, 0xfe6b, 0xff03, 0xff0f, 0xff1a, 0xff1f, 0xff20]

def checkBracketed (host : Text) : Except AddressError Unit :=
  if HostNumber.startsLaterKind host then
    if HostNumber.isLaterKind host then .ok () else .error .badLaterKind
  else if HostNumber.isShort host then .error .shortNumber
  else if HostNumber.isLong host then .ok ()
  else .error (.noNumber host)

def check (t : Text) : Except AddressError Unit := do
  if t.contains '[' != t.contains ']' then throw .lonelyBracket
  if t.contains '[' then checkBracketed ((t.afterFirst '[').takeWhile (· != ']'))
  if t.any fun c => treacherousCodes.contains c.toNat then throw (.treacherous t)

def maxNumber : Nat := 65535

def checkNumber (t : Text) : Except AddressError Unit :=
  if !t.all isAsciiDigit then .error (.notNumber t)
  else if Numeral.maxIntegerDigits < t.length then .error (.numberTooLong t.length)
  else if maxNumber < Nat.ofDigitChars 10 t 0 then .error .numberTooLarge
  else .ok ()

/-! ## Percent signs -/

def quoteBytes (bytes : List UInt8) : Text :=
  bytes.flatMap fun b => '%' :: (hexDigits 2 b.toNat).map Char.toUpper

/-- The characters of bytes. A byte that belongs to none stays behind a percent sign. -/
def readOwner (bytes : List UInt8) : Text := decodeUtf8With quoteBytes [] 0 0 0 0 bytes

def ownerMarks : Text := "_.-~%!$&'()*+,;=".toList

def quoteOwner (t : Text) : Text :=
  t.flatMap fun c =>
    if c.isAlphanum || ownerMarks.contains c then [c]
    else quoteBytes (String.singleton c).toUTF8.data.toList

def staysQuoted (b : Nat) : Bool := b ≤ 0x20 || b == 0x7f || "%:@/?#".toList.any (·.toNat == b)

/-- A user or secret as the characters that its bytes are. `waiting` are the bytes that have been
read since the last byte that stays quoted. -/
def openOwner (waiting : List UInt8) : Text → Text
  | '%' :: a :: b :: rest =>
      match hexValue? a, hexValue? b with
      | some high, some low =>
          let byte := 16 * high + low
          if staysQuoted byte then
            readOwner waiting ++ '%' :: a :: b :: openOwner [] rest
          else openOwner (waiting ++ [UInt8.ofNat byte]) rest
      | _, _ => openOwner (waiting ++ [37]) (a :: b :: rest)
  | c :: rest => openOwner (waiting ++ (String.singleton c).toUTF8.data.toList) rest
  | [] => readOwner waiting

/-! ## Sending -/

def written (t : Text) : Except AddressError Text := do
  let p := ofText t
  let host ← (HostName.write p.host).mapError .unwritable
  checkNumber p.number
  return text { p with user := quoteOwner p.user, secret := quoteOwner p.secret, host }

def readBack (t : Text) : Except AddressError Text := do
  let p := ofText t
  let host ← (HostName.read p.host).mapError .unreadable
  return text { p with user := openOwner [] p.user, secret := openOwner [] p.secret, host }

end Place

namespace Address

/-! ## Parts -/

def tidy (t : Text) : Text :=
  (t.dropWhile fun c => c.toNat ≤ 32).filter fun c => c != '\t' && c != '\n' && c != '\r'

def isSchemeChar (c : Char) : Bool := c.isAlphanum || c == '+' || c == '-' || c == '.'

def splitScheme (t : Text) : Text × Text :=
  match t.takeWhile isSchemeChar, t.dropWhile isSchemeChar with
  | c :: name, ':' :: rest => if c.isAlpha then ((c :: name).map Char.toLower, rest) else ([], t)
  | _, _ => ([], t)

def endsPlace (c : Char) : Bool := c == '/' || c == '?' || c == '#'

def splitPlace : Text → Text × Text
  | '/' :: '/' :: rest => (rest.takeWhile (!endsPlace ·), rest.dropWhile (!endsPlace ·))
  | t => ([], t)

def ofText (t : Text) : Except AddressError Address := do
  let (scheme, rest) := splitScheme (tidy t)
  let (place, rest) := splitPlace rest
  Place.check place
  return ⟨scheme, place, rest.takeWhile fun c => c != '?' && c != '#'⟩

def text (a : Address) : Text :=
  let rest := if a.place.isEmpty then a.path else '/' :: '/' :: a.place ++ a.path
  if a.scheme.isEmpty then rest else a.scheme ++ ':' :: rest

/-! ## Where a request arrives -/

def defaultScheme : Text := "http".toList

def defaultPlace : Text := "localhost".toList

def orElse (default t : Text) : Text := if t.isEmpty then default else t

/-- The address, with its place in ASCII, at which a request sent to an address arrives. The path
may in turn have a place before it, which is dropped; one before what then remains is a part of
the path. -/
def arrival (t : Text) : Except AddressError Address := do
  let outer ← ofText t
  let inner ← ofText outer.path
  let last ← ofText inner.path
  let path := text { last with place := ← Place.written last.place }
  let place ← Place.written (orElse defaultPlace outer.place)
  Place.check place
  return ⟨orElse defaultScheme outer.scheme, place, path⟩

def isSocket (a : Address) : Bool := a.scheme == "ws".toList || a.scheme == "wss".toList

def defaultNumber (a : Address) : Text :=
  if a.scheme == "http".toList || a.scheme == "ws".toList then ":80".toList
  else if a.scheme == "https".toList || a.scheme == "wss".toList then ":443".toList
  else []

def shortPlace (a : Address) : Text :=
  if a.defaultNumber.isSuffixOf a.place then
    a.place.take (a.place.length - a.defaultNumber.length)
  else a.place

def checkReadable (a : Address) : Except AddressError Unit := do
  Place.check (← Place.readBack a.shortPlace)

def isWellNamed (a : Address) : Bool :=
  (HostName.write (a.place.takeWhile (· != ':'))).toOption.isSome

end Address

end FieldCalc.Web
