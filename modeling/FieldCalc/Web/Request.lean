import FieldCalc.Text.Encoding
import FieldCalc.Web.Address

/-!
Requests as they arrive. The path of a request is percent-encoded; decoded and cut at its
slashes it is a list of segments. Decoding reads the bytes as UTF-8 and puts the replacement
character for bytes that are none. A method may be sent in small letters too and finds the same
route; only one sent as `HEAD`, in capitals, asks for an answer without its content.
-/

namespace FieldCalc.Web

structure Request where
  method : String
  headOnly : Bool
  isSocket : Bool
  isWellNamed : Bool
  path : Text
  contentType : String
  body : Option String

inductive SendError where
  | address (e : AddressError)
  | brokenHeader
  deriving DecidableEq, Repr

def SendError.message : SendError → String
  | address e => e.message
  | brokenHeader => "Header values must not contain newline characters."

/-! ## Methods -/

def capitals : Char → Text
  | 'ı' => ['I']
  | 'ſ' => ['S']
  | 'ß' => ['S', 'S']
  | 'ﬀ' => ['F', 'F']
  | 'ﬁ' => ['F', 'I']
  | 'ﬂ' => ['F', 'L']
  | 'ﬃ' => ['F', 'F', 'I']
  | 'ﬄ' => ['F', 'F', 'L']
  | 'ﬅ' | 'ﬆ' => ['S', 'T']
  | c => [c.toUpper]

def methodNamed (word : String) : String := String.ofList (word.toList.flatMap capitals)

/-! ## Percent encoding -/

/-- The UTF-8 bytes of a percent-encoded text. A percent sign without two hexadecimal digits
stands for itself. -/
def decodePercent : Text → List UInt8
  | '%' :: a :: b :: rest =>
      match hexValue? a, hexValue? b with
      | some high, some low => UInt8.ofNat (16 * high + low) :: decodePercent rest
      | _, _ => 37 :: decodePercent (a :: b :: rest)
  | c :: rest => (String.singleton c).toUTF8.data.toList ++ decodePercent rest
  | [] => []

/-! ## Slashes -/

def mergeSlashes : Text → Text
  | [] => []
  | '/' :: rest =>
      match mergeSlashes rest with
      | '/' :: more => '/' :: more
      | merged => '/' :: merged
  | c :: rest => c :: mergeSlashes rest

namespace Request

def sentTo (address method contentType : String) (body : Option String) :
    Except SendError Request := do
  let arrival ← (Address.arrival address.toList).mapError .address
  if contentType.toList.any fun c => c == '\r' || c == '\n' then throw .brokenHeader
  arrival.checkReadable.mapError .address
  return {
    method := methodNamed method
    headOnly := method == "HEAD"
    isSocket := arrival.isSocket
    isWellNamed := arrival.isWellNamed
    path := (decodeUtf8 (decodePercent arrival.path)).dropWhile (· == '/')
    contentType
    body }

def isJson (request : Request) : Bool :=
  let media := ((Text.trimBy (fun c => c == ' ' || c == '\t')
    (request.contentType.toList.takeWhile (· != ';'))).map Char.toLower)
  media == "application/json".toList
    || ("application/".toList.isPrefixOf media && "+json".toList.isSuffixOf media)

end Request

end FieldCalc.Web
