/-
# Keys of a handshake

A client proves that its request was not made by accident with a key, sixteen random bytes; the
server proves that it understood the request with an answer that depends on the key.  Both sides
look at the first value of a header only, and take a value that is no text for an empty one.
-/
import UrlTransfer.Codec.Base64
import UrlTransfer.Codec.Sha1
import UrlTransfer.Http.Headers
import UrlTransfer.Text.Blank

namespace UrlTransfer

namespace WebSocket

/-- What a server appends to the key that it answers. -/
def answerSalt : String := "258EAFA5-E914-47DA-95CA-C5AB0DC85B11"

/-- The version of the protocol, as headers name it. -/
def protocolVersion : String := "13"

/-- How many bytes a key has. -/
def keyLength : Nat := 16

/-- The key with these bytes, as headers have it. -/
def keyText (bytes : Bytes) : String := String.ofList (Base64.encode bytes)

/-- Is the text a key?  Blanks around it do not count. -/
def isKey (key : String) : Bool :=
  (Base64.decode? (Text.trim key.toList)).any (·.length == keyLength)

/-- The answer to a key. -/
def answer (key : String) : String :=
  String.ofList (Base64.encode (Sha1.hash (Bytes.ofString (Text.trimmed key ++ answerSalt))))

/-- The first value of a header; it is empty if it is missing or no text. -/
def valueOf (name : Http.HeaderName) (headers : Http.Headers) : String :=
  ((headers.get? name).bind Http.HeaderValue.text?).getD ""

/-- Is the text this word, up to the case of ASCII letters and blanks around it? -/
def isWord (word text : String) : Bool :=
  Bytes.equalsIgnoringCase (Bytes.ofString (Text.trimmed text)) (Bytes.ofString word)

end WebSocket

end UrlTransfer
