import Catalog.Text.Digits
import Catalog.Text.Utf8
import Catalog.Url.Basic

/-!
# Requests and responses

What is asked of the web and what comes back. All requests read; redirects are followed before a
response counts as one. A request tells who asks by the credentials that its URL names, which are
sent as a header and not as a part of the URL, and by a token.

## Main definitions

* `Web.Failure` — why a request got no usable answer.
* `Web.Request` — a request to read a URL.
* `Web.Request.authorization` — what a request tells about who asks.
* `Web.Request.target` — the URL that is contacted in the end.
* `Web.Body` — the body of a response, as bytes and as text.
* `Web.Response` — a response.
* `Web.Reply` — a response or the reason why there is none.
-/

namespace Catalog.Web

/-! ### Failures -/

/-- Why a request got no usable answer. -/
inductive Failure where
  /-- The request could not be made, for instance because its URL is none. -/
  | unusable (url : Option String)
  /-- No answer came. -/
  | unanswered (url : String)
  /-- An answer led on too often. -/
  | redirected (url : String)
  /-- The body of the answer broke off or was not what was asked for. -/
  | body
deriving DecidableEq, Repr, Inhabited

/-- The wording of a failure. -/
def Failure.message : Failure → String
  | unusable none => "builder error"
  | unusable (some url) => "builder error for url (" ++ url ++ ")"
  | unanswered url => "error sending request for url (" ++ url ++ ")"
  | redirected url => "error following redirect for url (" ++ url ++ ")"
  | body => "error decoding response body"

/-! ### Headers -/

/-- Whether a text can be the value of a header: it has no byte of a control but the tab. -/
def isHeaderValue (text : String) : Bool :=
  text.toUTF8.data.toList.all fun b => b == 0x9 || (0x20 ≤ b && b != 0x7f)

/-- The value of a header that tells credentials. -/
def basic (c : Url.Credentials) : String :=
  "Basic " ++ String.ofList (Text.base64 (Text.utf8 (c.user ++ ':' :: c.password.getD [])))

/-- The value of a header that tells a token. -/
def bearer (token : String) : String := "Bearer " ++ token

/-! ### Requests -/

/-- A request to read a URL. -/
structure Request where
  url : String
  /-- What is added to the query of the URL. -/
  parameters : List (String × String)
  /-- The media types that are asked for. -/
  accept : Option String
  /-- The bearer token that goes with the request. -/
  token : Option String
deriving DecidableEq, Repr, Inhabited

namespace Request

/-- A request without anything special. -/
def plain (url : String) : Request := ⟨url, [], none, none⟩

/-- The credentials that the URL of a request names. -/
def credentials? (r : Request) : Option Url.Credentials :=
  (Url.parse r.url).toOption.bind Url.credentials?

/-- What a request tells about who asks, in the order in which it is sent: the credentials that its
URL names, and the token. -/
def authorization (r : Request) : List String :=
  (r.credentials?.map basic).toList ++ (r.token.map bearer).toList

/-- Whether the headers that are given for a request can be sent. Credentials always can, being in
base 64. -/
def hasHeaders (r : Request) : Bool :=
  (r.accept.toList ++ (r.token.map bearer).toList).all isHeaderValue

/-- How long the text of a URL may be to be sent. -/
def maxLength : Nat := 65534

/-- Whether a URL can be sent: some characters may stand in a host, but not in a request for it. -/
def isSendable (u : Url) : Bool :=
  !u.hostText.toList.any ['"', '\x60', '\x7b', '\x7d'].contains && u.text.utf8ByteSize ≤ maxLength

/-- The URL that is contacted in the end, without the credentials, which are sent as a header. -/
def target (r : Request) : Except Failure Url :=
  match Url.parse r.url with
  | .error _ => .error (.unusable none)
  | .ok u =>
    if u.hostText.isEmpty then .error (.unusable (some u.text))
    else if !r.hasHeaders then .error (.unusable none)
    else
      let u := (if r.parameters.isEmpty then u else u.addParameters r.parameters).withoutCredentials
      if (u.scheme = "http" || u.scheme = "https") && isSendable u then .ok u
      else .error (.unusable (some u.text))

/-- The failure of a request that nobody answers. -/
def unanswered (r : Request) : Failure :=
  match r.target with
  | .ok u => .unanswered u.text
  | .error failure => failure

end Request

/-! ### Responses -/

/-- The body of a response. -/
structure Body where
  bytes : List UInt8
  /-- What the bytes spell in the character set that the response names. -/
  text : String
deriving DecidableEq, Repr, Inhabited

/-- A body in UTF-8. Bytes that are no UTF-8 are replaced, and a mark at the front is dropped. -/
def Body.ofBytes (bytes : List UInt8) : Body where
  bytes
  text :=
    match Text.decodeLossy bytes with
    | '\ufeff' :: cs => String.ofList cs
    | cs => String.ofList cs

/-- A response. -/
structure Response where
  status : Nat
  /-- The media type of the body. -/
  contentType : Option String
  /-- What the server asks for when it wants to know who is there. -/
  challenge : Option String
  /-- The body, unless it broke off. -/
  body : Option Body
deriving DecidableEq, Repr, Inhabited

namespace Response

/-- Whether the request succeeded. -/
def isSuccess (r : Response) : Bool := 200 ≤ r.status && r.status < 300

/-- The status of a server that wants to know who is there. -/
def unauthorized : Nat := 401

/-- The status of a server that has nothing there. -/
def notFound : Nat := 404

/-- The status of a server that is asked too often. -/
def tooManyRequests : Nat := 429

end Response

/-- A response, or the reason why there is none. -/
abbrev Reply := Except Failure Response

end Catalog.Web
