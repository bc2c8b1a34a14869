import Lexicon.Http.Body
import Lexicon.Http.Form
import Lexicon.Http.MediaType

namespace Lexicon.Http

structure Request : Type where
  method : String
  uri : String
  contentType : Option String := none
  body : ByteArray := .empty

/-- A response without a body has no content type, except as the answer to `HEAD`. -/
structure Response : Type where
  status : Nat
  contentType : Option String
  body : Option Json

namespace Response

def json (status : Nat) (j : Json) : Response := ⟨status, some "application/json", some j⟩

def empty (status : Nat) : Response := ⟨status, none, none⟩

def failure (status : Nat) (message : String) : Response :=
  json status (.obj [("error", .bool true), ("message", .str message)])

end Response

def encode (r : Reply) : Json :=
  .obj [("input", .str r.input), ("language", .str r.language), ("tokens", .ofTokens r.tokens),
    ("rendered", .str r.rendered)]

def Response.ofAnswer : Except Failure Reply → Response
  | .ok r => .json 200 (encode r)
  | .error e => .failure e.status e.message

def respond (s : Service) (q : Inquiry) (w : Walk := .given) : Response := .ofAnswer (s.answer q w)

def target (cs : List Char) : List Char :=
  match cs.dropWhile (· ≠ ':') with
  | ':' :: '/' :: '/' :: rest =>
    if cs.head? = some '/' then cs
    else
      match rest.dropWhile fun c => c ≠ '/' && c ≠ '?' with
      | '/' :: path => '/' :: path
      | query => '/' :: query
  | _ => cs

def splitUri (uri : String) : String × String :=
  let cs := target (uri.toList.takeWhile (· ≠ '#'))
  (.ofList (cs.takeWhile (· ≠ '?')), .ofList ((cs.dropWhile (· ≠ '?')).drop 1))

def bodyLimit : Nat := 2097152

def lexQuery (s : Service) (query : String) (w : Walk := .given) : Response :=
  match Form.inquiry query with
  | .ok q => respond s q w
  | .error e => .failure 400 e.message

def lexBody (s : Service) (r : Request) (w : Walk := .given) : Response :=
  if !r.contentType.any MediaType.isJson then
    .failure 400 "Expected request with `Content-Type: application/json`"
  else if bodyLimit < r.body.size then
    .failure 400 "Failed to buffer the request body: length limit exceeded"
  else
    match Body.inquiry r.body with
    | .ok q => respond s q w
    | .error e => .failure 400 e.message

def languages (s : Service) : Response :=
  .json 200 (.obj [("languages", .strings s.registry.languages)])

/-- Answers a request. The answer to `HEAD` is that to `GET` without the body. -/
def route (s : Service) (r : Request) (w : Walk := .given) : Response :=
  let (path, query) := splitUri r.uri
  match path, r.method with
  | "/lex", "GET" => lexQuery s query w
  | "/lex", "HEAD" => { lexQuery s query w with body := none }
  | "/lex", "POST" => lexBody s r w
  | "/lex", _ => .empty 405
  | "/languages", "GET" => languages s
  | "/languages", "HEAD" => { languages s with body := none }
  | "/languages", _ => .empty 405
  | _, _ => .empty 404

end Lexicon.Http
