import LoginService.Json.Printer
import LoginService.Text.Ascii
import LoginService.Text.Utf8

/-!
# Documentation of the interface

The service describes itself: a machine-readable description, and pages that show it. A page is
named by the end of its address, with percent signs resolved; without a name it is the front page.
-/

namespace LoginService.Docs

open Json

/-! ## The description -/

/-- A member whose value is a string. -/
def textMember (key value : String) : String × List Char := (key, printString value)

/-- A schema that is only a type. -/
def typeSchema (type : String) : List Char := printObject [textMember "type" type]

/-- A schema that is described elsewhere. -/
def schemaNamed (name : String) : List Char :=
  printObject [textMember "$ref" ("#/components/schemas/" ++ name)]

/-- A body of one media type. -/
def content (mediaType : String) (schema : List Char) : String × List Char :=
  ("content", printObject [(mediaType, printObject [("schema", schema)])])

/-- An answer that the description lists. -/
def answer (description : String) (body : List (String × List Char)) : List Char :=
  printObject (textMember "description" description :: body)

/-- The answers to a login. -/
def loginAnswers : List Char :=
  printObject [
    ("200", answer "Account found, or credential mismatch when the body is an error object"
      [content "application/json" (schemaNamed "LoginResponse")]),
    ("400", answer "Malformed request body" []),
    ("401", answer "Credential mismatch (only with auth.reject_with_unauthorized)"
      [content "application/json" (schemaNamed "LoginErrorResponse")]),
    ("500", answer "Database error" [])]

/-- How the login is described. -/
def loginDescription : String :=
  "The body is read as JSON whatever the `Content-Type`; a `null` body and\n" ++
    "differently-cased keys are accepted (see [`LoginRequest::from_json`]). A credential\n" ++
    "mismatch answers `200` with `\x7b\"error\": ...\x7d` unless\n" ++
    "`auth.reject_with_unauthorized` is set, in which case it answers `401`\n" ++
    "with the same body."

/-- The login. -/
def loginOperation : List Char :=
  printObject [
    ("tags", printList [printString "auth"]),
    textMember "summary" "Check a login name and plaintext password against the account table.",
    textMember "description" loginDescription,
    textMember "operationId" "login_handler",
    ("requestBody", printObject [content "application/json" (schemaNamed "LoginRequest"),
      ("required", printBool true)]),
    ("responses", loginAnswers)]

/-- The liveness probe. -/
def healthOperation : List Char :=
  printObject [
    ("tags", printList [printString "health"]),
    textMember "summary" "Liveness probe. Does not touch the database.",
    textMember "operationId" "healthcheck",
    ("responses", printObject [
      ("200", answer "Service is up" [content "text/plain" (typeSchema "string")])])]

/-- The shape of an object. -/
def objectSchema (required : List String) (description : Option String)
    (properties : List (String × List Char)) : List Char :=
  printObject (
    [textMember "type" "object"] ++
    (if required.isEmpty then [] else [("required", printList (required.map printString))]) ++
    (description.toList.map (textMember "description")) ++
    [("properties", printObject properties)])

/-- The shapes of the bodies. -/
def schemas : List Char :=
  printObject [
    ("LoginErrorResponse", objectSchema ["error"] none [("error", typeSchema "string")]),
    ("LoginRequest", objectSchema []
      (some ("Body of `POST /v1/login`.\n\n" ++
        "Unknown fields are ignored; a missing field decodes as `\"\"`."))
      [("loginname", typeSchema "string"), ("password", typeSchema "string")]),
    ("LoginResponse", objectSchema ["id", "department", "purview", "logname"] none
      [("department", typeSchema "string"),
       ("id", printObject [textMember "type" "integer", textMember "format" "int64"]),
       ("logname", typeSchema "string"),
       ("purview", typeSchema "string")])]

/-- A group of operations. -/
def tag (name description : String) : List Char :=
  printObject [textMember "name" name, textMember "description" description]

/-- The description of the interface. -/
def description : List Char :=
  printObject [
    textMember "openapi" "3.0.3",
    ("info", printObject [
      textMember "title" "dept-login-server",
      textMember "description" "",
      ("license", printObject [textMember "name" ""]),
      textMember "version" "1.0.0"]),
    ("paths", printObject [
      ("/healthcheck", printObject [("get", healthOperation)]),
      ("/v1/login", printObject [("post", loginOperation)])]),
    ("components", printObject [("schemas", schemas)]),
    ("tags", printList [tag "auth" "Account login", tag "health" "Liveness probe"])]

/-! ## The pages -/

/-- The pages, each with its media type. -/
def pages : List (String × String) := [
  ("favicon-16x16.png", "image/png"),
  ("favicon-32x32.png", "image/png"),
  ("index.css", "text/css"),
  ("index.html", "text/html"),
  ("oauth2-redirect.html", "text/html"),
  ("swagger-initializer.js", "text/javascript"),
  ("swagger-ui-bundle.js", "text/javascript"),
  ("swagger-ui-bundle.js.map", "application/json"),
  ("swagger-ui-es-bundle-core.js", "text/javascript"),
  ("swagger-ui-es-bundle-core.js.map", "application/json"),
  ("swagger-ui-es-bundle.js", "text/javascript"),
  ("swagger-ui-es-bundle.js.map", "application/json"),
  ("swagger-ui-standalone-preset.js", "text/javascript"),
  ("swagger-ui-standalone-preset.js.map", "application/json"),
  ("swagger-ui.css", "text/css"),
  ("swagger-ui.css.map", "application/json"),
  ("swagger-ui.js", "text/javascript"),
  ("swagger-ui.js.map", "application/json")]

/-- The page that is shown first. -/
def frontPage : String := "index.html"

/-- The media type of a page. -/
def mediaType? (page : String) : Option String := pages.lookup page

/-- Bytes with every percent sign that two hexadecimal digits follow resolved. -/
def percentDecode : List UInt8 → List UInt8
  | 0x25 :: a :: b :: rest =>
    match Text.hexDigit? (Char.ofNat a.toNat), Text.hexDigit? (Char.ofNat b.toNat) with
    | some x, some y => UInt8.ofNat (16 * x + y) :: percentDecode rest
    | _, _ => 0x25 :: percentDecode (a :: b :: rest)
  | b :: rest => b :: percentDecode rest
  | [] => []

/-- The page that the end of an address names. What is not text once percent signs are resolved
names nothing, and neither does a slash. -/
def pageOf (tail : String) : String :=
  match Text.Utf8.decode? (percentDecode (Text.Utf8.bytesOf tail)) with
  | none => frontPage
  | some name => if name = "" ∨ name = "/" then frontPage else name

end LoginService.Docs
