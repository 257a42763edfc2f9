/-
The description of the service that it gives of itself: an OpenAPI document in JSON.
-/

namespace ResultPages

/-- The document. -/
def serviceDescription : String :=
  "\x7b\"openapi\":\"3.1.0\",\"info\":\x7b\"title\":\"status-pages\"," ++
  "\"description\":\"Email confirmation and password reset status pages\"," ++
  "\"contact\":\x7b\"name\":\"Team Never Expires\"," ++
  "\"email\":\"team@neverexpires.app\"\x7d,\"license\":\x7b\"name\":\"BSD-3-Clause\"," ++
  "\"identifier\":\"BSD-3-Clause\"\x7d,\"version\":\"0.1.0\"\x7d,\"paths\":\x7b" ++
  "\"/confirmation-status\":\x7b\"get\":\x7b\"tags\":[\"pages\"]," ++
  "\"operationId\":\"confirmation_status\",\"parameters\":[\x7b\"name\":\"status\"," ++
  "\"in\":\"query\"," ++
  "\"description\":\"success, already_confirmed or failure; anything else renders failure\"," ++
  "\"required\":false,\"schema\":\x7b\"type\":\"string\"\x7d\x7d],\"responses\":\x7b" ++
  "\"200\":\x7b\"description\":\"Email confirmation result page\",\"content\":\x7b" ++
  "\"text/html\":\x7b\"schema\":\x7b\"type\":\"string\"\x7d\x7d\x7d\x7d\x7d\x7d\x7d," ++
  "\"/health\":\x7b\"get\":\x7b\"tags\":[\"health\"],\"operationId\":\"health\"," ++
  "\"responses\":\x7b\"200\":\x7b\"description\":\"Service is up\",\"content\":\x7b" ++
  "\"application/json\":\x7b\"schema\":\x7b" ++
  "\"$ref\":\"#/components/schemas/Health\"\x7d\x7d\x7d\x7d\x7d\x7d\x7d," ++
  "\"/password-reset-status\":\x7b\"get\":\x7b\"tags\":[\"pages\"]," ++
  "\"operationId\":\"password_reset_status\",\"parameters\":[\x7b\"name\":\"status\"," ++
  "\"in\":\"query\"," ++
  "\"description\":\"success or failure; anything else renders failure\"," ++
  "\"required\":false,\"schema\":\x7b\"type\":\"string\"\x7d\x7d],\"responses\":\x7b" ++
  "\"200\":\x7b\"description\":\"Password reset result page\",\"content\":\x7b" ++
  "\"text/html\":\x7b\"schema\":\x7b\"type\":\"string\"\x7d\x7d\x7d\x7d\x7d\x7d\x7d\x7d," ++
  "\"components\":\x7b\"schemas\":\x7b\"Health\":\x7b\"type\":\"object\"," ++
  "\"description\":\"Build identity reported by \x60/health\x60.\"," ++
  "\"required\":[\"name\",\"version\",\"commit\"],\"properties\":\x7b\"commit\":\x7b" ++
  "\"type\":\"string\"\x7d,\"name\":\x7b\"type\":\"string\"\x7d,\"version\":\x7b" ++
  "\"type\":\"string\"\x7d\x7d\x7d\x7d\x7d,\"tags\":[\x7b\"name\":\"pages\"," ++
  "\"description\":\"Email confirmation and password reset result pages\"\x7d,\x7b" ++
  "\"name\":\"health\",\"description\":\"Service health\"\x7d]\x7d"

end ResultPages
