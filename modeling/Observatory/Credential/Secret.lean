import Observatory.Credential.Basic
import Observatory.Document.Reader
import Observatory.Document.Record
import Observatory.Sorted

/-! # Credentials in pull secrets

A pull secret holds a document in one of two layouts: with all registries under one field, or with the
registries at the top. The first layout is preferred where both are present, even if it cannot be
read. A document that cannot be read gives no credentials at all.
-/

namespace Observatory.Credential

/-- The data of a secret, by key. -/
abbrev SecretData := List (String × List UInt8)

/-- One registry's entry. The token is dropped where a user name and a password are known. -/
def ofEntry (registry username password auth : String) : Credential where
  registry := registry
  username := username
  password := password
  auth := if username ≠ "" ∧ password ≠ "" then "" else auth

def login? (document : Document) : Option (String × String × String) := do
  let fields ← document.fields? ["username", "password", "auth"]
  let username ← Document.defaulted? fields "username" "" Document.text?
  let password ← Document.defaulted? fields "password" "" Document.text?
  let auth ← Document.defaulted? fields "auth" "" Document.text?
  return (username, password, auth)

/-- The credentials of a map of registries, one for each, in order. -/
def ofLogins (logins : List (String × String × String × String)) : List Credential :=
  (Sorted.ofList (logins.map (·.1))).filterMap fun registry =>
    (logins.reverse.lookup registry).map fun (username, password, auth) =>
      ofEntry registry username password auth

/-- A map of registries. -/
def ofRegistries? (document : Document) : Option (List Credential) :=
  (document.entries? login?).map ofLogins

/-- A document with the map of registries in a field. -/
def ofConfig? (document : Document) : Option (List Credential) := do
  let fields ← document.fields? ["auths"]
  Document.defaulted? fields "auths" [] ofRegistries?

/-- The credentials of a secret. -/
def ofSecret (data : SecretData) : List Credential :=
  match data.lookup ".dockerconfigjson" with
  | some bytes => ((Document.read? bytes).bind ofConfig?).getD []
  | none =>
      match data.lookup ".dockercfg" with
      | some bytes => ((Document.read? bytes).bind ofRegistries?).getD []
      | none => []

end Observatory.Credential
