import ElvishMail.Keyserver.Hits
import ElvishMail.Openpgp.LocalPartHash

/-!
# Where keys are looked for

The sources of `internal/keyserver`: the web key directory of a domain, servers for OpenPGP
keys and the API of Proton. What a request comes back with is a parameter. A source says
that there is no key or that something failed.
-/

namespace ElvishMail.Keyserver

open Go Openpgp

structure URL where
  scheme : GoString
  host : GoString
  path : GoString
  rawQuery : GoString
deriving DecidableEq

/-- The reply of a server; `complete` says whether its body was read to the end. -/
structure Response where
  status : Nat
  body : GoString
  complete : Bool := true

/-- What comes of a request: its URL is not taken, there is no reply, or there is one. -/
inductive Attempt where
  | invalid
  | failed
  | answered (response : Response)

/-- `protonResponse`, with the texts of the keys. -/
structure ProtonResponse where
  keys : List GoString
  address : Option (List GoString)
  addresses : List (List GoString)

/-- The libraries: of OpenPGP and SHA-1, of addresses and URLs, and of JSON. -/
structure Tools where
  pgp : OpenPGP
  lib : Library
  digest : Digest
  isIP : GoString → Bool
  encode : List (GoString × GoString) → GoString
  text : URL → GoString
  proton : GoString → Option ProtonResponse

/-- `ErrNotFound`, or another error. -/
inductive Miss where
  | notFound
  | failed
deriving DecidableEq

structure HKPSource where
  baseURL : GoString
  label : GoString

/-- A source of the chain. Others of its interface find what they find. -/
inductive Source where
  | wkd (useDirect : Bool)
  | hkp (source : HKPSource)
  | proton (baseURL : GoString) (hkpFallback : Option HKPSource)
  | other (lookup : GoString → Except Miss KeyHit)

section Addresses

variable (lib : Library)

def splitEmail (email : GoString) : GoString × GoString :=
  let email := toLower lib (trimSpace email)
  match lastIndexByte email 0x40 with
  | none => ([], [])
  | some place =>
    if place = 0 ∨ place + 1 = email.length then ([], [])
    else (email.take place, email.drop (place + 1))

def isProtonDomain (domain : GoString) : Bool :=
  [ascii "proton.me", ascii "protonmail.com", ascii "protonmail.ch", ascii "pm.me"].contains
    (toLower lib (trimSpace domain))

end Addresses

/-- `strings.TrimRight(text, "/")`. -/
def trimRightSlash (text : GoString) : GoString := text.rdropWhile (· == 0x2F)

section Lookups

variable (tools : Tools) (now : Int) (fetch : GoString → Attempt) (email : GoString)

def wkdDomainOK (domain : GoString) : Bool :=
  let d := trimSpace (toLower tools.lib domain)
  !(d.isEmpty || tools.isIP d || d.contains 0x3A || d.any (fun byte => byte == 0x2F || byte == 0x5C)) &&
    (d.splitOnP (· == 0x2E)).all fun label => 0 < label.length && label.length ≤ 63

def newWKDAdvancedURL (domain hash localPart : GoString) : Option URL :=
  if wkdDomainOK tools domain = false then none
  else
    some
      { scheme := ascii "https"
        host := ascii "openpgpkey." ++ domain
        path := ascii "/.well-known/openpgpkey/" ++ domain ++ ascii "/hu/" ++ hash
        rawQuery := tools.encode [(ascii "l", localPart)] }

def newWKDDirectURL (domain hash localPart : GoString) : Option URL :=
  if wkdDomainOK tools domain = false then none
  else
    some
      { scheme := ascii "https"
        host := domain
        path := ascii "/.well-known/openpgpkey/hu/" ++ hash
        rawQuery := tools.encode [(ascii "l", localPart)] }

/-- The URLs that are tried in the web key directory, with the names of their methods. -/
def wkdCandidates (useDirect : Bool) : List (URL × GoString) :=
  let (localPart, domain) := splitEmail tools.lib email
  if localPart = [] ∨ domain = [] ∨ wkdDomainOK tools domain = false then []
  else
    let hash := wkdLocalPartHash tools.lib tools.digest localPart
    let candidates :=
      ((newWKDAdvancedURL tools domain hash localPart).map (·, ascii "wkd_advanced")).toList ++
        ((newWKDDirectURL tools domain hash localPart).map (·, ascii "wkd_direct")).toList
    if useDirect then candidates.drop (candidates.length - 1) else candidates

def wkdTry (candidate : URL × GoString) : Option KeyHit :=
  match fetch (tools.text candidate.1) with
  | .answered response =>
    if response.status ≠ 200 ∨ response.body = [] then none
    else accepted tools.pgp tools.lib now .body email candidate.2 response.body
  | .invalid | .failed => none

/-- `WKDSource.Lookup`. -/
def wkdLookup (useDirect : Bool) : Except Miss KeyHit :=
  match (wkdCandidates tools email useDirect).findSome? (wkdTry tools now fetch email) with
  | some hit => .ok hit
  | none => .error .notFound

def HKPSource.url (source : HKPSource) : GoString :=
  trimRightSlash source.baseURL ++ ascii "/pks/lookup?" ++
    tools.encode [(ascii "op", ascii "get"), (ascii "options", ascii "mr"),
      (ascii "search", toLower tools.lib (trimSpace email))]

def HKPSource.lookup (source : HKPSource) : Except Miss KeyHit :=
  if source.baseURL = [] then .error .notFound
  else
    match fetch (source.url tools email) with
    | .invalid | .failed => .error .failed
    | .answered response =>
      if response.status ≠ 200 ∨ response.complete = false then .error .failed
      else
        match accepted tools.pgp tools.lib now .body email source.label response.body with
        | some hit => .ok hit
        | none => .error .failed

def parseProtonResponse (body : GoString) : Option KeyHit :=
  (tools.proton body).bind fun response =>
    (response.keys ++ response.address.getD [] ++ response.addresses.flatten).findSome? fun key =>
      if trimSpace key = [] then none
      else (accepted tools.pgp tools.lib now .proton email (ascii "proton") key).map fun hit =>
        { hit with addressKeysVerified := true, protonKTState := ascii "unverified" }

def protonURL (baseURL : GoString) : GoString :=
  trimRightSlash (if baseURL = [] then ascii "https://api.protonmail.ch" else baseURL) ++
    ascii "/keys?" ++ tools.encode [(ascii "Email", toLower tools.lib (trimSpace email))]

/-- `ProtonSource.Lookup`. -/
def protonLookup (baseURL : GoString) (hkpFallback : Option HKPSource) : Except Miss KeyHit :=
  let direct : Option KeyHit := match fetch (protonURL tools email baseURL) with
    | .answered response =>
      if response.status = 200 then parseProtonResponse tools now email response.body else none
    | .invalid | .failed => none
  match fetch (protonURL tools email baseURL), direct with
  | .invalid, _ => .error .failed
  | _, some hit => .ok hit
  | _, none =>
    match hkpFallback.map (HKPSource.lookup tools now fetch email) with
    | some (.ok hit) => .ok { hit with source := ascii "proton", protonKTState := ascii "fallback_hkp" }
    | some (.error _) | none => .error .notFound

def Source.lookup : Source → Except Miss KeyHit
  | .wkd useDirect => wkdLookup tools now fetch email useDirect
  | .hkp source => source.lookup tools now fetch email
  | .proton baseURL hkpFallback => protonLookup tools now fetch email baseURL hkpFallback
  | .other lookup => lookup email

/-- The requests that a source makes until it has a key, all of them if it finds none. -/
def Source.requests : Source → List GoString
  | .wkd useDirect => (wkdCandidates tools email useDirect).map fun candidate => tools.text candidate.1
  | .hkp source => if source.baseURL = [] then [] else [source.url tools email]
  | .proton baseURL hkpFallback =>
    protonURL tools email baseURL :: (hkpFallback.filter (·.baseURL != [])).toList.map (·.url tools email)
  | .other _ => []

end Lookups

end ElvishMail.Keyserver
