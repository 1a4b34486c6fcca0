import ElvishMail.Go.Integers

/-!
# The password handshake

`internal/pake/srp.go`: registration, the client that the server code ships for
tests and tools, and the server session. SHA-256 is any function to 32 bytes, and
random exponents are arguments. Both sides compute one key from what they send
each other, by different powers.
-/

namespace ElvishMail.Pake

open Go

structure Hash where
  sum : GoString → GoString
  length_sum : ∀ message, (sum message).length = 32

/-- `trimLeadingZeroes`: what remains of zeroes alone is one of them. -/
def trimLeadingZeroes (bytes : GoString) : GoString :=
  let rest := bytes.dropWhile (· == 0)
  if rest = [] then [0] else rest

def padBytes (bytes : GoString) (size : Nat) : GoString :=
  if size ≤ bytes.length then bytes else List.replicate (size - bytes.length) 0 ++ bytes

def padBig (value size : Nat) : GoString := padBytes (trimLeadingZeroes (bigBytes value)) size

@[simp] theorem setBytes_padBig (value size : Nat) : setBytes (padBig value size) = value := by
  have trimmed (bytes : GoString) : setBytes (trimLeadingZeroes bytes) = setBytes bytes := by
    unfold trimLeadingZeroes
    dsimp only
    split
    next empty =>
      have same : setBytes (bytes.dropWhile (· == 0)) = setBytes bytes := setBytes_dropZeroes
      rw [← same, empty]
      rfl
    next => exact setBytes_dropZeroes
  rw [padBig, padBytes]
  split
  · rw [trimmed, setBytes_bigBytes]
  · rw [setBytes_zeroes, trimmed, setBytes_bigBytes]

/-- `Group`: a modulus, a base, and the size of encoded numbers. -/
structure Group where
  name : GoString
  N : Nat
  G : Nat
  padLen : Nat
  one_lt : 1 < N
deriving DecidableEq

def mustGroup (name : GoString) (N G : Nat) (one_lt : 1 < N) : Group where
  name
  N
  G
  padLen := (bigBytes N).length
  one_lt

def groupRFC50542048 : Group := mustGroup (ascii "rfc5054-2048")
  0xAC6BDB41324A9A9BF166DE5E1389582FAF72B6651987EE07FC3192943DB56050A37329CBB4A099ED8193E0757767A13DD52312AB4B03310DCD7F48A9DA04FD50E8083969EDB767B0CF6096BEECFB71744F9A5B7CDBD7B3E8C94BBE117577A615D6C770988C0BAD946E208E24FA074E5AB3143DB5BFCE0FD108E4B82D120A93AD2CAFFFFFFFFFFFFFFFF
  2 (by decide)

def defaultGroup : Group := groupRFC50542048

/-- An exponent as `randomScalar` draws it: from one to `N - 2`. -/
structure Scalar (group : Group) where
  value : Nat
  positive : 0 < value
  le : value ≤ group.N - 2

section Digests

variable (hash : Hash) (group : Group)

def digest (parts : List GoString) : GoString := hash.sum parts.flatten

def multiplier : Nat :=
  setBytes (digest hash [padBig group.N group.padLen, padBig group.G group.padLen])

def scramble (A B : Nat) : Nat :=
  setBytes (digest hash [padBig A group.padLen, padBig B group.padLen])

def computeX (username password salt : GoString) : Nat :=
  let inner := digest hash [username ++ ascii ":" ++ password]
  setBytes (digest hash [salt, inner])

def clientProofBytes (username salt : GoString) (A B : Nat) (key : GoString) : GoString :=
  let hN := digest hash [padBig group.N group.padLen]
  let hG := digest hash [padBig group.G group.padLen]
  let xor := List.zipWith (· ^^^ ·) hN hG
  digest hash [xor, digest hash [username], salt, padBig A group.padLen, padBig B group.padLen, key]

def serverProofBytes (A : Nat) (clientProof key : GoString) : GoString :=
  digest hash [trimLeadingZeroes (bigBytes A), clientProof, key]

end Digests

def errInvalidPublic : GoString := ascii "pake/srp: invalid public value"

def errMissingCredentials : GoString := ascii "pake/srp: username/password required"

def errZeroScramble : GoString := ascii "pake/srp: zero scramble"

structure Registration where
  salt : GoString
  verifier : GoString
  groupName : GoString
  hashName : GoString
deriving DecidableEq

def computeRegistration (hash : Hash) (username password salt : GoString) :
    Except GoString Registration :=
  if salt.length < 16 then .error (ascii "pake/srp: salt must be at least 16 bytes")
  else
    let group := defaultGroup
    let x := computeX hash username password salt
    let v := bigExp group.G x group.N
    .ok
      { salt
        verifier := padBig v group.padLen
        groupName := group.name
        hashName := ascii "sha256" }

structure ClientSession where
  group : Group
  username : GoString
  password : GoString
  a : Nat
  A : Nat
deriving DecidableEq

def openClient (username password : GoString) (a : Nat) : Except GoString ClientSession :=
  let group := defaultGroup
  let A := bigExp group.G a group.N
  if A % group.N = 0 then .error errInvalidPublic else .ok { group, username, password, a, A }

/-- `NewClientSession`, with the exponent that it draws. -/
def newClientSession (username password : GoString) (a : Scalar defaultGroup) :
    Except GoString ClientSession :=
  if username = [] ∨ password = [] then .error errMissingCredentials
  else openClient username password a.value

/-- `NewClientSessionWithPrivateExponent`; `none` is a nil exponent. -/
def newClientSessionWithPrivateExponent (username password : GoString) (a : Option Int) :
    Except GoString ClientSession :=
  if username = [] ∨ password = [] then .error errMissingCredentials
  else match a with
    | none => .error (ascii "pake/srp: invalid exponent")
    | some a =>
      if a ≤ 0 then .error (ascii "pake/srp: invalid exponent")
      else if a > defaultGroup.N - 2 then
        .error (ascii "pake/srp: exponent out of range")
      else openClient username password a.toNat

section Opened

variable {username password : GoString} {client : ClientSession}

theorem openClient_ok {a : Nat}
    (opened : openClient username password a = .ok client) :
    client = ⟨defaultGroup, username, password, a, bigExp defaultGroup.G a defaultGroup.N⟩ := by
  unfold openClient at opened
  dsimp only at opened
  split at opened
  · cases opened
  · exact (Except.ok.inj opened).symm

theorem privateExponent_ok {a : Option Int}
    (opened : newClientSessionWithPrivateExponent username password a = .ok client) :
    ∃ exponent, a = some exponent ∧ openClient username password exponent.toNat = .ok client := by
  unfold newClientSessionWithPrivateExponent at opened
  split at opened
  · cases opened
  · cases a with
    | none => cases opened
    | some exponent =>
      dsimp only at opened
      split at opened
      · cases opened
      · split at opened
        · cases opened
        · exact ⟨exponent, rfl, opened⟩

end Opened

namespace ClientSession

variable (hash : Hash) (client : ClientSession)

def clientPublic : GoString := padBig client.A client.group.padLen

/-- The key of the client: `(B - k g^x) ^ (a + u x)`. -/
def sharedKey (salt : GoString) (B : Nat) : GoString :=
  let k := multiplier hash client.group
  let u := scramble hash client.group client.A B
  let x := computeX hash client.username client.password salt
  let gx := bigExp client.group.G x client.group.N
  let base := ((B : Int) - k * gx) % client.group.N
  let S := bigExp base.toNat (client.a + u * x) client.group.N
  digest hash [padBig S client.group.padLen]

/-- `ProcessChallenge`: the client's proof and the server's that it expects. -/
def processChallenge (salt serverPublic : GoString) : Except GoString (GoString × GoString) :=
  let B := setBytes serverPublic
  if B = 0 ∨ B % client.group.N = 0 then .error errInvalidPublic
  else if scramble hash client.group client.A B = 0 then .error errZeroScramble
  else
    let K := client.sharedKey hash salt B
    let m1 := clientProofBytes hash client.group client.username salt client.A B K
    .ok (m1, serverProofBytes hash client.A m1 K)

end ClientSession

structure ServerSession where
  group : Group
  username : GoString
  salt : GoString
  verifier : Nat
  A : Nat
  B : Nat
  expectedClientM1 : GoString
  serverM2 : GoString
deriving DecidableEq

section Server

variable (hash : Hash)

def serverPublicOf (group : Group) (v b : Nat) : Nat :=
  (multiplier hash group * v + bigExp group.G b group.N) % group.N

/-- The key of the server: `(A v^u) ^ b`. -/
def serverKey (group : Group) (A B v b : Nat) : GoString :=
  let u := scramble hash group A B
  let vu := bigExp v u group.N
  let S := bigExp (A * vu) b group.N % group.N
  digest hash [padBig S group.padLen]

/-- `NewServerSession`, with the exponent that it draws. -/
def newServerSession (b : Scalar defaultGroup) (username salt verifier clientPublic : GoString) :
    Except GoString ServerSession :=
  let group := defaultGroup
  let A := setBytes clientPublic
  if A = 0 ∨ A % group.N = 0 then .error errInvalidPublic
  else
    let v := setBytes verifier
    let B := serverPublicOf hash group v b.value
    if scramble hash group A B = 0 then .error errZeroScramble
    else
      let K := serverKey hash group A B v b.value
      let m1 := clientProofBytes hash group username salt A B K
      .ok
        { group
          username
          salt
          verifier := v
          A
          B
          expectedClientM1 := m1
          serverM2 := serverProofBytes hash A m1 K }

end Server

namespace ServerSession

variable (server : ServerSession)

def serverPublic : GoString := padBig server.B server.group.padLen

def verifyClientProof (clientProof : GoString) : Bool := clientProof == server.expectedClientM1

def serverProof : GoString := server.serverM2

end ServerSession

end ElvishMail.Pake
