import ElvishMail.Pake.Srp

/-!
# Both sides agree

The client raises `B - k g^x` to `a + u x`, the server raises `A v^u` to `b`. Once
the numbers that were sent are read back as they were, both are
`g ^ (b (a + u x))` modulo `N`, so the keys and the proofs made from them agree.
-/

namespace ElvishMail.Pake

open Go

section Powers

variable {g a b u x N k : Nat}

theorem base_eq (k v power N : Nat) :
    ((((k * v + power) % N : Nat) : Int) - k * v) % N = (power % N : Nat) := by
  push_cast
  rw [Int.emod_sub_emod, add_sub_cancel_left]

theorem shared_power :
    (g ^ a % N * ((g ^ x % N) ^ u % N)) ^ b % N % N = (g ^ b % N) ^ (a + u * x) % N := by
  have client : (g ^ b % N) ^ (a + u * x) ≡ (g ^ b) ^ (a + u * x) [MOD N] :=
    (Nat.mod_modEq _ _).pow _
  have verifier : (g ^ x % N) ^ u % N ≡ (g ^ x) ^ u [MOD N] :=
    (Nat.mod_modEq _ _).trans ((Nat.mod_modEq _ _).pow _)
  have server : (g ^ a % N * ((g ^ x % N) ^ u % N)) ^ b ≡ (g ^ a * (g ^ x) ^ u) ^ b [MOD N] :=
    ((Nat.mod_modEq _ _).mul verifier).pow _
  have exponents : (g ^ a * (g ^ x) ^ u) ^ b = (g ^ b) ^ (a + u * x) := by
    rw [← pow_mul, ← pow_add, ← pow_mul, ← pow_mul]
    ring
  rw [Nat.mod_mod, server, exponents]
  exact client.symm

end Powers

variable {hash : Hash} {username password salt : GoString}

theorem sharedKey_eq_serverKey (a b : Nat) :
    let group := defaultGroup
    let v := bigExp group.G (computeX hash username password salt) group.N
    let A := bigExp group.G a group.N
    let B := serverPublicOf hash group v b
    (ClientSession.mk group username password a A).sharedKey hash salt B =
      serverKey hash group A B v b := by
  intro group v A B
  have base : ((B : Int) - multiplier hash group * v) % group.N = bigExp group.G b group.N := by
    have reduced := base_eq (multiplier hash group) v (bigExp group.G b group.N) group.N
    rw [bigExp, Nat.mod_mod] at reduced
    exact reduced
  have power : bigExp (bigExp group.G b group.N) (a + scramble hash group A B *
        computeX hash username password salt) group.N =
      bigExp (A * bigExp v (scramble hash group A B) group.N) b group.N % group.N :=
    shared_power.symm
  have client : (ClientSession.mk group username password a A).sharedKey hash salt B =
      digest hash [padBig (bigExp (((B : Int) - multiplier hash group * v) % group.N).toNat
        (a + scramble hash group A B * computeX hash username password salt) group.N)
        group.padLen] := rfl
  rw [client, base, Int.toNat_natCast, power]
  rfl

theorem client_opened {client : ClientSession} {a : Option Int} {drawn : Scalar defaultGroup}
    (opened : newClientSessionWithPrivateExponent username password a = .ok client ∨
      newClientSession username password drawn = .ok client) :
    ∃ exponent, openClient username password exponent = .ok client := by
  rcases opened with given | random
  · obtain ⟨exponent, -, given⟩ := privateExponent_ok given
    exact ⟨_, given⟩
  · unfold newClientSession at random
    split at random
    · cases random
    · exact ⟨_, random⟩

/-- Whatever the exponents are, a client and a server that both go through accept each
other's proof. -/
theorem proofs_agree (hash : Hash) (username password salt : GoString) (a : Option Int)
    (drawn b : Scalar defaultGroup) (registration : Registration) (client : ClientSession)
    (server : ServerSession) (clientProof expectedServerProof : GoString)
    (registered : computeRegistration hash username password salt = .ok registration)
    (opened : newClientSessionWithPrivateExponent username password a = .ok client ∨
      newClientSession username password drawn = .ok client)
    (answered : newServerSession hash b username registration.salt registration.verifier
      client.clientPublic = .ok server)
    (processed : client.processChallenge hash registration.salt server.serverPublic =
      .ok (clientProof, expectedServerProof)) :
    server.verifyClientProof clientProof = true ∧ server.serverProof = expectedServerProof := by
  obtain ⟨exponent, opened⟩ := client_opened opened
  obtain rfl := openClient_ok opened
  unfold computeRegistration at registered
  split at registered
  · cases registered
  cases registered
  unfold newServerSession ClientSession.clientPublic at answered
  dsimp only at answered
  rw [setBytes_padBig, setBytes_padBig] at answered
  split at answered
  · cases answered
  split at answered
  · cases answered
  cases answered
  unfold ClientSession.processChallenge ServerSession.serverPublic at processed
  dsimp only at processed
  rw [setBytes_padBig, sharedKey_eq_serverKey] at processed
  split at processed
  · cases processed
  cases processed
  exact ⟨beq_self_eq_true _, rfl⟩

def unitHash : Hash where
  sum := fun _ => List.replicate 31 0 ++ [1]
  length_sum := fun _ => rfl

def unitScalar : Scalar defaultGroup := ⟨1, by decide, by decide⟩

def unitRegistration : Registration where
  salt := List.replicate 16 7
  verifier := padBig 2 defaultGroup.padLen
  groupName := ascii "rfc5054-2048"
  hashName := ascii "sha256"

def unitClient : ClientSession := ⟨defaultGroup, ascii "alice", ascii "secret", 1, 2⟩

def unitServer : ServerSession where
  group := defaultGroup
  username := ascii "alice"
  salt := List.replicate 16 7
  verifier := 2
  A := 2
  B := 4
  expectedClientM1 := unitHash.sum []
  serverM2 := unitHash.sum []

/-- A handshake in which both sides go through. -/
theorem proofs_agree_unit :
    unitServer.verifyClientProof (unitHash.sum []) = true ∧
      unitServer.serverProof = unitHash.sum [] := by
  have registered : computeRegistration unitHash (ascii "alice") (ascii "secret")
      (List.replicate 16 7) = .ok unitRegistration := by decide +kernel
  have opened : newClientSessionWithPrivateExponent (ascii "alice") (ascii "secret") (some 1) =
      .ok unitClient := by decide +kernel
  have answered : newServerSession unitHash unitScalar (ascii "alice") unitRegistration.salt
      unitRegistration.verifier unitClient.clientPublic = .ok unitServer := by decide +kernel
  have processed : unitClient.processChallenge unitHash unitRegistration.salt
      unitServer.serverPublic = .ok (unitHash.sum [], unitHash.sum []) := by decide +kernel
  exact proofs_agree unitHash (ascii "alice") (ascii "secret") (List.replicate 16 7) (some 1)
    unitScalar unitScalar unitRegistration unitClient unitServer (unitHash.sum []) (unitHash.sum [])
    registered (.inl opened) answered processed

end ElvishMail.Pake
